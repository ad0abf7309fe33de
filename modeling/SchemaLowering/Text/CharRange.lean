/-!
Character properties given as tables of code-point ranges.
-/

namespace SchemaLowering

/-- A run of code points, both ends included. -/
structure CharRange where
  first : Nat
  last : Nat
  deriving DecidableEq, Repr

namespace CharRange

def contains (range : CharRange) (c : Char) : Bool :=
  range.first ≤ c.toNat && c.toNat ≤ range.last

/-- Whether some range of a table holds the character. -/
def anyContains (table : List CharRange) (c : Char) : Bool :=
  table.any (·.contains c)

end CharRange

end SchemaLowering
