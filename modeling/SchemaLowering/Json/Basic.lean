import SchemaLowering.Decimal.Binary

/-!
JSON documents. Objects keep their members in order, and whole numbers differ from floating-point
ones.
-/

namespace SchemaLowering

/-- A JSON value. -/
inductive Json where
  | null
  | bool (value : Bool)
  | int (value : Int)
  | float (value : Binary)
  | str (value : String)
  | arr (items : List Json)
  | obj (members : List (String × Json))
  deriving Inhabited, Repr

namespace Json

/-- The members of an object as a table. -/
abbrev Members := List (String × Json)

/-- The value of a member, if the object has it. -/
def field? (members : Members) (key : String) : Option Json :=
  members.lookup key

/-- The value of a member, where a missing one counts as `null`. -/
def field (members : Members) (key : String) : Json :=
  (field? members key).getD .null

/-- Sets a member. A repeated key keeps its first place and takes the new value. -/
def setField (members : Members) (key : String) (value : Json) : Members :=
  match members with
  | [] => [(key, value)]
  | (k, v) :: rest => if k = key then (k, value) :: rest else (k, v) :: setField rest key value

/-- Whether a value counts as true: `null`, `false`, zero and all that is empty do not. -/
def isTrue : Json → Bool
  | .null => false
  | .bool value => value
  | .int value => value != 0
  | .float value => !value.isZero
  | .str value => !value.isEmpty
  | .arr items => !items.isEmpty
  | .obj members => !members.isEmpty

/-- The name of a value's kind, as messages give it. -/
def kindName : Json → String
  | .null => "NoneType"
  | .bool _ => "bool"
  | .int _ => "int"
  | .float _ => "float"
  | .str _ => "str"
  | .arr _ => "list"
  | .obj _ => "dict"

/-- The whole number a value stands for: truth values count as one and zero. -/
def wholeNumber? : Json → Option Int
  | .bool value => some (if value then 1 else 0)
  | .int value => some value
  | _ => none

/-- Equality of scalars by value, across the kinds of numbers. Lists and objects are never keys, so
they are not compared. -/
def sameScalar : Json → Json → Bool
  | .null, .null => true
  | .str a, .str b => a == b
  | .float a, .float b => a.same b
  | .float a, b => (b.wholeNumber?).any a.equalsInt
  | a, .float b => (a.wholeNumber?).any b.equalsInt
  | a, b =>
    match a.wholeNumber?, b.wholeNumber? with
    | some m, some n => m == n
    | _, _ => false

def isScalar : Json → Bool
  | .arr _ => false
  | .obj _ => false
  | _ => true

theorem sizeOf_lt_of_mem {members : List (String × Json)} {key : String} {value : Json}
    (member : (key, value) ∈ members) : sizeOf value < sizeOf members := by
  have smaller := List.sizeOf_lt_of_mem member
  simp only [Prod.mk.sizeOf_spec] at smaller
  omega

theorem mem_of_field? {members : Members} {key : String} {value : Json}
    (found : field? members key = some value) : (key, value) ∈ members := by
  induction members with
  | nil => simp [field?] at found
  | cons head rest ih =>
    obtain ⟨k, v⟩ := head
    simp only [field?, List.lookup_cons] at found
    split at found
    · next same =>
      simp only [Option.some.injEq] at found
      rw [beq_iff_eq] at same
      subst same found
      exact List.mem_cons_self
    · exact List.mem_cons_of_mem _ (ih found)

theorem sizeOf_field? {members : Members} {key : String} {value : Json}
    (found : field? members key = some value) : sizeOf value < sizeOf members :=
  sizeOf_lt_of_mem (mem_of_field? found)

end Json

end SchemaLowering
