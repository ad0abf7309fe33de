import SchemaLowering.Text.Unprintable

/-!
Quoted texts, as messages and written-out values show them.
-/

namespace SchemaLowering.Text

/-- A number in base sixteen, with leading zeros up to a width. -/
def hex (width : Nat) (n : Nat) : List Char :=
  let digits := Nat.toDigits 16 n
  List.replicate (width - digits.length) '0' ++ digits

/-- A character by its code, in the shortest of three widths. -/
def codeEscape (c : Char) : List Char :=
  if c.toNat < 0x100 then '\\' :: 'x' :: hex 2 c.toNat
  else if c.toNat < 0x10000 then '\\' :: 'u' :: hex 4 c.toNat
  else '\\' :: 'U' :: hex 8 c.toNat

/-- One character between quotation marks `quote`. -/
def escapeChar (quote c : Char) : List Char :=
  if c = quote ∨ c = '\\' then ['\\', c]
  else if c = '\n' then ['\\', 'n']
  else if c = '\r' then ['\\', 'r']
  else if c = '\t' then ['\\', 't']
  else if isUnprintable c then codeEscape c
  else [c]

/-- Single marks, unless the text holds single marks and no double ones. -/
def quoteMark (cs : List Char) : Char :=
  if '\'' ∈ cs ∧ '"' ∉ cs then '"' else '\''

/-- The text between quotation marks, its marks, backslashes and unprintable characters escaped. -/
def quoted (text : String) : String :=
  let mark := quoteMark text.toList
  String.ofList (mark :: text.toList.flatMap (escapeChar mark) ++ [mark])

end SchemaLowering.Text
