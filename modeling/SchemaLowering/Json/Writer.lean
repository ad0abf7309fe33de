import SchemaLowering.Json.Basic
import SchemaLowering.Decimal.Shortest
import SchemaLowering.Text.Quoted

/-!
JSON documents as text, on one line and without blanks.
-/

namespace SchemaLowering.Json

/-- One character of a string. Quotes, backslashes and controls are escaped. -/
def writtenChar (c : Char) : List Char :=
  if c = '"' then ['\\', '"']
  else if c = '\\' then ['\\', '\\']
  else if c = '\n' then ['\\', 'n']
  else if c.toNat < 0x20 ∨ c.toNat = 0x7F then '\\' :: 'u' :: Text.hex 4 c.toNat
  else [c]

def writtenText (value : String) : String :=
  String.ofList ('"' :: value.toList.flatMap writtenChar ++ ['"'])

/-- Numbers beyond the range of the format have names of their own. -/
def writtenFloat : Binary → String
  | .nan => "NaN"
  | .infinite negative => if negative then "-Infinity" else "Infinity"
  | value => value.text

mutual

/-- The document of a value. -/
def written : Json → String
  | .null => "null"
  | .bool value => if value then "true" else "false"
  | .int value => toString value
  | .float value => writtenFloat value
  | .str value => writtenText value
  | .arr items => "[" ++ ",".intercalate (writtenItems items) ++ "]"
  | .obj members => "\x7b" ++ ",".intercalate (writtenMembers members) ++ "\x7d"

def writtenItems : List Json → List String
  | [] => []
  | item :: rest => written item :: writtenItems rest

def writtenMembers : List (String × Json) → List String
  | [] => []
  | (key, value) :: rest => (writtenText key ++ ":" ++ written value) :: writtenMembers rest

end

end SchemaLowering.Json
