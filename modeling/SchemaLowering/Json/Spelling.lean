import SchemaLowering.Json.Basic
import SchemaLowering.Decimal.Shortest
import SchemaLowering.Text.Quoted

/-!
JSON values written out inside other texts. A text stands for itself; inside a list or an object it
is quoted.
-/

namespace SchemaLowering.Json

mutual

/-- A value as part of a list or an object. -/
def spelled : Json → String
  | .null => "None"
  | .bool value => if value then "True" else "False"
  | .int value => toString value
  | .float value => value.text
  | .str value => Text.quoted value
  | .arr items => "[" ++ ", ".intercalate (spelledItems items) ++ "]"
  | .obj members => "\x7b" ++ ", ".intercalate (spelledMembers members) ++ "\x7d"

def spelledItems : List Json → List String
  | [] => []
  | item :: rest => spelled item :: spelledItems rest

def spelledMembers : List (String × Json) → List String
  | [] => []
  | (key, value) :: rest => (Text.quoted key ++ ": " ++ spelled value) :: spelledMembers rest

end

/-- A value as a text of its own. -/
def text : Json → String
  | .str value => value
  | value => value.spelled

/-- A list of texts as messages show it. -/
def spelledTexts (texts : List String) : String :=
  "[" ++ ", ".intercalate (texts.map Text.quoted) ++ "]"

end SchemaLowering.Json
