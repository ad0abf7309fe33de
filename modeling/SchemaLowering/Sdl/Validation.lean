import SchemaLowering.Text.Word

/-!
Checks of a schema text before it is written: it declares something, and its braces are balanced in
number.
-/

namespace SchemaLowering

/-- Why a text is refused as a schema. -/
inductive SchemaDefect where
  | noDefinitions
  | unbalanced (opened closed : Nat)
  deriving DecidableEq, Repr

def SchemaDefect.message : SchemaDefect → String
  | .noDefinitions => "Generated schema has no type definitions"
  | .unbalanced opened closed =>
    "Generated schema has unbalanced braces: " ++ toString opened ++ " open, " ++ toString closed
      ++ " close"

namespace Validation

/-- The words that begin a definition. -/
def definitionWords : List String :=
  ["scalar", "enum", "type", "interface", "union", "input", "extend", "schema", "fragment"]

/-- Whether a line begins with a word and the word ends there. -/
def beginsWith (word line : List Char) : Bool :=
  word.isPrefixOf line && !((line.drop word.length).head?.any Text.isWord)

/-- Whether a definition begins here. -/
def beginsDefinition (line : List Char) : Bool :=
  definitionWords.any fun word => beginsWith word.toList line

/-- Whether a definition begins at the start of some line. `atStart` tells whether the text starts a
line. -/
def hasDefinition (atStart : Bool) : List Char → Bool
  | [] => atStart && beginsDefinition []
  | c :: rest => (atStart && beginsDefinition (c :: rest)) || hasDefinition (c = '\n') rest

/-- Accepts a schema text, or says what is wrong with it (`_default_validate_schema`). -/
def check (text : String) : Except SchemaDefect Unit :=
  let opened := text.toList.count '\x7b'
  let closed := text.toList.count '\x7d'
  if !hasDefinition true text.toList then .error .noDefinitions
  else if opened ≠ closed then .error (.unbalanced opened closed)
  else .ok ()

end Validation

end SchemaLowering
