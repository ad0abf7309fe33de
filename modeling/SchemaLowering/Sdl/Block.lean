/-!
Blocks of schema text: one-line declarations, and headers with an indented body in braces.
-/

namespace SchemaLowering

/-- The inputs that are derived from a type, by the ending of their names. -/
inductive InputRole where
  | create
  | createMany
  | createOne
  | update
  | updateMany
  | updateManyMutation
  | updateOne
  | filter
  | unique
  | order
  | batch
  deriving DecidableEq, Repr

def InputRole.ending : InputRole → String
  | .create => "CreateInput"
  | .createMany => "CreateManyInput"
  | .createOne => "CreateOneInput"
  | .update => "UpdateInput"
  | .updateMany => "UpdateManyInput"
  | .updateManyMutation => "UpdateManyMutationInput"
  | .updateOne => "UpdateOneInput"
  | .filter => "WhereInput"
  | .unique => "WhereUniqueInput"
  | .order => "OrderByInput"
  | .batch => "BatchPayload"

/-- The type of a field. -/
inductive FieldType where
  /-- An expression as it is. -/
  | plain (expression : String)
  /-- A list of an expression without gaps. -/
  | listOf (expression : String)
  /-- An input derived from a type. -/
  | derived (element : String) (role : InputRole)
  /-- A list of an input derived from a type, without gaps. -/
  | derivedList (element : String) (role : InputRole)
  deriving DecidableEq, Repr

def FieldType.text : FieldType → String
  | .plain expression => expression
  | .listOf expression => "[" ++ expression ++ "!]"
  | .derived element role => element ++ role.ending
  | .derivedList element role => "[" ++ element ++ role.ending ++ "!]"

/-- A line that declares a field. -/
structure Field where
  name : String
  /-- The text between the parentheses, if there are any. -/
  arguments : Option String := none
  type : FieldType
  required : Bool := false
  /-- What follows the type. -/
  decoration : String := ""
  deriving DecidableEq, Repr

def Field.text (field : Field) : String :=
  let arguments := match field.arguments with
    | none => ""
    | some arguments => "(" ++ arguments ++ ")"
  field.name ++ arguments ++ ": " ++ field.type.text ++ (if field.required then "!" else "")
    ++ field.decoration

/-- A line of a body. -/
inductive Line where
  | field (declared : Field)
  /-- A bare word: a value of an enum, or the name of a selected field. -/
  | word (text : String)
  deriving DecidableEq, Repr

def Line.text : Line → String
  | .field declared => declared.text
  | .word text => text

/-- The keywords of declarations with a body. -/
inductive Keyword where
  | type
  | input
  | interface
  | enum
  deriving DecidableEq, Repr

def Keyword.text : Keyword → String
  | .type => "type"
  | .input => "input"
  | .interface => "interface"
  | .enum => "enum"

/-- The root types that are extended. -/
inductive RootType where
  | query
  | mutation
  deriving DecidableEq, Repr

def RootType.text : RootType → String
  | .query => "Query"
  | .mutation => "Mutation"

/-- What stands before the braces of a block. -/
inductive Header where
  | schema
  | declaration (keyword : Keyword) (name : String) (decoration : String)
  | extension (root : RootType)
  | fragment (text : String)
  deriving DecidableEq, Repr

def Header.text : Header → String
  | .schema => "schema"
  | .declaration keyword name decoration => keyword.text ++ " " ++ name ++ decoration
  | .extension root => "extend type " ++ root.text
  | .fragment text => text

/-- A piece of schema text between blank lines. -/
inductive Block where
  | scalar (name : String)
  | union (name : String) (members : List String)
  | braced (header : Header) (body : List Line)
  deriving DecidableEq, Repr

/-- A header with an indented body in braces. -/
def framed (header : String) (lines : List String) : String :=
  header ++ " \x7b\n" ++ String.join (lines.map fun line => "  " ++ line ++ "\n") ++ "\x7d"

namespace Block

def render : Block → String
  | .scalar name => "scalar " ++ name
  | .union name members => "union " ++ name ++ " = " ++ " | ".intercalate members
  | .braced header body => framed header.text (body.map Line.text)

/-- A declaration with a body and nothing after its name. -/
def declare (keyword : Keyword) (name : String) (body : List Line) : Block :=
  .braced (.declaration keyword name "") body

/-- Blocks with a blank line between them. -/
def renderAll (blocks : List Block) : String :=
  "\n\n".intercalate (blocks.map render)

end Block

end SchemaLowering
