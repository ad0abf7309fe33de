import SchemaLowering.TypeGraph.Node

/-!
Marks: remarks under a reserved title that change how a declaration is written. A remark
belongs to the kind whose word it starts with.
-/

namespace SchemaLowering

/-- The kinds of marks, told apart by the word that a remark starts with. -/
inductive TagKind where
  | cost
  | directive
  | schema
  | input
  | key
  | fragment
  | identifier
  deriving DecidableEq, Repr

namespace TagKind

/-- All kinds, in the order in which their words are tried. -/
def all : List TagKind :=
  [.cost, .directive, .schema, .input, .key, .fragment, .identifier]

def word : TagKind → String
  | .cost => "cost"
  | .directive => "directive"
  | .schema => "schema"
  | .input => "input"
  | .key => "key"
  | .fragment => "fragment"
  | .identifier => "ID"

/-- Whether a remark starts with the word of the kind. -/
def starts (kind : TagKind) (description : String) : Bool :=
  kind.word.toList.isPrefixOf description.toList

/-- The kind of a remark (`DirectiveKind.match`). -/
def ofDescription? (description : String) : Option TagKind :=
  all.find? (·.starts description)

/-- The kind that has exactly this word (`DirectiveKind.from_prefix`). -/
def ofWord? (word : String) : Option TagKind :=
  all.find? (·.word = word)

end TagKind

/-- A remark that was recognised. -/
structure Mark where
  kind : TagKind
  /-- The whole remark. -/
  text : String
  deriving DecidableEq, Repr

namespace Mark

/-- What follows the word and one separating character. -/
def payload (mark : Mark) : String :=
  String.ofList (mark.text.toList.drop (mark.kind.word.length + 1))

/-- The mark as it is written after a declaration, with the blank before it
(`Annotation.render`). -/
def render (mark : Mark) : String :=
  match mark.kind with
  | .cost => " @cost" ++ mark.payload
  | .directive => " @" ++ mark.payload
  | .key => " @key(fields: \"" ++ mark.payload ++ "\")"
  | _ => ""

/-- The title under which remarks are marks. -/
def defaultTitle : String := "graphql"

def ofTag? (title : String) (tag : DocTag) : Option Mark :=
  if tag.title = title then
    (TagKind.ofDescription? tag.description).map (⟨·, tag.description⟩)
  else none

/-- The marks of a documentation block, in order (`from_documentation`). -/
def ofDocumentation (documentation : Option Documentation) (title : String := defaultTitle) :
    List Mark :=
  (documentation.getD []).filterMap (ofTag? title)

/-- The first mark of a kind. -/
def first? (marks : List Mark) (kind : TagKind) : Option Mark :=
  marks.find? (·.kind = kind)

/-- The marks of a kind, in order. -/
def ofKind (marks : List Mark) (kind : TagKind) : List Mark :=
  marks.filter (·.kind = kind)

def has (marks : List Mark) (kind : TagKind) : Bool :=
  (first? marks kind).isSome

/-- Only the first cost counts. -/
def renderCost (marks : List Mark) : String :=
  ((first? marks .cost).map render).getD ""

def renderDirectives (marks : List Mark) : String :=
  String.join ((ofKind marks .directive).map render)

def renderKeys (marks : List Mark) : String :=
  String.join ((ofKind marks .key).map render)

end Mark

namespace Node

/-- The marks of a shape (`node_annotations`). One that cannot be documented has none. -/
def marks (node : Node) : List Mark :=
  Mark.ofDocumentation node.documentation

/-- The remarks that start with a word of the vocabulary (`get_doc_tags`). -/
def docTags (node : Node) (word : String) : List String :=
  match TagKind.ofWord? word with
  | none => []
  | some kind => (Mark.ofKind node.marks kind).map (·.text)

/-- The first remark that starts with a word of the vocabulary (`get_doc_tag`). -/
def docTag? (node : Node) (word : String) : Option String :=
  match TagKind.ofWord? word with
  | none => none
  | some kind => (Mark.first? node.marks kind).map (·.text)

def hasDocTag (node : Node) (word : String) : Bool :=
  (node.docTag? word).isSome

end Node

end SchemaLowering
