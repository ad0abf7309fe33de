import SchemaLowering.Json.Spelling
import SchemaLowering.Json.Reader

/-!
Why a document is refused as a type graph, and where.
-/

namespace SchemaLowering

/-- One step into a document. -/
inductive PlaceStep where
  | key (name : String)
  | index (position : Nat)
  deriving DecidableEq, Repr

def PlaceStep.text : PlaceStep → String
  | .key name => name
  | .index position => toString position

/-- The steps from a whole document to one of its parts. -/
abbrev Place := List PlaceStep

/-- A place as messages give it, from `#` for the whole document on. -/
def placeText (place : Place) : String :=
  "#" ++ String.join (place.map fun step => "/" ++ step.text)

/-- What a required field has to be. -/
inductive FieldKind where
  | text
  | list
  deriving DecidableEq, Repr

def FieldKind.word : FieldKind → String
  | .text => "str"
  | .list => "list"

/-- What is wrong with one part of a document. -/
inductive ShapeComplaint where
  | notNode (found : Json)
  | unknownType (found : Json)
  | unexpectedMember (found : Json)
  | missing (field : String)
  | wrongField (field : String) (expected : FieldKind)
  | inheritsNotList
  | membersNotList
  | parametersNotObject
  | documentationNotObject
  | tagsNotList
  | notTag (found : Json)

def ShapeComplaint.message : ShapeComplaint → String
  | .notNode found => "Expected a node object, got " ++ found.kindName
  | .unknownType found => "Unknown node type: " ++ found.spelled
  | .unexpectedMember found => "Unexpected member type: " ++ found.spelled
  | .missing field => "Missing required field '" ++ field ++ "'"
  | .wrongField field expected => "Field '" ++ field ++ "' must be a " ++ expected.word
  | .inheritsNotList => "'inherits' must be a list of symbol names"
  | .membersNotList => "'members' must be a list of member nodes"
  | .parametersNotObject => "'parameters' must map parameter names to nodes"
  | .documentationNotObject => "'documentation' must be an object"
  | .tagsNotList => "'tags' must be a list of tag objects"
  | .notTag found => "Expected a tag object, got " ++ found.kindName

/-- Why no type graph is loaded. -/
inductive LoadError where
  /-- The document is no object. -/
  | notSymbols (found : Json)
  /-- A part of the document breaks its rule. -/
  | shape (place : Place) (complaint : ShapeComplaint)
  /-- A file holds no document at all. -/
  | malformed (file : String) (error : Json.SyntaxError)

def LoadError.message : LoadError → String
  | .notSymbols found => "Expected an object of symbols, got " ++ found.kindName
  | .shape place complaint => placeText place ++ ": " ++ complaint.message
  | .malformed file error => file ++ ": Invalid JSON: " ++ error.message

end SchemaLowering
