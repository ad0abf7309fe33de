import SchemaLowering.TypeGraph.Node
import SchemaLowering.TypeGraph.LoadError

/-!
Type graphs from JSON documents. Every shape is an object whose `type` says which it is; a part that
breaks its rule is reported with its place, the first one in reading order.
-/

namespace SchemaLowering

/-- The forms of a shape that a document distinguishes by `type`. -/
inductive NodeForm where
  | primitive (kind : Primitive)
  | literal
  | reference
  | array
  | enum
  | union
  | alias
  | object
  | interface
  | property
  | method
  deriving DecidableEq, Repr

/-- The form that a `type` names. -/
def NodeForm.ofJson? : Json → Option NodeForm
  | .str "string" => some (.primitive .string)
  | .str "number" => some (.primitive .number)
  | .str "boolean" => some (.primitive .boolean)
  | .str "any" => some (.primitive .any)
  | .str "string literal" => some .literal
  | .str "reference" => some .reference
  | .str "array" => some .array
  | .str "enum" => some .enum
  | .str "union" => some .union
  | .str "alias" => some .alias
  | .str "literal object" => some .object
  | .str "interface" => some .interface
  | .str "property" => some .property
  | .str "method" => some .method
  | _ => none

namespace Json

/-- The items of a list, and none of anything else. -/
def items : Json → List Json
  | .arr items => items
  | _ => []

/-- The members of an object, and none of anything else. -/
def members : Json → Members
  | .obj members => members
  | _ => []

theorem sizeOf_items_lt (value : Json) : sizeOf value.items < sizeOf value + 1 := by
  cases value <;>
    simp only [items, List.nil.sizeOf_spec, Json.null.sizeOf_spec, Json.bool.sizeOf_spec,
      Json.int.sizeOf_spec, Json.float.sizeOf_spec, Json.str.sizeOf_spec, Json.arr.sizeOf_spec,
      Json.obj.sizeOf_spec] <;>
    omega

theorem sizeOf_members_lt (value : Json) : sizeOf value.members < sizeOf value + 1 := by
  cases value <;>
    simp only [members, List.nil.sizeOf_spec, Json.null.sizeOf_spec, Json.bool.sizeOf_spec,
      Json.int.sizeOf_spec, Json.float.sizeOf_spec, Json.str.sizeOf_spec, Json.arr.sizeOf_spec,
      Json.obj.sizeOf_spec] <;>
    omega

theorem sizeOf_field_lt (members : Members) (key : String) :
    sizeOf (field members key) < sizeOf (Json.obj members) := by
  unfold field
  cases found : field? members key with
  | none =>
    have positive : 0 < sizeOf members := by
      cases members with
      | nil => exact Nat.zero_lt_one
      | cons head rest => rw [List.cons.sizeOf_spec]; omega
    simp only [Option.getD_none, Json.null.sizeOf_spec, Json.obj.sizeOf_spec]
    omega
  | some value =>
    have smaller := sizeOf_field? found
    simp only [Option.getD_some, Json.obj.sizeOf_spec]
    omega

theorem sizeOf_fieldItems_lt (members : Members) (key : String) :
    sizeOf (field members key).items < sizeOf (Json.obj members) := by
  have item := sizeOf_items_lt (field members key)
  have whole := sizeOf_field_lt members key
  omega

theorem sizeOf_fieldMembers_lt (members : Members) (key : String) :
    sizeOf (field members key).members < sizeOf (Json.obj members) := by
  have member := sizeOf_members_lt (field members key)
  have whole := sizeOf_field_lt members key
  omega

theorem sizeOf_asObject_lt (value : Json) (rest : List Json) :
    sizeOf (Json.obj value.members) < sizeOf (value :: rest) := by
  have tail : 0 < sizeOf rest := by
    cases rest with
    | nil => exact Nat.zero_lt_one
    | cons head rest => rw [List.cons.sizeOf_spec]; omega
  have inner := sizeOf_members_lt value
  cases value <;>
    simp only [members, List.nil.sizeOf_spec, List.cons.sizeOf_spec, Json.null.sizeOf_spec,
      Json.bool.sizeOf_spec, Json.int.sizeOf_spec, Json.float.sizeOf_spec, Json.str.sizeOf_spec,
      Json.arr.sizeOf_spec, Json.obj.sizeOf_spec] at inner ⊢ <;>
    omega

theorem sizeOf_tail_lt (value : Json) (rest : List Json) :
    sizeOf rest < sizeOf (value :: rest) := by
  rw [List.cons.sizeOf_spec]
  omega

end Json

namespace Loading

/-- A field that has to be there and to be a text (`_require`). -/
def requireText (place : Place) (members : Json.Members) (field : String) :
    Except LoadError String :=
  match Json.field? members field with
  | none => .error (.shape place (.missing field))
  | some (.str text) => .ok text
  | some _ => .error (.shape place (.wrongField field .text))

/-- A field that has to be there and to be a list (`_require`). -/
def requireList (place : Place) (members : Json.Members) (field : String) :
    Except LoadError (List Json) :=
  match Json.field? members field with
  | none => .error (.shape place (.missing field))
  | some (.arr items) => .ok items
  | some _ => .error (.shape place (.wrongField field .list))

/-- A field that may be missing, and otherwise has to be a list. -/
def optionalList (place : Place) (members : Json.Members) (field : String)
    (complaint : ShapeComplaint) : Except LoadError (List Json) :=
  match Json.field? members field with
  | none => .ok []
  | some (.arr items) => .ok items
  | some _ => .error (.shape place complaint)

/-- The parameters of a method may be missing, and otherwise have to be an object. -/
def optionalParameters (place : Place) (members : Json.Members) :
    Except LoadError Json.Members :=
  match Json.field? members "parameters" with
  | none => .ok []
  | some (.obj parameters) => .ok parameters
  | some _ => .error (.shape place .parametersNotObject)

/-- The text of a field, empty when it is missing. -/
def fieldText (members : Json.Members) (field : String) : String :=
  ((Json.field? members field).map Json.text).getD ""

/-- The tags of a documentation block from a position on. -/
def readTags (place : Place) (position : Nat) : List Json → Except LoadError Documentation
  | [] => .ok []
  | .obj members :: rest => do
    let tags ← readTags place (position + 1) rest
    return ⟨fieldText members "title", fieldText members "description"⟩ :: tags
  | found :: _ => .error (.shape (place ++ [.index position]) (.notTag found))

/-- The documentation of a declaration (`_parse_documentation`). A missing one and `null` are no
documentation. -/
def readDocumentation (place : Place) (members : Json.Members) :
    Except LoadError (Option Documentation) :=
  match Json.field members "documentation" with
  | .null => .ok none
  | .obj documentation => do
    let inner := place ++ [.key "documentation"]
    let items ← optionalList inner documentation "tags" .tagsNotList
    let tags ← readTags (inner ++ [.key "tags"]) 0 items
    return some tags
  | _ => .error (.shape place .documentationNotObject)

mutual

/-- The shape that a value describes (`_parse_node`). -/
def readNode (place : Place) (value : Json) : Except LoadError Node :=
  match value with
  | .obj members =>
    match NodeForm.ofJson? (Json.field members "type") with
    | none => .error (.shape place (.unknownType (Json.field members "type")))
    | some (.primitive kind) => .ok (.primitive kind)
    | some .literal => do
      let text ← requireText place members "value"
      return .literal text
    | some .reference => do
      let target ← requireText place members "target"
      return .reference target
    | some .array => do
      let _ ← requireList place members "elements"
      let elements ←
        readNodes (place ++ [.key "elements"]) 0 (Json.field members "elements").items
      return .array elements
    | some .enum => do
      let values ← requireList place members "values"
      return .enum (values.map Json.text)
    | some .union => do
      let _ ← requireList place members "types"
      let types ← readNodes (place ++ [.key "types"]) 0 (Json.field members "types").items
      return .union types
    | some .alias => do
      let target ← readNode (place ++ [.key "target"]) (Json.field members "target")
      let documentation ← readDocumentation place members
      return .alias target documentation
    | some .object => do
      let _ ← optionalList place members "members" .membersNotList
      let properties ←
        readProperties (place ++ [.key "members"]) 0 (Json.field members "members").items
      return .object properties
    | some .interface => do
      let inherits ← optionalList place members "inherits" .inheritsNotList
      let _ ← optionalList place members "members" .membersNotList
      let declared ← readMembers (place ++ [.key "members"]) 0 (Json.field members "members").items
      let documentation ← readDocumentation place members
      return .interface
        { members := declared
          inherits := inherits.map Json.text
          concrete := (Json.field members "concrete").isTrue
          documentation }
    | some .property => do
      let declaration ← readProperty place members
      return .member (.property declaration)
    | some .method => do
      let declaration ← readMethod place members
      return .member (.method declaration)
  | found => .error (.shape place (.notNode found))
termination_by (sizeOf value, 1)
decreasing_by
  · exact Prod.Lex.left _ _ (Json.sizeOf_fieldItems_lt _ _)
  · exact Prod.Lex.left _ _ (Json.sizeOf_fieldItems_lt _ _)
  · exact Prod.Lex.left _ _ (Json.sizeOf_field_lt _ _)
  · exact Prod.Lex.left _ _ (Json.sizeOf_fieldItems_lt _ _)
  · exact Prod.Lex.left _ _ (Json.sizeOf_fieldItems_lt _ _)
  · exact Prod.Lex.right _ Nat.zero_lt_one
  · exact Prod.Lex.right _ Nat.zero_lt_one

/-- The shapes of a list from a position on. -/
def readNodes (place : Place) (position : Nat) (values : List Json) :
    Except LoadError (List Node) :=
  match values with
  | [] => .ok []
  | value :: rest => do
    let node ← readNode (place ++ [.index position]) value
    let nodes ← readNodes place (position + 1) rest
    return node :: nodes
termination_by (sizeOf values, 0)

/-- A shape that may be missing. -/
def readOptional (place : Place) (value : Json) : Except LoadError (Option Node) :=
  match value with
  | .null => .ok none
  | value => do
    let node ← readNode place value
    return some node
termination_by (sizeOf value, 2)

/-- The parameters of a method. -/
def readParameters (place : Place) (parameters : List (String × Json)) :
    Except LoadError (List (String × Node)) :=
  match parameters with
  | [] => .ok []
  | (name, value) :: rest => do
    let node ← readNode (place ++ [.key name]) value
    let nodes ← readParameters place rest
    return (name, node) :: nodes
termination_by (sizeOf parameters, 0)

/-- A property (`_parse_property`). -/
def readProperty (place : Place) (members : Json.Members) : Except LoadError Property := do
  let name ← requireText place members "name"
  let signature ← readOptional (place ++ [.key "signature"]) (Json.field members "signature")
  let documentation ← readDocumentation place members
  return { name, signature, optional := (Json.field members "optional").isTrue, documentation }
termination_by (sizeOf (Json.obj members), 0)
decreasing_by
  exact Prod.Lex.left _ _ (Json.sizeOf_field_lt _ _)

/-- A method (`_parse_method`). -/
def readMethod (place : Place) (members : Json.Members) : Except LoadError Method := do
  let _ ← optionalParameters place members
  let name ← requireText place members "name"
  let parameters ←
    readParameters (place ++ [.key "parameters"]) (Json.field members "parameters").members
  let returns ← readOptional (place ++ [.key "returns"]) (Json.field members "returns")
  let documentation ← readDocumentation place members
  let optional := (Json.field members "optional").isTrue
  return { name, parameters, returns, optional, documentation }
termination_by (sizeOf (Json.obj members), 0)
decreasing_by
  · exact Prod.Lex.left _ _ (Json.sizeOf_fieldMembers_lt _ _)
  · exact Prod.Lex.left _ _ (Json.sizeOf_field_lt _ _)

/-- The members of an object shape from a position on (`_parse_members`). Only properties may stand
there. -/
def readProperties (place : Place) (position : Nat) (values : List Json) :
    Except LoadError (List Property) :=
  match values with
  | [] => .ok []
  | value :: rest => do
    let inner := place ++ [.index position]
    match NodeForm.ofJson? (Json.field value.members "type") with
    | some .property =>
      let property ← readProperty inner value.members
      let properties ← readProperties place (position + 1) rest
      return property :: properties
    | _ => .error (.shape inner (.unexpectedMember (Json.field value.members "type")))
termination_by (sizeOf values, 0)
decreasing_by
  · exact Prod.Lex.left _ _ (Json.sizeOf_asObject_lt _ _)
  · exact Prod.Lex.left _ _ (Json.sizeOf_tail_lt _ _)

/-- The members of an interface from a position on (`_parse_members`). -/
def readMembers (place : Place) (position : Nat) (values : List Json) :
    Except LoadError (List Member) :=
  match values with
  | [] => .ok []
  | value :: rest => do
    let inner := place ++ [.index position]
    match NodeForm.ofJson? (Json.field value.members "type") with
    | some .property =>
      let property ← readProperty inner value.members
      let members ← readMembers place (position + 1) rest
      return .property property :: members
    | some .method =>
      let method ← readMethod inner value.members
      let members ← readMembers place (position + 1) rest
      return .method method :: members
    | _ => .error (.shape inner (.unexpectedMember (Json.field value.members "type")))
termination_by (sizeOf values, 0)
decreasing_by
  · exact Prod.Lex.left _ _ (Json.sizeOf_asObject_lt _ _)
  · exact Prod.Lex.left _ _ (Json.sizeOf_tail_lt _ _)
  · exact Prod.Lex.left _ _ (Json.sizeOf_asObject_lt _ _)
  · exact Prod.Lex.left _ _ (Json.sizeOf_tail_lt _ _)

end

/-- The shapes of a document's symbols. -/
def readEntries : List (String × Json) → Except LoadError (List (String × Node))
  | [] => .ok []
  | (symbol, value) :: rest => do
    let node ← readNode [.key symbol] value
    let entries ← readEntries rest
    return (symbol, node) :: entries

theorem readEntries_eq (entries : List (String × Json)) :
    readEntries entries = readParameters [] entries := by
  induction entries with
  | nil => rw [readEntries, readParameters]
  | cons entry rest ih =>
    rw [readEntries, readParameters, ih]
    rfl

end Loading

/-- The type graph that a document describes (`TypeGraphLoader.load`). The recursion here is as deep
as the document; on a machine with a bounded stack a document of a few hundred levels can be too
deep to be read. -/
def Graph.ofJson : Json → Except LoadError Graph
  | .obj members => do
    let entries ← Loading.readEntries members
    return ⟨entries⟩
  | found => .error (.notSymbols found)

end SchemaLowering
