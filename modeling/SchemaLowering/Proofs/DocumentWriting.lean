import SchemaLowering.TypeGraph.Reader

/-!
Type graphs written as documents. Every shape becomes an object that names its form under `type` and
holds each of its fields under the field's key; a layout decides on the order of the members and on
how an absent part is written. Reading such a document gives back the graph it was written from.
-/

namespace SchemaLowering

/-- A way to write fields as the members of an object. Each field with a value stands under its key,
and one without is `null` or left out. The order is free, and there may be other members. -/
structure Layout where
  members : List (String × Option Json) → Json.Members
  written {fields : List (String × Option Json)} {key : String} {value : Json} :
    fields.lookup key = some (some value) → Json.field? (members fields) key = some value
  unwritten {fields : List (String × Option Json)} {key : String} :
    (fields.map (·.1)).Nodup → fields.lookup key = some none →
      Json.field (members fields) key = .null

/-- The fields as members in the order given, where absent ones are written as `null` or left
out. -/
def writeFields (nulls : Bool) : List (String × Option Json) → Json.Members
  | [] => []
  | (key, some value) :: rest => (key, value) :: writeFields nulls rest
  | (key, none) :: rest =>
    if nulls then (key, .null) :: writeFields nulls rest else writeFields nulls rest

section Fields

variable {nulls : Bool} {fields : List (String × Option Json)} {key : String} {value : Json}

theorem field?_writeFields_cons {name : String} (written : Option Json) (other : key ≠ name) :
    Json.field? (writeFields nulls ((name, written) :: fields)) key
      = Json.field? (writeFields nulls fields) key := by
  have unequal : (key == name) = false := beq_false_of_ne other
  cases written with
  | some first => rw [writeFields, Json.field?, List.lookup_cons, unequal, Json.field?]
  | none =>
    rw [writeFields]
    split
    · rw [Json.field?, List.lookup_cons, unequal, Json.field?]
    · rfl

theorem field?_writeFields (listed : fields.lookup key = some (some value)) :
    Json.field? (writeFields nulls fields) key = some value := by
  induction fields with
  | nil => cases listed
  | cons field rest ih =>
    obtain ⟨name, written⟩ := field
    by_cases same : key = name
    · rw [same, List.lookup_cons_self, Option.some.injEq] at listed
      rw [same, listed]
      exact List.lookup_cons_self
    · rw [List.lookup_cons, beq_false_of_ne same] at listed
      rw [field?_writeFields_cons written same]
      exact ih listed

theorem field?_writeFields_of_not_mem (missing : key ∉ fields.map (·.1)) :
    Json.field? (writeFields nulls fields) key = none := by
  induction fields with
  | nil => rfl
  | cons field rest ih =>
    rw [List.map_cons, List.mem_cons, not_or] at missing
    rw [field?_writeFields_cons field.2 missing.1]
    exact ih missing.2

theorem field_writeFields_none (distinct : (fields.map (·.1)).Nodup)
    (listed : fields.lookup key = some none) :
    Json.field (writeFields nulls fields) key = .null := by
  induction fields with
  | nil => cases listed
  | cons field rest ih =>
    obtain ⟨name, first⟩ := field
    rw [List.map_cons, List.nodup_cons] at distinct
    by_cases same : key = name
    · rw [same, List.lookup_cons_self, Option.some.injEq] at listed
      rw [same, listed, writeFields, Json.field]
      split
      · rw [Json.field?, List.lookup_cons_self, Option.getD_some]
      · rw [field?_writeFields_of_not_mem distinct.1, Option.getD_none]
    · rw [List.lookup_cons, beq_false_of_ne same] at listed
      rw [Json.field, field?_writeFields_cons first same]
      exact ih distinct.2 listed

end Fields

/-- The layout that keeps the order of the fields. -/
def Layout.inOrder (nulls : Bool) : Layout where
  members := writeFields nulls
  written := field?_writeFields
  unwritten := field_writeFields_none

/-- The object of a shape of the given kind. -/
def writeShape (layout : Layout) (kind : String) (fields : List (String × Option Json)) : Json :=
  .obj (layout.members (("type", some (.str kind)) :: fields))

def DocTag.toJson (tag : DocTag) : Json :=
  .obj [("title", .str tag.title), ("description", .str tag.description)]

def writeDocumentation (documentation : Option Documentation) : Option Json :=
  documentation.map fun tags => .obj [("tags", .arr (tags.map DocTag.toJson))]

def writeTexts (texts : List String) : Json :=
  .arr (texts.map .str)

section Writing

variable (layout : Layout)

mutual

/-- The document of a shape. -/
def Node.toJson : Node → Json
  | .primitive kind => writeShape layout kind.word []
  | .literal value => writeShape layout "string literal" [("value", some (.str value))]
  | .reference target => writeShape layout "reference" [("target", some (.str target))]
  | .array elements => writeShape layout "array" [("elements", some (.arr (writeNodes elements)))]
  | .enum values => writeShape layout "enum" [("values", some (writeTexts values))]
  | .union types => writeShape layout "union" [("types", some (.arr (writeNodes types)))]
  | .object members =>
    writeShape layout "literal object" [("members", some (.arr (writeProperties members)))]
  | .alias target documentation =>
    writeShape layout "alias"
      [("target", some target.toJson), ("documentation", writeDocumentation documentation)]
  | .interface declaration => declaration.toJson
  | .member declaration => declaration.toJson

def writeNodes : List Node → List Json
  | [] => []
  | node :: rest => node.toJson :: writeNodes rest

def writeOptional : Option Node → Option Json
  | none => none
  | some node => some node.toJson

def writeParameters : List (String × Node) → Json.Members
  | [] => []
  | (name, node) :: rest => (name, node.toJson) :: writeParameters rest

def Property.toJson : Property → Json
  | ⟨name, signature, optional, documentation⟩ =>
    writeShape layout "property"
      [("name", some (.str name)), ("signature", writeOptional signature),
        ("optional", some (.bool optional)), ("documentation", writeDocumentation documentation)]

def writeProperties : List Property → List Json
  | [] => []
  | property :: rest => property.toJson :: writeProperties rest

def Method.toJson : Method → Json
  | ⟨name, parameters, returns, optional, documentation⟩ =>
    writeShape layout "method"
      [("name", some (.str name)), ("parameters", some (.obj (writeParameters parameters))),
        ("returns", writeOptional returns), ("optional", some (.bool optional)),
        ("documentation", writeDocumentation documentation)]

def Member.toJson : Member → Json
  | .property declaration => declaration.toJson
  | .method declaration => declaration.toJson

def writeMembers : List Member → List Json
  | [] => []
  | member :: rest => member.toJson :: writeMembers rest

def Interface.toJson : Interface → Json
  | ⟨members, inherits, concrete, documentation⟩ =>
    writeShape layout "interface"
      [("members", some (.arr (writeMembers members))), ("inherits", some (writeTexts inherits)),
        ("concrete", some (.bool concrete)), ("documentation", writeDocumentation documentation)]

end

/-- The document of a graph: its symbols in order, each with its shape. -/
def Graph.toJson (graph : Graph) : Json :=
  .obj (writeParameters layout graph.entries)

end Writing

namespace Loading

section Fields

variable {layout : Layout} {fields : List (String × Option Json)} {key : String} {value : Json}

theorem field_layout {written : Option Json} (distinct : (fields.map (·.1)).Nodup)
    (listed : fields.lookup key = some written) :
    Json.field (layout.members fields) key = written.getD .null := by
  cases written with
  | some value => rw [Json.field, layout.written listed]
  | none => rw [layout.unwritten distinct listed, Option.getD_none]

theorem field_of_field? {members : Json.Members} (found : Json.field? members key = some value) :
    Json.field members key = value := by
  rw [Json.field, found, Option.getD_some]

theorem ofJson?_layout {kind : String} {form : NodeForm}
    (named : NodeForm.ofJson? (.str kind) = some form) :
    NodeForm.ofJson? (Json.field (layout.members (("type", some (.str kind)) :: fields)) "type")
      = some form := by
  rw [field_of_field? (layout.written List.lookup_cons_self), named]

end Fields

section Leaves

variable {place : Place} {members : Json.Members} {key : String}

theorem requireText_of_field? {text : String}
    (found : Json.field? members key = some (.str text)) :
    requireText place members key = .ok text := by
  rw [requireText, found]

theorem requireList_of_field? {items : List Json}
    (found : Json.field? members key = some (.arr items)) :
    requireList place members key = .ok items := by
  rw [requireList, found]

theorem optionalList_of_field? {items : List Json} {complaint : ShapeComplaint}
    (found : Json.field? members key = some (.arr items)) :
    optionalList place members key complaint = .ok items := by
  rw [optionalList, found]

theorem optionalParameters_of_field? {parameters : Json.Members}
    (found : Json.field? members "parameters" = some (.obj parameters)) :
    optionalParameters place members = .ok parameters := by
  rw [optionalParameters, found]

theorem readTags_toJson (place : Place) (position : Nat) (tags : Documentation) :
    readTags place position (tags.map DocTag.toJson) = .ok tags := by
  induction tags generalizing position with
  | nil => rfl
  | cons tag rest ih =>
    rw [List.map_cons, DocTag.toJson, readTags, ih]
    rfl

theorem readDocumentation_of_field {documentation : Option Documentation}
    (held : Json.field members "documentation" = (writeDocumentation documentation).getD .null) :
    readDocumentation place members = .ok documentation := by
  rw [readDocumentation, held]
  cases documentation with
  | none => rfl
  | some tags =>
    have found : Json.field? [("tags", Json.arr (tags.map DocTag.toJson))] "tags"
      = some (.arr (tags.map DocTag.toJson)) := rfl
    simp only [writeDocumentation, Option.map_some, Option.getD_some,
      optionalList_of_field? found, bind, Except.bind, readTags_toJson]
    rfl

theorem map_text_str (texts : List String) : (texts.map Json.str).map Json.text = texts := by
  rw [List.map_map]
  exact List.map_id texts

end Leaves

/-! ### Shapes from their fields

What a shape is read as depends on its fields only, not on where they stand. -/

section Shapes

variable {place : Place} {members : Json.Members}

theorem readNode_array {items : List Json} {elements : List Node}
    (form : NodeForm.ofJson? (Json.field members "type") = some .array)
    (list : Json.field? members "elements" = some (.arr items))
    (read : readNodes (place ++ [.key "elements"]) 0 items = .ok elements) :
    readNode place (.obj members) = .ok (.array elements) := by
  rw [readNode, form]
  simp only [requireList_of_field? list, field_of_field? list, Json.items, read, bind, Except.bind]
  rfl

theorem readNode_union {items : List Json} {types : List Node}
    (form : NodeForm.ofJson? (Json.field members "type") = some .union)
    (list : Json.field? members "types" = some (.arr items))
    (read : readNodes (place ++ [.key "types"]) 0 items = .ok types) :
    readNode place (.obj members) = .ok (.union types) := by
  rw [readNode, form]
  simp only [requireList_of_field? list, field_of_field? list, Json.items, read, bind, Except.bind]
  rfl

theorem readNode_enum {items : List Json}
    (form : NodeForm.ofJson? (Json.field members "type") = some .enum)
    (list : Json.field? members "values" = some (.arr items)) :
    readNode place (.obj members) = .ok (.enum (items.map Json.text)) := by
  rw [readNode, form]
  simp only [requireList_of_field? list, bind, Except.bind]
  rfl

theorem readNode_literal {text : String}
    (form : NodeForm.ofJson? (Json.field members "type") = some .literal)
    (found : Json.field? members "value" = some (.str text)) :
    readNode place (.obj members) = .ok (.literal text) := by
  rw [readNode, form]
  simp only [requireText_of_field? found, bind, Except.bind]
  rfl

theorem readNode_reference {target : String}
    (form : NodeForm.ofJson? (Json.field members "type") = some .reference)
    (found : Json.field? members "target" = some (.str target)) :
    readNode place (.obj members) = .ok (.reference target) := by
  rw [readNode, form]
  simp only [requireText_of_field? found, bind, Except.bind]
  rfl

theorem readNode_object {items : List Json} {properties : List Property}
    (form : NodeForm.ofJson? (Json.field members "type") = some .object)
    (list : Json.field? members "members" = some (.arr items))
    (read : readProperties (place ++ [.key "members"]) 0 items = .ok properties) :
    readNode place (.obj members) = .ok (.object properties) := by
  rw [readNode, form]
  simp only [optionalList_of_field? list, field_of_field? list, Json.items, read, bind, Except.bind]
  rfl

theorem readNode_alias {inner : Json} {target : Node} {documentation : Option Documentation}
    (form : NodeForm.ofJson? (Json.field members "type") = some .alias)
    (found : Json.field? members "target" = some inner)
    (read : readNode (place ++ [.key "target"]) inner = .ok target)
    (documented : Json.field members "documentation"
      = (writeDocumentation documentation).getD .null) :
    readNode place (.obj members) = .ok (.alias target documentation) := by
  rw [readNode, form]
  simp only [field_of_field? found, read, readDocumentation_of_field documented, bind, Except.bind]
  rfl

theorem readNode_interface {items : List Json} {inherits : List String}
    {declared : List Member} {concrete : Bool} {documentation : Option Documentation}
    (form : NodeForm.ofJson? (Json.field members "type") = some .interface)
    (list : Json.field? members "members" = some (.arr items))
    (read : readMembers (place ++ [.key "members"]) 0 items = .ok declared)
    (supertypes : Json.field? members "inherits" = some (writeTexts inherits))
    (flag : Json.field? members "concrete" = some (.bool concrete))
    (documented : Json.field members "documentation"
      = (writeDocumentation documentation).getD .null) :
    readNode place (.obj members)
      = .ok (.interface ⟨declared, inherits, concrete, documentation⟩) := by
  rw [readNode, form]
  simp only [optionalList_of_field? supertypes, optionalList_of_field? list,
    field_of_field? list, Json.items, read, field_of_field? flag, Json.isTrue,
    readDocumentation_of_field documented, map_text_str, bind, Except.bind]
  rfl

theorem readProperty_of_fields {name : String} {inner : Option Json} {signature : Option Node}
    {optional : Bool} {documentation : Option Documentation}
    (named : Json.field? members "name" = some (.str name))
    (found : Json.field members "signature" = inner.getD .null)
    (read : readOptional (place ++ [.key "signature"]) (inner.getD .null) = .ok signature)
    (flag : Json.field? members "optional" = some (.bool optional))
    (documented : Json.field members "documentation"
      = (writeDocumentation documentation).getD .null) :
    readProperty place members = .ok ⟨name, signature, optional, documentation⟩ := by
  rw [readProperty, found]
  simp only [requireText_of_field? named, read, field_of_field? flag, Json.isTrue,
    readDocumentation_of_field documented, bind, Except.bind]
  rfl

theorem readMethod_of_fields {name : String} {entries : Json.Members}
    {parameters : List (String × Node)} {inner : Option Json} {returns : Option Node}
    {optional : Bool} {documentation : Option Documentation}
    (named : Json.field? members "name" = some (.str name))
    (table : Json.field? members "parameters" = some (.obj entries))
    (each : readParameters (place ++ [.key "parameters"]) entries = .ok parameters)
    (found : Json.field members "returns" = inner.getD .null)
    (read : readOptional (place ++ [.key "returns"]) (inner.getD .null) = .ok returns)
    (flag : Json.field? members "optional" = some (.bool optional))
    (documented : Json.field members "documentation"
      = (writeDocumentation documentation).getD .null) :
    readMethod place members = .ok ⟨name, parameters, returns, optional, documentation⟩ := by
  rw [readMethod, found]
  simp only [optionalParameters_of_field? table, requireText_of_field? named,
    field_of_field? table, Json.members, each, read, field_of_field? flag, Json.isTrue,
    readDocumentation_of_field documented, bind, Except.bind]
  rfl

end Shapes

section RoundTrip

variable (layout : Layout)

-- The recursion is on the shape, and each form needs only that its fields are found by their keys.
mutual

theorem readNode_toJson (place : Place) (node : Node) :
    readNode place (node.toJson layout) = .ok node := by
  cases node with
  | primitive kind =>
    have form : NodeForm.ofJson? (.str kind.word) = some (.primitive kind) := by
      cases kind <;> rfl
    rw [Node.toJson, writeShape, readNode, ofJson?_layout form]
  | literal text =>
    rw [Node.toJson]
    exact readNode_literal (ofJson?_layout rfl) (layout.written rfl)
  | reference target =>
    rw [Node.toJson]
    exact readNode_reference (ofJson?_layout rfl) (layout.written rfl)
  | array elements =>
    rw [Node.toJson]
    exact readNode_array (ofJson?_layout rfl) (layout.written rfl)
      (readNodes_writeNodes _ 0 elements)
  | enum values =>
    have read : readNode place (Node.toJson layout (.enum values))
        = .ok (.enum ((values.map Json.str).map Json.text)) := by
      rw [Node.toJson]
      exact readNode_enum (ofJson?_layout rfl) (layout.written rfl)
    rw [read, map_text_str]
  | union types =>
    rw [Node.toJson]
    exact readNode_union (ofJson?_layout rfl) (layout.written rfl)
      (readNodes_writeNodes _ 0 types)
  | object properties =>
    rw [Node.toJson]
    exact readNode_object (ofJson?_layout rfl) (layout.written rfl)
      (readProperties_writeProperties _ 0 properties)
  | «alias» target documentation =>
    rw [Node.toJson]
    exact readNode_alias (ofJson?_layout rfl) (layout.written rfl)
      (readNode_toJson _ target) (field_layout (by simp) rfl)
  | interface declaration =>
    obtain ⟨members, inherits, concrete, documentation⟩ := declaration
    rw [Node.toJson, Interface.toJson]
    exact readNode_interface (ofJson?_layout rfl) (layout.written rfl)
      (readMembers_writeMembers _ 0 members) (layout.written rfl) (layout.written rfl)
      (field_layout (by simp) rfl)
  | member declaration =>
    cases declaration with
    | property declaration =>
      obtain ⟨members, written, form, read⟩ := readProperty_toJson place declaration
      rw [Node.toJson, Member.toJson, written, readNode, form, read]
      rfl
    | method declaration =>
      obtain ⟨members, written, form, read⟩ := readMethod_toJson place declaration
      rw [Node.toJson, Member.toJson, written, readNode, form, read]
      rfl

theorem readNodes_writeNodes (place : Place) (position : Nat) (nodes : List Node) :
    readNodes place position (writeNodes layout nodes) = .ok nodes := by
  cases nodes with
  | nil => rw [writeNodes, readNodes]
  | cons node rest =>
    rw [writeNodes, readNodes, readNode_toJson _ node,
      readNodes_writeNodes place (position + 1) rest]
    rfl

theorem readOptional_writeOptional (place : Place) (node : Option Node) :
    readOptional place ((writeOptional layout node).getD .null) = .ok node := by
  cases node with
  | none => rw [writeOptional, Option.getD_none, readOptional]
  | some node =>
    -- What reads as a shape is not `null`, so the written shape does not count as absent.
    have read := readNode_toJson place node
    have present : node.toJson layout ≠ .null := by
      intro missing
      rw [missing, readNode] at read
      · cases read
      · intro members same
        cases same
    rw [writeOptional, Option.getD_some, readOptional, read]
    · rfl
    · exact present

theorem readParameters_writeParameters (place : Place) (parameters : List (String × Node)) :
    readParameters place (writeParameters layout parameters) = .ok parameters := by
  cases parameters with
  | nil => rw [writeParameters, readParameters]
  | cons entry rest =>
    obtain ⟨name, node⟩ := entry
    rw [writeParameters, readParameters, readNode_toJson _ node,
      readParameters_writeParameters place rest]
    rfl

theorem readProperty_toJson (place : Place) (property : Property) :
    ∃ members, property.toJson layout = .obj members ∧
      NodeForm.ofJson? (Json.field members "type") = some .property ∧
      readProperty place members = .ok property := by
  obtain ⟨name, signature, optional, documentation⟩ := property
  rw [Property.toJson]
  exact ⟨_, rfl, ofJson?_layout rfl,
    readProperty_of_fields (layout.written rfl) (field_layout (by simp) rfl)
      (readOptional_writeOptional _ signature) (layout.written rfl)
      (field_layout (by simp) rfl)⟩

theorem readProperties_writeProperties (place : Place) (position : Nat)
    (properties : List Property) :
    readProperties place position (writeProperties layout properties) = .ok properties := by
  cases properties with
  | nil => rw [writeProperties, readProperties]
  | cons property rest =>
    obtain ⟨members, written, form, read⟩ :=
      readProperty_toJson (place ++ [.index position]) property
    rw [writeProperties, readProperties, written, Json.members, form]
    simp only [read, readProperties_writeProperties place (position + 1) rest, bind, Except.bind]
    rfl

theorem readMethod_toJson (place : Place) (method : Method) :
    ∃ members, method.toJson layout = .obj members ∧
      NodeForm.ofJson? (Json.field members "type") = some .method ∧
      readMethod place members = .ok method := by
  obtain ⟨name, parameters, returns, optional, documentation⟩ := method
  rw [Method.toJson]
  exact ⟨_, rfl, ofJson?_layout rfl,
    readMethod_of_fields (layout.written rfl) (layout.written rfl)
      (readParameters_writeParameters _ parameters) (field_layout (by simp) rfl)
      (readOptional_writeOptional _ returns) (layout.written rfl)
      (field_layout (by simp) rfl)⟩

theorem readMembers_writeMembers (place : Place) (position : Nat) (declared : List Member) :
    readMembers place position (writeMembers layout declared) = .ok declared := by
  cases declared with
  | nil => rw [writeMembers, readMembers]
  | cons member rest =>
    have later := readMembers_writeMembers place (position + 1) rest
    cases member with
    | property declaration =>
      obtain ⟨members, written, form, read⟩ :=
        readProperty_toJson (place ++ [.index position]) declaration
      rw [writeMembers, readMembers, Member.toJson, written, Json.members, form]
      simp only [read, later, bind, Except.bind]
      rfl
    | method declaration =>
      obtain ⟨members, written, form, read⟩ :=
        readMethod_toJson (place ++ [.index position]) declaration
      rw [writeMembers, readMembers, Member.toJson, written, Json.members, form]
      simp only [read, later, bind, Except.bind]
      rfl

end

end RoundTrip

end Loading

namespace Graph

/-- A graph is read back from its document as it was. -/
theorem ofJson_toJson (layout : Layout) (graph : Graph) :
    ofJson (graph.toJson layout) = .ok graph := by
  rw [toJson, ofJson, Loading.readEntries_eq, Loading.readParameters_writeParameters]
  rfl

def orders : Graph :=
  ⟨[("Order", .interface
      ⟨[.method ⟨"lines", [("page", .primitive .number)], none, true, some [⟨"cost", "2"⟩]⟩,
        .property ⟨"state", some (.union [.literal "open", .literal "paid"]), false, none⟩],
        ["Record"], true, none⟩),
    ("Key", .alias (.primitive .string) (some []))]⟩

theorem ofJson_toJson_orders :
    orders.toJson (.inOrder false) = .obj
      [("Order", .obj
        [("type", .str "interface"),
          ("members", .arr
            [.obj [("type", .str "method"), ("name", .str "lines"),
                ("parameters", .obj [("page", .obj [("type", .str "number")])]),
                ("optional", .bool true),
                ("documentation", .obj [("tags", .arr
                  [.obj [("title", .str "cost"), ("description", .str "2")]])])],
              .obj [("type", .str "property"), ("name", .str "state"),
                ("signature", .obj [("type", .str "union"), ("types", .arr
                  [.obj [("type", .str "string literal"), ("value", .str "open")],
                    .obj [("type", .str "string literal"), ("value", .str "paid")]])]),
                ("optional", .bool false)]]),
          ("inherits", .arr [.str "Record"]), ("concrete", .bool true)]),
        ("Key", .obj
          [("type", .str "alias"), ("target", .obj [("type", .str "string")]),
            ("documentation", .obj [("tags", .arr [])])])] ∧
    ofJson (orders.toJson (.inOrder false)) = .ok orders :=
  ⟨rfl, ofJson_toJson (.inOrder false) orders⟩

end Graph

end SchemaLowering
