import SchemaLowering.Proofs.DerivedClauses
import SchemaLowering.Proofs.WrittenNames

/-!
What derived declarations name. The derived inputs of a type name derived inputs of the same type
and of the types that its fields relate to, and what the types of its fields are written with; and
there is a derived declaration for every role of a type.
-/

namespace SchemaLowering

/-- The type names that a field is written with: those of its arguments and of its type. -/
def Field.typeNames (field : Field) : List String :=
  Text.typeNames (field.arguments.getD "") ++ Text.typeNames field.type.text

def Line.typeNames : Line → List String
  | .field declared => declared.typeNames
  | .word _ => []

namespace Block

/-- The type names that a block is written with, apart from the one that it declares. -/
def typeNames : Block → List String
  | .scalar _ => []
  | .union _ members => members
  | .braced _ body => body.flatMap Line.typeNames

/-- The name that a block declares. -/
def declaredName? : Block → Option String
  | .scalar name | .union name _ | .braced (.declaration _ name _) _ => some name
  | _ => none

end Block

namespace Crud

variable {ctx : Context} {tables : Tables} {name element : String} {clause : Field}

/-- The name of the type that a shape relates to. -/
def FieldShape.element? : FieldShape → Option String
  | .many element _ | .one element => some element
  | _ => none

/-- The types that the clauses of a field have by its shape: its own expression, a list of it, or an
input derived from the type that it relates to. -/
inductive FieldShape.Types (shape : FieldShape) : FieldType → Prop where
  | expression : shape.Types (.plain shape.expression)
  | listed : shape.Types (.listOf shape.expression)
  | related {element : String} {role : InputRole} (ofShape : shape.element? = some element) :
      shape.Types (.derived element role)

/-- A clause that a field of a shape can have. -/
structure FieldShape.Suits (shape : FieldShape) (clause : Field) : Prop where
  arguments : clause.arguments = none
  type : shape.Types clause.type

variable {shape : FieldShape}

theorem suits_createClause (name : String) (optional : Bool) (shape : FieldShape) :
    shape.Suits (FieldShape.createClause name optional shape) := by
  cases shape with
  | many | one => exact ⟨rfl, .related rfl⟩
  | _ => exact ⟨rfl, .expression⟩

theorem suits_updateClause (given : FieldShape.updateClause? name shape = some clause) :
    shape.Suits clause := by
  cases shape with
  | identifier => cases given
  | many | one =>
    cases given
    exact ⟨rfl, .related rfl⟩
  | _ =>
    cases given
    exact ⟨rfl, .expression⟩

theorem suits_updateManyClause (given : FieldShape.updateManyClause? name shape = some clause) :
    shape.Suits clause := by
  cases shape with
  | identifier | many | list | one => cases given
  | _ =>
    cases given
    exact ⟨rfl, .expression⟩

/-- Filters by value compare with a value or with a list of them. -/
theorem suits_valueFilters {comparisons : Comparisons}
    (member : clause ∈ valueFilters name shape.expression comparisons) : shape.Suits clause := by
  rcases List.mem_append.mp member with member | substring
  · rcases List.mem_append.mp member with member | ordering
    · simp only [List.mem_cons, List.not_mem_nil, or_false] at member
      rcases member with rfl | rfl | rfl | rfl
      · exact ⟨rfl, .expression⟩
      · exact ⟨rfl, .expression⟩
      · exact ⟨rfl, .listed⟩
      · exact ⟨rfl, .listed⟩
    · obtain ⟨ending, _, rfl⟩ := List.mem_map.mp ordering
      exact ⟨rfl, .expression⟩
  · obtain ⟨ending, _, rfl⟩ := List.mem_map.mp substring
    exact ⟨rfl, .expression⟩

theorem suits_otherFilters (member : clause ∈ FieldShape.otherFilters name shape) :
    shape.Suits clause := by
  cases shape with
  | many =>
    obtain ⟨ending, _, rfl⟩ := List.mem_map.mp member
    exact ⟨rfl, .related rfl⟩
  | one =>
    cases List.mem_singleton.mp member
    exact ⟨rfl, .related rfl⟩
  | enumeration | scalar => exact suits_valueFilters member
  | _ => cases member

theorem suits_filterClauses {options : Options} {clauses : List Field}
    (found : FieldShape.filterClauses options name shape = .ok clauses)
    (member : clause ∈ clauses) : shape.Suits clause := by
  unfold FieldShape.filterClauses at found
  split at found
  · cases found
    exact suits_valueFilters member
  · cases found
    exact suits_valueFilters member
  · cases found
    exact suits_valueFilters member
  · cases found
    exact suits_valueFilters member
  · obtain ⟨isDate, _, found⟩ := Traversal.bind_eq_ok.mp found
    cases isDate with
    | false =>
      cases found
      exact suits_otherFilters member
    | true =>
      cases found
      exact suits_valueFilters member

/-- A type relates to the type that its reference names, if it is a list that begins with one or a
single one that is written neither as an identifier nor as an enum or a scalar. -/
theorem FieldShape.target_of_element? {type : Node}
    (found : FieldShape.ofNode ctx tables type = .ok shape)
    (related : shape.element? = some element) :
    ∃ target, element = ctx.name target ∧
      ((∃ rest, type.unaliased = .array (.reference target :: rest)) ∨
        type.unaliased = .reference target ∧ ctx.name target ≠ identifierScalar ∧
          tables.isEnum (ctx.name target) = false ∧ tables.isScalar (ctx.name target) = false) := by
  obtain ⟨expression, lowered, sorted⟩ := FieldShape.sorts_of_ofNode found
  generalize type.unaliased = node at lowered sorted
  cases sorted with
  | many =>
    cases related
    exact ⟨_, rfl, .inl ⟨_, rfl⟩⟩
  | @one target notIdentifier notEnum notScalar =>
    cases related
    have named : ctx.name target = element := Except.ok.inj lowered
    subst named
    exact ⟨_, rfl, .inr ⟨rfl, notIdentifier, notEnum, notScalar⟩⟩
  | _ => cases related

/-! The names in the derived declarations of a type. -/

/-- The scalars that no block has to declare. -/
def knownScalars : List String :=
  ["String", "Float", "Boolean", identifierScalar, "Int", "Long"]

/-- Where the type names of the derived declarations of a type come from: they are scalars, its own
name or derived from it, or they are in the type of a field or derived from the type that the field
relates to. -/
inductive NameSource (ctx : Context) (tables : Tables) (fields : List TypeField) (own : String) :
    String → Prop where
  | known {name : String} (isKnown : name ∈ knownScalars) : NameSource ctx tables fields own name
  | own : NameSource ctx tables fields own own
  | derived (role : InputRole) : NameSource ctx tables fields own (derivedName own role)
  | expression {name : String} {field : TypeField} {shape : FieldShape} (isField : field ∈ fields)
      (shaped : field.HasShape ctx tables shape)
      (written : name ∈ Text.typeNames shape.expression) : NameSource ctx tables fields own name
  | related {element : String} {field : TypeField} {shape : FieldShape} (isField : field ∈ fields)
      (shaped : field.HasShape ctx tables shape) (ofShape : shape.element? = some element)
      (role : InputRole) : NameSource ctx tables fields own (derivedName element role)

variable {fields : List TypeField} {own : String}

theorem isNameChar_of_mem_derivedName {element : String} {role : InputRole}
    (named : ∀ c ∈ element.toList, Text.isNameChar c = true) :
    ∀ c ∈ (derivedName element role).toList, Text.isNameChar c = true := by
  have ending : ∀ c ∈ role.ending.toList, Text.isNameChar c = true := by
    cases role with
    | _ => exact List.all_eq_true.mp (by decide)
  intro c member
  rw [derivedName, String.toList_append, List.mem_append] at member
  exact member.elim (named c) (ending c)

theorem eq_of_mem_derivedName {element : String} {role : InputRole}
    (named : ∀ c ∈ element.toList, Text.isNameChar c = true)
    (written : name ∈ Text.typeNames (derivedName element role)) :
    name = derivedName element role :=
  Text.eq_of_mem_typeNames (isNameChar_of_mem_derivedName named) written

/-- A list is written with the names of its elements. -/
theorem mem_typeNames_list {expression : String}
    (written : name ∈ Text.typeNames ("[" ++ expression ++ "!]")) :
    name ∈ Text.typeNames expression := by
  have marks : Text.typeNames "[" = [] ∧ Text.typeNames "!]" = [] := by decide
  rw [Text.typeNames_append_of_opens (by decide), Text.typeNames_append_of_closes (by decide),
    marks.1, marks.2, List.nil_append, List.append_nil] at written
  exact written

theorem mem_typeNames_field (field : Field) (noArguments : field.arguments = none)
    (written : name ∈ field.typeNames) : name ∈ Text.typeNames field.type.text := by
  have nothing : Text.typeNames "" = [] := by decide
  rwa [Field.typeNames, noArguments, Option.getD_none, nothing, List.nil_append] at written

theorem eq_of_mem_derivedList {element : String} {role : InputRole}
    (named : ∀ c ∈ element.toList, Text.isNameChar c = true)
    (written : name ∈ Text.typeNames (FieldType.derivedList element role).text) :
    name = derivedName element role := by
  have spelled : (FieldType.derivedList element role).text
      = "[" ++ derivedName element role ++ "!]" := by
    simp [FieldType.text, derivedName, String.append_assoc]
  rw [spelled] at written
  exact eq_of_mem_derivedName named (mem_typeNames_list written)

/-- The names in a declaration with one field are those of its type. -/
theorem mem_typeNames_single {keyword : Keyword} {header label : String} {type : FieldType}
    {required : Bool}
    (mentioned : name ∈ (Block.declare keyword header
      [.field { name := label, type, required }]).typeNames) : name ∈ Text.typeNames type.text := by
  obtain ⟨line, isLine, inLine⟩ := List.mem_flatMap.mp mentioned
  cases List.mem_singleton.mp isLine
  exact mem_typeNames_field { name := label, type, required } rfl inLine

/-- The names in a clause of a field come from the field. -/
theorem nameSource_of_suits {field : TypeField} (isField : field ∈ fields)
    (shaped : field.HasShape ctx tables shape) (suits : shape.Suits clause)
    (written : name ∈ clause.typeNames) : NameSource ctx tables fields own name := by
  have written := mem_typeNames_field clause suits.arguments written
  have typed := suits.type
  generalize clause.type = type at typed written
  cases typed with
  | expression => exact .expression isField shaped written
  | listed => exact .expression isField shaped (mem_typeNames_list written)
  | @related element role ofShape =>
    obtain ⟨node, _, found⟩ := shaped
    obtain ⟨target, rfl, _⟩ := FieldShape.target_of_element? found ofShape
    have named : ∀ c ∈ (ctx.name target).toList, Text.isNameChar c = true := fun c member =>
      Context.isNameChar_of_mem_name member
    rw [eq_of_mem_derivedName named written]
    exact .related isField ⟨node, ‹_›, found⟩ ofShape role

theorem nameSource_of_filledBody {rule : TypeField → FieldShape → Option Field}
    {clauses : List Field}
    (suits : ∀ field shape clause, rule field shape = some clause → shape.Suits clause)
    (found : clausesBy ctx tables rule fields = .ok clauses) {keyword : Keyword} {header : String}
    (mentioned :
      name ∈ (Block.declare keyword header (filledBody ctx.options clauses)).typeNames) :
    NameSource ctx tables fields own name := by
  obtain ⟨line, isLine, inLine⟩ := List.mem_flatMap.mp mentioned
  rcases mem_inputBody_of_clausesBy found isLine with
    rfl | ⟨field, isField, shape, clause, shaped, given, rfl⟩
  · have boolean : name ∈ Text.typeNames "Boolean" :=
      mem_typeNames_field (standIn ctx.options) rfl inLine
    rw [Text.eq_of_mem_typeNames (List.all_eq_true.mp (by decide)) boolean]
    exact .known (by decide)
  · exact nameSource_of_suits isField shaped (suits field shape clause given) inLine

theorem nameSource_of_whereInput {block : Block}
    (named : ∀ c ∈ own.toList, Text.isNameChar c = true)
    (written : whereInput ctx tables fields own = .ok block) (mentioned : name ∈ block.typeNames) :
    NameSource ctx tables fields own name := by
  obtain ⟨clauses, rfl, each⟩ := whereInput_eq_ok written
  obtain ⟨line, isLine, inLine⟩ := List.mem_flatMap.mp mentioned
  obtain ⟨clause, isClause, rfl⟩ := List.mem_map.mp isLine
  rcases List.mem_append.mp isClause with isClause | combines
  · obtain ⟨field, isField, shape, filters, shaped, filtered, isFilter⟩ := each clause isClause
    exact nameSource_of_suits isField shaped (suits_filterClauses filtered isFilter) inLine
  · obtain ⟨combinator, _, rfl⟩ := List.mem_map.mp combines
    have inType := mem_typeNames_field (combination own combinator) rfl inLine
    rw [combination] at inType
    rw [eq_of_mem_derivedList named inType]
    exact .derived .filter

theorem nameSource_of_label {label : String} {role : InputRole}
    (named : ∀ c ∈ own.toList, Text.isNameChar c = true) (closed : Text.closes label = true)
    (known : ∀ word ∈ Text.typeNames label, word ∈ knownScalars)
    (written : name ∈ Text.typeNames (label ++ derivedName own role)) :
    NameSource ctx tables fields own name := by
  rw [Text.typeNames_append_of_closes closed, List.mem_append] at written
  rcases written with inLabel | inName
  · exact .known (known name inLabel)
  · rw [eq_of_mem_derivedName named inName]
    exact .derived role

/-- Names in what is written of the type itself, by its name or a list of it. -/
theorem eq_of_mem_brackets (named : ∀ c ∈ own.toList, Text.isNameChar c = true)
    (written : name ∈ Text.typeNames ("[" ++ own ++ "]")) : name = own := by
  have marks : Text.typeNames "[" = [] ∧ Text.typeNames "]" = [] := by decide
  rw [Text.typeNames_append_of_opens (by decide), Text.typeNames_append_of_closes (by decide),
    marks.1, marks.2, List.nil_append, List.append_nil] at written
  exact Text.eq_of_mem_typeNames named written

/-- A fixed text names only scalars. -/
theorem nameSource_of_fixed {text : String}
    (known : ∀ word ∈ Text.typeNames text, word ∈ knownScalars)
    (written : name ∈ Text.typeNames text) : NameSource ctx tables fields own name :=
  .known (known name written)

theorem nameSource_of_queryExtension (named : ∀ c ∈ own.toList, Text.isNameChar c = true)
    (mentioned : name ∈ (queryExtension own).typeNames) :
    NameSource ctx tables fields own name := by
  simp only [queryExtension, Block.typeNames, List.flatMap_cons, List.flatMap_nil, Line.typeNames,
    Field.typeNames, FieldType.text, Option.getD_some, List.append_nil, List.mem_append]
    at mentioned
  rcases mentioned with (inArguments | inType) | inArguments | inType
  · exact nameSource_of_fixed (by decide) inArguments
  · rw [Text.eq_of_mem_typeNames named inType]
    exact .own
  · obtain ⟨argument, isArgument, inArgument⟩ :=
      Text.mem_typeNames_intercalate (by decide) (by decide) (by decide) inArguments
    simp only [List.mem_cons, List.not_mem_nil, or_false] at isArgument
    rcases isArgument with rfl | rfl | rfl | rfl | rfl | rfl | rfl
    · exact nameSource_of_label named (by decide) (by decide) inArgument
    · exact nameSource_of_label named (by decide) (by decide) inArgument
    all_goals exact nameSource_of_fixed (by decide) inArgument
  · rw [eq_of_mem_brackets named inType]
    exact .own

theorem typeNames_required (text : String) :
    Text.typeNames (text ++ "!") = Text.typeNames text := by
  have mark : Text.typeNames "!" = [] := by decide
  rw [Text.typeNames_append_of_opens (by decide), mark, List.append_nil]

theorem nameSource_of_mutationExtension (named : ∀ c ∈ own.toList, Text.isNameChar c = true)
    (mentioned : name ∈ (mutationExtension own).typeNames) :
    NameSource ctx tables fields own name := by
  simp only [mutationExtension, Block.typeNames, List.flatMap_cons, List.flatMap_nil,
    Line.typeNames, Field.typeNames, FieldType.text, Option.getD_some, List.append_nil,
    List.mem_append, typeNames_required] at mentioned
  have ofType : name ∈ Text.typeNames own → NameSource ctx tables fields own name := by
    intro written
    rw [Text.eq_of_mem_typeNames named written]
    exact .own
  have ofBatch : name ∈ Text.typeNames (own ++ InputRole.batch.ending) →
      NameSource ctx tables fields own name := by
    intro written
    rw [eq_of_mem_derivedName named written]
    exact .derived .batch
  rcases mentioned with (data | type) | (id | type) | (selection | type) | (data | type) |
    (both | type) | both | type
  · exact nameSource_of_label named (by decide) (by decide) data
  · exact ofType type
  · exact nameSource_of_fixed (by decide) id
  · exact ofType type
  · exact nameSource_of_label named (by decide) (by decide) selection
  · exact ofBatch type
  · exact nameSource_of_label named (by decide) (by decide) data
  · exact ofType type
  · rw [Text.typeNames_append_append (by decide) (by decide), List.mem_append,
      List.mem_append] at both
    rcases both with (data | comma) | selection
    · exact nameSource_of_label named (by decide) (by decide) data
    · exact nameSource_of_fixed (by decide) comma
    · exact nameSource_of_label named (by decide) (by decide) selection
  · exact ofBatch type
  · rw [Text.typeNames_append_append (by decide) (by decide), List.mem_append,
      List.mem_append] at both
    rcases both with (create | label) | update
    · exact nameSource_of_label named (by decide) (by decide) create
    · exact nameSource_of_fixed (by decide) label
    · rw [eq_of_mem_derivedName named update]
      exact .derived .update
  · exact ofType type

/-- The type names of a derived declaration come from the type and its fields. -/
theorem nameSource_of_artifact {artifact : Artifact} {block : Block}
    (named : ∀ c ∈ own.toList, Text.isNameChar c = true)
    (written : artifact.block ctx tables fields own = .ok block)
    (mentioned : name ∈ block.typeNames) : NameSource ctx tables fields own name := by
  cases artifact with
  | createInput =>
    obtain ⟨clauses, found, rfl⟩ := createInput_eq_ok written
    refine nameSource_of_filledBody ?_ found mentioned
    rintro field shape clause ⟨⟩
    exact suits_createClause field.name field.optional shape
  | updateInput =>
    obtain ⟨clauses, found, rfl⟩ := updateInput_eq_ok written
    exact nameSource_of_filledBody (fun _ _ _ => suits_updateClause) found mentioned
  | updateManyMutationInput =>
    obtain ⟨clauses, found, rfl⟩ := updateManyMutationInput_eq_ok written
    exact nameSource_of_filledBody (fun _ _ _ => suits_updateManyClause) found mentioned
  | whereInput => exact nameSource_of_whereInput named written mentioned
  | queryExtension =>
    cases written
    exact nameSource_of_queryExtension named mentioned
  | mutationExtension =>
    cases written
    exact nameSource_of_mutationExtension named mentioned
  | orderByInput =>
    cases written
    obtain ⟨line, isLine, inLine⟩ := List.mem_flatMap.mp mentioned
    obtain ⟨value, _, rfl⟩ := List.mem_map.mp isLine
    cases inLine
  | batchPayload =>
    cases written
    have inType : name ∈ Text.typeNames "Long" := mem_typeNames_single mentioned
    exact nameSource_of_fixed (by decide) inType
  | whereUniqueInput =>
    cases written
    have inType : name ∈ Text.typeNames identifierScalar := mem_typeNames_single mentioned
    exact nameSource_of_fixed (by decide) inType
  | createManyInput | updateManyInput =>
    cases written
    have inType := mem_typeNames_single mentioned
    rw [eq_of_mem_derivedList named inType]
    exact .derived .unique
  | createOneInput | updateOneInput =>
    cases written
    have inType := mem_typeNames_single mentioned
    rw [FieldType.text, ← derivedName] at inType
    rw [eq_of_mem_derivedName named inType]
    exact .derived .unique

/-- There is a derived declaration for every role. -/
theorem exists_header (name : String) (role : InputRole) :
    ∃ artifact ∈ Artifact.all, ∃ keyword,
      artifact.header name = .declaration keyword (derivedName name role) "" := by
  cases role with
  | create => exact ⟨.createInput, by decide, _, rfl⟩
  | createMany => exact ⟨.createManyInput, by decide, _, rfl⟩
  | createOne => exact ⟨.createOneInput, by decide, _, rfl⟩
  | update => exact ⟨.updateInput, by decide, _, rfl⟩
  | updateMany => exact ⟨.updateManyInput, by decide, _, rfl⟩
  | updateManyMutation => exact ⟨.updateManyMutationInput, by decide, _, rfl⟩
  | updateOne => exact ⟨.updateOneInput, by decide, _, rfl⟩
  | filter => exact ⟨.whereInput, by decide, _, rfl⟩
  | unique => exact ⟨.whereUniqueInput, by decide, _, rfl⟩
  | order => exact ⟨.orderByInput, by decide, _, rfl⟩
  | batch => exact ⟨.batchPayload, by decide, _, rfl⟩

theorem exists_declared_of_generate {origin : Option String} {declaration : Interface}
    {artifacts : List Block}
    (generated : generate ctx tables origin declaration name = .ok artifacts) (role : InputRole) :
    ∃ block ∈ artifacts, block.declaredName? = some (derivedName name role) := by
  obtain ⟨fields, _, written⟩ := Traversal.bind_eq_ok.mp generated
  obtain ⟨artifact, isArtifact, keyword, headed⟩ := exists_header name role
  obtain ⟨block, isBlock, ofArtifact⟩ := Traversal.exists_result_of_mem written isArtifact
  obtain ⟨body, rfl⟩ := Artifact.block_eq_braced ofArtifact
  refine ⟨_, isBlock, ?_⟩
  rw [headed]
  rfl

end Crud

end SchemaLowering
