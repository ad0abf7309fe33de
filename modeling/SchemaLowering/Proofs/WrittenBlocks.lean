import SchemaLowering.Proofs.DerivedClauses
import SchemaLowering.Proofs.DerivedDeclarations
import SchemaLowering.Proofs.WrittenTexts

/-!
The parts of the blocks that a pass writes. A line break or a brace that no text of the graph holds
occurs in no header and in no line of a body, so that blocks have those of their frames only.
-/

namespace SchemaLowering

open Text

/-- The expression or the name that the type of a field is made of. -/
def FieldType.base : FieldType → String
  | .plain expression => expression
  | .listOf expression => expression
  | .derived element _ => element
  | .derivedList element _ => element

theorem InputRole.plain_ending (role : InputRole) : Plain role.ending := by
  cases role <;> decide

theorem FieldType.plain_text {type : FieldType} (plain : Plain type.base) : Plain type.text := by
  cases type with
  | plain expression => exact plain
  | listOf expression =>
    rw [FieldType.text, plain_append, plain_append]
    exact ⟨⟨by decide, plain⟩, by decide⟩
  | derived element role => exact plain_append.mpr ⟨plain, role.plain_ending⟩
  | derivedList element role =>
    rw [FieldType.text, plain_append, plain_append, plain_append]
    exact ⟨⟨⟨by decide, plain⟩, role.plain_ending⟩, by decide⟩

variable {c : Char}

namespace Field

variable {field : Field}

theorem lacks_text (layout : c ∈ layoutChars) (name : Lacks c field.name)
    (arguments : ∀ text ∈ field.arguments, Plain text) (type : Plain field.type.base)
    (decoration : Lacks c field.decoration) : Lacks c field.text := by
  have requirement : Plain (if field.required then "!" else "") := by
    split
    · decide
    · decide
  have colon : Plain ": " := by decide
  simp only [text, lacks_append]
  refine ⟨⟨⟨⟨⟨name, ?_⟩, colon.lacks layout⟩, (FieldType.plain_text type).lacks layout⟩,
    requirement.lacks layout⟩, decoration⟩
  cases given : field.arguments with
  | none => exact plain_empty.lacks layout
  | some written =>
    have parentheses : Plain ("(" ++ written ++ ")") := by
      rw [plain_append, plain_append]
      exact ⟨⟨by decide, arguments written given⟩, by decide⟩
    exact parentheses.lacks layout

/-- A field without a decoration whose parts are plain. -/
structure Simple (field : Field) : Prop where
  name : Plain field.name
  arguments : ∀ text ∈ field.arguments, Plain text
  type : Plain field.type.base
  decoration : field.decoration = ""

theorem Simple.lacks (simple : field.Simple) (layout : c ∈ layoutChars) : Lacks c field.text := by
  apply lacks_text layout (simple.name.lacks layout) simple.arguments simple.type
  rw [simple.decoration]
  exact Plain.lacks (by decide) layout

end Field

namespace Crud

variable {ctx : Context} {tables : Tables}

/-- A shape that is made of plain texts. -/
def FieldShape.IsPlain : FieldShape → Prop
  | .many element expression => Plain element ∧ Plain expression
  | shape => Plain shape.expression

theorem FieldShape.Sorts.isPlain {expression : String} {node : Node} {shape : FieldShape}
    (sorted : FieldShape.Sorts ctx tables expression node shape) (plain : Plain expression) :
    shape.IsPlain := by
  cases sorted with
  | identifier same =>
    subst same
    exact plain
  | many => exact ⟨ctx.plain_name _, plain⟩
  | _ => exact plain

theorem TypeField.HasShape.isPlain {field : TypeField} {shape : FieldShape}
    (shaped : field.HasShape ctx tables shape) : shape.IsPlain := by
  obtain ⟨type, _, found⟩ := shaped
  obtain ⟨expression, lowered, sorted⟩ := FieldShape.sorts_of_ofNode found
  exact sorted.isPlain (Expression.plain_lower lowered)

variable {name : String} {shape : FieldShape} {clause : Field}

theorem simple_createClause (named : Plain name) (plain : shape.IsPlain) (optional : Bool) :
    (FieldShape.createClause name optional shape).Simple := by
  cases shape with
  | many element expression => exact ⟨named, nofun, plain.1, rfl⟩
  | _ => exact ⟨named, nofun, plain, rfl⟩

theorem simple_updateClause (named : Plain name) (plain : shape.IsPlain)
    (given : FieldShape.updateClause? name shape = some clause) : clause.Simple := by
  cases shape with
  | identifier => cases given
  | many element expression =>
    cases given
    exact ⟨named, nofun, plain.1, rfl⟩
  | _ =>
    cases given
    exact ⟨named, nofun, plain, rfl⟩

theorem simple_updateManyClause (named : Plain name) (plain : shape.IsPlain)
    (given : FieldShape.updateManyClause? name shape = some clause) : clause.Simple := by
  cases shape with
  | identifier | many | list | one => cases given
  | _ =>
    cases given
    exact ⟨named, nofun, plain, rfl⟩

theorem simple_valueFilters {expression : String} (named : Plain name) (plain : Plain expression)
    (comparisons : Comparisons) (member : clause ∈ valueFilters name expression comparisons) :
    clause.Simple := by
  have extended : ∀ ending, Plain ending → Plain (name ++ ending) := fun _ ending =>
    plain_append.mpr ⟨named, ending⟩
  have comparing : ∀ (wanted : Bool) (endings : List String), (∀ ending ∈ endings, Plain ending) →
      clause ∈ (if wanted then endings else []).map
        (fun ending => { name := name ++ ending, type := .plain expression }) →
      clause.Simple := by
    intro wanted endings fixed member
    obtain ⟨ending, chosen, rfl⟩ := List.mem_map.mp member
    cases wanted with
    | false => cases chosen
    | true => exact ⟨extended ending (fixed ending chosen), nofun, plain, rfl⟩
  rcases List.mem_append.mp member with member | substring
  rcases List.mem_append.mp member with member | ordering
  · simp only [List.mem_cons, List.not_mem_nil, or_false] at member
    rcases member with rfl | rfl | rfl | rfl
    · exact ⟨named, nofun, plain, rfl⟩
    · exact ⟨extended _ (by decide), nofun, plain, rfl⟩
    · exact ⟨extended _ (by decide), nofun, plain, rfl⟩
    · exact ⟨extended _ (by decide), nofun, plain, rfl⟩
  · exact comparing _ _ (by decide) ordering
  · exact comparing _ _ (by decide) substring

theorem simple_otherFilters (named : Plain name) (plain : shape.IsPlain)
    (member : clause ∈ FieldShape.otherFilters name shape) : clause.Simple := by
  cases shape with
  | many element expression =>
    obtain ⟨ending, chosen, rfl⟩ := List.mem_map.mp member
    have fixed : ∀ ending ∈ quantifierEndings, Plain ending := by decide
    exact ⟨plain_append.mpr ⟨named, fixed ending chosen⟩, nofun, plain.1, rfl⟩
  | enumeration expression => exact simple_valueFilters named plain _ member
  | scalar expression => exact simple_valueFilters named plain _ member
  | one element =>
    cases List.mem_singleton.mp member
    exact ⟨named, nofun, plain, rfl⟩
  | _ => cases member

theorem FieldShape.IsPlain.expression (plain : shape.IsPlain) : Plain shape.expression := by
  cases shape with
  | many element expression => exact plain.2
  | _ => exact plain

theorem simple_filterClauses {options : Options} {clauses : List Field} (named : Plain name)
    (plain : shape.IsPlain) (found : FieldShape.filterClauses options name shape = .ok clauses)
    (member : clause ∈ clauses) : clause.Simple := by
  have byValue := plain.expression
  unfold FieldShape.filterClauses at found
  split at found
  · cases found
    exact simple_valueFilters named byValue _ member
  · cases found
    exact simple_valueFilters named byValue _ member
  · cases found
    exact simple_valueFilters named byValue _ member
  · cases found
    exact simple_valueFilters named byValue _ member
  · obtain ⟨isDate, _, found⟩ := Traversal.bind_eq_ok.mp found
    cases isDate with
    | false =>
      cases found
      exact simple_otherFilters named plain member
    | true =>
      cases found
      exact simple_valueFilters named byValue _ member

end Crud

theorem Header.lacks_declaration (layout : c ∈ layoutChars) (keyword : Keyword)
    {name decoration : String} (named : Plain name) (decorated : Lacks c decoration) :
    Lacks c (Header.declaration keyword name decoration).text := by
  have before : Plain (keyword.text ++ " ") := by cases keyword <;> decide
  rw [Header.text, lacks_append, lacks_append]
  exact ⟨⟨before.lacks layout, named.lacks layout⟩, decorated⟩

/-- A block none of whose parts holds a character. -/
def Block.Lacks (c : Char) : Block → Prop
  | .scalar name => Text.Lacks c name
  | .union name members => Text.Lacks c name ∧ ∀ member ∈ members, Text.Lacks c member
  | .braced header body => Text.Lacks c header.text ∧ ∀ line ∈ body, Text.Lacks c line.text

namespace Block

theorem lacks_declare (layout : c ∈ layoutChars) (keyword : Keyword) {name : String}
    {body : List Line} (named : Plain name) (lines : ∀ line ∈ body, Text.Lacks c line.text) :
    (declare keyword name body).Lacks c := by
  exact ⟨Header.lacks_declaration layout keyword named (plain_empty.lacks layout), lines⟩

theorem lacks_declare_field (layout : c ∈ layoutChars) (keyword : Keyword) {name : String}
    {field : Field} (named : Plain name) (simple : field.Simple) :
    (declare keyword name [.field field]).Lacks c := by
  apply lacks_declare layout keyword named
  intro line member
  cases List.mem_singleton.mp member
  exact simple.lacks layout

end Block

namespace Crud

variable {ctx : Context} {tables : Tables} {fields : List TypeField} {name : String}

theorem plain_derivedName (named : Plain name) (role : InputRole) :
    Plain (derivedName name role) :=
  plain_append.mpr ⟨named, role.plain_ending⟩

theorem lacks_standIn (layout : c ∈ layoutChars) {options : Options}
    (placeholder : Lacks c options.placeholder.text) : Lacks c (standIn options).text := by
  have boolean : Plain "Boolean" := by decide
  exact Field.lacks_text layout placeholder nofun boolean (plain_empty.lacks layout)

/-- The lines of an input lack a character if its rule gives simple clauses. -/
theorem lacks_inputBody (layout : c ∈ layoutChars)
    (placeholder : Lacks c ctx.options.placeholder.text)
    {rule : TypeField → FieldShape → Option Field} {clauses : List Field}
    (found : clausesBy ctx tables rule fields = .ok clauses)
    (simple : ∀ field ∈ fields, ∀ shape clause, shape.IsPlain → rule field shape = some clause →
      clause.Simple) :
    ∀ line ∈ filledBody ctx.options clauses, Lacks c line.text := by
  intro line member
  rcases mem_inputBody_of_clausesBy found member with
    rfl | ⟨field, isField, shape, clause, shaped, ruled, rfl⟩
  · exact lacks_standIn layout placeholder
  · exact (simple field isField shape clause shaped.isPlain ruled).lacks layout

theorem lacks_connectInput (layout : c ∈ layoutChars) (named : Plain name) (role : InputRole)
    {type : FieldType} (plain : Plain type.base) : (connectInput name role type).Lacks c := by
  have connect : Plain "connect" := by decide
  exact Block.lacks_declare_field layout _ (plain_derivedName named role)
    ⟨connect, nofun, plain, rfl⟩

theorem lacks_orderByInput (layout : c ∈ layoutChars) {options : Options}
    (placeholder : Lacks c options.placeholder.text) (named : Plain name)
    (fieldsNamed : ∀ field ∈ fields, Plain field.name) :
    (orderByInput options fields name).Lacks c := by
  have ordered : ∀ field, Lacks c field → ∀ value ∈ orderings field, Lacks c value := by
    intro field lacks value member
    simp only [orderings, List.mem_cons, List.not_mem_nil, or_false] at member
    rcases member with rfl | rfl
    · exact lacks_append.mpr ⟨lacks, Plain.lacks (by decide) layout⟩
    · exact lacks_append.mpr ⟨lacks, Plain.lacks (by decide) layout⟩
  apply Block.lacks_declare layout _ (plain_derivedName named .order)
  intro line member
  obtain ⟨value, isValue, rfl⟩ := List.mem_map.mp member
  split at isValue
  · exact ordered _ placeholder value isValue
  · obtain ⟨field, isField, isValue⟩ := List.mem_flatMap.mp isValue
    exact ordered _ ((fieldsNamed field isField).lacks layout) value isValue

theorem lacks_whereInput (layout : c ∈ layoutChars) (named : Plain name)
    (fieldsNamed : ∀ field ∈ fields, Plain field.name) {block : Block}
    (found : whereInput ctx tables fields name = .ok block) : block.Lacks c := by
  obtain ⟨clauses, rfl, origins⟩ := whereInput_eq_ok found
  apply Block.lacks_declare layout _ (plain_derivedName named .filter)
  intro line member
  obtain ⟨clause, isClause, rfl⟩ := List.mem_map.mp member
  suffices simple : clause.Simple from simple.lacks layout
  rcases List.mem_append.mp isClause with own | combined
  · obtain ⟨field, isField, shape, clauses, shaped, filtered, own⟩ := origins clause own
    exact simple_filterClauses (fieldsNamed field isField) shaped.isPlain filtered own
  · obtain ⟨combinator, chosen, rfl⟩ := List.mem_map.mp combined
    have fixed : ∀ combinator ∈ combinators, Plain combinator := by decide
    exact ⟨fixed combinator chosen, nofun, named, rfl⟩

theorem lacks_queryExtension (layout : c ∈ layoutChars)
    (named : ∀ c ∈ name.toList, isNameChar c = true) : (queryExtension name).Lacks c := by
  have plain := plain_of_isNameChar named
  have field := plain_lowerFirst named
  have arguments : Plain (", ".intercalate
      ["where: " ++ derivedName name .filter, "orderBy: " ++ derivedName name .order, "skip: Int",
       "after: String", "before: String", "first: Int", "last: Int"]) := by
    apply plain_intercalate (by decide)
    simp +decide [plain_append, plain_derivedName plain]
  refine ⟨Plain.lacks (by decide) layout, ?_⟩
  intro line member
  simp only [List.mem_cons, List.not_mem_nil, or_false] at member
  rcases member with rfl | rfl
  · apply Field.Simple.lacks _ layout
    refine ⟨field, ?_, plain, rfl⟩
    intro text given
    cases given
    decide
  · apply Field.Simple.lacks _ layout
    refine ⟨plain_append.mpr ⟨field, by decide⟩, ?_, ?_, rfl⟩
    · intro text given
      rw [← Option.some.inj given]
      exact arguments
    · simp +decide [FieldType.base, plain_append, plain]

theorem lacks_mutationExtension (layout : c ∈ layoutChars)
    (named : ∀ c ∈ name.toList, isNameChar c = true) : (mutationExtension name).Lacks c := by
  have plain := plain_of_isNameChar named
  have pascal := plain_upperFirst named
  refine ⟨Plain.lacks (by decide) layout, ?_⟩
  intro line member
  simp only [List.mem_cons, List.not_mem_nil, or_false] at member
  have simple : ∃ field, line = .field field ∧ field.Simple := by
    rcases member with rfl | rfl | rfl | rfl | rfl | rfl
    all_goals
      refine ⟨_, rfl, ?_, ?_, plain, rfl⟩
      · simp +decide [plain_append, pascal]
      · intro text given
        rw [← Option.some.inj given]
        simp +decide [plain_append, plain_derivedName plain]
  obtain ⟨field, rfl, simple⟩ := simple
  exact simple.lacks layout

/-- The parts of a derived declaration lack a character of the layout that the placeholder lacks. -/
theorem lacks_artifact (layout : c ∈ layoutChars)
    (placeholder : Lacks c ctx.options.placeholder.text)
    (fieldsNamed : ∀ field ∈ fields, Plain field.name)
    (named : ∀ c ∈ name.toList, isNameChar c = true) {artifact : Artifact} {block : Block}
    (written : artifact.block ctx tables fields name = .ok block) : block.Lacks c := by
  have plain := plain_of_isNameChar named
  cases artifact with
  | batchPayload =>
    cases written
    have count : Plain "count" := by decide
    have long : Plain "Long" := by decide
    exact Block.lacks_declare_field layout _ (plain_derivedName plain .batch)
      ⟨count, nofun, long, rfl⟩
  | createInput =>
    obtain ⟨clauses, found, rfl⟩ := createInput_eq_ok written
    apply Block.lacks_declare layout _ (plain_derivedName plain .create)
    apply lacks_inputBody layout placeholder found
    intro field isField shape clause shaped ruled
    cases ruled
    exact simple_createClause (fieldsNamed field isField) shaped _
  | createManyInput =>
    cases written
    exact lacks_connectInput layout plain _ plain
  | createOneInput =>
    cases written
    exact lacks_connectInput layout plain _ plain
  | orderByInput =>
    cases written
    exact lacks_orderByInput layout placeholder plain fieldsNamed
  | updateInput =>
    obtain ⟨clauses, found, rfl⟩ := updateInput_eq_ok written
    apply Block.lacks_declare layout _ (plain_derivedName plain .update)
    apply lacks_inputBody layout placeholder found
    intro field isField shape clause shaped ruled
    exact simple_updateClause (fieldsNamed field isField) shaped ruled
  | updateManyInput =>
    cases written
    exact lacks_connectInput layout plain _ plain
  | updateManyMutationInput =>
    obtain ⟨clauses, found, rfl⟩ := updateManyMutationInput_eq_ok written
    apply Block.lacks_declare layout _ (plain_derivedName plain .updateManyMutation)
    apply lacks_inputBody layout placeholder found
    intro field isField shape clause shaped ruled
    exact simple_updateManyClause (fieldsNamed field isField) shaped ruled
  | updateOneInput =>
    cases written
    exact lacks_connectInput layout plain _ plain
  | whereInput => exact lacks_whereInput layout plain fieldsNamed written
  | whereUniqueInput =>
    cases written
    have id : Plain "id" := by decide
    have scalar : Plain identifierScalar := by decide
    exact Block.lacks_declare_field layout _ (plain_derivedName plain .unique)
      ⟨id, nofun, scalar, rfl⟩
  | queryExtension =>
    cases written
    exact lacks_queryExtension layout named
  | mutationExtension =>
    cases written
    exact lacks_mutationExtension layout named

theorem TypeField.plain_name {member : Member} {field : TypeField}
    (kept : TypeField.ofMember? member = some field) : Plain field.name := by
  unfold TypeField.ofMember? at kept
  split at kept
  · cases kept
    exact plain_identifier _
  · split at kept
    · cases kept
      exact plain_identifier _
    · cases kept

theorem lacks_generate (layout : c ∈ layoutChars)
    (placeholder : Lacks c ctx.options.placeholder.text) {origin : Option String}
    {declaration : Interface} {symbol : String} {artifacts : List Block}
    (generated : generate ctx tables origin declaration (ctx.name symbol) = .ok artifacts) :
    ∀ block ∈ artifacts, block.Lacks c := by
  intro block isBlock
  obtain ⟨fields, kept, written⟩ := Traversal.bind_eq_ok.mp generated
  obtain ⟨members, _, same⟩ := Traversal.bind_eq_ok.mp kept
  cases same
  obtain ⟨artifact, _, ofArtifact⟩ := Traversal.exists_of_mem_results written isBlock
  apply lacks_artifact layout placeholder _ (fun _ => Context.isNameChar_of_mem_name) ofArtifact
  intro field isField
  obtain ⟨member, _, kept⟩ := List.mem_filterMap.mp isField
  exact TypeField.plain_name kept

end Crud

namespace Emission

variable {ctx : Context} {origin : Option String} {declaration : Interface} {members : List Member}

theorem plain_argumentText {argument : Node} {text : String}
    (lowered : argumentText ctx argument = .ok text) : Plain text := by
  unfold argumentText at lowered
  split at lowered
  · obtain ⟨node, _, lowered⟩ := Traversal.bind_eq_ok.mp lowered
    exact Expression.plain_lowerWithin lowered
  · exact Expression.plain_lower lowered

theorem lacks_memberDecoration (layout : c ∈ layoutChars) {member : Member}
    (remarks : ∀ text ∈ descriptions member.documentation, Lacks c text) :
    Lacks c (memberDecoration member) := by
  have marked : ∀ mark ∈ Mark.ofDocumentation member.documentation, Lacks c mark.text :=
    fun mark isMark => remarks _ (Mark.text_mem_descriptions isMark)
  exact lacks_append.mpr
    ⟨Mark.lacks_renderCost layout marked, Mark.lacks_renderKind layout marked .directive⟩

theorem lacks_memberField (layout : c ∈ layoutChars) {member : Member} {field : Field}
    (remarks : ∀ text ∈ descriptions member.documentation, Lacks c text)
    (rendered : memberField ctx member = .ok field) : Lacks c field.text := by
  have decorated := lacks_memberDecoration layout remarks
  have named := (plain_identifier member.name).lacks layout
  cases member with
  | property declaration =>
    obtain ⟨type, lowered, same⟩ := Traversal.bind_eq_ok.mp rendered
    cases same
    exact Field.lacks_text layout named nofun (Expression.plain_lowerOptional lowered) decorated
  | method declaration =>
    obtain ⟨arguments, type, lowered, rfl, parameters⟩ := memberField_method rendered
    have written : ∀ text ∈ arguments, Plain text := by
      intro text given
      rcases parameters with ⟨_, rfl⟩ | ⟨name, argument, written, _, ofArgument, rfl⟩
      · cases given
      · cases given
        exact plain_argumentText ofArgument
    exact Field.lacks_text layout named written (Expression.plain_lowerOptional lowered) decorated

theorem lacks_ownHeader (layout : c ∈ layoutChars) (symbol : String)
    (remarks : ∀ text ∈ descriptions declaration.documentation, Lacks c text) :
    Lacks c (ownHeader ctx declaration symbol).text := by
  have marked : ∀ mark ∈ declaration.marks, Lacks c mark.text :=
    fun mark isMark => remarks _ (Mark.text_mem_descriptions isMark)
  have named := ctx.plain_name symbol
  unfold ownHeader
  split
  · exact Plain.lacks (by decide) layout
  split
  · exact Header.lacks_declaration layout .input named (plain_empty.lacks layout)
  split
  · apply Header.lacks_declaration layout .type named
    rw [typeDecoration, lacks_append, lacks_append]
    exact ⟨⟨Mark.lacks_renderKind layout marked .key, Mark.lacks_renderCost layout marked⟩,
      Mark.lacks_renderKind layout marked .directive⟩
  · exact Header.lacks_declaration layout .interface named (plain_empty.lacks layout)

theorem lacks_interfaceBody (layout : c ∈ layoutChars)
    (remarks : ∀ member ∈ members, ∀ text ∈ descriptions member.documentation, Lacks c text)
    {body : List Line} (rendered : interfaceBody ctx members = .ok body) :
    ∀ line ∈ body, Lacks c line.text := by
  intro line isLine
  obtain ⟨fields, each, same⟩ := Traversal.bind_eq_ok.mp rendered
  cases same
  obtain ⟨field, isField, rfl⟩ := List.mem_map.mp isLine
  obtain ⟨member, isMember, ofMember⟩ := Traversal.exists_of_mem_results each isField
  exact lacks_memberField layout (remarks member isMember) ofMember

theorem lacks_fragmentBlocks
    (remarks : ∀ text ∈ descriptions declaration.documentation, Lacks c text)
    (named : ∀ member ∈ members, Lacks c member.name) :
    ∀ block ∈ fragmentBlocks declaration members, block.Lacks c := by
  intro block isBlock
  unfold fragmentBlocks at isBlock
  split at isBlock
  · cases isBlock
  split at isBlock
  · next fragment found =>
    cases List.mem_singleton.mp isBlock
    refine ⟨remarks _ (Mark.text_mem_descriptions (List.mem_of_find?_eq_some found)), ?_⟩
    intro line isLine
    obtain ⟨member, isMember, rfl⟩ := List.mem_map.mp isLine
    exact named member isMember
  · cases isBlock

theorem lacks_derivedBlocks (layout : c ∈ layoutChars)
    (placeholder : Lacks c ctx.options.placeholder.text) {tables : Tables} {symbol : String}
    {derived : List Block}
    (attached : derivedBlocks ctx tables origin declaration symbol = .ok derived) :
    ∀ block ∈ derived, block.Lacks c := by
  have wanted := derivedBlocks_eq_ok attached
  split at wanted
  · exact Crud.lacks_generate layout placeholder wanted
  · subst wanted
    exact nofun

theorem lacks_declareEnum (layout : c ∈ layoutChars) (tables : Tables) (symbol : String)
    {values : List String} (each : ∀ value ∈ values, Lacks c value) :
    (Union.declareEnum ctx tables symbol values).1.Lacks c := by
  apply Block.lacks_declare layout _ (ctx.plain_name symbol)
  intro line isLine
  obtain ⟨value, isValue, rfl⟩ := List.mem_map.mp isLine
  exact each value isValue

theorem lacks_union (layout : c ∈ layoutChars) (symbol : String) (targets : List String) :
    (Block.union (ctx.name symbol) (targets.map ctx.name)).Lacks c := by
  refine ⟨(ctx.plain_name symbol).lacks layout, ?_⟩
  intro member isMember
  obtain ⟨target, _, rfl⟩ := List.mem_map.mp isMember
  exact (ctx.plain_name target).lacks layout

theorem lacks_ofUnion (layout : c ∈ layoutChars) (avoids : ctx.graph.Avoids ctx.options c)
    {tables : Tables} {symbol : String} {types : List Node} {result : Block × Tables}
    (own : ∀ text ∈ nodesFreeTexts types, Lacks c text)
    (declares : Union.Declares ctx tables symbol types result) : result.1.Lacks c := by
  rw [nodesFreeTexts_eq_flatMap] at own
  cases declares with
  | texts nonempty found =>
    apply lacks_declareEnum layout
    intro value isValue
    have literal := Union.mem_of_literals? found (List.mem_eraseDups.mp isValue)
    exact own value (List.mem_flatMap.mpr ⟨.literal value, literal, List.mem_singleton_self value⟩)
  | enums leading found =>
    apply lacks_declareEnum layout
    intro value isValue
    obtain ⟨_, fromEnums⟩ := Union.enumValues_eq_ok found
    obtain ⟨target, values, known, isValue⟩ := fromEnums value (List.mem_eraseDups.mp isValue)
    exact avoids.found known value isValue
  | interfaces leading found =>
    obtain ⟨_, rfl⟩ := Union.interfaceNames_eq_ok found
    exact lacks_union layout symbol _

/-- The blocks of a declared symbol lack a character of the layout that the graph avoids. -/
theorem lacks_group (layout : c ∈ layoutChars) (avoids : ctx.graph.Avoids ctx.options c)
    {entry : String × Node} (known : entry ∈ ctx.graph.entries) {blocks : List Block}
    (written : group ctx entry = .ok blocks) : ∀ block ∈ blocks, block.Lacks c := by
  have own := avoids.entry known
  obtain ⟨symbol, node⟩ := entry
  obtain ⟨after, declares⟩ := declares_of_group written
  cases declares with
  | scalar kind documentation =>
    exact List.forall_mem_singleton.mpr ((ctx.plain_name symbol).lacks layout)
  | synonym other documentation =>
    exact List.forall_mem_singleton.mpr (lacks_union layout symbol [other])
  | union documentation declares =>
    have ofTypes := fun text written => own text (List.mem_append_left _ written)
    exact List.forall_mem_singleton.mpr (lacks_ofUnion layout avoids ofTypes declares)
  | enum values => exact List.forall_mem_singleton.mpr (lacks_declareEnum layout _ symbol own)
  | @interface declaration members body derived shown rendered attached =>
    have remarks : ∀ text ∈ descriptions declaration.documentation, Lacks c text :=
      fun text written => own text (declaration.descriptions_subset_freeTexts written)
    have named : ∀ member ∈ members, Lacks c member.name :=
      fun member chosen => (avoids.shown own shown chosen).1
    have noted : ∀ member ∈ members, ∀ text ∈ descriptions member.documentation, Lacks c text :=
      fun member chosen => (avoids.shown own shown chosen).2
    refine List.forall_mem_cons.mpr ⟨⟨lacks_ownHeader layout symbol remarks, ?_⟩, ?_⟩
    · exact lacks_interfaceBody layout noted rendered
    · refine List.forall_mem_append.mpr ⟨?_, ?_⟩
      · exact lacks_derivedBlocks layout avoids.placeholder attached
      · exact lacks_fragmentBlocks remarks named

end Emission

/-- No part of a block that a pass writes holds a character of the layout that the graph avoids. -/
theorem Graph.Writes.lacks {options : Options} {graph : Graph} {groups : List (List Block)}
    (writes : graph.Writes options groups) (layout : c ∈ layoutChars)
    (avoids : graph.Avoids options c) : ∀ block ∈ groups.flatten, block.Lacks c := by
  intro block isBlock
  obtain ⟨blocks, isGroup, isBlock⟩ := List.mem_flatten.mp isBlock
  obtain ⟨entry, emitted, written⟩ := Traversal.exists_of_mem_results writes.written isGroup
  have known := (Context.mem_ofGraph_emitted.mp emitted).1
  exact Emission.lacks_group layout avoids known written block isBlock

end SchemaLowering
