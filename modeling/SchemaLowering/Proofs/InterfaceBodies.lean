import SchemaLowering.Proofs.FieldClauses
import SchemaLowering.Proofs.FieldNames
import SchemaLowering.Proofs.Framing

/-!
What stands between the braces of the blocks of an interface. No block is empty: a field stands in
for missing members, for missing clauses of an input and for missing orderings. A fragment selects
the members under the names that they have in the graph, while the block before it declares them
under identifiers.
-/

namespace SchemaLowering

namespace Block

/-- The lines between the braces of a block. -/
def bodyLines : Block → List String
  | .braced _ body => body.map Line.text
  | _ => []

theorem bodyLines_fields (header : Header) (fields : List Field) :
    (braced header (fields.map .field)).bodyLines = fields.map Field.text := by
  rw [bodyLines, List.map_map]
  rfl

theorem bodyLines_words (header : Header) (words : List String) :
    (braced header (words.map .word)).bodyLines = words := by
  rw [bodyLines, List.map_map]
  exact List.map_id words

end Block

namespace Member

/-- Whether a member is a field of its type for the derived declarations: a property, or a method
without parameters. -/
def isField : Member → Bool
  | .property _ => true
  | .method declaration => declaration.parameters.isEmpty

/-- The type of a member that is a field, if it has one. -/
def fieldType? : Member → Option Node
  | .property declaration => declaration.signature
  | .method declaration => if declaration.parameters.isEmpty then declaration.returns else none

end Member

namespace Crud

variable {ctx : Context} {tables : Tables} {members : List Member} {name : String}

theorem TypeField.ofMember?_isSome (member : Member) :
    (ofMember? member).isSome = member.isField := by
  cases member with
  | property declaration => rfl
  | method declaration =>
    rw [ofMember?, Member.isField]
    cases declaration.parameters.isEmpty with
    | true => rfl
    | false => rfl

theorem TypeField.type_of_ofMember? {member : Member} {field : TypeField}
    (given : ofMember? member = some field) : field.type = member.fieldType? := by
  cases member with
  | property declaration =>
    cases given
    rfl
  | method declaration =>
    rw [ofMember?] at given
    rw [Member.fieldType?]
    split at given
    · next none =>
      cases given
      rw [if_pos none]
    · cases given

theorem TypeField.fieldType?_of_ofMember?_eq_none {member : Member}
    (absent : ofMember? member = none) : member.fieldType? = none := by
  cases member with
  | property declaration => cases absent
  | method declaration =>
    rw [ofMember?] at absent
    rw [Member.fieldType?]
    split at absent
    · cases absent
    · next some => rw [if_neg some]

/-- The fields of a type have the identifiers of the members that are fields. -/
theorem names_ofMember? (members : List Member) :
    (members.filterMap TypeField.ofMember?).map TypeField.name
      = (members.filter Member.isField).map fun member => Text.identifier member.name := by
  induction members with
  | nil => rfl
  | cons member rest ih =>
    have known := TypeField.ofMember?_isSome member
    cases given : TypeField.ofMember? member with
    | none =>
      rw [given] at known
      rw [List.filterMap_cons_none given, List.filter_cons_of_neg (by simp [← known]), ih]
    | some field =>
      rw [given] at known
      rw [List.filterMap_cons_some given, List.filter_cons_of_pos known.symm, List.map_cons,
        List.map_cons, ih, TypeField.name_of_ofMember? given]

/-! Inputs that set fields. -/

theorem text_standIn (options : Options) :
    (standIn options).text = options.placeholder.text ++ ": Boolean" := by
  simp [standIn, Field.text, FieldType.text, ← String.toList_inj]

/-- A shape is not linked if it is neither that of a list nor of a relation. -/
theorem FieldShape.isLinked_classify_eq_false_iff {node : Node} {expression : String}
    (lowered : Expression.lower ctx node = .ok expression) (other : expression ≠ identifierScalar) :
    (classify ctx tables node expression).isLinked = false ↔
      (∀ elements, node ≠ .array elements) ∧ ∀ target, node = .reference target →
        tables.isEnum (ctx.name target) = true ∨ tables.isScalar (ctx.name target) = true := by
  rw [← Bool.not_eq_true, isLinked_classify_iff]
  cases node with
  | array elements => simp [other]
  | reference target =>
    have named : expression = ctx.name target := by
      cases lowered
      rfl
    subst named
    simp [other, or_iff_not_imp_left]
  | _ => simp

/-- The inputs that set fields of objects. -/
inductive Setting where
  | creation
  | update
  | updateOfMany

namespace Setting

/-- The walk over the type of a field that gives its clause in an input. -/
def clause (ctx : Context) (tables : Tables) (setting : Setting) (field : TypeField) :
    Except LoweringError (Option Field) :=
  match setting with
  | .creation => createClause ctx tables field.name field.optional field.type
  | .update => updateClause ctx tables field.name field.type
  | .updateOfMany => updateManyClause ctx tables field.name field.type

/-- The clause that an input has for a field of a shape. -/
def rule : Setting → TypeField → FieldShape → Option Field
  | .creation => createRule
  | .update => updateRule
  | .updateOfMany => updateManyRule

theorem clause_eq (setting : Setting) (field : TypeField) :
    setting.clause ctx tables field = clauseBy ctx tables setting.rule field := by
  cases setting with
  | creation => exact createClause_eq field
  | update => exact updateClause_eq field
  | updateOfMany => exact updateManyClause_eq field

/-- The clause that a member contributes to an input. -/
def contribution (ctx : Context) (tables : Tables) (setting : Setting) (member : Member) :
    Option Field :=
  (TypeField.ofMember? member).bind fun field =>
    (setting.clause ctx tables field).toOption.join

/-- The types, behind their aliases, that an input takes. Identifiers are never updated; lists and
relations are not updated on many objects. -/
def Takes (ctx : Context) (tables : Tables) : Setting → Node → Prop
  | .creation, _ => True
  | .update, node => Expression.lower ctx node ≠ .ok identifierScalar
  | .updateOfMany, node =>
    Expression.lower ctx node ≠ .ok identifierScalar ∧ (∀ elements, node ≠ .array elements) ∧
      ∀ target, node = .reference target →
        tables.isEnum (ctx.name target) = true ∨ tables.isScalar (ctx.name target) = true

/-- The members that an input is about: those that are fields with a type that it takes. -/
def Covers (ctx : Context) (tables : Tables) (setting : Setting) (member : Member) : Prop :=
  ∃ type, member.fieldType? = some type ∧ setting.Takes ctx tables type.unaliased

theorem rule_classify_ne_none_iff {node : Node} {expression : String} (setting : Setting)
    (field : TypeField) (lowered : Expression.lower ctx node = .ok expression) :
    setting.rule field (FieldShape.classify ctx tables node expression) ≠ none ↔
      setting.Takes ctx tables node := by
  have identifier : FieldShape.classify ctx tables node expression = .identifier ↔
      Expression.lower ctx node = .ok identifierScalar := by
    rw [FieldShape.classify_eq_identifier_iff, lowered, Except.ok.injEq]
  cases setting with
  | creation => exact iff_of_true (by simp [rule, createRule]) trivial
  | update =>
    rw [rule, updateRule, updateClause?_eq field.name field.optional, Takes, ne_eq, ne_eq,
      ← identifier, ite_eq_left_iff]
    simp
  | updateOfMany =>
    rw [rule, updateManyRule, updateManyClause?_eq, updateClause?_eq field.name field.optional,
      Takes, ne_eq, ne_eq, ← identifier]
    by_cases isIdentifier : FieldShape.classify ctx tables node expression = .identifier
    · simp [isIdentifier, FieldShape.isLinked]
    · have other := FieldShape.classify_eq_identifier_iff.not.mp isIdentifier
      rw [← FieldShape.isLinked_classify_eq_false_iff lowered other]
      simp [isIdentifier]

/-- A member whose clause can be told contributes one if the input covers it. -/
theorem contribution_ne_none_iff (setting : Setting) {member : Member}
    (told : ∀ field, TypeField.ofMember? member = some field →
      ∃ clause, setting.clause ctx tables field = .ok clause) :
    setting.contribution ctx tables member ≠ none ↔ setting.Covers ctx tables member := by
  unfold contribution Covers
  cases given : TypeField.ofMember? member with
  | none => simp [TypeField.fieldType?_of_ofMember?_eq_none given]
  | some field =>
    obtain ⟨clause, ofField⟩ := told field given
    rw [← TypeField.type_of_ofMember? given, Option.bind_some, ofField]
    rw [clause_eq, clauseBy] at ofField
    cases type : field.type with
    | none =>
      rw [type] at ofField
      cases ofField
      simp [Except.toOption]
    | some node =>
      rw [type] at ofField
      obtain ⟨shape, found, rfl⟩ := Traversal.map_eq_ok.mp ofField
      obtain ⟨own, ofNode, rfl⟩ := Traversal.map_eq_ok.mp found
      obtain ⟨expression, lowered, rfl⟩ := Traversal.map_eq_ok.mp ofNode
      simpa [Except.toOption] using setting.rule_classify_ne_none_iff field lowered

/-- The clauses of an input are those that members contribute, in order. -/
theorem clausesBy_eq_contributions {setting : Setting} {clauses : List Field}
    (found : clausesBy ctx tables setting.rule (members.filterMap TypeField.ofMember?)
      = .ok clauses) :
    clauses = members.filterMap (setting.contribution ctx tables) := by
  obtain ⟨results, each, rfl⟩ := Traversal.map_eq_ok.mp found
  have told : results.map id = (members.filterMap TypeField.ofMember?).map fun field =>
      (setting.clause ctx tables field).toOption.join := by
    refine Traversal.map_results each fun field _ clause ofField => ?_
    rw [clause_eq, ofField]
    rfl
  rw [List.map_id] at told
  rw [told, List.filterMap_map, List.filterMap_filterMap]
  rfl

/-- How an input is filled from the members of a type: with the clauses that they contribute, or
with a field that stands in when there are none. -/
structure Filled (ctx : Context) (tables : Tables) (members : List Member) (setting : Setting)
    (block : Block) : Prop where
  fallback : (∀ member ∈ members, setting.contribution ctx tables member = none) →
    block.bodyLines = [ctx.options.placeholder.text ++ ": Boolean"]
  clauses : (∃ member ∈ members, setting.contribution ctx tables member ≠ none) →
    block.bodyLines = (members.filterMap (setting.contribution ctx tables)).map Field.text
  contributes_iff : ∀ member ∈ members,
    setting.contribution ctx tables member ≠ none ↔ setting.Covers ctx tables member

theorem filled_inputBody {setting : Setting} {clauses : List Field}
    (found : clausesBy ctx tables setting.rule (members.filterMap TypeField.ofMember?)
      = .ok clauses) (header : Header) :
    setting.Filled ctx tables members (.braced header (filledBody ctx.options clauses)) := by
  have contributed := clausesBy_eq_contributions found
  rw [filledBody]
  refine ⟨?_, ?_, ?_⟩
  · intro none
    have missing : clauses = [] := by
      rw [contributed]
      exact List.filterMap_eq_nil_iff.mpr none
    rw [missing, Block.bodyLines_fields]
    exact congrArg ([·]) (text_standIn ctx.options)
  · rintro ⟨member, isMember, given⟩
    have filled : clauses ≠ [] := by
      rw [contributed]
      intro missing
      exact given (List.filterMap_eq_nil_iff.mp missing member isMember)
    rw [if_neg (by simpa using filled), Block.bodyLines_fields, contributed]
  · intro member isMember
    apply setting.contribution_ne_none_iff
    intro field given
    rw [clause_eq]
    obtain ⟨results, each, _⟩ := Traversal.map_eq_ok.mp found
    exact Traversal.exists_mapM_eq_ok.mp ⟨results, each⟩ field
      (List.mem_filterMap.mpr ⟨member, isMember, given⟩)

end Setting

/-! Orderings, and the derived declarations together. -/

/-- How an enum of orderings is filled from the members of a type: with two values for each field,
or with two that stand in when there is none. -/
structure OrderingsFilled (options : Options) (members : List Member) (block : Block) : Prop where
  fallback : (∀ member ∈ members, member.isField = false) →
    block.bodyLines = [options.placeholder.text ++ "_ASC", options.placeholder.text ++ "_DESC"]
  values : (∃ member ∈ members, member.isField = true) →
    block.bodyLines = (members.filter Member.isField).flatMap fun member =>
      [Text.identifier member.name ++ "_ASC", Text.identifier member.name ++ "_DESC"]

theorem orderingsFilled (options : Options) (members : List Member) (name : String) :
    OrderingsFilled options members
      (orderByInput options (members.filterMap TypeField.ofMember?) name) := by
  have names := names_ofMember? members
  simp only [orderByInput, Block.declare]
  refine ⟨?_, ?_⟩
  · intro none
    rw [List.filter_eq_nil_iff.mpr (by simpa using none), List.map_nil,
      List.map_eq_nil_iff] at names
    rw [names, Block.bodyLines_words]
    rfl
  · rintro ⟨member, isMember, isField⟩
    have filled : members.filterMap TypeField.ofMember? ≠ [] := by
      intro missing
      have absent := List.filterMap_eq_nil_iff.mp missing member isMember
      have known := TypeField.ofMember?_isSome member
      rw [absent, isField] at known
      cases known
    rw [if_neg (by simpa using filled), Block.bodyLines_words]
    have flattened := congrArg (List.flatMap orderings) names
    rw [List.flatMap_map, List.flatMap_map] at flattened
    exact flattened

/-- How a derived declaration is filled from the members of a type. -/
def Artifact.Filled (ctx : Context) (tables : Tables) (members : List Member) :
    Artifact → Block → Prop
  | .createInput, block => Setting.creation.Filled ctx tables members block
  | .updateInput, block => Setting.update.Filled ctx tables members block
  | .updateManyMutationInput, block => Setting.updateOfMany.Filled ctx tables members block
  | .orderByInput, block => OrderingsFilled ctx.options members block
  | _, _ => True

theorem Artifact.filled_block {artifact : Artifact} {block : Block}
    (written : artifact.block ctx tables (members.filterMap TypeField.ofMember?) name = .ok block) :
    artifact.Filled ctx tables members block := by
  cases artifact with
  | createInput =>
    obtain ⟨clauses, found, rfl⟩ := createInput_eq_ok written
    exact Setting.filled_inputBody found _
  | updateInput =>
    obtain ⟨clauses, found, rfl⟩ := updateInput_eq_ok written
    exact Setting.filled_inputBody found _
  | updateManyMutationInput =>
    obtain ⟨clauses, found, rfl⟩ := updateManyMutationInput_eq_ok written
    exact Setting.filled_inputBody found _
  | orderByInput =>
    cases written
    exact orderingsFilled ctx.options members name
  | _ => trivial

theorem bodyLines_filledBody_ne_nil (options : Options) (clauses : List Field) (header : Header) :
    (Block.braced header (filledBody options clauses)).bodyLines ≠ [] := by
  rw [filledBody, Block.bodyLines_fields]
  cases clauses with
  | nil => exact List.cons_ne_nil _ _
  | cons first rest => exact List.cons_ne_nil _ _

/-- No derived declaration is empty. -/
theorem Artifact.bodyLines_ne_nil {artifact : Artifact} {fields : List TypeField} {block : Block}
    (written : artifact.block ctx tables fields name = .ok block) : block.bodyLines ≠ [] := by
  cases artifact with
  | createInput =>
    obtain ⟨clauses, _, rfl⟩ := createInput_eq_ok written
    exact bodyLines_filledBody_ne_nil _ clauses _
  | updateInput =>
    obtain ⟨clauses, _, rfl⟩ := updateInput_eq_ok written
    exact bodyLines_filledBody_ne_nil _ clauses _
  | updateManyMutationInput =>
    obtain ⟨clauses, _, rfl⟩ := updateManyMutationInput_eq_ok written
    exact bodyLines_filledBody_ne_nil _ clauses _
  | orderByInput =>
    cases written
    simp only [Crud.orderByInput, Block.declare, Block.bodyLines_words]
    cases fields with
    | nil => exact List.cons_ne_nil _ _
    | cons first rest => exact List.cons_ne_nil _ _
  | whereInput =>
    obtain ⟨clauses, rfl, _⟩ := whereInput_eq_ok written
    rw [Block.declare, Block.bodyLines_fields]
    simp [combinators]
  | _ =>
    cases written
    exact List.cons_ne_nil _ _

end Crud

namespace Inheritance

theorem shownMembers_ne_nil {ctx : Context} {origin : Option String} {declaration : Interface}
    {shown : List Member} (found : shownMembers ctx origin declaration = .ok shown) :
    shown ≠ [] := by
  obtain ⟨substance, _, found⟩ := Traversal.bind_eq_ok.mp found
  cases substance with
  | members first rest =>
    cases found
    exact List.cons_ne_nil _ _
  | placeholder value =>
    obtain ⟨name, _, same⟩ := Traversal.bind_eq_ok.mp found
    cases same
    exact List.cons_ne_nil _ _

end Inheritance

namespace Emission

variable {ctx : Context} {tables : Tables} {origin : Option String} {declaration : Interface}
  {symbol : String} {blocks : List Block} {members : List Member}

theorem interfaceBlocks_eq_ok
    (written : interfaceBlocks ctx tables origin declaration symbol = .ok blocks) :
    ∃ members body derived, Inheritance.shownMembers ctx origin declaration = .ok members ∧
      interfaceBody ctx members = .ok body ∧
      derivedBlocks ctx tables origin declaration symbol = .ok derived ∧
      blocks = .braced (ownHeader ctx declaration symbol) body
        :: (derived ++ fragmentBlocks declaration members) := by
  rw [interfaceBlocks_eq] at written
  obtain ⟨members, shown, written⟩ := Traversal.bind_eq_ok.mp written
  obtain ⟨body, rendered, written⟩ := Traversal.bind_eq_ok.mp written
  obtain ⟨derived, attached, same⟩ := Traversal.bind_eq_ok.mp written
  cases same
  exact ⟨members, body, derived, shown, rendered, attached, rfl⟩

/-- The block of an interface has a line for each member. -/
theorem bodyLines_interfaceBody_ne_nil {body : List Line} (filled : members ≠ [])
    (rendered : interfaceBody ctx members = .ok body) (header : Header) :
    (Block.braced header body).bodyLines ≠ [] := by
  obtain ⟨fields, each, same⟩ := Traversal.bind_eq_ok.mp rendered
  cases same
  have count := (Traversal.mapM_eq_ok.mp each).length_eq
  rw [Block.bodyLines_fields]
  intro empty
  rw [List.map_eq_nil_iff.mp empty] at count
  exact filled (List.length_eq_zero_iff.mp count)

theorem bodyLines_fragmentBlocks_ne_nil {block : Block} (filled : members ≠ [])
    (isBlock : block ∈ fragmentBlocks declaration members) : block.bodyLines ≠ [] := by
  unfold fragmentBlocks at isBlock
  split at isBlock
  · cases isBlock
  split at isBlock
  · cases List.mem_singleton.mp isBlock
    simpa [Block.bodyLines] using filled
  · cases isBlock

/-- The declarations derived from an interface, each made of the members that it shows. -/
theorem derivedBlocks_of_shows {derived : List Block}
    (shown : Inheritance.shownMembers ctx origin declaration = .ok members)
    (attached : derivedBlocks ctx tables origin declaration symbol = .ok derived)
    (shows : showsDerived ctx.options (symbol, .interface declaration) = true) :
    List.Forall₂ (fun artifact block => Crud.Artifact.block ctx tables
      (members.filterMap Crud.TypeField.ofMember?) (ctx.name symbol) artifact = .ok block)
      Crud.Artifact.all derived := by
  have generated := derivedBlocks_eq_ok attached
  rw [if_pos shows] at generated
  obtain ⟨fields, kept, each⟩ := Traversal.bind_eq_ok.mp generated
  obtain ⟨same, shownToo, ofMembers⟩ := Traversal.bind_eq_ok.mp kept
  cases shown.symm.trans shownToo
  cases ofMembers
  exact Traversal.mapM_eq_ok.mp each

/-- No block of an interface is empty. The inputs that set fields of a type have the clauses that
its members contribute, and only where no member contributes one the field that stands in for them;
the orderings of a type are two for each of its fields, or two that stand in where it has none. -/
theorem interface_blocks_filled
    (written : interfaceBlocks ctx tables origin declaration symbol = .ok blocks) :
    (∀ block ∈ blocks, block.bodyLines ≠ []) ∧
      ∃ members, Inheritance.shownMembers ctx origin declaration = .ok members ∧
        (showsDerived ctx.options (symbol, .interface declaration) = true →
          ∃ own derived, blocks = own :: derived ∧
            List.Forall₂ (fun artifact block =>
              (∃ body, block = .braced (artifact.header (ctx.name symbol)) body) ∧
                artifact.Filled ctx tables members block) Crud.Artifact.all derived) := by
  obtain ⟨members, body, derived, shown, rendered, attached, rfl⟩ := interfaceBlocks_eq_ok written
  have filled := Inheritance.shownMembers_ne_nil shown
  refine ⟨?_, members, shown, ?_⟩
  · intro block isBlock
    rcases List.mem_cons.mp isBlock with rfl | isBlock
    · exact bodyLines_interfaceBody_ne_nil filled rendered _
    rcases List.mem_append.mp isBlock with isDerived | isFragment
    · have wanted := derivedBlocks_eq_ok attached
      split at wanted
      · obtain ⟨fields, _, each⟩ := Traversal.bind_eq_ok.mp wanted
        obtain ⟨artifact, _, ofArtifact⟩ := Traversal.exists_of_mem_results each isDerived
        exact Crud.Artifact.bodyLines_ne_nil ofArtifact
      · subst wanted
        cases isDerived
    · exact bodyLines_fragmentBlocks_ne_nil filled isFragment
  · intro shows
    have objectType := isObjectType_of_derives (Bool.and_eq_true_iff.mp shows).2
    rw [fragmentBlocks_of_isObjectType objectType, List.append_nil]
    refine ⟨_, derived, rfl, (derivedBlocks_of_shows shown attached shows).imp ?_⟩
    intro artifact block ofArtifact
    exact ⟨Crud.Artifact.block_eq_braced ofArtifact, Crud.Artifact.filled_block ofArtifact⟩

/-- A loan of books, whose only other member has a parameter. Neither can be set on many loans. -/
def loan : Interface :=
  ⟨[.property ⟨"books", some (.array [.reference "Book"]), false, none⟩,
    .method ⟨"find", [("title", .primitive .string)], some (.reference "Book"), true, none⟩],
    [], true, none⟩

theorem interfaceBlocks_loan :
    showsDerived Crud.shelf.options ("Loan", .interface loan) = true ∧
      ((interfaceBlocks Crud.shelf {} none loan "Loan").map
        (·.map Block.bodyLines)).toOption.map (·.take 9) = some
          [["books: [Book]!", "find(String): Book"], ["count: Long"],
            ["books: BookCreateManyInput!"], ["connect: [LoanWhereUniqueInput!]"],
            ["connect: LoanWhereUniqueInput"], ["books_ASC", "books_DESC"],
            ["books: BookUpdateManyInput"], ["connect: [LoanWhereUniqueInput!]"],
            ["_placeholder: Boolean"]] := by
  decide +kernel

theorem interface_blocks_filled_loan :
    ∃ blocks members own derived,
      interfaceBlocks Crud.shelf {} none loan "Loan" = .ok blocks ∧
      (∀ block ∈ blocks, block.bodyLines ≠ []) ∧ blocks = own :: derived ∧
      (blocks.map Block.bodyLines)[8]? = some ["_placeholder: Boolean"] ∧
      List.Forall₂ (fun artifact block =>
        (∃ body, block = .braced (artifact.header (Crud.shelf.name "Loan")) body) ∧
          artifact.Filled Crud.shelf {} members block) Crud.Artifact.all derived := by
  obtain ⟨shows, lines⟩ := interfaceBlocks_loan
  obtain ⟨shown, evaluated, begins⟩ := Option.map_eq_some_iff.mp lines
  obtain ⟨blocks, written, rfl⟩ := Traversal.map_eq_ok.mp (Traversal.eq_ok_of_toOption evaluated)
  obtain ⟨filled, members, _, ofMembers⟩ := interface_blocks_filled written
  obtain ⟨own, derived, split, each⟩ := ofMembers shows
  refine ⟨blocks, members, own, derived, written, filled, split, ?_, each⟩
  rw [← List.getElem?_take_of_lt (by decide : 8 < 9), begins]
  rfl

/-! Fragments. -/

/-- An interface with a fragment is written as a block of its own and the fragment. -/
theorem fragmentBlocks_of_hasFragment (tagged : hasFragment (.interface declaration) = true)
    (ctx : Context) (symbol : String) (members : List Member) :
    ownHeader ctx declaration symbol = .declaration .interface (ctx.name symbol) "" ∧
      isObjectType declaration = false ∧
      ∃ mark, Mark.first? declaration.marks .fragment = some mark ∧
        fragmentBlocks declaration members
          = [.braced (.fragment mark.text) (members.map (.word ·.name))] := by
  simp only [hasFragment, Bool.and_eq_true, Bool.not_eq_true'] at tagged
  obtain ⟨⟨⟨schema, input⟩, concrete⟩, fragment⟩ := tagged
  obtain ⟨mark, first⟩ := Option.isSome_iff_exists.mp fragment
  refine ⟨?_, ?_, mark, first, ?_⟩
  · simp [ownHeader, schema, input, concrete]
  · simp [isObjectType, concrete]
  · simp [fragmentBlocks, schema, input, concrete, first]

end Emission

namespace Text

/-- The name that a line starts with. -/
def leadingName (line : String) : String :=
  String.ofList (line.toList.takeWhile isNameChar)

theorem identifier_eq_self_iff {text : String} :
    identifier text = text ↔ ∀ c ∈ text.toList, isNameChar c = true := by
  refine ⟨fun same c member => ?_, identifier_eq_self⟩
  rw [← same] at member
  exact isNameChar_of_mem_identifier member

/-- A line that declares a field under an identifier starts with it. -/
theorem leadingName_field {field : Field}
    (named : ∀ c ∈ field.name.toList, isNameChar c = true) :
    leadingName field.text = field.name := by
  obtain ⟨mark, rest, text, foreign⟩ : ∃ mark rest,
      field.text.toList = field.name.toList ++ mark :: rest ∧ ¬ isNameChar mark = true := by
    let ending := field.type.text ++ (if field.required then "!" else "") ++ field.decoration
    cases arguments : field.arguments with
    | none =>
      refine ⟨':', (" " ++ ending).toList, ?_, by decide⟩
      simp [Field.text, arguments, ending]
    | some inner =>
      refine ⟨'(', (inner ++ "): " ++ ending).toList, ?_, by decide⟩
      simp [Field.text, arguments, ending]
  rw [leadingName, text, List.takeWhile_append_of_pos named, List.takeWhile_cons_of_neg foreign,
    List.append_nil, String.ofList_toList]

end Text

namespace Emission

variable {ctx : Context} {tables : Tables} {origin : Option String} {declaration : Interface}
  {symbol : String} {blocks : List Block} {members : List Member}

/-- The lines of an interface start with the identifiers of its members. -/
theorem leadingNames_interfaceBody {body : List Line}
    (rendered : interfaceBody ctx members = .ok body) (header : Header) :
    (Block.braced header body).bodyLines.map Text.leadingName
      = members.map fun member => Text.identifier member.name := by
  obtain ⟨fields, each, same⟩ := Traversal.bind_eq_ok.mp rendered
  cases same
  rw [Block.bodyLines_fields, List.map_map]
  refine Traversal.map_results each fun member _ field ofMember => ?_
  have named := name_memberField ofMember
  rw [Function.comp_apply, Text.leadingName_field, named]
  intro c isChar
  rw [named] at isChar
  exact Text.isNameChar_of_mem_identifier isChar

/-- A fragment selects the members of the interface before it, in the order of its fields, but under
the names that they have in the graph; so it selects the fields that are declared if and only if all
these names are identifiers. -/
theorem fragment_selects_declared_iff
    (written : interfaceBlocks ctx tables origin declaration symbol = .ok blocks)
    (tagged : hasFragment (.interface declaration) = true) :
    ∃ members own fragment, Inheritance.shownMembers ctx origin declaration = .ok members ∧
      blocks = [own, fragment] ∧ own.opening = "interface " ++ ctx.name symbol ++ " \x7b" ∧
      (∃ mark, Mark.first? declaration.marks .fragment = some mark ∧
        fragment.opening = mark.text ++ " \x7b") ∧
      fragment.bodyLines = members.map Member.name ∧
      own.bodyLines.map Text.leadingName = fragment.bodyLines.map Text.identifier ∧
      (fragment.bodyLines = own.bodyLines.map Text.leadingName ↔
        ∀ member ∈ members, ∀ c ∈ member.name.toList, Text.isNameChar c = true) := by
  obtain ⟨members, body, derived, shown, rendered, attached, rfl⟩ := interfaceBlocks_eq_ok written
  obtain ⟨header, notType, mark, first, single⟩ :=
    fragmentBlocks_of_hasFragment tagged ctx symbol members
  have none : derived = [] := by
    have wanted := derivedBlocks_eq_ok attached
    rwa [if_neg] at wanted
    intro shows
    rw [isObjectType_of_derives (Bool.and_eq_true_iff.mp shows).2] at notType
    cases notType
  have declared := leadingNames_interfaceBody rendered (ownHeader ctx declaration symbol)
  have selected : (Block.braced (.fragment mark.text) (members.map (.word ·.name))).bodyLines
      = members.map Member.name := by
    rw [Block.bodyLines, List.map_map]
    rfl
  rw [none, single, List.nil_append]
  refine ⟨members, _, _, shown, rfl, ?_, ⟨mark, first, rfl⟩, selected, ?_, ?_⟩
  · rw [Block.opening, header]
    simp [Header.text, Keyword.text]
  · rw [declared, selected, List.map_map]
    rfl
  · rw [declared, selected, List.map_inj_left]
    refine forall₂_congr fun member _ => ?_
    rw [eq_comm, Text.identifier_eq_self_iff]

/-- An interface with one text field and a fragment. -/
def dated (field : String) : Interface :=
  ⟨[.property ⟨field, some (.primitive .string), false, none⟩], [], false,
    some [⟨"graphql", "fragment Dates on Dated"⟩]⟩

/-- The blocks of a graph that consists of such an interface. -/
def datedBlocks (field : String) : Except LoweringError (List Block) :=
  interfaceBlocks (Context.ofGraph {} ⟨[("Dated", .interface (dated field))]⟩) {} (some "Dated")
    (dated field) "Dated"

theorem datedBlocks_evaluated :
    (datedBlocks "created_at").toOption.map (·.map Block.bodyLines)
        = some [["created_at: String!"], ["created_at"]] ∧
      (datedBlocks "created-at").toOption.map (·.map Block.bodyLines)
        = some [["created_at: String!"], ["created-at"]] := by
  decide +kernel

theorem fragment_selects_declared_iff_dated :
    hasFragment (.interface (dated "created_at")) = true ∧
      ∃ (members : List Member) (blocks : List Block), datedBlocks "created_at" = .ok blocks ∧
        blocks.map Block.bodyLines = [["created_at: String!"], ["created_at"]] ∧
        members.map Member.name = ["created_at"] ∧
        ∀ member ∈ members, ∀ c ∈ member.name.toList, Text.isNameChar c = true := by
  have tagged : hasFragment (.interface (dated "created_at")) = true := by decide +kernel
  obtain ⟨blocks, evaluated, lines⟩ := Option.map_eq_some_iff.mp datedBlocks_evaluated.1
  have written := Traversal.eq_ok_of_toOption evaluated
  obtain ⟨members, own, fragment, _, rfl, _, _, names, _, selects⟩ :=
    fragment_selects_declared_iff written tagged
  have linesOf := lines
  rw [List.map_cons, List.map_singleton, List.cons.injEq, List.cons.injEq] at linesOf
  obtain ⟨declared, selected, _⟩ := linesOf
  refine ⟨tagged, members, _, written, lines, names.symm.trans selected, selects.mp ?_⟩
  rw [declared, selected]
  decide

/-- A fragment selects a field that is not declared when the name of a member is no identifier. -/
theorem fragment_selects_undeclared :
    hasFragment (.interface (dated "created-at")) = true ∧
      ∃ own fragment, datedBlocks "created-at" = .ok [own, fragment] ∧
        own.bodyLines.map Text.leadingName = ["created_at"] ∧
        fragment.bodyLines = ["created-at"] := by
  obtain ⟨blocks, evaluated, lines⟩ := Option.map_eq_some_iff.mp datedBlocks_evaluated.2
  obtain ⟨own, rest, rfl, declared, lines⟩ := List.map_eq_cons_iff.mp lines
  obtain ⟨fragment, rest, rfl, selected, none⟩ := List.map_eq_cons_iff.mp lines
  cases List.map_eq_nil_iff.mp none
  refine ⟨by decide +kernel, own, fragment, Traversal.eq_ok_of_toOption evaluated, ?_, selected⟩
  rw [declared]
  decide

end Emission

end SchemaLowering
