import SchemaLowering.Proofs.PassSimulation

/-!
Derived declarations add to a schema and change nothing else. The shapes that they are made of are
those that the type itself is written with, so they are written whenever the type is; and without
them every other block stays as it is.
-/

namespace SchemaLowering

namespace Options

/-- Options whose values are all of the kinds that their uses expect. -/
structure WellTyped (options : Options) : Prop where
  crud : ∃ wanted, options.crud = .bool wanted
  placeholder : ∃ name, options.placeholder = .str name
  reservedNames : ∃ names : List String, options.reservedNames = some (.arr (names.map .str))
  reservedStart : ∃ start, options.reservedStart = .str start
  dateScalars : ∃ names : List String, options.dateScalars = some (.arr (names.map .str))
  comment : ∃ wanted, options.comment = .bool wanted
  suffix : ∃ ending, options.suffix = .str ending
  output : ∃ mode validate atomic, (mode = .refuse ∨ mode = .force) ∧
    options.output = .options { mode, validate := .bool validate, atomic := .bool atomic }
  replaced : options.replaced = []

theorem wellTyped_default : WellTyped {} where
  crud := ⟨true, rfl⟩
  placeholder := ⟨"_placeholder", rfl⟩
  reservedNames := ⟨["query", "mutation"], rfl⟩
  reservedStart := ⟨"_", rfl⟩
  dateScalars := ⟨["Date", "DateTime"], rfl⟩
  comment := ⟨true, rfl⟩
  suffix := ⟨".graphql", rfl⟩
  output := ⟨.refuse, true, true, .inl rfl, rfl⟩
  replaced := rfl

theorem texts_strings (names : List String) : texts (.arr (names.map .str)) = .ok names := by
  rw [texts, List.mapM_map, Traversal.mapM_eq_ok]
  induction names with
  | nil => exact .nil
  | cons name rest ih => exact .cons rfl ih

theorem WellTyped.isReserved {options : Options} (wellTyped : options.WellTyped) (name : String) :
    ∃ reserved, options.isReserved name = .ok reserved := by
  obtain ⟨names, namesEq⟩ := wellTyped.reservedNames
  obtain ⟨start, startEq⟩ := wellTyped.reservedStart
  simp only [Options.isReserved, wellTyped.replaced, namesEq, startEq, present, texts_strings, bind,
    Except.bind, List.not_mem_nil, if_false, pure, Except.pure]
  split
  · exact ⟨_, rfl⟩
  · split
    · exact ⟨_, rfl⟩
    · exact ⟨_, rfl⟩

theorem WellTyped.isDateScalar {options : Options} (wellTyped : options.WellTyped)
    (expression : String) : ∃ answer, options.isDateScalar expression = .ok answer := by
  obtain ⟨names, namesEq⟩ := wellTyped.dateScalars
  rw [Options.isDateScalar, namesEq]
  exact ⟨_, rfl⟩

/-- The options with derived declarations wanted or not. -/
def withCrud (options : Options) (wanted : Bool) : Options :=
  { options with crud := .bool wanted }

theorem WellTyped.withCrud {options : Options} (wellTyped : options.WellTyped) (wanted : Bool) :
    (options.withCrud wanted).WellTyped :=
  { wellTyped with crud := ⟨wanted, rfl⟩ }

end Options

namespace Crud

variable {ctx : Context} {tables : Tables}

/-- An alias has no expression, so a shape that has one stands behind no alias. -/
theorem unaliased_of_lower {type : Node} {expression : String}
    (lowered : Expression.lower ctx type = .ok expression) : type.unaliased = type := by
  cases type with
  | «alias» target documentation => cases lowered
  | _ => rfl

/-- A type that has an expression has a shape. -/
theorem exists_ofOptional {type : Option Node} {expression : String}
    (lowered : Expression.lowerOptional ctx type = .ok expression) :
    ∃ shape, FieldShape.ofOptional ctx tables type = .ok shape := by
  cases type with
  | none => exact ⟨none, rfl⟩
  | some type =>
    have lowered : Expression.lower ctx type = .ok expression := lowered
    have plain := unaliased_of_lower lowered
    refine ⟨some (FieldShape.classify ctx tables type expression), ?_⟩
    rw [FieldShape.ofOptional, FieldShape.ofNode, plain, lowered]
    rfl

theorem exists_filterClauses {options : Options} (wellTyped : options.WellTyped) (name : String)
    (shape : FieldShape) :
    ∃ clauses, FieldShape.filterClauses options name shape = .ok clauses := by
  obtain ⟨isDate, decided⟩ := wellTyped.isDateScalar shape.expression
  unfold FieldShape.filterClauses
  split
  any_goals exact ⟨_, rfl⟩
  rw [decided]
  cases isDate with
  | false => exact ⟨_, rfl⟩
  | true => exact ⟨_, rfl⟩

/-- A field that the declaration of its type is written with has a type with an expression. -/
theorem lowered_of_memberField {member : Member} {line : Field} {field : TypeField}
    (rendered : Emission.memberField ctx member = .ok line)
    (kept : TypeField.ofMember? member = some field) :
    ∃ expression, Expression.lowerOptional ctx field.type = .ok expression := by
  cases member with
  | property declaration =>
    cases kept
    obtain ⟨expression, lowered, _⟩ := Traversal.bind_eq_ok.mp rendered
    exact ⟨expression, lowered⟩
  | method declaration =>
    simp only [TypeField.ofMember?, List.isEmpty_iff] at kept
    split at kept
    · next none =>
      cases kept
      rw [Emission.memberField, none] at rendered
      obtain ⟨arguments, _, rendered⟩ := Traversal.bind_eq_ok.mp rendered
      obtain ⟨expression, lowered, _⟩ := Traversal.bind_eq_ok.mp rendered
      exact ⟨expression, lowered⟩
    · cases kept

theorem exists_inputBy {fields : List TypeField}
    (shaped : ∀ field ∈ fields, ∃ shape, FieldShape.ofOptional ctx tables field.type = .ok shape)
    (rule : TypeField → FieldShape → Option Field) (role : InputRole) (name : String) :
    ∃ block, inputBy ctx tables rule role fields name = .ok block := by
  have each : ∃ clauses, fields.mapM (clauseBy ctx tables rule) = .ok clauses := by
    apply Traversal.exists_mapM_eq_ok.mpr
    intro field member
    obtain ⟨shape, found⟩ := shaped field member
    exact ⟨_, Traversal.map_eq_ok.mpr ⟨shape, found, rfl⟩⟩
  obtain ⟨clauses, found⟩ := each
  exact ⟨_, inputBy_eq_ok.mpr ⟨_, Traversal.map_eq_ok.mpr ⟨clauses, found, rfl⟩, rfl⟩⟩

theorem exists_whereInput (wellTyped : ctx.options.WellTyped) {fields : List TypeField}
    (shaped : ∀ field ∈ fields, ∃ shape, FieldShape.ofOptional ctx tables field.type = .ok shape)
    (name : String) : ∃ block, whereInput ctx tables fields name = .ok block := by
  have each : ∃ clauses,
      fields.mapM (fun field => filterClauses ctx tables field.name field.type) = .ok clauses := by
    apply Traversal.exists_mapM_eq_ok.mpr
    intro field member
    obtain ⟨shape, found⟩ := shaped field member
    rw [filterClauses_eq, filtersOf, found]
    cases shape with
    | none => exact ⟨[], rfl⟩
    | some shape =>
      obtain ⟨clauses, filtered⟩ := exists_filterClauses wellTyped field.name shape
      exact ⟨clauses, by simp only [bind, Except.bind, filtered]; rfl⟩
  obtain ⟨clauses, found⟩ := each
  exact ⟨_, Traversal.bind_eq_ok.mpr ⟨clauses, found, rfl⟩⟩

/-- Fields that have shapes give every derived declaration. -/
theorem exists_block (wellTyped : ctx.options.WellTyped) {fields : List TypeField}
    (shaped : ∀ field ∈ fields, ∃ shape, FieldShape.ofOptional ctx tables field.type = .ok shape)
    (name : String) (artifact : Artifact) :
    ∃ block, artifact.block ctx tables fields name = .ok block := by
  cases artifact with
  | createInput =>
    rw [Artifact.block, createInput_eq]
    exact exists_inputBy shaped createRule .create name
  | updateInput =>
    rw [Artifact.block, updateInput_eq]
    exact exists_inputBy shaped updateRule .update name
  | updateManyMutationInput =>
    rw [Artifact.block, updateManyMutationInput_eq]
    exact exists_inputBy shaped updateManyRule .updateManyMutation name
  | whereInput => exact exists_whereInput wellTyped shaped name
  | _ => exact ⟨_, rfl⟩

theorem length_of_generate {origin : Option String} {declaration : Interface} {name : String}
    {artifacts : List Block}
    (generated : generate ctx tables origin declaration name = .ok artifacts) :
    artifacts.length = 13 := by
  obtain ⟨fields, _, written⟩ := Traversal.bind_eq_ok.mp generated
  exact (Traversal.mapM_eq_ok.mp written).length_eq.symm

/-- An interface whose own declaration is written has all its derived declarations. -/
theorem exists_generate (wellTyped : ctx.options.WellTyped) (tables : Tables)
    {origin : Option String} {declaration : Interface} {members : List Member} {body : List Line}
    (shown : Inheritance.shownMembers ctx origin declaration = .ok members)
    (rendered : Emission.interfaceBody ctx members = .ok body) (name : String) :
    ∃ artifacts, generate ctx tables origin declaration name = .ok artifacts := by
  obtain ⟨lines, linesOk, _⟩ := Traversal.bind_eq_ok.mp rendered
  have shaped : ∀ field ∈ members.filterMap TypeField.ofMember?,
      ∃ shape, FieldShape.ofOptional ctx tables field.type = .ok shape := by
    intro field chosen
    obtain ⟨member, isMember, kept⟩ := List.mem_filterMap.mp chosen
    obtain ⟨line, ofMember⟩ := Traversal.exists_mapM_eq_ok.mp ⟨lines, linesOk⟩ member isMember
    obtain ⟨expression, lowered⟩ := lowered_of_memberField ofMember kept
    exact exists_ofOptional lowered
  have kept : fields ctx origin declaration = .ok (members.filterMap TypeField.ofMember?) :=
    Traversal.bind_eq_ok.mpr ⟨members, shown, rfl⟩
  obtain ⟨artifacts, written⟩ := Traversal.exists_mapM_eq_ok.mpr fun artifact _ =>
    exists_block wellTyped shaped name artifact
  exact ⟨artifacts, Traversal.bind_eq_ok.mpr ⟨_, kept, written⟩⟩

end Crud

/-- Contexts that differ in whether derived declarations are wanted write shapes alike. -/
theorem Context.respells_withCrud (options : Options) (graph : Graph) :
    (ofGraph (options.withCrud true) graph).Respells id
      (ofGraph (options.withCrud false) graph) where
  graph := Graph.respells_id fun _ => rfl
  weight := rfl
  placeholder := rfl
  dateScalars := rfl
  name _ := rfl
  spelled _ := rfl

namespace Emission

/-- Whether a declared symbol is a type that has derived declarations, where they are wanted. -/
def derives (options : Options) (entry : String × Node) : Bool :=
  match entry.2, options.isReserved entry.1 with
  | .interface declaration, .ok reserved => isObjectType declaration && !reserved
  | _, _ => false

/-- Whether a declared symbol is written with derived declarations. -/
def showsDerived (options : Options) (entry : String × Node) : Bool :=
  options.crud.isTrue && derives options entry

/-- The blocks of a declared symbol without its derived declarations. -/
def withoutDerived (options : Options) (entry : String × Node) (blocks : List Block) :
    List Block :=
  if derives options entry then blocks.take 1 else blocks

variable {options : Options} {tables : Tables} {origin : Option String} {declaration : Interface}
  {symbol : String}

theorem isObjectType_of_derives (derived : derives options (symbol, .interface declaration)) :
    isObjectType declaration := by
  unfold derives at derived
  split at derived
  · next same _ =>
    cases same
    exact (Bool.and_eq_true_iff.mp derived).1
  · cases derived

theorem wantsCrud_eq_ok {wanted : Bool} (asked : wantsCrud options symbol = .ok wanted)
    (objectType : isObjectType declaration) :
    wanted = showsDerived options (symbol, .interface declaration) := by
  unfold wantsCrud at asked
  unfold showsDerived
  split at asked
  · next crud =>
    obtain ⟨reserved, decided, same⟩ := Traversal.bind_eq_ok.mp asked
    cases same
    simp [derives, Traversal.mapError_eq_ok.mp decided, objectType, crud]
  · next crud =>
    cases asked
    rw [Bool.eq_false_iff.mpr crud]
    rfl

/-- The declarations derived from an interface are written where they are shown. -/
theorem derivedBlocks_eq_ok {ctx : Context} {derived : List Block}
    (attached : derivedBlocks ctx tables origin declaration symbol = .ok derived) :
    if showsDerived ctx.options (symbol, .interface declaration) then
      Crud.generate ctx tables origin declaration (ctx.name symbol) = .ok derived
    else derived = [] := by
  unfold derivedBlocks at attached
  split at attached
  · next objectType =>
    obtain ⟨wanted, asked, attached⟩ := Traversal.bind_eq_ok.mp attached
    rw [← wantsCrud_eq_ok asked objectType]
    cases wanted with
    | false =>
      cases attached
      rfl
    | true => exact attached
  · next objectType =>
    cases attached
    rw [if_neg]
    intro wanted
    exact objectType (isObjectType_of_derives (Bool.and_eq_true_iff.mp wanted).2)

theorem ownHeader_of_isObjectType (ctx : Context) (objectType : isObjectType declaration)
    (symbol : String) :
    ownHeader ctx declaration symbol
      = .declaration .type (ctx.name symbol) (typeDecoration declaration.marks) := by
  simp only [isObjectType, Bool.and_eq_true, Bool.not_eq_true'] at objectType
  simp [ownHeader, objectType]

theorem fragmentBlocks_of_isObjectType (objectType : isObjectType declaration)
    (members : List Member) : fragmentBlocks declaration members = [] := by
  simp only [isObjectType, Bool.and_eq_true] at objectType
  simp [fragmentBlocks, objectType.2]

theorem derivedBlocks_withCrud_false (graph : Graph) :
    derivedBlocks (Context.ofGraph (options.withCrud false) graph) tables origin declaration symbol
      = .ok [] := by
  unfold derivedBlocks
  split
  · rfl
  · rfl

/-- Where derived declarations are wanted, the types that have them are those that are not
reserved. -/
theorem derivedBlocks_withCrud_true (wellTyped : options.WellTyped) (graph : Graph) :
    derivedBlocks (Context.ofGraph (options.withCrud true) graph) tables origin declaration symbol =
      if derives options (symbol, .interface declaration) then
        Crud.generate (Context.ofGraph (options.withCrud true) graph) tables origin declaration
          ((Context.ofGraph (options.withCrud true) graph).name symbol)
      else .ok [] := by
  obtain ⟨reserved, decided⟩ := wellTyped.isReserved symbol
  have decidedWanted : (options.withCrud true).isReserved symbol = .ok reserved := decided
  have asked : wantsCrud (options.withCrud true) symbol = .ok !reserved := by
    rw [wantsCrud, decidedWanted]
    rfl
  simp only [derivedBlocks, derives, Context.ofGraph_options, asked, decided, bind, Except.bind]
  cases isObjectType declaration with
  | false => rfl
  | true =>
    cases reserved with
    | false => rfl
    | true => rfl

theorem shownMembers_withCrud (options : Options) (graph : Graph) (origin : Option String)
    (declaration : Interface) :
    Inheritance.shownMembers (Context.ofGraph (options.withCrud false) graph) origin declaration
      = Inheritance.shownMembers (Context.ofGraph (options.withCrud true) graph) origin
        declaration := by
  have same := Inheritance.shownMembers_respell (Context.respells_withCrud options graph) origin
    declaration
  rw [declaration.respell_id] at same
  rw [same]
  cases Inheritance.shownMembers (Context.ofGraph (options.withCrud true) graph) origin
      declaration with
  | error error => rfl
  | ok members => rw [Except.map, map_respell_id]

theorem interfaceBody_withCrud (options : Options) (graph : Graph) (members : List Member) :
    interfaceBody (Context.ofGraph (options.withCrud false) graph) members
      = interfaceBody (Context.ofGraph (options.withCrud true) graph) members := by
  have same := interfaceBody_respell (Context.respells_withCrud options graph) members
  rwa [map_respell_id] at same

/-- The blocks of an interface where derived declarations are not wanted are those where they are,
without them; and they do not fail where its own block does not. -/
theorem interfaceBlocks_withCrud (wellTyped : options.WellTyped) (graph : Graph)
    (others : Tables) :
    interfaceBlocks (Context.ofGraph (options.withCrud false) graph) others origin declaration
        symbol
      = (interfaceBlocks (Context.ofGraph (options.withCrud true) graph) tables origin declaration
          symbol).map (withoutDerived options (symbol, .interface declaration)) := by
  have header : ownHeader (Context.ofGraph (options.withCrud false) graph) declaration symbol
      = ownHeader (Context.ofGraph (options.withCrud true) graph) declaration symbol := rfl
  rw [interfaceBlocks_eq, interfaceBlocks_eq, shownMembers_withCrud, header]
  cases shown : Inheritance.shownMembers (Context.ofGraph (options.withCrud true) graph) origin
      declaration with
  | error error => rfl
  | ok members =>
    simp only [bind, Except.bind, interfaceBody_withCrud]
    cases rendered : interfaceBody (Context.ofGraph (options.withCrud true) graph) members with
    | error error => rfl
    | ok body =>
      obtain ⟨artifacts, written⟩ := Crud.exists_generate (wellTyped.withCrud true) tables shown
        rendered ((Context.ofGraph (options.withCrud true) graph).name symbol)
      rw [derivedBlocks_withCrud_false, derivedBlocks_withCrud_true wellTyped, written]
      by_cases derived : derives options (symbol, .interface declaration)
      · have noFragment :=
          fragmentBlocks_of_isObjectType (isObjectType_of_derives derived) members
        simp [withoutDerived, derived, noFragment, pure, Except.pure, Except.map]
      · simp [withoutDerived, derived, pure, Except.pure, Except.map]

/-- A type that has derived declarations is written as its own block and then all of them. -/
theorem interfaceBlocks_of_derives (wellTyped : options.WellTyped) {graph : Graph}
    {blocks : List Block} (derived : derives options (symbol, .interface declaration))
    (written : interfaceBlocks (Context.ofGraph (options.withCrud true) graph) tables origin
      declaration symbol = .ok blocks) :
    ∃ body artifacts,
      blocks = .braced (.declaration .type
        ((Context.ofGraph (options.withCrud true) graph).name symbol)
        (typeDecoration declaration.marks)) body :: artifacts ∧
      Crud.generate (Context.ofGraph (options.withCrud true) graph) tables origin declaration
        ((Context.ofGraph (options.withCrud true) graph).name symbol) = .ok artifacts := by
  have objectType := isObjectType_of_derives derived
  rw [interfaceBlocks_eq, derivedBlocks_withCrud_true wellTyped, if_pos derived,
    ownHeader_of_isObjectType _ objectType] at written
  obtain ⟨members, _, written⟩ := Traversal.bind_eq_ok.mp written
  obtain ⟨body, _, written⟩ := Traversal.bind_eq_ok.mp written
  obtain ⟨artifacts, generated, same⟩ := Traversal.bind_eq_ok.mp written
  rw [fragmentBlocks_of_isObjectType objectType, List.append_nil] at same
  cases same
  exact ⟨body, artifacts, rfl, generated⟩

/-- The group of a declared symbol where derived declarations are not wanted is the one where they
are, without them. -/
theorem group_withCrud (wellTyped : options.WellTyped) (graph : Graph) (entry : String × Node) :
    group (Context.ofGraph (options.withCrud false) graph) entry
      = (group (Context.ofGraph (options.withCrud true) graph) entry).map
        (withoutDerived options entry) := by
  obtain ⟨symbol, node⟩ := entry
  dsimp only [group]
  by_cases interface : ∃ declaration, node = .interface declaration
  · obtain ⟨declaration, rfl⟩ := interface
    simp only [declarationBlocks]
    rw [interfaceBlocks_withCrud wellTyped graph]
    cases interfaceBlocks (Context.ofGraph (options.withCrud true) graph)
        (Context.ofGraph (options.withCrud true) graph).declaredTables (some symbol) declaration
        symbol with
    | error error => rfl
    | ok blocks => rfl
  · have none : derives options (symbol, node) = false := by
      unfold derives
      split
      · next declaration _ same _ => exact absurd ⟨declaration, same⟩ interface
      · rfl
    have kept : withoutDerived options (symbol, node) = id := by
      funext blocks
      simp [withoutDerived, none]
    rw [kept, Except.map_id, id_eq]
    nth_rewrite 1 [← node.respell_id false]
    apply declarationBlocks_respell (Context.respells_withCrud options graph)
    intro declaration isInterface
    exact absurd ⟨declaration, isInterface⟩ interface

/-- The group of a type that has derived declarations. -/
theorem group_of_derives (wellTyped : options.WellTyped) {graph : Graph} {entry : String × Node}
    {blocks : List Block} (derived : derives options entry)
    (written : group (Context.ofGraph (options.withCrud true) graph) entry = .ok blocks) :
    ∃ declaration body artifacts, entry.2 = .interface declaration ∧
      blocks = .braced (.declaration .type
        ((Context.ofGraph (options.withCrud true) graph).name entry.1)
        (typeDecoration declaration.marks)) body :: artifacts ∧
      Crud.generate (Context.ofGraph (options.withCrud true) graph)
        (Context.ofGraph (options.withCrud true) graph).declaredTables (some entry.1) declaration
        ((Context.ofGraph (options.withCrud true) graph).name entry.1) = .ok artifacts := by
  obtain ⟨symbol, node⟩ := entry
  cases node with
  | interface declaration =>
    obtain ⟨result, declared, rfl⟩ := Traversal.map_eq_ok.mp written
    obtain ⟨blocks, own, same⟩ := Traversal.bind_eq_ok.mp declared
    cases same
    obtain ⟨body, artifacts, blocksEq, generated⟩ :=
      interfaceBlocks_of_derives wellTyped derived own
    exact ⟨declaration, body, artifacts, rfl, blocksEq, generated⟩
  | _ => cases derived

end Emission

namespace Graph

variable {options : Options} {graph : Graph}

/-- What a pass writes where derived declarations are not wanted. -/
theorem mapM_group_withCrud (wellTyped : options.WellTyped) (graph : Graph) :
    (Context.ofGraph (options.withCrud false) graph).emitted.mapM
        (Emission.group (Context.ofGraph (options.withCrud false) graph))
      = ((Context.ofGraph (options.withCrud true) graph).emitted.mapM
          (Emission.group (Context.ofGraph (options.withCrud true) graph))).map
        (List.zipWith (Emission.withoutDerived options)
          (Context.ofGraph (options.withCrud true) graph).emitted) :=
  Traversal.mapM_adjusted fun entry => Emission.group_withCrud wellTyped graph entry

/-- Wanting derived declarations changes neither whether a schema can be written nor the failure. -/
theorem schema_withCrud_eq_error (wellTyped : options.WellTyped) {error : LoweringError} :
    graph.schema (options.withCrud false) = .error error
      ↔ graph.schema (options.withCrud true) = .error error := by
  rw [schema_eq, schema_eq, mapM_group_withCrud wellTyped]
  cases (Collapse.run graph graph.entries).failure with
  | some failure => rfl
  | none =>
    cases (Context.ofGraph (options.withCrud true) graph).emitted.mapM
        (Emission.group (Context.ofGraph (options.withCrud true) graph)) with
    | error failure => rfl
    | ok groups => simp [Except.map]

theorem Writes.withoutDerived {groups : List (List Block)} (wellTyped : options.WellTyped)
    (writes : graph.Writes (options.withCrud true) groups) :
    graph.Writes (options.withCrud false)
      (List.zipWith (Emission.withoutDerived options)
        (Context.ofGraph (options.withCrud true) graph).emitted groups) where
  begins := writes.begins
  written := by
    rw [mapM_group_withCrud wellTyped, writes.written]
    rfl

/-- Derived declarations are an addition. A schema is written with them when it is written without
them, and fails with the same failure; the schema without them is the schema with them, less the
thirteen blocks that follow each concrete type that is neither a root, an input nor reserved. In
particular an interface whose own declaration can be written has them all. -/
theorem schema_derived_addition (wellTyped : options.WellTyped) (graph : Graph) :
    let ctx := Context.ofGraph (options.withCrud true) graph
    (∀ error, graph.schema (options.withCrud false) = .error error
      ↔ graph.schema (options.withCrud true) = .error error) ∧
    (∀ text, graph.schema (options.withCrud true) = .ok text →
      ∃ groups, graph.Writes (options.withCrud true) groups ∧ text = textOf groups ∧
        graph.schema (options.withCrud false)
          = .ok (textOf (List.zipWith (Emission.withoutDerived options) ctx.emitted groups)) ∧
        List.Forall₂ (fun entry blocks => Emission.derives options entry →
          ∃ declaration body artifacts, entry.2 = .interface declaration ∧
            blocks = .braced (.declaration .type (ctx.name entry.1)
              (Emission.typeDecoration declaration.marks)) body :: artifacts ∧
            Crud.generate ctx ctx.declaredTables (some entry.1) declaration (ctx.name entry.1)
              = .ok artifacts ∧
            artifacts.length = 13) ctx.emitted groups) ∧
    (∀ tables origin declaration members body name,
      Inheritance.shownMembers ctx origin declaration = .ok members →
      Emission.interfaceBody ctx members = .ok body →
      ∃ artifacts, Crud.generate ctx tables origin declaration name = .ok artifacts) := by
  intro ctx
  refine ⟨fun error => schema_withCrud_eq_error wellTyped, ?_, ?_⟩
  · intro text finished
    obtain ⟨groups, writes, rfl⟩ := schema_eq_ok_iff.mp finished
    refine ⟨groups, writes, rfl, ?_, ?_⟩
    · exact schema_eq_ok_iff.mpr ⟨_, writes.withoutDerived wellTyped, rfl⟩
    · apply (Traversal.mapM_eq_ok.mp writes.written).imp
      intro entry blocks written derived
      obtain ⟨declaration, body, artifacts, isInterface, same, generated⟩ :=
        Emission.group_of_derives wellTyped derived written
      exact ⟨declaration, body, artifacts, isInterface, same, generated,
        Crud.length_of_generate generated⟩
  · intro tables origin declaration members body name shown rendered
    exact Crud.exists_generate (wellTyped.withCrud true) tables shown rendered name

/-- Paints, whose only type has derived declarations. -/
theorem schema_derived_addition_paints :
    (Context.ofGraph {} paints).emitted.map (Emission.derives {}) = [false, false, false, true] ∧
    ∃ groups, paints.schema (Options.withCrud {} true) = .ok (textOf groups) ∧
      paints.schema (Options.withCrud {} false)
        = .ok (textOf (List.zipWith (Emission.withoutDerived {})
          (Context.ofGraph (Options.withCrud {} true) paints).emitted groups)) := by
  obtain ⟨written, writes⟩ := emit_failure_eq_none_iff.mp emit_paints
  have text := schema_eq_ok_iff.mpr ⟨written, writes, rfl⟩
  obtain ⟨groups, _, same, without, _⟩ :=
    (schema_derived_addition Options.wellTyped_default paints).2.1 _ text
  exact ⟨by decide +kernel, groups, same ▸ text, without⟩

end Graph

end SchemaLowering
