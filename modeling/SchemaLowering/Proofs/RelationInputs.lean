import SchemaLowering.Proofs.DerivedDeclarations
import SchemaLowering.Proofs.DerivedNames

/-!
Derived declarations name each other across types: a field that relates to a type is set and
filtered through the derived inputs of that type, and any other field through what its own type is
written with. All these names are declared, provided that what the types of fields refer to, at any
depth, is a value or a type that has derived declarations. A single reference to an enum or a scalar
is no relation, but a list whose first element is a reference always counts as one.
-/

namespace SchemaLowering

namespace Graph

/-- Whether a reference to a symbol is written as a value: an enum, a scalar or an identifier. -/
def isValue (graph : Graph) (symbol : String) : Bool :=
  match graph.find? symbol with
  | some (.enum _) => true
  | some (.alias target documentation) =>
    target.isPrimitive || Mark.has (Mark.ofDocumentation documentation) .identifier
  | _ => false

/-- Whether a symbol is a type that has derived declarations, where they are wanted. -/
def hasDerived (options : Options) (graph : Graph) (symbol : String) : Bool :=
  (graph.find? symbol).any fun node => Emission.derives options (symbol, node)

theorem exists_interface_of_hasDerived {options : Options} {graph : Graph} {symbol : String}
    (derived : graph.hasDerived options symbol = true) :
    ∃ declaration, graph.find? symbol = some (.interface declaration) ∧
      Emission.derives options (symbol, .interface declaration) = true := by
  unfold hasDerived at derived
  cases found : graph.find? symbol with
  | none =>
    rw [found] at derived
    cases derived
  | some node =>
    rw [found, Option.any_some] at derived
    cases node with
    | interface declaration => exact ⟨declaration, rfl, derived⟩
    | _ => simp [Emission.derives] at derived

/-- Whether a reference to a symbol is written as a value or leads to a type with derived
declarations. -/
def isCovered (options : Options) (graph : Graph) (symbol : String) : Bool :=
  graph.isValue symbol || graph.hasDerived options symbol

/-- Whether a list that begins with a reference, which always counts as a relation, leads to a type
with derived declarations. -/
def listsDerived (options : Options) (graph : Graph) : Node → Bool
  | .array (.reference target :: _) => graph.hasDerived options target
  | _ => true

/-- Whether the type of a field refers only to what is declared: every symbol that its expression
names, at any depth, is a value or has derived declarations, and so has the one that a list begins
with. -/
def refersThroughout (options : Options) (graph : Graph) (type : Option Node) : Bool :=
  type.all fun node =>
    (Expression.references (Context.ofGraph options graph) node).all (graph.isCovered options) &&
      graph.listsDerived options node

/-- Whether the types of all fields that derived declarations are made of satisfy a condition. -/
def allDerivedFields (options : Options) (graph : Graph) (condition : Option Node → Bool) : Bool :=
  graph.entries.all fun (symbol, node) =>
    match node with
    | .interface declaration =>
      !Emission.derives options (symbol, node) ||
        match Crud.fields (Context.ofGraph options graph) (some symbol) declaration with
        | .ok fields => fields.all (condition ·.type)
        | .error _ => true
    | _ => true

theorem condition_of_allDerivedFields {options : Options} {graph : Graph} {symbol : String}
    {condition : Option Node → Bool} {declaration : Interface} {fields : List Crud.TypeField}
    (all : graph.allDerivedFields options condition = true)
    (isEntry : (symbol, .interface declaration) ∈ graph.entries)
    (derived : Emission.derives options (symbol, .interface declaration) = true)
    (kept : Crud.fields (Context.ofGraph options graph) (some symbol) declaration = .ok fields) :
    ∀ field ∈ fields, condition field.type = true := by
  have own := List.all_eq_true.mp all _ isEntry
  simp only [derived, kept, Bool.not_true, Bool.false_or] at own
  exact List.all_eq_true.mp own

end Graph

namespace Context

variable {options : Options} {graph : Graph} {symbol : String} {node : Node}

theorem isEnum_name (distinct : graph.symbols.Nodup) (found : graph.find? symbol = some node)
    (kept : Collapse.renamed? graph node = none)
    (isEnum : Collapse.declaresEnum graph node = true) :
    (ofGraph options graph).declaredTables.isEnum ((ofGraph options graph).name symbol) = true := by
  rw [Tables.isEnum, decide_eq_true_eq, declaredTables_enums, List.mem_eraseDups,
    mem_ofGraph_namesWhere distinct]
  exact ⟨symbol, node, found, kept, isEnum, rfl⟩

theorem isScalar_name (distinct : graph.symbols.Nodup) (found : graph.find? symbol = some node)
    (kept : Collapse.renamed? graph node = none) (isScalar : Collapse.declaresScalar node = true) :
    (ofGraph options graph).declaredTables.isScalar ((ofGraph options graph).name symbol)
      = true := by
  rw [Tables.isScalar, decide_eq_true_eq, declaredTables_scalars, List.mem_eraseDups,
    mem_ofGraph_namesWhere distinct]
  exact ⟨symbol, node, found, kept, isScalar, rfl⟩

theorem name_of_renamed {name : String} (distinct : graph.symbols.Nodup)
    (found : graph.find? symbol = some node) (renamed : Collapse.renamed? graph node = some name) :
    (ofGraph options graph).name symbol = Text.identifier name := by
  rw [ofGraph_name distinct, found, Option.bind_some, renamed, Option.getD_some]

theorem name_of_kept (distinct : graph.symbols.Nodup) (found : graph.find? symbol = some node)
    (kept : Collapse.renamed? graph node = none) :
    (ofGraph options graph).name symbol = Text.identifier symbol := by
  rw [ofGraph_name distinct, found, Option.bind_some, kept, Option.getD_none]

/-- How the name of a reference to a value is recognised. -/
def WritesValue (ctx : Context) (symbol : String) : Prop :=
  ctx.name symbol = identifierScalar ∨
    ctx.declaredTables.isEnum (ctx.name symbol) = true ∨
    ctx.declaredTables.isScalar (ctx.name symbol) = true

theorem writesValue_of_identifier (distinct : graph.symbols.Nodup)
    (found : graph.find? symbol = some node)
    (collapsed : Collapse.target? graph node = .ok (some identifierScalar)) :
    (ofGraph options graph).WritesValue symbol := by
  left
  rw [name_of_renamed distinct found (Collapse.renamed?_of_target? collapsed)]
  decide

theorem target?_of_not_reference {target : Node} (plain : ∀ other, target ≠ .reference other)
    (documentation : Option Documentation) :
    Collapse.target? graph (.alias target documentation)
      = .ok (if Mark.has (Mark.ofDocumentation documentation) .identifier then
          some identifierScalar else none) := by
  rw [Collapse.target?]
  · rfl
  · exact plain

/-- No symbol of a graph that is written stands for a bare primitive. -/
theorem not_primitive {groups : List (List Block)} {kind : Primitive}
    (distinct : graph.symbols.Nodup) (writes : graph.Writes options groups) :
    graph.find? symbol ≠ some (.primitive kind) := by
  intro found
  have emitted : (symbol, .primitive kind) ∈ (ofGraph options graph).emitted :=
    mem_ofGraph_emitted.mpr ⟨(Graph.find?_eq_some_iff distinct).mp found, rfl⟩
  obtain ⟨blocks, _, written⟩ := Traversal.exists_result_of_mem writes.written emitted
  obtain ⟨after, declares⟩ := Emission.declares_of_group written
  cases declares

/-- An alias of a symbol that is marked as an identifier stands for an enum or for the identifier
scalar. -/
theorem writesValue_of_marked {groups : List (List Block)} {other : String}
    {documentation : Option Documentation} (distinct : graph.symbols.Nodup)
    (writes : graph.Writes options groups)
    (found : graph.find? symbol = some (.alias (.reference other) documentation))
    (marked : Mark.has (Mark.ofDocumentation documentation) .identifier = true) :
    (ofGraph options graph).WritesValue symbol := by
  obtain ⟨name, collapsed⟩ := writes.begins _ (Graph.mem_entries_of_find? found)
  obtain ⟨referenced, resolved, rest⟩ := Traversal.bind_eq_ok.mp collapsed
  have foundOther := Graph.resolve_eq_ok.mp resolved
  cases referenced with
  | primitive kind => exact absurd foundOther (not_primitive distinct writes)
  | enum values =>
    cases rest
    right; left
    rw [name_of_renamed distinct found (Collapse.renamed?_of_target? collapsed),
      ← name_of_kept distinct foundOther rfl]
    exact isEnum_name distinct foundOther rfl rfl
  | _ =>
    simp only [marked, if_true] at rest
    cases rest
    exact writesValue_of_identifier distinct found collapsed

theorem writesValue_of_isValue {groups : List (List Block)} (distinct : graph.symbols.Nodup)
    (writes : graph.Writes options groups) (value : graph.isValue symbol = true) :
    (ofGraph options graph).WritesValue symbol := by
  unfold Graph.isValue at value
  split at value
  · next values found => exact .inr (.inl (isEnum_name distinct found rfl rfl))
  · next target documentation found =>
    cases marked : Mark.has (Mark.ofDocumentation documentation) .identifier with
    | true =>
      cases target with
      | reference other => exact writesValue_of_marked distinct writes found marked
      | _ =>
        apply writesValue_of_identifier distinct found
        rw [target?_of_not_reference (by simp), marked]
        rfl
    | false =>
      rw [marked, Bool.or_false] at value
      cases target with
      | primitive kind =>
        have kept : Collapse.renamed? graph (.alias (.primitive kind) documentation) = none := by
          apply Collapse.renamed?_of_target?
          rw [target?_of_not_reference (by simp), marked]
          rfl
        exact .inr (.inr (isScalar_name distinct found kept rfl))
      | _ => cases value
  · cases value

end Context

namespace Emission

variable {options : Options} {graph : Graph} {groups : List (List Block)} {symbol element : String}
  {declaration : Interface}

/-- The fields of a type that is written have types with an expression. -/
theorem lowered_of_field {ctx : Context} {origin : Option String} {members : List Member}
    {body : List Line} {fields : List Crud.TypeField}
    (shown : Inheritance.shownMembers ctx origin declaration = .ok members)
    (rendered : interfaceBody ctx members = .ok body)
    (kept : Crud.fields ctx origin declaration = .ok fields) {field : Crud.TypeField}
    (isField : field ∈ fields) :
    ∃ expression, Expression.lowerOptional ctx field.type = .ok expression := by
  obtain ⟨all, shownHere, same⟩ := Traversal.bind_eq_ok.mp kept
  cases same
  cases shown.symm.trans shownHere
  obtain ⟨lines, each, _⟩ := Traversal.bind_eq_ok.mp rendered
  obtain ⟨member, isMember, ofMember⟩ := List.mem_filterMap.mp isField
  obtain ⟨line, _, ofLine⟩ := Traversal.exists_result_of_mem each isMember
  exact Crud.lowered_of_memberField ofLine ofMember

/-- A declared symbol is declared under its name, unless it is the root of the schema. -/
theorem exists_declaredName {ctx : Context} {entry : String × Node} {blocks : List Block}
    (written : group ctx entry = .ok blocks)
    (notRoot : ∀ declaration, entry.2 = .interface declaration →
      Mark.has declaration.marks .schema = false) :
    ∃ block ∈ blocks, block.declaredName? = some (ctx.name entry.1) := by
  obtain ⟨symbol, node⟩ := entry
  obtain ⟨after, declares⟩ := declares_of_group written
  cases declares with
  | union documentation declares =>
    cases declares with
    | _ => exact ⟨_, List.mem_cons_self, rfl⟩
  | interface shown rendered attached =>
    refine ⟨_, List.mem_cons_self, ?_⟩
    rw [ownHeader, notRoot _ rfl, if_neg Bool.false_ne_true]
    split
    · rfl
    split
    · rfl
    · rfl
  | _ => exact ⟨_, List.mem_cons_self, rfl⟩

/-- Names that are chosen by shapes other than interfaces are declared. -/
theorem exists_declaredName_of_namesWhere {ctx : Context} {condition : Node → Bool} {name : String}
    (written : ctx.emitted.mapM (group ctx) = .ok groups)
    (noInterface : ∀ declaration, condition (.interface declaration) = false)
    (chosen : name ∈ ctx.namesWhere condition) :
    ∃ block ∈ groups.flatten, block.declaredName? = some name := by
  obtain ⟨entry, emitted, holds, rfl⟩ := Context.mem_namesWhere.mp chosen
  obtain ⟨blocks, isGroup, ofEntry⟩ := Traversal.exists_result_of_mem written emitted
  have notRoot : ∀ declaration, entry.2 = .interface declaration →
      Mark.has declaration.marks .schema = false := by
    intro declaration isInterface
    rw [isInterface, noInterface] at holds
    cases holds
  obtain ⟨block, isBlock, declared⟩ := exists_declaredName ofEntry notRoot
  exact ⟨block, List.mem_flatten.mpr ⟨blocks, isGroup, isBlock⟩, declared⟩

/-- A value other than an identifier is declared. -/
theorem exists_declaredName_of_isValue (distinct : graph.symbols.Nodup)
    (writes : graph.Writes options groups) (value : graph.isValue symbol = true) :
    (Context.ofGraph options graph).name symbol = identifierScalar ∨
      ∃ block ∈ groups.flatten,
        block.declaredName? = some ((Context.ofGraph options graph).name symbol) := by
  rcases Context.writesValue_of_isValue distinct writes value with name | isEnum | isScalar
  · exact .inl name
  · rw [Tables.isEnum, decide_eq_true_eq, Context.declaredTables_enums, List.mem_eraseDups]
      at isEnum
    exact .inr (exists_declaredName_of_namesWhere writes.written (fun _ => rfl) isEnum)
  · rw [Tables.isScalar, decide_eq_true_eq, Context.declaredTables_scalars,
      List.mem_eraseDups] at isScalar
    exact .inr (exists_declaredName_of_namesWhere writes.written (fun _ => rfl) isScalar)

/-- A type with derived declarations is declared, and so is every name that is derived from it. -/
theorem exists_declared_of_hasDerived (distinct : graph.symbols.Nodup)
    (writes : graph.Writes options groups) (crud : options.crud.isTrue = true)
    (derived : graph.hasDerived options symbol = true) :
    let name := (Context.ofGraph options graph).name symbol
    (∃ block ∈ groups.flatten, block.declaredName? = some name) ∧
      ∀ role, ∃ block ∈ groups.flatten,
        block.declaredName? = some (Crud.derivedName name role) := by
  obtain ⟨declaration, found, derived⟩ := Graph.exists_interface_of_hasDerived derived
  have emitted : (symbol, .interface declaration) ∈ (Context.ofGraph options graph).emitted :=
    Context.mem_ofGraph_emitted.mpr ⟨(Graph.find?_eq_some_iff distinct).mp found, rfl⟩
  obtain ⟨blocks, isGroup, written⟩ := Traversal.exists_result_of_mem writes.written emitted
  have declared : ∀ name, (∃ block ∈ blocks, block.declaredName? = some name) →
      ∃ block ∈ groups.flatten, block.declaredName? = some name := by
    rintro name ⟨block, isBlock, declared⟩
    exact ⟨block, List.mem_flatten.mpr ⟨blocks, isGroup, isBlock⟩, declared⟩
  obtain ⟨after, declares⟩ := declares_of_group written
  cases declares with
  | interface shown rendered attached =>
    have objectType := isObjectType_of_derives derived
    have wanted := derivedBlocks_eq_ok attached
    rw [Context.ofGraph_options, showsDerived, crud, derived] at wanted
    refine ⟨declared _ ⟨_, List.mem_cons_self, ?_⟩, fun role => declared _ ?_⟩
    · rw [ownHeader_of_isObjectType _ objectType]
      rfl
    · obtain ⟨block, isDerived, ofRole⟩ := Crud.exists_declared_of_generate wanted role
      exact ⟨block, List.mem_cons_of_mem _ (List.mem_append_left _ isDerived), ofRole⟩

end Emission

namespace Graph

/-- A name that is known without a declaration or declared by one of the blocks. -/
def IsDeclared (blocks : List Block) (name : String) : Prop :=
  name ∈ Crud.knownScalars ∨ ∃ block ∈ blocks, block.declaredName? = some name

section

variable {options : Options} {graph : Graph} {groups : List (List Block)} {symbol target : String}

theorem isDeclared_of_isCovered (distinct : graph.symbols.Nodup)
    (writes : graph.Writes options groups) (crud : options.crud.isTrue = true)
    (covered : graph.isCovered options target = true) :
    IsDeclared groups.flatten ((Context.ofGraph options graph).name target) := by
  rcases Bool.or_eq_true_iff.mp covered with value | derived
  · rcases Emission.exists_declaredName_of_isValue distinct writes value with isId | declared
    · exact .inl (isId ▸ by decide)
    · exact .inr declared
  · exact .inr (Emission.exists_declared_of_hasDerived distinct writes crud derived).1

/-- A single reference that is a relation leads to a type with derived declarations: one to a value
has the shape of that value. -/
theorem hasDerived_of_relation (distinct : graph.symbols.Nodup)
    (writes : graph.Writes options groups)
    (covered : graph.isCovered options target = true)
    (notIdentifier : (Context.ofGraph options graph).name target ≠ identifierScalar)
    (notEnum : (Context.ofGraph options graph).declaredTables.isEnum
      ((Context.ofGraph options graph).name target) = false)
    (notScalar : (Context.ofGraph options graph).declaredTables.isScalar
      ((Context.ofGraph options graph).name target) = false) :
    graph.hasDerived options target = true := by
  refine (Bool.or_eq_true_iff.mp covered).resolve_left fun value => ?_
  rcases Context.writesValue_of_isValue distinct writes value with name | isEnum | isScalar
  · exact notIdentifier name
  · rw [notEnum] at isEnum
    cases isEnum
  · rw [notScalar] at isScalar
    cases isScalar

/-- In a graph whose fields refer to what is declared, so do the derived declarations of a type. -/
theorem isDeclared_of_nameSource {fields : List Crud.TypeField} {name : String}
    (distinct : graph.symbols.Nodup) (writes : graph.Writes options groups)
    (crud : options.crud.isTrue = true) (derived : graph.hasDerived options symbol = true)
    (closed : ∀ field ∈ fields, graph.refersThroughout options field.type = true)
    (lowered : ∀ field ∈ fields, ∃ expression,
      Expression.lowerOptional (Context.ofGraph options graph) field.type = .ok expression)
    (source : Crud.NameSource (Context.ofGraph options graph)
      (Context.ofGraph options graph).declaredTables fields
      ((Context.ofGraph options graph).name symbol) name) :
    IsDeclared groups.flatten name := by
  have derivedDeclared {target : String} (derived : graph.hasDerived options target = true) :=
    Emission.exists_declared_of_hasDerived distinct writes crud derived
  -- The type of a field that is written stands behind no alias, and what it refers to is covered.
  have plain {field : Crud.TypeField} {type : Node} (isField : field ∈ fields)
      (typed : field.type = some type) : type.unaliased = type := by
    obtain ⟨expression, ofField⟩ := lowered field isField
    rw [typed] at ofField
    exact Crud.unaliased_of_lower ofField
  have refers {field : Crud.TypeField} {type : Node} (isField : field ∈ fields)
      (typed : field.type = some type) := by
    have well := closed field isField
    rw [refersThroughout, typed, Option.all_some, Bool.and_eq_true, List.all_eq_true] at well
    exact well
  cases source with
  | known isKnown => exact .inl isKnown
  | own => exact .inr (derivedDeclared derived).1
  | derived role => exact .inr ((derivedDeclared derived).2 role)
  | expression isField shaped written =>
    obtain ⟨type, typed, found⟩ := shaped
    have ofType := Crud.FieldShape.lowered_of_ofNode found
    rw [plain isField typed] at ofType
    rcases Expression.mem_typeNames_lowerWithin ofType written with
      isScalar | ⟨target, isReference, rfl⟩
    · have all : ∀ scalar ∈ Expression.primitiveScalars, scalar ∈ Crud.knownScalars := by decide
      exact .inl (all name isScalar)
    · exact isDeclared_of_isCovered distinct writes crud
        ((refers isField typed).1 target isReference)
  | related isField shaped ofShape role =>
    obtain ⟨type, typed, found⟩ := shaped
    obtain ⟨covered, well⟩ := refers isField typed
    obtain ⟨target, rfl, list | ⟨single, notIdentifier, notEnum, notScalar⟩⟩ :=
      Crud.FieldShape.target_of_element? found ofShape
    · obtain ⟨rest, list⟩ := list
      rw [plain isField typed] at list
      rw [list] at well
      exact .inr ((derivedDeclared well).2 role)
    · rw [plain isField typed] at single
      rw [single] at covered
      have isReference : target ∈ Expression.references (Context.ofGraph options graph)
          (.reference target) := List.mem_singleton_self target
      exact .inr ((derivedDeclared (hasDerived_of_relation distinct writes
        (covered target isReference) notIdentifier notEnum notScalar)).2 role)

end

/-- The derived declarations of a symbol, where there are any, are written with names that are known
or declared. -/
def NamesDeclared (ctx : Context) (all : List Block) (entry : String × Node)
    (blocks : List Block) : Prop :=
  Emission.showsDerived ctx.options entry = true →
    ∃ own derived, blocks = own :: derived ∧
      List.Forall₂ (fun artifact block =>
        (∃ body, block = .braced (artifact.header (ctx.name entry.1)) body) ∧
          ∀ name ∈ block.typeNames, IsDeclared all name) Crud.Artifact.all derived

theorem namesDeclared_of_group {options : Options} {graph : Graph} {groups : List (List Block)}
    {entry : String × Node} {blocks : List Block} (distinct : graph.symbols.Nodup)
    (closed : graph.allDerivedFields options (graph.refersThroughout options) = true)
    (writes : graph.Writes options groups)
    (emitted : entry ∈ (Context.ofGraph options graph).emitted)
    (written : Emission.group (Context.ofGraph options graph) entry = .ok blocks) :
    NamesDeclared (Context.ofGraph options graph) groups.flatten entry blocks := by
  intro shows
  obtain ⟨symbol, node⟩ := entry
  obtain ⟨crud, derives⟩ := Bool.and_eq_true_iff.mp shows
  have isEntry := (Context.mem_ofGraph_emitted.mp emitted).1
  obtain ⟨after, declares⟩ := Emission.declares_of_group written
  cases declares with
  | @interface declaration members body derived shown rendered attached =>
    have wanted := Emission.derivedBlocks_eq_ok attached
    rw [if_pos shows] at wanted
    obtain ⟨fields, kept, each⟩ := Traversal.bind_eq_ok.mp wanted
    have objectType := Emission.isObjectType_of_derives derives
    rw [Emission.fragmentBlocks_of_isObjectType objectType, List.append_nil]
    refine ⟨_, derived, rfl, (Traversal.mapM_eq_ok.mp each).imp ?_⟩
    intro artifact block ofArtifact
    refine ⟨Crud.Artifact.block_eq_braced ofArtifact, fun name mentioned => ?_⟩
    have source := Crud.nameSource_of_artifact
      (fun c member => Context.isNameChar_of_mem_name member) ofArtifact mentioned
    refine isDeclared_of_nameSource distinct writes crud ?_ ?_ ?_ source
    · rw [hasDerived, (find?_eq_some_iff distinct).mpr isEntry]
      exact derives
    · exact condition_of_allDerivedFields closed isEntry derives kept
    · exact fun field isField => Emission.lowered_of_field shown rendered kept isField
  | _ => simp [Emission.derives] at derives

/-- Where fields refer, at any depth, only to values and to types with derived declarations, and
lists that begin with a reference only to the latter, every type name that a derived declaration is
written with is a known scalar or declared by a block of the schema. -/
theorem derived_names_declared {options : Options} {graph : Graph} {text : String}
    (distinct : graph.symbols.Nodup)
    (closed : graph.allDerivedFields options (graph.refersThroughout options) = true)
    (finished : graph.schema options = .ok text) :
    ∃ ctx tables, Context.prepare options graph = .ok (ctx, tables) ∧
      let groups := (Emission.declareAll ctx tables ctx.emitted).groups
      text = textOf groups ∧
      List.Forall₂ (NamesDeclared ctx groups.flatten) ctx.emitted groups := by
  obtain ⟨groups, writes, rfl⟩ := schema_eq_ok_iff.mp finished
  have outcome := Emission.declareAll_of_group_ok (fun _ member => member) writes.written
  refine ⟨_, _, writes.prepare, ?_⟩
  rw [outcome]
  refine ⟨rfl, ?_⟩
  have written : List.Forall₂ (fun entry blocks =>
      entry ∈ (Context.ofGraph options graph).emitted ∧
        Emission.group (Context.ofGraph options graph) entry = .ok blocks) _ groups :=
    (List.forall₂_and_left ..).mpr ⟨fun _ member => member, Traversal.mapM_eq_ok.mp writes.written⟩
  refine written.imp ?_
  rintro entry blocks ⟨emitted, ofEntry⟩
  exact namesDeclared_of_group distinct closed writes emitted ofEntry

/-- Types that relate to each other, with an identifier and an enum among their fields. -/
def bookshop : Graph :=
  ⟨[("Genre", .enum ["NOVEL", "POEM"]),
    ("Isbn", .alias (.primitive .string) (some [⟨"graphql", "ID"⟩])),
    ("Author", .interface
      ⟨[.property ⟨"books", some (.array [.reference "Book"]), false, none⟩], [], true, none⟩),
    ("Book", .interface
      ⟨[.property ⟨"isbn", some (.reference "Isbn"), false, none⟩,
        .property ⟨"genre", some (.reference "Genre"), true, none⟩,
        .property ⟨"author", some (.reference "Author"), false, none⟩], [], true, none⟩)]⟩

theorem derived_names_declared_bookshop :
    bookshop.symbols.Nodup ∧
      bookshop.allDerivedFields {} (bookshop.refersThroughout {}) = true ∧
      ∃ text ctx tables, bookshop.schema {} = .ok text ∧
        Context.prepare {} bookshop = .ok (ctx, tables) ∧
        let groups := (Emission.declareAll ctx tables ctx.emitted).groups
        (∃ block ∈ groups.flatten, block.declaredName? = some "AuthorCreateInput" ∧
          "BookCreateManyInput" ∈ block.typeNames) ∧
        List.Forall₂ (NamesDeclared ctx groups.flatten) ctx.emitted groups := by
  have distinct : bookshop.symbols.Nodup := by decide
  have closed : bookshop.allDerivedFields {} (bookshop.refersThroughout {}) = true := by
    decide +kernel
  have finishes : (bookshop.emit {}).failure = none := by decide +kernel
  obtain ⟨groups, writes⟩ := emit_failure_eq_none_iff.mp finishes
  have finished := writes.schema
  obtain ⟨ctx, tables, prepared, _, declared⟩ := derived_names_declared distinct closed finished
  have same := writes.prepare
  rw [same] at prepared
  cases prepared
  have mentioned : ∃ block ∈ (Emission.declareAll (Context.ofGraph {} bookshop)
      (Context.ofGraph {} bookshop).declaredTables
      (Context.ofGraph {} bookshop).emitted).groups.flatten,
      block.declaredName? = some "AuthorCreateInput" ∧
        "BookCreateManyInput" ∈ block.typeNames := by decide +kernel
  exact ⟨distinct, closed, _, _, _, finished, same, mentioned, declared⟩

/-- A type with a list of enum values. -/
def wall : Graph :=
  ⟨[("Color", .enum ["RED", "BLUE"]),
    ("Wall", .interface
      ⟨[.property ⟨"colors", some (.array [.reference "Color"]), false, none⟩], [], true, none⟩)]⟩

/-- A type with an object in place, whose member refers to nothing. -/
def notice : Graph :=
  ⟨[("Notice", .interface
      ⟨[.property ⟨"pin", some (.object [⟨"by", some (.reference "FooWhereInput"), false, none⟩]),
        false, none⟩], [], true, none⟩)]⟩

/-- Whether all references of a type that are single or elements of a list are written as values or
lead to types with derived declarations. -/
def refersWell (options : Options) (graph : Graph) : Option Node → Bool
  | some (.reference target) => graph.isCovered options target
  | some (.array elements) => elements.all fun
    | .reference target => graph.isCovered options target
    | _ => true
  | _ => true

/-- The blocks that a pass writes. -/
def blocks (options : Options) (graph : Graph) : List Block :=
  let ctx := Context.ofGraph options graph
  (Emission.declareAll ctx ctx.declaredTables ctx.emitted).groups.flatten

/-- It does not suffice that every reference that is single or an element of a list is a value or
leads to a type with derived declarations. A list of enum values is taken for a relation, and an
object in place may refer to anything; so inputs are named that no block declares. -/
theorem undeclared_input_names :
    (wall.allDerivedFields {} (wall.refersWell {}) = true ∧ (wall.emit {}).failure = none ∧
      (∃ block ∈ wall.blocks {}, block.declaredName? = some "WallCreateInput" ∧
        "ColorCreateManyInput" ∈ block.typeNames) ∧
      ∀ other ∈ wall.blocks {}, other.declaredName? ≠ some "ColorCreateManyInput") ∧
    notice.allDerivedFields {} (notice.refersWell {}) = true ∧ (notice.emit {}).failure = none ∧
      (∃ block ∈ notice.blocks {}, block.declaredName? = some "NoticeCreateInput" ∧
        "FooWhereInput" ∈ block.typeNames) ∧
      ∀ other ∈ notice.blocks {}, other.declaredName? ≠ some "FooWhereInput" := by
  decide +kernel

end Graph

end SchemaLowering
