import SchemaLowering.Proofs.Registration

/-!
A whole pass. Since no declaration adds a name, a pass is a traversal of the declared symbols in
which each is written from the same names, and steps on an open pass that declare symbols can be
taken in any order and any number of times.
-/

namespace SchemaLowering

namespace Emission

/-- The blocks written under a declared symbol, once the names of a context are registered. -/
def group (ctx : Context) (entry : String × Node) : Except LoweringError (List Block) :=
  (declarationBlocks ctx ctx.declaredTables (some entry.1) entry.2 entry.1).map Prod.fst

theorem declares_of_group {ctx : Context} {entry : String × Node} {blocks : List Block}
    (written : group ctx entry = .ok blocks) :
    ∃ after,
      Declares ctx ctx.declaredTables (some entry.1) entry.1 entry.2 (blocks, after) := by
  obtain ⟨⟨blocks, after⟩, declared, rfl⟩ := Traversal.map_eq_ok.mp written
  exact ⟨after, declares_of_declarationBlocks declared⟩

/-- Declaring a symbol of the context leaves the registered names alone. -/
theorem declarationBlocks_declared {ctx : Context} {entry : String × Node}
    (declared : entry ∈ ctx.emitted) :
    declarationBlocks ctx ctx.declaredTables (some entry.1) entry.2 entry.1
      = (group ctx entry).map (·, ctx.declaredTables) := by
  unfold group
  cases written : declarationBlocks ctx ctx.declaredTables (some entry.1) entry.2 entry.1 with
  | error error => rfl
  | ok result =>
    obtain ⟨blocks, after⟩ := result
    have registered : after = Collapse.classify ctx ctx.declaredTables entry :=
      (foretold_declaration written).registered
    rw [registered, Context.classify_declaredTables declared]
    rfl

/-- The outcome of a pass in which every symbol is written from the same names. -/
theorem declareAll_of_group_ok {ctx : Context} {entries : List (String × Node)}
    {groups : List (List Block)} (declared : ∀ entry ∈ entries, entry ∈ ctx.emitted)
    (written : entries.mapM (group ctx) = .ok groups) :
    declareAll ctx ctx.declaredTables entries = { begun := entries, groups } := by
  rw [Traversal.mapM_eq_ok] at written
  induction written with
  | nil => rfl
  | cons first rest ih =>
    rename_i entry blocks entries groups
    have step := declarationBlocks_declared (declared entry List.mem_cons_self)
    have after := ih fun entry member => declared entry (List.mem_cons_of_mem _ member)
    rw [first] at step
    simp only [declareAll, step, Except.map, after]

/-- A pass ends with the failure of the first symbol that cannot be written. -/
theorem declareAll_of_group_error {ctx : Context} {entries : List (String × Node)}
    {error : LoweringError} (declared : ∀ entry ∈ entries, entry ∈ ctx.emitted)
    (failed : entries.mapM (group ctx) = .error error) :
    (declareAll ctx ctx.declaredTables entries).failure = some error := by
  induction entries with
  | nil => cases failed
  | cons entry rest ih =>
    have step := declarationBlocks_declared (declared entry List.mem_cons_self)
    rw [List.mapM_cons] at failed
    cases first : group ctx entry with
    | error firstError =>
      rw [first] at step failed
      cases failed
      simp only [declareAll, step, Except.map]
    | ok blocks =>
      rw [first] at step failed
      simp only [declareAll, step, Except.map]
      apply ih fun entry member => declared entry (List.mem_cons_of_mem _ member)
      cases others : rest.mapM (group ctx) with
      | error restError =>
        rw [others] at failed
        cases failed
        rfl
      | ok groups =>
        rw [others] at failed
        cases failed

end Emission

namespace Graph

/-- The text of a pass whose groups of blocks are all written. -/
def textOf (groups : List (List Block)) : String :=
  String.join ("\n" :: groups.map Emission.groupText)

/-- A schema is the text of the groups that the declared symbols have, one after the other. -/
theorem schema_eq (options : Options) (graph : Graph) :
    graph.schema options =
      match (Collapse.run graph graph.entries).failure with
      | some error => .error error
      | none => ((Context.ofGraph options graph).emitted.mapM
          (Emission.group (Context.ofGraph options graph))).map textOf := by
  unfold schema emit
  rw [Context.prepare_eq]
  cases (Collapse.run graph graph.entries).failure with
  | some error => rfl
  | none =>
    cases written : (Context.ofGraph options graph).emitted.mapM
        (Emission.group (Context.ofGraph options graph)) with
    | error error =>
      simp only [Emission.declareAll_of_group_error (fun _ member => member) written, Except.map]
    | ok groups =>
      simp only [Emission.declareAll_of_group_ok (fun _ member => member) written, Except.map,
        textOf]

/-- The groups of blocks that a pass writes, one for each declared symbol, if it can begin and does
not fail. -/
structure Writes (options : Options) (graph : Graph) (groups : List (List Block)) : Prop where
  begins : ∀ entry ∈ graph.entries, ∃ target, Collapse.target? graph entry.2 = .ok target
  written : (Context.ofGraph options graph).emitted.mapM
    (Emission.group (Context.ofGraph options graph)) = .ok groups

theorem Writes.prepare {options : Options} {graph : Graph} {groups : List (List Block)}
    (writes : graph.Writes options groups) :
    Context.prepare options graph =
      .ok (Context.ofGraph options graph, (Context.ofGraph options graph).declaredTables) :=
  Context.prepare_eq_ok_iff.mpr ⟨writes.begins, rfl, rfl⟩

/-- A pass that does not fail writes a line break and then the group of each declared symbol. -/
theorem Writes.emit {options : Options} {graph : Graph} {groups : List (List Block)}
    (writes : graph.Writes options groups) :
    graph.emit options =
      { collapsed := (Context.ofGraph options graph).renames
        begun := (Context.ofGraph options graph).emitted
        pieces := "\n" :: groups.map Emission.groupText } := by
  have sorted := Collapse.run_of_failure_eq_none (Collapse.run_failure.mpr writes.begins)
  have outcome := Emission.declareAll_of_group_ok (fun _ member => member) writes.written
  unfold Graph.emit
  rw [writes.prepare, sorted]
  simp only [outcome]
  rfl

theorem emit_failure_eq_none_iff {options : Options} {graph : Graph} :
    (graph.emit options).failure = none ↔ ∃ groups, graph.Writes options groups := by
  constructor
  · intro finished
    cases prepared : Context.prepare options graph with
    | error error => simp [emit, prepared] at finished
    | ok result =>
      obtain ⟨begins, same, tablesEq⟩ := Context.prepare_eq_ok_iff.mp prepared
      cases written : (Context.ofGraph options graph).emitted.mapM
          (Emission.group (Context.ofGraph options graph)) with
      | error error =>
        have failed := Emission.declareAll_of_group_error (fun _ member => member) written
        simp [emit, prepared, same, tablesEq, failed] at finished
      | ok groups => exact ⟨groups, begins, written⟩
  · rintro ⟨groups, writes⟩
    rw [writes.emit]

theorem schema_eq_ok_iff {options : Options} {graph : Graph} {text : String} :
    graph.schema options = .ok text ↔
      ∃ groups, graph.Writes options groups ∧ textOf groups = text := by
  rw [schema_eq]
  constructor
  · intro finished
    cases sorted : (Collapse.run graph graph.entries).failure with
    | some error => simp [sorted] at finished
    | none =>
      rw [sorted] at finished
      obtain ⟨groups, written, same⟩ := Traversal.map_eq_ok.mp finished
      exact ⟨groups, ⟨Collapse.run_failure.mp sorted, written⟩, same⟩
  · rintro ⟨groups, writes, rfl⟩
    rw [Collapse.run_failure.mpr writes.begins, writes.written]
    rfl

theorem Writes.schema {options : Options} {graph : Graph} {groups : List (List Block)}
    (writes : graph.Writes options groups) : graph.schema options = .ok (textOf groups) :=
  schema_eq_ok_iff.mpr ⟨groups, writes, rfl⟩

/-- An enum with an alias, a union of enums, a scalar, and a type that uses them. -/
def paints : Graph :=
  ⟨[("Color", .enum ["RED", "BLUE"]),
    ("Paint", .alias (.reference "Color") none),
    ("Shade", .alias (.union [.reference "Color"]) none),
    ("Key", .alias (.primitive .string) none),
    ("Wall", .interface
      ⟨[.property ⟨"paint", some (.reference "Paint"), false, none⟩,
        .property ⟨"keys", some (.array [.reference "Key"]), true, none⟩], [], true, none⟩)]⟩

theorem emit_paints : (paints.emit {}).failure = none := by decide +kernel

end Graph

namespace Emission

/-- The names, in order, of the declared symbols whose own blocks satisfy a condition. -/
def namesWritten (ctx : Context) (groups : List (List Block)) (condition : Block → Bool) :
    List String :=
  ((ctx.emitted.zip groups).filter (·.2.head?.any condition)).map (ctx.name ·.1.1)

theorem foretold_group {ctx : Context} {entry : String × Node} {blocks : List Block}
    (written : group ctx entry = .ok blocks) :
    ∃ after, Foretold ctx ctx.declaredTables entry.1 entry.2 blocks after := by
  obtain ⟨⟨blocks, after⟩, declared, rfl⟩ := Traversal.map_eq_ok.mp written
  exact ⟨after, foretold_declaration declared⟩

/-- Names chosen by what is written are those chosen by the shapes. -/
theorem namesWritten_eq {ctx : Context} {groups : List (List Block)} {condition : Block → Bool}
    {shape : Node → Bool} (written : ctx.emitted.mapM (group ctx) = .ok groups)
    (agree : ∀ entry blocks, group ctx entry = .ok blocks →
      blocks.head?.any condition = shape entry.2) :
    namesWritten ctx groups condition = ctx.namesWhere shape := by
  have agreeAll := (Traversal.mapM_eq_ok.mp written).imp agree
  have chosen := Traversal.filter_zip agreeAll
  unfold namesWritten Context.namesWhere
  rw [← chosen, List.map_map]
  rfl

theorem namesWritten_isEnum {ctx : Context} {groups : List (List Block)}
    (written : ctx.emitted.mapM (group ctx) = .ok groups) :
    ctx.declaredTables.enums = (namesWritten ctx groups Block.isEnum).eraseDups := by
  rw [Context.declaredTables_enums, namesWritten_eq written]
  intro entry blocks ofEntry
  obtain ⟨after, foretold⟩ := foretold_group ofEntry
  exact foretold.isEnum

theorem namesWritten_isScalar {ctx : Context} {groups : List (List Block)}
    (written : ctx.emitted.mapM (group ctx) = .ok groups) :
    ctx.declaredTables.scalars = (namesWritten ctx groups Block.isScalar).eraseDups := by
  rw [Context.declaredTables_scalars, namesWritten_eq written]
  intro entry blocks ofEntry
  obtain ⟨after, foretold⟩ := foretold_group ofEntry
  exact foretold.isScalar

end Emission

namespace Session

/-- A pass opens with what the graph says. -/
theorem start_eq_ok_iff {options : Options} {graph : Graph} {state : State} :
    start options graph = .ok state ↔
      (∀ entry ∈ graph.entries, ∃ target, Collapse.target? graph entry.2 = .ok target) ∧
        state
          = ⟨Context.ofGraph options graph, (Context.ofGraph options graph).declaredTables⟩ := by
  unfold start
  rw [Traversal.bind_eq_ok]
  constructor
  · rintro ⟨⟨ctx, tables⟩, prepared, same⟩
    obtain ⟨begins, rfl, rfl⟩ := Context.prepare_eq_ok_iff.mp prepared
    cases same
    exact ⟨begins, rfl⟩
  · rintro ⟨begins, rfl⟩
    exact ⟨_, Context.prepare_eq_ok_iff.mpr ⟨begins, rfl, rfl⟩, rfl⟩

/-- Declaring a symbol of the pass under its own name leaves the pass as it is. -/
theorem step_declare {ctx : Context} {entry : String × Node} (declared : entry ∈ ctx.emitted)
    (found : ctx.graph.find? entry.1 = some entry.2) :
    (step ⟨ctx, ctx.declaredTables⟩ (.declare entry.1 entry.1)).2 = ⟨ctx, ctx.declaredTables⟩ := by
  have resolved := Graph.resolve_eq_ok.mpr found
  have settled := Emission.declarationBlocks_declared declared
  simp only [step, answer, resolved, declare, settled, bind, Except.bind]
  cases Emission.group ctx entry with
  | error error => rfl
  | ok blocks => rfl

/-- Steps that leave a pass as it is can be taken in any order and any number of times. -/
theorem trace_of_steady {state : State} {requests : List Step}
    (steady : ∀ request ∈ requests, (step state request).2 = state) :
    trace state requests = requests.map fun request => ((step state request).1, state) := by
  induction requests with
  | nil => rfl
  | cons request rest ih =>
    have kept := steady request List.mem_cons_self
    have others := ih fun request member => steady request (List.mem_cons_of_mem _ member)
    rw [trace, List.map_cons, kept, others]
    exact congrArg (· :: _) (Prod.ext rfl kept)

/-- The names of enums and scalars are settled when a pass opens. Declaring its symbols, in any
order and any number of times, leaves them as they are, so that each declaration answers as if it
were the first; and when the whole pass succeeds they are, in order of first occurrence, the names
of the symbols that are written as enums and as scalars. -/
theorem declarations_keep_names {options : Options} {graph : Graph} {state : State}
    (distinct : graph.symbols.Nodup) (started : start options graph = .ok state) :
    (∀ symbols : List String, (∀ symbol ∈ symbols, symbol ∈ state.ctx.emitted.map Prod.fst) →
      trace state (symbols.map fun symbol => .declare symbol symbol)
        = symbols.map fun symbol => ((step state (.declare symbol symbol)).1, state)) ∧
    ((graph.emit options).failure = none →
      let groups := (Emission.declareAll state.ctx state.tables state.ctx.emitted).groups
      state.tables.enums = (Emission.namesWritten state.ctx groups Block.isEnum).eraseDups ∧
      state.tables.scalars
        = (Emission.namesWritten state.ctx groups Block.isScalar).eraseDups) := by
  obtain ⟨begins, rfl⟩ := start_eq_ok_iff.mp started
  constructor
  · intro symbols declared
    rw [trace_of_steady, List.map_map]
    · rfl
    intro request member
    obtain ⟨symbol, chosen, rfl⟩ := List.mem_map.mp member
    obtain ⟨entry, emitted, rfl⟩ := List.mem_map.mp (declared symbol chosen)
    apply step_declare emitted
    exact (Graph.find?_eq_some_iff distinct).mpr (Context.mem_ofGraph_emitted.mp emitted).1
  · intro finished
    obtain ⟨groups, writes⟩ := Graph.emit_failure_eq_none_iff.mp finished
    have outcome := Emission.declareAll_of_group_ok (fun _ member => member) writes.written
    simp only [outcome]
    exact ⟨Emission.namesWritten_isEnum writes.written,
      Emission.namesWritten_isScalar writes.written⟩

/-- Declarations of paints, repeated and out of order. -/
theorem declarations_keep_names_paints :
    ∃ state, start {} Graph.paints = .ok state ∧
      trace state (["Wall", "Shade", "Key", "Wall"].map fun symbol => .declare symbol symbol)
        = (["Wall", "Shade", "Key", "Wall"].map fun symbol =>
          ((step state (.declare symbol symbol)).1, state)) ∧
      let groups := (Emission.declareAll state.ctx state.tables state.ctx.emitted).groups
      ["Color", "Shade"] = (Emission.namesWritten state.ctx groups Block.isEnum).eraseDups ∧
      ["Key"] = (Emission.namesWritten state.ctx groups Block.isScalar).eraseDups := by
  have started : start {} Graph.paints = .ok
      ⟨Context.ofGraph {} Graph.paints, (Context.ofGraph {} Graph.paints).declaredTables⟩ := rfl
  have kept := declarations_keep_names (by decide) started
  exact ⟨_, started, kept.1 _ (by decide), kept.2 Graph.emit_paints⟩

end Session

end SchemaLowering
