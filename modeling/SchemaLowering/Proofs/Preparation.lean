import SchemaLowering.Lowering.Context
import Mathlib.Data.List.Nodup

/-!
What a pass knows when it begins, read off the graph: which symbols stand for another name, and
under which name a symbol is written. Only the first of these needs the whole graph, the rest
depends on what the graph finds under a symbol.
-/

namespace SchemaLowering

namespace Symbols

variable {α β : Type}

/-- Under distinct symbols a lookup finds exactly the entries. -/
theorem lookup_eq_some_iff {entries : List (String × α)} {symbol : String} {value : α}
    (distinct : (entries.map Prod.fst).Nodup) :
    entries.lookup symbol = some value ↔ (symbol, value) ∈ entries := by
  induction entries with
  | nil => simp
  | cons head rest ih =>
    obtain ⟨name, first⟩ := head
    obtain ⟨absent, distinctRest⟩ := List.nodup_cons.mp distinct
    rw [List.lookup_cons]
    by_cases same : symbol = name
    · subst same
      have missing : (symbol, value) ∉ rest := fun member =>
        absent (List.mem_map.mpr ⟨_, member, rfl⟩)
      simp [missing, eq_comm]
    · have different : (symbol == name) = false := beq_eq_false_iff_ne.mpr same
      simp [different, same, ih distinctRest]

/-- A lookup under distinct symbols does not depend on the order of the entries. -/
theorem lookup_perm {entries others : List (String × α)} (distinct : (entries.map Prod.fst).Nodup)
    (reordered : entries.Perm others) (symbol : String) :
    others.lookup symbol = entries.lookup symbol := by
  have distinctOthers : (others.map Prod.fst).Nodup := (reordered.map _).nodup_iff.mp distinct
  apply Option.ext
  intro value
  rw [lookup_eq_some_iff distinctOthers, lookup_eq_some_iff distinct, reordered.mem_iff]

/-- A lookup among the entries that a partial function keeps. -/
theorem lookup_filterMap {entries : List (String × α)} {keep : α → Option β}
    (distinct : (entries.map Prod.fst).Nodup) (symbol : String) :
    (entries.filterMap fun entry => (keep entry.2).map (entry.1, ·)).lookup symbol
      = (entries.lookup symbol).bind keep := by
  induction entries with
  | nil => rfl
  | cons head rest ih =>
    obtain ⟨name, first⟩ := head
    obtain ⟨absent, distinctRest⟩ := List.nodup_cons.mp distinct
    have tail := ih distinctRest
    rw [List.lookup_cons]
    by_cases same : symbol = name
    · subst same
      -- the symbol does not come back, so that what is dropped here is dropped for good
      have missing : rest.lookup symbol = none := by
        rw [List.lookup_eq_none_iff]
        intro entry member
        rw [bne_iff_ne]
        intro equal
        exact absent (List.mem_map.mpr ⟨entry, member, equal.symm⟩)
      rw [missing] at tail
      cases kept : keep first with
      | none => simpa [kept] using tail
      | some value => simp [kept]
    · have different : (symbol == name) = false := beq_eq_false_iff_ne.mpr same
      cases kept : keep first with
      | none => simpa [kept, different] using tail
      | some value => simpa [kept, different, List.lookup_cons] using tail

/-- A lookup among entries whose values are changed. -/
theorem lookup_map (change : α → β) (entries : List (String × α)) (symbol : String) :
    (entries.map fun entry => (entry.1, change entry.2)).lookup symbol
      = (entries.lookup symbol).map change := by
  induction entries with
  | nil => rfl
  | cons head rest ih =>
    rw [List.map_cons, List.lookup_cons, List.lookup_cons, ih]
    split
    · rfl
    · rfl

end Symbols

namespace Graph

theorem mem_entries_of_find? {graph : Graph} {symbol : String} {node : Node}
    (found : graph.find? symbol = some node) : (symbol, node) ∈ graph.entries := by
  obtain ⟨before, after, entries, _⟩ := List.lookup_eq_some_iff.mp found
  rw [entries]
  exact List.mem_append_right _ List.mem_cons_self

theorem find?_eq_some_iff {graph : Graph} {symbol : String} {node : Node}
    (distinct : graph.symbols.Nodup) :
    graph.find? symbol = some node ↔ (symbol, node) ∈ graph.entries :=
  Symbols.lookup_eq_some_iff distinct

end Graph

namespace Collapse

/-- The name that a shape merely stands for, where looking for one does not fail. -/
def renamed? (graph : Graph) (node : Node) : Option String :=
  (target? graph node).toOption.join

/-- A symbol that stands for another name, with that name. -/
def renaming? (graph : Graph) (entry : String × Node) : Option (String × String) :=
  (renamed? graph entry.2).map (entry.1, ·)

/-- Whether a symbol is declared under its own name. -/
def isDeclared (graph : Graph) (entry : String × Node) : Bool :=
  (renamed? graph entry.2).isNone

theorem renamed?_of_target? {graph : Graph} {node : Node} {target : Option String}
    (found : target? graph node = .ok target) : renamed? graph node = target := by
  rw [renamed?, found]
  cases target with
  | none => rfl
  | some target => rfl

theorem run_failure {graph : Graph} {entries : List (String × Node)} :
    (run graph entries).failure = none ↔
      ∀ entry ∈ entries, ∃ target, target? graph entry.2 = .ok target := by
  fun_induction run graph entries with
  | case1 => simp
  | case2 symbol node rest error failed => simp [failed]
  | case3 symbol node rest target found after ih => simpa [found] using ih
  | case4 symbol node rest found after ih => simpa [found] using ih

/-- A sorting fails with the failure of the first symbol that has one. -/
theorem run_failure_eq_some_iff {graph : Graph} {entries : List (String × Node)}
    {error : LoweringError} :
    (run graph entries).failure = some error ↔
      ∃ before entry after, entries = before ++ entry :: after ∧
        (∀ earlier ∈ before, ∃ target, target? graph earlier.2 = .ok target) ∧
        target? graph entry.2 = .error error := by
  constructor
  · intro failed
    fun_induction run graph entries with
    | case1 => cases failed
    | case2 symbol node rest own found =>
      cases failed
      exact ⟨[], (symbol, node), rest, rfl, by simp, found⟩
    | case3 symbol node rest target found after ih =>
      obtain ⟨before, entry, behind, rfl, earlier, fails⟩ := ih failed
      exact ⟨(symbol, node) :: before, entry, behind, rfl,
        List.forall_mem_cons.mpr ⟨⟨_, found⟩, earlier⟩, fails⟩
    | case4 symbol node rest found after ih =>
      obtain ⟨before, entry, behind, rfl, earlier, fails⟩ := ih failed
      exact ⟨(symbol, node) :: before, entry, behind, rfl,
        List.forall_mem_cons.mpr ⟨⟨_, found⟩, earlier⟩, fails⟩
  · rintro ⟨before, entry, after, rfl, earlier, fails⟩
    induction before with
    | nil => simp [run, fails]
    | cons first rest ih =>
      obtain ⟨⟨target, found⟩, others⟩ := List.forall_mem_cons.mp earlier
      cases target with
      | none => simpa [run, found] using ih others
      | some target => simpa [run, found] using ih others

/-- A sorting that does not fail keeps what is declared and what is renamed, each in order. -/
theorem run_of_failure_eq_none {graph : Graph} {entries : List (String × Node)}
    (finished : (run graph entries).failure = none) :
    run graph entries
      = ⟨entries.filterMap (renaming? graph), entries.filter (isDeclared graph), none⟩ := by
  fun_induction run graph entries with
  | case1 => rfl
  | case2 symbol node rest error failed => cases finished
  | case3 symbol node rest target found after ih =>
    have renamed := renamed?_of_target? found
    simp only [after, ih finished, List.filterMap_cons, List.filter_cons, renaming?, isDeclared,
      renamed]
    rfl
  | case4 symbol node rest found after ih =>
    have renamed := renamed?_of_target? found
    simp only [after, ih finished, List.filterMap_cons, List.filter_cons, renaming?, isDeclared,
      renamed]
    rfl

end Collapse

namespace Context

/-- The context of a pass over a graph, if the pass can begin. -/
def ofGraph (options : Options) (graph : Graph) : Context :=
  ⟨graph, graph.entries.filter (Collapse.isDeclared graph), options,
    graph.entries.filterMap (Collapse.renaming? graph)⟩

/-- The names that a context declares as enums and scalars. -/
def declaredTables (ctx : Context) : Tables :=
  ctx.emitted.foldl (Collapse.classify ctx) {}

@[simp] theorem ofGraph_options (options : Options) (graph : Graph) :
    (ofGraph options graph).options = options := rfl

theorem mem_ofGraph_emitted {options : Options} {graph : Graph} {entry : String × Node} :
    entry ∈ (ofGraph options graph).emitted ↔
      entry ∈ graph.entries ∧ Collapse.renamed? graph entry.2 = none := by
  simp [ofGraph, Collapse.isDeclared]

/-- A pass begins with what the graph says, unless an alias refers to a missing symbol. -/
theorem prepare_eq (options : Options) (graph : Graph) :
    prepare options graph =
      match (Collapse.run graph graph.entries).failure with
      | some error => .error error
      | none => .ok (ofGraph options graph, (ofGraph options graph).declaredTables) := by
  unfold prepare
  cases outcome : (Collapse.run graph graph.entries).failure with
  | some error => simp only [outcome]
  | none =>
    simp only [Collapse.run_of_failure_eq_none outcome]
    rfl

theorem prepare_eq_ok_iff {options : Options} {graph : Graph} {ctx : Context} {tables : Tables} :
    prepare options graph = .ok (ctx, tables) ↔
      (∀ entry ∈ graph.entries, ∃ target, Collapse.target? graph entry.2 = .ok target) ∧
        ctx = ofGraph options graph ∧ tables = (ofGraph options graph).declaredTables := by
  rw [← Collapse.run_failure, prepare_eq]
  cases (Collapse.run graph graph.entries).failure with
  | some error => simp
  | none => simp [eq_comm]

/-- The name of a symbol depends only on what the graph finds under it. -/
theorem ofGraph_name {options : Options} {graph : Graph} (distinct : graph.symbols.Nodup)
    (symbol : String) :
    (ofGraph options graph).name symbol
      = Text.identifier (((graph.find? symbol).bind (Collapse.renamed? graph)).getD symbol) := by
  have found : (ofGraph options graph).renames.lookup symbol
      = (graph.find? symbol).bind (Collapse.renamed? graph) :=
    Symbols.lookup_filterMap distinct symbol
  rw [name, found]

end Context

end SchemaLowering
