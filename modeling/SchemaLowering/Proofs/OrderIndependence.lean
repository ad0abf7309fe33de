import SchemaLowering.Proofs.PassSimulation

/-!
The order of declarations. Reordering the symbols of a graph reorders the groups of blocks that a
pass writes, and changes none of them.
-/

namespace SchemaLowering

namespace Graph

variable {graph other : Graph}

theorem weight_perm (reordered : graph.entries.Perm other.entries) :
    other.weight = graph.weight := by
  obtain ⟨entries⟩ := graph
  obtain ⟨others⟩ := other
  simp only [weight] at reordered ⊢
  induction reordered with
  | nil => rfl
  | cons entry _ ih => rw [List.foldr_cons, List.foldr_cons, ih]
  | swap first second rest =>
    simp only [List.foldr_cons]
    omega
  | trans _ _ first second => rw [second, first]

/-- Reordered graphs find the same shapes. -/
theorem alike_of_perm (options : Options) (distinct : graph.symbols.Nodup)
    (reordered : graph.entries.Perm other.entries) : Graph.Alike options id graph other where
  distinct := distinct
  distinctOther := (reordered.map _).nodup_iff.mp distinct
  respells := respells_id (Symbols.lookup_perm distinct reordered)
  weight := weight_perm reordered
  spelled _ := rfl

theorem Alike.target?_id {options : Options} (alike : Graph.Alike options id graph other)
    (node : Node) : Collapse.target? other node = Collapse.target? graph node := by
  have same := Collapse.target?_respell alike.respells node
  rwa [Node.respell_id] at same

theorem Alike.group_id {options : Options} (alike : Graph.Alike options id graph other)
    (entry : String × Node) :
    Emission.group (Context.ofGraph options other) entry
      = Emission.group (Context.ofGraph options graph) entry := by
  have same := alike.group entry.1 entry.2
  rwa [Node.respell_id] at same

theorem emitted_perm (options : Options) (distinct : graph.symbols.Nodup)
    (reordered : graph.entries.Perm other.entries) :
    (Context.ofGraph options graph).emitted.Perm (Context.ofGraph options other).emitted := by
  have alike := alike_of_perm options distinct reordered
  have declared : Collapse.isDeclared other = Collapse.isDeclared graph := by
    funext entry
    rw [Collapse.isDeclared, Collapse.renamed?, alike.target?_id, Collapse.isDeclared,
      Collapse.renamed?]
  unfold Context.ofGraph
  rw [declared]
  exact reordered.filter _

/-- A pass over a reordered graph writes when the pass over the graph does. -/
theorem Writes.of_perm {options : Options} {groups : List (List Block)}
    (distinct : graph.symbols.Nodup) (reordered : graph.entries.Perm other.entries)
    (writes : graph.Writes options groups) : ∃ others, other.Writes options others := by
  have alike := alike_of_perm options distinct reordered
  have begins : ∀ entry ∈ other.entries, ∃ target, Collapse.target? other entry.2 = .ok target := by
    intro entry member
    rw [alike.target?_id]
    exact writes.begins entry (reordered.mem_iff.mpr member)
  have written : ∀ entry ∈ (Context.ofGraph options other).emitted,
      ∃ blocks, Emission.group (Context.ofGraph options other) entry = .ok blocks := by
    intro entry member
    rw [alike.group_id]
    have member := (emitted_perm options distinct reordered).mem_iff.mpr member
    exact Traversal.exists_mapM_eq_ok.mp ⟨groups, writes.written⟩ entry member
  obtain ⟨others, writtenOthers⟩ := Traversal.exists_mapM_eq_ok.mpr written
  exact ⟨others, begins, writtenOthers⟩

/-- The text written under a symbol, where the pass writes one. -/
def writtenText (options : Options) (graph : Graph) (symbol : String) : String :=
  match (graph.find? symbol).map fun node =>
      Emission.group (Context.ofGraph options graph) (symbol, node) with
  | some (.ok blocks) => Emission.groupText blocks
  | _ => ""

/-- The pieces of a pass are the texts of the declared symbols, as any graph with the same shapes
writes them. -/
theorem Writes.pieces_eq {options : Options} {groups : List (List Block)}
    (alike : Graph.Alike options id graph other) (writes : other.Writes options groups) :
    (other.emit options).pieces
      = "\n" :: ((other.emit options).begun.map Prod.fst).map (graph.writtenText options) := by
  rw [writes.emit]
  simp only [List.map_map, List.cons.injEq, true_and]
  apply Traversal.map_results writes.written
  intro entry declared blocks written
  have member := (Context.mem_ofGraph_emitted.mp declared).1
  have found : graph.find? entry.1 = some entry.2 := by
    have foundOther := (find?_eq_some_iff alike.distinctOther).mpr member
    rw [alike.respells, Option.map_eq_some_iff] at foundOther
    obtain ⟨node, found, same⟩ := foundOther
    rw [found, ← same, Node.respell_id]
  rw [alike.group_id] at written
  simp only [Function.comp_apply, writtenText, found, Option.map_some, written]

/-- A pass that writes begins every symbol that is declared. -/
theorem Writes.begun_eq {options : Options} {groups : List (List Block)}
    (writes : graph.Writes options groups) :
    ∃ ctx tables, Context.prepare options graph = .ok (ctx, tables) ∧
      (graph.emit options).begun = ctx.emitted := by
  refine ⟨_, _, writes.prepare, ?_⟩
  rw [writes.emit]

/-- Two orders of one graph: a pass over the one succeeds when a pass over the other does. Each then
writes under every declared symbol the same text, and does so in the order of its own symbols. -/
theorem emit_order_independent {options : Options} (distinct : graph.symbols.Nodup)
    (reordered : graph.entries.Perm other.entries) :
    ((graph.emit options).failure = none ↔ (other.emit options).failure = none) ∧
    ((graph.emit options).failure = none →
      (∃ ctx tables, Context.prepare options graph = .ok (ctx, tables) ∧
        (graph.emit options).begun = ctx.emitted) ∧
      (∃ ctx tables, Context.prepare options other = .ok (ctx, tables) ∧
        (other.emit options).begun = ctx.emitted) ∧
      ((graph.emit options).begun.map Prod.fst).Perm ((other.emit options).begun.map Prod.fst) ∧
      ((graph.emit options).begun.map Prod.fst).Sublist graph.symbols ∧
      ((other.emit options).begun.map Prod.fst).Sublist other.symbols ∧
      ∃ text : String → String,
        (graph.emit options).pieces
          = "\n" :: ((graph.emit options).begun.map Prod.fst).map text ∧
        (other.emit options).pieces
          = "\n" :: ((other.emit options).begun.map Prod.fst).map text) := by
  have distinctOther : other.symbols.Nodup := (reordered.map _).nodup_iff.mp distinct
  simp only [emit_failure_eq_none_iff]
  constructor
  · constructor
    · rintro ⟨groups, writes⟩
      exact writes.of_perm distinct reordered
    · rintro ⟨groups, writes⟩
      exact writes.of_perm distinctOther reordered.symm
  · rintro ⟨groups, writes⟩
    obtain ⟨others, writesOther⟩ := writes.of_perm distinct reordered
    refine ⟨writes.begun_eq, writesOther.begun_eq, ?_, ?_, ?_, graph.writtenText options, ?_, ?_⟩
    · rw [writes.emit, writesOther.emit]
      exact (emitted_perm options distinct reordered).map _
    · rw [writes.emit]
      exact List.filter_sublist.map _
    · rw [writesOther.emit]
      exact List.filter_sublist.map _
    · exact writes.pieces_eq (alike_of_perm options distinct (List.Perm.refl _))
    · exact writesOther.pieces_eq (alike_of_perm options distinct reordered)

/-- Paints, and the same backwards, where the type stands before all that it refers to. -/
theorem emit_order_independent_paints :
    (paints.emit {}).failure = none ∧ (Graph.emit {} ⟨paints.entries.reverse⟩).failure = none ∧
      ∃ text : String → String,
        (paints.emit {}).pieces = "\n" :: ((paints.emit {}).begun.map Prod.fst).map text ∧
        (Graph.emit {} ⟨paints.entries.reverse⟩).pieces
          = "\n" :: ((Graph.emit {} ⟨paints.entries.reverse⟩).begun.map Prod.fst).map text := by
  have distinct : paints.symbols.Nodup := by decide
  obtain ⟨succeeds, same⟩ := emit_order_independent distinct (List.reverse_perm _).symm
  exact ⟨emit_paints, succeeds.mp emit_paints, (same emit_paints).2.2.2.2.2⟩

end Graph

end SchemaLowering
