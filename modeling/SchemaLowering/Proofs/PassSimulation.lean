import SchemaLowering.Proofs.DeclarationSimulation
import SchemaLowering.Proofs.Pass

/-!
Passes over two graphs that find the same shapes up to respelling. They collapse the same aliases,
register the same names and write the same group of blocks under each declared symbol.
-/

namespace SchemaLowering

variable {spell : String → String} {graph other : Graph}

namespace Collapse

theorem target?_respell (respells : graph.Respells spell other) (node : Node) :
    target? other (node.respell spell false) = target? graph node := by
  cases node with
  | «alias» target documentation =>
    cases target with
    | reference symbol =>
      simp only [Node.respell, Bool.false_eq_true, if_false, target?, respells.resolve]
      rw [Traversal.map_bind]
      apply bind_congr
      intro referenced
      rw [Node.respell_isPrimitive, Node.respell_isEnum]
    | _ => rfl
  | _ => rfl

theorem renamed?_respell (respells : graph.Respells spell other) (node : Node) :
    renamed? other (node.respell spell false) = renamed? graph node := by
  rw [renamed?, target?_respell respells, renamed?]

theorem declaresEnum_respell (respells : graph.Respells spell other) (node : Node) :
    declaresEnum other (node.respell spell false) = declaresEnum graph node := by
  cases node with
  | «alias» target documentation =>
    cases target with
    | union types =>
      cases types with
      | nil => rfl
      | cons first rest =>
        have literal : (respellNodes spell false (first :: rest)).all (·.isLiteral)
            = (first :: rest).all (·.isLiteral) := by
          rw [respellNodes_eq_map, List.all_map]
          simp only [Function.comp_def, Node.respell_isLiteral]
        cases first with
        | reference symbol =>
          simp only [Node.respell, respellNodes, declaresEnum] at literal ⊢
          rw [literal]
          simp only [Bool.false_eq_true, if_false, respells symbol, Option.any_map,
            Node.respell_isEnum]
        | _ =>
          simp only [Node.respell, respellNodes, declaresEnum] at literal ⊢
          rw [literal]
    | _ => rfl
  | _ => rfl

theorem declaresScalar_respell (node : Node) :
    declaresScalar (node.respell spell false) = declaresScalar node := by
  cases node with
  | «alias» target documentation => exact target.respell_isPrimitive spell false
  | _ => rfl

end Collapse

namespace Context

/-- The names of the declared symbols that satisfy a condition, by what the graph finds. -/
theorem mem_ofGraph_namesWhere {options : Options} (distinct : graph.symbols.Nodup)
    {condition : Node → Bool} {name : String} :
    name ∈ (ofGraph options graph).namesWhere condition ↔
      ∃ symbol node, graph.find? symbol = some node ∧ Collapse.renamed? graph node = none ∧
        condition node = true ∧ (ofGraph options graph).name symbol = name := by
  rw [mem_namesWhere]
  constructor
  · rintro ⟨⟨symbol, node⟩, emitted, holds, named⟩
    obtain ⟨member, declared⟩ := mem_ofGraph_emitted.mp emitted
    exact ⟨symbol, node, (Graph.find?_eq_some_iff distinct).mpr member, declared, holds, named⟩
  · rintro ⟨symbol, node, found, declared, holds, named⟩
    have member := (Graph.find?_eq_some_iff distinct).mp found
    exact ⟨(symbol, node), mem_ofGraph_emitted.mpr ⟨member, declared⟩, holds, named⟩

variable (options : Options)

theorem ofGraph_name_respell (respells : graph.Respells spell other)
    (distinct : graph.symbols.Nodup) (distinctOther : other.symbols.Nodup) (symbol : String) :
    (ofGraph options other).name symbol = (ofGraph options graph).name symbol := by
  rw [ofGraph_name distinctOther, ofGraph_name distinct, respells, Option.bind_map]
  simp only [Function.comp_def, Collapse.renamed?_respell respells]

/-- Names chosen by a condition that respelling does not touch are the same. -/
theorem namesWhere_respell (respells : graph.Respells spell other)
    (distinct : graph.symbols.Nodup) (distinctOther : other.symbols.Nodup)
    {condition conditionOther : Node → Bool}
    (same : ∀ node, conditionOther (node.respell spell false) = condition node) (name : String) :
    name ∈ (ofGraph options other).namesWhere conditionOther ↔
      name ∈ (ofGraph options graph).namesWhere condition := by
  rw [mem_ofGraph_namesWhere distinct, mem_ofGraph_namesWhere distinctOther]
  simp only [respells _, Option.map_eq_some_iff,
    ofGraph_name_respell options respells distinct distinctOther]
  constructor
  · rintro ⟨symbol, _, ⟨node, found, rfl⟩, declared, holds, named⟩
    rw [Collapse.renamed?_respell respells] at declared
    rw [same] at holds
    exact ⟨symbol, node, found, declared, holds, named⟩
  · rintro ⟨symbol, node, found, declared, holds, named⟩
    rw [← Collapse.renamed?_respell respells] at declared
    rw [← same] at holds
    exact ⟨symbol, _, ⟨node, found, rfl⟩, declared, holds, named⟩

/-- Both passes register the same names. -/
theorem declaredTables_respell (respells : graph.Respells spell other)
    (distinct : graph.symbols.Nodup) (distinctOther : other.symbols.Nodup) :
    (ofGraph options graph).declaredTables.SameNames (ofGraph options other).declaredTables where
  enums := by
    intro name
    rw [declaredTables_enums, declaredTables_enums, List.mem_eraseDups, List.mem_eraseDups]
    exact namesWhere_respell options respells distinct distinctOther
      (Collapse.declaresEnum_respell respells) name
  scalars := by
    intro name
    rw [declaredTables_scalars, declaredTables_scalars, List.mem_eraseDups, List.mem_eraseDups]
    exact namesWhere_respell options respells distinct distinctOther
      Collapse.declaresScalar_respell name

end Context

/-- Two graphs with the same shapes up to a respelling that no name shows. -/
structure Graph.Alike (options : Options) (spell : String → String) (graph other : Graph) :
    Prop where
  distinct : graph.symbols.Nodup
  distinctOther : other.symbols.Nodup
  respells : graph.Respells spell other
  weight : other.weight = graph.weight
  spelled : ∀ symbol, (Context.ofGraph options graph).name (spell symbol)
    = (Context.ofGraph options graph).name symbol

namespace Graph.Alike

variable {options : Options}

theorem context (alike : Graph.Alike options spell graph other) :
    (Context.ofGraph options graph).Respells spell (Context.ofGraph options other) where
  graph := alike.respells
  weight := alike.weight
  placeholder := rfl
  dateScalars := rfl
  name := Context.ofGraph_name_respell options alike.respells alike.distinct alike.distinctOther
  spelled symbol := by
    rw [Context.ofGraph_name_respell options alike.respells alike.distinct alike.distinctOther,
      alike.spelled]

/-- The group of a respelled declaration is the same. -/
theorem group (alike : Graph.Alike options spell graph other) (symbol : String) (node : Node) :
    Emission.group (Context.ofGraph options other) (symbol, node.respell spell false)
      = Emission.group (Context.ofGraph options graph) (symbol, node) := by
  have tables := Context.declaredTables_respell options alike.respells alike.distinct
    alike.distinctOther
  apply Emission.declarationBlocks_respell alike.context
  intro declaration _
  exact Emission.interfaceBlocks_respell alike.context tables (some symbol) declaration rfl

end Graph.Alike

end SchemaLowering
