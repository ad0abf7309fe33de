import SchemaLowering.Proofs.PassSimulation

/-!
Aliases that only rename an enum or a primitive shape. A field type may refer to the alias or to
what it stands for: the schema is the same.
-/

namespace SchemaLowering

/-- A pass over respelled entries collapses the same aliases and fails for the same reason. -/
theorem Collapse.run_respell {spell : String → String} {graph other : Graph}
    (respells : graph.Respells spell other) (entries : List (String × Node)) :
    (run other (entries.map fun entry => (entry.1, entry.2.respell spell false))).failure
      = (run graph entries).failure := by
  induction entries with
  | nil => rfl
  | cons entry rest ih =>
    rw [List.map_cons, run, run, target?_respell respells]
    cases target? graph entry.2 with
    | error error => rfl
    | ok target =>
      cases target with
      | none => exact ih
      | some target => exact ih

namespace Graph

/-- The enum or primitive shape that a symbol is an alias of. -/
def aliasedSymbol? (graph : Graph) (symbol : String) : Option String :=
  match graph.find? symbol with
  | some (.alias (.reference target) _) =>
    if (graph.find? target).any fun node => node.isPrimitive || node.isEnum then some target
    else none
  | _ => none

/-- The symbol, or what it is an alias of. -/
def behindAlias (graph : Graph) (symbol : String) : String :=
  (graph.aliasedSymbol? symbol).getD symbol

/-- The graph whose field types refer to enums and primitive shapes directly where they referred to
an alias. -/
def withDirectFields (graph : Graph) : Graph :=
  ⟨graph.entries.map fun entry => (entry.1, entry.2.respell graph.behindAlias false)⟩

theorem aliasedSymbol?_eq_some {graph : Graph} {symbol target : String}
    (aliased : graph.aliasedSymbol? symbol = some target) :
    ∃ documentation node, graph.find? symbol = some (.alias (.reference target) documentation) ∧
      graph.find? target = some node ∧ (node.isPrimitive || node.isEnum) = true := by
  unfold aliasedSymbol? at aliased
  split at aliased
  · next other documentation found =>
    split at aliased
    · next plain =>
      cases aliased
      obtain ⟨node, foundTarget, holds⟩ := (Option.any_eq_true _ _).mp plain
      exact ⟨documentation, node, found, foundTarget, holds⟩
    · cases aliased
  · cases aliased

/-- An alias of an enum or a primitive shape is written under its name, and so is that shape. -/
theorem name_behindAlias (options : Options) {graph : Graph} (distinct : graph.symbols.Nodup)
    (symbol : String) :
    (Context.ofGraph options graph).name (graph.behindAlias symbol)
      = (Context.ofGraph options graph).name symbol := by
  cases aliased : graph.aliasedSymbol? symbol with
  | none => rw [behindAlias, aliased, Option.getD_none]
  | some target =>
    obtain ⟨documentation, node, found, foundTarget, plain⟩ := aliasedSymbol?_eq_some aliased
    have resolved := Graph.resolve_eq_ok.mpr foundTarget
    have collapsed : Collapse.renamed? graph (.alias (.reference target) documentation)
        = some target := by
      apply Collapse.renamed?_of_target?
      simp only [Collapse.target?, resolved, bind, Except.bind, plain, if_true]
      rfl
    have kept : Collapse.renamed? graph node = none := by
      apply Collapse.renamed?_of_target?
      cases node with
      | primitive kind => rfl
      | enum values => rfl
      | _ => cases plain
    rw [behindAlias, aliased, Option.getD_some, Context.ofGraph_name distinct,
      Context.ofGraph_name distinct, found, foundTarget, Option.bind_some, Option.bind_some,
      collapsed, kept, Option.getD_none, Option.getD_some]

theorem withDirectFields_symbols (graph : Graph) :
    graph.withDirectFields.symbols = graph.symbols := by
  simp only [symbols, withDirectFields, List.map_map, Function.comp_def]

theorem withDirectFields_weight (graph : Graph) :
    graph.withDirectFields.weight = graph.weight := by
  simp only [weight, withDirectFields, List.foldr_map, Node.respell_weight]

theorem alike_withDirectFields (options : Options) {graph : Graph}
    (distinct : graph.symbols.Nodup) :
    Graph.Alike options graph.behindAlias graph graph.withDirectFields where
  distinct := distinct
  distinctOther := by rw [withDirectFields_symbols]; exact distinct
  respells symbol := Symbols.lookup_map _ graph.entries symbol
  weight := graph.withDirectFields_weight
  spelled := name_behindAlias options distinct

theorem emitted_withDirectFields (options : Options) {graph : Graph}
    (distinct : graph.symbols.Nodup) :
    (Context.ofGraph options graph.withDirectFields).emitted
      = (Context.ofGraph options graph).emitted.map fun entry =>
        (entry.1, entry.2.respell graph.behindAlias false) := by
  have respells := (alike_withDirectFields options distinct).respells
  simp only [Context.ofGraph, withDirectFields, List.filter_map]
  congr 1
  apply List.filter_congr
  intro entry _
  exact congrArg Option.isNone (Collapse.renamed?_respell respells entry.2)

/-- A schema does not change when the field types refer directly to what their aliases stand for. -/
theorem schema_withDirectFields (options : Options) {graph : Graph}
    (distinct : graph.symbols.Nodup) :
    graph.withDirectFields.schema options = graph.schema options := by
  have alike := alike_withDirectFields options distinct
  have failure : (Collapse.run graph.withDirectFields graph.withDirectFields.entries).failure
      = (Collapse.run graph graph.entries).failure :=
    Collapse.run_respell alike.respells graph.entries
  have groups : (Context.ofGraph options graph.withDirectFields).emitted.mapM
        (Emission.group (Context.ofGraph options graph.withDirectFields))
      = (Context.ofGraph options graph).emitted.mapM
        (Emission.group (Context.ofGraph options graph)) := by
    rw [emitted_withDirectFields options distinct, List.mapM_map]
    exact Traversal.mapM_congr fun entry _ => alike.group entry.1 entry.2
  rw [schema_eq, schema_eq, failure, groups]

/-- The type of paints refers to an alias of an enum, and then to the enum. -/
theorem schema_withDirectFields_paints :
    paints.symbols.Nodup ∧
      paints.withDirectFields.find? "Wall" = some (.interface
        ⟨[.property ⟨"paint", some (.reference "Color"), false, none⟩,
          .property ⟨"keys", some (.array [.reference "Key"]), true, none⟩], [], true, none⟩) ∧
      paints.withDirectFields.schema {} = paints.schema {} :=
  ⟨by decide, rfl, schema_withDirectFields {} (by decide)⟩

end Graph

end SchemaLowering
