import SchemaLowering.Proofs.DerivedDeclarations
import SchemaLowering.Proofs.InheritedMembers
import SchemaLowering.Proofs.Pass

/-!
What failures report. However a pass fails, it reports a symbol as missing only if the graph has
none of that name, and an option as unusable only if some option is of the wrong kind. Each step
either makes no such report, or looks the symbol or the option up first; chains and traversals of
such steps are such steps again.
-/

namespace SchemaLowering

theorem Options.WellTyped.placeholderName {options : Options} (wellTyped : options.WellTyped) :
    ∃ name, options.placeholderName = .ok name := by
  obtain ⟨name, placeholder⟩ := wellTyped.placeholder
  rw [Options.placeholderName, placeholder]
  exact ⟨name, rfl⟩

/-- What is the case when lowering fails with an error. -/
def LoweringError.HoldsOf (graph : Graph) (options : Options) : LoweringError → Prop
  | .unresolved target => graph.find? target = none
  | .misuse _ => ¬ options.WellTyped
  | _ => True

/-- A computation whose error says what is the case. -/
def Graph.Truthful {α : Type} (graph : Graph) (options : Options)
    (result : Except LoweringError α) : Prop :=
  ∀ error, result = .error error → error.HoldsOf graph options

namespace Graph.Truthful

variable {α β : Type} {graph : Graph} {options : Options}

theorem ok (value : α) : graph.Truthful options (.ok value) := by
  intro error failed
  cases failed

theorem error {error : LoweringError} (holds : error.HoldsOf graph options) :
    graph.Truthful options (.error error : Except LoweringError α) := by
  intro other same
  cases same
  exact holds

theorem bind {first : Except LoweringError α} {next : α → Except LoweringError β}
    (truthful : graph.Truthful options first)
    (continues : ∀ value, graph.Truthful options (next value)) :
    graph.Truthful options (first >>= next) := by
  cases first with
  | error failure => exact error (truthful failure rfl)
  | ok value => exact continues value

theorem map {first : Except LoweringError α} (truthful : graph.Truthful options first)
    (function : α → β) : graph.Truthful options (first.map function) := by
  cases first with
  | error failure => exact error (truthful failure rfl)
  | ok value => exact ok _

theorem mapM {items : List α} {function : α → Except LoweringError β}
    (each : ∀ item ∈ items, graph.Truthful options (function item)) :
    graph.Truthful options (items.mapM function) := by
  induction items with
  | nil => exact ok _
  | cons item rest ih =>
    obtain ⟨first, others⟩ := List.forall_mem_cons.mp each
    rw [List.mapM_cons]
    exact first.bind fun result => (ih others).bind fun results => ok _

/-- A use of an option is truthful when it succeeds with all options of the right kinds. -/
theorem lift {result : Except Misuse α} (usable : options.WellTyped → ∃ value, result = .ok value) :
    graph.Truthful options (Misuse.lift result) := by
  cases result with
  | error misuse =>
    refine error fun wellTyped => ?_
    obtain ⟨value, impossible⟩ := usable wellTyped
    cases impossible
  | ok value => exact ok value

theorem mapError_union (result : Except UnionError α) :
    graph.Truthful options (result.mapError .union) := by
  cases result with
  | error found => exact error trivial
  | ok value => exact ok value

theorem resolve (graph : Graph) (symbol : String) :
    graph.Truthful options (graph.resolve symbol) := by
  unfold Graph.resolve
  cases found : graph.find? symbol with
  | none => exact error found
  | some node => exact ok node

end Graph.Truthful

open SchemaLowering.Graph

variable {options : Options}

namespace Collapse

theorem truthful_target? (graph : Graph) (node : Node) :
    graph.Truthful options (target? graph node) := by
  cases node with
  | «alias» target documentation =>
    cases target with
    | reference symbol =>
      refine (Truthful.resolve graph symbol).bind fun referenced => ?_
      split
      · exact Truthful.ok _
      · exact Truthful.ok _
    | _ => exact Truthful.ok _
  | _ => exact Truthful.ok _

/-- The failure of a sorting is the failure of one of its symbols. -/
theorem exists_of_run_failure {graph : Graph} {entries : List (String × Node)}
    {error : LoweringError} (failed : (run graph entries).failure = some error) :
    ∃ entry ∈ entries, target? graph entry.2 = .error error := by
  obtain ⟨before, entry, after, rfl, _, fails⟩ := run_failure_eq_some_iff.mp failed
  exact ⟨entry, by simp, fails⟩

end Collapse

namespace Inheritance

variable (graph : Graph) (origin : Option String)

theorem truthful_ancestors (visited : List String) (current : Interface) :
    graph.Truthful options (ancestors graph origin visited current) := by
  fun_induction ancestors graph origin visited current with
  | case1 => exact Truthful.ok _
  | case3 visited current name one fresh found =>
    exact Truthful.error found
  | case5 visited current name one fresh notStart parent found _ ih =>
    exact ih.bind fun rest => Truthful.ok _
  | _ =>
    exact Truthful.error trivial

theorem truthful_members (declaration : Interface) :
    graph.Truthful options (members graph origin declaration) :=
  ((truthful_ancestors graph origin [] declaration).bind fun _ => Truthful.ok _).bind
    fun _ => Truthful.ok _

theorem truthful_properties (all : List Member) : graph.Truthful options (properties all) := by
  induction all with
  | nil => exact Truthful.ok _
  | cons member rest ih =>
    cases member with
    | property declaration => exact ih.bind fun others => Truthful.ok _
    | method declaration =>
      exact Truthful.error trivial

theorem truthful_inlineMembers (declaration : Interface) :
    graph.Truthful options (inlineMembers graph origin (.interface declaration)) :=
  (truthful_members graph origin declaration).bind (truthful_properties graph)

theorem truthful_shownMembers (ctx : Context) (declaration : Interface) :
    ctx.graph.Truthful ctx.options (shownMembers ctx origin declaration) := by
  have sorted : ctx.graph.Truthful ctx.options (sortedMembers ctx.graph origin declaration) := by
    rw [sortedMembers_eq]
    exact (truthful_members ctx.graph origin declaration).map _
  have substantial : ctx.graph.Truthful ctx.options
      (substance ctx.options ctx.graph origin declaration) := by
    refine sorted.bind fun all => ?_
    cases all with
    | nil => exact Truthful.ok _
    | cons first rest => exact Truthful.ok _
  refine substantial.bind fun found => ?_
  cases found with
  | members first rest => exact Truthful.ok _
  | placeholder name =>
    exact (Truthful.lift Options.WellTyped.placeholderName).bind fun _ => Truthful.ok _

end Inheritance

namespace Expression

variable (ctx : Context)

theorem truthful_inlineText {lowerType : Node → Except LoweringError String}
    (each : ∀ node, ctx.graph.Truthful ctx.options (lowerType node)) (members : List Property) :
    ctx.graph.Truthful ctx.options (inlineText ctx.options lowerType members) := by
  cases members with
  | nil => exact (Truthful.lift Options.WellTyped.placeholderName).bind fun _ => Truthful.ok _
  | cons first rest =>
    refine Truthful.bind (Truthful.mapM fun member _ => ?_) fun _ => Truthful.ok _
    unfold inlineField
    cases member.signature with
    | none => exact Truthful.ok _
    | some signature => exact (each signature).bind fun _ => Truthful.ok _

theorem truthful_lowerWithin (depth : Nat) (origin : Option String) (node : Node) :
    ctx.graph.Truthful ctx.options (lowerWithin ctx depth origin node) := by
  induction depth generalizing origin node with
  | zero =>
    exact Truthful.error trivial
  | succ depth ih =>
    cases node with
    | primitive kind =>
      cases kind with
      | any =>
        exact Truthful.error trivial
      | _ => exact Truthful.ok _
    | reference target => exact Truthful.ok _
    | array elements =>
      exact Truthful.bind (Truthful.mapM fun element _ => ih none element) fun _ => Truthful.ok _
    | object members => exact (Truthful.ok _).bind (truthful_inlineText ctx (ih none))
    | interface declaration =>
      exact (Inheritance.truthful_inlineMembers ctx.graph origin declaration).bind
        (truthful_inlineText ctx (ih none))
    | _ =>
      exact Truthful.error trivial

theorem truthful_lowerOptional (type : Option Node) :
    ctx.graph.Truthful ctx.options (lowerOptional ctx type) := by
  cases type with
  | none => exact Truthful.ok _
  | some node => exact truthful_lowerWithin ctx _ none node

end Expression

namespace Crud

variable (ctx : Context) (tables : Tables)

theorem truthful_ofOptional (type : Option Node) :
    ctx.graph.Truthful ctx.options (FieldShape.ofOptional ctx tables type) := by
  cases type with
  | none => exact Truthful.ok _
  | some node =>
    have lowered : ctx.graph.Truthful ctx.options (Expression.lower ctx node.unaliased) :=
      Expression.truthful_lowerWithin ctx _ none node.unaliased
    exact (lowered.map _).map some

theorem truthful_inputBy (rule : TypeField → FieldShape → Option Field) (role : InputRole)
    (fields : List TypeField) (name : String) :
    ctx.graph.Truthful ctx.options (inputBy ctx tables rule role fields name) := by
  have each : ctx.graph.Truthful ctx.options (fields.mapM (clauseBy ctx tables rule)) :=
    Truthful.mapM fun field _ => (truthful_ofOptional ctx tables field.type).map _
  exact (each.map _).bind fun _ => Truthful.ok _

theorem truthful_whereInput (fields : List TypeField) (name : String) :
    ctx.graph.Truthful ctx.options (whereInput ctx tables fields name) := by
  refine Truthful.bind (Truthful.mapM fun field _ => ?_) fun _ => Truthful.ok _
  rw [filterClauses_eq]
  refine (truthful_ofOptional ctx tables field.type).bind fun shape => ?_
  cases shape with
  | none => exact Truthful.ok _
  | some shape => exact Truthful.lift fun wellTyped => exists_filterClauses wellTyped _ shape

theorem truthful_generate (origin : Option String) (declaration : Interface) (name : String) :
    ctx.graph.Truthful ctx.options (generate ctx tables origin declaration name) := by
  have kept : ctx.graph.Truthful ctx.options (fields ctx origin declaration) :=
    (Inheritance.truthful_shownMembers origin ctx declaration).bind fun _ => Truthful.ok _
  refine kept.bind fun fields => Truthful.mapM fun artifact _ => ?_
  cases artifact with
  | createInput =>
    rw [Artifact.block, createInput_eq]
    exact truthful_inputBy ctx tables createRule .create fields name
  | updateInput =>
    rw [Artifact.block, updateInput_eq]
    exact truthful_inputBy ctx tables updateRule .update fields name
  | updateManyMutationInput =>
    rw [Artifact.block, updateManyMutationInput_eq]
    exact truthful_inputBy ctx tables updateManyRule .updateManyMutation fields name
  | whereInput => exact truthful_whereInput ctx tables fields name
  | _ => exact Truthful.ok _

end Crud

namespace Union

theorem truthful_enumValues (graph : Graph) (targets : List String) :
    graph.Truthful options (enumValues graph targets) := by
  induction targets with
  | nil => exact Truthful.ok _
  | cons target rest ih =>
    refine (Truthful.resolve graph target).bind fun node => ?_
    cases node with
    | enum values => exact ih.bind fun _ => Truthful.ok _
    | _ =>
      exact Truthful.error trivial

theorem truthful_interfaceNames (ctx : Context) (targets : List String) :
    ctx.graph.Truthful ctx.options (interfaceNames ctx targets) := by
  induction targets with
  | nil => exact Truthful.ok _
  | cons target rest ih =>
    refine (Truthful.resolve ctx.graph target).bind fun node => ?_
    cases node with
    | interface declaration => exact ih.bind fun _ => Truthful.ok _
    | _ =>
      exact Truthful.error trivial

theorem truthful_declare (ctx : Context) (tables : Tables) (types : List Node) (name : String) :
    ctx.graph.Truthful ctx.options (declare ctx tables types name) := by
  cases types with
  | nil =>
    exact Truthful.error trivial
  | cons first rest =>
    unfold declare
    cases literals? (first :: rest) with
    | some values => exact Truthful.ok _
    | none =>
      refine (Truthful.mapError_union _).bind fun targets => ?_
      cases targets with
      | nil =>
        exact Truthful.error trivial
      | cons leading others =>
        refine (Truthful.resolve ctx.graph leading).bind fun node => ?_
        cases node with
        | enum values => exact (truthful_enumValues ctx.graph _).bind fun _ => Truthful.ok _
        | interface own => exact (truthful_interfaceNames ctx _).bind fun _ => Truthful.ok _
        | _ =>
          exact Truthful.error trivial

end Union

namespace Emission

variable (ctx : Context)

theorem truthful_argumentText (argument : Node) :
    ctx.graph.Truthful ctx.options (argumentText ctx argument) := by
  unfold argumentText
  split
  · next target =>
    exact (Truthful.resolve ctx.graph target).bind fun node =>
      Expression.truthful_lowerWithin ctx _ _ node
  · exact Expression.truthful_lowerWithin ctx _ none _

theorem truthful_memberField (member : Member) :
    ctx.graph.Truthful ctx.options (memberField ctx member) := by
  cases member with
  | property declaration =>
    exact (Expression.truthful_lowerOptional ctx _).bind fun _ => Truthful.ok _
  | method declaration =>
    have returns := Expression.truthful_lowerOptional ctx declaration.returns
    rcases parameters : declaration.parameters with _ | ⟨⟨name, argument⟩, _ | ⟨second, others⟩⟩
    · rw [memberField, parameters]
      exact returns.bind fun _ => Truthful.ok _
    · rw [memberField, parameters]
      exact (truthful_argumentText ctx argument).bind fun _ => returns.bind fun _ => Truthful.ok _
    · rw [memberField, parameters]
      exact Truthful.error trivial

theorem truthful_derivedBlocks (tables : Tables) (origin : Option String)
    (declaration : Interface) (symbol : String) :
    ctx.graph.Truthful ctx.options (derivedBlocks ctx tables origin declaration symbol) := by
  unfold derivedBlocks wantsCrud
  split
  · refine Truthful.bind ?_ fun wanted => ?_
    · split
      · exact (Truthful.lift fun wellTyped => wellTyped.isReserved symbol).bind
          fun _ => Truthful.ok _
      · exact Truthful.ok _
    · cases wanted with
      | false => exact Truthful.ok _
      | true => exact Crud.truthful_generate ctx tables origin declaration _
  · exact Truthful.ok _

theorem truthful_interfaceBlocks (tables : Tables) (origin : Option String)
    (declaration : Interface) (symbol : String) :
    ctx.graph.Truthful ctx.options (interfaceBlocks ctx tables origin declaration symbol) := by
  rw [interfaceBlocks_eq]
  refine (Inheritance.truthful_shownMembers origin ctx declaration).bind fun members => ?_
  have body : ctx.graph.Truthful ctx.options (interfaceBody ctx members) :=
    Truthful.bind (Truthful.mapM fun member _ => truthful_memberField ctx member)
      fun _ => Truthful.ok _
  exact body.bind fun _ =>
    (truthful_derivedBlocks ctx tables origin declaration symbol).bind fun _ => Truthful.ok _

theorem truthful_group (entry : String × Node) :
    ctx.graph.Truthful ctx.options (group ctx entry) := by
  refine Truthful.map ?_ Prod.fst
  obtain ⟨symbol, node⟩ := entry
  unfold declarationBlocks
  cases node with
  | «alias» target documentation =>
    cases target with
    | primitive | reference => exact Truthful.ok _
    | union types => exact (Union.truthful_declare ctx _ types symbol).bind fun _ => Truthful.ok _
    | _ =>
      exact Truthful.error trivial
  | interface declaration =>
    exact (truthful_interfaceBlocks ctx _ _ declaration symbol).bind fun _ => Truthful.ok _
  | enum values => exact Truthful.ok _
  | _ =>
    exact Truthful.error trivial

end Emission

/-- Whatever error a pass over a graph ends with says what is the case. -/
theorem Graph.holdsOf_schema {options : Options} {graph : Graph} {error : LoweringError}
    (failed : graph.schema options = .error error) : error.HoldsOf graph options := by
  suffices graph.Truthful options (graph.schema options) from this error failed
  rw [schema_eq]
  cases collapse : (Collapse.run graph graph.entries).failure with
  | some own =>
    obtain ⟨entry, _, ofEntry⟩ := Collapse.exists_of_run_failure collapse
    exact Truthful.error (Collapse.truthful_target? graph entry.2 own ofEntry)
  | none =>
    exact Truthful.map (Truthful.mapM fun entry _ =>
      Emission.truthful_group (Context.ofGraph options graph) entry) textOf

/-- A graph whose schema fails for a missing symbol misses it. -/
theorem Graph.truthful_schema (options : Options) (graph : Graph) :
    ∀ target, graph.schema options = .error (.unresolved target) → graph.find? target = none :=
  fun _ failed => holdsOf_schema failed

end SchemaLowering
