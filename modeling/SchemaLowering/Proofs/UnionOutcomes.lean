import Mathlib.Data.List.Induction
import SchemaLowering.Proofs.RegisteredNames

/-!
What becomes of a union. One of texts or of enums is declared as an enum, one of interfaces as a
union, and a mixed one has no declaration. The members are looked up one after the other, so what is
reported of a union of references is decided by the first member that does not fit.
-/

namespace SchemaLowering

namespace Union

/-- The values of a list without repetitions, in the order of their first occurrences. -/
structure Merges (values merged : List String) : Prop where
  same : ∀ value, value ∈ merged ↔ value ∈ values
  distinct : merged.Nodup
  ordered : merged.Pairwise fun first second => values.idxOf first < values.idxOf second

theorem merges_eraseDups (values : List String) : Merges values values.eraseDups := by
  have ordered : values.eraseDups.Pairwise
      fun first second => values.idxOf first < values.idxOf second := by
    -- a value more at the end moves no first occurrence
    induction values using List.reverseRecOn with
    | nil => exact .nil
    | append_singleton values value ih =>
      have kept : values.eraseDups.Pairwise fun first second =>
          (values ++ [value]).idxOf first < (values ++ [value]).idxOf second := by
        refine ih.imp_of_mem fun isFirst isSecond before => ?_
        rw [List.idxOf_append_of_mem (List.mem_eraseDups.mp isFirst),
          List.idxOf_append_of_mem (List.mem_eraseDups.mp isSecond)]
        exact before
      rw [← Tables.adjoin_eraseDups, Tables.adjoin]
      split
      · exact kept
      · next fresh =>
        rw [List.mem_eraseDups] at fresh
        refine List.pairwise_append.mpr ⟨kept, List.pairwise_singleton _ _, ?_⟩
        intro first isFirst second isSecond
        have old := List.mem_eraseDups.mp isFirst
        rw [List.mem_singleton.mp isSecond, List.idxOf_append_of_mem old,
          List.idxOf_append_of_notMem fresh]
        have bound := List.idxOf_lt_length_of_mem old
        omega
  refine ⟨fun value => List.mem_eraseDups, ordered.imp ?_, ordered⟩
  rintro first second before rfl
  exact Nat.lt_irrefl _ before

theorem literals?_eq_some_iff {types : List Node} {values : List String} :
    literals? types = some values ↔ types = values.map .literal := by
  constructor
  · intro found
    fun_induction literals? types generalizing values with
    | case1 =>
      cases found
      rfl
    | case2 value rest ih =>
      obtain ⟨others, foundRest, rfl⟩ := Option.map_eq_some_iff.mp found
      rw [ih foundRest, List.map_cons]
    | case3 => cases found
  · rintro rfl
    induction values with
    | nil => rfl
    | cons value rest ih => rw [List.map_cons, literals?, ih, Option.map_some]

theorem references_map (targets : List String) :
    references (targets.map .reference) = .ok targets := by
  induction targets with
  | nil => rfl
  | cons target rest ih =>
    rw [List.map_cons, references, ih]
    rfl

/-! The members of a union of references, looked up one after the other. -/

/-- The values of an enum. -/
def enum? : Node → Option (List String)
  | .enum values => some values
  | _ => none

def interface? : Node → Option Interface
  | .interface declaration => some declaration
  | _ => none

theorem enum?_eq_some_iff {node : Node} {values : List String} :
    enum? node = some values ↔ node = .enum values := by
  cases node with
  | enum own => simp [enum?]
  | _ => simp [enum?]

theorem interface?_eq_some_iff {node : Node} {declaration : Interface} :
    interface? node = some declaration ↔ node = .interface declaration := by
  cases node with
  | interface own => simp [interface?]
  | _ => simp [interface?]

section Members

variable {α : Type} {graph : Graph} {accepts : Node → Option α}
  {rejection : String → String → UnionError} {targets : List String} {target : String}

/-- What a member of a union contributes. It has to be of the kind that the first one is of. -/
def memberAt (graph : Graph) (accepts : Node → Option α) (rejection : String → String → UnionError)
    (target : String) : Except LoweringError α := do
  let node ← graph.resolve target
  match accepts node with
  | some content => return content
  | none => throw (.union (rejection node.kind target))

/-- The first of the symbols that is not accepted is missing from the graph. -/
def MissesFirst (graph : Graph) (accepts : Node → Option α) (targets : List String)
    (target : String) : Prop :=
  ∃ before after, targets = before ++ target :: after ∧ graph.find? target = none ∧
    ∀ earlier ∈ before, ∃ node content,
      graph.find? earlier = some node ∧ accepts node = some content

theorem memberAt_of_missing (missing : graph.find? target = none) :
    memberAt graph accepts rejection target = .error (.unresolved target) := by
  rw [memberAt, Graph.resolve, missing]
  rfl

theorem memberAt_of_accepted {node : Node} {content : α} (found : graph.find? target = some node)
    (accepted : accepts node = some content) :
    memberAt graph accepts rejection target = .ok content := by
  simp only [memberAt, Graph.resolve, found, bind, Except.bind, accepted]
  rfl

theorem memberAt_of_rejected {node : Node} (found : graph.find? target = some node)
    (rejected : accepts node = none) :
    memberAt graph accepts rejection target = .error (.union (rejection node.kind target)) := by
  simp only [memberAt, Graph.resolve, found, bind, Except.bind, rejected]
  rfl

/-- A member is accepted, or missing, or of another kind. -/
theorem memberAt_cases (graph : Graph) (accepts : Node → Option α)
    (rejection : String → String → UnionError) (target : String) :
    (∃ node content, graph.find? target = some node ∧ accepts node = some content ∧
        memberAt graph accepts rejection target = .ok content) ∨
      (graph.find? target = none ∧
        memberAt graph accepts rejection target = .error (.unresolved target)) ∨
      ∃ reason, memberAt graph accepts rejection target = .error (.union reason) := by
  cases found : graph.find? target with
  | none => exact .inr (.inl ⟨rfl, memberAt_of_missing found⟩)
  | some node =>
    cases content : accepts node with
    | none => exact .inr (.inr ⟨_, memberAt_of_rejected found content⟩)
    | some content' =>
      exact .inl ⟨node, content', rfl, content, memberAt_of_accepted found content⟩

theorem memberAt_eq_ok_iff {content : α} :
    memberAt graph accepts rejection target = .ok content ↔
      ∃ node, graph.find? target = some node ∧ accepts node = some content := by
  constructor
  · intro accepted
    rcases memberAt_cases graph accepts rejection target with
      ⟨node, own, found, ofNode, same⟩ | ⟨_, failed⟩ | ⟨reason, failed⟩
    · rw [accepted] at same
      cases same
      exact ⟨node, found, ofNode⟩
    · rw [accepted] at failed
      cases failed
    · rw [accepted] at failed
      cases failed
  · rintro ⟨node, found, accepted⟩
    exact memberAt_of_accepted found accepted

theorem mapM_memberAt_of_misses (misses : MissesFirst graph accepts targets target) :
    targets.mapM (memberAt graph accepts rejection) = .error (.unresolved target) := by
  obtain ⟨before, after, rfl, missing, accepted⟩ := misses
  refine Traversal.mapM_eq_error.mpr
    ⟨before, target, after, rfl, ?_, memberAt_of_missing missing⟩
  intro earlier isEarlier
  obtain ⟨node, content, found, ofNode⟩ := accepted earlier isEarlier
  exact ⟨content, memberAt_of_accepted found ofNode⟩

/-- The members are accepted, or come to a missing symbol, or one of them is of another kind. -/
theorem mapM_memberAt_cases (graph : Graph) (accepts : Node → Option α)
    (rejection : String → String → UnionError) (targets : List String) :
    (∃ contents, targets.mapM (memberAt graph accepts rejection) = .ok contents) ∨
      (∃ target, MissesFirst graph accepts targets target) ∨
      ∃ reason, targets.mapM (memberAt graph accepts rejection) = .error (.union reason) := by
  cases walked : targets.mapM (memberAt graph accepts rejection) with
  | ok contents => exact .inl ⟨contents, rfl⟩
  | error error =>
    obtain ⟨before, target, after, split, earlier, failed⟩ := Traversal.mapM_eq_error.mp walked
    rcases memberAt_cases graph accepts rejection target with
      ⟨node, own, found, _, accepted⟩ | ⟨missing, _⟩ | ⟨reason, rejected⟩
    · rw [failed] at accepted
      cases accepted
    · refine .inr (.inl ⟨target, before, after, split, missing, fun symbol isEarlier => ?_⟩)
      obtain ⟨content, accepted⟩ := earlier symbol isEarlier
      obtain ⟨node, found, ofNode⟩ := memberAt_eq_ok_iff.mp accepted
      exact ⟨node, content, found, ofNode⟩
    · rw [failed] at rejected
      cases rejected
      exact .inr (.inr ⟨reason, rfl⟩)

end Members

theorem enumValues_eq (graph : Graph) (targets : List String) :
    enumValues graph targets
      = (targets.mapM (memberAt graph enum? .notEnum)).map List.flatten := by
  induction targets with
  | nil => rfl
  | cons target rest ih =>
    rw [enumValues, ih, List.mapM_cons, memberAt]
    cases graph.resolve target with
    | error error => rfl
    | ok node =>
      cases node with
      | enum own =>
        cases rest.mapM (memberAt graph enum? .notEnum) with
        | error error => rfl
        | ok lists => rfl
      | _ => rfl

theorem interfaceNames_eq (ctx : Context) (targets : List String) :
    interfaceNames ctx targets
      = (targets.mapM (memberAt ctx.graph interface? .notInterface)).map
          fun _ => targets.map ctx.name := by
  induction targets with
  | nil => rfl
  | cons target rest ih =>
    rw [interfaceNames, ih, List.mapM_cons, memberAt]
    cases ctx.graph.resolve target with
    | error error => rfl
    | ok node =>
      cases node with
      | interface own =>
        cases rest.mapM (memberAt ctx.graph interface? .notInterface) with
        | error error => rfl
        | ok found => rfl
      | _ => rfl

/-! What a union has to be to have a declaration. -/

/-- A union of texts. -/
def OfTexts (types : List Node) (values : List String) : Prop :=
  types = values.map .literal

/-- A union of enums of the graph, and the values of one enum after the other. -/
def OfEnums (graph : Graph) (types : List Node) (values : List String) : Prop :=
  ∃ targets lists, types = targets.map .reference ∧ values = lists.flatten ∧
    List.Forall₂ (fun target own => graph.find? target = some (.enum own)) targets lists

/-- A union of interfaces of the graph. -/
def OfInterfaces (graph : Graph) (types : List Node) (targets : List String) : Prop :=
  types = targets.map .reference ∧
    ∀ target ∈ targets, ∃ own, graph.find? target = some (.interface own)

/-- A union whose members are all of one of the three kinds. -/
def Uniform (graph : Graph) (types : List Node) : Prop :=
  types ≠ [] ∧ ((∃ values, OfTexts types values) ∨ (∃ values, OfEnums graph types values) ∨
    ∃ targets, OfInterfaces graph types targets)

/-- A union of references that comes to a symbol missing from the graph: the first one, or the
earliest one that is no enum if the first one is, or that is no interface if the first one is. -/
inductive Misses (graph : Graph) (target : String) : List Node → Prop where
  | first {rest : List String} (missing : graph.find? target = none) :
      Misses graph target ((target :: rest).map .reference)
  | behindEnum {first : String} {rest own : List String}
      (leading : graph.find? first = some (.enum own))
      (misses : MissesFirst graph enum? (first :: rest) target) :
      Misses graph target ((first :: rest).map .reference)
  | behindInterface {first : String} {rest : List String} {own : Interface}
      (leading : graph.find? first = some (.interface own))
      (misses : MissesFirst graph interface? (first :: rest) target) :
      Misses graph target ((first :: rest).map .reference)

section Members

variable {graph : Graph} {targets : List String}

theorem mapM_enum_eq_ok_iff {lists : List (List String)} :
    targets.mapM (memberAt graph enum? .notEnum) = .ok lists ↔
      List.Forall₂ (fun target own => graph.find? target = some (.enum own)) targets lists := by
  simp only [Traversal.mapM_eq_ok, memberAt_eq_ok_iff, enum?_eq_some_iff, exists_eq_right]

theorem exists_mapM_interface_iff :
    (∃ contents, targets.mapM (memberAt graph interface? .notInterface) = .ok contents) ↔
      ∀ target ∈ targets, ∃ own, graph.find? target = some (.interface own) := by
  simp only [Traversal.exists_mapM_eq_ok, memberAt_eq_ok_iff, interface?_eq_some_iff,
    exists_eq_right]

end Members

section Outcomes

variable {ctx : Context} {tables : Tables} {types : List Node} {name first : String}

theorem declare_of_ofTexts {values : List String} (nonempty : types ≠ [])
    (texts : OfTexts types values) :
    declare ctx tables types name = .ok (declareEnum ctx tables name values.eraseDups) := by
  cases types with
  | nil => exact absurd rfl nonempty
  | cons node rest => simp only [declare, literals?_eq_some_iff.mpr texts]

/-- A union of references looks its first member up before the others. -/
theorem declare_of_missing (rest : List String) (missing : ctx.graph.find? first = none) :
    declare ctx tables ((first :: rest).map .reference) name = .error (.unresolved first) := by
  have listed := references_map (first :: rest)
  simp only [List.map_cons] at listed
  simp only [declare, List.map_cons, literals?, listed, Except.mapError, Graph.resolve, missing,
    bind, Except.bind]

theorem declare_of_enum (rest : List String) {own : List String}
    (leading : ctx.graph.find? first = some (.enum own)) :
    declare ctx tables ((first :: rest).map .reference) name =
      ((first :: rest).mapM (memberAt ctx.graph enum? .notEnum)).map
        fun lists => declareEnum ctx tables name lists.flatten.eraseDups := by
  have listed := references_map (first :: rest)
  simp only [List.map_cons] at listed
  simp only [declare, List.map_cons, literals?, listed, Except.mapError, Graph.resolve, leading,
    bind, Except.bind, enumValues_eq]
  cases (first :: rest).mapM (memberAt ctx.graph enum? .notEnum) with
  | error error => rfl
  | ok lists => rfl

theorem declare_of_interface (rest : List String) {own : Interface}
    (leading : ctx.graph.find? first = some (.interface own)) :
    declare ctx tables ((first :: rest).map .reference) name =
      ((first :: rest).mapM (memberAt ctx.graph interface? .notInterface)).map
        fun _ => (.union (ctx.name name) ((first :: rest).map ctx.name), tables) := by
  have listed := references_map (first :: rest)
  simp only [List.map_cons] at listed
  simp only [declare, List.map_cons, literals?, listed, Except.mapError, Graph.resolve, leading,
    bind, Except.bind, interfaceNames_eq]
  cases (first :: rest).mapM (memberAt ctx.graph interface? .notInterface) with
  | error error => rfl
  | ok found => rfl

theorem declare_of_other (rest : List String) {leading : Node}
    (found : ctx.graph.find? first = some leading) (notEnum : ∀ own, leading ≠ .enum own)
    (notInterface : ∀ own, leading ≠ .interface own) :
    declare ctx tables ((first :: rest).map .reference) name
      = .error (.union (.unsupported leading.kind)) := by
  have listed := references_map (first :: rest)
  simp only [List.map_cons] at listed
  simp only [declare, List.map_cons, literals?, listed, Except.mapError, Graph.resolve, found,
    bind, Except.bind]

theorem declare_of_ofEnums {values : List String} (nonempty : types ≠ [])
    (enums : OfEnums ctx.graph types values) :
    declare ctx tables types name = .ok (declareEnum ctx tables name values.eraseDups) := by
  obtain ⟨targets, lists, rfl, rfl, each⟩ := enums
  cases each with
  | nil => exact absurd rfl nonempty
  | cons leading others =>
    rw [declare_of_enum _ leading, mapM_enum_eq_ok_iff.mpr (.cons leading others)]
    rfl

theorem declare_of_ofInterfaces {targets : List String} (nonempty : types ≠ [])
    (interfaces : OfInterfaces ctx.graph types targets) :
    declare ctx tables types name
      = .ok (.union (ctx.name name) (targets.map ctx.name), tables) := by
  obtain ⟨rfl, each⟩ := interfaces
  cases targets with
  | nil => exact absurd rfl nonempty
  | cons first rest =>
    obtain ⟨own, leading⟩ := each first List.mem_cons_self
    obtain ⟨contents, accepted⟩ := exists_mapM_interface_iff.mpr each
    rw [declare_of_interface rest leading, accepted]
    rfl

/-- A union of one kind has a declaration. -/
theorem exists_declare_of_uniform (uniform : Uniform ctx.graph types) :
    ∃ result, declare ctx tables types name = .ok result := by
  obtain ⟨nonempty, ⟨values, texts⟩ | ⟨values, enums⟩ | ⟨targets, interfaces⟩⟩ := uniform
  · exact ⟨_, declare_of_ofTexts nonempty texts⟩
  · exact ⟨_, declare_of_ofEnums nonempty enums⟩
  · exact ⟨_, declare_of_ofInterfaces nonempty interfaces⟩

theorem declare_of_misses {target : String} (misses : Misses ctx.graph target types) :
    declare ctx tables types name = .error (.unresolved target) := by
  cases misses with
  | first missing => exact declare_of_missing _ missing
  | behindEnum leading misses =>
    rw [declare_of_enum _ leading, mapM_memberAt_of_misses misses]
    rfl
  | behindInterface leading misses =>
    rw [declare_of_interface _ leading, mapM_memberAt_of_misses misses]
    rfl

/-- A union is uniform, or comes to a missing symbol, or is reported as ill-composed. -/
theorem declare_cases (ctx : Context) (tables : Tables) (types : List Node) (name : String) :
    Uniform ctx.graph types ∨ (∃ target, Misses ctx.graph target types) ∨
      ∃ reason, declare ctx tables types name = .error (.union reason) := by
  cases types with
  | nil => exact .inr (.inr ⟨.empty name, rfl⟩)
  | cons node others =>
    cases texts : literals? (node :: others) with
    | some values => exact .inl ⟨by simp, .inl ⟨values, literals?_eq_some_iff.mp texts⟩⟩
    | none =>
      cases listed : references (node :: others) with
      | error reason =>
        right
        right
        simp only [declare, texts, listed, Except.mapError, bind, Except.bind]
        exact ⟨reason, rfl⟩
      | ok targets =>
        rw [eq_map_of_references listed]
        cases targets with
        | nil => cases eq_map_of_references listed
        | cons first rest =>
          cases leading : ctx.graph.find? first with
          | none => exact .inr (.inl ⟨first, .first leading⟩)
          | some shape =>
            cases shape with
            | enum own =>
              rcases mapM_memberAt_cases ctx.graph enum? .notEnum (first :: rest) with
                ⟨lists, accepted⟩ | ⟨target, misses⟩ | ⟨reason, rejected⟩
              · have each := mapM_enum_eq_ok_iff.mp accepted
                exact .inl ⟨by simp, .inr (.inl ⟨_, _, lists, rfl, rfl, each⟩)⟩
              · exact .inr (.inl ⟨target, .behindEnum leading misses⟩)
              · rw [declare_of_enum rest leading, rejected]
                exact .inr (.inr ⟨reason, rfl⟩)
            | interface own =>
              rcases mapM_memberAt_cases ctx.graph interface? .notInterface (first :: rest) with
                accepted | ⟨target, misses⟩ | ⟨reason, rejected⟩
              · have each := exists_mapM_interface_iff.mp accepted
                exact .inl ⟨by simp, .inr (.inr ⟨_, rfl, each⟩)⟩
              · exact .inr (.inl ⟨target, .behindInterface leading misses⟩)
              · rw [declare_of_interface rest leading, rejected]
                exact .inr (.inr ⟨reason, rfl⟩)
            | _ => exact .inr (.inr ⟨_, declare_of_other rest leading (by simp) (by simp)⟩)

theorem exists_declare_iff :
    (∃ result, declare ctx tables types name = .ok result) ↔ Uniform ctx.graph types := by
  refine ⟨?_, exists_declare_of_uniform⟩
  rintro ⟨result, declared⟩
  rcases declare_cases ctx tables types name with uniform | ⟨target, misses⟩ | ⟨reason, failed⟩
  · exact uniform
  · rw [declare_of_misses misses] at declared
    cases declared
  · rw [failed] at declared
    cases declared

theorem declare_eq_unresolved_iff {target : String} :
    declare ctx tables types name = .error (.unresolved target) ↔
      Misses ctx.graph target types := by
  refine ⟨fun failed => ?_, declare_of_misses⟩
  rcases declare_cases ctx tables types name with uniform | ⟨other, misses⟩ | ⟨reason, rejected⟩
  · obtain ⟨result, declared⟩ := exists_declare_of_uniform uniform
    rw [declared] at failed
    cases failed
  · rw [declare_of_misses misses] at failed
    cases failed
    exact misses
  · rw [rejected] at failed
    cases failed

theorem exists_declare_eq_union_iff :
    (∃ reason, declare ctx tables types name = .error (.union reason)) ↔
      ¬ Uniform ctx.graph types ∧ ∀ target, ¬ Misses ctx.graph target types := by
  constructor
  · rintro ⟨reason, failed⟩
    refine ⟨fun uniform => ?_, fun target misses => ?_⟩
    · obtain ⟨result, declared⟩ := exists_declare_of_uniform uniform
      rw [declared] at failed
      cases failed
    · rw [declare_of_misses misses] at failed
      cases failed
  · rintro ⟨mixed, known⟩
    rcases declare_cases ctx tables types name with uniform | ⟨target, misses⟩ | rejected
    · exact absurd uniform mixed
    · exact absurd misses (known target)
    · exact rejected

end Outcomes

/-- A union has a declaration exactly when it is not empty and all its members are texts, or enums,
or interfaces. Texts and enums become an enum of all their values, each once and in the order of
first occurrences, whose name is registered; interfaces become a union of their names in order, and
nothing is registered. Any other union fails: for a symbol that it misses, if it comes to one, and
otherwise as ill-composed. A union that fails registers no name, even when names are registered at
once. -/
theorem declare_outcome (ctx : Context) (tables : Tables) (types : List Node) (name : String) :
    ((∃ result, declare ctx tables types name = .ok result) ↔ Uniform ctx.graph types) ∧
    (∀ values, types ≠ [] → OfTexts types values ∨ OfEnums ctx.graph types values →
      ∃ merged, Merges values merged ∧ declare ctx tables types name = .ok
        (.declare .enum (ctx.name name) (merged.map .word), tables.registerEnum ctx name)) ∧
    (∀ targets, types ≠ [] → OfInterfaces ctx.graph types targets →
      declare ctx tables types name
        = .ok (.union (ctx.name name) (targets.map ctx.name), tables)) ∧
    (∀ target, declare ctx tables types name = .error (.unresolved target) ↔
      Misses ctx.graph target types) ∧
    ((∃ reason, declare ctx tables types name = .error (.union reason)) ↔
      ¬ Uniform ctx.graph types ∧ ∀ target, ¬ Misses ctx.graph target types) ∧
    ∀ error, declare ctx tables types name = .error error →
      (Session.Registering.declareUnion ctx types name).run.run tables
        = (.error error, tables) := by
  refine ⟨exists_declare_iff, ?_, ?_, fun target => declare_eq_unresolved_iff,
    exists_declare_eq_union_iff, ?_⟩
  · rintro values nonempty (texts | enums)
    · exact ⟨_, merges_eraseDups values, declare_of_ofTexts nonempty texts⟩
    · exact ⟨_, merges_eraseDups values, declare_of_ofEnums nonempty enums⟩
  · intro targets nonempty interfaces
    exact declare_of_ofInterfaces nonempty interfaces
  · intro error failed
    rw [Session.Registering.run_declareUnion, failed]
    rfl

/-- Two enums with a value in common, and an interface. -/
def palette : Graph :=
  ⟨[("Warm", .enum ["RED", "ORANGE"]), ("Cool", .enum ["BLUE", "RED"]),
    ("Frame", .interface ⟨[], [], false, none⟩)]⟩

theorem declare_outcome_palette :
    ∃ ctx tables, Context.prepare {} palette = .ok (ctx, tables) ∧
      (∃ merged, Merges ["RED", "ORANGE", "BLUE", "RED"] merged ∧
        declare ctx tables [.reference "Warm", .reference "Cool"] "Color" = .ok
          (.declare .enum (ctx.name "Color") (merged.map .word), tables.registerEnum ctx "Color")) ∧
      declare ctx tables [.reference "Warm", .reference "Lost", .reference "Frame"] "Color"
        = .error (.unresolved "Lost") ∧
      ¬ Uniform palette [.reference "Warm", .reference "Frame", .reference "Lost"] := by
  refine ⟨Context.ofGraph {} palette, (Context.ofGraph {} palette).declaredTables, rfl, ?_, ?_, ?_⟩
  · refine (declare_outcome _ _ _ _).2.1 _ (by simp) (.inr ?_)
    exact ⟨["Warm", "Cool"], [["RED", "ORANGE"], ["BLUE", "RED"]], rfl, rfl,
      .cons rfl (.cons rfl .nil)⟩
  · refine ((declare_outcome _ _ _ _).2.2.2.1 _).mpr ?_
    refine .behindEnum rfl ⟨["Warm"], ["Frame"], rfl, rfl, ?_⟩
    exact List.forall_mem_singleton.mpr ⟨_, _, rfl, rfl⟩
  · exact ((declare_outcome (Context.ofGraph {} palette) {} _ "Color").2.2.2.2.1.mp ⟨_, rfl⟩).1

end Union

end SchemaLowering
