import Mathlib.Data.List.Perm.Subperm
import Mathlib.Logic.Relation
import SchemaLowering.Proofs.DocumentWriting
import SchemaLowering.Proofs.FailureReports
import SchemaLowering.Proofs.NestedShapes

/-!
How deep expressions are. A shape that is written in place may inherit from an interface that
contains it, and has then no expression of any depth. Nothing else keeps an expression from ending:
there are finitely many shapes to write, so one that is too deep meets a shape inside that shape.
-/

namespace SchemaLowering

namespace Inheritance

variable {graph : Graph} {origin : Option String}

theorem ancestors_ne_endless (visited : List String) (current : Interface) :
    ancestors graph origin visited current ≠ .error .endless := by
  fun_induction ancestors graph origin visited current with
  | case5 visited current name one fresh notStart parent found _ ih =>
    rw [ne_eq, Traversal.bind_pure_eq_error]
    exact ih
  | _ => simp

theorem properties_ne_endless (all : List Member) : properties all ≠ .error .endless := by
  fun_induction properties all with
  | case2 declaration rest ih =>
    rw [ne_eq, Traversal.bind_pure_eq_error]
    exact ih
  | _ => simp

theorem inlineMembers_ne_endless (node : Node) :
    inlineMembers graph origin node ≠ .error .endless := by
  cases node with
  | interface declaration =>
    have walk : ancestors graph origin [] declaration ≠ .error .endless :=
      ancestors_ne_endless [] declaration
    rw [inlineMembers, members, chain]
    cases walked : ancestors graph origin [] declaration with
    | error error =>
      rw [walked] at walk
      simpa [bind, Except.bind] using walk
    | ok above => exact properties_ne_endless _
  | _ => simp [inlineMembers]

/-- An interface without supertypes has only its own members. -/
theorem mem_members_of_root {declaration : Interface} {all : List Member} {member : Member}
    (root : declaration.inherits = []) (collected : members graph origin declaration = .ok all)
    (isMember : member ∈ all) : member ∈ declaration.members := by
  have walked : ancestors graph origin [] declaration = .ok [] := by
    rw [ancestors, root]
  rw [members, chain, walked] at collected
  cases collected
  have own := mem_of_mem_firstByName isMember
  simpa using own

theorem mem_of_mem_properties {all : List Member} {found : List Property} {member : Property}
    (listed : properties all = .ok found) (isMember : member ∈ found) : .property member ∈ all := by
  fun_induction properties all generalizing found with
  | case1 =>
    cases listed
    cases isMember
  | case2 declaration rest ih =>
    obtain ⟨others, listedRest, same⟩ := Traversal.bind_eq_ok.mp listed
    cases same
    rcases List.mem_cons.mp isMember with rfl | later
    · exact List.mem_cons_self
    · exact List.mem_cons_of_mem _ (ih listedRest later)
  | case3 => cases listed

end Inheritance

namespace Expression

/-! ## One step -/

section Members

variable {lowerType : Node → Except LoweringError String} {error : LoweringError}

/-- The members of a shape that is written in place fail like their types. -/
theorem mapM_inlineField_eq_error_iff (members : List Property) :
    members.mapM (inlineField lowerType) = .error error ↔
      (Property.signatures members).mapM lowerType = .error error := by
  induction members with
  | nil => simp [Property.signatures, pure, Except.pure]
  | cons member rest ih =>
    rw [List.mapM_cons, inlineField, Property.signatures, List.flatMap_cons]
    cases member.signature with
    | none =>
      rw [Option.toList_none, List.nil_append, ← Property.signatures, ← ih]
      exact Traversal.bind_pure_eq_error
    | some signature =>
      rw [Option.toList_some, List.singleton_append, ← Property.signatures, List.mapM_cons]
      cases lowered : lowerType signature with
      | error other =>
        simp only [lowered]
        rfl
      | ok text =>
        simp only [lowered]
        exact Traversal.bind_pure_eq_error.trans (ih.trans Traversal.bind_pure_eq_error.symm)

theorem inlineText_eq_endless_iff {options : Options} (members : List Property) :
    inlineText options lowerType members = .error .endless ↔
      (Property.signatures members).mapM lowerType = .error .endless := by
  rw [← mapM_inlineField_eq_error_iff]
  cases members with
  | nil =>
    rw [inlineText, Traversal.bind_pure_eq_error, Misuse.lift]
    cases options.placeholderName with
    | error misuse => simp [Except.mapError, pure, Except.pure]
    | ok name => simp [Except.mapError, pure, Except.pure]
  | cons member rest => exact Traversal.bind_pure_eq_error

end Members

/-- The shapes whose expressions make up the expression of a shape, in order. -/
def operands (graph : Graph) (origin : Option String) : Node → List Node
  | .array elements => elements
  | node =>
    match Inheritance.inlineMembers graph origin node with
    | .ok members => Property.signatures members
    | .error _ => []

/-- A shape is too deep when one of its operands is. -/
theorem lowerWithin_succ_eq_endless_iff {ctx : Context} {depth : Nat} {origin : Option String}
    {node : Node} :
    lowerWithin ctx (depth + 1) origin node = .error .endless ↔
      (operands ctx.graph origin node).mapM (lowerWithin ctx depth none) = .error .endless := by
  cases node with
  | array elements => exact Traversal.bind_pure_eq_error
  | object members => exact inlineText_eq_endless_iff members
  | interface declaration =>
    have listing : Inheritance.inlineMembers ctx.graph origin (.interface declaration)
        ≠ .error .endless := Inheritance.inlineMembers_ne_endless _
    rw [lowerWithin, operands]
    · cases listed : Inheritance.inlineMembers ctx.graph origin (.interface declaration) with
      | error error =>
        rw [listed] at listing
        simpa [bind, Except.bind, pure, Except.pure] using listing
      | ok members => exact inlineText_eq_endless_iff members
    · simp
  | primitive kind =>
    rw [lowerWithin]
    cases kind with
    | _ => simp [Primitive.scalar?, operands, Inheritance.inlineMembers, pure, Except.pure]
  | _ => simp [lowerWithin, operands, Inheritance.inlineMembers, pure, Except.pure]

/-- An operand of an interface is the type of one of its members. -/
theorem exists_member_of_mem_operands {graph : Graph} {origin : Option String}
    {declaration : Interface} {part : Node}
    (isOperand : part ∈ operands graph origin (.interface declaration)) :
    ∃ all, Inheritance.members graph origin declaration = .ok all ∧
      ∃ member ∈ all, part ∈ member.types := by
  rw [operands] at isOperand
  · split at isOperand
    · next found listed =>
      obtain ⟨all, collected, chosen⟩ := Traversal.bind_eq_ok.mp listed
      obtain ⟨member, isMember, typed⟩ := List.mem_flatMap.mp isOperand
      exact ⟨all, collected, _, Inheritance.mem_of_mem_properties chosen isMember, typed⟩
    · cases isOperand
  · simp

/-- An operand of a shape is a part of it, or stands inside the graph. -/
theorem mem_of_mem_operands {graph : Graph} {origin : Option String} {node part : Node}
    (isOperand : part ∈ operands graph origin node) :
    part ∈ node.parts ∨ part ∈ graph.interior := by
  cases node with
  | array elements => exact .inl isOperand
  | object members => exact .inl isOperand
  | interface declaration =>
    obtain ⟨all, collected, member, isMember, typed⟩ := exists_member_of_mem_operands isOperand
    rcases Inheritance.mem_members collected isMember with own | ⟨name, parent, known, inherited⟩
    · exact .inl (List.mem_flatMap.mpr ⟨member, own, typed⟩)
    · have isPart : part ∈ (Node.interface parent).parts :=
        List.mem_flatMap.mpr ⟨member, inherited, typed⟩
      exact .inr (Graph.mem_interior_of_find? known isPart)
  | _ => cases isOperand

/-- An interface that takes members from a supertype. -/
def Inherits (shape : Node) : Prop :=
  ∃ declaration, shape = .interface declaration ∧ declaration.inherits ≠ []

/-- The operands of a shape that does not inherit are its parts. -/
theorem mem_parts_of_mem_operands {graph : Graph} {origin : Option String} {node part : Node}
    (isOperand : part ∈ operands graph origin node) (alone : ¬ Inherits node) :
    part ∈ node.parts := by
  cases node with
  | array elements => exact isOperand
  | object members => exact isOperand
  | interface declaration =>
    have root : declaration.inherits = [] := by
      by_contra inherits
      exact alone ⟨declaration, rfl, inherits⟩
    obtain ⟨all, collected, member, isMember, typed⟩ := exists_member_of_mem_operands isOperand
    have own := Inheritance.mem_members_of_root root collected isMember
    exact List.mem_flatMap.mpr ⟨member, own, typed⟩
  | _ => cases isOperand

/-! ## Greater depths -/

/-- A result that is kept, unless it is that the depth does not suffice. -/
def Kept {α : Type} (result deeper : Except LoweringError α) : Prop :=
  result ≠ .error .endless → deeper = result

namespace Kept

variable {α β : Type}

theorem refl (result : Except LoweringError α) : Kept result result :=
  fun _ => rfl

theorem bind {first deeper : Except LoweringError α} {next deeperNext : α → Except LoweringError β}
    (kept : Kept first deeper) (continues : ∀ value, Kept (next value) (deeperNext value)) :
    Kept (first >>= next) (deeper >>= deeperNext) := by
  intro finite
  cases first with
  | error error =>
    have same : deeper = .error error := by
      refine kept fun endless => finite ?_
      rw [endless]
      rfl
    rw [same]
    rfl
  | ok value =>
    have same : deeper = .ok value := kept (by simp)
    rw [same]
    exact continues value finite

theorem mapM {items : List α} {function deeper : α → Except LoweringError β}
    (each : ∀ item ∈ items, Kept (function item) (deeper item)) :
    Kept (items.mapM function) (items.mapM deeper) := by
  induction items with
  | nil => exact refl _
  | cons item rest ih =>
    obtain ⟨first, others⟩ := List.forall_mem_cons.mp each
    rw [List.mapM_cons, List.mapM_cons]
    exact first.bind fun result => (ih others).bind fun results => refl _

end Kept

variable {ctx : Context} {origin : Option String} {node shape part : Node} {depth : Nat}

theorem kept_inlineText {options : Options} {lowerType deeper : Node → Except LoweringError String}
    (each : ∀ node, Kept (lowerType node) (deeper node)) (members : List Property) :
    Kept (inlineText options lowerType members) (inlineText options deeper members) := by
  cases members with
  | nil => exact Kept.refl _
  | cons first rest =>
    refine Kept.bind (Kept.mapM fun member _ => ?_) fun _ => Kept.refl _
    unfold inlineField
    cases member.signature with
    | none => exact Kept.refl _
    | some signature => exact (each signature).bind fun _ => Kept.refl _

theorem kept_lowerWithin_succ (depth : Nat) (origin : Option String) (node : Node) :
    Kept (lowerWithin ctx depth origin node) (lowerWithin ctx (depth + 1) origin node) := by
  induction depth generalizing origin node with
  | zero => exact fun finite => absurd rfl finite
  | succ depth ih =>
    cases node with
    | array elements =>
      exact Kept.bind (Kept.mapM fun element _ => ih none element) fun _ => Kept.refl _
    | object members => exact kept_inlineText (ih none) members
    | interface declaration => exact Kept.bind (Kept.refl _) (kept_inlineText (ih none))
    | _ => exact Kept.refl _

/-- A greater depth changes no result but that the depth does not suffice. -/
theorem kept_lowerWithin {depth deeper : Nat} (le : depth ≤ deeper) (origin : Option String)
    (node : Node) :
    Kept (lowerWithin ctx depth origin node) (lowerWithin ctx deeper origin node) := by
  induction le with
  | refl => exact Kept.refl _
  | step _ ih =>
    intro finite
    have same := ih finite
    rw [← same] at finite ⊢
    exact kept_lowerWithin_succ _ origin node finite

/-! ## Shapes that are needed -/

/-- A shape has an expression. -/
def Lowers (ctx : Context) (node : Node) : Prop :=
  ∃ depth text, lowerWithin ctx depth none node = .ok text

/-- The expression of a shape needs that of an operand, if the operands before it have one. -/
def Needs (ctx : Context) (origin : Option String) (node part : Node) : Prop :=
  ∃ before after, operands ctx.graph origin node = before ++ part :: after ∧
    ∀ earlier ∈ before, Lowers ctx earlier

theorem Needs.mem_operands
    (needs : Needs ctx origin node part) : part ∈ operands ctx.graph origin node := by
  obtain ⟨before, after, split, _⟩ := needs
  rw [split]
  simp

theorem Lowers.ok_of_finite (lowers : Lowers ctx node)
    (finite : lowerWithin ctx depth none node ≠ .error .endless) :
    ∃ text, lowerWithin ctx depth none node = .ok text := by
  obtain ⟨other, text, lowered⟩ := lowers
  refine ⟨text, ?_⟩
  rcases Nat.le_total depth other with le | le
  · rw [← kept_lowerWithin le none node finite, lowered]
  · rw [kept_lowerWithin le none node (by simp [lowered]), lowered]

theorem mapM_endless {before after : List Node} {part : Node}
    (earlier : ∀ node ∈ before, Lowers ctx node)
    (endless : lowerWithin ctx depth none part = .error .endless) :
    (before ++ part :: after).mapM (lowerWithin ctx depth none) = .error .endless := by
  induction before with
  | nil =>
    rw [List.nil_append, List.mapM_cons, endless]
    rfl
  | cons first rest ih =>
    obtain ⟨lowers, others⟩ := List.forall_mem_cons.mp earlier
    rw [List.cons_append, List.mapM_cons]
    by_cases finite : lowerWithin ctx depth none first = .error .endless
    · rw [finite]
      rfl
    · obtain ⟨text, lowered⟩ := lowers.ok_of_finite finite
      rw [lowered, ih others]
      rfl

/-- A shape is too deep for a depth exactly when it needs a shape that is too deep for one less. -/
theorem endless_succ_iff :
    lowerWithin ctx (depth + 1) origin node = .error .endless ↔
      ∃ part, Needs ctx origin node part ∧ lowerWithin ctx depth none part = .error .endless := by
  rw [lowerWithin_succ_eq_endless_iff]
  constructor
  · intro failed
    obtain ⟨before, part, after, split, earlier, endless⟩ := Traversal.mapM_eq_error.mp failed
    refine ⟨part, ⟨before, after, split, fun node isEarlier => ?_⟩, endless⟩
    obtain ⟨text, lowered⟩ := earlier node isEarlier
    exact ⟨depth, text, lowered⟩
  · rintro ⟨part, ⟨before, after, split, earlier⟩, endless⟩
    rw [split]
    exact mapM_endless earlier endless

/-- A shape that needs its own expression again. -/
def Recurs (ctx : Context) (shape : Node) : Prop :=
  Relation.TransGen (Needs ctx none) shape shape

/-- The shapes whose expressions are needed for that of a shape, at any depth. -/
def Meets (ctx : Context) (origin : Option String) (node shape : Node) : Prop :=
  ∃ first, Needs ctx origin node first ∧ Relation.ReflTransGen (Needs ctx none) first shape

theorem Meets.next (meets : Meets ctx origin node shape) (needs : Needs ctx none shape part) :
    Meets ctx origin node part := by
  obtain ⟨first, needsFirst, path⟩ := meets
  exact ⟨first, needsFirst, path.tail needs⟩

/-- What is met stands inside the shape or inside the graph. -/
theorem Meets.mem_interior
    (meets : Meets ctx origin node shape) : shape ∈ node.interior ++ ctx.graph.interior := by
  obtain ⟨first, needs, path⟩ := meets
  induction path with
  | refl =>
    rcases mem_of_mem_operands needs.mem_operands with isPart | inGraph
    · exact List.mem_append_left _ (Node.mem_interior_of_mem_parts isPart)
    · exact List.mem_append_right _ inGraph
  | tail _ needs ih =>
    rcases mem_of_mem_operands needs.mem_operands with isPart | inGraph
    · rcases List.mem_append.mp ih with inside | inside
      · have occurs := Node.mem_shapes_of_mem_interior inside
        exact List.mem_append_left _ (Node.mem_interior_trans occurs isPart)
      · exact List.mem_append_right _ (Graph.mem_interior_trans inside isPart)
    · exact List.mem_append_right _ inGraph

theorem Recurs.endless (recurs : Recurs ctx shape) (depth : Nat) :
    lowerWithin ctx depth none shape = .error .endless := by
  -- every shape on the way around is needed again, so each level of the depth is used up
  induction depth generalizing shape with
  | zero => rfl
  | succ depth ih =>
    obtain ⟨next, needs, back⟩ := Relation.TransGen.head'_iff.mp recurs
    exact endless_succ_iff.mpr ⟨next, needs, ih (.tail' back needs)⟩

theorem endless_of_needs (needs : Needs ctx origin node part)
    (endless : ∀ depth, lowerWithin ctx depth none part = .error .endless) (depth : Nat) :
    lowerWithin ctx depth origin node = .error .endless := by
  cases depth with
  | zero => rfl
  | succ depth => exact endless_succ_iff.mpr ⟨part, needs, endless depth⟩

theorem endless_of_path {first shape : Node}
    (path : Relation.ReflTransGen (Needs ctx none) first shape) (recurs : Recurs ctx shape) :
    ∀ depth, lowerWithin ctx depth none first = .error .endless := by
  induction path using Relation.ReflTransGen.head_induction_on with
  | refl => exact recurs.endless
  | head needs _ ih => exact endless_of_needs needs ih

theorem Meets.endless
    (meets : Meets ctx origin node shape) (recurs : Recurs ctx shape) (depth : Nat) :
    lowerWithin ctx depth origin node = .error .endless := by
  obtain ⟨first, needs, path⟩ := meets
  exact endless_of_needs needs (endless_of_path path recurs) depth

/-- Shapes from a finite list, none of which recurs, are all written at a depth by which they would
repeat. -/
theorem finite_of_acyclic {reached : Node → Prop} {listed : List Node}
    (finite : ∀ shape, reached shape → shape ∈ listed)
    (closed : ∀ shape part, reached shape → Needs ctx none shape part → reached part)
    (acyclic : ∀ shape, reached shape → ¬ Recurs ctx shape)
    {visited : List Node} (isReached : reached node)
    (distinct : visited.Nodup) (known : ∀ shape ∈ visited, shape ∈ listed)
    (above : ∀ shape ∈ visited, Relation.TransGen (Needs ctx none) shape node)
    (enough : listed.length < visited.length + depth) :
    lowerWithin ctx depth none node ≠ .error .endless := by
  -- `visited` are the shapes on the way to `node`; each level of the depth adds one to them
  induction depth generalizing visited node with
  | zero =>
    have bound := (List.subperm_of_subset distinct known).length_le
    omega
  | succ depth ih =>
    intro endless
    obtain ⟨part, needs, deeper⟩ := endless_succ_iff.mp endless
    have fresh : node ∉ visited := fun again => acyclic node isReached (above node again)
    refine ih (closed node part isReached needs) (List.nodup_cons.mpr ⟨fresh, distinct⟩) ?_ ?_ ?_
      deeper
    · exact List.forall_mem_cons.mpr ⟨finite node isReached, known⟩
    · refine List.forall_mem_cons.mpr ⟨.single needs, fun shape isVisited => ?_⟩
      exact (above shape isVisited).tail needs
    · rw [List.length_cons]
      omega

/-- At the bound on its depth, an expression that is still too deep meets a shape that recurs. -/
theorem exists_recurs_of_endless (endless : lowerNamed ctx origin node = .error .endless) :
    ∃ shape, Meets ctx origin node shape ∧ Recurs ctx shape := by
  by_contra missing
  have acyclic : ∀ shape, Meets ctx origin node shape → ¬ Recurs ctx shape :=
    fun shape meets recurs => missing ⟨shape, meets, recurs⟩
  rw [lowerNamed, depthBound] at endless
  obtain ⟨first, needs, deeper⟩ := endless_succ_iff.mp endless
  refine finite_of_acyclic (fun shape => Meets.mem_interior) (fun shape part => Meets.next) acyclic
    ⟨first, needs, .refl⟩ List.nodup_nil (by simp) (by simp) ?_ deeper
  have inGraph := ctx.graph.length_interior
  have inNode := node.length_interior
  rw [List.length_append, List.length_nil]
  omega

/-- A shape that does not inherit needs smaller ones. -/
theorem Needs.weight_lt
    (needs : Needs ctx origin node part) (alone : ¬ Inherits node) : part.weight < node.weight :=
  Node.weight_lt_of_mem_parts (mem_parts_of_mem_operands needs.mem_operands alone)

/-- From one shape to another, shapes get smaller until one of them inherits. -/
theorem weight_lt_or_exists_inherits {shape target : Node}
    (path : Relation.TransGen (Needs ctx none) shape target) :
    target.weight < shape.weight ∨
      ∃ middle, Inherits middle ∧ Relation.ReflTransGen (Needs ctx none) shape middle ∧
        Relation.TransGen (Needs ctx none) middle target := by
  induction path using Relation.TransGen.head_induction_on with
  | single needs =>
    rename_i first
    by_cases inherits : Inherits first
    · exact .inr ⟨first, inherits, .refl, .single needs⟩
    · exact .inl (needs.weight_lt inherits)
  | head needs path ih =>
    rename_i first second
    by_cases inherits : Inherits first
    · exact .inr ⟨first, inherits, .refl, .head needs path⟩
    · have smaller := needs.weight_lt inherits
      rcases ih with lighter | ⟨middle, inherits, before, after⟩
      · exact .inl (Nat.lt_trans lighter smaller)
      · exact .inr ⟨middle, inherits, .head needs before, after⟩

/-- If a shape recurs, then one that inherits does. -/
theorem Recurs.exists_inherits (recurs : Recurs ctx shape) (meets : Meets ctx origin node shape) :
    ∃ middle, Inherits middle ∧ Meets ctx origin node middle ∧ Recurs ctx middle := by
  rcases weight_lt_or_exists_inherits recurs with lighter | ⟨middle, inherits, before, after⟩
  · exact absurd lighter (Nat.lt_irrefl _)
  · obtain ⟨first, needs, path⟩ := meets
    exact ⟨middle, inherits, ⟨first, needs, path.trans before⟩, after.trans_left before⟩

/-! ## Expressions that end -/

theorem lowerNamed_eq_endless_iff :
    lowerNamed ctx origin node = .error .endless ↔
      ∃ shape, Inherits shape ∧ Meets ctx origin node shape ∧ Recurs ctx shape := by
  constructor
  · intro endless
    obtain ⟨shape, meets, recurs⟩ := exists_recurs_of_endless endless
    exact recurs.exists_inherits meets
  · rintro ⟨shape, _, meets, recurs⟩
    exact meets.endless recurs _

/-- At any depth from the bound on, an expression is the same. -/
theorem lowerWithin_of_depthBound_le (enough : depthBound ctx node ≤ depth) :
    lowerWithin ctx depth origin node = lowerNamed ctx origin node := by
  by_cases endless : lowerNamed ctx origin node = .error .endless
  · obtain ⟨shape, meets, recurs⟩ := exists_recurs_of_endless endless
    rw [endless, meets.endless recurs]
  · exact kept_lowerWithin enough origin node endless

theorem exists_depth_iff :
    (∃ depth, lowerWithin ctx depth origin node ≠ .error .endless) ↔
      lowerNamed ctx origin node ≠ .error .endless := by
  constructor
  · rintro ⟨depth, finite⟩ endless
    obtain ⟨shape, meets, recurs⟩ := exists_recurs_of_endless endless
    exact finite (meets.endless recurs depth)
  · exact fun finite => ⟨_, finite⟩

/-- The expression of a shape ends unless an interface that inherits, written in place, needs its
own expression again. Then no depth suffices, and otherwise the bound does, so that the expression
is written or a failure is reported. Where no interface inside a shape inherits, all expressions
end. -/
theorem lowering_ends_iff (ctx : Context) (origin : Option String) (node : Node) :
    ((∃ depth, lowerWithin ctx depth origin node ≠ .error .endless) ↔
      ¬ ∃ shape, Inherits shape ∧ Meets ctx origin node shape ∧ Recurs ctx shape) ∧
    (∀ depth, depthBound ctx node ≤ depth →
      lowerWithin ctx depth origin node = lowerNamed ctx origin node) ∧
    ((∀ shape ∈ node.interior ++ ctx.graph.interior, ¬ Inherits shape) →
      lowerNamed ctx origin node ≠ .error .endless) ∧
    (ctx.options.WellTyped → ∀ misuse, lowerNamed ctx origin node ≠ .error (.misuse misuse)) := by
  refine ⟨?_, fun depth => lowerWithin_of_depthBound_le, ?_, ?_⟩
  · rw [exists_depth_iff, ne_eq, lowerNamed_eq_endless_iff]
  · intro alone endless
    obtain ⟨shape, inherits, meets, _⟩ := lowerNamed_eq_endless_iff.mp endless
    exact alone shape meets.mem_interior inherits
  · intro wellTyped misuse failed
    exact truthful_lowerWithin ctx _ origin node _ failed wellTyped

/-- A feed of pages that are written in place, with the members of a named page. -/
def feed : Node :=
  .interface ⟨[.property ⟨"pages", some (.array [.interface ⟨[], ["Page"], false, none⟩]), false,
    none⟩], [], false, none⟩

def feeds : Graph :=
  ⟨[("Page", .interface ⟨[.property ⟨"size", some (.primitive .number), false, none⟩], [], false,
      none⟩),
    ("Feed", feed)]⟩

theorem lowering_ends_iff_feed :
    ∃ ctx tables, Context.prepare {} feeds = .ok (ctx, tables) ∧
      (∃ shape ∈ feed.interior, Inherits shape) ∧
      (¬ ∃ shape, Inherits shape ∧ Meets ctx none feed shape ∧ Recurs ctx shape) ∧
      ∀ depth, depthBound ctx feed ≤ depth →
        lowerWithin ctx depth none feed = .ok "pages: [size: Float]" := by
  obtain ⟨ends, bounded, _⟩ := lowering_ends_iff (Context.ofGraph {} feeds) none feed
  have lowered : lowerNamed (Context.ofGraph {} feeds) none feed = .ok "pages: [size: Float]" := by
    decide +kernel
  have finite : lowerNamed (Context.ofGraph {} feeds) none feed ≠ .error .endless := by
    simp [lowered]
  refine ⟨Context.ofGraph {} feeds, _, rfl, ?_, ends.mp ⟨_, finite⟩, ?_⟩
  · have outer : .array [.interface ⟨[], ["Page"], false, none⟩] ∈ feed.parts := List.mem_cons_self
    have occurs := Node.mem_shapes_of_mem_interior (Node.mem_interior_of_mem_parts outer)
    exact ⟨_, Node.mem_interior_trans occurs List.mem_cons_self, _, rfl, by simp⟩
  · intro depth enough
    rw [bounded depth enough, lowered]

/-- Children that are written in place, as trees with nothing of their own. -/
def child : Node :=
  .interface ⟨[], ["Tree"], false, none⟩

def tree : Graph :=
  ⟨[("Tree", .interface ⟨[.property ⟨"child", some child, false, none⟩], [], false, none⟩)]⟩

/-- A graph that can be loaded and prepared may contain a shape whose expression never ends. -/
theorem expression_never_ends :
    ∃ document ctx tables, Graph.ofJson document = .ok tree ∧
      Context.prepare {} tree = .ok (ctx, tables) ∧ child ∈ tree.interior ∧
      ∀ depth, lowerWithin ctx depth none child = .error .endless := by
  refine ⟨tree.toJson (.inOrder false), Context.ofGraph {} tree, _, ?_, rfl, ?_, ?_⟩
  · rw [Graph.toJson, Graph.ofJson, Loading.readEntries_eq, Loading.readParameters_writeParameters]
    rfl
  · have found : tree.find? "Tree" = some (.interface
        ⟨[.property ⟨"child", some child, false, none⟩], [], false, none⟩) := rfl
    exact Graph.mem_interior_of_find? found List.mem_cons_self
  · have itself : operands tree none child = [child] := by with_unfolding_all rfl
    have needs : Needs (Context.ofGraph {} tree) none child child := ⟨[], [], itself, by simp⟩
    exact Recurs.endless (.single needs)

end Expression

end SchemaLowering
