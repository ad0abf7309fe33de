import SchemaLowering.Proofs.InheritedMembers
import Mathlib.Data.List.Nodup

/-!
Walks from an interface up to its ancestors. A walk reaches an interface without a supertype, or
goes on forever, or comes to an interface whose supertypes are no single interface of the graph.
Since a step depends on the interface alone, a walk that comes back to one goes on forever, and the
names it has passed say so.
-/

namespace SchemaLowering

namespace Graph

/-- The symbol of an interface, if it has one. An interface without one stands outside the graph. -/
def Names (graph : Graph) (origin : Option String) (declaration : Interface) : Prop :=
  ∀ symbol ∈ origin, graph.find? symbol = some (.interface declaration)

end Graph

namespace Inheritance

/-- One step up: the only supertype of an interface names an interface. -/
structure Extends (graph : Graph) (child : Interface) (name : String) (parent : Interface) :
    Prop where
  only : child.inherits = [name]
  found : graph.find? name = some (.interface parent)

/-- Steps up from an interface to another one, with the interfaces they lead to and their names. -/
inductive Climbs (graph : Graph) : Interface → List (String × Interface) → Interface → Prop where
  | here {start : Interface} : Climbs graph start [] start
  | up {start parent top : Interface} {name : String} {passed : List (String × Interface)}
      (step : Extends graph start name parent) (onwards : Climbs graph parent passed top) :
      Climbs graph start ((name, parent) :: passed) top

/-- Every interface above has a single interface for its supertype. -/
def Endless (graph : Graph) (start : Interface) : Prop :=
  ∀ passed top, Climbs graph start passed top → ∃ name parent, Extends graph top name parent

/-- What is wrong with the supertypes of an interface. -/
inductive Misstep (graph : Graph) (current : Interface) : LoweringError → Prop where
  | several (more : 1 < current.inherits.length) :
      Misstep graph current (.multipleInheritance current.inherits)
  | missing {name : String} (only : current.inherits = [name])
      (unknown : graph.find? name = none) : Misstep graph current (.unresolved name)
  | other {name : String} {node : Node} (only : current.inherits = [name])
      (found : graph.find? name = some node) (shape : ∀ parent, node ≠ .interface parent) :
      Misstep graph current (.notInterface name node.kind)

variable {graph : Graph} {origin : Option String} {start current middle top : Interface}
  {before passed whole : List (String × Interface)} {error : LoweringError}

/-! Steps depend on the interface alone. -/

theorem Extends.unique {name other : String} {parent otherParent : Interface}
    (first : Extends graph current name parent)
    (second : Extends graph current other otherParent) : name = other ∧ parent = otherParent := by
  obtain rfl : name = other := List.singleton_inj.mp (first.only.symm.trans second.only)
  have same := first.found.symm.trans second.found
  cases same
  exact ⟨rfl, rfl⟩

theorem Misstep.unique {other : LoweringError} (first : Misstep graph current error)
    (second : Misstep graph current other) : error = other := by
  cases first with
  | several more =>
    cases second with
    | several => rfl
    | missing only | other only => simp [only] at more
  | missing only unknown =>
    cases second with
    | several more => simp [only] at more
    | missing onlyOther unknownOther =>
      rw [List.singleton_inj.mp (only.symm.trans onlyOther)]
    | other onlyOther found =>
      rw [List.singleton_inj.mp (only.symm.trans onlyOther), found] at unknown
      cases unknown
  | other only found =>
    cases second with
    | several more => simp [only] at more
    | missing onlyOther unknown =>
      rw [List.singleton_inj.mp (only.symm.trans onlyOther), unknown] at found
      cases found
    | other onlyOther foundOther =>
      obtain rfl := List.singleton_inj.mp (only.symm.trans onlyOther)
      cases found.symm.trans foundOther
      rfl

/-- An interface that no step leads up from. -/
def Stops (graph : Graph) (current : Interface) : Prop :=
  ∀ name parent, ¬ Extends graph current name parent

theorem stops_of_root (alone : current.inherits = []) : Stops graph current := by
  intro name parent step
  rw [step.only] at alone
  cases alone

theorem Misstep.stops (misstep : Misstep graph current error) : Stops graph current := by
  intro name parent step
  cases misstep with
  | several more => simp [step.only] at more
  | missing only unknown =>
    rw [List.singleton_inj.mp (only.symm.trans step.only), step.found] at unknown
    cases unknown
  | other only found shape =>
    rw [List.singleton_inj.mp (only.symm.trans step.only), step.found] at found
    cases found
    exact shape parent rfl

/-- A root has nothing wrong with it. -/
theorem not_misstep_of_root (alone : current.inherits = []) : ¬ Misstep graph current error := by
  intro misstep
  cases misstep with
  | several more => simp [alone] at more
  | missing only | other only => simp [alone] at only

theorem Climbs.trans {rest : List (String × Interface)} (first : Climbs graph start passed middle)
    (second : Climbs graph middle rest top) : Climbs graph start (passed ++ rest) top := by
  induction first with
  | here => exact second
  | up step _ ih => exact .up step (ih second)

/-- A climb leads to each interface that it passes, and on from there. -/
theorem Climbs.through {link : String × Interface} (climbs : Climbs graph start passed top)
    (member : link ∈ passed) :
    ∃ earlier later, passed = earlier ++ link :: later ∧
      Climbs graph start (earlier ++ [link]) link.2 ∧ Climbs graph link.2 later top := by
  induction climbs with
  | here => cases member
  | @up start parent top name passed step onwards ih =>
    rcases List.mem_cons.mp member with rfl | above
    · exact ⟨[], passed, rfl, .up step .here, onwards⟩
    · obtain ⟨earlier, later, rfl, first, second⟩ := ih above
      exact ⟨(name, parent) :: earlier, later, rfl, .up step first, second⟩

theorem Climbs.known (climbs : Climbs graph start passed top) :
    ∀ link ∈ passed, graph.find? link.1 = some (.interface link.2) := by
  induction climbs with
  | here => simp
  | up step _ ih => exact List.forall_mem_cons.mpr ⟨step.found, ih⟩

/-- A climb to where it stops passes through every interface that can be reached. -/
theorem Climbs.continues (first : Climbs graph start passed middle)
    (second : Climbs graph start whole top) (stops : Stops graph top) :
    ∃ rest, whole = passed ++ rest ∧ Climbs graph middle rest top := by
  induction first generalizing whole with
  | here => exact ⟨whole, rfl, second⟩
  | up step _ ih =>
    cases second with
    | here => exact absurd step (stops _ _)
    | up stepSecond onwards =>
      obtain ⟨rfl, rfl⟩ := step.unique stepSecond
      obtain ⟨rest, rfl, climbs⟩ := ih onwards
      exact ⟨rest, rfl, climbs⟩

theorem Climbs.unique {other : Interface} (first : Climbs graph start passed middle)
    (stopsFirst : Stops graph middle) (second : Climbs graph start whole other)
    (stopsSecond : Stops graph other) : passed = whole ∧ middle = other := by
  obtain ⟨rest, rfl, climbs⟩ := first.continues second stopsSecond
  cases climbs with
  | here => exact ⟨(List.append_nil passed).symm, rfl⟩
  | up step => exact absurd step (stopsFirst _ _)

/-- Whoever comes to an interface again goes on forever: where it stopped it would have stopped
earlier. -/
theorem endless_of_loop {loop : List (String × Interface)} (nonempty : loop ≠ [])
    (again : Climbs graph start loop start) : Endless graph start := by
  intro passed top climbs
  by_contra none
  have stops : Stops graph top := fun name parent step => none ⟨name, parent, step⟩
  obtain ⟨same, _⟩ := climbs.unique stops (again.trans climbs) stops
  have : loop = [] := List.self_eq_append_left.mp same
  exact nonempty this

theorem Endless.below (endless : Endless graph middle) (climbs : Climbs graph start passed middle) :
    Endless graph start := by
  intro whole top climbsWhole
  by_contra none
  have stops : Stops graph top := fun name parent step => none ⟨name, parent, step⟩
  obtain ⟨rest, _, onwards⟩ := climbs.continues climbsWhole stops
  obtain ⟨name, parent, step⟩ := endless rest top onwards
  exact stops name parent step

theorem Climbs.not_endless (climbs : Climbs graph start passed top) (stops : Stops graph top) :
    ¬ Endless graph start := by
  intro endless
  obtain ⟨name, parent, step⟩ := endless passed top climbs
  exact stops name parent step

/-- A climb that ends where it stops meets no interface twice. -/
theorem Climbs.distinct (climbs : Climbs graph start passed top) (stops : Stops graph top) :
    (start :: passed.map Prod.snd).Nodup := by
  induction climbs with
  | here => exact List.nodup_singleton _
  | @up start parent top name passed step onwards ih =>
    refine List.nodup_cons.mpr ⟨?_, ih stops⟩
    intro again
    have whole : Climbs graph start ((name, parent) :: passed) top := .up step onwards
    obtain ⟨link, member, back⟩ := List.mem_map.mp again
    obtain ⟨earlier, later, _, loop, _⟩ := whole.through member
    rw [back] at loop
    exact whole.not_endless stops (endless_of_loop (by simp) loop)

/-- Ancestors that are found are those of a climb to an interface without a supertype, wherever the
walk is said to start. -/
theorem climbs_of_ancestors {visited : List String} {above : List (String × Interface)}
    (walked : ancestors graph origin visited current = .ok above) :
    ∃ root, Climbs graph current above root ∧ root.inherits = [] := by
  fun_induction ancestors graph origin visited current generalizing above with
  | case1 visited current alone =>
    cases walked
    exact ⟨current, .here, alone⟩
  | case5 visited current name only fresh notStart parent found _ ih =>
    obtain ⟨rest, walkedRest, same⟩ := Traversal.bind_eq_ok.mp walked
    cases same
    obtain ⟨root, climbs, alone⟩ := ih walkedRest
    exact ⟨root, .up ⟨only, found⟩ climbs, alone⟩
  | _ => cases walked

/-- Names of which the last occurs before, or belongs to the interface where a walk started. -/
def ComesBack (origin : Option String) (names : List String) : Prop :=
  ∃ earlier last, names = earlier ++ [last] ∧ (last ∈ earlier ∨ origin = some last)

/-- The ways in which the walk from an interface can end. -/
inductive WalkOutcome (graph : Graph) (origin : Option String) (start : Interface) :
    Except LoweringError (List (String × Interface)) → Prop where
  | root {passed : List (String × Interface)} {top : Interface}
      (climbs : Climbs graph start passed top) (alone : top.inherits = []) :
      WalkOutcome graph origin start (.ok passed)
  | cycle {passed loop : List (String × Interface)} {top : Interface}
      (climbs : Climbs graph start passed top) (nonempty : loop ≠ [])
      (again : Climbs graph top loop top) (comesBack : ComesBack origin (passed.map Prod.fst)) :
      WalkOutcome graph origin start (.error (.cyclic (passed.map Prod.fst)))
  | fault {passed : List (String × Interface)} {top : Interface} {error : LoweringError}
      (climbs : Climbs graph start passed top) (misstep : Misstep graph top error) :
      WalkOutcome graph origin start (.error error)

/-- A walk that has come to an interface ends, from there on, in one of the ways. -/
theorem walkOutcome_ancestors (named : graph.Names origin start)
    (climbed : Climbs graph start before current) :
    WalkOutcome graph origin start
      ((ancestors graph origin (before.map Prod.fst) current).map (before ++ ·)) := by
  generalize visited : before.map Prod.fst = names
  -- The names visited so far are those of the interfaces passed so far.
  fun_induction ancestors graph origin names current generalizing before with
  | case1 names current alone =>
    have : WalkOutcome graph origin start (.ok before) := .root climbed alone
    simpa [Except.map] using this
  | case2 names current name only known =>
    subst visited
    obtain ⟨⟨_, parent⟩, member, rfl⟩ := List.mem_map.mp known
    obtain ⟨earlier, later, rfl, _, onwards⟩ := climbed.through member
    have step : Extends graph current _ parent := ⟨only, climbed.known _ member⟩
    have last : Climbs graph current [(_, parent)] parent := .up step .here
    have outcome : WalkOutcome graph origin start _ :=
      .cycle (climbed.trans last) (by simp) (onwards.trans last) ⟨_, _, by simp, .inl known⟩
    simpa [Except.map] using outcome
  | case3 names current name only fresh unknown => exact .fault climbed (.missing only unknown)
  | case4 names current name only fresh node found isStart =>
    subst visited
    have step : Extends graph current name start := ⟨only, named name isStart⟩
    have whole := climbed.trans (.up step .here)
    have outcome : WalkOutcome graph origin start _ :=
      .cycle whole (by simp) whole ⟨before.map Prod.fst, name, by simp, .inr isStart⟩
    simpa [Except.map] using outcome
  | case5 names current name only fresh notStart parent found _ ih =>
    have climbedOn := climbed.trans (.up ⟨only, found⟩ .here)
    have outcome := ih climbedOn (by simp [visited])
    cases walked : ancestors graph origin (names ++ [name]) parent with
    | error error => simpa [walked, Except.map] using outcome
    | ok rest => simpa [walked, Except.map, bind, Except.bind, pure, Except.pure] using outcome
  | case6 names current name only fresh notStart node found shape =>
    refine .fault climbed (.other only found ?_)
    rintro parent rfl
    exact shape parent found rfl HEq.rfl
  | case7 names current notNone notOne =>
    refine .fault climbed (.several ?_)
    rcases supertypes : current.inherits with _ | ⟨first, _ | ⟨second, rest⟩⟩
    · exact absurd supertypes notNone
    · exact absurd supertypes (notOne first)
    · simp

/-- The walk from an interface ends in one of the ways. -/
theorem walkOutcome (named : graph.Names origin start) :
    WalkOutcome graph origin start (ancestors graph origin [] start) := by
  have outcome := walkOutcome_ancestors named .here
  cases walked : ancestors graph origin [] start with
  | error error => simpa [walked, Except.map] using outcome
  | ok above => simpa [walked, Except.map] using outcome

/-- A climb to where it stops tells how the walk ends. -/
theorem WalkOutcome.of_stops {result : Except LoweringError (List (String × Interface))}
    (outcome : WalkOutcome graph origin start result) (climbs : Climbs graph start passed top)
    (stops : Stops graph top) :
    (top.inherits = [] ∧ result = .ok passed) ∨
      ∃ error, Misstep graph top error ∧ result = .error error := by
  cases outcome with
  | root climbsFound alone =>
    obtain ⟨rfl, rfl⟩ := climbsFound.unique (stops_of_root alone) climbs stops
    exact .inl ⟨alone, rfl⟩
  | cycle climbsFound nonempty again _ =>
    have endless := (endless_of_loop nonempty again).below climbsFound
    exact absurd endless (climbs.not_endless stops)
  | fault climbsFound misstep =>
    obtain ⟨_, rfl⟩ := climbsFound.unique misstep.stops climbs stops
    exact .inr ⟨_, misstep, rfl⟩

theorem ancestors_eq_ok_iff (named : graph.Names origin start) :
    ancestors graph origin [] start = .ok passed ↔
      ∃ top, Climbs graph start passed top ∧ top.inherits = [] := by
  have outcome := walkOutcome named
  constructor
  · intro walked
    rw [walked] at outcome
    cases outcome with
    | root climbs alone => exact ⟨_, climbs, alone⟩
  · rintro ⟨top, climbs, alone⟩
    rcases outcome.of_stops climbs (stops_of_root alone) with ⟨_, walked⟩ | ⟨error, misstep, _⟩
    · exact walked
    · exact absurd misstep (not_misstep_of_root alone)

theorem ancestors_eq_fault_iff (named : graph.Names origin start)
    (acyclic : ∀ names, error ≠ .cyclic names) :
    ancestors graph origin [] start = .error error ↔
      ∃ passed top, Climbs graph start passed top ∧ Misstep graph top error := by
  have outcome := walkOutcome named
  constructor
  · intro walked
    rw [walked] at outcome
    cases outcome with
    | cycle => exact absurd rfl (acyclic _)
    | fault climbs misstep => exact ⟨_, _, climbs, misstep⟩
  · rintro ⟨passed, top, climbs, misstep⟩
    rcases outcome.of_stops climbs misstep.stops with ⟨alone, _⟩ | ⟨other, found, walked⟩
    · exact absurd misstep (not_misstep_of_root alone)
    · rw [walked, misstep.unique found]

theorem ancestors_eq_cyclic_iff (named : graph.Names origin start) :
    (∃ names, ancestors graph origin [] start = .error (.cyclic names)) ↔ Endless graph start := by
  have outcome := walkOutcome named
  generalize ancestors graph origin [] start = result at outcome
  cases outcome with
  | root climbs alone => simp [climbs.not_endless (stops_of_root alone)]
  | cycle climbs nonempty again _ => simp [(endless_of_loop nonempty again).below climbs]
  | fault climbs misstep =>
    have finite := climbs.not_endless misstep.stops
    cases misstep with
    | several | missing | other => simp [finite]

/-! Chains. -/

/-- The place of an ancestor in a chain. -/
def linkOf (ancestor : String × Interface) : Link :=
  ⟨some ancestor.1, ancestor.2⟩

theorem chain_eq (graph : Graph) (origin : Option String) (declaration : Interface) :
    chain graph origin declaration = (ancestors graph origin [] declaration).map
      fun above => ⟨origin, declaration⟩ :: above.map linkOf := by
  unfold chain
  cases ancestors graph origin [] declaration with
  | error error => rfl
  | ok above => rfl

theorem chain_eq_ok_iff {declaration : Interface} {links : List Link}
    (named : graph.Names origin declaration) :
    chain graph origin declaration = .ok links ↔
      ∃ passed root, Climbs graph declaration passed root ∧ root.inherits = [] ∧
        links = ⟨origin, declaration⟩ :: passed.map linkOf := by
  rw [chain_eq, Traversal.map_eq_ok]
  constructor
  · rintro ⟨passed, walked, rfl⟩
    obtain ⟨root, climbs, alone⟩ := (ancestors_eq_ok_iff named).mp walked
    exact ⟨passed, root, climbs, alone, rfl⟩
  · rintro ⟨passed, root, climbs, alone, rfl⟩
    exact ⟨passed, (ancestors_eq_ok_iff named).mpr ⟨root, climbs, alone⟩, rfl⟩

theorem chain_eq_error_iff {declaration : Interface} :
    chain graph origin declaration = .error error ↔
      ancestors graph origin [] declaration = .error error := by
  rw [chain_eq]
  cases ancestors graph origin [] declaration with
  | error other => simp [Except.map]
  | ok above => simp [Except.map]

/-- The chain of an interface follows its supertypes. It is found exactly when they lead to an
interface without one, and no interface or symbol is in it twice, so that there is nothing to leave
out of it. It is cyclic exactly when they lead on forever, and then the names that are reported are
those of a climb and come back. Any other failure is what is wrong with the first interface that has
no step up. -/
theorem chain_follows_supertypes {declaration : Interface}
    (named : graph.Names origin declaration) :
    transitive graph origin declaration = chain graph origin declaration ∧
    (∀ links, chain graph origin declaration = .ok links ↔
      ∃ passed root, Climbs graph declaration passed root ∧ root.inherits = [] ∧
        links = ⟨origin, declaration⟩ :: passed.map linkOf) ∧
    (∀ links, chain graph origin declaration = .ok links →
      links.Pairwise fun first second =>
        first.symbol ≠ second.symbol ∧ first.declaration ≠ second.declaration) ∧
    ((∃ names, chain graph origin declaration = .error (.cyclic names)) ↔
      Endless graph declaration) ∧
    (∀ names, chain graph origin declaration = .error (.cyclic names) →
      ComesBack origin names ∧
        ∃ passed top, Climbs graph declaration passed top ∧ names = passed.map Prod.fst) ∧
    ∀ error, (∀ names, error ≠ .cyclic names) →
      (chain graph origin declaration = .error error ↔
        ∃ passed top, Climbs graph declaration passed top ∧ Misstep graph top error) := by
  refine ⟨transitive_eq_chain graph origin declaration, fun links => chain_eq_ok_iff named,
    ?_, ?_, ?_, ?_⟩
  · intro links chained
    have symbols := symbols_chain_distinct chained
    obtain ⟨passed, root, climbs, alone, rfl⟩ := (chain_eq_ok_iff named).mp chained
    have declarations := climbs.distinct (stops_of_root alone)
    have climbed : (⟨origin, declaration⟩ :: passed.map linkOf).map Link.declaration
        = declaration :: passed.map Prod.snd := by
      rw [List.map_cons, List.map_map]
      rfl
    rw [← climbed] at declarations
    exact (List.pairwise_map.mp symbols).and (List.pairwise_map.mp declarations)
  · simp only [chain_eq_error_iff]
    exact ancestors_eq_cyclic_iff named
  · intro names chained
    have outcome := walkOutcome named
    rw [chain_eq_error_iff.mp chained] at outcome
    cases outcome with
    | cycle climbs nonempty again comesBack => exact ⟨comesBack, _, _, climbs, rfl⟩
    | fault climbs misstep => cases misstep
  · intro error acyclic
    rw [chain_eq_error_iff]
    exact ancestors_eq_fault_iff named acyclic

/-- An interface without members of its own. -/
def heirOf (supertypes : List String) : Interface :=
  ⟨[], supertypes, false, none⟩

/-- Interfaces above each other, and two that inherit from one another. -/
def birds : Graph :=
  ⟨[("Duck", .interface (heirOf ["Fowl"])), ("Fowl", .interface (heirOf ["Bird"])),
    ("Bird", .interface (heirOf [])), ("Hen", .interface (heirOf ["Egg"])),
    ("Egg", .interface (heirOf ["Hen"]))]⟩

theorem chain_follows_supertypes_birds :
    birds.Names (some "Duck") (heirOf ["Fowl"]) ∧
      transitive birds (some "Duck") (heirOf ["Fowl"]) =
        .ok [⟨some "Duck", heirOf ["Fowl"]⟩, ⟨some "Fowl", heirOf ["Bird"]⟩,
          ⟨some "Bird", heirOf []⟩] ∧
      ∃ names, chain birds none (heirOf ["Egg"]) = .error (.cyclic names) ∧
        ComesBack none names := by
  have named : birds.Names (some "Duck") (heirOf ["Fowl"]) := by
    rintro symbol ⟨⟩
    rfl
  have outside : birds.Names none (heirOf ["Egg"]) := by
    rintro symbol ⟨⟩
  refine ⟨named, ?_, ?_⟩
  · obtain ⟨once, found, _⟩ := chain_follows_supertypes named
    rw [once]
    refine (found _).mpr
      ⟨[("Fowl", heirOf ["Bird"]), ("Bird", heirOf [])], heirOf [], ?_, rfl, rfl⟩
    exact .up ⟨rfl, rfl⟩ (.up ⟨rfl, rfl⟩ .here)
  · obtain ⟨_, _, _, cyclic, reported, _⟩ := chain_follows_supertypes outside
    have around : Climbs birds (heirOf ["Egg"])
        [("Egg", heirOf ["Hen"]), ("Hen", heirOf ["Egg"])] (heirOf ["Egg"]) :=
      .up ⟨rfl, rfl⟩ (.up ⟨rfl, rfl⟩ .here)
    obtain ⟨names, chained⟩ := cyclic.mpr (endless_of_loop (by simp) around)
    exact ⟨names, chained, (reported names chained).1⟩

end Inheritance

end SchemaLowering
