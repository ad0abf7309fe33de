import SchemaLowering.Proofs.FieldNames
import SchemaLowering.Proofs.SupertypeWalks

/-!
Members that override inherited ones. Seen from one interface and the next above it, an interface
has its own members and those of its parent whose names it does not declare; the members that are
collected along the whole chain are the same ones in the same order.
-/

namespace SchemaLowering

namespace Text

variable {α : Type} {key : α → String}

/-- An item whose text no other one has is put at its place. -/
theorem insertSorted_strict {item : α} {items : List α}
    (sorted : items.Pairwise fun first second => key first < key second)
    (fresh : ∀ other ∈ items, key item ≠ key other) :
    (insertSorted key item items).Pairwise fun first second => key first < key second := by
  induction items with
  | nil => exact List.pairwise_singleton _ _
  | cons head rest ih =>
    obtain ⟨headFirst, sortedRest⟩ := List.pairwise_cons.mp sorted
    obtain ⟨freshHead, freshRest⟩ := List.forall_mem_cons.mp fresh
    unfold insertSorted
    split
    · next below =>
      have before : key item < key head := by
        apply String.not_le.mp
        intro above
        exact freshHead (String.le_antisymm below above)
      refine List.pairwise_cons.mpr ⟨?_, sorted⟩
      intro other member
      rcases List.mem_cons.mp member with rfl | member
      · exact before
      · exact String.lt_trans before (headFirst other member)
    · next above =>
      refine List.pairwise_cons.mpr ⟨?_, ih sortedRest freshRest⟩
      intro other member
      rcases List.mem_cons.mp ((insertSorted_perm key item rest).mem_iff.mp member)
        with rfl | member
      · exact String.not_le.mp above
      · exact headFirst other member

/-- Items with different texts are sorted strictly. -/
theorem sortBy_strict {items : List α} (distinct : (items.map key).Nodup) :
    (sortBy key items).Pairwise fun first second => key first < key second := by
  induction items with
  | nil => exact .nil
  | cons item rest ih =>
    obtain ⟨fresh, distinctRest⟩ := List.nodup_cons.mp distinct
    refine insertSorted_strict (ih distinctRest) ?_
    intro other member same
    rw [same] at fresh
    exact fresh (List.mem_map_of_mem (mem_sortBy.mp member))

end Text

namespace Inheritance

/-- The first member of each name. -/
def firstOfEach : List Member → List Member
  | [] => []
  | member :: rest => member :: (firstOfEach rest).filter fun other => other.name ≠ member.name

/-- The members of an interface with those that it inherits: its own ones, and then those of its
parent whose names it does not declare. -/
inductive Flattens (graph : Graph) : Interface → List Member → Prop where
  | root {declaration : Interface} (alone : declaration.inherits = []) :
      Flattens graph declaration (firstOfEach declaration.members)
  | derived {declaration parent : Interface} {name : String} {inherited : List Member}
      (step : Extends graph declaration name parent) (above : Flattens graph parent inherited) :
      Flattens graph declaration (firstOfEach declaration.members
        ++ inherited.filter fun member => member.name ∉ declaration.members.map Member.name)

variable {graph : Graph} {origin : Option String} {declaration : Interface}
  {flat other : List Member}

/-- Leaving out names seen before commutes with taking the first of each name. -/
theorem firstByName_eq (seen : List String) (all : List Member) :
    firstByName seen all = (firstOfEach all).filter fun member => member.name ∉ seen := by
  fun_induction firstByName seen all with
  | case1 seen => rfl
  | case2 seen member rest known ih =>
    rw [ih, firstOfEach, List.filter_cons, if_neg (by simpa using known), List.filter_filter]
    apply List.filter_congr
    intro other _
    by_cases same : other.name = member.name
    · simp [same, known]
    · simp [same]
  | case3 seen member rest fresh ih =>
    rw [ih, firstOfEach, List.filter_cons, if_pos (by simpa using fresh), List.filter_filter]
    congr 1
    apply List.filter_congr
    intro other _
    simp [not_or, Bool.and_comm]

/-- Of two lists one after the other, the second gives only what the first does not name. -/
theorem firstOfEach_append (own inherited : List Member) :
    firstOfEach (own ++ inherited) = firstOfEach own
      ++ (firstOfEach inherited).filter fun member => member.name ∉ own.map Member.name := by
  induction own with
  | nil => simp [firstOfEach]
  | cons member rest ih =>
    rw [List.cons_append, firstOfEach, firstOfEach, ih, List.filter_append, List.filter_filter,
      List.cons_append]
    congr 2
    apply List.filter_congr
    intro other _
    simp [not_or]

/-- The members of an interface with those that it inherits are the first of each name along the
climb to its root. -/
theorem flattens_iff :
    Flattens graph declaration flat ↔
      ∃ passed root, Climbs graph declaration passed root ∧ root.inherits = [] ∧
        flat = firstOfEach (declaration.members ++ passed.flatMap (·.2.members)) := by
  constructor
  · intro flattens
    induction flattens with
    | @root declaration alone =>
      exact ⟨[], declaration, .here, alone, by simp⟩
    | @derived declaration parent name inherited step above ih =>
      obtain ⟨passed, root, climbs, alone, rfl⟩ := ih
      refine ⟨(name, parent) :: passed, root, .up step climbs, alone, ?_⟩
      rw [List.flatMap_cons, firstOfEach_append declaration.members]
  · rintro ⟨passed, root, climbs, alone, rfl⟩
    induction climbs with
    | @here declaration =>
      have flattens : Flattens graph declaration (firstOfEach declaration.members) := .root alone
      simpa using flattens
    | @up declaration parent root name passed step onwards ih =>
      rw [List.flatMap_cons, firstOfEach_append declaration.members]
      exact .derived step (ih alone)

theorem Flattens.unique (first : Flattens graph declaration flat)
    (second : Flattens graph declaration other) : flat = other := by
  obtain ⟨passed, root, climbs, alone, rfl⟩ := flattens_iff.mp first
  obtain ⟨whole, top, climbsOther, aloneOther, rfl⟩ := flattens_iff.mp second
  obtain ⟨rfl, _⟩ := climbs.unique (stops_of_root alone) climbsOther (stops_of_root aloneOther)
  rfl

/-- Along a chain that is found the members are collected as they override each other. -/
theorem members_of_chain {links : List Link}
    (chained : chain graph origin declaration = .ok links) :
    ∃ flat, Flattens graph declaration flat ∧ members graph origin declaration = .ok flat ∧
      (flat.map Member.name).Nodup := by
  have collected : members graph origin declaration
      = .ok (firstByName [] (links.flatMap (·.declaration.members))) := by
    rw [members, chained]
    rfl
  rw [chain_eq] at chained
  obtain ⟨above, walked, rfl⟩ := Traversal.map_eq_ok.mp chained
  obtain ⟨root, climbs, alone⟩ := climbs_of_ancestors walked
  refine ⟨_, flattens_iff.mpr ⟨above, root, climbs, alone, ?_⟩, collected,
    (firstByName_distinct _ _).1⟩
  rw [firstByName_eq, List.flatMap_cons, List.flatMap_map]
  simp [linkOf]

/-- Members that are all properties can be written in place as they are. -/
theorem properties_eq_ok (all : List Property) : properties (all.map .property) = .ok all := by
  induction all with
  | nil => rfl
  | cons first rest ih =>
    rw [List.map_cons, properties, ih]
    rfl

theorem properties_eq_error {all : List Member} {method : Method} (member : .method method ∈ all) :
    properties all
      = .error (.unsupported "method" "an inline object member (expected properties)") := by
  induction all with
  | nil => cases member
  | cons first rest ih =>
    cases first with
    | method declaration => rfl
    | property declaration =>
      rcases List.mem_cons.mp member with impossible | member
      · cases impossible
      · rw [properties, ih member]
        rfl

variable {options : Options} {ctx : Context} {first : Member} {rest : List Member}

theorem substance_of_nil (collected : members graph origin declaration = .ok []) :
    substance options graph origin declaration = .ok (.placeholder options.placeholder) := by
  rw [substance, sortedMembers_eq, collected]
  rfl

theorem substance_of_cons (collected : members graph origin declaration = .ok flat)
    (sorted : Text.sortBy Member.name flat = first :: rest) :
    substance options graph origin declaration = .ok (.members first rest) := by
  rw [substance, sortedMembers_eq, collected]
  simp only [Except.map, bind, Except.bind, pure, Except.pure, sorted]

theorem shownMembers_of_substance
    (consists : substance ctx.options ctx.graph origin declaration = .ok (.members first rest)) :
    shownMembers ctx origin declaration = .ok (first :: rest) := by
  rw [shownMembers, consists]
  rfl

theorem shownMembers_of_placeholder {value : Json} {name : String}
    (consists : substance ctx.options ctx.graph origin declaration = .ok (.placeholder value))
    (named : ctx.options.placeholderName = .ok name) :
    shownMembers ctx origin declaration = .ok [.property (placeholder name)] := by
  rw [shownMembers, consists]
  simp only [bind, Except.bind, Misuse.lift, named, Except.mapError]
  rfl

/-- A chain that is not found is the failure of everything that needs it. -/
theorem failure_of_chain {error : LoweringError}
    (failed : chain ctx.graph origin declaration = .error error) :
    substance ctx.options ctx.graph origin declaration = .error error ∧
      shownMembers ctx origin declaration = .error error ∧
      inlineMembers ctx.graph origin (.interface declaration) = .error error := by
  have uncollected : members ctx.graph origin declaration = .error error := by
    rw [members, failed]
    rfl
  have unsubstantial : substance ctx.options ctx.graph origin declaration = .error error := by
    rw [substance, sortedMembers_eq, uncollected]
    rfl
  refine ⟨unsubstantial, ?_, ?_⟩
  · rw [shownMembers, unsubstantial]
    rfl
  · rw [inlineMembers, uncollected]
    rfl

/-- What an interface consists of, once its chain is found, is its own members and the inherited
ones that they do not override. A declaration shows them by strictly increasing names, or the
stand-in when there are none; written in place they keep their order, and all have to be
properties. -/
theorem members_override_inherited (ctx : Context) (origin : Option String)
    (declaration : Interface) :
    (∀ links, chain ctx.graph origin declaration = .ok links →
      ∃ flat, Flattens ctx.graph declaration flat ∧
        (∀ other, Flattens ctx.graph declaration other → other = flat) ∧
        (flat = [] →
          substance ctx.options ctx.graph origin declaration
              = .ok (.placeholder ctx.options.placeholder) ∧
            ∀ name, ctx.options.placeholder = .str name →
              shownMembers ctx origin declaration = .ok [.property (placeholder name)]) ∧
        (flat ≠ [] → ∃ first rest,
          substance ctx.options ctx.graph origin declaration = .ok (.members first rest) ∧
            shownMembers ctx origin declaration = .ok (first :: rest) ∧
            (first :: rest).Perm flat ∧
            (first :: rest).Pairwise fun earlier later => earlier.name < later.name) ∧
        (∀ properties : List Property, flat = properties.map .property →
          inlineMembers ctx.graph origin (.interface declaration) = .ok properties) ∧
        ∀ method, .method method ∈ flat →
          inlineMembers ctx.graph origin (.interface declaration)
            = .error (.unsupported "method" "an inline object member (expected properties)")) ∧
    ∀ error, chain ctx.graph origin declaration = .error error →
      substance ctx.options ctx.graph origin declaration = .error error ∧
        shownMembers ctx origin declaration = .error error ∧
        inlineMembers ctx.graph origin (.interface declaration) = .error error := by
  refine ⟨?_, fun error failed => failure_of_chain failed⟩
  intro links chained
  obtain ⟨flat, flattens, collected, distinct⟩ := members_of_chain chained
  have inPlace : inlineMembers ctx.graph origin (.interface declaration) = properties flat := by
    rw [inlineMembers, collected]
    rfl
  refine ⟨flat, flattens, fun other flattensOther => flattensOther.unique flattens, ?_, ?_, ?_, ?_⟩
  · rintro rfl
    have consists : substance ctx.options ctx.graph origin declaration
        = .ok (.placeholder ctx.options.placeholder) := substance_of_nil collected
    refine ⟨consists, ?_⟩
    intro name given
    exact shownMembers_of_placeholder consists (by rw [Options.placeholderName, given])
  · intro filled
    have permuted := Text.sortBy_perm Member.name flat
    cases sorted : Text.sortBy Member.name flat with
    | nil =>
      rw [sorted] at permuted
      exact absurd permuted.nil_eq.symm filled
    | cons first rest =>
      rw [sorted] at permuted
      have strict := Text.sortBy_strict distinct
      rw [sorted] at strict
      have consists : substance ctx.options ctx.graph origin declaration
          = .ok (.members first rest) := substance_of_cons collected sorted
      exact ⟨first, rest, consists, shownMembers_of_substance consists, permuted, strict⟩
  · rintro all rfl
    rw [inPlace, properties_eq_ok]
  · intro method member
    rw [inPlace, properties_eq_error member]

/-- A text with a name. -/
def textProperty (name : String) : Property :=
  ⟨name, some (.primitive .string), false, none⟩

/-- A crow, which has a song of its own. -/
def crow : Interface :=
  ⟨[.property ⟨"song", none, true, none⟩, .property (textProperty "age"),
    .property (textProperty "song")], ["Bird"], true, none⟩

def aviary : Graph :=
  ⟨[("Crow", .interface crow),
    ("Bird", .interface ⟨[.property (textProperty "wings"), .property (textProperty "song")], [],
      false, none⟩)]⟩

theorem members_override_inherited_aviary :
    ∃ links, chain aviary (some "Crow") crow = .ok links ∧
      inlineMembers aviary (some "Crow") (.interface crow)
        = .ok [⟨"song", none, true, none⟩, textProperty "age", textProperty "wings"] ∧
      ∃ first rest, shownMembers ⟨aviary, [], {}, []⟩ (some "Crow") crow = .ok (first :: rest) ∧
        (first :: rest).Pairwise fun earlier later => earlier.name < later.name := by
  have named : aviary.Names (some "Crow") crow := by
    rintro symbol ⟨⟩
    rfl
  have chained : ∃ links, chain aviary (some "Crow") crow = .ok links :=
    ⟨_, (chain_eq_ok_iff named).mpr ⟨_, _, .up ⟨rfl, rfl⟩ .here, rfl, rfl⟩⟩
  obtain ⟨links, chained⟩ := chained
  obtain ⟨flat, flattens, unique, _, shown, inPlace, _⟩ :=
    (members_override_inherited ⟨aviary, [], {}, []⟩ (some "Crow") crow).1 links chained
  have same := unique _ (.derived ⟨rfl, rfl⟩ (.root rfl))
  have explicit : flat = [⟨"song", none, true, none⟩, textProperty "age", textProperty "wings"].map
      Member.property := same.symm
  obtain ⟨first, rest, _, isShown, _, strict⟩ := shown (by simp [explicit])
  exact ⟨links, chained, inPlace _ explicit, first, rest, isShown, strict⟩

end Inheritance

end SchemaLowering
