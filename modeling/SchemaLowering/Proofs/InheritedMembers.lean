import SchemaLowering.Proofs.Declaration
import SchemaLowering.Proofs.LoweringSimulation

/-!
Where the members that a declaration shows come from: the interface itself, interfaces that the
graph finds under the supertypes, or the field that stands in for missing members.
-/

namespace SchemaLowering

namespace Inheritance

variable {graph : Graph} {origin : Option String}

/-- The ancestors of an interface are interfaces of the graph. -/
theorem ancestors_known {visited : List String} {current : Interface}
    {above : List (String × Interface)}
    (walked : ancestors graph origin visited current = .ok above) :
    ∀ link ∈ above, graph.find? link.1 = some (.interface link.2) := by
  fun_induction ancestors graph origin visited current generalizing above with
  | case1 visited current none =>
    cases walked
    simp
  | case5 visited current name one fresh notStart parent found _ ih =>
    obtain ⟨rest, walkedRest, same⟩ := Traversal.bind_eq_ok.mp walked
    cases same
    intro link member
    rcases List.mem_cons.mp member with rfl | member
    · exact found
    · exact ih walkedRest link member
  | _ => cases walked

theorem mem_of_mem_firstByName {seen : List String} {all : List Member} {member : Member}
    (kept : member ∈ firstByName seen all) : member ∈ all := by
  fun_induction firstByName seen all with
  | case1 => cases kept
  | case2 seen first rest known ih => exact List.mem_cons_of_mem _ (ih kept)
  | case3 seen first rest fresh ih =>
    rcases List.mem_cons.mp kept with rfl | kept
    · exact List.mem_cons_self
    · exact List.mem_cons_of_mem _ (ih kept)

/-- A member of an interface is its own or stands in an interface of the graph. -/
theorem mem_members {declaration : Interface} {all : List Member} {member : Member}
    (collected : members graph origin declaration = .ok all) (chosen : member ∈ all) :
    member ∈ declaration.members ∨
      ∃ name parent, graph.find? name = some (.interface parent) ∧ member ∈ parent.members := by
  obtain ⟨links, chained, same⟩ := Traversal.bind_eq_ok.mp collected
  obtain ⟨above, walked, ofWalk⟩ := Traversal.bind_eq_ok.mp chained
  cases same
  cases ofWalk
  have somewhere := mem_of_mem_firstByName chosen
  rw [List.flatMap_cons, List.mem_append, List.flatMap_map, List.mem_flatMap] at somewhere
  rcases somewhere with own | ⟨link, isLink, inherited⟩
  · exact .inl own
  · exact .inr ⟨link.1, link.2, ancestors_known walked link isLink, inherited⟩

variable {ctx : Context} {declaration : Interface} {shown : List Member}

/-- A declaration shows the members of its interface, or the stand-in when there are none. -/
theorem shownMembers_eq_ok (found : shownMembers ctx origin declaration = .ok shown) :
    ∃ all, members ctx.graph origin declaration = .ok all ∧
      (shown = Text.sortBy Member.name all ∨
        ∃ name, ctx.options.placeholder = .str name ∧ shown = [.property (placeholder name)]) := by
  obtain ⟨substance, ofSubstance, found⟩ := Traversal.bind_eq_ok.mp found
  obtain ⟨sorted, ofSorted, same⟩ := Traversal.bind_eq_ok.mp ofSubstance
  rw [sortedMembers_eq] at ofSorted
  obtain ⟨all, collected, rfl⟩ := Traversal.map_eq_ok.mp ofSorted
  refine ⟨all, collected, ?_⟩
  cases sorting : Text.sortBy Member.name all with
  | nil =>
    rw [sorting] at same
    cases same
    obtain ⟨name, named, same⟩ := Traversal.bind_eq_ok.mp found
    cases same
    refine .inr ⟨name, ?_, rfl⟩
    have named := Traversal.mapError_eq_ok.mp named
    unfold Options.placeholderName at named
    split at named
    · next given =>
      cases named
      exact given
    · cases named
  | cons first rest =>
    rw [sorting] at same
    cases same
    cases found
    exact .inl rfl

/-- A member that a declaration shows is the stand-in, or it is its own or inherited. -/
theorem mem_shownMembers {member : Member}
    (found : shownMembers ctx origin declaration = .ok shown) (chosen : member ∈ shown) :
    (∃ name, ctx.options.placeholder = .str name ∧ member = .property (placeholder name)) ∨
      member ∈ declaration.members ∨
      ∃ name parent, ctx.graph.find? name = some (.interface parent) ∧
        member ∈ parent.members := by
  obtain ⟨all, collected, rfl | ⟨name, given, rfl⟩⟩ := shownMembers_eq_ok found
  · exact .inr (mem_members collected (Text.mem_sortBy.mp chosen))
  · exact .inl ⟨name, given, List.mem_singleton.mp chosen⟩

end Inheritance

end SchemaLowering
