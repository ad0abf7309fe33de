import SchemaLowering.Lowering.Inheritance
import SchemaLowering.Proofs.Traversal

/-!
Members are collected along a chain in two ways: in order of declaration with a set of the names
that were seen, and by name with the first member of each name kept. Both keep the same members, and
a walk to the ancestors passes no interface twice.
-/

namespace SchemaLowering

namespace Inheritance

variable {graph : Graph} {origin : Option String}

/-- The ancestors of an interface are distinct, new to the walk and other than its start. -/
theorem ancestors_distinct {visited : List String} {current : Interface}
    {above : List (String × Interface)}
    (walked : ancestors graph origin visited current = .ok above) :
    (above.map Prod.fst).Nodup ∧
      ∀ link ∈ above, link.1 ∉ visited ∧ origin ≠ some link.1 := by
  fun_induction ancestors graph origin visited current generalizing above with
  | case1 visited current none =>
    cases walked
    simp
  | case5 visited current name one fresh notStart parent found _ ih =>
    obtain ⟨rest, walkedRest, same⟩ := Traversal.bind_eq_ok.mp walked
    cases same
    obtain ⟨distinct, apart⟩ := ih walkedRest
    constructor
    · refine List.nodup_cons.mpr ⟨?_, distinct⟩
      intro again
      obtain ⟨link, member, same⟩ := List.mem_map.mp again
      exact (apart link member).1 (by simp [same])
    · intro link member
      rcases List.mem_cons.mp member with rfl | member
      · exact ⟨fresh, notStart⟩
      · refine ⟨fun passed => ?_, (apart link member).2⟩
        exact (apart link member).1 (List.mem_append_left _ passed)
  | _ => cases walked

theorem symbols_chain_distinct {declaration : Interface} {links : List Link}
    (chained : chain graph origin declaration = .ok links) : (links.map Link.symbol).Nodup := by
  obtain ⟨above, walked, same⟩ := Traversal.bind_eq_ok.mp chained
  cases same
  obtain ⟨distinct, apart⟩ := ancestors_distinct walked
  rw [List.map_cons, List.map_map]
  refine List.nodup_cons.mpr ⟨?_, ?_⟩
  · intro again
    obtain ⟨link, member, same⟩ := List.mem_map.mp again
    exact (apart link member).2 same.symm
  · change (above.map (some ∘ Prod.fst)).Nodup
    rw [← List.map_map]
    exact List.Pairwise.map some (fun _ _ other same => other (Option.some.inj same)) distinct

/-- Interfaces that are all new are all kept. -/
theorem eachOnce_eq_append {passed links : List Link}
    (distinct : ((passed ++ links).map Link.symbol).Nodup) :
    eachOnce passed links = passed ++ links := by
  induction links generalizing passed with
  | nil => simp [eachOnce]
  | cons link rest ih =>
    have fresh : ¬ passed.any (·.symbol = link.symbol) = true := by
      intro again
      obtain ⟨other, member, same⟩ := List.any_eq_true.mp again
      rw [List.map_append, List.nodup_append] at distinct
      exact distinct.2.2 _ (List.mem_map_of_mem member) _ (by simp) (of_decide_eq_true same)
    rw [eachOnce, if_neg fresh, ih (by simpa using distinct)]
    simp

/-- The check for interfaces that were passed before never finds one. -/
theorem transitive_eq_chain (graph : Graph) (origin : Option String) (declaration : Interface) :
    transitive graph origin declaration = chain graph origin declaration := by
  rw [transitive]
  cases chained : chain graph origin declaration with
  | error error => rfl
  | ok links =>
    have once : eachOnce [] links = links := eachOnce_eq_append (symbols_chain_distinct chained)
    exact congrArg Except.ok once

/-- It does not matter in which order names were seen. -/
theorem firstByName_congr {seen others : List String} (all : List Member)
    (same : ∀ name, name ∈ seen ↔ name ∈ others) :
    firstByName seen all = firstByName others all := by
  induction all generalizing seen others with
  | nil => rfl
  | cons member rest ih =>
    have onwards : ∀ name, name ∈ member.name :: seen ↔ name ∈ member.name :: others := by
      intro name
      rw [List.mem_cons, List.mem_cons, same name]
    simp only [firstByName, same member.name, ih same, ih onwards]

/-- What is kept by name is what is seen first, behind what was there. -/
theorem foldl_keepFirst (byName : List (String × Member)) (all : List Member) :
    (all.foldl keepFirst byName).map Prod.snd
      = byName.map Prod.snd ++ firstByName (byName.map Prod.fst) all := by
  induction all generalizing byName with
  | nil => simp [firstByName]
  | cons member rest ih =>
    have found : byName.any (·.1 = member.name) = true ↔ member.name ∈ byName.map Prod.fst := by
      simp
    rw [List.foldl_cons, ih, firstByName, keepFirst]
    by_cases known : member.name ∈ byName.map Prod.fst
    · rw [if_pos known, if_pos (found.mpr known)]
    · rw [if_neg known, if_neg (mt found.mp known), List.map_append, List.append_assoc]
      congr 1
      rw [List.map_append, List.map_singleton, List.singleton_append]
      exact congrArg (member :: ·) (firstByName_congr rest fun name => by simp [or_comm])

/-- Both ways of collecting members keep the same ones. -/
theorem sortedMembers_eq (graph : Graph) (origin : Option String) (declaration : Interface) :
    sortedMembers graph origin declaration
      = (members graph origin declaration).map (Text.sortBy Member.name) := by
  rw [sortedMembers, transitive_eq_chain, members]
  cases chain graph origin declaration with
  | error error => rfl
  | ok links =>
    have kept := foldl_keepFirst [] (links.flatMap (·.declaration.members))
    exact congrArg (fun all => Except.ok (Text.sortBy Member.name all)) kept

end Inheritance

end SchemaLowering
