import Mathlib.Data.List.Forall2

/-!
Computations that may fail, one after the other and over the items of a list.
-/

namespace SchemaLowering.Traversal

variable {α β γ δ ε : Type}

/-- A chain succeeds when both of its halves do. -/
theorem bind_eq_ok {first : Except ε α} {next : α → Except ε β} {result : β} :
    (first >>= next) = .ok result ↔ ∃ value, first = .ok value ∧ next value = .ok result := by
  cases first with
  | error error =>
    constructor
    · intro impossible
      cases impossible
    · rintro ⟨value, impossible, _⟩
      cases impossible
  | ok value =>
    constructor
    · intro finished
      exact ⟨value, rfl, finished⟩
    · rintro ⟨other, same, finished⟩
      cases same
      exact finished

/-- A chain whose second half cannot fail fails when its first half does. -/
theorem bind_pure_eq_error {first : Except ε α} {function : α → β} {error : ε} :
    (first >>= fun value => pure (function value)) = .error error ↔ first = .error error := by
  cases first with
  | error other => simp [bind, Except.bind]
  | ok value => simp [bind, Except.bind, pure, Except.pure]

theorem map_eq_ok {function : α → β} {first : Except ε α} {result : β} :
    first.map function = .ok result ↔ ∃ value, first = .ok value ∧ function value = result := by
  cases first with
  | error error => simp [Except.map]
  | ok value => simp [Except.map]

theorem mapError_eq_ok {function : ε → δ} {first : Except ε α} {result : α} :
    first.mapError function = .ok result ↔ first = .ok result := by
  cases first with
  | error error => simp [Except.mapError]
  | ok value => simp [Except.mapError]

theorem eq_ok_of_toOption {first : Except ε α} {result : α} (found : first.toOption = some result) :
    first = .ok result := by
  cases first with
  | error error => cases found
  | ok value => exact congrArg Except.ok (Option.some.inj found)

/-- A chain whose first result is changed goes on from the changed result. -/
theorem map_bind (first : Except ε α) (function : α → γ) (next : γ → Except ε β) :
    (first.map function >>= next) = first >>= fun value => next (function value) := by
  cases first with
  | error error => rfl
  | ok value => rfl

/-- A traversal succeeds when every item does, and its results stand in the order of the items. -/
theorem mapM_eq_ok {function : α → Except ε β} {items : List α} {results : List β} :
    items.mapM function = .ok results ↔
      List.Forall₂ (fun item result => function item = .ok result) items results := by
  induction items generalizing results with
  | nil =>
    simp only [List.mapM_nil, List.forall₂_nil_left_iff]
    constructor
    · intro finished
      cases finished
      rfl
    · rintro rfl
      rfl
  | cons item rest ih =>
    simp only [List.mapM_cons, bind_eq_ok, List.forall₂_cons_left_iff]
    constructor
    · rintro ⟨result, done, others, doneRest, finished⟩
      cases finished
      exact ⟨result, others, done, ih.mp doneRest, rfl⟩
    · rintro ⟨result, others, done, doneRest, rfl⟩
      exact ⟨result, done, others, ih.mpr doneRest, rfl⟩

/-- A traversal fails with the failure of the first item that has one. -/
theorem mapM_eq_error {function : α → Except ε β} {items : List α} {error : ε} :
    items.mapM function = .error error ↔
      ∃ before item after, items = before ++ item :: after ∧
        (∀ earlier ∈ before, ∃ result, function earlier = .ok result) ∧
        function item = .error error := by
  constructor
  · intro failed
    induction items with
    | nil => cases failed
    | cons item rest ih =>
      rw [List.mapM_cons] at failed
      cases done : function item with
      | error own =>
        rw [done] at failed
        cases failed
        exact ⟨[], item, rest, rfl, by simp, done⟩
      | ok result =>
        rw [done] at failed
        cases doneRest : rest.mapM function with
        | error own =>
          rw [doneRest] at failed
          cases failed
          obtain ⟨before, first, after, rfl, earlier, fails⟩ := ih doneRest
          exact ⟨item :: before, first, after, rfl,
            List.forall_mem_cons.mpr ⟨⟨result, done⟩, earlier⟩, fails⟩
        | ok results =>
          rw [doneRest] at failed
          cases failed
  · rintro ⟨before, item, after, rfl, earlier, fails⟩
    induction before with
    | nil =>
      rw [List.nil_append, List.mapM_cons, fails]
      rfl
    | cons first rest ih =>
      obtain ⟨⟨result, done⟩, others⟩ := List.forall_mem_cons.mp earlier
      rw [List.cons_append, List.mapM_cons, done, ih others]
      rfl

/-- Traversals that agree item by item agree, in their results and in their first failure. -/
theorem mapM_congr {items : List α} {function other : α → Except ε β}
    (agree : ∀ item ∈ items, function item = other item) :
    items.mapM function = items.mapM other := by
  induction items with
  | nil => rfl
  | cons item rest ih =>
    rw [List.mapM_cons, List.mapM_cons, agree item List.mem_cons_self,
      ih fun item member => agree item (List.mem_cons_of_mem _ member)]

/-- A traversal in which the result of each item is changed by the item fails as before, and changes
the results one by one. -/
theorem mapM_adjusted {items : List α} {function : α → Except ε β} {other : α → Except ε γ}
    {adjust : α → β → γ} (agree : ∀ item, other item = (function item).map (adjust item)) :
    items.mapM other = (items.mapM function).map (List.zipWith adjust items) := by
  induction items with
  | nil => rfl
  | cons item rest ih =>
    rw [List.mapM_cons, List.mapM_cons, agree, ih]
    cases function item with
    | error error => rfl
    | ok result =>
      cases rest.mapM function with
      | error error => rfl
      | ok results => rfl

/-- A traversal that keeps a part of each result fails as before, and keeps that part of the
results. -/
theorem mapM_projected {function : α → Except ε β} {other : α → Except ε γ} {project : β → γ}
    (agree : ∀ item, other item = (function item).map project) (items : List α) :
    items.mapM other = (items.mapM function).map (List.map project) := by
  induction items with
  | nil => rfl
  | cons item rest ih =>
    rw [List.mapM_cons, List.mapM_cons, agree, ih]
    cases function item with
    | error error => rfl
    | ok result =>
      cases rest.mapM function with
      | error error => rfl
      | ok results => rfl

/-- A traversal whose every item succeeds succeeds. -/
theorem exists_mapM_eq_ok {function : α → Except ε β} {items : List α} :
    (∃ results, items.mapM function = .ok results) ↔
      ∀ item ∈ items, ∃ result, function item = .ok result := by
  induction items with
  | nil => simp [pure, Except.pure]
  | cons item rest ih =>
    simp only [List.mapM_cons, bind_eq_ok, List.forall_mem_cons, ← ih]
    constructor
    · rintro ⟨_, result, done, others, doneRest, _⟩
      exact ⟨⟨result, done⟩, others, doneRest⟩
    · rintro ⟨⟨result, done⟩, others, doneRest⟩
      exact ⟨_, result, done, others, doneRest, rfl⟩

/-- Each result of a traversal is the result of some item. -/
theorem exists_of_mem_results {function : α → Except ε β} {items : List α} {results : List β}
    (done : items.mapM function = .ok results) {result : β} (member : result ∈ results) :
    ∃ item ∈ items, function item = .ok result := by
  rw [mapM_eq_ok] at done
  induction done with
  | nil => cases member
  | cons first _ ih =>
    rcases List.mem_cons.mp member with rfl | member
    · exact ⟨_, List.mem_cons_self, first⟩
    · obtain ⟨item, isItem, ofItem⟩ := ih member
      exact ⟨item, List.mem_cons_of_mem _ isItem, ofItem⟩

/-- Each item of a traversal has its result among the results. -/
theorem exists_result_of_mem {function : α → Except ε β} {items : List α} {results : List β}
    (done : items.mapM function = .ok results) {item : α} (member : item ∈ items) :
    ∃ result ∈ results, function item = .ok result := by
  rw [mapM_eq_ok] at done
  induction done with
  | nil => cases member
  | cons first _ ih =>
    rcases List.mem_cons.mp member with rfl | member
    · exact ⟨_, List.mem_cons_self, first⟩
    · obtain ⟨result, isResult, ofItem⟩ := ih member
      exact ⟨result, List.mem_cons_of_mem _ isResult, ofItem⟩

/-- What is made of the results can be made of the items. -/
theorem map_results {function : α → Except ε β} {items : List α} {results : List β}
    {fromItem : α → γ} {fromResult : β → γ} (done : items.mapM function = .ok results)
    (same : ∀ item ∈ items, ∀ result, function item = .ok result →
      fromItem item = fromResult result) :
    results.map fromResult = items.map fromItem := by
  rw [mapM_eq_ok] at done
  induction done with
  | nil => rfl
  | cons first _ ih =>
    rw [List.map_cons, List.map_cons, same _ List.mem_cons_self _ first,
      ih fun item member => same item (List.mem_cons_of_mem _ member)]

/-- Items chosen by a condition on their results are those chosen by the matching condition on the
items. -/
theorem filter_zip {items : List α} {results : List β} {condition : α → Bool}
    {matching : β → Bool}
    (agree : List.Forall₂ (fun item result => matching result = condition item) items results) :
    ((items.zip results).filter (matching ·.2)).map Prod.fst = items.filter condition := by
  induction agree with
  | nil => rfl
  | cons same _ ih =>
    rw [List.zip_cons_cons, List.filter_cons, List.filter_cons, same]
    split
    · rw [List.map_cons, ih]
    · exact ih

end SchemaLowering.Traversal
