/-!
Lists sorted by a text that belongs to each item, in the order of code points. Items with equal
texts keep their order.
-/

namespace SchemaLowering.Text

variable {α : Type}

/-- Puts an item before the first one whose text is not smaller. -/
def insertSorted (key : α → String) (item : α) : List α → List α
  | [] => [item]
  | head :: rest =>
    if key item ≤ key head then item :: head :: rest else head :: insertSorted key item rest

/-- The items in the order of their texts. -/
def sortBy (key : α → String) : List α → List α
  | [] => []
  | item :: rest => insertSorted key item (sortBy key rest)

theorem insertSorted_perm (key : α → String) (item : α) (items : List α) :
    (insertSorted key item items).Perm (item :: items) := by
  induction items with
  | nil => exact List.Perm.refl _
  | cons head rest ih =>
    unfold insertSorted
    split
    · exact List.Perm.refl _
    · exact (ih.cons head).trans (List.Perm.swap item head rest)

theorem sortBy_perm (key : α → String) (items : List α) : (sortBy key items).Perm items := by
  induction items with
  | nil => exact List.Perm.refl _
  | cons item rest ih =>
    exact (insertSorted_perm key item (sortBy key rest)).trans (ih.cons item)

theorem mem_sortBy {key : α → String} {items : List α} {item : α} :
    item ∈ sortBy key items ↔ item ∈ items :=
  (sortBy_perm key items).mem_iff

end SchemaLowering.Text
