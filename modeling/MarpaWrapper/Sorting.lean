/-
This file is about sorting with a comparator that answers with an integer, as C
does: negative, zero or positive. A comparator is consistent when it is a total
preorder. What a sort promises is a permutation, and for a consistent comparator
an ascending one; in which order it leaves items that compare equal is open.

Two sorts that keep the promise and differ on such items are given. What holds
under every sort holds under both, and that is how one shows that it does not
follow from the promise.
-/

import Mathlib

namespace Sorting

variable {α : Type}

/-! ### Comparators -/

/-- A comparator that answers as if it compared keys of a total preorder. -/
structure Consistent (compare : α → α → Int) : Prop where
  refl : ∀ item, compare item item = 0
  swap : ∀ left right, compare left right < 0 ↔ 0 < compare right left
  trans : ∀ first second third, compare first second ≤ 0 → compare second third ≤ 0 →
    compare first third ≤ 0

theorem Consistent.total {compare : α → α → Int} (consistent : Consistent compare)
    (left right : α) : compare left right ≤ 0 ∨ compare right left ≤ 0 := by
  by_cases above : compare left right ≤ 0
  · exact .inl above
  · exact .inr (Int.le_of_lt ((consistent.swap right left).mpr (Int.not_le.mp above)))

/-! ### Sorts -/

/-- What a sort promises. -/
structure Conforms (sort : {α : Type} → (α → α → Int) → List α → List α) : Prop where
  perm : ∀ {α : Type} (compare : α → α → Int) (items : List α), (sort compare items).Perm items
  ascending : ∀ {α : Type} {compare : α → α → Int}, Consistent compare → ∀ items : List α,
    (sort compare items).Pairwise fun left right => compare left right ≤ 0

/-- Insertion sort. -/
def inserting (compare : α → α → Int) (items : List α) : List α :=
  items.insertionSort fun left right => compare left right ≤ 0

/-- Insertion sort, from the other end. -/
def insertingBackwards (compare : α → α → Int) (items : List α) : List α :=
  inserting compare items.reverse

theorem inserting_perm (compare : α → α → Int) (items : List α) :
    (inserting compare items).Perm items :=
  List.perm_insertionSort _ items

theorem inserting_ascending {compare : α → α → Int} (consistent : Consistent compare)
    (items : List α) :
    (inserting compare items).Pairwise fun left right => compare left right ≤ 0 := by
  have total : Std.Total fun left right : α => compare left right ≤ 0 := ⟨consistent.total⟩
  have trans : IsTrans α fun left right => compare left right ≤ 0 := ⟨consistent.trans⟩
  exact List.pairwise_insertionSort _ items

theorem inserting_conforms : Conforms @inserting :=
  ⟨fun compare items => inserting_perm compare items,
    fun consistent items => inserting_ascending consistent items⟩

theorem insertingBackwards_conforms : Conforms @insertingBackwards :=
  ⟨fun compare items => (inserting_perm compare _).trans items.reverse_perm,
    fun consistent _ => inserting_ascending consistent _⟩

/-- A sort sees its items only through the comparator. -/
def SortsBlindly (sort : {α : Type} → (α → α → Int) → List α → List α) : Prop :=
  ∀ {α β : Type} (view : α → β) (compare : β → β → Int) (items : List α),
    (sort (fun left right => compare (view left) (view right)) items).map view =
      sort compare (items.map view)

theorem inserting_sortsBlindly : SortsBlindly @inserting :=
  fun view compare items => List.map_insertionSort
    (fun left right => compare (view left) (view right) ≤ 0)
    (fun left right => compare left right ≤ 0) view items fun _ _ _ _ => Iff.rfl

/-! ### Comparators of an array -/

/-- A comparator that is consistent on the items of an array, which is what a sort of that array
needs. -/
structure ConsistentOn (items : List α) (compare : α → α → Int) : Prop where
  refl : ∀ item ∈ items, compare item item = 0
  swap : ∀ left ∈ items, ∀ right ∈ items, compare left right < 0 ↔ 0 < compare right left
  trans : ∀ first ∈ items, ∀ second ∈ items, ∀ third ∈ items, compare first second ≤ 0 →
    compare second third ≤ 0 → compare first third ≤ 0

/-- What a sort promises of an array. -/
structure ConformsOn (sort : {α : Type} → (α → α → Int) → List α → List α) : Prop where
  perm : ∀ {α : Type} (compare : α → α → Int) (items : List α), (sort compare items).Perm items
  ascending : ∀ {α : Type} {compare : α → α → Int} {items : List α}, ConsistentOn items compare →
    (sort compare items).Pairwise fun left right => compare left right ≤ 0

/-! ### Items that compare equal -/

section Ties

variable {compare : α → α → Int} {items : List α}

/-- Insertion sort keeps items in place that compare equal. -/
theorem inserting_ties (ties : ∀ left ∈ items, ∀ right ∈ items, compare left right ≤ 0) :
    inserting compare items = items :=
  List.Pairwise.insertionSort_eq (List.pairwise_of_forall_mem_list ties)

/-- The other insertion sort reverses them. -/
theorem insertingBackwards_ties (ties : ∀ left ∈ items, ∀ right ∈ items, compare left right ≤ 0) :
    insertingBackwards compare items = items.reverse :=
  inserting_ties fun left member right member' =>
    ties left (List.mem_reverse.mp member) right (List.mem_reverse.mp member')

/-- Items that ascend in both directions have one key. -/
theorem one_key_of_both_directions (key : α → Int)
    (forwards : items.Pairwise fun left right => key left ≤ key right)
    (backwards : items.reverse.Pairwise fun left right => key left ≤ key right) :
    ∀ left ∈ items, ∀ right ∈ items, key left = key right := by
  have equal : items.Pairwise fun left right => key left = key right :=
    (forwards.and (List.pairwise_reverse.mp backwards)).imp fun both =>
      Int.le_antisymm both.1 both.2
  have flipped : items.Pairwise (flip fun left right => key left = key right) :=
    equal.imp fun same => same.symm
  exact fun left member right member' =>
    List.Pairwise.forall_of_forall_of_flip (R := fun left right => key left = key right)
      (fun _ _ => rfl) equal flipped member member'

end Ties

end Sorting
