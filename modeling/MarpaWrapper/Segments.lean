/-
This file is about records that fall into segments. Some items open a segment,
and a segment goes up to the next one that does, or to the end of the record.
What holds of every segment is carried along as the record grows, segment by
segment.
-/

import Mathlib

namespace Segments

variable {α : Type} {opens : α → Prop}

/-- `segment` lies in the record behind an item that opens one, and goes on as far as it can. -/
structure Segment (opens : α → Prop) (record earlier : List α) (opener : α)
    (segment : List α) : Prop where
  opened : opens opener
  inside : ∀ item ∈ segment, ¬ opens item
  split : ∃ after, record = earlier ++ opener :: (segment ++ after) ∧
    ∀ next ∈ after.head?, opens next

/-- `holds` is true of every segment that was opened after `start`, and of the record before it. -/
def Every (opens : α → Prop) (start record : List α) (holds : List α → List α → Prop) : Prop :=
  ∀ earlier opener segment, Segment opens record (start ++ earlier) opener segment →
    holds (start ++ earlier ++ [opener]) segment

variable {start record earlier : List α} {opener : α} {segment : List α}
  {holds : List α → List α → Prop}

theorem Every.mono {weaker : List α → List α → Prop} (every : Every opens start record holds)
    (weaken : ∀ before segment, holds before segment → weaker before segment) :
    Every opens start record weaker :=
  fun earlier opener segment found => weaken _ _ (every earlier opener segment found)

/-- A record in which nothing opens a segment has none. -/
theorem Every.unopened {more : List α} (unopened : ∀ item ∈ more, ¬ opens item) :
    Every opens start (start ++ more) holds := by
  rintro earlier opener segment ⟨opened, -, after, split, -⟩
  rw [List.append_assoc] at split
  have tail := List.append_cancel_left split
  exact absurd opened (unopened opener (tail ▸ List.mem_append_right _ List.mem_cons_self))

/-- A segment that was added is a segment of the new record, and the last one. -/
theorem Segment.last {opener' : α} {segment' : List α} (inside : ∀ item ∈ segment, ¬ opens item)
    (found : Segment opens (record ++ opener :: segment) record opener' segment') :
    opener' = opener ∧ segment' = segment := by
  obtain ⟨-, -, after, split, next⟩ := found
  injection List.append_cancel_left split with same rest
  cases after with
  | nil => exact ⟨same.symm, by rw [rest, List.append_nil]⟩
  | cons item after =>
    exact absurd (next item rfl) (inside item (rest ▸ List.mem_append_right _ List.mem_cons_self))

/-- A segment of a record that was extended by a segment is the new one or an old one. -/
theorem Segment.of_append {opener' : α} {segment' : List α} (opened : opens opener)
    (inside : ∀ item ∈ segment, ¬ opens item)
    (found : Segment opens (record ++ opener :: segment) earlier opener' segment') :
    (earlier = record ∧ opener' = opener ∧ segment' = segment) ∨
      Segment opens record earlier opener' segment' := by
  obtain ⟨opened', inside', after, split, next⟩ := found
  rcases List.append_eq_append_iff.mp split with ⟨more, front, back⟩ | ⟨more, front, back⟩
  · cases more with
    | nil =>
      rw [List.append_nil] at front
      subst front
      exact .inl ⟨rfl, Segment.last inside ⟨opened', inside', after, split, next⟩⟩
    | cons item more =>
      injection back with _ rest
      exact absurd opened' (inside opener' (rest ▸ List.mem_append_right _ List.mem_cons_self))
  · cases more with
    | nil =>
      rw [List.append_nil] at front
      subst front
      exact .inl ⟨rfl, Segment.last inside ⟨opened', inside', after, split, next⟩⟩
    | cons item more =>
      injection back with same rest
      subst same
      rcases List.append_eq_append_iff.mp rest with ⟨left, cut, last⟩ | ⟨left, cut, last⟩
      · refine .inr ⟨opened', inside', left, by rw [front, cut], fun item member => next item ?_⟩
        cases left with
        | nil => cases member
        | cons head left => rw [last]; exact member
      · cases left with
        | nil =>
          rw [List.append_nil] at cut
          exact .inr ⟨opened', inside', [], by rw [front, cut, List.append_nil],
            fun item member => nomatch member⟩
        | cons head left =>
          injection last with same _
          exact absurd opened (inside' opener
            (cut ▸ List.mem_append_right _ (same ▸ List.mem_cons_self)))

/-- What holds of the segments so far and of a new one holds of the segments then. -/
theorem Every.extend (every : Every opens start record holds) (opened : opens opener)
    (inside : ∀ item ∈ segment, ¬ opens item) (new : holds (record ++ [opener]) segment) :
    Every opens start (record ++ opener :: segment) holds := by
  intro earlier opener' segment' found
  rcases found.of_append opened inside with ⟨same, rfl, rfl⟩ | old
  · rw [same]
    exact new
  · exact every earlier opener' segment' old

/-! ### The first segment -/

/-- What comes before the first segment, what opens it, and the segment. -/
def first (opens : α → Bool) (record : List α) : Option (List α × α × List α) :=
  match record.dropWhile (!opens ·) with
  | [] => none
  | opener :: rest => some (record.takeWhile (!opens ·), opener, rest.takeWhile (!opens ·))

/-- The first item that a record is left with when others were dropped. -/
theorem opens_of_dropWhile {opens : α → Bool} {items rest : List α}
    (dropped : items.dropWhile (!opens ·) = opener :: rest) : opens opener = true := by
  have head := List.head?_dropWhile_not (!opens ·) items
  rw [dropped] at head
  simpa using head

theorem first_segment {opens : α → Bool}
    (found : first opens record = some (earlier, opener, segment)) (start : List α) :
    Segment (fun item => opens item = true) (start ++ record) (start ++ earlier) opener segment := by
  unfold first at found
  cases dropped : record.dropWhile (!opens ·) with
  | nil => rw [dropped] at found; cases found
  | cons head rest =>
    rw [dropped] at found
    cases found
    refine ⟨opens_of_dropWhile dropped, fun item member => ?_, rest.dropWhile (!opens ·), ?_,
      fun next here => ?_⟩
    · have shut := List.mem_takeWhile_imp member
      rw [Bool.not_eq_eq_eq_not, Bool.not_true] at shut
      exact ne_true_of_eq_false shut
    · rw [List.takeWhile_append_dropWhile, List.append_assoc, ← dropped,
        List.takeWhile_append_dropWhile]
    · cases left : rest.dropWhile (!opens ·) with
      | nil => rw [left] at here; cases here
      | cons head' rest' =>
        rw [left] at here
        cases here
        exact opens_of_dropWhile left

end Segments
