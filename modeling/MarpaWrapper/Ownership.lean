/-
This file is about containers that own objects. A log lists what a container
does with its objects: it stores one, lets one be read, hands one out for good,
or releases one. A ledger balances a log with the objects the container owns at
the end of it: everything stored was handed out, was released or is still
owned, each object in one of these ways and once, and an object that was handed
out is never dealt with again.

A container that owns nothing at the end has dealt with every object exactly
once. The rules say which dealings keep a ledger balanced.
-/

import Mathlib

namespace Ownership

/-- One dealing of a container with an object. -/
inductive Dealing (α : Type) where
  | stored (object : α)
  | read (object : α)
  | taken (object : α)
  | released (object : α)

variable {α : Type}

/-- The object of a dealing. -/
def Dealing.object : Dealing α → α
  | .stored object => object
  | .read object => object
  | .taken object => object
  | .released object => object

/-- The objects a container stored, in order. -/
def stored (log : List (Dealing α)) : List α :=
  log.filterMap fun
    | .stored object => some object
    | _ => none

/-- The objects a container handed out for good, in order. -/
def taken (log : List (Dealing α)) : List α :=
  log.filterMap fun
    | .taken object => some object
    | _ => none

/-- The objects a container released, in order. -/
def released (log : List (Dealing α)) : List α :=
  log.filterMap fun
    | .released object => some object
    | _ => none

section Logs

variable (log dealings : List (Dealing α))

theorem stored_append : stored (log ++ dealings) = stored log ++ stored dealings :=
  List.filterMap_append

theorem taken_append : taken (log ++ dealings) = taken log ++ taken dealings :=
  List.filterMap_append

theorem released_append : released (log ++ dealings) = released log ++ released dealings :=
  List.filterMap_append

end Logs

variable {log dealings : List (Dealing α)} {object : α} {owned owned' : List α}

theorem mem_stored : object ∈ stored log ↔ .stored object ∈ log := by
  rw [stored, List.mem_filterMap]
  constructor
  · rintro ⟨dealing, member, found⟩
    cases dealing <;> cases found
    exact member
  · exact fun member => ⟨_, member, rfl⟩

theorem mem_taken : object ∈ taken log ↔ .taken object ∈ log := by
  rw [taken, List.mem_filterMap]
  constructor
  · rintro ⟨dealing, member, found⟩
    cases dealing <;> cases found
    exact member
  · exact fun member => ⟨_, member, rfl⟩

theorem mem_released : object ∈ released log ↔ .released object ∈ log := by
  rw [released, List.mem_filterMap]
  constructor
  · rintro ⟨dealing, member, found⟩
    cases dealing <;> cases found
    exact member
  · exact fun member => ⟨_, member, rfl⟩

/-! ### Dealing with an object once -/

/-- An object is handed out once, is not released before, and is not dealt with afterwards. -/
def TakenOnce (log : List (Dealing α)) (object : α) : Prop :=
  ∃ before after, log = before ++ .taken object :: after ∧
    .taken object ∉ before ∧ .released object ∉ before ∧
    ∀ dealing ∈ after, dealing.object ≠ object

/-- An object is released once and never handed out. -/
def ReleasedOnce (log : List (Dealing α)) (object : α) : Prop :=
  .taken object ∉ log ∧ ∃ before after, log = before ++ .released object :: after ∧
    .released object ∉ before ∧ .released object ∉ after

/-- Every stored object leaves the container in exactly one way, once. -/
def OwnedOnce (log : List (Dealing α)) : Prop :=
  ∀ object, .stored object ∈ log → TakenOnce log object ∨ ReleasedOnce log object

/-! ### Ledgers -/

/-- The balance of a log with the objects that are owned at its end. -/
structure Ledger (log : List (Dealing α)) (owned : List α) : Prop where
  balance : (stored log).Perm (taken log ++ released log ++ owned)
  distinct : (stored log).Nodup
  settled : ∀ before after object, log = before ++ .taken object :: after →
    ∀ dealing ∈ after, dealing.object ≠ object

theorem Ledger.nil : Ledger ([] : List (Dealing α)) [] where
  balance := .refl _
  distinct := .nil
  settled before after object cut := absurd cut (by simp)

theorem Ledger.nodup (ledger : Ledger log owned) :
    (taken log ++ released log ++ owned).Nodup :=
  ledger.balance.nodup_iff.mp ledger.distinct

theorem Ledger.owned_stored (ledger : Ledger log owned) (member : object ∈ owned) :
    object ∈ stored log :=
  ledger.balance.mem_iff.mpr (List.mem_append_right _ member)

theorem Ledger.taken_stored (ledger : Ledger log owned) (member : object ∈ taken log) :
    object ∈ stored log :=
  ledger.balance.mem_iff.mpr (List.mem_append_left _ (List.mem_append_left _ member))

theorem Ledger.owned_not_taken (ledger : Ledger log owned) (member : object ∈ owned) :
    object ∉ taken log := fun also =>
  (List.nodup_append.mp ledger.nodup).2.2 object (List.mem_append_left _ also) object member rfl

/-- More dealings settle nothing anew when their objects were not handed out before. -/
theorem Ledger.settled_append (ledger : Ledger log owned)
    (notTaken : ∀ dealing ∈ dealings, dealing.object ∉ taken log)
    (settled : ∀ before after object, dealings = before ++ .taken object :: after →
      ∀ dealing ∈ after, dealing.object ≠ object)
    (before after : List (Dealing α)) (object : α)
    (cut : log ++ dealings = before ++ .taken object :: after) :
    ∀ dealing ∈ after, dealing.object ≠ object := by
  rcases List.append_eq_append_iff.mp cut with ⟨between, rfl, equal⟩ | ⟨between, rfl, equal⟩
  · exact settled between after object equal
  · cases between with
    | nil => exact settled [] after object (by simpa using equal.symm)
    | cons first between =>
      obtain ⟨rfl, rfl⟩ := List.cons.inj equal
      intro dealing member
      rcases List.mem_append.mp member with old | new
      · exact ledger.settled before between _ rfl dealing old
      · intro same
        refine notTaken dealing new ?_
        rw [same]
        exact mem_taken.mpr (by simp)

/-- Stores and releases that balance the owned objects. -/
theorem Ledger.exchange (ledger : Ledger log owned)
    (kinds : ∀ dealing ∈ dealings, (∃ object, dealing = .stored object) ∨
      ∃ object, dealing = .released object)
    (fresh : ∀ object ∈ stored dealings, object ∉ stored log)
    (distinct : (stored dealings).Nodup)
    (balance : (owned ++ stored dealings).Perm (released dealings ++ owned')) :
    Ledger (log ++ dealings) owned' := by
  have noneTaken : taken dealings = [] := by
    rw [List.eq_nil_iff_forall_not_mem]
    intro object member
    rcases kinds _ (mem_taken.mp member) with ⟨_, kind⟩ | ⟨_, kind⟩ <;> cases kind
  refine ⟨?_, ?_, ledger.settled_append ?_ ?_⟩
  · rw [stored_append, taken_append, released_append, noneTaken, List.append_nil]
    calc stored log ++ stored dealings
      _ |>.Perm (taken log ++ released log ++ owned ++ stored dealings) :=
          ledger.balance.append_right _
      _ |>.Perm (taken log ++ released log ++ (owned ++ stored dealings)) := by
          rw [List.append_assoc]
      _ |>.Perm (taken log ++ released log ++ (released dealings ++ owned')) :=
          balance.append_left _
      _ |>.Perm (taken log ++ (released log ++ released dealings) ++ owned') := by
          simp only [List.append_assoc, List.Perm.refl]
  · rw [stored_append, List.nodup_append]
    exact ⟨ledger.distinct, distinct, fun object old other new same =>
      fresh other new (same ▸ old)⟩
  · intro dealing member also
    rcases kinds dealing member with ⟨object, rfl⟩ | ⟨object, rfl⟩
    · exact fresh object (mem_stored.mpr member) (ledger.taken_stored also)
    · have owner := balance.mem_iff.mpr (List.mem_append_left _ (mem_released.mpr member))
      rcases List.mem_append.mp owner with old | new
      · exact ledger.owned_not_taken old also
      · exact fresh object new (ledger.taken_stored also)
  · rintro before after object rfl
    rcases kinds (.taken object) (by simp) with ⟨_, kind⟩ | ⟨_, kind⟩ <;> cases kind

theorem Ledger.perm (ledger : Ledger log owned) (same : owned.Perm owned') : Ledger log owned' :=
  ⟨ledger.balance.trans (same.append_left _), ledger.distinct, ledger.settled⟩

/-- An owned object is read. -/
theorem Ledger.read (ledger : Ledger log owned) (member : object ∈ owned) :
    Ledger (log ++ [.read object]) owned := by
  refine ⟨?_, ?_, ledger.settled_append ?_ ?_⟩
  · rw [stored_append, taken_append, released_append]
    simpa [stored, taken, released] using ledger.balance
  · rw [stored_append]
    simpa [stored] using ledger.distinct
  · intro dealing only
    obtain rfl := List.mem_singleton.mp only
    exact ledger.owned_not_taken member
  · intro before after object cut
    cases before <;> simp at cut

/-- An owned object is handed out. -/
theorem Ledger.take (ledger : Ledger log (object :: owned)) :
    Ledger (log ++ [.taken object]) owned := by
  refine ⟨?_, ?_, ledger.settled_append ?_ ?_⟩
  · rw [stored_append, taken_append, released_append]
    have balance := ledger.balance
    simp only [stored, taken, released, List.filterMap_cons, List.filterMap_nil, List.append_nil,
      List.append_assoc, List.singleton_append] at balance ⊢
    exact balance.trans (List.perm_middle.append_left _)
  · rw [stored_append]
    simpa [stored] using ledger.distinct
  · intro dealing only
    obtain rfl := List.mem_singleton.mp only
    exact ledger.owned_not_taken List.mem_cons_self
  · intro before after object cut
    cases before with
    | nil =>
      obtain rfl : [] = after := (List.cons.inj cut).2
      exact fun _ member => absurd member List.not_mem_nil
    | cons first before => simp at cut

/-- A container that owns nothing any more has dealt with every object once. -/
theorem Ledger.ownedOnce (ledger : Ledger log []) : OwnedOnce log := by
  intro object member
  have nodup := ledger.nodup
  rw [List.append_nil] at nodup
  obtain ⟨takenNodup, releasedNodup, disjoint⟩ := List.nodup_append.mp nodup
  have left := ledger.balance.mem_iff.mp (mem_stored.mpr member)
  rw [List.append_nil] at left
  rcases List.mem_append.mp left with handed | freed
  · left
    have notFreed : object ∉ released log := fun also => disjoint object handed object also rfl
    obtain ⟨before, after, cut⟩ := List.append_of_mem (mem_taken.mp handed)
    refine ⟨before, after, cut, ?_, ?_, ledger.settled before after object cut⟩
    · intro again
      rw [cut, taken_append, List.nodup_append] at takenNodup
      exact takenNodup.2.2 object (mem_taken.mpr again) object (mem_taken.mpr (by simp)) rfl
    · exact fun earlier => notFreed (mem_released.mpr (by rw [cut]; simp [earlier]))
  · right
    have notHanded : object ∉ taken log := fun also => disjoint object also object freed rfl
    obtain ⟨before, after, cut⟩ := List.append_of_mem (mem_released.mp freed)
    refine ⟨fun also => notHanded (mem_taken.mpr also), before, after, cut, ?_, ?_⟩
    · intro again
      rw [cut, released_append, List.nodup_append] at releasedNodup
      exact releasedNodup.2.2 object (mem_released.mpr again) object (mem_released.mpr (by simp)) rfl
    · intro again
      rw [cut, released_append, List.nodup_append] at releasedNodup
      have second : (object :: released after).Nodup := releasedNodup.2.1
      exact (List.nodup_cons.mp second).1 (mem_released.mpr again)

end Ownership
