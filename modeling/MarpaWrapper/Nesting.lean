/-
This file is about objects that are built on one another, level by level, and
released in the opposite order. An act creates an object on the ones that are
alive, uses one that is alive, uses the innermost one, or releases the innermost
one. A sequence of acts is allowed when every act is, and following it leaves the
objects that are alive at its end.

There is one object of a level at a time, no act names a level at which nothing
is alive, and a sequence that begins and ends with nothing alive releases what
it creates.
-/

import Mathlib

namespace Nesting

variable {α : Type}

/-- One act on objects that are nested by level. -/
inductive Act (α : Type) where
  | create (level : Nat) (object : α)
  | use (level : Nat)
  | useInnermost (level : Nat)
  | release (level : Nat) (object : α)
  deriving DecidableEq

section Following

variable [DecidableEq α]

/-- What is alive after an act, the innermost object first. Nothing when the act is not allowed. -/
def step (alive : List α) : Act α → Option (List α)
  | .create level object => if alive.length = level then some (object :: alive) else none
  | .use level => if level < alive.length then some alive else none
  | .useInnermost level => if alive.length = level + 1 then some alive else none
  | .release level object =>
    match alive with
    | [] => none
    | innermost :: rest => if rest.length = level ∧ innermost = object then some rest else none

/-- What is alive after a sequence of acts. -/
def follow : List (Act α) → List α → Option (List α)
  | [], alive => some alive
  | act :: rest, alive => (step alive act).bind (follow rest)

end Following

/-- The objects that are created, in order. -/
def created (acts : List (Act α)) : List α :=
  acts.filterMap fun
    | .create _ object => some object
    | _ => none

/-- The objects that are released, in order. -/
def released (acts : List (Act α)) : List α :=
  acts.filterMap fun
    | .release _ object => some object
    | _ => none

theorem created_append (first second : List (Act α)) :
    created (first ++ second) = created first ++ created second :=
  List.filterMap_append

/-! ### Following acts -/

variable [DecidableEq α] {acts : List (Act α)} {alive alive' alive'' : List α} {act : Act α}

theorem follow_append (first second : List (Act α)) (alive : List α) :
    follow (first ++ second) alive = (follow first alive).bind (follow second) := by
  induction first generalizing alive with
  | nil => rfl
  | cons act rest inductionHypothesis =>
    show (step alive act).bind _ = ((step alive act).bind _).bind _
    cases step alive act with
    | none => rfl
    | some next => exact inductionHypothesis next

/-- One act more. -/
theorem follow_snoc (followed : follow acts alive = some alive')
    (allowed : step alive' act = some alive'') : follow (acts ++ [act]) alive = some alive'' := by
  rw [follow_append, followed, Option.bind_some, follow, allowed]
  rfl

/-- What an act creates is alive or was released before it. -/
theorem step_balance (allowed : step alive act = some alive') :
    (created [act] ++ alive).Perm (released [act] ++ alive') := by
  cases act with
  | create level object =>
    simp only [step] at allowed
    split at allowed
    · cases allowed
      exact .refl _
    · cases allowed
  | use level =>
    simp only [step] at allowed
    split at allowed
    · cases allowed
      exact .refl _
    · cases allowed
  | useInnermost level =>
    simp only [step] at allowed
    split at allowed
    · cases allowed
      exact .refl _
    · cases allowed
  | release level object =>
    cases alive with
    | nil => cases allowed
    | cons innermost rest =>
      simp only [step] at allowed
      split at allowed
      · next same =>
        cases allowed
        rw [same.2]
        exact .refl _
      · cases allowed

/-- What was created is released or alive. -/
theorem follow_balance (followed : follow acts alive = some alive') :
    (created acts ++ alive).Perm (released acts ++ alive') := by
  induction acts generalizing alive with
  | nil =>
    cases followed
    exact .refl _
  | cons act rest inductionHypothesis =>
    obtain ⟨next, allowed, followed⟩ := Option.bind_eq_some_iff.mp followed
    have createdCons : created (act :: rest) = created [act] ++ created rest :=
      created_append [act] rest
    have releasedCons : released (act :: rest) = released [act] ++ released rest :=
      List.filterMap_append (l := [act])
    rw [createdCons, releasedCons]
    calc (created [act] ++ created rest ++ alive)
      _ |>.Perm (created rest ++ (created [act] ++ alive)) := by
          rw [List.append_assoc]
          exact List.perm_append_comm_assoc _ _ _
      _ |>.Perm (created rest ++ (released [act] ++ next)) := (step_balance allowed).append_left _
      _ |>.Perm (released [act] ++ (created rest ++ next)) := List.perm_append_comm_assoc _ _ _
      _ |>.Perm (released [act] ++ (released rest ++ alive')) :=
          (inductionHypothesis followed).append_left _
      _ |>.Perm (released [act] ++ released rest ++ alive') := by rw [List.append_assoc]

/-- Where nothing is alive at the beginning and at the end, every object is released once. -/
theorem released_once (followed : follow acts [] = some []) (distinct : (created acts).Nodup) :
    ∀ object ∈ created acts, (released acts).count object = 1 := by
  intro object member
  have balance := follow_balance followed
  rw [List.append_nil, List.append_nil] at balance
  rw [← balance.count_eq, List.count_eq_one_of_mem distinct member]

/-! ### A nest on another one -/

/-- The same act, a number of levels higher. -/
def Act.raise (levels : Nat) : Act α → Act α
  | .create level object => .create (level + levels) object
  | .use level => .use (level + levels)
  | .useInnermost level => .useInnermost (level + levels)
  | .release level object => .release (level + levels) object

/-- What is allowed on the ground is allowed on the objects of a nest, levels higher. -/
theorem step_raise {ground : List α} (allowed : step alive act = some alive') :
    step (alive ++ ground) (act.raise ground.length) = some (alive' ++ ground) := by
  cases act with
  | create level object =>
    simp only [step] at allowed
    split at allowed
    · next length =>
      cases allowed
      simp only [Act.raise, step, List.length_append, length, if_true, List.cons_append]
    · cases allowed
  | use level =>
    simp only [step] at allowed
    split at allowed
    · next below =>
      cases allowed
      exact if_pos (by rw [List.length_append]; exact Nat.add_lt_add_right below _)
    · cases allowed
  | useInnermost level =>
    simp only [step] at allowed
    split at allowed
    · next length =>
      cases allowed
      exact if_pos (by rw [List.length_append, length, Nat.add_right_comm])
    · cases allowed
  | release level object =>
    cases alive with
    | nil => cases allowed
    | cons innermost rest =>
      simp only [step] at allowed
      split at allowed
      · next same =>
        cases allowed
        exact if_pos ⟨List.length_append.trans (by rw [same.1]), same.2⟩
      · cases allowed

/-- Uses of objects that are alive leave everything as it is. -/
theorem follow_uses (uses : ∀ act ∈ acts, ∃ level < alive.length, act = .use level) :
    follow acts alive = some alive := by
  induction acts with
  | nil => rfl
  | cons act rest inductionHypothesis =>
    obtain ⟨level, below, rfl⟩ := uses act List.mem_cons_self
    show (step alive (.use level)).bind _ = _
    rw [step, if_pos below, Option.bind_some]
    exact inductionHypothesis fun act member => uses act (List.mem_cons_of_mem _ member)

/-- A record of which some items are acts on a nest, and the others use objects of the ground it
stands on. -/
theorem follow_above {ι : Type} {inner outer : ι → Option (Act α)} {ground : List α}
    {record : List ι}
    (raises : ∀ item ∈ record, ∀ act, inner item = some act →
      outer item = some (act.raise ground.length))
    (beside : ∀ item ∈ record, inner item = none → ∀ act, outer item = some act →
      ∃ level < ground.length, act = .use level)
    (followed : follow (record.filterMap inner) alive = some alive') :
    follow (record.filterMap outer) (alive ++ ground) = some (alive' ++ ground) := by
  induction record generalizing alive with
  | nil =>
    cases followed
    rfl
  | cons item rest inductionHypothesis =>
    have later {next : List α} (followed : follow (rest.filterMap inner) next = some alive') :
        follow (rest.filterMap outer) (next ++ ground) = some (alive' ++ ground) :=
      inductionHypothesis (fun item member => raises item (List.mem_cons_of_mem _ member))
        (fun item member => beside item (List.mem_cons_of_mem _ member)) followed
    cases below : inner item with
    | some act =>
      rw [List.filterMap_cons_some below] at followed
      obtain ⟨next, allowed, followed⟩ := Option.bind_eq_some_iff.mp followed
      rw [List.filterMap_cons_some (raises item List.mem_cons_self act below), follow,
        step_raise allowed]
      exact later followed
    | none =>
      rw [List.filterMap_cons_none below] at followed
      cases above : outer item with
      | none =>
        rw [List.filterMap_cons_none above]
        exact later followed
      | some act =>
        obtain ⟨level, deep, rfl⟩ := beside item List.mem_cons_self below act above
        have alone : level < (alive ++ ground).length := by
          rw [List.length_append]
          exact Nat.lt_add_left _ deep
        rw [List.filterMap_cons_some above, follow, step, if_pos alone]
        exact later followed

end Nesting
