/-
This file reasons about runs in which the world keeps to what is assumed of it. An
assumption is a condition on states that is not regained once it is lost, such as "no
call has failed so far". Under an assumption a computation meets its specification
when every run either ends with a value that the specification allows or loses the
assumption on the way. So nothing has to be shown of a run once something outside went
wrong, but an exit has to be traced back to such a thing.
-/

import MarpaWrapper.Effects

namespace Effects

variable {ε σ α β γ : Type}

/-- `program` does not regain the assumption `fine`. From a state where `fine` and `before` hold, it
ends with a value where `after` holds, or it loses the assumption. -/
structure Assuming (fine before : σ → Prop) (program : EStateM ε σ α) (after : α → σ → Prop) :
    Prop where
  lost : Keeps (fun state => ¬ fine state) program
  meets : Triple (fun state => fine state ∧ before state) program
    (fun value state => fine state → after value state) fun _ state => ¬ fine state

section Assuming

variable {fine before before' : σ → Prop} {after after' : α → σ → Prop}
  {program : EStateM ε σ α}

/-- The final state has lost the assumption when the first one has. -/
theorem Assuming.unlost (assuming : Assuming fine before program after) {state : σ}
    (kept : fine (finalState (program state))) : fine state := by
  by_contra lost
  exact assuming.lost.finalState lost kept

/-- A run that keeps the assumption to its end ends with a value. -/
theorem Assuming.returns (assuming : Assuming fine before program after) {state : σ}
    (holds : before state) (kept : fine (finalState (program state))) :
    ∃ value next, program state = .ok value next ∧ after value next := by
  have outcome := assuming.meets state ⟨assuming.unlost kept, holds⟩
  cases run : program state with
  | ok value next =>
    rw [run] at outcome kept
    exact ⟨value, next, rfl, outcome kept⟩
  | error exit next =>
    rw [run] at outcome kept
    exact absurd kept outcome

theorem Assuming.consequence (assuming : Assuming fine before program after)
    (stronger : ∀ state, before' state → before state)
    (weaker : ∀ value state, after value state → after' value state) :
    Assuming fine before' program after' :=
  ⟨assuming.lost, assuming.meets.consequence (fun state holds => ⟨holds.1, stronger state holds.2⟩)
    (fun value state holds kept => weaker value state (holds kept)) fun _ _ lost => lost⟩

theorem Assuming.pure {value : α}
    (entails : ∀ state, fine state → before state → after value state) :
    Assuming fine before (pure value : EStateM ε σ α) after :=
  ⟨.pure value, .pure fun state holds _ => entails state holds.1 holds.2⟩

/-- An exit that is not reached with the assumption intact. -/
theorem Assuming.throw {exit : ε} (never : ∀ state, fine state → ¬ before state) :
    Assuming fine before (throw exit : EStateM ε σ α) after :=
  ⟨.throw exit, .throw fun state holds => absurd holds.2 (never state holds.1)⟩

theorem Assuming.ite {condition : Prop} [Decidable condition] {other : EStateM ε σ α}
    (positive : condition → Assuming fine before program after)
    (negative : ¬ condition → Assuming fine before other after) :
    Assuming fine before (if condition then program else other) after := by
  by_cases decided : condition
  · rw [if_pos decided]; exact positive decided
  · rw [if_neg decided]; exact negative decided

/-- The second part may rely on the assumption, since it does not regain it. -/
theorem Assuming.bind {between : β → σ → Prop} {first : EStateM ε σ β} {rest : β → EStateM ε σ α}
    (head : Assuming fine before first between)
    (tail : ∀ value, Assuming fine (between value) (rest value) after) :
    Assuming fine before (first >>= rest) after := by
  refine ⟨head.lost.bind fun value => (tail value).lost,
    head.meets.bind fun value state reached => ?_⟩
  by_cases kept : fine state
  · exact (tail value).meets state ⟨kept, reached kept⟩
  · have spoilt := (tail value).lost state kept
    cases run : rest value state with
    | ok result next =>
      rw [run] at spoilt
      exact fun kept' => absurd kept' spoilt
    | error exit next =>
      rw [run] at spoilt
      exact spoilt

/-- What is known of the runs that return with the assumption intact. -/
theorem Assuming.remembering (more : α → σ → Prop) (assuming : Assuming fine before program after)
    (returns : ∀ state value next, before state → fine next → program state = .ok value next →
      more value next) :
    Assuming fine before program fun value state => after value state ∧ more value state := by
  refine ⟨assuming.lost, fun state holds => ?_⟩
  have outcome := assuming.meets state holds
  cases run : program state with
  | ok value next =>
    rw [run] at outcome
    exact fun kept => ⟨outcome kept, returns state value next holds.2 kept run⟩
  | error exit next =>
    rw [run] at outcome
    exact outcome

/-- A fact that does not depend on the state. -/
theorem Assuming.knowing {fact : Prop} (lost : Keeps (fun state => ¬ fine state) program)
    (assuming : fact → Assuming fine before program after) :
    Assuming fine (fun state => fact ∧ before state) program after :=
  ⟨lost, fun state holds => (assuming holds.2.1).meets state ⟨holds.1, holds.2.2⟩⟩

/-- The invariant rule for a loop that counts up. -/
theorem Assuming.forEach_range {body : Nat → β → EStateM ε σ (Turn β γ)} {result : γ → σ → Prop}
    {count : Nat} (invariant : Nat → β → σ → Prop)
    (turn : ∀ index < count, ∀ frame, Assuming fine (invariant index frame) (body index frame)
      (AfterTurn (invariant (index + 1)) result)) (frame : β) :
    Assuming fine (invariant 0 frame) (Effects.forEach body (List.range count) frame)
      (AfterTurn (invariant count) result) := by
  have turns (left first : Nat) (last : first + left = count) (frame : β) :
      Assuming fine (invariant first frame) (Effects.forEach body (List.range' first left) frame)
        (AfterTurn (invariant count) result) := by
    induction left generalizing first frame with
    | zero => exact .pure fun _ _ holds => by rwa [← last]
    | succ left inductionHypothesis =>
      refine (turn first (by omega) frame).bind fun outcome => ?_
      cases outcome with
      | next following => exact inductionHypothesis (first + 1) (by omega) following
      | done value => exact .pure fun _ _ holds => holds
  rw [List.range_eq_range']
  exact turns count 0 (Nat.zero_add _) frame

/-- The invariant rule with a variant. The invariant says how many turns are left at most. -/
theorem Assuming.loop_ends {exhausted : ε} {body : β → EStateM ε σ (Turn β γ)}
    {result : γ → σ → Prop} (invariant : Nat → β → σ → Prop)
    (turn : ∀ left frame, Assuming fine (invariant left frame) (body frame)
      (AfterTurn (fun following state => ∃ less < left, invariant less following state) result))
    {fuel : Nat} (left : Nat) (enough : left < fuel) (frame : β) :
    Assuming fine (invariant left frame) (Effects.loop exhausted body fuel frame) result := by
  induction fuel generalizing left frame with
  | zero => exact absurd enough (Nat.not_lt_zero _)
  | succ fuel inductionHypothesis =>
    refine (turn left frame).bind fun outcome => ?_
    cases outcome with
    | done value => exact .pure fun _ _ holds => holds
    | next following =>
      refine ⟨.loop (fun frame => (turn left frame).lost) fuel following, ?_⟩
      rintro state ⟨kept, less, fewer, holds⟩
      exact (inductionHypothesis less (Nat.lt_of_lt_of_le fewer (Nat.le_of_lt_succ enough))
        following).meets state ⟨kept, holds⟩

end Assuming

end Effects
