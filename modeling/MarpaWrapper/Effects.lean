/-
This file is a small program logic for computations that carry a state and may
stop early. A computation is a term of `EStateM`: it ends with a value or with
an exit, and both outcomes keep the state. Loops whose number of turns the
program does not bound carry fuel, and a loop that runs out of fuel stops with
an exit of its own, so that "the loop ends" stays a statement one can prove.

Two kinds of rules are given. The `run` rules compute the outcome of one
computation from one state. The triple rules compose what holds before and
after, with one condition for the values and one for the exits.
-/

import Mathlib

namespace Effects

variable {ε σ α β γ : Type}

/-! ### Outcomes -/

/-- The state a computation ends in, whether it ends with a value or with an exit. -/
def finalState : EStateM.Result ε σ α → σ
  | .ok _ state => state
  | .error _ state => state

theorem run_pure (value : α) (state : σ) :
    (pure value : EStateM ε σ α) state = .ok value state := rfl

theorem run_get (state : σ) : (get : EStateM ε σ σ) state = .ok state state := rfl

theorem run_bind (program : EStateM ε σ α) (rest : α → EStateM ε σ β) (state : σ) :
    (program >>= rest) state =
      match program state with
      | .ok value next => rest value next
      | .error exit next => .error exit next := by
  show EStateM.bind program rest state = _
  unfold EStateM.bind
  cases program state <;> rfl

theorem run_bind_ok {program : EStateM ε σ α} {rest : α → EStateM ε σ β} {state next : σ}
    {value : α} (run : program state = .ok value next) :
    (program >>= rest) state = rest value next := by
  rw [run_bind, run]

theorem run_bind_error {program : EStateM ε σ α} {rest : α → EStateM ε σ β} {state next : σ}
    {exit : ε} (run : program state = .error exit next) :
    (program >>= rest) state = .error exit next := by
  rw [run_bind, run]

/-- A sequence that ends with a value passes through a value of its first part. -/
theorem run_bind_eq_ok {program : EStateM ε σ α} {rest : α → EStateM ε σ β} {state final : σ}
    {result : β} (run : (program >>= rest) state = .ok result final) :
    ∃ value next, program state = .ok value next ∧ rest value next = .ok result final := by
  rw [run_bind] at run
  cases first : program state with
  | ok value next => exact ⟨value, next, rfl, by rwa [first] at run⟩
  | error exit next => rw [first] at run; cases run

/-- `program` ends with a value, whatever the state. -/
def Completes (program : EStateM ε σ α) : Prop := ∀ state, ∃ value next, program state = .ok value next

theorem Completes.pure (value : α) : Completes (pure value : EStateM ε σ α) :=
  fun state => ⟨value, state, rfl⟩

theorem Completes.bind {first : EStateM ε σ α} {rest : α → EStateM ε σ β} (head : Completes first)
    (tail : ∀ value, Completes (rest value)) : Completes (first >>= rest) := by
  intro state
  obtain ⟨value, between, run⟩ := head state
  obtain ⟨result, final, run'⟩ := tail value between
  exact ⟨result, final, (run_bind_ok run).trans run'⟩

theorem Completes.ite {condition : Prop} [Decidable condition] {first second : EStateM ε σ α}
    (positive : Completes first) (negative : Completes second) :
    Completes (if condition then first else second) := by
  by_cases holds : condition
  · rwa [if_pos holds]
  · rwa [if_neg holds]

/-! ### Loops -/

/-- What one turn of a loop decides: go on from a new loop state, or leave with a result. -/
inductive Turn (β γ : Type) where
  | next (state : β)
  | done (result : γ)

/-- Repeat `body` until it is done. Every turn uses one unit of fuel, and a loop without fuel
stops with `exhausted`. -/
def loop (exhausted : ε) (body : β → EStateM ε σ (Turn β γ)) : Nat → β → EStateM ε σ γ
  | 0, _ => throw exhausted
  | fuel + 1, frame => do
    match ← body frame with
    | .next frame => loop exhausted body fuel frame
    | .done result => pure result

section Loop

variable {exhausted : ε} {body : β → EStateM ε σ (Turn β γ)} {frame following : β}
  {state state' : σ}

theorem loop_zero : loop exhausted body 0 frame state = .error exhausted state := rfl

theorem loop_next {fuel : Nat} (turn : body frame state = .ok (.next following) state') :
    loop exhausted body (fuel + 1) frame state = loop exhausted body fuel following state' := by
  rw [loop, run_bind_ok turn]

theorem loop_done {fuel : Nat} {result : γ} (turn : body frame state = .ok (.done result) state') :
    loop exhausted body (fuel + 1) frame state = .ok result state' := by
  rw [loop, run_bind_ok turn]
  rfl

theorem loop_error {fuel : Nat} {exit : ε} (turn : body frame state = .error exit state') :
    loop exhausted body (fuel + 1) frame state = .error exit state' := by
  rw [loop, run_bind_error turn]

/-- A loop that ends with a value went through its first turn. -/
theorem loop_eq_ok {fuel : Nat} {result : γ}
    (run : loop exhausted body fuel frame state = .ok result state') :
    ∃ left outcome between, fuel = left + 1 ∧ body frame state = .ok outcome between ∧
      match outcome with
      | .next following => loop exhausted body left following between = .ok result state'
      | .done value => value = result ∧ between = state' := by
  cases fuel with
  | zero => cases run
  | succ left =>
    rw [loop] at run
    obtain ⟨outcome, between, turn, rest⟩ := run_bind_eq_ok run
    refine ⟨left, outcome, between, rfl, turn, ?_⟩
    cases outcome with
    | next following => exact rest
    | done value => cases rest; exact ⟨rfl, rfl⟩

/-- A loop that ends with a value ends with it when it has more fuel. -/
theorem loop_eq_ok_more {fuel more : Nat} {result : γ}
    (run : loop exhausted body fuel frame state = .ok result state') (enough : fuel ≤ more) :
    loop exhausted body more frame state = .ok result state' := by
  induction fuel generalizing frame state more with
  | zero => cases run
  | succ fuel inductionHypothesis =>
    obtain ⟨left, outcome, between, same, turn, rest⟩ := loop_eq_ok run
    obtain rfl := Nat.succ.inj same
    obtain ⟨more, rfl⟩ := Nat.exists_eq_add_of_le' (Nat.le_trans (Nat.succ_le_succ (Nat.zero_le _)) enough)
    cases outcome with
    | next following =>
      rw [loop_next turn]
      exact inductionHypothesis rest (Nat.le_of_succ_le_succ enough)
    | done value =>
      obtain ⟨rfl, rfl⟩ := rest
      exact loop_done turn

/-- A number of turns leads from one frame and state to another. -/
def LeadsIn (exhausted : ε) (body : β → EStateM ε σ (Turn β γ)) (turns : Nat) (frame : β)
    (state : σ) (frame' : β) (state' : σ) : Prop :=
  ∀ fuel, loop exhausted body (turns + fuel) frame state = loop exhausted body fuel frame' state'

theorem LeadsIn.refl (frame : β) (state : σ) :
    LeadsIn exhausted body 0 frame state frame state :=
  fun fuel => by rw [Nat.zero_add]

theorem LeadsIn.single (turn : body frame state = .ok (.next following) state') :
    LeadsIn exhausted body 1 frame state following state' :=
  fun fuel => by rw [Nat.add_comm, loop_next turn]

theorem LeadsIn.trans {turns turns' : Nat} {last : β} {state'' : σ}
    (first : LeadsIn exhausted body turns frame state following state')
    (second : LeadsIn exhausted body turns' following state' last state'') :
    LeadsIn exhausted body (turns + turns') frame state last state'' :=
  fun fuel => by rw [Nat.add_assoc, first, second]

/-- With more fuel than turns, a loop that is led to its end returns. -/
theorem LeadsIn.returns {turns fuel : Nat} {result : γ} {state'' : σ}
    (leads : LeadsIn exhausted body turns frame state following state')
    (turn : body following state' = .ok (.done result) state'') (enough : turns < fuel) :
    loop exhausted body fuel frame state = .ok result state'' := by
  obtain ⟨left, rfl⟩ : ∃ left, fuel = turns + (left + 1) := ⟨fuel - turns - 1, by omega⟩
  rw [leads, loop_done turn]

/-- The frames and states that a loop comes to. -/
inductive Visits (body : β → EStateM ε σ (Turn β γ)) (frame : β) (state : σ) : β → σ → Prop
  | start : Visits body frame state frame state
  | turn {last : β} {between : σ} {following : β} {state' : σ}
    (visited : Visits body frame state last between)
    (turned : body last between = .ok (.next following) state') :
    Visits body frame state following state'

/-- What is visited after the first turn. -/
theorem Visits.behind {last : β} {final : σ} (turned : body frame state = .ok (.next following) state')
    (visited : Visits body following state' last final) : Visits body frame state last final := by
  induction visited with
  | start => exact .turn .start turned
  | turn _ later inductionHypothesis => exact .turn inductionHypothesis later

/-- A loop that returns made its last turn in a frame that it came to. -/
theorem loop_eq_ok_visits {fuel : Nat} {result : γ}
    (run : loop exhausted body fuel frame state = .ok result state') :
    ∃ last between, Visits body frame state last between ∧
      body last between = .ok (.done result) state' := by
  induction fuel generalizing frame state with
  | zero => cases run
  | succ fuel inductionHypothesis =>
    obtain ⟨left, outcome, between, same, turn, rest⟩ := loop_eq_ok run
    obtain rfl := Nat.succ.inj same
    cases outcome with
    | next following =>
      obtain ⟨last, final, visited, done⟩ := inductionHypothesis rest
      exact ⟨last, final, .behind turn visited, done⟩
    | done value =>
      obtain ⟨rfl, rfl⟩ := rest
      exact ⟨frame, state, .start, turn⟩

/-- A loop made as many turns as it had fuel for, or it came to a frame that it did not go on
from. -/
theorem loop_stages (exhausted : ε) (body : β → EStateM ε σ (Turn β γ)) (frame : β) (state : σ)
    (fuel : Nat) :
    (∃ last final, Visits body frame state last final ∧
      LeadsIn exhausted body fuel frame state last final) ∨
    ∃ turns last final, turns < fuel ∧ Visits body frame state last final ∧
      LeadsIn exhausted body turns frame state last final ∧
      ∀ following state', body last final ≠ .ok (.next following) state' := by
  induction fuel with
  | zero => exact .inl ⟨frame, state, .start, .refl frame state⟩
  | succ fuel inductionHypothesis =>
    rcases inductionHypothesis with ⟨last, final, visited, leads⟩ |
      ⟨turns, last, final, fewer, visited, leads, ends⟩
    · by_cases further : ∃ following state', body last final = .ok (.next following) state'
      · obtain ⟨following, state', turn⟩ := further
        exact .inl ⟨following, state', .turn visited turn, leads.trans (.single turn)⟩
      · exact .inr ⟨fuel, last, final, Nat.lt_succ_self fuel, visited, leads,
          fun following state' turn => further ⟨following, state', turn⟩⟩
    · exact .inr ⟨turns, last, final, Nat.lt_succ_of_lt fewer, visited, leads, ends⟩

end Loop

/-- Go through a list until `body` is done. -/
def forEach (body : α → β → EStateM ε σ (Turn β γ)) : List α → β → EStateM ε σ (Turn β γ)
  | [], frame => pure (.next frame)
  | item :: rest, frame => do
    match ← body item frame with
    | .next frame => forEach body rest frame
    | .done result => pure (.done result)

/-! ### Triples -/

/-- From a state where `before` holds, `program` ends with a value where `after` holds or with
an exit where `leaving` holds. -/
def Triple (before : σ → Prop) (program : EStateM ε σ α) (after : α → σ → Prop)
    (leaving : ε → σ → Prop) : Prop :=
  ∀ state, before state →
    match program state with
    | .ok value next => after value next
    | .error exit next => leaving exit next

section Triple

variable {before before' : σ → Prop} {after after' : α → σ → Prop}
  {leaving leaving' : ε → σ → Prop} {program : EStateM ε σ α}

theorem Triple.ok (triple : Triple before program after leaving) {state next : σ} {value : α}
    (holds : before state) (run : program state = .ok value next) : after value next := by
  have outcome := triple state holds
  rwa [run] at outcome

theorem Triple.error (triple : Triple before program after leaving) {state next : σ} {exit : ε}
    (holds : before state) (run : program state = .error exit next) : leaving exit next := by
  have outcome := triple state holds
  rwa [run] at outcome

theorem Triple.consequence (triple : Triple before program after leaving)
    (stronger : ∀ state, before' state → before state)
    (weaker : ∀ value state, after value state → after' value state)
    (weakerExit : ∀ exit state, leaving exit state → leaving' exit state) :
    Triple before' program after' leaving' := by
  intro state holds
  have outcome := triple state (stronger state holds)
  cases run : program state with
  | ok value next => rw [run] at outcome; exact weaker value next outcome
  | error exit next => rw [run] at outcome; exact weakerExit exit next outcome

theorem Triple.pure {value : α} (entails : ∀ state, before state → after value state) :
    Triple before (pure value : EStateM ε σ α) after leaving :=
  fun state holds => entails state holds

theorem Triple.throw {exit : ε} (entails : ∀ state, before state → leaving exit state) :
    Triple before (throw exit : EStateM ε σ α) after leaving :=
  fun state holds => entails state holds

theorem Triple.bind {between : β → σ → Prop} {first : EStateM ε σ β} {rest : β → EStateM ε σ α}
    (head : Triple before first between leaving)
    (tail : ∀ value, Triple (between value) (rest value) after leaving) :
    Triple before (first >>= rest) after leaving := by
  intro state holds
  have outcome := head state holds
  rw [run_bind]
  cases run : first state with
  | ok value next => rw [run] at outcome; exact tail value next outcome
  | error exit next => rw [run] at outcome; exact outcome

/-- The same, with the condition between the parts given. -/
theorem Triple.through (between : β → σ → Prop) {first : EStateM ε σ β} {rest : β → EStateM ε σ α}
    (head : Triple before first between leaving)
    (tail : ∀ value, Triple (between value) (rest value) after leaving) :
    Triple before (first >>= rest) after leaving :=
  head.bind tail

theorem Triple.ite {condition : Prop} [Decidable condition] {other : EStateM ε σ α}
    (positive : condition → Triple before program after leaving)
    (negative : ¬ condition → Triple before other after leaving) :
    Triple before (if condition then program else other) after leaving := by
  by_cases decided : condition
  · rw [if_pos decided]; exact positive decided
  · rw [if_neg decided]; exact negative decided

/-- What does not depend on the state holds on. -/
theorem Triple.under {fact : Prop} (triple : Triple before program after leaving) :
    Triple (fun state => fact ∧ before state) program (fun value state => fact ∧ after value state)
      leaving := by
  intro state holds
  have outcome := triple state holds.2
  cases run : program state with
  | ok value next => rw [run] at outcome; exact ⟨holds.1, outcome⟩
  | error exit next => rw [run] at outcome; exact outcome

/-- What is known of every value that the program returns. -/
theorem Triple.returning {fact : α → Prop} (triple : Triple before program after leaving)
    (returns : ∀ state value next, before state → program state = .ok value next → fact value) :
    Triple before program (fun value state => fact value ∧ after value state) leaving := by
  intro state holds
  have outcome := triple state holds
  cases run : program state with
  | ok value next => rw [run] at outcome; exact ⟨returns state value next holds run, outcome⟩
  | error exit next => rw [run] at outcome; exact outcome

/-- What is known of the runs that return, with nothing about the others. -/
theorem Triple.of_return (returns : ∀ state value next, before state →
    program state = .ok value next → after value next) :
    Triple before program after fun _ _ => True := by
  intro state holds
  cases run : program state with
  | ok value next => exact returns state value next holds run
  | error exit next => trivial

/-- What holds after a turn: one condition for going on and one for the result of the loop. -/
def AfterTurn (next : β → σ → Prop) (done : γ → σ → Prop) : Turn β γ → σ → Prop
  | .next following => next following
  | .done result => done result

/-- The invariant rule. One turn that starts with the invariant ends with the invariant of the
next turn or with the condition of the loop's result. -/
theorem Triple.loop {exhausted : ε} {body : β → EStateM ε σ (Turn β γ)} {result : γ → σ → Prop}
    (invariant : β → σ → Prop)
    (turn : ∀ frame, Triple (invariant frame) (body frame) (AfterTurn invariant result) leaving)
    (stopped : ∀ frame state, invariant frame state → leaving exhausted state)
    (fuel : Nat) (frame : β) :
    Triple (invariant frame) (loop exhausted body fuel frame) result leaving := by
  induction fuel generalizing frame with
  | zero => exact Triple.throw fun state holds => stopped frame state holds
  | succ fuel inductionHypothesis =>
    refine Triple.bind (turn frame) fun outcome => ?_
    cases outcome with
    | next following => exact inductionHypothesis following
    | done value => exact Triple.pure fun _ holds => holds

/-- The invariant rule with a variant. The invariant says how many turns are left at most, so a loop
with more fuel than that does not stop for want of it. -/
theorem Triple.loop_ends {exhausted : ε} {body : β → EStateM ε σ (Turn β γ)}
    {result : γ → σ → Prop} (invariant : Nat → β → σ → Prop)
    (turn : ∀ left frame, Triple (invariant left frame) (body frame)
      (AfterTurn (fun following state => ∃ less < left, invariant less following state) result)
      leaving)
    {fuel : Nat} (left : Nat) (enough : left < fuel) (frame : β) :
    Triple (invariant left frame) (Effects.loop exhausted body fuel frame) result leaving := by
  induction fuel generalizing left frame with
  | zero => exact absurd enough (Nat.not_lt_zero _)
  | succ fuel inductionHypothesis =>
    refine Triple.bind (turn left frame) fun outcome => ?_
    cases outcome with
    | next following =>
      rintro state ⟨less, fewer, holds⟩
      exact inductionHypothesis less (Nat.lt_of_lt_of_le fewer (Nat.le_of_lt_succ enough)) following
        state holds
    | done value => exact Triple.pure fun _ holds => holds

/-- The invariant rule with a counter. The invariant says how many turns were made, and a loop that
stops for want of fuel made as many as it had fuel for. -/
theorem Triple.loop_counts {exhausted : ε} {body : β → EStateM ε σ (Turn β γ)}
    {result : γ → σ → Prop} (invariant : Nat → β → σ → Prop)
    (turn : ∀ count frame, Triple (invariant count frame) (body frame)
      (AfterTurn (invariant (count + 1)) result) leaving)
    {fuel count : Nat}
    (stopped : ∀ frame state, invariant (count + fuel) frame state → leaving exhausted state)
    (frame : β) :
    Triple (invariant count frame) (Effects.loop exhausted body fuel frame) result leaving := by
  induction fuel generalizing count frame with
  | zero => exact Triple.throw fun state holds => stopped frame state holds
  | succ fuel inductionHypothesis =>
    refine Triple.bind (turn count frame) fun outcome => ?_
    cases outcome with
    | next following =>
      exact inductionHypothesis (fun frame state holds => stopped frame state
        (by rwa [Nat.add_right_comm, Nat.add_assoc] at holds)) following
    | done value => exact Triple.pure fun _ holds => holds

/-- The invariant rule for a list. The invariant speaks of the items that are left. -/
theorem Triple.forEach {body : α → β → EStateM ε σ (Turn β γ)} {result : γ → σ → Prop}
    (invariant : List α → β → σ → Prop)
    (turn : ∀ item rest frame, Triple (invariant (item :: rest) frame) (body item frame)
      (AfterTurn (invariant rest) result) leaving)
    (items : List α) (frame : β) :
    Triple (invariant items frame) (Effects.forEach body items frame)
      (AfterTurn (invariant []) result) leaving := by
  induction items generalizing frame with
  | nil => exact Triple.pure fun _ holds => holds
  | cons item rest inductionHypothesis =>
    refine Triple.bind (turn item rest frame) fun outcome => ?_
    cases outcome with
    | next following => exact inductionHypothesis following
    | done value => exact Triple.pure fun _ holds => holds

/-- The invariant rule for a loop that counts up. The invariant speaks of the counter. -/
theorem Triple.forEach_range {body : Nat → β → EStateM ε σ (Turn β γ)} {result : γ → σ → Prop}
    {count : Nat} (invariant : Nat → β → σ → Prop)
    (turn : ∀ index < count, ∀ frame, Triple (invariant index frame) (body index frame)
      (AfterTurn (invariant (index + 1)) result) leaving) (frame : β) :
    Triple (invariant 0 frame) (Effects.forEach body (List.range count) frame)
      (AfterTurn (invariant count) result) leaving := by
  have turns (left first : Nat) (last : first + left = count) (frame : β) :
      Triple (invariant first frame) (Effects.forEach body (List.range' first left) frame)
        (AfterTurn (invariant count) result) leaving := by
    induction left generalizing first frame with
    | zero => exact Triple.pure fun _ holds => by rwa [← last]
    | succ left inductionHypothesis =>
      refine Triple.bind (turn first (by omega) frame) fun outcome => ?_
      cases outcome with
      | next following => exact inductionHypothesis (first + 1) (by omega) following
      | done value => exact Triple.pure fun _ holds => holds
  rw [List.range_eq_range']
  exact turns count 0 (Nat.zero_add _) frame

/-- The rules for the runs that return. -/
theorem forEach_return {body : α → β → EStateM ε σ (Turn β γ)} {result : γ → σ → Prop}
    (invariant : List α → β → σ → Prop)
    (turn : ∀ item rest frame state outcome next, invariant (item :: rest) frame state →
      body item frame state = .ok outcome next → AfterTurn (invariant rest) result outcome next)
    {items : List α} {frame : β} {state final : σ} {outcome : Turn β γ}
    (holds : invariant items frame state)
    (run : forEach body items frame state = .ok outcome final) :
    AfterTurn (invariant []) result outcome final :=
  (Triple.forEach invariant (fun item rest frame => .of_return (turn item rest frame)) items
    frame).ok holds run

theorem forEach_range_return {body : Nat → β → EStateM ε σ (Turn β γ)} {result : γ → σ → Prop}
    {count : Nat} (invariant : Nat → β → σ → Prop)
    (turn : ∀ index frame state outcome next, index < count → invariant index frame state →
      body index frame state = .ok outcome next →
      AfterTurn (invariant (index + 1)) result outcome next)
    {frame : β} {state final : σ} {outcome : Turn β γ} (holds : invariant 0 frame state)
    (run : forEach body (List.range count) frame state = .ok outcome final) :
    AfterTurn (invariant count) result outcome final :=
  (Triple.forEach_range invariant (fun index below frame =>
    .of_return fun state outcome next => turn index frame state outcome next below) frame).ok
      holds run

end Triple

/-! ### Invariants -/

/-- `program` keeps `invariant`, whether it ends with a value or with an exit. -/
def Keeps (invariant : σ → Prop) (program : EStateM ε σ α) : Prop :=
  Triple invariant program (fun _ => invariant) fun _ => invariant

section Keeps

variable {invariant : σ → Prop} {program other : EStateM ε σ α}

/-- What holds after both outcomes holds of the final state. -/
theorem Triple.finalState {before : σ → Prop}
    (triple : Triple before program (fun _ => invariant) fun _ => invariant) {state : σ}
    (holds : before state) : invariant (finalState (program state)) := by
  have outcome := triple state holds
  cases run : program state <;> rw [run] at outcome <;> exact outcome

theorem Keeps.finalState (keeps : Keeps invariant program) {state : σ} (holds : invariant state) :
    invariant (finalState (program state)) :=
  Triple.finalState keeps holds

/-- What holds of every final state is kept, whichever way the program ends. -/
theorem Keeps.of_finalState
    (holds : ∀ state, invariant state → invariant (Effects.finalState (program state))) :
    Keeps invariant program := by
  intro state before
  have after := holds state before
  cases run : program state <;> rw [run] at after <;> exact after

/-- What does not depend on the state holds on. -/
theorem Keeps.under {fact : Prop} (keeps : Keeps invariant program) :
    Triple (fun state => fact ∧ invariant state) program (fun _ state => fact ∧ invariant state)
      fun _ => invariant :=
  Triple.under keeps

theorem Keeps.pure (value : α) : Keeps invariant (pure value : EStateM ε σ α) :=
  fun _ holds => holds

theorem Keeps.throw (exit : ε) : Keeps invariant (throw exit : EStateM ε σ α) :=
  fun _ holds => holds

theorem Keeps.bind {first : EStateM ε σ β} {rest : β → EStateM ε σ α}
    (head : Keeps invariant first) (tail : ∀ value, Keeps invariant (rest value)) :
    Keeps invariant (first >>= rest) :=
  Triple.bind head tail

theorem Keeps.ite {condition : Prop} [Decidable condition] (positive : Keeps invariant program)
    (negative : Keeps invariant other) :
    Keeps invariant (if condition then program else other) :=
  Triple.ite (fun _ => positive) fun _ => negative

theorem Keeps.loop {exhausted : ε} {body : β → EStateM ε σ (Turn β γ)}
    (turn : ∀ frame, Keeps invariant (body frame)) (fuel : Nat) (frame : β) :
    Keeps invariant (loop exhausted body fuel frame) := by
  refine Triple.loop (fun _ => invariant) (fun frame => ?_) (fun _ _ holds => holds) fuel frame
  refine (turn frame).consequence (fun _ holds => holds) (fun outcome _ holds => ?_)
    fun _ _ holds => holds
  cases outcome <;> exact holds

theorem Keeps.forEach {body : α → β → EStateM ε σ (Turn β γ)}
    (turn : ∀ item frame, Keeps invariant (body item frame)) (items : List α) (frame : β) :
    Keeps invariant (forEach body items frame) := by
  have turns : Triple invariant (Effects.forEach body items frame)
      (AfterTurn (fun _ => invariant) fun _ => invariant) fun _ => invariant := by
    refine Triple.forEach (fun _ _ => invariant) (fun item _ frame => ?_) items frame
    refine (turn item frame).consequence (fun _ holds => holds) (fun outcome _ holds => ?_)
      fun _ _ holds => holds
    cases outcome <;> exact holds
  refine turns.consequence (fun _ holds => holds) (fun outcome _ holds => ?_)
    fun _ _ holds => holds
  cases outcome <;> exact holds

end Keeps

/-! ### Exits -/

/-- When `program` leaves with an exit, it is one of those. -/
def Exits (permitted : ε → Prop) (program : EStateM ε σ α) : Prop :=
  Triple (fun _ => True) program (fun _ _ => True) fun exit _ => permitted exit

section Exits

variable {permitted : ε → Prop} {program other : EStateM ε σ α}

theorem Exits.pure (value : α) : Exits permitted (pure value : EStateM ε σ α) :=
  fun _ _ => trivial

theorem Exits.throw {exit : ε} (allowed : permitted exit) :
    Exits permitted (throw exit : EStateM ε σ α) :=
  fun _ _ => allowed

theorem Exits.bind {first : EStateM ε σ β} {rest : β → EStateM ε σ α}
    (head : Exits permitted first) (tail : ∀ value, Exits permitted (rest value)) :
    Exits permitted (first >>= rest) :=
  Triple.bind head tail

theorem Exits.ite {condition : Prop} [Decidable condition] (positive : Exits permitted program)
    (negative : Exits permitted other) :
    Exits permitted (if condition then program else other) :=
  Triple.ite (fun _ => positive) fun _ => negative

theorem Exits.forEach {body : α → β → EStateM ε σ (Turn β γ)}
    (turn : ∀ item frame, Exits permitted (body item frame)) (items : List α) (frame : β) :
    Exits permitted (forEach body items frame) := by
  have turns : Triple (fun _ => True) (Effects.forEach body items frame)
      (AfterTurn (fun _ _ => True) fun _ _ => True) fun exit _ => permitted exit :=
    Triple.forEach (fun _ _ _ => True) (fun item _ frame => (turn item frame).consequence
      (fun _ holds => holds) (fun outcome _ _ => by cases outcome <;> trivial)
      fun _ _ allowed => allowed) items frame
  exact turns.consequence (fun _ holds => holds) (fun _ _ _ => trivial) fun _ _ allowed => allowed

end Exits

/-! ### Sequences of calls -/

section Calls

variable {κ μ : Type} (step : κ → μ → EStateM ε σ (β × μ))

/-- Make one call after the other on a machine, and collect the answers. -/
def runCalls : List κ → μ → EStateM ε σ (List β × μ)
  | [], machine => pure ([], machine)
  | call :: rest, machine => do
    let (answer, machine) ← step call machine
    let (answers, machine) ← runCalls rest machine
    pure (answer :: answers, machine)

/-- `condition` holds of the machine before each call that the sequence comes to. -/
def Throughout (condition : κ → μ → Prop) : List κ → μ → σ → Prop
  | [], _, _ => True
  | call :: rest, machine, state => condition call machine ∧
    ∀ answer machine' state', step call machine state = .ok (answer, machine') state' →
      Throughout condition rest machine' state'

variable {step} {call : κ} {rest : List κ} {machine machine' : μ} {state state' state'' : σ}

theorem runCalls_cons {answer : β}
    (head : step call machine state = .ok (answer, machine') state') :
    runCalls step (call :: rest) machine state =
      match runCalls step rest machine' state' with
      | .ok (answers, final) state'' => .ok (answer :: answers, final) state''
      | .error exit state'' => .error exit state'' := by
  rw [runCalls, run_bind_ok head]
  simp only
  rw [run_bind]
  cases runCalls step rest machine' state' <;> rfl

/-- A sequence that returns went through a return of its first call. -/
theorem runCalls_cons_eq_ok {answers : List β} {final : μ}
    (run : runCalls step (call :: rest) machine state = .ok (answers, final) state'') :
    ∃ answer others machine' state', step call machine state = .ok (answer, machine') state' ∧
      runCalls step rest machine' state' = .ok (others, final) state'' ∧
      answers = answer :: others := by
  rw [runCalls] at run
  obtain ⟨⟨answer, machine'⟩, state', head, run⟩ := run_bind_eq_ok run
  obtain ⟨⟨others, _⟩, _, tail, run⟩ := run_bind_eq_ok run
  cases run
  exact ⟨answer, others, machine', state', head, tail, rfl⟩

/-- Calls behind others. -/
theorem runCalls_append {calls more : List κ} {answers others : List β} {final : μ}
    (head : runCalls step calls machine state = .ok (answers, machine') state')
    (tail : runCalls step more machine' state' = .ok (others, final) state'') :
    runCalls step (calls ++ more) machine state = .ok (answers ++ others, final) state'' := by
  induction calls generalizing machine state answers with
  | nil => cases head; exact tail
  | cons call rest inductionHypothesis =>
    obtain ⟨answer, following, between, next, first, last, rfl⟩ := runCalls_cons_eq_ok head
    rw [List.cons_append, runCalls_cons first, inductionHypothesis last]
    rfl

/-- What every call that returns keeps holds after a sequence that returns. -/
theorem runCalls_keeps (invariant : μ → σ → Prop)
    (kept : ∀ call machine state answer machine' state', invariant machine state →
      step call machine state = .ok (answer, machine') state' → invariant machine' state')
    {calls : List κ} {answers : List β} (holds : invariant machine state)
    (run : runCalls step calls machine state = .ok (answers, machine') state') :
    invariant machine' state' := by
  induction calls generalizing machine state answers with
  | nil => cases run; exact holds
  | cons call rest inductionHypothesis =>
    obtain ⟨answer, others, between, state'', head, tail, -⟩ := runCalls_cons_eq_ok run
    exact inductionHypothesis (kept call machine state answer between state'' holds head) tail

end Calls

end Effects
