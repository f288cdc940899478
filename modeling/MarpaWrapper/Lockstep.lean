/-
This file compares two runs. Two programs go in lockstep when they end alike from states
that are alike: both return, with values that are related, or both leave through the same
exit, and the states are alike again. What "alike" means is a relation between the two
states, so that what one run observes of its state can be kept apart from what it holds.

The rules follow the programs. Where both programs ask a question the answers have to be the
same, and where they choose a branch the conditions have to be. A loop goes in lockstep when
each of its turns does.
-/

import MarpaWrapper.Effects

namespace Effects

variable {ε σ τ α α' β β' γ γ' : Type}

/-! ### Outcomes -/

/-- Two outcomes are alike: two values that are related, or one exit. -/
inductive OutcomesAlike (alike : σ → τ → Prop) (related : α → α' → Prop) :
    EStateM.Result ε σ α → EStateM.Result ε τ α' → Prop
  | ok {value : α} {value' : α'} {state : σ} {state' : τ} (states : alike state state')
      (values : related value value') :
      OutcomesAlike alike related (.ok value state) (.ok value' state')
  | error {exit : ε} {state : σ} {state' : τ} (states : alike state state') :
      OutcomesAlike alike related (.error exit state) (.error exit state')

theorem OutcomesAlike.weaken {alike wider : σ → τ → Prop} {related loose : α → α' → Prop}
    {outcome : EStateM.Result ε σ α} {outcome' : EStateM.Result ε τ α'}
    (outcomes : OutcomesAlike alike related outcome outcome')
    (entails : ∀ state state', alike state state' → wider state state')
    (entailed : ∀ value value', related value value' → loose value value') :
    OutcomesAlike wider loose outcome outcome' := by
  cases outcomes with
  | ok states values => exact .ok (entails _ _ states) (entailed _ _ values)
  | error states => exact .error (entails _ _ states)

/-- Two turns of a loop are alike: both go on or both are done. -/
inductive TurnsAlike (following : β → β' → Prop) (results : γ → γ' → Prop) :
    Turn β γ → Turn β' γ' → Prop
  | next {frame : β} {frame' : β'} (frames : following frame frame') :
      TurnsAlike following results (.next frame) (.next frame')
  | done {result : γ} {result' : γ'} (values : results result result') :
      TurnsAlike following results (.done result) (.done result')

/-- Two computations both fail, with errors that are alike, or both have values that are. -/
inductive ExceptsAlike (errors : β → β' → Prop) (values : γ → γ' → Prop) :
    Except β γ → Except β' γ' → Prop
  | error {error : β} {error' : β'} (alike : errors error error') :
      ExceptsAlike errors values (.error error) (.error error')
  | ok {value : γ} {value' : γ'} (alike : values value value') :
      ExceptsAlike errors values (.ok value) (.ok value')

/-- Two programs end alike from states that are alike. -/
def Lockstep (alike : σ → τ → Prop) (first : EStateM ε σ α) (second : EStateM ε τ α')
    (related : α → α' → Prop) : Prop :=
  ∀ state state', alike state state' → OutcomesAlike alike related (first state) (second state')

/-! ### Rules -/

section Rules

variable {alike : σ → τ → Prop} {related : α → α' → Prop} {first : EStateM ε σ α}
  {second : EStateM ε τ α'}

theorem Lockstep.pure {value : α} {value' : α'} (values : related value value') :
    Lockstep alike (pure value : EStateM ε σ α) (pure value') related :=
  fun _ _ states => .ok states values

theorem Lockstep.throw (exit : ε) :
    Lockstep alike (throw exit : EStateM ε σ α) (throw exit : EStateM ε τ α') related :=
  fun _ _ states => .error states

theorem Lockstep.weaken (lockstep : Lockstep alike first second related)
    {wider : α → α' → Prop} (entails : ∀ value value', related value value' → wider value value') :
    Lockstep alike first second wider :=
  fun state state' states => (lockstep state state' states).weaken (fun _ _ states => states) entails

/-- What each program says of the values that it returns. -/
theorem Lockstep.returning (lockstep : Lockstep alike first second related)
    {holds : α → Prop} {holds' : α' → Prop}
    (returned : ∀ state value next, first state = .ok value next → holds value)
    (returned' : ∀ state value next, second state = .ok value next → holds' value) :
    Lockstep alike first second fun value value' =>
      related value value' ∧ holds value ∧ holds' value' := by
  intro state state' states
  have outcomes := lockstep state state' states
  generalize run : first state = outcome at outcomes ⊢
  generalize run' : second state' = outcome' at outcomes ⊢
  cases outcomes with
  | ok states values =>
    exact .ok states ⟨values, returned _ _ _ run, returned' _ _ _ run'⟩
  | error states => exact .error states

/-- The rest may rely on what relates the values so far. -/
theorem Lockstep.bind {between : β → β' → Prop} {head : EStateM ε σ β} {head' : EStateM ε τ β'}
    {rest : β → EStateM ε σ α} {rest' : β' → EStateM ε τ α'}
    (heads : Lockstep alike head head' between)
    (rests : ∀ value value', between value value' →
      Lockstep alike (rest value) (rest' value') related) :
    Lockstep alike (head >>= rest) (head' >>= rest') related := by
  intro state state' states
  have outcomes := heads state state' states
  rw [run_bind, run_bind]
  generalize head state = outcome at outcomes ⊢
  generalize head' state' = outcome' at outcomes ⊢
  cases outcomes with
  | ok states values => exact rests _ _ values _ _ states
  | error states => exact .error states

theorem Lockstep.ite {condition condition' : Prop} [Decidable condition] [Decidable condition']
    {other : EStateM ε σ α} {other' : EStateM ε τ α'} (same : condition ↔ condition')
    (positive : condition → condition' → Lockstep alike first second related)
    (negative : ¬ condition → ¬ condition' → Lockstep alike other other' related) :
    Lockstep alike (if condition then first else other) (if condition' then second else other')
      related := by
  by_cases decided : condition
  · rw [if_pos decided, if_pos (same.mp decided)]
    exact positive decided (same.mp decided)
  · rw [if_neg decided, if_neg fun holds => decided (same.mpr holds)]
    exact negative decided fun holds => decided (same.mpr holds)

/-- The frames after so many turns are related. -/
theorem Lockstep.forEach_range {body : Nat → β → EStateM ε σ (Turn β γ)}
    {body' : Nat → β' → EStateM ε τ (Turn β' γ')} {results : γ → γ' → Prop} {count : Nat}
    (following : Nat → β → β' → Prop)
    (turn : ∀ index < count, ∀ frame frame', following index frame frame' →
      Lockstep alike (body index frame) (body' index frame')
        (TurnsAlike (following (index + 1)) results))
    {frame : β} {frame' : β'} (frames : following 0 frame frame') :
    Lockstep alike (forEach body (List.range count) frame) (forEach body' (List.range count) frame')
      (TurnsAlike (following count) results) := by
  have turns (left start : Nat) (last : start + left = count) {frame : β} {frame' : β'}
      (frames : following start frame frame') :
      Lockstep alike (forEach body (List.range' start left) frame)
        (forEach body' (List.range' start left) frame') (TurnsAlike (following count) results) := by
    induction left generalizing start frame frame' with
    | zero => exact .pure (.next (by rwa [← last]))
    | succ left inductionHypothesis =>
      refine (turn start (by omega) frame frame' frames).bind fun outcome outcome' same => ?_
      cases same with
      | next frames => exact inductionHypothesis (start + 1) (by omega) frames
      | done values => exact .pure (.done values)
  rw [List.range_eq_range']
  exact turns count 0 (Nat.zero_add _) frames

/-- A loop whose turns go in lockstep uses the fuel in lockstep. -/
theorem Lockstep.loop {exhausted : ε} {body : β → EStateM ε σ (Turn β γ)}
    {body' : β' → EStateM ε τ (Turn β' γ')} {results : γ → γ' → Prop}
    (following : β → β' → Prop)
    (turn : ∀ frame frame', following frame frame' →
      Lockstep alike (body frame) (body' frame') (TurnsAlike following results))
    (fuel : Nat) {frame : β} {frame' : β'} (frames : following frame frame') :
    Lockstep alike (Effects.loop exhausted body fuel frame)
      (Effects.loop exhausted body' fuel frame') results := by
  induction fuel generalizing frame frame' with
  | zero => exact .throw exhausted
  | succ fuel inductionHypothesis =>
    refine (turn frame frame' frames).bind fun outcome outcome' same => ?_
    cases same with
    | next frames => exact inductionHypothesis frames
    | done values => exact .pure values

end Rules

/-! ### One program -/

/-- A program does not notice what sets two states apart: it goes in lockstep with itself. -/
def Oblivious (alike : σ → σ → Prop) (program : EStateM ε σ α) : Prop :=
  Lockstep alike program program Eq

section Oblivious

variable {alike : σ → σ → Prop} {program : EStateM ε σ α}

theorem Oblivious.pure (value : α) : Oblivious alike (pure value : EStateM ε σ α) :=
  Lockstep.pure rfl

theorem Oblivious.throw (exit : ε) : Oblivious alike (throw exit : EStateM ε σ α) :=
  Lockstep.throw exit

theorem Oblivious.bind {first : EStateM ε σ β} {rest : β → EStateM ε σ α}
    (head : Oblivious alike first) (tail : ∀ value, Oblivious alike (rest value)) :
    Oblivious alike (first >>= rest) :=
  Lockstep.bind head fun value _ same => same ▸ tail value

/-- The rest of two programs that begin with the same one. -/
theorem Oblivious.then {first : EStateM ε σ β} {rest : β → EStateM ε σ α}
    {rest' : β → EStateM ε σ α'} {related : α → α' → Prop} (head : Oblivious alike first)
    (tails : ∀ value, Lockstep alike (rest value) (rest' value) related) :
    Lockstep alike (first >>= rest) (first >>= rest') related :=
  Lockstep.bind head fun value _ same => same ▸ tails value

theorem Oblivious.ite {condition : Prop} [Decidable condition] {other : EStateM ε σ α}
    (positive : Oblivious alike program) (negative : Oblivious alike other) :
    Oblivious alike (if condition then program else other) :=
  Lockstep.ite Iff.rfl (fun _ _ => positive) fun _ _ => negative

theorem Oblivious.loop {exhausted : ε} {body : β → EStateM ε σ (Turn β γ)}
    (turn : ∀ frame, Oblivious alike (body frame)) (fuel : Nat) (frame : β) :
    Oblivious alike (Effects.loop exhausted body fuel frame) := by
  induction fuel generalizing frame with
  | zero => exact .throw exhausted
  | succ fuel inductionHypothesis =>
    refine (turn frame).bind fun outcome => ?_
    cases outcome with
    | next following => exact inductionHypothesis following
    | done result => exact .pure result

/-- Turns with the same outcome, from the same frame. -/
theorem Lockstep.forEach_same {items : List β'} {body body' : β' → β → EStateM ε σ (Turn β γ)}
    (turn : ∀ item frame, Lockstep alike (body item frame) (body' item frame) Eq) (frame : β) :
    Lockstep alike (Effects.forEach body items frame) (Effects.forEach body' items frame) Eq := by
  induction items generalizing frame with
  | nil => exact .pure rfl
  | cons item rest inductionHypothesis =>
    refine (turn item frame).bind ?_
    rintro outcome _ rfl
    cases outcome with
    | next following => exact inductionHypothesis following
    | done result => exact .pure rfl

theorem Oblivious.forEach {items : List β'} {body : β' → β → EStateM ε σ (Turn β γ)}
    (turn : ∀ item frame, Oblivious alike (body item frame)) (frame : β) :
    Oblivious alike (Effects.forEach body items frame) :=
  Lockstep.forEach_same turn frame

end Oblivious

end Effects
