/-
This file gives the proof rules of the monad in which the body of
`marpaWrapper_vb` is written. A triple for the body has one condition for going
on and one for the end label; a fault needs no condition, because the function
does not return then.

The rules of the walk say how the functions of the body follow from their parts,
for any invariant: an invariant that each part keeps is kept by the steps of a
valuator, by the trees and by the body, and what the end label makes of it is what
holds when the function returns.
-/

import MarpaWrapper.Valuation

namespace MarpaWrapper

open Effects

variable {V α β : Type}

/-- The condition of an exit: `settled` where the body goes to the end label. -/
def AtExit (settled : VbState V → Prop) : VbExit → VbState V → Prop
  | .endLabel, state => settled state
  | .fault _, _ => True

/-- A computation on the world that returns leaves the locals alone. -/
theorem onWorld_run {program : Exec V α} {locals : VbLocals V} {world world' : World V} {value : α}
    (run : program world = .ok value world') :
    onWorld program ⟨locals, world⟩ = .ok value ⟨locals, world'⟩ := by
  unfold onWorld
  simp only [run]

/-- Without a stack the answer is zero. -/
theorem onStack_none {program : GenericStack V → Exec V (α × GenericStack V)} {zero : α}
    {locals : VbLocals V} {world : World V} (missing : locals.genericStackp = none) :
    onStack program zero ⟨locals, world⟩ = .ok zero ⟨locals, world⟩ := by
  have read : readLocals ⟨locals, world⟩ = .ok locals ⟨locals, world⟩ := rfl
  rw [onStack, run_bind_ok read]
  simp only [missing]
  rfl

/-- With a stack the function is called on it, and its result is the stack from then on. -/
theorem onStack_some {program : GenericStack V → Exec V (α × GenericStack V)} {zero : α}
    {locals : VbLocals V} {stack : GenericStack V} {world : World V}
    (designated : locals.genericStackp = some stack) :
    onStack program zero ⟨locals, world⟩ =
      (do
        let (value, stack) ← onWorld (program stack)
        assign fun locals => { locals with genericStackp := some stack }
        pure value : Vb V α) ⟨locals, world⟩ := by
  have read : readLocals ⟨locals, world⟩ = .ok locals ⟨locals, world⟩ := rfl
  rw [onStack, run_bind_ok read]
  simp only [designated]

/-- A call of a stack function that returns, on the stack that the local designates. -/
theorem onStack_run {program : GenericStack V → Exec V (α × GenericStack V)} {zero : α}
    {locals : VbLocals V} {stack stack' : GenericStack V} {world world' : World V} {value : α}
    (designated : locals.genericStackp = some stack)
    (run : program stack world = .ok (value, stack') world') :
    onStack program zero ⟨locals, world⟩ =
      .ok value ⟨{ locals with genericStackp := some stack' }, world'⟩ := by
  rw [onStack_some designated, run_bind_ok (onWorld_run run)]
  rfl

section Rules

variable {before : VbState V → Prop} {after : α → VbState V → Prop} {settled : VbState V → Prop}
  {leaving : VbExit → VbState V → Prop}

theorem onWorld_triple {program : Exec V α}
    (step : ∀ locals world value world', before ⟨locals, world⟩ →
      program world = .ok value world' → after value ⟨locals, world'⟩) :
    Triple before (onWorld program) after (AtExit settled) := by
  rintro ⟨locals, world⟩ holds
  unfold onWorld
  cases run : program world with
  | ok value world' => exact step locals world value world' holds run
  | error fault world' => trivial

theorem assign_triple {change : VbLocals V → VbLocals V} {after : Unit → VbState V → Prop}
    (step : ∀ locals world, before ⟨locals, world⟩ → after () ⟨change locals, world⟩) :
    Triple before (assign change) after leaving :=
  fun state holds => step state.locals state.world holds

/-- Code that reads the locals is code for each value of them. -/
theorem readLocals_triple {rest : VbLocals V → Vb V α}
    (step : ∀ locals, Triple (fun state => before state ∧ state.locals = locals) (rest locals) after
      leaving) :
    Triple before (readLocals >>= rest) after leaving :=
  fun state holds => step state.locals state ⟨holds, rfl⟩

/-- Code that reads `valueOutputp` is code for each value of the locals, when the note that is made
of an early read does no harm. -/
theorem readOutput_triple {rest : VbLocals V → Vb V α}
    (quiet : ∀ locals world, before ⟨locals, world⟩ → before ⟨locals, { world with
      events := world.events ++ [.indeterminateRead] }⟩)
    (step : ∀ locals, Triple (fun state => before state ∧ state.locals = locals) (rest locals) after
      leaving) :
    Triple before (readOutput >>= rest) after leaving := by
  rintro ⟨locals, world⟩ holds
  have noted : ∃ world', readOutput ⟨locals, world⟩ = .ok locals ⟨locals, world'⟩ ∧
      before ⟨locals, world'⟩ := by
    have run (world' : World V) (note : noteRead locals.valueOutputp world = .ok () world') :
        readOutput ⟨locals, world⟩ = .ok locals ⟨locals, world'⟩ :=
      run_bind_ok (onWorld_run note)
    cases assigned : locals.valueOutputp with
    | indeterminate => exact ⟨_, run _ (by rw [assigned]; rfl), quiet locals world holds⟩
    | null => exact ⟨world, run _ (by rw [assigned]; rfl), holds⟩
    | pointer output => exact ⟨world, run _ (by rw [assigned]; rfl), holds⟩
  obtain ⟨world', run, holds'⟩ := noted
  rw [run_bind_ok run]
  exact step locals ⟨locals, world'⟩ ⟨holds', rfl⟩

theorem fail_triple
    (step : ∀ locals world, before ⟨locals, world⟩ → settled ⟨{ locals with rcb := false }, world⟩) :
    Triple before (fail : Vb V α) after (AtExit settled) :=
  fun state holds => step state.locals state.world holds

theorem failIf_triple {condition : Bool} {after : Unit → VbState V → Prop}
    (failing : condition = true → ∀ locals world, before ⟨locals, world⟩ →
      settled ⟨{ locals with rcb := false }, world⟩)
    (going : condition = false → ∀ state, before state → after () state) :
    Triple before (failIf condition) after (AtExit settled) := by
  cases condition with
  | false => exact Triple.pure (going rfl)
  | true => exact fail_triple (failing rfl)

theorem askOrFail_triple {wanted : Bool} {answer : List (Event V) → Int} {event : Int → Event V}
    {failed : Int → Bool} {after : Unit → VbState V → Prop}
    (failing : ∀ locals world value, failed value = true → before ⟨locals, world⟩ →
      settled ⟨{ locals with rcb := false },
        { world with events := world.events ++ [event value] }⟩)
    (going : ∀ locals world value, failed value = false → before ⟨locals, world⟩ →
      after () ⟨locals, { world with events := world.events ++ [event value] }⟩)
    (skipped : ∀ state, before state → after () state) :
    Triple before (askOrFail wanted answer event failed) after (AtExit settled) := by
  cases wanted with
  | false => exact Triple.pure skipped
  | true =>
    rintro ⟨locals, world⟩ holds
    cases outcome : failed (answer world.events) with
    | false =>
      have run : askOrFail true answer event failed ⟨locals, world⟩ =
          .ok () ⟨locals, { world with events := world.events ++ [event (answer world.events)] }⟩ := by
        show (failIf (failed (answer world.events)) : Vb V Unit) _ = _
        rw [outcome]
        rfl
      rw [run]
      exact going locals world _ outcome holds
    | true =>
      have run : askOrFail true answer event failed ⟨locals, world⟩ =
          .error .endLabel ⟨{ locals with rcb := false },
            { world with events := world.events ++ [event (answer world.events)] }⟩ := by
        show (failIf (failed (answer world.events)) : Vb V Unit) _ = _
        rw [outcome]
        rfl
      rw [run]
      exact failing locals world _ outcome holds

theorem acquireOrFail_triple {granted : List (Event V) → Bool} {event : Option Nat → Event V}
    {after : Nat → VbState V → Prop}
    (refused : ∀ locals world, before ⟨locals, world⟩ →
      settled ⟨{ locals with rcb := false }, { world with events := world.events ++ [event none] }⟩)
    (going : ∀ locals world, before ⟨locals, world⟩ →
      after world.nextAddress ⟨locals, { world with
        events := world.events ++ [event (some world.nextAddress)]
        nextAddress := world.nextAddress + 1 }⟩) :
    Triple before (acquireOrFail granted event) after (AtExit settled) := by
  rintro ⟨locals, world⟩ holds
  cases grant : granted world.events with
  | false =>
    have run : acquireOrFail granted event ⟨locals, world⟩ =
        .error .endLabel ⟨{ locals with rcb := false },
          { world with events := world.events ++ [event none] }⟩ := by
      rw [acquireOrFail, run_bind_ok (onWorld_run (run_acquire_refused grant))]
      rfl
    rw [run]
    exact refused locals world holds
  | true =>
    have run : acquireOrFail granted event ⟨locals, world⟩ =
        .ok world.nextAddress ⟨locals, { world with
          events := world.events ++ [event (some world.nextAddress)]
          nextAddress := world.nextAddress + 1 }⟩ := by
      rw [acquireOrFail, run_bind_ok (onWorld_run (run_acquire_granted grant))]
      rfl
    rw [run]
    exact going locals world holds

/-- A call of a stack function: one case without a stack, one with the stack the local
designates. -/
theorem onStack_triple {program : GenericStack V → Exec V (α × GenericStack V)} {zero : α}
    (missing : ∀ state, before state → state.locals.genericStackp = none → after zero state)
    (step : ∀ locals world stack value stack' world', before ⟨locals, world⟩ →
      locals.genericStackp = some stack → program stack world = .ok (value, stack') world' →
      after value ⟨{ locals with genericStackp := some stack' }, world'⟩) :
    Triple before (onStack program zero) after (AtExit settled) := by
  rintro ⟨locals, world⟩ holds
  cases designated : locals.genericStackp with
  | none =>
    rw [onStack_none designated]
    exact missing _ holds designated
  | some stack =>
    rw [onStack_some designated, run_bind]
    unfold onWorld
    cases called : program stack world with
    | error fault world' => trivial
    | ok result world' => exact step locals world stack result.1 result.2 world' holds designated called

/-! ### Computations that return

These rules ask for the return of the computation on the world, and hold for every condition on
the exits. -/

theorem onWorld_returns {program : Exec V α}
    (step : ∀ locals world, before ⟨locals, world⟩ →
      ∃ value world', program world = .ok value world' ∧ after value ⟨locals, world'⟩) :
    Triple before (onWorld program) after leaving := by
  rintro ⟨locals, world⟩ holds
  obtain ⟨value, world', run, holds'⟩ := step locals world holds
  rw [onWorld_run run]
  exact holds'

/-- A computation that always reads the same value and changes nothing. -/
theorem onWorld_reads {program : Exec V β} {value : β} {rest : β → Vb V α}
    (reads : ∀ world, program world = .ok value world)
    (step : Triple before (rest value) after leaving) :
    Triple before (onWorld program >>= rest) after leaving := by
  rintro ⟨locals, world⟩ holds
  rw [run_bind_ok (onWorld_run (reads world))]
  exact step _ holds

theorem ask_returns {answer : List (Event V) → α} {event : α → Event V}
    (step : ∀ locals world, before ⟨locals, world⟩ → after (answer world.events)
      ⟨locals, { world with events := world.events ++ [event (answer world.events)] }⟩) :
    Triple before (onWorld (ask answer event)) after leaving :=
  onWorld_returns fun locals world holds => ⟨_, _, run_ask .., step locals world holds⟩

theorem askOrFail_returns {wanted : Bool} {answer : List (Event V) → Int} {event : Int → Event V}
    {failed : Int → Bool} {after : Unit → VbState V → Prop}
    (succeeds : wanted = true → ∀ events, failed (answer events) = false)
    (step : ∀ locals world value, before ⟨locals, world⟩ →
      after () ⟨locals, { world with events := world.events ++ [event value] }⟩)
    (skipped : ∀ state, before state → after () state) :
    Triple before (askOrFail wanted answer event failed) after leaving := by
  cases wanted with
  | false => exact Triple.pure skipped
  | true =>
    refine .through (fun value state => failed value = false ∧ after () state)
      (ask_returns fun locals world holds => ⟨succeeds rfl _, step locals world _ holds⟩)
      fun value state holds => ?_
    rw [holds.1]
    exact holds.2

theorem acquireOrFail_returns {granted : List (Event V) → Bool} {event : Option Nat → Event V}
    {after : Nat → VbState V → Prop} (grants : ∀ events, granted events = true)
    (step : ∀ locals world, before ⟨locals, world⟩ →
      after world.nextAddress ⟨locals, { world with
        events := world.events ++ [event (some world.nextAddress)]
        nextAddress := world.nextAddress + 1 }⟩) :
    Triple before (acquireOrFail granted event) after leaving := by
  rintro ⟨locals, world⟩ holds
  rw [acquireOrFail, run_bind_ok (onWorld_run (run_acquire_granted (grants world.events)))]
  exact step locals world holds

/-- A call of a stack function that returns. -/
theorem onStack_returns {program : GenericStack V → Exec V (α × GenericStack V)} {zero : α}
    (step : ∀ locals world, before ⟨locals, world⟩ → ∃ stack value stack' world',
      locals.genericStackp = some stack ∧ program stack world = .ok (value, stack') world' ∧
      after value ⟨{ locals with genericStackp := some stack' }, world'⟩) :
    Triple before (onStack program zero) after leaving := by
  rintro ⟨locals, world⟩ holds
  obtain ⟨stack, value, stack', world', designated, run, holds'⟩ := step locals world holds
  rw [onStack_run designated run]
  exact holds'

end Rules

/-! ### The walk

How the parts of the body follow each other is the same for every invariant. These rules say what the
functions keep when their parts keep it; an invariant may hold in several stages. -/

/-- The rule or symbol of a step is registered. -/
def Wrapper.Knows (wrapper : Wrapper) : MarpaStep → Prop
  | .rule ruleId _ _ _ => Registers wrapper.marpaWrapperRulepp ruleId
  | .token symbolId _ _ => Registers wrapper.marpaWrapperSymbolpp symbolId
  | .nullingSymbol symbolId _ => Registers wrapper.marpaWrapperSymbolpp symbolId
  | _ => True

/-- The index at which a step leaves its output. -/
def MarpaStep.result? : MarpaStep → Option Int
  | .rule _ _ _ result => some result
  | .token _ _ result => some result
  | .nullingSymbol _ result => some result
  | _ => none

/-- A call of a value callback of the options, with the exchange that reports it. -/
inductive ValueCall (valueOption : MarpaWrapperValueOption V) :
    (List (Event V) → Bool × Option V) → (Bool → Option (Element V) → Event V) → Prop
  | rule {callback} (given : valueOption.valueRuleCallbackp = some callback)
      (rulep : Option Nat) (inputs : List (Option (Element V))) :
      ValueCall valueOption (callback · rulep inputs) (.valueRule rulep inputs)
  | symbol {callback} (given : valueOption.valueSymbolCallbackp = some callback)
      (symbolp : Option Nat) (tokenValuei : Int) :
      ValueCall valueOption (callback · symbolp tokenValuei) (.valueSymbol symbolp tokenValuei)
  | nulling {callback} (given : valueOption.valueNullingCallbackp = some callback)
      (symbolp : Option Nat) :
      ValueCall valueOption (callback · symbolp) (.valueNulling symbolp)

/-- What an invariant has to survive in a step: it is `ready` before the value callback, `carrying`
once the callback was called, and `stored` when the output is on the stack. -/
structure StepRules (libc : Libc V) (fuel : Nat) (wrapper : Wrapper)
    (valueOption : MarpaWrapperValueOption V) (step : MarpaStep)
    (ready carrying stored : VbState V → Prop) (leaving : VbExit → VbState V → Prop) : Prop where
  collects : ∀ {ruleId first last result}, step = .rule ruleId first last result →
    Triple ready (collectInputs libc fuel first last) (fun _ => ready) leaving
  looksUp : ∀ {object : Type} (objectpp : Option (Block object)) (id : Int),
    (wrapper.Knows step → Registers objectpp id) →
    Triple ready (onWorld (readPointer objectpp id)) (fun _ => ready) leaving
  skips : ∀ state, ready state → carrying state
  calls : ∀ {callback event}, ValueCall valueOption callback event →
    Triple ready (produceOrFail callback event) (fun _ => carrying) leaving
  frees : Triple carrying freeInputs (fun _ => carrying) leaving
  stores : ∀ {argResulti}, step.result? = some argResulti →
    Triple carrying (storeOutput libc fuel argResulti) (fun _ => stored) leaving
  idles : ∀ state, ready state → stored state

section Walk

variable {libc : Libc V} {fuel : Nat} {phase : ValuePhase V} {wrapper : Wrapper}
  {valueOption : MarpaWrapperValueOption V} {stackOption : MarpaWrapperStackOption V}
  {step : MarpaStep} {closed opened between ready carrying stored : VbState V → Prop}
  {leaving : VbExit → VbState V → Prop}

/-- The inputs are collected in a block of their own, one turn of the loop for each. -/
theorem collectInputs_triple {granted : Option Nat → VbState V → Prop}
    (allocates : ∀ size, Triple ready (onWorld (malloc libc size)) granted leaving)
    (refused : ∀ locals world, granted none ⟨locals, world⟩ →
      leaving .endLabel ⟨{ locals with rcb := false }, world⟩)
    (designates : ∀ address, Triple (granted (some address))
      (assign fun locals => { locals with valueInputArraypp := some address }) (fun _ => ready)
      leaving)
    (reads : ∀ index, Triple ready (onStack (genericStackGetp libc fuel · index) none)
      (fun _ => ready) leaving)
    (writes : ∀ (cells : List (Slot (Element V))) index content,
      Triple ready (onWorld (writeCell cells index content)) (fun _ => ready) leaving)
    (exhausted : ∀ state, ready state → leaving (.fault .exhausted) state)
    (argFirsti argLasti : Int) :
    Triple ready (collectInputs libc fuel argFirsti argLasti) (fun _ => ready) leaving := by
  refine .bind (allocates _) fun address => ?_
  cases address with
  | none => exact fun state holds => refused state.locals state.world holds
  | some address =>
    have turn (frame : Nat × List (Slot (Element V))) :
        Triple ready (collectTurn libc fuel argFirsti (toSize (argLasti - argFirsti + 1)) frame)
          (AfterTurn (fun _ => ready) fun _ => ready) leaving :=
      .ite (fun _ => .bind (reads _) fun value => .bind (writes _ _ _) fun cells =>
        .pure fun _ holds => holds) fun _ => .pure fun _ holds => holds
    exact .bind (designates address) fun _ =>
      .bind (.loop (fun _ => ready) turn (fun _ => exhausted) fuel _) fun _ =>
        .pure fun _ holds => holds

theorem StepRules.callsRule
    (rules : StepRules libc fuel wrapper valueOption step ready carrying stored leaving)
    {ruleId first last result : Int} (same : step = .rule ruleId first last result)
    (inputs : List (Option (Element V))) :
    Triple ready (callRule wrapper valueOption ruleId inputs) (fun _ => carrying) leaving := by
  unfold callRule
  cases given : valueOption.valueRuleCallbackp with
  | none => exact .pure rules.skips
  | some callback =>
    exact .bind (rules.looksUp _ _ fun known => by rwa [same] at known) fun rulep =>
      rules.calls (.rule given rulep inputs)

theorem StepRules.callsSymbol
    (rules : StepRules libc fuel wrapper valueOption step ready carrying stored leaving)
    {symbolId value result : Int} (same : step = .token symbolId value result) :
    Triple ready (callSymbol wrapper valueOption symbolId value) (fun _ => carrying) leaving := by
  unfold callSymbol
  cases given : valueOption.valueSymbolCallbackp with
  | none => exact .pure rules.skips
  | some callback =>
    exact .bind (rules.looksUp _ _ fun known => by rwa [same] at known) fun symbolp =>
      rules.calls (.symbol given symbolp value)

theorem StepRules.callsNulling
    (rules : StepRules libc fuel wrapper valueOption step ready carrying stored leaving)
    {symbolId result : Int} (same : step = .nullingSymbol symbolId result) :
    Triple ready (callNulling wrapper valueOption symbolId) (fun _ => carrying) leaving := by
  unfold callNulling
  cases given : valueOption.valueNullingCallbackp with
  | none => exact .pure rules.skips
  | some callback =>
    exact .bind (rules.looksUp _ _ fun known => by rwa [same] at known) fun symbolp =>
      rules.calls (.nulling given symbolp)

/-- The switch over the step type goes on, unless the valuator is inactive. -/
theorem StepRules.goesOn
    (rules : StepRules libc fuel wrapper valueOption step ready carrying stored leaving) :
    Triple ready (applyStep libc fuel wrapper valueOption step)
      (fun nextb state => nextb = decide (step ≠ .inactive) ∧ stored state) leaving := by
  have goesOn {nextb : Bool} (same : nextb = decide (step ≠ .inactive)) :
      Triple stored (pure nextb : Vb V Bool)
        (fun nextb state => nextb = decide (step ≠ .inactive) ∧ stored state) leaving :=
    .pure fun _ holds => ⟨same, holds⟩
  cases step with
  | rule ruleId first last result =>
    exact .bind (rules.collects rfl) fun inputs => .bind (rules.callsRule rfl inputs) fun _ =>
      .bind rules.frees fun _ => .bind (rules.stores rfl) fun _ => goesOn rfl
  | token symbolId value result =>
    exact .bind (rules.callsSymbol rfl) fun _ => .bind (rules.stores rfl) fun _ => goesOn rfl
  | nullingSymbol symbolId result =>
    exact .bind (rules.callsNulling rfl) fun _ => .bind (rules.stores rfl) fun _ => goesOn rfl
  | inactive => exact .pure fun state holds => ⟨rfl, rules.idles state holds⟩
  | initial => exact .pure fun state holds => ⟨rfl, rules.idles state holds⟩
  | other code => exact .pure fun state holds => ⟨rfl, rules.idles state holds⟩

theorem StepRules.applies
    (rules : StepRules libc fuel wrapper valueOption step ready carrying stored leaving) :
    Triple ready (applyStep libc fuel wrapper valueOption step) (fun _ => stored) leaving :=
  rules.goesOn.consequence (fun _ holds => holds) (fun _ _ after => after.2)
    fun _ _ left => left

/-- A turn of the loop over the steps: the valuator is asked, the step is applied and its output is
released. -/
theorem stepTurn_triple
    (asks : ∀ locals world, between ⟨locals, world⟩ → ready ⟨{ locals with valueOutputp := .null },
      { world with events := world.events ++ [.step (phase.step world.events)] }⟩)
    (rules : ∀ events, StepRules libc fuel wrapper valueOption (phase.step events) ready carrying
      stored leaving)
    (releases : Triple stored (releaseOutput stackOption) (fun _ => between) leaving) :
    Triple between (stepTurn libc fuel phase wrapper valueOption stackOption ()) (fun _ => between)
      leaving := by
  refine .through (fun step (state : VbState V) => (∃ events, step = phase.step events) ∧
      ready ⟨{ state.locals with valueOutputp := .null }, state.world⟩)
    (fun state holds => ⟨⟨_, rfl⟩, asks state.locals state.world holds⟩) fun step =>
    .through (fun _ state => (∃ events, step = phase.step events) ∧ ready state)
      (fun _ holds => holds) fun _ => ?_
  rintro state ⟨⟨events, rfl⟩, holds⟩
  exact Triple.bind (rules events).applies (fun _ => .bind releases fun _ => .pure fun _ => id) state
    holds

/-- The result callback gets the bottom of the stack. -/
theorem reportResult_triple (answered : ValueBool → VbState V → Prop)
    (reads : Triple ready (onStack (genericStackGetp libc fuel · 0) none) (fun _ => ready) leaving)
    (asks : ∀ {callback}, valueOption.valueResultCallbackp = some callback → ∀ value,
      Triple ready (onWorld (ask (callback · value) (.valueResult value))) answered leaving)
    (refuses : ∀ locals world, answered .false ⟨locals, world⟩ →
      leaving .endLabel ⟨{ locals with rcb := false }, world⟩)
    (stops : ∀ state, answered .stop state → leaving .endLabel state)
    (accepts : ∀ state, answered .true state → ready state) :
    Triple ready (reportResult libc fuel valueOption) (fun _ => ready) leaving := by
  unfold reportResult
  cases given : valueOption.valueResultCallbackp with
  | none => exact .pure fun _ holds => holds
  | some callback =>
    refine .bind reads fun value => .bind (asks given value) fun answer => ?_
    cases answer with
    | false => exact fun state holds => refuses state.locals state.world holds
    | stop => exact stops
    | true => exact .pure accepts

/-- A tree: `ready` holds between the steps of its valuator. -/
theorem treeTurn_triple
    (asks : Triple opened (onWorld (ask phase.treeNext .treeNext)) (fun _ => opened) leaving)
    (opens : Triple opened (openValuator libc fuel phase stackOption) (fun _ => ready) leaving)
    (steps : Triple ready (stepTurn libc fuel phase wrapper valueOption stackOption ())
      (fun _ => ready) leaving)
    (exhausted : ∀ state, ready state → leaving (.fault .exhausted) state)
    (reports : Triple ready (reportResult libc fuel valueOption) (fun _ => ready) leaving)
    (closes : Triple ready (closeValuator fuel) (fun _ => opened) leaving) :
    Triple opened (treeTurn libc fuel phase wrapper valueOption stackOption ()) (fun _ => opened)
      leaving := by
  have turn : Triple ready (stepTurn libc fuel phase wrapper valueOption stackOption ())
      (AfterTurn (fun _ => ready) fun _ => ready) leaving :=
    steps.consequence (fun _ holds => holds) (fun turn _ holds => by cases turn <;> exact holds)
      fun _ _ left => left
  exact .bind asks fun treeNexti => .ite (fun _ => .pure fun _ holds => holds) fun _ =>
    .bind opens fun _ => .bind (.loop (fun _ => ready) (fun _ => turn) (fun _ => exhausted) fuel ())
      fun _ => .bind reports fun _ => .bind closes fun _ => .pure fun _ holds => holds

/-- The body: `opened` holds between the trees. -/
theorem vbBody_triple {marpaWrapperp : Option Wrapper}
    {marpaWrapperValueOptionp : Option (MarpaWrapperValueOption V)}
    {marpaWrapperStackOptionp : Option (MarpaWrapperStackOption V)}
    (fails : ∀ locals world, closed ⟨locals, world⟩ →
      leaving .endLabel ⟨{ locals with rcb := false }, world⟩)
    (opens : Triple closed (openTree phase (marpaWrapperValueOptionp.getD {})) (fun _ => opened)
      leaving)
    (turns : ∀ wrapper stackOption, marpaWrapperp = some wrapper →
      marpaWrapperStackOptionp = some stackOption →
      Triple opened (treeTurn libc fuel phase wrapper (marpaWrapperValueOptionp.getD {}) stackOption
        ()) (fun _ => opened) leaving)
    (exhausted : ∀ state, opened state → leaving (.fault .exhausted) state) :
    Triple closed (vbBody libc fuel phase marpaWrapperp marpaWrapperValueOptionp
      marpaWrapperStackOptionp) (fun _ => opened) leaving := by
  have failed {α : Type} {after : α → VbState V → Prop} :
      Triple closed (fail : Vb V α) after leaving :=
    fun state holds => fails state.locals state.world holds
  cases marpaWrapperp with
  | none => exact failed
  | some wrapper =>
    cases marpaWrapperStackOptionp with
    | none => exact failed
    | some stackOption =>
      have turn : Triple opened (treeTurn libc fuel phase wrapper
          (marpaWrapperValueOptionp.getD {}) stackOption ())
          (AfterTurn (fun _ => opened) fun _ => opened) leaving :=
        (turns wrapper stackOption rfl rfl).consequence (fun _ holds => holds)
          (fun turn _ holds => by cases turn <;> exact holds) fun _ _ left => left
      exact .through (fun _ => closed) (.ite (fun _ => failed) fun _ => .pure fun _ holds => holds)
        fun _ => .bind opens fun _ => .loop (fun _ => opened) (fun _ => turn) (fun _ => exhausted)
          fuel ()

end Walk

/-! ### The function -/

/-- The function is its body and then the end label, unless the body ends with a fault. -/
theorem marpaWrapperVb_triple {libc : Libc V} {fuel : Nat} {phase : ValuePhase V}
    {marpaWrapperp : Option Wrapper}
    {marpaWrapperValueOptionp : Option (MarpaWrapperValueOption V)}
    {marpaWrapperStackOptionp : Option (MarpaWrapperStackOption V)}
    {closed settled : VbState V → Prop} {exits : VbExit → VbState V → Prop} {before : World V → Prop}
    {returned : Bool → World V → Prop} {leaving : Fault → World V → Prop}
    (body : Triple closed
      (vbBody libc fuel phase marpaWrapperp marpaWrapperValueOptionp marpaWrapperStackOptionp)
      (fun _ => settled) exits)
    (begins : ∀ world, before world → closed ⟨{}, world⟩)
    (leaves : ∀ state, exits .endLabel state → settled state)
    (faults : ∀ fault state, exits (.fault fault) state → leaving fault state.world)
    (endLabel : ∀ locals, Triple (fun world => settled ⟨locals, world⟩) (vbEndLabel fuel locals)
      returned leaving) :
    Triple before (marpaWrapperVb libc fuel phase marpaWrapperp marpaWrapperValueOptionp
      marpaWrapperStackOptionp) returned leaving := by
  intro world holds
  have outcome := body ⟨{}, world⟩ (begins world holds)
  unfold marpaWrapperVb
  cases finished : vbBody libc fuel phase marpaWrapperp marpaWrapperValueOptionp
      marpaWrapperStackOptionp ⟨{}, world⟩ with
  | ok value state =>
    rw [finished] at outcome
    exact endLabel state.locals state.world outcome
  | error exit state =>
    rw [finished] at outcome
    cases exit with
    | endLabel => exact endLabel state.locals state.world (leaves state outcome)
    | fault fault => exact faults fault state outcome

/-- The function returns when its body ends, or goes to the end label, and the end label returns. -/
theorem marpaWrapperVb_returns {libc : Libc V} {fuel : Nat} {phase : ValuePhase V}
    {marpaWrapperp : Option Wrapper}
    {marpaWrapperValueOptionp : Option (MarpaWrapperValueOption V)}
    {marpaWrapperStackOptionp : Option (MarpaWrapperStackOption V)}
    {settled : VbState V → Prop} (returned : Bool → World V → Prop) {world : World V}
    (body : Triple (fun state => state = ⟨{}, world⟩)
      (vbBody libc fuel phase marpaWrapperp marpaWrapperValueOptionp marpaWrapperStackOptionp)
      (fun _ => settled) (fun exit state => exit = .endLabel ∧ settled state))
    (endLabel : ∀ locals between, settled ⟨locals, between⟩ →
      ∃ value final, vbEndLabel fuel locals between = .ok value final ∧ returned value final) :
    ∃ value final, marpaWrapperVb libc fuel phase marpaWrapperp marpaWrapperValueOptionp
      marpaWrapperStackOptionp world = .ok value final ∧ returned value final := by
  have outcome := body ⟨{}, world⟩ rfl
  unfold marpaWrapperVb
  cases finished : vbBody libc fuel phase marpaWrapperp marpaWrapperValueOptionp
      marpaWrapperStackOptionp ⟨{}, world⟩ with
  | ok value state =>
    rw [finished] at outcome
    exact endLabel state.locals state.world outcome
  | error exit state =>
    rw [finished] at outcome
    obtain ⟨rfl, settled⟩ := outcome
    exact endLabel state.locals state.world settled

end MarpaWrapper
