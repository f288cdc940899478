/-
This file reads the run of "Push terminals", the loop that passes the selected
terminals to libmarpa as alternatives. It goes through the checks of the loop
before it, in the same order. A selected terminal gets the value at hand, when
it is shared and there is one, and else the value callback is called. A value
that is refused or an alternative that is rejected ends the loop.
-/

import MarpaWrapper.TerminalChecks

namespace MarpaWrapper

open Effects

variable {V : Type}

/-! ### Pushes -/

/-- Whether the value at hand is used again. A value of zero stands for none. -/
def reuses (callbacks : RecognizerCallbacks V) (value : Int × Int) : Bool :=
  callbacks.longestAcceptableTokensShareTheSameValueAndLengthb && value.1 != 0

/-- How a terminal comes by its value: the exchanges it takes, and the value with its length. -/
inductive Obtained (callbacks : RecognizerCallbacks V) (check : Check) (value : Int × Int)
    (events : List (Event V)) : List (Event V) → Int × Int → Prop
  | atHand (again : reuses callbacks value = true) :
      Obtained callbacks check value events [] value
  | fetched {fresh : Int × Int} (first : reuses callbacks value = false)
      (answer : callbacks.lexemeValue events check.symbol.marpaWrapperSymbolOption.datavp =
        some fresh) :
      Obtained callbacks check value events
        [.lexemeValue check.symbol.marpaWrapperSymbolOption.datavp (some fresh)] fresh

/-- The alternative that a terminal is passed as, with libmarpa's answer. -/
def Check.alternative (check : Check) (value : Int × Int) (code : Int) : Event V :=
  .alternative check.symbol.marpaSymbolIdi value.1 value.2 code

/-- The exchanges of the loop, from a value at hand and a record on, and whether the loop came to
its end. -/
inductive Pushes (marpa : Libmarpa V) (callbacks : RecognizerCallbacks V) (maxLengthl : Nat) :
    List Check → Int × Int → List (Event V) → List (Event V) → Bool → Prop
  | nil {value : Int × Int} {events : List (Event V)} :
      Pushes marpa callbacks maxLengthl [] value events [] true
  | unselected {check : Check} {checks : List Check} {value : Int × Int}
      {events exchanges : List (Event V)} {through : Bool}
      (shorter : selected callbacks check.length maxLengthl = false)
      (rest : Pushes marpa callbacks maxLengthl checks value events exchanges through) :
      Pushes marpa callbacks maxLengthl (check :: checks) value events exchanges through
  | refused {check : Check} {checks : List Check} {value : Int × Int} {events : List (Event V)}
      (chosen : selected callbacks check.length maxLengthl = true)
      (first : reuses callbacks value = false)
      (answer : callbacks.lexemeValue events check.symbol.marpaWrapperSymbolOption.datavp = none) :
      Pushes marpa callbacks maxLengthl (check :: checks) value events
        [.lexemeValue check.symbol.marpaWrapperSymbolOption.datavp none] false
  | rejected {check : Check} {checks : List Check} {value fresh : Int × Int}
      {events fetch : List (Event V)} {code : Int}
      (chosen : selected callbacks check.length maxLengthl = true)
      (obtained : Obtained callbacks check value events fetch fresh)
      (answer : marpa.alternative (events ++ fetch) check.symbol.marpaSymbolIdi fresh.1 fresh.2 =
        code)
      (failure : code ≠ marpaErrNone) :
      Pushes marpa callbacks maxLengthl (check :: checks) value events
        (fetch ++ [check.alternative fresh code]) false
  | accepted {check : Check} {checks : List Check} {value fresh : Int × Int}
      {events fetch exchanges : List (Event V)} {through : Bool}
      (chosen : selected callbacks check.length maxLengthl = true)
      (obtained : Obtained callbacks check value events fetch fresh)
      (answer : marpa.alternative (events ++ fetch) check.symbol.marpaSymbolIdi fresh.1 fresh.2 =
        marpaErrNone)
      (rest : Pushes marpa callbacks maxLengthl checks fresh
        (events ++ (fetch ++ [check.alternative fresh marpaErrNone])) exchanges through) :
      Pushes marpa callbacks maxLengthl (check :: checks) value events
        (fetch ++ [check.alternative fresh marpaErrNone] ++ exchanges) through

/-- "Push terminals", which nothing is left of when no terminal matched. -/
def Pushed (marpa : Libmarpa V) (callbacks : RecognizerCallbacks V) (checks : List Check)
    (events exchanges : List (Event V)) (through : Bool) : Prop :=
  if 0 < longest checks then
    Pushes marpa callbacks (longest checks) checks (0, 0) events exchanges through
  else exchanges = [] ∧ through = true

/-! ### The loop -/

section Loop

variable {marpa : Libmarpa V} {callbacks : RecognizerCallbacks V} {wrapper : Wrapper}
  {world : World V} {check : Check} {maxLengthl index : Nat} {value fresh : Int × Int}

/-- Where the loop finds the symbol of a check. -/
structure Awaits (wrapper : Wrapper) (index : Nat) (check : Check) : Prop where
  cell : (expectedCells wrapper)[index]? = some (.pointer check.pointer)
  left : lookup wrapper.marpaWrapperSymbolpp check.pointer = some check.result

theorem expectedSymbol_run {cells : List (Slot Nat)} {pointer : Nat} {symbol : MarpaWrapperSymbol}
    (cell : cells[index]? = some (.pointer pointer))
    (found : lookup wrapper.marpaWrapperSymbolpp pointer = some symbol) :
    expectedSymbol wrapper cells index world = .ok (pointer, symbol) world := by
  have read : readCell cells index world = .ok (some pointer) world := by
    rw [readCell, cell]
    rfl
  rw [expectedSymbol, run_bind_ok read]
  exact run_bind_ok (readSymbol_run found world)

theorem tokenValue_atHand (again : reuses callbacks value = true) (symbol : MarpaWrapperSymbol) :
    tokenValue callbacks symbol value world = .ok (some value) world := by
  rw [tokenValue, if_pos (by simpa [reuses] using again)]
  rfl

theorem tokenValue_fetched (first : reuses callbacks value = false) (symbol : MarpaWrapperSymbol) :
    tokenValue callbacks symbol value world =
      callLexemeValue callbacks symbol.marpaWrapperSymbolOption.datavp world := by
  rw [tokenValue, if_neg (by simpa [reuses] using first)]

/-- A selected terminal comes by a value, or the value callback returns `FALSE`. -/
theorem tokenValue_run (callbacks : RecognizerCallbacks V) (check : Check) (value : Int × Int)
    (world : World V) :
    (∃ fetch fresh, Obtained callbacks check value world.events fetch fresh ∧
      tokenValue callbacks check.result value world =
        .ok (some fresh) { world with events := world.events ++ fetch }) ∨
    (reuses callbacks value = false ∧
      callbacks.lexemeValue world.events check.symbol.marpaWrapperSymbolOption.datavp = none ∧
      tokenValue callbacks check.result value world =
        .ok none { world with events := world.events ++
          [.lexemeValue check.symbol.marpaWrapperSymbolOption.datavp none] }) := by
  cases again : reuses callbacks value with
  | true =>
    refine .inl ⟨[], value, .atHand again, ?_⟩
    rw [tokenValue_atHand again, List.append_nil]
  | false =>
    rw [tokenValue_fetched again, check.result_option, callLexemeValue, run_ask]
    cases answer : callbacks.lexemeValue world.events
        check.symbol.marpaWrapperSymbolOption.datavp with
    | none => exact .inr ⟨rfl, rfl, rfl⟩
    | some fresh => exact .inl ⟨_, fresh, .fetched again answer, rfl⟩

theorem alternative_run (recognizer : wrapper.marpaRecognizerp.isSome)
    (found : lookup wrapper.marpaWrapperSymbolpp check.pointer = some check.result) :
    marpaWrapperRAlternativeb marpa wrapper (some check.pointer) fresh.1 fresh.2 world =
      .ok (marpa.alternative world.events check.symbol.marpaSymbolIdi fresh.1 fresh.2 ==
          marpaErrNone)
        { world with events := world.events ++ [check.alternative fresh
          (marpa.alternative world.events check.symbol.marpaSymbolIdi fresh.1 fresh.2)] } := by
  have present : ¬ wrapper.marpaRecognizerp.isNone := by
    rw [Option.isNone_iff_eq_none, ← Option.not_isSome_iff_eq_none, Decidable.not_not]
    exact recognizer
  simp only [marpaWrapperRAlternativeb]
  rw [if_neg present, run_bind_ok (readSymbol_run found world), check.result_marpaSymbolIdi,
    run_bind_ok (run_ask ..)]
  rfl

theorem pushTurn_unselected (awaits : Awaits wrapper index check)
    (shorter : selected callbacks check.length maxLengthl = false) :
    pushTurn marpa callbacks wrapper maxLengthl index value world = .ok (.next value) world := by
  rw [pushTurn, run_bind_ok (expectedSymbol_run awaits.cell awaits.left)]
  simp only
  rw [check.result_lengthl, if_neg (by rw [shorter]; exact Bool.false_ne_true)]
  rfl

/-- The turn of a selected terminal. -/
theorem pushTurn_selected (awaits : Awaits wrapper index check)
    (chosen : selected callbacks check.length maxLengthl = true) :
    pushTurn marpa callbacks wrapper maxLengthl index value world =
      (do
        match ← tokenValue callbacks check.result value with
        | none => pure (.done ())
        | some value =>
          let accepted ← marpaWrapperRAlternativeb marpa wrapper (some check.pointer)
            value.1 value.2
          pure (if accepted then .next value else .done ()) : Exec V _) world := by
  rw [pushTurn, run_bind_ok (expectedSymbol_run awaits.cell awaits.left)]
  simp only
  rw [check.result_lengthl]
  exact congrFun (if_pos chosen) world

/-- The loop over the checks from an index on. It does not fail. -/
theorem pushLoop_run (recognizer : wrapper.marpaRecognizerp.isSome) (checks : List Check)
    (first : Nat) (value : Int × Int) (world : World V)
    (awaits : ∀ index check, checks[index]? = some check → Awaits wrapper (first + index) check) :
    ∃ outcome exchanges through,
      forEach (pushTurn marpa callbacks wrapper maxLengthl) (List.range' first checks.length) value
        world = .ok outcome { world with events := world.events ++ exchanges } ∧
      Pushes marpa callbacks maxLengthl checks value world.events exchanges through ∧
      (if through then ∃ last, outcome = .next last else outcome = .done ()) := by
  induction checks generalizing first value world with
  | nil => exact ⟨.next value, [], true, by rw [List.append_nil]; rfl, .nil, value, rfl⟩
  | cons check checks inductionHypothesis =>
    have here : Awaits wrapper first check := awaits 0 check rfl
    have later (index : Nat) (other : Check) (found : checks[index]? = some other) :
        Awaits wrapper (first + 1 + index) other := by
      rw [Nat.add_right_comm, Nat.add_assoc]
      exact awaits (index + 1) other found
    rw [List.length_cons, List.range'_succ, forEach]
    cases chosen : selected callbacks check.length maxLengthl with
    | false =>
      rw [run_bind_ok (pushTurn_unselected here chosen)]
      obtain ⟨outcome, exchanges, through, run, pushes, ending⟩ :=
        inductionHypothesis (first + 1) value world later
      exact ⟨outcome, exchanges, through, run, .unselected chosen pushes, ending⟩
    | true =>
      rcases tokenValue_run callbacks check value world with
        ⟨fetch, fresh, obtained, token⟩ | ⟨again, answer, token⟩
      · have turn : pushTurn marpa callbacks wrapper maxLengthl first value world =
            .ok (if marpa.alternative (world.events ++ fetch) check.symbol.marpaSymbolIdi fresh.1
                  fresh.2 == marpaErrNone then .next fresh else .done ())
              { world with events := world.events ++ (fetch ++ [check.alternative fresh
                (marpa.alternative (world.events ++ fetch) check.symbol.marpaSymbolIdi fresh.1
                  fresh.2)]) } := by
          rw [pushTurn_selected here chosen, run_bind_ok token]
          simp only
          rw [run_bind_ok (alternative_run recognizer here.left), List.append_assoc]
          rfl
        rw [run_bind_ok turn]
        by_cases success : marpa.alternative (world.events ++ fetch) check.symbol.marpaSymbolIdi
            fresh.1 fresh.2 = marpaErrNone
        · rw [success, if_pos (beq_self_eq_true _)]
          obtain ⟨outcome, exchanges, through, run, pushes, ending⟩ :=
            inductionHypothesis (first + 1) fresh { world with events := world.events ++
              (fetch ++ [check.alternative fresh marpaErrNone]) } later
          rw [List.append_assoc] at run
          exact ⟨outcome, _, through, run, .accepted chosen obtained success pushes, ending⟩
        · rw [if_neg (by simpa using success)]
          exact ⟨.done (), _, false, rfl, .rejected chosen obtained rfl success, rfl⟩
      · have turn : pushTurn marpa callbacks wrapper maxLengthl first value world =
            .ok (.done ()) { world with events := world.events ++
              [.lexemeValue check.symbol.marpaWrapperSymbolOption.datavp none] } := by
          rw [pushTurn_selected here chosen, run_bind_ok token]
          rfl
        rw [run_bind_ok turn]
        exact ⟨.done (), _, false, rfl, .refused chosen again answer, rfl⟩

theorem pushTerminals_run (marpa : Libmarpa V) (callbacks : RecognizerCallbacks V)
    (world : World V) (recognizer : wrapper.marpaRecognizerp.isSome) {checks : List Check}
    (awaits : ∀ index check, checks[index]? = some check → Awaits wrapper index check) :
    ∃ exchanges through,
      pushTerminals marpa callbacks wrapper checks.length (longest checks) world =
        .ok through { world with events := world.events ++ exchanges } ∧
      Pushed marpa callbacks checks world.events exchanges through := by
  unfold pushTerminals Pushed
  by_cases matched : 0 < longest checks
  · rw [if_pos matched, List.range_eq_range']
    obtain ⟨outcome, exchanges, through, run, pushes, ending⟩ :=
      pushLoop_run recognizer checks 0 (0, 0) world fun index check here => by
        rw [Nat.zero_add]
        exact awaits index check here
    refine ⟨exchanges, through, ?_, by rw [if_pos matched]; exact pushes⟩
    rw [run_bind_ok run]
    cases through with
    | true => obtain ⟨last, rfl⟩ := ending; rfl
    | false => cases ending; rfl
  · rw [if_neg matched]
    exact ⟨[], true, by rw [List.append_nil]; rfl, by rw [if_neg matched]; exact ⟨rfl, rfl⟩⟩

/-- The loop finds the symbols as the checks left them. -/
theorem Checked.awaits {wrapper' : Wrapper} {world' : World V} {checks : List Check}
    (checked : Checked callbacks wrapper' world' checks wrapper world) {check : Check}
    (here : checks[index]? = some check) : Awaits wrapper index check :=
  ⟨checked.expectedCells ▸ checked.at here, checked.left check (List.mem_of_getElem? here)⟩

end Loop

end MarpaWrapper
