/-
This file carries a condition on the wrapper and the world through every sequence of
calls. Few functions write to the wrapper: those that register a symbol or a rule, the
start of a recognizer, the two functions that return arrays, and inside
`marpaWrapper_r_recognizeb` the sort and the checks of the expected terminals. What they
keep when they return holds of every state that a session reaches, and of every state
inside `marpaWrapper_r_recognizeb` in which `marpaWrapper_r_terminals_expectedb` is
called.
-/

import MarpaWrapper.Iterations
import MarpaWrapper.ValuationExchanges

namespace MarpaWrapper

open Effects

variable {V : Type}

/-! ### Exchanges beside the wrapper -/

section Aside

variable {libc : Libc V} {fuel : Nat} {build : Build} {marpa : Libmarpa V} {wrapper : Wrapper}
  {start : World V}

theorem Event.plain_of_report {event : Event V} (ofReport : event.ofReport = true) : LeavesMarpa event := by
  cases event <;> first | rfl | exact absurd ofReport Bool.false_ne_true

theorem Event.plain_of_complete {event : Event V} (ofComplete : event.ofComplete = true) :
    LeavesMarpa event := by
  cases event <;> first | rfl | exact absurd ofComplete Bool.false_ne_true

theorem Event.plain_of_expected {event : Event V} (ofExpected : event.ofExpected = true) :
    LeavesMarpa event := by
  cases event <;> first | rfl | exact absurd ofExpected Bool.false_ne_true

theorem Event.plain_of_progress {event : Event V} (ofProgress : event.ofProgress = true) :
    LeavesMarpa event := by
  cases event <;> first | rfl | exact absurd ofProgress Bool.false_ne_true

theorem ask_aside {α : Type} {answer : List (Event V) → α} {event : α → Event V}
    (plain : ∀ value, LeavesMarpa (event value)) : Keeps (Continued LeavesMarpa start) (ask answer event) :=
  ask_continued plain

/-- Reporting the events leaves grammars and recognizers alone. -/
theorem marpaWrapperEvent_plain :
    Keeps (Continued LeavesMarpa start) (marpaWrapperEvent libc marpa wrapper) :=
  Continued.widen (fun _ => marpaWrapperEvent_continued) fun _ => Event.plain_of_report

/-- Behind the precomputation the symbols and the rules stay. -/
theorem marpaWrapperGPrecomputeb_return {result : Bool} {world world' : World V}
    (run : marpaWrapperGPrecomputeb libc marpa wrapper world = .ok result world') :
    ∃ between, Censused world between ∧ Continued LeavesMarpa between world' := by
  obtain ⟨goesOn, between, precomputed, rest⟩ := run_bind_eq_ok run
  refine ⟨between, precomputeGrammar_return precomputed, ?_⟩
  exact .of_run (fun _ => Keeps.ite marpaWrapperEvent_plain (.pure _)) rest

theorem marpaWrapperRCompleteb_plain :
    Keeps (Continued LeavesMarpa start) (marpaWrapperRCompleteb libc marpa wrapper) :=
  Continued.widen (fun _ => marpaWrapperRCompleteb_continued) fun _ => Event.plain_of_complete

theorem marpaWrapperRAlternativeb_plain (pointer : Option Nat) (value length : Int) :
    Keeps (Continued LeavesMarpa start)
      (marpaWrapperRAlternativeb marpa wrapper pointer value length) := by
  cases pointer with
  | none => exact .pure _
  | some pointer =>
    exact .ite (.pure _) (.bind (readSymbol_continued _) fun _ =>
      .bind (ask_aside fun _ => rfl) fun _ => .pure _)

theorem marpaWrapperREventActivateb_plain (pointer : Option Nat) (eventSeti : Int) (onb : Bool) :
    Keeps (Continued LeavesMarpa start)
      (marpaWrapperREventActivateb marpa wrapper pointer eventSeti onb) := by
  cases pointer with
  | none => exact .pure _
  | some pointer =>
    refine .ite (.pure _) (.bind (readSymbol_continued _) fun _ => .bind (.forEach
      (fun eventType _ => .bind (.ite (.bind (ask_aside fun _ => rfl) fun _ => .pure _)
        (.pure _)) fun _ => .pure _) _ _) fun turn => ?_)
    cases turn <;> exact .pure _

theorem marpaWrapperRTerminalIsExpectedb_plain (pointer : Option Nat) :
    Keeps (Continued LeavesMarpa start) (marpaWrapperRTerminalIsExpectedb marpa wrapper pointer) := by
  cases pointer with
  | none => exact .pure _
  | some pointer =>
    exact .ite (.pure _) (.bind (readSymbol_continued _) fun _ =>
      .bind (ask_aside fun _ => rfl) fun _ => .pure _)

theorem Event.plain_of_lexemes {event : Event V} (ofLexemes : event.ofLexemes = true) :
    LeavesMarpa event := by
  cases event <;> first | rfl | exact absurd ofLexemes Bool.false_ne_true

theorem pushTerminals_plain (callbacks : RecognizerCallbacks V) (count maxLengthl : Nat) :
    Keeps (Continued LeavesMarpa start) (pushTerminals marpa callbacks wrapper count maxLengthl) :=
  Continued.widen (fun _ => pushTerminals_continued _ _ _) fun _ => Event.plain_of_lexemes

end Aside

/-! ### Conditions that are kept -/

/-- A condition on the wrapper and the world that every function keeps when it returns. -/
structure Kept (libc : Libc V) (fuel : Nat) (build : Build) (marpa : Libmarpa V)
    (holds : Wrapper → World V → Prop) : Prop where
  aside : ∀ {wrapper world world'}, holds wrapper world → Continued LeavesMarpa world world' →
    holds wrapper world'
  precomputes : ∀ {wrapper world world'}, holds wrapper world → Censused world world' →
    holds wrapper world'
  adds : ∀ {wrapper wrapper' world world' option pointer}, holds wrapper world →
    marpaWrapperGAddSymbolp libc fuel build marpa wrapper option world =
      .ok (pointer, wrapper') world' → holds wrapper' world'
  rules : ∀ {wrapper wrapper' world world' option pointer}, holds wrapper world →
    marpaWrapperGAddRulep libc fuel build marpa wrapper option world =
      .ok (pointer, wrapper') world' → holds wrapper' world'
  starts : ∀ {wrapper wrapper' world world' started}, holds wrapper world →
    startRecognizer marpa wrapper world = .ok (started, wrapper') world' → holds wrapper' world'
  expects : ∀ {wrapper wrapper' world world' count}, holds wrapper world →
    marpaWrapperRTerminalsExpectedb libc marpa wrapper world = .ok (count, wrapper') world' →
      holds wrapper' world'
  progresses : ∀ {wrapper wrapper' world world' starti endi count}, holds wrapper world →
    marpaWrapperRProgressb libc fuel build marpa wrapper starti endi world =
      .ok (count, wrapper') world' → holds wrapper' world'
  orders : ∀ {wrapper wrapper' world world' callbacks count}, holds wrapper world →
    orderTerminals libc callbacks wrapper count world = .ok wrapper' world' → holds wrapper' world'
  checks : ∀ {wrapper world pointer symbol result}, holds wrapper world →
    lookup wrapper.marpaWrapperSymbolpp pointer = some symbol →
      result.withoutWork = symbol.withoutWork → holds (wrapper.withSymbol pointer result) world

section Kept

variable {libc : Libc V} {fuel : Nat} {build : Build} {marpa : Libmarpa V}
  {callbacks : RecognizerCallbacks V} {holds : Wrapper → World V → Prop}
  {wrapper wrapper' : Wrapper} {world world' : World V}

/-- A function that does not write to the wrapper. -/
theorem Kept.beside {α : Type} {program : Exec V α} {value : α}
    (kept : Kept libc fuel build marpa holds) (before : holds wrapper world)
    (keeps : ∀ start, Keeps (Continued LeavesMarpa start) program)
    (run : program world = .ok value world') : holds wrapper world' :=
  kept.aside before (.of_run keeps run)

/-- A start, as the recognition makes it. -/
theorem Kept.startb {started : Bool} (kept : Kept libc fuel build marpa holds)
    (before : holds wrapper world)
    (run : marpaWrapperRStartb libc marpa wrapper world = .ok (started, wrapper') world') :
    holds wrapper' world' := by
  obtain ⟨⟨begun, between⟩, state, prepared, rest⟩ := run_bind_eq_ok run
  have ready := kept.starts before prepared
  cases begun with
  | false => cases rest; exact ready
  | true =>
    obtain ⟨reported, final, ran, rest⟩ := run_bind_eq_ok rest
    cases rest
    exact kept.beside ready (fun _ => marpaWrapperEvent_plain) ran

theorem Kept.shows (kept : Kept libc fuel build marpa holds) (before : holds wrapper world)
    (run : showProgress libc fuel build marpa wrapper world = .ok wrapper' world') :
    holds wrapper' world' := by
  have traced (wrapper : Wrapper) (start : World V) (index : Nat) (frame : Unit) :
      Keeps (Continued LeavesMarpa start) (traceTurn wrapper index frame) := by
    refine .bind (readCell_continued _ _) fun item => ?_
    cases item with
    | none => exact .throw _
    | some item =>
      simp only
      cases item.marpaWrapperRulep with
      | none => exact .throw _
      | some pointer =>
        refine .bind (readObject_continued _ _) fun rule => ?_
        cases rule with
        | none => exact .throw _
        | some rule => exact .pure _
  unfold showProgress at run
  by_cases tracing : build.tracing
  · rw [if_pos tracing] at run
    obtain ⟨⟨progress, between⟩, after, reported, rest⟩ := run_bind_eq_ok run
    obtain ⟨outcome, final, walked, rest⟩ := run_bind_eq_ok rest
    cases rest
    exact kept.beside (kept.progresses before reported)
      (fun start => .forEach (fun index frame => traced _ start index frame) _ _) walked
  · rw [if_neg tracing] at run
    cases run
    exact before

/-- The loop over the terminals writes to work fields only. -/
theorem Kept.checkLoop (kept : Kept libc fuel build marpa holds) {count : Nat}
    {outcome : Turn (Wrapper × Nat) Empty} (before : holds wrapper world)
    (run : forEach (checkTurn callbacks) (List.range count) (wrapper, 0) world =
      .ok outcome world') :
    ∃ wrapper' maxLengthl, outcome = .next (wrapper', maxLengthl) ∧ holds wrapper' world' := by
  have turns : AfterTurn (fun frame => holds frame.1) (fun _ _ => False) outcome world' := by
    refine forEach_range_return (fun _ frame => holds frame.1)
      (fun index frame state outcome next _ ready turn => ?_) before run
    obtain ⟨check, -, found, -, rfl, rfl⟩ := checkTurn_return turn
    refine kept.aside (kept.checks ready found check.result_withoutWork)
      ⟨⟨check.exchange?.toList, rfl, fun event member => ?_⟩, rfl, rfl, Nat.le_refl _⟩
    obtain ⟨length, -, rfl⟩ := Option.map_eq_some_iff.mp (Option.mem_toList.mp member)
    rfl
  cases outcome with
  | next frame => exact ⟨frame.1, frame.2, rfl, turns⟩
  | done result => exact result.elim

/-- The checks and the pushes of one position. -/
theorem Kept.readLexemes (kept : Kept libc fuel build marpa holds) {count : Nat} {pushed : Bool}
    (before : holds wrapper world)
    (run : readLexemes libc marpa callbacks wrapper count world = .ok (pushed, wrapper') world') :
    holds wrapper' world' := by
  obtain ⟨ordered, state, sorted, rest⟩ := run_bind_eq_ok run
  obtain ⟨outcome, after, checked, rest⟩ := run_bind_eq_ok rest
  obtain ⟨between, maxLengthl, rfl, ready⟩ := kept.checkLoop (kept.orders before sorted) checked
  obtain ⟨through, final, ran, rest⟩ := run_bind_eq_ok rest
  cases rest
  exact kept.beside ready (fun _ => pushTerminals_plain _ _ _) ran

/-- The body of the loop of `marpaWrapper_r_recognizeb`. -/
theorem Kept.iteration (kept : Kept libc fuel build marpa holds) {goesOn : Bool}
    (before : holds wrapper world)
    (run : recognizeIteration libc fuel build marpa callbacks wrapper world =
      .ok (goesOn, wrapper') world') : holds wrapper' world' := by
  obtain ⟨shown, state, showed, rest⟩ := run_bind_eq_ok run
  obtain ⟨⟨count, between⟩, after, expected, rest⟩ := run_bind_eq_ok rest
  have ready := kept.expects (kept.shows before showed) expected
  cases count with
  | none => cases rest; exact ready
  | some count =>
    obtain ⟨⟨pushed, next⟩, final, read, rest⟩ := run_bind_eq_ok rest
    have done := kept.readLexemes ready read
    cases pushed with
    | false => cases rest; exact done
    | true =>
      obtain ⟨completed, last, ran, rest⟩ := run_bind_eq_ok rest
      cases rest
      exact kept.beside done (fun _ => marpaWrapperRCompleteb_plain) ran

theorem Kept.reader (kept : Kept libc fuel build marpa holds) (more endOfInput : Bool)
    (before : holds wrapper world) :
    holds wrapper { world with events := world.events ++ [.reader more endOfInput] } :=
  kept.aside before ⟨⟨_, rfl, List.forall_mem_singleton.mpr rfl⟩, rfl, rfl, Nat.le_refl _⟩

/-- One turn of the loop. -/
theorem Kept.turn (kept : Kept libc fuel build marpa holds)
    {outcome : Turn Wrapper (Bool × Wrapper)} (before : holds wrapper world)
    (run : recognizeTurn libc fuel build marpa callbacks wrapper world = .ok outcome world') :
    AfterTurn holds (fun result => holds result.2) outcome world' := by
  rw [recognizeTurn_run] at run
  by_cases more : (callbacks.reader world.events).1 = true
  · rw [if_pos more] at run
    obtain ⟨⟨goesOn, between⟩, state, ran, rest⟩ := run_bind_eq_ok run
    have ready := kept.iteration (kept.reader _ _ before) ran
    cases goesOn <;> cases rest <;> exact ready
  · rw [if_neg more] at run
    cases run
    exact kept.reader _ _ before

/-- A recognition keeps what each of its parts keeps. -/
theorem Kept.recognizeb (kept : Kept libc fuel build marpa holds)
    {option : Option (MarpaWrapperRecognizerOption V)} {result : Bool} (before : holds wrapper world)
    (run : marpaWrapperRRecognizeb libc fuel build marpa wrapper option world =
      .ok (result, wrapper') world') : holds wrapper' world' := by
  unfold marpaWrapperRRecognizeb at run
  cases given : option.bind (·.callbacks build.tracing) with
  | none => rw [given] at run; cases run; exact before
  | some callbacks =>
    rw [given] at run
    obtain ⟨⟨started, between⟩, state, begun, rest⟩ := run_bind_eq_ok run
    have ready := kept.startb before begun
    cases started with
    | false => cases rest; exact ready
    | true =>
      have turns : Triple (holds between)
          (loop .exhausted (recognizeTurn libc fuel build marpa callbacks) fuel between)
          (fun result => holds result.2) fun _ _ => True :=
        Triple.loop holds (fun frame => .of_return fun _ _ _ before turn => kept.turn before turn)
          (fun _ _ _ => trivial) fuel between
      exact turns.ok ready rest

/-- Every call that returns. -/
theorem Kept.call (kept : Kept libc fuel build marpa holds) {call : ApiCall V} {answer : ApiAnswer}
    (before : holds wrapper world)
    (run : call.run libc fuel build marpa wrapper world = .ok (answer, wrapper') world') :
    holds wrapper' world' := by
  have answered {program : Exec V Bool} (keeps : ∀ start, Keeps (Continued LeavesMarpa start) program)
      (run : answering wrapper program world = .ok (answer, wrapper') world') :
      holds wrapper' world' := by
    obtain ⟨result, between, ran, rest⟩ := run_bind_eq_ok run
    cases rest
    exact kept.beside before keeps ran
  cases call with
  | addSymbolp option =>
    obtain ⟨⟨pointer, between⟩, state, ran, rest⟩ := run_bind_eq_ok run
    cases rest
    exact kept.adds before ran
  | addRulep option =>
    obtain ⟨⟨pointer, between⟩, state, ran, rest⟩ := run_bind_eq_ok run
    cases rest
    exact kept.rules before ran
  | precomputeb =>
    obtain ⟨result, state, ran, rest⟩ := run_bind_eq_ok run
    cases rest
    obtain ⟨between, censused, continued⟩ := marpaWrapperGPrecomputeb_return ran
    exact kept.aside (kept.precomputes before censused) continued
  | startb =>
    obtain ⟨⟨result, between⟩, state, ran, rest⟩ := run_bind_eq_ok run
    cases rest
    exact kept.startb before ran
  | alternativeb symbolp value length =>
    exact answered (fun _ => marpaWrapperRAlternativeb_plain _ _ _) run
  | completeb => exact answered (fun _ => marpaWrapperRCompleteb_plain) run
  | readb symbolp value length =>
    exact answered (fun _ => .bind (marpaWrapperRAlternativeb_plain _ _ _) fun _ =>
      .ite marpaWrapperRCompleteb_plain (.pure _)) run
  | eventActivateb symbolp eventSeti onb =>
    exact answered (fun _ => marpaWrapperREventActivateb_plain _ _ _) run
  | terminalsExpectedb =>
    obtain ⟨⟨count, between⟩, state, ran, rest⟩ := run_bind_eq_ok run
    cases rest
    exact kept.expects before ran
  | terminalIsExpectedb symbolp =>
    obtain ⟨result, between, ran, rest⟩ := run_bind_eq_ok run
    cases rest
    exact kept.beside before (fun _ => marpaWrapperRTerminalIsExpectedb_plain _) ran
  | progressb starti endi =>
    obtain ⟨⟨count, between⟩, state, ran, rest⟩ := run_bind_eq_ok run
    cases rest
    exact kept.progresses before ran
  | recognizeb option =>
    obtain ⟨⟨result, between⟩, state, ran, rest⟩ := run_bind_eq_ok run
    cases rest
    exact kept.recognizeb before ran
  | vb valueOption stackOption =>
    exact answered (fun _ => Continued.of_grown fun _ => marpaWrapperVb_plain _ _ _) run

/-! ### Reachable states -/

/-- Every state that a session reaches. -/
theorem Kept.session (kept : Kept libc fuel build marpa holds) {option : Option MarpaWrapperOption}
    {calls : List (ApiCall V)} {answers : List ApiAnswer} {initial : World V}
    (created : ∀ {wrapper world}, marpaWrapperNewp libc marpa option initial =
      .ok (some wrapper) world → holds wrapper world)
    (run : session libc fuel build marpa option calls initial =
      .ok (some (answers, wrapper)) world) : holds wrapper world := by
  obtain ⟨fresh, between, made, rest⟩ := run_bind_eq_ok run
  cases fresh with
  | none => cases rest
  | some fresh =>
    obtain ⟨⟨answers', last⟩, state, ran, rest⟩ := run_bind_eq_ok rest
    cases rest
    exact runCalls_keeps holds (fun call machine state answer machine' state' before run =>
      kept.call before run) (created made) ran

/-- A session created its wrapper, and every call returned. -/
def reaches (result : EStateM.Result Fault (World V) (Option (List ApiAnswer × Wrapper))) : Bool :=
  match result with
  | .ok (some _) _ => true
  | _ => false

theorem reaches_ok {result : EStateM.Result Fault (World V) (Option (List ApiAnswer × Wrapper))}
    (reached : reaches result = true) : ∃ value world, result = .ok (some value) world := by
  cases result with
  | error fault state => cases reached
  | ok value state =>
    cases value with
    | none => cases reached
    | some value => exact ⟨value, state, rfl⟩

/-- The states in which `marpaWrapper_r_recognizeb` begins a turn of its loop. -/
inductive Turning (libc : Libc V) (fuel : Nat) (build : Build) (marpa : Libmarpa V)
    (callbacks : RecognizerCallbacks V) (wrapper : Wrapper) (world : World V) :
    Wrapper → World V → Prop
  | begun {wrapper' : Wrapper} {world' : World V}
      (run : marpaWrapperRStartb libc marpa wrapper world = .ok (true, wrapper') world') :
      Turning libc fuel build marpa callbacks wrapper world wrapper' world'
  | turned {between wrapper' : Wrapper} {state world' : World V}
      (turning : Turning libc fuel build marpa callbacks wrapper world between state)
      (run : recognizeTurn libc fuel build marpa callbacks between state =
        .ok (.next wrapper') world') :
      Turning libc fuel build marpa callbacks wrapper world wrapper' world'

/-- The states in which `marpaWrapper_r_terminals_expectedb` is called: by the user after a session,
and in a turn of `marpaWrapper_r_recognizeb` after a session. -/
inductive AsksTerminals (libc : Libc V) (fuel : Nat) (build : Build) (marpa : Libmarpa V)
    (option : Option MarpaWrapperOption) (initial : World V) : Wrapper → World V → Prop
  | called {calls : List (ApiCall V)} {answers : List ApiAnswer} {wrapper : Wrapper}
      {world : World V}
      (reached : session libc fuel build marpa option calls initial =
        .ok (some (answers, wrapper)) world) :
      AsksTerminals libc fuel build marpa option initial wrapper world
  | recognizing {calls : List (ApiCall V)} {answers : List ApiAnswer}
      {wrapper between wrapper' : Wrapper} {world state world' : World V}
      (reached : session libc fuel build marpa option calls initial =
        .ok (some (answers, wrapper)) world)
      {recognizerOption : MarpaWrapperRecognizerOption V} {callbacks : RecognizerCallbacks V}
      (given : recognizerOption.callbacks build.tracing = some callbacks)
      (turning : Turning libc fuel build marpa callbacks wrapper world between state)
      (more : (callbacks.reader state.events).1 = true)
      (shown : showProgress libc fuel build marpa between { state with
        events := state.events ++ [.reader true (callbacks.reader state.events).2] } =
          .ok wrapper' world') :
      AsksTerminals libc fuel build marpa option initial wrapper' world'

theorem Kept.turning (kept : Kept libc fuel build marpa holds) (before : holds wrapper world)
    (turning : Turning libc fuel build marpa callbacks wrapper world wrapper' world') :
    holds wrapper' world' := by
  induction turning with
  | begun run => exact kept.startb before run
  | turned _ run inductionHypothesis => exact kept.turn inductionHypothesis run

theorem Kept.asksTerminals (kept : Kept libc fuel build marpa holds)
    {option : Option MarpaWrapperOption} {initial : World V}
    (created : ∀ {wrapper world}, marpaWrapperNewp libc marpa option initial =
      .ok (some wrapper) world → holds wrapper world)
    (asks : AsksTerminals libc fuel build marpa option initial wrapper world) :
    holds wrapper world := by
  cases asks with
  | called reached => exact kept.session created reached
  | recognizing reached given turning more shown =>
    exact kept.shows (kept.reader _ _ (kept.turning (kept.session created reached) turning)) shown

end Kept

end MarpaWrapper
