/-
This file replays a recognition by hand. A turn of the loop of `marpaWrapper_r_recognizeb`
reports the progress, asks for the expected terminals, passes tokens and completes the Earley
set, and what it does in between, the order of the terminals and the lengths of the lexemes,
makes no exchange outside the user's callbacks. So the calls of the positions, one after the
other, are the calls of a client.
-/

import MarpaWrapper.ManualControl
import MarpaWrapper.RepeatedRecognition

namespace MarpaWrapper

open Effects Sorting

variable {V : Type}

/-! ### Calls -/

/-- A token as it is passed by hand: the symbol, the value and the length. -/
abbrev Token := Nat × Int × Int

/-- The call that passes a token. -/
def Token.call (token : Token) : ApiCall V := .alternativeb (some token.1) token.2.1 token.2.2

/-- The calls of one position of the input. -/
def positionCalls (tracing : Bool) (tokens : List Token) : List (ApiCall V) :=
  (if tracing then [.progressb (-1) (-1)] else []) ++
    .terminalsExpectedb :: tokens.map Token.call ++ [.completeb]

/-- The calls of a whole input. -/
def manualCalls (tracing : Bool) (positions : List (List Token)) : List (ApiCall V) :=
  .startb :: positions.flatMap (positionCalls tracing)

/-- Whether a call serves the trace only. -/
def ApiCall.traces : ApiCall V → Bool
  | .progressb _ _ => true
  | _ => false

/-- Whether an answer reports success. -/
def ApiAnswer.succeeded : ApiAnswer → Bool
  | .pointer target => target.isSome
  | .bool result => result
  | .count number => number.isSome
  | .isExpected result => result.isSome

/-- All calls succeeded, but for those of the trace. -/
def AllSucceeded (calls : List (ApiCall V)) (answers : List ApiAnswer) : Prop :=
  List.Forall₂ (fun call answer => call.traces = true ∨ answer.succeeded = true) calls answers

theorem AllSucceeded.append {calls more : List (ApiCall V)} {answers others : List ApiAnswer}
    (first : AllSucceeded calls answers) (second : AllSucceeded more others) :
    AllSucceeded (calls ++ more) (answers ++ others) :=
  List.rel_append first second

/-- The calls of a client with manual control on the recognizer. -/
def ApiCall.manual : ApiCall V → Bool
  | .startb | .alternativeb _ _ _ | .completeb | .terminalsExpectedb | .progressb _ _ => true
  | _ => false

section Driven

variable (libc : Libc V) (fuel : Nat) (build : Build) (marpa : Libmarpa V)

/-- The calls lead by hand from one state to the other, whatever a recognition has kept for itself
in the wrapper. -/
def Driven (wrapper : Wrapper) (world : World V) (calls : List (ApiCall V))
    (answers : List ApiAnswer) (wrapper' : Wrapper) (world' : World V) : Prop :=
  ∀ hand, Reworked wrapper hand → ∃ hand',
    runCalls (ApiCall.run libc fuel build marpa) calls hand world.withoutReading =
      .ok (answers, hand') world'.withoutReading ∧ Reworked wrapper' hand'

variable {libc fuel build marpa} {wrapper between wrapper' hand : Wrapper}
  {world state world' : World V} {calls more : List (ApiCall V)} {answers others : List ApiAnswer}

/-- The recognition does something of its own. -/
theorem Driven.own (reworked : Reworked wrapper wrapper')
    (same : world'.withoutReading = world.withoutReading) :
    Driven libc fuel build marpa wrapper world [] [] wrapper' world' := by
  intro hand apart
  rw [same]
  exact ⟨hand, rfl, reworked.symm.trans apart⟩

theorem Driven.append (first : Driven libc fuel build marpa wrapper world calls answers between state)
    (second : Driven libc fuel build marpa between state more others wrapper' world') :
    Driven libc fuel build marpa wrapper world (calls ++ more) (answers ++ others) wrapper'
      world' := by
  intro hand apart
  obtain ⟨hand', head, apart'⟩ := first hand apart
  obtain ⟨hand'', tail, apart''⟩ := second hand' apart'
  exact ⟨hand'', runCalls_append head tail, apart''⟩

/-- The functions of the interface run in the same way. -/
theorem ApiCall.run_reworked (fuel : Nat) (build : Build) (granted : libc.Unaware)
    (unaware : marpa.Unaware) {call : ApiCall V} (manual : call.manual = true) (reworked : Reworked wrapper hand) :
    Lockstep ReadingAside (call.run libc fuel build marpa wrapper)
      (call.run libc fuel build marpa hand) ReworkedResult := by
  cases call
  case startb =>
    refine (marpaWrapperRStartb_reworked granted unaware reworked).bind ?_
    rintro ⟨result, between⟩ ⟨_, between'⟩ ⟨rfl, same⟩
    exact .pure ⟨rfl, same⟩
  case alternativeb pointer value length =>
    refine (marpaWrapperRAlternativeb_reworked unaware reworked pointer value length).bind ?_
    rintro result _ rfl
    exact .pure ⟨rfl, reworked⟩
  case completeb =>
    refine (marpaWrapperRCompleteb_reworked granted unaware reworked).bind ?_
    rintro result _ rfl
    exact .pure ⟨rfl, reworked⟩
  case terminalsExpectedb =>
    refine (marpaWrapperRTerminalsExpectedb_reworked granted unaware reworked).bind ?_
    rintro ⟨result, between⟩ ⟨_, between'⟩ ⟨rfl, same⟩
    exact .pure ⟨rfl, same⟩
  case progressb starti endi =>
    refine (marpaWrapperRProgressb_reworked granted unaware reworked starti endi).bind ?_
    rintro ⟨result, between⟩ ⟨_, between'⟩ ⟨rfl, same⟩
    exact .pure ⟨rfl, same⟩
  all_goals cases manual

/-- One call. -/
theorem Driven.call (granted : libc.Unaware) (unaware : marpa.Unaware) (call : ApiCall V)
    {answer : ApiAnswer} (manual : call.manual = true)
    (run : call.run libc fuel build marpa wrapper world = .ok (answer, wrapper') world') :
    Driven libc fuel build marpa wrapper world [call] [answer] wrapper' world' := by
  intro hand apart
  have outcomes := ApiCall.run_reworked fuel build granted unaware manual apart world
    world.withoutReading rfl
  rw [run] at outcomes
  generalize byHand : call.run libc fuel build marpa hand world.withoutReading = outcome
    at outcomes
  cases outcomes with
  | @ok _ result _ state aside same =>
    obtain ⟨answer', hand'⟩ := result
    obtain ⟨rfl, apart'⟩ := same
    obtain rfl := aside
    exact ⟨hand', by rw [runCalls_cons byHand]; rfl, apart'⟩

end Driven

/-! ### What a recognition does of its own -/

section Own

variable {libc : Libc V} {callbacks : RecognizerCallbacks V} {wrapper wrapper' : Wrapper}
  {world world' : World V}

/-- Exchanges with the reading callbacks do not count. -/
theorem World.withoutReading_read {exchanges : List (Event V)}
    (reading : ∀ event ∈ exchanges, event.ofReading = true) :
    { world with events := world.events ++ exchanges }.withoutReading = world.withoutReading := by
  have nothing : MarpaWrapper.withoutReading exchanges = [] :=
    List.filter_eq_nil_iff.mpr fun event member => by rw [reading event member]; exact nofun
  unfold World.withoutReading
  simp only
  rw [withoutReading_append, nothing, List.append_nil]

/-- A symbol is written back with other work fields. -/
theorem reworked_withSymbol {pointer : Nat} {symbol result : MarpaWrapperSymbol}
    (found : lookup wrapper.marpaWrapperSymbolpp pointer = some symbol)
    (same : result.withoutWork = symbol.withoutWork) :
    Reworked wrapper (wrapper.withSymbol pointer result) := by
  have table := sameTable_withSymbol found same
  refine ⟨⟨_, _, rfl⟩, ?_, rfl⟩
  unfold SameTable at table
  unfold Wrapper.withSymbol at table ⊢
  simp only at table ⊢
  cases there : wrapper.marpaWrapperSymbolpp with
  | none => rfl
  | some block =>
    rw [there] at table
    exact congrArg some (congrArg (Prod.mk block.address) (Option.some.inj table).symm)

theorem orderTerminals_reworked (conforms : Conforms libc.qsort) {count : Nat}
    (run : orderTerminals libc callbacks wrapper count world = .ok wrapper' world') :
    Reworked wrapper wrapper' ∧ world' = world := by
  obtain ⟨same, pointers, rfl, extents⟩ := orderTerminals_extent conforms run
  exact ⟨⟨⟨_, _, rfl⟩, rfl, extents⟩, same⟩

/-- The checks of the terminals. -/
theorem checkLoop_reworked {count maxLengthl : Nat} {outcome : Turn (Wrapper × Nat) Empty}
    (run : forEach (checkTurn callbacks) (List.range count) (wrapper, maxLengthl) world =
      .ok outcome world') :
    AfterTurn (fun frame state => Reworked wrapper frame.1 ∧
      state.withoutReading = world.withoutReading) (fun _ _ => True) outcome world' := by
  refine forEach_return (fun _ frame state => Reworked wrapper frame.1 ∧
    state.withoutReading = world.withoutReading) ?_ ⟨.refl wrapper, rfl⟩ run
  rintro index _ ⟨between, longest⟩ state outcome next ⟨reworked, same⟩ turned
  obtain ⟨check, -, found, -, rfl, rfl⟩ := checkTurn_return turned
  refine ⟨reworked.trans (reworked_withSymbol found check.result_withoutWork), ?_⟩
  rw [World.withoutReading_read, same]
  intro event member
  obtain ⟨answer, -, rfl⟩ := Option.map_eq_some_iff.mp (Option.mem_toList.mp member)
  rfl

/-- The walk of the trace makes no exchange. -/
theorem traceLoop_world {count : Nat} {outcome : Turn Unit Empty}
    (run : forEach (traceTurn wrapper) (List.range count) () world = .ok outcome world') :
    world' = world := by
  have walked : AfterTurn (fun _ state => state = world) (fun _ _ => True) outcome world' := by
    refine forEach_return (fun _ _ state => state = world) ?_ rfl run
    rintro index _ _ state outcome next rfl turned
    obtain ⟨item, _, read, rest⟩ := run_bind_eq_ok turned
    obtain rfl := readCell_world read
    cases item with
    | none => cases rest
    | some item =>
      cases pointed : item.marpaWrapperRulep with
      | none => simp only [pointed] at rest; cases rest
      | some pointer =>
        simp only [pointed] at rest
        obtain ⟨rule, _, read, last⟩ := run_bind_eq_ok rest
        obtain rfl := readObject_world read
        cases rule with
        | none => cases last
        | some rule => cases last; rfl
  cases outcome with
  | next _ => exact walked
  | done impossible => exact impossible.elim

end Own

/-! ### The recognition -/

section Recognition

variable {libc : Libc V} {fuel : Nat} {build : Build} {marpa : Libmarpa V}
  {callbacks : RecognizerCallbacks V} {wrapper wrapper' : Wrapper} {world world' : World V}

/-- The trace of a position. -/
theorem showProgress_driven (granted : libc.Unaware) (unaware : marpa.Unaware)
    (run : showProgress libc fuel build marpa wrapper world = .ok wrapper' world') :
    ∃ answers,
      Driven libc fuel build marpa wrapper world
        (if build.tracing then [.progressb (-1) (-1)] else []) answers wrapper' world' ∧
      AllSucceeded (V := V) (if build.tracing then [.progressb (-1) (-1)] else []) answers := by
  unfold showProgress at run
  by_cases tracing : build.tracing = true
  · simp only [if_pos tracing] at run ⊢
    obtain ⟨⟨progress, between⟩, state, reported, rest⟩ := run_bind_eq_ok run
    obtain ⟨_, state', walked, last⟩ := run_bind_eq_ok rest
    obtain rfl := traceLoop_world walked
    cases last
    exact ⟨[.count progress], .call granted unaware _ rfl (run_bind_ok reported),
      .cons (.inl rfl) .nil⟩
  · simp only [if_neg tracing] at run ⊢
    cases run
    exact ⟨[], .own (.refl wrapper) rfl, .nil⟩

/-- One turn of the pushes passes one token, or none. -/
theorem pushTurn_driven (fuel : Nat) (build : Build) (granted : libc.Unaware)
    (unaware : marpa.Unaware) {maxLengthl index : Nat} {value : Int × Int} {outcome : Turn (Int × Int) Unit}
    (run : pushTurn marpa callbacks wrapper maxLengthl index value world = .ok outcome world') :
    ∃ (tokens : List Token) (answers : List ApiAnswer),
      Driven libc fuel build marpa wrapper world (tokens.map Token.call) answers wrapper world' ∧
      ((∃ following, outcome = .next following) →
        AllSucceeded (V := V) (tokens.map Token.call) answers) := by
  obtain ⟨⟨pointer, symbol⟩, state, found, rest⟩ := run_bind_eq_ok run
  obtain ⟨rfl, -, -⟩ := expectedSymbol_eq_ok found
  by_cases chosen : selected callbacks symbol.lengthl maxLengthl = true
  · simp only [if_pos chosen] at rest
    obtain ⟨token, between, valued, rest⟩ := run_bind_eq_ok rest
    have read : Driven libc fuel build marpa wrapper state [] [] wrapper between := by
      unfold tokenValue at valued
      split at valued
      · cases valued
        exact .own (.refl wrapper) rfl
      · cases valued
        exact .own (.refl wrapper) (World.withoutReading_read (List.forall_mem_singleton.mpr rfl))
    cases token with
    | none =>
      cases rest
      exact ⟨[], [], read, fun ⟨_, impossible⟩ => nomatch impossible⟩
    | some token =>
      obtain ⟨accepted, final, passed, rest⟩ := run_bind_eq_ok rest
      cases rest
      refine ⟨[(pointer, token)], [.bool accepted],
        read.append (.call granted unaware _ rfl (run_bind_ok passed)), ?_⟩
      rintro ⟨following, same⟩
      cases accepted with
      | false => cases same
      | true => exact .cons (.inr rfl) .nil
  · simp only [if_neg chosen] at rest
    cases rest
    exact ⟨[], [], .own (.refl wrapper) rfl, fun _ => .nil⟩

/-- The pushes pass tokens one by one. -/
theorem pushTerminals_driven (fuel : Nat) (build : Build) (granted : libc.Unaware)
    (unaware : marpa.Unaware) {count maxLengthl : Nat} {pushed : Bool}
    (run : pushTerminals marpa callbacks wrapper count maxLengthl world = .ok pushed world') :
    ∃ (tokens : List Token) (answers : List ApiAnswer),
      Driven libc fuel build marpa wrapper world (tokens.map Token.call) answers wrapper world' ∧
      (pushed = true → AllSucceeded (V := V) (tokens.map Token.call) answers) := by
  unfold pushTerminals at run
  by_cases matched : maxLengthl > 0
  · rw [if_pos matched] at run
    obtain ⟨outcome, state, looped, rest⟩ := run_bind_eq_ok run
    have turned : AfterTurn
        (fun _ state => ∃ (tokens : List Token) (answers : List ApiAnswer),
          Driven libc fuel build marpa wrapper world (tokens.map Token.call) answers wrapper
            state ∧ AllSucceeded (V := V) (tokens.map Token.call) answers)
        (fun _ state => ∃ (tokens : List Token) (answers : List ApiAnswer),
          Driven libc fuel build marpa wrapper world (tokens.map Token.call) answers wrapper state)
        outcome state := by
      refine forEach_return (fun _ _ state => ∃ (tokens : List Token) (answers : List ApiAnswer),
        Driven libc fuel build marpa wrapper world (tokens.map Token.call) answers wrapper
          state ∧ AllSucceeded (V := V) (tokens.map Token.call) answers) ?_
        ⟨[], [], .own (.refl wrapper) rfl, .nil⟩ looped
      rintro index _ value state outcome next ⟨tokens, answers, driven, succeeded⟩ turned
      obtain ⟨more, others, driven', succeeded'⟩ := pushTurn_driven fuel build granted unaware turned
      have both := driven.append driven'
      rw [← List.map_append] at both
      cases outcome with
      | next following =>
        refine ⟨tokens ++ more, answers ++ others, both, ?_⟩
        rw [List.map_append]
        exact succeeded.append (succeeded' ⟨_, rfl⟩)
      | done _ => exact ⟨tokens ++ more, answers ++ others, both⟩
    cases outcome with
    | next _ =>
      obtain ⟨tokens, answers, driven, succeeded⟩ := turned
      cases rest
      exact ⟨tokens, answers, driven, fun _ => succeeded⟩
    | done _ =>
      obtain ⟨tokens, answers, driven⟩ := turned
      cases rest
      exact ⟨tokens, answers, driven, nofun⟩
  · rw [if_neg matched] at run
    cases run
    exact ⟨[], [], .own (.refl wrapper) rfl, fun _ => .nil⟩

/-- The lexemes of a position are passed as tokens. -/
theorem readLexemes_driven (fuel : Nat) (build : Build) (granted : libc.Unaware)
    (unaware : marpa.Unaware) (conforms : Conforms libc.qsort) {count : Nat} {pushed : Bool}
    (run : readLexemes libc marpa callbacks wrapper count world = .ok (pushed, wrapper') world') :
    ∃ (tokens : List Token) (answers : List ApiAnswer),
      Driven libc fuel build marpa wrapper world (tokens.map Token.call) answers wrapper' world' ∧
      (pushed = true → AllSucceeded (V := V) (tokens.map Token.call) answers) := by
  obtain ⟨ordered, state, sorted, rest⟩ := run_bind_eq_ok run
  obtain ⟨reworked, rfl⟩ := orderTerminals_reworked conforms sorted
  obtain ⟨outcome, between, checked, rest⟩ := run_bind_eq_ok rest
  have looped := checkLoop_reworked checked
  cases outcome with
  | done impossible => exact impossible.elim
  | next frame =>
    obtain ⟨following, maxLengthl⟩ := frame
    obtain ⟨reworked', same⟩ := looped
    obtain ⟨through, final, passed, last⟩ := run_bind_eq_ok rest
    cases last
    obtain ⟨tokens, answers, driven, succeeded⟩ :=
      pushTerminals_driven fuel build granted unaware passed
    exact ⟨tokens, answers, (Driven.own (reworked.trans reworked') same).append driven, succeeded⟩

/-- The calls of one iteration are the first calls of a position, or all of them. -/
theorem recognizeIteration_driven (granted : libc.Unaware) (unaware : marpa.Unaware)
    (conforms : Conforms libc.qsort) {goesOn : Bool}
    (run : recognizeIteration libc fuel build marpa callbacks wrapper world =
      .ok (goesOn, wrapper') world') :
    ∃ (tokens : List Token) (calls : List (ApiCall V)) (answers : List ApiAnswer),
      Driven libc fuel build marpa wrapper world calls answers wrapper' world' ∧
      calls <+: positionCalls build.tracing tokens ∧
      (goesOn = true → calls = positionCalls build.tracing tokens ∧
        AllSucceeded calls answers) := by
  obtain ⟨shown, state, traced, rest⟩ := run_bind_eq_ok run
  obtain ⟨answers, driven, succeeded⟩ := showProgress_driven granted unaware traced
  obtain ⟨⟨expected, between⟩, state', asked, rest⟩ := run_bind_eq_ok rest
  have driven' := driven.append
    (.call granted unaware .terminalsExpectedb rfl (run_bind_ok asked))
  cases expected with
  | none =>
    cases rest
    refine ⟨[], _, _, driven', ?_, nofun⟩
    unfold positionCalls
    rw [List.append_assoc]
    exact (List.prefix_append_right_inj _).mpr (List.prefix_append _ _)
  | some count =>
    obtain ⟨⟨pushed, lexed⟩, final, passed, rest⟩ := run_bind_eq_ok rest
    obtain ⟨tokens, others, driven'', succeeded'⟩ :=
      readLexemes_driven fuel build granted unaware conforms passed
    have opened := driven'.append driven''
    have first : AllSucceeded (V := V) [.terminalsExpectedb] [.count (some count)] :=
      .cons (.inr rfl) .nil
    cases pushed with
    | false =>
      cases rest
      refine ⟨tokens, _, _, opened, ?_, nofun⟩
      unfold positionCalls
      rw [List.append_assoc, List.append_assoc]
      exact (List.prefix_append_right_inj _).mpr (List.prefix_append _ _)
    | true =>
      obtain ⟨completed, after, closed, last⟩ := run_bind_eq_ok rest
      cases last
      have whole := opened.append (.call granted unaware .completeb rfl (run_bind_ok closed))
      have same : (if build.tracing then [.progressb (-1) (-1)] else []) ++ [.terminalsExpectedb] ++
          tokens.map Token.call ++ [.completeb] = positionCalls (V := V) build.tracing tokens := by
        unfold positionCalls
        rw [List.append_assoc _ [_]]
        rfl
      refine ⟨tokens, _, _, whole, ?_, ?_⟩
      · rw [same]
      · rintro rfl
        exact ⟨same, ((succeeded.append first).append (succeeded' rfl)).append
          (.cons (.inr rfl) .nil)⟩

/-- The calls of the loop are those of the positions, one after the other. -/
theorem recognizeLoop_driven (granted : libc.Unaware) (unaware : marpa.Unaware)
    (conforms : Conforms libc.qsort) {turns : Nat} {result : Bool}
    (run : loop .exhausted (recognizeTurn libc fuel build marpa callbacks) turns wrapper world =
      .ok (result, wrapper') world') :
    ∃ (positions : List (List Token)) (calls : List (ApiCall V)) (answers : List ApiAnswer),
      Driven libc fuel build marpa wrapper world calls answers wrapper' world' ∧
      calls <+: positions.flatMap (positionCalls build.tracing) ∧
      (result = true → calls = positions.flatMap (positionCalls build.tracing) ∧
        AllSucceeded calls answers) := by
  induction turns generalizing wrapper world with
  | zero => cases run
  | succ turns inductionHypothesis =>
    obtain ⟨outcome, state, turned, rest⟩ := run_bind_eq_ok run
    obtain ⟨⟨more, endOfInputb⟩, asked, reading, body⟩ := run_bind_eq_ok turned
    have read : Driven libc fuel build marpa wrapper world [] [] wrapper asked := by
      obtain ⟨-, rfl⟩ := ask_return reading
      exact .own (.refl wrapper) (World.withoutReading_read (List.forall_mem_singleton.mpr rfl))
    cases more with
    | false =>
      cases body
      cases rest
      exact ⟨[], [], [], read, List.prefix_rfl, fun _ => ⟨rfl, .nil⟩⟩
    | true =>
      obtain ⟨⟨goesOn, between⟩, after, iterated, last⟩ := run_bind_eq_ok body
      cases last
      obtain ⟨tokens, calls, answers, driven, begun, whole⟩ :=
        recognizeIteration_driven granted unaware conforms iterated
      have driven := read.append driven
      cases goesOn with
      | false =>
        cases rest
        refine ⟨[tokens], calls, answers, driven, ?_, nofun⟩
        rw [List.flatMap_singleton]
        exact begun
      | true =>
        obtain ⟨rfl, succeeded⟩ := whole rfl
        obtain ⟨positions, more, others, driven', begun', whole'⟩ := inductionHypothesis rest
        refine ⟨tokens :: positions, _, _, driven.append driven', ?_, fun holds => ?_⟩
        · rw [List.flatMap_cons]
          exact (List.prefix_append_right_inj _).mpr begun'
        · obtain ⟨rfl, succeeded'⟩ := whole' holds
          exact ⟨by rw [List.flatMap_cons]; rfl, succeeded.append succeeded'⟩

/-- A recognition is a list of calls of the interface: each of its runs can be made by hand, with
the same exchanges and the same wrapper, and when it returns `TRUE` every call was made and
succeeded. -/
theorem marpaWrapperRRecognizeb_byHand (granted : libc.Unaware) (unaware : marpa.Unaware)
    (conforms : Conforms libc.qsort) {option : Option (MarpaWrapperRecognizerOption V)}
    {result : Bool} (run : marpaWrapperRRecognizeb libc fuel build marpa wrapper option world =
      .ok (result, wrapper') world') :
    ∃ (positions : List (List Token)) (calls : List (ApiCall V)) (answers : List ApiAnswer)
      (hand : Wrapper),
      runCalls (ApiCall.run libc fuel build marpa) calls wrapper world.withoutReading =
        .ok (answers, hand) world'.withoutReading ∧
      Reworked wrapper' hand ∧ calls <+: manualCalls build.tracing positions ∧
      (result = true → calls = manualCalls build.tracing positions ∧
        AllSucceeded calls answers) := by
  unfold marpaWrapperRRecognizeb at run
  cases given : option.bind (·.callbacks build.tracing) with
  | none =>
    rw [given] at run
    cases run
    exact ⟨[], [], [], wrapper, rfl, .refl wrapper, List.nil_prefix, nofun⟩
  | some callbacks =>
    rw [given] at run
    obtain ⟨⟨started, between⟩, state, start, rest⟩ := run_bind_eq_ok run
    have begun : Driven libc fuel build marpa wrapper world [.startb] [.bool started] between
        state := .call granted unaware _ rfl (run_bind_ok start)
    cases started with
    | false =>
      cases rest
      obtain ⟨hand, byHand, reworked⟩ := begun wrapper (.refl wrapper)
      exact ⟨[], _, _, hand, byHand, reworked, List.prefix_append _ _, nofun⟩
    | true =>
      obtain ⟨positions, calls, answers, driven, prefixes, whole⟩ :=
        recognizeLoop_driven granted unaware conforms rest
      obtain ⟨hand, byHand, reworked⟩ := begun.append driven wrapper (.refl wrapper)
      refine ⟨positions, _, _, hand, byHand, reworked,
        (List.prefix_append_right_inj _).mpr prefixes, fun holds => ?_⟩
      obtain ⟨rfl, succeeded⟩ := whole holds
      exact ⟨rfl, .cons (.inr rfl) succeeded⟩

/-- One token that is passed by hand. -/
theorem marpaWrapperRRecognizeb_byHand_one : ∃ wrapper world wrapper' world',
    marpaWrapperRRecognizeb (Libc.limited (2 ^ 63)) (2 ^ 32) {} (onePosition []) wrapper
      (some oneToken) world = .ok (true, wrapper') world' ∧
    ∃ (positions : List (List Token)) (calls : List (ApiCall Nat)) (answers : List ApiAnswer)
      (hand : Wrapper),
      runCalls (ApiCall.run (Libc.limited (2 ^ 63)) (2 ^ 32) {} (onePosition [])) calls wrapper
        world.withoutReading = .ok (answers, hand) world'.withoutReading ∧
      Reworked wrapper' hand ∧ calls <+: manualCalls false positions ∧
      (true = true → calls = manualCalls false positions ∧ AllSucceeded calls answers) := by
  obtain ⟨_, wrapper, world, wrapper', world', -, run, -, -⟩ :=
    oneTokenResult_reaches (show oneTokenResult [] = some true by decide +kernel)
  refine ⟨wrapper, world, wrapper', world', run, ?_⟩
  refine marpaWrapperRRecognizeb_byHand (fun _ _ => rfl) ?_ inserting_conforms run
  constructor <;> (intros; intro; rfl)

end Recognition

end MarpaWrapper
