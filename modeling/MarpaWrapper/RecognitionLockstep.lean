/-
This file runs the functions of the recognizer on two wrappers that have the same grammar.
The two wrappers may have been through different histories. Their symbols may hold what
different lexeme callbacks answered, and their blocks may lie at different addresses. What a
recognition reads of its wrapper is the same in both, and what is not the same it overwrites
before it reads it: the arrays of the expected terminals are dropped with the recognizer
before, and the lengths of the terminals that are expected are set before they are compared.
-/

import MarpaWrapper.Iterations
import MarpaWrapper.OwnView

namespace MarpaWrapper

open Effects Sorting

variable {V : Type}

/-! ### Wrappers -/

/-- Two wrappers with the same options, the same rules, and the same symbols up to their work
fields. -/
structure Peers (wrapper wrapper' : Wrapper) : Prop where
  options : wrapper.marpaWrapperOption = wrapper'.marpaWrapperOption
  symbols : SameTable MarpaWrapperSymbol.withoutWork wrapper.marpaWrapperSymbolpp
    wrapper'.marpaWrapperSymbolpp
  rules : wrapper.marpaWrapperRulepp = wrapper'.marpaWrapperRulepp

/-- Two wrappers in the middle of a recognition: moreover both have a recognizer, or none has, and
their arrays of expected terminals have the same contents. -/
structure Prepared (wrapper wrapper' : Wrapper) : Prop where
  peers : Peers wrapper wrapper'
  recognizer : wrapper.marpaRecognizerp.isSome = wrapper'.marpaRecognizerp.isSome
  ids : wrapper.expectedMarpaSymbolIdArrayp.map (·.cells) =
    wrapper'.expectedMarpaSymbolIdArrayp.map (·.cells)
  pointers : wrapper.expectedMarpaWrapperSymbolArraypp.map (·.cells) =
    wrapper'.expectedMarpaWrapperSymbolArraypp.map (·.cells)

section Functions

variable {libc : Libc V} {marpa : Libmarpa V} {callbacks : RecognizerCallbacks V}
  {wrapper wrapper' : Wrapper} {start start' : World V}

theorem Prepared.isNone (prepared : Prepared wrapper wrapper') :
    wrapper.marpaRecognizerp.isNone = true ↔ wrapper'.marpaRecognizerp.isNone = true := by
  rw [Option.isNone_iff_eq_none, Option.isNone_iff_eq_none, ← Option.not_isSome_iff_eq_none,
    ← Option.not_isSome_iff_eq_none, prepared.recognizer]

theorem Prepared.expectedCells (prepared : Prepared wrapper wrapper') :
    expectedCells wrapper = expectedCells wrapper' :=
  congrArg (·.getD []) prepared.pointers

/-- A symbol is read up to its work fields. -/
theorem readSymbol_lockstep {alike : World V → World V → Prop} (peers : Peers wrapper wrapper')
    (pointer : Nat) :
    Lockstep alike (readSymbol wrapper pointer) (readSymbol wrapper' pointer)
      fun symbol symbol' => symbol.withoutWork = symbol'.withoutWork := by
  refine (readObject_lockstep peers.symbols pointer).bind fun symbol symbol' symbols => ?_
  cases symbol with
  | none =>
    cases symbol' with
    | none => exact .throw _
    | some symbol' => cases symbols
  | some symbol =>
    cases symbol' with
    | none => cases symbols
    | some symbol' => exact .pure (Option.some.inj symbols)

/-! ### Events -/

theorem marpaGEventCount_lockstep (afresh : marpa.AnswersAfresh start.events start'.events) :
    Lockstep (Alike start start') (marpaGEventCount marpa) (marpaGEventCount marpa) Eq := by
  intro world world' alike
  unfold marpaGEventCount
  rw [alike.answers afresh.eventCountFails, alike.queue]
  exact .ok (alike.exchange rfl rfl rfl alike.symbols alike.queue) rfl

theorem marpaGEvent_lockstep (afresh : marpa.AnswersAfresh start.events start'.events)
    (index : Nat) :
    Lockstep (Alike start start') (marpaGEvent marpa index) (marpaGEvent marpa index) Eq := by
  intro world world' alike
  have fails : marpa.eventFails world.events index = marpa.eventFails world'.events index :=
    alike.answers (afresh.eventFails index)
  unfold marpaGEvent
  rw [fails, alike.queue]
  exact .ok (alike.exchange rfl rfl rfl alike.symbols alike.queue) rfl

theorem eventTurn_lockstep (afresh : marpa.AnswersAfresh start.events start'.events)
    (peers : Peers wrapper wrapper') (index : Nat) (collected : List MarpaWrapperEvent) :
    Lockstep (Alike start start') (eventTurn marpa wrapper index collected)
      (eventTurn marpa wrapper' index collected) (TurnsAlike Eq Eq) := by
  refine (marpaGEvent_lockstep afresh index).bind ?_
  rintro ⟨eventType, value⟩ _ rfl
  refine .ite Iff.rfl (fun _ _ => .pure (.done rfl)) fun _ _ => ?_
  cases eventClass eventType with
  | silent => exact .pure (.next rfl)
  | warning =>
    simp only [peers.options]
    cases wrapper'.marpaWrapperOption.warningIsErrorb with
    | false => exact .pure (.next rfl)
    | true => exact .pure (.done rfl)
  | fatal => exact .pure (.done rfl)
  | info => exact .pure (.done rfl)
  | symbol eventType =>
    refine (readPointer_lockstep peers.symbols value).bind ?_
    rintro pointer _ rfl
    exact .pure (.next rfl)

/-- The same events are delivered. -/
theorem marpaWrapperEvent_lockstep (granted : libc.AnswersAfresh start.events start'.events)
    (afresh : marpa.AnswersAfresh start.events start'.events) (peers : Peers wrapper wrapper') :
    Lockstep (Alike start start') (marpaWrapperEvent libc marpa wrapper)
      (marpaWrapperEvent libc marpa wrapper') Eq := by
  have delivers (collected : List MarpaWrapperEvent) : Lockstep (Alike start start')
      (deliverEvents libc wrapper collected) (deliverEvents libc wrapper' collected) Eq := by
    unfold deliverEvents sortEvents
    rw [peers.options]
    exact .ite Iff.rfl (fun _ _ => emit_lockstep rfl) fun _ _ => .pure rfl
  refine (marpaGEventCount_lockstep afresh).bind ?_
  rintro count _ rfl
  refine .ite Iff.rfl (fun _ _ => .pure rfl) fun _ _ => ?_
  refine (malloc_lockstep granted _).bind fun address address' addresses => ?_
  cases address with
  | none =>
    cases address' with
    | none => exact .pure rfl
    | some address' => cases addresses
  | some address =>
    cases address' with
    | none => cases addresses
    | some address' =>
      refine (Lockstep.forEach_range (fun _ => Eq) (fun index _ collected _ same => by
        subst same
        exact eventTurn_lockstep afresh peers index collected) rfl).bind fun turn turn' turns => ?_
      cases turns with
      | done _ => exact (free_lockstep address address').bind fun _ _ _ => .pure rfl
      | next same =>
        subst same
        exact (delivers _).bind fun _ _ _ => (free_lockstep address address').bind fun _ _ _ =>
          .pure rfl

theorem marpaWrapperRCompleteb_lockstep (granted : libc.AnswersAfresh start.events start'.events)
    (afresh : marpa.AnswersAfresh start.events start'.events)
    (prepared : Prepared wrapper wrapper') :
    Lockstep (Alike start start') (marpaWrapperRCompleteb libc marpa wrapper)
      (marpaWrapperRCompleteb libc marpa wrapper') Eq := by
  have completes : Lockstep (Alike start start') (completeEarleme marpa wrapper)
      (completeEarleme marpa wrapper') Eq := by
    refine .ite prepared.isNone (fun _ _ => .pure rfl) fun _ _ =>
      (reportingCall_lockstep afresh.earlemeComplete _).bind ?_
    rintro completed _ rfl
    exact .pure rfl
  refine completes.bind ?_
  rintro goesOn _ rfl
  exact .ite Iff.rfl (fun _ _ => marpaWrapperEvent_lockstep granted afresh prepared.peers)
    fun _ _ => .pure rfl

/-! ### Expected terminals -/

/-- The result of a function that may change the arrays of the expected terminals. -/
def PreparedResult {α : Type} (result result' : α × Wrapper) : Prop :=
  result.1 = result'.1 ∧ Prepared result.2 result'.2

theorem marpaGHighestSymbolId_lockstep (afresh : marpa.AnswersAfresh start.events start'.events) :
    Lockstep (Alike start start') (marpaGHighestSymbolId marpa) (marpaGHighestSymbolId marpa)
      Eq := by
  intro world world' alike
  unfold marpaGHighestSymbolId
  rw [alike.answers afresh.highestSymbolIdFails, alike.symbols]
  exact .ok (alike.exchange rfl rfl rfl alike.symbols alike.queue) rfl

/-- Both allocate arrays of the same size, or none does. -/
theorem allocateExpected_lockstep (granted : libc.AnswersAfresh start.events start'.events)
    (afresh : marpa.AnswersAfresh start.events start'.events)
    (prepared : Prepared wrapper wrapper') :
    Lockstep (Alike start start') (allocateExpected libc marpa wrapper)
      (allocateExpected libc marpa wrapper') PreparedResult := by
  have there : wrapper.expectedMarpaSymbolIdArrayp.isSome = true ↔
      wrapper'.expectedMarpaSymbolIdArrayp.isSome = true := by
    rw [← Option.isSome_map (f := fun block : Block Int => block.cells), prepared.ids,
      Option.isSome_map]
  refine .ite there (fun _ _ => .pure ⟨rfl, prepared⟩) fun _ _ => ?_
  refine (marpaGHighestSymbolId_lockstep afresh).bind ?_
  rintro highest _ rfl
  refine .ite Iff.rfl (fun _ _ => .pure ⟨rfl, prepared⟩) fun _ _ => ?_
  refine (malloc_lockstep granted _).bind fun ids ids' addresses => ?_
  cases ids with
  | none =>
    cases ids' with
    | none => exact .pure ⟨rfl, prepared⟩
    | some ids' => cases addresses
  | some ids =>
    cases ids' with
    | none => cases addresses
    | some ids' =>
      refine (malloc_lockstep granted _).bind fun pointers pointers' addresses => ?_
      cases pointers with
      | none =>
        cases pointers' with
        | none =>
          refine (free_lockstep ids ids').bind fun _ _ _ => .pure ⟨rfl, ?_⟩
          exact ⟨⟨prepared.peers.options, prepared.peers.symbols, prepared.peers.rules⟩,
            prepared.recognizer, prepared.ids, rfl⟩
        | some pointers' => cases addresses
      | some pointers =>
        cases pointers' with
        | none => cases addresses
        | some pointers' =>
          refine .pure ⟨rfl, ?_⟩
          exact ⟨⟨prepared.peers.options, prepared.peers.symbols, prepared.peers.rules⟩,
            prepared.recognizer, rfl, rfl⟩

/-- The same ids are written to both arrays. -/
theorem marpaRTerminalsExpected_lockstep
    (afresh : marpa.AnswersAfresh start.events start'.events) {array array' : Block Int}
    (same : array.cells = array'.cells) :
    Lockstep (Alike start start') (marpaRTerminalsExpected marpa array)
      (marpaRTerminalsExpected marpa array')
      fun result result' => result.1 = result'.1 ∧ result.2.cells = result'.2.cells := by
  refine (ask_lockstep afresh.terminalsExpected _).bind ?_
  rintro answer _ rfl
  cases answer with
  | none => exact .pure ⟨rfl, same⟩
  | some ids =>
    exact .ite (by rw [same]) (fun _ _ => .pure ⟨rfl, by rw [same]⟩) fun _ _ => .throw _

/-- Both look the same ids up. -/
theorem lookupTurn_lockstep {alike : World V → World V → Prop} (peers : Peers wrapper wrapper')
    (ids : List (Slot Int)) (index : Nat) (pointers : List (Slot Nat)) :
    Lockstep alike (lookupTurn wrapper ids index pointers)
      (lookupTurn wrapper' ids index pointers) (TurnsAlike Eq fun _ _ => False) := by
  refine (readCell_same ids index).bind ?_
  rintro id _ rfl
  cases id with
  | none => exact .throw _
  | some id =>
    refine (readPointer_lockstep peers.symbols id).bind ?_
    rintro pointer _ rfl
    refine (writeCell_same pointers index _).bind ?_
    rintro cells _ rfl
    exact .pure (.next rfl)

theorem fillExpected_lockstep (afresh : marpa.AnswersAfresh start.events start'.events)
    (prepared : Prepared wrapper wrapper') :
    Lockstep (Alike start start') (fillExpected marpa wrapper) (fillExpected marpa wrapper')
      PreparedResult := by
  obtain ⟨⟨options, symbols, rules⟩, recognizer, ids, pointers⟩ := prepared
  unfold fillExpected
  generalize wrapper.expectedMarpaSymbolIdArrayp = array at ids ⊢
  generalize wrapper'.expectedMarpaSymbolIdArrayp = array' at ids ⊢
  generalize there : wrapper.expectedMarpaWrapperSymbolArraypp = table at pointers ⊢
  generalize there' : wrapper'.expectedMarpaWrapperSymbolArraypp = table' at pointers ⊢
  cases array with
  | none =>
    cases array' with
    | none => exact .throw _
    | some array' => cases ids
  | some array =>
    cases array' with
    | none => cases ids
    | some array' =>
      cases table with
      | none =>
        cases table' with
        | none => exact .throw _
        | some table' => cases pointers
      | some table =>
        cases table' with
        | none => cases pointers
        | some table' =>
          refine (marpaRTerminalsExpected_lockstep afresh (Option.some.inj ids)).bind ?_
          rintro ⟨count, array⟩ ⟨_, array'⟩ ⟨rfl, same⟩
          have peers : Peers { wrapper with expectedMarpaSymbolIdArrayp := some array }
              { wrapper' with expectedMarpaSymbolIdArrayp := some array' } :=
            ⟨options, symbols, rules⟩
          refine .ite Iff.rfl (fun _ _ => .pure ⟨rfl, ⟨options, symbols, rules⟩, recognizer,
            congrArg some same, pointers⟩) fun _ _ => ?_
          simp only [show table.cells = table'.cells from Option.some.inj pointers,
            show array.cells = array'.cells from same]
          refine (Lockstep.forEach_range (fun _ => Eq) (fun index _ cells _ equal => by
            subst equal
            exact lookupTurn_lockstep peers _ index cells) rfl).bind fun _ _ turns => ?_
          cases turns with
          | done impossible => exact impossible.elim
          | next equal =>
            subst equal
            exact .pure ⟨rfl, ⟨options, symbols, rules⟩, recognizer, congrArg some same, rfl⟩

/-- The same terminals are expected. -/
theorem marpaWrapperRTerminalsExpectedb_lockstep
    (granted : libc.AnswersAfresh start.events start'.events)
    (afresh : marpa.AnswersAfresh start.events start'.events)
    (prepared : Prepared wrapper wrapper') :
    Lockstep (Alike start start') (marpaWrapperRTerminalsExpectedb libc marpa wrapper)
      (marpaWrapperRTerminalsExpectedb libc marpa wrapper') PreparedResult := by
  refine .ite prepared.isNone (fun _ _ => .pure ⟨rfl, prepared⟩) fun _ _ =>
    (allocateExpected_lockstep granted afresh prepared).bind ?_
  rintro ⟨allocated, between⟩ ⟨_, between'⟩ ⟨rfl, prepared⟩
  exact .ite Iff.rfl (fun _ _ => fillExpected_lockstep afresh prepared) fun _ _ =>
    .pure ⟨rfl, prepared⟩

/-! ### The order of the terminals -/

/-- A terminal without what an iteration writes to it. -/
def withoutWork (terminal : Nat × MarpaWrapperSymbol) : Nat × MarpaWrapperSymbol :=
  (terminal.1, terminal.2.withoutWork)

/-- The same terminal is at an index, up to its work fields. -/
theorem expectedSymbol_lockstep {alike : World V → World V → Prop}
    (prepared : Prepared wrapper wrapper') (index : Nat) :
    Lockstep alike (expectedSymbol wrapper (expectedCells wrapper) index)
      (expectedSymbol wrapper' (expectedCells wrapper') index)
      fun terminal terminal' => withoutWork terminal = withoutWork terminal' := by
  rw [prepared.expectedCells]
  refine (readCell_same _ index).bind ?_
  rintro pointer _ rfl
  cases pointer with
  | none => exact .throw _
  | some pointer =>
    exact (readSymbol_lockstep prepared.peers pointer).bind fun symbol symbol' same =>
      .pure (congrArg (Prod.mk pointer) same)

/-- The terminals are in the same order. -/
theorem orderTerminals_lockstep (blind : SortsBlindly libc.qsort)
    (granted : libc.AnswersAfresh start.events start'.events)
    (prepared : Prepared wrapper wrapper') (callbacks : RecognizerCallbacks V) (count : Nat) :
    Lockstep (Alike start start') (orderTerminals libc callbacks wrapper count)
      (orderTerminals libc callbacks wrapper' count) Prepared := by
  refine .ite Iff.rfl (fun _ _ => ?_) fun _ _ => .pure prepared
  have turn (index : Nat) (terminals terminals' : List (Nat × MarpaWrapperSymbol))
      (same : terminals.map withoutWork = terminals'.map withoutWork) :
      Lockstep (Alike start start') (keyTurn wrapper index terminals)
        (keyTurn wrapper' index terminals')
        (TurnsAlike (fun terminals terminals' =>
          terminals.map withoutWork = terminals'.map withoutWork) fun _ _ => False) := by
    refine (expectedSymbol_lockstep prepared index).bind fun terminal terminal' here =>
      .pure (.next ?_)
    rw [List.map_append, List.map_append, same, List.map_singleton, List.map_singleton, here]
  refine (Lockstep.forEach_range _ (fun index _ => turn index) rfl).bind fun _ _ turns => ?_
  cases turns with
  | done impossible => exact impossible.elim
  | @next terminals terminals' same =>
    refine (readGarbage_lockstep granted).bind ?_
    rintro garbage _ rfl
    have sorted (items : List (Nat × MarpaWrapperSymbol)) :
        (libc.qsort (fun terminal1 terminal2 =>
          marpaWrapperSymbolCmpBySizelDescFirstCharDesc garbage terminal1.2 terminal2.2)
            items).map (fun terminal => Slot.pointer terminal.1) =
          (libc.qsort (fun terminal1 terminal2 =>
            marpaWrapperSymbolCmpBySizelDescFirstCharDesc garbage terminal1.2 terminal2.2)
              (items.map withoutWork)).map fun terminal => Slot.pointer terminal.1 := by
      have blindly := blind withoutWork (fun terminal1 terminal2 =>
        marpaWrapperSymbolCmpBySizelDescFirstCharDesc garbage terminal1.2 terminal2.2) items
      have pointed := congrArg (List.map fun terminal => Slot.pointer terminal.1) blindly
      rw [List.map_map] at pointed
      exact pointed
    refine .pure ⟨⟨prepared.peers.options, prepared.peers.symbols, prepared.peers.rules⟩,
      prepared.recognizer, prepared.ids, ?_⟩
    have pointers := prepared.pointers
    simp only [Option.map_map]
    rw [sorted terminals, sorted terminals', same]
    generalize wrapper.expectedMarpaWrapperSymbolArraypp = table at pointers ⊢
    generalize wrapper'.expectedMarpaWrapperSymbolArraypp = table' at pointers ⊢
    cases table <;> cases table' <;> first | rfl | cases pointers | skip
    exact congrArg some (congrArg (_ ++ List.drop count ·) (Option.some.inj pointers))

/-! ### The lexemes of a position -/

/-- So many of the expected terminals have the same length in both wrappers. -/
structure Measured (count : Nat) (wrapper wrapper' : Wrapper) : Prop where
  prepared : Prepared wrapper wrapper'
  lengths : ∀ index : Nat, index < count → ∀ pointer,
    (expectedCells wrapper)[index]? = some (.pointer pointer) →
      (lookup wrapper.marpaWrapperSymbolpp pointer).map (·.lengthl) =
        (lookup wrapper'.marpaWrapperSymbolpp pointer).map (·.lengthl)

/-- Two symbols are written to the same slot. -/
theorem Peers.withSymbol (peers : Peers wrapper wrapper') (pointer : Nat)
    {symbol symbol' : MarpaWrapperSymbol} (same : symbol.withoutWork = symbol'.withoutWork) :
    Peers (wrapper.withSymbol pointer symbol) (wrapper'.withSymbol pointer symbol') := by
  refine ⟨peers.options, ?_, peers.rules⟩
  have symbols := peers.symbols
  unfold SameTable at symbols ⊢
  unfold Wrapper.withSymbol
  simp only [Option.map_map]
  generalize wrapper.marpaWrapperSymbolpp = table at symbols ⊢
  generalize wrapper'.marpaWrapperSymbolpp = table' at symbols ⊢
  cases table with
  | none =>
    cases table' with
    | none => rfl
    | some table' => cases symbols
  | some table =>
    cases table' with
    | none => cases symbols
    | some table' =>
      obtain ⟨released, cells⟩ := Prod.mk.inj (Option.some.inj symbols)
      refine congrArg some (Prod.ext released ?_)
      show (table.cells.set pointer _).map _ = (table'.cells.set pointer _).map _
      rw [List.map_set, List.map_set, cells]
      exact congrArg _ (congrArg Slot.pointer same)

/-- One terminal more is measured. -/
theorem Measured.withSymbol {index pointer : Nat} {old old' symbol symbol' : MarpaWrapperSymbol}
    (measured : Measured index wrapper wrapper')
    (cell : (expectedCells wrapper)[index]? = some (.pointer pointer))
    (found : lookup wrapper.marpaWrapperSymbolpp pointer = some old)
    (found' : lookup wrapper'.marpaWrapperSymbolpp pointer = some old')
    (same : symbol.withoutWork = symbol'.withoutWork) (length : symbol.lengthl = symbol'.lengthl) :
    Measured (index + 1) (wrapper.withSymbol pointer symbol)
      (wrapper'.withSymbol pointer symbol') := by
  have prepared := measured.prepared
  refine ⟨⟨prepared.peers.withSymbol pointer same, prepared.recognizer, prepared.ids,
    prepared.pointers⟩, fun other below target here => ?_⟩
  by_cases this : target = pointer
  · subst this
    rw [lookup_withSymbol_self found, lookup_withSymbol_self found']
    exact congrArg some length
  · rw [lookup_withSymbol_ne this, lookup_withSymbol_ne this]
    have apart : other ≠ index := by
      rintro rfl
      rw [show expectedCells (wrapper.withSymbol pointer symbol) = expectedCells wrapper from rfl,
        cell] at here
      exact this (Slot.pointer.inj (Option.some.inj here)).symm
    exact measured.lengths other (by omega) target here

theorem writeSymbol_eq {pointer : Nat} {old : MarpaWrapperSymbol}
    (found : lookup wrapper.marpaWrapperSymbolpp pointer = some old)
    (symbol : MarpaWrapperSymbol) :
    (writeSymbol wrapper pointer symbol : Exec V Wrapper) =
      pure (wrapper.withSymbol pointer symbol) :=
  funext fun world => writeSymbol_run found symbol world

/-- The terminals that both wrappers expect at an index, as they are there. -/
theorem expectedSymbol_found {alike : World V → World V → Prop}
    (prepared : Prepared wrapper wrapper') (index : Nat) :
    Lockstep alike (expectedSymbol wrapper (expectedCells wrapper) index)
      (expectedSymbol wrapper' (expectedCells wrapper') index)
      fun terminal terminal' => withoutWork terminal = withoutWork terminal' ∧
        ((expectedCells wrapper)[index]? = some (.pointer terminal.1) ∧
          lookup wrapper.marpaWrapperSymbolpp terminal.1 = some terminal.2) ∧
        lookup wrapper'.marpaWrapperSymbolpp terminal'.1 = some terminal'.2 :=
  (expectedSymbol_lockstep prepared index).returning
    (fun _ _ _ run => (expectedSymbol_eq_ok run).2) fun _ _ _ run => (expectedSymbol_eq_ok run).2.2

/-- Both ask about the same terminal, and it gets the same length. -/
theorem checkTurn_lockstep (answered : callbacks.AnswersAfresh start.events start'.events)
    (index : Nat) {frame frame' : Wrapper × Nat} (measured : Measured index frame.1 frame'.1)
    (longest : frame.2 = frame'.2) :
    Lockstep (Alike start start') (checkTurn callbacks index frame)
      (checkTurn callbacks index frame')
      (TurnsAlike (fun frame frame' => Measured (index + 1) frame.1 frame'.1 ∧
        frame.2 = frame'.2) fun _ _ => False) := by
  obtain ⟨wrapper, maxLengthl⟩ := frame
  obtain ⟨wrapper', _⟩ := frame'
  obtain rfl : maxLengthl = _ := longest
  refine (expectedSymbol_found measured.prepared index).bind ?_
  rintro ⟨pointer, symbol⟩ ⟨_, symbol'⟩ ⟨same, ⟨cell, found⟩, found'⟩
  obtain ⟨rfl, same⟩ := Prod.mk.inj same
  have option := congrArg MarpaWrapperSymbol.marpaWrapperSymbolOption same
  change symbol.marpaWrapperSymbolOption = symbol'.marpaWrapperSymbolOption at option
  have written (isLexemeb isLexemeb' : Bool) (lengthl : Nat) :
      Measured (index + 1)
        (wrapper.withSymbol pointer { symbol with isLexemeb, lengthl })
        (wrapper'.withSymbol pointer { symbol' with isLexemeb := isLexemeb', lengthl }) :=
    measured.withSymbol cell found found' same rfl
  have skipped : skips callbacks symbol maxLengthl = skips callbacks symbol' maxLengthl := by
    unfold skips
    rw [option]
  refine .ite (by rw [skipped]) (fun _ _ => ?_) fun _ _ => ?_
  · rw [writeSymbol_eq found, writeSymbol_eq found', pure_bind, pure_bind]
    exact .pure (.next ⟨written symbol.isLexemeb symbol'.isLexemeb 0, rfl⟩)
  · have asked : Lockstep (Alike start start')
        (callIsLexeme callbacks symbol.marpaWrapperSymbolOption.datavp)
        (callIsLexeme callbacks symbol'.marpaWrapperSymbolOption.datavp) Eq := by
      rw [option]
      exact ask_lockstep (answered.isLexeme _) _
    refine asked.bind ?_
    rintro answer _ rfl
    cases answer with
    | none =>
      simp only [writeSymbol_eq found, writeSymbol_eq found', pure_bind]
      exact .pure (.next ⟨written false false 0, rfl⟩)
    | some lengthl =>
      simp only [writeSymbol_eq found, writeSymbol_eq found', pure_bind]
      exact .pure (.next ⟨written true true lengthl, rfl⟩)

theorem marpaWrapperRAlternativeb_lockstep
    (afresh : marpa.AnswersAfresh start.events start'.events)
    (prepared : Prepared wrapper wrapper') (pointer : Option Nat) (value length : Int) :
    Lockstep (Alike start start') (marpaWrapperRAlternativeb marpa wrapper pointer value length)
      (marpaWrapperRAlternativeb marpa wrapper' pointer value length) Eq := by
  cases pointer with
  | none => exact .pure rfl
  | some pointer =>
    refine .ite prepared.isNone (fun _ _ => .pure rfl) fun _ _ =>
      (readSymbol_lockstep prepared.peers pointer).bind fun symbol symbol' same => ?_
    have id := congrArg MarpaWrapperSymbol.marpaSymbolIdi same
    change symbol.marpaSymbolIdi = symbol'.marpaSymbolIdi at id
    rw [id]
    refine (ask_lockstep (afresh.alternative _ value length) _).bind ?_
    rintro code _ rfl
    exact .pure rfl

/-- The same terminals are selected, with the same values. -/
theorem pushTurn_lockstep (afresh : marpa.AnswersAfresh start.events start'.events)
    (answered : callbacks.AnswersAfresh start.events start'.events) {count : Nat}
    (measured : Measured count wrapper wrapper') (maxLengthl : Nat) {index : Nat}
    (below : index < count) (value : Int × Int) :
    Lockstep (Alike start start') (pushTurn marpa callbacks wrapper maxLengthl index value)
      (pushTurn marpa callbacks wrapper' maxLengthl index value) (TurnsAlike Eq Eq) := by
  refine (expectedSymbol_found measured.prepared index).bind ?_
  rintro ⟨pointer, symbol⟩ ⟨_, symbol'⟩ ⟨same, ⟨cell, found⟩, found'⟩
  obtain ⟨rfl, same⟩ := Prod.mk.inj same
  have option := congrArg MarpaWrapperSymbol.marpaWrapperSymbolOption same
  change symbol.marpaWrapperSymbolOption = symbol'.marpaWrapperSymbolOption at option
  have length := measured.lengths index below pointer cell
  rw [found, found'] at length
  have length : symbol.lengthl = symbol'.lengthl := Option.some.inj length
  have valued : Lockstep (Alike start start') (tokenValue callbacks symbol value)
      (tokenValue callbacks symbol' value) Eq := by
    unfold tokenValue callLexemeValue
    rw [option]
    exact .ite Iff.rfl (fun _ _ => .pure rfl) fun _ _ =>
      ask_lockstep (answered.lexemeValue _) _
  refine .ite (by rw [length]) (fun _ _ => valued.bind ?_) fun _ _ => .pure (.next rfl)
  rintro value _ rfl
  cases value with
  | none => exact .pure (.done rfl)
  | some value =>
    refine (marpaWrapperRAlternativeb_lockstep afresh measured.prepared _ _ _).bind ?_
    rintro accepted _ rfl
    cases accepted with
    | false => exact .pure (.done rfl)
    | true => exact .pure (.next rfl)

theorem pushTerminals_lockstep (afresh : marpa.AnswersAfresh start.events start'.events)
    (answered : callbacks.AnswersAfresh start.events start'.events) {count : Nat}
    (measured : Measured count wrapper wrapper') (maxLengthl : Nat) :
    Lockstep (Alike start start') (pushTerminals marpa callbacks wrapper count maxLengthl)
      (pushTerminals marpa callbacks wrapper' count maxLengthl) Eq := by
  refine .ite Iff.rfl (fun _ _ => ?_) fun _ _ => .pure rfl
  refine (Lockstep.forEach_range (fun _ => Eq) (fun index below value _ equal => by
    subst equal
    exact pushTurn_lockstep afresh answered measured maxLengthl below value) rfl).bind
      fun _ _ turns => ?_
  cases turns with
  | next _ => exact .pure rfl
  | done _ => exact .pure rfl

/-- The same alternatives are passed to libmarpa. -/
theorem readLexemes_lockstep (blind : SortsBlindly libc.qsort)
    (granted : libc.AnswersAfresh start.events start'.events)
    (afresh : marpa.AnswersAfresh start.events start'.events)
    (answered : callbacks.AnswersAfresh start.events start'.events)
    (prepared : Prepared wrapper wrapper') (count : Nat) :
    Lockstep (Alike start start') (readLexemes libc marpa callbacks wrapper count)
      (readLexemes libc marpa callbacks wrapper' count) PreparedResult := by
  refine (orderTerminals_lockstep blind granted prepared callbacks count).bind
    fun ordered ordered' prepared => ?_
  have unmeasured : Measured 0 ordered ordered' :=
    ⟨prepared, fun _ below => absurd below (Nat.not_lt_zero _)⟩
  refine (Lockstep.forEach_range
    (fun index frame frame' => Measured index frame.1 frame'.1 ∧ frame.2 = frame'.2)
    (fun index _ frame frame' alike => checkTurn_lockstep answered index alike.1 alike.2)
    ⟨unmeasured, rfl⟩).bind fun _ _ turns => ?_
  cases turns with
  | done impossible => exact impossible.elim
  | @next frame frame' frames =>
    obtain ⟨checked, maxLengthl⟩ := frame
    obtain ⟨checked', _⟩ := frame'
    obtain ⟨measured, rfl⟩ := frames
    refine (pushTerminals_lockstep afresh answered measured maxLengthl).bind ?_
    rintro pushed _ rfl
    exact .pure ⟨rfl, measured.prepared⟩

end Functions

end MarpaWrapper
