/-
This file shows that `marpaWrapper_r_recognizeb` is a client of the interface. The header calls
it a generic routine that uses the functions for those who want to have manual control on the
recognizer. So each of its runs could have been made by hand: there is a list of calls of these
functions that makes the same exchanges with libmarpa and with the allocator, in the same
order, and leaves the same wrapper but for what the recognition keeps for itself.

The list follows the positions of the input. A start comes first, and at each position the
progress is reported if the build traces, the expected terminals are asked for, the tokens
are passed one by one, and the Earley set is completed. The last position may be cut short.
-/

import MarpaWrapper.WithoutReading

namespace MarpaWrapper

open Effects Sorting

variable {V : Type}

/-! ### What belongs to the recognition -/

/-- A block of symbols without the work fields. -/
def Block.withoutWork (block : Block MarpaWrapperSymbol) :
    Nat × Bool × List (Slot MarpaWrapperSymbol) :=
  (block.address, block.seen MarpaWrapperSymbol.withoutWork)

/-- The other wrapper differs in the work fields of the symbols and in what the array of expected
terminals holds, at most. -/
structure Reworked (wrapper hand : Wrapper) : Prop where
  frame : ∃ table pointers, hand = { wrapper with
    marpaWrapperSymbolpp := table, expectedMarpaWrapperSymbolArraypp := pointers }
  symbols : hand.marpaWrapperSymbolpp.map Block.withoutWork =
    wrapper.marpaWrapperSymbolpp.map Block.withoutWork
  pointers : hand.expectedMarpaWrapperSymbolArraypp.map Block.extent =
    wrapper.expectedMarpaWrapperSymbolArraypp.map Block.extent

section Reworked

variable {wrapper wrapper' between hand hand' : Wrapper}

theorem Reworked.refl (wrapper : Wrapper) : Reworked wrapper wrapper := ⟨⟨_, _, rfl⟩, rfl, rfl⟩

theorem Reworked.symm (reworked : Reworked wrapper hand) : Reworked hand wrapper := by
  obtain ⟨⟨table, pointers, rfl⟩, symbols, extents⟩ := reworked
  exact ⟨⟨_, _, rfl⟩, symbols.symm, extents.symm⟩

theorem Reworked.trans (first : Reworked wrapper between) (second : Reworked between hand) :
    Reworked wrapper hand := by
  obtain ⟨⟨_, _, rfl⟩, symbols, extents⟩ := first
  obtain ⟨⟨_, _, rfl⟩, symbols', extents'⟩ := second
  exact ⟨⟨_, _, rfl⟩, symbols'.trans symbols, extents'.trans extents⟩

theorem Reworked.sameSymbols (reworked : Reworked wrapper hand) :
    SameTable MarpaWrapperSymbol.withoutWork wrapper.marpaWrapperSymbolpp
      hand.marpaWrapperSymbolpp := by
  have cells := congrArg (Option.map Prod.snd) reworked.symbols
  rw [Option.map_map, Option.map_map] at cells
  exact cells.symm

theorem Reworked.options (reworked : Reworked wrapper hand) :
    hand.marpaWrapperOption = wrapper.marpaWrapperOption := by
  obtain ⟨_, _, rfl⟩ := reworked.frame
  rfl

theorem Reworked.recognizer (reworked : Reworked wrapper hand) :
    hand.marpaRecognizerp = wrapper.marpaRecognizerp := by
  obtain ⟨_, _, rfl⟩ := reworked.frame
  rfl

theorem Reworked.ids (reworked : Reworked wrapper hand) :
    hand.expectedMarpaSymbolIdArrayp = wrapper.expectedMarpaSymbolIdArrayp := by
  obtain ⟨_, _, rfl⟩ := reworked.frame
  rfl

theorem Reworked.report (reworked : Reworked wrapper hand) :
    hand.marpaWrapperProgresspp = wrapper.marpaWrapperProgresspp := by
  obtain ⟨_, _, rfl⟩ := reworked.frame
  rfl

theorem Reworked.count (reworked : Reworked wrapper hand) :
    hand.nMarpaWrapperProgressi = wrapper.nMarpaWrapperProgressi := by
  obtain ⟨_, _, rfl⟩ := reworked.frame
  rfl

theorem Reworked.peers (reworked : Reworked wrapper hand) : Peers wrapper hand := by
  obtain ⟨_, _, frame⟩ := reworked.frame
  exact ⟨reworked.options.symm, reworked.sameSymbols, by rw [frame]⟩

/-- The report of the progress is kept apart from what belongs to the recognition. -/
theorem Reworked.progresses (reworked : Reworked wrapper hand)
    (table : Option (Block MarpaWrapperProgress)) (size count : Nat) :
    Reworked
      { wrapper with
        marpaWrapperProgresspp := table
        sizeMarpaWrapperProgressi := size
        nMarpaWrapperProgressi := count }
      { hand with
        marpaWrapperProgresspp := table
        sizeMarpaWrapperProgressi := size
        nMarpaWrapperProgressi := count } := by
  obtain ⟨⟨_, _, rfl⟩, symbols, extents⟩ := reworked
  exact ⟨⟨_, _, rfl⟩, symbols, extents⟩

/-- A result with the wrapper. -/
def ReworkedResult {α : Type} (result result' : α × Wrapper) : Prop :=
  result.1 = result'.1 ∧ Reworked result.2 result'.2

end Reworked

/-! ### The functions of the interface -/

section Functions

variable {libc : Libc V} {fuel : Nat} {build : Build} {marpa : Libmarpa V}
  {wrapper hand : Wrapper}

/-- An event names its symbol by the id, which the work fields do not change. -/
theorem eventTurn_reworked (unaware : marpa.Unaware) (reworked : Reworked wrapper hand)
    (index : Nat) (collected : List MarpaWrapperEvent) :
    Lockstep ReadingAside (eventTurn marpa wrapper index collected)
      (eventTurn marpa hand index collected) Eq := by
  refine (marpaGEvent_oblivious unaware index).then fun answer => ?_
  refine .ite Iff.rfl (fun _ _ => .pure rfl) fun _ _ => ?_
  cases eventClass answer.1 with
  | silent => exact .pure rfl
  | warning => exact .pure (by rw [reworked.options])
  | fatal => exact .pure rfl
  | info => exact .pure rfl
  | symbol eventType =>
    refine (readPointer_lockstep reworked.sameSymbols answer.2).bind ?_
    rintro pointer _ rfl
    exact .pure rfl

/-- The same events are delivered. -/
theorem marpaWrapperEvent_reworked (granted : libc.Unaware) (unaware : marpa.Unaware)
    (reworked : Reworked wrapper hand) :
    Lockstep ReadingAside (marpaWrapperEvent libc marpa wrapper)
      (marpaWrapperEvent libc marpa hand) Eq := by
  have delivers (collected : List MarpaWrapperEvent) : Lockstep ReadingAside
      (deliverEvents libc wrapper collected) (deliverEvents libc hand collected) Eq := by
    unfold deliverEvents sortEvents
    rw [reworked.options]
    exact Oblivious.ite (emit_oblivious rfl) (.pure _)
  refine (marpaGEventCount_oblivious unaware).then fun count => ?_
  refine .ite Iff.rfl (fun _ _ => .pure rfl) fun _ _ =>
    (malloc_oblivious granted _).then fun address => ?_
  cases address with
  | none => exact .pure rfl
  | some address =>
    refine (Lockstep.forEach_same (eventTurn_reworked unaware reworked) _).bind ?_
    rintro turn _ rfl
    cases turn with
    | done _ => exact Oblivious.bind (emit_oblivious rfl) fun _ => .pure _
    | next collected =>
      refine (delivers collected).bind ?_
      rintro _ _ rfl
      exact Oblivious.bind (emit_oblivious rfl) fun _ => .pure _

/-- What is released lies at the same addresses, and nothing of it is kept. -/
theorem startRecognizer_reworked (unaware : marpa.Unaware) (reworked : Reworked wrapper hand) :
    Lockstep ReadingAside (startRecognizer marpa wrapper) (startRecognizer marpa hand)
      ReworkedResult := by
  have addresses : hand.expectedMarpaWrapperSymbolArraypp.map (·.address) =
      wrapper.expectedMarpaWrapperSymbolArraypp.map (·.address) := by
    have extents := congrArg (Option.map Prod.fst) reworked.pointers
    rwa [Option.map_map, Option.map_map] at extents
  have released : Lockstep (ReadingAside (V := V)) (releaseRecognizer wrapper)
      (releaseRecognizer hand) Reworked := by
    unfold releaseRecognizer
    rw [reworked.recognizer, reworked.ids, addresses]
    cases wrapper.marpaRecognizerp with
    | none => exact .pure reworked
    | some handle =>
      obtain ⟨_, _, rfl⟩ := reworked.frame
      exact (emit_oblivious rfl).then fun _ => (freeIfNotNull_oblivious _).then fun _ =>
        (freeIfNotNull_oblivious _).then fun _ => .pure ⟨⟨_, _, rfl⟩, reworked.symbols, rfl⟩
  refine released.bind fun between between' reworked => ?_
  obtain ⟨_, _, rfl⟩ := reworked.frame
  refine (acquire_oblivious unaware.recognizerNew fun _ => rfl).then fun handle => ?_
  refine .ite Iff.rfl (fun _ _ => .pure ⟨rfl, ⟨_, _, rfl⟩, reworked.symbols, reworked.pointers⟩)
    fun _ _ => (reportingCall_oblivious unaware.startInput fun _ => rfl).then fun _ =>
      .pure ⟨rfl, ⟨_, _, rfl⟩, reworked.symbols, reworked.pointers⟩

/-- A start by hand is the start of the recognition. -/
theorem marpaWrapperRStartb_reworked (granted : libc.Unaware) (unaware : marpa.Unaware)
    (reworked : Reworked wrapper hand) :
    Lockstep ReadingAside (marpaWrapperRStartb libc marpa wrapper)
      (marpaWrapperRStartb libc marpa hand) ReworkedResult := by
  refine (startRecognizer_reworked unaware reworked).bind ?_
  rintro ⟨started, between⟩ ⟨_, between'⟩ ⟨rfl, reworked⟩
  refine .ite Iff.rfl (fun _ _ => (marpaWrapperEvent_reworked granted unaware reworked).bind ?_)
    fun _ _ => .pure ⟨rfl, reworked⟩
  rintro reported _ rfl
  exact .pure ⟨rfl, reworked⟩

/-- The same for a completion. -/
theorem marpaWrapperRCompleteb_reworked (granted : libc.Unaware) (unaware : marpa.Unaware)
    (reworked : Reworked wrapper hand) :
    Lockstep ReadingAside (marpaWrapperRCompleteb libc marpa wrapper)
      (marpaWrapperRCompleteb libc marpa hand) Eq := by
  have completes : Lockstep ReadingAside (completeEarleme marpa wrapper)
      (completeEarleme marpa hand) Eq := by
    unfold completeEarleme
    rw [reworked.recognizer]
    exact Oblivious.ite (.pure _)
      ((reportingCall_oblivious unaware.earlemeComplete fun _ => rfl).bind fun _ => .pure _)
  refine completes.bind ?_
  rintro completed _ rfl
  exact .ite Iff.rfl (fun _ _ => marpaWrapperEvent_reworked granted unaware reworked) fun _ _ =>
    .pure rfl

theorem readSymbol_reworked (reworked : Reworked wrapper hand) (pointer : Nat) :
    Lockstep (ReadingAside (V := V)) (readSymbol wrapper pointer) (readSymbol hand pointer)
      fun symbol symbol' => symbol.withoutWork = symbol'.withoutWork :=
  readSymbol_lockstep reworked.peers pointer

/-- The same for an alternative, which reads the id of its symbol only. -/
theorem marpaWrapperRAlternativeb_reworked (unaware : marpa.Unaware)
    (reworked : Reworked wrapper hand) (pointer : Option Nat) (value length : Int) :
    Lockstep ReadingAside (marpaWrapperRAlternativeb marpa wrapper pointer value length)
      (marpaWrapperRAlternativeb marpa hand pointer value length) Eq := by
  cases pointer with
  | none => exact .pure rfl
  | some pointer =>
    unfold marpaWrapperRAlternativeb
    rw [reworked.recognizer]
    refine .ite Iff.rfl (fun _ _ => .pure rfl) fun _ _ =>
      (readSymbol_reworked reworked pointer).bind fun symbol symbol' same => ?_
    have id := congrArg MarpaWrapperSymbol.marpaSymbolIdi same
    change symbol.marpaSymbolIdi = symbol'.marpaSymbolIdi at id
    rw [id]
    exact Oblivious.bind (ask_oblivious (unaware.alternative _ value length) fun _ => rfl)
      fun _ => .pure _

/-! ### Expected terminals -/

theorem allocateExpected_reworked (granted : libc.Unaware) (unaware : marpa.Unaware)
    (reworked : Reworked wrapper hand) :
    Lockstep ReadingAside (allocateExpected libc marpa wrapper) (allocateExpected libc marpa hand)
      ReworkedResult := by
  obtain ⟨⟨table, pointers, rfl⟩, symbols, extents⟩ := reworked
  refine .ite Iff.rfl (fun _ _ => .pure ⟨rfl, ⟨_, _, rfl⟩, symbols, extents⟩) fun _ _ =>
    (marpaGHighestSymbolId_oblivious unaware).then fun highest => ?_
  refine .ite Iff.rfl (fun _ _ => .pure ⟨rfl, ⟨_, _, rfl⟩, symbols, extents⟩) fun _ _ =>
    (malloc_oblivious granted _).then fun ids => ?_
  cases ids with
  | none => exact .pure ⟨rfl, ⟨_, _, rfl⟩, symbols, extents⟩
  | some ids =>
    refine (malloc_oblivious granted _).then fun block => ?_
    cases block with
    | none =>
      exact (emit_oblivious rfl).then fun _ => .pure ⟨rfl, ⟨_, _, rfl⟩, symbols, rfl⟩
    | some block => exact .pure ⟨rfl, ⟨_, _, rfl⟩, symbols, rfl⟩

/-- Both write the same pointer, to arrays of the same size. -/
theorem lookupTurn_reworked (reworked : Reworked wrapper hand) (ids : List (Slot Int))
    (index : Nat) {cells cells' : List (Slot Nat)} (size : cells.length = cells'.length) :
    Lockstep (ReadingAside (V := V)) (lookupTurn wrapper ids index cells)
      (lookupTurn hand ids index cells')
      (TurnsAlike (fun cells cells' => cells.length = cells'.length) Eq) := by
  refine (readCell_oblivious ids index).then fun id => ?_
  cases id with
  | none => exact .throw _
  | some id =>
    refine (readPointer_lockstep reworked.sameSymbols id).bind ?_
    rintro pointer _ rfl
    have written : Lockstep (ReadingAside (V := V))
        (writeCell cells index (pointer.elim .null .pointer))
        (writeCell cells' index (pointer.elim .null .pointer))
        fun cells cells' => cells.length = cells'.length :=
      .ite (by rw [size]) (fun _ _ => .pure (by rw [List.length_set, List.length_set, size]))
        fun _ _ => .throw _
    exact written.bind fun _ _ size => .pure (.next size)

theorem marpaRTerminalsExpected_oblivious (unaware : marpa.Unaware) (array : Block Int) :
    Oblivious ReadingAside (marpaRTerminalsExpected marpa array) := by
  refine (ask_oblivious unaware.terminalsExpected fun _ => rfl).bind fun answer => ?_
  cases answer with
  | none => exact .pure _
  | some ids => exact .ite (.pure _) (.throw _)

/-- The ids come from libmarpa, and the pointers follow from them. -/
theorem fillExpected_reworked (unaware : marpa.Unaware) (reworked : Reworked wrapper hand) :
    Lockstep ReadingAside (fillExpected marpa wrapper) (fillExpected marpa hand)
      ReworkedResult := by
  have turn := lookupTurn_reworked (V := V) reworked
  obtain ⟨⟨table, pointers, rfl⟩, symbols, extents⟩ := reworked
  unfold fillExpected
  simp only at symbols extents turn ⊢
  generalize wrapper.expectedMarpaSymbolIdArrayp = array
  generalize wrapper.expectedMarpaWrapperSymbolArraypp = pointers' at extents ⊢
  cases array with
  | none => exact .throw _
  | some array =>
    cases pointers' with
    | none =>
      obtain rfl : pointers = none := Option.map_eq_none_iff.mp extents
      exact .throw _
    | some block =>
      obtain ⟨block', rfl, extent⟩ := Option.map_eq_some_iff.mp extents
      have address : block'.address = block.address := congrArg Prod.fst extent
      have size : block.cells.length = block'.cells.length := (congrArg Prod.snd extent).symm
      refine (marpaRTerminalsExpected_oblivious unaware array).then fun result => ?_
      refine .ite Iff.rfl (fun _ _ => .pure ⟨rfl, ⟨_, _, rfl⟩, symbols, ?_⟩) fun _ _ => ?_
      · exact extents
      · refine (Lockstep.forEach_range (fun _ cells cells' => cells.length = cells'.length)
          (fun index _ _ _ size => turn result.2.cells index size) size).bind fun _ _ turns => ?_
        cases turns with
        | done same => exact (Empty.elim ‹_›)
        | next size =>
          refine .pure ⟨rfl, ⟨_, _, rfl⟩, symbols, congrArg some ?_⟩
          exact Prod.ext address size.symm

theorem marpaWrapperRTerminalsExpectedb_reworked (granted : libc.Unaware)
    (unaware : marpa.Unaware) (reworked : Reworked wrapper hand) :
    Lockstep ReadingAside (marpaWrapperRTerminalsExpectedb libc marpa wrapper)
      (marpaWrapperRTerminalsExpectedb libc marpa hand) ReworkedResult := by
  unfold marpaWrapperRTerminalsExpectedb
  rw [reworked.recognizer]
  refine .ite Iff.rfl (fun _ _ => .pure ⟨rfl, reworked⟩) fun _ _ =>
    (allocateExpected_reworked granted unaware reworked).bind ?_
  rintro ⟨allocated, between⟩ ⟨_, between'⟩ ⟨rfl, reworked⟩
  exact .ite Iff.rfl (fun _ _ => fillExpected_reworked unaware reworked) fun _ _ =>
    .pure ⟨rfl, reworked⟩

/-! ### Progress -/

/-- The loops of the progress report are left in the same way. -/
inductive ExitsReworked : ProgressExit → ProgressExit → Prop
  | broken {wrapper hand : Wrapper} (reworked : Reworked wrapper hand) :
      ExitsReworked (.broken wrapper) (.broken hand)
  | returned {wrapper hand : Wrapper} (reworked : Reworked wrapper hand) :
      ExitsReworked (.returned wrapper) (.returned hand)

theorem storeProgress_reworked (granted : libc.Unaware) (reworked : Reworked wrapper hand)
    (set ruleId position origin : Int) :
    Lockstep ReadingAside (storeProgress libc fuel build wrapper set ruleId position origin)
      (storeProgress libc fuel build hand set ruleId position origin)
      (TurnsAlike Reworked ExitsReworked) := by
  obtain ⟨⟨table, pointers, rfl⟩, symbols, extents⟩ := reworked
  refine (manageBufCreatep_oblivious granted _ _ _ _ _ _ _).then fun room => ?_
  cases room with
  | error left => exact .pure (.done (.broken ⟨⟨_, _, rfl⟩, symbols, extents⟩))
  | ok room =>
    refine (malloc_oblivious granted _).then fun address => ?_
    cases address with
    | none => exact .pure (.done (.returned ⟨⟨_, _, rfl⟩, symbols, extents⟩))
    | some address =>
      refine (readPointer_oblivious _ _).then fun pointer => ?_
      have written (block : Block MarpaWrapperProgress) (index : Int)
          (item : Slot MarpaWrapperProgress) :
          Oblivious (ReadingAside (V := V)) (writeArray block index item) :=
        (useBlock_oblivious block).bind fun _ =>
          .ite (.throw _) ((writeCell_oblivious _ _ _).bind fun _ => .pure _)
      exact (written _ _ _).then fun _ => .pure (.next ⟨⟨_, _, rfl⟩, symbols, extents⟩)

theorem itemTurn_reworked (granted : libc.Unaware) (unaware : marpa.Unaware) (set : Int)
    (index : Nat) (reworked : Reworked wrapper hand) :
    Lockstep ReadingAside (itemTurn libc fuel build marpa set index wrapper)
      (itemTurn libc fuel build marpa set index hand) (TurnsAlike Reworked ExitsReworked) :=
  (ask_oblivious unaware.progressItem fun _ => rfl).then fun _ =>
    .ite Iff.rfl (fun _ _ => .pure (.done (.broken reworked))) fun _ _ =>
      storeProgress_reworked granted reworked _ _ _ _

theorem setTurn_reworked (granted : libc.Unaware) (unaware : marpa.Unaware) (starti : Int)
    (offset : Nat) (reworked : Reworked wrapper hand) :
    Lockstep ReadingAside (setTurn libc fuel build marpa starti offset wrapper)
      (setTurn libc fuel build marpa starti offset hand) (TurnsAlike Reworked ExitsReworked) :=
  (ask_oblivious (unaware.earleme _) fun _ => rfl).then fun _ =>
    .ite Iff.rfl (fun _ _ => .pure (.done (.broken reworked))) fun _ _ =>
      (ask_oblivious (unaware.progressReportStart _) fun _ => rfl).then fun _ =>
        .ite Iff.rfl (fun _ _ => .pure (.done (.broken reworked))) fun _ _ =>
          .forEach_range (fun _ => Reworked)
            (fun index _ _ _ reworked => itemTurn_reworked granted unaware _ index reworked)
            reworked

theorem rankTurn_reworked (reworked : Reworked wrapper hand)
    (cells : List (Slot MarpaWrapperProgress)) (index : Nat)
    (items : List (Int × MarpaWrapperProgress)) :
    Lockstep (ReadingAside (V := V)) (rankTurn wrapper cells index items)
      (rankTurn hand cells index items) Eq := by
  obtain ⟨_, _, rfl⟩ := reworked.frame
  refine Oblivious.bind (readCell_oblivious _ _) fun item => ?_
  cases item with
  | none => exact .throw _
  | some item =>
    simp only
    cases item.marpaWrapperRulep with
    | none => exact .throw _
    | some pointer =>
      refine Oblivious.bind (readObject_oblivious _ _) fun rule => ?_
      cases rule with
      | none => exact .throw _
      | some rule => exact .pure _

/-- The items are ordered by the rules, which are the same in both wrappers. -/
theorem sortProgress_reworked (reworked : Reworked wrapper hand) :
    Lockstep (ReadingAside (V := V)) (sortProgress libc wrapper) (sortProgress libc hand)
      Reworked := by
  unfold sortProgress
  rw [reworked.report, reworked.count]
  cases wrapper.marpaWrapperProgresspp with
  | none => exact .pure reworked
  | some block =>
    refine .ite Iff.rfl (fun _ _ => ?_) fun _ _ => .pure reworked
    refine (Lockstep.forEach_same (rankTurn_reworked reworked block.cells) _).bind ?_
    rintro outcome _ rfl
    cases outcome with
    | done impossible => exact impossible.elim
    | next items =>
      obtain ⟨_, _, rfl⟩ := reworked.frame
      exact .pure ⟨⟨_, _, rfl⟩, reworked.symbols, reworked.pointers⟩

theorem finishProgress_reworked (unaware : marpa.Unaware) (rcb : Bool)
    (reworked : Reworked wrapper hand) :
    Lockstep ReadingAside (finishProgress libc marpa rcb wrapper)
      (finishProgress libc marpa rcb hand) ReworkedResult := by
  refine (ask_oblivious unaware.progressReportFinish fun _ => rfl).then fun _ =>
    .ite Iff.rfl (fun _ _ => (sortProgress_reworked reworked).bind fun sorted sorted' same => ?_)
      fun _ _ => .pure ⟨rfl, reworked⟩
  obtain ⟨_, _, frame⟩ := same.frame
  exact .pure ⟨by rw [frame], same⟩

/-- The same progress is reported. -/
theorem marpaWrapperRProgressb_reworked (granted : libc.Unaware) (unaware : marpa.Unaware)
    (reworked : Reworked wrapper hand) (starti endi : Int) :
    Lockstep ReadingAside (marpaWrapperRProgressb libc fuel build marpa wrapper starti endi)
      (marpaWrapperRProgressb libc fuel build marpa hand starti endi) ReworkedResult := by
  obtain ⟨table, pointers, rfl⟩ := reworked.frame
  have emptied := reworked.progresses none 0 0
  refine .ite Iff.rfl (fun _ _ => .pure ⟨rfl, reworked⟩) fun _ _ =>
    (manageBufFreev_oblivious _ _ _).then fun _ =>
      (ask_oblivious unaware.latestEarleySet fun _ => rfl).then fun latest => ?_
  refine .ite Iff.rfl (fun _ _ => .pure ⟨rfl, emptied⟩) fun _ _ => ?_
  refine (Lockstep.forEach_range (fun _ => Reworked)
    (fun offset _ _ _ reworked => setTurn_reworked granted unaware _ offset reworked)
    emptied).bind fun outcome outcome' turns => ?_
  cases turns with
  | next reworked => exact finishProgress_reworked unaware true reworked
  | done exits =>
    cases exits with
    | broken reworked => exact finishProgress_reworked unaware false reworked
    | returned reworked => exact .pure ⟨rfl, reworked⟩

end Functions

end MarpaWrapper
