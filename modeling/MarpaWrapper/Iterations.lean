/-
This file reads the record of `marpaWrapper_r_recognizeb` iteration by iteration.
A call of the reader opens an iteration. One that comes to the lexemes makes, in
this order, the exchanges before them, the call that reports the expected
terminals, the calls of the lexeme callback, the pushes, and those that complete
the Earley set. An iteration that ends before has none of the last three.

libmarpa reports an expected terminal once, and their number is an `int`.
-/

import MarpaWrapper.Frames
import MarpaWrapper.Segments
import MarpaWrapper.TerminalPushes

namespace MarpaWrapper

open Effects Segments Sorting

variable {V : Type}

/-! ### Kinds of exchanges -/

/-- A call of the reader. -/
def Event.isReader : Event V → Bool
  | .reader _ _ => true
  | _ => false

/-- The exchanges of an iteration that come before the lexemes. -/
def Event.beforeLexemes (event : Event V) : Bool := event.ofProgress || event.ofExpected

/-- The exchanges of an iteration that come before the pushes. -/
def Event.beforePushes : Event V → Bool
  | .isLexeme _ _ => true
  | other => other.beforeLexemes

/-- The exchanges of the pushes. -/
def Event.ofPushes : Event V → Bool
  | .lexemeValue _ _ | .alternative _ _ _ _ => true
  | _ => false

theorem Event.beforePushes_of_beforeLexemes {event : Event V}
    (before : event.beforeLexemes = true) : event.beforePushes = true := by
  cases event <;> first | rfl | exact before

/-! ### Symbols up to their work fields -/

/-- The symbol without what an iteration writes to it. -/
def MarpaWrapperSymbol.withoutWork (symbol : MarpaWrapperSymbol) : MarpaWrapperSymbol :=
  { symbol with isLexemeb := false, lengthl := 0 }

/-- The same symbols are registered, up to their work fields. -/
def SameSymbols (wrapper wrapper' : Wrapper) : Prop :=
  ∀ pointer, (lookup wrapper'.marpaWrapperSymbolpp pointer).map (·.withoutWork) =
    (lookup wrapper.marpaWrapperSymbolpp pointer).map (·.withoutWork)

theorem SameSymbols.refl (wrapper : Wrapper) : SameSymbols wrapper wrapper := fun _ => rfl

theorem SameSymbols.trans {wrapper between wrapper' : Wrapper} (first : SameSymbols wrapper between)
    (second : SameSymbols between wrapper') : SameSymbols wrapper wrapper' :=
  fun pointer => (second pointer).trans (first pointer)

theorem Check.result_withoutWork (check : Check) :
    check.result.withoutWork = check.symbol.withoutWork := by
  unfold Check.result
  cases check.answer with
  | none => rfl
  | some answer => cases answer <;> rfl

theorem Checked.sameSymbols {callbacks : RecognizerCallbacks V} {wrapper wrapper' : Wrapper}
    {world world' : World V} {checks : List Check}
    (checked : Checked callbacks wrapper world checks wrapper' world') :
    SameSymbols wrapper wrapper' := by
  intro pointer
  by_cases touched : ∃ check ∈ checks, check.pointer = pointer
  · obtain ⟨check, member, rfl⟩ := touched
    rw [checked.left check member, checked.found check member]
    exact congrArg some check.result_withoutWork
  · rw [checked.others pointer fun check member same => touched ⟨check, member, same⟩]

/-! ### What an iteration leaves in the record -/

/-- What libmarpa promises of the expected terminals. -/
def Libmarpa.ReportsTerminals (marpa : Libmarpa V) : Prop :=
  ∀ events ids, marpa.terminalsExpected events = some ids → ids.Nodup ∧ ids.length ≤ intMax

/-- The lexemes of a position: the checks of the expected terminals, in some order, and the
pushes. -/
structure Lexemes (marpa : Libmarpa V) (callbacks : RecognizerCallbacks V) (wrapper : Wrapper)
    (ids : List Int) (before : List (Event V)) (checks : List Check) (pushes : List (Event V))
    (through : Bool) : Prop where
  terminals : (checks.map fun check => (check.pointer : Int)).Perm ids
  symbols : ∀ check ∈ checks, (lookup wrapper.marpaWrapperSymbolpp check.pointer).map
    (·.withoutWork) = some check.symbol.withoutWork
  told : Told callbacks before checks
  pushed : Pushed marpa callbacks checks (before ++ checkExchanges checks) pushes through

/-- The exchanges of an iteration that has come to its end or to the end of its pushes. -/
inductive IterationRecord (marpa : Libmarpa V) (callbacks : RecognizerCallbacks V)
    (wrapper : Wrapper) (before : List (Event V)) : List (Event V) → Prop
  | stopped {exchanges : List (Event V)}
      (kind : ∀ event ∈ exchanges, event.beforeLexemes = true) :
      IterationRecord marpa callbacks wrapper before exchanges
  | read {ids : List Int} {opening pushes closing : List (Event V)} {checks : List Check}
      {through : Bool}
      (kind : ∀ event ∈ opening, event.beforeLexemes = true)
      (asked : marpa.terminalsExpected (before ++ opening) = some ids)
      (lexemes : Lexemes marpa callbacks wrapper ids
        (before ++ opening ++ [.terminalsExpected (some ids)]) checks pushes through)
      (closed : ∀ event ∈ closing, event.ofComplete = true)
      (broken : through = false → closing = []) :
      IterationRecord marpa callbacks wrapper before
        (opening ++ [.terminalsExpected (some ids)] ++ checkExchanges checks ++ pushes ++ closing)

theorem Lexemes.of_sameSymbols {marpa : Libmarpa V} {callbacks : RecognizerCallbacks V}
    {wrapper wrapper' : Wrapper} {ids : List Int} {before pushes : List (Event V)}
    {checks : List Check} {through : Bool} (same : SameSymbols wrapper wrapper')
    (lexemes : Lexemes marpa callbacks wrapper' ids before checks pushes through) :
    Lexemes marpa callbacks wrapper ids before checks pushes through :=
  { lexemes with
    symbols := fun check member => (same check.pointer).symm.trans (lexemes.symbols check member) }

theorem IterationRecord.of_sameSymbols {marpa : Libmarpa V} {callbacks : RecognizerCallbacks V}
    {wrapper wrapper' : Wrapper} {before segment : List (Event V)}
    (same : SameSymbols wrapper wrapper')
    (record : IterationRecord marpa callbacks wrapper' before segment) :
    IterationRecord marpa callbacks wrapper before segment := by
  cases record with
  | stopped kind => exact .stopped kind
  | read kind asked lexemes closed broken =>
    exact .read kind asked (lexemes.of_sameSymbols same) closed broken

theorem Pushes.kind {marpa : Libmarpa V} {callbacks : RecognizerCallbacks V} {maxLengthl : Nat}
    {checks : List Check} {value : Int × Int} {events exchanges : List (Event V)} {through : Bool}
    (pushes : Pushes marpa callbacks maxLengthl checks value events exchanges through) :
    ∀ event ∈ exchanges, event.ofPushes = true := by
  have fetches {check : Check} {value fresh : Int × Int} {events fetch : List (Event V)}
      (obtained : Obtained callbacks check value events fetch fresh) :
      ∀ event ∈ fetch, event.ofPushes = true := by
    cases obtained with
    | atHand _ => exact fun _ member => nomatch member
    | fetched _ _ => exact List.forall_mem_singleton.mpr rfl
  induction pushes with
  | nil => exact fun _ member => nomatch member
  | unselected _ _ inductionHypothesis => exact inductionHypothesis
  | refused _ _ _ => exact List.forall_mem_singleton.mpr rfl
  | rejected _ obtained _ _ =>
    exact List.forall_mem_append.mpr ⟨fetches obtained, List.forall_mem_singleton.mpr rfl⟩
  | accepted _ obtained _ _ inductionHypothesis =>
    exact List.forall_mem_append.mpr ⟨List.forall_mem_append.mpr
      ⟨fetches obtained, List.forall_mem_singleton.mpr rfl⟩, inductionHypothesis⟩

theorem Pushed.kind {marpa : Libmarpa V} {callbacks : RecognizerCallbacks V} {checks : List Check}
    {events exchanges : List (Event V)} {through : Bool}
    (pushed : Pushed marpa callbacks checks events exchanges through) :
    ∀ event ∈ exchanges, event.ofPushes = true := by
  unfold Pushed at pushed
  by_cases matched : 0 < longest checks
  · rw [if_pos matched] at pushed
    exact pushed.kind
  · rw [if_neg matched] at pushed
    rw [pushed.1]
    exact fun _ member => nomatch member

theorem checkExchanges_kind (checks : List Check) (event : Event V)
    (member : event ∈ checkExchanges checks) : ∃ datavp length, event = .isLexeme datavp length := by
  obtain ⟨check, -, exchange⟩ := List.mem_filterMap.mp member
  obtain ⟨length, -, same⟩ := Option.map_eq_some_iff.mp exchange
  exact ⟨_, length, same.symm⟩

/-- No iteration goes beyond the next call of the reader. -/
theorem IterationRecord.unopened {marpa : Libmarpa V} {callbacks : RecognizerCallbacks V}
    {wrapper : Wrapper} {before segment : List (Event V)}
    (record : IterationRecord marpa callbacks wrapper before segment) :
    ∀ event ∈ segment, ¬ event.isReader = true := by
  have lexemeless (event : Event V) (kind : event.beforeLexemes = true) :
      ¬ event.isReader = true := by
    cases event <;> first | exact Bool.false_ne_true | exact absurd kind Bool.false_ne_true
  cases record with
  | stopped kind => exact fun event member => lexemeless event (kind event member)
  | read kind asked lexemes closed broken =>
    intro event member
    simp only [List.mem_append, List.mem_singleton] at member
    rcases member with (((opening | rfl) | checked) | pushed) | closing
    · exact lexemeless event (kind event opening)
    · exact Bool.false_ne_true
    · obtain ⟨datavp, length, rfl⟩ := checkExchanges_kind _ event checked
      exact Bool.false_ne_true
    · have ofPushes := lexemes.pushed.kind event pushed
      cases event <;> first | exact Bool.false_ne_true | cases ofPushes
    · have ofComplete := closed event closing
      cases event <;> first | exact Bool.false_ne_true | cases ofComplete

/-! ### One iteration -/

section Runs

variable {libc : Libc V} {fuel : Nat} {build : Build} {marpa : Libmarpa V}
  {callbacks : RecognizerCallbacks V} {wrapper wrapper' : Wrapper} {world world' : World V}

/-- What is not a want of fuel. -/
def undefined (fault : Fault) : Prop := fault ≠ .exhausted

theorem readCell_exits {α : Type} (cells : List (Slot α)) (index : Nat) :
    Exits undefined (readCell cells index : Exec V (Option α)) := by
  unfold readCell
  cases cells[index]? with
  | none => exact .throw fun same => nomatch same
  | some cell => cases cell <;> first | exact .throw fun same => nomatch same | exact .pure _

theorem readSymbol_exits (pointer : Nat) :
    Exits undefined (readSymbol wrapper pointer : Exec V MarpaWrapperSymbol) := by
  refine .bind ?_ fun symbol => ?_
  · unfold readObject
    cases wrapper.marpaWrapperSymbolpp with
    | none => exact .throw fun same => nomatch same
    | some block => exact readCell_exits _ _
  · cases symbol with
    | none => exact .throw fun same => nomatch same
    | some symbol => exact .pure _

theorem expectedSymbol_exits (cells : List (Slot Nat)) (index : Nat) :
    Exits undefined (expectedSymbol wrapper cells index : Exec V (Nat × MarpaWrapperSymbol)) := by
  refine .bind (readCell_exits _ _) fun pointer => ?_
  cases pointer with
  | none => exact .throw fun same => nomatch same
  | some pointer => exact .bind (readSymbol_exits pointer) fun _ => .pure _

theorem writeSymbol_exits (pointer : Nat) (symbol : MarpaWrapperSymbol) :
    Exits undefined (writeSymbol wrapper pointer symbol : Exec V Wrapper) := by
  unfold writeSymbol
  cases wrapper.marpaWrapperSymbolpp with
  | none => exact .throw fun same => nomatch same
  | some table => exact .bind (.ite (.pure _) (.throw fun same => nomatch same)) fun _ => .pure _

theorem orderTerminals_exits (count : Nat) :
    Exits undefined (orderTerminals libc callbacks wrapper count) := by
  refine .ite (.bind (.forEach (fun index terminals => .bind (expectedSymbol_exits _ _) fun _ =>
    .pure _) _ _) fun turn => ?_) (.pure _)
  cases turn with
  | next terminals => exact .bind (fun _ _ => trivial) fun _ => .pure _
  | done result => exact result.elim

theorem checkTurn_exits (index : Nat) (frame : Wrapper × Nat) :
    Exits undefined (checkTurn callbacks index frame) := by
  refine .bind (expectedSymbol_exits _ _) fun terminal => .ite
    (.bind (writeSymbol_exits _ _) fun _ => .pure _)
    (.bind (fun _ _ => trivial) fun answer => ?_)
  cases answer <;> exact .bind (writeSymbol_exits _ _) fun _ => .pure _

/-- What the lexemes of a position leave. -/
theorem readLexemes_record (marpa : Libmarpa V) (callbacks : RecognizerCallbacks V)
    (world : World V) (conforms : Conforms libc.qsort) {ids : List Int}
    (points : PointsTo wrapper.marpaWrapperSymbolpp ids (expectedCells wrapper))
    (distinct : ids.Nodup) (recognizer : wrapper.marpaRecognizerp.isSome) :
    match readLexemes libc marpa callbacks wrapper ids.length world with
    | .ok (pushed, wrapper') world' => ∃ checks pushes,
      Lexemes marpa callbacks wrapper ids world.events checks pushes pushed ∧
      world'.events = world.events ++ (checkExchanges checks ++ pushes) ∧
      SameSymbols wrapper wrapper'
    | .error fault world' => undefined fault ∧
      ∃ exchanges, world'.events = world.events ++ exchanges ∧
        ∀ event ∈ exchanges, event.beforePushes = true := by
  rw [readLexemes]
  cases ordered : orderTerminals libc callbacks wrapper ids.length world with
  | error fault world' =>
    rw [run_bind_error ordered]
    have kept : Continued (·.beforePushes = true) world world' :=
      Triple.error (orderTerminals_continued callbacks ids.length) (.refl _ world) ordered
    exact ⟨Triple.error (orderTerminals_exits ids.length) trivial ordered, kept.record⟩
  | ok sorted world' =>
    rw [run_bind_ok ordered]
    obtain ⟨rfl, pointers, rfl, perm⟩ := orderTerminals_return conforms ordered
    have spread : Spread (expectedCells { wrapper with
        expectedMarpaWrapperSymbolArraypp := pointers }) ids.length :=
      (points.spread distinct (Nat.le_refl _)).perm perm
    cases looped : forEach (checkTurn callbacks) (List.range ids.length)
        ({ wrapper with expectedMarpaWrapperSymbolArraypp := pointers }, 0) world' with
    | error fault world'' =>
      rw [run_bind_error looped]
      have kept : Continued (·.beforePushes = true) world' world'' :=
        Triple.error (Keeps.forEach (checkTurn_continued (fun _ _ => rfl) _) _ _) (.refl _ world') looped
      exact ⟨Triple.error (Exits.forEach checkTurn_exits _ _) trivial looped, kept.record⟩
    | ok outcome world'' =>
      rw [run_bind_ok looped]
      obtain ⟨checks, wrapper', length, rfl, checked⟩ := checkLoop_return spread looped
      have still : wrapper'.marpaRecognizerp.isSome := by
        obtain ⟨table, rfl⟩ := checked.frame
        exact recognizer
      obtain ⟨pushes, through, run, pushed⟩ := pushTerminals_run marpa callbacks world'' still
        fun index check => checked.awaits
      rw [length] at run
      simp only
      rw [run_bind_ok run]
      have named : ((checks.map Check.pointer).map fun pointer : Nat => (pointer : Int)).Perm ids := by
        refine points.perm ((List.Perm.of_eq ?_).trans perm)
        rw [List.map_map, ← length, checked.cells]
        rfl
      refine ⟨checks, pushes, ⟨by rwa [List.map_map] at named, fun check member => ?_,
        checked.told, ?_⟩, ?_, ?_⟩
      · exact congrArg (Option.map _) (checked.found check member)
      · rw [checked.record] at pushed
        exact pushed
      · rw [checked.record, List.append_assoc]
      · exact checked.sameSymbols

/-- The arrays of the expected terminals and the fields of the progress report are no symbols. -/
theorem OnlyProgress.sameSymbols (frame : OnlyProgress wrapper wrapper') :
    SameSymbols wrapper wrapper' := by
  obtain ⟨_, _, _, rfl⟩ := frame
  exact .refl _

theorem OnlyExpected.sameSymbols (frame : OnlyExpected wrapper wrapper') :
    SameSymbols wrapper wrapper' := by
  obtain ⟨_, _, rfl⟩ := frame
  exact .refl _

theorem OnlyRecognizer.sameSymbols (frame : OnlyRecognizer wrapper wrapper') :
    SameSymbols wrapper wrapper' := by
  obtain ⟨_, _, _, rfl⟩ := frame
  exact .refl _

theorem Event.beforeLexemes_of_progress {event : Event V} (kind : event.ofProgress = true) :
    event.beforeLexemes = true := by
  rw [Event.beforeLexemes, kind]
  rfl

theorem Event.beforeLexemes_of_expected {event : Event V} (kind : event.ofExpected = true) :
    event.beforeLexemes = true := by
  rw [Event.beforeLexemes, kind, Bool.or_true]

/-- The expected terminals were reported: a recognizer is there. -/
theorem recognizer_of_expected {count : Nat}
    (run : marpaWrapperRTerminalsExpectedb libc marpa wrapper world =
      .ok (some count, wrapper') world') : wrapper'.marpaRecognizerp.isSome := by
  obtain ⟨_, _, rfl⟩ := marpaWrapperRTerminalsExpectedb_frame run
  unfold marpaWrapperRTerminalsExpectedb at run
  by_cases missing : wrapper.marpaRecognizerp.isNone
  · rw [if_pos missing] at run
    cases run
  · rwa [Bool.not_eq_true, Option.isNone_eq_false_iff] at missing

/-- What is left of an iteration, by how it ended. -/
def Iterated (marpa : Libmarpa V) (callbacks : RecognizerCallbacks V) (wrapper : Wrapper)
    (world : World V) : EStateM.Result Fault (World V) (Bool × Wrapper) → Prop
  | .ok (_, wrapper') world' => ∃ segment, world'.events = world.events ++ segment ∧
    IterationRecord marpa callbacks wrapper world.events segment ∧ SameSymbols wrapper wrapper'
  | .error fault world' => ∃ segment, world'.events = world.events ++ segment ∧
    (IterationRecord marpa callbacks wrapper world.events segment ∨
      undefined fault ∧ ∀ event ∈ segment, event.beforePushes = true)

theorem Iterated.of_sameSymbols {start : World V} (same : SameSymbols wrapper wrapper')
    {result : EStateM.Result Fault (World V) (Bool × Wrapper)}
    (iterated : Iterated marpa callbacks wrapper' start result) :
    Iterated marpa callbacks wrapper start result := by
  cases result with
  | ok value final =>
    obtain ⟨segment, added, record, more⟩ := iterated
    exact ⟨segment, added, record.of_sameSymbols same, same.trans more⟩
  | error fault final =>
    obtain ⟨segment, added, record⟩ := iterated
    exact ⟨segment, added, record.imp_left fun whole => whole.of_sameSymbols same⟩

/-- An iteration that reads the lexemes of a position. -/
theorem readIteration_record (conforms : Conforms libc.qsort) {ids : List Int}
    {before opening : List (Event V)}
    (kind : ∀ event ∈ opening, event.beforeLexemes = true)
    (record : world.events = before ++ opening ++ [.terminalsExpected (some ids)])
    (asked : marpa.terminalsExpected (before ++ opening) = some ids)
    (points : PointsTo wrapper.marpaWrapperSymbolpp ids (expectedCells wrapper))
    (distinct : ids.Nodup) (recognizer : wrapper.marpaRecognizerp.isSome)
    {start : World V} (started : start.events = before) :
    Iterated marpa callbacks wrapper start ((do
      let (pushed, wrapper) ← readLexemes libc marpa callbacks wrapper ids.length
      if pushed then
        let completed ← marpaWrapperRCompleteb libc marpa wrapper
        pure (completed, wrapper)
      else pure (false, wrapper) : Exec V (Bool × Wrapper)) world) := by
  subst started
  have lexemes := readLexemes_record marpa callbacks world conforms points distinct recognizer
  cases read : readLexemes libc marpa callbacks wrapper ids.length world with
  | error fault world' =>
    rw [read] at lexemes
    obtain ⟨fatal, exchanges, added, checks⟩ := lexemes
    rw [run_bind_error read]
    refine ⟨opening ++ [.terminalsExpected (some ids)] ++ exchanges, ?_, .inr ⟨fatal, ?_⟩⟩
    · rw [added, record]
      simp only [List.append_assoc]
    · intro event member
      simp only [List.mem_append, List.mem_singleton] at member
      rcases member with (opened | rfl) | checked
      · exact Event.beforePushes_of_beforeLexemes (kind event opened)
      · rfl
      · exact checks event checked
  | ok result world' =>
    obtain ⟨pushed, wrapper'⟩ := result
    rw [read] at lexemes
    obtain ⟨checks, pushes, lexemes, added, same⟩ := lexemes
    rw [run_bind_ok read]
    rw [record] at lexemes added
    have segment (closing : List (Event V)) (closed : ∀ event ∈ closing, event.ofComplete = true)
        (broken : pushed = false → closing = []) :
        IterationRecord marpa callbacks wrapper start.events (opening ++
          [.terminalsExpected (some ids)] ++ checkExchanges checks ++ pushes ++ closing) :=
      .read kind asked lexemes closed broken
    cases pushed with
    | false =>
      refine ⟨_, ?_, segment [] (fun _ member => nomatch member) fun _ => rfl, same⟩
      rw [added]
      simp only [List.append_assoc, List.append_nil]
    | true =>
      have closes {final : World V} (continued : Continued (·.ofComplete = true) world' final) :
          ∃ segment, final.events = start.events ++ segment ∧
            IterationRecord marpa callbacks wrapper start.events segment := by
        obtain ⟨closing, appended, closed⟩ := continued.record
        refine ⟨_, ?_, segment closing closed fun same => nomatch same⟩
        rw [appended, added]
        simp only [List.append_assoc]
      have keeps : Keeps (Continued (·.ofComplete = true) world')
          (marpaWrapperRCompleteb libc marpa wrapper') := marpaWrapperRCompleteb_continued
      have completes := keeps world' (.refl _ _)
      simp only [if_true]
      cases completed : marpaWrapperRCompleteb libc marpa wrapper' world' with
      | error fault final =>
        rw [completed] at completes
        rw [run_bind_error completed]
        obtain ⟨segment, appended, whole⟩ := closes completes
        exact ⟨segment, appended, .inl whole⟩
      | ok result final =>
        rw [completed] at completes
        rw [run_bind_ok completed]
        obtain ⟨segment, appended, whole⟩ := closes completes
        exact ⟨segment, appended, whole, same⟩

/-- An iteration that ends before the lexemes. -/
theorem Continued.iterated {start : World V}
    (continued : Continued (·.beforeLexemes = true) start world) (marpa : Libmarpa V)
    (callbacks : RecognizerCallbacks V) (wrapper : Wrapper) :
    ∃ segment, world.events = start.events ++ segment ∧
      IterationRecord marpa callbacks wrapper start.events segment := by
  obtain ⟨exchanges, added, kind⟩ := continued.record
  exact ⟨exchanges, added, .stopped kind⟩

/-- The body of the loop of `marpaWrapper_r_recognizeb`. -/
theorem recognizeIteration_record (conforms : Conforms libc.qsort)
    (reports : marpa.ReportsTerminals) (fuel : Nat) (build : Build)
    (callbacks : RecognizerCallbacks V) (wrapper : Wrapper) (world : World V) :
    Iterated marpa callbacks wrapper world
      (recognizeIteration libc fuel build marpa callbacks wrapper world) := by
  have shows : Keeps (Continued (·.beforeLexemes = true) world)
      (showProgress libc fuel build marpa wrapper) :=
    Continued.widen (fun _ => showProgress_continued) fun _ => Event.beforeLexemes_of_progress
  have expects (wrapper : Wrapper) : Keeps (Continued (·.beforeLexemes = true) world)
      (marpaWrapperRTerminalsExpectedb libc marpa wrapper) :=
    Continued.widen (fun _ => marpaWrapperRTerminalsExpectedb_continued)
      fun _ => Event.beforeLexemes_of_expected
  have shown := shows world (.refl _ _)
  rw [recognizeIteration]
  cases show1 : showProgress libc fuel build marpa wrapper world with
  | error fault world' =>
    rw [show1] at shown
    rw [run_bind_error show1]
    obtain ⟨segment, added, record⟩ := shown.iterated marpa callbacks wrapper
    exact ⟨segment, added, .inl record⟩
  | ok wrapper1 world1 =>
    rw [show1] at shown
    rw [run_bind_ok show1]
    have same1 := (showProgress_frame show1).sameSymbols
    have expected := expects wrapper1 world1 shown
    cases show2 : marpaWrapperRTerminalsExpectedb libc marpa wrapper1 world1 with
    | error fault world2 =>
      rw [show2] at expected
      rw [run_bind_error show2]
      obtain ⟨segment, added, record⟩ := expected.iterated marpa callbacks wrapper
      exact ⟨segment, added, .inl record⟩
    | ok result world2 =>
      obtain ⟨count, wrapper2⟩ := result
      rw [show2] at expected
      rw [run_bind_ok show2]
      have same2 := same1.trans (marpaWrapperRTerminalsExpectedb_frame show2).sameSymbols
      cases count with
      | none =>
        obtain ⟨segment, added, record⟩ := expected.iterated marpa callbacks wrapper
        exact ⟨segment, added, record, same2⟩
      | some count =>
        have recognizer := recognizer_of_expected show2
        obtain ⟨allocation, ids, idArray, pointerArray, allocated, asked, record, counted, rfl,
          points⟩ := marpaWrapperRTerminalsExpectedb_return show2
        obtain ⟨distinct, few⟩ := reports _ ids asked
        obtain rfl : count = ids.length := by
          rw [counted, toSize]
          unfold sizeModulus
          unfold intMax at few
          omega
        obtain ⟨opening, opened, kind⟩ := shown.record
        have kinds : ∀ event ∈ opening ++ allocation, event.beforeLexemes = true :=
          List.forall_mem_append.mpr ⟨kind, fun event member =>
            Event.beforeLexemes_of_expected (allocated event member)⟩
        rw [opened, List.append_assoc] at asked
        rw [opened, List.append_assoc world.events] at record
        have read : Iterated marpa callbacks _ world _ := readIteration_record conforms kinds record
          asked points distinct recognizer rfl
        exact read.of_sameSymbols same2

/-! ### All iterations -/

/-- Undefined behaviour ended a run before the pushes of its last iteration. -/
structure CutShort {α : Type} (result : EStateM.Result Fault (World V) α)
    (before segment : List (Event V)) : Prop where
  faulted : ∃ fault world, result = .error fault world ∧ undefined fault ∧
    world.events = before ++ segment
  early : ∀ event ∈ segment, event.beforePushes = true

/-- The iterations since `start` are as they should be. -/
def IteratedSince (marpa : Libmarpa V) (callbacks : RecognizerCallbacks V) (wrapper : Wrapper)
    (start world : World V) : Prop :=
  Every (fun event => event.isReader = true) start.events world.events
    (IterationRecord marpa callbacks wrapper)

/-- The same after a run that left with a fault. -/
def IteratedUntil (marpa : Libmarpa V) (callbacks : RecognizerCallbacks V) (wrapper : Wrapper)
    (start : World V) {α : Type} (result : EStateM.Result Fault (World V) α) : Prop :=
  Every (fun event => event.isReader = true) start.events (finalState result).events
    fun before segment => IterationRecord marpa callbacks wrapper before segment ∨
      CutShort result before segment

theorem IteratedSince.until {start : World V} {α : Type}
    {result : EStateM.Result Fault (World V) α}
    (since : IteratedSince marpa callbacks wrapper start (finalState result)) :
    IteratedUntil marpa callbacks wrapper start result :=
  since.mono fun _ _ record => .inl record

/-- One more iteration. -/
theorem IteratedSince.turn {start : World V} {segment : List (Event V)} {more endOfInput : Bool}
    (since : IteratedSince marpa callbacks wrapper start world)
    (added : world'.events = world.events ++ [.reader more endOfInput] ++ segment)
    (record : IterationRecord marpa callbacks wrapper (world.events ++ [.reader more endOfInput])
      segment) : IteratedSince marpa callbacks wrapper start world' := by
  unfold IteratedSince
  rw [added, List.append_assoc]
  exact since.extend rfl record.unopened record

/-- One more iteration, which a fault ended. -/
theorem IteratedSince.fault {start : World V} {segment : List (Event V)} {more endOfInput : Bool}
    {fault : Fault} (since : IteratedSince marpa callbacks wrapper start world)
    (added : world'.events = world.events ++ [.reader more endOfInput] ++ segment)
    (fatal : undefined fault) (early : ∀ event ∈ segment, event.beforePushes = true) :
    IteratedUntil marpa callbacks wrapper start
      (.error fault world' : EStateM.Result Fault (World V) Unit) := by
  unfold IteratedUntil
  show Every _ _ world'.events _
  have result := added
  rw [List.append_assoc] at added
  rw [added]
  refine Every.extend (since.mono fun _ _ record => .inl record) rfl (fun event member => ?_)
    (.inr ⟨⟨fault, world', rfl, fatal, result⟩, early⟩)
  have kind := early event member
  cases event <;> first | exact Bool.false_ne_true | exact absurd kind Bool.false_ne_true

/-- What the loop has done at the beginning of a turn. -/
structure Recognizing (marpa : Libmarpa V) (callbacks : RecognizerCallbacks V) (wrapper : Wrapper)
    (start : World V) (wrapper' : Wrapper) (world : World V) : Prop where
  same : SameSymbols wrapper wrapper'
  since : IteratedSince marpa callbacks wrapper start world

theorem recognizeTurn_run (wrapper : Wrapper) (world : World V) :
    recognizeTurn libc fuel build marpa callbacks wrapper world =
      if (callbacks.reader world.events).1 then
        (do
          let (goesOn, wrapper) ← recognizeIteration libc fuel build marpa callbacks wrapper
          pure (if goesOn then .next wrapper else .done (false, wrapper)) : Exec V _)
          { world with events := world.events ++ [.reader true (callbacks.reader world.events).2] }
      else .ok (.done ((callbacks.reader world.events).2 || callbacks.remainingDataIsOkb, wrapper))
        { world with events := world.events ++
          [.reader false (callbacks.reader world.events).2] } := by
  unfold recognizeTurn
  rw [run_bind_ok (run_ask ..)]
  cases callbacks.reader world.events with
  | mk more endOfInput => cases more <;> rfl

/-- One turn of the loop: the reader opens an iteration. -/
theorem recognizeTurn_iterates (conforms : Conforms libc.qsort) (reports : marpa.ReportsTerminals)
    (start : World V) (wrapper' : Wrapper) :
    Triple (Recognizing marpa callbacks wrapper start wrapper')
      (recognizeTurn libc fuel build marpa callbacks wrapper')
      (AfterTurn (Recognizing marpa callbacks wrapper start)
        fun _ => IteratedSince marpa callbacks wrapper start)
      fun fault world => IteratedUntil marpa callbacks wrapper start
        (.error fault world : EStateM.Result Fault (World V) Unit) := by
  rintro state ⟨same, since⟩
  rw [recognizeTurn_run]
  by_cases more : (callbacks.reader state.events).1 = true
  · rw [if_pos more]
    have turned := recognizeIteration_record conforms reports fuel build callbacks wrapper'
      { state with events := state.events ++ [.reader true (callbacks.reader state.events).2] }
    cases run : recognizeIteration libc fuel build marpa callbacks wrapper'
        { state with events := state.events ++ [.reader true (callbacks.reader state.events).2] } with
    | error fault world =>
      rw [run] at turned
      rw [run_bind_error run]
      obtain ⟨segment, added, whole | ⟨fatal, early⟩⟩ := turned
      · exact (since.turn added (whole.of_sameSymbols same)).until
      · exact since.fault added fatal early
    | ok result world =>
      obtain ⟨goesOn, wrapper''⟩ := result
      rw [run] at turned
      rw [run_bind_ok run]
      obtain ⟨segment, added, record, same'⟩ := turned
      have turn := since.turn added (record.of_sameSymbols same)
      cases goesOn with
      | false => exact turn
      | true => exact ⟨same.trans same', turn⟩
  · rw [if_neg more]
    exact since.turn (List.append_nil _).symm (.stopped fun _ member => nomatch member)

/-- What the result would have been does not matter. -/
theorem IteratedUntil.ofType {start : World V} {α β : Type} {fault : Fault}
    (iterated : IteratedUntil marpa callbacks wrapper start
      (.error fault world : EStateM.Result Fault (World V) α)) :
    IteratedUntil marpa callbacks wrapper start
      (.error fault world : EStateM.Result Fault (World V) β) := by
  refine iterated.mono fun before segment => Or.imp_right ?_
  rintro ⟨⟨fault', world', same, fatal, record⟩, early⟩
  injection same with sameFault sameWorld
  exact ⟨⟨fault, world, rfl, sameFault ▸ fatal, sameWorld ▸ record⟩, early⟩

/-- The iterations of a run of `marpaWrapper_r_recognizeb`. -/
theorem marpaWrapperRRecognizeb_iterates (conforms : Conforms libc.qsort)
    (reports : marpa.ReportsTerminals) {option : MarpaWrapperRecognizerOption V}
    (given : option.callbacks build.tracing = some callbacks) (wrapper : Wrapper)
    (start : World V) :
    IteratedUntil marpa callbacks wrapper start
      (marpaWrapperRRecognizeb libc fuel build marpa wrapper (some option) start) := by
  have opening {world : World V} (continued : Continued (·.ofStart = true) start world) :
      IteratedSince marpa callbacks wrapper start world := by
    obtain ⟨exchanges, added, kind⟩ := continued.record
    unfold IteratedSince
    rw [added]
    refine .unopened fun event member => ?_
    have ofStart := kind event member
    cases event <;> first | exact Bool.false_ne_true | exact absurd ofStart Bool.false_ne_true
  have starts : Keeps (Continued (·.ofStart = true) start) (marpaWrapperRStartb libc marpa wrapper) :=
    marpaWrapperRStartb_continued
  have started := starts start (.refl _ _)
  unfold marpaWrapperRRecognizeb
  rw [Option.bind_some, given]
  cases begun : marpaWrapperRStartb libc marpa wrapper start with
  | error fault world =>
    rw [begun] at started
    simp only
    rw [run_bind_error begun]
    exact (opening started).until
  | ok result world =>
    obtain ⟨goesOn, wrapper'⟩ := result
    rw [begun] at started
    simp only
    rw [run_bind_ok begun]
    cases goesOn with
    | false => exact (opening started).until
    | true =>
      have turns : Triple (Recognizing marpa callbacks wrapper start wrapper')
          (loop .exhausted (recognizeTurn libc fuel build marpa callbacks) fuel wrapper')
          (fun _ => IteratedSince marpa callbacks wrapper start)
          fun fault world => IteratedUntil marpa callbacks wrapper start
            (.error fault world : EStateM.Result Fault (World V) Unit) :=
        Triple.loop _ (recognizeTurn_iterates conforms reports start)
          (fun _ _ holds => holds.since.until) fuel wrapper'
      have outcome := turns world
        ⟨(marpaWrapperRStartb_frame begun).sameSymbols, opening started⟩
      simp only [if_true]
      cases run : loop .exhausted (recognizeTurn libc fuel build marpa callbacks) fuel wrapper'
          world with
      | ok result final =>
        rw [run] at outcome
        exact outcome.until
      | error fault final =>
        rw [run] at outcome
        exact outcome.ofType

end Runs

end MarpaWrapper
