/-
This file shows that a recognition does not depend on earlier ones. A wrapper and the same wrapper
after a history of recognitions have the same grammar, and they differ in what the history left
behind: a recognizer with its arrays, a report, the queue of events, and the work fields of the
symbols. The start drops the recognizer and the arrays, and libmarpa clears the queue. A report is
released before the next one is made, and the work fields are set before they are read.

So from the new recognizer on both wrappers make the same exchanges, up to addresses. What is
assumed is that the world lets a recognition begin anew: the same memory is granted to the same
requests, two new recognizers of one grammar answer the same, and so do the callbacks.
-/

import MarpaWrapper.AcceptedInput
import MarpaWrapper.ProgressLockstep

namespace MarpaWrapper

open Effects Sorting

variable {V α : Type}

/-! ### The loop -/

section Loop

variable {libc : Libc V} {fuel : Nat} {build : Build} {marpa : Libmarpa V}
  {callbacks : RecognizerCallbacks V} {wrapper wrapper' : Wrapper} {start start' : World V}

/-- An iteration passes the same alternatives and delivers the same events. -/
theorem recognizeIteration_lockstep (blind : SortsBlindly libc.qsort)
    (granted : libc.AnswersAfresh start.events start'.events)
    (afresh : marpa.AnswersAfresh start.events start'.events)
    (answered : callbacks.AnswersAfresh start.events start'.events)
    (prepared : Prepared wrapper wrapper') (releasable : wrapper.ReportReleasable)
    (releasable' : wrapper'.ReportReleasable) :
    Lockstep (Alike start start') (recognizeIteration libc fuel build marpa callbacks wrapper)
      (recognizeIteration libc fuel build marpa callbacks wrapper') PreparedResult := by
  refine (showProgress_lockstep blind granted afresh prepared releasable releasable').bind
    fun shown shown' prepared => ?_
  refine (marpaWrapperRTerminalsExpectedb_lockstep granted afresh prepared).bind ?_
  rintro ⟨expected, between⟩ ⟨_, between'⟩ ⟨rfl, prepared⟩
  cases expected with
  | none => exact .pure ⟨rfl, prepared⟩
  | some count =>
    refine (readLexemes_lockstep blind granted afresh answered prepared count).bind ?_
    rintro ⟨pushed, read⟩ ⟨_, read'⟩ ⟨rfl, prepared⟩
    refine .ite Iff.rfl (fun _ _ =>
      (marpaWrapperRCompleteb_lockstep granted afresh prepared).bind ?_) fun _ _ =>
        .pure ⟨rfl, prepared⟩
    rintro completed _ rfl
    exact .pure ⟨rfl, prepared⟩

theorem recognizeTurn_lockstep (blind : SortsBlindly libc.qsort)
    (granted : libc.AnswersAfresh start.events start'.events)
    (afresh : marpa.AnswersAfresh start.events start'.events)
    (answered : callbacks.AnswersAfresh start.events start'.events)
    (prepared : Prepared wrapper wrapper') (releasable : wrapper.ReportReleasable)
    (releasable' : wrapper'.ReportReleasable) :
    Lockstep (Alike start start') (recognizeTurn libc fuel build marpa callbacks wrapper)
      (recognizeTurn libc fuel build marpa callbacks wrapper')
      (TurnsAlike Prepared PreparedResult) := by
  refine (ask_lockstep answered.reader _).bind ?_
  rintro ⟨more, endOfInputb⟩ _ rfl
  refine .ite Iff.rfl (fun _ _ => (recognizeIteration_lockstep blind granted afresh answered
    prepared releasable releasable').bind ?_) fun _ _ => .pure (.done ⟨rfl, prepared⟩)
  rintro ⟨goesOn, between⟩ ⟨_, between'⟩ ⟨rfl, prepared⟩
  cases goesOn with
  | false => exact .pure (.done ⟨rfl, prepared⟩)
  | true => exact .pure (.next prepared)

/-- The loops end alike. -/
theorem recognizeLoop_lockstep (limited : libc.Refuses (2 ^ 63)) (conforms : Conforms libc.qsort)
    (blind : SortsBlindly libc.qsort)
    (granted : libc.AnswersAfresh start.events start'.events)
    (afresh : marpa.AnswersAfresh start.events start'.events)
    (answered : callbacks.AnswersAfresh start.events start'.events) (turns : Nat)
    (prepared : Prepared wrapper wrapper') (releasable : wrapper.ReportReleasable)
    (releasable' : wrapper'.ReportReleasable) :
    Lockstep (Alike start start')
      (loop .exhausted (recognizeTurn libc fuel build marpa callbacks) turns wrapper)
      (loop .exhausted (recognizeTurn libc fuel build marpa callbacks) turns wrapper')
      PreparedResult := by
  have kept : Kept libc fuel build marpa fun wrapper _ => wrapper.ReportReleasable :=
    reportReleasable_kept limited conforms
  refine Lockstep.loop (fun wrapper wrapper' => Prepared wrapper wrapper' ∧
    wrapper.ReportReleasable ∧ wrapper'.ReportReleasable)
    (fun wrapper wrapper' alike => ?_) turns ⟨prepared, releasable, releasable'⟩
  obtain ⟨prepared, releasable, releasable'⟩ := alike
  have returned {wrapper : Wrapper} (releasable : wrapper.ReportReleasable) (state : World V)
      (outcome : Turn Wrapper (Bool × Wrapper)) (next : World V)
      (run : recognizeTurn libc fuel build marpa callbacks wrapper state = .ok outcome next) :
      ∀ following, outcome = .next following → following.ReportReleasable := by
    rintro following rfl
    exact kept.turn releasable run
  refine ((recognizeTurn_lockstep blind granted afresh answered prepared releasable
    releasable').returning (returned releasable) (returned releasable')).weaken
      fun outcome outcome' holds => ?_
  obtain ⟨turns, released, released'⟩ := holds
  cases turns with
  | next prepared => exact .next ⟨prepared, released _ rfl, released' _ rfl⟩
  | done results => exact .done results

end Loop

/-! ### The start -/

/-- From two points on the exchanges show the same. -/
def ShownAlike (start start' world world' : World V) : Prop :=
  ∃ exchanges exchanges', world.events = start.events ++ exchanges ∧
    world'.events = start'.events ++ exchanges' ∧ ownView exchanges = ownView exchanges'

/-- The wrapper with a new recognizer, if there is one, and without the arrays of the one before. -/
def Wrapper.restarted (wrapper : Wrapper) (handle : Option Nat) : Wrapper :=
  { wrapper with
    marpaRecognizerp := handle
    expectedMarpaSymbolIdArrayp := none
    expectedMarpaWrapperSymbolArraypp := none }

/-- The world after a recognizer was created behind some exchanges. -/
def World.begun (world : World V) (exchanges : List (Event V)) : World V :=
  { world with
    events := world.events ++ exchanges ++ [.recognizerNew (some world.nextAddress)]
    nextAddress := world.nextAddress + 1 }

/-- The world after the input was started. -/
def World.started (world : World V) (answer : Int × List (Nat × Int)) : World V :=
  { world with
    events := world.events ++ [.startInput answer.1]
    grammar := { world.grammar with events := answer.2 } }

section Start

variable {libc : Libc V} {fuel : Nat} {build : Build} {marpa : Libmarpa V}
  {callbacks : RecognizerCallbacks V} {wrapper wrapper' : Wrapper} {world world' : World V}

/-- What is released is not seen, and nothing of it is kept. -/
theorem releaseRecognizer_unseen (restartable : Restartable wrapper world) :
    ∃ exchanges released, releaseRecognizer wrapper world =
        .ok released { world with events := world.events ++ exchanges } ∧
      ownView exchanges = [] ∧
      ∀ handle, { released with marpaRecognizerp := handle } = wrapper.restarted handle := by
  unfold releaseRecognizer
  cases there : wrapper.marpaRecognizerp with
  | none =>
    obtain ⟨ids, pointers⟩ := restartable.alone there
    refine ⟨[], wrapper, by rw [List.append_nil]; rfl, rfl, fun handle => ?_⟩
    unfold Wrapper.restarted
    rw [ids, pointers]
  | some handle =>
    have unseen (address : Option Nat) :
        ownView (address.map (Event.free (V := V))).toList = [] := by
      cases address <;> rfl
    refine ⟨[.recognizerUnref handle] ++
      ((wrapper.expectedMarpaSymbolIdArrayp.map (·.address)).map Event.free).toList ++
      ((wrapper.expectedMarpaWrapperSymbolArraypp.map (·.address)).map Event.free).toList,
      wrapper.restarted (some handle), ?_, ?_, fun _ => rfl⟩
    · simp only
      rw [run_bind_ok (run_emit _ _), run_bind_ok (freeIfNotNull_run _ _),
        run_bind_ok (freeIfNotNull_run _ _), List.append_assoc, List.append_assoc, List.append_assoc]
      rfl
    · rw [ownView_append, ownView_append, unseen, unseen]
      rfl

/-- A start is refused, or it goes on with a new recognizer. -/
theorem startRecognizer_begins (marpa : Libmarpa V) (restartable : Restartable wrapper world) :
    ∃ exchanges, ownView exchanges = [] ∧
      if marpa.recognizerNew (world.events ++ exchanges) then
        startRecognizer marpa wrapper world =
          .ok (!((marpa.startInput (world.begun exchanges).events).1 < 0),
            wrapper.restarted (some world.nextAddress))
            ((world.begun exchanges).started (marpa.startInput (world.begun exchanges).events))
      else startRecognizer marpa wrapper world = .ok (false, wrapper.restarted none)
        { world with events := world.events ++ exchanges ++ [.recognizerNew none] } := by
  obtain ⟨exchanges, released, run, unseen, following⟩ := releaseRecognizer_unseen restartable
  refine ⟨exchanges, unseen, ?_⟩
  unfold startRecognizer
  rw [run_bind_ok run]
  by_cases granted : marpa.recognizerNew (world.events ++ exchanges) = true
  · rw [if_pos granted, run_bind_ok (run_acquire_granted granted)]
    simp only [following]
    rfl
  · rw [if_neg granted, run_bind_ok (run_acquire_refused (Bool.not_eq_true _ ▸ granted))]
    simp only [following]
    rfl

/-- Two starts are both refused, or both go on from a new recognizer. -/
theorem startRecognizer_alike (created : SameAnswers marpa.recognizerNew world.events world'.events)
    (afresh : Anew marpa.AnswersAfresh world.events world'.events)
    (symbols : world.grammar.symbols.length = world'.grammar.symbols.length)
    (restartable : Restartable wrapper world) (restartable' : Restartable wrapper' world') :
    (∃ final final', ShownAlike world world' final final' ∧
      startRecognizer marpa wrapper world = .ok (false, wrapper.restarted none) final ∧
      startRecognizer marpa wrapper' world' = .ok (false, wrapper'.restarted none) final') ∨
    ∃ exchanges exchanges' started final final', ownView exchanges = [] ∧ ownView exchanges' = [] ∧
      Alike (world.begun exchanges) (world'.begun exchanges') final final' ∧
      startRecognizer marpa wrapper world =
        .ok (started, wrapper.restarted (some world.nextAddress)) final ∧
      startRecognizer marpa wrapper' world' =
        .ok (started, wrapper'.restarted (some world'.nextAddress)) final' := by
  obtain ⟨exchanges, unseen, run⟩ := startRecognizer_begins marpa restartable
  obtain ⟨exchanges', unseen', run'⟩ := startRecognizer_begins marpa restartable'
  have shown : ownView exchanges = ownView exchanges' := unseen.trans unseen'.symm
  rw [← created exchanges exchanges' shown] at run'
  by_cases created : marpa.recognizerNew (world.events ++ exchanges) = true
  · rw [if_pos created] at run run'
    have input : marpa.startInput (world.begun exchanges).events =
        marpa.startInput (world'.begun exchanges').events := by
      have answers := (afresh exchanges exchanges' world.nextAddress world'.nextAddress unseen
        unseen').startInput [] [] rfl
      rwa [List.append_nil, List.append_nil] at answers
    rw [← input] at run'
    exact .inr ⟨exchanges, exchanges', _,
      (world.begun exchanges).started (marpa.startInput (world.begun exchanges).events),
      (world'.begun exchanges').started (marpa.startInput (world.begun exchanges).events), unseen,
      unseen', ⟨⟨_, _, rfl, rfl, rfl⟩, symbols, rfl⟩, run, run'⟩
  · rw [if_neg created] at run run'
    refine .inl ⟨_, _, ⟨exchanges ++ [.recognizerNew none], exchanges' ++ [.recognizerNew none],
      List.append_assoc _ _ _, List.append_assoc _ _ _, ?_⟩, run, run'⟩
    rw [ownView_append, ownView_append, shown]

/-- What is alike since a new recognizer shows the same since before it. -/
theorem Alike.shownAlike {exchanges exchanges' : List (Event V)} {final final' : World V}
    (alike : Alike (world.begun exchanges) (world'.begun exchanges') final final')
    (shown : ownView exchanges = ownView exchanges') : ShownAlike world world' final final' := by
  obtain ⟨more, more', record, record', shown'⟩ := alike.record
  refine ⟨exchanges ++ ([.recognizerNew (some world.nextAddress)] ++ more),
    exchanges' ++ ([.recognizerNew (some world'.nextAddress)] ++ more'), ?_, ?_, ?_⟩
  · rw [record]
    simp only [World.begun, List.append_assoc]
  · rw [record']
    simp only [World.begun, List.append_assoc]
  · rw [ownView_append, ownView_append, ownView_append, ownView_append, shown, shown']
    rfl

/-- Two recognitions that begin with the same grammar end alike. -/
theorem marpaWrapperRRecognizeb_repeats (limited : libc.Refuses (2 ^ 63))
    (conforms : Conforms libc.qsort) (blind : SortsBlindly libc.qsort)
    {option : Option (MarpaWrapperRecognizerOption V)}
    (created : SameAnswers marpa.recognizerNew world.events world'.events)
    (granted : Anew libc.AnswersAfresh world.events world'.events)
    (afresh : Anew marpa.AnswersAfresh world.events world'.events)
    (answered : ∀ callbacks ∈ option.bind (·.callbacks build.tracing),
      Anew callbacks.AnswersAfresh world.events world'.events)
    (peers : Peers wrapper wrapper')
    (symbols : world.grammar.symbols.length = world'.grammar.symbols.length)
    (restartable : Restartable wrapper world) (restartable' : Restartable wrapper' world')
    (releasable : wrapper.ReportReleasable) (releasable' : wrapper'.ReportReleasable) :
    OutcomesAlike (ShownAlike world world') (fun result result' => result.1 = result'.1)
      (marpaWrapperRRecognizeb libc fuel build marpa wrapper option world)
      (marpaWrapperRRecognizeb libc fuel build marpa wrapper' option world') := by
  unfold marpaWrapperRRecognizeb
  cases given : option.bind (·.callbacks build.tracing) with
  | none => exact .ok ⟨[], [], (List.append_nil _).symm, (List.append_nil _).symm, rfl⟩ rfl
  | some callbacks =>
    have answered := answered callbacks given
    rcases startRecognizer_alike created afresh symbols restartable restartable' with
      ⟨final, final', shown, run, run'⟩ |
      ⟨exchanges, exchanges', started, final, final', unseen, unseen', alike, run, run'⟩
    · unfold marpaWrapperRStartb
      simp only
      rw [bind_assoc, bind_assoc, run_bind_ok run, run_bind_ok run']
      exact .ok shown rfl
    · have prepared (handle handle' : Nat) :
          Prepared (wrapper.restarted (some handle)) (wrapper'.restarted (some handle')) :=
        ⟨⟨peers.options, peers.symbols, peers.rules⟩, rfl, rfl, rfl⟩
      have granted : libc.AnswersAfresh (world.begun exchanges).events
        (world'.begun exchanges').events := granted _ _ _ _ unseen unseen'
      have answered : callbacks.AnswersAfresh (world.begun exchanges).events
        (world'.begun exchanges').events := answered _ _ _ _ unseen unseen'
      have afresh : marpa.AnswersAfresh (world.begun exchanges).events
        (world'.begun exchanges').events := afresh _ _ _ _ unseen unseen'
      have shown : ownView exchanges = ownView exchanges' := unseen.trans unseen'.symm
      have prepared := prepared world.nextAddress world'.nextAddress
      unfold marpaWrapperRStartb
      simp only
      rw [bind_assoc, bind_assoc, run_bind_ok run, run_bind_ok run']
      cases started with
      | false => exact .ok (alike.shownAlike shown) rfl
      | true =>
        simp only [if_true, bind_assoc, pure_bind]
        have rest (reported : Bool) :
            Lockstep (Alike (world.begun exchanges) (world'.begun exchanges'))
              (if reported = true then
                loop .exhausted (recognizeTurn libc fuel build marpa callbacks) fuel
                  (wrapper.restarted (some world.nextAddress))
              else pure (false, wrapper.restarted (some world.nextAddress)))
              (if reported = true then
                loop .exhausted (recognizeTurn libc fuel build marpa callbacks) fuel
                  (wrapper'.restarted (some world'.nextAddress))
              else pure (false, wrapper'.restarted (some world'.nextAddress))) PreparedResult :=
          .ite Iff.rfl (fun _ _ => recognizeLoop_lockstep limited conforms blind granted afresh
            answered fuel prepared releasable releasable') fun _ _ => .pure ⟨rfl, prepared⟩
        have lockstep := (marpaWrapperEvent_lockstep granted afresh prepared.peers).bind
          (fun reported reported' (same : reported = reported') => by
            rw [← same]
            exact rest reported)
        exact (lockstep _ _ alike).weaken (fun _ _ alike => alike.shownAlike shown)
          fun _ _ results => results.1

end Start

/-! ### Histories -/

/-- Whether a call defines a symbol or a rule. -/
def ApiCall.defines : ApiCall V → Bool
  | .addSymbolp _ | .addRulep _ => true
  | _ => false

/-- The grammar has as many symbols and as many rules as it had. -/
structure SameSize (grammar grammar' : Grammar) : Prop where
  symbols : grammar.symbols.length = grammar'.symbols.length
  rules : grammar.rules.length = grammar'.rules.length

/-- What became of a wrapper: its grammar only grew, and unless it did, the wrapper has the same
options, symbols and rules. -/
structure Descends (origin : Wrapper) (start : World V) (wrapper : Wrapper) (world : World V) :
    Prop where
  sizable : SizableTables wrapper
  symbols : start.grammar.symbols.length ≤ world.grammar.symbols.length
  rules : start.grammar.rules.length ≤ world.grammar.rules.length
  peers : SameSize start.grammar world.grammar → Peers origin wrapper

section Histories

variable {libc : Libc V} {fuel : Nat} {build : Build} {marpa : Libmarpa V}
  {origin wrapper wrapper' : Wrapper} {start world world' : World V}

theorem Peers.refl (wrapper : Wrapper) : Peers wrapper wrapper := ⟨rfl, rfl, rfl⟩

/-- A symbol is written back with other work fields. -/
theorem sameTable_withSymbol {pointer : Nat} {symbol result : MarpaWrapperSymbol}
    (found : lookup wrapper.marpaWrapperSymbolpp pointer = some symbol)
    (same : result.withoutWork = symbol.withoutWork) :
    SameTable MarpaWrapperSymbol.withoutWork wrapper.marpaWrapperSymbolpp
      (wrapper.withSymbol pointer result).marpaWrapperSymbolpp := by
  obtain ⟨block, there, cell⟩ := lookup_eq_some.mp found
  unfold Wrapper.withSymbol
  rw [there]
  refine congrArg some (Prod.ext rfl ?_)
  show block.cells.map _ = (block.cells.set pointer (.pointer result)).map _
  refine List.ext_getElem? fun index => ?_
  rw [List.getElem?_map, List.getElem?_map]
  by_cases here : pointer = index
  · subst here
    rw [List.getElem?_set_self (List.getElem?_eq_some_iff.mp cell).1, cell]
    exact congrArg (some ∘ Slot.pointer) same.symm
  · rw [List.getElem?_set_ne here]

theorem SameSize.trans {before between after : Grammar} (first : SameSize before between)
    (second : SameSize between after) : SameSize before after :=
  ⟨first.symbols.trans second.symbols, first.rules.trans second.rules⟩

theorem SameSize.symm {before after : Grammar} (same : SameSize before after) :
    SameSize after before :=
  ⟨same.symbols.symm, same.rules.symm⟩

theorem Continued.sameSize {kind : Event V → Prop} (continued : Continued kind world world') :
    SameSize world.grammar world'.grammar :=
  ⟨congrArg List.length continued.symbols.symm, congrArg List.length continued.rules.symm⟩

theorem Censused.sameSize (censused : Censused world world') :
    SameSize world.grammar world'.grammar :=
  ⟨censused.length.symm, congrArg List.length censused.rules.symm⟩

theorem Untouched.sameSize (untouched : Untouched wrapper world wrapper' world') :
    SameSize world.grammar world'.grammar :=
  ⟨congrArg List.length untouched.symbols.symm, congrArg List.length untouched.rules.symm⟩

/-- What keeps the size of the grammar and the peers. -/
theorem Descends.keeps (descends : Descends origin start wrapper world)
    (sizable : SizableTables wrapper') (same : SameSize world.grammar world'.grammar)
    (peers : Peers origin wrapper → Peers origin wrapper') :
    Descends origin start wrapper' world' :=
  ⟨sizable, same.symbols ▸ descends.symbols, same.rules ▸ descends.rules,
    fun whole => peers (descends.peers (whole.trans same.symm))⟩

/-- One more symbol or rule makes the grammar another one. -/
theorem Descends.grows (descends : Descends origin start wrapper world)
    (sizable : SizableTables wrapper')
    (symbols : world.grammar.symbols.length ≤ world'.grammar.symbols.length)
    (rules : world.grammar.rules.length ≤ world'.grammar.rules.length)
    (more : world.grammar.symbols.length < world'.grammar.symbols.length ∨
      world.grammar.rules.length < world'.grammar.rules.length) :
    Descends origin start wrapper' world' := by
  refine ⟨sizable, Nat.le_trans descends.symbols symbols, Nat.le_trans descends.rules rules,
    fun same => ?_⟩
  have symbols' := descends.symbols
  have rules' := descends.rules
  have sameSymbols := same.symbols
  have sameRules := same.rules
  omega

/-- Everything that a wrapper does. -/
theorem descends_kept : Kept libc fuel build marpa (Descends (V := V) origin start) where
  aside descends continued :=
    descends.keeps descends.sizable continued.sameSize fun peers => peers
  precomputes descends censused :=
    descends.keeps descends.sizable censused.sameSize fun peers => peers
  adds descends run := by
    obtain ⟨sizable, untouched | leaves⟩ := marpaWrapperGAddSymbolp_leaves descends.sizable run
    · exact descends.keeps sizable untouched.sameSize fun peers => untouched.tables ▸ peers
    · obtain ⟨flags, symbols⟩ := leaves.created.symbols
      have more := congrArg List.length symbols
      rw [List.length_append, List.length_singleton] at more
      exact descends.grows sizable (by omega) (Nat.le_of_eq (congrArg List.length
        leaves.created.rules.symm)) (.inl (by omega))
  rules descends run := by
    obtain ⟨sizable, untouched | ⟨option, -, leaves⟩⟩ :=
      marpaWrapperGAddRulep_leaves descends.sizable run
    · exact descends.keeps sizable untouched.sameSize fun peers => untouched.tables ▸ peers
    · obtain ⟨rule, rules⟩ := leaves.created.rules
      have more := congrArg List.length rules
      rw [List.length_append, List.length_singleton] at more
      exact descends.grows sizable (Nat.le_of_eq (congrArg List.length
        leaves.created.symbols.symm)) (by omega) (.inr (by omega))
  starts descends run := by
    obtain ⟨handle, restarted, starts⟩ := startRecognizer_return run
    have sizable := descends.sizable
    have same : SameSize _ _ := ⟨congrArg List.length starts.symbols.symm,
      congrArg List.length starts.rules.symm⟩
    cases restarted <;> exact descends.keeps ⟨sizable.symbols, sizable.rules⟩ same
      fun peers => ⟨peers.options, peers.symbols, peers.rules⟩
  expects descends run := by
    have continued : Continued (·.ofExpected = true) _ _ :=
      .of_run (fun _ => marpaWrapperRTerminalsExpectedb_continued) run
    obtain ⟨_, _, rfl⟩ := marpaWrapperRTerminalsExpectedb_frame run
    have sizable := descends.sizable
    exact descends.keeps ⟨sizable.symbols, sizable.rules⟩ continued.sameSize
      fun peers => ⟨peers.options, peers.symbols, peers.rules⟩
  progresses descends run := by
    have continued : Continued (·.ofProgress = true) _ _ :=
      .of_run (fun _ => marpaWrapperRProgressb_continued _ _) run
    obtain ⟨_, _, _, rfl⟩ := marpaWrapperRProgressb_frame run
    have sizable := descends.sizable
    exact descends.keeps ⟨sizable.symbols, sizable.rules⟩ continued.sameSize
      fun peers => ⟨peers.options, peers.symbols, peers.rules⟩
  orders descends run := by
    have continued : Continued (·.ofLexemes = true) _ _ :=
      .of_run (fun _ => orderTerminals_continued _ _) run
    obtain ⟨_, _, rfl⟩ := orderTerminals_frame run
    have sizable := descends.sizable
    exact descends.keeps ⟨sizable.symbols, sizable.rules⟩ continued.sameSize
      fun peers => ⟨peers.options, peers.symbols, peers.rules⟩
  checks descends found same := by
    refine descends.keeps (descends.sizable.checks found _) ⟨rfl, rfl⟩ fun peers => ?_
    exact ⟨peers.options, peers.symbols.trans (sameTable_withSymbol found same), peers.rules⟩

/-- A recognition defines nothing. -/
theorem marpaWrapperRRecognizeb_continued (option : Option (MarpaWrapperRecognizerOption V)) :
    Keeps (Continued (fun _ => True) start)
      (marpaWrapperRRecognizeb libc fuel build marpa wrapper option) := by
  have any {β : Type} {program : Exec V β} {kind : Event V → Prop}
      (keeps : ∀ start, Keeps (Continued kind start) program) :
      Keeps (Continued (fun _ => True) start) program :=
    Continued.widen keeps fun _ _ => trivial
  unfold marpaWrapperRRecognizeb
  cases option.bind (·.callbacks build.tracing) with
  | none => exact .pure _
  | some callbacks =>
    refine .bind (any fun _ => marpaWrapperRStartb_continued) fun started => .ite (.loop
      (fun wrapper => .bind (ask_continued fun _ => trivial) fun more => .ite (.bind (.bind
        (any fun _ => showProgress_continued) fun shown => .bind
          (any fun _ => marpaWrapperRTerminalsExpectedb_continued) fun expected => ?_)
            fun _ => .pure _) (.pure _)) _ _) (.pure _)
    obtain ⟨count, wrapper⟩ := expected
    cases count with
    | none => exact .pure _
    | some count =>
      exact .bind (any fun _ => readLexemes_continued callbacks count) fun _ =>
        .ite (.bind (any fun _ => marpaWrapperRCompleteb_continued) fun _ => .pure _) (.pure _)

/-- No call defines anything, except for those that do. -/
theorem ApiCall.run_sameSize {call : ApiCall V} {answer : ApiAnswer}
    (undefining : call.defines = false)
    (run : call.run libc fuel build marpa wrapper world = .ok (answer, wrapper') world') :
    SameSize world.grammar world'.grammar := by
  have returned {kind : Event V → Prop} {β γ : Type} {program : Exec V β} {rest : β → Exec V γ}
      {value : γ} (keeps : ∀ start, Keeps (Continued kind start) program)
      (rests : ∀ start value, Keeps (Continued kind start) (rest value))
      (run : (program >>= rest) world = .ok value world') :
      SameSize world.grammar world'.grammar := by
    have continued : Continued kind world world' :=
      .of_run (fun start => Keeps.bind (keeps start) (rests start)) run
    exact continued.sameSize
  cases call with
  | addSymbolp option => cases undefining
  | addRulep option => cases undefining
  | precomputeb =>
    obtain ⟨result, state, ran, rest⟩ := run_bind_eq_ok run
    cases rest
    obtain ⟨between, censused, continued⟩ := marpaWrapperGPrecomputeb_return ran
    exact censused.sameSize.trans continued.sameSize
  | startb => exact returned (fun _ => marpaWrapperRStartb_continued) (fun _ _ => .pure _) run
  | alternativeb symbolp value length =>
    exact returned (fun _ => marpaWrapperRAlternativeb_plain _ _ _) (fun _ _ => .pure _) run
  | completeb => exact returned (fun _ => marpaWrapperRCompleteb_plain) (fun _ _ => .pure _) run
  | readb symbolp value length =>
    exact returned (fun _ => .bind (marpaWrapperRAlternativeb_plain _ _ _) fun _ =>
      .ite marpaWrapperRCompleteb_plain (.pure _)) (fun _ _ => .pure _) run
  | eventActivateb symbolp eventSeti onb =>
    exact returned (fun _ => marpaWrapperREventActivateb_plain _ _ _) (fun _ _ => .pure _) run
  | terminalsExpectedb =>
    exact returned (fun _ => marpaWrapperRTerminalsExpectedb_continued) (fun _ _ => .pure _) run
  | terminalIsExpectedb symbolp =>
    exact returned (fun _ => marpaWrapperRTerminalIsExpectedb_plain _) (fun _ _ => .pure _) run
  | progressb starti endi =>
    exact returned (fun _ => marpaWrapperRProgressb_continued _ _) (fun _ _ => .pure _) run
  | recognizeb option =>
    exact returned (fun _ => marpaWrapperRRecognizeb_continued option) (fun _ _ => .pure _) run
  | vb valueOption stackOption =>
    exact returned (fun _ => Continued.of_grown fun _ => marpaWrapperVb_plain _ _ _)
      (fun _ _ => .pure _) run

/-- Neither does a history of calls. -/
theorem runCalls_sameSize {history : List (ApiCall V)} {answers : List ApiAnswer}
    (undefining : ∀ call ∈ history, call.defines = false)
    (run : runCalls (ApiCall.run libc fuel build marpa) history wrapper world =
      .ok (answers, wrapper') world') : SameSize world.grammar world'.grammar := by
  induction history generalizing wrapper world answers with
  | nil => cases run; exact ⟨rfl, rfl⟩
  | cons call rest inductionHypothesis =>
    obtain ⟨answer, others, between, state, head, tail, -⟩ := runCalls_cons_eq_ok run
    exact (ApiCall.run_sameSize (undefining call List.mem_cons_self) head).trans
      (inductionHypothesis (fun other member => undefining other (List.mem_cons_of_mem _ member))
        tail)

/-- A recognition does not depend on earlier ones. After any history of calls that define no symbol
and no rule, in a world that lets a recognition begin anew, `marpaWrapper_r_recognizeb` makes the
same exchanges as it would have made before that history, up to addresses and releases, and it ends
in the same way. So it passes the same alternatives, it delivers the same events, and it returns
the same result. -/
theorem session_recognizesAnew (limited : libc.Refuses (2 ^ 63)) (conforms : Conforms libc.qsort)
    (blind : SortsBlindly libc.qsort) {option : Option MarpaWrapperOption}
    {calls history : List (ApiCall V)} {answers answers' : List ApiAnswer} {initial : World V}
    {given : Option (MarpaWrapperRecognizerOption V)}
    (reached : session libc fuel build marpa option calls initial =
      .ok (some (answers, wrapper)) world)
    (undefining : ∀ call ∈ history, call.defines = false)
    (past : runCalls (ApiCall.run libc fuel build marpa) history wrapper world =
      .ok (answers', wrapper') world')
    (created : SameAnswers marpa.recognizerNew world.events world'.events)
    (granted : Anew libc.AnswersAfresh world.events world'.events)
    (afresh : Anew marpa.AnswersAfresh world.events world'.events)
    (answered : ∀ callbacks ∈ given.bind (·.callbacks build.tracing),
      Anew callbacks.AnswersAfresh world.events world'.events) :
    OutcomesAlike (ShownAlike world world') (fun result result' => result.1 = result'.1)
      (marpaWrapperRRecognizeb libc fuel build marpa wrapper given world)
      (marpaWrapperRRecognizeb libc fuel build marpa wrapper' given world') := by
  obtain ⟨restartable, releasable⟩ := session_restarts limited conforms reached
  have restartable' : Restartable wrapper' world' :=
    runCalls_keeps Restartable (fun _ _ _ _ _ _ before run => restartable_kept.call before run)
      restartable past
  have releasable' : wrapper'.ReportReleasable :=
    runCalls_keeps (fun wrapper _ => wrapper.ReportReleasable) (fun _ _ _ _ _ _ before run =>
      (reportReleasable_kept limited conforms).call before run) releasable past
  have begun : Descends wrapper world wrapper world :=
    ⟨restartable.sizable, Nat.le_refl _, Nat.le_refl _, fun _ => .refl wrapper⟩
  have descends : Descends wrapper world wrapper' world' :=
    runCalls_keeps (Descends wrapper world) (fun _ _ _ _ _ _ before run =>
      descends_kept.call before run) begun past
  have same := runCalls_sameSize undefining past
  exact marpaWrapperRRecognizeb_repeats limited conforms blind created granted afresh answered
    (descends.peers same) same.symbols restartable restartable' releasable releasable'

end Histories

/-! ### An instance -/

/-- The calls of the reader since the last recognizer. -/
def afterRead (reads : Nat) : Event V → Nat
  | .recognizerNew _ => 0
  | .reader _ _ => reads + 1
  | _ => reads

theorem foldl_afterRead_ownView (exchanges : List (Event V)) (reads : Nat) :
    (ownView exchanges).foldl afterRead reads = exchanges.foldl afterRead reads := by
  induction exchanges generalizing reads with
  | nil => rfl
  | cons event rest inductionHypothesis =>
    cases event <;> exact inductionHypothesis _

/-- An input of one token, for each recognition anew. -/
def tokenAnew : MarpaWrapperRecognizerOption Nat where
  readerCallbackp := some fun events => (events.foldl afterRead 0 == 0, true)
  isLexemebCallbackp := some fun _ _ => some 1
  lexemeValuebCallbackp := some fun _ _ => some (1, 1)

theorem tokenAnew_afresh (before before' : List (Event Nat)) (callbacks : RecognizerCallbacks Nat)
    (given : callbacks ∈ (some tokenAnew).bind (·.callbacks false)) :
    Anew callbacks.AnswersAfresh before before' := by
  cases given
  intro exchanges exchanges' handle handle' _ _
  refine ⟨fun more more' shown => ?_, fun _ _ _ _ => rfl, fun _ _ _ _ => rfl⟩
  have counted (record : List (Event Nat)) (handle : Nat) (more : List (Event Nat)) :
      (record ++ [Event.recognizerNew (some handle)] ++ more).foldl afterRead 0 =
        (ownView more).foldl afterRead 0 := by
    rw [List.foldl_append, List.foldl_append, foldl_afterRead_ownView]
    rfl
  show (_, true) = (_, true)
  rw [counted, counted, shown]

/-- The same input is read twice, with a progress report between. -/
def tokenHistory : List (ApiCall Nat) := [.recognizeb (some tokenAnew), .progressb 0 0]

/-- Whether the session and the history return. -/
def tokenHistoryReturns : Bool :=
  match session (Libc.limited (2 ^ 63)) (2 ^ 32) {} (onePosition []) none oneTokenCalls {} with
  | .ok (some (_, wrapper)) world =>
    match runCalls (ApiCall.run (Libc.limited (2 ^ 63)) (2 ^ 32) {} (onePosition []))
        tokenHistory wrapper world with
    | .ok (answers, _) _ => decide (answers = [.bool true, .count (some 0)])
    | _ => false
  | _ => false

theorem session_recognizesAnew_token : ∃ answers answers' wrapper wrapper' world world',
    session (Libc.limited (2 ^ 63)) (2 ^ 32) {} (onePosition []) none oneTokenCalls {} =
      .ok (some (answers, wrapper)) world ∧
    runCalls (ApiCall.run (Libc.limited (2 ^ 63)) (2 ^ 32) {} (onePosition [])) tokenHistory
      wrapper world = .ok (answers', wrapper') world' ∧
    OutcomesAlike (ShownAlike world world') (fun result result' => result.1 = result'.1)
      (marpaWrapperRRecognizeb (Libc.limited (2 ^ 63)) (2 ^ 32) {} (onePosition []) wrapper
        (some tokenAnew) world)
      (marpaWrapperRRecognizeb (Libc.limited (2 ^ 63)) (2 ^ 32) {} (onePosition []) wrapper'
        (some tokenAnew) world') := by
  have observed : tokenHistoryReturns = true := by decide +kernel
  unfold tokenHistoryReturns at observed
  cases reached : session (Libc.limited (2 ^ 63)) (2 ^ 32) {} (onePosition []) none
      oneTokenCalls {} with
  | error fault world => rw [reached] at observed; cases observed
  | ok created world =>
    rw [reached] at observed
    cases created with
    | none => cases observed
    | some created =>
      obtain ⟨answers, wrapper⟩ := created
      simp only at observed
      cases past : runCalls (ApiCall.run (Libc.limited (2 ^ 63)) (2 ^ 32) {} (onePosition []))
          tokenHistory wrapper world with
      | error fault world' => rw [past] at observed; cases observed
      | ok returned world' =>
        obtain ⟨answers', wrapper'⟩ := returned
        refine ⟨answers, answers', wrapper, wrapper', world, world', rfl, past, ?_⟩
        exact session_recognizesAnew (Libc.limited_refuses _) inserting_conforms
          inserting_sortsBlindly reached (by decide) past (fun _ _ _ => rfl)
          (fun _ _ _ _ _ _ => ⟨fun _ _ _ _ => rfl, fun _ _ _ => rfl⟩)
          (fun _ _ _ _ _ _ => ⟨fun _ _ _ => rfl, fun _ _ _ => rfl, fun _ _ _ _ => rfl,
            fun _ _ _ => rfl, fun _ _ _ _ _ _ => rfl, fun _ _ _ => rfl, fun _ _ _ => rfl,
            fun _ _ _ => rfl, fun _ _ _ _ => rfl, fun _ _ _ _ => rfl, fun _ _ _ => rfl,
            fun _ _ _ => rfl⟩) (tokenAnew_afresh _ _)

end MarpaWrapper
