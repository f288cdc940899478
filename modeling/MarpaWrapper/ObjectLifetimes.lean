/-
This file follows libmarpa's objects through the whole life of a wrapper, from
`marpaWrapper_newp` over any sequence of calls to `marpaWrapper_destroyv`. The recognizer stands
on the grammar, and the four objects of a value phase stand on the recognizer: what
`marpaWrapper_vb` does with its own objects it does two levels higher. Whatever fails, and
wherever a run stops, no call names an object that is not there.
-/

import MarpaWrapper.ExpectedArrays
import MarpaWrapper.ValuationProtocol
import MarpaWrapper.Verdicts

namespace MarpaWrapper

open Effects Nesting

variable {V α : Type}

/-! ### The calls as acts -/

/-- The act of an exchange outside the value phase: the levels are the grammar and the
recognizer. -/
def Event.groundAct : Event V → Option (Act Nat)
  | .grammarNew (some handle) => some (.create 0 handle)
  | .grammar _ _ | .precompute _ | .highestSymbolId _ => some (.use 0)
  | .eventCount _ | .event _ _ _ => some (.use 0)
  | .recognizerNew (some handle) => some (.create 1 handle)
  | .recognizerNew none => some (.use 0)
  | .startInput _ | .alternative _ _ _ _ | .earlemeComplete _ => some (.use 1)
  | .terminalsExpected _ | .terminalIsExpected _ _ | .symbolActivate _ _ _ _ => some (.use 1)
  | .latestEarleySet _ | .earleme _ _ | .progressReportStart _ _ => some (.use 1)
  | .progressItem _ _ _ | .progressReportFinish _ | .bocageNew none => some (.use 1)
  | .recognizerUnref handle => some (.release 1 handle)
  | .grammarUnref handle => some (.release 0 handle)
  | _ => none

/-- The act of an exchange: the objects of a value phase stand on the recognizer. -/
def Event.lifeAct (event : Event V) : Option (Act Nat) :=
  match event.act with
  | some act => some (act.raise 2)
  | none => event.groundAct

/-- The acts of a record, in order. -/
def lifeActsIn (events : List (Event V)) : List (Act Nat) := events.filterMap Event.lifeAct

theorem lifeActsIn_append (first second : List (Event V)) :
    lifeActsIn (first ++ second) = lifeActsIn first ++ lifeActsIn second :=
  List.filterMap_append

/-- The objects that a wrapper refers to, the innermost first. -/
def Wrapper.objects (wrapper : Wrapper) : List Nat :=
  wrapper.marpaRecognizerp.toList ++ wrapper.marpaGrammarp.toList

/-- An exchange that uses at most the objects of the first levels. -/
def Event.Uses (levels : Nat) (event : Event V) : Prop :=
  ∀ act, event.lifeAct = some act → ∃ level < levels, act = .use level

section Kinds

variable {event : Event V} {levels : Nat}

theorem Event.uses_of_none (noAct : event.lifeAct = none) : event.Uses levels := by
  intro act acts
  rw [noAct] at acts
  cases acts

theorem Event.uses_of_use {level : Nat} (acts : event.lifeAct = some (.use level))
    (below : level < levels) : event.Uses levels := by
  intro act acts'
  rw [acts] at acts'
  cases acts'
  exact ⟨level, below, rfl⟩

theorem Event.uses_of_report (ofReport : event.ofReport = true) : event.Uses 1 := by
  cases event <;>
    first
    | exact uses_of_none rfl
    | exact uses_of_use rfl (by decide)
    | exact absurd ofReport Bool.false_ne_true

/-- The exchanges of the functions that use a recognizer. -/
theorem Event.uses_of_recognizer (ofRecognizer : event.ofComplete = true ∨
    event.ofExpected = true ∨ event.ofProgress = true ∨ event.ofLexemes = true) :
    event.Uses 2 := by
  cases event <;>
    first
    | exact uses_of_none rfl
    | exact uses_of_use rfl (by decide)
    | exact absurd ofRecognizer (by decide)
    | simp [ofComplete, ofReport, ofExpected, ofProgress, ofLexemes] at ofRecognizer

theorem Event.uses_of_memory (ofMemory : event.ofMemory = true) : event.Uses levels := by
  cases event <;>
    first
    | exact uses_of_none rfl
    | exact absurd ofMemory Bool.false_ne_true

/-- What `marpaWrapper_vb` exchanges beside its own objects. -/
theorem Event.uses_of_plain (plain : LeavesMarpa event) (noAct : event.act = none) :
    event.Uses 2 := by
  intro act acts
  rw [lifeAct, noAct] at acts
  cases event <;>
    first
    | exact absurd plain Bool.false_ne_true
    | cases acts <;> first | exact ⟨0, by decide, rfl⟩ | exact ⟨1, by decide, rfl⟩
    | next handle =>
      cases handle with
      | none => cases acts; exact ⟨1, by decide, rfl⟩
      | some handle => cases noAct

end Kinds

/-! ### What is alive -/

/-- The acts since `start` are allowed and leave `alive`. -/
def Living (start : World V) (alive : List Nat) (world : World V) : Prop :=
  ∃ exchanges, world.events = start.events ++ exchanges ∧
    follow (lifeActsIn exchanges) [] = some alive

section Living

variable {start world world' : World V} {alive alive' : List Nat} {event : Event V} {levels : Nat}

theorem Living.refl (start : World V) : Living start [] start :=
  ⟨[], (List.append_nil _).symm, rfl⟩

/-- More exchanges, whose acts are allowed. -/
theorem Living.extend (living : Living start alive world) {exchanges : List (Event V)}
    (added : world'.events = world.events ++ exchanges)
    (followed : follow (lifeActsIn exchanges) alive = some alive') :
    Living start alive' world' := by
  obtain ⟨before, record, allowed⟩ := living
  refine ⟨before ++ exchanges, by rw [added, record, List.append_assoc], ?_⟩
  rw [lifeActsIn_append, follow_append, allowed, Option.bind_some, followed]

/-- One exchange, which is an act. -/
theorem Living.act (living : Living start alive world)
    (added : world'.events = world.events ++ [event]) {act : Act Nat}
    (acts : event.lifeAct = some act) (allowed : step alive act = some alive') :
    Living start alive' world' := by
  refine living.extend added ?_
  rw [lifeActsIn, List.filterMap_cons_some acts, List.filterMap_nil, follow, allowed,
    Option.bind_some, follow]

/-- Exchanges that use what is alive. -/
theorem Living.using (living : Living start alive world) {exchanges : List (Event V)}
    (added : world'.events = world.events ++ exchanges)
    (uses : ∀ event ∈ exchanges, event.Uses levels) (deep : levels ≤ alive.length) :
    Living start alive world' := by
  refine living.extend added (follow_uses fun act member => ?_)
  obtain ⟨event, recorded, acts⟩ := List.mem_filterMap.mp member
  obtain ⟨level, below, rfl⟩ := uses event recorded act acts
  exact ⟨level, Nat.lt_of_lt_of_le below deep, rfl⟩

/-- A computation that uses what is alive. -/
theorem Living.of_continued {program : Exec V α}
    (keeps : ∀ start, Keeps (Continued (Event.Uses levels) start) program)
    (deep : levels ≤ alive.length) : Keeps (Living start alive) program := by
  refine .of_finalState fun world living => ?_
  obtain ⟨exchanges, added, uses⟩ := ((keeps world).finalState (.refl _ world)).record
  exact living.using added uses deep

theorem Living.of_memory {program : Exec V α}
    (keeps : ∀ start, Keeps (Continued (·.ofMemory = true) start) program) :
    Keeps (Living start alive) program :=
  Living.of_continued (fun _ => Continued.widen keeps fun _ => Event.uses_of_memory)
    (Nat.zero_le _)

theorem Living.of_silent {program : Exec V α}
    (keeps : ∀ kind : Event V → Prop, ∀ start, Keeps (Continued kind start) program) :
    Keeps (Living start alive) program :=
  Living.of_memory (keeps _)

end Living

/-! ### The functions -/

section Functions

variable {libc : Libc V} {fuel : Nat} {build : Build} {marpa : Libmarpa V} {wrapper : Wrapper}
  {start : World V} {alive : List Nat}

theorem grammarCall_living (grammar : 1 ≤ alive.length) (call : GrammarCall) :
    Keeps (Living start alive) (grammarCall marpa call) :=
  fun _ living => living.act rfl rfl (if_pos grammar)

theorem applyOptions_living (grammar : 1 ≤ alive.length) (options : List OptionCall) :
    Keeps (Living start alive) (applyOptions marpa options) := by
  induction options with
  | nil => exact .pure _
  | cons option rest inductionHypothesis =>
    exact .bind (.ite (.bind (grammarCall_living grammar _) fun _ => .bind (fun _ living => living)
      fun _ => .pure _) (.pure _)) fun _ => .ite inductionHypothesis (.pure _)

theorem malloc_living (size : Nat) : Keeps (Living start alive) (malloc libc size) :=
  Living.of_memory fun _ => acquire_continued fun _ => rfl

theorem manageBufCreatep_living {β : Type} (ppp : Option (Block β))
    (sizeip wantedNumberi elementSizei : Nat) : Keeps (Living start alive)
      (manageBufCreatep libc fuel build sizeModulus ppp sizeip wantedNumberi elementSizei) :=
  Living.of_memory fun _ => manageBufCreatep_continued ppp sizeip wantedNumberi elementSizei

theorem writeArray_living {β : Type} (block : Block β) (index : Int) (content : Slot β) :
    Keeps (Living start alive) (writeArray (V := V) block index content) :=
  Living.of_silent fun _ _ => writeArray_continued block index content

theorem readSymbol_living (pointer : Nat) :
    Keeps (Living start alive) (readSymbol (V := V) wrapper pointer) :=
  Living.of_silent fun _ _ => readSymbol_continued pointer

theorem marpaWrapperGAddSymbolp_living (grammar : 1 ≤ alive.length)
    (option : Option MarpaWrapperSymbolOption) :
    Keeps (Living start alive) (marpaWrapperGAddSymbolp libc fuel build marpa wrapper option) := by
  refine .bind (grammarCall_living grammar _) fun id => .ite (.pure _)
    (.bind (manageBufCreatep_living _ _ _ _) fun room => ?_)
  cases room with
  | error table => exact .pure _
  | ok room =>
    refine .bind (malloc_living _) fun address => ?_
    cases address with
    | none => exact .pure _
    | some address =>
      exact .bind (fun _ living => living) fun _ => .bind (writeArray_living _ _ _) fun _ =>
        .bind (applyOptions_living grammar _) fun _ => .pure _

theorem createRule_living (grammar : 1 ≤ alive.length) (option : MarpaWrapperRuleOption)
    (lhsSymbolp : Nat) (rhsIdp : List Int) :
    Keeps (Living start alive) (createRule marpa wrapper option lhsSymbolp rhsIdp) := by
  have separated : Keeps (Living start alive)
      (separatorId (V := V) wrapper option.separatorSymbolp) := by
    unfold separatorId
    cases option.separatorSymbolp with
    | none => exact .pure _
    | some pointer => exact .bind (readSymbol_living pointer) fun _ => .pure _
  exact .ite (.bind separated fun _ => .bind (readSymbol_living _) fun _ =>
    grammarCall_living grammar _)
    (.bind (readSymbol_living _) fun _ => grammarCall_living grammar _)

theorem collectRhs_living (option : MarpaWrapperRuleOption) :
    Keeps (Living start alive) (collectRhs libc wrapper option) := by
  refine .ite (.bind (malloc_living _) fun address => ?_) (.pure _)
  cases address with
  | none => exact .pure _
  | some address =>
    refine .bind (.forEach (fun index ids => ?_) _ _) fun turn => ?_
    · unfold rhsTurn
      cases option.rhsSymbolpp[index]? with
      | none => exact .throw _
      | some pointer =>
        cases pointer with
        | none => exact .throw _
        | some pointer =>
          exact .bind (readSymbol_living pointer) fun _ => .ite (.pure _) (.throw _)
    · cases turn with
      | next ids => exact .pure _
      | done result => exact result.elim

theorem marpaWrapperGAddRulep_living (grammar : 1 ≤ alive.length)
    (option : Option MarpaWrapperRuleOption) :
    Keeps (Living start alive) (marpaWrapperGAddRulep libc fuel build marpa wrapper option) := by
  unfold marpaWrapperGAddRulep
  cases option with
  | none => exact .pure _
  | some option =>
    simp only
    cases option.lhsSymbolp with
    | none => exact .pure _
    | some lhsSymbolp =>
      refine .ite (.bind (collectRhs_living option) fun rhs => ?_) (.pure _)
      cases rhs with
      | none => exact .pure _
      | some rhs =>
        refine .bind (createRule_living grammar _ _ _) fun id => .bind (Living.of_memory fun _ =>
          freeIfNotNull_continued (fun _ => rfl) _) fun _ => .ite (.pure _)
            (.bind (manageBufCreatep_living _ _ _ _) fun room => ?_)
        cases room with
        | error table => exact .pure _
        | ok room =>
          refine .bind (malloc_living _) fun address => ?_
          cases address with
          | none => exact .pure _
          | some address =>
            exact .bind (writeArray_living _ _ _) fun _ =>
              .bind (applyOptions_living grammar _) fun _ => .pure _

theorem marpaWrapperEvent_living (grammar : 1 ≤ alive.length) :
    Keeps (Living start alive) (marpaWrapperEvent libc marpa wrapper) :=
  Living.of_continued (fun _ => Continued.widen (fun _ => marpaWrapperEvent_continued) fun _ =>
    Event.uses_of_report) grammar

theorem marpaWrapperGPrecomputeb_living (grammar : 1 ≤ alive.length) :
    Keeps (Living start alive) (marpaWrapperGPrecomputeb libc marpa wrapper) := by
  have precomputed : Keeps (Living start alive) (marpaGPrecompute marpa) :=
    fun _ living => living.act rfl rfl (if_pos grammar)
  exact .bind (.bind precomputed fun _ => .pure _) fun _ =>
    .ite (marpaWrapperEvent_living grammar) (.pure _)

/-- A function that leaves when there is no recognizer, and uses what is alive when there is. -/
theorem Living.guarded {program : Exec V α} (grammar : wrapper.marpaGrammarp.isSome)
    (silent : wrapper.marpaRecognizerp.isNone → ∀ world, finalState (program world) = world)
    (keeps : ∀ start, Keeps (Continued (Event.Uses 2) start) program) :
    Keeps (Living start wrapper.objects) program := by
  cases recognizer : wrapper.marpaRecognizerp with
  | none =>
    refine .of_finalState fun world living => ?_
    rw [silent (by rw [recognizer]; rfl) world]
    exact living
  | some handle =>
    obtain ⟨grammarHandle, there⟩ := Option.isSome_iff_exists.mp grammar
    refine Living.of_continued keeps ?_
    rw [Wrapper.objects, recognizer, there]
    exact Nat.le_refl _

theorem marpaWrapperRAlternativeb_living (grammar : wrapper.marpaGrammarp.isSome)
    (pointer : Option Nat) (value length : Int) : Keeps (Living start wrapper.objects)
      (marpaWrapperRAlternativeb marpa wrapper pointer value length) := by
  cases pointer with
  | none => exact .pure _
  | some pointer =>
    refine Living.guarded grammar (fun missing world => ?_) fun start => Continued.widen
      (fun _ => marpaWrapperRAlternativeb_continued pointer value length) fun _ ofLexemes =>
        Event.uses_of_recognizer (.inr (.inr (.inr ofLexemes)))
    simp only [marpaWrapperRAlternativeb, if_pos missing]
    rfl

theorem marpaWrapperRCompleteb_living (grammar : wrapper.marpaGrammarp.isSome) :
    Keeps (Living start wrapper.objects) (marpaWrapperRCompleteb libc marpa wrapper) := by
  refine Living.guarded grammar (fun missing world => ?_) fun start => Continued.widen
    (fun _ => marpaWrapperRCompleteb_continued) fun _ ofComplete =>
      Event.uses_of_recognizer (.inl ofComplete)
  rw [marpaWrapperRCompleteb, completeEarleme, if_pos missing]
  rfl

theorem marpaWrapperREventActivateb_living (grammar : wrapper.marpaGrammarp.isSome)
    (pointer : Option Nat) (eventSeti : Int) (onb : Bool) : Keeps (Living start wrapper.objects)
      (marpaWrapperREventActivateb marpa wrapper pointer eventSeti onb) := by
  cases pointer with
  | none => exact .pure _
  | some pointer =>
    refine Living.guarded grammar (fun missing world => ?_) fun start => .ite (.pure _)
      (.bind (readSymbol_continued _) fun _ => .bind (.forEach (fun eventType _ => .bind
        (.ite (.bind (ask_continued fun _ => Event.uses_of_use rfl (by decide)) fun _ => .pure _)
          (.pure _)) fun _ => .pure _) _ _) fun turn => ?_)
    · simp only [marpaWrapperREventActivateb, if_pos missing]
      rfl
    · cases turn <;> exact .pure _

theorem marpaWrapperRTerminalIsExpectedb_living (grammar : wrapper.marpaGrammarp.isSome)
    (pointer : Option Nat) : Keeps (Living start wrapper.objects)
      (marpaWrapperRTerminalIsExpectedb marpa wrapper pointer) := by
  cases pointer with
  | none => exact .pure _
  | some pointer =>
    refine Living.guarded grammar (fun missing world => ?_) fun start => .ite (.pure _)
      (.bind (readSymbol_continued _) fun _ =>
        .bind (ask_continued fun _ => Event.uses_of_use rfl (by decide)) fun _ => .pure _)
    simp only [marpaWrapperRTerminalIsExpectedb, if_pos missing]
    rfl

theorem marpaWrapperRTerminalsExpectedb_living (grammar : wrapper.marpaGrammarp.isSome) :
    Keeps (Living start wrapper.objects) (marpaWrapperRTerminalsExpectedb libc marpa wrapper) := by
  refine Living.guarded grammar (fun missing world => ?_) fun start => Continued.widen
    (fun _ => marpaWrapperRTerminalsExpectedb_continued) fun _ ofExpected =>
      Event.uses_of_recognizer (.inr (.inl ofExpected))
  rw [marpaWrapperRTerminalsExpectedb, if_pos missing]
  rfl

theorem marpaWrapperRProgressb_living (grammar : wrapper.marpaGrammarp.isSome) (starti endi : Int) :
    Keeps (Living start wrapper.objects)
      (marpaWrapperRProgressb libc fuel build marpa wrapper starti endi) := by
  refine Living.guarded grammar (fun missing world => ?_) fun start => Continued.widen
    (fun _ => marpaWrapperRProgressb_continued starti endi) fun _ ofProgress =>
      Event.uses_of_recognizer (.inr (.inr (.inl ofProgress)))
  rw [marpaWrapperRProgressb, if_pos missing]
  rfl

/-- Without a recognizer no object of a value phase is created. -/
theorem marpaWrapperVb_refuses {phase : ValuePhase V}
    (missing : wrapper.marpaRecognizerp.isNone) (valueOption : Option (MarpaWrapperValueOption V))
    (stackOption : Option (MarpaWrapperStackOption V)) (world : World V) :
    marpaWrapperVb libc fuel phase (some wrapper) valueOption stackOption world =
      .ok false { world with events := world.events ++ [.indeterminateRead] } := by
  cases stackOption with
  | none => rfl
  | some stackOption =>
    simp only [marpaWrapperVb, vbBody, missing]
    rfl

theorem marpaWrapperVb_living {phase : ValuePhase V} (grammar : wrapper.marpaGrammarp.isSome)
    (valueOption : Option (MarpaWrapperValueOption V))
    (stackOption : Option (MarpaWrapperStackOption V)) :
    Triple (Living start wrapper.objects)
      (marpaWrapperVb libc fuel phase (some wrapper) valueOption stackOption)
      (fun _ => Living start wrapper.objects) fun _ world => ∃ alive, Living start alive world := by
  intro world living
  cases recognizer : wrapper.marpaRecognizerp with
  | none =>
    rw [marpaWrapperVb_refuses (by rw [recognizer]; rfl)]
    exact living.using rfl (List.forall_mem_singleton.mpr (Event.uses_of_none rfl)) (Nat.zero_le _)
  | some handle =>
    obtain ⟨grammarHandle, there⟩ := Option.isSome_iff_exists.mp grammar
    have objects : wrapper.objects = [handle, grammarHandle] := by
      rw [Wrapper.objects, recognizer, there]
      rfl
    rw [objects] at living ⊢
    -- the acts on the objects of the value phase are known, and so is what the others can be
    have above {alive : List Nat} {world' : World V} (lawful : Lawful world alive world')
        (grown : Grown LeavesMarpa world world') :
        Living start (alive ++ [handle, grammarHandle]) world' := by
      obtain ⟨exchanges, added, followed, -, -⟩ := lawful.record
      obtain ⟨exchanges', added', plain⟩ := grown.record
      obtain rfl := List.append_cancel_left (added.symm.trans added')
      have inner : follow (exchanges.filterMap Event.act) [] = some alive := followed
      have nested : follow (lifeActsIn exchanges) ([] ++ [handle, grammarHandle]) =
          some (alive ++ [handle, grammarHandle]) := by
        refine follow_above (fun event _ act acts => ?_) (fun event member noAct =>
          Event.uses_of_plain (plain event member) noAct) inner
        rw [Event.lifeAct, acts]
        rfl
      exact living.extend added nested
    have lawful : Triple (fun other => other = world)
        (marpaWrapperVb libc fuel phase (some wrapper) valueOption stackOption)
        (fun _ => Lawful world []) fun _ world' => ∃ alive, Lawful world alive world' :=
      marpaWrapperVb_lawful world
    have outcome := lawful world rfl
    have plain : Keeps (Grown LeavesMarpa world)
        (marpaWrapperVb libc fuel phase (some wrapper) valueOption stackOption) :=
      marpaWrapperVb_plain _ _ _
    have grown := plain.finalState (.refl LeavesMarpa world)
    cases run : marpaWrapperVb libc fuel phase (some wrapper) valueOption stackOption world with
    | ok result world' =>
      rw [run] at outcome grown
      exact above outcome grown
    | error fault world' =>
      rw [run] at outcome grown
      obtain ⟨alive, lawful⟩ := outcome
      exact ⟨_, above lawful grown⟩

end Functions

/-! ### The calls -/

/-- What is alive are the objects that the wrapper refers to, a grammar among them. -/
structure Attends (start : World V) (wrapper : Wrapper) (world : World V) : Prop where
  grammar : wrapper.marpaGrammarp.isSome
  living : Living start wrapper.objects world

/-- What holds when a run stops. -/
abbrev StopsLiving (start : World V) (_ : Fault) (world : World V) : Prop :=
  ∃ alive, Living start alive world

/-- The same grammar and the same recognizer. -/
def SameHandles (wrapper wrapper' : Wrapper) : Prop :=
  wrapper'.marpaGrammarp = wrapper.marpaGrammarp ∧
    wrapper'.marpaRecognizerp = wrapper.marpaRecognizerp

section Calls

variable {libc : Libc V} {fuel : Nat} {build : Build} {marpa : Libmarpa V}
  {wrapper wrapper' wrapper'' : Wrapper} {start world world' : World V}

theorem SameHandles.refl (wrapper : Wrapper) : SameHandles wrapper wrapper := ⟨rfl, rfl⟩

theorem SameHandles.trans (first : SameHandles wrapper wrapper')
    (second : SameHandles wrapper' wrapper'') : SameHandles wrapper wrapper'' :=
  ⟨second.1.trans first.1, second.2.trans first.2⟩

theorem SameHandles.objects (same : SameHandles wrapper wrapper') :
    wrapper'.objects = wrapper.objects := by
  rw [Wrapper.objects, same.1, same.2, Wrapper.objects]

theorem OnlyProgress.handles (only : OnlyProgress wrapper wrapper') :
    SameHandles wrapper wrapper' := by
  obtain ⟨_, _, _, rfl⟩ := only
  exact ⟨rfl, rfl⟩

theorem OnlyExpected.handles (only : OnlyExpected wrapper wrapper') :
    SameHandles wrapper wrapper' := by
  obtain ⟨_, _, rfl⟩ := only
  exact ⟨rfl, rfl⟩

theorem Attends.same (attends : Attends start wrapper world) (same : SameHandles wrapper wrapper') :
    Attends start wrapper' world :=
  ⟨by rw [same.1]; exact attends.grammar, by rw [same.objects]; exact attends.living⟩

/-- A function that does not write to the wrapper. -/
theorem Attends.beside {program : Exec V α}
    (keeps : wrapper.marpaGrammarp.isSome → Keeps (Living start wrapper.objects) program) :
    Triple (Attends start wrapper) program (fun _ => Attends start wrapper)
      (StopsLiving start) := by
  intro world attends
  have outcome := keeps attends.grammar world attends.living
  cases run : program world with
  | ok value world' =>
    rw [run] at outcome
    exact ⟨attends.grammar, outcome⟩
  | error fault world' =>
    rw [run] at outcome
    exact ⟨_, outcome⟩

/-- A function that writes to the wrapper, but for its handles. -/
theorem Attends.rewriting {program : Exec V α} (wrapperOf : α → Wrapper)
    (keeps : wrapper.marpaGrammarp.isSome → Keeps (Living start wrapper.objects) program)
    (frame : ∀ world result world', program world = .ok result world' →
      SameHandles wrapper (wrapperOf result)) :
    Triple (Attends start wrapper) program (fun result => Attends start (wrapperOf result))
      (StopsLiving start) :=
  ((Attends.beside keeps).returning fun world result world' _ run =>
    frame world result world' run).consequence (fun _ attends => attends)
      (fun _ _ holds => holds.2.same holds.1) fun _ _ stops => stops

theorem length_objects (grammar : wrapper.marpaGrammarp.isSome) : 1 ≤ wrapper.objects.length := by
  obtain ⟨handle, there⟩ := Option.isSome_iff_exists.mp grammar
  rw [Wrapper.objects, there, List.length_append]
  exact Nat.le_add_left _ _

/-- An earlier recognizer is released, then the arrays. -/
theorem releaseRecognizer_run (wrapper : Wrapper) (world : World V) : ∃ released freed,
    releaseRecognizer wrapper world = .ok released { world with events := world.events ++
      (wrapper.marpaRecognizerp.map .recognizerUnref).toList ++ freed } ∧
    (∀ event ∈ freed, event.ofMemory = true) ∧
    released.marpaGrammarp = wrapper.marpaGrammarp := by
  unfold releaseRecognizer
  cases wrapper.marpaRecognizerp with
  | none =>
    exact ⟨wrapper, [], by simp [run_pure], (fun _ member => nomatch member), rfl⟩
  | some handle =>
    refine ⟨{ wrapper with
        marpaRecognizerp := some handle
        expectedMarpaSymbolIdArrayp := none
        expectedMarpaWrapperSymbolArraypp := none },
      ((wrapper.expectedMarpaSymbolIdArrayp.map (·.address)).map Event.free).toList ++
      ((wrapper.expectedMarpaWrapperSymbolArraypp.map (·.address)).map Event.free).toList, ?_,
      fun event member => ?_, rfl⟩
    · simp only
      rw [run_bind_ok (run_emit _ _), run_bind_ok (freeIfNotNull_run _ _),
        run_bind_ok (freeIfNotNull_run _ _), run_pure]
      simp only [Option.map_some, Option.toList_some, List.append_assoc]
    · rcases List.mem_append.mp member with freed | freed
      all_goals
        obtain ⟨address, -, rfl⟩ := Option.map_eq_some_iff.mp (Option.mem_toList.mp freed)
        rfl

/-- A recognizer takes the place of the one before it. -/
theorem startRecognizer_attends : Triple (Attends start wrapper) (startRecognizer marpa wrapper)
    (fun result => Attends start result.2) (StopsLiving start) := by
  intro world attends
  obtain ⟨grammarHandle, there⟩ := Option.isSome_iff_exists.mp attends.grammar
  obtain ⟨released, freed, run, memory, sameGrammar⟩ := releaseRecognizer_run wrapper world
  have grammarAlone : Living start [grammarHandle] { world with events := world.events ++
      (wrapper.marpaRecognizerp.map .recognizerUnref).toList ++ freed } := by
    have living := attends.living
    rw [Wrapper.objects, there] at living
    have unreferenced : Living start [grammarHandle] { world with events := world.events ++
        (wrapper.marpaRecognizerp.map .recognizerUnref).toList } := by
      cases recognizer : wrapper.marpaRecognizerp with
      | none =>
        rw [recognizer] at living
        exact living.extend rfl rfl
      | some handle =>
        rw [recognizer] at living
        exact living.act rfl rfl (if_pos ⟨rfl, rfl⟩)
    exact unreferenced.using rfl (fun event member => Event.uses_of_memory (memory event member))
      (Nat.zero_le _)
  have attended {handle : Option Nat} {world : World V}
      (living : Living start (handle.toList ++ [grammarHandle]) world) :
      Attends start { released with marpaRecognizerp := handle } world := by
    have same : released.marpaGrammarp = some grammarHandle := sameGrammar.trans there
    refine ⟨Option.isSome_iff_exists.mpr ⟨_, same⟩, ?_⟩
    rw [Wrapper.objects, show ({ released with marpaRecognizerp := handle } :
      Wrapper).marpaGrammarp = some grammarHandle from same]
    exact living
  have created : Triple (Living start [grammarHandle])
      (acquire marpa.recognizerNew .recognizerNew)
      (fun handle => Living start (handle.toList ++ [grammarHandle])) (StopsLiving start) := by
    intro world living
    cases grant : marpa.recognizerNew world.events with
    | false =>
      rw [run_acquire_refused grant]
      exact living.act rfl rfl rfl
    | true =>
      rw [run_acquire_granted grant]
      exact living.act rfl rfl rfl
  rw [startRecognizer, run_bind_ok run]
  refine created.bind (fun handle => ?_) _ grammarAlone
  cases handle with
  | none => exact .pure fun _ living => attended living
  | some handle =>
    refine .through (fun _ => Living start [handle, grammarHandle]) ?_ fun _ =>
      .pure fun _ living => attended living
    exact fun _ living => living.act rfl rfl rfl

theorem marpaWrapperRStartb_attends : Triple (Attends start wrapper)
    (marpaWrapperRStartb libc marpa wrapper) (fun result => Attends start result.2)
    (StopsLiving start) :=
  startRecognizer_attends.bind fun _ => .ite
    (fun _ => (Attends.beside fun grammar => marpaWrapperEvent_living (length_objects grammar)).bind
      fun _ => .pure fun _ attends => attends)
    fun _ => .pure fun _ attends => attends

/-- A start that succeeds leaves a recognizer. -/
theorem marpaWrapperRStartb_recognizer
    (run : marpaWrapperRStartb libc marpa wrapper world = .ok (true, wrapper') world') :
    wrapper'.marpaRecognizerp.isSome := by
  obtain ⟨⟨begun, between⟩, state, prepared, rest⟩ := run_bind_eq_ok run
  cases begun with
  | false => cases rest
  | true =>
    obtain ⟨reported, final, ran, rest⟩ := run_bind_eq_ok rest
    cases rest
    exact startRecognizer_recognizer prepared

/-- The checks write to work fields of the symbols. -/
theorem readLexemes_handles {callbacks : RecognizerCallbacks V} {count : Nat} {pushed : Bool}
    (run : readLexemes libc marpa callbacks wrapper count world = .ok (pushed, wrapper') world') :
    SameHandles wrapper wrapper' := by
  obtain ⟨ordered, state, sorted, rest⟩ := run_bind_eq_ok run
  obtain ⟨outcome, after, checked, rest⟩ := run_bind_eq_ok rest
  have turns : AfterTurn (fun frame _ => SameHandles wrapper frame.1) (fun _ _ => False) outcome
      after := by
    refine forEach_range_return (fun _ frame _ => SameHandles wrapper frame.1)
      (fun index frame state outcome next _ same turn => ?_) (orderTerminals_frame sorted).handles
        checked
    obtain ⟨check, -, -, -, rfl, rfl⟩ := checkTurn_return turn
    exact same.trans ⟨rfl, rfl⟩
  cases outcome with
  | done result => exact result.elim
  | next frame =>
    obtain ⟨through, final, -, rest⟩ := run_bind_eq_ok rest
    cases rest
    exact turns

theorem recognizeIteration_handles {callbacks : RecognizerCallbacks V} {goesOn : Bool}
    (run : recognizeIteration libc fuel build marpa callbacks wrapper world =
      .ok (goesOn, wrapper') world') : SameHandles wrapper wrapper' := by
  obtain ⟨shown, state, showed, rest⟩ := run_bind_eq_ok run
  obtain ⟨⟨count, between⟩, after, expected, rest⟩ := run_bind_eq_ok rest
  have same := (showProgress_frame showed).handles.trans
    (marpaWrapperRTerminalsExpectedb_frame expected).handles
  cases count with
  | none => cases rest; exact same
  | some count =>
    obtain ⟨⟨pushed, next⟩, final, read, rest⟩ := run_bind_eq_ok rest
    cases pushed with
    | false => cases rest; exact same.trans (readLexemes_handles read)
    | true =>
      obtain ⟨_, _, _, rest⟩ := run_bind_eq_ok rest
      cases rest
      exact same.trans (readLexemes_handles read)

/-- An iteration uses the recognizer and what it stands on. -/
theorem recognizeIteration_uses (callbacks : RecognizerCallbacks V) (start : World V) :
    Keeps (Continued (Event.Uses 2) start)
      (recognizeIteration libc fuel build marpa callbacks wrapper) := by
  refine .bind (Continued.widen (fun _ => showProgress_continued) fun _ ofProgress =>
    Event.uses_of_recognizer (.inr (.inr (.inl ofProgress)))) fun shown => .bind
      (Continued.widen (fun _ => marpaWrapperRTerminalsExpectedb_continued) fun _ ofExpected =>
        Event.uses_of_recognizer (.inr (.inl ofExpected))) fun expected => ?_
  obtain ⟨count, wrapper⟩ := expected
  cases count with
  | none => exact .pure _
  | some count =>
    exact .bind (Continued.widen (fun _ => readLexemes_continued callbacks count)
      fun _ ofLexemes => Event.uses_of_recognizer (.inr (.inr (.inr ofLexemes)))) fun _ =>
        .ite (.bind (Continued.widen (fun _ => marpaWrapperRCompleteb_continued) fun _ ofComplete =>
          Event.uses_of_recognizer (.inl ofComplete)) fun _ => .pure _) (.pure _)

theorem recognizeLoop_attends {begun : Wrapper} (callbacks : RecognizerCallbacks V)
    (recognizer : begun.marpaRecognizerp.isSome) : Triple (Attends start begun)
      (loop .exhausted (recognizeTurn libc fuel build marpa callbacks) fuel begun)
      (fun result => Attends start result.2) (StopsLiving start) := by
  have two (grammar : begun.marpaGrammarp.isSome) : 2 ≤ begun.objects.length := by
    obtain ⟨handle, there⟩ := Option.isSome_iff_exists.mp grammar
    obtain ⟨handle', there'⟩ := Option.isSome_iff_exists.mp recognizer
    rw [Wrapper.objects, there, there']
    exact Nat.le_refl _
  have turns (frame : Wrapper) :
      Triple (fun world => SameHandles begun frame ∧ Attends start begun world)
        (recognizeTurn libc fuel build marpa callbacks frame)
        (AfterTurn (fun next world => SameHandles begun next ∧ Attends start begun world)
          fun result world => Attends start result.2 world) (StopsLiving start) := by
    have iterates : Triple (fun world => SameHandles begun frame ∧ Attends start begun world)
        (recognizeIteration libc fuel build marpa callbacks frame)
        (fun result world => SameHandles begun result.2 ∧ Attends start begun world)
        (StopsLiving start) := by
      refine ((Attends.beside fun grammar => Living.of_continued
        (recognizeIteration_uses callbacks) (two grammar)).under.returning
          fun _ result _ holds run => holds.1.trans (recognizeIteration_handles run)).consequence
            (fun _ holds => holds) (fun _ _ holds => ⟨holds.1, holds.2.2⟩) fun _ _ stops => stops
    have reads : Triple (fun world => SameHandles begun frame ∧ Attends start begun world)
        (ask callbacks.reader fun answer => .reader answer.1 answer.2)
        (fun _ world => SameHandles begun frame ∧ Attends start begun world)
        (StopsLiving start) :=
      (Attends.beside fun _ => Living.of_continued (fun _ => ask_continued fun _ =>
        Event.uses_of_none rfl) (Nat.zero_le _)).under
    refine reads.bind fun answer => .ite (fun _ => iterates.bind fun result => ?_) fun _ =>
      .pure fun _ holds => holds.2.same holds.1
    obtain ⟨goesOn, next⟩ := result
    cases goesOn with
    | true => exact .pure fun _ holds => holds
    | false => exact .pure fun _ holds => holds.2.same holds.1
  refine (Triple.loop (fun frame world => SameHandles begun frame ∧ Attends start begun world)
    turns (fun _ _ holds => ⟨_, holds.2.living⟩) fuel begun).consequence
      (fun _ attends => ⟨.refl begun, attends⟩) (fun _ _ attends => attends) fun _ _ stops => stops

theorem marpaWrapperRRecognizeb_attends (option : Option (MarpaWrapperRecognizerOption V)) :
    Triple (Attends start wrapper) (marpaWrapperRRecognizeb libc fuel build marpa wrapper option)
      (fun result => Attends start result.2) (StopsLiving start) := by
  unfold marpaWrapperRRecognizeb
  cases option.bind (·.callbacks build.tracing) with
  | none => exact .pure fun _ attends => attends
  | some callbacks =>
    have starts : Triple (Attends start wrapper) (marpaWrapperRStartb libc marpa wrapper)
        (fun result world => (result.1 = true → result.2.marpaRecognizerp.isSome) ∧
          Attends start result.2 world) (StopsLiving start) := by
      refine marpaWrapperRStartb_attends.returning ?_
      rintro world ⟨_, wrapper'⟩ world' - run rfl
      exact marpaWrapperRStartb_recognizer run
    refine starts.bind fun result => .ite (fun started => ?_) fun _ => .pure fun _ holds => holds.2
    intro world holds
    exact recognizeLoop_attends callbacks (holds.1 started) world holds.2

/-- A function of which only the answer is passed on. -/
theorem answering_attends {program : Exec V Bool}
    (keeps : wrapper.marpaGrammarp.isSome → Keeps (Living start wrapper.objects) program) :
    Triple (Attends start wrapper) (answering wrapper program)
      (fun result => Attends start result.2) (StopsLiving start) :=
  (Attends.beside keeps).bind fun _ => .pure fun _ attends => attends

/-- Every call. -/
theorem ApiCall.run_attends (call : ApiCall V) : Triple (Attends start wrapper)
    (call.run libc fuel build marpa wrapper) (fun result => Attends start result.2)
    (StopsLiving start) := by
  cases call with
  | addSymbolp option =>
    refine (Attends.rewriting Prod.snd (fun grammar => marpaWrapperGAddSymbolp_living
      (length_objects grammar) option) fun _ result _ run => ?_).bind fun _ => .pure fun _ holds =>
        holds
    obtain ⟨_, _, _, same⟩ := marpaWrapperGAddSymbolp_frame run
    rw [same]
    exact ⟨rfl, rfl⟩
  | addRulep option =>
    refine (Attends.rewriting Prod.snd (fun grammar => marpaWrapperGAddRulep_living
      (length_objects grammar) option) fun _ result _ run => ?_).bind fun _ => .pure fun _ holds =>
        holds
    obtain ⟨_, _, _, same⟩ := marpaWrapperGAddRulep_frame run
    rw [same]
    exact ⟨rfl, rfl⟩
  | precomputeb =>
    exact answering_attends fun grammar => marpaWrapperGPrecomputeb_living (length_objects grammar)
  | startb => exact marpaWrapperRStartb_attends.bind fun _ => .pure fun _ holds => holds
  | alternativeb symbolp value length =>
    exact answering_attends fun grammar => marpaWrapperRAlternativeb_living grammar _ _ _
  | completeb => exact answering_attends marpaWrapperRCompleteb_living
  | readb symbolp value length =>
    exact answering_attends fun grammar => .bind (marpaWrapperRAlternativeb_living grammar _ _ _)
      fun _ => .ite (marpaWrapperRCompleteb_living grammar) (.pure _)
  | eventActivateb symbolp eventSeti onb =>
    exact answering_attends fun grammar => marpaWrapperREventActivateb_living grammar _ _ _
  | terminalsExpectedb =>
    exact (Attends.rewriting Prod.snd marpaWrapperRTerminalsExpectedb_living
      fun _ _ _ run => (marpaWrapperRTerminalsExpectedb_frame run).handles).bind fun _ =>
        .pure fun _ holds => holds
  | terminalIsExpectedb symbolp =>
    exact (Attends.beside fun grammar => marpaWrapperRTerminalIsExpectedb_living grammar _).bind
      fun _ => .pure fun _ attends => attends
  | progressb starti endi =>
    exact (Attends.rewriting Prod.snd (fun grammar => marpaWrapperRProgressb_living grammar _ _)
      fun _ _ _ run => (marpaWrapperRProgressb_frame run).handles).bind fun _ =>
        .pure fun _ holds => holds
  | recognizeb option =>
    exact (marpaWrapperRRecognizeb_attends option).bind fun _ => .pure fun _ holds => holds
  | vb valueOption stackOption =>
    refine .through (fun _ => Attends start wrapper) (fun world attends => ?_) fun _ =>
      .pure fun _ attends => attends
    have valued : Triple (Living start wrapper.objects)
        (marpaWrapperVb libc fuel marpa.value (some wrapper) valueOption stackOption)
        (fun _ => Living start wrapper.objects) fun _ world => ∃ alive, Living start alive world :=
      marpaWrapperVb_living attends.grammar valueOption stackOption
    exact (valued.consequence (fun _ living => living) (fun _ _ living => ⟨attends.grammar, living⟩)
      fun _ _ stops => stops) world attends.living

theorem runCalls_attends (calls : List (ApiCall V)) : Triple (Attends start wrapper)
    (runCalls (ApiCall.run libc fuel build marpa) calls wrapper)
    (fun result => Attends start result.2) (StopsLiving start) := by
  induction calls generalizing wrapper with
  | nil => exact .pure fun _ attends => attends
  | cons call rest inductionHypothesis =>
    exact (ApiCall.run_attends call).bind fun _ => inductionHypothesis.bind fun _ =>
      .pure fun _ attends => attends

/-! ### The whole life -/

theorem unrefIfNotNull_living {event : Nat → Event V} {handle : Option Nat} {level : Nat}
    {rest : List Nat} (acts : ∀ handle, (event handle).lifeAct = some (.release level handle))
    (depth : handle.isSome → rest.length = level) :
    Triple (Living start (handle.toList ++ rest)) (unrefIfNotNull event handle)
      (fun _ => Living start rest) (StopsLiving start) := by
  intro world living
  cases handle with
  | none => exact living
  | some handle => exact living.act rfl (acts handle) (if_pos ⟨depth rfl, rfl⟩)

/-- The destructor releases the recognizer, then the grammar. -/
theorem marpaWrapperDestroyv_living
    (stands : wrapper.marpaRecognizerp.isSome → wrapper.marpaGrammarp.isSome) :
    Triple (Living start wrapper.objects) (marpaWrapperDestroyv wrapper)
      (fun _ => Living start []) (StopsLiving start) := by
  have memory {program : Exec V Unit}
      (keeps : ∀ start, Keeps (Continued (·.ofMemory = true) start) program) :
      Triple (Living start []) program (fun _ => Living start []) (StopsLiving start) :=
    Triple.consequence (Living.of_memory keeps) (fun _ living => living)
      (fun _ _ living => living) fun _ _ living => ⟨[], living⟩
  have alone : wrapper.marpaRecognizerp.isSome → wrapper.marpaGrammarp.toList.length = 1 := by
    intro recognizer
    obtain ⟨handle, there⟩ := Option.isSome_iff_exists.mp (stands recognizer)
    rw [there]
    rfl
  have grammar : Triple (Living start wrapper.marpaGrammarp.toList)
      (unrefIfNotNull (V := V) .grammarUnref wrapper.marpaGrammarp) (fun _ => Living start [])
      (StopsLiving start) := by
    have released : Triple (Living start (wrapper.marpaGrammarp.toList ++ []))
        (unrefIfNotNull (V := V) .grammarUnref wrapper.marpaGrammarp) (fun _ => Living start [])
        (StopsLiving start) := unrefIfNotNull_living (fun _ => rfl) fun _ => rfl
    rwa [List.append_nil] at released
  exact (unrefIfNotNull_living (fun _ => rfl) alone).bind fun _ => grammar.bind fun _ =>
    (memory fun _ => manageBufFreev_continued _ _ _).bind fun _ =>
    (memory fun _ => manageBufFreev_continued _ _ _).bind fun _ =>
    (memory fun _ => manageBufFreev_continued _ _ _).bind fun _ =>
    (memory fun _ => freeIfNotNull_continued (fun _ => rfl) _).bind fun _ =>
    (memory fun _ => freeIfNotNull_continued (fun _ => rfl) _).bind fun _ =>
    memory fun _ => emit_continued rfl

/-- What the constructor leaves: a wrapper with a grammar, or nothing. -/
def Constructed (start : World V) : Option Wrapper → World V → Prop
  | none, world => Living start [] world
  | some wrapper, world => Attends start wrapper world

theorem abandon_living {alive : List Nat} (recognizer : wrapper.marpaRecognizerp = none)
    (objects : wrapper.objects = alive) :
    Triple (Living start alive) (abandon wrapper) (Constructed start) (StopsLiving start) := by
  subst objects
  refine (marpaWrapperDestroyv_living fun there => ?_).bind fun _ => .pure fun _ living => living
  rw [recognizer] at there
  cases there

theorem createGrammar_living (recognizer : wrapper.marpaRecognizerp = none)
    (grammar : wrapper.marpaGrammarp = none) : Triple (Living start [])
      (createGrammar marpa wrapper) (Constructed start) (StopsLiving start) := by
  have created : Triple (Living start []) (marpaGNew marpa)
      (fun handle => Living start handle.toList) (StopsLiving start) := by
    intro world living
    unfold marpaGNew
    cases grant : marpa.grammarNew world.events with
    | false =>
      rw [run_bind_ok (run_acquire_refused grant)]
      exact living.extend rfl rfl
    | true =>
      rw [run_bind_ok (run_acquire_granted grant)]
      exact living.act rfl rfl rfl
  refine created.bind fun handle => ?_
  cases handle with
  | none =>
    refine abandon_living recognizer ?_
    rw [Wrapper.objects, recognizer, grammar]
    rfl
  | some handle =>
    have objects :
        ({ wrapper with marpaGrammarp := some handle } : Wrapper).objects = [handle] := by
      rw [Wrapper.objects, show ({ wrapper with marpaGrammarp := some handle } :
        Wrapper).marpaRecognizerp = none from recognizer]
      rfl
    refine .through (fun _ => Living start [handle])
      (fun _ living => living.act rfl rfl rfl) fun forced => .ite (fun _ => ?_)
        fun _ => .pure fun _ living => ⟨rfl, objects.symm ▸ living⟩
    exact abandon_living recognizer objects

theorem marpaWrapperNewp_living (option : Option MarpaWrapperOption) :
    Triple (Living start []) (marpaWrapperNewp libc marpa option) (Constructed start)
      (StopsLiving start) := by
  have asked {β : Type} {answer : List (Event V) → β} {event : β → Event V}
      (noAct : ∀ value, (event value).lifeAct = none) : Triple (Living start []) (ask answer event)
        (fun _ => Living start []) (StopsLiving start) :=
    fun _ living => living.using rfl (List.forall_mem_singleton.mpr
      (Event.uses_of_none (noAct _))) (Nat.zero_le _)
  have allocated : Triple (Living start []) (malloc libc marpaWrapperSize)
      (fun _ => Living start []) (StopsLiving start) :=
    Triple.consequence (malloc_living _) (fun _ living => living) (fun _ _ living => living)
      fun _ _ living => ⟨[], living⟩
  refine allocated.bind fun address => ?_
  cases address with
  | none => exact .pure fun _ living => living
  | some address =>
    refine (asked fun _ => rfl).bind fun version => .ite (fun _ => abandon_living rfl rfl)
      fun _ => ?_
    cases (option.getD marpaWrapperOptionDefaultb).versionip with
    | none => exact createGrammar_living rfl rfl
    | some version =>
      exact (asked fun _ => rfl).bind fun checked => .ite (fun _ => abandon_living rfl rfl)
        fun _ => createGrammar_living rfl rfl

/-- What a session leaves: a wrapper that refers to all that is alive, or nothing. -/
def Attended (start : World V) : Option (List ApiAnswer × Wrapper) → World V → Prop
  | none, world => Living start [] world
  | some result, world => Attends start result.2 world

theorem session_attends (option : Option MarpaWrapperOption) (calls : List (ApiCall V)) :
    Triple (Living start []) (session libc fuel build marpa option calls) (Attended start)
      (StopsLiving start) := by
  refine (marpaWrapperNewp_living option).bind fun created => ?_
  cases created with
  | none => exact .pure fun _ living => living
  | some wrapper =>
    exact (runCalls_attends calls).bind fun _ => .pure fun _ attends => attends

end Calls

/-- In every session, whether it comes to its end or not, each call on an object of libmarpa is
allowed: the recognizer is created on the grammar and the objects of a value phase on the
recognizer, one of each at a time, a call uses an object that is alive, and what is released is the
innermost object. After a session the wrapper refers to all that is alive, and its destructor
releases that: each object as often as it was created. -/
theorem session_nestsObjects (libc : Libc V) (fuel : Nat) (build : Build) (marpa : Libmarpa V)
    (option : Option MarpaWrapperOption) (calls : List (ApiCall V)) (start : World V) :
    ∃ exchanges alive,
      (finalState (session libc fuel build marpa option calls start)).events =
        start.events ++ exchanges ∧
      follow (lifeActsIn exchanges) [] = some alive ∧
      (∀ world, session libc fuel build marpa option calls start = .ok none world → alive = []) ∧
      ∀ answers wrapper world,
        session libc fuel build marpa option calls start = .ok (some (answers, wrapper)) world →
        alive = wrapper.objects ∧ ∀ world', marpaWrapperDestroyv wrapper world = .ok () world' →
          ∃ life, world'.events = start.events ++ life ∧
            follow (lifeActsIn life) [] = some [] ∧
            (created (lifeActsIn life)).Perm (released (lifeActsIn life)) := by
  have attends : Triple (Living start []) (session libc fuel build marpa option calls)
      (Attended start) (StopsLiving start) := session_attends option calls
  have outcome := attends start (.refl start)
  cases run : session libc fuel build marpa option calls start with
  | error fault world =>
    rw [run] at outcome
    obtain ⟨alive, exchanges, record, followed⟩ := outcome
    exact ⟨exchanges, alive, record, followed, (fun _ returns => nomatch returns),
      fun _ _ _ returns => nomatch returns⟩
  | ok result world =>
    rw [run] at outcome
    cases result with
    | none =>
      obtain ⟨exchanges, record, followed⟩ := outcome
      exact ⟨exchanges, [], record, followed, (fun _ _ => rfl),
        fun _ _ _ returns => nomatch returns⟩
    | some result =>
      obtain ⟨grammar, exchanges, record, followed⟩ := outcome
      refine ⟨exchanges, result.2.objects, record, followed, (fun _ returns => nomatch returns), ?_⟩
      rintro answers wrapper world' ⟨⟩
      refine ⟨rfl, fun final destroyed => ?_⟩
      have destroys : Triple (Living start wrapper.objects) (marpaWrapperDestroyv wrapper)
          (fun _ => Living start []) (StopsLiving start) :=
        marpaWrapperDestroyv_living fun _ => grammar
      obtain ⟨life, record, followed⟩ := destroys.ok ⟨exchanges, record, followed⟩ destroyed
      have balance := follow_balance followed
      rw [List.append_nil, List.append_nil] at balance
      exact ⟨life, record, followed, balance⟩

end MarpaWrapper
