/-
This file says which exchanges each function of the read phase makes, whatever
the answers are, and that none of them changes the symbols and rules of the
grammar inside libmarpa. What the queue of events holds may change.
-/

import MarpaWrapper.Api
import MarpaWrapper.ValuationFailures

namespace MarpaWrapper

open Effects

variable {V α : Type}

/-! ### Kinds of exchanges -/

/-- Since `start` only exchanges of a kind were made, the grammar has the symbols and rules it had,
and no address was handed out again. -/
structure Continued (kind : Event V → Prop) (start world : World V) : Prop where
  record : ∃ exchanges, world.events = start.events ++ exchanges ∧ ∀ event ∈ exchanges, kind event
  symbols : world.grammar.symbols = start.grammar.symbols
  rules : world.grammar.rules = start.grammar.rules
  later : start.nextAddress ≤ world.nextAddress

/-- The exchanges with the allocator. -/
def Event.ofMemory : Event V → Bool
  | .malloc _ _ | .realloc _ _ | .free _ => true
  | _ => false

/-- The exchanges of `_marpaWrapper_event`. -/
def Event.ofReport : Event V → Bool
  | .malloc _ _ | .free _ | .eventCount _ | .event _ _ _ | .eventCallback _ => true
  | _ => false

/-- The exchanges of `marpaWrapper_r_startb`. -/
def Event.ofStart : Event V → Bool
  | .recognizerNew _ | .recognizerUnref _ | .startInput _ => true
  | other => other.ofReport

/-- The exchanges of `marpaWrapper_r_completeb`. -/
def Event.ofComplete : Event V → Bool
  | .earlemeComplete _ => true
  | other => other.ofReport

/-- The exchanges with which the arrays of the expected terminals are allocated. -/
def Event.opensExpected : Event V → Bool
  | .malloc _ _ | .free _ | .highestSymbolId _ => true
  | _ => false

/-- The exchanges of `marpaWrapper_r_terminals_expectedb`. -/
def Event.ofExpected : Event V → Bool
  | .malloc _ _ | .free _ | .highestSymbolId _ | .terminalsExpected _ => true
  | _ => false

/-- The exchanges of `marpaWrapper_r_progressb`. -/
def Event.ofProgress : Event V → Bool
  | .malloc _ _ | .realloc _ _ | .free _ | .latestEarleySet _ | .earleme _ _ => true
  | .progressReportStart _ _ | .progressItem _ _ _ | .progressReportFinish _ => true
  | _ => false

/-- The exchanges of the checks and the pushes of the terminals. -/
def Event.ofLexemes : Event V → Bool
  | .isLexeme _ _ | .lexemeValue _ _ | .alternative _ _ _ _ => true
  | _ => false

section Continued

variable {kind : Event V → Prop} {start world world' : World V}

theorem Continued.refl (kind : Event V → Prop) (start : World V) : Continued kind start start :=
  ⟨⟨[], (List.append_nil _).symm, fun _ member => absurd member List.not_mem_nil⟩, rfl, rfl,
    Nat.le_refl _⟩

/-- What was made before is kept, and what is made then may be of a narrower kind. -/
theorem Continued.trans {narrow : Event V → Prop} (continued : Continued kind start world)
    (more : Continued narrow world world') (wider : ∀ event, narrow event → kind event) :
    Continued kind start world' := by
  obtain ⟨before, record, kinds⟩ := continued.record
  obtain ⟨exchanges, appended, narrowly⟩ := more.record
  refine ⟨⟨before ++ exchanges, by rw [appended, record, List.append_assoc], fun event member => ?_⟩,
    more.symbols.trans continued.symbols, more.rules.trans continued.rules,
    Nat.le_trans continued.later more.later⟩
  rcases List.mem_append.mp member with old | new
  · exact kinds event old
  · exact wider event (narrowly event new)

/-- What keeps the whole grammar keeps its symbols and rules. -/
theorem Grown.continued (grown : Grown kind start world) : Continued kind start world :=
  ⟨grown.record, by rw [grown.grammar], by rw [grown.grammar], grown.later⟩

/-- One exchange, after which the queue of events may be another one. -/
theorem Continued.exchange (continued : Continued kind start world) {event : Event V}
    (ofKind : kind event) {address : Nat} {grammar : Grammar} (later : world.nextAddress ≤ address)
    (symbols : grammar.symbols = world.grammar.symbols)
    (rules : grammar.rules = world.grammar.rules) :
    Continued kind start ⟨world.events ++ [event], address, grammar⟩ := by
  have one : Continued kind world ⟨world.events ++ [event], address, grammar⟩ :=
    ⟨⟨[event], rfl, fun other member => by rwa [List.mem_singleton.mp member]⟩, symbols, rules,
      later⟩
  exact continued.trans one fun _ same => same

/-- A computation that makes exchanges of one kind makes exchanges of every wider kind. -/
theorem Continued.widen {program : Exec V α} {narrow : Event V → Prop}
    (keeps : ∀ start, Keeps (Continued narrow start) program)
    (wider : ∀ event, narrow event → kind event) : Keeps (Continued kind start) program := by
  intro world continued
  have narrowly := keeps world world (.refl narrow world)
  cases run : program world with
  | ok value world' =>
    rw [run] at narrowly
    exact continued.trans narrowly wider
  | error fault world' =>
    rw [run] at narrowly
    exact continued.trans narrowly wider

/-- A computation that keeps the grammar, too. -/
theorem Continued.of_grown {program : Exec V α} (keeps : ∀ start, Keeps (Grown kind start) program) :
    Keeps (Continued kind start) program := by
  intro world continued
  have grown := keeps world world (.refl kind world)
  cases run : program world with
  | ok value world' =>
    rw [run] at grown
    exact continued.trans grown.continued fun _ same => same
  | error fault world' =>
    rw [run] at grown
    exact continued.trans grown.continued fun _ same => same

/-- A computation that returns, from one world to the other. -/
theorem Continued.of_run {program : Exec V α}
    (keeps : ∀ start, Keeps (Continued kind start) program) {value : α}
    (run : program world = .ok value world') : Continued kind world world' := by
  have continued := (keeps world).finalState (.refl kind world)
  rwa [run] at continued

/-! ### The precomputation -/

/-- What `marpa_g_precompute` leaves: the rules, and the symbols but for the terminal flags that the
census sets. -/
structure Censused (world world' : World V) : Prop where
  record : ∃ answer, world'.events = world.events ++ [.precompute answer]
  addresses : world'.nextAddress = world.nextAddress
  rules : world'.grammar.rules = world.grammar.rules
  symbols : world'.grammar.symbols = world.grammar.symbols ∨
    world'.grammar.symbols = world.grammar.symbols.mapIdx world.grammar.censusFlags

/-- The census changes no number of symbols. -/
theorem Censused.length (censused : Censused world world') :
    world'.grammar.symbols.length = world.grammar.symbols.length := by
  rcases censused.symbols with same | same
  · rw [same]
  · rw [same, List.length_mapIdx]

/-- A precomputation that fails makes no census. -/
theorem marpaGPrecompute_return {marpa : Libmarpa V} {answer : Int}
    (run : marpaGPrecompute marpa world = .ok answer world') : Censused world world' := by
  cases run
  refine ⟨⟨_, rfl⟩, rfl, ?_, ?_⟩
  · show (if _ then world.grammar else world.grammar.census).rules = world.grammar.rules
    split <;> rfl
  · show (if _ then world.grammar else world.grammar.census).symbols = world.grammar.symbols ∨
      (if _ then world.grammar else world.grammar.census).symbols = _
    split
    · exact .inl rfl
    · exact .inr rfl

theorem precomputeGrammar_return {marpa : Libmarpa V} {goesOn : Bool}
    (run : precomputeGrammar marpa world = .ok goesOn world') : Censused world world' := by
  obtain ⟨precomputed, between, called, rest⟩ := run_bind_eq_ok run
  cases rest
  exact marpaGPrecompute_return called

/-! ### The functions -/

section Functions

variable {libc : Libc V} {fuel : Nat} {build : Build} {marpa : Libmarpa V} {wrapper : Wrapper}

theorem emit_continued {event : Event V} (ofKind : kind event) :
    Keeps (Continued kind start) (emit event) :=
  Continued.of_grown fun _ => emit_keeps ofKind

theorem ask_continued {answer : List (Event V) → α} {event : α → Event V}
    (ofKind : ∀ value, kind (event value)) : Keeps (Continued kind start) (ask answer event) :=
  Continued.of_grown fun _ => ask_keeps ofKind

/-- Memory is asked for, whether it is granted or not. -/
theorem acquire_continued {granted : List (Event V) → Bool} {event : Option Nat → Event V}
    (ofKind : ∀ address, kind (event address)) :
    Keeps (Continued kind start) (acquire granted event) :=
  Continued.of_grown fun _ => acquire_keeps ofKind

theorem readCell_continued {β : Type} (cells : List (Slot β)) (index : Nat) :
    Keeps (Continued kind start) (readCell cells index) :=
  Continued.of_grown fun _ => readCell_keeps cells index

theorem writeCell_continued {β : Type} (cells : List (Slot β)) (index : Nat) (content : Slot β) :
    Keeps (Continued kind start) (writeCell cells index content) :=
  Continued.of_grown fun _ => writeCell_keeps cells index content

theorem readObject_continued {β : Type} (arraypp : Option (Block β)) (index : Nat) :
    Keeps (Continued kind start) (readObject arraypp index) :=
  Continued.of_grown fun _ => readObject_keeps arraypp index

theorem readArray_continued {β : Type} (arraypp : Option (Block β)) (index : Int) :
    Keeps (Continued kind start) (readArray arraypp index) :=
  Continued.of_grown fun _ => readArray_keeps arraypp index

theorem readPointer_continued {β : Type} (arraypp : Option (Block β)) (index : Int) :
    Keeps (Continued kind start) (readPointer arraypp index) :=
  .bind (readArray_continued _ _) fun _ => .pure _

theorem readSymbol_keeps (pointer : Nat) :
    Keeps (Grown kind start) (readSymbol wrapper pointer) := by
  refine .bind (readObject_keeps _ _) fun symbol => ?_
  cases symbol with
  | none => exact .throw _
  | some symbol => exact .pure _

theorem readSymbol_continued (pointer : Nat) :
    Keeps (Continued kind start) (readSymbol wrapper pointer) :=
  Continued.of_grown fun _ => readSymbol_keeps pointer

/-- Nothing is written into a released block. -/
theorem writeArray_continued {β : Type} (block : Block β) (index : Int) (content : Slot β) :
    Keeps (Continued kind start) (writeArray block index content) :=
  .bind (Continued.of_grown fun _ => useBlock_keeps block) fun _ =>
    .ite (.throw _) (.bind (writeCell_continued _ _ _) fun _ => .pure _)

theorem freeIfNotNull_continued (ofKind : ∀ address, kind (.free address)) (address : Option Nat) :
    Keeps (Continued kind start) (freeIfNotNull address) := by
  cases address with
  | none => exact .pure _
  | some address => exact emit_continued (ofKind address)

/-- A call of libmarpa that refills the queue of events. -/
theorem reportingCall_continued {answered : List (Event V) → Int × List (Nat × Int)}
    {event : Int → Event V} (ofKind : ∀ answer, kind (event answer)) :
    Keeps (Continued kind start) (reportingCall answered event) :=
  fun _ continued => continued.exchange (ofKind _) (Nat.le_refl _) rfl rfl

/-- The events are collected in an array of their own, which is released on all ways out. -/
theorem marpaWrapperEvent_continued :
    Keeps (Continued (·.ofReport = true) start) (marpaWrapperEvent libc marpa wrapper) := by
  refine .bind (fun _ continued => continued.exchange rfl (Nat.le_refl _) rfl rfl) fun count =>
    .ite (.pure _) (.bind (acquire_continued fun _ => rfl) fun granted => ?_)
  cases granted with
  | none => exact .pure _
  | some address =>
    refine .bind (.forEach (fun index collected => .bind
      (fun _ continued => continued.exchange rfl (Nat.le_refl _) rfl rfl) fun event =>
        .ite (.pure _) ?_) _ _) fun turn => ?_
    · cases eventClass event.1 with
      | symbol eventType => exact .bind (readPointer_continued _ _) fun _ => .pure _
      | _ => exact .pure _
    · cases turn with
      | done result => exact .bind (emit_continued rfl) fun _ => .pure _
      | next collected =>
        exact .bind (.ite (emit_continued rfl) (.pure _)) fun _ =>
          .bind (emit_continued rfl) fun _ => .pure _

/-- A start releases the recognizer of the run before, and the cached arrays that go with it. -/
theorem releaseRecognizer_continued :
    Keeps (Continued (·.ofStart = true) start) (releaseRecognizer wrapper) := by
  unfold releaseRecognizer
  cases wrapper.marpaRecognizerp with
  | none => exact .pure _
  | some handle =>
    exact .bind (emit_continued rfl) fun _ =>
      .bind (freeIfNotNull_continued (fun _ => rfl) _) fun _ =>
      .bind (freeIfNotNull_continued (fun _ => rfl) _) fun _ => .pure _

theorem Event.ofStart_of_report {event : Event V} (ofReport : event.ofReport = true) :
    event.ofStart = true := by
  cases event <;> first | rfl | exact ofReport

/-- A start asks for a recognizer, starts its input and reports the events. -/
theorem marpaWrapperRStartb_continued :
    Keeps (Continued (·.ofStart = true) start) (marpaWrapperRStartb libc marpa wrapper) :=
  .bind (.bind releaseRecognizer_continued fun _ => .bind (acquire_continued fun _ => rfl) fun _ =>
    .ite (.pure _) (.bind (reportingCall_continued fun _ => rfl) fun _ => .pure _)) fun _ =>
    .ite (.bind (Continued.widen (fun _ => marpaWrapperEvent_continued) fun _ => Event.ofStart_of_report)
      fun _ => .pure _) (.pure _)

theorem Event.ofComplete_of_report {event : Event V} (ofReport : event.ofReport = true) :
    event.ofComplete = true := by
  cases event <;> first | rfl | exact ofReport

/-- A completion reports the events of the new Earley set. -/
theorem marpaWrapperRCompleteb_continued :
    Keeps (Continued (·.ofComplete = true) start) (marpaWrapperRCompleteb libc marpa wrapper) :=
  .bind (.ite (.pure _) (.bind (reportingCall_continued fun _ => rfl) fun _ => .pure _)) fun _ =>
    .ite (Continued.widen (fun _ => marpaWrapperEvent_continued) fun _ => Event.ofComplete_of_report)
      (.pure _)

/-- The two arrays are allocated once. The first is released when the second is refused. -/
theorem allocateExpected_opens :
    Keeps (Continued (·.opensExpected = true) start) (allocateExpected libc marpa wrapper) := by
  refine .ite (.pure _) (.bind
    (fun _ continued => continued.exchange rfl (Nat.le_refl _) rfl rfl) fun _ =>
      .ite (.pure _) (.bind (acquire_continued fun _ => rfl) fun ids => ?_))
  cases ids with
  | none => exact .pure _
  | some ids =>
    refine .bind (acquire_continued fun _ => rfl) fun pointers => ?_
    cases pointers with
    | none => exact .bind (emit_continued rfl) fun _ => .pure _
    | some pointers => exact .pure _

theorem Event.ofExpected_of_opens {event : Event V} (opens : event.opensExpected = true) :
    event.ofExpected = true := by
  cases event <;> first | rfl | exact opens

theorem allocateExpected_continued :
    Keeps (Continued (·.ofExpected = true) start) (allocateExpected libc marpa wrapper) :=
  Continued.widen (fun _ => allocateExpected_opens) fun _ => Event.ofExpected_of_opens

/-- libmarpa fills the ids, and the pointers are read off the table of symbols. -/
theorem fillExpected_continued :
    Keeps (Continued (·.ofExpected = true) start) (fillExpected marpa wrapper) := by
  unfold fillExpected
  cases wrapper.expectedMarpaSymbolIdArrayp with
  | none => exact .throw _
  | some ids =>
    cases wrapper.expectedMarpaWrapperSymbolArraypp with
    | none => exact .throw _
    | some pointers =>
      refine .bind (.bind (ask_continued fun _ => rfl) fun answer => ?_) fun _ =>
        .ite (.pure _) (.bind (.forEach (fun index pointers => .bind (readCell_continued _ _)
          fun cell => ?_) _ _) fun turn => ?_)
      · cases answer with
        | none => exact .pure _
        | some ids => exact .ite (.pure _) (.throw _)
      · cases cell with
        | none => exact .throw _
        | some id =>
          exact .bind (readPointer_continued _ _) fun _ =>
            .bind (writeCell_continued _ _ _) fun _ => .pure _
      · cases turn with
        | next cells => exact .pure _
        | done result => exact result.elim

theorem marpaWrapperRTerminalsExpectedb_continued :
    Keeps (Continued (·.ofExpected = true) start)
      (marpaWrapperRTerminalsExpectedb libc marpa wrapper) :=
  .ite (.pure _) (.bind allocateExpected_continued fun _ => .ite fillExpected_continued (.pure _))

/-- A buffer is doubled by `realloc` until it is large enough, and a refusal ends that. -/
theorem manageBufCreatep_keeps {β : Type} (ppp : Option (Block β))
    (sizeip wantedNumberi elementSizei : Nat) :
    Keeps (Grown (·.ofMemory = true) start)
      (manageBufCreatep libc fuel build sizeModulus ppp sizeip wantedNumberi elementSizei) := by
  have requested (granted : List (Event V) → Bool) (event : Option Nat → Event V)
      (ofMemory : ∀ address, (event address).ofMemory = true) :
      Keeps (Grown (·.ofMemory = true) start) (acquire granted event) :=
    acquire_keeps ofMemory
  have moved (pp : Option (Block β)) (size : Nat) :
      Keeps (Grown (·.ofMemory = true) start) (reallocBlock libc pp size) := by
    refine .bind ?_ fun _ => requested _ _ fun _ => rfl
    cases pp with
    | none => exact .pure _
    | some block => exact useBlock_keeps block
  refine .bind (.loop (fun growth => .ite (.ite (.bind (requested _ _ fun _ => rfl) fun _ =>
    .pure _) (.ite (.pure _) (.bind (moved _ _) fun _ => .pure _))) (.pure _)) _ _)
      fun growth => ?_
  cases growth with
  | error growth => exact .pure _
  | ok growth =>
    refine .bind (.ite (.ite (.pure _) (.throw _)) (.loop (fun frame =>
      .ite (.ite (.throw _) (.bind (writeCell_keeps _ _ _) fun _ => .pure _)) (.pure _)) _ _))
        fun _ => .pure _

theorem manageBufCreatep_continued {β : Type} (ppp : Option (Block β))
    (sizeip wantedNumberi elementSizei : Nat) :
    Keeps (Continued (·.ofMemory = true) start)
      (manageBufCreatep libc fuel build sizeModulus ppp sizeip wantedNumberi elementSizei) :=
  Continued.of_grown fun _ => manageBufCreatep_keeps ppp sizeip wantedNumberi elementSizei

/-- The objects are released, and then the buffer that designates them. -/
theorem manageBufFreev_continued {β : Type} (addressOf : β → Nat) (ppp : Option (Block β))
    (usedNumberip : Nat) :
    Keeps (Continued (·.ofMemory = true) start) (manageBufFreev addressOf ppp usedNumberip) := by
  cases ppp with
  | none => exact .pure _
  | some block =>
    refine .bind (Continued.of_grown fun _ => useBlock_keeps block) fun _ => .bind (.forEach
      (fun index cells => .bind (readCell_continued _ _) fun object => ?_) _ _)
      fun _ => emit_continued rfl
    cases object with
    | none => exact .pure _
    | some object =>
      exact .bind (emit_continued rfl) fun _ =>
        .bind (writeCell_continued _ _ _) fun _ => .pure _

theorem Event.ofProgress_of_memory {event : Event V} (ofMemory : event.ofMemory = true) :
    event.ofProgress = true := by
  cases event <;> first | rfl | cases ofMemory

/-- An item grows the table by one, and is allocated for itself. -/
theorem storeProgress_continued (set ruleId position origin : Int) :
    Keeps (Continued (·.ofProgress = true) start)
      (storeProgress libc fuel build wrapper set ruleId position origin) := by
  refine .bind (Continued.widen (fun _ => manageBufCreatep_continued _ _ _ _) fun _ =>
    Event.ofProgress_of_memory) fun grown => ?_
  cases grown with
  | error table => exact .pure _
  | ok grown =>
    refine .bind (acquire_continued fun _ => rfl) fun address => ?_
    cases address with
    | none => exact .pure _
    | some address =>
      exact .bind (readPointer_continued _ _) fun _ =>
        .bind (writeArray_continued _ _ _) fun _ => .pure _

/-- The items are sorted by what their rules say, without any exchange. -/
theorem sortProgress_continued : Keeps (Continued kind start) (sortProgress libc wrapper) := by
  unfold sortProgress
  cases wrapper.marpaWrapperProgresspp with
  | none => exact .pure _
  | some table =>
    refine .ite (.bind (.forEach (fun index items => .bind (readCell_continued _ _)
      fun item => ?_) _ _) fun turn => ?_) (.pure _)
    · cases item with
      | none => exact .throw _
      | some item =>
        simp only
        cases item.marpaWrapperRulep with
        | none => exact .throw _
        | some pointer =>
          refine .bind (readObject_continued _ _) fun rule => ?_
          cases rule with
          | none => exact .throw _
          | some rule => exact .pure _
    · cases turn with
      | next items => exact .pure _
      | done result => exact result.elim

theorem finishProgress_continued (rcb : Bool) :
    Keeps (Continued (·.ofProgress = true) start) (finishProgress libc marpa rcb wrapper) :=
  .bind (ask_continued fun _ => rfl) fun _ =>
    .ite (.bind sortProgress_continued fun _ => .pure _) (.pure _)

theorem itemTurn_continued (set : Int) (index : Nat) :
    Keeps (Continued (·.ofProgress = true) start)
      (itemTurn libc fuel build marpa set index wrapper) :=
  .bind (ask_continued fun _ => rfl) fun _ => .ite (.pure _) (storeProgress_continued _ _ _ _)

/-- An Earley set is asked for its items, one after the other. -/
theorem setTurn_continued (starti : Int) (offset : Nat) :
    Keeps (Continued (·.ofProgress = true) start)
      (setTurn libc fuel build marpa starti offset wrapper) :=
  .bind (ask_continued fun _ => rfl) fun _ => .ite (.pure _)
    (.bind (ask_continued fun _ => rfl) fun _ => .ite (.pure _)
      (.forEach (fun index _ => itemTurn_continued _ index) _ _))

/-- The items of the call before are released first. The report is finished unless an item is
refused. -/
theorem marpaWrapperRProgressb_continued (starti endi : Int) :
    Keeps (Continued (·.ofProgress = true) start)
      (marpaWrapperRProgressb libc fuel build marpa wrapper starti endi) := by
  refine .ite (.pure _) (.bind (Continued.widen (fun _ => manageBufFreev_continued _ _ _) fun _ =>
    Event.ofProgress_of_memory) fun _ => .bind (ask_continued fun _ => rfl) fun latest =>
      .ite (.pure _) (.bind (.forEach (fun offset _ => setTurn_continued _ offset) _ _)
        fun turn => ?_))
  cases turn with
  | next wrapper => exact finishProgress_continued true
  | done exit =>
    cases exit with
    | broken wrapper => exact finishProgress_continued false
    | returned wrapper => exact .pure _

theorem traceTurn_continued (index : Nat) (frame : Unit) :
    Keeps (Continued kind start) (traceTurn wrapper index frame) := by
  refine .bind (readCell_continued _ _) fun item => ?_
  cases item with
  | none => exact .throw _
  | some item =>
    simp only
    cases item.marpaWrapperRulep with
    | none => exact .throw _
    | some pointer =>
      refine .bind (readObject_continued _ _) fun rule => ?_
      cases rule with
      | none => exact .throw _
      | some rule => exact .pure _

/-- A build that traces asks for the items of the latest Earley set and goes through them. -/
theorem showProgress_continued :
    Keeps (Continued (·.ofProgress = true) start)
      (showProgress libc fuel build marpa wrapper) :=
  .ite (.bind (marpaWrapperRProgressb_continued _ _) fun _ =>
    .bind (.forEach traceTurn_continued _ _) fun _ => .pure _) (.pure _)

theorem expectedSymbol_continued (cells : List (Slot Nat)) (index : Nat) :
    Keeps (Continued kind start) (expectedSymbol wrapper cells index) := by
  refine .bind (readCell_continued _ _) fun pointer => ?_
  cases pointer with
  | none => exact .throw _
  | some pointer => exact .bind (readSymbol_continued pointer) fun _ => .pure _

/-- A symbol keeps its block when the wrapper writes to it. -/
theorem writeSymbol_continued (pointer : Nat) (symbol : MarpaWrapperSymbol) :
    Keeps (Continued kind start) (writeSymbol wrapper pointer symbol) := by
  unfold writeSymbol
  cases wrapper.marpaWrapperSymbolpp with
  | none => exact .throw _
  | some table => exact .bind (writeCell_continued _ _ _) fun _ => .pure _

theorem readGarbage_continued : Keeps (Continued kind start) (readGarbage libc) :=
  fun _ continued => continued

/-- The terminals are read and sorted without any exchange. -/
theorem orderTerminals_continued (callbacks : RecognizerCallbacks V) (count : Nat) :
    Keeps (Continued kind start) (orderTerminals libc callbacks wrapper count) := by
  refine .ite (.bind (.forEach (fun index terminals => .bind (expectedSymbol_continued _ _) fun _ =>
    .pure _) _ _) fun turn => ?_) (.pure _)
  cases turn with
  | next terminals => exact .bind readGarbage_continued fun _ => .pure _
  | done result => exact result.elim

theorem marpaWrapperRAlternativeb_continued (pointer : Nat) (value length : Int) :
    Keeps (Continued (·.ofLexemes = true) start)
      (marpaWrapperRAlternativeb marpa wrapper (some pointer) value length) :=
  .ite (.pure _) (.bind (readSymbol_continued _) fun _ => .bind (ask_continued fun _ => rfl)
    fun _ => .pure _)

/-- A terminal that cannot be longer than the longest one so far is not asked for. -/
theorem checkTurn_continued (ofKind : ∀ datavp length, kind (.isLexeme datavp length))
    (callbacks : RecognizerCallbacks V) (index : Nat) (frame : Wrapper × Nat) :
    Keeps (Continued kind start) (checkTurn callbacks index frame) := by
  refine .bind (expectedSymbol_continued _ _) fun terminal => .ite
    (.bind (writeSymbol_continued _ _) fun _ => .pure _)
    (.bind (ask_continued fun _ => ofKind _ _) fun answer => ?_)
  cases answer <;> exact .bind (writeSymbol_continued _ _) fun _ => .pure _

/-- A terminal that matched gives a value and is read as an alternative. -/
theorem pushTurn_continued (callbacks : RecognizerCallbacks V) (maxLengthl index : Nat)
    (value : Int × Int) :
    Keeps (Continued (·.ofLexemes = true) start)
      (pushTurn marpa callbacks wrapper maxLengthl index value) := by
  refine .bind (expectedSymbol_continued _ _) fun terminal => .ite
    (.bind (.ite (.pure _) (ask_continued fun _ => rfl)) fun token => ?_) (.pure _)
  cases token with
  | none => exact .pure _
  | some token => exact .bind (marpaWrapperRAlternativeb_continued _ _ _) fun _ => .pure _

theorem pushTerminals_continued (callbacks : RecognizerCallbacks V) (count maxLengthl : Nat) :
    Keeps (Continued (·.ofLexemes = true) start)
      (pushTerminals marpa callbacks wrapper count maxLengthl) := by
  refine .ite (.bind (.forEach (fun _ _ => pushTurn_continued _ _ _ _) _ _) fun turn => ?_) (.pure _)
  cases turn <;> exact .pure _

/-- All expected terminals are checked before the first of them is pushed. -/
theorem readLexemes_continued (callbacks : RecognizerCallbacks V) (count : Nat) :
    Keeps (Continued (·.ofLexemes = true) start)
      (readLexemes libc marpa callbacks wrapper count) := by
  refine .bind (orderTerminals_continued _ _) fun wrapper => .bind
    (.forEach (checkTurn_continued (fun _ _ => rfl) _) _ _) fun turn => ?_
  cases turn with
  | next frame => exact .bind (pushTerminals_continued _ _ _) fun _ => .pure _
  | done result => exact result.elim

end Functions

end Continued

/-! ### All calls -/

/-- What was on record is on record. -/
def Prolonged (start world : World V) : Prop := start.events <+: world.events

section Prolonged

variable {start world world' : World V} {libc : Libc V} {fuel : Nat} {build : Build}
  {marpa : Libmarpa V} {wrapper wrapper' : Wrapper}

theorem Continued.prolonged {kind : Event V → Prop} (continued : Continued kind start world) :
    Prolonged start world := by
  obtain ⟨exchanges, added, -⟩ := continued.record
  exact ⟨exchanges, added.symm⟩

theorem Prolonged.trans (first : Prolonged start world) (second : Prolonged world world') :
    Prolonged start world' :=
  List.IsPrefix.trans first second

/-- A computation that makes exchanges of a kind. -/
theorem Prolonged.of_continued {program : Exec V α} {kind : Event V → Prop}
    (keeps : ∀ start, Keeps (Continued kind start) program) : Keeps (Prolonged start) program := by
  intro world prolonged
  have continued := keeps world world (.refl kind world)
  cases run : program world with
  | ok value world' => rw [run] at continued; exact prolonged.trans continued.prolonged
  | error fault world' => rw [run] at continued; exact prolonged.trans continued.prolonged

/-- A computation that makes exchanges of any kind and keeps the grammar's symbols and rules. -/
theorem Prolonged.of_any {program : Exec V α}
    (keeps : ∀ start, Keeps (Continued (fun _ => True) start) program) :
    Keeps (Prolonged start) program :=
  Prolonged.of_continued keeps

/-- A definition changes the grammar, and is recorded as any other exchange. -/
theorem grammarCall_prolongs (call : GrammarCall) : Keeps (Prolonged start) (grammarCall marpa call) :=
  fun _ prolonged => prolonged.trans ⟨_, rfl⟩

theorem applyOption_prolongs (option : OptionCall) :
    Keeps (Prolonged start) (applyOption marpa option) :=
  .ite (.bind (grammarCall_prolongs _) fun _ => .bind (fun _ holds => holds) fun _ => .pure _)
    (.pure _)

/-- The options of a symbol or a rule are applied one after the other, up to the first that is
refused. -/
theorem applyOptions_prolongs (options : List OptionCall) :
    Keeps (Prolonged start) (applyOptions marpa options) := by
  induction options with
  | nil => exact .pure _
  | cons option rest inductionHypothesis =>
    exact .bind (applyOption_prolongs option) fun _ => .ite inductionHypothesis (.pure _)

theorem malloc_prolongs (size : Nat) : Keeps (Prolonged start) (malloc libc size) :=
  Prolonged.of_any fun _ => acquire_continued fun _ => trivial

theorem manageBufCreatep_prolongs {β : Type} (ppp : Option (Block β))
    (sizeip wantedNumberi elementSizei : Nat) :
    Keeps (Prolonged start)
      (manageBufCreatep libc fuel build sizeModulus ppp sizeip wantedNumberi elementSizei) :=
  Prolonged.of_continued fun _ => manageBufCreatep_continued ppp sizeip wantedNumberi elementSizei

theorem writeArray_prolongs {β : Type} (block : Block β) (index : Int) (content : Slot β) :
    Keeps (Prolonged start) (writeArray (V := V) block index content) :=
  Prolonged.of_any fun _ => writeArray_continued block index content

theorem readSymbol_prolongs (pointer : Nat) :
    Keeps (Prolonged start) (readSymbol (V := V) wrapper pointer) :=
  Prolonged.of_any fun _ => readSymbol_continued pointer

/-- A symbol is created inside libmarpa, gets a place in the table, an object and its options. -/
theorem marpaWrapperGAddSymbolp_prolongs (option : Option MarpaWrapperSymbolOption) :
    Keeps (Prolonged start) (marpaWrapperGAddSymbolp libc fuel build marpa wrapper option) := by
  refine .bind (grammarCall_prolongs _) fun id => .ite (.pure _)
    (.bind (manageBufCreatep_prolongs _ _ _ _) fun room => ?_)
  cases room with
  | error table => exact .pure _
  | ok room =>
    refine .bind (malloc_prolongs _) fun address => ?_
    cases address with
    | none => exact .pure _
    | some address =>
      exact .bind (fun _ holds => holds) fun _ => .bind (writeArray_prolongs _ _ _) fun _ =>
        .bind (applyOptions_prolongs _) fun _ => .pure _

/-- A sequence reads the separator first, and every rule its left-hand side. -/
theorem createRule_prolongs (option : MarpaWrapperRuleOption) (lhsSymbolp : Nat) (rhsIdp : List Int) :
    Keeps (Prolonged start) (createRule marpa wrapper option lhsSymbolp rhsIdp) := by
  have separated : Keeps (Prolonged start)
      (separatorId (V := V) wrapper option.separatorSymbolp) := by
    unfold separatorId
    cases option.separatorSymbolp with
    | none => exact .pure _
    | some pointer => exact .bind (readSymbol_prolongs pointer) fun _ => .pure _
  exact .ite (.bind separated fun _ => .bind (readSymbol_prolongs _) fun _ =>
    grammarCall_prolongs _) (.bind (readSymbol_prolongs _) fun _ => grammarCall_prolongs _)

/-- The ids of the right-hand side are collected for the call and released behind it. -/
theorem marpaWrapperGAddRulep_prolongs (option : Option MarpaWrapperRuleOption) :
    Keeps (Prolonged start) (marpaWrapperGAddRulep libc fuel build marpa wrapper option) := by
  have collected (option : MarpaWrapperRuleOption) :
      Keeps (Prolonged start) (collectRhs libc wrapper option) := by
    refine .ite (.bind (malloc_prolongs _) fun address => ?_) (.pure _)
    cases address with
    | none => exact .pure _
    | some address =>
      refine .bind (.forEach (fun index ids => ?_) _ _) fun turn => ?_
      · unfold rhsTurn
        cases option.rhsSymbolpp[index]? with
        | none => exact .throw _
        | some pointer =>
          cases pointer with
          | none => exact .throw _
          | some pointer =>
            exact .bind (readSymbol_prolongs pointer) fun _ => .ite (.pure _) (.throw _)
      · cases turn with
        | next ids => exact .pure _
        | done result => exact result.elim
  unfold marpaWrapperGAddRulep
  cases option with
  | none => exact .pure _
  | some option =>
    simp only
    cases option.lhsSymbolp with
    | none => exact .pure _
    | some lhsSymbolp =>
      refine .ite (.bind (collected option) fun rhs => ?_) (.pure _)
      cases rhs with
      | none => exact .pure _
      | some rhs =>
        refine .bind (createRule_prolongs _ _ _) fun id => .bind (Prolonged.of_any fun _ =>
          freeIfNotNull_continued (fun _ => trivial) _) fun _ => .ite (.pure _)
            (.bind (manageBufCreatep_prolongs _ _ _ _) fun room => ?_)
        cases room with
        | error table => exact .pure _
        | ok room =>
          refine .bind (malloc_prolongs _) fun address => ?_
          cases address with
          | none => exact .pure _
          | some address =>
            exact .bind (writeArray_prolongs _ _ _) fun _ =>
              .bind (applyOptions_prolongs _) fun _ => .pure _

theorem marpaWrapperEvent_prolongs :
    Keeps (Prolonged start) (marpaWrapperEvent libc marpa wrapper) :=
  Prolonged.of_continued fun _ => marpaWrapperEvent_continued

theorem marpaWrapperGPrecomputeb_prolongs :
    Keeps (Prolonged start) (marpaWrapperGPrecomputeb libc marpa wrapper) :=
  .bind (.bind (fun _ prolonged => prolonged.trans ⟨_, rfl⟩) fun _ => .pure _) fun _ =>
    .ite marpaWrapperEvent_prolongs (.pure _)

theorem ask_prolongs {answer : List (Event V) → α} {event : α → Event V} :
    Keeps (Prolonged start) (ask answer event) :=
  Prolonged.of_any fun _ => ask_continued fun _ => trivial

theorem marpaWrapperRAlternativeb_prolongs (pointer : Option Nat) (value length : Int) :
    Keeps (Prolonged start) (marpaWrapperRAlternativeb marpa wrapper pointer value length) := by
  cases pointer with
  | none => exact .pure _
  | some pointer =>
    exact .ite (.pure _) (.bind (readSymbol_prolongs _) fun _ => .bind ask_prolongs fun _ => .pure _)

theorem marpaWrapperRCompleteb_prolongs :
    Keeps (Prolonged start) (marpaWrapperRCompleteb libc marpa wrapper) :=
  Prolonged.of_continued fun _ => marpaWrapperRCompleteb_continued

/-- Each event type of the set is switched on its own. -/
theorem marpaWrapperREventActivateb_prolongs (pointer : Option Nat) (eventSeti : Int) (onb : Bool) :
    Keeps (Prolonged start) (marpaWrapperREventActivateb marpa wrapper pointer eventSeti onb) := by
  cases pointer with
  | none => exact .pure _
  | some pointer =>
    refine .ite (.pure _) (.bind (readSymbol_prolongs _) fun _ => .bind (.forEach
      (fun eventType _ => .bind (.ite (.bind ask_prolongs fun _ => .pure _) (.pure _)) fun _ =>
        .pure _) _ _) fun turn => ?_)
    cases turn <;> exact .pure _

theorem marpaWrapperRTerminalIsExpectedb_prolongs (pointer : Option Nat) :
    Keeps (Prolonged start) (marpaWrapperRTerminalIsExpectedb marpa wrapper pointer) := by
  cases pointer with
  | none => exact .pure _
  | some pointer =>
    exact .ite (.pure _) (.bind (readSymbol_prolongs _) fun _ => .bind ask_prolongs fun _ => .pure _)

/-- The recognition is a start and a loop over the input. -/
theorem marpaWrapperRRecognizeb_prolongs (option : Option (MarpaWrapperRecognizerOption V)) :
    Keeps (Prolonged start) (marpaWrapperRRecognizeb libc fuel build marpa wrapper option) := by
  unfold marpaWrapperRRecognizeb
  cases option.bind (·.callbacks build.tracing) with
  | none => exact .pure _
  | some callbacks =>
    refine .bind (Prolonged.of_continued fun _ => marpaWrapperRStartb_continued) fun started =>
      .ite (.loop (fun wrapper => .bind ask_prolongs fun more => .ite (.bind (.bind
        (Prolonged.of_continued fun _ => showProgress_continued) fun shown => .bind
          (Prolonged.of_continued fun _ => marpaWrapperRTerminalsExpectedb_continued)
            fun expected => ?_) fun _ => .pure _) (.pure _)) _ _) (.pure _)
    obtain ⟨count, wrapper⟩ := expected
    cases count with
    | none => exact .pure _
    | some count =>
      exact .bind (Prolonged.of_continued fun _ => readLexemes_continued callbacks count) fun _ =>
        .ite (.bind marpaWrapperRCompleteb_prolongs fun _ => .pure _) (.pure _)

/-- Every call that returns leaves what was on record. -/
theorem ApiCall.run_prolongs {call : ApiCall V} {answer : ApiAnswer}
    (run : call.run libc fuel build marpa wrapper world = .ok (answer, wrapper') world') :
    Prolonged world world' := by
  have returned {β γ : Type} {program : Exec V β} {rest : β → Exec V γ} {value : γ}
      (keeps : Keeps (Prolonged world) program) (rests : ∀ value, Keeps (Prolonged world) (rest value))
      (run : (program >>= rest) world = .ok value world') : Prolonged world world' :=
    Triple.ok (Keeps.bind keeps rests) List.prefix_rfl run
  cases call with
  | addSymbolp option =>
    exact returned (marpaWrapperGAddSymbolp_prolongs option) (fun _ => .pure _) run
  | addRulep option =>
    exact returned (marpaWrapperGAddRulep_prolongs option) (fun _ => .pure _) run
  | precomputeb => exact returned marpaWrapperGPrecomputeb_prolongs (fun _ => .pure _) run
  | startb =>
    exact returned (Prolonged.of_continued fun _ => marpaWrapperRStartb_continued)
      (fun _ => .pure _) run
  | alternativeb symbolp value length =>
    exact returned (marpaWrapperRAlternativeb_prolongs _ _ _) (fun _ => .pure _) run
  | completeb => exact returned marpaWrapperRCompleteb_prolongs (fun _ => .pure _) run
  | readb symbolp value length =>
    exact returned (.bind (marpaWrapperRAlternativeb_prolongs _ _ _) fun _ =>
      .ite marpaWrapperRCompleteb_prolongs (.pure _)) (fun _ => .pure _) run
  | eventActivateb symbolp eventSeti onb =>
    exact returned (marpaWrapperREventActivateb_prolongs _ _ _) (fun _ => .pure _) run
  | terminalsExpectedb =>
    exact returned (Prolonged.of_continued fun _ => marpaWrapperRTerminalsExpectedb_continued)
      (fun _ => .pure _) run
  | terminalIsExpectedb symbolp =>
    exact returned (marpaWrapperRTerminalIsExpectedb_prolongs _) (fun _ => .pure _) run
  | progressb starti endi =>
    exact returned (Prolonged.of_continued fun _ => marpaWrapperRProgressb_continued _ _)
      (fun _ => .pure _) run
  | recognizeb option => exact returned (marpaWrapperRRecognizeb_prolongs option) (fun _ => .pure _) run
  | vb valueOption stackOption =>
    obtain ⟨result, between, ran, rest⟩ := run_bind_eq_ok run
    cases rest
    exact (marpaWrapperVb_passes ran).continued.prolonged

theorem ask_return {answer : List (Event V) → α} {event : α → Event V} {value : α}
    (run : ask answer event world = .ok value world') :
    value = answer world.events ∧ world' = { world with events := world.events ++ [event value] } := by
  cases run
  exact ⟨rfl, rfl⟩

/-- The call that a fresh grammar gets creates nothing. -/
theorem grammarCall_forceValued {answer : Int} (fresh : world.grammar = {})
    (run : grammarCall marpa .forceValued world = .ok answer world') :
    world'.events = world.events ++ [.grammar .forceValued answer] ∧
      world'.nextAddress = world.nextAddress ∧ world'.grammar.symbols = [] ∧
      world'.grammar.rules = [] := by
  unfold grammarCall at run
  cases run
  refine ⟨rfl, rfl, ?_⟩
  show (world.grammar.apply _ _).2.symbols = [] ∧ (world.grammar.apply _ _).2.rules = []
  rw [fresh]
  unfold Grammar.apply
  cases marpa.refuses world.events .forceValued <;> exact ⟨rfl, rfl⟩

/-- The exchanges of a creation before the grammar is created. -/
def Event.opensWrapper : Event V → Bool
  | .malloc _ _ | .version _ | .checkVersion _ => true
  | _ => false

/-- What a creation leaves: a wrapper without tables, on a grammar without symbols and rules. -/
structure Created (world world' : World V) (wrapper : Wrapper) : Prop where
  fresh : ∃ handle marpaWrapperOption, wrapper =
    { address := world.nextAddress, marpaGrammarp := some handle, marpaWrapperOption }
  record : ∃ opening handle answer, (∀ event ∈ opening, event.opensWrapper = true) ∧ 0 ≤ answer ∧
    world'.events = world.events ++ opening ++
      [.grammarNew (some handle), .grammar .forceValued answer]
  symbols : world'.grammar.symbols = []
  rules : world'.grammar.rules = []
  later : world.nextAddress < world'.nextAddress

theorem Created.prolonged (created : Created world world' wrapper) : Prolonged world world' := by
  obtain ⟨opening, handle, answer, -, -, record⟩ := created.record
  exact ⟨_, (record.trans (List.append_assoc _ _ _)).symm⟩

/-- A creation that succeeds forces all symbols to be valued, and leaves no table behind. -/
theorem marpaWrapperNewp_creates {option : Option MarpaWrapperOption}
    (run : marpaWrapperNewp libc marpa option world = .ok (some wrapper) world') :
    Created world world' wrapper := by
  have created {options : MarpaWrapperOption} {between : World V}
      (before : ∃ opening, (∀ event ∈ opening, event.opensWrapper = true) ∧
        between.events = world.events ++ opening)
      (later : world.nextAddress < between.nextAddress)
      (run : createGrammar marpa { address := world.nextAddress, marpaWrapperOption := options }
        between = .ok (some wrapper) world') : Created world world' wrapper := by
    obtain ⟨opening, kind, record⟩ := before
    obtain ⟨handle, state, made, rest⟩ := run_bind_eq_ok run
    obtain ⟨handle', state', acquired, made⟩ := run_bind_eq_ok made
    cases grant : marpa.grammarNew between.events with
    | false =>
      rw [run_acquire_refused grant] at acquired
      cases acquired
      cases made
      obtain ⟨_, _, _, rest⟩ := run_bind_eq_ok rest
      cases rest
    | true =>
      rw [run_acquire_granted grant] at acquired
      cases acquired
      cases made
      obtain ⟨forced, final, called, rest⟩ := run_bind_eq_ok rest
      obtain ⟨added, place, symbols, rules⟩ := grammarCall_forceValued rfl called
      by_cases failed : forced < 0
      · rw [if_pos failed] at rest
        obtain ⟨_, _, _, rest⟩ := run_bind_eq_ok rest
        cases rest
      · rw [if_neg failed] at rest
        cases rest
        refine ⟨⟨_, _, rfl⟩, ⟨opening, between.nextAddress, forced, kind, Int.not_lt.mp failed, ?_⟩,
          symbols, rules, ?_⟩
        · rw [added]
          show between.events ++ [_] ++ [_] = _
          rw [record, List.append_assoc _ [_] [_], List.singleton_append]
        · rw [place]
          exact Nat.lt_succ_of_lt later
  have abandoned {wrapper' : Wrapper} {between : World V}
      (run : abandon wrapper' between = .ok (some wrapper) world') : False := by
    obtain ⟨_, _, _, rest⟩ := run_bind_eq_ok run
    cases rest
  obtain ⟨address, state, granted, rest⟩ := run_bind_eq_ok run
  unfold malloc at granted
  cases grant : libc.grants world.events marpaWrapperSize with
  | false =>
    rw [run_acquire_refused grant] at granted
    cases granted
    cases rest
  | true =>
    rw [run_acquire_granted grant] at granted
    cases granted
    obtain ⟨version, state, asked, rest⟩ := run_bind_eq_ok rest
    obtain ⟨-, rfl⟩ := ask_return asked
    by_cases failed : version < 0
    · rw [if_pos failed] at rest
      exact (abandoned rest).elim
    · rw [if_neg failed] at rest
      cases wanted : (option.getD marpaWrapperOptionDefaultb).versionip with
      | none =>
        rw [wanted] at rest
        refine created ⟨_, ?_, List.append_assoc _ _ _⟩ (Nat.lt_succ_self _) rest
        exact List.forall_mem_cons.mpr ⟨rfl, List.forall_mem_singleton.mpr rfl⟩
      | some triple =>
        rw [wanted] at rest
        obtain ⟨checked, state', asked', rest⟩ := run_bind_eq_ok rest
        obtain ⟨-, rfl⟩ := ask_return asked'
        by_cases refused : checked ≠ marpaErrNone
        · rw [if_pos refused] at rest
          exact (abandoned rest).elim
        · rw [if_neg refused] at rest
          refine created ⟨_, ?_, (List.append_assoc _ _ _).trans (List.append_assoc _ _ _)⟩
            (Nat.lt_succ_self _) rest
          exact List.forall_mem_cons.mpr ⟨rfl, List.forall_mem_cons.mpr ⟨rfl,
            List.forall_mem_singleton.mpr rfl⟩⟩

/-- A wrapper that was created had all symbols of its grammar valued. -/
theorem marpaWrapperNewp_forces {option : Option MarpaWrapperOption}
    (run : marpaWrapperNewp libc marpa option world = .ok (some wrapper) world') :
    ∃ answer, 0 ≤ answer ∧ Event.grammar .forceValued answer ∈ world'.events := by
  obtain ⟨opening, handle, answer, -, success, record⟩ := (marpaWrapperNewp_creates run).record
  refine ⟨answer, success, ?_⟩
  rw [record]
  exact List.mem_append_right _ (List.mem_cons_of_mem _ List.mem_cons_self)

/-- In every session all symbols of the grammar are valued. -/
theorem session_forces {option : Option MarpaWrapperOption} {calls : List (ApiCall V)}
    {answers : List ApiAnswer}
    (run : session libc fuel build marpa option calls world = .ok (some (answers, wrapper)) world') :
    ∃ answer, 0 ≤ answer ∧ Event.grammar .forceValued answer ∈ world'.events := by
  obtain ⟨created, between, made, rest⟩ := run_bind_eq_ok run
  cases created with
  | none => cases rest
  | some created =>
    obtain ⟨⟨answers', last⟩, state, ran, rest⟩ := run_bind_eq_ok rest
    cases rest
    obtain ⟨answer, success, member⟩ := marpaWrapperNewp_forces made
    have prolonged := runCalls_keeps (fun _ => Prolonged between)
      (fun call machine state answer machine' state' holds ran =>
        holds.trans (ApiCall.run_prolongs ran)) List.prefix_rfl ran
    exact ⟨answer, success, prolonged.subset member⟩

end Prolonged

end MarpaWrapper
