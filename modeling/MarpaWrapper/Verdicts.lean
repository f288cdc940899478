/-
This file reads the results of the recognizer's functions off the record of their
exchanges. An exchange either lets the recognition go on or ends it: a refused
allocation, a failed call, an event that is fatal or informational, a token that is
rejected, a value that is refused, an input that stops early. As long as the world keeps
to what libmarpa documents, each function returns, and its result is the verdict on the
exchanges it made.

What libmarpa documents is an assumption about the exchanges of one run: the ids it
reports are those of registered symbols and rules. Nothing is assumed of exchanges that
are not made.
-/

import MarpaWrapper.Assumptions
import MarpaWrapper.EventDelivery
import MarpaWrapper.Leftovers

namespace MarpaWrapper

open Effects Sorting

variable {V : Type}

/-! ### Exchanges since a state -/

/-- Since `start` only exchanges of a kind were made. -/
def AllSince (start : World V) (kind : Event V → Prop) (world : World V) : Prop :=
  ∀ event ∈ world.events.drop start.events.length, kind event

/-- The verdict on the exchanges since `start`: whether each of them passes. -/
def Verdict (passes : Event V → Bool) (start : World V) (result : Bool) (world : World V) : Prop :=
  ∃ exchanges, world.events = start.events ++ exchanges ∧ result = exchanges.all passes

section Since

variable {start world world' : World V} {kind : Event V → Prop} {passes : Event V → Bool}
  {result : Bool} {α : Type}

theorem AllSince.of_record {exchanges : List (Event V)}
    (record : world.events = start.events ++ exchanges) :
    AllSince start kind world ↔ ∀ event ∈ exchanges, kind event := by
  unfold AllSince
  rw [record, List.drop_left]

theorem AllSince.earlier (kept : AllSince start kind world') (prolonged : Prolonged world world') :
    AllSince start kind world := by
  obtain ⟨more, added⟩ := prolonged
  intro event member
  refine kept event ?_
  rw [← added, List.drop_append]
  exact List.mem_append_left _ member

/-- What is assumed of all exchanges is assumed of those since a later state. -/
theorem AllSince.recent (kept : AllSince start kind world') (prolonged : Prolonged start world)
    {exchanges : List (Event V)} (added : world'.events = world.events ++ exchanges) :
    ∀ event ∈ exchanges, kind event := by
  obtain ⟨before, record⟩ := prolonged
  rw [← record, List.append_assoc] at added
  exact fun event member =>
    (AllSince.of_record added).mp kept event (List.mem_append_right _ member)

/-- An exchange of another kind is not taken back. -/
theorem AllSince.lost {program : Exec V α} (prolongs : ∀ start, Keeps (Prolonged start) program) :
    Keeps (fun world => ¬ AllSince start kind world) program := by
  intro world lost
  have prolonged := prolongs world world List.prefix_rfl
  cases run : program world with
  | ok value world' =>
    rw [run] at prolonged
    exact fun kept => lost (kept.earlier prolonged)
  | error fault world' =>
    rw [run] at prolonged
    exact fun kept => lost (kept.earlier prolonged)

theorem Verdict.refl (passes : Event V → Bool) (start : World V) :
    Verdict passes start true start :=
  ⟨[], (List.append_nil _).symm, rfl⟩

theorem Verdict.more (verdict : Verdict passes start result world) {exchanges : List (Event V)}
    (added : world'.events = world.events ++ exchanges) :
    Verdict passes start (result && exchanges.all passes) world' := by
  obtain ⟨before, record, rfl⟩ := verdict
  exact ⟨before ++ exchanges, by rw [added, record, List.append_assoc], by rw [List.all_append]⟩

/-- One exchange decides. -/
theorem Verdict.event (verdict : Verdict passes start true world) {event : Event V}
    (added : world'.events = world.events ++ [event]) :
    Verdict passes start (passes event) world' := by
  have both := verdict.more added
  rwa [Bool.true_and, List.all_cons, List.all_nil, Bool.and_true] at both

/-- Exchanges that pass decide nothing. -/
theorem Verdict.quiet (verdict : Verdict passes start result world) {exchanges : List (Event V)}
    (added : world'.events = world.events ++ exchanges)
    (quiet : ∀ event ∈ exchanges, passes event = true) : Verdict passes start result world' := by
  have both := verdict.more added
  rwa [List.all_eq_true.mpr quiet, Bool.and_true] at both

theorem Verdict.prolonged (verdict : Verdict passes start result world) :
    Prolonged start world := by
  obtain ⟨exchanges, record, -⟩ := verdict
  exact ⟨exchanges, record.symm⟩

theorem Verdict.last (verdict : Verdict passes start result world) {event : Event V}
    (added : world'.events = world.events ++ [event]) (kept : AllSince start kind world') :
    kind event :=
  kept.recent verdict.prolonged added event (List.mem_singleton_self event)

/-- A program that makes one exchange, whatever the state. -/
def MakesOne (program : Exec V α) (event : α → Event V) : Prop :=
  ∀ world, ∃ value world', program world = .ok value world' ∧
    world'.events = world.events ++ [event value]

theorem MakesOne.prolongs {program : Exec V α} {event : α → Event V}
    (makes : MakesOne program event) : Keeps (Prolonged start) program := by
  intro world prolonged
  obtain ⟨value, world', run, added⟩ := makes world
  rw [run]
  exact prolonged.trans ⟨_, added.symm⟩

theorem ask_makesOne (answer : List (Event V) → α) (event : α → Event V) :
    MakesOne (ask answer event) event :=
  fun _ => ⟨_, _, rfl, rfl⟩

theorem acquire_makesOne (granted : List (Event V) → Bool) (event : Option Nat → Event V) :
    MakesOne (acquire granted event) event := by
  intro world
  cases grant : granted world.events with
  | false => exact ⟨_, _, run_acquire_refused grant, rfl⟩
  | true => exact ⟨_, _, run_acquire_granted grant, rfl⟩

/-- The exchange is of the kind that is assumed, and it decides. -/
theorem MakesOne.decides {program : Exec V α} {event : α → Event V}
    (makes : MakesOne program event) :
    Assuming (AllSince start kind) (Verdict passes start true) program
      fun value world => kind (event value) ∧
        Verdict passes start (passes (event value)) world := by
  refine ⟨AllSince.lost fun _ => makes.prolongs, ?_⟩
  rintro world ⟨-, verdict⟩
  obtain ⟨value, world', run, added⟩ := makes world
  rw [run]
  exact fun kept => ⟨verdict.last added kept, verdict.event added⟩

/-- An exchange that passes whatever it is. -/
theorem emit_decides {event : Event V} (quiet : passes event = true) :
    Assuming (AllSince start kind) (Verdict passes start result) (emit event)
      fun _ => Verdict passes start result :=
  ⟨AllSince.lost fun _ => Prolonged.of_any fun _ => emit_continued trivial,
    fun _ holds _ => holds.2.quiet rfl (List.forall_mem_singleton.mpr quiet)⟩

end Since

/-! ### What passes -/

/-- Whether an event of the queue lets an operation go on. -/
def Wrapper.passesEvent (wrapper : Wrapper) (eventType : Int) : Bool :=
  decide (0 ≤ eventType) &&
    match eventClass eventType with
    | .silent => true
    | .warning => !wrapper.marpaWrapperOption.warningIsErrorb
    | .fatal => false
    | .info => false
    | .symbol _ => true

/-- Whether an exchange lets a recognition go on. -/
def Event.passes (wrapper : Wrapper) (remainingDataIsOkb : Bool) : Event V → Bool
  | .malloc _ address => address.isSome
  | .recognizerNew handle => handle.isSome
  | .startInput answer => decide (0 ≤ answer)
  | .event _ eventType _ => wrapper.passesEvent eventType
  | .highestSymbolId answer => answer != -2
  | .terminalsExpected symbolIds => symbolIds.isSome
  | .alternative _ _ _ answer => answer == marpaErrNone
  | .lexemeValue _ valueAndLength => valueAndLength.isSome
  | .earlemeComplete answer => answer != -2
  | .reader more endOfInput => more || endOfInput || remainingDataIsOkb
  | _ => true

/-- Whether an event has a symbol for its value. -/
def EventClass.ofSymbol : EventClass → Bool
  | .symbol _ => true
  | _ => false

/-- What libmarpa documents of an exchange: it reports registered symbols, each of them once, and
registered rules. A build that traces moreover relies on its memory, since what is refused to the
trace ends nothing. -/
def Event.Documented (tracing : Bool) (wrapper : Wrapper) (symbols : Nat) : Event V → Prop
  | .malloc _ address => tracing = true → address.isSome = true
  | .event _ eventType value => (eventClass eventType).ofSymbol = true →
    Registers wrapper.marpaWrapperSymbolpp value
  | .terminalsExpected (some symbolIds) => symbolIds.Nodup ∧ ∀ symbolId ∈ symbolIds,
    symbolId < symbols ∧ Registers wrapper.marpaWrapperSymbolpp symbolId
  | .progressReportStart _ answer => answer ≤ intMax
  | .progressItem ruleId _ _ => ruleId = -2 ∨ ruleId = -1 ∨
    Registers wrapper.marpaWrapperRulepp ruleId
  | _ => True

/-- Another wrapper has the same symbols, rules and options. -/
structure Agrees (origin wrapper : Wrapper) : Prop where
  symbols : SameSymbols origin wrapper
  live : Unreleased origin.marpaWrapperSymbolpp → Unreleased wrapper.marpaWrapperSymbolpp
  rules : wrapper.marpaWrapperRulepp = origin.marpaWrapperRulepp
  options : wrapper.marpaWrapperOption = origin.marpaWrapperOption

section Agrees

variable {origin between wrapper wrapper' : Wrapper}

theorem Agrees.refl (wrapper : Wrapper) : Agrees wrapper wrapper :=
  ⟨.refl wrapper, fun live => live, rfl, rfl⟩

theorem Agrees.trans (first : Agrees origin between) (second : Agrees between wrapper) :
    Agrees origin wrapper :=
  ⟨first.symbols.trans second.symbols, fun live => second.live (first.live live),
    second.rules.trans first.rules, second.options.trans first.options⟩

theorem OnlyProgress.agrees (frame : OnlyProgress wrapper wrapper') : Agrees wrapper wrapper' := by
  obtain ⟨_, _, _, rfl⟩ := frame
  exact ⟨.refl _, fun live => live, rfl, rfl⟩

theorem OnlyExpected.agrees (frame : OnlyExpected wrapper wrapper') : Agrees wrapper wrapper' := by
  obtain ⟨_, _, rfl⟩ := frame
  exact ⟨.refl _, fun live => live, rfl, rfl⟩

theorem OnlyRecognizer.agrees (frame : OnlyRecognizer wrapper wrapper') :
    Agrees wrapper wrapper' := by
  obtain ⟨_, _, _, rfl⟩ := frame
  exact ⟨.refl _, fun live => live, rfl, rfl⟩

/-- What is registered stays registered. -/
theorem SameSymbols.found (same : SameSymbols origin wrapper) {id : Int}
    (registers : Registers origin.marpaWrapperSymbolpp id) :
    0 ≤ id ∧ ∃ symbol, lookup wrapper.marpaWrapperSymbolpp id.toNat = some symbol := by
  obtain ⟨nonNegative, block, symbol, there, -, cell⟩ := registers
  have found : lookup origin.marpaWrapperSymbolpp id.toNat = some symbol :=
    lookup_eq_some.mpr ⟨block, there, cell⟩
  have still := same id.toNat
  rw [found] at still
  obtain ⟨symbol', found', -⟩ := Option.map_eq_some_iff.mp still
  exact ⟨nonNegative, symbol', found'⟩

theorem Agrees.registers (agrees : Agrees origin wrapper) {id : Int}
    (registers : Registers origin.marpaWrapperSymbolpp id) :
    Registers wrapper.marpaWrapperSymbolpp id := by
  obtain ⟨nonNegative, symbol, found⟩ := agrees.symbols.found registers
  refine registers_of_lookup (agrees.live ?_) nonNegative found
  obtain ⟨-, block, -, there, live, -⟩ := registers
  intro other same
  rwa [Option.some.inj (there.symm.trans same)] at live

end Agrees

/-! ### Events -/

section Events

variable {libc : Libc V} {marpa : Libmarpa V} {origin wrapper : Wrapper} {start world : World V}
  {tracing remaining : Bool} {symbols : Nat}

/-- What a turn does with an event. -/
theorem collectEvent_prolongs (eventType value : Int) (collected : List MarpaWrapperEvent) :
    Keeps (Prolonged start)
      (if eventType < 0 then pure (.done ())
      else match eventClass eventType with
        | .silent => pure (.next collected)
        | .warning => pure (if wrapper.marpaWrapperOption.warningIsErrorb then .done ()
          else .next collected)
        | .fatal => pure (.done ())
        | .info => pure (.done ())
        | .symbol eventType => do
          let marpaWrapperSymbolp ← readPointer wrapper.marpaWrapperSymbolpp value
          pure (.next (collected ++ [{ eventType, marpaWrapperSymbolp }])) :
        Exec V (Turn (List MarpaWrapperEvent) Unit)) := by
  refine .ite (.pure _) ?_
  cases eventClass eventType with
  | symbol kind =>
    exact .bind (Prolonged.of_any fun _ => readPointer_continued _ _) fun _ => .pure _
  | _ => exact .pure _

theorem marpaGEventCount_makesOne (marpa : Libmarpa V) :
    MakesOne (marpaGEventCount marpa) .eventCount :=
  fun _ => ⟨_, _, rfl, rfl⟩

theorem marpaGEvent_makesOne (marpa : Libmarpa V) (index : Nat) :
    MakesOne (marpaGEvent marpa index) fun answer => .event index answer.1 answer.2 :=
  fun _ => ⟨_, _, rfl, rfl⟩

theorem reportingCall_makesOne (answered : List (Event V) → Int × List (Nat × Int))
    (event : Int → Event V) : MakesOne (reportingCall answered event) event :=
  fun _ => ⟨_, _, rfl, rfl⟩

/-- A turn goes on when its event passes. -/
theorem eventTurn_verdict (agrees : Agrees origin wrapper) (index : Nat)
    (collected : List MarpaWrapperEvent) :
    Assuming (AllSince start (·.Documented tracing origin symbols))
      (Verdict (·.passes origin remaining) start true)
      (eventTurn marpa wrapper index collected)
      (AfterTurn (fun _ => Verdict (·.passes origin remaining) start true)
        fun _ => Verdict (·.passes origin remaining) start false) := by
  refine (marpaGEvent_makesOne marpa index).decides.bind fun answer => ?_
  obtain ⟨eventType, value⟩ := answer
  refine ⟨AllSince.lost fun _ => collectEvent_prolongs _ _ _, ?_⟩
  rintro world ⟨-, documented, decided⟩
  have verdict : Verdict (·.passes origin remaining) start (origin.passesEvent eventType) world :=
    decided
  unfold Wrapper.passesEvent at verdict
  simp only
  by_cases failed : eventType < 0
  · rw [if_pos failed]
    rw [decide_eq_false (Int.not_le.mpr failed), Bool.false_and] at verdict
    exact fun _ => verdict
  · rw [if_neg failed]
    rw [decide_eq_true (Int.not_lt.mp failed), Bool.true_and] at verdict
    cases kind : eventClass eventType with
    | silent => rw [kind] at verdict; exact fun _ => verdict
    | warning =>
      rw [kind, ← agrees.options] at verdict
      simp only
      cases counts : wrapper.marpaWrapperOption.warningIsErrorb with
      | false => rw [counts] at verdict; exact fun _ => verdict
      | true => rw [counts] at verdict; exact fun _ => verdict
    | fatal => rw [kind] at verdict; exact fun _ => verdict
    | info => rw [kind] at verdict; exact fun _ => verdict
    | symbol eventType =>
      rw [kind] at verdict
      simp only
      have registers := documented (congrArg EventClass.ofSymbol kind)
      rw [run_bind_ok (readPointer_registered (agrees.registers registers) world)]
      exact fun _ => verdict

/-- `_marpaWrapper_event` returns the verdict on the events. -/
theorem marpaWrapperEvent_verdict (agrees : Agrees origin wrapper) :
    Assuming (AllSince start (·.Documented tracing origin symbols))
      (Verdict (·.passes origin remaining) start true) (marpaWrapperEvent libc marpa wrapper)
      fun result => Verdict (·.passes origin remaining) start result := by
  refine (marpaGEventCount_makesOne marpa).decides.bind fun count => ?_
  refine .ite (fun _ => .pure fun _ _ holds => holds.2) fun _ => ?_
  refine ((acquire_makesOne _ _).decides.consequence (fun _ holds => holds.2)
    fun _ _ holds => holds).bind fun granted => ?_
  cases granted with
  | none => exact .pure fun _ _ holds => holds.2
  | some address =>
    refine ((Assuming.forEach_range (fun _ _ => Verdict (·.passes origin remaining) start true)
      (fun index _ collected => eventTurn_verdict agrees index collected) []).consequence
        (fun _ holds => holds.2) fun _ _ holds => holds).bind fun outcome => ?_
    cases outcome with
    | done _ => exact (emit_decides rfl).bind fun _ => .pure fun _ _ holds => holds
    | next collected =>
      refine Assuming.bind (.ite (fun _ => emit_decides rfl) fun _ => .pure fun _ _ holds => holds)
        fun _ => (emit_decides rfl).bind fun _ => .pure fun _ _ holds => holds

end Events

/-! ### The recognizer -/

/-- The arrays of the expected terminals have a slot for each symbol, or none is there. -/
def Roomy (symbols : Nat) (wrapper : Wrapper) : Prop :=
  (wrapper.expectedMarpaSymbolIdArrayp = none ∧
    wrapper.expectedMarpaWrapperSymbolArraypp = none) ∨
  ∃ ids pointers, wrapper.expectedMarpaSymbolIdArrayp = some ids ∧
    wrapper.expectedMarpaWrapperSymbolArraypp = some pointers ∧
    symbols ≤ ids.cells.length ∧ symbols ≤ pointers.cells.length

/-- A wrapper is fit for the loop that reads the input. -/
structure Fit (tracing : Bool) (origin : Wrapper) (symbols : Nat) (wrapper : Wrapper) : Prop where
  agrees : Agrees origin wrapper
  recognizer : wrapper.marpaRecognizerp.isSome = true
  roomy : Roomy symbols wrapper
  report : tracing = true → wrapper.ReportReleasable

section Recognizer

variable {libc : Libc V} {marpa : Libmarpa V} {origin wrapper wrapper' : Wrapper}
  {start world world' : World V} {tracing remaining : Bool} {symbols : Nat}

theorem freeIfNotNull_decides {kind : Event V → Prop} {passes : Event V → Bool} {result : Bool}
    (quiet : ∀ address, passes (.free address) = true) (address : Option Nat) :
    Assuming (AllSince start kind) (Verdict passes start result) (freeIfNotNull address)
      fun _ => Verdict passes start result := by
  cases address with
  | none => exact .pure fun _ _ holds => holds
  | some address => exact emit_decides (quiet address)

/-- A start succeeds when there is a recognizer and its input was started. -/
theorem startRecognizer_verdict (wrapper : Wrapper) :
    Assuming (AllSince start (·.Documented tracing origin symbols))
      (Verdict (·.passes origin remaining) start true) (startRecognizer marpa wrapper)
      fun result => Verdict (·.passes origin remaining) start result.1 := by
  have released : Assuming (AllSince start (·.Documented tracing origin symbols))
      (Verdict (·.passes origin remaining) start true) (releaseRecognizer wrapper)
      fun _ => Verdict (·.passes origin remaining) start true := by
    unfold releaseRecognizer
    cases wrapper.marpaRecognizerp with
    | none => exact .pure fun _ _ holds => holds
    | some handle =>
      exact (emit_decides rfl).bind fun _ => (freeIfNotNull_decides (fun _ => rfl) _).bind
        fun _ => (freeIfNotNull_decides (fun _ => rfl) _).bind fun _ => .pure fun _ _ holds => holds
  refine released.bind fun wrapper => (acquire_makesOne _ _).decides.bind fun handle => ?_
  cases handle with
  | none => exact .pure fun _ _ holds => holds.2
  | some handle =>
    refine ((reportingCall_makesOne _ _).decides.consequence (fun _ holds => holds.2)
      fun _ _ holds => holds).bind fun started => .pure fun _ _ holds => ?_
    have verdict : Verdict (·.passes origin remaining) start (decide (0 ≤ started)) _ := holds.2
    rwa [show (!decide (started < 0)) = decide (0 ≤ started) by
      rw [← decide_not]; exact decide_eq_decide.mpr Int.not_lt]

/-- `marpaWrapper_r_startb` returns the verdict on the start and its events. -/
theorem marpaWrapperRStartb_verdict (wrapper : Wrapper) :
    Assuming (AllSince start (·.Documented tracing wrapper symbols))
      (Verdict (·.passes wrapper remaining) start true) (marpaWrapperRStartb libc marpa wrapper)
      fun result => Verdict (·.passes wrapper remaining) start result.1 := by
  refine ((startRecognizer_verdict wrapper).remembering
    (fun result _ => OnlyRecognizer wrapper result.2)
    fun _ _ _ _ _ => startRecognizer_frame).bind fun result => ?_
  obtain ⟨started, between⟩ := result
  cases started with
  | false => exact .pure fun _ _ holds => holds.1
  | true =>
    refine Assuming.bind ?_ fun _ => .pure fun _ _ holds => holds
    exact (Assuming.knowing (AllSince.lost fun _ => marpaWrapperEvent_prolongs)
      fun frame => marpaWrapperEvent_verdict (OnlyRecognizer.agrees frame)).consequence
        (fun _ holds => holds.symm) fun _ _ holds => holds

theorem startRecognizer_recognizer
    (run : startRecognizer marpa wrapper world = .ok (true, wrapper') world') :
    wrapper'.marpaRecognizerp.isSome = true := by
  obtain ⟨released, _, _, run⟩ := run_bind_eq_ok run
  obtain ⟨handle, _, _, run⟩ := run_bind_eq_ok run
  cases handle with
  | none => cases run
  | some handle =>
    obtain ⟨started, _, _, run⟩ := run_bind_eq_ok run
    injection run with result _
    injection result with _ same
    rw [← same]
    rfl

/-- After a start that succeeds the wrapper is fit. -/
theorem marpaWrapperRStartb_fit (restartable : Restartable wrapper world)
    (report : tracing = true → wrapper.ReportReleasable)
    (run : marpaWrapperRStartb libc marpa wrapper world = .ok (true, wrapper') world') :
    Fit tracing wrapper symbols wrapper' := by
  obtain ⟨⟨started, between⟩, state, begun, rest⟩ := run_bind_eq_ok run
  cases started with
  | false => cases rest
  | true =>
    obtain ⟨reported, _, _, rest⟩ := run_bind_eq_ok rest
    cases rest
    have frame := startRecognizer_frame begun
    obtain ⟨handle, restarted, -⟩ := startRecognizer_return begun
    refine ⟨frame.agrees, startRecognizer_recognizer begun, .inl ?_, fun traces => ?_⟩
    · cases restarted with
      | first missing => exact restartable.alone missing
      | again _ => exact ⟨rfl, rfl⟩
    · obtain ⟨_, _, _, rfl⟩ := frame
      exact report traces

/-- `marpaWrapper_r_completeb` returns the verdict on the Earley set and its events. -/
theorem marpaWrapperRCompleteb_verdict (agrees : Agrees origin wrapper)
    (recognizer : wrapper.marpaRecognizerp.isSome = true) :
    Assuming (AllSince start (·.Documented tracing origin symbols))
      (Verdict (·.passes origin remaining) start true) (marpaWrapperRCompleteb libc marpa wrapper)
      fun result => Verdict (·.passes origin remaining) start result := by
  have completed : Assuming (AllSince start (·.Documented tracing origin symbols))
      (Verdict (·.passes origin remaining) start true) (completeEarleme marpa wrapper)
      fun result => Verdict (·.passes origin remaining) start result := by
    refine .ite (fun missing => ?_) fun _ => (reportingCall_makesOne _ _).decides.bind
      fun _ => .pure fun _ _ holds => holds.2
    rw [Option.isNone_iff_eq_none] at missing
    rw [missing] at recognizer
    cases recognizer
  refine completed.bind fun goesOn => ?_
  cases goesOn with
  | false => exact .pure fun _ _ holds => holds
  | true => exact marpaWrapperEvent_verdict agrees

end Recognizer

end MarpaWrapper
