/-
This file carries the verdicts over whole recognitions. Whatever earlier calls left behind,
a recognition in which the world keeps to what it documents ends as soon as its reader
does, and its result is the verdict on the exchanges that it made.

So accepted input is reported as recognised when none of these exchanges ends the
recognition. When no call fails only one is left that does, the event with which libmarpa
says that the parse is exhausted.
-/

import MarpaWrapper.TracedProgress

namespace MarpaWrapper

open Effects Sorting

variable {V : Type}

/-! ### One position -/

section Iteration

variable {libc : Libc V} {fuel : Nat} {build : Build} {marpa : Libmarpa V}
  {callbacks : RecognizerCallbacks V} {origin wrapper wrapper' : Wrapper} {start world : World V}
  {remaining : Bool} {symbols : Nat}

/-- The symbols of the grammar stay. -/
theorem Assuming.sameSymbols {α : Type} {fine before : World V → Prop} {program : Exec V α}
    {after : α → World V → Prop} {kind : Event V → Prop}
    (continued : ∀ start, Keeps (Continued kind start) program)
    (assuming : Assuming fine before program after) :
    Assuming fine (fun world => world.grammar.symbols.length = symbols ∧ before world) program
      fun value world => world.grammar.symbols.length = symbols ∧ after value world := by
  refine ((assuming.consequence (fun _ holds => holds.2) fun _ _ holds => holds).remembering
    (fun _ world => world.grammar.symbols.length = symbols)
    fun world value state holds _ run => ?_).consequence (fun _ holds => holds)
      fun _ _ holds => holds.symm
  rw [(Continued.of_run continued run).symbols]
  exact holds.1

/-- The expected terminals of a wrapper that is fit. -/
theorem expectedTerminals_verdict (fit : Fit build.tracing origin symbols wrapper)
    (few : symbols < 2 ^ 31) :
    Assuming (AllSince start (·.Documented build.tracing origin symbols))
      (fun world => world.grammar.symbols.length = symbols ∧
        Verdict (·.passes origin remaining) start true world)
      (marpaWrapperRTerminalsExpectedb libc marpa wrapper)
      fun result world => (∀ count, result.1 = some count →
        Fit build.tracing origin symbols result.2 ∧
          ∃ ids, count = ids.length ∧ ExpectsLexemes ids result.2) ∧
        world.grammar.symbols.length = symbols ∧
          Verdict (·.passes origin remaining) start result.1.isSome world := by
  refine ((marpaWrapperRTerminalsExpectedb_verdict fit few).remembering
    (fun result world => (∀ count, result.1 = some count →
        Fit build.tracing origin symbols result.2 ∧
          ∃ ids, count = ids.length ∧ ExpectsLexemes ids result.2) ∧
        world.grammar.symbols.length = symbols)
    fun world result state holds kept run => ⟨fun count counted => ?_, ?_⟩).consequence
      (fun _ holds => holds) fun _ _ holds => ⟨holds.2.1, holds.2.2, holds.1⟩
  · obtain ⟨expected, following⟩ := result
    cases counted
    exact marpaWrapperRTerminalsExpectedb_expects fit few holds.1 holds.2 kept run
  · rw [(Continued.of_run (fun _ => marpaWrapperRTerminalsExpectedb_continued) run).symbols]
    exact holds.1

/-- The lexemes of a position, as a step of the loop. -/
theorem lexemes_verdict (conforms : Conforms libc.qsort)
    (fit : Fit build.tracing origin symbols wrapper) {ids : List Int}
    (expects : ExpectsLexemes ids wrapper) :
    Assuming (AllSince start (·.Documented build.tracing origin symbols))
      (fun world => world.grammar.symbols.length = symbols ∧
        Verdict (·.passes origin remaining) start true world)
      (readLexemes libc marpa callbacks wrapper ids.length)
      fun result world => world.grammar.symbols.length = symbols ∧
        Fit build.tracing origin symbols result.2 ∧
          Verdict (·.passes origin remaining) start result.1 world := by
  refine Assuming.sameSymbols (fun _ => readLexemes_continued callbacks ids.length)
    ⟨AllSince.lost fun _ => Prolonged.of_continued fun _ =>
      readLexemes_continued callbacks ids.length, ?_⟩
  rintro world ⟨-, verdict⟩
  obtain ⟨pushed, wrapper', world', run, fit', verdict'⟩ :=
    readLexemes_verdict marpa callbacks conforms fit expects verdict
  rw [run]
  exact fun _ => ⟨fit', verdict'⟩

/-- The part of an iteration after the expected terminals. -/
def readPosition (libc : Libc V) (marpa : Libmarpa V) (callbacks : RecognizerCallbacks V)
    (expected : Option Nat) (wrapper : Wrapper) : Exec V (Bool × Wrapper) :=
  match expected with
  | none => pure (false, wrapper)
  | some nMarpaWrapperSymboli => do
    let (pushed, wrapper) ← readLexemes libc marpa callbacks wrapper nMarpaWrapperSymboli
    if pushed then
      let completed ← marpaWrapperRCompleteb libc marpa wrapper
      pure (completed, wrapper)
    else pure (false, wrapper)

theorem readPosition_prolongs (expected : Option Nat) :
    Keeps (Prolonged start) (readPosition libc marpa callbacks expected wrapper) := by
  cases expected with
  | none => exact .pure _
  | some count =>
    exact .bind (Prolonged.of_continued fun _ => readLexemes_continued callbacks count) fun _ =>
      .ite (.bind marpaWrapperRCompleteb_prolongs fun _ => .pure _) (.pure _)

/-- What an iteration leaves: it goes on when its exchanges pass, with a wrapper that is fit. -/
def Advanced (tracing : Bool) (origin : Wrapper) (symbols : Nat) (remaining : Bool)
    (start : World V) (result : Bool × Wrapper) (world : World V) : Prop :=
  (result.1 = true → Fit tracing origin symbols result.2) ∧
    world.grammar.symbols.length = symbols ∧
      Verdict (·.passes origin remaining) start result.1 world

/-- The lexemes of a position, and the Earley set that they complete. -/
theorem readPosition_verdict (conforms : Conforms libc.qsort)
    (fit : Fit build.tracing origin symbols wrapper) {ids : List Int}
    (expects : ExpectsLexemes ids wrapper) :
    Assuming (AllSince start (·.Documented build.tracing origin symbols))
      (fun world => world.grammar.symbols.length = symbols ∧
        Verdict (·.passes origin remaining) start true world)
      (readPosition libc marpa callbacks (some ids.length) wrapper)
      (Advanced build.tracing origin symbols remaining start) := by
  have completes {following : Wrapper} (fit : Fit build.tracing origin symbols following) :
      Assuming (AllSince start (·.Documented build.tracing origin symbols))
        (fun world => world.grammar.symbols.length = symbols ∧
          Verdict (·.passes origin remaining) start true world)
        (do
          let completed ← marpaWrapperRCompleteb libc marpa following
          pure (completed, following) : Exec V (Bool × Wrapper))
        (Advanced build.tracing origin symbols remaining start) :=
    (Assuming.sameSymbols (fun _ => marpaWrapperRCompleteb_continued)
      (marpaWrapperRCompleteb_verdict fit.agrees fit.recognizer)).bind fun _ =>
        .pure fun _ _ holds => ⟨fun _ => fit, holds⟩
  refine (lexemes_verdict conforms fit expects).bind fun result => ?_
  obtain ⟨pushed, following⟩ := result
  cases pushed with
  | false => exact .pure fun _ _ holds => ⟨(fun same => nomatch same), holds.1, holds.2.2⟩
  | true =>
    refine (Assuming.knowing (AllSince.lost fun _ => ?_) completes).consequence
      (fun _ holds => ⟨holds.2.1, holds.1, holds.2.2⟩) fun _ _ holds => holds
    exact .bind marpaWrapperRCompleteb_prolongs fun _ => .pure _

theorem recognizeIteration_prolongs :
    Keeps (Prolonged start) (recognizeIteration libc fuel build marpa callbacks wrapper) :=
  .bind (Prolonged.of_continued fun _ => showProgress_continued) fun _ =>
    .bind (Prolonged.of_continued fun _ => marpaWrapperRTerminalsExpectedb_continued)
      fun result => readPosition_prolongs result.1

/-- An iteration goes on when its exchanges pass. -/
theorem recognizeIteration_verdict (enough : 2 ^ 32 ≤ fuel) (limited : libc.Refuses (2 ^ 63))
    (conforms : Conforms libc.qsort) (few : symbols < 2 ^ 31)
    (fit : Fit build.tracing origin symbols wrapper) :
    Assuming (AllSince start (·.Documented build.tracing origin symbols))
      (fun world => world.grammar.symbols.length = symbols ∧
        Verdict (·.passes origin remaining) start true world)
      (recognizeIteration libc fuel build marpa callbacks wrapper)
      (Advanced build.tracing origin symbols remaining start) := by
  have continues {following : Wrapper} (fit : Fit build.tracing origin symbols following) :
      Assuming (AllSince start (·.Documented build.tracing origin symbols))
        (fun world => world.grammar.symbols.length = symbols ∧
          Verdict (·.passes origin remaining) start true world)
        (do
          let result ← marpaWrapperRTerminalsExpectedb libc marpa following
          readPosition libc marpa callbacks result.1 result.2)
        (Advanced build.tracing origin symbols remaining start) := by
    refine (expectedTerminals_verdict fit few).bind fun result => ?_
    obtain ⟨expected, between⟩ := result
    cases expected with
    | none => exact .pure fun _ _ holds => ⟨(fun same => nomatch same), holds.2⟩
    | some count =>
      refine (Assuming.knowing (AllSince.lost fun _ => readPosition_prolongs (some count))
        fun known => ?_).consequence (fun _ holds => ⟨holds.1 count rfl, holds.2⟩)
          fun _ _ holds => holds
      obtain ⟨fit', ids, rfl, expects⟩ := known
      exact readPosition_verdict conforms fit' expects
  refine (Assuming.sameSymbols (fun _ => showProgress_continued)
    (showProgress_verdict fit enough limited conforms)).bind fun following => ?_
  refine (Assuming.knowing (AllSince.lost fun _ => ?_) continues).consequence
    (fun _ holds => ⟨holds.2.1, holds.1, holds.2.2⟩) fun _ _ holds => holds
  exact .bind (Prolonged.of_continued fun _ => marpaWrapperRTerminalsExpectedb_continued)
    fun result => readPosition_prolongs result.1

end Iteration

/-! ### The loop -/

/-- The reader answers at most so many times that there is more. -/
def RecognizerCallbacks.StopsWithin (callbacks : RecognizerCallbacks V) (before : List (Event V))
    (turns : Nat) : Prop :=
  ∀ exchanges, turns ≤ exchanges.countP Event.isReader →
    (callbacks.reader (before ++ exchanges)).1 = false

/-- Of so many turns since `start`, at most `left` are left. -/
def TurnsLeft (start : World V) (turns left : Nat) (world : World V) : Prop :=
  ∃ exchanges, world.events = start.events ++ exchanges ∧
    turns ≤ left + exchanges.countP Event.isReader

section Loop

variable {libc : Libc V} {fuel : Nat} {build : Build} {marpa : Libmarpa V}
  {callbacks : RecognizerCallbacks V} {origin wrapper wrapper' : Wrapper}
  {start world world' : World V} {symbols turns left : Nat}

theorem TurnsLeft.prolonged (counted : TurnsLeft start turns left world)
    (prolonged : Prolonged world world') : TurnsLeft start turns left world' := by
  obtain ⟨exchanges, record, enough⟩ := counted
  obtain ⟨more, added⟩ := prolonged
  refine ⟨exchanges ++ more, by rw [← added, record, List.append_assoc], ?_⟩
  rw [List.countP_append]
  omega

/-- A reader that has more leaves fewer turns. -/
theorem TurnsLeft.reads (counted : TurnsLeft start turns left world)
    (stops : callbacks.StopsWithin start.events turns)
    (more : (callbacks.reader world.events).1 = true) {answer : Bool × Bool}
    (added : world'.events = world.events ++ [.reader answer.1 answer.2]) :
    ∃ less < left, TurnsLeft start turns less world' := by
  obtain ⟨exchanges, record, enough⟩ := counted
  rw [record] at more added
  have early : exchanges.countP Event.isReader < turns := by
    by_contra late
    rw [stops exchanges (Nat.le_of_not_lt late)] at more
    cases more
  refine ⟨left - 1, by omega, exchanges ++ [.reader answer.1 answer.2],
    added.trans (List.append_assoc _ _ _), ?_⟩
  rw [List.countP_append, show [Event.reader answer.1 answer.2].countP Event.isReader = 1 from rfl]
  omega

/-- The loop may go on. -/
def Ready (tracing : Bool) (origin : Wrapper) (symbols : Nat) (remaining : Bool)
    (start : World V) (turns left : Nat) (wrapper : Wrapper) (world : World V) : Prop :=
  TurnsLeft start turns left world ∧
    Advanced tracing origin symbols remaining start (true, wrapper) world

/-- A turn of the loop. -/
theorem recognizeTurn_verdict (enough : 2 ^ 32 ≤ fuel) (limited : libc.Refuses (2 ^ 63))
    (conforms : Conforms libc.qsort) (few : symbols < 2 ^ 31)
    (stops : callbacks.StopsWithin start.events turns) (left : Nat) (wrapper : Wrapper) :
    Assuming (AllSince start (·.Documented build.tracing origin symbols))
      (Ready build.tracing origin symbols callbacks.remainingDataIsOkb start turns left wrapper)
      (recognizeTurn libc fuel build marpa callbacks wrapper)
      (AfterTurn (fun following world => ∃ less < left, Ready build.tracing origin symbols
        callbacks.remainingDataIsOkb start turns less following world)
        fun result => Verdict (·.passes origin callbacks.remainingDataIsOkb) start result.1) := by
  have asked : Assuming (AllSince start (·.Documented build.tracing origin symbols))
      (Ready build.tracing origin symbols callbacks.remainingDataIsOkb start turns left wrapper)
      (ask callbacks.reader fun answer => .reader answer.1 answer.2) fun answer world =>
        (answer.1 = true → ∃ less < left, TurnsLeft start turns less world) ∧
          Fit build.tracing origin symbols wrapper ∧ world.grammar.symbols.length = symbols ∧
            Verdict (·.passes origin callbacks.remainingDataIsOkb) start
              (answer.1 || answer.2 || callbacks.remainingDataIsOkb) world := by
    refine ⟨AllSince.lost fun _ => ask_prolongs, ?_⟩
    rintro world ⟨-, counted, fit, same, verdict⟩
    have decided {answer : Bool × Bool} {world' : World V}
        (added : world'.events = world.events ++ [.reader answer.1 answer.2]) :
        Verdict (·.passes origin callbacks.remainingDataIsOkb) start
          (answer.1 || answer.2 || callbacks.remainingDataIsOkb) world' := by
      have passes := verdict.event added
      exact passes
    rw [run_ask]
    exact fun _ => ⟨fun more => counted.reads stops more rfl, fit rfl, same, decided rfl⟩
  have iterates (fit : Fit build.tracing origin symbols wrapper) :
      Assuming (AllSince start (·.Documented build.tracing origin symbols))
        (fun world => (∃ less < left, TurnsLeft start turns less world) ∧
          world.grammar.symbols.length = symbols ∧
            Verdict (·.passes origin callbacks.remainingDataIsOkb) start true world)
        (recognizeIteration libc fuel build marpa callbacks wrapper) fun result world =>
          Advanced build.tracing origin symbols callbacks.remainingDataIsOkb start result world ∧
            ∃ less < left, TurnsLeft start turns less world := by
    refine ((recognizeIteration_verdict enough limited conforms few fit).consequence
      (fun _ holds => holds.2) fun _ _ holds => holds).remembering _
        fun world result state holds _ run => ?_
    obtain ⟨less, fewer, counted⟩ := holds.1
    exact ⟨less, fewer, counted.prolonged
      (Triple.ok recognizeIteration_prolongs List.prefix_rfl run)⟩
  refine asked.bind fun answer => ?_
  obtain ⟨more, endOfInputb⟩ := answer
  cases more with
  | false => exact .pure fun _ _ holds => holds.2.2.2
  | true =>
    refine Assuming.bind ((Assuming.knowing (AllSince.lost fun _ => recognizeIteration_prolongs)
      iterates).consequence (fun _ holds => ⟨holds.2.1, holds.1 rfl, holds.2.2⟩)
        fun _ _ holds => holds) fun result => ?_
    obtain ⟨goesOn, following⟩ := result
    cases goesOn with
    | false => exact .pure fun _ _ holds => holds.1.2.2
    | true =>
      refine .pure fun _ _ holds => ?_
      obtain ⟨advanced, less, fewer, counted⟩ := holds
      exact ⟨less, fewer, counted, advanced⟩

/-- A recognition that keeps to what is documented ends, and its result is the verdict on its
exchanges. -/
theorem marpaWrapperRRecognizeb_verdict (enough : 2 ^ 32 ≤ fuel) (limited : libc.Refuses (2 ^ 63))
    (conforms : Conforms libc.qsort) {option : MarpaWrapperRecognizerOption V}
    (given : option.callbacks build.tracing = some callbacks)
    (stops : callbacks.StopsWithin world.events turns) (ends : turns < fuel)
    (restartable : Restartable wrapper world)
    (report : build.tracing = true → wrapper.ReportReleasable) :
    Assuming (AllSince world (·.Documented build.tracing wrapper world.grammar.symbols.length))
      (fun start => start = world)
      (marpaWrapperRRecognizeb libc fuel build marpa wrapper (some option))
      fun result => Verdict (·.passes wrapper callbacks.remainingDataIsOkb) world result.1 := by
  unfold marpaWrapperRRecognizeb
  rw [Option.bind_some, given]
  have started : Assuming
      (AllSince world (·.Documented build.tracing wrapper world.grammar.symbols.length))
      (fun start => start = world) (marpaWrapperRStartb libc marpa wrapper)
      fun result final => Verdict (·.passes wrapper callbacks.remainingDataIsOkb) world result.1
        final ∧ (result.1 = true →
          Fit build.tracing wrapper world.grammar.symbols.length result.2) ∧
        final.grammar.symbols.length = world.grammar.symbols.length ∧
          TurnsLeft world turns turns final := by
    refine ((marpaWrapperRStartb_verdict wrapper).consequence
      (fun _ same => same ▸ Verdict.refl _ _) fun _ _ holds => holds).remembering _ ?_
    rintro _ ⟨started, following⟩ final rfl _ run
    have continued : Continued (·.ofStart = true) _ final :=
      .of_run (fun _ => marpaWrapperRStartb_continued) run
    refine ⟨?_, congrArg List.length continued.symbols, ?_⟩
    · rintro rfl
      exact marpaWrapperRStartb_fit restartable report run
    · exact TurnsLeft.prolonged ⟨[], (List.append_nil _).symm, Nat.le_add_right _ _⟩
        continued.prolonged
  refine started.bind fun result => ?_
  obtain ⟨succeeds, following⟩ := result
  cases succeeds with
  | false => exact .pure fun _ _ holds => holds.1
  | true =>
    refine (Assuming.loop_ends (Ready build.tracing wrapper world.grammar.symbols.length
      callbacks.remainingDataIsOkb world turns) (recognizeTurn_verdict enough limited conforms
        restartable.few stops) turns ends following).consequence
          (fun _ holds => ?_) fun _ _ holds => holds
    exact ⟨holds.2.2.2, holds.2.1, holds.2.2.1, holds.1⟩

end Loop

/-! ### After any session -/

section Sessions

variable {libc : Libc V} {fuel turns : Nat} {build : Build} {marpa : Libmarpa V}
  {callbacks : RecognizerCallbacks V} {wrapper : Wrapper} {world : World V}
  {option : Option MarpaWrapperOption} {calls : List (ApiCall V)} {answers : List ApiAnswer}
  {initial : World V} {given : MarpaWrapperRecognizerOption V}

/-- What a session leaves behind is fit for a recognition. -/
theorem session_restarts (limited : libc.Refuses (2 ^ 63)) (conforms : Conforms libc.qsort)
    (reached : session libc fuel build marpa option calls initial =
      .ok (some (answers, wrapper)) world) :
    Restartable wrapper world ∧ wrapper.ReportReleasable := by
  constructor
  · refine restartable_kept.session (fun run => ?_) reached
    have created := marpaWrapperNewp_creates run
    obtain ⟨handle, options, rfl⟩ := created.fresh
    refine ⟨fun _ => ⟨rfl, rfl⟩, ⟨.empty, .empty⟩, ?_⟩
    rw [created.symbols]
    exact Nat.two_pow_pos 31
  · refine (reportReleasable_kept limited conforms).session (fun run => ?_) reached
    obtain ⟨handle, options, rfl⟩ := (marpaWrapperNewp_creates run).fresh
    exact .empty

/-- What an exchange is like in a recognition of accepted input: memory is granted, libmarpa
succeeds and accepts, no event is fatal or a warning that counts as an error, a value is given, and
the input is read to its end. -/
def Event.Succeeds (wrapper : Wrapper) (remainingDataIsOkb : Bool) : Event V → Prop
  | .malloc _ address => address.isSome = true
  | .realloc _ address => address.isSome = true
  | .recognizerNew handle => handle.isSome = true
  | .startInput answer => 0 ≤ answer
  | .eventCount answer => 0 ≤ answer
  | .event _ eventType _ => 0 ≤ eventType ∧ eventClass eventType ≠ .fatal ∧
    (eventClass eventType = .warning → wrapper.marpaWrapperOption.warningIsErrorb = false)
  | .highestSymbolId answer => 0 ≤ answer
  | .terminalsExpected symbolIds => symbolIds.isSome = true
  | .alternative _ _ _ answer => answer = marpaErrNone
  | .lexemeValue _ valueAndLength => valueAndLength.isSome = true
  | .earlemeComplete answer => 0 ≤ answer
  | .latestEarleySet answer => 0 ≤ answer
  | .earleme _ answer => 0 ≤ answer
  | .progressReportStart _ answer => 0 ≤ answer
  | .progressItem ruleId _ _ => 0 ≤ ruleId
  | .progressReportFinish answer => 0 ≤ answer
  | .reader more endOfInput =>
    more = true ∨ endOfInput = true ∨ remainingDataIsOkb = true
  | _ => True

/-- libmarpa says that the parse is exhausted. -/
def Event.exhausts : Event V → Bool
  | .event _ eventType _ => eventType == marpaEventExhausted
  | _ => false

/-- Of the events that the wrapper tolerates only one ends an operation. -/
theorem Wrapper.passesEvent_iff {eventType : Int} (nonNegative : 0 ≤ eventType)
    (harmless : eventClass eventType ≠ .fatal)
    (tolerated : eventClass eventType = .warning →
      wrapper.marpaWrapperOption.warningIsErrorb = false) :
    wrapper.passesEvent eventType = true ↔ (eventType == marpaEventExhausted) = false := by
  have informs : eventClass eventType = .info ↔ eventType = marpaEventExhausted := eventClass_info
  unfold Wrapper.passesEvent
  rw [decide_eq_true nonNegative, Bool.true_and, beq_eq_false_iff_ne, Ne, ← informs]
  cases kind : eventClass eventType with
  | silent => exact ⟨(fun _ same => nomatch same), fun _ => rfl⟩
  | warning => exact ⟨(fun _ same => nomatch same), fun _ => by rw [tolerated kind]; rfl⟩
  | fatal => exact absurd kind harmless
  | info => exact ⟨(fun passes => nomatch passes), fun other => absurd rfl other⟩
  | symbol eventType => exact ⟨(fun _ same => nomatch same), fun _ => rfl⟩

/-- When nothing fails, only exhaustion ends a recognition. -/
theorem Event.Succeeds.passes_iff {event : Event V} {remaining : Bool}
    (succeeds : event.Succeeds wrapper remaining) :
    event.passes wrapper remaining = true ↔ event.exhausts = false := by
  cases event
  case event index eventType value =>
    exact Wrapper.passesEvent_iff succeeds.1 succeeds.2.1 succeeds.2.2
  case malloc size address => exact ⟨fun _ => rfl, fun _ => succeeds⟩
  case recognizerNew handle => exact ⟨fun _ => rfl, fun _ => succeeds⟩
  case startInput answer => exact ⟨fun _ => rfl, fun _ => decide_eq_true succeeds⟩
  case highestSymbolId answer =>
    have answered : 0 ≤ answer := succeeds
    exact ⟨fun _ => rfl, fun _ => bne_iff_ne.mpr (by omega)⟩
  case terminalsExpected symbolIds => exact ⟨fun _ => rfl, fun _ => succeeds⟩
  case alternative symbolId value length answer =>
    exact ⟨fun _ => rfl, fun _ => beq_iff_eq.mpr succeeds⟩
  case lexemeValue datavp valueAndLength => exact ⟨fun _ => rfl, fun _ => succeeds⟩
  case earlemeComplete answer =>
    have answered : 0 ≤ answer := succeeds
    exact ⟨fun _ => rfl, fun _ => bne_iff_ne.mpr (by omega)⟩
  case reader more endOfInput =>
    refine ⟨fun _ => rfl, fun _ => ?_⟩
    show (more || endOfInput || remaining) = true
    rw [Bool.or_eq_true, Bool.or_eq_true, or_assoc]
    exact succeeds
  all_goals exact ⟨fun _ => rfl, fun _ => rfl⟩

/-- Accepted input is reported as recognised if and only if libmarpa does not report exhaustion. -/
theorem marpaWrapperRRecognizeb_accepts_iff (enough : 2 ^ 32 ≤ fuel)
    (limited : libc.Refuses (2 ^ 63)) (conforms : Conforms libc.qsort)
    (reached : session libc fuel build marpa option calls initial =
      .ok (some (answers, wrapper)) world)
    (callable : given.callbacks build.tracing = some callbacks)
    (stops : callbacks.StopsWithin world.events turns) (ends : turns < fuel)
    (documented : AllSince world
      (·.Documented build.tracing wrapper world.grammar.symbols.length)
      (finalState (marpaWrapperRRecognizeb libc fuel build marpa wrapper (some given) world)))
    (succeeds : AllSince world (·.Succeeds wrapper callbacks.remainingDataIsOkb)
      (finalState (marpaWrapperRRecognizeb libc fuel build marpa wrapper (some given) world))) :
    ∃ result wrapper' world' exchanges,
      marpaWrapperRRecognizeb libc fuel build marpa wrapper (some given) world =
        .ok (result, wrapper') world' ∧
      world'.events = world.events ++ exchanges ∧
      (result = true ↔ ∀ event ∈ exchanges, event.exhausts = false) := by
  obtain ⟨restartable, report⟩ := session_restarts limited conforms reached
  obtain ⟨⟨result, wrapper'⟩, world', run, exchanges, record, verdict⟩ :=
    (marpaWrapperRRecognizeb_verdict enough limited conforms callable stops ends restartable
      fun _ => report).returns rfl documented
  rw [run] at succeeds
  have each := (AllSince.of_record record).mp succeeds
  refine ⟨result, wrapper', world', exchanges, run, record, ?_⟩
  change result = exchanges.all _ at verdict
  rw [verdict, List.all_eq_true]
  exact forall₂_congr fun event member => (each event member).passes_iff

end Sessions

/-! ### An instance -/

theorem registers_iff_lookup {α : Type} {table : Option (Block α)} {index : Int} :
    Registers table index ↔
      0 ≤ index ∧ Unreleased table ∧ (lookup table index.toNat).isSome = true := by
  constructor
  · rintro ⟨nonNegative, block, object, rfl, live, cell⟩
    refine ⟨nonNegative, fun other same => ?_, Option.isSome_iff_exists.mpr ⟨object,
      lookup_eq_some.mpr ⟨block, rfl, cell⟩⟩⟩
    rwa [← Option.some.inj same]
  · rintro ⟨nonNegative, live, found⟩
    obtain ⟨object, found⟩ := Option.isSome_iff_exists.mp found
    exact registers_of_lookup live nonNegative found

instance {α : Type} (table : Option (Block α)) : Decidable (Unreleased table) :=
  inferInstanceAs (Decidable (∀ block ∈ table, block.released = false))

instance {α : Type} (table : Option (Block α)) (index : Int) : Decidable (Registers table index) :=
  decidable_of_iff _ registers_iff_lookup.symm

instance (tracing : Bool) (wrapper : Wrapper) (symbols : Nat) :
    DecidablePred (Event.Documented (V := V) tracing wrapper symbols) := fun event => by
  unfold Event.Documented
  split <;> infer_instance

instance (wrapper : Wrapper) (remainingDataIsOkb : Bool) :
    DecidablePred (Event.Succeeds (V := V) wrapper remainingDataIsOkb) := fun event => by
  unfold Event.Succeeds
  split <;> infer_instance

instance (start world : World V) (kind : Event V → Prop) [DecidablePred kind] :
    Decidable (AllSince start kind world) :=
  inferInstanceAs (Decidable (∀ event ∈ world.events.drop start.events.length, kind event))

/-- A libmarpa that expects one terminal, and reports some events with its Earley set. -/
def onePosition (queue : List (Nat × Int)) : Libmarpa Nat :=
  { Libmarpa.accepting with
    terminalsExpected := fun _ => some [1]
    earlemeComplete := fun _ => (1, queue) }

/-- An input of one token. -/
def oneToken : MarpaWrapperRecognizerOption Nat where
  readerCallbackp := some fun events => (!events.any (·.isReader), true)
  isLexemebCallbackp := some fun _ _ => some 1
  lexemeValuebCallbackp := some fun _ _ => some (1, 1)

/-- The callbacks of the options. -/
def oneTokenCallbacks : RecognizerCallbacks Nat :=
  ⟨false, false, false, fun events => (!events.any (·.isReader), true), fun _ _ => some 1,
    fun _ _ => some (1, 1)⟩

/-- A grammar whose input is one token. -/
def oneTokenCalls : List (ApiCall Nat) :=
  [.addSymbolp (some { marpaWrapperSymbolOptionDefaultb with startb := true }),
    .addSymbolp (some { marpaWrapperSymbolOptionDefaultb with terminalb := true }),
    .addRulep (some { lhsSymbolp := some 0, nRhsSymboli := 1, rhsSymbolpp := [some 1] }),
    .precomputeb]

/-- The result of the recognition of one token after a session, if everything succeeds and libmarpa
reports what it documents. -/
def oneTokenResult (queue : List (Nat × Int)) : Option Bool :=
  match session (Libc.limited (2 ^ 63)) (2 ^ 32) {} (onePosition queue) none oneTokenCalls {} with
  | .ok (some (_, wrapper)) world =>
    match marpaWrapperRRecognizeb (Libc.limited (2 ^ 63)) (2 ^ 32) {} (onePosition queue) wrapper
        (some oneToken) world with
    | .ok (result, _) world' =>
      if AllSince world (·.Documented false wrapper world.grammar.symbols.length) world' ∧
          AllSince world (·.Succeeds wrapper false) world' then some result
      else none
    | _ => none
  | _ => none

theorem oneTokenCallbacks_stopsWithin (before : List (Event Nat)) :
    oneTokenCallbacks.StopsWithin before 1 := by
  intro exchanges read
  obtain ⟨event, member, isReader⟩ := List.countP_pos_iff.mp read
  show (!(before ++ exchanges).any (·.isReader)) = false
  rw [List.any_eq_true.mpr ⟨event, List.mem_append_right _ member, isReader⟩]
  rfl

/-- What `oneTokenResult` observes. -/
theorem oneTokenResult_reaches {queue : List (Nat × Int)} {result : Bool}
    (observed : oneTokenResult queue = some result) : ∃ answers wrapper world wrapper' world',
      session (Libc.limited (2 ^ 63)) (2 ^ 32) {} (onePosition queue) none oneTokenCalls {} =
        .ok (some (answers, wrapper)) world ∧
      marpaWrapperRRecognizeb (Libc.limited (2 ^ 63)) (2 ^ 32) {} (onePosition queue) wrapper
        (some oneToken) world = .ok (result, wrapper') world' ∧
      AllSince world (·.Documented false wrapper world.grammar.symbols.length) world' ∧
      AllSince world (·.Succeeds wrapper false) world' := by
  unfold oneTokenResult at observed
  cases reached : session (Libc.limited (2 ^ 63)) (2 ^ 32) {} (onePosition queue) none
      oneTokenCalls {} with
  | error fault world => rw [reached] at observed; cases observed
  | ok created world =>
    rw [reached] at observed
    cases created with
    | none => cases observed
    | some created =>
      obtain ⟨answers, wrapper⟩ := created
      simp only at observed
      cases run : marpaWrapperRRecognizeb (Libc.limited (2 ^ 63)) (2 ^ 32) {} (onePosition queue)
          wrapper (some oneToken) world with
      | error fault world' => rw [run] at observed; cases observed
      | ok returned world' =>
        rw [run] at observed
        obtain ⟨result', wrapper'⟩ := returned
        simp only at observed
        split at observed
        next holds =>
          cases observed
          exact ⟨answers, wrapper, world, wrapper', world', rfl, run, holds.1, holds.2⟩
        next => cases observed

/-- One token that is accepted. -/
theorem marpaWrapperRRecognizeb_accepts_one : ∃ answers wrapper world,
    session (Libc.limited (2 ^ 63)) (2 ^ 32) {} (onePosition []) none oneTokenCalls {} =
      .ok (some (answers, wrapper)) world ∧
    ∃ result wrapper' world' exchanges,
      marpaWrapperRRecognizeb (Libc.limited (2 ^ 63)) (2 ^ 32) {} (onePosition []) wrapper
        (some oneToken) world = .ok (result, wrapper') world' ∧
      world'.events = world.events ++ exchanges ∧
      (result = true ↔ ∀ event ∈ exchanges, event.exhausts = false) := by
  obtain ⟨answers, wrapper, world, wrapper', world', reached, run, documented, succeeds⟩ :=
    oneTokenResult_reaches (show oneTokenResult [] = some true by decide +kernel)
  refine ⟨answers, wrapper, world, reached, ?_⟩
  have final : finalState (marpaWrapperRRecognizeb (Libc.limited (2 ^ 63)) (2 ^ 32) {}
      (onePosition []) wrapper (some oneToken) world) = world' := by rw [run]; rfl
  exact marpaWrapperRRecognizeb_accepts_iff (Nat.le_refl _) (Libc.limited_refuses _)
    inserting_conforms reached (show oneToken.callbacks false = some oneTokenCallbacks from rfl)
    (oneTokenCallbacks_stopsWithin _) (by decide) (final ▸ documented) (final ▸ succeeds)

/-- The token is accepted and leaves the parse exhausted, and it is not reported as recognised. -/
theorem marpaWrapperRRecognizeb_refuses_exhausted : ∃ answers wrapper world wrapper' world',
    session (Libc.limited (2 ^ 63)) (2 ^ 32) {} (onePosition [(3, 0)]) none oneTokenCalls {} =
      .ok (some (answers, wrapper)) world ∧
    oneTokenCallbacks.StopsWithin world.events 1 ∧
    AllSince world (·.Documented false wrapper world.grammar.symbols.length) world' ∧
    AllSince world (·.Succeeds wrapper false) world' ∧
    marpaWrapperRRecognizeb (Libc.limited (2 ^ 63)) (2 ^ 32) {} (onePosition [(3, 0)]) wrapper
      (some oneToken) world = .ok (false, wrapper') world' := by
  obtain ⟨answers, wrapper, world, wrapper', world', reached, run, documented, succeeds⟩ :=
    oneTokenResult_reaches (show oneTokenResult [(3, 0)] = some false by decide +kernel)
  exact ⟨answers, wrapper, world, wrapper', world', reached, oneTokenCallbacks_stopsWithin _,
    documented, succeeds, run⟩

end MarpaWrapper
