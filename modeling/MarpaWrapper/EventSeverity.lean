/-
This file asks whether a warning fails an operation only when it is asked to.
The severity is decided twice: each operation tests the answer of its own
libmarpa call, and the loop over the queue classifies the events. For a grammar
with a cycle libmarpa uses both channels, a warning in the queue and an advisory
failure of `marpa_g_precompute`, and the first test does not tell this failure
from the others.
-/

import MarpaWrapper.EventDelivery

namespace MarpaWrapper

open Effects

section Severity

variable {V : Type} {libc : Libc V} {marpa : Libmarpa V} {operation : ReportingOperation}
  {wrapper wrapper' : Wrapper} {world between final : World V} {goesOn result : Bool}

/-- A grammar with a cycle is precomputed, which libmarpa answers with its advisory failure. -/
def ReportingOperation.MeetsCycle (operation : ReportingOperation) (marpa : Libmarpa V)
    (world : World V) : Prop :=
  operation = .precomputeb ∧ world.grammar.precomputed = false ∧
    (marpa.precompute world.events).1 = some marpaErrGrammarHasCycle

/-- Nothing abnormal is reported but warnings: the operation's own call succeeded, or its failure is
the advice that the queue repeats, and no event is fatal or informational. -/
structure ReportingOperation.OnlyWarns (operation : ReportingOperation) (marpa : Libmarpa V)
    (world between : World V) (goesOn : Bool) : Prop where
  call : goesOn = true ∨ operation.MeetsCycle marpa world
  cycle : operation.MeetsCycle marpa world →
    ∃ queued ∈ between.grammar.events, (queued.1 : Int) = marpaEventLoopRules
  events : ∀ queued ∈ between.grammar.events,
    eventClass queued.1 ≠ .fatal ∧ eventClass queued.1 ≠ .info

/-- A result respects the severity of warnings: they fail the operation if and only if they are to
count as errors. -/
def Wrapper.RespectsSeverity (wrapper : Wrapper) (batch : List (Nat × Int)) (result : Bool) :
    Prop :=
  (wrapper.marpaWrapperOption.warningIsErrorb = false → result = true) ∧
    (wrapper.marpaWrapperOption.warningIsErrorb = true →
      (∃ queued ∈ batch, eventClass queued.1 = .warning) → result = false)

/-! ### The two decisions -/

/-- The first test takes the advice for a failure. -/
theorem ReportingOperation.MeetsCycle.stops (meets : operation.MeetsCycle marpa world)
    (begun : operation.begin marpa wrapper world = .ok (goesOn, wrapper') between) :
    goesOn = false := by
  obtain ⟨rfl, fresh, cycle⟩ := meets
  have answer : marpaGPrecompute marpa world = .ok (-2)
      { world with
        events := world.events ++ [.precompute (-2)]
        grammar := { world.grammar.census with
          events := (marpa.precompute world.events).2
          error := marpaErrGrammarHasCycle
          precomputed := true } } := by
    have answered : marpa.precompute world.events =
        (some marpaErrGrammarHasCycle, (marpa.precompute world.events).2) := Prod.ext cycle rfl
    unfold marpaGPrecompute
    rw [fresh, if_neg Bool.false_ne_true, answered]
    rfl
  have precomputed : precomputeGrammar marpa world = .ok false _ := run_bind_ok answer
  have run : ReportingOperation.begin marpa .precomputeb wrapper world =
      .ok (false, wrapper) _ := run_bind_ok precomputed
  rw [run] at begun
  cases begun
  rfl

/-- An operation that its own test ends returns `FALSE`. -/
theorem ReportingOperation.run_stopped
    (begun : operation.begin marpa wrapper world = .ok (false, wrapper') between) :
    operation.run libc marpa wrapper world = .ok (false, wrapper') between := by
  cases operation with
  | precomputeb =>
    obtain ⟨goesOn, state, precomputed, rest⟩ := run_bind_eq_ok begun
    cases rest
    have run : marpaWrapperGPrecomputeb libc marpa wrapper world = .ok false between :=
      run_bind_ok precomputed
    exact run_bind_ok run
  | completeb =>
    obtain ⟨goesOn, state, completed, rest⟩ := run_bind_eq_ok begun
    cases rest
    have run : marpaWrapperRCompleteb libc marpa wrapper world = .ok false between :=
      run_bind_ok completed
    exact run_bind_ok run
  | startb => exact run_bind_ok begun

/-- Without fatal and informational events, the loop stops at a warning that counts as an error. -/
theorem ReportingOperation.OnlyWarns.stopsAt
    (warns : operation.OnlyWarns marpa world between goesOn) :
    between.grammar.events.any wrapper.stopsAt = true ↔
      wrapper.marpaWrapperOption.warningIsErrorb = true ∧
        ∃ queued ∈ between.grammar.events, eventClass queued.1 = .warning := by
  have each : ∀ queued ∈ between.grammar.events, wrapper.stopsAt queued = true ↔
      wrapper.marpaWrapperOption.warningIsErrorb = true ∧ eventClass queued.1 = .warning := by
    intro queued member
    obtain ⟨harmless, goes⟩ := warns.events queued member
    unfold Wrapper.stopsAt
    cases kind : eventClass queued.1 with
    | silent => exact ⟨nofun, nofun⟩
    | warning => exact ⟨fun counts => ⟨counts, rfl⟩, fun both => both.1⟩
    | fatal => exact absurd kind harmless
    | info => exact absurd kind goes
    | symbol eventType => exact ⟨nofun, nofun⟩
  rw [List.any_eq_true]
  constructor
  · rintro ⟨queued, member, stops⟩
    obtain ⟨counts, warning⟩ := (each queued member).mp stops
    exact ⟨counts, queued, member, warning⟩
  · rintro ⟨counts, queued, member, warning⟩
    exact ⟨queued, member, (each queued member).mpr ⟨counts, warning⟩⟩

/-- The result of an operation under warnings alone. -/
theorem ReportingOperation.OnlyWarns.run (libc : Libc V) (reports : marpa.ReportsEvents)
    (begun : operation.begin marpa wrapper world = .ok (goesOn, wrapper') between)
    (known : wrapper.KnowsEvents between.grammar.events) :
    ∃ final, operation.run libc marpa wrapper world =
      .ok (goesOn && reportCompletes libc wrapper between, wrapper') final := by
  cases goesOn with
  | false => exact ⟨between, run_stopped begun⟩
  | true =>
    obtain ⟨_, final, run, _⟩ := ReportingOperation.run_delivers libc reports begun known
    exact ⟨final, run⟩

/-! ### Severity -/

/-- Under warnings alone an operation respects their severity if and only if they count as errors,
or it is not the precomputation of a grammar with a cycle and the array for the events is granted. -/
theorem reportingOperation_respectsSeverity_iff (reports : marpa.ReportsEvents)
    (begun : operation.begin marpa wrapper world = .ok (goesOn, wrapper') between)
    (known : wrapper.KnowsEvents between.grammar.events)
    (warns : operation.OnlyWarns marpa world between goesOn) :
    (∃ result final, operation.run libc marpa wrapper world = .ok (result, wrapper') final ∧
      wrapper.RespectsSeverity between.grammar.events result) ↔
      wrapper.marpaWrapperOption.warningIsErrorb = true ∨
        (¬ operation.MeetsCycle marpa world ∧ eventArrayGranted libc between = true) := by
  obtain ⟨final, run⟩ := ReportingOperation.OnlyWarns.run libc reports begun known
  constructor
  · rintro ⟨result, final', run', succeeds, -⟩
    rw [run] at run'
    cases run'
    by_cases counts : wrapper.marpaWrapperOption.warningIsErrorb = true
    · exact .inl counts
    · have both := succeeds (Bool.eq_false_iff.mpr counts)
      rw [reportCompletes, Bool.and_eq_true, Bool.and_eq_true] at both
      refine .inr ⟨fun meets => ?_, both.2.1⟩
      rw [meets.stops begun] at both
      exact Bool.false_ne_true both.1
  · intro condition
    refine ⟨_, final, run, fun tolerated => ?_, fun counts warning => ?_⟩
    · obtain ⟨noCycle, granted⟩ := condition.resolve_left
        (by rw [tolerated]; exact Bool.false_ne_true)
      obtain rfl : goesOn = true := warns.call.resolve_right noCycle
      have passes : between.grammar.events.any wrapper.stopsAt = false := by
        rw [← Bool.not_eq_true, warns.stopsAt, tolerated]
        exact fun both => Bool.false_ne_true both.1
      rw [reportCompletes, granted, passes]
      rfl
    · rw [reportCompletes, warns.stopsAt.mpr ⟨counts, warning⟩, Bool.not_true, Bool.and_false,
        Bool.and_false]

end Severity

/-! ### Warnings -/

/-- A libmarpa that finds a cycle in the grammar. -/
def cyclicMarpa : Libmarpa Unit :=
  { Libmarpa.accepting with precompute := fun _ => (some marpaErrGrammarHasCycle, [(4, 1)]) }

/-- A completion that reports a warning and a completed event succeeds. -/
theorem reportingOperation_respectsSeverity_iff_completed :
    ∃ result final, ReportingOperation.completeb.run Libc.generous (reportingMarpa [(2, 7), (6, 0)])
        listeningWrapper {} = .ok (result, listeningWrapper) final ∧
      listeningWrapper.RespectsSeverity [(2, 7), (6, 0)] result := by
  have reports : (reportingMarpa [(2, 7), (6, 0)]).ReportsEvents := ⟨fun _ => rfl, fun _ _ => rfl⟩
  have begun : ReportingOperation.completeb.begin (reportingMarpa [(2, 7), (6, 0)])
      listeningWrapper {} = .ok (true, listeningWrapper)
        { events := [.earlemeComplete 0], grammar := { events := [(2, 7), (6, 0)] } } := rfl
  have known : listeningWrapper.KnowsEvents [(2, 7), (6, 0)] := by
    intro queued member symbol
    rcases List.mem_pair.mp member with rfl | rfl
    · cases symbol
    · exact listeningWrapper_registers
  have other : ¬ ReportingOperation.completeb.MeetsCycle (reportingMarpa [(2, 7), (6, 0)]) {} :=
    fun meets => nomatch meets.1
  exact (reportingOperation_respectsSeverity_iff reports begun known
    ⟨.inl rfl, fun meets => absurd meets other, by decide⟩).mpr (.inr ⟨other, rfl⟩)

/-- The precomputation of a grammar with a cycle fails, although warnings are no errors. -/
theorem precomputeb_fails_on_cycle : ∃ between final,
    ReportingOperation.precomputeb.begin cyclicMarpa listeningWrapper {} =
      .ok (false, listeningWrapper) between ∧
    ReportingOperation.precomputeb.OnlyWarns cyclicMarpa {} between false ∧
    between.grammar.precomputed = true ∧
    listeningWrapper.marpaWrapperOption.warningIsErrorb = false ∧
    ReportingOperation.precomputeb.run Libc.generous cyclicMarpa listeningWrapper {} =
      .ok (false, listeningWrapper) final ∧
    ¬ listeningWrapper.RespectsSeverity between.grammar.events false :=
  ⟨_, _, rfl, ⟨.inr ⟨rfl, rfl, rfl⟩, fun _ => ⟨(4, 1), by decide, rfl⟩, by decide⟩, rfl, rfl, rfl,
    fun respects => Bool.false_ne_true (respects.1 rfl)⟩

end MarpaWrapper
