/-
This file asks whether the user's event callback gets the symbol events that
libmarpa queued: once, all of them, and sorted by their kind unless they are to
stay unsorted. Whatever the queue holds besides, the loop reads it to the end or
up to the first event that stops it, and the informational exhaustion event is
one that does.

The sort is the C library's, so that a statement about the order is about every
sort that keeps the promise of the standard. The comparator compares weights of
libmarpa's event types, but it is given the wrapper's own; no two of those differ
in weight.
-/

import MarpaWrapper.Exchanges
import MarpaWrapper.Recognizer

namespace MarpaWrapper

open Effects Sorting

/-! ### The symbol events of a batch -/

/-- The symbol event that the callback is to receive for an event of the queue. -/
def symbolEvent (queued : Nat × Int) : Option MarpaWrapperEvent :=
  match eventClass queued.1 with
  | .symbol eventType => some { eventType, marpaWrapperSymbolp := registered queued.2 }
  | _ => none

/-- The symbol events of a batch, in order. -/
def symbolEvents (batch : List (Nat × Int)) : List MarpaWrapperEvent :=
  batch.filterMap symbolEvent

/-- Whether the loop over the queue ends at an event. -/
def Wrapper.stopsAt (wrapper : Wrapper) (queued : Nat × Int) : Bool :=
  match eventClass queued.1 with
  | .warning => wrapper.marpaWrapperOption.warningIsErrorb
  | .fatal => true
  | .info => true
  | _ => false

/-- The symbols of the symbol events are registered. -/
def Wrapper.KnowsEvents (wrapper : Wrapper) (batch : List (Nat × Int)) : Prop :=
  ∀ queued ∈ batch, (symbolEvent queued).isSome → Registers wrapper.marpaWrapperSymbolpp queued.2

section Delivery

variable {V : Type}

/-- libmarpa reports the events of its queue. -/
structure Libmarpa.ReportsEvents (marpa : Libmarpa V) : Prop where
  count : ∀ record, marpa.eventCountFails record = false
  event : ∀ record index, marpa.eventFails record index = false

/-- What the event callback received. -/
def Event.delivered : Event V → Option (List MarpaWrapperEvent)
  | .eventCallback events => some events
  | _ => none

/-- What the event callback received, invocation by invocation. -/
def deliveredIn (events : List (Event V)) : List (List MarpaWrapperEvent) :=
  events.filterMap Event.delivered

theorem deliveredIn_append (first second : List (Event V)) :
    deliveredIn (first ++ second) = deliveredIn first ++ deliveredIn second :=
  List.filterMap_append

/-! ### Runs -/

variable {libc : Libc V} {marpa : Libmarpa V} {wrapper : Wrapper} {world : World V}

theorem marpaGEvent_run (reports : marpa.ReportsEvents) {index : Nat} {queued : Nat × Int}
    (found : world.grammar.events[index]? = some queued) :
    marpaGEvent marpa index world =
      .ok ((queued.1 : Int), queued.2)
        { world with events := world.events ++ [.event index queued.1 queued.2] } := by
  unfold marpaGEvent
  rw [reports.event, found]
  rfl

/-- A turn reads one event: it ends the loop, or collects the event if it is a symbol event. -/
theorem eventTurn_run (reports : marpa.ReportsEvents) {index : Nat} {queued : Nat × Int}
    (found : world.grammar.events[index]? = some queued)
    (known : (symbolEvent queued).isSome → Registers wrapper.marpaWrapperSymbolpp queued.2)
    (collected : List MarpaWrapperEvent) :
    eventTurn marpa wrapper index collected world =
      .ok (if wrapper.stopsAt queued then .done ()
          else .next (collected ++ (symbolEvent queued).toList))
        { world with events := world.events ++ [.event index queued.1 queued.2] } := by
  unfold eventTurn
  rw [run_bind_ok (marpaGEvent_run reports found)]
  simp only
  rw [if_neg (by omega)]
  unfold Wrapper.stopsAt
  unfold symbolEvent at known ⊢
  cases kind : eventClass queued.1 with
  | silent =>
    show _ = EStateM.Result.ok (Turn.next (collected ++ [])) _
    rw [List.append_nil]
    rfl
  | warning =>
    show EStateM.Result.ok _ _ = EStateM.Result.ok _ _
    simp only [Option.toList_none, List.append_nil]
  | fatal => rfl
  | info => rfl
  | symbol eventType =>
    rw [kind] at known
    show (readPointer _ _ >>= _) _ = _
    rw [run_bind_ok (readPointer_registered (known rfl) _)]
    rfl

/-- The loop reads the rest of the queue. -/
theorem eventLoop_run (reports : marpa.ReportsEvents) :
    ∀ (rest : List (Nat × Int)) (index : Nat) (collected : List MarpaWrapperEvent)
      (world : World V), world.grammar.events.drop index = rest → wrapper.KnowsEvents rest →
      ∃ exchanges, forEach (eventTurn marpa wrapper) (List.range' index rest.length) collected world =
          .ok (if rest.any wrapper.stopsAt then .done () else .next (collected ++ symbolEvents rest))
            { world with events := world.events ++ exchanges } ∧
        deliveredIn exchanges = [] := by
  intro rest
  induction rest with
  | nil =>
    intro index collected world _ _
    refine ⟨[], ?_, rfl⟩
    show _ = EStateM.Result.ok (Turn.next (collected ++ [])) _
    rw [List.append_nil, List.append_nil]
    rfl
  | cons queued rest inductionHypothesis =>
    intro index collected world remaining known
    have found : world.grammar.events[index]? = some queued := by
      rw [← List.head?_drop, remaining]
      rfl
    have turn := eventTurn_run reports found (known queued List.mem_cons_self) collected
    rw [List.length_cons, List.range'_succ, forEach, run_bind_ok turn, List.any_cons]
    cases stops : wrapper.stopsAt queued with
    | true => exact ⟨_, rfl, rfl⟩
    | false =>
      obtain ⟨exchanges, run, silent⟩ := inductionHypothesis (index + 1)
        (collected ++ (symbolEvent queued).toList)
        { world with events := world.events ++ [.event index queued.1 queued.2] }
        (by rw [← List.drop_drop, remaining]; rfl)
        fun other member => known other (List.mem_cons_of_mem _ member)
      refine ⟨.event index queued.1 queued.2 :: exchanges, ?_, silent⟩
      have collects : symbolEvents (queued :: rest) =
          (symbolEvent queued).toList ++ symbolEvents rest := by
        unfold symbolEvents
        rw [List.filterMap_cons]
        cases symbolEvent queued <;> rfl
      have record : world.events ++ .event index queued.1 queued.2 :: exchanges =
          world.events ++ [.event index queued.1 queued.2] ++ exchanges := by
        rw [List.append_assoc]
        rfl
      rw [Bool.false_or, collects, ← List.append_assoc, record]
      exact run

/-- Whether the array for the events of the queue is granted. -/
def eventArrayGranted (libc : Libc V) (world : World V) : Bool :=
  libc.grants (world.events ++ [.eventCount world.grammar.events.length])
    (toSize (world.grammar.events.length * marpaWrapperEventSize))

/-- The array is granted and nothing in the queue stops the loop. -/
def reportCompletes (libc : Libc V) (wrapper : Wrapper) (world : World V) : Bool :=
  eventArrayGranted libc world && !world.grammar.events.any wrapper.stopsAt

/-- What the callback receives from a batch that was read to the end. -/
def delivery (libc : Libc V) (wrapper : Wrapper) (collected : List MarpaWrapperEvent) :
    List (List MarpaWrapperEvent) :=
  if collected.length > 0 ∧ wrapper.marpaWrapperOption.eventCallbackp then
    [sortEvents libc wrapper collected]
  else []

theorem deliverEvents_run (libc : Libc V) (wrapper : Wrapper)
    (collected : List MarpaWrapperEvent) (world : World V) :
    ∃ exchanges, deliverEvents libc wrapper collected world =
        .ok () { world with events := world.events ++ exchanges } ∧
      deliveredIn exchanges = delivery libc wrapper collected := by
  unfold deliverEvents delivery
  by_cases given : collected.length > 0 ∧ wrapper.marpaWrapperOption.eventCallbackp
  · rw [if_pos given, if_pos given]
    exact ⟨[.eventCallback (sortEvents libc wrapper collected)], rfl, rfl⟩
  · rw [if_neg given, if_neg given]
    exact ⟨[], by rw [List.append_nil]; rfl, rfl⟩

/-- `_marpaWrapper_event` returns whether it came to the end, and delivers when it did. -/
theorem marpaWrapperEvent_run (libc : Libc V) (reports : marpa.ReportsEvents)
    (known : wrapper.KnowsEvents world.grammar.events) :
    ∃ exchanges nextAddress, marpaWrapperEvent libc marpa wrapper world =
        .ok (reportCompletes libc wrapper world)
          { world with events := world.events ++ exchanges, nextAddress } ∧
      deliveredIn exchanges =
        if reportCompletes libc wrapper world then
          delivery libc wrapper (symbolEvents world.grammar.events)
        else [] := by
  have counted : marpaGEventCount marpa world = .ok (world.grammar.events.length : Int)
      { world with events := world.events ++ [.eventCount world.grammar.events.length] } := by
    unfold marpaGEventCount
    rw [reports.count]
    rfl
  unfold marpaWrapperEvent reportCompletes
  rw [run_bind_ok counted, if_neg (Int.not_lt.mpr (Int.natCast_nonneg _))]
  cases granted : eventArrayGranted libc world with
  | false =>
    refine ⟨[.eventCount world.grammar.events.length,
      .malloc (toSize (world.grammar.events.length * marpaWrapperEventSize)) none],
      world.nextAddress, ?_, rfl⟩
    rw [malloc, run_bind_ok (run_acquire_refused granted), List.append_assoc]
    rfl
  | true =>
    have counting : List.range (world.grammar.events.length : Int).toNat =
        List.range' 0 world.grammar.events.length := by
      rw [Int.toNat_natCast, List.range_eq_range']
    obtain ⟨reads, loop, silent⟩ := eventLoop_run reports
      world.grammar.events 0 []
      { world with
        events := world.events ++ [.eventCount world.grammar.events.length] ++
          [.malloc (toSize (world.grammar.events.length * marpaWrapperEventSize))
            (some world.nextAddress)]
        nextAddress := world.nextAddress + 1 } rfl known
    rw [← counting] at loop
    rw [malloc, run_bind_ok (run_acquire_granted granted)]
    cases stops : world.grammar.events.any wrapper.stopsAt with
    | true =>
      rw [stops] at loop
      refine ⟨[.eventCount world.grammar.events.length,
        .malloc (toSize (world.grammar.events.length * marpaWrapperEventSize))
          (some world.nextAddress)] ++ reads ++ [.free world.nextAddress],
        world.nextAddress + 1, ?_, ?_⟩
      · refine (run_bind_ok loop).trans ?_
        refine congrArg (fun record : List (Event V) => EStateM.Result.ok false
          (World.mk record (world.nextAddress + 1) world.grammar)) ?_
        simp only [List.append_assoc, List.cons_append, List.nil_append]
      · rw [deliveredIn_append, deliveredIn_append, silent]
        rfl
    | false =>
      rw [stops] at loop
      obtain ⟨delivers, run, delivered⟩ := deliverEvents_run libc wrapper
        (symbolEvents world.grammar.events)
        { world with
          events := world.events ++ [.eventCount world.grammar.events.length] ++
            [.malloc (toSize (world.grammar.events.length * marpaWrapperEventSize))
              (some world.nextAddress)] ++ reads
          nextAddress := world.nextAddress + 1 }
      refine ⟨[.eventCount world.grammar.events.length,
        .malloc (toSize (world.grammar.events.length * marpaWrapperEventSize))
          (some world.nextAddress)] ++ reads ++ delivers ++ [.free world.nextAddress],
        world.nextAddress + 1, ?_, ?_⟩
      · refine (run_bind_ok loop).trans ((run_bind_ok run).trans ?_)
        refine congrArg (fun record : List (Event V) => EStateM.Result.ok true
          (World.mk record (world.nextAddress + 1) world.grammar)) ?_
        simp only [List.append_assoc, List.cons_append, List.nil_append]
      · rw [deliveredIn_append, deliveredIn_append, deliveredIn_append, silent, delivered]
        exact List.append_nil _

/-! ### The operations that report events -/

/-- An operation that ends with `_marpaWrapper_event`. -/
inductive ReportingOperation where
  | precomputeb
  | startb
  | completeb

/-- Its part before the events. -/
def ReportingOperation.begin (marpa : Libmarpa V) :
    ReportingOperation → Wrapper → Exec V (Bool × Wrapper)
  | .precomputeb, wrapper => do
    let goesOn ← precomputeGrammar marpa
    pure (goesOn, wrapper)
  | .startb, wrapper => startRecognizer marpa wrapper
  | .completeb, wrapper => do
    let goesOn ← completeEarleme marpa wrapper
    pure (goesOn, wrapper)

/-- The whole of it. -/
def ReportingOperation.run (libc : Libc V) (marpa : Libmarpa V) :
    ReportingOperation → Wrapper → Exec V (Bool × Wrapper)
  | .precomputeb, wrapper => do
    let result ← marpaWrapperGPrecomputeb libc marpa wrapper
    pure (result, wrapper)
  | .startb, wrapper => marpaWrapperRStartb libc marpa wrapper
  | .completeb, wrapper => do
    let result ← marpaWrapperRCompleteb libc marpa wrapper
    pure (result, wrapper)

variable {operation : ReportingOperation} {wrapper' : Wrapper} {between : World V}

/-- Since `start` nothing was delivered. -/
def Silent (start world : World V) : Prop :=
  ∃ exchanges, world.events = start.events ++ exchanges ∧ deliveredIn exchanges = []

section Silent

variable {start : World V}

theorem Silent.refl (start : World V) : Silent start start :=
  ⟨[], (List.append_nil _).symm, rfl⟩

theorem Silent.event (silent : Silent start world) {event : Event V}
    (nothing : event.delivered = none) (appended : between.events = world.events ++ [event]) :
    Silent start between := by
  obtain ⟨exchanges, record, delivered⟩ := silent
  refine ⟨exchanges ++ [event], by rw [appended, record, List.append_assoc], ?_⟩
  rw [deliveredIn_append, delivered]
  exact List.filterMap_cons_none nothing

theorem emit_silent {event : Event V} (nothing : event.delivered = none) :
    Keeps (Silent start) (emit event) :=
  fun _ silent => silent.event nothing rfl

theorem acquire_silent {granted : List (Event V) → Bool} {event : Option Nat → Event V}
    (nothing : ∀ address, (event address).delivered = none) :
    Keeps (Silent start) (acquire granted event) := by
  intro world silent
  cases grant : granted world.events with
  | false => rw [run_acquire_refused grant]; exact silent.event (nothing _) rfl
  | true => rw [run_acquire_granted grant]; exact silent.event (nothing _) rfl

theorem freeIfNotNull_silent (address : Option Nat) :
    Keeps (Silent (V := V) start) (freeIfNotNull address) := by
  cases address with
  | none => exact .pure _
  | some address => exact emit_silent rfl

theorem marpaGPrecompute_silent : Keeps (Silent start) (marpaGPrecompute marpa) :=
  fun _ silent => silent.event rfl rfl

theorem reportingCall_silent {answered : List (Event V) → Int × List (Nat × Int)}
    {event : Int → Event V} (nothing : ∀ answer, (event answer).delivered = none) :
    Keeps (Silent start) (reportingCall answered event) :=
  fun _ silent => silent.event (nothing _) rfl

/-- Nothing was delivered, and the options and the table of symbols are those of `wrapper`. -/
def Begun (start : World V) (wrapper wrapper' : Wrapper) (world : World V) : Prop :=
  (wrapper'.marpaWrapperOption = wrapper.marpaWrapperOption ∧
    wrapper'.marpaWrapperSymbolpp = wrapper.marpaWrapperSymbolpp) ∧ Silent start world

theorem releaseRecognizer_begun :
    Triple (Silent start) (releaseRecognizer wrapper) (Begun start wrapper)
      (fun _ => Silent start) := by
  unfold releaseRecognizer
  cases wrapper.marpaRecognizerp with
  | none => exact .pure fun _ silent => ⟨⟨rfl, rfl⟩, silent⟩
  | some handle =>
    exact .bind (emit_silent rfl) fun _ => .bind (freeIfNotNull_silent _) fun _ =>
      .bind (freeIfNotNull_silent _) fun _ => .pure fun _ silent => ⟨⟨rfl, rfl⟩, silent⟩

/-- The first part delivers nothing, and keeps the options and the table of symbols. -/
theorem ReportingOperation.begin_begun :
    Triple (Silent start) (operation.begin marpa wrapper)
      (fun outcome => Begun start wrapper outcome.2) (fun _ => Silent start) := by
  cases operation with
  | precomputeb =>
    exact .bind (Keeps.bind marpaGPrecompute_silent fun _ => .pure _) fun _ =>
      .pure fun _ silent => ⟨⟨rfl, rfl⟩, silent⟩
  | completeb =>
    have completes : Keeps (Silent start) (completeEarleme marpa wrapper) :=
      .ite (.pure _) (.bind (reportingCall_silent fun _ => rfl) fun _ => .pure _)
    exact .bind completes fun _ => .pure fun _ silent => ⟨⟨rfl, rfl⟩, silent⟩
  | startb =>
    refine .bind releaseRecognizer_begun fun released =>
      .bind (Keeps.under (acquire_silent fun _ => rfl)) fun handle =>
        .ite (fun _ => .pure fun _ begun => begun) fun _ =>
          .bind (Keeps.under (reportingCall_silent fun _ => rfl)) fun _ =>
            .pure fun _ begun => begun

end Silent

/-- An operation that came to its events returns what the report of the events returns. -/
theorem ReportingOperation.run_report {wrapper' : Wrapper} {result : Bool} {final : World V}
    (begun : operation.begin marpa wrapper world = .ok (true, wrapper') between)
    (report : marpaWrapperEvent libc marpa wrapper' between = .ok result final) :
    operation.run libc marpa wrapper world = .ok (result, wrapper') final := by
  cases operation with
  | precomputeb =>
    obtain ⟨goesOn, state, precomputed, rest⟩ := run_bind_eq_ok begun
    cases rest
    have run : marpaWrapperGPrecomputeb libc marpa wrapper world = .ok result final :=
      (run_bind_ok precomputed).trans report
    exact run_bind_ok run
  | completeb =>
    obtain ⟨goesOn, state, completed, rest⟩ := run_bind_eq_ok begun
    cases rest
    have run : marpaWrapperRCompleteb libc marpa wrapper world = .ok result final :=
      (run_bind_ok completed).trans report
    exact run_bind_ok run
  | startb => exact (run_bind_ok begun).trans (run_bind_ok report)

/-- What the callback receives from a whole operation. -/
theorem ReportingOperation.run_delivers (libc : Libc V) (reports : marpa.ReportsEvents)
    (begun : operation.begin marpa wrapper world = .ok (true, wrapper') between)
    (known : wrapper.KnowsEvents between.grammar.events) :
    ∃ exchanges final,
      operation.run libc marpa wrapper world =
        .ok (reportCompletes libc wrapper between, wrapper') final ∧
      final.events = world.events ++ exchanges ∧
      deliveredIn exchanges =
        if reportCompletes libc wrapper between then
          delivery libc wrapper (symbolEvents between.grammar.events)
        else [] := by
  obtain ⟨⟨options, table⟩, before, recorded, silent⟩ :=
    Triple.ok ReportingOperation.begin_begun (Silent.refl world) begun
  have stops : wrapper'.stopsAt = wrapper.stopsAt := by
    funext queued
    unfold Wrapper.stopsAt
    rw [options]
  have known' : wrapper'.KnowsEvents between.grammar.events := by
    unfold Wrapper.KnowsEvents
    rw [table]
    exact known
  obtain ⟨exchanges, nextAddress, report, delivered⟩ :=
    marpaWrapperEvent_run libc reports known'
  have completes : reportCompletes libc wrapper' between = reportCompletes libc wrapper between := by
    unfold reportCompletes
    rw [stops]
  have delivers : delivery libc wrapper' = delivery libc wrapper := by
    funext collected
    unfold delivery sortEvents
    rw [options]
  rw [completes] at report delivered
  rw [delivers] at delivered
  refine ⟨before ++ exchanges, _, ReportingOperation.run_report begun report, ?_, ?_⟩
  · show between.events ++ exchanges = _
    rw [recorded, List.append_assoc]
  · rw [deliveredIn_append, silent, List.nil_append, delivered]

/-! ### Complete and ordered delivery -/

/-- The callback is invoked once when there are symbol events, with all of them, and the completed
ones before the nulled ones and these before the predicted ones unless they are to stay unsorted. -/
def DeliversEvents (wrapper : Wrapper) (batch : List (Nat × Int)) (exchanges : List (Event V)) :
    Prop :=
  symbolEvents batch ≠ [] → ∃ delivered, deliveredIn exchanges = [delivered] ∧
    delivered.Perm (symbolEvents batch) ∧
    (wrapper.marpaWrapperOption.unsortedEventsb = false →
      delivered.Pairwise fun first second => first.eventType ≤ second.eventType)

/-- A batch has no fatal event, and no warning that counts as an error. -/
def Wrapper.Tolerates (wrapper : Wrapper) (batch : List (Nat × Int)) : Prop :=
  ∀ queued ∈ batch, eventClass queued.1 ≠ .fatal ∧
    (eventClass queued.1 = .warning → wrapper.marpaWrapperOption.warningIsErrorb = false)

theorem eventClass_info {eventType : Int} :
    eventClass eventType = .info ↔ eventType = marpaEventExhausted := by
  constructor
  · intro info
    unfold eventClass at info
    by_contra other
    rw [if_neg other] at info
    (repeat' split at info) <;> cases info
  · rintro rfl
    rfl

/-- Only the exhaustion event stops the loop over a batch that the wrapper tolerates. -/
theorem Wrapper.Tolerates.stopsAt {batch : List (Nat × Int)} (tolerates : wrapper.Tolerates batch) :
    batch.any wrapper.stopsAt = false ↔ ∀ queued ∈ batch, (queued.1 : Int) ≠ marpaEventExhausted := by
  rw [List.any_eq_false]
  refine forall₂_congr fun queued member => ?_
  obtain ⟨harmless, warned⟩ := tolerates queued member
  rw [Ne, ← eventClass_info]
  unfold Wrapper.stopsAt
  cases kind : eventClass queued.1 with
  | silent => exact ⟨fun _ => nofun, fun _ => nofun⟩
  | warning =>
    rw [warned kind]
    exact ⟨fun _ => nofun, fun _ => nofun⟩
  | fatal => exact absurd kind harmless
  | info => exact ⟨fun never => absurd rfl never, fun never => absurd rfl never⟩
  | symbol eventType => exact ⟨fun _ => nofun, fun _ => nofun⟩

/-- The weights of the wrapper's event types are all the same. -/
theorem symbolEvents_weight {batch : List (Nat × Int)} {event : MarpaWrapperEvent}
    (member : event ∈ symbolEvents batch) : marpaWrapperEventWeight event.eventType = 0 := by
  obtain ⟨queued, -, found⟩ := List.mem_filterMap.mp member
  unfold symbolEvent at found
  cases kind : eventClass queued.1 with
  | symbol eventType =>
    rw [kind] at found
    cases found
    unfold eventClass at kind
    (repeat' split at kind) <;> cases kind <;> rfl
  | _ =>
    rw [kind] at found
    cases found

theorem symbolEvents_ties {batch : List (Nat × Int)} :
    ∀ first ∈ symbolEvents batch, ∀ second ∈ symbolEvents batch,
      marpaWrapperEventCmp first second ≤ 0 := by
  intro first member second member'
  unfold marpaWrapperEventCmp
  rw [symbolEvents_weight member, symbolEvents_weight member']
  exact Int.le_refl 0

/-- The order that the sort leaves depends on the sort, unless all events are of one kind. -/
theorem sorts_ascending_iff_one_kind {collected : List MarpaWrapperEvent}
    (ties : ∀ first ∈ collected, ∀ second ∈ collected, marpaWrapperEventCmp first second ≤ 0) :
    (∀ sort : {α : Type} → (α → α → Int) → List α → List α, Conforms @sort →
      (sort marpaWrapperEventCmp collected).Pairwise fun first second =>
        first.eventType ≤ second.eventType) ↔
      ∀ first ∈ collected, ∀ second ∈ collected, first.eventType = second.eventType := by
  constructor
  · intro ascends first member second member'
    have forwards := ascends @inserting inserting_conforms
    have backwards := ascends @insertingBackwards insertingBackwards_conforms
    rw [inserting_ties ties] at forwards
    rw [insertingBackwards_ties ties] at backwards
    have same := one_key_of_both_directions (fun event => (event.eventType : Int))
      (forwards.imp fun below => Int.ofNat_le.mpr below)
      (backwards.imp fun below => Int.ofNat_le.mpr below) first member second member'
    exact Int.ofNat.inj same
  · intro same sort conforms
    have permutes := conforms.perm marpaWrapperEventCmp collected
    exact List.pairwise_of_forall_mem_list fun first member second member' =>
      Nat.le_of_eq (same first (permutes.mem_iff.mp member) second (permutes.mem_iff.mp member'))

theorem sortEvents_perm (conforms : Conforms libc.qsort) (collected : List MarpaWrapperEvent) :
    (sortEvents libc wrapper collected).Perm collected := by
  unfold sortEvents
  by_cases sorts : collected.length > 1 ∧ wrapper.marpaWrapperOption.unsortedEventsb = false
  · rw [if_pos sorts]
    exact conforms.perm _ _
  · rw [if_neg sorts]

/-- The same of the sort as it is called, for more than one event. -/
theorem sortEvents_ascending_iff {collected : List MarpaWrapperEvent}
    (sorted : wrapper.marpaWrapperOption.unsortedEventsb = false)
    (ties : ∀ first ∈ collected, ∀ second ∈ collected, marpaWrapperEventCmp first second ≤ 0) :
    (∀ sort : {α : Type} → (α → α → Int) → List α → List α, Conforms @sort →
      (sortEvents { libc with qsort := @sort } wrapper collected).Pairwise fun first second =>
        first.eventType ≤ second.eventType) ↔
      ∀ first ∈ collected, ∀ second ∈ collected, first.eventType = second.eventType := by
  unfold sortEvents
  by_cases several : collected.length > 1
  · simp only [several, sorted, and_self, if_true]
    exact sorts_ascending_iff_one_kind ties
  · simp only [several, false_and, if_false]
    match collected, several with
    | [], _ => exact ⟨fun _ _ member => absurd member List.not_mem_nil, fun _ _ _ => .nil⟩
    | [event], _ =>
      refine ⟨fun _ first member second member' => ?_, fun _ _ _ => List.pairwise_singleton _ _⟩
      rw [List.mem_singleton.mp member, List.mem_singleton.mp member']
    | _ :: _ :: _, several => exact absurd (by simp) several

/-- Where there is something to deliver, it is delivered when the report completes, and the order is
the one of the sort. -/
theorem deliversEvents_iff {exchanges : List (Event V)} (conforms : Conforms libc.qsort)
    (listening : wrapper.marpaWrapperOption.eventCallbackp = true) {batch : List (Nat × Int)}
    {completes : Bool}
    (delivered : deliveredIn exchanges =
      if completes then delivery libc wrapper (symbolEvents batch) else [])
    (something : symbolEvents batch ≠ []) :
    DeliversEvents wrapper batch exchanges ↔ completes = true ∧
      (wrapper.marpaWrapperOption.unsortedEventsb = false →
        (sortEvents libc wrapper (symbolEvents batch)).Pairwise fun first second =>
          first.eventType ≤ second.eventType) := by
  have given : delivery libc wrapper (symbolEvents batch) =
      [sortEvents libc wrapper (symbolEvents batch)] :=
    if_pos ⟨List.length_pos_iff.mpr something, listening⟩
  rw [given] at delivered
  constructor
  · intro delivers
    obtain ⟨received, once, -, ascending⟩ := delivers something
    rw [delivered] at once
    cases completes with
    | false => cases once
    | true =>
      obtain rfl : sortEvents libc wrapper (symbolEvents batch) = received :=
        List.singleton_inj.mp once
      exact ⟨rfl, ascending⟩
  · rintro ⟨rfl, ascending⟩ -
    exact ⟨_, delivered, sortEvents_perm conforms _, ascending⟩

/-- Delivery is complete and ordered, under every sort that keeps its promise, if and only if there
is nothing to deliver, or the array is granted, the recognizer was not exhausted, and the events
are to stay unsorted or are of one kind. -/
theorem reportingOperation_delivers_iff (reports : marpa.ReportsEvents)
    (begun : operation.begin marpa wrapper world = .ok (true, wrapper') between)
    (listening : wrapper.marpaWrapperOption.eventCallbackp = true)
    (known : wrapper.KnowsEvents between.grammar.events)
    (tolerates : wrapper.Tolerates between.grammar.events) :
    (∀ sort : {α : Type} → (α → α → Int) → List α → List α, Conforms @sort →
      ∃ result exchanges final,
        operation.run { libc with qsort := @sort } marpa wrapper world =
          .ok (result, wrapper') final ∧
        final.events = world.events ++ exchanges ∧
        DeliversEvents wrapper between.grammar.events exchanges) ↔
      symbolEvents between.grammar.events = [] ∨
        (eventArrayGranted libc between = true ∧
          (∀ queued ∈ between.grammar.events, (queued.1 : Int) ≠ marpaEventExhausted) ∧
          (wrapper.marpaWrapperOption.unsortedEventsb = true ∨
            ∀ first ∈ symbolEvents between.grammar.events,
              ∀ second ∈ symbolEvents between.grammar.events,
                first.eventType = second.eventType)) := by
  by_cases something : symbolEvents between.grammar.events = []
  · refine ⟨fun _ => .inl something, fun _ sort _ => ?_⟩
    obtain ⟨exchanges, final, run, recorded, -⟩ :=
      ReportingOperation.run_delivers { libc with qsort := @sort } reports begun known
    exact ⟨_, exchanges, final, run, recorded, fun other => absurd something other⟩
  · have completes : reportCompletes libc wrapper between = true ↔
        eventArrayGranted libc between = true ∧
          ∀ queued ∈ between.grammar.events, (queued.1 : Int) ≠ marpaEventExhausted := by
      rw [← tolerates.stopsAt, reportCompletes, Bool.and_eq_true, Bool.not_eq_true']
    rw [or_iff_right something, ← and_assoc, ← completes]
    constructor
    · intro delivers
      have each (sort : {α : Type} → (α → α → Int) → List α → List α) (conforms : Conforms @sort) :
          reportCompletes libc wrapper between = true ∧
            (wrapper.marpaWrapperOption.unsortedEventsb = false →
              (sortEvents { libc with qsort := @sort } wrapper
                (symbolEvents between.grammar.events)).Pairwise fun first second =>
                  first.eventType ≤ second.eventType) := by
        obtain ⟨exchanges, final, run, recorded, delivered⟩ :=
          ReportingOperation.run_delivers { libc with qsort := @sort } reports begun known
        obtain ⟨result, exchanges', final', run', recorded', holds⟩ := delivers @sort conforms
        rw [run] at run'
        cases run'
        obtain rfl := List.append_cancel_left (recorded.symm.trans recorded')
        exact (deliversEvents_iff conforms listening delivered something).mp holds
      refine ⟨(each @inserting inserting_conforms).1, ?_⟩
      cases sorted : wrapper.marpaWrapperOption.unsortedEventsb with
      | true => exact .inl rfl
      | false =>
        exact .inr ((sortEvents_ascending_iff sorted symbolEvents_ties).mp fun sort conforms =>
          (each @sort conforms).2 sorted)
    · rintro ⟨complete, kinds⟩ sort conforms
      obtain ⟨exchanges, final, run, recorded, delivered⟩ :=
        ReportingOperation.run_delivers { libc with qsort := @sort } reports begun known
      refine ⟨_, exchanges, final, run, recorded,
        (deliversEvents_iff conforms listening delivered something).mpr
          ⟨complete, fun sorted => ?_⟩⟩
      rcases kinds with unsorted | same
      · rw [unsorted] at sorted
        cases sorted
      · exact (sortEvents_ascending_iff sorted symbolEvents_ties).mpr same @sort conforms

end Delivery

/-! ### Batches of an Earley set -/

/-- A wrapper with one symbol, a recognizer and an event callback. -/
def listeningWrapper : Wrapper where
  address := 0
  marpaRecognizerp := some 0
  marpaWrapperSymbolpp := some { address := 0, cells := [.pointer
    { address := 0, marpaSymbolIdi := 0, marpaWrapperp := 0, isLexemeb := false, lengthl := 0
      marpaWrapperSymbolOption := marpaWrapperSymbolOptionDefaultb }] }
  marpaWrapperOption := { marpaWrapperOptionDefaultb with eventCallbackp := true }

/-- A libmarpa that reports a batch after each Earley set. -/
def reportingMarpa (batch : List (Nat × Int)) : Libmarpa Unit :=
  { Libmarpa.accepting with earlemeComplete := fun _ => (0, batch) }

theorem listeningWrapper_registers : Registers listeningWrapper.marpaWrapperSymbolpp 0 :=
  ⟨by decide, _, _, rfl, rfl, rfl⟩

/-- Two completed events are delivered. -/
theorem reportingOperation_delivers_iff_completed :
    ∃ result exchanges final,
      ReportingOperation.completeb.run { Libc.generous with qsort := @insertingBackwards }
        (reportingMarpa [(6, 0), (6, 0)]) listeningWrapper {} =
        .ok (result, listeningWrapper) final ∧
      final.events = [] ++ exchanges ∧
      DeliversEvents listeningWrapper [(6, 0), (6, 0)] exchanges := by
  have reports : (reportingMarpa [(6, 0), (6, 0)]).ReportsEvents := ⟨fun _ => rfl, fun _ _ => rfl⟩
  have known : listeningWrapper.KnowsEvents [(6, 0), (6, 0)] := by
    intro queued member _
    rw [List.eq_of_mem_replicate (n := 2) member]
    exact listeningWrapper_registers
  have tolerates : listeningWrapper.Tolerates [(6, 0), (6, 0)] := by
    unfold Wrapper.Tolerates
    decide
  have begun : ReportingOperation.completeb.begin (reportingMarpa [(6, 0), (6, 0)])
      listeningWrapper {} = .ok (true, listeningWrapper)
        { events := [.earlemeComplete 0], grammar := { events := [(6, 0), (6, 0)] } } := rfl
  exact (reportingOperation_delivers_iff reports begun rfl known tolerates).mpr
    (.inr ⟨rfl, by decide, .inr (by decide)⟩) @insertingBackwards insertingBackwards_conforms

/-- A completed event is lost when the recognizer is exhausted, and a predicted event comes before a
completed one when libmarpa reports it first. -/
theorem reportingOperation_delivers_exhausted :
    (∃ final, ReportingOperation.completeb.run Libc.generous (reportingMarpa [(6, 0), (3, 0)])
        listeningWrapper {} = .ok (false, listeningWrapper) final ∧
      ¬ DeliversEvents listeningWrapper [(6, 0), (3, 0)] final.events) ∧
    ∃ final, ReportingOperation.completeb.run Libc.generous (reportingMarpa [(9, 0), (6, 0)])
        listeningWrapper {} = .ok (true, listeningWrapper) final ∧
      ¬ DeliversEvents listeningWrapper [(9, 0), (6, 0)] final.events := by
  refine ⟨⟨_, rfl, fun delivers => ?_⟩, ⟨_, rfl, fun delivers => ?_⟩⟩
  · obtain ⟨delivered, once, -⟩ := delivers (by decide)
    cases once
  · obtain ⟨delivered, once, -, ascending⟩ := delivers (by decide)
    cases once
    exact absurd (ascending rfl) (by decide)

end MarpaWrapper
