/-
This file is about the failures inside `marpaWrapper_r_progressb`. Every one of
them makes the function return `FALSE`, and the table is in order after each. But
when the allocation of an item fails, the function returns in the middle of the
loops, and the traversal that libmarpa began is not finished.

A table that is larger than the prefill of its build reaches is the other defect:
a build that prefills with an `int` leaves the slots behind `INT_MAX` unassigned.
-/

import MarpaWrapper.ProgressReports

namespace MarpaWrapper

open Effects Sorting

variable {V : Type}

/-! ### What a call left behind -/

/-- The exchange with the outside failed. -/
def Event.fails : Event V → Bool
  | .malloc _ address => address.isNone
  | .realloc _ address => address.isNone
  | .earleme _ answer => answer == -2
  | .progressReportStart _ answer => answer < 0
  | .progressItem ruleId _ _ => ruleId == -2 || ruleId == -1
  | .progressReportFinish answer => answer < 0
  | _ => false

/-- Whether a traversal is open after an exchange. -/
def afterTraversal (opened : Bool) : Event V → Bool
  | .progressReportStart _ answer => opened || decide (0 ≤ answer)
  | .progressReportFinish _ => false
  | _ => opened

/-- The exchanges leave a traversal of a progress report open. -/
def leavesOpen (exchanges : List (Event V)) : Bool := exchanges.foldl afterTraversal false

/-- The address of the item object that an exchange allocates. -/
def Event.item? : Event V → Option Nat
  | .malloc bytes address => if bytes = marpaWrapperProgressSize then address else none
  | _ => none

/-- The item objects that were allocated. -/
def itemsIn (exchanges : List (Event V)) : List Nat := exchanges.filterMap Event.item?

/-- The exchange is a table that is larger than the prefill of the build reaches. -/
def Event.outgrows (build : Build) : Event V → Bool
  | .realloc bytes (some _) => build.reach * pointerSize < bytes
  | _ => false

/-- What a call has to leave: a failure inside it is reported by `FALSE`, without any output; no
traversal is open; and the table holds the item objects, each of them once, and `NULL` otherwise. -/
structure CleansUp (result : Option Nat) (wrapper : Wrapper) (exchanges : List (Event V)) :
    Prop where
  reports : (∃ event ∈ exchanges, event.fails = true) → result = none
  closed : leavesOpen exchanges = false
  holds : ∃ objects, Holds wrapper.marpaWrapperProgresspp wrapper.sizeMarpaWrapperProgressi objects ∧
    wrapper.nMarpaWrapperProgressi = objects.length ∧
    (objects.map (·.address)).Perm (itemsIn exchanges)

/-- The next call releases each item object once, and the table. -/
theorem CleansUp.releases {result : Option Nat} {wrapper : Wrapper} {exchanges : List (Event V)}
    (cleansUp : CleansUp result wrapper exchanges) (world : World V) :
    ∃ objects, (objects.map (·.address)).Perm (itemsIn exchanges) ∧
      manageBufFreev MarpaWrapperProgress.address wrapper.marpaWrapperProgresspp
        wrapper.nMarpaWrapperProgressi world =
      .ok () { world with
        events := world.events ++ MarpaWrapper.releases MarpaWrapperProgress.address
          wrapper.marpaWrapperProgresspp objects } := by
  obtain ⟨objects, holds, count, perm⟩ := cleansUp.holds
  refine ⟨objects, perm, ?_⟩
  rw [count]
  refine manageBufFreev_run holds.live ?_ world
  rw [holds.cells]
  exact List.take_left' (List.length_map _)

section Exchanges

variable {exchanges more : List (Event V)} {event : Event V}

theorem leavesOpen_append (exchanges : List (Event V)) (event : Event V) :
    leavesOpen (exchanges ++ [event]) = afterTraversal (leavesOpen exchanges) event := by
  unfold leavesOpen
  rw [List.foldl_append]
  rfl

/-- The exchanges with the allocator do not touch the traversal. -/
theorem leavesOpen_memory (memory : ∀ event ∈ more, event.ofMemory = true) :
    leavesOpen (exchanges ++ more) = leavesOpen exchanges := by
  induction more using List.reverseRecOn with
  | nil => rw [List.append_nil]
  | append_singleton more event inductionHypothesis =>
    obtain ⟨earlier, last⟩ := List.forall_mem_append.mp memory
    rw [← List.append_assoc, leavesOpen_append, inductionHypothesis earlier]
    have ofMemory := last event (List.mem_singleton_self _)
    cases event <;> first | rfl | cases ofMemory

theorem itemsIn_append (exchanges more : List (Event V)) :
    itemsIn (exchanges ++ more) = itemsIn exchanges ++ itemsIn more := List.filterMap_append

/-- Another exchange that allocates no item object. -/
theorem itemsIn_other (other : event.item? = none) :
    itemsIn (exchanges ++ [event]) = itemsIn exchanges := by
  rw [itemsIn_append, show itemsIn [event] = [] from List.filterMap_cons_none other,
    List.append_nil]

/-- A table is not an item object. -/
theorem TableRequest.item {address : Option Nat} {slots : Nat}
    (request : TableRequest address slots event) :
    event.item? = none ∧ event ≠ .malloc marpaWrapperProgressSize none := by
  cases request with
  | first => exact ⟨rfl, fun same => by injection same with size _; exact absurd size (by decide)⟩
  | again slots => exact ⟨rfl, fun same => by cases same⟩

/-- A table that is granted outgrows the reach of the build when its slots do. -/
theorem TableRequest.outgrows {address slots : Nat}
    (request : TableRequest (some address) slots event) (build : Build) :
    event.fails = false ∧ (event.outgrows build = true ↔ build.reach < slots) := by
  have large := build.limit_le_reach
  have larger := build.limit_large
  cases request with
  | first =>
    refine ⟨rfl, (fun grows => absurd grows Bool.false_ne_true), fun below => ?_⟩
    omega
  | again slots =>
    refine ⟨rfl, ?_⟩
    show decide (build.reach * pointerSize < slots * pointerSize) = true ↔ _
    rw [decide_eq_true_iff]
    exact Nat.mul_lt_mul_right (by decide)

/-- A table that is refused is a failure. -/
theorem TableRequest.fails {slots : Nat} (request : TableRequest none slots event) :
    event.fails = true ∧ ∀ build : Build, event.outgrows build = false := by
  cases request <;> exact ⟨rfl, fun _ => rfl⟩

end Exchanges

/-! ### The state of the loops -/

/-- Nothing has failed. -/
def AllSucceed (exchanges : List (Event V)) : Prop := ∀ event ∈ exchanges, event.fails = false

/-- Something has failed, but not the allocation of an item object. -/
def BrokenOff (exchanges : List (Event V)) : Prop :=
  (∃ event ∈ exchanges, event.fails = true) ∧ .malloc marpaWrapperProgressSize none ∉ exchanges

/-- The allocation of an item object has failed in the middle of a traversal. -/
def Abandoned (exchanges : List (Event V)) : Prop :=
  .malloc marpaWrapperProgressSize none ∈ exchanges ∧ leavesOpen exchanges = true

/-- The table stores the item objects that were allocated, and it is in reach as long as no request
outgrew it. -/
structure Tally (build : Build) (wrapper : Wrapper) (items : List MarpaWrapperProgress)
    (exchanges : List (Event V)) : Prop where
  report : HasReport build wrapper items
  few : items.length < build.limit
  counted : itemsIn exchanges = items.map (·.address)
  reach : wrapper.sizeMarpaWrapperProgressi ≤ build.reach ↔
    ∀ event ∈ exchanges, event.outgrows build = false
  known : ∀ object ∈ items, (wrapper.ruleIdOf object).isSome

/-- No traversal was begun. -/
def Unopened (exchanges : List (Event V)) : Prop :=
  AllSucceed exchanges ∧ leavesOpen exchanges = false

/-- The tally of what was exchanged since `start`. -/
structure Tallied (build : Build) (origin : Wrapper) (start : World V)
    (holds : List (Event V) → Prop) (wrapper : Wrapper) (world : World V) : Prop where
  frame : OnlyProgress origin wrapper
  tally : ∃ items exchanges, world.events = start.events ++ exchanges ∧ holds exchanges ∧
    Tally build wrapper items exchanges

/-- What is assumed of the memory and of libmarpa: there is room for fewer items than the
arithmetic of sizes is exact for, and the rules of the items are registered. -/
structure Bounded (libc : Libc V) (fuel : Nat) (build : Build) (marpa : Libmarpa V)
    (origin : Wrapper) (start : World V) : Prop where
  enough : 2 ^ 32 ≤ fuel
  room : ∀ exchanges, libc.grants (start.events ++ exchanges) marpaWrapperProgressSize = true →
    (itemsIn exchanges).length + 1 < build.limit
  known : ∀ events, (marpa.progressItem events).1 = -2 ∨ (marpa.progressItem events).1 = -1 ∨
    Registers origin.marpaWrapperRulepp (marpa.progressItem events).1

section Loops

variable {libc : Libc V} {fuel : Nat} {build : Build} {marpa : Libmarpa V} {origin wrapper : Wrapper}
  {start world : World V} {holds holds' : List (Event V) → Prop}

/-- An exchange that allocates nothing. -/
theorem Tally.exchange {items : List MarpaWrapperProgress} {exchanges : List (Event V)}
    (tally : Tally build wrapper items exchanges) {event : Event V} (other : event.item? = none)
    (grows : event.outgrows build = false) :
    Tally build wrapper items (exchanges ++ [event]) := by
  refine ⟨tally.report, tally.few, ?_, ?_, tally.known⟩
  · rw [itemsIn_other other, tally.counted]
  · rw [tally.reach, List.forall_mem_append, List.forall_mem_singleton]
    exact (and_iff_left grows).symm

theorem Tallied.exchange (tallied : Tallied build origin start holds wrapper world) {event : Event V}
    (other : event.item? = none) (grows : event.outgrows build = false)
    (next : ∀ exchanges, holds exchanges → holds' (exchanges ++ [event])) :
    Tallied build origin start holds' wrapper
      { world with events := world.events ++ [event] } := by
  obtain ⟨frame, items, exchanges, record, held, tally⟩ := tallied
  refine ⟨frame, items, exchanges ++ [event], ?_, next exchanges held, tally.exchange other grows⟩
  show world.events ++ [event] = _
  rw [record, List.append_assoc]

theorem Tallied.weaken (tallied : Tallied build origin start holds wrapper world)
    (weaker : ∀ exchanges, holds exchanges → holds' exchanges) :
    Tallied build origin start holds' wrapper world := by
  obtain ⟨frame, items, exchanges, record, held, tally⟩ := tallied
  exact ⟨frame, items, exchanges, record, weaker exchanges held, tally⟩

/-- Where the loops are left. -/
def ExitTallied (build : Build) (origin : Wrapper) (start : World V) (exit : ProgressExit)
    (world : World V) : Prop :=
  match exit with
  | .broken wrapper => Tallied build origin start BrokenOff wrapper world
  | .returned wrapper => Tallied build origin start Abandoned wrapper world

/-- In the middle of a traversal. -/
def Traversing (exchanges : List (Event V)) : Prop :=
  AllSucceed exchanges ∧ leavesOpen exchanges = true

theorem AllSucceed.append {exchanges : List (Event V)} (unfailed : AllSucceed exchanges) {event : Event V}
    (succeeds : event.fails = false) : AllSucceed (exchanges ++ [event]) :=
  List.forall_mem_append.mpr ⟨unfailed, List.forall_mem_singleton.mpr succeeds⟩

theorem AllSucceed.unrefused {exchanges : List (Event V)} (unfailed : AllSucceed exchanges) :
    .malloc marpaWrapperProgressSize none ∉ exchanges :=
  fun member => Bool.false_ne_true (unfailed _ member).symm

/-- A failure that is not one of an item object breaks the loops off. -/
theorem AllSucceed.breakOff {exchanges : List (Event V)} (unfailed : AllSucceed exchanges)
    {event : Event V} (fails : event.fails = true)
    (other : event ≠ .malloc marpaWrapperProgressSize none) :
    BrokenOff (exchanges ++ [event]) := by
  refine ⟨⟨event, List.mem_append_right _ (List.mem_singleton_self _), fails⟩, fun member => ?_⟩
  rcases List.mem_append.mp member with old | new
  · exact unfailed.unrefused old
  · exact other (List.mem_singleton.mp new).symm

/-- A failure of an item object is one in the middle of the traversal. -/
theorem Traversing.abandon {exchanges : List (Event V)} (traversing : Traversing exchanges) :
    Abandoned (exchanges ++ [.malloc marpaWrapperProgressSize none]) :=
  ⟨List.mem_append_right _ (List.mem_singleton_self _), by
    rw [leavesOpen_append, traversing.2]
    rfl⟩

/-- The request for a slot allocates no item. -/
theorem Tally.provided {items : List MarpaWrapperProgress} {exchanges : List (Event V)}
    (tally : Tally build wrapper items exchanges) {block : Block MarpaWrapperProgress} {size : Nat}
    {between : World V}
    (provided : Provided wrapper.marpaWrapperProgresspp wrapper.sizeMarpaWrapperProgressi world
      block size between) (traversing : Traversing exchanges) :
    ∃ more, between.events = world.events ++ more ∧ Traversing (exchanges ++ more) ∧
      itemsIn (exchanges ++ more) = items.map (·.address) ∧
      (size ≤ build.reach ↔ ∀ event ∈ exchanges ++ more, event.outgrows build = false) := by
  cases provided with
  | same _ size_eq same =>
    subst size_eq same
    refine ⟨[], by rw [List.append_nil], ?_⟩
    rw [List.append_nil]
    exact ⟨traversing, tally.counted, tally.reach⟩
  | @another event larger request _ same =>
    subst same
    obtain ⟨succeeds, outgrows⟩ := request.outgrows build
    refine ⟨[event], rfl, ⟨traversing.1.append succeeds, ?_⟩, ?_, ?_⟩
    · rw [leavesOpen_memory (List.forall_mem_singleton.mpr (by cases request <;> rfl)),
        traversing.2]
    · rw [itemsIn_other request.item.1, tally.counted]
    · rw [List.forall_mem_append, List.forall_mem_singleton, ← tally.reach, ← Bool.not_eq_true,
        outgrows]
      omega

/-- Storing an item. -/
theorem storeProgress_tallied (bounded : Bounded libc fuel build marpa origin start) (set : Int)
    {item : ProgressItem} (known : Registers origin.marpaWrapperRulepp item.1) :
    Triple (Tallied build origin start Traversing wrapper)
      (storeProgress libc fuel build wrapper set item.1 item.2.1 item.2.2)
      (AfterTurn (Tallied build origin start Traversing) (ExitTallied build origin start))
      fun _ _ => False := by
  rintro world ⟨frame, items, exchanges, record, traversing, tally⟩
  rw [← frame.rules] at known
  obtain ⟨outcome, world', run, stored⟩ :=
    storeProgress_run tally.report tally.few bounded.enough known libc set world
  rw [run]
  cases stored with
  | @roomless event bytes slots request refused =>
    have failing := request.fails
    refine ⟨frame, items, exchanges ++ [event], ?_,
      traversing.1.breakOff failing.1 request.item.2, tally.exchange request.item.1 (failing.2 _)⟩
    show world.events ++ [event] = _
    rw [record, List.append_assoc]
  | @itemless block size between provided stores refused =>
    obtain ⟨more, added, traversing', counted, reach⟩ := tally.provided provided traversing
    have tally' : Tally build { wrapper with
        marpaWrapperProgresspp := some block, sizeMarpaWrapperProgressi := size } items
        (exchanges ++ more) := 
        ⟨⟨stores, tally.report.count⟩, tally.few, counted, reach, tally.known⟩
    refine ⟨frame.trans ⟨_, _, _, rfl⟩, items, exchanges ++ more ++
      [.malloc marpaWrapperProgressSize none], ?_, traversing'.abandon, tally'.exchange rfl rfl⟩
    show between.events ++ _ = _
    rw [added, record]
    simp only [List.append_assoc]
  | @entered block table size between provided granted stores =>
    obtain ⟨more, added, traversing', counted, reach⟩ := tally.provided provided traversing
    have added' : between.events = start.events ++ (exchanges ++ more) := by
      rw [added, record, List.append_assoc]
    have few := bounded.room (exchanges ++ more) (added' ▸ granted)
    rw [counted, List.length_map] at few
    refine ⟨frame.trans ⟨_, _, _, rfl⟩, _, exchanges ++ more ++
      [.malloc marpaWrapperProgressSize (some between.nextAddress)], ?_,
      ⟨traversing'.1.append rfl, ?_⟩, ⟨stores, ?_⟩, ?_, ?_, ?_, ?_⟩
    · show between.events ++ _ = _
      rw [added']
      simp only [List.append_assoc]
    · rw [leavesOpen_append, traversing'.2]
      rfl
    · rw [List.length_append, ← tally.report.count]
      rfl
    · rw [List.length_append]
      exact few
    · rw [itemsIn_append, counted, List.map_append]
      rfl
    · exact reach.trans ⟨fun inside => List.forall_mem_append.mpr
        ⟨inside, List.forall_mem_singleton.mpr rfl⟩, fun inside =>
          (List.forall_mem_append.mp inside).1⟩
    · exact List.forall_mem_append.mpr
        ⟨tally.known, List.forall_mem_singleton.mpr (ruleIdOf_registered known rfl)⟩

/-- One item is taken and stored. -/
theorem itemTurn_tallied (bounded : Bounded libc fuel build marpa origin start) (set : Int)
    (index : Nat) (wrapper : Wrapper) :
    Triple (Tallied build origin start Traversing wrapper)
      (itemTurn libc fuel build marpa set index wrapper)
      (AfterTurn (Tallied build origin start Traversing) (ExitTallied build origin start))
      fun _ _ => False := by
  intro world tallied
  rw [itemTurn, run_bind_ok (run_ask ..)]
  simp only
  by_cases missing : (marpa.progressItem world.events).1 = -2 ∨
      (marpa.progressItem world.events).1 = -1
  · rw [if_pos missing]
    refine tallied.exchange rfl rfl fun exchanges traversing =>
      traversing.1.breakOff ?_ (fun same => by cases same)
    rcases missing with failed | ended
    · rw [Event.fails, failed]
      rfl
    · rw [Event.fails, ended]
      rfl
  · rw [if_neg missing]
    refine storeProgress_tallied bounded set
      ((or_assoc.mpr (bounded.known world.events)).resolve_left missing) _
      (tallied.exchange rfl rfl fun exchanges traversing => ⟨traversing.1.append ?_, ?_⟩)
    · obtain ⟨unfailed, present⟩ := not_or.mp missing
      rw [Event.fails, beq_eq_false_iff_ne.mpr unfailed, beq_eq_false_iff_ne.mpr present]
      rfl
    · rw [leavesOpen_append, traversing.2]
      rfl

/-- A loop leaves the tally as its turns do. -/
theorem turns_tallied {body : Nat → Wrapper → Exec V (Turn Wrapper ProgressExit)}
    (turn : ∀ index wrapper, Triple (Tallied build origin start holds wrapper) (body index wrapper)
      (AfterTurn (Tallied build origin start holds) (ExitTallied build origin start))
      fun _ _ => False) (indices : List Nat) (wrapper : Wrapper) :
    Triple (Tallied build origin start holds wrapper) (forEach body indices wrapper)
      (AfterTurn (Tallied build origin start holds) (ExitTallied build origin start))
      fun _ _ => False :=
  Triple.forEach (fun _ => Tallied build origin start holds)
    (fun index _ wrapper => turn index wrapper) indices wrapper

/-- One set is reported. -/
theorem setTurn_tallied (bounded : Bounded libc fuel build marpa origin start) (starti : Int)
    (offset : Nat) (wrapper : Wrapper) :
    Triple (Tallied build origin start AllSucceed wrapper)
      (setTurn libc fuel build marpa starti offset wrapper)
      (AfterTurn (Tallied build origin start AllSucceed) (ExitTallied build origin start))
      fun _ _ => False := by
  intro world tallied
  rw [show setTurn libc fuel build marpa starti offset wrapper world = _ from
    run_bind_ok (run_ask ..)]
  by_cases failed : marpa.earleme world.events (starti + offset) = -2
  · rw [if_pos failed]
    refine tallied.exchange rfl rfl fun exchanges unfailed =>
      unfailed.breakOff ?_ (fun same => by cases same)
    rw [Event.fails, failed]
    rfl
  · rw [if_neg failed, run_bind_ok (run_ask ..)]
    have asked : Tallied build origin start AllSucceed wrapper { world with
        events := world.events ++
          [.earleme (starti + offset) (marpa.earleme world.events (starti + offset))] } :=
      tallied.exchange rfl rfl fun exchanges unfailed =>
        unfailed.append (beq_eq_false_iff_ne.mpr failed)
    simp only
    by_cases negative : marpa.progressReportStart (world.events ++ [.earleme (starti + offset)
        (marpa.earleme world.events (starti + offset))]) (starti + offset) < 0
    · rw [if_pos negative]
      exact asked.exchange rfl rfl fun exchanges unfailed =>
        unfailed.breakOff (decide_eq_true negative) (fun same => by cases same)
    · rw [if_neg negative]
      have opens (exchanges : List (Event V)) (unfailed : AllSucceed exchanges) :
          Traversing (exchanges ++ [.progressReportStart (starti + offset)
            (marpa.progressReportStart (world.events ++ [.earleme (starti + offset)
              (marpa.earleme world.events (starti + offset))]) (starti + offset))]) :=
        ⟨unfailed.append (decide_eq_false negative), by
          rw [leavesOpen_append, afterTraversal, decide_eq_true (Int.not_lt.mp negative),
            Bool.or_true]⟩
      have opened := asked.exchange rfl rfl opens
      refine (turns_tallied (fun index => itemTurn_tallied bounded (starti + offset) index) _
        wrapper).consequence (fun _ holds => holds) (fun outcome _ after => ?_)
          (fun _ _ fails => fails) _ opened
      cases outcome with
      | next between => exact after.weaken fun _ traversing => traversing.1
      | done exit => exact after

/-- The loops end, in one of three ways. -/
theorem setLoop_tallied (bounded : Bounded libc fuel build marpa origin start) (starti : Int)
    (sets : Nat) (wrapper : Wrapper) :
    Triple (Tallied build origin start AllSucceed wrapper)
      (forEach (setTurn libc fuel build marpa starti) (List.range sets) wrapper)
      (AfterTurn (Tallied build origin start AllSucceed) (ExitTallied build origin start))
      fun _ _ => False :=
  turns_tallied (fun offset => setTurn_tallied bounded starti offset) _ wrapper

end Loops

/-! ### What the call leaves -/

section Leaves

variable {libc : Libc V} {fuel : Nat} {build : Build} {marpa : Libmarpa V} {origin wrapper : Wrapper}
  {start world : World V} {exchanges : List (Event V)} {items : List MarpaWrapperProgress}

/-- A call that ended the traversal and stored the item objects cleaned up exactly when no request
outgrew the reach of the build. -/
theorem HasReport.cleansUp_iff {result : Option Nat} (report : HasReport build wrapper items)
    (stored : (items.map (·.address)).Perm (itemsIn exchanges))
    (reach : wrapper.sizeMarpaWrapperProgressi ≤ build.reach ↔
      ∀ event ∈ exchanges, event.outgrows build = false)
    (reports : (∃ event ∈ exchanges, event.fails = true) → result = none)
    (closed : leavesOpen exchanges = false) :
    CleansUp result wrapper exchanges ↔ ∀ event ∈ exchanges, event.outgrows build = false := by
  rw [← reach]
  constructor
  · intro cleansUp
    obtain ⟨objects, holds, count, -⟩ := cleansUp.holds
    exact report.stores.holds_iff.mp ⟨objects, holds, count.symm.trans report.count⟩
  · intro inReach
    exact ⟨reports, closed, items, report.stores.holds inReach, report.count, stored⟩

theorem Tally.stored (tally : Tally build wrapper items exchanges) :
    (items.map (·.address)).Perm (itemsIn exchanges) := List.Perm.of_eq tally.counted.symm

/-- The end of the function finishes the traversal. -/
theorem finishProgress_cleansUp (conforms : Conforms libc.qsort) {rcb : Bool}
    (tally : Tally build wrapper items exchanges) (unfailed : rcb = true → AllSucceed exchanges)
    (world : World V) :
    ∃ result wrapper',
      finishProgress libc marpa rcb wrapper world =
        .ok (result, wrapper') { world with
          events := world.events ++
            [.progressReportFinish (marpa.progressReportFinish world.events)] } ∧
      (CleansUp result wrapper' (exchanges ++
          [.progressReportFinish (marpa.progressReportFinish world.events)]) ↔
        ∀ event ∈ exchanges ++ [.progressReportFinish (marpa.progressReportFinish world.events)],
          event.outgrows build = false) := by
  have tally' : Tally build wrapper items (exchanges ++
      [.progressReportFinish (marpa.progressReportFinish world.events)]) :=
    tally.exchange rfl rfl
  have closed : leavesOpen (exchanges ++
      [.progressReportFinish (marpa.progressReportFinish world.events)]) = false :=
    leavesOpen_append ..
  rw [finishProgress, run_bind_ok (run_ask ..)]
  by_cases succeeds : rcb = true ∧ ¬ marpa.progressReportFinish world.events < 0
  · rw [if_pos succeeds]
    obtain ⟨sorted, wrapper', sorts, report, perm, -, size⟩ :=
      sortProgress_sorts conforms tally'.report tally'.known { world with
        events := world.events ++
          [.progressReportFinish (marpa.progressReportFinish world.events)] }
    rw [run_bind_ok sorts]
    have reach := tally'.reach
    rw [← size] at reach
    refine ⟨_, wrapper', rfl, report.cleansUp_iff ((perm.map _).trans tally'.stored) reach
      (fun failed => ?_) closed⟩
    -- Nothing has failed.
    obtain ⟨event, member, fails⟩ := failed
    have passed : AllSucceed (exchanges ++
        [.progressReportFinish (marpa.progressReportFinish world.events)]) :=
      (unfailed succeeds.1).append (decide_eq_false succeeds.2)
    exact absurd ((passed event member).symm.trans fails) Bool.false_ne_true
  · rw [if_neg succeeds]
    exact ⟨none, wrapper, rfl,
      tally'.report.cleansUp_iff tally'.stored tally'.reach (fun _ => rfl) closed⟩

end Leaves

/-! ### The function -/

section Function

variable {libc : Libc V} {fuel : Nat} {build : Build} {marpa : Libmarpa V} {wrapper : Wrapper}
  {world : World V} {old : List MarpaWrapperProgress}

/-- The state before the loops. -/
theorem tallied_begin (table : Option (Block MarpaWrapperProgress)) (latest : Int) :
    Tallied build wrapper world Unopened
      { wrapper with
        marpaWrapperProgresspp := none
        sizeMarpaWrapperProgressi := 0
        nMarpaWrapperProgressi := 0 }
      { world with
        events := world.events ++ releases MarpaWrapperProgress.address table old ++
          [.latestEarleySet latest] } := by
  have free := releases_free (V := V) old table
  have released : Tallied build wrapper world Unopened
      { wrapper with
        marpaWrapperProgresspp := none
        sizeMarpaWrapperProgressi := 0
        nMarpaWrapperProgressi := 0 }
      { world with events := world.events ++ releases MarpaWrapperProgress.address table old } := by
    refine ⟨⟨_, _, _, rfl⟩, [], _, rfl, ⟨fun event member => ?_, ?_⟩,
      ⟨⟨Stores.empty build, rfl⟩, ?_, ?_, ?_, fun _ member => nomatch member⟩⟩
    · obtain ⟨address, rfl⟩ := free event member
      rfl
    · show leavesOpen ([] ++ releases MarpaWrapperProgress.address table old) = false
      rw [leavesOpen_memory (releases_ofMemory table)]
      rfl
    · have := build.limit_large
      exact Nat.lt_of_lt_of_le (by decide) this
    · refine List.filterMap_eq_nil_iff.mpr fun event member => ?_
      obtain ⟨address, rfl⟩ := free event member
      rfl
    · refine ⟨fun _ event member => ?_, fun _ => Nat.zero_le _⟩
      obtain ⟨address, rfl⟩ := free event member
      rfl
  exact released.exchange rfl rfl fun _ unopened =>
    ⟨unopened.1.append rfl, by rw [leavesOpen_append, unopened.2]; rfl⟩

/-- Whatever fails inside the function, it returns, and it cleans up after itself exactly when no
item object was refused its memory and no table outgrew the prefill. -/
theorem marpaWrapperRProgressb_cleansUp_iff (conforms : Conforms libc.qsort)
    (bounded : Bounded libc fuel build marpa wrapper world)
    (present : wrapper.marpaRecognizerp.isSome = true) (reported : HasReport build wrapper old)
    (starti endi : Int) :
    ∃ result wrapper' world' exchanges,
      marpaWrapperRProgressb libc fuel build marpa wrapper starti endi world =
        .ok (result, wrapper') world' ∧
      world'.events = world.events ++ exchanges ∧
      (CleansUp result wrapper' exchanges ↔
        .malloc marpaWrapperProgressSize none ∉ exchanges ∧
          ∀ event ∈ exchanges, event.outgrows build = false) := by
  let released := world.events ++
    releases MarpaWrapperProgress.address wrapper.marpaWrapperProgresspp old
  let latest := marpa.latestEarleySet released
  let cleared : Wrapper := { wrapper with
    marpaWrapperProgresspp := none
    sizeMarpaWrapperProgressi := 0
    nMarpaWrapperProgressi := 0 }
  let asked : World V := { world with events := released ++ [.latestEarleySet latest] }
  have release : manageBufFreev MarpaWrapperProgress.address wrapper.marpaWrapperProgresspp
      wrapper.nMarpaWrapperProgressi world = .ok () { world with events := released } := by
    rw [reported.count]
    exact manageBufFreev_run reported.stores.live reported.stores.take world
  have begun : Tallied build wrapper world Unopened cleared asked := tallied_begin _ latest
  rw [show marpaWrapperRProgressb libc fuel build marpa wrapper starti endi world = _ from
    (congrFun (if_neg (by rw [Option.isNone_eq_false_iff.mpr present]; decide)) world).trans
      ((run_bind_ok release).trans (run_bind_ok (run_ask ..)))]
  by_cases outside : rangeArgument starti latest < 0 ∨ latest < rangeArgument starti latest ∨
      rangeArgument endi latest < 0 ∨ latest < rangeArgument endi latest ∨
      rangeArgument endi latest < rangeArgument starti latest
  · rw [if_pos outside]
    obtain ⟨-, items, exchanges, record, ⟨unfailed, closed⟩, tally⟩ := begun
    refine ⟨none, cleared, asked, exchanges, rfl, record, ?_⟩
    rw [tally.report.cleansUp_iff tally.stored tally.reach (fun _ => rfl) closed]
    exact (and_iff_right unfailed.unrefused).symm
  · rw [if_neg outside]
    have loops := setLoop_tallied bounded (rangeArgument starti latest)
      (rangeArgument endi latest - rangeArgument starti latest + 1).toNat cleared asked
      (begun.weaken fun _ unopened => unopened.1)
    cases run : forEach (setTurn libc fuel build marpa (rangeArgument starti latest))
        (List.range (rangeArgument endi latest - rangeArgument starti latest + 1).toNat) cleared
        asked with
    | error fault world' => rw [run] at loops; exact loops.elim
    | ok outcome between =>
      rw [run] at loops
      rw [run_bind_ok run]
      have finishes (rcb : Bool) (after : Wrapper) (holds : List (Event V) → Prop)
          (tallied : Tallied build wrapper world holds after between)
          (unfailed : ∀ exchanges, holds exchanges → rcb = true → AllSucceed exchanges)
          (unrefused : ∀ exchanges, holds exchanges →
            .malloc marpaWrapperProgressSize none ∉ exchanges) :
          ∃ result wrapper' world' exchanges,
            finishProgress libc marpa rcb after between = .ok (result, wrapper') world' ∧
            world'.events = world.events ++ exchanges ∧
            (CleansUp result wrapper' exchanges ↔
              .malloc marpaWrapperProgressSize none ∉ exchanges ∧
                ∀ event ∈ exchanges, event.outgrows build = false) := by
        obtain ⟨-, items, exchanges, record, held, tally⟩ := tallied
        obtain ⟨result, wrapper', finish, iff⟩ := finishProgress_cleansUp conforms tally
          (unfailed exchanges held) between
        refine ⟨result, wrapper', _, _, finish, ?_, iff.trans (and_iff_right ?_).symm⟩
        · show between.events ++ _ = _
          rw [record, List.append_assoc]
        · intro member
          rcases List.mem_append.mp member with old | new
          · exact unrefused exchanges held old
          · cases List.mem_singleton.mp new
      cases outcome with
      | next after =>
        exact finishes true after AllSucceed loops (fun _ unfailed _ => unfailed)
          fun _ unfailed => unfailed.unrefused
      | done exit =>
        cases exit with
        | broken after =>
          exact finishes false after BrokenOff loops (fun _ _ same => nomatch same)
            fun _ brokenOff => brokenOff.2
        | returned after =>
          obtain ⟨-, items, exchanges, record, ⟨refused, opened⟩, tally⟩ := loops
          refine ⟨none, after, between, exchanges, rfl, record, fun cleansUp => ?_,
            fun unrefused => absurd refused unrefused.1⟩
          exact absurd (cleansUp.closed.symm.trans opened) Bool.false_ne_true

end Function

/-! ### Instances -/

/-- A C library that refuses every item object. -/
def Libc.withoutItems : Libc V where
  grants _ bytes := bytes != marpaWrapperProgressSize
  qsort := inserting

/-- What a report on two sets leaves: whether it failed, whether a traversal is open, and whether an
exchange failed. -/
def cleanupObservation (libc : Libc Nat) : Option (Bool × Bool × Bool) :=
  match marpaWrapperRProgressb libc 200 {} (Libmarpa.reporting twoSets) startedWrapper 0 1 {} with
  | .ok (result, _) world' => some (result.isNone, leavesOpen world'.events,
      world'.events.any Event.fails)
  | .error _ _ => none

/-- The first item object is refused, and the traversal stays open. -/
theorem marpaWrapperRProgressb_leaves_open : ∃ result wrapper' world',
    marpaWrapperRProgressb Libc.withoutItems 200 {} (Libmarpa.reporting twoSets) startedWrapper 0 1
      ({} : World Nat) = .ok (result, wrapper') world' ∧
    (∃ event ∈ world'.events, event.fails = true) ∧ result = none ∧
    leavesOpen world'.events = true ∧ ¬ CleansUp result wrapper' world'.events := by
  have observed : cleanupObservation Libc.withoutItems = some (true, true, true) := by
    decide +kernel
  unfold cleanupObservation at observed
  cases run : marpaWrapperRProgressb Libc.withoutItems 200 {} (Libmarpa.reporting twoSets)
      startedWrapper 0 1 ({} : World Nat) with
  | error fault world' => rw [run] at observed; cases observed
  | ok outcome world' =>
    obtain ⟨result, wrapper'⟩ := outcome
    rw [run] at observed
    injection observed with parts
    injection parts with failed parts
    injection parts with opened fails
    exact ⟨result, wrapper', world', rfl, List.any_eq_true.mp fails, Option.isNone_iff_eq_none.mp
      failed, opened, fun cleansUp => Bool.false_ne_true (cleansUp.closed.symm.trans opened)⟩

/-- A C library with room for two item objects. -/
def Libc.withTwoItems : Libc V where
  grants events bytes := bytes != marpaWrapperProgressSize || (itemsIn events).length < 2
  qsort := inserting

theorem twoItems_bounded : Bounded (V := Nat) Libc.withTwoItems (2 ^ 32) {}
    (Libmarpa.reporting twoSets) startedWrapper {} where
  enough := Nat.le_refl _
  room exchanges granted := by
    have fewer : (itemsIn exchanges).length < 2 := of_decide_eq_true granted
    have := Build.limit_large {}
    omega
  known events := by
    rw [show (Libmarpa.reporting twoSets).progressItem events =
      (remaining twoSets events).headD (-1, 0, 0) from rfl]
    cases left : remaining twoSets events with
    | nil => exact .inr (.inl rfl)
    | cons item rest =>
      obtain ⟨set, member⟩ := remaining_mem item (left ▸ List.mem_cons_self)
      exact .inr (.inr (twoSets_registered set item member))

/-- A report for whose third item there is no memory. -/
theorem marpaWrapperRProgressb_cleansUp_iff_refused : ∃ result wrapper' world' exchanges,
    marpaWrapperRProgressb (V := Nat) Libc.withTwoItems (2 ^ 32) {} (Libmarpa.reporting twoSets)
      startedWrapper 0 1 {} = .ok (result, wrapper') world' ∧
    world'.events = [] ++ exchanges ∧
    (CleansUp result wrapper' exchanges ↔
      .malloc marpaWrapperProgressSize none ∉ exchanges ∧
        ∀ event ∈ exchanges, event.outgrows {} = false) :=
  marpaWrapperRProgressb_cleansUp_iff inserting_conforms twoItems_bounded rfl
    ⟨Stores.empty _, rfl⟩ 0 1

end MarpaWrapper
