/-
This file proves that a progress report is complete and sorted. What libmarpa
has to report is a family of lists, one for each Earley set, of which a call of
`marpa_r_progress_report_start` chooses one and each call of
`marpa_r_progress_item` takes the next item. The wrapper stores all items of the
sets of the range behind one another and sorts them by rule and position.
-/

import MarpaWrapper.Frames
import MarpaWrapper.ProgressTable

namespace MarpaWrapper

open Effects Sorting

variable {V : Type}

/-! ### Reports -/

/-- The wrapper has a report: its table stores the items and its count is theirs. -/
structure HasReport (build : Build) (wrapper : Wrapper) (items : List MarpaWrapperProgress) :
    Prop where
  stores : Stores build wrapper.marpaWrapperProgresspp wrapper.sizeMarpaWrapperProgressi items
  count : wrapper.nMarpaWrapperProgressi = items.length

/-- A progress item as libmarpa answers it: a rule id, a position and an origin. -/
abbrev ProgressItem := Int × Int × Int

/-- What the wrapper stores for an item of an Earley set. -/
def progressObject (address : Nat) (marpaEarleySetIdi : Int) (item : ProgressItem) :
    MarpaWrapperProgress where
  address := address
  marpaEarleySetIdi := marpaEarleySetIdi
  marpaEarleySetIdOrigini := item.2.2
  marpaWrapperRulep := registered item.1
  positioni := item.2.1

/-- A stored item without its place in memory. -/
def MarpaWrapperProgress.withoutAddress (object : MarpaWrapperProgress) : MarpaWrapperProgress :=
  { object with address := 0 }

/-- The items of the sets of a range, each with its set, its origin, its position and its rule. -/
def reportOf (family : Int → List ProgressItem) (first : Int) (sets : Nat) :
    List MarpaWrapperProgress :=
  (List.range sets).flatMap fun offset : Nat =>
    (family (first + offset)).map (progressObject 0 (first + offset))

/-- How an exchange changes what is left of a set's report. -/
def afterExchange (family : Int → List ProgressItem) (left : List ProgressItem) :
    Event V → List ProgressItem
  | .progressReportStart set _ => family set
  | .progressItem _ _ _ => left.tail
  | _ => left

/-- What is left of the set whose report was started last. -/
def remaining (family : Int → List ProgressItem) (exchanges : List (Event V)) : List ProgressItem :=
  exchanges.foldl (afterExchange family) []

/-- After the record `before`, libmarpa reports the items of a family for the sets up to the latest
one, and no call fails. -/
structure Libmarpa.ReportsProgress (marpa : Libmarpa V) (before : List (Event V)) (latest : Int)
    (family : Int → List ProgressItem) : Prop where
  last : ∀ exchanges, (∀ event ∈ exchanges, event.ofProgress = true) →
    marpa.latestEarleySet (before ++ exchanges) = latest
  earleme : ∀ exchanges, (∀ event ∈ exchanges, event.ofProgress = true) →
    ∀ set, 0 ≤ set → set ≤ latest → marpa.earleme (before ++ exchanges) set ≠ -2
  start : ∀ exchanges, (∀ event ∈ exchanges, event.ofProgress = true) →
    ∀ set, 0 ≤ set → set ≤ latest →
      marpa.progressReportStart (before ++ exchanges) set = (family set).length
  item : ∀ exchanges, (∀ event ∈ exchanges, event.ofProgress = true) →
    ∀ item rest, remaining family exchanges = item :: rest →
      marpa.progressItem (before ++ exchanges) = item
  finish : ∀ exchanges, (∀ event ∈ exchanges, event.ofProgress = true) →
    0 ≤ marpa.progressReportFinish (before ++ exchanges)

/-! ### Storing an item -/

section Store

variable {libc : Libc V} {fuel : Nat} {build : Build} {wrapper : Wrapper}
  {items : List MarpaWrapperProgress} {set : Int} {item : ProgressItem} {world : World V}

/-- What storing an item comes to: the table or the item is refused its memory, or the item is
entered behind the others. -/
inductive Stored (libc : Libc V) (build : Build) (wrapper : Wrapper)
    (items : List MarpaWrapperProgress) (set : Int) (item : ProgressItem) (world : World V) :
    Turn Wrapper ProgressExit → World V → Prop
  | roomless {event : Event V} {bytes slots : Nat} (request : TableRequest none slots event)
      (refused : libc.grants world.events bytes = false) :
      Stored libc build wrapper items set item world (.done (.broken wrapper))
        { world with events := world.events ++ [event] }
  | itemless {block : Block MarpaWrapperProgress} {size : Nat} {between : World V}
      (provided : Provided wrapper.marpaWrapperProgresspp wrapper.sizeMarpaWrapperProgressi world
        block size between)
      (stores : Stores build (some block) size items)
      (refused : libc.grants between.events marpaWrapperProgressSize = false) :
      Stored libc build wrapper items set item world
        (.done (.returned { wrapper with
          marpaWrapperProgresspp := some block, sizeMarpaWrapperProgressi := size }))
        { between with events := between.events ++ [.malloc marpaWrapperProgressSize none] }
  | entered {block table : Block MarpaWrapperProgress} {size : Nat} {between : World V}
      (provided : Provided wrapper.marpaWrapperProgresspp wrapper.sizeMarpaWrapperProgressi world
        block size between)
      (granted : libc.grants between.events marpaWrapperProgressSize = true)
      (stores : Stores build (some table) size
        (items ++ [progressObject between.nextAddress set item])) :
      Stored libc build wrapper items set item world
        (.next { wrapper with
          marpaWrapperProgresspp := some table
          sizeMarpaWrapperProgressi := size
          nMarpaWrapperProgressi := wrapper.nMarpaWrapperProgressi + 1 })
        { between with
          events := between.events ++ [.malloc marpaWrapperProgressSize (some between.nextAddress)]
          nextAddress := between.nextAddress + 1 }

/-- Storing an item ends, and it does not leave the table. -/
theorem storeProgress_run (reported : HasReport build wrapper items)
    (few : items.length < build.limit) (enough : 2 ^ 32 ≤ fuel)
    (known : Registers wrapper.marpaWrapperRulepp item.1) (libc : Libc V) (set : Int)
    (world : World V) :
    ∃ outcome world',
      storeProgress libc fuel build wrapper set item.1 item.2.1 item.2.2 world =
        .ok outcome world' ∧
      Stored libc build wrapper items set item world outcome world' := by
  rw [storeProgress]
  rcases manageBufCreatep_stores libc reported.stores few enough world with
    ⟨event, bytes, slots, request, refused, run⟩ |
    ⟨block, size, between, run, room, stores, provided⟩
  · rw [← reported.count] at run
    rw [run_bind_ok run]
    exact ⟨_, _, rfl, .roomless request refused⟩
  · rw [← reported.count] at run
    rw [run_bind_ok run]
    simp only
    cases granted : libc.grants between.events marpaWrapperProgressSize with
    | false =>
      rw [malloc, run_bind_ok (run_acquire_refused granted)]
      exact ⟨_, _, rfl, .itemless provided stores granted⟩
    | true =>
      rw [malloc, run_bind_ok (run_acquire_granted granted)]
      simp only
      rw [run_bind_ok (readPointer_registered known _)]
      have inside : items.length < block.cells.length := by
        have : block.cells.length = size := stores.length
        omega
      have wrote (object : MarpaWrapperProgress) (state : World V) :
          writeArray block (wrapper.nMarpaWrapperProgressi : Nat) (.pointer object) state =
            .ok { block with cells := block.cells.set items.length (.pointer object) } state := by
        rw [reported.count, writeArray, run_bind_ok (useBlock_live (stores.live block rfl) state),
          if_neg (by omega), Int.toNat_natCast, writeCell, if_pos inside]
        rfl
      rw [run_bind_ok (wrote _ _)]
      exact ⟨_, _, rfl, .entered provided granted (stores.push room few _)⟩

end Store

/-! ### Going through the sets -/

section Sets

variable {libc : Libc V} {fuel : Nat} {build : Build} {marpa : Libmarpa V} {origin : Wrapper}
  {start : World V} {latest : Int} {family : Int → List ProgressItem}

theorem remaining_append (exchanges : List (Event V)) (event : Event V) :
    remaining family (exchanges ++ [event]) =
      afterExchange family (remaining family exchanges) event := by
  unfold remaining
  rw [List.foldl_append]
  rfl

/-- What is left are items of some set. -/
theorem remaining_mem {exchanges : List (Event V)} :
    ∀ item ∈ remaining family exchanges, ∃ set, item ∈ family set := by
  induction exchanges using List.reverseRecOn with
  | nil => exact fun _ member => nomatch member
  | append_singleton exchanges event inductionHypothesis =>
    rw [remaining_append]
    intro item member
    cases event
    case progressReportStart set answer => exact ⟨set, member⟩
    case progressItem => exact inductionHypothesis item (List.mem_of_mem_tail member)
    all_goals exact inductionHypothesis item member

/-- The exchanges with the allocator do not touch the report of a set. -/
theorem remaining_memory {exchanges more : List (Event V)}
    (memory : ∀ event ∈ more, event.ofMemory = true) :
    remaining family (exchanges ++ more) = remaining family exchanges := by
  induction more using List.reverseRecOn with
  | nil => rw [List.append_nil]
  | append_singleton more event inductionHypothesis =>
    obtain ⟨earlier, last⟩ := List.forall_mem_append.mp memory
    rw [← List.append_assoc, remaining_append, inductionHypothesis earlier]
    have ofMemory := last event (List.mem_singleton_self _)
    cases event <;> first | rfl | cases ofMemory

theorem Provided.memory {α : Type} {ppp : Option (Block α)} {size size' : Nat} {block : Block α}
    {world world' : World V} (provided : Provided ppp size world block size' world') :
    ∃ exchanges, world'.events = world.events ++ exchanges ∧
      ∀ event ∈ exchanges, event.ofMemory = true := by
  cases provided with
  | same _ _ same => exact ⟨[], by rw [same, List.append_nil], fun _ member => nomatch member⟩
  | another _ request _ same =>
    refine ⟨_, by rw [same], List.forall_mem_singleton.mpr ?_⟩
    cases request <;> rfl

/-- What the loops have done: the items stored so far, and what is left of the set at hand. -/
structure Progressing (build : Build) (origin : Wrapper) (start : World V)
    (family : Int → List ProgressItem) (done : List MarpaWrapperProgress) (left : List ProgressItem)
    (wrapper : Wrapper) (world : World V) : Prop where
  frame : OnlyProgress origin wrapper
  reported : ∃ items, HasReport build wrapper items ∧ items.map (·.withoutAddress) = done
  record : ∃ exchanges, world.events = start.events ++ exchanges ∧
    (∀ event ∈ exchanges, event.ofProgress = true) ∧ remaining family exchanges = left

/-- An exchange leaves what it leaves of the set. -/
theorem Progressing.exchange {done : List MarpaWrapperProgress} {left : List ProgressItem}
    {wrapper : Wrapper} {world : World V}
    (progressing : Progressing build origin start family done left wrapper world) (event : Event V)
    (ofProgress : event.ofProgress = true) :
    Progressing build origin start family done (afterExchange family left event) wrapper
      { world with events := world.events ++ [event] } := by
  obtain ⟨frame, reported, exchanges, record, kind, rfl⟩ := progressing
  refine ⟨frame, reported, exchanges ++ [event], ?_, List.forall_mem_append.mpr
    ⟨kind, List.forall_mem_singleton.mpr ofProgress⟩, remaining_append ..⟩
  show world.events ++ [event] = _
  rw [record, List.append_assoc]

/-- What the hypotheses of a report are: memory is granted, libmarpa reports registered rules, and
its calls succeed. -/
structure Succeeds (libc : Libc V) (fuel : Nat) (marpa : Libmarpa V) (origin : Wrapper)
    (start : World V) (latest : Int) (family : Int → List ProgressItem) : Prop where
  grants : libc.AlwaysGrants
  enough : 2 ^ 32 ≤ fuel
  reports : marpa.ReportsProgress start.events latest family
  known : ∀ set, 0 ≤ set → set ≤ latest → ∀ item ∈ family set,
    Registers origin.marpaWrapperRulepp item.1

theorem OnlyProgress.rules {wrapper : Wrapper} (frame : OnlyProgress origin wrapper) :
    wrapper.marpaWrapperRulepp = origin.marpaWrapperRulepp := by
  obtain ⟨_, _, _, rfl⟩ := frame
  rfl

/-- One item is taken and stored. -/
theorem itemTurn_progresses (succeeds : Succeeds libc fuel marpa origin start latest family)
    (build : Build) (done : List MarpaWrapperProgress) {item : ProgressItem}
    (rest : List ProgressItem) {set : Int}
    (inside : 0 ≤ set) (inside' : set ≤ latest) (member : item ∈ family set)
    (few : done.length < 2 ^ 31) (index : Nat) (wrapper : Wrapper) :
    Triple (Progressing build origin start family done (item :: rest) wrapper)
      (itemTurn libc fuel build marpa set index wrapper)
      (AfterTurn (Progressing build origin start family (done ++ [progressObject 0 set item]) rest)
        fun _ _ => False) fun _ _ => False := by
  intro world progressing
  have answer : marpa.progressItem world.events = item := by
    obtain ⟨exchanges, record, kind, left⟩ := progressing.record
    rw [record]
    exact succeeds.reports.item exchanges kind item rest left
  have taken := progressing.exchange (.progressItem item.1 item.2.1 item.2.2) rfl
  obtain ⟨frame, ⟨items, reported, rfl⟩, exchanges, record, kind, left⟩ := taken
  have known : Registers wrapper.marpaWrapperRulepp item.1 := by
    rw [frame.rules]
    exact succeeds.known set inside inside' item member
  have valid : ¬ (item.1 = -2 ∨ item.1 = -1) := by
    have := known.1
    omega
  have limited : items.length < build.limit := by
    have := build.limit_large
    rw [List.length_map] at few
    omega
  obtain ⟨outcome, world', run, stored⟩ :=
    storeProgress_run reported limited succeeds.enough known libc set { world with
      events := world.events ++ [.progressItem item.1 item.2.1 item.2.2] }
  have turn : itemTurn libc fuel build marpa set index wrapper world = .ok outcome world' := by
    rw [itemTurn, run_bind_ok (run_ask ..), answer]
    simp only
    rw [if_neg valid]
    exact run
  rw [turn]
  cases stored with
  | roomless _ refused => rw [succeeds.grants] at refused; cases refused
  | itemless _ _ refused => rw [succeeds.grants] at refused; cases refused
  | @entered block table size between provided _ stores =>
    obtain ⟨memory, added, ofMemory⟩ := provided.memory
    have ofMemory' : ∀ event ∈ memory ++
        [.malloc marpaWrapperProgressSize (some between.nextAddress)], event.ofMemory = true :=
      List.forall_mem_append.mpr ⟨ofMemory, List.forall_mem_singleton.mpr rfl⟩
    refine ⟨frame.trans ⟨_, _, _, rfl⟩, ⟨_, ⟨stores, ?_⟩, ?_⟩, exchanges ++ (memory ++
        [.malloc marpaWrapperProgressSize (some between.nextAddress)]), ?_,
      List.forall_mem_append.mpr ⟨kind, fun event here =>
        Event.ofProgress_of_memory (ofMemory' event here)⟩, ?_⟩
    · rw [List.length_append, ← reported.count]
      rfl
    · rw [List.map_append]
      rfl
    · show between.events ++ _ = _
      rw [added, record]
      simp only [List.append_assoc]
    · rw [remaining_memory ofMemory', left]
      rfl

/-- All items of a set. -/
theorem itemLoop_progresses (succeeds : Succeeds libc fuel marpa origin start latest family)
    {done : List MarpaWrapperProgress} {set : Int} (inside : 0 ≤ set) (inside' : set ≤ latest)
    (few : done.length + (family set).length < 2 ^ 31) (wrapper : Wrapper) :
    Triple (Progressing build origin start family done (family set) wrapper)
      (forEach (itemTurn libc fuel build marpa set) (List.range (family set).length) wrapper)
      (AfterTurn (Progressing build origin start family
        (done ++ (family set).map (progressObject 0 set)) []) fun _ _ => False)
      fun _ _ => False := by
  have turn (index : Nat) (below : index < (family set).length) (between : Wrapper) :
      Triple (Progressing build origin start family
          (done ++ ((family set).take index).map (progressObject 0 set))
          ((family set).drop index) between)
        (itemTurn libc fuel build marpa set index between)
        (AfterTurn (Progressing build origin start family
          (done ++ ((family set).take (index + 1)).map (progressObject 0 set))
          ((family set).drop (index + 1))) fun _ _ => False) fun _ _ => False := by
    have fewer : (done ++ ((family set).take index).map (progressObject 0 set)).length < 2 ^ 31 := by
      rw [List.length_append, List.length_map, List.length_take]
      omega
    have item := itemTurn_progresses succeeds build _ ((family set).drop (index + 1)) inside inside'
      (List.getElem_mem below) fewer index between
    rwa [List.append_assoc, ← List.map_singleton (f := progressObject 0 set), ← List.map_append,
      List.take_append_getElem, List.getElem_cons_drop] at item
  have turns := Triple.forEach_range _ turn wrapper
  rwa [List.take_zero, List.map_nil, List.append_nil, List.drop_zero, List.take_length,
    List.drop_length] at turns

/-- What is reported of the sets of a range that has one more. -/
theorem reportOf_succ (first : Int) (sets : Nat) :
    reportOf family first (sets + 1) = reportOf family first sets ++
      (family (first + sets)).map (progressObject 0 (first + sets)) := by
  unfold reportOf
  rw [List.range_succ, List.flatMap_append, List.flatMap_singleton]

/-- The sets of a range have more items than the first of them. -/
theorem reportOf_length_le (family : Int → List ProgressItem) (first : Int) {some all : Nat} (fewer : some ≤ all) :
    (reportOf family first some).length ≤ (reportOf family first all).length := by
  induction fewer with
  | refl => exact Nat.le_refl _
  | step _ inductionHypothesis =>
    rw [reportOf_succ, List.length_append]
    omega

/-- One set is reported. -/
theorem setTurn_progresses (succeeds : Succeeds libc fuel marpa origin start latest family)
    {done : List MarpaWrapperProgress} {starti : Int} {offset : Nat} (inside : 0 ≤ starti)
    (inside' : starti + offset ≤ latest)
    (few : done.length + (family (starti + offset)).length < 2 ^ 31) (wrapper : Wrapper) :
    Triple (Progressing build origin start family done [] wrapper)
      (setTurn libc fuel build marpa starti offset wrapper)
      (AfterTurn (Progressing build origin start family (done ++
        (family (starti + offset)).map (progressObject 0 (starti + offset))) [])
        fun _ _ => False) fun _ _ => False := by
  intro world progressing
  have nonneg : 0 ≤ starti + offset := by omega
  have earleme : marpa.earleme world.events (starti + offset) ≠ -2 := by
    obtain ⟨exchanges, record, kind, -⟩ := progressing.record
    rw [record]
    exact succeeds.reports.earleme exchanges kind _ nonneg inside'
  have asked := progressing.exchange
    (.earleme (starti + offset) (marpa.earleme world.events (starti + offset))) rfl
  have items : marpa.progressReportStart (world.events ++ [.earleme (starti + offset)
      (marpa.earleme world.events (starti + offset))]) (starti + offset) =
      (family (starti + offset)).length := by
    obtain ⟨exchanges, record, kind, -⟩ := asked.record
    simp only at record
    rw [record]
    exact succeeds.reports.start exchanges kind _ nonneg inside'
  have opened := asked.exchange
    (.progressReportStart (starti + offset) (family (starti + offset)).length) rfl
  rw [show setTurn libc fuel build marpa starti offset wrapper world = _ from
    run_bind_ok (run_ask ..), if_neg earleme, run_bind_ok (run_ask ..)]
  simp only
  rw [items, if_neg (Int.not_lt.mpr (Int.natCast_nonneg _)), Int.toNat_natCast]
  exact itemLoop_progresses succeeds nonneg inside' few wrapper _ opened

/-- All sets of the range. -/
theorem setLoop_progresses (succeeds : Succeeds libc fuel marpa origin start latest family)
    {starti : Int} {sets : Nat} (inside : 0 ≤ starti) (inside' : starti + sets ≤ latest + 1)
    (few : (reportOf family starti sets).length < 2 ^ 31) (wrapper : Wrapper) :
    Triple (Progressing build origin start family [] [] wrapper)
      (forEach (setTurn libc fuel build marpa starti) (List.range sets) wrapper)
      (AfterTurn (Progressing build origin start family (reportOf family starti sets) [])
        fun _ _ => False) fun _ _ => False := by
  refine Triple.forEach_range (fun offset =>
    Progressing build origin start family (reportOf family starti offset) [])
      (fun offset below between => ?_) wrapper
  have fewer := reportOf_length_le family starti (Nat.succ_le_of_lt below)
  rw [reportOf_succ, List.length_append, List.length_map] at fewer
  rw [reportOf_succ]
  exact setTurn_progresses succeeds inside (by omega) (Nat.lt_of_le_of_lt fewer few) between

end Sets

/-! ### Sorting -/

/-- The comparator compares rules first, and positions where the rules are the same. -/
theorem marpaWrapperProgressCmp_le {left right : Int × MarpaWrapperProgress} :
    marpaWrapperProgressCmp left right ≤ 0 ↔
      left.1 < right.1 ∨ left.1 = right.1 ∧ left.2.positioni ≤ right.2.positioni := by
  unfold marpaWrapperProgressCmp
  split
  · omega
  · split
    · omega
    · split
      · omega
      · split <;> omega

theorem marpaWrapperProgressCmp_neg {left right : Int × MarpaWrapperProgress} :
    marpaWrapperProgressCmp left right < 0 ↔
      left.1 < right.1 ∨ left.1 = right.1 ∧ left.2.positioni < right.2.positioni := by
  unfold marpaWrapperProgressCmp
  split
  · omega
  · split
    · omega
    · split
      · omega
      · split <;> omega

theorem marpaWrapperProgressCmp_consistent : Consistent marpaWrapperProgressCmp where
  refl item := by
    unfold marpaWrapperProgressCmp
    rw [if_neg (Int.lt_irrefl _), if_neg (Int.lt_irrefl _), if_neg (Int.lt_irrefl _),
      if_neg (Int.lt_irrefl _)]
  swap left right := by
    have above := @marpaWrapperProgressCmp_le right left
    rw [marpaWrapperProgressCmp_neg]
    omega
  trans first second third := by
    rw [marpaWrapperProgressCmp_le, marpaWrapperProgressCmp_le, marpaWrapperProgressCmp_le]
    omega

/-- The id of the rule object that a progress item points to. -/
def Wrapper.ruleIdOf (wrapper : Wrapper) (object : MarpaWrapperProgress) : Option Int :=
  object.marpaWrapperRulep.bind fun pointer =>
    (lookup wrapper.marpaWrapperRulepp pointer).map (·.marpaRuleIdi)

/-- The order of a report: by rule, and by position where the rules are the same. -/
def Wrapper.ReportOrder (wrapper : Wrapper) (left right : MarpaWrapperProgress) : Prop :=
  ∃ leftId rightId, wrapper.ruleIdOf left = some leftId ∧ wrapper.ruleIdOf right = some rightId ∧
    (leftId < rightId ∨ leftId = rightId ∧ left.positioni ≤ right.positioni)

section Sorted

variable {libc : Libc V} {build : Build} {wrapper : Wrapper} {items : List MarpaWrapperProgress}
  {world : World V}

/-- A stored item with the id of its rule, as the comparator sees it. -/
def Wrapper.ranked (wrapper : Wrapper) (object : MarpaWrapperProgress) :
    Int × MarpaWrapperProgress :=
  ((wrapper.ruleIdOf object).getD 0, object)

theorem rankTurn_run {cells : List (Slot MarpaWrapperProgress)} {index : Nat}
    {object : MarpaWrapperProgress} (found : cells[index]? = some (.pointer object))
    (known : (wrapper.ruleIdOf object).isSome) (before : List (Int × MarpaWrapperProgress)) :
    rankTurn wrapper cells index before world =
      .ok (.next (before ++ [wrapper.ranked object])) world := by
  have read : readCell cells index world = .ok (some object) world := by
    rw [readCell, found]
    rfl
  obtain ⟨ruleId, ruleId_eq⟩ := Option.isSome_iff_exists.mp known
  obtain ⟨pointer, pointer_eq, looked⟩ := Option.bind_eq_some_iff.mp ruleId_eq
  obtain ⟨rule, rule_eq, rfl⟩ := Option.map_eq_some_iff.mp looked
  rw [rankTurn, run_bind_ok read]
  simp only [pointer_eq]
  rw [run_bind_ok (readObject_lookup rule_eq world)]
  simp only [Wrapper.ranked, ruleId_eq]
  rfl

/-- The walk over the items collects them with their ranks. -/
theorem rankLoop_run {cells : List (Slot MarpaWrapperProgress)}
    (found : ∀ (index : Nat) (object : MarpaWrapperProgress), items[index]? = some object →
      cells[index]? = some (.pointer object))
    (known : ∀ object ∈ items, (wrapper.ruleIdOf object).isSome) (world : World V) :
    forEach (rankTurn wrapper cells) (List.range items.length) [] world =
      .ok (.next (items.map wrapper.ranked)) world := by
  have turns : Triple (fun state => [] = (items.take 0).map wrapper.ranked ∧ state = world)
      (forEach (rankTurn wrapper cells) (List.range items.length) [])
      (AfterTurn (fun ranked state =>
        ranked = (items.take items.length).map wrapper.ranked ∧ state = world)
        fun result _ => result.elim) fun _ _ => False := by
    refine Triple.forEach_range (fun index ranked state =>
      ranked = (items.take index).map wrapper.ranked ∧ state = world)
      (fun index below ranked => ?_) []
    rintro state ⟨rfl, rfl⟩
    have here := List.getElem?_eq_getElem below
    rw [rankTurn_run (found index _ here) (known _ (List.getElem_mem below))]
    refine ⟨?_, rfl⟩
    rw [← List.take_append_getElem below, List.map_append, List.map_singleton]
  have outcome := turns world ⟨rfl, rfl⟩
  cases run : forEach (rankTurn wrapper cells) (List.range items.length) [] world with
  | error fault state => rw [run] at outcome; exact outcome.elim
  | ok result state =>
    rw [run] at outcome
    cases result with
    | done result => exact result.elim
    | next ranked =>
      obtain ⟨rfl, rfl⟩ := outcome
      rw [List.take_length]

/-- The report is sorted. -/
theorem sortProgress_sorts (conforms : Conforms libc.qsort)
    (reported : HasReport build wrapper items)
    (known : ∀ object ∈ items, (wrapper.ruleIdOf object).isSome) (world : World V) :
    ∃ sorted wrapper', sortProgress libc wrapper world = .ok wrapper' world ∧
      HasReport build wrapper' sorted ∧ sorted.Perm items ∧
      sorted.Pairwise wrapper.ReportOrder ∧
      wrapper'.sizeMarpaWrapperProgressi = wrapper.sizeMarpaWrapperProgressi := by
  unfold sortProgress
  by_cases several : wrapper.nMarpaWrapperProgressi > 1
  · obtain ⟨table, there⟩ : ∃ table, wrapper.marpaWrapperProgresspp = some table := by
      refine Option.isSome_iff_exists.mp (reported.stores.allocated.mpr ?_)
      have := reported.stores.within
      rw [reported.count] at several
      omega
    have stores := reported.stores
    rw [there] at stores ⊢
    have ranks : forEach (rankTurn wrapper table.cells) (List.range items.length) [] world = _ :=
      rankLoop_run stores.cell known world
    simp only
    rw [if_pos several, reported.count, run_bind_ok ranks]
    have perm := conforms.perm marpaWrapperProgressCmp (items.map wrapper.ranked)
    have ascending := conforms.ascending marpaWrapperProgressCmp_consistent
      (items.map wrapper.ranked)
    have objects : ((libc.qsort marpaWrapperProgressCmp (items.map wrapper.ranked)).map
        (·.2)).Perm items := by
      have mapped := perm.map (·.2)
      rwa [List.map_map, show (fun pair : Int × MarpaWrapperProgress => pair.2) ∘ wrapper.ranked =
        id from rfl, List.map_id] at mapped
    refine ⟨_, _, rfl, ⟨?_, ?_⟩, objects, ?_, rfl⟩
    · have reordered := stores.reorder objects.length_eq
      rwa [List.map_map] at reordered
    · exact objects.length_eq.symm
    · refine List.pairwise_map.mpr (ascending.imp_of_mem fun {left right} member member' le => ?_)
      have shape (pair : Int × MarpaWrapperProgress)
          (here : pair ∈ libc.qsort marpaWrapperProgressCmp (items.map wrapper.ranked)) :
          wrapper.ruleIdOf pair.2 = some pair.1 := by
        obtain ⟨object, inside, rfl⟩ := List.mem_map.mp (perm.mem_iff.mp here)
        obtain ⟨ruleId, ruleId_eq⟩ := Option.isSome_iff_exists.mp (known object inside)
        rw [Wrapper.ranked, ruleId_eq]
        rfl
      exact ⟨_, _, shape left member, shape right member', marpaWrapperProgressCmp_le.mp le⟩
  · have alone : items.Pairwise wrapper.ReportOrder := by
      rw [reported.count] at several
      match items with
      | [] => exact .nil
      | [item] => exact List.pairwise_singleton _ _
      | _ :: _ :: _ => simp at several
    refine ⟨items, wrapper, ?_, reported, List.Perm.refl _, alone, rfl⟩
    cases wrapper.marpaWrapperProgresspp with
    | none => rfl
    | some table => exact congrFun (if_neg several) world

end Sorted

/-! ### The report -/

section Report

variable {libc : Libc V} {fuel : Nat} {build : Build} {marpa : Libmarpa V} {wrapper : Wrapper}
  {world : World V} {latest : Int} {family : Int → List ProgressItem}
  {items old : List MarpaWrapperProgress}

/-- A range is valid if its arguments are, and if it is not empty. -/
def ValidRange (starti endi latest : Int) : Prop :=
  (-(latest + 1) ≤ starti ∧ starti ≤ latest) ∧ (-(latest + 1) ≤ endi ∧ endi ≤ latest) ∧
    rangeArgument starti latest ≤ rangeArgument endi latest

/-- The sets of a range. -/
def rangeSets (starti endi latest : Int) : Nat :=
  (rangeArgument endi latest - rangeArgument starti latest + 1).toNat

/-- The check of the code. -/
theorem validRange_iff {starti endi : Int} :
    ValidRange starti endi latest ↔ ¬ (rangeArgument starti latest < 0 ∨
      latest < rangeArgument starti latest ∨ rangeArgument endi latest < 0 ∨
      latest < rangeArgument endi latest ∨
      rangeArgument endi latest < rangeArgument starti latest) := by
  unfold ValidRange rangeArgument
  split <;> split <;> omega

/-- An item whose rule is registered points to it. -/
theorem ruleIdOf_registered {object : MarpaWrapperProgress} {ruleId : Int}
    (known : Registers wrapper.marpaWrapperRulepp ruleId)
    (pointer : object.marpaWrapperRulep = registered ruleId) :
    (wrapper.ruleIdOf object).isSome := by
  obtain ⟨-, block, rule, rules, -, cell⟩ := known
  rw [Wrapper.ruleIdOf, pointer, registered, Option.bind_some,
    lookup_eq_some.mpr ⟨block, rules, cell⟩]
  rfl

/-- Every stored item of a report points to a registered rule. -/
theorem ruleIdOf_reported {starti : Int} {sets : Nat}
    (known : ∀ set, 0 ≤ set → set ≤ latest → ∀ item ∈ family set,
      Registers wrapper.marpaWrapperRulepp item.1)
    (inside : 0 ≤ starti) (inside' : starti + sets ≤ latest + 1)
    (same : items.map (·.withoutAddress) = reportOf family starti sets) :
    ∀ object ∈ items, (wrapper.ruleIdOf object).isSome := by
  intro object member
  have reported : object.withoutAddress ∈ reportOf family starti sets := by
    rw [← same]
    exact List.mem_map_of_mem member
  obtain ⟨offset, below, here⟩ := List.mem_flatMap.mp reported
  obtain ⟨item, ofSet, item_eq⟩ := List.mem_map.mp here
  have below := List.mem_range.mp below
  refine ruleIdOf_registered (known _ (by omega) (by omega) item ofSet) ?_
  show object.withoutAddress.marpaWrapperRulep = _
  rw [← item_eq]
  rfl

/-- What a successful report is: libmarpa's items, each once, in order. -/
structure CompleteReport (build : Build) (wrapper wrapper' : Wrapper)
    (family : Int → List ProgressItem) (first : Int) (sets count : Nat)
    (objects : List MarpaWrapperProgress) : Prop where
  reported : HasReport build wrapper' objects
  count_eq : count = objects.length
  complete : (objects.map (·.withoutAddress)).Perm (reportOf family first sets)
  sorted : objects.Pairwise wrapper.ReportOrder

/-- The release of a report only frees. -/
theorem releases_free (old : List MarpaWrapperProgress)
    (table : Option (Block MarpaWrapperProgress)) :
    ∀ event ∈ releases (V := V) MarpaWrapperProgress.address table old,
      ∃ address, event = .free address := by
  intro event member
  cases table with
  | none => cases member
  | some block =>
    rcases List.mem_append.mp member with ofItem | ofTable
    · obtain ⟨item, -, rfl⟩ := List.mem_map.mp ofItem
      exact ⟨_, rfl⟩
    · exact ⟨_, List.mem_singleton.mp ofTable⟩

theorem releases_ofMemory (table : Option (Block MarpaWrapperProgress)) :
    ∀ event ∈ releases (V := V) MarpaWrapperProgress.address table old, event.ofMemory = true := by
  intro event member
  obtain ⟨address, rfl⟩ := releases_free old table event member
  rfl

theorem remaining_releases (table : Option (Block MarpaWrapperProgress)) :
    remaining (V := V) family (releases MarpaWrapperProgress.address table old) = [] :=
  show remaining family ([] ++ releases MarpaWrapperProgress.address table old) = _ from
    remaining_memory (releases_ofMemory table)

/-- The part of the function after the check of the range. -/
theorem reportSets_complete {wrapper' : Wrapper} {start world : World V}
    (conforms : Conforms libc.qsort)
    (succeeds : Succeeds libc fuel marpa wrapper start latest family) (starti : Int) (sets : Nat)
    (inside : 0 ≤ starti) (inside' : starti + sets ≤ latest + 1)
    (few : (reportOf family starti sets).length < 2 ^ 31)
    (progressing : Progressing build wrapper start family [] [] wrapper' world) :
    ∃ between between' wrapper'' objects,
      forEach (setTurn libc fuel build marpa starti) (List.range sets) wrapper' world =
        .ok (.next between) between' ∧
      finishProgress libc marpa true between between' =
        .ok (some objects.length, wrapper'') { between' with
          events := between'.events ++
            [.progressReportFinish (marpa.progressReportFinish between'.events)] } ∧
      CompleteReport build wrapper wrapper'' family starti sets objects.length objects := by
  have outcome := setLoop_progresses succeeds inside inside' few wrapper' world progressing
  cases run : forEach (setTurn libc fuel build marpa starti) (List.range sets) wrapper' world with
  | error fault state => rw [run] at outcome; exact outcome.elim
  | ok result between' =>
    rw [run] at outcome
    cases result with
    | done exit => exact outcome.elim
    | next between =>
      obtain ⟨frame, ⟨items, reported, same⟩, exchanges, record, kind, -⟩ := outcome
      have finished : ¬ marpa.progressReportFinish between'.events < 0 := by
        rw [record]
        exact Int.not_lt.mpr (succeeds.reports.finish exchanges kind)
      have rules : between.ruleIdOf = wrapper.ruleIdOf := by
        unfold Wrapper.ruleIdOf
        rw [frame.rules]
      have known : ∀ object ∈ items, (between.ruleIdOf object).isSome := by
        rw [rules]
        exact ruleIdOf_reported succeeds.known inside inside' same
      obtain ⟨objects, wrapper'', sorts, reported', perm, ordered, -⟩ :=
        sortProgress_sorts conforms reported known { between' with
          events := between'.events ++
            [.progressReportFinish (marpa.progressReportFinish between'.events)] }
      refine ⟨between, between', wrapper'', objects, rfl, ?_, reported', rfl, ?_, ?_⟩
      · rw [finishProgress, run_bind_ok (run_ask ..), if_pos ⟨rfl, finished⟩, run_bind_ok sorts,
          reported'.count]
        rfl
      · rw [← same]
        exact perm.map _
      · unfold Wrapper.ReportOrder at ordered ⊢
        rwa [rules] at ordered

/-- When memory is granted and libmarpa's calls succeed, the function succeeds on the valid ranges
and on no other. What it reports is complete and sorted, and the report before it is released. -/
theorem marpaWrapperRProgressb_reports (conforms : Conforms libc.qsort)
    (succeeds : Succeeds libc fuel marpa wrapper world latest family)
    (present : wrapper.marpaRecognizerp.isSome = true) (reported : HasReport build wrapper old)
    (starti endi : Int)
    (few : ValidRange starti endi latest →
      (reportOf family (rangeArgument starti latest) (rangeSets starti endi latest)).length <
        2 ^ 31) :
    ∃ result wrapper' world',
      marpaWrapperRProgressb libc fuel build marpa wrapper starti endi world =
        .ok (result, wrapper') world' ∧
      (result.isSome = true ↔ ValidRange starti endi latest) ∧
      (∀ count, result = some count → ∃ objects, CompleteReport build wrapper wrapper' family
        (rangeArgument starti latest) (rangeSets starti endi latest) count objects) ∧
      ∃ exchanges, world'.events = world.events ++
        releases MarpaWrapperProgress.address wrapper.marpaWrapperProgresspp old ++ exchanges := by
  let record := releases (V := V) MarpaWrapperProgress.address wrapper.marpaWrapperProgresspp old
  let cleared : Wrapper := { wrapper with
    marpaWrapperProgresspp := none
    sizeMarpaWrapperProgressi := 0
    nMarpaWrapperProgressi := 0 }
  let asked : World V := { world with
    events := world.events ++ record ++ [.latestEarleySet latest] }
  have release : manageBufFreev MarpaWrapperProgress.address wrapper.marpaWrapperProgresspp
      wrapper.nMarpaWrapperProgressi world =
      .ok () { world with events := world.events ++ record } := by
    rw [reported.count]
    exact manageBufFreev_run reported.stores.live reported.stores.take world
  have last : marpa.latestEarleySet (world.events ++ record) = latest :=
    succeeds.reports.last record fun event member =>
      Event.ofProgress_of_memory (releases_ofMemory _ event member)
  have started : Progressing build wrapper world family [] [] cleared asked := by
    have empty : Progressing build wrapper world family [] [] cleared
        { world with events := world.events ++ record } :=
      ⟨⟨_, _, _, rfl⟩, ⟨[], ⟨Stores.empty build, rfl⟩, rfl⟩, record, rfl, fun event member =>
        Event.ofProgress_of_memory (releases_ofMemory _ event member),
        remaining_releases _⟩
    exact empty.exchange (.latestEarleySet latest) rfl
  have begins : marpaWrapperRProgressb libc fuel build marpa wrapper starti endi world = _ :=
    (congrFun (if_neg (by rw [Option.isNone_eq_false_iff.mpr present]; decide)) world).trans
      (run_bind_ok release)
  rw [begins]
  simp only
  rw [run_bind_ok (run_ask ..), last]
  simp only
  by_cases valid : ValidRange starti endi latest
  · have check := validRange_iff.mp valid
    obtain ⟨between, between', wrapper', objects, turns, finish, complete⟩ :=
      reportSets_complete conforms succeeds (rangeArgument starti latest)
        (rangeSets starti endi latest) (by omega) (by unfold rangeSets; omega) (few valid) started
    rw [if_neg check, show (rangeArgument endi latest - rangeArgument starti latest + 1).toNat =
      rangeSets starti endi latest from rfl, run_bind_ok turns]
    simp only
    obtain ⟨exchanges, appended, -⟩ := (Continued.of_run (fun start => Keeps.forEach
      (fun offset _ => setTurn_continued _ offset) _ _) turns).record
    refine ⟨_, wrapper', _, finish, ⟨fun _ => valid, fun _ => rfl⟩, ?_, ?_⟩
    · rintro count ⟨⟩
      exact ⟨objects, complete⟩
    · refine ⟨[.latestEarleySet latest] ++ exchanges ++
        [.progressReportFinish (marpa.progressReportFinish between'.events)], ?_⟩
      rw [appended]
      simp only [asked, record, List.append_assoc]
  · rw [if_pos (not_not.mp fun outside => valid (validRange_iff.mpr outside))]
    exact ⟨none, cleared, asked, rfl, ⟨(fun is => nomatch is), fun is => absurd is valid⟩,
      (fun _ is => nomatch is), _, rfl⟩

end Report

/-! ### An instance -/

/-- A libmarpa that reports the items of a family for two Earley sets. -/
def Libmarpa.reporting (family : Int → List ProgressItem) : Libmarpa V :=
  { Libmarpa.accepting with
    latestEarleySet := fun _ => 1
    progressReportStart := fun _ set => (family set).length
    progressItem := fun exchanges => (remaining family exchanges).headD (-1, 0, 0)
    progressReportFinish := fun _ => 0 }

theorem Libmarpa.reporting_reports (family : Int → List ProgressItem) :
    (Libmarpa.reporting (V := V) family).ReportsProgress [] 1 family where
  last _ _ := rfl
  earleme _ _ set nonneg _ := by
    show set ≠ -2
    omega
  start _ _ _ _ _ := rfl
  item exchanges _ item rest left := by
    show (remaining family exchanges).headD _ = item
    rw [left]
    rfl
  finish _ _ := Int.le_refl 0

/-- Two Earley sets with items of two rules. -/
def twoSets (set : Int) : List ProgressItem :=
  if set = 0 then [(1, 0, 0), (0, 0, 0)] else [(1, 1, 0), (0, 2, 0), (1, 0, 1)]

/-- The registered rule with an id. -/
def ruleOf (marpaRuleIdi : Int) : MarpaWrapperRule :=
  { address := 0, marpaRuleIdi, marpaWrapperp := 0, marpaWrapperRuleOption := {} }

/-- A wrapper with two rules and a recognizer. -/
def startedWrapper : Wrapper where
  address := 0
  marpaRecognizerp := some 0
  marpaWrapperRulepp := some { address := 0, cells := [.pointer (ruleOf 0), .pointer (ruleOf 1)] }

theorem twoSets_registered (set : Int) (item : ProgressItem) (member : item ∈ twoSets set) :
    Registers startedWrapper.marpaWrapperRulepp item.1 := by
  have small : item.1 = 0 ∨ item.1 = 1 := by
    unfold twoSets at member
    split at member <;> (simp only [List.mem_cons, List.not_mem_nil, or_false] at member)
    · rcases member with rfl | rfl
      · exact .inr rfl
      · exact .inl rfl
    · rcases member with rfl | rfl | rfl
      · exact .inr rfl
      · exact .inl rfl
      · exact .inr rfl
  rcases small with first | second
  · exact first ▸ ⟨by decide, _, ruleOf 0, rfl, rfl, rfl⟩
  · exact second ▸ ⟨by decide, _, ruleOf 1, rfl, rfl, rfl⟩

/-- A report on both sets, whose arguments count from the end and from the start. -/
theorem marpaWrapperRProgressb_reports_two : ∃ count wrapper' world' objects,
    marpaWrapperRProgressb (V := Nat) Libc.generous (2 ^ 32) {} (Libmarpa.reporting twoSets)
      startedWrapper (-2) 1 {} = .ok (some count, wrapper') world' ∧
    CompleteReport {} startedWrapper wrapper' twoSets 0 2 count objects := by
  have valid : ValidRange (-2) 1 1 := by
    unfold ValidRange rangeArgument
    decide
  have succeeds : Succeeds (V := Nat) Libc.generous (2 ^ 32) (Libmarpa.reporting twoSets)
      startedWrapper {} 1 twoSets :=
    ⟨Libc.generous_alwaysGrants, Nat.le_refl _, Libmarpa.reporting_reports twoSets,
      fun set _ _ item member => twoSets_registered set item member⟩
  have reported : HasReport {} startedWrapper [] := ⟨Stores.empty _, rfl⟩
  obtain ⟨result, wrapper', world', run, iff, complete, -⟩ :=
    marpaWrapperRProgressb_reports inserting_conforms succeeds rfl reported (-2) 1
      fun _ => by decide
  obtain ⟨count, rfl⟩ := Option.isSome_iff_exists.mp (iff.mpr valid)
  obtain ⟨objects, report⟩ := complete count rfl
  exact ⟨count, wrapper', world', objects, run, report⟩

end MarpaWrapper
