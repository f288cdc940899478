/-
This file is about what earlier calls leave behind for a recognition to begin with, whichever of
them failed.

A progress report is released by the next call of `marpaWrapper_r_progressb`. That walks over the
slots of the table that are in use, so none of these may be outside of the table or unassigned,
also when the report was broken off. The arrays of the expected terminals are released by the
next start, which looks at them only beside a recognizer, so there must be none without one.
-/

import MarpaWrapper.ExpectedArrays
import MarpaWrapper.FailedDefinitions

namespace MarpaWrapper

open Effects Sorting

variable {V α : Type}

/-! ### Tables that can be released -/

/-- So many of the first cells are there, and each was assigned. -/
def Assigned (cells : List (Slot α)) (count : Nat) : Prop :=
  ∀ index < count, ∃ cell, cells[index]? = some cell ∧ cell ≠ .indeterminate

/-- A table has as many cells as its size says, those in use were assigned, and its block can be
used. -/
structure Releasable (table : Option (Block α)) (size count : Nat) : Prop where
  sized : Sized (2 ^ 63) pointerSize ⟨size, size, table⟩
  shape : size = 0 ∨ IsBufferSize size
  within : count ≤ size
  assigned : Assigned (cellsOf table) count
  live : Unreleased table

section Tables

variable {libc : Libc V} {fuel size size' count : Nat} {build : Build} {table : Option (Block α)}
  {block block' : Block α} {cells cells' : List (Slot α)} {world world' : World V}

theorem Releasable.empty : Releasable (none : Option (Block α)) 0 0 :=
  ⟨⟨rfl, rfl, ⟨fun there => absurd there Bool.false_ne_true,
    fun positive => absurd positive (Nat.lt_irrefl 0)⟩, Nat.two_pow_pos 63⟩, .inl rfl, Nat.le_refl 0,
    (fun _ below => absurd below (Nat.not_lt_zero _)), fun _ there => nomatch there⟩

/-- The prefill leaves a cell as it is, or it makes it `NULL`. -/
theorem prefill_overwrites {elementSizei : Nat}
    (run : prefill fuel build sizeModulus cells size size' elementSizei world = .ok cells' world') :
    cells'.length = cells.length ∧
      ∀ index : Nat, cells'[index]? = cells[index]? ∨ cells'[index]? = some .null := by
  unfold prefill at run
  by_cases zeroes : build.nullIsZeroes = true
  · rw [if_pos zeroes] at run
    unfold prefillZeroes at run
    generalize (size' - size) * elementSizei % sizeModulus / elementSizei = gain at run
    by_cases inside : size + gain ≤ cells.length
    · rw [if_pos inside] at run
      cases run
      have taken : (cells.take size).length = size := by
        rw [List.length_take]
        omega
      refine ⟨?_, fun index => ?_⟩
      · rw [List.length_append, List.length_append, taken, List.length_replicate, List.length_drop]
        omega
      · rw [List.append_assoc]
        by_cases before : index < size
        · left
          rw [List.getElem?_append_left (by rwa [taken]), List.getElem?_take_of_lt before]
        · rw [List.getElem?_append_right (by rw [taken]; omega), taken]
          by_cases gained : index < size + gain
          · right
            rw [List.getElem?_append_left (by rw [List.length_replicate]; omega),
              List.getElem?_replicate, if_pos (by omega)]
          · left
            rw [List.getElem?_append_right (by rw [List.length_replicate]; omega),
              List.length_replicate, List.getElem?_drop]
            congr 1
            omega
    · rw [if_neg inside] at run
      cases run
  · rw [if_neg zeroes] at run
    obtain ⟨counter, length, same⟩ := prefillLoop_keeps
      (fun frame => frame.2.length = cells.length ∧
        ∀ index : Nat, frame.2[index]? = cells[index]? ∨ frame.2[index]? = some .null)
      run ⟨rfl, fun _ => .inl rfl⟩ fun counter between holds _ within => by
        refine ⟨by rw [List.length_set, holds.1], fun index => ?_⟩
        show (between.set counter.toNat .null)[index]? = _ ∨ _
        by_cases here : counter.toNat = index
        · right
          show (between.set counter.toNat .null)[index]? = _
          rw [← here, List.getElem?_set_self within]
        · show _ ∨ (between.set counter.toNat .null)[index]? = _
          rw [List.getElem?_set_ne here]
          exact holds.2 index
    exact ⟨length, same⟩

theorem Assigned.overwritten (assigned : Assigned cells count)
    (same : ∀ index < count, cells'[index]? = cells[index]? ∨ cells'[index]? = some .null) :
    Assigned cells' count := by
  intro index below
  rcases same index below with kept | null
  · rw [kept]
    exact assigned index below
  · exact ⟨.null, null, fun other => nomatch other⟩

/-- A table that was provided for one item more has a slot for it. -/
theorem Releasable.provided (releasable : Releasable table size count)
    (limited : libc.Refuses (2 ^ 63))
    (run : manageBufCreatep libc fuel build sizeModulus table size (count + 1) pointerSize world =
      .ok (.ok (block, size')) world') : Releasable (some block) size' count ∧ count < size' := by
  have within := releasable.within
  unfold manageBufCreatep at run
  obtain ⟨outcome, between, grew, rest⟩ := run_bind_eq_ok run
  obtain ⟨last, state, visited, turn⟩ := loop_eq_ok_visits grew
  have grown := Grew.of_visits machine_pointers limited releasable.sized releasable.shape visited
  cases outcome with
  | error growth => cases rest
  | ok growth =>
    obtain ⟨more, rfl, -⟩ := growTurn_done turn
    obtain ⟨cells, after, filled, rest⟩ := run_bind_eq_ok rest
    obtain ⟨length, same⟩ := prefill_overwrites filled
    have sized := grown.sized
    have length' := sized.length
    have allocated := sized.allocated
    have live := grown.live releasable.live
    cases there : growth.pp with
    | none => rw [there] at rest; cases rest
    | some old =>
      rw [there] at rest length length' allocated live
      cases rest
      refine ⟨⟨⟨rfl, length.trans length', allocated, sized.fits⟩, grown.size, Nat.le_of_lt more,
        releasable.assigned.overwritten fun index below => ?_, fun _ same => ?_⟩, more⟩
      · have kept : (cellsOf growth.pp)[index]? = (cellsOf table)[index]? :=
          grown.kept index (Nat.lt_of_lt_of_le below within)
        rw [← kept]
        exact same index
      · cases same
        exact live old rfl

/-- An item is stored behind the others. -/
theorem Releasable.stored {item : α} (releasable : Releasable (some block) size count)
    (more : count < size) :
    Releasable (some { block with cells := block.cells.set count (.pointer item) }) size
      (count + 1) := by
  have sized := releasable.sized
  have length : block.cells.length = size := sized.length
  refine ⟨⟨rfl, List.length_set.trans length, sized.allocated, sized.fits⟩, releasable.shape, more,
    fun index below => ?_, fun _ same => ?_⟩
  · show ∃ cell, (block.cells.set count _)[index]? = some cell ∧ _
    by_cases here : count = index
    · rw [← here, List.getElem?_set_self (by omega)]
      exact ⟨_, rfl, fun other => nomatch other⟩
    · rw [List.getElem?_set_ne here]
      exact releasable.assigned index (by omega)
  · cases same
    exact releasable.live block rfl

/-! ### The release -/

theorem freeTurn_assigned (addressOf : α → Nat) {index : Nat} {cell : Slot α}
    (found : cells[index]? = some cell) (assigned : cell ≠ .indeterminate) (world : World V) :
    ∃ cells' exchanges, freeTurn addressOf index cells world =
        .ok (.next cells') { world with events := world.events ++ exchanges } ∧
      (∀ other, other ≠ index → cells'[other]? = cells[other]?) ∧
      ∀ event ∈ exchanges, ∃ address, event = .free address := by
  cases cell with
  | indeterminate => exact absurd rfl assigned
  | null =>
    have read : readCell cells index world = .ok none world := by
      rw [readCell, found]
      rfl
    refine ⟨cells, [], ?_, fun _ _ => rfl, fun _ member => absurd member List.not_mem_nil⟩
    rw [freeTurn, run_bind_ok read, List.append_nil]
    rfl
  | pointer object =>
    refine ⟨cells.set index .null, [.free (addressOf object)], freeTurn_run found,
      fun other different => List.getElem?_set_ne (Ne.symm different), ?_⟩
    exact List.forall_mem_singleton.mpr ⟨_, rfl⟩

/-- The walk over the cells in use ends, and it only frees. -/
theorem manageBufFreev_assigned (addressOf : α → Nat) (assigned : Assigned (cellsOf table) count)
    (live : Unreleased table) (world : World V) :
    ∃ exchanges, manageBufFreev addressOf table count world =
        .ok () { world with events := world.events ++ exchanges } ∧
      ∀ event ∈ exchanges, ∃ address, event = .free address := by
  cases table with
  | none =>
    exact ⟨[], by rw [List.append_nil]; rfl, fun _ member => absurd member List.not_mem_nil⟩
  | some block =>
    have turns : Triple (fun state => (∀ index, 0 ≤ index → block.cells[index]? = block.cells[index]?) ∧
          ∃ exchanges, state = { world with events := world.events ++ exchanges } ∧
            ∀ event ∈ exchanges, ∃ address, event = .free address)
        (forEach (freeTurn addressOf) (List.range count) block.cells)
        (AfterTurn (fun cells state => (∀ index, count ≤ index → cells[index]? = block.cells[index]?) ∧
          ∃ exchanges, state = { world with events := world.events ++ exchanges } ∧
            ∀ event ∈ exchanges, ∃ address, event = .free address)
          fun result _ => result.elim) fun _ _ => False := by
      refine Triple.forEach_range (fun done cells state =>
        (∀ index, done ≤ index → cells[index]? = block.cells[index]?) ∧
          ∃ exchanges, state = { world with events := world.events ++ exchanges } ∧
            ∀ event ∈ exchanges, ∃ address, event = .free address)
        (fun index below cells => ?_) block.cells
      rintro _ ⟨ahead, exchanges, rfl, frees⟩
      obtain ⟨cell, found, written⟩ := assigned index below
      obtain ⟨cells', more, run, others, frees'⟩ := freeTurn_assigned addressOf
        ((ahead index (Nat.le_refl index)).trans found) written
        { world with events := world.events ++ exchanges }
      rw [run]
      refine ⟨fun other later => ?_, exchanges ++ more, by rw [List.append_assoc],
        List.forall_mem_append.mpr ⟨frees, frees'⟩⟩
      rw [others other (by omega), ahead other (by omega)]
    have outcome := turns world ⟨fun _ _ => rfl, [], by rw [List.append_nil],
      fun _ member => absurd member List.not_mem_nil⟩
    unfold manageBufFreev
    cases run : forEach (freeTurn addressOf) (List.range count) block.cells world with
    | error fault state => rw [run] at outcome; exact outcome.elim
    | ok turn state =>
      rw [run] at outcome
      cases turn with
      | done result => exact result.elim
      | next cells =>
        obtain ⟨-, exchanges, rfl, frees⟩ := outcome
        refine ⟨exchanges ++ [.free block.address], ?_,
          List.forall_mem_append.mpr ⟨frees, List.forall_mem_singleton.mpr ⟨_, rfl⟩⟩⟩
        simp only
        rw [run_bind_ok (useBlock_live (live block rfl) world), run_bind_ok run, run_emit,
          List.append_assoc]

end Tables

/-! ### The progress report -/

/-- The progress report of a wrapper can be released. -/
def Wrapper.ReportReleasable (wrapper : Wrapper) : Prop :=
  Releasable wrapper.marpaWrapperProgresspp wrapper.sizeMarpaWrapperProgressi
    wrapper.nMarpaWrapperProgressi

section Report

variable {libc : Libc V} {fuel : Nat} {build : Build} {marpa : Libmarpa V}
  {wrapper wrapper' : Wrapper} {world world' : World V}

theorem storeProgress_releasable (limited : libc.Refuses (2 ^ 63))
    {set ruleId position origin : Int} {outcome : Turn Wrapper ProgressExit}
    (releasable : wrapper.ReportReleasable)
    (run : storeProgress libc fuel build wrapper set ruleId position origin world =
      .ok outcome world') : (turnWrapper outcome).ReportReleasable := by
  obtain ⟨room, between, provided, rest⟩ := run_bind_eq_ok run
  cases room with
  | error left =>
    cases rest
    have within := releasable.within
    obtain rfl := manageBufCreatep_left (Nat.add_le_add_right within 1) provided
    exact releasable
  | ok room =>
    obtain ⟨ready, more⟩ := Releasable.provided releasable limited provided
    obtain ⟨address, after, granted, rest⟩ := run_bind_eq_ok rest
    cases address with
    | none => cases rest; exact ready
    | some address =>
      obtain ⟨rule, read, _, rest⟩ := run_bind_eq_ok rest
      obtain ⟨table, wrote, written, last⟩ := run_bind_eq_ok rest
      obtain ⟨rfl, -, -, -, rfl⟩ := writeArray_eq_ok written
      cases last
      exact ready.stored more

/-- The loops over the sets and their items. -/
theorem setTurns_releasable (limited : libc.Refuses (2 ^ 63)) {starti : Int} {sets : List Nat}
    {outcome : Turn Wrapper ProgressExit} (releasable : wrapper.ReportReleasable)
    (run : forEach (setTurn libc fuel build marpa starti) sets wrapper world =
      .ok outcome world') : (turnWrapper outcome).ReportReleasable := by
  refine turns_keep (fun wrapper _ => wrapper.ReportReleasable)
    (fun offset wrapper world outcome world' releasable run => ?_) releasable run
  obtain ⟨earleme, between, asked, rest⟩ := run_bind_eq_ok run
  by_cases failed : earleme = -2
  · simp only [if_pos failed] at rest
    cases rest
    exact releasable
  · simp only [if_neg failed] at rest
    obtain ⟨items, after, started, rest⟩ := run_bind_eq_ok rest
    by_cases negative : items < 0
    · simp only [if_pos negative] at rest
      cases rest
      exact releasable
    · simp only [if_neg negative] at rest
      refine turns_keep (fun wrapper _ => wrapper.ReportReleasable)
        (fun index wrapper world outcome world' releasable run => ?_) releasable rest
      obtain ⟨⟨ruleId, position, origin⟩, between, asked, rest⟩ := run_bind_eq_ok run
      by_cases missing : ruleId = -2 ∨ ruleId = -1
      · simp only [if_pos missing] at rest
        cases rest
        exact releasable
      · simp only [if_neg missing] at rest
        exact storeProgress_releasable limited releasable rest

theorem sortProgress_releasable (conforms : Conforms libc.qsort)
    (releasable : wrapper.ReportReleasable)
    (run : sortProgress libc wrapper world = .ok wrapper' world') :
    wrapper'.ReportReleasable := by
  unfold sortProgress at run
  cases there : wrapper.marpaWrapperProgresspp with
  | none => rw [there] at run; cases run; exact releasable
  | some table =>
    rw [there] at run
    by_cases several : wrapper.nMarpaWrapperProgressi > 1
    · simp only [if_pos several] at run
      obtain ⟨outcome, between, walked, rest⟩ := run_bind_eq_ok run
      have counted : AfterTurn (fun items _ => items.length = wrapper.nMarpaWrapperProgressi)
          (fun result _ => result.elim) outcome between := by
        refine forEach_range_return (fun index items _ => items.length = index)
          (fun index items state outcome next _ length turn => ?_) rfl walked
        obtain ⟨item, _, read, turn⟩ := run_bind_eq_ok turn
        cases item with
        | none => cases turn
        | some item =>
          simp only at turn
          cases rule : item.marpaWrapperRulep with
          | none => rw [rule] at turn; cases turn
          | some pointer =>
            rw [rule] at turn
            obtain ⟨found, _, _, turn⟩ := run_bind_eq_ok turn
            cases found with
            | none => cases turn
            | some found =>
              cases turn
              exact List.length_append.trans (congrArg (· + 1) length)
      cases outcome with
      | done result => exact result.elim
      | next items =>
        cases rest
        have ready : Releasable _ _ _ := releasable
        rw [there] at ready
        have sized := ready.sized
        have within := ready.within
        have length : table.cells.length = wrapper.sizeMarpaWrapperProgressi := sized.length
        have sorted : ((libc.qsort marpaWrapperProgressCmp items).map
            (Slot.pointer ·.2)).length = wrapper.nMarpaWrapperProgressi := by
          rw [List.length_map, (conforms.perm _ items).length_eq]
          exact counted
        refine ⟨⟨rfl, ?_, sized.allocated, sized.fits⟩, ready.shape, within, fun index below => ?_,
          fun _ same => ?_⟩
        · show (_ ++ _ : List _).length = wrapper.sizeMarpaWrapperProgressi
          rw [List.length_append, sorted, List.length_drop]
          omega
        · change index < wrapper.nMarpaWrapperProgressi at below
          show ∃ cell, (_ ++ _ : List _)[index]? = some cell ∧ _
          rw [List.getElem?_append_left (by rw [sorted]; exact below), List.getElem?_map,
            List.getElem?_eq_getElem (by rw [List.length_map] at sorted; rw [sorted]; exact below)]
          exact ⟨_, rfl, fun other => nomatch other⟩
        · cases same
          exact ready.live table rfl
    · simp only [if_neg several] at run
      cases run
      exact releasable

/-- A call that returns leaves a report that can be released. -/
theorem marpaWrapperRProgressb_releasable (limited : libc.Refuses (2 ^ 63))
    (conforms : Conforms libc.qsort) {starti endi : Int} {count : Option Nat}
    (releasable : wrapper.ReportReleasable)
    (run : marpaWrapperRProgressb libc fuel build marpa wrapper starti endi world =
      .ok (count, wrapper') world') : wrapper'.ReportReleasable := by
  have finished {rcb : Bool} {count : Option Nat} {wrapper wrapper' : Wrapper}
      {world world' : World V} (releasable : wrapper.ReportReleasable)
      (run : finishProgress libc marpa rcb wrapper world = .ok (count, wrapper') world') :
      wrapper'.ReportReleasable := by
    obtain ⟨finished, between, asked, rest⟩ := run_bind_eq_ok run
    by_cases succeeds : rcb ∧ ¬ finished < 0
    · rw [if_pos succeeds] at rest
      obtain ⟨sorted, after, walked, last⟩ := run_bind_eq_ok rest
      cases last
      exact sortProgress_releasable conforms releasable walked
    · rw [if_neg succeeds] at rest
      cases rest
      exact releasable
  unfold marpaWrapperRProgressb at run
  by_cases missing : wrapper.marpaRecognizerp.isNone
  · rw [if_pos missing] at run
    cases run
    exact releasable
  · rw [if_neg missing] at run
    obtain ⟨_, released, _, run⟩ := run_bind_eq_ok run
    obtain ⟨latest, asked, _, run⟩ := run_bind_eq_ok run
    have cleared : Wrapper.ReportReleasable { wrapper with
      marpaWrapperProgresspp := none
      sizeMarpaWrapperProgressi := 0
      nMarpaWrapperProgressi := 0 } := .empty
    by_cases outside : rangeArgument starti latest < 0 ∨ latest < rangeArgument starti latest ∨
        rangeArgument endi latest < 0 ∨ latest < rangeArgument endi latest ∨
        rangeArgument endi latest < rangeArgument starti latest
    · simp only [if_pos outside] at run
      cases run
      exact cleared
    · simp only [if_neg outside] at run
      obtain ⟨outcome, after, turns, run⟩ := run_bind_eq_ok run
      have ready := setTurns_releasable limited cleared turns
      cases outcome with
      | next between => exact finished ready run
      | done exit =>
        cases exit with
        | broken between => exact finished ready run
        | returned between => cases run; exact ready

/-- Whatever a session does, its progress report can be released. -/
theorem reportReleasable_kept (limited : libc.Refuses (2 ^ 63)) (conforms : Conforms libc.qsort) :
    Kept libc fuel build marpa fun wrapper _ => wrapper.ReportReleasable where
  aside releasable _ := releasable
  precomputes releasable _ := releasable
  adds releasable run := by
    obtain ⟨_, _, _, rfl⟩ := marpaWrapperGAddSymbolp_frame run
    exact releasable
  rules releasable run := by
    obtain ⟨_, _, _, rfl⟩ := marpaWrapperGAddRulep_frame run
    exact releasable
  starts releasable run := by
    obtain ⟨_, _, _, rfl⟩ := startRecognizer_frame run
    exact releasable
  expects releasable run := by
    obtain ⟨_, _, rfl⟩ := marpaWrapperRTerminalsExpectedb_frame run
    exact releasable
  progresses releasable run := marpaWrapperRProgressb_releasable limited conforms releasable run
  orders releasable run := by
    obtain ⟨_, _, rfl⟩ := orderTerminals_frame run
    exact releasable
  checks releasable _ _ := releasable

end Report

/-! ### The arrays of the expected terminals -/

/-- The arrays of the expected terminals are there only beside a recognizer. The tables are as large
as their sizes say, and the ids of the symbols are `int`s. -/
structure Restartable (wrapper : Wrapper) (world : World V) : Prop where
  alone : wrapper.marpaRecognizerp = none → wrapper.expectedMarpaSymbolIdArrayp = none ∧
    wrapper.expectedMarpaWrapperSymbolArraypp = none
  sizable : SizableTables wrapper
  few : world.grammar.symbols.length < 2 ^ 31

section Arrays

variable {libc : Libc V} {fuel : Nat} {build : Build} {marpa : Libmarpa V}
  {wrapper wrapper' : Wrapper} {world world' : World V}

theorem Restartable.aside (restartable : Restartable wrapper world)
    (symbols : world'.grammar.symbols.length = world.grammar.symbols.length) :
    Restartable wrapper world' :=
  ⟨restartable.alone, restartable.sizable, symbols ▸ restartable.few⟩

theorem Restartable.adds {option : Option MarpaWrapperSymbolOption} {pointer : Option Nat}
    (restartable : Restartable wrapper world)
    (run : marpaWrapperGAddSymbolp libc fuel build marpa wrapper option world =
      .ok (pointer, wrapper') world') : Restartable wrapper' world' := by
  obtain ⟨sizable, untouched | leaves⟩ := marpaWrapperGAddSymbolp_leaves restartable.sizable run
  · exact ⟨untouched.tables ▸ restartable.alone, sizable, untouched.symbols ▸ restartable.few⟩
  · obtain ⟨flags, symbols⟩ := leaves.created.symbols
    have few : world.grammar.symbols.length + 1 < 2 ^ 31 := by
      obtain ⟨id, between, created, rest⟩ := run_bind_eq_ok run
      rcases symbolNew_grammar created with ⟨rfl, error, same⟩ | ⟨-, few, -⟩
      · -- A refused creation leaves no symbol.
        cases rest
        rw [same] at symbols
        exact absurd (congrArg List.length symbols) (by simp)
      · exact few
    obtain ⟨_, _, _, rfl⟩ := leaves.others
    refine ⟨restartable.alone, sizable, ?_⟩
    rw [symbols, List.length_append]
    exact few

theorem Restartable.expects {count : Option Nat} (restartable : Restartable wrapper world)
    (run : marpaWrapperRTerminalsExpectedb libc marpa wrapper world =
      .ok (count, wrapper') world') : Restartable wrapper' world' := by
  have continued : Continued (·.ofExpected = true) world world' :=
    .of_run (fun _ => marpaWrapperRTerminalsExpectedb_continued) run
  have arrays := marpaWrapperRTerminalsExpectedb_arrays restartable.few run
  obtain ⟨ids, pointers, rfl⟩ := marpaWrapperRTerminalsExpectedb_frame run
  have sizable := restartable.sizable
  refine ⟨fun missing => ?_, ⟨sizable.symbols, sizable.rules⟩, continued.symbols ▸ restartable.few⟩
  obtain ⟨none, none'⟩ := restartable.alone missing
  cases arrays with
  | kept ids' pointers' =>
    rw [none] at ids'
    rw [none'] at pointers'
    exact ⟨Option.map_eq_none_iff.mp ids', Option.map_eq_none_iff.mp pointers'⟩
  | dropped _ ids' pointers' => exact ⟨ids', pointers'⟩
  | allocated _ _ _ recognizer _ =>
    change wrapper.marpaRecognizerp.isSome at recognizer
    rw [show wrapper.marpaRecognizerp = Option.none from missing] at recognizer
    cases recognizer

/-- Whatever a session does. -/
theorem restartable_kept : Kept libc fuel build marpa (Restartable : Wrapper → World V → Prop) where
  aside restartable continued := restartable.aside (congrArg _ continued.symbols)
  precomputes restartable censused := restartable.aside censused.length
  adds restartable run := restartable.adds run
  rules restartable run := by
    obtain ⟨sizable, untouched | ⟨option, -, leaves⟩⟩ :=
      marpaWrapperGAddRulep_leaves restartable.sizable run
    · exact ⟨untouched.tables ▸ restartable.alone, sizable, untouched.symbols ▸ restartable.few⟩
    · obtain ⟨_, _, _, rfl⟩ := leaves.others
      exact ⟨restartable.alone, sizable, leaves.created.symbols ▸ restartable.few⟩
  starts restartable run := by
    obtain ⟨handle, restarted, starts⟩ := startRecognizer_return run
    have sizable := restartable.sizable
    cases restarted with
    | first missing =>
      exact ⟨fun _ => restartable.alone missing, ⟨sizable.symbols, sizable.rules⟩,
        starts.symbols ▸ restartable.few⟩
    | again _ =>
      exact ⟨fun _ => ⟨rfl, rfl⟩, ⟨sizable.symbols, sizable.rules⟩,
        starts.symbols ▸ restartable.few⟩
  expects restartable run := restartable.expects run
  progresses restartable run := by
    have continued : Continued (·.ofProgress = true) _ _ :=
      .of_run (fun _ => marpaWrapperRProgressb_continued _ _) run
    have sizable := restartable.sizable
    obtain ⟨_, _, _, rfl⟩ := marpaWrapperRProgressb_frame run
    exact ⟨restartable.alone, ⟨sizable.symbols, sizable.rules⟩,
      continued.symbols ▸ restartable.few⟩
  orders restartable run := by
    have sizable := restartable.sizable
    unfold orderTerminals at run
    split at run
    · obtain ⟨outcome, between, walked, rest⟩ := run_bind_eq_ok run
      obtain ⟨rfl, terminals, rfl, -⟩ := keyLoop_return walked
      cases rest
      refine ⟨fun missing => ?_, ⟨sizable.symbols, sizable.rules⟩, restartable.few⟩
      obtain ⟨none, none'⟩ := restartable.alone missing
      exact ⟨none, by rw [none']; rfl⟩
    · cases run
      exact restartable
  checks restartable found _ :=
    ⟨restartable.alone, restartable.sizable.checks found _, restartable.few⟩

end Arrays

end MarpaWrapper
