/-
This file reads the runs of the functions that fill and sort the array of
expected terminals. What libmarpa writes are ids; what the wrapper puts beside
them are pointers to the symbols it registered under these ids, in the same
order. A sort leaves the same pointers in another order.
-/

import MarpaWrapper.ApiExchanges
import MarpaWrapper.WrapperTables

namespace MarpaWrapper

open Effects Sorting

variable {V α : Type}

/-! ### Reads and writes that return -/

section Inversion

variable {world world' : World V}

theorem readCell_eq_ok {cells : List (Slot α)} {index : Nat} {object : Option α}
    (run : readCell cells index world = .ok object world') :
    world' = world ∧ ∃ cell, cells[index]? = some cell ∧ cell ≠ .indeterminate ∧
      object = cell.target? := by
  refine ⟨readCell_world run, ?_⟩
  unfold readCell at run
  cases found : cells[index]? with
  | none => rw [found] at run; cases run
  | some cell =>
    rw [found] at run
    cases cell with
    | indeterminate => cases run
    | null => cases run; exact ⟨.null, rfl, (fun same => nomatch same), rfl⟩
    | pointer target => cases run; exact ⟨.pointer target, rfl, (fun same => nomatch same), rfl⟩

theorem readArray_eq_ok {arraypp : Option (Block α)} {index : Int} {object : Option α}
    (run : readArray arraypp index world = .ok object world') :
    world' = world ∧ 0 ≤ index ∧ object = lookup arraypp index.toNat := by
  cases arraypp with
  | none => cases run
  | some block =>
    obtain ⟨⟨⟩, between, used, read⟩ := run_bind_eq_ok run
    obtain ⟨-, rfl⟩ := useBlock_eq_ok used
    by_cases negative : index < 0
    · rw [if_pos negative] at read
      cases read
    · rw [if_neg negative] at read
      obtain ⟨same, cell, found, -, rfl⟩ := readCell_eq_ok read
      refine ⟨same, Int.not_lt.mp negative, ?_⟩
      show cell.target? = (block.cells[index.toNat]?).bind Slot.target?
      rw [found]
      rfl

theorem readObject_eq_ok {arraypp : Option (Block α)} {index : Nat} {object : Option α}
    (run : readObject arraypp index world = .ok object world') :
    world' = world ∧ object = lookup arraypp index := by
  cases arraypp with
  | none => cases run
  | some block =>
    obtain ⟨same, cell, found, -, rfl⟩ := readCell_eq_ok run
    refine ⟨same, ?_⟩
    show cell.target? = (block.cells[index]?).bind Slot.target?
    rw [found]
    rfl

theorem readPointer_eq_ok {arraypp : Option (Block α)} {index : Int} {pointer : Option Nat}
    (run : readPointer arraypp index world = .ok pointer world') :
    world' = world ∧ 0 ≤ index ∧
      pointer = (lookup arraypp index.toNat).map fun _ => index.toNat := by
  obtain ⟨object, between, read, rest⟩ := run_bind_eq_ok run
  cases rest
  obtain ⟨same, nonNegative, rfl⟩ := readArray_eq_ok read
  exact ⟨same, nonNegative, rfl⟩

theorem readSymbol_eq_ok {wrapper : Wrapper} {pointer : Nat} {symbol : MarpaWrapperSymbol}
    (run : readSymbol wrapper pointer world = .ok symbol world') :
    world' = world ∧ lookup wrapper.marpaWrapperSymbolpp pointer = some symbol := by
  obtain ⟨object, between, read, rest⟩ := run_bind_eq_ok run
  obtain ⟨rfl, found⟩ := readObject_eq_ok read
  cases object with
  | none => cases rest
  | some object => cases rest; exact ⟨rfl, found.symm⟩

theorem writeCell_eq_ok {cells cells' : List (Slot α)} {index : Nat} {content : Slot α}
    (run : writeCell cells index content world = .ok cells' world') :
    world' = world ∧ index < cells.length ∧ cells' = cells.set index content := by
  by_cases inside : index < cells.length
  · rw [writeCell, if_pos inside] at run
    cases run
    exact ⟨rfl, inside, rfl⟩
  · rw [writeCell, if_neg inside] at run
    cases run

/-- An entry is written to a block that is there. -/
theorem writeArray_eq_ok {block block' : Block α} {index : Int} {content : Slot α}
    (run : writeArray block index content world = .ok block' world') :
    world' = world ∧ block.released = false ∧ 0 ≤ index ∧ index.toNat < block.cells.length ∧
      block' = { block with cells := block.cells.set index.toNat content } := by
  obtain ⟨⟨⟩, between, used, wrote⟩ := run_bind_eq_ok run
  obtain ⟨live, rfl⟩ := useBlock_eq_ok used
  by_cases negative : index < 0
  · rw [if_pos negative] at wrote
    cases wrote
  · rw [if_neg negative] at wrote
    obtain ⟨cells, after, set, rest⟩ := run_bind_eq_ok wrote
    obtain ⟨rfl, inside, rfl⟩ := writeCell_eq_ok set
    cases rest
    exact ⟨rfl, live, Int.not_lt.mp negative, inside, rfl⟩

theorem expectedSymbol_eq_ok {wrapper : Wrapper} {cells : List (Slot Nat)} {index pointer : Nat}
    {symbol : MarpaWrapperSymbol}
    (run : expectedSymbol wrapper cells index world = .ok (pointer, symbol) world') :
    world' = world ∧ cells[index]? = some (.pointer pointer) ∧
      lookup wrapper.marpaWrapperSymbolpp pointer = some symbol := by
  obtain ⟨object, between, read, rest⟩ := run_bind_eq_ok run
  obtain ⟨rfl, cell, found, -, rfl⟩ := readCell_eq_ok read
  cases cell with
  | indeterminate => cases rest
  | null => cases rest
  | pointer target =>
    obtain ⟨symbol', between', read', last⟩ := run_bind_eq_ok rest
    obtain ⟨rfl, registered⟩ := readSymbol_eq_ok read'
    cases last
    exact ⟨rfl, found, registered⟩

end Inversion

/-! ### The pointers beside the ids -/

/-- The first cells point to what is registered under the ids, in order. -/
def PointsTo (table : Option (Block α)) (ids : List Int) (cells : List (Slot Nat)) : Prop :=
  ∀ (index : Nat) (id : Int), ids[index]? = some id → 0 ≤ id ∧
    cells[index]? = some (((lookup table id.toNat).map fun _ => id.toNat).elim .null .pointer)

/-- No two of the first cells point to the same object. -/
def Spread (cells : List (Slot Nat)) (count : Nat) : Prop :=
  (cells.take count).Pairwise fun cell other =>
    ∀ pointer, cell = .pointer pointer → other ≠ .pointer pointer

theorem Spread.same {cells : List (Slot Nat)} {count index other pointer : Nat}
    (spread : Spread cells count) (below : index < count) (below' : other < count)
    (found : cells[index]? = some (.pointer pointer))
    (found' : cells[other]? = some (.pointer pointer)) : index = other := by
  have apart := List.pairwise_iff_getElem.mp spread
  obtain ⟨inside, here⟩ := List.getElem?_eq_some_iff.mp found
  obtain ⟨inside', here'⟩ := List.getElem?_eq_some_iff.mp found'
  have length : (cells.take count).length = min count cells.length := List.length_take
  rcases Nat.lt_trichotomy index other with less | same | more
  · exact absurd (by rw [List.getElem_take, here'])
      (apart index other (by omega) (by omega) less pointer (by rw [List.getElem_take, here]))
  · exact same
  · exact absurd (by rw [List.getElem_take, here])
      (apart other index (by omega) (by omega) more pointer (by rw [List.getElem_take, here']))

/-- The order of the cells does not matter. -/
theorem Spread.perm {cells cells' : List (Slot Nat)} {count : Nat} (spread : Spread cells count)
    (perm : (cells'.take count).Perm (cells.take count)) : Spread cells' count :=
  (perm.pairwise_iff fun apart pointer same same' => apart pointer same' same).mpr spread

theorem PointsTo.pointer {table : Option (Block α)} {ids : List Int} {cells : List (Slot Nat)}
    (points : PointsTo table ids cells) {index pointer : Nat} (inside : index < ids.length)
    (found : cells[index]? = some (.pointer pointer)) :
    ids[index]? = some (pointer : Int) := by
  have here := List.getElem?_eq_getElem inside
  obtain ⟨nonNegative, cell⟩ := points index _ here
  rw [found] at cell
  rw [here]
  cases registered : lookup table ids[index].toNat with
  | none => rw [registered] at cell; cases cell
  | some object =>
    rw [registered] at cell
    injection cell with cell
    injection cell with same
    rw [same, Int.toNat_of_nonneg nonNegative]

/-- The first cells as a list. -/
theorem PointsTo.take {table : Option (Block α)} {ids : List Int} {cells : List (Slot Nat)}
    (points : PointsTo table ids cells) :
    cells.take ids.length =
      ids.map fun id => ((lookup table id.toNat).map fun _ => id.toNat).elim .null .pointer := by
  refine List.ext_getElem? fun index => ?_
  rw [List.getElem?_map]
  by_cases inside : index < ids.length
  · have here := List.getElem?_eq_getElem inside
    rw [List.getElem?_take_of_lt inside, (points index _ here).2, here]
    rfl
  · rw [List.getElem?_eq_none (by rw [List.length_take]; omega),
      List.getElem?_eq_none (Nat.le_of_not_lt inside)]
    rfl

/-- The number that a pointer is. -/
def slotId : Slot Nat → Int
  | .pointer pointer => pointer
  | _ => -1

/-- When the first cells are pointers in some order, these are the ids. -/
theorem PointsTo.perm {table : Option (Block α)} {ids : List Int} {cells : List (Slot Nat)}
    (points : PointsTo table ids cells) {pointers : List Nat}
    (perm : (pointers.map Slot.pointer).Perm (cells.take ids.length)) :
    (pointers.map fun pointer : Nat => (pointer : Int)).Perm ids := by
  have numbers := perm.map slotId
  rw [points.take, List.map_map, List.map_map] at numbers
  refine numbers.trans (.of_eq ?_)
  refine (List.map_congr_left fun id member => ?_).trans (List.map_id _)
  obtain ⟨index, here⟩ := List.mem_iff_getElem?.mp member
  have cell : ((lookup table id.toNat).map fun _ => id.toNat).elim Slot.null .pointer ∈
      pointers.map Slot.pointer :=
    perm.mem_iff.mpr (points.take ▸ List.mem_map_of_mem member)
  obtain ⟨pointer, -, same⟩ := List.mem_map.mp cell
  show slotId (((lookup table id.toNat).map fun _ => id.toNat).elim .null .pointer) = id
  cases registered : lookup table id.toNat with
  | none => rw [registered] at same; cases same
  | some object => exact Int.toNat_of_nonneg (points index id here).1

/-- Distinct ids have distinct pointers. -/
theorem PointsTo.spread {table : Option (Block α)} {ids : List Int} {cells : List (Slot Nat)}
    (points : PointsTo table ids cells) (distinct : ids.Nodup) {count : Nat}
    (bounded : count ≤ ids.length) : Spread cells count := by
  refine List.pairwise_iff_getElem.mpr fun index other inside inside' less pointer same same' => ?_
  rw [List.length_take] at inside inside'
  rw [List.getElem_take] at same same'
  have first := points.pointer (by omega) (List.getElem?_eq_some_iff.mpr ⟨by omega, same⟩)
  have second := points.pointer (by omega) (List.getElem?_eq_some_iff.mpr ⟨by omega, same'⟩)
  obtain ⟨below, here⟩ := List.getElem?_eq_some_iff.mp first
  obtain ⟨below', here'⟩ := List.getElem?_eq_some_iff.mp second
  exact Nat.ne_of_lt less ((List.Nodup.getElem_inj_iff distinct).mp (here.trans here'.symm))

section Fill

variable {libc : Libc V} {marpa : Libmarpa V} {wrapper wrapper' : Wrapper} {world world' : World V}

theorem marpaRTerminalsExpected_return {array array' : Block Int} {count : Int}
    (run : marpaRTerminalsExpected marpa array world = .ok (count, array') world') :
    (count = -2 ∧ marpa.terminalsExpected world.events = none ∧ array' = array ∧
      world' = { world with events := world.events ++ [.terminalsExpected none] }) ∨
    ∃ ids, marpa.terminalsExpected world.events = some ids ∧ count = ids.length ∧
      ids.length ≤ array.cells.length ∧
      array' = { array with cells := ids.map .pointer ++ array.cells.drop ids.length } ∧
      world' = { world with events := world.events ++ [.terminalsExpected (some ids)] } := by
  rw [marpaRTerminalsExpected, run_bind_ok (run_ask ..)] at run
  cases answer : marpa.terminalsExpected world.events with
  | none =>
    rw [answer] at run
    cases run
    exact .inl ⟨rfl, rfl, rfl, rfl⟩
  | some ids =>
    rw [answer] at run
    by_cases fits : ids.length ≤ array.cells.length
    · simp only [if_pos fits] at run
      cases run
      exact .inr ⟨ids, rfl, rfl, fits, rfl, rfl⟩
    · simp only [if_neg fits] at run
      cases run

theorem lookupTurn_return {ids : List (Slot Int)} {index : Nat} {pointers : List (Slot Nat)}
    {outcome : Turn (List (Slot Nat)) Empty}
    (run : lookupTurn wrapper ids index pointers world = .ok outcome world') :
    world' = world ∧ index < pointers.length ∧ ∃ id, ids[index]? = some (.pointer id) ∧ 0 ≤ id ∧
      outcome = .next (pointers.set index
        (((lookup wrapper.marpaWrapperSymbolpp id.toNat).map fun _ => id.toNat).elim
          .null .pointer)) := by
  obtain ⟨id, between, read, rest⟩ := run_bind_eq_ok run
  obtain ⟨rfl, cell, found, -, rfl⟩ := readCell_eq_ok read
  cases cell with
  | indeterminate => cases rest
  | null => cases rest
  | pointer id =>
    obtain ⟨pointer, between', looked, rest⟩ := run_bind_eq_ok rest
    obtain ⟨rfl, nonNegative, rfl⟩ := readPointer_eq_ok looked
    obtain ⟨cells, between'', wrote, last⟩ := run_bind_eq_ok rest
    obtain ⟨rfl, inside, rfl⟩ := writeCell_eq_ok wrote
    cases last
    exact ⟨rfl, inside, id, found, nonNegative, rfl⟩

/-- The loop that looks the ids up. -/
theorem lookupLoop_return {ids : List Int} {beyond : List (Slot Int)} {cells : List (Slot Nat)}
    {outcome : Turn (List (Slot Nat)) Empty}
    (run : forEach (lookupTurn wrapper (ids.map .pointer ++ beyond)) (List.range ids.length) cells
      world = .ok outcome world') :
    world' = world ∧ ∃ cells', outcome = .next cells' ∧ cells'.length = cells.length ∧
      PointsTo wrapper.marpaWrapperSymbolpp ids cells' := by
  -- The cells of the ids that were gone through are written.
  have turns : AfterTurn _ (fun _ _ => True) outcome world' := forEach_return
    (fun left cells' state => state = world ∧ cells'.length = cells.length ∧
      ∀ index id, index ∉ left → ids[index]? = some id → 0 ≤ id ∧ cells'[index]? = some
        (((lookup wrapper.marpaWrapperSymbolpp id.toNat).map fun _ => id.toNat).elim
          .null .pointer))
    (fun index rest cells' state outcome next => ?_)
    ⟨rfl, rfl, fun index id outside here => ?_⟩ run
  · cases outcome with
    | done result => exact result.elim
    | next cells' =>
      obtain ⟨same, length, written⟩ := turns
      exact ⟨same, cells', rfl, length, fun index id => written index id List.not_mem_nil⟩
  · rintro ⟨rfl, length, written⟩ turn
    obtain ⟨rfl, inside, id, found, nonNegative, rfl⟩ := lookupTurn_return turn
    refine ⟨rfl, by rw [List.length_set, length], fun other id' outside here => ?_⟩
    by_cases same : other = index
    · subst same
      have position : other < ids.length := (List.getElem?_eq_some_iff.mp here).1
      rw [List.getElem?_append_left (by rwa [List.length_map]), List.getElem?_map, here] at found
      cases found
      exact ⟨nonNegative, List.getElem?_set_self inside⟩
    · rw [List.getElem?_set_ne (Ne.symm same)]
      exact written other id' (fun member => (List.mem_cons.mp member).elim same outside) here
  · exact absurd (List.mem_range.mpr (List.getElem?_eq_some_iff.mp here).1) outside

theorem fillExpected_return {count : Nat}
    (run : fillExpected marpa wrapper world = .ok (some count, wrapper') world') :
    ∃ ids idArray pointerArray, marpa.terminalsExpected world.events = some ids ∧
      world' = { world with events := world.events ++ [.terminalsExpected (some ids)] } ∧
      count = toSize ids.length ∧
      wrapper' = { wrapper with
        expectedMarpaSymbolIdArrayp := some idArray
        expectedMarpaWrapperSymbolArraypp := some pointerArray } ∧
      PointsTo wrapper.marpaWrapperSymbolpp ids pointerArray.cells := by
  unfold fillExpected at run
  cases idArray : wrapper.expectedMarpaSymbolIdArrayp with
  | none => rw [idArray] at run; cases run
  | some array =>
    cases pointerArray : wrapper.expectedMarpaWrapperSymbolArraypp with
    | none => rw [idArray, pointerArray] at run; cases run
    | some pointers =>
      rw [idArray, pointerArray] at run
      obtain ⟨⟨nSymbolIdi, array'⟩, between, asked, rest⟩ := run_bind_eq_ok run
      rcases marpaRTerminalsExpected_return asked with ⟨rfl, -⟩ |
        ⟨ids, answer, rfl, fits, rfl, rfl⟩
      · cases rest
      · simp only [if_neg (show ¬ (ids.length : Int) = -2 by omega)] at rest
        obtain ⟨outcome, after, looked, last⟩ := run_bind_eq_ok rest
        obtain ⟨rfl, cells, rfl, -, points⟩ := lookupLoop_return looked
        cases last
        exact ⟨ids, _, { pointers with cells }, answer, rfl, rfl, rfl, points⟩

theorem allocateExpected_return {allocated : Bool}
    (run : allocateExpected libc marpa wrapper world = .ok (allocated, wrapper') world') :
    ∃ idArray pointerArray, wrapper' = { wrapper with
      expectedMarpaSymbolIdArrayp := idArray
      expectedMarpaWrapperSymbolArraypp := pointerArray } := by
  unfold allocateExpected at run
  by_cases there : wrapper.expectedMarpaSymbolIdArrayp.isSome
  · rw [if_pos there] at run
    cases run
    exact ⟨_, _, rfl⟩
  · rw [if_neg there] at run
    obtain ⟨highest, between, asked, rest⟩ := run_bind_eq_ok run
    by_cases failed : highest = -2
    · rw [if_pos failed] at rest
      cases rest
      exact ⟨_, _, rfl⟩
    · rw [if_neg failed] at rest
      obtain ⟨ids, first, granted, rest⟩ := run_bind_eq_ok rest
      cases ids with
      | none => cases rest; exact ⟨_, _, rfl⟩
      | some ids =>
        obtain ⟨pointers, second, granted', rest⟩ := run_bind_eq_ok rest
        cases pointers with
        | none => cases rest; exact ⟨_, _, rfl⟩
        | some pointers => cases rest; exact ⟨_, _, rfl⟩

/-- `TRUE` means that libmarpa reported ids in the last exchange, and that the array points to the
symbols that are registered under them. -/
theorem marpaWrapperRTerminalsExpectedb_return {count : Nat}
    (run : marpaWrapperRTerminalsExpectedb libc marpa wrapper world =
      .ok (some count, wrapper') world') :
    ∃ opening ids idArray pointerArray, (∀ event ∈ opening, event.ofExpected = true) ∧
      marpa.terminalsExpected (world.events ++ opening) = some ids ∧
      world'.events = world.events ++ opening ++ [.terminalsExpected (some ids)] ∧
      count = toSize ids.length ∧
      wrapper' = { wrapper with
        expectedMarpaSymbolIdArrayp := some idArray
        expectedMarpaWrapperSymbolArraypp := some pointerArray } ∧
      PointsTo wrapper.marpaWrapperSymbolpp ids pointerArray.cells := by
  unfold marpaWrapperRTerminalsExpectedb at run
  by_cases missing : wrapper.marpaRecognizerp.isNone
  · rw [if_pos missing] at run
    cases run
  · rw [if_neg missing] at run
    obtain ⟨⟨allocated, between⟩, state, prepared, rest⟩ := run_bind_eq_ok run
    obtain ⟨idArray, pointerArray, rfl⟩ := allocateExpected_return prepared
    cases allocated with
    | false => cases rest
    | true =>
      obtain ⟨ids, idArray', pointerArray', answer, rfl, counted, rfl, points⟩ :=
        fillExpected_return rest
      obtain ⟨opening, added, kind⟩ :=
        (Continued.of_run (fun _ => allocateExpected_continued) prepared).record
      exact ⟨opening, ids, idArray', pointerArray', kind, added ▸ answer, by rw [← added], counted,
        rfl, points⟩

end Fill

/-! ### Sorting -/

section Order

variable {libc : Libc V} {wrapper wrapper' : Wrapper} {world world' : World V}

/-- The walk over the terminals reads the symbols that the cells point to. -/
theorem keyLoop_return {count : Nat} {outcome : Turn (List (Nat × MarpaWrapperSymbol)) Empty}
    (run : forEach (keyTurn wrapper) (List.range count) [] world = .ok outcome world') :
    world' = world ∧ ∃ terminals, outcome = .next terminals ∧
      (expectedCells wrapper).take count = terminals.map (.pointer ·.1) ∧
      terminals.length = count := by
  have turns : AfterTurn _ (fun _ _ => True) outcome world' := forEach_range_return
    (fun done terminals state => state = world ∧ terminals.length = done ∧
      (expectedCells wrapper).take done = terminals.map (.pointer ·.1))
    (fun index terminals state outcome next below => ?_) ⟨rfl, rfl, rfl⟩ run
  · cases outcome with
    | done result => exact result.elim
    | next terminals =>
      obtain ⟨same, length, cells⟩ := turns
      exact ⟨same, terminals, rfl, cells, length⟩
  · rintro ⟨rfl, length, cells⟩ turn
    obtain ⟨⟨pointer, symbol⟩, between, read, last⟩ := run_bind_eq_ok turn
    obtain ⟨rfl, found, -⟩ := expectedSymbol_eq_ok read
    cases last
    refine ⟨rfl, by rw [List.length_append, length]; rfl, ?_⟩
    rw [List.take_add_one, cells, found, List.map_append]
    rfl

/-- A sort leaves the same pointers in another order, and nothing else changes. -/
theorem sortTerminals_return (conforms : Conforms libc.qsort) {count : Nat}
    (run : sortTerminals libc wrapper count world = .ok wrapper' world') :
    world' = world ∧ ∃ pointerArray, wrapper' = { wrapper with
        expectedMarpaWrapperSymbolArraypp := pointerArray } ∧
      ((expectedCells wrapper').take count).Perm ((expectedCells wrapper).take count) := by
  obtain ⟨outcome, between, walked, rest⟩ := run_bind_eq_ok run
  obtain ⟨rfl, terminals, rfl, cells, length⟩ := keyLoop_return walked
  cases rest
  refine ⟨rfl, _, rfl, ?_⟩
  have perm := conforms.perm (fun terminal1 terminal2 : Nat × MarpaWrapperSymbol =>
    marpaWrapperSymbolCmpBySizelDescFirstCharDesc (libc.garbage world'.events) terminal1.2
      terminal2.2) terminals
  have sortedLength := perm.length_eq.trans length
  rw [cells]
  unfold expectedCells cellsOf at cells ⊢
  cases array : wrapper.expectedMarpaWrapperSymbolArraypp with
  | none =>
    rw [array] at cells
    rw [← cells]
    exact .refl _
  | some block =>
    show (List.take count (_ ++ _)).Perm _
    rw [List.take_append_of_le_length (by rw [List.length_map]; exact Nat.le_of_eq sortedLength.symm),
      List.take_of_length_le (by rw [List.length_map]; exact Nat.le_of_eq sortedLength)]
    exact perm.map _

theorem orderTerminals_return (conforms : Conforms libc.qsort)
    {callbacks : RecognizerCallbacks V} {count : Nat}
    (run : orderTerminals libc callbacks wrapper count world = .ok wrapper' world') :
    world' = world ∧ ∃ pointerArray, wrapper' = { wrapper with
        expectedMarpaWrapperSymbolArraypp := pointerArray } ∧
      ((expectedCells wrapper').take count).Perm ((expectedCells wrapper).take count) := by
  unfold orderTerminals at run
  by_cases sorts : callbacks.longestAcceptableTokenMatchb ∧ count > 1
  · rw [if_pos sorts] at run
    exact sortTerminals_return conforms run
  · rw [if_neg sorts] at run
    cases run
    exact ⟨rfl, _, rfl, .refl _⟩

end Order

end MarpaWrapper
