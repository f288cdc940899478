/-
This file is about the tables in which the wrapper registers its symbols, its
rules and its progress items. A table holds a list of objects when its first
cells point to them, in order, and its other cells are `NULL`. Looking up a
slot, entering an object behind the others, exchanging an object and growing
the block are then operations on the list.

The growth is by doubling, and the arithmetic of sizes is that of `size_t`. A
request for one slot more than there are either fails, or has no further
behaviour, or leaves a block as large as its size says.
-/

import MarpaWrapper.Exchanges
import MarpaWrapper.ManageBufGrowth
import MarpaWrapper.Recognition

namespace MarpaWrapper

open Effects

variable {V α : Type}

/-! ### Looking up -/

/-- The object that a cell of a table points to. It outlives the block of the table. -/
def lookup (table : Option (Block α)) (index : Nat) : Option α :=
  (cellsOf table)[index]?.bind Slot.target?

theorem lookup_eq_some {table : Option (Block α)} {index : Nat} {object : α} :
    lookup table index = some object ↔
      ∃ block, table = some block ∧ block.cells[index]? = some (.pointer object) := by
  unfold lookup
  rw [Option.bind_eq_some_iff]
  constructor
  · rintro ⟨cell, found, target⟩
    cases cell with
    | indeterminate => cases target
    | null => cases target
    | pointer pointed =>
      cases target
      cases table with
      | none => cases found
      | some block => exact ⟨block, rfl, found⟩
  · rintro ⟨block, rfl, found⟩
    exact ⟨.pointer object, found, rfl⟩

theorem registers_of_lookup {table : Option (Block α)} {index : Int} {object : α}
    (live : Unreleased table) (nonNegative : 0 ≤ index)
    (found : lookup table index.toNat = some object) : Registers table index := by
  obtain ⟨block, rfl, cell⟩ := lookup_eq_some.mp found
  exact ⟨nonNegative, block, object, rfl, live block rfl, cell⟩

theorem readObject_lookup {table : Option (Block α)} {index : Nat} {object : α}
    (found : lookup table index = some object) (world : World V) :
    readObject table index world = .ok (some object) world := by
  obtain ⟨block, rfl, cell⟩ := lookup_eq_some.mp found
  rw [readObject, readCell, cell]
  rfl

theorem readPointer_lookup {table : Option (Block α)} {id : Int} {object : α}
    (live : Unreleased table) (nonNegative : 0 ≤ id)
    (found : lookup table id.toNat = some object) (world : World V) :
    readPointer table id world = .ok (some id.toNat) world :=
  readPointer_registered (registers_of_lookup live nonNegative found) world

theorem readSymbol_run {wrapper : Wrapper} {pointer : Nat} {symbol : MarpaWrapperSymbol}
    (found : lookup wrapper.marpaWrapperSymbolpp pointer = some symbol) (world : World V) :
    readSymbol wrapper pointer world = .ok symbol world := by
  rw [readSymbol, run_bind_ok (readObject_lookup found world)]
  rfl

/-! ### Changing a symbol -/

/-- The wrapper in which a symbol object is changed. -/
def Wrapper.withSymbol (wrapper : Wrapper) (pointer : Nat) (symbol : MarpaWrapperSymbol) :
    Wrapper :=
  { wrapper with
    marpaWrapperSymbolpp := wrapper.marpaWrapperSymbolpp.map fun table =>
      { table with cells := table.cells.set pointer (.pointer symbol) } }

theorem writeSymbol_run {wrapper : Wrapper} {pointer : Nat} {old : MarpaWrapperSymbol}
    (found : lookup wrapper.marpaWrapperSymbolpp pointer = some old)
    (symbol : MarpaWrapperSymbol) (world : World V) :
    writeSymbol wrapper pointer symbol world = .ok (wrapper.withSymbol pointer symbol) world := by
  obtain ⟨block, same, cell⟩ := lookup_eq_some.mp found
  have inside : pointer < block.cells.length := (List.getElem?_eq_some_iff.mp cell).1
  unfold writeSymbol Wrapper.withSymbol
  rw [same]
  show (writeCell _ _ _ >>= _) _ = _
  rw [writeCell, if_pos inside]
  rfl

theorem withSymbol_live {wrapper : Wrapper} (live : Unreleased wrapper.marpaWrapperSymbolpp)
    (pointer : Nat) (symbol : MarpaWrapperSymbol) :
    Unreleased (wrapper.withSymbol pointer symbol).marpaWrapperSymbolpp := by
  intro block member
  obtain ⟨table, there, rfl⟩ := Option.map_eq_some_iff.mp member
  exact live table there

theorem lookup_withSymbol_self {wrapper : Wrapper} {pointer : Nat} {old : MarpaWrapperSymbol}
    (found : lookup wrapper.marpaWrapperSymbolpp pointer = some old)
    (symbol : MarpaWrapperSymbol) :
    lookup (wrapper.withSymbol pointer symbol).marpaWrapperSymbolpp pointer = some symbol := by
  obtain ⟨block, same, cell⟩ := lookup_eq_some.mp found
  unfold Wrapper.withSymbol
  rw [same]
  exact lookup_eq_some.mpr
    ⟨_, rfl, List.getElem?_set_self (List.getElem?_eq_some_iff.mp cell).1⟩

theorem lookup_withSymbol_ne {wrapper : Wrapper} {pointer other : Nat} (different : other ≠ pointer)
    (symbol : MarpaWrapperSymbol) :
    lookup (wrapper.withSymbol pointer symbol).marpaWrapperSymbolpp other =
      lookup wrapper.marpaWrapperSymbolpp other := by
  unfold Wrapper.withSymbol lookup
  cases wrapper.marpaWrapperSymbolpp with
  | none => rfl
  | some table =>
    show ((table.cells.set pointer (.pointer symbol))[other]?).bind _ = _
    rw [List.getElem?_set_ne (Ne.symm different)]
    rfl

/-! ### Tables that hold objects -/

/-- The first cells of a table point to the objects, in order; the others are `NULL`. -/
structure Holds (table : Option (Block α)) (size : Nat) (objects : List α) : Prop where
  cells : cellsOf table =
    objects.map .pointer ++ List.replicate (size - objects.length) .null
  within : objects.length ≤ size
  allocated : table.isSome = true ↔ 0 < size
  live : Unreleased table

section Holds

variable {table : Option (Block α)} {block : Block α} {size size' : Nat} {objects : List α}

theorem Holds.empty : Holds (none : Option (Block α)) 0 [] :=
  ⟨rfl, Nat.le_refl _, by simp, nofun⟩

theorem Holds.length (holds : Holds table size objects) : (cellsOf table).length = size := by
  rw [holds.cells, List.length_append, List.length_map, List.length_replicate]
  exact Nat.add_sub_cancel' holds.within

theorem Holds.cell (holds : Holds table size objects) {index : Nat} {object : α}
    (found : objects[index]? = some object) : (cellsOf table)[index]? = some (.pointer object) := by
  have below : index < objects.length := (List.getElem?_eq_some_iff.mp found).1
  rw [holds.cells, List.getElem?_append_left (by rwa [List.length_map]), List.getElem?_map, found]
  rfl

theorem Holds.cell_null (holds : Holds table size objects) {index : Nat}
    (above : objects.length ≤ index) (below : index < size) :
    (cellsOf table)[index]? = some .null := by
  rw [holds.cells, List.getElem?_append_right (by rwa [List.length_map]), List.length_map,
    List.getElem?_replicate, if_pos (by omega)]

theorem Holds.lookup (holds : Holds table size objects) (index : Nat) :
    lookup table index = objects[index]? := by
  unfold MarpaWrapper.lookup
  by_cases below : index < objects.length
  · rw [holds.cell (List.getElem?_eq_getElem below), List.getElem?_eq_getElem below]
    rfl
  · rw [List.getElem?_eq_none (Nat.le_of_not_lt below)]
    by_cases inside : index < size
    · rw [holds.cell_null (Nat.le_of_not_lt below) inside]
      rfl
    · rw [List.getElem?_eq_none (by rw [holds.length]; omega)]
      rfl

/-- A block that was extended by `NULL` holds what it held. -/
theorem Holds.grow (holds : Holds table size objects) (larger : size ≤ size') (some : 0 < size')
    (cells : block.cells = cellsOf table ++ List.replicate (size' - size) .null)
    (live : block.released = false) : Holds (Option.some block) size' objects := by
  refine ⟨?_, Nat.le_trans holds.within larger, by simp [some], by rintro _ ⟨⟩; exact live⟩
  show block.cells = _
  have within := holds.within
  rw [cells, holds.cells, List.append_assoc, List.replicate_append_replicate]
  exact congrArg _ (congrArg (List.replicate · _) (by omega))

/-- Another object is entered behind the others. -/
theorem Holds.push (holds : Holds (some block) size objects) (room : objects.length < size)
    (object : α) :
    Holds (some { block with cells := block.cells.set objects.length (.pointer object) }) size
      (objects ++ [object]) := by
  have cells : block.cells =
      objects.map .pointer ++ List.replicate (size - objects.length) .null := holds.cells
  refine ⟨?_, by rw [List.length_append]; exact room, by simpa using holds.allocated,
    by rintro _ ⟨⟩; exact holds.live block rfl⟩
  show block.cells.set _ _ = _
  obtain ⟨rest, remaining⟩ : ∃ rest, size - objects.length = rest + 1 :=
    ⟨size - objects.length - 1, by omega⟩
  have fewer : size - (objects ++ [object]).length = rest := by
    rw [List.length_append, List.length_singleton]
    omega
  rw [cells, remaining, fewer, List.set_append_right _ _ (by rw [List.length_map]), List.length_map,
    Nat.sub_self, List.replicate_succ, List.set_cons_zero, List.map_append, List.append_assoc]
  rfl

/-- An object is exchanged. -/
theorem Holds.set (holds : Holds (some block) size objects) {index : Nat}
    (inside : index < objects.length) (object : α) :
    Holds (some { block with cells := block.cells.set index (.pointer object) }) size
      (objects.set index object) := by
  have cells : block.cells =
      objects.map .pointer ++ List.replicate (size - objects.length) .null := holds.cells
  refine ⟨?_, by rw [List.length_set]; exact holds.within, by simpa using holds.allocated,
    by rintro _ ⟨⟩; exact holds.live block rfl⟩
  show block.cells.set _ _ = _
  rw [cells, List.set_append_left _ _ (by rwa [List.length_map]), List.map_set, List.length_set]

/-- The objects are put in another order. -/
theorem Holds.reorder (holds : Holds (some block) size objects) {objects' : List α}
    (length : objects'.length = objects.length) :
    Holds (some { block with
      cells := objects'.map .pointer ++ block.cells.drop objects.length }) size objects' := by
  have cells : block.cells =
      objects.map .pointer ++ List.replicate (size - objects.length) .null := holds.cells
  refine ⟨?_, by rw [length]; exact holds.within, by simpa using holds.allocated,
    by rintro _ ⟨⟩; exact holds.live block rfl⟩
  show _ ++ block.cells.drop _ = _
  rw [cells, List.drop_append_of_le_length (by rw [List.length_map]), List.drop_of_length_le
    (by rw [List.length_map]), List.nil_append, length]

end Holds

/-! ### Growing -/

section Growing

variable {libc : Libc V} {fuel : Nat} {build : Build} {world world' : World V}
  {cells cells' : List (Slot α)} {size size' wanted : Nat}

/-- When at most one slot is missing, the loop grows the block once at most. -/
theorem growLoop_next {ppp : Option (Block α)} {outcome : Except (Growth α) (Growth α)}
    (next : wanted ≤ size + 1)
    (run : loop .exhausted (growTurn libc sizeModulus wanted pointerSize) fuel ⟨size, size, ppp⟩
      world = .ok outcome world') :
    (wanted ≤ size ∧ outcome = .ok ⟨size, size, ppp⟩ ∧ world' = world) ∨
    outcome = .error ⟨size, size, ppp⟩ ∨
    (¬ (⟨size, size, ppp⟩ : Growth α).TurnsAround sizeModulus ∧ size < wanted ∧
      wanted ≤ (⟨size, size, ppp⟩ : Growth α).nextSizei sizeModulus ∧
      outcome = .ok ((⟨size, size, ppp⟩ : Growth α).enlarged sizeModulus pointerSize
        world.nextAddress) ∧
      ∃ event, world' = { world with
        events := world.events ++ [event], nextAddress := world.nextAddress + 1 }) := by
  obtain ⟨left, first, between, rfl, turn, rest⟩ := loop_eq_ok run
  rcases growTurn_cases turn with ⟨enough, rfl, rfl⟩ | ⟨-, -, rfl, -⟩ | ⟨-, -, -, rfl, -⟩ |
    ⟨small, forward, -, rfl, rfl⟩
  · exact .inl ⟨enough, rest.1.symm, rest.2.symm⟩
  · exact .inr (.inl rest.1.symm)
  · exact .inr (.inl rest.1.symm)
  · -- The second turn finds that there is room.
    have room : wanted ≤ (⟨size, size, ppp⟩ : Growth α).nextSizei sizeModulus := by
      unfold Growth.TurnsAround at forward
      unfold Growth.nextSizei
      simp only [sizeModulus] at forward small ⊢
      split <;> omega
    obtain ⟨left, second, between, rfl, turn, rest⟩ := loop_eq_ok rest
    rcases growTurn_cases turn with ⟨-, rfl, rfl⟩ | ⟨smaller, -⟩ | ⟨smaller, -⟩ | ⟨smaller, -⟩
    · obtain ⟨rfl, rfl⟩ := rest
      exact .inr (.inr ⟨forward, small, room, rfl, _, rfl⟩)
    all_goals exact absurd room (Nat.not_le.mpr smaller)

/-- When at most one slot is missing, a failure leaves the table of the caller. -/
theorem manageBufCreatep_left {ppp left : Option (Block α)} (next : wanted ≤ size + 1)
    (run : manageBufCreatep libc fuel build sizeModulus ppp size wanted pointerSize world =
      .ok (.error left) world') : left = ppp := by
  unfold manageBufCreatep at run
  obtain ⟨outcome, between, grew, rest⟩ := run_bind_eq_ok run
  rcases growLoop_next next grew with ⟨-, rfl, -⟩ | rfl | ⟨-, -, -, rfl, -⟩
  · obtain ⟨cells, after, filled, last⟩ := run_bind_eq_ok rest
    cases ppp with
    | none => cases last; rfl
    | some block => cases last
  · cases rest
    exact leftBy_same rfl
  · obtain ⟨cells, after, filled, last⟩ := run_bind_eq_ok rest
    cases last

theorem prefillZeroes_run {elementSize : Nat}
    (run : prefillZeroes sizeModulus cells size size' elementSize world = .ok cells' world') :
    world' = world ∧
      size + (size' - size) * elementSize % sizeModulus / elementSize ≤ cells.length ∧
      cells' = cells.take size ++
        List.replicate ((size' - size) * elementSize % sizeModulus / elementSize) .null ++
        cells.drop (size + (size' - size) * elementSize % sizeModulus / elementSize) := by
  unfold prefillZeroes at run
  by_cases inside :
      size + (size' - size) * elementSize % sizeModulus / elementSize ≤ cells.length
  · rw [if_pos inside] at run
    cases run
    exact ⟨rfl, inside, rfl⟩
  · rw [if_neg inside] at run
    cases run

/-- A product that does not fit `size_t` leaves too small a block, so that the gain of a doubled
block can only be filled when the block is as large as its size says. -/
theorem doubled_fits {capacity gain : Nat}
    (capacity_eq : capacity = size' * pointerSize % sizeModulus / pointerSize)
    (gain_eq : gain = (size' - size) * pointerSize % sizeModulus / pointerSize)
    (inside : size + gain ≤ min capacity size + (capacity - size))
    (doubled : size' = size * 2 % sizeModulus) (larger : size ≤ size') :
    capacity = size' ∧ gain = size' - size := by
  unfold sizeModulus at capacity_eq gain_eq doubled
  unfold pointerSize at capacity_eq gain_eq
  omega

/-- The cells of a larger block, with the gain filled. -/
theorem extended_cells (length : cells.length = size) (larger : size ≤ size') :
    (cells.take size' ++ List.replicate (size' - cells.length) Slot.indeterminate).take size ++
        List.replicate (size' - size) .null ++
        (cells.take size' ++ List.replicate (size' - cells.length) Slot.indeterminate).drop
          (size + (size' - size)) =
      cells ++ List.replicate (size' - size) .null := by
  have short : cells.length ≤ size' := by rw [length]; exact larger
  rw [List.take_of_length_le short, List.take_append_of_le_length (Nat.le_of_eq length.symm),
    List.take_of_length_le (Nat.le_of_eq length), List.drop_of_length_le, List.append_nil]
  rw [List.length_append, List.length_replicate]
  omega

/-- What a request for room leaves: the same block, or a new one that extends it by `NULL`. -/
inductive Room (ppp : Option (Block α)) (size : Nat) (world : World V) (block : Block α)
    (size' : Nat) (world' : World V) : Prop where
  | same (block_eq : ppp = some block) (size_eq : size' = size) (world_eq : world' = world)
  | grown (larger : size < size') (address : block.address = world.nextAddress)
    (cells : block.cells = cellsOf ppp ++ List.replicate (size' - size) .null)
    (live : block.released = false)
    (world_eq : ∃ event, world' = { world with
      events := world.events ++ [event], nextAddress := world.nextAddress + 1 })

/-- When at most one slot is missing, the block that is returned is as large as its size says. -/
theorem manageBufCreatep_next {ppp : Option (Block α)} {block : Block α}
    (zeroes : build.nullIsZeroes = true) (length : (cellsOf ppp).length = size)
    (next : wanted ≤ size + 1)
    (run : manageBufCreatep libc fuel build sizeModulus ppp size wanted pointerSize world =
      .ok (.ok (block, size')) world') :
    wanted ≤ size' ∧ Room ppp size world block size' world' := by
  unfold manageBufCreatep at run
  obtain ⟨outcome, between, grew, rest⟩ := run_bind_eq_ok run
  cases outcome with
  | error growth => cases rest
  | ok growth =>
    obtain ⟨cells, after, filled, last⟩ := run_bind_eq_ok rest
    unfold prefill at filled
    rw [if_pos zeroes] at filled
    obtain ⟨rfl, inside, rfl⟩ := prefillZeroes_run filled
    rcases growLoop_next next grew with ⟨enough, same, rfl⟩ | same |
      ⟨forward, small, room, same, event, rfl⟩
    · cases same
      cases ppp with
      | none => cases last
      | some block =>
        cases last
        refine ⟨enough, .same ?_ rfl rfl⟩
        simp [cellsOf]
    · cases same
    · cases same
      cases last
      refine ⟨room, .grown (Nat.lt_of_lt_of_le small room) rfl ?_ rfl ⟨event, rfl⟩⟩
      by_cases empty : size = 0
      · subst empty
        simp only [Growth.enlarged, Growth.nextBytes, Growth.nextSizei, Growth.oldCells, if_true,
          List.eq_nil_of_length_eq_zero length]
        rfl
      · have positive := Nat.pos_of_ne_zero empty
        have larger : size ≤ size * 2 % sizeModulus :=
          Nat.not_lt.mp fun less => forward ⟨positive, less⟩
        simp only [Growth.enlarged, Growth.nextBytes, Growth.nextSizei, Growth.oldCells,
          if_neg empty, cellsOf, Option.map_some, Option.getD_some] at inside ⊢
        rw [List.length_append, List.length_take, List.length_replicate] at inside
        change size + _ ≤ min _ (cellsOf ppp).length + (_ - (cellsOf ppp).length) at inside
        rw [length] at inside
        have fits := doubled_fits rfl rfl inside rfl larger
        rw [fits.1, fits.2]
        exact extended_cells length larger

end Growing

end MarpaWrapper
