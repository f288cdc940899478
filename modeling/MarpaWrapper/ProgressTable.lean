/-
This file is about the table of the progress items, which grows under both
builds. A table stores a list of items when its first cells point to them; the
other cells that the build's prefill reaches are `NULL`. A build that prefills
with an `int` reaches `INT_MAX` only, and what lies behind is never read.

A request for one slot more ends, and it fails only when memory is refused.
-/

import MarpaWrapper.WrapperTables

namespace MarpaWrapper

open Effects

variable {V α : Type}

/-! ### Tables that store items -/

/-- The slots that the prefill of a build reaches. -/
def Build.reach (build : Build) : Nat := if build.nullIsZeroes then sizeModulus else 2 ^ 31

/-- So many items a build stores while its arithmetic of sizes is exact. -/
def Build.limit (build : Build) : Nat := if build.nullIsZeroes then 2 ^ 60 else 2 ^ 31

/-- The first cells of a table point to the items, in order; the others are `NULL` as far as the
prefill reaches, and the next one was never written. -/
structure Stores (build : Build) (table : Option (Block α)) (size : Nat) (items : List α) :
    Prop where
  small : size < 2 * build.limit
  few : items.length ≤ build.limit
  length : (cellsOf table).length = size
  within : items.length ≤ size
  allocated : table.isSome = true ↔ 0 < size
  live : Unreleased table
  cell : ∀ (index : Nat) (item : α), items[index]? = some item →
    (cellsOf table)[index]? = some (.pointer item)
  rest : ∀ index : Nat, items.length ≤ index → index < size → index < build.reach →
    (cellsOf table)[index]? = some .null
  beyond : build.reach < size → (cellsOf table)[build.reach]? = some .indeterminate

section Stores

variable {build : Build} {size size' : Nat} {table : Option (Block α)} {block : Block α} {items : List α}

theorem Build.limit_large (build : Build) : 2 ^ 31 ≤ build.limit := by
  unfold Build.limit
  cases build.nullIsZeroes <;> decide

theorem Build.limit_le_reach (build : Build) : build.limit ≤ build.reach := by
  unfold Build.limit Build.reach
  cases build.nullIsZeroes <;> decide

theorem Stores.empty (build : Build) : Stores build (none : Option (Block α)) 0 [] :=
  ⟨by have := build.limit_large; omega, Nat.zero_le _, rfl, Nat.le_refl _, by simp, nofun,
    (fun _ _ found => nomatch found), fun _ _ below => absurd below (Nat.not_lt_zero _),
    fun below => absurd below (Nat.not_lt_zero _)⟩

/-- The items are the first cells. -/
theorem Stores.take (stores : Stores build table size items) :
    (cellsOf table).take items.length = items.map .pointer := by
  refine List.ext_getElem? fun index => ?_
  rw [List.getElem?_map]
  by_cases inside : index < items.length
  · have here := List.getElem?_eq_getElem inside
    rw [List.getElem?_take_of_lt inside, stores.cell index _ here, here]
    rfl
  · rw [List.getElem?_eq_none (by rw [List.length_take]; omega),
      List.getElem?_eq_none (Nat.le_of_not_lt inside)]
    rfl

/-- A table that is in reach as a whole holds the items. -/
theorem Stores.holds (stores : Stores build table size items) (inReach : size ≤ build.reach) :
    Holds table size items := by
  refine ⟨List.ext_getElem? fun index => ?_, stores.within, stores.allocated, stores.live⟩
  by_cases inside : index < items.length
  · have here := List.getElem?_eq_getElem inside
    rw [List.getElem?_append_left (by rwa [List.length_map]), List.getElem?_map, here,
      stores.cell index _ here]
    rfl
  · have above := Nat.le_of_not_lt inside
    rw [List.getElem?_append_right (by rwa [List.length_map]), List.length_map,
      List.getElem?_replicate]
    by_cases below : index < size
    · rw [if_pos (by omega), stores.rest index above below (Nat.lt_of_lt_of_le below inReach)]
    · rw [if_neg (by omega), List.getElem?_eq_none (by rw [stores.length]; omega)]

/-- A table holds its items and nothing else exactly when it is in reach as a whole. -/
theorem Stores.holds_iff (stores : Stores build table size items) :
    (∃ objects : List α, Holds table size objects ∧ objects.length = items.length) ↔
      size ≤ build.reach := by
  constructor
  · rintro ⟨objects, holds, length⟩
    by_contra outside
    have few := stores.few
    have reach := build.limit_le_reach
    have above : objects.length ≤ build.reach := by omega
    have null := holds.cell_null above (by omega)
    rw [stores.beyond (by omega)] at null
    cases null
  · exact fun inReach => ⟨items, stores.holds inReach, rfl⟩

/-- Another item is entered behind the others. -/
theorem Stores.push (stores : Stores build (some block) size items) (room : items.length < size)
    (few : items.length < build.limit) (item : α) :
    Stores build (some { block with cells := block.cells.set items.length (.pointer item) }) size
      (items ++ [item]) := by
  have length : block.cells.length = size := stores.length
  have reach := build.limit_le_reach
  refine ⟨stores.small, by rw [List.length_append]; exact few,
    by rw [← length]; exact List.length_set, by rw [List.length_append]; exact room,
    by simpa using stores.allocated, fun _ same => by cases same; exact stores.live block rfl,
    fun index other found => ?_,
    fun index above below reached => ?_, fun outside => ?_⟩
  · show (block.cells.set items.length (.pointer item))[index]? = _
    by_cases last : index = items.length
    · subst last
      rw [List.getElem?_append_right (Nat.le_refl _), Nat.sub_self] at found
      cases found
      exact List.getElem?_set_self (by omega)
    · have inside : index < items.length := by
        have := (List.getElem?_eq_some_iff.mp found).1
        rw [List.length_append, List.length_singleton] at this
        omega
      rw [List.getElem?_set_ne (Ne.symm last)]
      rw [List.getElem?_append_left inside] at found
      exact stores.cell index other found
  · show (block.cells.set items.length (.pointer item))[index]? = _
    rw [List.length_append, List.length_singleton] at above
    rw [List.getElem?_set_ne (by omega)]
    exact stores.rest index (by omega) below reached
  · show (block.cells.set items.length (.pointer item))[build.reach]? = _
    rw [List.getElem?_set_ne (by omega)]
    exact stores.beyond outside

/-- The items are put in another order. -/
theorem Stores.reorder (stores : Stores build (some block) size items) {items' : List α}
    (length : items'.length = items.length) :
    Stores build (some { block with
      cells := items'.map .pointer ++ block.cells.drop items.length }) size items' := by
  have cells : block.cells.length = size := stores.length
  have within := stores.within
  have reach := build.limit_le_reach
  have few := stores.few
  refine ⟨stores.small, by rw [length]; exact few, ?_, by rw [length]; exact within,
    by simpa using stores.allocated, fun _ same => by cases same; exact stores.live block rfl,
    fun index item found => ?_,
    fun index above below reached => ?_, fun outside => ?_⟩
  · show (items'.map Slot.pointer ++ block.cells.drop items.length).length = size
    rw [List.length_append, List.length_map, List.length_drop, cells, length]
    omega
  · show (items'.map Slot.pointer ++ block.cells.drop items.length)[index]? = _
    have inside := (List.getElem?_eq_some_iff.mp found).1
    rw [List.getElem?_append_left (by rwa [List.length_map]), List.getElem?_map, found]
    rfl
  · show (items'.map Slot.pointer ++ block.cells.drop items.length)[index]? = _
    rw [List.getElem?_append_right (by rwa [List.length_map]), List.length_map,
      List.getElem?_drop, length]
    rw [length] at above
    rw [Nat.add_sub_cancel' above]
    exact stores.rest index above below reached
  · show (items'.map Slot.pointer ++ block.cells.drop items.length)[build.reach]? = _
    rw [List.getElem?_append_right (by rw [List.length_map]; omega), List.length_map,
      List.getElem?_drop, length, Nat.add_sub_cancel' (by omega)]
    exact stores.beyond outside

end Stores

/-! ### The prefill -/

section Prefill

variable {fuel size size' : Nat} {build : Build} {cells : List (Slot α)} {world : World V}

/-- The counter after `INT_MAX`. -/
theorem toInt_overflow : toInt (2 ^ 31 : Nat) = -2 ^ 31 := by decide

variable (fuel world) in
/-- The loop writes `NULL` as far as its counter goes. -/
theorem prefillLoop_run (length : size' ≤ cells.length) (few : size' < 2 ^ 32) {index : Nat}
    (reached : index ≤ 2 ^ 31) (below : index ≤ size') (enough : size' < index + fuel) :
    ∃ cells', loop .exhausted (prefillTurn sizeModulus size') fuel (toInt index, cells) world =
        .ok cells' world ∧ cells'.length = cells.length ∧
      (∀ other : Nat, other < index ∨ size' ≤ other ∨ 2 ^ 31 ≤ other →
        cells'[other]? = cells[other]?) ∧
      ∀ other : Nat, index ≤ other → other < size' → other < 2 ^ 31 →
        cells'[other]? = some .null := by
  induction fuel generalizing index cells with
  | zero => omega
  | succ fuel inductionHypothesis =>
    by_cases last : index = 2 ^ 31
    · -- The counter has turned negative, which is a large `size_t`.
      have stops : ¬ ((toInt index : Int) % sizeModulus).toNat < size' := by
        rw [last, toInt_overflow]
        unfold sizeModulus
        omega
      refine ⟨cells, loop_done ?_, rfl, fun _ _ => rfl, fun other above _ less => by omega⟩
      rw [prefillTurn, if_neg stops]
      rfl
    · have small : index < 2 ^ 31 := Nat.lt_of_le_of_ne reached last
      rw [toInt_small small]
      have counter : ((index : Int) % sizeModulus).toNat = index := by
        unfold sizeModulus
        omega
      by_cases inside : index < size'
      · have turn : prefillTurn sizeModulus size' ((index : Int), cells) world =
            .ok (.next (toInt ((index + 1 : Nat) : Int), cells.set index .null)) world := by
          rw [prefillTurn, if_pos (by rw [counter]; exact inside), if_neg (by omega),
            Int.toNat_natCast, writeCell, if_pos (Nat.lt_of_lt_of_le inside length)]
          rfl
        have longer : size' ≤ (cells.set index .null).length := by rwa [List.length_set]
        obtain ⟨cells', run, length', old, new⟩ := inductionHypothesis longer
          (show index + 1 ≤ 2 ^ 31 from small) inside (by omega)
        refine ⟨cells', by rw [loop_next turn]; exact run, by rw [length', List.length_set],
          fun other less => ?_,
          fun other above less reach => ?_⟩
        · rw [old other (by omega), List.getElem?_set_ne (by omega)]
        · by_cases here : other = index
          · subst here
            rw [old other (.inl (Nat.lt_succ_self _)), List.getElem?_set_self (by omega)]
          · exact new other (by omega) less reach
      · refine ⟨cells, loop_done ?_, rfl, fun _ _ => rfl, fun other above less _ => by omega⟩
        rw [prefillTurn, if_neg (by rw [counter]; exact inside)]
        rfl

/-- The prefill of either build. What was in the cells before stays, and the gain is `NULL` as far
as the build reaches. -/
theorem prefill_run (world : World V) (length : cells.length = size') (larger : size ≤ size')
    (few : size' < 2 * build.limit)
    (reached : build.nullIsZeroes = false → size < 2 ^ 31)
    (enough : 2 ^ 32 ≤ fuel) :
    ∃ cells', prefill fuel build sizeModulus cells size size' pointerSize world =
        .ok cells' world ∧ cells'.length = size' ∧
      (∀ index : Nat, index < size → cells'[index]? = cells[index]?) ∧
      (∀ index : Nat, size ≤ index → index < size' → index < build.reach →
        cells'[index]? = some .null) ∧
      ∀ index : Nat, build.reach ≤ index → cells'[index]? = cells[index]? := by
  unfold prefill Build.reach
  unfold Build.limit at few
  cases zeroes : build.nullIsZeroes with
  | true =>
    rw [zeroes, if_pos rfl] at few
    have gain : (size' - size) * pointerSize % sizeModulus / pointerSize = size' - size := by
      unfold sizeModulus pointerSize
      omega
    rw [if_pos rfl, prefillZeroes]
    simp only [gain]
    rw [if_pos (by omega)]
    refine ⟨_, rfl, ?_, fun index below => ?_, fun index above below _ => ?_, fun index above => ?_⟩
    · rw [List.length_append, List.length_append, List.length_take, List.length_replicate,
        List.length_drop]
      omega
    · rw [List.append_assoc, List.getElem?_append_left (by rw [List.length_take]; omega),
        List.getElem?_take_of_lt below]
    · rw [List.append_assoc, List.getElem?_append_right (by rw [List.length_take]; omega),
        List.length_take, List.getElem?_append_left (by rw [List.length_replicate]; omega),
        List.getElem?_replicate, if_pos (by omega)]
    · rw [if_pos trivial, sizeModulus] at above
      rw [List.getElem?_eq_none (by
          rw [List.length_append, List.length_append, List.length_take, List.length_replicate,
            List.length_drop]
          omega),
        List.getElem?_eq_none (by omega)]
  | false =>
    rw [zeroes] at few
    have few' : size' < 2 ^ 32 := by simpa using few
    have turns : size' < size + fuel := by omega
    obtain ⟨cells', run, length', old, new⟩ :=
      prefillLoop_run _ _ (Nat.le_of_eq length.symm) few' (Nat.le_of_lt (reached zeroes)) larger turns
    exact ⟨cells', run, length'.trans length, fun index below => old index (.inl below), new,
      fun index above => old index (.inr (.inr above))⟩

theorem prefillZeroes_same (length : cells.length = size) :
    prefillZeroes sizeModulus cells size size pointerSize world = .ok cells world := by
  have none : (size - size) * pointerSize % sizeModulus / pointerSize = 0 := by
    rw [Nat.sub_self, Nat.zero_mul, Nat.zero_mod, Nat.zero_div]
  rw [prefillZeroes]
  simp only [none]
  rw [Nat.add_zero, if_pos (Nat.le_of_eq length.symm), List.replicate_zero, List.append_nil,
    List.take_append_drop]
  rfl

theorem prefillLoop_same (few : size < 2 ^ 32) (enough : 0 < fuel) :
    loop .exhausted (prefillTurn sizeModulus size) fuel (toInt size, cells) world =
      .ok cells world := by
  obtain ⟨fuel, rfl⟩ : ∃ left, fuel = left + 1 := ⟨fuel - 1, by omega⟩
  refine loop_done ?_
  have stops : ¬ ((toInt size : Int) % sizeModulus).toNat < size := by
    unfold toInt uintModulus sizeModulus
    rw [Int.bmod_def]
    split <;> omega
  rw [prefillTurn, if_neg stops]
  rfl

/-- Without a gain nothing is written. -/
theorem prefill_same (length : cells.length = size) (few : size < 2 * build.limit)
    (enough : 0 < fuel) :
    prefill fuel build sizeModulus cells size size pointerSize world = .ok cells world := by
  unfold prefill
  cases zeroes : build.nullIsZeroes with
  | true => rw [if_pos rfl, prefillZeroes_same length]
  | false =>
    rw [if_neg Bool.false_ne_true]
    unfold Build.limit at few
    rw [zeroes, if_neg Bool.false_ne_true] at few
    exact prefillLoop_same few enough

end Prefill

/-! ### One slot more -/

section Growing

variable {libc : Libc V} {fuel size size' : Nat} {build : Build} {ppp : Option (Block α)}
  {items : List α} {world world' : World V}

/-- A request for the memory of a table of so many slots. -/
inductive TableRequest (address : Option Nat) : Nat → Event V → Prop
  | first : TableRequest address 100 (.malloc (100 * pointerSize) address)
  | again (slots : Nat) : TableRequest address slots (.realloc (slots * pointerSize) address)

/-- What a request for one slot more leaves: the table as it was, or another block. -/
inductive Provided (ppp : Option (Block α)) (size : Nat) (world : World V) (block : Block α)
    (size' : Nat) (world' : World V) : Prop where
  | same (block_eq : ppp = some block) (size_eq : size' = size) (world_eq : world' = world)
  | another {event : Event V} (larger : size < size')
    (request : TableRequest (some world.nextAddress) size' event)
    (address : block.address = world.nextAddress)
    (world_eq : world' = { world with
      events := world.events ++ [event], nextAddress := world.nextAddress + 1 })

/-- A slot that is there is no reason to grow. -/
theorem growLoop_same (there : size' ≤ size) (enough : 0 < fuel) :
    loop .exhausted (growTurn libc sizeModulus size' pointerSize) fuel ⟨size, size, ppp⟩ world =
      .ok (.ok ⟨size, size, ppp⟩) world := by
  obtain ⟨fuel, rfl⟩ : ∃ left, fuel = left + 1 := ⟨fuel - 1, by omega⟩
  refine loop_done ?_
  rw [growTurn, if_neg (Nat.not_lt.mpr there)]
  rfl

/-- How many slots a table has that is full with `size` items and grows. -/
def grownSize (size : Nat) : Nat := if size = 0 then 100 else size * 2

/-- A table that is full grows once, or memory is refused. -/
theorem growLoop_full (libc : Libc V) (few : size < 2 ^ 60) (length : (cellsOf ppp).length = size)
    (live : Unreleased ppp) (enough : 2 ≤ fuel) (world : World V) :
    (∃ event bytes slots, TableRequest none slots event ∧
      libc.grants world.events bytes = false ∧
      loop .exhausted (growTurn libc sizeModulus (size + 1) pointerSize) fuel ⟨size, size, ppp⟩
        world = .ok (.error ⟨size, size, ppp⟩)
          { world with events := world.events ++ [event] }) ∨
    ∃ event cells, TableRequest (some world.nextAddress) (grownSize size) event ∧
      cells.length = grownSize size ∧
      (∀ index : Nat, index < size → cells[index]? = (cellsOf ppp)[index]?) ∧
      (∀ index : Nat, size ≤ index → index < grownSize size →
        cells[index]? = some .indeterminate) ∧
      loop .exhausted (growTurn libc sizeModulus (size + 1) pointerSize) fuel ⟨size, size, ppp⟩
          world =
        .ok (.ok ⟨grownSize size, grownSize size, some { address := world.nextAddress, cells }⟩)
          { world with
            events := world.events ++ [event], nextAddress := world.nextAddress + 1 } := by
  obtain ⟨fuel, rfl⟩ : ∃ left, fuel = left + 1 := ⟨fuel - 1, by omega⟩
  have room : size + 1 ≤ grownSize size := by
    unfold grownSize
    by_cases empty : size = 0
    · rw [if_pos empty]; omega
    · rw [if_neg empty]; omega
  -- The second turn finds that there is room.
  have ends {block : Option (Block α)} {state : World V} :
      loop .exhausted (growTurn libc sizeModulus (size + 1) pointerSize) fuel
        ⟨grownSize size, grownSize size, block⟩ state =
        .ok (.ok ⟨grownSize size, grownSize size, block⟩) state := growLoop_same room (by omega)
  by_cases empty : size = 0
  · have grown : grownSize size = 100 := if_pos empty
    have bytes : 100 * pointerSize % sizeModulus = 100 * pointerSize := by decide
    rw [grown] at ends ⊢
    cases granted : libc.grants world.events (100 * pointerSize) with
    | false =>
      refine .inl ⟨_, _, _, .first, granted, loop_done ?_⟩
      rw [growTurn, if_pos (Nat.lt_succ_self size), if_pos (Nat.le_of_eq empty), bytes, malloc,
        run_bind_ok (run_acquire_refused granted)]
      rfl
    | true =>
      refine .inr ⟨_, List.replicate 100 .indeterminate, .first, List.length_replicate,
        fun index below => by omega,
        fun index _ below => by rw [List.getElem?_replicate, if_pos below], ?_⟩
      have turn : growTurn libc sizeModulus (size + 1) pointerSize ⟨size, size, ppp⟩ world =
          .ok (.next ⟨100, 100, some {
              address := world.nextAddress, cells := List.replicate 100 .indeterminate }⟩)
            { world with
              events := world.events ++ [.malloc (100 * pointerSize) (some world.nextAddress)]
              nextAddress := world.nextAddress + 1 } := by
        rw [growTurn, if_pos (Nat.lt_succ_self size), if_pos (Nat.le_of_eq empty), bytes, malloc,
          run_bind_ok (run_acquire_granted granted)]
        rfl
      rw [loop_next turn]
      exact ends
  · have grown : grownSize size = size * 2 := if_neg empty
    have doubled : size * 2 % sizeModulus = size * 2 := by
      unfold sizeModulus
      omega
    have bytes : size * 2 * pointerSize % sizeModulus = size * 2 * pointerSize := by
      unfold sizeModulus pointerSize
      omega
    have slots : size * 2 * pointerSize / pointerSize = size * 2 := by
      unfold pointerSize
      omega
    rw [grown] at ends ⊢
    cases granted : libc.grants world.events (size * 2 * pointerSize) with
    | false =>
      refine .inl ⟨_, _, _, .again (size * 2), granted, loop_done ?_⟩
      rw [growTurn, if_pos (Nat.lt_succ_self size), if_neg (show ¬ size ≤ 0 by omega), doubled,
        if_neg (show ¬ size * 2 < size by omega), bytes, run_bind, reallocBlock_live live, realloc,
        run_acquire_refused granted]
      rfl
    | true =>
      refine .inr ⟨_, (cellsOf ppp).take (size * 2) ++
        List.replicate (size * 2 - (cellsOf ppp).length) .indeterminate,
        .again (size * 2), ?_, fun index below => ?_, fun index above below => ?_, ?_⟩
      · rw [List.length_append, List.length_take, List.length_replicate, length]
        omega
      · rw [List.getElem?_append_left (by rw [List.length_take, length]; omega),
          List.getElem?_take_of_lt (by omega)]
      · rw [List.getElem?_append_right (by rw [List.length_take, length]; omega),
          List.length_take, List.getElem?_replicate, length, if_pos (by omega)]
      · have turn : growTurn libc sizeModulus (size + 1) pointerSize ⟨size, size, ppp⟩ world =
            .ok (.next ⟨size * 2, size * 2, some {
              address := world.nextAddress
              cells := (cellsOf ppp).take (size * 2) ++
                List.replicate (size * 2 - (cellsOf ppp).length) .indeterminate }⟩)
              { world with
                events := world.events ++
                  [.realloc (size * 2 * pointerSize) (some world.nextAddress)]
                nextAddress := world.nextAddress + 1 } := by
          rw [growTurn, if_pos (Nat.lt_succ_self size), if_neg (show ¬ size ≤ 0 by omega),
            doubled, if_neg (show ¬ size * 2 < size by omega), bytes, run_bind,
            reallocBlock_live live, realloc, run_acquire_granted granted]
          simp only [enlarge, slots]
          rfl
        rw [loop_next turn]
        exact ends

/-- A request for one slot more than the items need ends. It is refused, or it leaves a table that
stores the items and has room for another one. -/
theorem manageBufCreatep_stores (libc : Libc V) (stores : Stores build ppp size items)
    (few : items.length < build.limit) (enough : 2 ^ 32 ≤ fuel) (world : World V) :
    (∃ event bytes slots, TableRequest none slots event ∧
      libc.grants world.events bytes = false ∧
      manageBufCreatep libc fuel build sizeModulus ppp size (items.length + 1) pointerSize world =
        .ok (.error ppp) { world with events := world.events ++ [event] }) ∨
    ∃ block size' world',
      manageBufCreatep libc fuel build sizeModulus ppp size (items.length + 1) pointerSize world =
        .ok (.ok (block, size')) world' ∧
      items.length < size' ∧ Stores build (some block) size' items ∧
      Provided ppp size world block size' world' := by
  unfold manageBufCreatep
  by_cases room : items.length + 1 ≤ size
  · obtain ⟨block, rfl⟩ : ∃ block, ppp = some block :=
      Option.isSome_iff_exists.mp (stores.allocated.mpr (by omega))
    refine .inr ⟨block, size, world, ?_, room, stores, .same rfl rfl rfl⟩
    rw [run_bind_ok (growLoop_same room (by omega))]
    simp only
    rw [run_bind_ok (prefill_same stores.length stores.small (by omega))]
    rfl
  · have full : items.length = size := Nat.le_antisymm stores.within (by omega)
    rw [full] at few ⊢
    have small : size < 2 ^ 60 := by
      have : build.limit ≤ 2 ^ 60 := by
        unfold Build.limit
        cases build.nullIsZeroes <;> decide
      omega
    rcases growLoop_full libc small stores.length stores.live (by omega : 2 ≤ fuel) world with
      ⟨event, bytes, slots, request, refused, run⟩ |
      ⟨event, cells, request, length, old, gained, run⟩
    · refine .inl ⟨event, bytes, slots, request, refused, ?_⟩
      rw [run_bind_ok run]
      exact congrArg (EStateM.Result.ok · _) (congrArg Except.error (leftBy_same rfl))
    · have larger : size < grownSize size := by
        unfold grownSize
        split <;> omega
      have bounded : grownSize size < 2 * build.limit := by
        have := build.limit_large
        unfold grownSize
        split <;> omega
      have reached : build.nullIsZeroes = false → size < 2 ^ 31 := by
        intro loops
        unfold Build.limit at few
        rw [loops] at few
        simpa using few
      obtain ⟨cells', filled, length', kept, nulls, beyond⟩ := prefill_run { world with
        events := world.events ++ [event], nextAddress := world.nextAddress + 1 } length
        (Nat.le_of_lt larger) bounded reached enough
      refine .inr ⟨{ address := world.nextAddress, cells := cells' }, grownSize size, _, ?_, larger, ?_,
        .another larger request rfl rfl⟩
      · rw [run_bind_ok run]
        exact run_bind_ok filled
      · refine ⟨bounded, by omega, length', by omega, by simp; omega,
          fun _ same => by cases same; rfl, fun index item found => ?_,
          fun index above below reach => nulls index (by omega) below reach, fun outside => ?_⟩
        · have inside := (List.getElem?_eq_some_iff.mp found).1
          show cells'[index]? = _
          rw [kept index (by omega), old index (by omega)]
          exact stores.cell index item found
        · show cells'[build.reach]? = _
          have inside := build.limit_le_reach
          rw [beyond _ (Nat.le_refl _)]
          exact gained _ (by omega) outside

end Growing

/-! ### Releasing -/

section Releasing

variable {build : Build} {addressOf : α → Nat} {table : Option (Block α)} {items : List α}
  {world : World V}

/-- What the release of a table with its items adds to the record. -/
def releases (addressOf : α → Nat) (table : Option (Block α)) (items : List α) : List (Event V) :=
  match table with
  | none => []
  | some block => items.map (fun item => .free (addressOf item)) ++ [.free block.address]

theorem freeTurn_run {cells : List (Slot α)} {index : Nat} {item : α}
    (found : cells[index]? = some (.pointer item)) :
    freeTurn addressOf index cells world =
      .ok (.next (cells.set index .null))
        { world with events := world.events ++ [.free (addressOf item)] } := by
  have read : readCell cells index world = .ok (some item) world := by
    rw [readCell, found]
    rfl
  rw [freeTurn, run_bind_ok read]
  simp only
  rw [run_bind_ok (run_emit ..), writeCell, if_pos (List.getElem?_eq_some_iff.mp found).1]
  rfl

/-- The loop releases the items one after the other. -/
theorem freeLoop_run (items : List α) (first : Nat) (cells : List (Slot α)) (world : World V)
    (found : ∀ index item, items[index]? = some item →
      cells[first + index]? = some (.pointer item)) :
    ∃ cells', forEach (freeTurn addressOf) (List.range' first items.length) cells world =
      .ok (.next cells') { world with
        events := world.events ++ items.map fun item => .free (addressOf item) } := by
  induction items generalizing first cells world with
  | nil => exact ⟨cells, by rw [List.map_nil, List.append_nil]; rfl⟩
  | cons item items inductionHypothesis =>
    have turn : freeTurn addressOf first cells world = .ok (.next (cells.set first .null))
        { world with events := world.events ++ [.free (addressOf item)] } :=
      freeTurn_run (found 0 item rfl)
    rw [List.length_cons, List.range'_succ, forEach, run_bind_ok turn]
    obtain ⟨cells', run⟩ := inductionHypothesis (first + 1) (cells.set first .null)
      { world with events := world.events ++ [.free (addressOf item)] } fun index other here => by
        rw [List.getElem?_set_ne (by omega), Nat.add_right_comm, Nat.add_assoc]
        exact found (index + 1) other here
    rw [List.append_assoc] at run
    exact ⟨cells', run⟩

theorem manageBufFreev_run (live : Unreleased table)
    (cells : (cellsOf table).take items.length = items.map .pointer) (world : World V) :
    manageBufFreev addressOf table items.length world =
      .ok () { world with events := world.events ++ releases addressOf table items } := by
  cases table with
  | none => rw [releases, List.append_nil]; rfl
  | some block =>
    have found (index : Nat) (item : α) (here : items[index]? = some item) :
        block.cells[0 + index]? = some (.pointer item) := by
      have inside := (List.getElem?_eq_some_iff.mp here).1
      rw [Nat.zero_add, ← List.getElem?_take_of_lt inside]
      show ((cellsOf (some block)).take items.length)[index]? = _
      rw [cells, List.getElem?_map, here]
      rfl
    obtain ⟨cells', run⟩ := freeLoop_run items 0 block.cells world found
    rw [manageBufFreev, run_bind_ok (useBlock_live (live block rfl) world), List.range_eq_range']
    exact (run_bind_ok run).trans (by rw [run_emit, releases, List.append_assoc])

end Releasing

end MarpaWrapper
