/-
This file follows the tables of a wrapper through a session, in the build that prefills
with zeroes and as long as memory is granted. In every state that is reached, the tables
of symbols and of rules mirror the ids that libmarpa handed out, and all blocks that the
wrapper refers to lie at different addresses. So the destructor releases each of them
once.
-/

import MarpaWrapper.TableMirror

namespace MarpaWrapper

open Effects Sorting

variable {V α : Type}

/-! ### Blocks at different addresses -/

/-- The addresses of some parts were handed out, and no address belongs to two blocks. -/
structure HandedOut (parts : List (List Nat)) (nextAddress : Nat) : Prop where
  distinct : parts.flatten.Nodup
  below : ∀ address ∈ parts.flatten, address < nextAddress

section HandedOut

variable {part part' : List Nat} {parts : List (List Nat)} {nextAddress nextAddress' : Nat}

theorem HandedOut.later (handedOut : HandedOut parts nextAddress) (le : nextAddress ≤ nextAddress') :
    HandedOut parts nextAddress' :=
  ⟨handedOut.distinct, fun address member => Nat.lt_of_lt_of_le (handedOut.below address member) le⟩

variable (front back : List (List Nat)) in
/-- A part is exchanged for another one, of its own addresses and of addresses that were not handed
out before. -/
theorem HandedOut.replace (handedOut : HandedOut (front ++ part :: back) nextAddress)
    (distinct : part'.Nodup) (known : ∀ address ∈ part', address ∈ part ∨ nextAddress ≤ address)
    (below : ∀ address ∈ part', address < nextAddress') (le : nextAddress ≤ nextAddress') :
    HandedOut (front ++ part' :: back) nextAddress' := by
  obtain ⟨apart, inside⟩ := handedOut
  rw [List.flatten_append, List.flatten_cons] at apart inside
  obtain ⟨ahead, others, between⟩ := List.nodup_append.mp apart
  obtain ⟨-, behind, within⟩ := List.nodup_append.mp others
  refine ⟨?_, fun address member => ?_⟩
  · rw [List.flatten_append, List.flatten_cons]
    refine List.nodup_append.mpr ⟨ahead, List.nodup_append.mpr ⟨distinct, behind,
      fun address member other member' => ?_⟩, fun address member other member' => ?_⟩
    · rcases known address member with old | new
      · exact within address old other member'
      · have := inside other (List.mem_append_right _ (List.mem_append_right _ member'))
        omega
    · rcases List.mem_append.mp member' with here | there
      · rcases known other here with old | new
        · exact between address member other (List.mem_append_left _ old)
        · have := inside address (List.mem_append_left _ member)
          omega
      · exact between address member other (List.mem_append_right _ there)
  · rw [List.flatten_append, List.flatten_cons] at member
    rcases List.mem_append.mp member with first | rest
    · exact Nat.lt_of_lt_of_le (inside address (List.mem_append_left _ first)) le
    · rcases List.mem_append.mp rest with here | last
      · exact below address here
      · exact Nat.lt_of_lt_of_le
          (inside address (List.mem_append_right _ (List.mem_append_right _ last))) le

variable (front back : List (List Nat)) in
theorem HandedOut.reorder (handedOut : HandedOut (front ++ part :: back) nextAddress)
    (perm : part'.Perm part) : HandedOut (front ++ part' :: back) nextAddress := by
  have perm' : (front ++ part' :: back).flatten.Perm (front ++ part :: back).flatten := by
    rw [List.flatten_append, List.flatten_append, List.flatten_cons, List.flatten_cons]
    exact (perm.append_right _).append_left _
  exact ⟨perm'.nodup_iff.mpr handedOut.distinct,
    fun address member => handedOut.below address (perm'.mem_iff.mp member)⟩

variable (front back : List (List Nat)) in
theorem HandedOut.part_apart (handedOut : HandedOut (front ++ part :: back) nextAddress) :
    part.Nodup ∧ ∀ address ∈ part, address < nextAddress := by
  obtain ⟨apart, inside⟩ := handedOut
  rw [List.flatten_append, List.flatten_cons] at apart inside
  exact ⟨(List.nodup_append.mp (List.nodup_append.mp apart).2.1).1, fun address member =>
    inside address (List.mem_append_right _ (List.mem_append_left _ member))⟩

variable (front back : List (List Nat)) in
/-- Two parts are exchanged for one block each, the next ones. -/
theorem HandedOut.twoBlocks (handedOut : HandedOut (front ++ part :: part' :: back) nextAddress)
    (le : nextAddress + 2 ≤ nextAddress') :
    HandedOut (front ++ [nextAddress] :: [nextAddress + 1] :: back) nextAddress' := by
  have first : HandedOut (front ++ [nextAddress] :: part' :: back) (nextAddress + 1) :=
    handedOut.replace front (part' :: back) (List.nodup_singleton _)
      (fun _ member => .inr (Nat.le_of_eq (List.mem_singleton.mp member).symm))
      (fun _ member => Nat.lt_succ_of_le (Nat.le_of_eq (List.mem_singleton.mp member)))
      (Nat.le_succ _)
  rw [List.append_cons] at first ⊢
  exact first.replace (front ++ [[nextAddress]]) back (List.nodup_singleton _)
    (fun _ member => .inr (Nat.le_of_eq (List.mem_singleton.mp member).symm))
    (fun _ member => Nat.lt_of_lt_of_le
      (Nat.lt_succ_of_le (Nat.le_of_eq (List.mem_singleton.mp member))) le)
    (Nat.le_of_succ_le le)

end HandedOut

/-- Where a block lies that may be there. -/
def blockAddresses (table : Option (Block α)) : List Nat := (table.map (·.address)).toList

theorem blockAddresses_of_extent {table : Option (Block α)} {extent : Option (Nat × Nat)}
    (same : table.map Block.extent = extent) : blockAddresses table = (extent.map (·.1)).toList := by
  rw [← same, Option.map_map]
  rfl

theorem blockAddresses_congr {table table' : Option (Block α)}
    (same : table'.map Block.extent = table.map Block.extent) :
    blockAddresses table' = blockAddresses table :=
  (blockAddresses_of_extent same).trans (blockAddresses_of_extent rfl).symm

/-- The addresses of the objects of a table, and of the table. -/
def tableAddresses (addressOf : α → Nat) (table : Option (Block α)) (objects : List α) : List Nat :=
  objects.map addressOf ++ blockAddresses table

/-- Everything that a wrapper with these objects releases. -/
def Wrapper.owned (wrapper : Wrapper) (symbols : List MarpaWrapperSymbol)
    (rules : List MarpaWrapperRule) (items : List MarpaWrapperProgress) : List (List Nat) := [
  tableAddresses MarpaWrapperSymbol.address wrapper.marpaWrapperSymbolpp symbols,
  tableAddresses MarpaWrapperRule.address wrapper.marpaWrapperRulepp rules,
  tableAddresses MarpaWrapperProgress.address wrapper.marpaWrapperProgresspp items,
  blockAddresses wrapper.expectedMarpaSymbolIdArrayp,
  blockAddresses wrapper.expectedMarpaWrapperSymbolArraypp,
  [wrapper.address]]

section Parts

variable {addressOf : α → Nat} {table : Option (Block α)} {block : Block α} {objects : List α}
  {object : α} {parts : List (List Nat)} {world world' : World V}

theorem mem_tableAddresses {address : Nat} :
    address ∈ tableAddresses addressOf table objects ↔
      address ∈ objects.map addressOf ∨ table.map (·.address) = some address := by
  unfold tableAddresses blockAddresses
  rw [List.mem_append, Option.mem_toList]

variable (front back : List (List Nat)) in
/-- An object is entered where a table stood that stays or moves behind everything there is. -/
theorem HandedOut.push
    (handedOut : HandedOut (front ++ tableAddresses addressOf table objects :: back)
      world.nextAddress)
    (placed : Placed table block.address (addressOf object) world world') :
    HandedOut (front ++ tableAddresses addressOf (some block) (objects ++ [object]) :: back)
      world'.nextAddress := by
  obtain ⟨ofTable, ofObject, later⟩ := placed
  obtain ⟨apart, here⟩ := handedOut.part_apart front back
  have objectsBelow : ∀ address ∈ objects.map addressOf, address < world.nextAddress :=
    fun address member => here address (mem_tableAddresses.mpr (.inl member))
  have objectsApart : (objects.map addressOf).Nodup := (List.nodup_append.mp apart).1
  have known : ∀ address ∈ tableAddresses addressOf (some block) (objects ++ [object]),
      (address ∈ objects.map addressOf ∨ address = addressOf object) ∨ address = block.address := by
    intro address member
    rcases mem_tableAddresses.mp member with entry | same
    · rw [List.map_append] at entry
      exact .inl ((List.mem_append.mp entry).imp_right List.mem_singleton.mp)
    · exact .inr (Option.some.inj same).symm
  have blockBelow : block.address < world'.nextAddress := by
    rcases ofTable with same | ⟨-, before⟩
    · have := here _ (mem_tableAddresses.mpr (.inr same))
      omega
    · omega
  refine handedOut.replace front back ?_ (fun address member => ?_) (fun address member => ?_)
    (by omega)
  · unfold tableAddresses
    rw [List.map_append]
    refine List.nodup_append.mpr ⟨List.nodup_append.mpr ⟨objectsApart, List.nodup_singleton _,
      fun address member other last => ?_⟩, List.nodup_singleton _,
      fun address member other last => ?_⟩
    · have := objectsBelow address member
      rw [List.mem_singleton.mp last]
      show address ≠ addressOf object
      omega
    · rw [List.mem_singleton.mp last]
      show address ≠ block.address
      rcases List.mem_append.mp member with entry | new
      · rcases ofTable with same | ⟨above, -⟩
        · exact (List.nodup_append.mp apart).2.2 address entry _ (Option.mem_toList.mpr same)
        · have := objectsBelow address entry
          omega
      · rw [List.mem_singleton.mp new]
        show addressOf object ≠ block.address
        rcases ofTable with same | ⟨-, before⟩
        · have := here _ (mem_tableAddresses.mpr (.inr same))
          omega
        · omega
  · rcases known address member with (entry | rfl) | rfl
    · exact .inl (mem_tableAddresses.mpr (.inl entry))
    · exact .inr ofObject
    · exact ofTable.imp (fun same => mem_tableAddresses.mpr (.inr same)) And.left
  · rcases known address member with (entry | rfl) | rfl
    · have := objectsBelow address entry
      omega
    · exact later
    · exact blockBelow

end Parts

/-! ### The progress report -/

/-- The table of the progress items holds them, and their addresses are others than those of the
parts in front and behind. -/
def Listed (front back : List (List Nat)) (wrapper : Wrapper) (world : World V) : Prop :=
  ∃ items, Holds wrapper.marpaWrapperProgresspp wrapper.sizeMarpaWrapperProgressi items ∧
    wrapper.nMarpaWrapperProgressi = items.length ∧
    HandedOut (front ++ tableAddresses MarpaWrapperProgress.address
      wrapper.marpaWrapperProgresspp items :: back) world.nextAddress

section Progress

variable {libc : Libc V} {fuel : Nat} {build : Build} {marpa : Libmarpa V} {wrapper wrapper' : Wrapper}
  {front back : List (List Nat)} {world world' : World V}

theorem Listed.later (listed : Listed front back wrapper world)
    (le : world.nextAddress ≤ world'.nextAddress) : Listed front back wrapper world' := by
  obtain ⟨items, holds, count, handedOut⟩ := listed
  exact ⟨items, holds, count, handedOut.later le⟩

/-- An exchange beside the wrapper. -/
theorem Listed.beside {β : Type} {program : Exec V β} {value : β}
    (listed : Listed front back wrapper world)
    (keeps : ∀ start, Keeps (Continued LeavesMarpa start) program)
    (run : program world = .ok value world') : Listed front back wrapper world' :=
  listed.later (Continued.of_run keeps run).later

theorem storeProgress_listed (grants : libc.AlwaysGrants) (zeroes : build.nullIsZeroes = true)
    {set ruleId position origin : Int} {outcome : Turn Wrapper ProgressExit}
    (listed : Listed front back wrapper world)
    (run : storeProgress libc fuel build wrapper set ruleId position origin world =
      .ok outcome world') : Listed front back (turnWrapper outcome) world' := by
  obtain ⟨items, holds, count, handedOut⟩ := listed
  obtain ⟨room, between, made, rest⟩ := run_bind_eq_ok run
  have within := holds.within
  have continued : Continued (·.ofMemory = true) world between :=
    .of_run (fun _ => manageBufCreatep_continued _ _ _ _) made
  cases room with
  | error left =>
    cases rest
    obtain rfl := manageBufCreatep_left (by omega) made
    exact ⟨items, holds, count, handedOut.later continued.later⟩
  | ok room =>
    obtain ⟨table, size⟩ := room
    obtain ⟨space, provided⟩ := manageBufCreatep_next zeroes holds.length (by omega) made
    obtain ⟨address, after, granted, rest⟩ := run_bind_eq_ok rest
    unfold malloc at granted
    rw [run_acquire_granted (grants _ _)] at granted
    cases granted
    obtain ⟨rule, state, read, rest⟩ := run_bind_eq_ok rest
    obtain ⟨rfl, -, -⟩ := readPointer_eq_ok read
    obtain ⟨table', final, wrote, rest⟩ := run_bind_eq_ok rest
    cases rest
    have grown : Holds (some table) size items := by
      cases provided with
      | same block_eq size_eq _ => rw [size_eq, ← block_eq]; exact holds
      | grown larger _ cells live _ => exact holds.grow (Nat.le_of_lt larger) (by omega) cells live
    obtain ⟨rfl, -, -, -, rfl⟩ := writeArray_eq_ok wrote
    rw [count, Int.toNat_natCast]
    refine ⟨items ++ [_], grown.push (by omega) _, ?_, handedOut.push front back ?_⟩
    · rw [List.length_append]
      rfl
    · cases provided with
      | same block_eq _ world_eq =>
        subst world_eq
        exact ⟨.inl (by rw [block_eq]; rfl), Nat.le_refl _, Nat.lt_succ_self _⟩
      | grown _ place _ _ world_eq =>
        obtain ⟨event, rfl⟩ := world_eq
        exact ⟨.inr ⟨Nat.le_of_eq place.symm, place ▸ Nat.lt_succ_self _⟩, Nat.le_succ _,
          Nat.lt_succ_self _⟩

theorem itemTurn_listed (grants : libc.AlwaysGrants) (zeroes : build.nullIsZeroes = true)
    {set : Int} {index : Nat} {outcome : Turn Wrapper ProgressExit}
    (listed : Listed front back wrapper world)
    (run : itemTurn libc fuel build marpa set index wrapper world = .ok outcome world') :
    Listed front back (turnWrapper outcome) world' := by
  obtain ⟨⟨ruleId, position, origin⟩, between, asked, rest⟩ := run_bind_eq_ok run
  have ready := listed.beside (fun _ => ask_aside fun _ => rfl) asked
  by_cases missing : ruleId = -2 ∨ ruleId = -1
  · simp only [if_pos missing] at rest
    cases rest
    exact ready
  · simp only [if_neg missing] at rest
    exact storeProgress_listed grants zeroes ready rest

theorem setTurn_listed (grants : libc.AlwaysGrants) (zeroes : build.nullIsZeroes = true)
    {starti : Int} {offset : Nat} {outcome : Turn Wrapper ProgressExit}
    (listed : Listed front back wrapper world)
    (run : setTurn libc fuel build marpa starti offset wrapper world = .ok outcome world') :
    Listed front back (turnWrapper outcome) world' := by
  obtain ⟨earleme, between, asked, rest⟩ := run_bind_eq_ok run
  have ready := listed.beside (fun _ => ask_aside fun _ => rfl) asked
  by_cases failed : earleme = -2
  · simp only [if_pos failed] at rest
    cases rest
    exact ready
  · simp only [if_neg failed] at rest
    obtain ⟨items, after, started, rest⟩ := run_bind_eq_ok rest
    have opened := ready.beside (fun _ => ask_aside fun _ => rfl) started
    by_cases negative : items < 0
    · simp only [if_pos negative] at rest
      cases rest
      exact opened
    · simp only [if_neg negative] at rest
      exact turns_keep (Listed front back)
        (fun _ _ _ _ _ before => itemTurn_listed grants zeroes before) opened rest

/-- The items that the sort reads are those of the table. -/
theorem rankLoop_return {items : List MarpaWrapperProgress} {cells : List (Slot MarpaWrapperProgress)}
    {ranked : List (Int × MarpaWrapperProgress)}
    (found : ∀ (index : Nat) (item : MarpaWrapperProgress), items[index]? = some item →
      cells[index]? = some (.pointer item))
    (run : forEach (rankTurn wrapper cells) (List.range items.length) [] world =
      .ok (.next ranked) world') : ranked.map (·.2) = items ∧ world' = world := by
  have turns : AfterTurn (fun ranked state =>
        ranked.map (·.2) = items.take items.length ∧ state = world)
      (fun (result : Empty) _ => result.elim) (.next ranked) world' := by
    refine forEach_range_return (fun index ranked state =>
        ranked.map (·.2) = items.take index ∧ state = world)
      (fun index ranked state outcome next below before turn => ?_) ⟨rfl, rfl⟩ run
    obtain ⟨before, rfl⟩ := before
    obtain ⟨item, between, read, rest⟩ := run_bind_eq_ok turn
    obtain ⟨rfl, cell, here, -, rfl⟩ := readCell_eq_ok read
    rw [found index _ (List.getElem?_eq_getElem below)] at here
    cases here
    simp only [Slot.target?] at rest
    cases designated : items[index].marpaWrapperRulep with
    | none => rw [designated] at rest; cases rest
    | some pointer =>
      rw [designated] at rest
      obtain ⟨rule, after, looked, last⟩ := run_bind_eq_ok rest
      obtain ⟨rfl, -⟩ := readObject_eq_ok looked
      cases rule with
      | none => cases last
      | some rule =>
        cases last
        refine ⟨?_, rfl⟩
        rw [List.map_append, before, List.map_singleton, List.take_append_getElem below]
  rw [List.take_length] at turns
  exact turns

theorem sortProgress_listed (conforms : Conforms libc.qsort)
    (listed : Listed front back wrapper world)
    (run : sortProgress libc wrapper world = .ok wrapper' world') :
    Listed front back wrapper' world' := by
  obtain ⟨items, holds, count, handedOut⟩ := listed
  unfold sortProgress at run
  cases there : wrapper.marpaWrapperProgresspp with
  | none =>
    rw [there] at run
    cases run
    exact ⟨items, holds, count, handedOut⟩
  | some table =>
    rw [there] at run holds handedOut
    by_cases several : wrapper.nMarpaWrapperProgressi > 1
    · simp only [if_pos several] at run
      obtain ⟨outcome, between, walked, rest⟩ := run_bind_eq_ok run
      rw [count] at walked
      cases outcome with
      | done result => exact result.elim
      | next ranked =>
        cases rest
        obtain ⟨same, rfl⟩ := rankLoop_return (fun index item here => holds.cell here) walked
        have perm := conforms.perm marpaWrapperProgressCmp ranked
        have sorted : ((libc.qsort marpaWrapperProgressCmp ranked).map (·.2)).Perm items := by
          rw [← same]
          exact perm.map _
        refine ⟨(libc.qsort marpaWrapperProgressCmp ranked).map (·.2), ?_,
          count.trans sorted.length_eq.symm, ?_⟩
        · have cells : (libc.qsort marpaWrapperProgressCmp ranked).map (fun item => Slot.pointer item.2) =
              ((libc.qsort marpaWrapperProgressCmp ranked).map (·.2)).map .pointer :=
            List.map_map.symm
          rw [cells, count]
          exact holds.reorder sorted.length_eq
        · exact handedOut.reorder front back ((sorted.map _).append_right _)
    · simp only [if_neg several] at run
      cases run
      exact ⟨items, there ▸ holds, count, there ▸ handedOut⟩

theorem finishProgress_listed (conforms : Conforms libc.qsort) {rcb : Bool} {count : Option Nat}
    (listed : Listed front back wrapper world)
    (run : finishProgress libc marpa rcb wrapper world = .ok (count, wrapper') world') :
    Listed front back wrapper' world' := by
  obtain ⟨finished, between, asked, rest⟩ := run_bind_eq_ok run
  have ready := listed.beside (fun _ => ask_aside fun _ => rfl) asked
  by_cases succeeds : rcb ∧ ¬ finished < 0
  · rw [if_pos succeeds] at rest
    obtain ⟨sorted, after, walked, rest⟩ := run_bind_eq_ok rest
    cases rest
    exact sortProgress_listed conforms ready walked
  · rw [if_neg succeeds] at rest
    cases rest
    exact ready

/-- The earlier report is released, and another one is stored. -/
theorem marpaWrapperRProgressb_listed (grants : libc.AlwaysGrants)
    (zeroes : build.nullIsZeroes = true) (conforms : Conforms libc.qsort) {starti endi : Int}
    {count : Option Nat} (listed : Listed front back wrapper world)
    (run : marpaWrapperRProgressb libc fuel build marpa wrapper starti endi world =
      .ok (count, wrapper') world') : Listed front back wrapper' world' := by
  unfold marpaWrapperRProgressb at run
  by_cases missing : wrapper.marpaRecognizerp.isNone
  · rw [if_pos missing] at run
    cases run
    exact listed
  · rw [if_neg missing] at run
    obtain ⟨_, released, freed, run⟩ := run_bind_eq_ok run
    have later : world.nextAddress ≤ released.nextAddress :=
      (Continued.of_run (fun _ => manageBufFreev_continued _ _ _) freed).later
    have cleared : Listed front back { wrapper with
        marpaWrapperProgresspp := none
        sizeMarpaWrapperProgressi := 0
        nMarpaWrapperProgressi := 0 } released := by
      obtain ⟨items, -, -, handedOut⟩ := listed
      exact ⟨[], .empty, rfl, handedOut.replace front back .nil
        (fun _ member => absurd member List.not_mem_nil)
        (fun _ member => absurd member List.not_mem_nil) later⟩
    obtain ⟨latest, asked, answered, run⟩ := run_bind_eq_ok run
    have ready := cleared.beside (fun _ => ask_aside fun _ => rfl) answered
    by_cases outside : rangeArgument starti latest < 0 ∨ latest < rangeArgument starti latest ∨
        rangeArgument endi latest < 0 ∨ latest < rangeArgument endi latest ∨
        rangeArgument endi latest < rangeArgument starti latest
    · simp only [if_pos outside] at run
      cases run
      exact ready
    · simp only [if_neg outside] at run
      obtain ⟨outcome, after, turns, run⟩ := run_bind_eq_ok run
      have stored := turns_keep (Listed front back)
        (fun _ _ _ _ _ before => setTurn_listed grants zeroes before) ready turns
      cases outcome with
      | next between => exact finishProgress_listed conforms stored run
      | done exit =>
        cases exit with
        | broken between => exact finishProgress_listed conforms stored run
        | returned between => cases run; exact stored

end Progress

/-! ### The tables of a session -/

/-- The objects of a wrapper's tables: those of the symbols and of the rules mirror the ids that
libmarpa handed out, the items are those of the progress report, and no address belongs to two
of the blocks that the wrapper refers to. -/
structure Tables (build : Build) (wrapper : Wrapper) (world : World V)
    (symbols : List MarpaWrapperSymbol) (rules : List MarpaWrapperRule)
    (items : List MarpaWrapperProgress) : Prop where
  ofSymbols : Mirror symbolRegistry build wrapper.address wrapper.marpaWrapperSymbolpp
    wrapper.sizeMarpaWrapperSymboli wrapper.nMarpaWrapperSymboli world.grammar.symbols.length symbols
  ofRules : Mirror ruleRegistry build wrapper.address wrapper.marpaWrapperRulepp
    wrapper.sizeMarpaWrapperRulei wrapper.nMarpaWrapperRulei world.grammar.rules.length rules
  ofItems : Holds wrapper.marpaWrapperProgresspp wrapper.sizeMarpaWrapperProgressi items
  count : wrapper.nMarpaWrapperProgressi = items.length
  addresses : HandedOut (wrapper.owned symbols rules items) world.nextAddress

/-- A wrapper with its tables. -/
def Tabled (build : Build) (wrapper : Wrapper) (world : World V) : Prop :=
  ∃ symbols rules items, Tables build wrapper world symbols rules items

section Tables

variable {libc : Libc V} {fuel : Nat} {build : Build} {marpa : Libmarpa V} {wrapper wrapper' : Wrapper}
  {symbols : List MarpaWrapperSymbol} {rules : List MarpaWrapperRule}
  {items : List MarpaWrapperProgress} {world world' : World V}

/-- The grammar was not extended, and no table was touched. -/
theorem Tables.later (tables : Tables build wrapper world symbols rules items)
    (sameSymbols : world'.grammar.symbols.length = world.grammar.symbols.length)
    (sameRules : world'.grammar.rules.length = world.grammar.rules.length)
    (le : world.nextAddress ≤ world'.nextAddress) :
    Tables build wrapper world' symbols rules items :=
  ⟨sameSymbols ▸ tables.ofSymbols, sameRules ▸ tables.ofRules, tables.ofItems, tables.count,
    tables.addresses.later le⟩

theorem Tabled.addsSymbol (grants : libc.GrantsOthers) {option : Option MarpaWrapperSymbolOption}
    {pointer : Option Nat} (tabled : Tabled build wrapper world)
    (run : marpaWrapperGAddSymbolp libc fuel build marpa wrapper option world =
      .ok (pointer, wrapper') world') : Tabled build wrapper' world' := by
  obtain ⟨symbols, rules, items, tables⟩ := tabled
  obtain ⟨sameRules, ⟨rfl, -, same, place⟩ | ⟨block, size, symbol, _, -, -, -, rfl, placed,
    mirror⟩⟩ := marpaWrapperGAddSymbolp_cases tables.ofSymbols grants run
  · exact ⟨symbols, rules, items, tables.later same sameRules (Nat.le_of_eq place.symm)⟩
  · exact ⟨symbols ++ [symbol], rules, items, mirror, sameRules ▸ tables.ofRules, tables.ofItems,
      tables.count, HandedOut.push [] _ tables.addresses placed⟩

theorem Tabled.addsRule (grants : libc.GrantsOthers) {option : Option MarpaWrapperRuleOption}
    {pointer : Option Nat} (tabled : Tabled build wrapper world)
    (run : marpaWrapperGAddRulep libc fuel build marpa wrapper option world =
      .ok (pointer, wrapper') world') : Tabled build wrapper' world' := by
  obtain ⟨symbols, rules, items, tables⟩ := tabled
  obtain ⟨recorded, ⟨rfl, same⟩ | ⟨block, size, rule, -, rfl, placed, mirror⟩⟩ :=
    marpaWrapperGAddRulep_cases tables.ofRules grants run
  · exact ⟨symbols, rules, items, tables.later recorded.symbols same recorded.later⟩
  · exact ⟨symbols, rules ++ [rule], items, recorded.symbols ▸ tables.ofSymbols, mirror,
      tables.ofItems, tables.count, HandedOut.push [_] _ tables.addresses placed⟩

/-- A start may drop the arrays of the expected terminals. -/
theorem Tabled.starts {started : Bool} (tabled : Tabled build wrapper world)
    (run : startRecognizer marpa wrapper world = .ok (started, wrapper') world') :
    Tabled build wrapper' world' := by
  obtain ⟨symbols, rules, items, tables⟩ := tabled
  obtain ⟨handle, restarted, starts⟩ := startRecognizer_return run
  have le : world.nextAddress ≤ world'.nextAddress := starts.later ▸ Nat.le_add_right _ _
  have ready := tables.later (congrArg _ starts.symbols) (congrArg _ starts.rules) le
  cases restarted with
  | first none => exact ⟨symbols, rules, items, ready.1, ready.2, ready.3, ready.4, ready.5⟩
  | again there =>
    have without : HandedOut [_, _, _, [], _, _] world'.nextAddress :=
      HandedOut.replace [_, _, _] [_, _] ready.addresses .nil (fun _ => (absurd · List.not_mem_nil))
        (fun _ => (absurd · List.not_mem_nil)) (Nat.le_refl _)
    exact ⟨symbols, rules, items, ready.1, ready.2, ready.3, ready.4,
      HandedOut.replace [_, _, _, _] [_] without .nil (fun _ => (absurd · List.not_mem_nil))
        (fun _ => (absurd · List.not_mem_nil)) (Nat.le_refl _)⟩

/-- The arrays of the expected terminals stay where they are, are dropped, or are put behind
everything that there was. -/
theorem Tabled.expects {count : Option Nat} (tabled : Tabled build wrapper world)
    (run : marpaWrapperRTerminalsExpectedb libc marpa wrapper world =
      .ok (count, wrapper') world') : Tabled build wrapper' world' := by
  obtain ⟨symbols, rules, items, tables⟩ := tabled
  have continued : Continued (·.ofExpected = true) world world' :=
    .of_run (fun _ => marpaWrapperRTerminalsExpectedb_continued) run
  have ready := tables.later (congrArg _ continued.symbols) (congrArg _ continued.rules)
    continued.later
  have few := tables.ofSymbols.given ▸ tables.ofSymbols.few
  have arrays := marpaWrapperRTerminalsExpectedb_arrays few run
  have addresses := tables.addresses
  obtain ⟨ids, pointers, rfl⟩ := marpaWrapperRTerminalsExpectedb_frame run
  refine ⟨symbols, rules, items, ready.1, ready.2, ready.3, ready.4, ?_⟩
  have none (address : Nat) (member : address ∈ ([] : List Nat)) (others : Prop) : others :=
    absurd member List.not_mem_nil
  show HandedOut [_, _, _, blockAddresses ids, blockAddresses pointers, _] _
  cases arrays with
  | kept ids' pointers' =>
    rw [blockAddresses_congr ids', blockAddresses_congr pointers']
    exact ready.addresses
  | dropped missing ids' pointers' =>
    rw [show ids = _ from ids', show pointers = _ from pointers', ← missing]
    exact ready.addresses.replace [_, _, _, _] [_] .nil (none · · _) (none · · _) (Nat.le_refl _)
  | allocated missing ids' pointers' recognizer later =>
    rw [blockAddresses_of_extent ids', blockAddresses_of_extent pointers']
    exact addresses.twoBlocks [_, _, _] [_] later

theorem Tabled.progresses (grants : libc.AlwaysGrants) (zeroes : build.nullIsZeroes = true)
    (conforms : Conforms libc.qsort) {starti endi : Int} {count : Option Nat}
    (tabled : Tabled build wrapper world)
    (run : marpaWrapperRProgressb libc fuel build marpa wrapper starti endi world =
      .ok (count, wrapper') world') : Tabled build wrapper' world' := by
  obtain ⟨symbols, rules, items, tables⟩ := tabled
  have continued : Continued (·.ofProgress = true) world world' :=
    .of_run (fun _ => marpaWrapperRProgressb_continued _ _) run
  have ready := tables.later (congrArg _ continued.symbols) (congrArg _ continued.rules)
    continued.later
  have listed : Listed [_, _] [_, _, _] wrapper world :=
    ⟨items, tables.ofItems, tables.count, tables.addresses⟩
  obtain ⟨items', holds, count, handedOut⟩ :=
    marpaWrapperRProgressb_listed grants zeroes conforms listed run
  obtain ⟨_, _, _, rfl⟩ := marpaWrapperRProgressb_frame run
  exact ⟨symbols, rules, items', ready.1, ready.2, holds, count, handedOut⟩

theorem Tabled.orders (conforms : Conforms libc.qsort) {callbacks : RecognizerCallbacks V}
    {count : Nat} (tabled : Tabled build wrapper world)
    (run : orderTerminals libc callbacks wrapper count world = .ok wrapper' world') :
    Tabled build wrapper' world' := by
  obtain ⟨symbols, rules, items, tables⟩ := tabled
  obtain ⟨rfl, pointers, rfl, extent⟩ := orderTerminals_extent conforms run
  refine ⟨symbols, rules, items, tables.1, tables.2, tables.3, tables.4, ?_⟩
  show HandedOut [_, _, _, _, blockAddresses pointers, _] _
  rw [blockAddresses_congr extent]
  exact tables.addresses

theorem Tabled.checks {pointer : Nat} {symbol result : MarpaWrapperSymbol}
    (tabled : Tabled build wrapper world)
    (found : lookup wrapper.marpaWrapperSymbolpp pointer = some symbol)
    (same : result.withoutWork = symbol.withoutWork) :
    Tabled build (wrapper.withSymbol pointer result) world := by
  obtain ⟨symbols, rules, items, tables⟩ := tabled
  obtain ⟨block, there, -⟩ := lookup_eq_some.mp found
  have here := tables.ofSymbols.found found
  refine ⟨symbols.set pointer result, rules, items, tables.ofSymbols.check found same, tables.2,
    tables.3, tables.4, ?_⟩
  have address : result.address = symbol.address := by
    show result.withoutWork.address = symbol.withoutWork.address
    rw [same]
  have addresses : (symbols.set pointer result).map MarpaWrapperSymbol.address =
      symbols.map MarpaWrapperSymbol.address := by
    obtain ⟨inside, here⟩ := List.getElem?_eq_some_iff.mp here
    rw [List.map_set, address, ← here, ← List.map_set, List.set_getElem_self]
  have table : blockAddresses (wrapper.withSymbol pointer result).marpaWrapperSymbolpp =
      blockAddresses wrapper.marpaWrapperSymbolpp := by
    unfold Wrapper.withSymbol
    rw [there]
    rfl
  show HandedOut [_ ++ blockAddresses (wrapper.withSymbol pointer result).marpaWrapperSymbolpp,
    _, _, _, _, _] _
  rw [addresses, table]
  exact tables.addresses

/-- Everything that a wrapper does keeps its tables in order. -/
theorem tabled_kept (grants : libc.AlwaysGrants) (zeroes : build.nullIsZeroes = true)
    (conforms : Conforms libc.qsort) : Kept libc fuel build marpa (Tabled build) where
  aside tabled continued := by
    obtain ⟨symbols, rules, items, tables⟩ := tabled
    exact ⟨symbols, rules, items, tables.later (congrArg _ continued.symbols)
      (congrArg _ continued.rules) continued.later⟩
  precomputes tabled censused := by
    obtain ⟨symbols, rules, items, tables⟩ := tabled
    exact ⟨symbols, rules, items, tables.later censused.length (congrArg _ censused.rules)
      (Nat.le_of_eq censused.addresses.symm)⟩
  adds tabled run := tabled.addsSymbol grants.others run
  rules tabled run := tabled.addsRule grants.others run
  starts tabled run := tabled.starts run
  expects tabled run := tabled.expects run
  progresses tabled run := tabled.progresses grants zeroes conforms run
  orders tabled run := tabled.orders conforms run
  checks tabled found same := tabled.checks found same

/-- A wrapper that was created has empty tables. -/
theorem Created.tabled (created : Created world world' wrapper) : Tabled build wrapper world' := by
  obtain ⟨handle, options, rfl⟩ := created.fresh
  refine ⟨[], [], [], ?_, ?_, .empty, rfl, ⟨List.nodup_singleton _, fun address member => ?_⟩⟩
  · rw [created.symbols]
    exact .empty _ _ _
  · rw [created.rules]
    exact .empty _ _ _
  · rw [List.mem_singleton.mp member]
    exact created.later

end Tables

/-! ### Destruction -/

/-- The address that an exchange releases. -/
def Event.freed? : Event V → Option Nat
  | .free address => some address
  | _ => none

/-- The addresses that were released, in order. -/
def freedIn (exchanges : List (Event V)) : List Nat := exchanges.filterMap Event.freed?

section Destruction

variable {build : Build} {wrapper : Wrapper} {symbols : List MarpaWrapperSymbol}
  {rules : List MarpaWrapperRule} {items : List MarpaWrapperProgress} {world world' : World V}
  {registry : Registry α} {owner size count ids : Nat} {table : Option (Block α)} {objects : List α}
  {addressOf : α → Nat}

theorem freedIn_append (exchanges more : List (Event V)) :
    freedIn (exchanges ++ more) = freedIn exchanges ++ freedIn more := List.filterMap_append

theorem freedIn_releases (allocated : table = none → objects = []) :
    freedIn (releases (V := V) addressOf table objects) = tableAddresses addressOf table objects := by
  cases table with
  | none =>
    rw [allocated rfl]
    rfl
  | some block =>
    show List.filterMap _ (_ ++ _) = _
    rw [List.filterMap_append, List.filterMap_map]
    exact congrArg (· ++ _) (List.filterMap_eq_map'.symm ▸ rfl)

/-- What the destructor of a wrapper with these objects does. -/
def Wrapper.destruction (wrapper : Wrapper) (symbols : List MarpaWrapperSymbol)
    (rules : List MarpaWrapperRule) (items : List MarpaWrapperProgress) : List (Event V) :=
  (wrapper.marpaRecognizerp.map .recognizerUnref).toList ++
    (wrapper.marpaGrammarp.map .grammarUnref).toList ++
    releases MarpaWrapperSymbol.address wrapper.marpaWrapperSymbolpp symbols ++
    releases MarpaWrapperRule.address wrapper.marpaWrapperRulepp rules ++
    releases MarpaWrapperProgress.address wrapper.marpaWrapperProgresspp items ++
    ((wrapper.expectedMarpaSymbolIdArrayp.map (·.address)).map Event.free).toList ++
    ((wrapper.expectedMarpaWrapperSymbolArraypp.map (·.address)).map Event.free).toList ++
    [.free wrapper.address]

theorem marpaWrapperDestroyv_run (symbolsLive : Unreleased wrapper.marpaWrapperSymbolpp)
    (rulesLive : Unreleased wrapper.marpaWrapperRulepp)
    (itemsLive : Unreleased wrapper.marpaWrapperProgresspp)
    (ofSymbols : (cellsOf wrapper.marpaWrapperSymbolpp).take symbols.length = symbols.map .pointer)
    (ofRules : (cellsOf wrapper.marpaWrapperRulepp).take rules.length = rules.map .pointer)
    (ofItems : (cellsOf wrapper.marpaWrapperProgresspp).take items.length = items.map .pointer)
    (symbolCount : wrapper.nMarpaWrapperSymboli = symbols.length)
    (ruleCount : wrapper.nMarpaWrapperRulei = rules.length)
    (itemCount : wrapper.nMarpaWrapperProgressi = items.length) (world : World V) :
    marpaWrapperDestroyv wrapper world = .ok () { world with
      events := world.events ++ wrapper.destruction symbols rules items } := by
  unfold marpaWrapperDestroyv
  rw [run_bind_ok (unrefIfNotNull_run ..), run_bind_ok (unrefIfNotNull_run ..), symbolCount,
    run_bind_ok (manageBufFreev_run symbolsLive ofSymbols _), ruleCount,
    run_bind_ok (manageBufFreev_run rulesLive ofRules _), itemCount,
    run_bind_ok (manageBufFreev_run itemsLive ofItems _), run_bind_ok (freeIfNotNull_run ..),
    run_bind_ok (freeIfNotNull_run ..), run_emit]
  simp only [Wrapper.destruction, List.append_assoc]

theorem freedIn_block (table : Option (Block α)) :
    freedIn (V := V) ((table.map (·.address)).map Event.free).toList = blockAddresses table := by
  cases table <;> rfl

/-- The destructor releases every block that the wrapper refers to. -/
theorem freedIn_destruction (ofSymbols : wrapper.marpaWrapperSymbolpp = none → symbols = [])
    (ofRules : wrapper.marpaWrapperRulepp = none → rules = [])
    (ofItems : wrapper.marpaWrapperProgresspp = none → items = []) :
    freedIn (wrapper.destruction (V := V) symbols rules items) =
      (wrapper.owned symbols rules items).flatten := by
  have recognizer : freedIn (V := V) (wrapper.marpaRecognizerp.map .recognizerUnref).toList = [] := by
    cases wrapper.marpaRecognizerp <;> rfl
  have grammar : freedIn (V := V) (wrapper.marpaGrammarp.map .grammarUnref).toList = [] := by
    cases wrapper.marpaGrammarp <;> rfl
  unfold Wrapper.destruction Wrapper.owned
  simp only [freedIn_append, recognizer, grammar, freedIn_releases ofSymbols,
    freedIn_releases ofRules, freedIn_releases ofItems, freedIn_block, List.flatten_cons,
    List.flatten_nil, List.append_nil, List.nil_append, List.append_assoc]
  rfl

end Destruction

/-! ### Every reachable state -/

/-- A table with its size and its used count has an entry for each of libmarpa's ids, under the id
and with its owner, and no other entry. Every id that was handed out finds its object. -/
structure MirrorsIds (registry : Registry α) (owner : Nat) (table : Option (Block α))
    (size count ids : Nat) : Prop where
  used : count = ids
  within : count ≤ size
  length : (cellsOf table).length = size
  entry : ∀ index < count, ∃ object, (cellsOf table)[index]? = some (.pointer object) ∧
    registry.idOf object = index ∧ registry.ownerOf object = owner
  rest : ∀ index, count ≤ index → index < size → (cellsOf table)[index]? = some .null
  indexes : ∀ (V : Type) (id : Int) (world : World V), 0 ≤ id → id < ids →
    readPointer table id world = .ok (some id.toNat) world

/-- The destructor returns, and it releases each object of the tables once. -/
def DestroysOnce (wrapper : Wrapper) (world : World V) : Prop :=
  ∃ exchanges, marpaWrapperDestroyv wrapper world =
      .ok () { world with events := world.events ++ exchanges } ∧
    (∀ symbol, .pointer symbol ∈ cellsOf wrapper.marpaWrapperSymbolpp →
      (freedIn exchanges).count symbol.address = 1) ∧
    (∀ rule, .pointer rule ∈ cellsOf wrapper.marpaWrapperRulepp →
      (freedIn exchanges).count rule.address = 1) ∧
    ∀ item, .pointer item ∈ cellsOf wrapper.marpaWrapperProgresspp →
      (freedIn exchanges).count item.address = 1

section Reachable

variable {libc : Libc V} {fuel : Nat} {build : Build} {marpa : Libmarpa V} {wrapper : Wrapper}
  {symbols : List MarpaWrapperSymbol} {rules : List MarpaWrapperRule}
  {items : List MarpaWrapperProgress} {world : World V} {registry : Registry α}
  {owner size count ids : Nat} {table : Option (Block α)} {objects : List α}

theorem Holds.allocates (holds : Holds table size objects) (none : table = none) :
    objects = [] := by
  have within := holds.length
  rw [none] at within
  have := holds.within
  exact List.eq_nil_of_length_eq_zero (by change 0 = size at within; omega)

theorem Mirror.holds (mirror : Mirror registry build owner table size count ids objects)
    (zeroes : build.nullIsZeroes = true) : Holds table size objects := by
  refine mirror.stores.holds ?_
  have small := mirror.stores.small
  unfold Build.limit at small
  unfold Build.reach sizeModulus
  rw [zeroes, if_pos rfl] at *
  omega

theorem Mirror.mirrorsIds (mirror : Mirror registry build owner table size count ids objects)
    (zeroes : build.nullIsZeroes = true) : MirrorsIds registry owner table size count ids := by
  have holds := mirror.holds zeroes
  have used := mirror.used
  have given := mirror.given
  refine ⟨used.trans given.symm, used ▸ holds.within, holds.length, fun index below => ?_,
    fun index above below => holds.cell_null (by omega) below, fun _ id world nonNegative below => ?_⟩
  · have here := List.getElem?_eq_getElem (show index < objects.length by omega)
    exact ⟨_, holds.cell here, mirror.entry index _ here⟩
  · obtain ⟨object, found, -, -⟩ := mirror.registers nonNegative below
    exact readPointer_lookup mirror.stores.live nonNegative found world

theorem Tables.destroysOnce (tables : Tables build wrapper world symbols rules items)
    (zeroes : build.nullIsZeroes = true) : DestroysOnce wrapper world := by
  obtain ⟨ofSymbols, ofRules, ofItems, count, addresses⟩ := tables
  have symbolsHeld := ofSymbols.holds zeroes
  have rulesHeld := ofRules.holds zeroes
  have front {β : Type} {table : Option (Block β)} {size : Nat} {objects : List β}
      (holds : Holds table size objects) :
      (cellsOf table).take objects.length = objects.map .pointer := by
    rw [holds.cells]
    exact List.take_left' (List.length_map _)
  refine ⟨_, marpaWrapperDestroyv_run symbolsHeld.live rulesHeld.live ofItems.live
    (front symbolsHeld) (front rulesHeld) (front ofItems) ofSymbols.used ofRules.used count world, ?_⟩
  rw [freedIn_destruction symbolsHeld.allocates rulesHeld.allocates ofItems.allocates]
  have once {β : Type} {table : Option (Block β)} {size : Nat} {objects : List β}
      (addressOf : β → Nat) (object : β) (holds : Holds table size objects)
      (part : tableAddresses addressOf table objects ∈ wrapper.owned symbols rules items)
      (member : .pointer object ∈ cellsOf table) :
      (wrapper.owned symbols rules items).flatten.count (addressOf object) = 1 := by
    refine List.count_eq_one_of_mem addresses.distinct (List.mem_flatten.mpr ⟨_, part, ?_⟩)
    rw [holds.cells] at member
    rcases List.mem_append.mp member with entry | null
    · obtain ⟨_, inside, same⟩ := List.mem_map.mp entry
      cases same
      exact mem_tableAddresses.mpr (.inl (List.mem_map_of_mem inside))
    · cases List.eq_of_mem_replicate null
  exact ⟨fun symbol => once _ symbol symbolsHeld List.mem_cons_self,
    fun rule => once _ rule rulesHeld (List.mem_cons_of_mem _ List.mem_cons_self),
    fun item => once _ item ofItems
      (List.mem_cons_of_mem _ (List.mem_cons_of_mem _ List.mem_cons_self))⟩

/-- In every state that a session reaches while memory is granted, in the build that prefills with
zeroes, the tables of symbols and of rules mirror the ids that libmarpa handed out, and the
destructor releases each registered symbol, rule and progress item once. -/
theorem session_mirrorsIds (grants : libc.AlwaysGrants) (conforms : Conforms libc.qsort)
    (zeroes : build.nullIsZeroes = true) {option : Option MarpaWrapperOption}
    {calls : List (ApiCall V)} {answers : List ApiAnswer} {initial : World V}
    (reached : session libc fuel build marpa option calls initial =
      .ok (some (answers, wrapper)) world) :
    MirrorsIds symbolRegistry wrapper.address wrapper.marpaWrapperSymbolpp
        wrapper.sizeMarpaWrapperSymboli wrapper.nMarpaWrapperSymboli world.grammar.symbols.length ∧
      MirrorsIds ruleRegistry wrapper.address wrapper.marpaWrapperRulepp
        wrapper.sizeMarpaWrapperRulei wrapper.nMarpaWrapperRulei world.grammar.rules.length ∧
      DestroysOnce wrapper world := by
  obtain ⟨symbols, rules, items, tables⟩ := (tabled_kept grants zeroes conforms).session
    (fun run => (marpaWrapperNewp_creates run).tabled) reached
  exact ⟨tables.ofSymbols.mirrorsIds zeroes, tables.ofRules.mirrorsIds zeroes,
    tables.destroysOnce zeroes⟩

/-- A rule that has the first symbol on both sides. -/
def unitRule : MarpaWrapperRuleOption where
  lhsSymbolp := some 0
  nRhsSymboli := 1
  rhsSymbolpp := [some 0]

/-- Two symbols, a rule and a progress report. -/
def registeringCalls : List (ApiCall Nat) :=
  [.addSymbolp none, .addSymbolp none, .addRulep (some unitRule), .precomputeb, .startb,
    .progressb 0 0]

/-- A session that registers two symbols and a rule. -/
theorem session_mirrorsIds_three : ∃ answers wrapper world,
    session Libc.generous 2 { nullIsZeroes := true } Libmarpa.accepting none registeringCalls {} =
      .ok (some (answers, wrapper)) world ∧
    MirrorsIds symbolRegistry wrapper.address wrapper.marpaWrapperSymbolpp
        wrapper.sizeMarpaWrapperSymboli wrapper.nMarpaWrapperSymboli world.grammar.symbols.length ∧
      MirrorsIds ruleRegistry wrapper.address wrapper.marpaWrapperRulepp
        wrapper.sizeMarpaWrapperRulei wrapper.nMarpaWrapperRulei world.grammar.rules.length ∧
      DestroysOnce wrapper world := by
  obtain ⟨⟨answers, wrapper⟩, world, reached⟩ := reaches_ok
    (show reaches (session Libc.generous 2 { nullIsZeroes := true } Libmarpa.accepting none
      registeringCalls {}) = true by decide +kernel)
  exact ⟨answers, wrapper, world, reached,
    session_mirrorsIds Libc.generous_alwaysGrants inserting_conforms rfl reached⟩

end Reachable

end MarpaWrapper
