/-
This file is about `marpaWrapper_g_addSymbolp` and `marpaWrapper_g_addRulep` when they
return `NULL`. The creation in libmarpa comes first, and what is created cannot be removed;
the memory for the object and the options come after it, and each of them may fail. So
`NULL` means that nothing was defined, or that a symbol or a rule was left behind: one, with
everything that was defined before as it was. Only the table itself may be lost, by a growth
that is refused behind a granted doubling.
-/

import MarpaWrapper.ReachableStates
import MarpaWrapper.TableMirror
import MarpaWrapper.ManageBufPrefill

namespace MarpaWrapper

open Effects

variable {V α : Type}

/-! ### What is left -/

/-- Nothing is defined: the grammar's symbols with their flags, its rules and its start symbol are
what they were, and so is the wrapper. -/
structure Untouched (wrapper : Wrapper) (world : World V) (wrapper' : Wrapper) (world' : World V) :
    Prop where
  symbols : world'.grammar.symbols = world.grammar.symbols
  rules : world'.grammar.rules = world.grammar.rules
  startSymbol : world'.grammar.startSymbol = world.grammar.startSymbol
  tables : wrapper' = wrapper

/-- In between, a growth was refused behind a granted doubling. -/
def GrowsHalfway (world world' : World V) : Prop :=
  (∃ bytes address, .realloc bytes (some address) ∈ world.since world') ∧
    ∃ bytes, .realloc bytes none ∈ world.since world'

section Since

variable {start world world' : World V} {event : Event V}

theorem Prolonged.since_earlier (first : Prolonged start world) :
    world.since world' ⊆ start.since world' :=
  List.drop_subset_drop_left _ first.length_le

theorem World.since_later (last : world.events <+: world'.events) :
    start.since world ⊆ start.since world' :=
  (last.drop _).subset

/-- The last exchange is one of those since `start`. -/
theorem Prolonged.since_last (prolonged : Prolonged start world)
    (last : world'.events = world.events ++ [event]) : event ∈ start.since world' := by
  unfold World.since
  rw [last, List.drop_append_of_le_length prolonged.length_le]
  exact List.mem_append_right _ List.mem_cons_self

theorem GrowsHalfway.earlier (halfway : GrowsHalfway world world') (first : Prolonged start world) :
    GrowsHalfway start world' := by
  obtain ⟨⟨bytes, address, granted⟩, bytes', refused⟩ := halfway
  exact ⟨⟨bytes, address, first.since_earlier granted⟩, bytes', first.since_earlier refused⟩

theorem GrowsHalfway.later (halfway : GrowsHalfway start world) (last : Prolonged world world') :
    GrowsHalfway start world' := by
  obtain ⟨⟨bytes, address, granted⟩, bytes', refused⟩ := halfway
  exact ⟨⟨bytes, address, World.since_later last granted⟩, bytes', World.since_later last refused⟩

end Since

/-- A table after an id was created. It has the same objects and the same used count, or one object
more, under the id. Or its block was released by a growth that was only granted halfway: the objects
and the count are as they were, but no slot leads to an object any more. -/
inductive LeavesObject (table table' : Option (Block α)) (count count' id : Nat)
    (registered : α → Prop) (world world' : World V) : Prop
  | unregistered (same : ∀ pointer, lookup table' pointer = lookup table pointer)
      (live : Unreleased table → Unreleased table') (used : count' = count)
  | released (same : ∀ pointer, lookup table' pointer = lookup table pointer)
      (was : Unreleased table) (gone : ¬ Unreleased table') (halfway : GrowsHalfway world world')
      (used : count' = count)
  | registered {object : α} (ofId : registered object) (found : lookup table' id = some object)
      (others : ∀ pointer, pointer ≠ id → lookup table' pointer = lookup table pointer)
      (live : Unreleased table') (used : count' = id + 1)

theorem LeavesObject.earlier {table table' : Option (Block α)} {count count' id : Nat}
    {registered : α → Prop} {start world world' : World V}
    (leaves : LeavesObject table table' count count' id registered world world')
    (first : Prolonged start world) :
    LeavesObject table table' count count' id registered start world' := by
  cases leaves with
  | unregistered same live used => exact .unregistered same live used
  | released same was gone halfway used => exact .released same was gone (halfway.earlier first) used
  | registered ofId found others live used => exact .registered ofId found others live used

/-- A symbol was created behind the others. -/
structure LastSymbol (before : Grammar) (starts : Bool) (grammar : Grammar) : Prop where
  symbols : ∃ flags, grammar.symbols = before.symbols ++ [flags]
  rules : grammar.rules = before.rules
  startSymbol : grammar.startSymbol = before.startSymbol ∨
    starts = true ∧ grammar.startSymbol = some (before.symbols.length : Int)

/-- A rule was created behind the others. -/
structure LastRule (before grammar : Grammar) : Prop where
  symbols : grammar.symbols = before.symbols
  rules : ∃ rule, grammar.rules = before.rules ++ [rule]
  startSymbol : grammar.startSymbol = before.startSymbol

/-- A symbol is left behind, which the table may have an object of. -/
structure LeavesSymbol (option : MarpaWrapperSymbolOption) (wrapper : Wrapper) (world : World V)
    (wrapper' : Wrapper) (world' : World V) : Prop where
  created : LastSymbol world.grammar option.startb world'.grammar
  leaves : LeavesObject wrapper.marpaWrapperSymbolpp wrapper'.marpaWrapperSymbolpp
    wrapper.nMarpaWrapperSymboli wrapper'.nMarpaWrapperSymboli world.grammar.symbols.length
    (fun symbol => symbol.marpaSymbolIdi = world.grammar.symbols.length ∧
      symbol.marpaWrapperSymbolOption = option) world world'
  others : ∃ table size count, wrapper' = { wrapper with
    marpaWrapperSymbolpp := table, sizeMarpaWrapperSymboli := size, nMarpaWrapperSymboli := count }

/-- A rule is left behind, which the table may have an object of. -/
structure LeavesRule (option : MarpaWrapperRuleOption) (wrapper : Wrapper) (world : World V)
    (wrapper' : Wrapper) (world' : World V) : Prop where
  created : LastRule world.grammar world'.grammar
  leaves : LeavesObject wrapper.marpaWrapperRulepp wrapper'.marpaWrapperRulepp
    wrapper.nMarpaWrapperRulei wrapper'.nMarpaWrapperRulei world.grammar.rules.length
    (fun rule => rule.marpaRuleIdi = world.grammar.rules.length ∧
      rule.marpaWrapperRuleOption = option) world world'
  others : ∃ table size count, wrapper' = { wrapper with
    marpaWrapperRulepp := table, sizeMarpaWrapperRulei := size, nMarpaWrapperRulei := count }

/-! ### Options that fail or not -/

section Options

variable {before grammar : Grammar} {starts : Bool} {marpa : Libmarpa V} {world world' : World V}

/-- A call changes no more than the error code, or it does what it does to a grammar. -/
theorem apply_cases (grammar : Grammar) (refusal : Option Int) (call : GrammarCall) :
    ∃ error, (grammar.apply refusal call).2 = { grammar with error } ∨
      (grammar.apply refusal call).2 = ({ grammar with error }.perform call).2 := by
  have cleared : ∃ error, grammar.clearError call = { grammar with error } := by
    cases call <;> exact ⟨_, rfl⟩
  obtain ⟨error, cleared⟩ := cleared
  unfold Grammar.apply
  rw [cleared]
  cases refusal with
  | some code => exact ⟨code, .inl rfl⟩
  | none =>
    simp only
    by_cases precomputed : (grammar.precomputed && !call.allowedAfterPrecomputation) = true
    · rw [if_pos precomputed]
      exact ⟨_, .inl rfl⟩
    · rw [if_neg precomputed]
      exact ⟨error, .inr rfl⟩

/-- What the calls of the wanted options keep holds when they were applied. -/
theorem applyOptions_holds {options : List OptionCall} {applied : Bool} (holds : Grammar → Prop)
    (kept : ∀ option ∈ options, option.wanted = true → ∀ grammar refusal, holds grammar →
      holds (grammar.apply refusal option.call).2)
    (ready : holds world.grammar)
    (run : applyOptions marpa options world = .ok applied world') : holds world'.grammar := by
  induction options generalizing world with
  | nil => cases run; exact ready
  | cons option rest inductionHypothesis =>
    obtain ⟨goesOn, between, ran, last⟩ := run_bind_eq_ok run
    have after : holds between.grammar := by
      unfold applyOption at ran
      by_cases wanted : option.wanted = true
      · rw [if_pos wanted] at ran
        obtain ⟨answer, state, called, ran⟩ := run_bind_eq_ok ran
        obtain ⟨error, state', asked, ran⟩ := run_bind_eq_ok ran
        cases asked
        cases ran
        rw [← (Prod.mk.inj (grammarCall_return called)).2.symm]
        exact kept option List.mem_cons_self wanted _ _ ready
      · rw [if_neg wanted] at ran
        cases ran
        exact ready
    cases goesOn with
    | false => cases last; exact after
    | true =>
      exact inductionHypothesis (fun other member => kept other (List.mem_cons_of_mem _ member)) after
        last

theorem LastSymbol.flag (last : LastSymbol before starts grammar) (value : Int)
    (set : SymbolFlags → Bool → SymbolFlags) :
    LastSymbol before starts (grammar.setFlag before.symbols.length value set).2 := by
  obtain ⟨flags, symbols⟩ := last.symbols
  unfold Grammar.setFlag
  rw [if_neg (Int.not_lt.mpr (Int.natCast_nonneg _)), symbols, getElem?_last]
  simp only
  by_cases invalid : value < 0 ∨ 1 < value
  · rw [if_pos invalid]
    exact ⟨⟨flags, symbols⟩, last.rules, last.startSymbol⟩
  · rw [if_neg invalid]
    exact ⟨⟨_, set_last before.symbols flags _⟩, last.rules, last.startSymbol⟩

/-- The terminal flag is set, or it is locked and nothing is. -/
theorem LastSymbol.terminal (last : LastSymbol before starts grammar) (value : Int) :
    LastSymbol before starts (grammar.setTerminal before.symbols.length value).2 := by
  unfold Grammar.setTerminal
  split
  · exact ⟨last.symbols, last.rules, last.startSymbol⟩
  · exact last.flag value _

theorem LastSymbol.start (last : LastSymbol before starts grammar) (wanted : starts = true) :
    LastSymbol before starts (grammar.setStart before.symbols.length).2 := by
  have symbols := last.symbols
  have rules := last.rules
  unfold Grammar.setStart
  split
  · exact ⟨symbols, rules, last.startSymbol⟩
  · split
    · exact ⟨symbols, rules, last.startSymbol⟩
    · exact ⟨symbols, rules, .inr ⟨wanted, rfl⟩⟩

/-- An option of the last symbol changes the last symbol, or it makes it the start symbol. -/
theorem LastSymbol.option {option : MarpaWrapperSymbolOption} {call : OptionCall}
    (last : LastSymbol before option.startb grammar)
    (member : call ∈ symbolOptionCalls before.symbols.length option) (wanted : call.wanted = true)
    (refusal : Option Int) :
    LastSymbol before option.startb (grammar.apply refusal call.call).2 := by
  obtain ⟨error, same | performed⟩ := apply_cases grammar refusal call.call
  · rw [same]
    exact ⟨last.symbols, last.rules, last.startSymbol⟩
  · rw [performed]
    have last' : LastSymbol before option.startb { grammar with error } :=
      ⟨last.symbols, last.rules, last.startSymbol⟩
    unfold symbolOptionCalls at member
    simp only [List.mem_cons, List.not_mem_nil, or_false] at member
    rcases member with rfl | rfl | rfl | rfl | rfl
    · exact last'.terminal _
    · exact last'.start wanted
    · exact last'.flag _ _
    · exact last'.flag _ _
    · exact last'.flag _ _

/-- An option of the last rule changes the last rule. -/
theorem LastRule.option {option : MarpaWrapperRuleOption} {call : OptionCall}
    (last : LastRule before grammar) (member : call ∈ ruleOptionCalls before.rules.length option)
    (refusal : Option Int) : LastRule before (grammar.apply refusal call.call).2 := by
  obtain ⟨rule, rules⟩ := last.rules
  obtain ⟨error, same | performed⟩ := apply_cases grammar refusal call.call
  · rw [same]
    exact ⟨last.symbols, ⟨rule, rules⟩, last.startSymbol⟩
  · rw [performed]
    have failed (answer code : Int) :
        LastRule before ({ grammar with error }.fails answer code).2 :=
      ⟨last.symbols, ⟨rule, rules⟩, last.startSymbol⟩
    have found : grammar.rules[((before.rules.length : Int)).toNat]? = some rule := by
      rw [rules, getElem?_last]
    have negative : ¬ (before.rules.length : Int) < 0 := Int.not_lt.mpr (Int.natCast_nonneg _)
    have set (rule' : GrammarRule) : ∃ last,
        grammar.rules.set ((before.rules.length : Int)).toNat rule' = before.rules ++ [last] := by
      rw [rules]
      exact ⟨_, set_last before.rules rule rule'⟩
    unfold ruleOptionCalls at member
    simp only [List.mem_cons, List.not_mem_nil, or_false] at member
    rcases member with rfl | rfl
    · show LastRule before (Grammar.setRank _ _ _).2
      unfold Grammar.setRank
      rw [if_neg negative]
      simp only [found]
      split
      · exact failed _ _
      · split
        · exact failed _ _
        · exact ⟨last.symbols, set _, last.startSymbol⟩
    · show LastRule before (Grammar.setNullHigh _ _ _).2
      unfold Grammar.setNullHigh
      rw [if_neg negative]
      simp only [found]
      split
      · exact failed _ _
      · exact ⟨last.symbols, set _, last.startSymbol⟩

end Options

/-! ### Tables, whatever memory was refused -/

/-- A table whose block has as many slots as its size says. So many ids do not ask for more. -/
structure Sizable (table : Option (Block α)) (size : Nat) : Prop where
  sized : Sized (2 ^ 63) pointerSize ⟨size, size, table⟩
  small : size < 2 ^ 32

section Tables

variable {libc : Libc V} {fuel size size' wanted : Nat} {build : Build} {table : Option (Block α)}
  {block block' : Block α} {growth following : Growth α} {cells cells' : List (Slot α)}
  {world world' : World V}

theorem Sizable.empty : Sizable (none : Option (Block α)) 0 :=
  ⟨⟨rfl, rfl, ⟨fun there => absurd there Bool.false_ne_true,
    fun positive => absurd positive (Nat.lt_irrefl 0)⟩, Nat.two_pow_pos 63⟩, Nat.two_pow_pos 32⟩

/-- The prefill does not write to the slots that there were. -/
theorem prefill_spares (small : size < 2 ^ 32) {elementSizei : Nat}
    (run : prefill fuel build sizeModulus cells size size' elementSizei world = .ok cells' world') :
    cells'.length = cells.length ∧ ∀ index < size, cells'[index]? = cells[index]? := by
  unfold prefill at run
  by_cases zeroes : build.nullIsZeroes = true
  · rw [if_pos zeroes] at run
    unfold prefillZeroes at run
    generalize (size' - size) * elementSizei % sizeModulus / elementSizei = gain at run
    by_cases inside : size + gain ≤ cells.length
    · rw [if_pos inside] at run
      cases run
      have taken : (cells.take size).length = size := by
        rw [List.length_take]
        omega
      refine ⟨?_, fun index below => ?_⟩
      · rw [List.length_append, List.length_append, taken, List.length_replicate, List.length_drop]
        omega
      · rw [List.append_assoc, List.getElem?_append_left (by rwa [taken]),
          List.getElem?_take_of_lt below]
    · rw [if_neg inside] at run
      cases run
  · rw [if_neg zeroes] at run
    -- The counter starts behind these slots, or it is negative and nothing is written.
    have beyond (counter : Int) (reached : (size : Int) ≤ counter) (below : counter < 2 ^ 32) :
        toInt counter < 0 ∨ (size : Int) ≤ toInt counter := by
      unfold toInt uintModulus
      rw [Int.bmod_def]
      split <;> omega
    obtain ⟨counter, -, -, length, kept⟩ := prefillLoop_keeps
      (fun frame => (frame.1 < 0 ∨ (size : Int) ≤ frame.1) ∧ frame.1 < 2 ^ 31 ∧
        frame.2.length = cells.length ∧ ∀ index < size, frame.2[index]? = cells[index]?)
      run (by
        simp only
        exact ⟨beyond size (Int.le_refl _) (by omega), toInt_lt size, trivial, fun _ _ => trivial⟩)
      fun counter between holds positive within => by
        obtain ⟨start, small', length, kept⟩ := holds
        have reached : (size : Int) ≤ counter := start.resolve_left (Int.not_lt.mpr positive)
        refine ⟨beyond _ (by omega) (by omega), toInt_lt (counter + 1), by rw [List.length_set, length],
          fun index below => ?_⟩
        show (between.set counter.toNat .null)[index]? = _
        rw [List.getElem?_set_ne (by omega)]
        exact kept index below
    exact ⟨length, kept⟩

/-- What the loop has made of a table when it comes to a frame. -/
structure Regrown (table : Option (Block α)) (size : Nat) (begun : World V) (growth : Growth α)
    (world : World V) : Prop where
  sized : Sized (2 ^ 63) pointerSize growth
  small : growth.sizei < 2 ^ 32
  larger : size ≤ growth.sizei
  kept : ∀ index < size, (cellsOf growth.pp)[index]? = (cellsOf table)[index]?
  live : Unreleased table → Unreleased growth.pp
  record : Prolonged begun world
  moved : (growth.pp = table ∧ growth.sizei = size) ∨ size = 0 ∨ Unreleased table ∧
    ∃ bytes address, .realloc bytes (some address) ∈ begun.since world

theorem Regrown.turn (regrown : Regrown table size begun growth world) (few : wanted ≤ 2 ^ 31)
    (turned : growTurn libc sizeModulus wanted pointerSize growth world =
      .ok (.next following) world') : Regrown table size begun following world' := by
  have usable := growTurn_live turned
  obtain ⟨less, forward, -, rfl, rfl⟩ := growTurn_next turned
  have sized := regrown.sized
  have larger := regrown.larger
  have next := sized.next_larger machine_pointers
  have size' := sized.nextSizei_eq machine_pointers
  have small : growth.nextSizei sizeModulus < 2 ^ 32 := by
    rw [size']
    split <;> omega
  have fits : growth.nextBytes sizeModulus pointerSize < 2 ^ 63 := by
    rw [sized.nextBytes_eq machine_pointers]
    unfold pointerSize
    omega
  refine ⟨sized.enlarged_of_fits machine_pointers fits _, small, ?_, fun index below => ?_,
    fun _ => growth.enlarged_live _ _ _, regrown.record.trans (List.prefix_append _ _), ?_⟩
  · show size ≤ growth.nextSizei sizeModulus
    omega
  · rw [sized.enlarged_cells machine_pointers,
      List.getElem?_append_left (by rw [sized.length]; omega), regrown.kept index below]
  · rcases regrown.moved with ⟨same, first⟩ | empty | ⟨live, bytes, address, granted⟩
    · by_cases empty : size = 0
      · exact .inr (.inl empty)
      · -- The first request is for the block of the table, which can be used then.
        have occupied : growth.sizei ≠ 0 := by rwa [first]
        refine .inr (.inr ⟨same ▸ usable less forward occupied,
          growth.nextBytes sizeModulus pointerSize, world.nextAddress, regrown.record.since_last ?_⟩)
        rw [Growth.request, if_neg occupied]
    · exact .inr (.inl empty)
    · exact .inr (.inr ⟨live, bytes, address,
        World.since_later (List.prefix_append _ _) granted⟩)

/-- Whatever frame the loop comes to. -/
theorem Sizable.regrown (sizable : Sizable table size) (few : wanted ≤ 2 ^ 31)
    (visited : Visits (growTurn libc sizeModulus wanted pointerSize) ⟨size, size, table⟩ world growth
      world') : Regrown table size world growth world' := by
  induction visited with
  | start => exact ⟨sizable.sized, sizable.small, Nat.le_refl _, fun _ _ => rfl, fun live => live,
      List.prefix_rfl, .inl ⟨rfl, rfl⟩⟩
  | turn _ turned inductionHypothesis => exact inductionHypothesis.turn few turned

/-- The table that a request leaves has the same objects, whichever requests for memory failed
before. -/
theorem Sizable.grows (sizable : Sizable table size) (few : wanted ≤ 2 ^ 31)
    (run : manageBufCreatep libc fuel build sizeModulus table size wanted pointerSize world =
      .ok (.ok (block, size')) world') :
    Sizable (some block) size' ∧ ∀ pointer, lookup (some block) pointer = lookup table pointer := by
  have within := manageBufCreatep_pointsWithin run
  unfold manageBufCreatep at run
  obtain ⟨outcome, between, grew, rest⟩ := run_bind_eq_ok run
  obtain ⟨last, state, visited, turn⟩ := loop_eq_ok_visits grew
  have regrown := sizable.regrown few visited
  cases outcome with
  | error growth => cases rest
  | ok growth =>
    obtain ⟨-, rfl, -⟩ := growTurn_done turn
    obtain ⟨cells, after, filled, rest⟩ := run_bind_eq_ok rest
    obtain ⟨length, kept⟩ := prefill_spares sizable.small filled
    have sized := regrown.sized
    have length' := sized.length
    have allocated := sized.allocated
    cases there : growth.pp with
    | none => rw [there] at rest; cases rest
    | some old =>
      rw [there] at rest length length' allocated
      cases rest
      refine ⟨⟨⟨rfl, length.trans length', allocated, sized.fits⟩, regrown.small⟩, fun pointer =>
        Option.ext fun object => ?_⟩
      constructor
      · intro found
        obtain ⟨_, same, cell⟩ := lookup_eq_some.mp found
        cases same
        show (cellsOf table)[pointer]?.bind Slot.target? = some object
        rw [within pointer object cell]
        rfl
      · intro found
        obtain ⟨_, rfl, cell⟩ := lookup_eq_some.mp found
        have inside := (List.getElem?_eq_some_iff.mp cell).1
        have count := sizable.sized.length
        change _ = size at count
        have same := regrown.kept pointer (by rw [← count]; exact inside)
        refine lookup_eq_some.mpr ⟨_, rfl, ?_⟩
        show cells[pointer]? = _
        rw [kept pointer (by rw [← count]; exact inside)]
        exact same.trans cell

/-- A table that can be used was granted, or it was there. -/
theorem Sizable.grows_live (sizable : Sizable table size) (few : wanted ≤ 2 ^ 31)
    (live : Unreleased table)
    (run : manageBufCreatep libc fuel build sizeModulus table size wanted pointerSize world =
      .ok (.ok (block, size')) world') : Unreleased (some block) := by
  unfold manageBufCreatep at run
  obtain ⟨outcome, between, grew, rest⟩ := run_bind_eq_ok run
  obtain ⟨last, state, visited, turn⟩ := loop_eq_ok_visits grew
  cases outcome with
  | error growth => cases rest
  | ok growth =>
    obtain ⟨-, rfl, -⟩ := growTurn_done turn
    obtain ⟨cells, after, filled, rest⟩ := run_bind_eq_ok rest
    have usable := (sizable.regrown few visited).live live
    cases there : growth.pp with
    | none => rw [there] at rest; cases rest
    | some old =>
      rw [there] at rest usable
      cases rest
      rintro _ ⟨⟩
      exact usable old rfl

/-- When there was no room, the table is as it was, or the growth was only granted halfway and its
block is gone. -/
theorem Sizable.left (sizable : Sizable table size) (few : wanted ≤ 2 ^ 31)
    {left : Option (Block α)}
    (run : manageBufCreatep libc fuel build sizeModulus table size wanted pointerSize world =
      .ok (.error left) world') :
    Sizable left size ∧ (∀ pointer, lookup left pointer = lookup table pointer) ∧
      (left = table ∨ (Unreleased table ∧ ¬ Unreleased left ∧ GrowsHalfway world world')) := by
  unfold manageBufCreatep at run
  obtain ⟨outcome, between, grew, rest⟩ := run_bind_eq_ok run
  obtain ⟨last, state, visited, turn⟩ := loop_eq_ok_visits grew
  have regrown := sizable.regrown few visited
  cases outcome with
  | ok growth =>
    obtain ⟨-, rfl, -⟩ := growTurn_done turn
    obtain ⟨cells, after, filled, rest⟩ := run_bind_eq_ok rest
    cases there : growth.pp with
    | some old => rw [there] at rest; cases rest
    | none =>
      rw [there] at rest
      cases rest
      -- Without a block after the loop there was none before.
      have none : growth.sizei = 0 := by
        have allocated := regrown.sized.allocated
        rw [there] at allocated
        exact Nat.eq_zero_of_not_pos fun positive => Bool.false_ne_true (allocated.mpr positive)
      have empty : table = Option.none := by
        have larger := regrown.larger
        refine Option.not_isSome_iff_eq_none.mp fun some => ?_
        have positive : 0 < size := sizable.sized.allocated.mp some
        omega
      subst empty
      exact ⟨sizable, fun _ => rfl, .inl rfl⟩
  | error growth =>
    cases rest
    obtain ⟨less, rfl, turnaround | ⟨-, -, rfl⟩⟩ := growTurn_fails turn
    · exact absurd turnaround.1 (regrown.sized.forward machine_pointers)
    · cases table with
      | none => exact ⟨sizable, fun _ => rfl, .inl rfl⟩
      | some block =>
        refine ⟨⟨⟨rfl, sizable.sized.length, sizable.sized.allocated, sizable.sized.fits⟩,
          sizable.small⟩, fun _ => rfl, ?_⟩
        have positive : 0 < size := sizable.sized.allocated.mp rfl
        have larger := regrown.larger
        rcases regrown.moved with ⟨-, same⟩ | empty | ⟨live, bytes, address, granted⟩
        · exact .inl (leftBy_same same)
        · omega
        · by_cases same : growth.sizei = size
          · exact .inl (leftBy_same same)
          · refine .inr ⟨live, fun usable => ?_, ⟨bytes, address,
              World.since_later (List.prefix_append _ _) granted⟩,
              growth.nextBytes sizeModulus pointerSize, regrown.record.since_last ?_⟩
            · have gone := usable _ rfl
              simp [positive, Ne.symm same] at gone
            · rw [Growth.request, if_neg (by omega)]

/-- An entry is written. -/
theorem Sizable.write (sizable : Sizable (some block) size) {index : Nat} {object : α}
    (wrote : writeArray block (index : Int) (.pointer object) world = .ok block' world') :
    world' = world ∧ Sizable (some block') size ∧ Unreleased (some block') ∧
      lookup (some block') index = some object ∧
      ∀ pointer, pointer ≠ index → lookup (some block') pointer = lookup (some block) pointer := by
  obtain ⟨rfl, found⟩ := writeArray_return wrote
  obtain ⟨-, live, -, inside, rfl⟩ := writeArray_eq_ok wrote
  have sized := sizable.sized
  have length := sized.length
  refine ⟨rfl, ⟨⟨rfl, ?_, sized.allocated, sized.fits⟩, sizable.small⟩, ?_, found,
    fun pointer different => ?_⟩
  · exact List.length_set.trans length
  · rintro _ ⟨⟩
    exact live
  · show ((block.cells.set index (.pointer object))[pointer]?).bind Slot.target? = _
    rw [List.getElem?_set_ne (Ne.symm different)]
    rfl

end Tables

/-! ### The functions -/

/-- The two tables of a wrapper have as many slots as their sizes say. -/
structure SizableTables (wrapper : Wrapper) : Prop where
  symbols : Sizable wrapper.marpaWrapperSymbolpp wrapper.sizeMarpaWrapperSymboli
  rules : Sizable wrapper.marpaWrapperRulepp wrapper.sizeMarpaWrapperRulei

section Functions

variable {libc : Libc V} {fuel : Nat} {build : Build} {marpa : Libmarpa V}
  {wrapper wrapper' : Wrapper} {before : Grammar} {world world' : World V}

/-- After the creation of a symbol. -/
theorem marpaWrapperGAddSymbolpInternal_leaves {option : Option MarpaWrapperSymbolOption}
    {pointer : Option Nat} (sizable : SizableTables wrapper)
    (few : before.symbols.length + 1 < 2 ^ 31)
    (created : LastSymbol before (option.getD marpaWrapperSymbolOptionDefaultb).startb world.grammar)
    (run : marpaWrapperGAddSymbolpInternal libc fuel build marpa wrapper before.symbols.length option
      world = .ok (pointer, wrapper') world') :
    Sizable wrapper'.marpaWrapperSymbolpp wrapper'.sizeMarpaWrapperSymboli ∧
      LastSymbol before (option.getD marpaWrapperSymbolOptionDefaultb).startb world'.grammar ∧
      LeavesObject wrapper.marpaWrapperSymbolpp wrapper'.marpaWrapperSymbolpp
        wrapper.nMarpaWrapperSymboli wrapper'.nMarpaWrapperSymboli before.symbols.length
        (fun symbol => symbol.marpaSymbolIdi = before.symbols.length ∧
          symbol.marpaWrapperSymbolOption = option.getD marpaWrapperSymbolOptionDefaultb) world world' ∧
      ∃ table size count, wrapper' = { wrapper with
        marpaWrapperSymbolpp := table
        sizeMarpaWrapperSymboli := size
        nMarpaWrapperSymboli := count } := by
  have wanted : toSize ((before.symbols.length : Int) + 1) = before.symbols.length + 1 := by
    unfold toSize sizeModulus
    omega
  unfold marpaWrapperGAddSymbolpInternal at run
  rw [wanted] at run
  obtain ⟨room, between, provided, rest⟩ := run_bind_eq_ok run
  have grown : Grown (·.ofMemory = true) world between :=
    .of_run (fun _ => manageBufCreatep_keeps _ _ _ _) provided
  cases room with
  | error left =>
    cases rest
    obtain ⟨sizable', same, kept | ⟨was, gone, halfway⟩⟩ :=
      sizable.symbols.left (by omega) provided
    · exact ⟨sizable', by rwa [grown.grammar], .unregistered same (fun live => kept ▸ live) rfl,
        _, _, _, rfl⟩
    · exact ⟨sizable', by rwa [grown.grammar], .released same was gone halfway rfl, _, _, _, rfl⟩
  | ok room =>
    obtain ⟨sizable', same⟩ := sizable.symbols.grows (by omega) provided
    have live := fun live => sizable.symbols.grows_live (by omega) live provided
    obtain ⟨address, after, requested, rest⟩ := run_bind_eq_ok rest
    have grown' : Grown (fun _ => True) between after :=
      .of_run (fun _ => acquire_keeps fun _ => trivial) requested
    rw [← grown.grammar, ← grown'.grammar] at created
    cases address with
    | none =>
      cases rest
      exact ⟨sizable', created, .unregistered same live rfl, _, _, _, rfl⟩
    | some address =>
      obtain ⟨garbage, state, read, rest⟩ := run_bind_eq_ok rest
      cases read
      obtain ⟨table, final, wrote, stored⟩ := run_bind_eq_ok rest
      obtain ⟨rfl, sizable'', live', found, others⟩ := sizable'.write wrote
      obtain ⟨applied, last, options, done⟩ := run_bind_eq_ok stored
      cases done
      refine ⟨sizable'', applyOptions_holds _ (fun call member wanted _ refusal last =>
          last.option member wanted refusal) created options,
        .registered (And.intro rfl rfl) found (fun pointer different => ?_) live' rfl,
        _, _, _, rfl⟩
      rw [others pointer different, same]

/-- After the creation of a rule. -/
theorem marpaWrapperGAddRulepInternal_leaves {option : MarpaWrapperRuleOption}
    {pointer : Option Nat} (sizable : SizableTables wrapper)
    (few : before.rules.length + 1 < 2 ^ 31) (created : LastRule before world.grammar)
    (run : marpaWrapperGAddRulepInternal libc fuel build marpa wrapper before.rules.length option
      world = .ok (pointer, wrapper') world') :
    Sizable wrapper'.marpaWrapperRulepp wrapper'.sizeMarpaWrapperRulei ∧
      LastRule before world'.grammar ∧
      LeavesObject wrapper.marpaWrapperRulepp wrapper'.marpaWrapperRulepp
        wrapper.nMarpaWrapperRulei wrapper'.nMarpaWrapperRulei before.rules.length
        (fun rule => rule.marpaRuleIdi = before.rules.length ∧
          rule.marpaWrapperRuleOption = option) world world' ∧
      ∃ table size count, wrapper' = { wrapper with
        marpaWrapperRulepp := table
        sizeMarpaWrapperRulei := size
        nMarpaWrapperRulei := count } := by
  have wanted : toSize ((before.rules.length : Int) + 1) = before.rules.length + 1 := by
    unfold toSize sizeModulus
    omega
  unfold marpaWrapperGAddRulepInternal at run
  rw [wanted] at run
  obtain ⟨room, between, provided, rest⟩ := run_bind_eq_ok run
  have grown : Grown (·.ofMemory = true) world between :=
    .of_run (fun _ => manageBufCreatep_keeps _ _ _ _) provided
  cases room with
  | error left =>
    cases rest
    obtain ⟨sizable', same, kept | ⟨was, gone, halfway⟩⟩ :=
      sizable.rules.left (by omega) provided
    · exact ⟨sizable', by rwa [grown.grammar], .unregistered same (fun live => kept ▸ live) rfl,
        _, _, _, rfl⟩
    · exact ⟨sizable', by rwa [grown.grammar], .released same was gone halfway rfl, _, _, _, rfl⟩
  | ok room =>
    obtain ⟨sizable', same⟩ := sizable.rules.grows (by omega) provided
    have live := fun live => sizable.rules.grows_live (by omega) live provided
    obtain ⟨address, after, requested, rest⟩ := run_bind_eq_ok rest
    have grown' : Grown (fun _ => True) between after :=
      .of_run (fun _ => acquire_keeps fun _ => trivial) requested
    rw [← grown.grammar, ← grown'.grammar] at created
    cases address with
    | none =>
      cases rest
      exact ⟨sizable', created, .unregistered same live rfl, _, _, _, rfl⟩
    | some address =>
      obtain ⟨table, final, wrote, stored⟩ := run_bind_eq_ok rest
      obtain ⟨rfl, sizable'', live', found, others⟩ := sizable'.write wrote
      obtain ⟨applied, last, options, done⟩ := run_bind_eq_ok stored
      cases done
      refine ⟨sizable'', applyOptions_holds _ (fun call member _ _ refusal last =>
          last.option member refusal) created options,
        .registered (And.intro rfl rfl) found (fun pointer different => ?_) live' rfl,
        _, _, _, rfl⟩
      rw [others pointer different, same]

/-- `marpaWrapper_g_addSymbolp` that returns: `NULL` with nothing defined, or a symbol is there. -/
theorem marpaWrapperGAddSymbolp_leaves {option : Option MarpaWrapperSymbolOption}
    {pointer : Option Nat} (sizable : SizableTables wrapper)
    (run : marpaWrapperGAddSymbolp libc fuel build marpa wrapper option world =
      .ok (pointer, wrapper') world') :
    SizableTables wrapper' ∧ (Untouched wrapper world wrapper' world' ∨
      LeavesSymbol (option.getD marpaWrapperSymbolOptionDefaultb) wrapper world wrapper' world') := by
  obtain ⟨id, between, created, rest⟩ := run_bind_eq_ok run
  rcases symbolNew_grammar created with ⟨rfl, error, same⟩ | ⟨rfl, few, grammar⟩
  · cases rest
    exact ⟨sizable, .inl ⟨by rw [same], by rw [same], by rw [same], rfl⟩⟩
  · rw [if_neg (by omega)] at rest
    obtain ⟨symbols, last, leaves, table, size, count, rfl⟩ :=
      marpaWrapperGAddSymbolpInternal_leaves sizable few
        (by rw [grammar]; exact ⟨⟨_, rfl⟩, rfl, .inl rfl⟩) rest
    have first := Triple.ok (grammarCall_prolongs .symbolNew) List.prefix_rfl created
    exact ⟨⟨symbols, sizable.rules⟩, .inr ⟨last, leaves.earlier first, _, _, _, rfl⟩⟩

/-- `marpaWrapper_g_addRulep` that returns: `NULL` with nothing defined, or a rule is there. -/
theorem marpaWrapperGAddRulep_leaves {option : Option MarpaWrapperRuleOption}
    {pointer : Option Nat} (sizable : SizableTables wrapper)
    (run : marpaWrapperGAddRulep libc fuel build marpa wrapper option world =
      .ok (pointer, wrapper') world') :
    SizableTables wrapper' ∧ (Untouched wrapper world wrapper' world' ∨
      ∃ given ∈ option, LeavesRule given wrapper world wrapper' world') := by
  have nothing (wrapper : Wrapper) (world : World V) : Untouched wrapper world wrapper world :=
    ⟨rfl, rfl, rfl, rfl⟩
  unfold marpaWrapperGAddRulep at run
  cases option with
  | none => cases run; exact ⟨sizable, .inl (nothing _ _)⟩
  | some option =>
    simp only at run
    cases lhs : option.lhsSymbolp with
    | none => rw [lhs] at run; cases run; exact ⟨sizable, .inl (nothing _ _)⟩
    | some lhsSymbolp =>
      rw [lhs] at run
      simp only at run
      by_cases acceptable : option.isAcceptable
      · rw [if_pos acceptable] at run
        obtain ⟨collected, first, collects, run⟩ := run_bind_eq_ok run
        have grown := Grown.of_run (fun _ => collectRhs_keeps) collects
        have same := grown.grammar
        cases collected with
        | none => cases run; exact ⟨sizable, .inl ⟨by rw [same], by rw [same], by rw [same], rfl⟩⟩
        | some collected =>
          obtain ⟨id, second, created, run⟩ := run_bind_eq_ok run
          obtain ⟨call, creates, ofRule, called⟩ := createRule_call created
          have prolonged := grown.continued.prolonged.trans
            (Triple.ok (grammarCall_prolongs call) List.prefix_rfl called)
          have outcome := ruleCall_grammar creates ofRule called
          rw [same] at outcome
          obtain ⟨_, third, freed, run⟩ := run_bind_eq_ok run
          obtain rfl := freeIfNotNull_return freed
          rcases outcome with ⟨rfl, error, refused⟩ | ⟨rfl, few, rule, grammar⟩
          · cases run
            exact ⟨sizable, .inl ⟨by rw [refused], by rw [refused], by rw [refused], rfl⟩⟩
          · rw [if_neg (by omega)] at run
            obtain ⟨rules, last, leaves, table, size, count, rfl⟩ :=
              marpaWrapperGAddRulepInternal_leaves sizable few
                (by rw [grammar]; exact ⟨rfl, ⟨rule, rfl⟩, rfl⟩) run
            exact ⟨⟨sizable.symbols, rules⟩,
              .inr ⟨option, rfl, last, (leaves.earlier ⟨_, rfl⟩).earlier prolonged, _, _, _, rfl⟩⟩
      · rw [if_neg acceptable] at run
        cases run
        exact ⟨sizable, .inl (nothing _ _)⟩

/-- A check writes to an object of the table. -/
theorem SizableTables.checks (sizable : SizableTables wrapper) {pointer : Nat}
    {symbol : MarpaWrapperSymbol}
    (found : lookup wrapper.marpaWrapperSymbolpp pointer = some symbol)
    (result : MarpaWrapperSymbol) : SizableTables (wrapper.withSymbol pointer result) := by
  obtain ⟨block, there, -⟩ := lookup_eq_some.mp found
  refine ⟨?_, sizable.2⟩
  have symbols := sizable.1
  unfold Wrapper.withSymbol
  rw [there] at symbols ⊢
  have sized := symbols.sized
  exact ⟨⟨rfl, List.length_set.trans sized.length, sized.allocated, sized.fits⟩, symbols.small⟩

end Functions

/-! ### Every reachable state -/

section Reachable

variable {libc : Libc V} {fuel : Nat} {build : Build} {marpa : Libmarpa V} {wrapper : Wrapper}
  {initial world : World V}

end Reachable

end MarpaWrapper
