/-
This file is about the tables of symbols and of rules, which mirror libmarpa's ids: the
object that is registered for an id lies in the slot of that number and carries the id
and its owner, and as many objects are registered as ids were handed out. libmarpa hands
out the ids one after the other, so the wrapper derives its used count from the last one.

Between the creation in libmarpa and the entry in the table lie two requests for memory.
When these are granted, the object is entered, whatever comes of the options after it.
-/

import MarpaWrapper.ExpectedArrays
import MarpaWrapper.ManageBufGrowth
import MarpaWrapper.RuleRegistration

namespace MarpaWrapper

open Effects

variable {V α : Type}

/-! ### One slot more -/

section Growing

variable {libc : Libc V} {fuel more : Nat} {build : Build} {ppp : Option (Block α)}
  {size wanted elementSizei : Nat} {items : List α} {world world' : World V}

/-- A request that returns does so with more fuel. -/
theorem manageBufCreatep_eq_ok_more {result : Except (Option (Block α)) (Block α × Nat)}
    (run : manageBufCreatep libc fuel build sizeModulus ppp size wanted elementSizei world =
      .ok result world') (enough : fuel ≤ more) :
    manageBufCreatep libc more build sizeModulus ppp size wanted elementSizei world =
      .ok result world' := by
  unfold manageBufCreatep at run ⊢
  obtain ⟨outcome, between, grew, rest⟩ := run_bind_eq_ok run
  rw [run_bind_ok (loop_eq_ok_more grew enough)]
  cases outcome with
  | error growth => exact rest
  | ok growth =>
    obtain ⟨cells, after, filled, last⟩ := run_bind_eq_ok rest
    have again : prefill more build sizeModulus (cellsOf growth.pp) size growth.sizei elementSizei
        between = .ok cells after := by
      unfold prefill at filled ⊢
      by_cases zeroes : build.nullIsZeroes = true
      · rw [if_pos zeroes] at filled ⊢
        exact filled
      · rw [if_neg zeroes] at filled ⊢
        exact loop_eq_ok_more filled enough
    simp only
    rw [run_bind_ok again]
    exact last

/-- A request for one slot more that returns was refused its memory, or it left a table that stores
the items and has room for another one. -/
theorem manageBufCreatep_stored {result : Except (Option (Block α)) (Block α × Nat)}
    (stores : Stores build ppp size items) (few : items.length < build.limit)
    (run : manageBufCreatep libc fuel build sizeModulus ppp size (items.length + 1) pointerSize
      world = .ok result world') :
    (result = .error ppp ∧ ∃ bytes, libc.grants world.events bytes = false) ∨
    ∃ block size', result = .ok (block, size') ∧ items.length < size' ∧
      Stores build (some block) size' items ∧ Provided ppp size world block size' world' := by
  have ample := manageBufCreatep_eq_ok_more run (Nat.le_max_left fuel (2 ^ 32))
  rcases manageBufCreatep_stores libc stores few (Nat.le_max_right fuel (2 ^ 32)) world with
    ⟨event, bytes, slots, -, refused, ran⟩ | ⟨block, size', final, ran, room, stored, provided⟩
  · rw [ran] at ample
    cases ample
    exact .inl ⟨rfl, bytes, refused⟩
  · rw [ran] at ample
    cases ample
    exact .inr ⟨block, size', rfl, room, stored, provided⟩

/-- The cells that point to an object pointed to it before, at the same index. -/
def PointsWithin (cells cells' : List (Slot α)) : Prop :=
  ∀ (index : Nat) (object : α), cells'[index]? = some (.pointer object) →
    cells[index]? = some (.pointer object)

theorem PointsWithin.trans {cells cells' cells'' : List (Slot α)} (first : PointsWithin cells cells')
    (second : PointsWithin cells' cells'') : PointsWithin cells cells'' :=
  fun index object here => first index object (second index object here)

/-- Cells in front, followed by a cell again and again that points nowhere. -/
theorem PointsWithin.extend (cells : List (Slot α)) (count more : Nat) {cell : Slot α}
    (nowhere : ∀ object, cell ≠ .pointer object) :
    PointsWithin cells (cells.take count ++ List.replicate more cell) := by
  intro index object here
  by_cases front : index < (cells.take count).length
  · rw [List.getElem?_append_left front] at here
    rw [List.length_take] at front
    rwa [List.getElem?_take_of_lt (by omega)] at here
  · rw [List.getElem?_append_right (Nat.le_of_not_lt front), List.getElem?_replicate] at here
    split at here
    · exact absurd (Option.some.inj here) (nowhere object)
    · cases here

theorem growTurn_pointsWithin {modulus : Nat} {growth following : Growth α}
    (run : growTurn libc modulus wanted elementSizei growth world = .ok (.next following) world') :
    PointsWithin (cellsOf growth.pp) (cellsOf following.pp) := by
  obtain ⟨-, -, -, rfl, -⟩ := growTurn_next run
  have extended := PointsWithin.extend growth.oldCells
    (growth.nextBytes modulus elementSizei / elementSizei)
    (growth.nextBytes modulus elementSizei / elementSizei - growth.oldCells.length)
    (fun object (same : Slot.indeterminate = .pointer object) => by cases same)
  intro index object here
  have old := extended index object here
  unfold Growth.oldCells at old
  by_cases empty : growth.sizei = 0
  · rw [if_pos empty] at old
    cases old
  · rwa [if_neg empty] at old

/-- The prefill lets no cell point anywhere. -/
theorem prefill_pointsWithin {modulus size' : Nat} {cells cells' : List (Slot α)}
    (run : prefill fuel build modulus cells size size' elementSizei world = .ok cells' world') :
    PointsWithin cells cells' := by
  unfold prefill at run
  by_cases zeroes : build.nullIsZeroes = true
  · rw [if_pos zeroes] at run
    unfold prefillZeroes at run
    generalize (size' - size) * elementSizei % modulus / elementSizei = gain at run
    by_cases inside : size + gain ≤ cells.length
    · rw [if_pos inside] at run
      cases run
      intro index object here
      by_cases front : index < (cells.take size ++ List.replicate gain Slot.null).length
      · rw [List.getElem?_append_left front] at here
        exact PointsWithin.extend cells _ _ (fun _ same => by cases same) index object here
      · rw [List.getElem?_append_right (Nat.le_of_not_lt front), List.getElem?_drop] at here
        rw [List.length_append, List.length_take, List.length_replicate] at here front
        rwa [show size + gain + (index - (min size cells.length + gain)) = index by omega] at here
    · rw [if_neg inside] at run
      cases run
  · rw [if_neg zeroes] at run
    have turns : Triple (fun _ => PointsWithin cells cells)
        (loop .exhausted (prefillTurn modulus size') fuel (toInt size, cells))
        (fun cells' _ => PointsWithin cells cells') fun (_ : Fault) (_ : World V) => True := by
      refine Triple.loop (fun (frame : Int × List (Slot α)) _ => PointsWithin cells frame.2)
        (fun frame => .of_return fun state outcome next within turn => ?_)
        (fun _ _ _ => trivial) fuel (toInt size, cells)
      unfold prefillTurn at turn
      by_cases more : (frame.1 % modulus).toNat < size'
      · rw [if_pos more] at turn
        by_cases negative : frame.1 < 0
        · rw [if_pos negative] at turn
          cases turn
        · rw [if_neg negative] at turn
          obtain ⟨written, between, wrote, rest⟩ := run_bind_eq_ok turn
          obtain ⟨rfl, -, rfl⟩ := writeCell_eq_ok wrote
          cases rest
          intro index object here
          by_cases same : frame.1.toNat = index
          · subst same
            rw [List.getElem?_set] at here
            simp at here
          · rw [List.getElem?_set_ne same] at here
            exact within index object here
      · rw [if_neg more] at turn
        cases turn
        exact within
    exact turns.ok (fun _ _ here => here) run

theorem manageBufCreatep_pointsWithin {modulus size' : Nat} {block : Block α}
    (run : manageBufCreatep libc fuel build modulus ppp size wanted elementSizei world =
      .ok (.ok (block, size')) world') : PointsWithin (cellsOf ppp) block.cells := by
  unfold manageBufCreatep at run
  obtain ⟨outcome, between, grew, rest⟩ := run_bind_eq_ok run
  have turns : Triple (fun _ => PointsWithin (cellsOf ppp) (cellsOf ppp))
      (loop .exhausted (growTurn libc modulus wanted elementSizei) fuel ⟨size, size, ppp⟩)
      (fun outcome _ => ∀ growth, outcome = .ok growth →
        PointsWithin (cellsOf ppp) (cellsOf growth.pp))
      fun (_ : Fault) (_ : World V) => True := by
    refine Triple.loop (fun (growth : Growth α) _ => PointsWithin (cellsOf ppp) (cellsOf growth.pp))
      (fun growth => .of_return fun state outcome next within turn => ?_)
      (fun _ _ _ => trivial) fuel ⟨size, size, ppp⟩
    cases outcome with
    | next following => exact within.trans (growTurn_pointsWithin turn)
    | done result =>
      rintro last rfl
      obtain ⟨-, rfl, -⟩ := growTurn_done turn
      exact within
  have grown := turns.ok (fun _ _ here => here) grew
  cases outcome with
  | error growth => cases rest
  | ok growth =>
    obtain ⟨cells, after, filled, last⟩ := run_bind_eq_ok rest
    have within := (grown growth rfl).trans (prefill_pointsWithin filled)
    cases there : growth.pp with
    | none => rw [there] at last; cases last
    | some old => rw [there] at last; cases last; exact within

end Growing

/-! ### The mirror -/

/-- What the wrapper writes to an object that it registers. -/
structure Registry (α : Type) where
  idOf : α → Int
  ownerOf : α → Nat
  addressOf : α → Nat

def symbolRegistry : Registry MarpaWrapperSymbol :=
  ⟨(·.marpaSymbolIdi), (·.marpaWrapperp), (·.address)⟩

def ruleRegistry : Registry MarpaWrapperRule := ⟨(·.marpaRuleIdi), (·.marpaWrapperp), (·.address)⟩

/-- A table with its size and its used count mirrors so many ids of libmarpa: it stores the objects,
each under its id and with its owner. -/
structure Mirror (registry : Registry α) (build : Build) (owner : Nat) (table : Option (Block α))
    (size count ids : Nat) (objects : List α) : Prop where
  stores : Stores build table size objects
  used : count = objects.length
  given : ids = objects.length
  few : objects.length < 2 ^ 31
  entry : ∀ (index : Nat) (object : α), objects[index]? = some object →
    registry.idOf object = index ∧ registry.ownerOf object = owner
  only : ∀ (index : Nat) (object : α), (cellsOf table)[index]? = some (.pointer object) →
    objects[index]? = some object

section Mirror

variable {registry : Registry α} {build : Build} {owner size size' count ids : Nat}
  {table : Option (Block α)} {block block' : Block α} {objects : List α} {object : α}
  {world world' : World V}

theorem Mirror.empty (registry : Registry α) (build : Build) (owner : Nat) :
    Mirror registry build owner none 0 0 0 [] :=
  ⟨.empty build, rfl, rfl, Nat.two_pow_pos 31, (fun _ _ found => nomatch found),
    fun _ _ found => nomatch found⟩

/-- The ids that were handed out are registered, each in its slot. -/
theorem Mirror.registers (mirror : Mirror registry build owner table size count ids objects)
    {id : Int} (nonNegative : 0 ≤ id) (handedOut : id < ids) :
    ∃ object, lookup table id.toNat = some object ∧ registry.idOf object = id ∧
      registry.ownerOf object = owner := by
  have inside : id.toNat < objects.length := by
    have := mirror.given
    omega
  obtain ⟨same, owned⟩ := mirror.entry id.toNat _ (List.getElem?_eq_getElem inside)
  refine ⟨objects[id.toNat], ?_, by rw [same, Int.toNat_of_nonneg nonNegative], owned⟩
  unfold lookup
  rw [mirror.stores.cell id.toNat _ (List.getElem?_eq_getElem inside)]
  rfl

/-- What a table points to is registered. -/
theorem Mirror.found (mirror : Mirror registry build owner table size count ids objects)
    {pointer : Nat} (found : lookup table pointer = some object) : objects[pointer]? = some object := by
  obtain ⟨block, rfl, cell⟩ := lookup_eq_some.mp found
  exact mirror.only pointer object cell

/-- An object is registered behind the others, under the next id. -/
theorem Mirror.push (mirror : Mirror registry build owner table size count ids objects)
    (stored : Stores build (some block) size' objects)
    (within : PointsWithin (cellsOf table) block.cells) (room : objects.length < size')
    (few : objects.length + 1 < 2 ^ 31) (id : registry.idOf object = objects.length)
    (owned : registry.ownerOf object = owner)
    (wrote : writeArray block (objects.length : Int) (.pointer object) world = .ok block' world') :
    world' = world ∧ block'.address = block.address ∧
      Mirror registry build owner (some block') size' (objects.length + 1) (ids + 1)
        (objects ++ [object]) := by
  have limit := build.limit_large
  have length : block.cells.length = size' := stored.length
  obtain ⟨rfl, -, -, inside, rfl⟩ := writeArray_eq_ok wrote
  rw [Int.toNat_natCast] at inside
  refine ⟨rfl, rfl, stored.push room (by omega) object, by rw [List.length_append]; rfl,
    by rw [List.length_append, mirror.given]; rfl, by rw [List.length_append]; exact few,
    fun index other found => ?_, fun index other found => ?_⟩
  · by_cases last : index = objects.length
    · subst last
      rw [List.getElem?_append_right (Nat.le_refl _), Nat.sub_self] at found
      cases found
      exact ⟨id, owned⟩
    · have below : index < objects.length := by
        have := (List.getElem?_eq_some_iff.mp found).1
        rw [List.length_append, List.length_singleton] at this
        omega
      rw [List.getElem?_append_left below] at found
      exact mirror.entry index other found
  · change (block.cells.set objects.length (.pointer object))[index]? = _ at found
    by_cases last : index = objects.length
    · subst last
      rw [List.getElem?_set_self inside] at found
      cases found
      rw [List.getElem?_append_right (Nat.le_refl _), Nat.sub_self]
      rfl
    · rw [List.getElem?_set_ne (Ne.symm last)] at found
      have old := mirror.only index other (within index other found)
      rw [List.getElem?_append_left (List.getElem?_eq_some_iff.mp old).1, old]

/-- An object is changed that keeps its id and its owner. -/
theorem Mirror.set (mirror : Mirror registry build owner (some block) size count ids objects)
    {pointer : Nat} {old : α} (found : objects[pointer]? = some old)
    (id : registry.idOf object = registry.idOf old)
    (owned : registry.ownerOf object = registry.ownerOf old) :
    Mirror registry build owner
      (some { block with cells := block.cells.set pointer (.pointer object) }) size count ids
      (objects.set pointer object) := by
  obtain ⟨inside, here⟩ := List.getElem?_eq_some_iff.mp found
  have stores := mirror.stores
  have within := stores.within
  have length : block.cells.length = size := stores.length
  have reach := build.limit_le_reach
  have few := stores.few
  refine ⟨⟨stores.small, by rw [List.length_set]; exact few, ?_, by rw [List.length_set]; exact within,
    by simpa using stores.allocated, fun _ same => by cases same; exact stores.live block rfl,
    fun index other at' => ?_, fun index above below reached => ?_, fun outside => ?_⟩,
    by rw [List.length_set]; exact mirror.used,
    by rw [List.length_set]; exact mirror.given, by rw [List.length_set]; exact mirror.few,
    fun index other at' => ?_, fun index other here => ?_⟩
  · show (block.cells.set pointer (.pointer object)).length = size
    rw [List.length_set, length]
  · show (block.cells.set pointer (.pointer object))[index]? = _
    by_cases same : index = pointer
    · subst same
      rw [List.getElem?_set_self inside] at at'
      cases at'
      exact List.getElem?_set_self (by omega)
    · rw [List.getElem?_set_ne (Ne.symm same)] at at' ⊢
      exact stores.cell index other at'
  · rw [List.length_set] at above
    show (block.cells.set pointer (.pointer object))[index]? = _
    rw [List.getElem?_set_ne (by omega)]
    exact stores.rest index above below reached
  · show (block.cells.set pointer (.pointer object))[build.reach]? = _
    rw [List.getElem?_set_ne (by omega)]
    exact stores.beyond outside
  · by_cases same : index = pointer
    · subst same
      rw [List.getElem?_set_self inside] at at'
      cases at'
      rw [id, owned]
      exact mirror.entry index old found
    · rw [List.getElem?_set_ne (Ne.symm same)] at at'
      exact mirror.entry index other at'
  · change (block.cells.set pointer (.pointer object))[index]? = _ at here
    by_cases same : index = pointer
    · subst same
      rw [List.getElem?_set_self (by omega)] at here
      cases here
      exact List.getElem?_set_self inside
    · rw [List.getElem?_set_ne (Ne.symm same)] at here
      rw [List.getElem?_set_ne (Ne.symm same)]
      exact mirror.only index other here

/-- What a check writes to a registered symbol keeps the mirror. -/
theorem Mirror.check {wrapper : Wrapper} {symbols : List MarpaWrapperSymbol} {pointer : Nat}
    {symbol result : MarpaWrapperSymbol}
    (mirror : Mirror symbolRegistry build owner wrapper.marpaWrapperSymbolpp size count ids symbols)
    (found : lookup wrapper.marpaWrapperSymbolpp pointer = some symbol)
    (same : result.withoutWork = symbol.withoutWork) :
    Mirror symbolRegistry build owner (wrapper.withSymbol pointer result).marpaWrapperSymbolpp size
      count ids (symbols.set pointer result) := by
  obtain ⟨block, there, -⟩ := lookup_eq_some.mp found
  have here := mirror.found found
  unfold Wrapper.withSymbol
  rw [there] at mirror ⊢
  have id : result.withoutWork.marpaSymbolIdi = symbol.withoutWork.marpaSymbolIdi := by rw [same]
  have owned : result.withoutWork.marpaWrapperp = symbol.withoutWork.marpaWrapperp := by rw [same]
  exact mirror.set here id owned

end Mirror

/-! ### Memory -/

/-- The last exchanges are those after which the arrays of the expected terminals are
requested. -/
def AsksForArrays (events : List (Event V)) : Prop :=
  ∃ before answer, events = before ++ [.highestSymbolId answer] ∨
    ∃ size address, events = before ++ [.highestSymbolId answer, .malloc size address]

/-- No memory is refused, except for the arrays of the expected terminals. -/
def Libc.GrantsOthers (libc : Libc V) : Prop :=
  ∀ events size, libc.grants events size = false → AsksForArrays events

theorem Libc.AlwaysGrants.others {libc : Libc V} (grants : libc.AlwaysGrants) :
    libc.GrantsOthers := by
  intro events size refused
  rw [grants] at refused
  cases refused

/-- An exchange after which no array of expected terminals is requested. -/
def Event.closing : Event V → Bool
  | .highestSymbolId _ | .malloc _ _ => false
  | _ => true

theorem not_asksForArrays {events : List (Event V)} {last : Event V} (closing : last.closing = true) :
    ¬ AsksForArrays (events ++ [last]) := by
  rintro ⟨before, answer, same | ⟨size, address, same⟩⟩
  · obtain ⟨-, rfl⟩ := List.append_inj' same rfl |>.imp_right List.singleton_inj.mp
    cases closing
  · rw [show before ++ [Event.highestSymbolId answer, Event.malloc size address] =
      before ++ [.highestSymbolId answer] ++ [.malloc size address] by
        rw [List.append_assoc]; rfl] at same
    obtain ⟨-, rfl⟩ := List.append_inj' same rfl |>.imp_right List.singleton_inj.mp
    cases closing

theorem not_asksForArrays_two {events : List (Event V)} {last : Event V}
    (closing : last.closing = true) (size : Nat) (address : Option Nat) :
    ¬ AsksForArrays (events ++ [last] ++ [.malloc size address]) := by
  rintro ⟨before, answer, same | ⟨size', address', same⟩⟩
  · obtain ⟨-, same⟩ := List.append_inj' same rfl
    cases same
  · rw [show before ++ [Event.highestSymbolId answer, Event.malloc size' address'] =
      before ++ [.highestSymbolId answer] ++ [.malloc size' address'] by
        rw [List.append_assoc]; rfl] at same
    obtain ⟨front, -⟩ := List.append_inj' same rfl
    obtain ⟨-, rfl⟩ := List.append_inj' front rfl |>.imp_right List.singleton_inj.mp
    cases closing

/-! ### Grammar calls after a creation -/

/-- A call that creates a symbol or a rule. -/
def GrammarCall.creates : GrammarCall → Bool
  | .symbolNew | .ruleNew _ _ _ | .sequenceNew _ _ _ _ _ => true
  | _ => false

/-- The exchanges of a function that defines a grammar, besides the creation of a symbol. -/
def Event.ofDefinition : Event V → Bool
  | .malloc _ _ | .realloc _ _ | .free _ => true
  | .grammar call _ => decide (call ≠ .symbolNew)
  | _ => false

/-- Since `start` no symbol and no rule was created. -/
structure Defining (start world : World V) : Prop where
  record : ∃ exchanges, world.events = start.events ++ exchanges ∧
    ∀ event ∈ exchanges, event.ofDefinition = true
  symbols : world.grammar.symbols.length = start.grammar.symbols.length
  rules : world.grammar.rules.length = start.grammar.rules.length
  later : start.nextAddress ≤ world.nextAddress

section Defining

variable {libc : Libc V} {fuel : Nat} {build : Build} {marpa : Libmarpa V}
  {wrapper wrapper' : Wrapper} {start world world' : World V}

theorem Defining.refl (start : World V) : Defining start start :=
  ⟨⟨[], (List.append_nil _).symm, fun _ member => nomatch member⟩, rfl, rfl, Nat.le_refl _⟩

theorem Defining.trans (first : Defining start world) (second : Defining world world') :
    Defining start world' := by
  obtain ⟨before, record, kind⟩ := first.record
  obtain ⟨exchanges, appended, kind'⟩ := second.record
  exact ⟨⟨before ++ exchanges, by rw [appended, record, List.append_assoc],
    List.forall_mem_append.mpr ⟨kind, kind'⟩⟩, second.symbols.trans first.symbols,
    second.rules.trans first.rules, Nat.le_trans first.later second.later⟩

/-- Exchanges with the allocator. -/
theorem Defining.memory {address : Nat} {exchanges : List (Event V)}
    (memory : ∀ event ∈ exchanges, event.ofMemory = true) (later : world.nextAddress ≤ address) :
    Defining world { world with events := world.events ++ exchanges, nextAddress := address } := by
  refine ⟨⟨exchanges, rfl, fun event member => ?_⟩, rfl, rfl, later⟩
  have kind := memory event member
  cases event <;> first | rfl | exact absurd kind Bool.false_ne_true

/-- A call that creates nothing changes no number of symbols or rules. -/
theorem apply_lengths (grammar : Grammar) (refusal : Option Int) {call : GrammarCall}
    (creates : call.creates = false) :
    (grammar.apply refusal call).2.symbols.length = grammar.symbols.length ∧
      (grammar.apply refusal call).2.rules.length = grammar.rules.length := by
  have flag (symbolId value : Int) (set : SymbolFlags → Bool → SymbolFlags) :
      (grammar.setFlag symbolId value set).2.symbols.length = grammar.symbols.length ∧
        (grammar.setFlag symbolId value set).2.rules.length = grammar.rules.length := by
    unfold Grammar.setFlag
    split
    · exact ⟨rfl, rfl⟩
    · split
      · exact ⟨rfl, rfl⟩
      · split
        · exact ⟨rfl, rfl⟩
        · exact ⟨List.length_set, rfl⟩
  unfold Grammar.apply
  cases refusal with
  | some code => cases call <;> exact ⟨rfl, rfl⟩
  | none =>
    simp only
    split
    · cases call <;> exact ⟨rfl, rfl⟩
    · cases call with
      | forceValued => exact ⟨rfl, rfl⟩
      | symbolNew => cases creates
      | symbolIsTerminalSet symbolId value =>
        show (Grammar.setTerminal _ symbolId value).2.symbols.length = _ ∧
          (Grammar.setTerminal _ symbolId value).2.rules.length = _
        unfold Grammar.setTerminal
        split
        · exact ⟨rfl, rfl⟩
        · exact flag _ _ _
      | startSymbolSet symbolId =>
        show (grammar.setStart symbolId).2.symbols.length = _ ∧
          (grammar.setStart symbolId).2.rules.length = _
        unfold Grammar.setStart
        split
        · exact ⟨rfl, rfl⟩
        · split <;> exact ⟨rfl, rfl⟩
      | symbolIsCompletionEventSet symbolId value => exact flag _ _ _
      | symbolIsNulledEventSet symbolId value => exact flag _ _ _
      | symbolIsPredictionEventSet symbolId value => exact flag _ _ _
      | ruleNew lhs rhs length => cases creates
      | sequenceNew lhs rhs separator minimum flags => cases creates
      | ruleRankSet ruleId rank =>
        show (Grammar.setRank _ ruleId rank).2.symbols.length = _ ∧
          (Grammar.setRank _ ruleId rank).2.rules.length = _
        unfold Grammar.setRank
        split
        · exact ⟨rfl, rfl⟩
        · split
          · exact ⟨rfl, rfl⟩
          · split
            · exact ⟨rfl, rfl⟩
            · split
              · exact ⟨rfl, rfl⟩
              · exact ⟨rfl, List.length_set⟩
      | ruleNullHighSet ruleId flag =>
        show (Grammar.setNullHigh _ ruleId flag).2.symbols.length = _ ∧
          (Grammar.setNullHigh _ ruleId flag).2.rules.length = _
        unfold Grammar.setNullHigh
        split
        · exact ⟨rfl, rfl⟩
        · split
          · exact ⟨rfl, rfl⟩
          · split
            · exact ⟨rfl, rfl⟩
            · exact ⟨rfl, List.length_set⟩

theorem grammarCall_defining {call : GrammarCall} {answer : Int} (creates : call.creates = false)
    (run : grammarCall marpa call world = .ok answer world') : Defining world world' := by
  obtain ⟨symbols, rules⟩ := apply_lengths world.grammar (marpa.refuses world.events call) creates
  unfold grammarCall at run
  cases run
  refine ⟨⟨[_], rfl, List.forall_mem_singleton.mpr ?_⟩, symbols, rules, Nat.le_refl _⟩
  refine decide_eq_true fun same => ?_
  rw [same] at creates
  cases creates

/-- The options create nothing. -/
theorem applyOptions_defining {options : List OptionCall}
    (create : ∀ option ∈ options, option.call.creates = false) {applied : Bool}
    (run : applyOptions marpa options world = .ok applied world') : Defining world world' := by
  induction options generalizing world with
  | nil => cases run; exact .refl _
  | cons option rest inductionHypothesis =>
    obtain ⟨goesOn, between, ran, last⟩ := run_bind_eq_ok run
    have first : Defining world between := by
      unfold applyOption at ran
      by_cases wanted : option.wanted
      · rw [if_pos wanted] at ran
        obtain ⟨answer, state, called, ran⟩ := run_bind_eq_ok ran
        obtain ⟨error, state', asked, ran⟩ := run_bind_eq_ok ran
        cases asked
        cases ran
        exact grammarCall_defining (create option List.mem_cons_self) called
      · rw [if_neg wanted] at ran
        cases ran
        exact .refl _
    cases goesOn with
    | false => cases last; exact first
    | true =>
      exact first.trans (inductionHypothesis
        (fun other member => create other (List.mem_cons_of_mem _ member)) last)

end Defining

/-! ### Registration -/

/-- Where a registration puts the table and the object: the table stays where it is, or both lie
behind everything that there was. -/
structure Placed (table : Option (Block α)) (block object : Nat) (world world' : World V) :
    Prop where
  ofTable : table.map (·.address) = some block ∨ (world.nextAddress ≤ block ∧ block < object)
  ofObject : world.nextAddress ≤ object
  later : object < world'.nextAddress

section Registration

variable {libc : Libc V} {fuel : Nat} {build : Build} {marpa : Libmarpa V}
  {registry : Registry α} {owner size count ids : Nat} {table : Option (Block α)}
  {objects : List α} {wrapper wrapper' : Wrapper} {world world' : World V}

/-- The room for another object and the object itself are granted, because no array of expected
terminals was asked for. -/
theorem Mirror.room {result : Except (Option (Block α)) (Block α × Nat)} {between : World V}
    (mirror : Mirror registry build owner table size count ids objects)
    (grants : libc.GrantsOthers) {before : List (Event V)} {last : Event V}
    (closing : last.closing = true) (record : world.events = before ++ [last])
    (run : manageBufCreatep libc fuel build sizeModulus table size (objects.length + 1) pointerSize
      world = .ok result between) :
    ∃ block size', result = .ok (block, size') ∧ objects.length < size' ∧
      Stores build (some block) size' objects ∧ PointsWithin (cellsOf table) block.cells ∧
      Provided table size world block size' between ∧
      ∀ (bytes : Nat) {address : Option Nat} {after : World V},
        malloc libc bytes between = .ok address after → ∃ object, address = some object ∧
          after = { between with
            events := between.events ++ [.malloc bytes (some object)]
            nextAddress := between.nextAddress + 1 } ∧ object = between.nextAddress := by
  have limit := build.limit_large
  have few := mirror.few
  rcases manageBufCreatep_stored mirror.stores (by omega) run with
    ⟨-, bytes, refused⟩ | ⟨block, size', same, room, stored, provided⟩
  · exact absurd (grants _ _ refused) (by rw [record]; exact not_asksForArrays closing)
  · refine ⟨block, size', same, room, stored, manageBufCreatep_pointsWithin (same ▸ run), provided,
      fun bytes address after granted => ?_⟩
    have settled : ¬ AsksForArrays between.events := by
      cases provided with
      | same _ _ same => rw [same, record]; exact not_asksForArrays closing
      | another _ request _ same =>
        rw [same, record]
        cases request with
        | first => exact not_asksForArrays_two closing _ _
        | again slots => exact not_asksForArrays rfl
    unfold malloc at granted
    cases grant : libc.grants between.events bytes with
    | false => exact absurd (grants _ _ grant) settled
    | true =>
      rw [run_acquire_granted grant] at granted
      cases granted
      exact ⟨between.nextAddress, rfl, rfl, rfl⟩

theorem Provided.defining {size' : Nat} {block : Block α} {between : World V}
    (provided : Provided table size world block size' between) : Defining world between := by
  cases provided with
  | same _ _ same => rw [same]; exact .refl _
  | another _ request _ same =>
    rw [same]
    refine .memory (List.forall_mem_singleton.mpr ?_) (Nat.le_succ _)
    cases request <;> rfl

/-- Where the table and the object are put. -/
theorem Provided.placed {size' : Nat} {block : Block α} {between : World V}
    (provided : Provided table size world block size' between)
    (later : between.nextAddress < world'.nextAddress) :
    Placed table block.address between.nextAddress world world' := by
  cases provided with
  | same same _ same' =>
    rw [same'] at later ⊢
    exact ⟨.inl (by rw [same]; rfl), Nat.le_refl _, later⟩
  | another _ _ address same =>
    rw [same] at later ⊢
    exact ⟨.inr ⟨Nat.le_of_eq address.symm, by rw [address]; exact Nat.lt_succ_self _⟩,
      Nat.le_succ _, later⟩

/-- A symbol that libmarpa created is registered under its id, whatever comes of its options. -/
theorem marpaWrapperGAddSymbolpInternal_registers {option : Option MarpaWrapperSymbolOption}
    {pointer : Option Nat} {symbols : List MarpaWrapperSymbol}
    (mirror : Mirror symbolRegistry build wrapper.address wrapper.marpaWrapperSymbolpp
      wrapper.sizeMarpaWrapperSymboli wrapper.nMarpaWrapperSymboli ids symbols)
    (grants : libc.GrantsOthers) {before : List (Event V)} {last : Event V}
    (closing : last.closing = true) (record : world.events = before ++ [last])
    (few : symbols.length + 1 < 2 ^ 31)
    (run : marpaWrapperGAddSymbolpInternal libc fuel build marpa wrapper symbols.length option
      world = .ok (pointer, wrapper') world') :
    ∃ block size symbol, Defining world world' ∧
      wrapper' = { wrapper with
        marpaWrapperSymbolpp := some block
        sizeMarpaWrapperSymboli := size
        nMarpaWrapperSymboli := symbols.length + 1 } ∧
      Placed wrapper.marpaWrapperSymbolpp block.address symbol.address world world' ∧
      Mirror symbolRegistry build wrapper.address (some block) size (symbols.length + 1) (ids + 1)
        (symbols ++ [symbol]) := by
  have next : toSize ((symbols.length : Int) + 1) = symbols.length + 1 := by
    unfold toSize sizeModulus
    omega
  unfold marpaWrapperGAddSymbolpInternal at run
  rw [next] at run
  obtain ⟨result, between, made, rest⟩ := run_bind_eq_ok run
  obtain ⟨block, size, rfl, room, stored, within, provided, granted⟩ :=
    mirror.room grants closing record made
  obtain ⟨address, after, asked, rest⟩ := run_bind_eq_ok rest
  obtain ⟨object, rfl, rfl, rfl⟩ := granted _ asked
  obtain ⟨garbage, state, read, rest⟩ := run_bind_eq_ok rest
  cases read
  obtain ⟨table, state, wrote, rest⟩ := run_bind_eq_ok rest
  obtain ⟨applied, final, options, rest⟩ := run_bind_eq_ok rest
  cases rest
  obtain ⟨rfl, place, mirror'⟩ := mirror.push stored within room few rfl rfl wrote
  have memory : Defining between { between with
      events := between.events ++ [.malloc marpaWrapperSymbolSize (some between.nextAddress)]
      nextAddress := between.nextAddress + 1 } :=
    .memory (List.forall_mem_singleton.mpr rfl) (Nat.le_succ _)
  have defining := applyOptions_defining (fun option member => by
    simp only [symbolOptionCalls, List.mem_cons, List.not_mem_nil, or_false] at member
    rcases member with rfl | rfl | rfl | rfl | rfl <;> rfl) options
  refine ⟨table, size, _, (provided.defining.trans memory).trans defining, rfl, ?_, mirror'⟩
  rw [place]
  exact provided.placed defining.later

/-- The same for a rule. -/
theorem marpaWrapperGAddRulepInternal_registers {option : MarpaWrapperRuleOption}
    {pointer : Option Nat} {rules : List MarpaWrapperRule}
    (mirror : Mirror ruleRegistry build wrapper.address wrapper.marpaWrapperRulepp
      wrapper.sizeMarpaWrapperRulei wrapper.nMarpaWrapperRulei ids rules)
    (grants : libc.GrantsOthers) {before : List (Event V)} {last : Event V}
    (closing : last.closing = true) (record : world.events = before ++ [last])
    (few : rules.length + 1 < 2 ^ 31)
    (run : marpaWrapperGAddRulepInternal libc fuel build marpa wrapper rules.length option
      world = .ok (pointer, wrapper') world') :
    ∃ block size rule, Defining world world' ∧
      wrapper' = { wrapper with
        marpaWrapperRulepp := some block
        sizeMarpaWrapperRulei := size
        nMarpaWrapperRulei := rules.length + 1 } ∧
      Placed wrapper.marpaWrapperRulepp block.address rule.address world world' ∧
      Mirror ruleRegistry build wrapper.address (some block) size (rules.length + 1) (ids + 1)
        (rules ++ [rule]) := by
  have next : toSize ((rules.length : Int) + 1) = rules.length + 1 := by
    unfold toSize sizeModulus
    omega
  unfold marpaWrapperGAddRulepInternal at run
  rw [next] at run
  obtain ⟨result, between, made, rest⟩ := run_bind_eq_ok run
  obtain ⟨block, size, rfl, room, stored, within, provided, granted⟩ :=
    mirror.room grants closing record made
  obtain ⟨address, after, asked, rest⟩ := run_bind_eq_ok rest
  obtain ⟨object, rfl, rfl, rfl⟩ := granted _ asked
  obtain ⟨table, state, wrote, rest⟩ := run_bind_eq_ok rest
  obtain ⟨applied, final, options, rest⟩ := run_bind_eq_ok rest
  cases rest
  obtain ⟨rfl, place, mirror'⟩ := mirror.push stored within room few rfl rfl wrote
  have memory : Defining between { between with
      events := between.events ++ [.malloc marpaWrapperRuleSize (some between.nextAddress)]
      nextAddress := between.nextAddress + 1 } :=
    .memory (List.forall_mem_singleton.mpr rfl) (Nat.le_succ _)
  have defining := applyOptions_defining (fun option member => by
    simp only [ruleOptionCalls, List.mem_cons, List.not_mem_nil, or_false] at member
    rcases member with rfl | rfl <;> rfl) options
  refine ⟨table, size, _, (provided.defining.trans memory).trans defining, rfl, ?_, mirror'⟩
  rw [place]
  exact provided.placed defining.later

/-! ### Symbols and rules -/

theorem Placed.since {block object : Nat} {between : World V}
    (placed : Placed table block object between world')
    (later : world.nextAddress ≤ between.nextAddress) : Placed table block object world world' :=
  ⟨placed.ofTable.imp_right (And.imp_left (Nat.le_trans later)),
    Nat.le_trans later placed.ofObject, placed.later⟩

theorem grammarCall_record {call : GrammarCall} {answer : Int}
    (run : grammarCall marpa call world = .ok answer world') :
    world'.events = world.events ++ [.grammar call answer] ∧
      world'.nextAddress = world.nextAddress := by
  unfold grammarCall at run
  cases run
  exact ⟨rfl, rfl⟩

/-- A symbol is created under the next id, behind the others, or the call is refused. -/
theorem symbolNew_grammar {answer : Int}
    (run : grammarCall marpa .symbolNew world = .ok answer world') :
    (answer = -2 ∧ ∃ error, world'.grammar = { world.grammar with error }) ∨
      (answer = world.grammar.symbols.length ∧ world.grammar.symbols.length + 1 < 2 ^ 31 ∧
        world'.grammar = { world.grammar with symbols := world.grammar.symbols ++ [{}] }) := by
  have applied := grammarCall_return run
  unfold Grammar.apply at applied
  cases refusal : marpa.refuses world.events .symbolNew with
  | some code =>
    rw [refusal] at applied
    obtain ⟨rfl, grammar⟩ := Prod.mk.inj applied
    exact .inl ⟨rfl, _, grammar⟩
  | none =>
    rw [refusal] at applied
    have allowed : ¬ (world.grammar.precomputed &&
        !GrammarCall.symbolNew.allowedAfterPrecomputation) = true := by
      rw [show GrammarCall.symbolNew.allowedAfterPrecomputation = true from rfl, Bool.not_true,
        Bool.and_false]
      exact Bool.false_ne_true
    simp only [if_neg allowed] at applied
    change (answer, world'.grammar) = world.grammar.addSymbol at applied
    unfold Grammar.addSymbol at applied
    by_cases full : intMax ≤ world.grammar.symbols.length
    · rw [if_pos full] at applied
      obtain ⟨rfl, grammar⟩ := Prod.mk.inj applied
      exact .inl ⟨rfl, _, grammar⟩
    · rw [if_neg full] at applied
      obtain ⟨rfl, grammar⟩ := Prod.mk.inj applied
      refine .inr ⟨rfl, ?_, grammar⟩
      unfold intMax at full
      omega

theorem symbolNew_cases {answer : Int}
    (run : grammarCall marpa .symbolNew world = .ok answer world') :
    world'.grammar.rules = world.grammar.rules ∧
      ((answer = -2 ∧ world'.grammar.symbols = world.grammar.symbols) ∨
        (answer = world.grammar.symbols.length ∧ world.grammar.symbols.length + 1 < 2 ^ 31 ∧
          world'.grammar.symbols.length = world.grammar.symbols.length + 1)) := by
  rcases symbolNew_grammar run with ⟨rfl, error, same⟩ | ⟨rfl, few, created⟩
  · rw [same]
    exact ⟨rfl, .inl ⟨rfl, rfl⟩⟩
  · rw [created]
    exact ⟨rfl, .inr ⟨rfl, few, List.length_append⟩⟩

/-- The exchanges that a function has made, none of which created a symbol. -/
structure Appended (world world' : World V) : Prop where
  record : ∃ exchanges, world'.events = world.events ++ exchanges ∧
    ∀ event ∈ exchanges, event.ofDefinition = true
  symbols : world'.grammar.symbols.length = world.grammar.symbols.length
  later : world.nextAddress ≤ world'.nextAddress

theorem Defining.recorded (defining : Defining world world') : Appended world world' :=
  ⟨defining.record, defining.symbols, defining.later⟩

theorem Appended.trans {between : World V} (first : Appended world between)
    (second : Appended between world') : Appended world world' := by
  obtain ⟨before, record, kind⟩ := first.record
  obtain ⟨exchanges, appended, kind'⟩ := second.record
  exact ⟨⟨before ++ exchanges, by rw [appended, record, List.append_assoc],
    List.forall_mem_append.mpr ⟨kind, kind'⟩⟩, second.symbols.trans first.symbols,
    Nat.le_trans first.later second.later⟩

/-- `marpaWrapper_g_addSymbolp` creates nothing and leaves the wrapper as it is, or it creates a
symbol and registers it. -/
theorem marpaWrapperGAddSymbolp_cases {option : Option MarpaWrapperSymbolOption}
    {pointer : Option Nat} {symbols : List MarpaWrapperSymbol}
    (mirror : Mirror symbolRegistry build wrapper.address wrapper.marpaWrapperSymbolpp
      wrapper.sizeMarpaWrapperSymboli wrapper.nMarpaWrapperSymboli world.grammar.symbols.length
      symbols)
    (grants : libc.GrantsOthers)
    (run : marpaWrapperGAddSymbolp libc fuel build marpa wrapper option world =
      .ok (pointer, wrapper') world') :
    world'.grammar.rules.length = world.grammar.rules.length ∧
    ((wrapper' = wrapper ∧ world'.events = world.events ++ [.grammar .symbolNew (-2)] ∧
        world'.grammar.symbols.length = world.grammar.symbols.length ∧
        world'.nextAddress = world.nextAddress) ∨
      ∃ block size symbol exchanges,
        world'.events = world.events ++ .grammar .symbolNew symbols.length :: exchanges ∧
        (∀ event ∈ exchanges, event.ofDefinition = true) ∧
        world'.grammar.symbols.length = world.grammar.symbols.length + 1 ∧
        wrapper' = { wrapper with
          marpaWrapperSymbolpp := some block
          sizeMarpaWrapperSymboli := size
          nMarpaWrapperSymboli := symbols.length + 1 } ∧
        Placed wrapper.marpaWrapperSymbolpp block.address symbol.address world world' ∧
        Mirror symbolRegistry build wrapper.address (some block) size (symbols.length + 1)
          world'.grammar.symbols.length (symbols ++ [symbol])) := by
  obtain ⟨id, between, created, rest⟩ := run_bind_eq_ok run
  obtain ⟨record, place⟩ := grammarCall_record created
  obtain ⟨rules, ⟨rfl, same⟩ | ⟨rfl, few, more⟩⟩ := symbolNew_cases created
  · cases rest
    exact ⟨congrArg _ rules, .inl ⟨rfl, record, congrArg _ same, place⟩⟩
  · rw [if_neg (by omega)] at rest
    rw [mirror.given] at rest few record
    obtain ⟨block, size, symbol, defining, rfl, placed, mirror'⟩ :=
      marpaWrapperGAddSymbolpInternal_registers mirror grants rfl record few rest
    obtain ⟨exchanges, appended, kind⟩ := defining.record
    have count : world'.grammar.symbols.length = world.grammar.symbols.length + 1 :=
      defining.symbols.trans more
    refine ⟨defining.rules.trans (congrArg _ rules), .inr ⟨block, size, symbol, exchanges, ?_, kind,
      count, rfl, placed.since (Nat.le_of_eq place.symm), count ▸ mirror'⟩⟩
    rw [appended, record, List.append_assoc]
    rfl

theorem collectRhs_keeps {option : MarpaWrapperRuleOption} {start : World V} :
    Keeps (Grown (·.ofDefinition = true) start) (collectRhs libc wrapper option) := by
  refine .ite (.bind (acquire_keeps fun _ => rfl) fun address => ?_) (.pure _)
  cases address with
  | none => exact .pure _
  | some address =>
    refine .bind (.forEach (fun index ids => ?_) _ _) fun turn => ?_
    · unfold rhsTurn
      cases option.rhsSymbolpp[index]? with
      | none => exact .throw _
      | some pointer =>
        cases pointer with
        | none => exact .throw _
        | some pointer => exact .bind (readSymbol_keeps pointer) fun _ => .ite (.pure _) (.throw _)
    · cases turn with
      | next ids => exact .pure _
      | done result => exact result.elim

theorem collectRhs_recorded {option : MarpaWrapperRuleOption}
    {result : Option (Option Nat × List Int)}
    (run : collectRhs libc wrapper option world = .ok result world') : Defining world world' := by
  have grown := Grown.of_run (fun _ => collectRhs_keeps) run
  exact ⟨grown.record, by rw [grown.grammar], by rw [grown.grammar], grown.later⟩

/-- A rule is created under the next id, behind the others, or the call is refused. -/
theorem ruleCall_grammar {call : GrammarCall} {answer : Int} (creates : call.creates = true)
    (ofRule : call ≠ .symbolNew) (run : grammarCall marpa call world = .ok answer world') :
    (answer = -2 ∧ ∃ error, world'.grammar = { world.grammar with error }) ∨
      (answer = world.grammar.rules.length ∧ world.grammar.rules.length + 1 < 2 ^ 31 ∧
        ∃ rule, world'.grammar = { world.grammar with rules := world.grammar.rules ++ [rule] }) := by
  have added {rule : GrammarRule}
      (added : (answer, world'.grammar) = world.grammar.addRule rule) :
      (answer = -2 ∧ ∃ error, world'.grammar = { world.grammar with error }) ∨
        (answer = world.grammar.rules.length ∧ world.grammar.rules.length + 1 < 2 ^ 31 ∧
          ∃ rule, world'.grammar =
            { world.grammar with rules := world.grammar.rules ++ [rule] }) := by
    unfold Grammar.addRule at added
    by_cases full : intMax ≤ world.grammar.rules.length
    · rw [if_pos full] at added
      obtain ⟨rfl, grammar⟩ := Prod.mk.inj added
      exact .inl ⟨rfl, _, grammar⟩
    · rw [if_neg full] at added
      obtain ⟨rfl, grammar⟩ := Prod.mk.inj added
      refine .inr ⟨rfl, ?_, rule, grammar⟩
      unfold intMax at full
      omega
  have refused {code : Int}
      (fails : (answer, world'.grammar) = world.grammar.fails (-2) code) :
      answer = -2 ∧ ∃ error, world'.grammar = { world.grammar with error } := by
    obtain ⟨rfl, grammar⟩ := Prod.mk.inj fails
    exact ⟨rfl, _, grammar⟩
  have clear : world.grammar.clearError call = world.grammar := by
    cases call <;> first | rfl | cases creates
  have applied := grammarCall_return run
  unfold Grammar.apply at applied
  rw [clear] at applied
  cases refusal : marpa.refuses world.events call with
  | some code =>
    rw [refusal] at applied
    exact .inl (refused applied)
  | none =>
    rw [refusal] at applied
    simp only at applied
    split at applied
    · exact .inl (refused applied)
    · cases call with
      | ruleNew lhs rhs length =>
        unfold Grammar.perform at applied
        simp only at applied
        split at applied
        · exact .inl (refused applied)
        · exact added applied
      | sequenceNew lhs rhs separator minimum flags => exact added applied
      | symbolNew => exact absurd rfl ofRule
      | _ => cases creates

theorem ruleCall_cases {call : GrammarCall} {answer : Int} (creates : call.creates = true)
    (ofRule : call ≠ .symbolNew) (run : grammarCall marpa call world = .ok answer world') :
    world'.grammar.symbols = world.grammar.symbols ∧
      ((answer = -2 ∧ world'.grammar.rules = world.grammar.rules) ∨
        (answer = world.grammar.rules.length ∧ world.grammar.rules.length + 1 < 2 ^ 31 ∧
          world'.grammar.rules.length = world.grammar.rules.length + 1)) := by
  rcases ruleCall_grammar creates ofRule run with ⟨rfl, error, same⟩ | ⟨rfl, few, rule, created⟩
  · rw [same]
    exact ⟨rfl, .inl ⟨rfl, rfl⟩⟩
  · rw [created]
    exact ⟨rfl, .inr ⟨rfl, few, List.length_append⟩⟩

/-- A rule is created by one of the two constructors. -/
theorem createRule_call {option : MarpaWrapperRuleOption} {lhsSymbolp : Nat} {rhsIdp : List Int}
    {answer : Int} (run : createRule marpa wrapper option lhsSymbolp rhsIdp world =
      .ok answer world') :
    ∃ call, call.creates = true ∧ call ≠ .symbolNew ∧
      grammarCall marpa call world = .ok answer world' := by
  unfold createRule at run
  by_cases sequence : option.sequenceb
  · rw [if_pos sequence] at run
    obtain ⟨separator, between, separated, rest⟩ := run_bind_eq_ok run
    obtain ⟨rfl, -⟩ := separatorId_return separated
    obtain ⟨lhs, after, read, called⟩ := run_bind_eq_ok rest
    obtain ⟨rfl, -⟩ := readSymbol_eq_ok read
    refine ⟨_, ?_, ?_, called⟩
    · rfl
    · intro same
      cases same
  · rw [if_neg sequence] at run
    obtain ⟨lhs, after, read, rest⟩ := run_bind_eq_ok run
    obtain ⟨rfl, -⟩ := readSymbol_eq_ok read
    refine ⟨_, ?_, ?_, rest⟩
    · rfl
    · intro same
      cases same

/-- `marpaWrapper_g_addRulep` creates nothing and leaves the wrapper as it is, or it creates a rule
and registers it. -/
theorem marpaWrapperGAddRulep_cases {option : Option MarpaWrapperRuleOption} {pointer : Option Nat}
    {rules : List MarpaWrapperRule}
    (mirror : Mirror ruleRegistry build wrapper.address wrapper.marpaWrapperRulepp
      wrapper.sizeMarpaWrapperRulei wrapper.nMarpaWrapperRulei world.grammar.rules.length rules)
    (grants : libc.GrantsOthers)
    (run : marpaWrapperGAddRulep libc fuel build marpa wrapper option world =
      .ok (pointer, wrapper') world') :
    Appended world world' ∧
    ((wrapper' = wrapper ∧ world'.grammar.rules.length = world.grammar.rules.length) ∨
      ∃ block size rule,
        world'.grammar.rules.length = world.grammar.rules.length + 1 ∧
        wrapper' = { wrapper with
          marpaWrapperRulepp := some block
          sizeMarpaWrapperRulei := size
          nMarpaWrapperRulei := rules.length + 1 } ∧
        Placed wrapper.marpaWrapperRulepp block.address rule.address world world' ∧
        Mirror ruleRegistry build wrapper.address (some block) size (rules.length + 1)
          world'.grammar.rules.length (rules ++ [rule])) := by
  unfold marpaWrapperGAddRulep at run
  cases option with
  | none => cases run; exact ⟨(Defining.refl world).recorded, .inl ⟨rfl, rfl⟩⟩
  | some option =>
    simp only at run
    cases lhs : option.lhsSymbolp with
    | none => rw [lhs] at run; cases run; exact ⟨(Defining.refl world).recorded, .inl ⟨rfl, rfl⟩⟩
    | some lhsSymbolp =>
      rw [lhs] at run
      simp only at run
      by_cases acceptable : option.isAcceptable
      · rw [if_pos acceptable] at run
        obtain ⟨collected, first, collects, run⟩ := run_bind_eq_ok run
        have before := collectRhs_recorded collects
        cases collected with
        | none => cases run; exact ⟨before.recorded, .inl ⟨rfl, before.rules⟩⟩
        | some collected =>
          obtain ⟨id, second, created, run⟩ := run_bind_eq_ok run
          obtain ⟨call, creates, ofRule, called⟩ := createRule_call created
          obtain ⟨record, place⟩ := grammarCall_record called
          obtain ⟨symbols, outcome⟩ := ruleCall_cases creates ofRule called
          obtain ⟨_, third, freed, run⟩ := run_bind_eq_ok run
          obtain rfl := freeIfNotNull_return freed
          have made : Appended first second :=
            ⟨⟨_, record, List.forall_mem_singleton.mpr (decide_eq_true ofRule)⟩,
              congrArg _ symbols, Nat.le_of_eq place.symm⟩
          have free : Defining second { second with
              events := second.events ++ (collected.1.map Event.free).toList } := by
            refine .memory (fun event member => ?_) (Nat.le_refl _)
            obtain ⟨address, -, rfl⟩ := Option.map_eq_some_iff.mp (Option.mem_toList.mp member)
            rfl
          have since := (before.recorded.trans made).trans free.recorded
          obtain ⟨rfl, same⟩ | ⟨rfl, few, more⟩ := outcome
          · cases run
            exact ⟨since, .inl ⟨rfl, (congrArg _ same).trans before.rules⟩⟩
          · rw [if_neg (by omega), before.rules] at run
            rw [before.rules] at few more
            rw [mirror.given] at run few
            obtain ⟨before', last, closing, ends⟩ : ∃ before' last,
                Event.closing (V := V) last = true ∧
                second.events ++ (collected.1.map Event.free).toList = before' ++ [last] := by
              cases collected.1 with
              | none => exact ⟨first.events, .grammar call _, rfl, by
                  rw [Option.map_none, Option.toList_none, List.append_nil, record]⟩
              | some address => exact ⟨second.events, .free address, rfl, rfl⟩
            obtain ⟨block, size, rule, defining, rfl, placed, mirror'⟩ :=
              marpaWrapperGAddRulepInternal_registers mirror grants closing ends few run
            have count : world'.grammar.rules.length = world.grammar.rules.length + 1 :=
              defining.rules.trans more
            exact ⟨since.trans defining.recorded, .inr ⟨block, size, rule, count, rfl,
              placed.since since.later, count ▸ mirror'⟩⟩
      · rw [if_neg acceptable] at run
        cases run
        exact ⟨(Defining.refl world).recorded, .inl ⟨rfl, rfl⟩⟩

end Registration

end MarpaWrapper
