/-
This file follows a definition through the rest of a session. A symbol or a rule that was defined
with success is in libmarpa's grammar under the slot of the returned pointer, with the flags or
the right-hand side that its option describes. There it stays: the later calls, whether they
succeed or fail halfway, only add to the grammar and to the tables behind it.
-/

import MarpaWrapper.FailedDefinitions

namespace MarpaWrapper

open Effects

variable {V α : Type}

/-! ### Definitions that stand -/

/-- The flags that an option describes. The terminal flag is locked when it was asked for. -/
def MarpaWrapperSymbolOption.flags (option : MarpaWrapperSymbolOption) : SymbolFlags where
  terminal := option.terminalb
  lockedTerminal := option.terminalb
  completionEvent := eventSetHas option.eventSeti marpaWrapperEventtypeCompleted
  nulledEvent := eventSetHas option.eventSeti marpaWrapperEventtypeNulled
  predictionEvent := eventSetHas option.eventSeti marpaWrapperEventtypePredicted

/-- The flags of a symbol later: those that it had, or a precomputation has made it a terminal. A
flag that is locked stays what it is. -/
inductive KeepsFlags (world world' : World V) (flags : SymbolFlags) : SymbolFlags → Prop
  | same : KeepsFlags world world' flags flags
  | counted {answer : Int} (unlocked : flags.lockedTerminal = false)
      (precomputed : .precompute answer ∈ world.since world') :
      KeepsFlags world world' flags { flags with terminal := true }

/-- libmarpa has the symbol that the option describes. The pointer designates the object of its id,
and the slot of the id holds it, unless a growth of a table was granted halfway. -/
structure SymbolStands (option : MarpaWrapperSymbolOption) (pointer : Nat) (initial : World V)
    (wrapper : Wrapper) (world : World V) : Prop where
  flags : ∃ flags, world.grammar.symbols[pointer]? = some flags ∧
    KeepsFlags initial world option.flags flags
  object : ∃ symbol, lookup wrapper.marpaWrapperSymbolpp pointer = some symbol ∧
    symbol.marpaSymbolIdi = pointer ∧ symbol.marpaWrapperSymbolOption = option
  slot : Registers wrapper.marpaWrapperSymbolpp pointer ∨ GrowsHalfway initial world

/-- libmarpa has the rule that the option describes. The pointer designates the object of its id,
and the slot of the id holds it, unless a growth of a table was granted halfway. -/
structure RuleStands (option : MarpaWrapperRuleOption) (pointer : Nat) (initial : World V)
    (wrapper : Wrapper) (world : World V) : Prop where
  rule : ∃ rule, world.grammar.rules[pointer]? = some rule ∧
    wrapper.symbolId option.lhsSymbolp = some rule.lhs ∧ Describes wrapper option rule.shape ∧
    rule.rank = option.ranki ∧ rule.nullRanksHigh = option.nullRanksHighb
  object : ∃ object, lookup wrapper.marpaWrapperRulepp pointer = some object ∧
    object.marpaRuleIdi = pointer ∧ object.marpaWrapperRuleOption = option
  slot : Registers wrapper.marpaWrapperRulepp pointer ∨ GrowsHalfway initial world

/-- What a call defined, for which it returned a pointer. -/
def Stands : ApiCall V → Nat → World V → Wrapper → World V → Prop
  | .addSymbolp option, pointer, initial, wrapper, world =>
    SymbolStands (option.getD marpaWrapperSymbolOptionDefaultb) pointer initial wrapper world
  | .addRulep (some option), pointer, initial, wrapper, world =>
    RuleStands option pointer initial wrapper world
  | _, _, _, _, _ => False

/-! ### What is added to -/

/-- The objects of the tables are in the slots of their ids, which libmarpa handed out. -/
structure Numbered (wrapper : Wrapper) (world : World V) : Prop where
  sizable : SizableTables wrapper
  symbols : ∀ pointer symbol, lookup wrapper.marpaWrapperSymbolpp pointer = some symbol →
    symbol.marpaSymbolIdi = pointer ∧ pointer < world.grammar.symbols.length
  rules : ∀ pointer rule, lookup wrapper.marpaWrapperRulepp pointer = some rule →
    rule.marpaRuleIdi = pointer ∧ pointer < world.grammar.rules.length

/-- A table that can be used can be used later, unless a growth was granted halfway. -/
def Stays (table table' : Option (Block α)) (world world' : World V) : Prop :=
  Unreleased table → Unreleased table' ∨ GrowsHalfway world world'

/-- Whatever was in the grammar and in the tables is there. -/
structure AddsTo (wrapper : Wrapper) (world : World V) (wrapper' : Wrapper) (world' : World V) :
    Prop where
  record : Prolonged world world'
  symbols : ∀ (pointer : Nat) flags, world.grammar.symbols[pointer]? = some flags →
    ∃ flags', world'.grammar.symbols[pointer]? = some flags' ∧
      KeepsFlags world world' flags flags'
  rules : world.grammar.rules <+: world'.grammar.rules
  symbolTable : Stays wrapper.marpaWrapperSymbolpp wrapper'.marpaWrapperSymbolpp world world'
  ruleTable : Stays wrapper.marpaWrapperRulepp wrapper'.marpaWrapperRulepp world world'
  symbolObjects : ∀ pointer symbol, lookup wrapper.marpaWrapperSymbolpp pointer = some symbol →
    ∃ symbol', lookup wrapper'.marpaWrapperSymbolpp pointer = some symbol' ∧
      symbol'.withoutWork = symbol.withoutWork
  ruleObjects : ∀ pointer rule, lookup wrapper.marpaWrapperRulepp pointer = some rule →
    lookup wrapper'.marpaWrapperRulepp pointer = some rule

section Adding

variable {libc : Libc V} {fuel : Nat} {build : Build} {marpa : Libmarpa V}
  {wrapper wrapper' wrapper'' : Wrapper} {world world' world'' : World V}

theorem getElem?_of_extended {items more : List α} {index : Nat} {item : α}
    (extended : items <+: more) (found : items[index]? = some item) : more[index]? = some item := by
  obtain ⟨rest, rfl⟩ := extended
  rw [List.getElem?_append_left (List.getElem?_eq_some_iff.mp found).1, found]

/-- What is not written by a check is the same. -/
theorem MarpaWrapperSymbol.of_withoutWork {symbol symbol' : MarpaWrapperSymbol}
    (same : symbol'.withoutWork = symbol.withoutWork) :
    symbol'.marpaSymbolIdi = symbol.marpaSymbolIdi ∧
      symbol'.marpaWrapperSymbolOption = symbol.marpaWrapperSymbolOption := by
  have id : symbol'.withoutWork.marpaSymbolIdi = symbol.withoutWork.marpaSymbolIdi := by rw [same]
  have option : symbol'.withoutWork.marpaWrapperSymbolOption =
      symbol.withoutWork.marpaWrapperSymbolOption := by rw [same]
  exact ⟨id, option⟩

theorem KeepsFlags.trans {flags flags' flags'' : SymbolFlags}
    (keeps : KeepsFlags world world' flags flags') (first : Prolonged world world')
    (last : Prolonged world' world'')
    (more : KeepsFlags world' world'' flags' flags'') : KeepsFlags world world'' flags flags'' := by
  cases keeps with
  | same =>
    cases more with
    | same => exact .same
    | counted unlocked precomputed => exact .counted unlocked (first.since_earlier precomputed)
  | counted unlocked precomputed =>
    have counted := KeepsFlags.counted unlocked (World.since_later last precomputed)
    cases more with
    | same => exact counted
    | counted _ _ => exact counted

theorem Stays.same {table table' : Option (Block α)} (same : table' = table) :
    Stays table table' world world' :=
  fun live => .inl (same ▸ live)

theorem Stays.trans {table table' table'' : Option (Block α)}
    (stays : Stays table table' world world') (first : Prolonged world world')
    (last : Prolonged world' world'')
    (more : Stays table' table'' world' world'') : Stays table table'' world world'' := by
  intro live
  rcases stays live with live' | halfway
  · exact (more live').imp_right fun halfway => halfway.earlier first
  · exact .inr (halfway.later last)

/-- What is registered in a table that stays is registered later. -/
theorem Stays.registers {initial : World V} {table table' : Option (Block α)} {pointer : Nat}
    {object : α} (stays : Stays table table' world world')
    (found : lookup table' pointer = some object) (first : Prolonged initial world)
    (last : Prolonged world world')
    (slot : Registers table pointer ∨ GrowsHalfway initial world) :
    Registers table' pointer ∨ GrowsHalfway initial world' := by
  rcases slot with ⟨nonNegative, block, -, rfl, live, -⟩ | halfway
  · have usable : Unreleased (some block) := fun other same => Option.some.inj same ▸ live
    exact (stays usable).imp (fun live => registers_of_lookup live nonNegative found)
      fun halfway => halfway.earlier first
  · exact .inr (halfway.later last)

theorem AddsTo.refl (wrapper : Wrapper) (world : World V) : AddsTo wrapper world wrapper world :=
  ⟨List.prefix_rfl, fun _ flags found => ⟨flags, found, .same⟩, List.prefix_rfl, .same rfl,
    .same rfl, fun _ symbol found => ⟨symbol, found, rfl⟩, fun _ _ found => found⟩

theorem AddsTo.trans (first : AddsTo wrapper world wrapper' world')
    (second : AddsTo wrapper' world' wrapper'' world'') :
    AddsTo wrapper world wrapper'' world'' := by
  refine ⟨first.record.trans second.record, fun pointer flags found => ?_,
    first.rules.trans second.rules, first.symbolTable.trans first.record second.record
      second.symbolTable, first.ruleTable.trans first.record second.record second.ruleTable,
    fun pointer symbol found => ?_, fun pointer rule found =>
      second.ruleObjects pointer rule (first.ruleObjects pointer rule found)⟩
  · obtain ⟨flags', found', keeps⟩ := first.symbols pointer flags found
    obtain ⟨flags'', found'', keeps'⟩ := second.symbols pointer flags' found'
    exact ⟨flags'', found'', keeps.trans first.record second.record keeps'⟩
  obtain ⟨symbol', found', same⟩ := first.symbolObjects pointer symbol found
  obtain ⟨symbol'', found'', same'⟩ := second.symbolObjects pointer symbol' found'
  exact ⟨symbol'', found'', same'.trans same⟩

/-- A symbol that a pointer designates has the id that it had. -/
theorem AddsTo.symbolId (adds : AddsTo wrapper world wrapper' world') {pointer : Option Nat}
    {id : Int} (designates : wrapper.symbolId pointer = some id) :
    wrapper'.symbolId pointer = some id := by
  obtain ⟨symbolp, rfl, found⟩ := Option.bind_eq_some_iff.mp designates
  obtain ⟨symbol, there, rfl⟩ := Option.map_eq_some_iff.mp found
  obtain ⟨symbol', found', same⟩ := adds.symbolObjects symbolp symbol there
  show (lookup wrapper'.marpaWrapperSymbolpp symbolp).map _ = _
  rw [found', Option.map_some, (MarpaWrapperSymbol.of_withoutWork same).1]

theorem AddsTo.symbolIds (adds : AddsTo wrapper world wrapper' world')
    {pointers : List (Option Nat)} {ids : List Int}
    (designate : ids.map some = pointers.map wrapper.symbolId) :
    ids.map some = pointers.map wrapper'.symbolId := by
  rw [designate]
  refine List.map_congr_left fun pointer member => ?_
  have found : wrapper.symbolId pointer ∈ ids.map some :=
    designate ▸ List.mem_map_of_mem member
  obtain ⟨id, -, same⟩ := List.mem_map.mp found
  rw [← same, adds.symbolId same.symm]

theorem AddsTo.describes (adds : AddsTo wrapper world wrapper' world')
    {option : MarpaWrapperRuleOption} {shape : RuleShape}
    (describes : Describes wrapper option shape) : Describes wrapper' option shape := by
  cases shape with
  | bnf rhs length =>
    obtain ⟨plain, same, count, ids⟩ := describes
    exact ⟨plain, same, count, adds.symbolIds ids⟩
  | sequence rhs separator minimum flags =>
    obtain ⟨sequence, first, separates, rest⟩ := describes
    refine ⟨sequence, ?_, ?_, rest⟩
    · obtain ⟨pointer, there, designates⟩ := Option.bind_eq_some_iff.mp first
      exact Option.bind_eq_some_iff.mpr ⟨pointer, there, adds.symbolId designates⟩
    · cases given : option.separatorSymbolp with
      | none =>
        rw [given] at separates
        exact separates
      | some symbolp =>
        rw [given] at separates
        exact adds.symbolId separates

/-- A definition stands when something is added to it. -/
theorem Stands.later {initial : World V} {call : ApiCall V} {pointer : Nat}
    (stands : Stands call pointer initial wrapper world) (first : Prolonged initial world)
    (adds : AddsTo wrapper world wrapper' world') :
    Stands call pointer initial wrapper' world' := by
  cases call with
  | addSymbolp option =>
    obtain ⟨⟨flags, there, keeps⟩, ⟨symbol, found, id, described⟩, slot⟩ := stands
    obtain ⟨flags', there', keeps'⟩ := adds.symbols pointer flags there
    obtain ⟨symbol', found', same⟩ := adds.symbolObjects pointer symbol found
    obtain ⟨sameId, sameOption⟩ := MarpaWrapperSymbol.of_withoutWork same
    exact ⟨⟨flags', there', keeps.trans first adds.record keeps'⟩,
      ⟨symbol', found', sameId.trans id, sameOption.trans described⟩,
      adds.symbolTable.registers found' first adds.record slot⟩
  | addRulep option =>
    cases option with
    | none => exact stands.elim
    | some option =>
      obtain ⟨⟨rule, there, lhs, describes, options⟩, ⟨object, found, registered⟩, slot⟩ := stands
      have found' := adds.ruleObjects pointer object found
      exact ⟨⟨rule, getElem?_of_extended adds.rules there, adds.symbolId lhs,
        adds.describes describes, options⟩, ⟨object, found', registered⟩,
        adds.ruleTable.registers found' first adds.record slot⟩
  | _ => exact stands.elim

theorem Starts.prolonged {old handle : Option Nat} (starts : Starts old handle world world') :
    Prolonged world world' := by
  obtain ⟨freed, started, -, -, record⟩ := starts.record
  exact ⟨_, record.symm⟩

/-- What writes to neither table keeps them. -/
theorem Numbered.frame (numbered : Numbered wrapper world) (record : Prolonged world world')
    (symbolTable : wrapper'.marpaWrapperSymbolpp = wrapper.marpaWrapperSymbolpp)
    (ruleTable : wrapper'.marpaWrapperRulepp = wrapper.marpaWrapperRulepp)
    (symbolSize : wrapper'.sizeMarpaWrapperSymboli = wrapper.sizeMarpaWrapperSymboli)
    (ruleSize : wrapper'.sizeMarpaWrapperRulei = wrapper.sizeMarpaWrapperRulei)
    (symbols : world'.grammar.symbols = world.grammar.symbols)
    (rules : world'.grammar.rules = world.grammar.rules) :
    Numbered wrapper' world' ∧ AddsTo wrapper world wrapper' world' := by
  refine ⟨⟨⟨?_, ?_⟩, ?_, ?_⟩, ⟨record, ?_, ?_, .same symbolTable, .same ruleTable, ?_, ?_⟩⟩
  · rw [symbolTable, symbolSize]
    exact numbered.sizable.symbols
  · rw [ruleTable, ruleSize]
    exact numbered.sizable.rules
  · rw [symbolTable, symbols]
    exact numbered.symbols
  · rw [ruleTable, rules]
    exact numbered.rules
  · rw [symbols]
    exact fun _ flags found => ⟨flags, found, .same⟩
  · rw [rules]
  · rw [symbolTable]
    exact fun _ symbol found => ⟨symbol, found, rfl⟩
  · rw [ruleTable]
    exact fun _ _ found => found

/-- A precomputation makes terminals of symbols that nobody asked it of. -/
theorem Numbered.precomputes (numbered : Numbered wrapper world)
    (censused : Censused world world') :
    Numbered wrapper world' ∧ AddsTo wrapper world wrapper world' := by
  obtain ⟨answer, record⟩ := censused.record
  have prolonged : Prolonged world world' := ⟨_, record.symm⟩
  refine ⟨⟨numbered.sizable, censused.length ▸ numbered.symbols, censused.rules ▸ numbered.rules⟩,
    ⟨prolonged, fun pointer flags found => ?_, by rw [censused.rules], .same rfl, .same rfl,
      fun _ symbol found => ⟨symbol, found, rfl⟩, fun _ _ found => found⟩⟩
  rcases censused.symbols with same | same
  · exact ⟨flags, by rw [same, found], .same⟩
  · refine ⟨_, by rw [same, List.getElem?_mapIdx, found]; rfl, ?_⟩
    unfold Grammar.censusFlags
    split
    · exact .same
    · rename_i free
      rw [Bool.or_eq_true, not_or, Bool.not_eq_true] at free
      exact .counted free.1 (Prolonged.since_last List.prefix_rfl record)

theorem LeavesObject.stays {table table' : Option (Block α)} {count count' id : Nat}
    {registered : α → Prop}
    (leaves : LeavesObject table table' count count' id registered world world') :
    Stays table table' world world' := by
  intro live
  cases leaves with
  | unregistered _ stays _ => exact .inl (stays live)
  | released _ _ _ halfway _ => exact .inr halfway
  | registered _ _ _ live' _ => exact .inl live'

/-- A table that has an object of the id can be used. -/
theorem LeavesObject.live {table table' : Option (Block α)} {count count' id : Nat}
    {registered : α → Prop} {object : α}
    (leaves : LeavesObject table table' count count' id registered world world')
    (none : ∀ object, lookup table id ≠ some object) (found : lookup table' id = some object) :
    Unreleased table' := by
  cases leaves with
  | unregistered same _ _ => exact absurd ((same id).symm.trans found) (none object)
  | released same _ _ _ _ => exact absurd ((same id).symm.trans found) (none object)
  | registered _ _ _ live _ => exact live

/-- An object behind those of the ids that were handed out. -/
theorem LeavesObject.adds {table table' : Option (Block α)} {count count' id : Nat}
    {registered : α → Prop} {idOf : α → Int}
    (leaves : LeavesObject table table' count count' id registered world world')
    (ofId : ∀ object, registered object → idOf object = id)
    (numbered : ∀ pointer object, lookup table pointer = some object →
      idOf object = pointer ∧ pointer < id) :
    (∀ pointer object, lookup table pointer = some object →
      lookup table' pointer = some object) ∧
    ∀ pointer object, lookup table' pointer = some object →
      idOf object = pointer ∧ pointer < id + 1 := by
  have unchanged (same : ∀ pointer, lookup table' pointer = lookup table pointer) :
      (∀ pointer object, lookup table pointer = some object →
        lookup table' pointer = some object) ∧
      ∀ pointer object, lookup table' pointer = some object →
        idOf object = pointer ∧ pointer < id + 1 := by
    refine ⟨fun pointer object found => (same pointer).trans found, fun pointer object found => ?_⟩
    obtain ⟨number, below⟩ := numbered pointer object ((same pointer).symm.trans found)
    exact ⟨number, Nat.lt_succ_of_lt below⟩
  cases leaves with
  | unregistered same _ _ => exact unchanged same
  | released same _ _ _ _ => exact unchanged same
  | registered given found others _ _ =>
    refine ⟨fun pointer object found' => ?_, fun pointer object found' => ?_⟩
    · exact (others pointer (Nat.ne_of_lt (numbered pointer object found').2)).trans found'
    · by_cases last : pointer = id
      · subst last
        rw [found] at found'
        cases found'
        exact ⟨ofId _ given, Nat.lt_succ_self _⟩
      · obtain ⟨number, below⟩ := numbered pointer object ((others pointer last).symm.trans found')
        exact ⟨number, Nat.lt_succ_of_lt below⟩

theorem Numbered.addsSymbol {option : Option MarpaWrapperSymbolOption} {pointer : Option Nat}
    (numbered : Numbered wrapper world)
    (run : marpaWrapperGAddSymbolp libc fuel build marpa wrapper option world =
      .ok (pointer, wrapper') world') :
    Numbered wrapper' world' ∧ AddsTo wrapper world wrapper' world' := by
  have record := Triple.ok (marpaWrapperGAddSymbolp_prolongs option) List.prefix_rfl run
  obtain ⟨sizable, untouched | leaves⟩ := marpaWrapperGAddSymbolp_leaves numbered.sizable run
  · obtain rfl := untouched.tables
    exact numbered.frame record rfl rfl rfl rfl untouched.symbols untouched.rules
  · obtain ⟨flags, symbols⟩ := leaves.created.symbols
    obtain ⟨kept, numbers⟩ := leaves.leaves.adds (fun _ registered => registered.1)
      numbered.symbols
    obtain ⟨_, _, _, same⟩ := leaves.others
    have ruleTable : wrapper'.marpaWrapperRulepp = wrapper.marpaWrapperRulepp := by rw [same]
    refine ⟨⟨sizable, ?_, ?_⟩, ⟨record, fun pointer flags found => ⟨flags, ?_, .same⟩, ?_,
      leaves.leaves.stays, .same ruleTable, fun pointer symbol found =>
        ⟨symbol, kept pointer symbol found, rfl⟩, ?_⟩⟩
    · rw [symbols, List.length_append, List.length_singleton]
      exact numbers
    · rw [ruleTable, leaves.created.rules]
      exact numbered.rules
    · rw [symbols]
      exact getElem?_of_extended (List.prefix_append _ _) found
    · rw [leaves.created.rules]
    · rw [ruleTable]
      exact fun _ _ found => found

theorem Numbered.addsRule {option : Option MarpaWrapperRuleOption} {pointer : Option Nat}
    (numbered : Numbered wrapper world)
    (run : marpaWrapperGAddRulep libc fuel build marpa wrapper option world =
      .ok (pointer, wrapper') world') :
    Numbered wrapper' world' ∧ AddsTo wrapper world wrapper' world' := by
  have record := Triple.ok (marpaWrapperGAddRulep_prolongs option) List.prefix_rfl run
  obtain ⟨sizable, untouched | ⟨given, -, leaves⟩⟩ :=
    marpaWrapperGAddRulep_leaves numbered.sizable run
  · obtain rfl := untouched.tables
    exact numbered.frame record rfl rfl rfl rfl untouched.symbols untouched.rules
  · obtain ⟨rule, rules⟩ := leaves.created.rules
    obtain ⟨kept, numbers⟩ := leaves.leaves.adds (fun _ registered => registered.1)
      numbered.rules
    obtain ⟨_, _, _, same⟩ := leaves.others
    have symbolTable : wrapper'.marpaWrapperSymbolpp = wrapper.marpaWrapperSymbolpp := by rw [same]
    refine ⟨⟨sizable, ?_, ?_⟩, ⟨record, ?_, ⟨_, rules.symm⟩, .same symbolTable,
      leaves.leaves.stays, ?_, kept⟩⟩
    · rw [symbolTable, leaves.created.symbols]
      exact numbered.symbols
    · rw [rules, List.length_append, List.length_singleton]
      exact numbers
    · rw [leaves.created.symbols]
      exact fun _ flags found => ⟨flags, found, .same⟩
    · rw [symbolTable]
      exact fun _ symbol found => ⟨symbol, found, rfl⟩

/-- A check writes to the work fields of a symbol. -/
theorem Numbered.checks (numbered : Numbered wrapper world) {pointer : Nat}
    {symbol result : MarpaWrapperSymbol}
    (found : lookup wrapper.marpaWrapperSymbolpp pointer = some symbol)
    (same : result.withoutWork = symbol.withoutWork) :
    Numbered (wrapper.withSymbol pointer result) world ∧
      AddsTo wrapper world (wrapper.withSymbol pointer result) world := by
  have here := lookup_withSymbol_self found result
  have number := (MarpaWrapperSymbol.of_withoutWork same).1
  refine ⟨⟨numbered.sizable.checks found result, fun other object found' => ?_, numbered.rules⟩,
    ⟨List.prefix_rfl, fun _ flags found => ⟨flags, found, .same⟩, List.prefix_rfl,
      fun live => .inl (withSymbol_live live _ _), .same rfl, fun other object found' => ?_,
      fun _ _ found => found⟩⟩
  · by_cases written : other = pointer
    · subst written
      rw [here] at found'
      cases found'
      rw [number]
      exact numbered.symbols other symbol found
    · rw [lookup_withSymbol_ne written] at found'
      exact numbered.symbols other object found'
  · by_cases written : other = pointer
    · subst written
      rw [found] at found'
      cases found'
      exact ⟨result, here, same⟩
    · exact ⟨object, (lookup_withSymbol_ne written result).trans found', rfl⟩

/-- What a step adds to what was added before. -/
theorem addsTo_after {origin : Wrapper} {start : World V}
    (holds : Numbered wrapper world ∧ AddsTo origin start wrapper world)
    (step : Numbered wrapper world →
      Numbered wrapper' world' ∧ AddsTo wrapper world wrapper' world') :
    Numbered wrapper' world' ∧ AddsTo origin start wrapper' world' :=
  ⟨(step holds.1).1, holds.2.trans (step holds.1).2⟩

/-- Everything that a wrapper does adds to what there was at some time. -/
theorem addsTo_kept (origin : Wrapper) (start : World V) :
    Kept libc fuel build marpa fun wrapper world =>
      Numbered wrapper world ∧ AddsTo origin start wrapper world where
  aside holds continued := addsTo_after holds fun numbered =>
    numbered.frame continued.prolonged rfl rfl rfl rfl continued.symbols continued.rules
  precomputes holds censused := addsTo_after holds fun numbered => numbered.precomputes censused
  adds holds run := addsTo_after holds fun numbered => numbered.addsSymbol run
  rules holds run := addsTo_after holds fun numbered => numbered.addsRule run
  starts holds run := by
    obtain ⟨_, -, starts⟩ := startRecognizer_return run
    obtain ⟨_, _, _, rfl⟩ := startRecognizer_frame run
    exact addsTo_after holds fun numbered =>
      numbered.frame starts.prolonged rfl rfl rfl rfl starts.symbols starts.rules
  expects holds run := by
    have continued := Continued.of_run (fun _ => marpaWrapperRTerminalsExpectedb_continued) run
    obtain ⟨_, _, rfl⟩ := marpaWrapperRTerminalsExpectedb_frame run
    exact addsTo_after holds fun numbered =>
      numbered.frame continued.prolonged rfl rfl rfl rfl continued.symbols continued.rules
  progresses holds run := by
    have continued := Continued.of_run (fun _ => marpaWrapperRProgressb_continued _ _) run
    obtain ⟨_, _, _, rfl⟩ := marpaWrapperRProgressb_frame run
    exact addsTo_after holds fun numbered =>
      numbered.frame continued.prolonged rfl rfl rfl rfl continued.symbols continued.rules
  orders holds run := by
    have continued : Continued (fun _ => True) _ _ :=
      .of_run (fun _ => orderTerminals_continued _ _) run
    obtain ⟨_, _, rfl⟩ := orderTerminals_frame run
    exact addsTo_after holds fun numbered =>
      numbered.frame continued.prolonged rfl rfl rfl rfl continued.symbols continued.rules
  checks holds found same := addsTo_after holds fun numbered => numbered.checks found same

/-- Every call that returns adds to what there was before it. -/
theorem Numbered.call {call : ApiCall V} {answer : ApiAnswer} (numbered : Numbered wrapper world)
    (run : call.run libc fuel build marpa wrapper world = .ok (answer, wrapper') world') :
    Numbered wrapper' world' ∧ AddsTo wrapper world wrapper' world' :=
  (addsTo_kept wrapper world).call ⟨numbered, .refl wrapper world⟩ run

/-- So does every sequence of calls. -/
theorem Numbered.calls {calls : List (ApiCall V)} {answers : List ApiAnswer}
    (numbered : Numbered wrapper world)
    (run : runCalls (ApiCall.run libc fuel build marpa) calls wrapper world =
      .ok (answers, wrapper') world') :
    Numbered wrapper' world' ∧ AddsTo wrapper world wrapper' world' :=
  runCalls_keeps (fun machine state => Numbered machine state ∧ AddsTo wrapper world machine state)
    (fun _ _ _ _ _ _ before run => (addsTo_kept wrapper world).call before run)
    ⟨numbered, .refl wrapper world⟩ run

end Adding

/-! ### A definition that succeeds -/

section Success

variable {libc : Libc V} {fuel : Nat} {build : Build} {marpa : Libmarpa V}
  {wrapper wrapper' : Wrapper} {world world' : World V}

end Success

/-! ### The whole session -/

section Session

variable {libc : Libc V} {fuel : Nat} {build : Build} {marpa : Libmarpa V}
  {wrapper wrapper' : Wrapper} {initial world world' : World V}

end Session

end MarpaWrapper
