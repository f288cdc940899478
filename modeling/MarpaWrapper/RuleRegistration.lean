/-
This file is about what `marpaWrapper_g_addRulep` registers. libmarpa takes the
length of a rule as an `int`, and the wrapper hands it a `size_t`: what is recorded
is the description of the rule exactly when the number of right-hand side symbols is
an `int`. A sequence has one symbol, and its separator, its minimum and its flag are
handed over as they are; the rank and the flag for null ranks are set behind the
creation, and only when they differ from what libmarpa begins with.
-/

import MarpaWrapper.ApiExchanges
import MarpaWrapper.ExpectedTerminals
import MarpaWrapper.ProgressTable

namespace MarpaWrapper

open Effects

variable {V : Type} {libc : Libc V} {fuel : Nat} {build : Build} {marpa : Libmarpa V}
  {wrapper wrapper' : Wrapper} {world world' : World V} {option : MarpaWrapperRuleOption}

/-! ### The rule that is described -/

/-- The id of the symbol that a pointer designates. -/
def Wrapper.symbolId (wrapper : Wrapper) (pointer : Option Nat) : Option Int :=
  pointer.bind fun symbolp => (lookup wrapper.marpaWrapperSymbolpp symbolp).map (·.marpaSymbolIdi)

/-- The id of a separator, or `-1`. -/
def Separates (wrapper : Wrapper) (separatorSymbolp : Option Nat) (separator : Int) : Prop :=
  match separatorSymbolp with
  | none => separator = -1
  | some symbolp => wrapper.symbolId (some symbolp) = some separator

/-- The right-hand side that is described: for a plain rule the ids of all its symbols, in order;
for a sequence the id of its symbol, the id of the separator or `-1`, the minimum, and the flag
for proper separation. -/
def Describes (wrapper : Wrapper) (option : MarpaWrapperRuleOption) : RuleShape → Prop
  | .bnf rhs length => option.sequenceb = false ∧ length = option.nRhsSymboli ∧
    rhs.length = option.nRhsSymboli ∧
    rhs.map some = (option.rhsSymbolpp.take option.nRhsSymboli).map wrapper.symbolId
  | .sequence rhs separator minimum flags => option.sequenceb = true ∧
    option.rhsSymbolpp[0]?.bind wrapper.symbolId = some rhs ∧
    Separates wrapper option.separatorSymbolp separator ∧
    minimum = option.minimumi ∧ (minimum = 0 ∨ minimum = 1) ∧
    flags = if option.properb then marpaProperSeparation else 0

/-- libmarpa's grammar gained one rule, the one that is described, under the id that is stored in
the object behind the returned pointer. -/
def RegistersRule (wrapper : Wrapper) (world : World V) (option : MarpaWrapperRuleOption)
    (pointer : Nat) (wrapper' : Wrapper) (world' : World V) : Prop :=
  ∃ rule object, world'.grammar.rules = world.grammar.rules ++ [rule] ∧
    lookup wrapper'.marpaWrapperRulepp pointer = some object ∧
    object.marpaRuleIdi = world.grammar.rules.length ∧
    object.marpaWrapperRuleOption = option ∧
    wrapper.symbolId option.lhsSymbolp = some rule.lhs ∧ Describes wrapper option rule.shape ∧
    rule.rank = option.ranki ∧ rule.nullRanksHigh = option.nullRanksHighb

/-- A refusal of libmarpa's own sets an error code. -/
def Libmarpa.SetsErrors (marpa : Libmarpa V) : Prop :=
  ∀ events call code, marpa.refuses events call = some code → code ≠ marpaErrNone

/-! ### Ids -/

theorem symbolId_of_lookup {symbolp : Nat} {symbol : MarpaWrapperSymbol}
    (found : lookup wrapper.marpaWrapperSymbolpp symbolp = some symbol) :
    wrapper.symbolId (some symbolp) = some symbol.marpaSymbolIdi := by
  rw [Wrapper.symbolId, Option.bind_some, found]
  rfl

/-- The ids of the first right-hand side symbols, in order. -/
def CollectedIds (wrapper : Wrapper) (option : MarpaWrapperRuleOption) (start : World V)
    (index : Nat) (ids : List Int) (world : World V) : Prop :=
  world.grammar = start.grammar ∧ ids.length = index ∧
    ids.map some = (option.rhsSymbolpp.take index).map wrapper.symbolId

theorem rhsTurn_return {start : World V} {capacity index : Nat} {ids : List Int}
    {outcome : Turn (List Int) Empty} (collected : CollectedIds wrapper option start index ids world)
    (run : rhsTurn wrapper option.rhsSymbolpp capacity index ids world = .ok outcome world') :
    AfterTurn (CollectedIds wrapper option start (index + 1)) (fun _ _ => False) outcome world' := by
  obtain ⟨kept, length, same⟩ := collected
  unfold rhsTurn at run
  cases pointed : option.rhsSymbolpp[index]? with
  | none => rw [pointed] at run; cases run
  | some pointer =>
    cases pointer with
    | none => rw [pointed] at run; cases run
    | some symbolp =>
      rw [pointed] at run
      simp only at run
      obtain ⟨symbol, after, read, rest⟩ := run_bind_eq_ok run
      obtain ⟨rfl, found⟩ := readSymbol_eq_ok read
      by_cases inside : index < capacity
      · rw [if_pos inside] at rest
        cases rest
        refine ⟨kept, by rw [List.length_append, length]; rfl, ?_⟩
        rw [List.take_add_one, pointed, List.map_append, List.map_append, same]
        simp only [Option.toList_some, List.map_cons, List.map_nil, symbolId_of_lookup found]
      · rw [if_neg inside] at rest
        cases rest

/-- The ids that are collected are those of the right-hand side, in order. -/
theorem collectRhs_return {address : Option Nat} {rhsIdp : List Int}
    (run : collectRhs libc wrapper option world = .ok (some (address, rhsIdp)) world') :
    world'.grammar = world.grammar ∧ rhsIdp.length = option.nRhsSymboli ∧
      rhsIdp.map some = (option.rhsSymbolpp.take option.nRhsSymboli).map wrapper.symbolId := by
  unfold collectRhs at run
  by_cases some' : option.nRhsSymboli > 0
  · rw [if_pos some'] at run
    obtain ⟨granted, between, asked, run⟩ := run_bind_eq_ok run
    have grammar : between.grammar = world.grammar := by
      have kept : Grown (fun _ => True) world between :=
        Grown.of_run (fun _ => acquire_keeps fun _ => trivial) asked
      exact kept.grammar
    cases granted with
    | none => cases run
    | some block =>
      obtain ⟨outcome, final, filled, run⟩ := run_bind_eq_ok run
      have collected : AfterTurn (CollectedIds wrapper option world option.nRhsSymboli)
          (fun _ _ => False) outcome final :=
        forEach_range_return (CollectedIds wrapper option world)
          (fun _ _ _ _ _ _ collected turn => rhsTurn_return collected turn)
          ⟨grammar, rfl, rfl⟩ filled
      cases outcome with
      | next ids => cases run; exact collected
      | done result => exact result.elim
  · rw [if_neg some'] at run
    cases run
    have none' : option.nRhsSymboli = 0 := Nat.eq_zero_of_not_pos some'
    rw [none']
    exact ⟨rfl, rfl, rfl⟩

/-! ### The creation -/

theorem grammarCall_run (marpa : Libmarpa V) (call : GrammarCall) (world : World V) :
    ∃ answer world', grammarCall marpa call world = .ok answer world' := ⟨_, _, rfl⟩

theorem grammarCall_return {call : GrammarCall} {answer : Int}
    (run : grammarCall marpa call world = .ok answer world') :
    (answer, world'.grammar) = world.grammar.apply (marpa.refuses world.events call) call := by
  unfold grammarCall at run
  cases run
  rfl

/-- A rule that libmarpa creates comes behind the others. -/
theorem addRule_return {grammar grammar' : Grammar} {rule : GrammarRule} {answer : Int}
    (added : (answer, grammar') = grammar.addRule rule) (accepted : answer ≠ -2) :
    answer = grammar.rules.length ∧ grammar'.rules = grammar.rules ++ [rule] := by
  unfold Grammar.addRule at added
  by_cases full : intMax ≤ grammar.rules.length
  · rw [if_pos full] at added
    cases added
    exact absurd rfl accepted
  · rw [if_neg full] at added
    cases added
    exact ⟨rfl, rfl⟩

/-- A call that creates a rule and is not refused does what it does to a grammar. -/
theorem apply_return {grammar grammar' : Grammar} {refusal : Option Int} {call : GrammarCall}
    {answer : Int} (applied : (answer, grammar') = grammar.apply refusal call)
    (accepted : answer ≠ -2) : (answer, grammar') = (grammar.clearError call).perform call := by
  unfold Grammar.apply at applied
  cases refusal with
  | some code => cases applied; exact absurd rfl accepted
  | none =>
    simp only at applied
    split at applied
    · cases applied
      exact absurd rfl accepted
    · exact applied

/-- What `createRule` asks libmarpa to record. -/
def requestedShape (option : MarpaWrapperRuleOption) (separator : Int) (rhsIdp : List Int) :
    RuleShape :=
  if option.sequenceb then
    .sequence (rhsIdp.headD 0) separator option.minimumi
      (if option.properb then marpaProperSeparation else 0)
  else .bnf (rhsIdp.take (toInt option.nRhsSymboli).toNat) (toInt option.nRhsSymboli)

theorem separatorId_return {separatorSymbolp : Option Nat} {separator : Int}
    (run : separatorId wrapper separatorSymbolp world = .ok separator world') :
    world' = world ∧ Separates wrapper separatorSymbolp separator := by
  cases separatorSymbolp with
  | none => cases run; exact ⟨rfl, rfl⟩
  | some symbolp =>
    obtain ⟨symbol, between, read, rest⟩ := run_bind_eq_ok run
    obtain ⟨rfl, found⟩ := readSymbol_eq_ok read
    cases rest
    exact ⟨rfl, symbolId_of_lookup found⟩

/-- The rule that is created has the requested shape and libmarpa's defaults. -/
theorem createRule_return {lhsSymbolp : Nat} {rhsIdp : List Int} {marpaRuleIdi : Int}
    (run : createRule marpa wrapper option lhsSymbolp rhsIdp world = .ok marpaRuleIdi world')
    (accepted : marpaRuleIdi ≠ -2) :
    ∃ lhs separator, marpaRuleIdi = world.grammar.rules.length ∧
      world'.grammar.rules = world.grammar.rules ++
        [{ lhs, shape := requestedShape option separator rhsIdp }] ∧
      wrapper.symbolId (some lhsSymbolp) = some lhs ∧
      (option.sequenceb = true → Separates wrapper option.separatorSymbolp separator) := by
  unfold createRule at run
  by_cases sequence : option.sequenceb = true
  · rw [if_pos sequence] at run
    obtain ⟨separator, between, separated, rest⟩ := run_bind_eq_ok run
    obtain ⟨rfl, separates⟩ := separatorId_return separated
    obtain ⟨lhs, after, read, called⟩ := run_bind_eq_ok rest
    obtain ⟨rfl, found⟩ := readSymbol_eq_ok read
    obtain ⟨same, rules⟩ :=
      addRule_return (apply_return (grammarCall_return called) accepted) accepted
    refine ⟨lhs.marpaSymbolIdi, separator, same, ?_, symbolId_of_lookup found, fun _ => separates⟩
    rw [rules, requestedShape, if_pos sequence]
    rfl
  · rw [if_neg sequence] at run
    obtain ⟨lhs, after, read, rest⟩ := run_bind_eq_ok run
    obtain ⟨rfl, found⟩ := readSymbol_eq_ok read
    have performed := apply_return (grammarCall_return rest) accepted
    unfold Grammar.perform at performed
    simp only at performed
    split at performed
    · exact absurd (congrArg Prod.fst performed) accepted
    · obtain ⟨same, rules⟩ := addRule_return performed accepted
      refine ⟨lhs.marpaSymbolIdi, -1, same, ?_, symbolId_of_lookup found,
        fun wanted => absurd wanted sequence⟩
      rw [rules, requestedShape, if_neg sequence]
      rfl

/-! ### The options -/

/-- An option that is applied without a failure: it was not set, or its call did not fail. -/
theorem applyOption_return {call : OptionCall}
    (run : applyOption marpa call world = .ok true world') :
    (call.wanted = false ∧ world' = world) ∨
      (call.wanted = true ∧ ∃ answer, call.failed answer world'.grammar.error = false ∧
        (answer, world'.grammar) =
          world.grammar.apply (marpa.refuses world.events call.call) call.call) := by
  unfold applyOption at run
  by_cases wanted : call.wanted = true
  · rw [if_pos wanted] at run
    obtain ⟨answer, between, called, rest⟩ := run_bind_eq_ok run
    obtain ⟨error, after, asked, rest⟩ := run_bind_eq_ok rest
    cases asked
    injection rest with value same
    subst same
    refine .inr ⟨wanted, answer, ?_, grammarCall_return called⟩
    rwa [Bool.not_eq_true'] at value
  · rw [if_neg wanted] at run
    cases run
    exact .inl ⟨eq_false_of_ne_true wanted, rfl⟩

/-- A call that was not refused does what it does to a grammar. -/
theorem apply_perform {grammar grammar' : Grammar} {refusal : Option Int} {call : GrammarCall}
    {answer : Int} (applied : (answer, grammar') = grammar.apply refusal call)
    (performed : (answer, grammar') = (grammar.clearError call).perform call → False) :
    answer = -2 ∧ (grammar'.error = marpaErrPrecomputed ∨ refusal = some grammar'.error) := by
  unfold Grammar.apply at applied
  cases refusal with
  | some code => cases applied; exact ⟨rfl, .inr rfl⟩
  | none =>
    simp only at applied
    split at applied
    · cases applied
      exact ⟨rfl, .inl rfl⟩
    · exact absurd applied performed

/-- The rule behind the others. -/
theorem set_last {α : Type} (items : List α) (item other : α) :
    (items ++ [item]).set items.length other = items ++ [other] := by
  rw [List.set_append_right _ _ (Nat.le_refl _), Nat.sub_self]
  rfl

theorem getElem?_last {α : Type} (items : List α) (item : α) :
    (items ++ [item])[((items.length : Int)).toNat]? = some item := by
  rw [Int.toNat_natCast, List.getElem?_append_right (Nat.le_refl _), Nat.sub_self]
  rfl

/-- A rank that is set without an error code is the rank of the rule. -/
theorem setRank_return {grammar grammar' : Grammar} {rules : List GrammarRule} {rule : GrammarRule}
    {rank answer : Int} (last : grammar.rules = rules ++ [rule])
    (set : (answer, grammar') = grammar.setRank rules.length rank)
    (clear : grammar'.error = marpaErrNone) :
    grammar'.rules = rules ++ [{ rule with rank }] := by
  have failed (code : Int) (failing : code ≠ marpaErrNone)
      (fails : (answer, grammar') = grammar.fails (-2) code) : False := by
    rw [(Prod.mk.inj fails).2] at clear
    exact failing clear
  unfold Grammar.setRank at set
  rw [if_neg (Int.not_lt.mpr (Int.natCast_nonneg _)), last, getElem?_last] at set
  simp only at set
  by_cases low : rank < minimumRank
  · rw [if_pos low] at set
    exact (failed marpaErrRankTooLow (by decide) set).elim
  · rw [if_neg low] at set
    by_cases high : maximumRank < rank
    · rw [if_pos high] at set
      exact (failed marpaErrRankTooHigh (by decide) set).elim
    · rw [if_neg high] at set
      rw [(Prod.mk.inj set).2]
      exact set_last rules rule _

/-- A rank that libmarpa did not complain about is the rank of the rule. -/
theorem applyRank_return (sets : marpa.SetsErrors) {rules : List GrammarRule} {rule : GrammarRule}
    {rank : Int} (last : world.grammar.rules = rules ++ [rule]) (fresh : rule.rank = 0)
    (run : applyOption marpa ⟨rank != 0, .ruleRankSet rules.length rank,
      fun _ error => error != marpaErrNone⟩ world = .ok true world') :
    world'.grammar.rules = rules ++ [{ rule with rank }] := by
  rcases applyOption_return run with ⟨unset, rfl⟩ | ⟨-, answer, fine, applied⟩
  · have zero : rank = 0 := by simpa using unset
    rw [last, zero, ← fresh]
  · have clear : world'.grammar.error = marpaErrNone := by simpa using fine
    by_cases performed : (answer, world'.grammar) = (world.grammar.clearError
        (.ruleRankSet rules.length rank)).perform (.ruleRankSet rules.length rank)
    · have cleared : (world.grammar.clearError (.ruleRankSet rules.length rank)).rules =
          rules ++ [rule] := last
      exact setRank_return cleared performed clear
    · obtain ⟨-, precomputed | refused⟩ := apply_perform applied performed
      · rw [clear] at precomputed
        exact absurd precomputed (by decide)
      · exact absurd clear (sets _ _ _ refused)

/-- A flag for null ranks that libmarpa did not fail to set is the flag of the rule. -/
theorem applyNullHigh_return {rules : List GrammarRule} {rule : GrammarRule} {wanted : Bool}
    (last : world.grammar.rules = rules ++ [rule]) (fresh : rule.nullRanksHigh = false)
    (run : applyOption marpa ⟨wanted, .ruleNullHighSet rules.length 1,
      fun answer _ => answer == -2⟩ world = .ok true world') :
    world'.grammar.rules = rules ++ [{ rule with nullRanksHigh := wanted }] := by
  rcases applyOption_return run with ⟨unset, rfl⟩ | ⟨set, answer, fine, applied⟩
  · have clear : wanted = false := unset
    rw [last, clear, ← fresh]
  · have accepted : answer ≠ -2 := by simpa using fine
    have on : wanted = true := set
    have performed := apply_return applied accepted
    simp only [Grammar.perform, Grammar.clearError, Grammar.setNullHigh] at performed
    rw [if_neg (Int.not_lt.mpr (Int.natCast_nonneg _)), last, getElem?_last] at performed
    simp only at performed
    rw [if_neg (by decide)] at performed
    rw [(Prod.mk.inj performed).2, on]
    exact set_last rules rule _

/-- The options that are applied to the last rule are its options then. -/
theorem ruleOptions_return (sets : marpa.SetsErrors) {rules : List GrammarRule} {lhs : Int}
    {shape : RuleShape} (last : world.grammar.rules = rules ++ [{ lhs, shape := shape }])
    (run : applyOptions marpa (ruleOptionCalls rules.length option) world = .ok true world') :
    world'.grammar.rules = rules ++
      [{ lhs, shape, rank := option.ranki, nullRanksHigh := option.nullRanksHighb }] := by
  unfold ruleOptionCalls applyOptions at run
  obtain ⟨ranked, between, rank, rest⟩ := run_bind_eq_ok run
  cases ranked with
  | false => cases rest
  | true =>
    have withRank := applyRank_return sets last rfl rank
    unfold applyOptions at rest
    obtain ⟨flagged, after, flag, done⟩ := run_bind_eq_ok rest
    cases flagged with
    | false => cases done
    | true =>
      cases done
      exact applyNullHigh_return withRank rfl flag

/-! ### The object -/

theorem writeArray_return {α : Type} {block block' : Block α} {index : Int} {object : α}
    (run : writeArray block index (.pointer object) world = .ok block' world') :
    world' = world ∧ lookup (some block') index.toNat = some object := by
  obtain ⟨rfl, -, -, inside, rfl⟩ := writeArray_eq_ok run
  exact ⟨rfl, lookup_eq_some.mpr ⟨_, rfl, List.getElem?_set_self inside⟩⟩

/-- The object of the rule that libmarpa created last, with the options applied. -/
theorem addRulepInternal_return (sets : marpa.SetsErrors) {rules : List GrammarRule} {lhs : Int}
    {shape : RuleShape} {pointer : Nat}
    (last : world.grammar.rules = rules ++ [{ lhs, shape := shape }])
    (run : marpaWrapperGAddRulepInternal libc fuel build marpa wrapper rules.length option world =
      .ok (some pointer, wrapper') world') :
    (∃ object, lookup wrapper'.marpaWrapperRulepp pointer = some object ∧
        object.marpaRuleIdi = rules.length ∧ object.marpaWrapperRuleOption = option) ∧
      world'.grammar.rules = rules ++
        [{ lhs, shape, rank := option.ranki, nullRanksHigh := option.nullRanksHighb }] := by
  unfold marpaWrapperGAddRulepInternal at run
  obtain ⟨room, between, made, rest⟩ := run_bind_eq_ok run
  have kept : Continued (·.ofMemory = true) world between :=
    .of_run (fun _ => manageBufCreatep_continued _ _ _ _) made
  cases room with
  | error left => cases rest
  | ok room =>
    obtain ⟨granted, after, asked, rest⟩ := run_bind_eq_ok rest
    have kept' : Grown (fun _ => True) between after :=
      .of_run (fun _ => acquire_keeps fun _ => trivial) asked
    cases granted with
    | none => cases rest
    | some address =>
      obtain ⟨table, middle, written, stored⟩ := run_bind_eq_ok rest
      obtain ⟨rfl, found⟩ := writeArray_return written
      obtain ⟨applied, final, options, done⟩ := run_bind_eq_ok stored
      cases applied with
      | false => cases done
      | true =>
        cases done
        refine ⟨⟨_, found, rfl, rfl⟩, ruleOptions_return sets ?_ options⟩
        rw [kept'.grammar, kept.rules, last]

/-! ### The registration -/

theorem freeIfNotNull_grammar {address : Option Nat}
    (run : freeIfNotNull address world = .ok () world') : world'.grammar = world.grammar := by
  cases address <;> cases run <;> rfl

/-- A rule that is returned has the requested shape, the left-hand side that is described and the
options. -/
theorem marpaWrapperGAddRulep_return (sets : marpa.SetsErrors) {pointer : Nat}
    (run : marpaWrapperGAddRulep libc fuel build marpa wrapper (some option) world =
      .ok (some pointer, wrapper') world') :
    ∃ lhs separator rhsIdp object, option.isAcceptable = true ∧
      wrapper.symbolId option.lhsSymbolp = some lhs ∧
      (option.sequenceb = true → Separates wrapper option.separatorSymbolp separator) ∧
      rhsIdp.length = option.nRhsSymboli ∧
      rhsIdp.map some = (option.rhsSymbolpp.take option.nRhsSymboli).map wrapper.symbolId ∧
      lookup wrapper'.marpaWrapperRulepp pointer = some object ∧
      object.marpaRuleIdi = world.grammar.rules.length ∧
      object.marpaWrapperRuleOption = option ∧
      world'.grammar.rules = world.grammar.rules ++
        [{ lhs, shape := requestedShape option separator rhsIdp, rank := option.ranki,
           nullRanksHigh := option.nullRanksHighb }] := by
  unfold marpaWrapperGAddRulep at run
  simp only at run
  cases left : option.lhsSymbolp with
  | none => rw [left] at run; cases run
  | some lhsSymbolp =>
    rw [left] at run
    simp only at run
    by_cases acceptable : option.isAcceptable = true
    · rw [if_pos acceptable] at run
      obtain ⟨collected, between, collect, rest⟩ := run_bind_eq_ok run
      cases collected with
      | none => cases rest
      | some collected =>
        obtain ⟨address, rhsIdp⟩ := collected
        obtain ⟨grammar, length, ids⟩ := collectRhs_return collect
        obtain ⟨marpaRuleIdi, after, created, rest⟩ := run_bind_eq_ok rest
        obtain ⟨⟨⟩, freed, free, rest⟩ := run_bind_eq_ok rest
        by_cases refused : marpaRuleIdi = -2
        · rw [if_pos refused] at rest
          cases rest
        · rw [if_neg refused] at rest
          obtain ⟨lhs, separator, rfl, rules, found, separates⟩ := createRule_return created refused
          rw [grammar] at rules rest
          obtain ⟨⟨object, registered, id, described⟩, final⟩ := addRulepInternal_return sets
            (by rw [freeIfNotNull_grammar free, rules]) rest
          exact ⟨lhs, separator, rhsIdp, object, acceptable, found, separates, length, ids,
            registered, id, described, final⟩
    · rw [if_neg acceptable] at run
      cases run

/-- What libmarpa is handed as the length is an `int`. -/
theorem RegistersRule.narrow (sets : marpa.SetsErrors) {pointer : Nat}
    (run : marpaWrapperGAddRulep libc fuel build marpa wrapper (some option) world =
      .ok (some pointer, wrapper') world')
    (registers : RegistersRule wrapper world option pointer wrapper' world') :
    option.nRhsSymboli < 2 ^ 31 := by
  obtain ⟨lhs, separator, rhsIdp, object, acceptable, -, -, -, -, -, -, -, rules⟩ :=
    marpaWrapperGAddRulep_return sets run
  obtain ⟨rule, -, gained, -, -, -, -, describes, -, -⟩ := registers
  rw [rules] at gained
  obtain rfl := (List.cons.inj (List.append_cancel_left gained)).1
  simp only [requestedShape] at describes
  by_cases sequence : option.sequenceb = true
  · rw [MarpaWrapperRuleOption.isAcceptable, sequence] at acceptable
    have one : option.nRhsSymboli = 1 := by
      simp at acceptable
      exact acceptable.1
    omega
  · rw [if_neg sequence] at describes
    exact toInt_natCast_iff.mp describes.2.1

/-- A rule that is returned is the one that was described exactly when the number of its
right-hand side symbols is an `int`. -/
theorem marpaWrapperGAddRulep_registers_iff (sets : marpa.SetsErrors) {pointer : Nat}
    (run : marpaWrapperGAddRulep libc fuel build marpa wrapper (some option) world =
      .ok (some pointer, wrapper') world') :
    RegistersRule wrapper world option pointer wrapper' world' ↔ option.nRhsSymboli < 2 ^ 31 := by
  refine ⟨RegistersRule.narrow sets run, fun narrow => ?_⟩
  obtain ⟨lhs, separator, rhsIdp, object, acceptable, left, separates, length, ids, found, id,
    described, rules⟩ := marpaWrapperGAddRulep_return sets run
  have exact : toInt option.nRhsSymboli = option.nRhsSymboli := toInt_natCast_iff.mpr narrow
  refine ⟨_, object, rules, found, id, described, left, ?_, rfl, rfl⟩
  by_cases sequence : option.sequenceb = true
  · simp only [requestedShape, if_pos sequence]
    simp only [MarpaWrapperRuleOption.isAcceptable, sequence, Bool.not_true, Bool.false_or,
      Bool.and_eq_true, Bool.or_eq_true, beq_iff_eq] at acceptable
    rw [acceptable.1] at length ids
    obtain ⟨rhs, rfl⟩ := List.length_eq_one_iff.mp length
    refine ⟨sequence, ?_, separates sequence, rfl, acceptable.2, rfl⟩
    cases pointers : option.rhsSymbolpp with
    | nil => rw [pointers] at ids; cases ids
    | cons first rest =>
      rw [pointers] at ids
      exact ((List.cons.inj ids).1).symm
  · simp only [requestedShape, if_neg sequence]
    rw [exact, Int.toNat_natCast, List.take_of_length_le (Nat.le_of_eq length)]
    exact ⟨eq_false_of_ne_true sequence, rfl, length, ids⟩

/-! ### A symbol that is repeated -/

/-- A wrapper with one symbol, and an empty rule for it. -/
def oneRuleWrapper : Wrapper where
  address := 0
  marpaGrammarp := some 1
  sizeMarpaWrapperSymboli := 100
  nMarpaWrapperSymboli := 1
  marpaWrapperSymbolpp := some {
    address := 2
    cells := .pointer
      { address := 3, marpaSymbolIdi := 0, marpaWrapperp := 0, isLexemeb := false, lengthl := 0
        marpaWrapperSymbolOption := marpaWrapperSymbolOptionDefaultb } :: List.replicate 99 .null }
  sizeMarpaWrapperRulei := 100
  nMarpaWrapperRulei := 1
  marpaWrapperRulepp := some {
    address := 4
    cells := .pointer
      { address := 5, marpaRuleIdi := 0, marpaWrapperp := 0
        marpaWrapperRuleOption := { lhsSymbolp := some 0 } } :: List.replicate 99 .null }
  marpaWrapperOption := marpaWrapperOptionDefaultb

/-- The world in which they were registered. -/
def oneRuleWorld : World Nat where
  nextAddress := 6
  grammar := { symbols := [{}], rules := [{ lhs := 0, shape := .bnf [] 0 }] }

/-- The rule that has the symbol on its left-hand side, and so many times on its right-hand
side. -/
def repeatingOption (count : Nat) : MarpaWrapperRuleOption where
  lhsSymbolp := some 0
  nRhsSymboli := count
  rhsSymbolpp := List.replicate count (some 0)

theorem Libmarpa.accepting_setsErrors : (Libmarpa.accepting (V := V)).SetsErrors := by
  intro _ _ _ refused
  cases refused

/-- A slot that is there needs no request. -/
theorem manageBufCreatep_room {α : Type} {size wanted : Nat} {block : Block α}
    (length : block.cells.length = size) (room : wanted ≤ size) (enough : 0 < fuel)
    (world : World V) :
    manageBufCreatep libc fuel {} sizeModulus (some block) size wanted pointerSize world =
      .ok (.ok (block, size)) world := by
  have filled : prefill fuel {} sizeModulus (cellsOf (some block)) size size pointerSize world =
      .ok block.cells world := prefillZeroes_same length
  unfold manageBufCreatep
  rw [run_bind_ok (growLoop_same room enough)]
  simp only
  rw [run_bind_ok filled]
  rfl

theorem rhsTurns_run {count capacity : Nat} (few : count ≤ capacity) (indices : List Nat)
    (below : ∀ index ∈ indices, index < count) (ids : List Int) (world : World Nat) :
    forEach (rhsTurn oneRuleWrapper (List.replicate count (some 0)) capacity) indices ids world =
      .ok (.next (ids ++ List.replicate indices.length 0)) world := by
  induction indices generalizing ids with
  | nil =>
    rw [List.length_nil, List.replicate_zero, List.append_nil]
    rfl
  | cons index indices inductionHypothesis =>
    have here : index < count := below index List.mem_cons_self
    have turn : rhsTurn oneRuleWrapper (List.replicate count (some 0)) capacity index ids world =
        .ok (.next (ids ++ [0])) world := by
      have found : lookup oneRuleWrapper.marpaWrapperSymbolpp 0 = some _ := rfl
      unfold rhsTurn
      rw [List.getElem?_replicate, if_pos here]
      simp only
      rw [run_bind_ok (readSymbol_run found world), if_pos (Nat.lt_of_lt_of_le here few)]
      rfl
    rw [forEach, run_bind_ok turn]
    simp only
    rw [inductionHypothesis fun other member => below other (List.mem_cons_of_mem _ member),
      List.append_assoc, List.length_cons, Nat.add_comm, List.replicate_add]
    rfl

/-- The world after the ids were collected. -/
def collectedWorld (count : Nat) : World Nat :=
  { oneRuleWorld with events := [.malloc (count * marpaSymbolIdSize) (some 6)], nextAddress := 7 }

theorem collectRhs_repeating {count : Nat} (positive : 0 < count)
    (fits : count * marpaSymbolIdSize < sizeModulus) :
    collectRhs Libc.generous oneRuleWrapper (repeatingOption count) oneRuleWorld =
      .ok (some (some 6, List.replicate count 0)) (collectedWorld count) := by
  have asked : malloc Libc.generous (count * marpaSymbolIdSize) oneRuleWorld =
      .ok (some 6) (collectedWorld count) := rfl
  have room : count ≤ count * marpaSymbolIdSize / marpaSymbolIdSize := by
    rw [Nat.mul_div_cancel _ (by decide)]
  have filled := rhsTurns_run room (List.range count) (fun index member => List.mem_range.mp member)
    [] (collectedWorld count)
  unfold collectRhs repeatingOption
  simp only
  rw [if_pos positive, Nat.mod_eq_of_lt fits, run_bind_ok asked]
  simp only
  rw [run_bind_ok filled, List.length_range, List.nil_append]
  rfl

theorem createRule_repeating {count : Nat} (accepted : toInt count ≤ intMax / 4) :
    ∃ world', createRule Libmarpa.accepting oneRuleWrapper (repeatingOption count) 0
      (List.replicate count 0) (collectedWorld count) = .ok 1 world' := by
  have found : lookup oneRuleWrapper.marpaWrapperSymbolpp 0 = some _ := rfl
  unfold createRule repeatingOption
  simp only
  rw [if_neg Bool.false_ne_true, run_bind_ok (readSymbol_run found _)]
  obtain ⟨answer, world', called⟩ := grammarCall_run Libmarpa.accepting
    (.ruleNew 0 ((List.replicate count (0 : Int)).take (toInt count).toNat) (toInt count))
    (collectedWorld count)
  have applied := grammarCall_return called
  simp only [Grammar.apply, Libmarpa.accepting, collectedWorld, oneRuleWorld, Bool.false_and,
    Grammar.clearError, Grammar.perform] at applied
  rw [if_neg Bool.false_ne_true, if_neg (Int.not_lt.mpr accepted), Grammar.addRule,
    if_neg (by decide)] at applied
  have first : answer = 1 := (Prod.mk.inj applied).1
  rw [first] at called
  exact ⟨world', called⟩

theorem addRulepInternal_repeating (count : Nat) (world : World Nat) :
    ∃ wrapper' world', marpaWrapperGAddRulepInternal Libc.generous 5 {} Libmarpa.accepting
      oneRuleWrapper 1 (repeatingOption count) world = .ok (some 1, wrapper') world' := by
  obtain ⟨block, there, length⟩ : ∃ block, oneRuleWrapper.marpaWrapperRulepp = some block ∧
      block.cells.length = 100 := ⟨_, rfl, rfl⟩
  have room : manageBufCreatep Libc.generous 5 {} sizeModulus oneRuleWrapper.marpaWrapperRulepp
      oneRuleWrapper.sizeMarpaWrapperRulei (toSize (1 + 1)) pointerSize world =
        .ok (.ok (block, 100)) world := by
    rw [there]
    exact manageBufCreatep_room length (by decide) (by decide) world
  unfold marpaWrapperGAddRulepInternal
  simp only
  rw [run_bind_ok room]
  cases there
  exact ⟨_, _, rfl⟩

/-- The rule is registered whenever the `int` that is made of its length is not too large. -/
theorem marpaWrapperGAddRulep_repeating (count : Nat) (positive : 0 < count)
    (fits : count * marpaSymbolIdSize < sizeModulus) (accepted : toInt count ≤ intMax / 4) :
    ∃ wrapper' world', marpaWrapperGAddRulep Libc.generous 5 {} Libmarpa.accepting oneRuleWrapper
      (some (repeatingOption count)) oneRuleWorld = .ok (some 1, wrapper') world' := by
  obtain ⟨created, create⟩ := createRule_repeating accepted
  obtain ⟨wrapper', world', internal⟩ := addRulepInternal_repeating count
    { created with events := created.events ++ [.free 6] }
  have left : (repeatingOption count).lhsSymbolp = some 0 := rfl
  have acceptable : (repeatingOption count).isAcceptable = true := rfl
  have freed : freeIfNotNull (some 6) created =
      .ok () { created with events := created.events ++ [.free 6] } := rfl
  refine ⟨wrapper', world', ?_⟩
  unfold marpaWrapperGAddRulep
  simp only [left]
  rw [if_pos acceptable, run_bind_ok (collectRhs_repeating positive fits)]
  simp only
  rw [run_bind_ok create, run_bind_ok freed, if_neg (by decide)]
  exact internal

/-- A symbol that is repeated twice. -/
theorem marpaWrapperGAddRulep_registers_twice :
    ∃ wrapper' world', marpaWrapperGAddRulep Libc.generous 5 {} Libmarpa.accepting oneRuleWrapper
        (some (repeatingOption 2)) oneRuleWorld = .ok (some 1, wrapper') world' ∧
      (RegistersRule oneRuleWrapper oneRuleWorld (repeatingOption 2) 1 wrapper' world' ↔
        2 < 2 ^ 31) := by
  obtain ⟨wrapper', world', run⟩ :=
    marpaWrapperGAddRulep_repeating 2 (by decide) (by decide) (by decide)
  exact ⟨wrapper', world', run,
    marpaWrapperGAddRulep_registers_iff Libmarpa.accepting_setsErrors run⟩

/-- With `2 ^ 32 + 1` symbols on its right-hand side the rule is registered, with one of them. -/
theorem marpaWrapperGAddRulep_registers_other :
    ∃ wrapper' world', marpaWrapperGAddRulep Libc.generous 5 {} Libmarpa.accepting oneRuleWrapper
        (some (repeatingOption (2 ^ 32 + 1))) oneRuleWorld = .ok (some 1, wrapper') world' ∧
      ¬ RegistersRule oneRuleWrapper oneRuleWorld (repeatingOption (2 ^ 32 + 1)) 1 wrapper'
        world' := by
  obtain ⟨wrapper', world', run⟩ :=
    marpaWrapperGAddRulep_repeating (2 ^ 32 + 1) (by decide) (by decide) (by decide)
  refine ⟨wrapper', world', run, fun registers => ?_⟩
  have narrow : 2 ^ 32 + 1 < 2 ^ 31 :=
    RegistersRule.narrow Libmarpa.accepting_setsErrors run registers
  omega

end MarpaWrapper
