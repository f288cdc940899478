/-
This file is the libmarpa that the wrapper talks to. While a grammar is defined
its calls are modelled by what they do: they hand out symbol and rule ids one
after the other, they check their arguments, and all but the creation of a
symbol refuse a precomputed grammar. A refused call leaves an error code in the
grammar and changes nothing else; nothing that was created can be removed.

Whatever else decides an answer is a parameter, a function of the record so far:
which calls fail for a reason of libmarpa's own, what the recognizer answers,
and which events a call leaves in the grammar's queue.
-/

import MarpaWrapper.ParseTrees

namespace MarpaWrapper

open Effects

/-! ### Constants -/

/-- The error codes of `marpa.h` that the grammar calls use. -/
def marpaErrNone : Int := 0
def marpaErrGrammarHasCycle : Int := 17
def marpaErrInternal : Int := 19
def marpaErrInvalidBoolean : Int := 22
def marpaErrInvalidRuleId : Int := 26
def marpaErrInvalidStartSymbol : Int := 27
def marpaErrInvalidSymbolId : Int := 28
def marpaErrIAmNotOk : Int := 29
def marpaErrNoRules : Int := 42
def marpaErrNoStartSymbol : Int := 43
def marpaErrPrecomputed : Int := 57
def marpaErrRhsTooLong : Int := 65
def marpaErrStartNotLhs : Int := 73
def marpaErrTerminalIsLocked : Int := 75
def marpaErrRankTooLow : Int := 85
def marpaErrRankTooHigh : Int := 86
def marpaErrNoSuchRuleId : Int := 89
def marpaErrNoSuchSymbolId : Int := 90
def marpaErrHeadersDoNotMatch : Int := 98

/-- The event types of `marpa.h`. -/
def marpaEventNone : Int := 0
def marpaEventCountedNullable : Int := 1
def marpaEventEarleyItemThreshold : Int := 2
def marpaEventExhausted : Int := 3
def marpaEventLoopRules : Int := 4
def marpaEventNullingTerminal : Int := 5
def marpaEventSymbolCompleted : Int := 6
def marpaEventSymbolExpected : Int := 7
def marpaEventSymbolNulled : Int := 8
def marpaEventSymbolPredicted : Int := 9

/-- `MARPA_PROPER_SEPARATION`. -/
def marpaProperSeparation : Int := 0x2

/-- `INT_MAX`. -/
def intMax : Int := 2 ^ 31 - 1

/-- `MINIMUM_RANK` and `MAXIMUM_RANK`. -/
def minimumRank : Int := -2 ^ 29
def maximumRank : Int := 2 ^ 29 - 1

/-! ### The grammar -/

/-- A failed call answers with a negative number, sets the error code and changes nothing else. -/
def Grammar.fails (grammar : Grammar) (answer code : Int) : Int × Grammar :=
  (answer, { grammar with error := code })

/-- What the setters of a symbol's flags share. -/
def Grammar.setFlag (grammar : Grammar) (symbolId value : Int)
    (set : SymbolFlags → Bool → SymbolFlags) : Int × Grammar :=
  if symbolId < 0 then grammar.fails (-2) marpaErrInvalidSymbolId
  else match grammar.symbols[symbolId.toNat]? with
    | none => grammar.fails (-1) marpaErrNoSuchSymbolId
    | some flags =>
      if value < 0 ∨ 1 < value then grammar.fails (-2) marpaErrInvalidBoolean
      else (value, { grammar with
        symbols := grammar.symbols.set symbolId.toNat (set flags (value == 1)) })

/-- Another value was set for the terminal flag before. -/
def Grammar.locksTerminal (grammar : Grammar) (symbolId value : Int) : Bool :=
  0 ≤ symbolId && 0 ≤ value && value ≤ 1 && grammar.symbols[symbolId.toNat]?.any fun flags =>
    flags.lockedTerminal && flags.terminal != (value == 1)

/-- `marpa_g_symbol_is_terminal_set`, which locks the flag. -/
def Grammar.setTerminal (grammar : Grammar) (symbolId value : Int) : Int × Grammar :=
  if grammar.locksTerminal symbolId value then grammar.fails (-2) marpaErrTerminalIsLocked
  else
    grammar.setFlag symbolId value fun flags set =>
      { flags with terminal := set, lockedTerminal := true }

/-- `marpa_g_start_symbol_set`. -/
def Grammar.setStart (grammar : Grammar) (symbolId : Int) : Int × Grammar :=
  if symbolId < 0 then grammar.fails (-2) marpaErrInvalidSymbolId
  else if grammar.symbols.length ≤ symbolId.toNat then grammar.fails (-1) marpaErrNoSuchSymbolId
  else (symbolId, { grammar with startSymbol := some symbolId })

/-- A rule is recorded under the next rule id. Ids are of type `int`. -/
def Grammar.addRule (grammar : Grammar) (rule : GrammarRule) : Int × Grammar :=
  if intMax ≤ grammar.rules.length then grammar.fails (-2) marpaErrInternal
  else (grammar.rules.length, { grammar with rules := grammar.rules ++ [rule] })

/-- `marpa_g_symbol_new`. It does not look at the precomputation. -/
def Grammar.addSymbol (grammar : Grammar) : Int × Grammar :=
  if intMax ≤ grammar.symbols.length then grammar.fails (-2) marpaErrInternal
  else (grammar.symbols.length, { grammar with symbols := grammar.symbols ++ [{}] })

/-- `marpa_g_rule_rank_set`. -/
def Grammar.setRank (grammar : Grammar) (ruleId rank : Int) : Int × Grammar :=
  if ruleId < 0 then grammar.fails (-2) marpaErrInvalidRuleId
  else match grammar.rules[ruleId.toNat]? with
    | none => grammar.fails (-2) marpaErrNoSuchRuleId
    | some rule =>
      if rank < minimumRank then grammar.fails (-2) marpaErrRankTooLow
      else if maximumRank < rank then grammar.fails (-2) marpaErrRankTooHigh
      else (rank, { grammar with
        rules := grammar.rules.set ruleId.toNat { rule with rank := rank } })

/-- `marpa_g_rule_null_high_set`. -/
def Grammar.setNullHigh (grammar : Grammar) (ruleId flag : Int) : Int × Grammar :=
  if ruleId < 0 then grammar.fails (-2) marpaErrInvalidRuleId
  else match grammar.rules[ruleId.toNat]? with
    | none => grammar.fails (-1) marpaErrNoSuchRuleId
    | some rule =>
      if flag < 0 ∨ 1 < flag then grammar.fails (-2) marpaErrInvalidBoolean
      else (flag, { grammar with
        rules := grammar.rules.set ruleId.toNat { rule with nullRanksHigh := flag == 1 } })

/-- What a call does to a grammar that is not precomputed. -/
def Grammar.perform (grammar : Grammar) : GrammarCall → Int × Grammar
  | .forceValued => (0, grammar)
  | .symbolNew => grammar.addSymbol
  | .symbolIsTerminalSet symbolId value => grammar.setTerminal symbolId value
  | .startSymbolSet symbolId => grammar.setStart symbolId
  | .symbolIsCompletionEventSet symbolId value =>
    grammar.setFlag symbolId value fun flags set => { flags with completionEvent := set }
  | .symbolIsNulledEventSet symbolId value =>
    grammar.setFlag symbolId value fun flags set => { flags with nulledEvent := set }
  | .symbolIsPredictionEventSet symbolId value =>
    grammar.setFlag symbolId value fun flags set => { flags with predictionEvent := set }
  | .ruleNew lhs rhs length =>
    if intMax / 4 < length then grammar.fails (-2) marpaErrRhsTooLong
    else grammar.addRule { lhs, shape := .bnf rhs length }
  | .sequenceNew lhs rhs separator minimum flags =>
    grammar.addRule { lhs, shape := .sequence rhs separator minimum flags }
  | .ruleRankSet ruleId rank => grammar.setRank ruleId rank
  | .ruleNullHighSet ruleId flag => grammar.setNullHigh ruleId flag

/-- The calls that a precomputed grammar does not refuse. -/
def GrammarCall.allowedAfterPrecomputation : GrammarCall → Bool
  | .forceValued => true
  | .symbolNew => true
  | _ => false

/-- `clear_error(g)`, which `marpa_g_rule_rank_set` begins with: its answer does not tell a failure
from a rank. -/
def Grammar.clearError (grammar : Grammar) : GrammarCall → Grammar
  | .ruleRankSet _ _ => { grammar with error := marpaErrNone }
  | _ => grammar

/-- A grammar call, which may be refused for a reason of libmarpa's own. -/
def Grammar.apply (grammar : Grammar) (refusal : Option Int) (call : GrammarCall) : Int × Grammar :=
  match refusal with
  | some code => (grammar.clearError call).fails (-2) code
  | none =>
    if grammar.precomputed && !call.allowedAfterPrecomputation then
      (grammar.clearError call).fails (-2) marpaErrPrecomputed
    else (grammar.clearError call).perform call

/-- The checks that `marpa_g_precompute` makes before it looks at the symbols. -/
def precomputeCheckErrors : List Int := [marpaErrHeadersDoNotMatch, marpaErrIAmNotOk,
  marpaErrNoRules, marpaErrPrecomputed, marpaErrNoStartSymbol, marpaErrInvalidStartSymbol,
  marpaErrStartNotLhs]

/-- What `marpa_g_precompute` does to a symbol: unless its terminal flag is locked, it is a terminal
when it is on no left-hand side. A flag that is set stays set. -/
def Grammar.censusFlags (grammar : Grammar) (id : Nat) (flags : SymbolFlags) : SymbolFlags :=
  if flags.lockedTerminal || grammar.rules.any (·.lhs == id) then flags
  else { flags with terminal := true }

/-- The census of the symbols. -/
def Grammar.census (grammar : Grammar) : Grammar :=
  { grammar with symbols := grammar.symbols.mapIdx grammar.censusFlags }

/-! ### Its answers -/

/-- What libmarpa answers, by the record so far. -/
structure Libmarpa (V : Type) where
  version : List (Event V) → Int
  checkVersion : List (Event V) → Int × Int × Int → Int
  grammarNew : List (Event V) → Bool
  /-- The error code with which a grammar call fails for a reason of its own. -/
  refuses : List (Event V) → GrammarCall → Option Int
  /-- The error code with which `marpa_g_precompute` fails, and the events it reports. -/
  precompute : List (Event V) → Option Int × List (Nat × Int)
  highestSymbolIdFails : List (Event V) → Bool
  eventCountFails : List (Event V) → Bool
  eventFails : List (Event V) → Nat → Bool
  recognizerNew : List (Event V) → Bool
  /-- An answer with the events that are in the queue afterwards. -/
  startInput : List (Event V) → Int × List (Nat × Int)
  alternative : List (Event V) → Int → Int → Int → Int
  earlemeComplete : List (Event V) → Int × List (Nat × Int)
  /-- The ids of the expected terminals, or a failure. -/
  terminalsExpected : List (Event V) → Option (List Int)
  terminalIsExpected : List (Event V) → Int → Int
  symbolActivate : List (Event V) → Nat → Int → Int → Int
  latestEarleySet : List (Event V) → Int
  earleme : List (Event V) → Int → Int
  progressReportStart : List (Event V) → Int → Int
  /-- A rule id with the position and the origin. -/
  progressItem : List (Event V) → Int × Int × Int
  progressReportFinish : List (Event V) → Int
  value : ValuePhase V

/-- A libmarpa in which every call succeeds, nothing happens and there is no parse tree. -/
def Libmarpa.accepting {V : Type} : Libmarpa V where
  version _ := 0
  checkVersion _ _ := marpaErrNone
  grammarNew _ := true
  refuses _ _ := none
  precompute _ := (none, [])
  highestSymbolIdFails _ := false
  eventCountFails _ := false
  eventFails _ _ := false
  recognizerNew _ := true
  startInput _ := (0, [])
  alternative _ _ _ _ := marpaErrNone
  earlemeComplete _ := (0, [])
  terminalsExpected _ := some []
  terminalIsExpected _ _ := 0
  symbolActivate _ _ _ reactivate := reactivate
  latestEarleySet _ := 0
  earleme _ set := set
  progressReportStart _ _ := 0
  progressItem _ := (-1, 0, 0)
  progressReportFinish _ := 0
  value := .walking []

section Calls

variable {V : Type} (marpa : Libmarpa V)

/-- Make a grammar call. -/
def grammarCall (call : GrammarCall) : Exec V Int := fun world =>
  let (answer, grammar) := world.grammar.apply (marpa.refuses world.events call) call
  .ok answer { world with grammar, events := world.events ++ [.grammar call answer] }

/-- `marpa_g_error`. -/
def marpaGError : Exec V Int := fun world => .ok world.grammar.error world

/-- `marpa_g_new`. -/
def marpaGNew : Exec V (Option Nat) := do
  match ← acquire marpa.grammarNew .grammarNew with
  | none => pure none
  | some handle => fun world => .ok (some handle) { world with grammar := {} }

/-- `marpa_g_precompute`. A grammar with a cycle is precomputed although the call fails, and the
census takes place unless the call fails at once. -/
def marpaGPrecompute : Exec V Int := fun world =>
  let (failure, events) :=
    if world.grammar.precomputed then (some marpaErrPrecomputed, [])
    else marpa.precompute world.events
  let answer := if failure.isNone then 0 else -2
  let grammar :=
    if failure.any (precomputeCheckErrors.contains ·) then world.grammar else world.grammar.census
  .ok answer { world with
    events := world.events ++ [.precompute answer]
    grammar := { grammar with
      events
      error := failure.getD world.grammar.error
      precomputed := world.grammar.precomputed || failure.isNone ||
        failure == some marpaErrGrammarHasCycle } }

/-- `marpa_g_highest_symbol_id`. -/
def marpaGHighestSymbolId : Exec V Int := fun world =>
  let answer : Int :=
    if marpa.highestSymbolIdFails world.events then -2 else world.grammar.symbols.length - 1
  .ok answer { world with events := world.events ++ [.highestSymbolId answer] }

/-- `marpa_g_event_count`. -/
def marpaGEventCount : Exec V Int := fun world =>
  let answer : Int :=
    if marpa.eventCountFails world.events then -2 else world.grammar.events.length
  .ok answer { world with events := world.events ++ [.eventCount answer] }

/-- `marpa_g_event` and `marpa_g_event_value`: the type and the value of an event of the queue. -/
def marpaGEvent (index : Nat) : Exec V (Int × Int) := fun world =>
  let answer : Int × Int :=
    if marpa.eventFails world.events index then (-2, 0)
    else (world.grammar.events[index]?.map fun event => ((event.1 : Int), event.2)).getD (-2, 0)
  .ok answer { world with events := world.events ++ [.event index answer.1 answer.2] }

/-- A recognizer call that leaves events in the queue. -/
def reportingCall (answered : List (Event V) → Int × List (Nat × Int)) (event : Int → Event V) :
    Exec V Int := fun world =>
  let (answer, events) := answered world.events
  .ok answer { world with
    events := world.events ++ [event answer]
    grammar := { world.grammar with events } }

/-- `marpa_r_start_input`. -/
def marpaRStartInput : Exec V Int := reportingCall marpa.startInput .startInput

/-- `marpa_r_earleme_complete`. -/
def marpaREarlemeComplete : Exec V Int := reportingCall marpa.earlemeComplete .earlemeComplete

end Calls

end MarpaWrapper
