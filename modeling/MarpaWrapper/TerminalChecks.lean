/-
This file reads the run of "Check expected terminals", the loop that asks the
user's lexeme callback about one terminal after the other. A check of a terminal
is what the loop finds there and what the callback answers; a terminal that is
not asked about has no answer. What the loop leaves in the symbols, its running
maximum and the exchanges it makes are then functions of the list of checks.

The symbols are objects that the terminals share with everything else, so the
terminals have to point to different ones: an earlier terminal's length would be
overwritten otherwise.
-/

import MarpaWrapper.ExpectedTerminals

namespace MarpaWrapper

open Effects

variable {V : Type}

/-! ### Checks -/

/-- What the check of a terminal came to: its symbol as the loop finds it, and the answer of the
lexeme callback, if that was asked. -/
structure Check where
  pointer : Nat
  symbol : MarpaWrapperSymbol
  answer : Option (Option Nat)

/-- The length that the check leaves in the symbol. -/
def Check.length (check : Check) : Nat := check.answer.join.getD 0

/-- The symbol as the check leaves it. -/
def Check.result (check : Check) : MarpaWrapperSymbol :=
  match check.answer with
  | none => { check.symbol with lengthl := 0 }
  | some none => { check.symbol with isLexemeb := false, lengthl := 0 }
  | some (some lengthl) => { check.symbol with isLexemeb := true, lengthl }

/-- The exchange with the lexeme callback. -/
def Check.exchange? (check : Check) : Option (Event V) :=
  check.answer.map (.isLexeme check.symbol.marpaWrapperSymbolOption.datavp)

/-- The running maximum after the checks. -/
def longest (checks : List Check) : Nat :=
  checks.foldl (fun maxLengthl check => max maxLengthl check.length) 0

/-- The exchanges of the checks. -/
def checkExchanges (checks : List Check) : List (Event V) := checks.filterMap Check.exchange?

theorem Check.result_lengthl (check : Check) : check.result.lengthl = check.length := by
  unfold Check.result Check.length
  cases check.answer with
  | none => rfl
  | some answer => cases answer <;> rfl

/-- A check changes the work fields of a symbol only. -/
theorem Check.result_option (check : Check) :
    check.result.marpaWrapperSymbolOption = check.symbol.marpaWrapperSymbolOption := by
  unfold Check.result
  cases check.answer with
  | none => rfl
  | some answer => cases answer <;> rfl

theorem Check.result_marpaSymbolIdi (check : Check) :
    check.result.marpaSymbolIdi = check.symbol.marpaSymbolIdi := by
  unfold Check.result
  cases check.answer with
  | none => rfl
  | some answer => cases answer <;> rfl

theorem longest_append (checks : List Check) (check : Check) :
    longest (checks ++ [check]) = max (longest checks) check.length := by
  unfold longest
  rw [List.foldl_append]
  rfl

theorem checkExchanges_append (checks : List Check) (check : Check) :
    checkExchanges (V := V) (checks ++ [check]) =
      checkExchanges checks ++ check.exchange?.toList := by
  unfold checkExchanges
  rw [List.filterMap_append, List.filterMap_cons]
  cases check.exchange? (V := V) <;> rfl

theorem length_le_longest {checks : List Check} {check : Check} (member : check ∈ checks) :
    check.length ≤ longest checks := by
  induction checks using List.reverseRecOn with
  | nil => cases member
  | append_singleton checks last inductionHypothesis =>
    rw [longest_append]
    rcases List.mem_append.mp member with before | here
    · exact Nat.le_trans (inductionHypothesis before) (Nat.le_max_left _ _)
    · rw [List.mem_singleton.mp here]
      exact Nat.le_max_right _ _

/-- A positive maximum is the length of some check. -/
theorem exists_length_eq_longest {checks : List Check} (positive : 0 < longest checks) :
    ∃ check ∈ checks, check.length = longest checks := by
  induction checks using List.reverseRecOn with
  | nil => cases positive
  | append_singleton checks last inductionHypothesis =>
    rw [longest_append] at positive ⊢
    by_cases larger : longest checks < last.length
    · exact ⟨last, List.mem_append_right _ (List.mem_singleton_self _),
        (Nat.max_eq_right (Nat.le_of_lt larger)).symm⟩
    · have same : max (longest checks) last.length = longest checks :=
        Nat.max_eq_left (Nat.le_of_not_lt larger)
      rw [same] at positive ⊢
      obtain ⟨check, member, length⟩ := inductionHypothesis positive
      exact ⟨check, List.mem_append_left _ member, length⟩

/-! ### The loop -/

section Loop

variable {callbacks : RecognizerCallbacks V} {wrapper wrapper' : Wrapper} {world world' : World V}

/-- The answers are those of the callback at the time, and a terminal without an answer was skipped
because of the maximum at the time. -/
inductive Told (callbacks : RecognizerCallbacks V) (events : List (Event V)) : List Check → Prop
  | nil : Told callbacks events []
  | append {checks : List Check} {check : Check} (told : Told callbacks events checks)
      (answer : check.answer = if skips callbacks check.symbol (longest checks) then none
        else some (callbacks.isLexeme (events ++ checkExchanges checks)
          check.symbol.marpaWrapperSymbolOption.datavp)) :
      Told callbacks events (checks ++ [check])

/-- What the loop has done after some checks. -/
structure Checked (callbacks : RecognizerCallbacks V) (wrapper : Wrapper) (world : World V)
    (checks : List Check) (wrapper' : Wrapper) (world' : World V) : Prop where
  told : Told callbacks world.events checks
  frame : ∃ table, wrapper' = { wrapper with marpaWrapperSymbolpp := table }
  live : Unreleased wrapper.marpaWrapperSymbolpp → Unreleased wrapper'.marpaWrapperSymbolpp
  cells : (expectedCells wrapper).take checks.length = checks.map (.pointer ·.pointer)
  found : ∀ check ∈ checks, lookup wrapper.marpaWrapperSymbolpp check.pointer = some check.symbol
  left : ∀ check ∈ checks, lookup wrapper'.marpaWrapperSymbolpp check.pointer = some check.result
  others : ∀ pointer, (∀ check ∈ checks, check.pointer ≠ pointer) →
    lookup wrapper'.marpaWrapperSymbolpp pointer = lookup wrapper.marpaWrapperSymbolpp pointer
  record : world' = { world with events := world.events ++ checkExchanges checks }

theorem Checked.start : Checked callbacks wrapper world [] wrapper world where
  told := .nil
  frame := ⟨_, rfl⟩
  live live := live
  cells := rfl
  found _ member := absurd member List.not_mem_nil
  left _ member := absurd member List.not_mem_nil
  others _ _ := rfl
  record := by rw [checkExchanges, List.filterMap_nil, List.append_nil]

/-- The loop does not touch the array of expected terminals. -/
theorem Checked.expectedCells {checks : List Check}
    (checked : Checked callbacks wrapper world checks wrapper' world') :
    expectedCells wrapper' = expectedCells wrapper := by
  obtain ⟨table, rfl⟩ := checked.frame
  rfl

/-- The symbol that an index designates after the loop. -/
theorem Checked.at {checks : List Check}
    (checked : Checked callbacks wrapper world checks wrapper' world') {index : Nat} {check : Check}
    (here : checks[index]? = some check) :
    (MarpaWrapper.expectedCells wrapper)[index]? = some (.pointer check.pointer) := by
  have inside : index < checks.length := (List.getElem?_eq_some_iff.mp here).1
  rw [← List.getElem?_take_of_lt inside, checked.cells, List.getElem?_map, here]
  rfl

theorem checkTurn_return {index maxLengthl : Nat} {outcome : Turn (Wrapper × Nat) Empty}
    (run : checkTurn callbacks index (wrapper, maxLengthl) world = .ok outcome world') :
    ∃ check : Check, (expectedCells wrapper)[index]? = some (.pointer check.pointer) ∧
      lookup wrapper.marpaWrapperSymbolpp check.pointer = some check.symbol ∧
      (check.answer = if skips callbacks check.symbol maxLengthl then none
        else some (callbacks.isLexeme world.events
          check.symbol.marpaWrapperSymbolOption.datavp)) ∧
      outcome = .next (wrapper.withSymbol check.pointer check.result,
        max maxLengthl check.length) ∧
      world' = { world with events := world.events ++ check.exchange?.toList } := by
  obtain ⟨⟨pointer, symbol⟩, between, read, rest⟩ := run_bind_eq_ok run
  obtain ⟨rfl, cell, found⟩ := expectedSymbol_eq_ok read
  by_cases skipped : skips callbacks symbol maxLengthl
  · simp only [if_pos skipped] at rest
    obtain ⟨wrapper', after, wrote, last⟩ := run_bind_eq_ok rest
    rw [writeSymbol_run found] at wrote
    cases wrote
    cases last
    refine ⟨⟨pointer, symbol, none⟩, cell, found, by rw [if_pos skipped],
      by rw [Check.length, Option.join_none, Option.getD_none, Nat.max_zero]; rfl, ?_⟩
    rw [Check.exchange?, Option.map_none, Option.toList_none, List.append_nil]
  · simp only [if_neg skipped] at rest
    rw [callIsLexeme, run_bind_ok (run_ask ..)] at rest
    cases answer : callbacks.isLexeme between.events symbol.marpaWrapperSymbolOption.datavp with
    | none =>
      rw [answer] at rest
      simp only at rest
      rw [run_bind_ok (writeSymbol_run found _ _)] at rest
      cases rest
      exact ⟨⟨pointer, symbol, some none⟩, cell, found, by rw [if_neg skipped, answer],
        by rw [Check.length, Option.join_some, Option.getD_none, Nat.max_zero]; rfl, rfl⟩
    | some lengthl =>
      rw [answer] at rest
      simp only at rest
      rw [run_bind_ok (writeSymbol_run found _ _)] at rest
      cases rest
      refine ⟨⟨pointer, symbol, some (some lengthl)⟩, cell, found, by rw [if_neg skipped, answer],
        ?_, rfl⟩
      have larger : (if lengthl > maxLengthl then lengthl else maxLengthl) =
          max maxLengthl lengthl := by
        by_cases more : lengthl > maxLengthl
        · rw [if_pos more, Nat.max_eq_right (Nat.le_of_lt more)]
        · rw [if_neg more, Nat.max_eq_left (Nat.le_of_not_lt more)]
      rw [larger]
      rfl

/-- One more check. Its symbol is not one of those that were checked before. -/
theorem Checked.append {checks : List Check} {check : Check}
    (checked : Checked callbacks wrapper world checks wrapper' world')
    (spread : Spread (MarpaWrapper.expectedCells wrapper) (checks.length + 1))
    (cell : (MarpaWrapper.expectedCells wrapper)[checks.length]? = some (.pointer check.pointer))
    (found : lookup wrapper'.marpaWrapperSymbolpp check.pointer = some check.symbol)
    (answer : check.answer = if skips callbacks check.symbol (longest checks) then none
      else some (callbacks.isLexeme world'.events check.symbol.marpaWrapperSymbolOption.datavp)) :
    Checked callbacks wrapper world (checks ++ [check])
      (wrapper'.withSymbol check.pointer check.result)
      { world' with events := world'.events ++ check.exchange?.toList } := by
  have new : ∀ earlier ∈ checks, earlier.pointer ≠ check.pointer := by
    intro earlier member same
    obtain ⟨index, here⟩ := List.mem_iff_getElem?.mp member
    have inside : index < checks.length := (List.getElem?_eq_some_iff.mp here).1
    exact Nat.ne_of_lt inside (spread.same (by omega) (by omega) (checked.at here) (same ▸ cell))
  have unchanged := checked.others check.pointer new
  obtain ⟨table, frame⟩ := checked.frame
  refine ⟨?_, ⟨_, by rw [frame]; rfl⟩, fun live => withSymbol_live (checked.live live) _ _, ?_,
    fun other member => ?_, fun other member => ?_,
    fun pointer apart => ?_, ?_⟩
  · refine .append checked.told ?_
    rw [answer, checked.record]
  · rw [List.length_append, List.length_singleton, List.take_add_one, checked.cells, cell,
      List.map_append]
    rfl
  · rcases List.mem_append.mp member with before | here
    · exact checked.found other before
    · rw [List.mem_singleton.mp here, ← unchanged, found]
  · rcases List.mem_append.mp member with before | here
    · rw [lookup_withSymbol_ne (new other before)]
      exact checked.left other before
    · rw [List.mem_singleton.mp here]
      exact lookup_withSymbol_self found _
  · rw [lookup_withSymbol_ne
      (apart check (List.mem_append_right _ (List.mem_singleton_self _))).symm]
    exact checked.others pointer fun other member => apart other (List.mem_append_left _ member)
  · rw [checked.record, checkExchanges_append, List.append_assoc]

/-- The loop checks the terminals one after the other. -/
theorem checkLoop_return {count : Nat} {outcome : Turn (Wrapper × Nat) Empty}
    (spread : Spread (expectedCells wrapper) count)
    (run : forEach (checkTurn callbacks) (List.range count) (wrapper, 0) world =
      .ok outcome world') :
    ∃ checks wrapper', checks.length = count ∧ outcome = .next (wrapper', longest checks) ∧
      Checked callbacks wrapper world checks wrapper' world' := by
  have turns : AfterTurn _ (fun _ _ => True) outcome world' := forEach_range_return
    (fun done frame state => ∃ checks, checks.length = done ∧ frame.2 = longest checks ∧
      Checked callbacks wrapper world checks frame.1 state)
    (fun index frame state outcome next below => ?_) ⟨[], rfl, rfl, .start⟩ run
  · cases outcome with
    | done result => exact result.elim
    | next frame =>
      obtain ⟨checks, length, maximum, checked⟩ := turns
      exact ⟨checks, frame.1, length, by rw [← maximum], checked⟩
  · rintro ⟨checks, rfl, maximum, checked⟩ turn
    obtain ⟨check, cell, found, answer, rfl, rfl⟩ := checkTurn_return turn
    rw [checked.expectedCells] at cell
    rw [maximum] at answer ⊢
    refine ⟨checks ++ [check], by rw [List.length_append]; rfl, (longest_append _ _).symm, ?_⟩
    have first : Spread (expectedCells wrapper) (checks.length + 1) :=
      spread.sublist (List.take_sublist_take_left below)
    exact checked.append first cell found answer

end Loop

end MarpaWrapper
