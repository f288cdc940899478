/-
This file compares the terminals that an iteration of `marpaWrapper_r_recognizeb` passes
to libmarpa with those that a plain search finds: one that asks the lexeme callback about
every expected terminal and keeps the longest matches, or all matches.

A terminal that is not asked about has a declared size below the maximum so far, so that
it matches below the maximum, whatever the order. What was asked, and what an earlier
iteration left in the symbols, makes no difference. The passing stops early where the
value callback returns `FALSE` or libmarpa rejects an alternative.
-/

import MarpaWrapper.SharedValue

namespace MarpaWrapper

open Effects Segments Sorting

variable {V : Type}

/-! ### The plain search -/

/-- How far the terminal of an id matches, by the callback's answer at some point; 0 when it does
not match. -/
def matchLength (callbacks : RecognizerCallbacks V) (wrapper : Wrapper) (events : List (Event V))
    (id : Int) : Nat :=
  ((lookup wrapper.marpaWrapperSymbolpp id.toNat).bind fun symbol =>
    callbacks.isLexeme events symbol.marpaWrapperSymbolOption.datavp).getD 0

/-- The id in the symbol object that is registered for an id. -/
def objectId (wrapper : Wrapper) (id : Int) : Int :=
  ((lookup wrapper.marpaWrapperSymbolpp id.toNat).map (·.marpaSymbolIdi)).getD id

/-- The maximum of some lengths, 0 when there are none. -/
def maximum (lengths : List Nat) : Nat := lengths.foldr max 0

/-- Whether the plain search keeps a terminal of some length among those of some lengths. -/
def keeps (callbacks : RecognizerCallbacks V) (lengths : List Nat) (length : Nat) : Bool :=
  if callbacks.longestAcceptableTokenMatchb then decide (0 < length ∧ length = maximum lengths)
  else decide (0 < length)

/-- The answer about a terminal does not depend on which others were asked about before. -/
def RecognizerCallbacks.AnswersAlone (callbacks : RecognizerCallbacks V) : Prop :=
  ∀ events asked datavp, (∀ event ∈ asked, ∃ other length, event = .isLexeme other length) →
    callbacks.isLexeme (events ++ asked) datavp = callbacks.isLexeme events datavp

/-- The ids of the symbols that were passed to `marpa_r_alternative`. -/
def alternativesIn (exchanges : List (Event V)) : List Int :=
  exchanges.filterMap fun
    | .alternative symbolId _ _ _ => some symbolId
    | _ => none

/-- No value was refused, and no alternative rejected. -/
def Unhindered (exchanges : List (Event V)) : Prop :=
  (∀ datavp, Event.lexemeValue datavp none ∉ exchanges) ∧
    ∀ symbolId value length code, Event.alternative symbolId value length code ∈ exchanges →
      code = marpaErrNone

section Maximum

variable {lengths : List Nat} {bound : Nat}

theorem le_maximum {length : Nat} (member : length ∈ lengths) : length ≤ maximum lengths := by
  induction lengths with
  | nil => cases member
  | cons head lengths inductionHypothesis =>
    rcases List.mem_cons.mp member with rfl | later
    · exact Nat.le_max_left _ _
    · exact Nat.le_trans (inductionHypothesis later) (Nat.le_max_right _ _)

theorem maximum_le (below : ∀ length ∈ lengths, length ≤ bound) : maximum lengths ≤ bound := by
  induction lengths with
  | nil => exact Nat.zero_le _
  | cons head lengths inductionHypothesis =>
    exact Nat.max_le.mpr ⟨below head List.mem_cons_self,
      inductionHypothesis fun length member => below length (List.mem_cons_of_mem _ member)⟩

end Maximum

/-- The ids of the checks that are selected. -/
def selectedIds (callbacks : RecognizerCallbacks V) (maxLengthl : Nat) (checks : List Check) :
    List Int :=
  (checks.filter fun check => selected callbacks check.length maxLengthl).map
    (·.symbol.marpaSymbolIdi)

/-! ### The checks -/

section Checks

variable {callbacks : RecognizerCallbacks V} {wrapper : Wrapper} {events : List (Event V)}
  {checks : List Check}

/-- How far the terminal of a check matches. -/
def Check.matches (callbacks : RecognizerCallbacks V) (events : List (Event V)) (check : Check) :
    Nat :=
  (callbacks.isLexeme events check.symbol.marpaWrapperSymbolOption.datavp).getD 0

/-- A check found how far its terminal matches, or it found nothing and that is below the
maximum. -/
theorem Told.found (told : Told callbacks events checks) (alone : callbacks.AnswersAlone)
    (sizes : ∀ check ∈ checks, 0 < check.symbol.marpaWrapperSymbolOption.sizel →
      check.matches callbacks events ≤ check.symbol.marpaWrapperSymbolOption.sizel) :
    ∀ check ∈ checks, check.length = check.matches callbacks events ∨
      (callbacks.longestAcceptableTokenMatchb = true ∧ check.length = 0 ∧
        check.matches callbacks events < longest checks) := by
  induction told with
  | nil => exact fun _ member => absurd member List.not_mem_nil
  | @append checks last told answer inductionHypothesis =>
    have before := inductionHypothesis fun check member =>
      sizes check (List.mem_append_left _ member)
    intro check member
    rw [longest_append]
    rcases List.mem_append.mp member with old | new
    · refine (before check old).imp_right fun ⟨latm, zero, below⟩ => ⟨latm, zero, ?_⟩
      exact Nat.lt_of_lt_of_le below (Nat.le_max_left _ _)
    · obtain rfl := List.mem_singleton.mp new
      cases skipped : skips callbacks check.symbol (longest checks) with
      | true =>
        rw [if_pos skipped] at answer
        simp only [skips, Bool.and_eq_true, decide_eq_true_eq] at skipped
        obtain ⟨⟨latm, declared⟩, shorter⟩ := skipped
        refine .inr ⟨latm, by rw [Check.length, answer]; rfl, ?_⟩
        have bounded := sizes check (List.mem_append_right _ (List.mem_singleton_self _)) declared
        exact Nat.lt_of_le_of_lt bounded (Nat.lt_of_lt_of_le shorter (Nat.le_max_left _ _))
      | false =>
        rw [if_neg (by rw [skipped]; exact Bool.false_ne_true), alone _ _ _ fun event member =>
          checkExchanges_kind checks event member] at answer
        refine .inl ?_
        rw [Check.length, answer]
        rfl

/-- The maximum that the checks found is the one of the plain search. -/
theorem longest_eq_maximum
    (found : ∀ check ∈ checks, check.length = check.matches callbacks events ∨
      (callbacks.longestAcceptableTokenMatchb = true ∧ check.length = 0 ∧
        check.matches callbacks events < longest checks)) :
    longest checks = maximum (checks.map (·.matches callbacks events)) := by
  refine Nat.le_antisymm ?_ (maximum_le fun length member => ?_)
  · by_cases positive : 0 < longest checks
    · obtain ⟨check, member, length⟩ := exists_length_eq_longest positive
      rcases found check member with same | ⟨-, zero, -⟩
      · rw [← length, same]
        exact le_maximum (List.mem_map_of_mem member)
      · rw [← length, zero] at positive
        exact absurd positive (Nat.lt_irrefl 0)
    · exact Nat.le_trans (Nat.not_lt.mp positive) (Nat.zero_le _)
  · obtain ⟨check, checked, rfl⟩ := List.mem_map.mp member
    rcases found check checked with same | ⟨-, -, below⟩
    · rw [← same]
      exact length_le_longest checked
    · exact Nat.le_of_lt below

/-- What is selected is what the plain search keeps. -/
theorem selected_eq_keeps (positive : 0 < longest checks)
    (found : ∀ check ∈ checks, check.length = check.matches callbacks events ∨
      (callbacks.longestAcceptableTokenMatchb = true ∧ check.length = 0 ∧
        check.matches callbacks events < longest checks)) {check : Check} (member : check ∈ checks) :
    selected callbacks check.length (longest checks) =
      keeps callbacks (checks.map (·.matches callbacks events)) (check.matches callbacks events) := by
  rw [keeps, ← longest_eq_maximum found]
  unfold selected
  cases latm : callbacks.longestAcceptableTokenMatchb with
  | false =>
    rcases found check member with same | ⟨latm', -, -⟩
    · rw [same]
      rfl
    · rw [latm] at latm'
      cases latm'
  | true =>
    rw [if_pos rfl, if_pos rfl]
    refine Bool.eq_iff_iff.mpr ?_
    rw [beq_iff_eq, decide_eq_true_eq]
    rcases found check member with same | ⟨-, zero, below⟩
    · rw [same]
      exact ⟨fun longest => ⟨by rw [longest]; exact positive, longest⟩, fun kept => kept.2⟩
    · rw [zero]
      exact ⟨fun none => absurd positive (by rw [← none]; exact Nat.lt_irrefl 0),
        fun kept => absurd kept.2 (Nat.ne_of_lt below)⟩

/-- Without a match, the plain search keeps nothing. -/
theorem keeps_eq_false (none : ¬ 0 < longest checks)
    (found : ∀ check ∈ checks, check.length = check.matches callbacks events ∨
      (callbacks.longestAcceptableTokenMatchb = true ∧ check.length = 0 ∧
        check.matches callbacks events < longest checks)) {check : Check} (member : check ∈ checks) :
    keeps callbacks (checks.map (·.matches callbacks events)) (check.matches callbacks events) =
      false := by
  have zero : ¬ 0 < check.matches callbacks events := by
    intro positive
    have := le_maximum (List.mem_map_of_mem (f := (·.matches callbacks events)) member)
    rw [← longest_eq_maximum found] at this
    exact none (Nat.lt_of_lt_of_le positive this)
  unfold keeps
  cases callbacks.longestAcceptableTokenMatchb with
  | false => exact decide_eq_false zero
  | true => exact decide_eq_false fun kept => zero kept.1

end Checks

/-! ### The pushes -/

section Pushes

variable {marpa : Libmarpa V} {callbacks : RecognizerCallbacks V} {maxLengthl : Nat}
  {checks : List Check} {value : Int × Int} {events exchanges : List (Event V)} {through : Bool}

theorem alternativesIn_append (exchanges more : List (Event V)) :
    alternativesIn (exchanges ++ more) = alternativesIn exchanges ++ alternativesIn more :=
  List.filterMap_append

theorem Unhindered.mono {exchanges more : List (Event V)} (unhindered : Unhindered more)
    (within : ∀ event ∈ exchanges, event ∈ more) : Unhindered exchanges :=
  ⟨fun datavp member => unhindered.1 datavp (within _ member),
    fun symbolId value length code member => unhindered.2 symbolId value length code
      (within _ member)⟩

theorem Obtained.alternatives {check : Check} {fresh : Int × Int} {fetch : List (Event V)}
    (obtained : Obtained callbacks check value events fetch fresh) : alternativesIn fetch = [] := by
  cases obtained <;> rfl

theorem selectedIds_cons (check : Check) (checks : List Check) :
    selectedIds callbacks maxLengthl (check :: checks) =
      if selected callbacks check.length maxLengthl = true then
        check.symbol.marpaSymbolIdi :: selectedIds callbacks maxLengthl checks
      else selectedIds callbacks maxLengthl checks := by
  rw [selectedIds, List.filter_cons]
  split
  · rfl
  · rfl

/-- The selected terminals are passed in their order, up to one that is refused or rejected. -/
theorem Pushes.alternatives
    (pushes : Pushes marpa callbacks maxLengthl checks value events exchanges through) :
    alternativesIn exchanges <+: selectedIds callbacks maxLengthl checks ∧
      (Unhindered exchanges →
        alternativesIn exchanges = selectedIds callbacks maxLengthl checks) := by
  induction pushes with
  | nil => exact ⟨List.prefix_rfl, fun _ => rfl⟩
  | unselected shorter _ inductionHypothesis =>
    rw [selectedIds_cons, if_neg (by rw [shorter]; exact Bool.false_ne_true)]
    exact inductionHypothesis
  | refused chosen _ _ =>
    exact ⟨List.nil_prefix, fun unhindered =>
      absurd (List.mem_singleton_self _) (unhindered.1 _)⟩
  | rejected chosen obtained answer failure =>
    rw [selectedIds_cons, if_pos chosen, alternativesIn_append, obtained.alternatives]
    refine ⟨List.prefix_append [_] _, fun unhindered => absurd ?_ failure⟩
    exact unhindered.2 _ _ _ _ (List.mem_append_right _ (List.mem_singleton_self _))
  | accepted chosen obtained answer _ inductionHypothesis =>
    obtain ⟨before, whole⟩ := inductionHypothesis
    rw [selectedIds_cons, if_pos chosen, alternativesIn_append, alternativesIn_append,
      obtained.alternatives]
    refine ⟨List.prefix_cons_iff.mpr (.inr ⟨_, rfl, before⟩), fun unhindered => ?_⟩
    exact congrArg (_ :: ·) (whole (unhindered.mono fun event member =>
      List.mem_append_right _ member))

end Pushes

/-! ### The iterations -/

section Iterations

variable {marpa : Libmarpa V} {callbacks : RecognizerCallbacks V} {wrapper : Wrapper}
  {checks : List Check} {ids : List Int} {before events exchanges segment : List (Event V)}
  {through : Bool}

/-- What is passed is what the plain search keeps of the checks. -/
theorem Pushed.alternatives (pushed : Pushed marpa callbacks checks before exchanges through)
    (found : ∀ check ∈ checks, check.length = check.matches callbacks events ∨
      (callbacks.longestAcceptableTokenMatchb = true ∧ check.length = 0 ∧
        check.matches callbacks events < longest checks)) :
    alternativesIn exchanges <+: (checks.filter fun check =>
        keeps callbacks (checks.map (·.matches callbacks events))
          (check.matches callbacks events)).map (·.symbol.marpaSymbolIdi) ∧
      (Unhindered exchanges → alternativesIn exchanges = (checks.filter fun check =>
        keeps callbacks (checks.map (·.matches callbacks events))
          (check.matches callbacks events)).map (·.symbol.marpaSymbolIdi)) := by
  unfold Pushed at pushed
  by_cases positive : 0 < longest checks
  · rw [if_pos positive] at pushed
    have same : selectedIds callbacks (longest checks) checks = (checks.filter fun check =>
        keeps callbacks (checks.map (·.matches callbacks events))
          (check.matches callbacks events)).map (·.symbol.marpaSymbolIdi) := by
      rw [selectedIds, List.filter_congr fun check member =>
        selected_eq_keeps positive found member]
    rw [← same]
    exact pushed.alternatives
  · rw [if_neg positive] at pushed
    have none : (checks.filter fun check =>
        keeps callbacks (checks.map (·.matches callbacks events))
          (check.matches callbacks events)) = [] :=
      List.filter_eq_nil_iff.mpr fun check member => by
        rw [keeps_eq_false positive found member]
        exact Bool.false_ne_true
    rw [none, pushed.1]
    exact ⟨List.nil_prefix, fun _ => rfl⟩

variable (events) in
/-- The symbol of a check is the registered one, as far as the plain search looks at it. -/
theorem Lexemes.looksUp {pushes : List (Event V)}
    (lexemes : Lexemes marpa callbacks wrapper ids before checks pushes through) {check : Check}
    (member : check ∈ checks) :
    matchLength callbacks wrapper events check.pointer = check.matches callbacks events ∧
      objectId wrapper check.pointer = check.symbol.marpaSymbolIdi := by
  obtain ⟨symbol, found, same⟩ := Option.map_eq_some_iff.mp (lexemes.symbols check member)
  have option : symbol.marpaWrapperSymbolOption = check.symbol.marpaWrapperSymbolOption :=
    congrArg (·.marpaWrapperSymbolOption) same
  have id : symbol.marpaSymbolIdi = check.symbol.marpaSymbolIdi :=
    congrArg (·.marpaSymbolIdi) same
  rw [matchLength, objectId, Int.toNat_natCast, found, Option.bind_some, Option.map_some,
    Option.getD_some, option]
  exact ⟨rfl, id⟩

end Iterations

/-! ### Runs -/

/-- No symbol declares a size that its user data exceed. -/
def sized (wrapper : Wrapper) : Bool :=
  (cellsOf wrapper.marpaWrapperSymbolpp).all fun
    | .pointer symbol => decide (symbol.marpaWrapperSymbolOption.sizel = 0 ∨
        symbol.marpaWrapperSymbolOption.datavp ≤ symbol.marpaWrapperSymbolOption.sizel)
    | _ => true

/-- A run that returned. -/
def returned {α : Type} : EStateM.Result Fault (World Nat) α → Bool
  | .ok _ _ => true
  | .error _ _ => false

end MarpaWrapper
