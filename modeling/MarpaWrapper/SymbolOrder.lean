/-
This file is about the order in which the terminals of a position are tried. The
comparator takes a negative first character for an unknown one and puts it last,
but it does so before it looks at the other symbol: of two unknown first
characters each comes after the other, and a symbol comes after itself. Moreover
the defaults of a symbol's option leave the first character unassigned. The order
is well defined when every first character is known, and in no other case.
-/

import MarpaWrapper.Recognizer

namespace MarpaWrapper

open Sorting

/-! ### The order -/

/-- The first character that the comparator reads, where `indeterminate` is what was never
assigned. -/
def MarpaWrapperSymbol.firstChar (symbol : MarpaWrapperSymbol) (indeterminate : Int) : Int :=
  symbol.marpaWrapperSymbolOption.firstChari.getD indeterminate

/-- The comparator on an array of pointers to symbols. -/
def terminalCmp (indeterminate : Int) (terminal1 terminal2 : Nat × MarpaWrapperSymbol) : Int :=
  marpaWrapperSymbolCmpBySizelDescFirstCharDesc indeterminate terminal1.2 terminal2.2

/-- Longer symbols come first. Of symbols with one size, those with a known first character come
first, in descending order of it. -/
def Precedes (indeterminate : Int) (left right : Nat × MarpaWrapperSymbol) : Prop :=
  right.2.marpaWrapperSymbolOption.sizel < left.2.marpaWrapperSymbolOption.sizel ∨
    right.2.marpaWrapperSymbolOption.sizel = left.2.marpaWrapperSymbolOption.sizel ∧
      (right.2.firstChar indeterminate < 0 ∨
        0 ≤ right.2.firstChar indeterminate ∧
          right.2.firstChar indeterminate ≤ left.2.firstChar indeterminate)

/-- The order of an array of terminals is well defined: the comparator reads what was assigned, it
is what a sort needs, and every sort leaves the order that is meant. -/
structure OrderWellDefined (terminals : List (Nat × MarpaWrapperSymbol)) : Prop where
  assigned : ∀ terminal ∈ terminals, terminal.2.marpaWrapperSymbolOption.firstChari.isSome = true
  consistent : ∀ indeterminate, ConsistentOn terminals (terminalCmp indeterminate)
  ordered : ∀ indeterminate (sort : {α : Type} → (α → α → Int) → List α → List α),
    ConformsOn @sort →
      (sort (terminalCmp indeterminate) terminals).Pairwise (Precedes indeterminate)

/-- The first character of a symbol was assigned and is known. -/
def MarpaWrapperSymbol.KnowsFirstChar (symbol : MarpaWrapperSymbol) : Prop :=
  ∃ first, symbol.marpaWrapperSymbolOption.firstChari = some first ∧ 0 ≤ first

theorem MarpaWrapperSymbol.KnowsFirstChar.nonneg {symbol : MarpaWrapperSymbol}
    (knows : symbol.KnowsFirstChar) (indeterminate : Int) :
    0 ≤ symbol.firstChar indeterminate := by
  obtain ⟨first, assigned, nonneg⟩ := knows
  rw [MarpaWrapperSymbol.firstChar, assigned]
  exact nonneg

/-! ### The comparator -/

section Comparator

variable {indeterminate : Int} {left right : Nat × MarpaWrapperSymbol}

/-- A symbol with an unknown first character comes after itself. -/
theorem terminalCmp_self (unknown : left.2.firstChar indeterminate < 0) :
    terminalCmp indeterminate left left = 1 := by
  unfold terminalCmp marpaWrapperSymbolCmpBySizelDescFirstCharDesc
  unfold MarpaWrapperSymbol.firstChar at unknown
  simp only
  rw [if_neg (Nat.lt_irrefl _), if_pos trivial, if_pos unknown]

/-- Among known first characters the comparator compares sizes, and first characters where the
sizes are the same. -/
theorem terminalCmp_known (known : 0 ≤ left.2.firstChar indeterminate)
    (known' : 0 ≤ right.2.firstChar indeterminate) :
    (terminalCmp indeterminate left right ≤ 0 ↔
      right.2.marpaWrapperSymbolOption.sizel < left.2.marpaWrapperSymbolOption.sizel ∨
        right.2.marpaWrapperSymbolOption.sizel = left.2.marpaWrapperSymbolOption.sizel ∧
          right.2.firstChar indeterminate ≤ left.2.firstChar indeterminate) ∧
    (terminalCmp indeterminate left right < 0 ↔
      right.2.marpaWrapperSymbolOption.sizel < left.2.marpaWrapperSymbolOption.sizel ∨
        right.2.marpaWrapperSymbolOption.sizel = left.2.marpaWrapperSymbolOption.sizel ∧
          right.2.firstChar indeterminate < left.2.firstChar indeterminate) := by
  unfold terminalCmp marpaWrapperSymbolCmpBySizelDescFirstCharDesc
  unfold MarpaWrapperSymbol.firstChar at known known' ⊢
  simp only
  rw [if_neg (Int.not_lt.mpr known), if_neg (Int.not_lt.mpr known')]
  constructor
  · split
    · omega
    · split
      · split
        · omega
        · split <;> omega
      · omega
  · split
    · omega
    · split
      · split
        · omega
        · split <;> omega
      · omega

end Comparator

/-! ### When the order is well defined -/

section WellDefined

variable {terminals : List (Nat × MarpaWrapperSymbol)}

/-- Known first characters are enough. -/
theorem terminalCmp_consistentOn (known : ∀ terminal ∈ terminals, terminal.2.KnowsFirstChar)
    (indeterminate : Int) : ConsistentOn terminals (terminalCmp indeterminate) := by
  have nonneg {terminal : Nat × MarpaWrapperSymbol} (member : terminal ∈ terminals) :
      0 ≤ terminal.2.firstChar indeterminate := (known terminal member).nonneg indeterminate
  refine ⟨fun item member => ?_, fun left member right member' => ?_,
    fun first member second member' third member'' => ?_⟩
  · have compare := terminalCmp_known (nonneg member) (nonneg member)
    omega
  · have forwards := terminalCmp_known (nonneg member) (nonneg member')
    have backwards := terminalCmp_known (nonneg member') (nonneg member)
    omega
  · have lower := terminalCmp_known (nonneg member) (nonneg member')
    have upper := terminalCmp_known (nonneg member') (nonneg member'')
    have both := terminalCmp_known (nonneg member) (nonneg member'')
    omega

/-- The order of the terminals is well defined exactly when every first character was assigned and
is known. -/
theorem terminalOrder_wellDefined_iff (terminals : List (Nat × MarpaWrapperSymbol)) :
    OrderWellDefined terminals ↔ ∀ terminal ∈ terminals, terminal.2.KnowsFirstChar := by
  constructor
  · intro wellDefined terminal member
    obtain ⟨first, assigned⟩ := Option.isSome_iff_exists.mp (wellDefined.assigned terminal member)
    refine ⟨first, assigned, ?_⟩
    by_contra negative
    have unknown : terminal.2.firstChar 0 < 0 := by
      rw [MarpaWrapperSymbol.firstChar, assigned]
      exact Int.not_le.mp negative
    have same := (wellDefined.consistent 0).refl terminal member
    rw [terminalCmp_self unknown] at same
    cases same
  · intro known
    refine ⟨fun terminal member => ?_, terminalCmp_consistentOn known,
      fun indeterminate sort conforms => ?_⟩
    · obtain ⟨first, assigned, -⟩ := known terminal member
      rw [assigned]
      rfl
    · have members {terminal : Nat × MarpaWrapperSymbol} :
          terminal ∈ sort (terminalCmp indeterminate) terminals ↔ terminal ∈ terminals :=
        (conforms.perm (terminalCmp indeterminate) terminals).mem_iff
      refine (conforms.ascending (terminalCmp_consistentOn known indeterminate)).imp_of_mem
        fun {left right} member member' le => ?_
      have known' := (known right (members.mp member')).nonneg indeterminate
      rcases (terminalCmp_known ((known left (members.mp member)).nonneg indeterminate)
        known').1.mp le with shorter | ⟨same, below⟩
      · exact .inl shorter
      · exact .inr ⟨same, .inr ⟨known', below⟩⟩

end WellDefined

/-- A symbol that was created with a `NULL` option. -/
def defaultSymbol (id : Nat) : MarpaWrapperSymbol where
  address := id
  marpaSymbolIdi := id
  marpaWrapperp := 0
  marpaWrapperSymbolOption := marpaWrapperSymbolOptionDefaultb
  isLexemeb := false
  lengthl := 0

/-- A symbol whose first character is set to what the documentation says the default is. -/
def documentedSymbol (id : Nat) : MarpaWrapperSymbol :=
  { defaultSymbol id with
    marpaWrapperSymbolOption := { marpaWrapperSymbolOptionDefaultb with firstChari := some (-1) } }

/-- Two terminals of one size are tried in no particular order. The default leaves their first
characters unassigned, and with the documented default each of them comes after the other. -/
theorem terminalOrder_undefined :
    ¬ OrderWellDefined [(0, defaultSymbol 0), (1, defaultSymbol 1)] ∧
      (∀ id, (defaultSymbol id).marpaWrapperSymbolOption.firstChari = none) ∧
      ¬ OrderWellDefined [(0, documentedSymbol 0), (1, documentedSymbol 1)] ∧
      terminalCmp 0 (0, documentedSymbol 0) (1, documentedSymbol 1) = 1 ∧
      terminalCmp 0 (1, documentedSymbol 1) (0, documentedSymbol 0) = 1 := by
  refine ⟨fun wellDefined => ?_, fun _ => rfl, fun wellDefined => ?_, by decide, by decide⟩
  · exact Bool.false_ne_true (wellDefined.assigned _ List.mem_cons_self)
  · have swapped := (wellDefined.consistent 0).swap _ List.mem_cons_self _
      (List.mem_cons_of_mem _ List.mem_cons_self)
    exact absurd swapped (by decide)

end MarpaWrapper
