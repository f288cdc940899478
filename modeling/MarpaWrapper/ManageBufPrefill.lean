/-
This file compares the two ways in which the slots that an array of pointers gains
are set to `NULL`. `memset` is told where to begin and how much to fill. The loop
counts with an `int` that is made of a `size_t` and compared with another one: it
never reaches a slot behind `INT_MAX`, and when the first slot is no `int` it begins
elsewhere. The two agree on every array of at most `2 ^ 31` slots.
-/

import MarpaWrapper.ProgressTable
import MarpaWrapper.ExpectedTerminals

namespace MarpaWrapper

open Effects

variable {V α : Type}

/-- The slots from `origSizei` on are `NULL` now, and the others are what they were. -/
structure Filled (origSizei sizei : Nat) (cells cells' : List (Slot α)) : Prop where
  length : cells'.length = cells.length
  gained : ∀ index, origSizei ≤ index → index < sizei → cells'[index]? = some .null
  kept : ∀ index, index < origSizei ∨ sizei ≤ index → cells'[index]? = cells[index]?

/-- The prefill of a build ends, and it fills the slots that were gained and no others. -/
def PrefillsExactly (V α : Type) (build : Build) (origSizei sizei : Nat) : Prop :=
  ∀ (cells : List (Slot α)) (world : World V), sizei ≤ cells.length →
    ∃ least, ∀ fuel, least ≤ fuel → ∃ cells',
      prefill fuel build sizeModulus cells origSizei sizei pointerSize world = .ok cells' world ∧
        Filled origSizei sizei cells cells'

section Prefills

variable {fuel origSizei sizei : Nat} {cells cells' : List (Slot α)} {world world' : World V}

/-! ### The two variants -/

theorem Filled.refl (cells : List (Slot α)) (size : Nat) : Filled size size cells cells :=
  ⟨rfl, fun _ above below => absurd below (Nat.not_lt.mpr above), fun _ _ => rfl⟩

variable (world) in
/-- `memset` fills what it is told to, as long as the number of bytes fits. -/
theorem prefillZeroes_filled (ordered : origSizei ≤ sizei) (room : sizei ≤ cells.length)
    (fits : (sizei - origSizei) * pointerSize < sizeModulus) :
    ∃ cells', prefillZeroes sizeModulus cells origSizei sizei pointerSize world =
      .ok cells' world ∧ Filled origSizei sizei cells cells' := by
  have positive : 0 < pointerSize := by decide
  have taken : (cells.take origSizei).length = origSizei := by
    rw [List.length_take]
    omega
  rw [prefillZeroes]
  simp only [Nat.mod_eq_of_lt fits, Nat.mul_div_cancel _ positive]
  rw [if_pos (by omega), Nat.add_sub_cancel' ordered]
  refine ⟨_, rfl, ?_, fun index above below => ?_, fun index outside => ?_⟩
  · rw [List.length_append, List.length_append, taken, List.length_replicate, List.length_drop]
    omega
  · rw [List.append_assoc, List.getElem?_append_right (by rwa [taken]), taken,
      List.getElem?_append_left (by rw [List.length_replicate]; omega), List.getElem?_replicate,
      if_pos (by omega)]
  · rw [List.append_assoc]
    rcases outside with below | above
    · rw [List.getElem?_append_left (by rwa [taken]), List.getElem?_take_of_lt below]
    · rw [List.getElem?_append_right (by rw [taken]; omega), taken,
        List.getElem?_append_right (by rw [List.length_replicate]; omega), List.length_replicate,
        List.getElem?_drop]
      congr 1
      omega

/-- One turn of the loop that returns. -/
theorem prefillTurn_return {frame : Int × List (Slot α)}
    {outcome : Turn (Int × List (Slot α)) (List (Slot α))}
    (run : prefillTurn sizeModulus sizei frame world = .ok outcome world') :
    (outcome = .done frame.2 ∧ ¬ (frame.1 % sizeModulus).toNat < sizei) ∨
      (0 ≤ frame.1 ∧ frame.1.toNat < frame.2.length ∧
        outcome = .next (toInt (frame.1 + 1), frame.2.set frame.1.toNat .null)) := by
  unfold prefillTurn at run
  by_cases inside : (frame.1 % sizeModulus).toNat < sizei
  · rw [if_pos inside] at run
    by_cases negative : frame.1 < 0
    · rw [if_pos negative] at run
      cases run
    · rw [if_neg negative] at run
      obtain ⟨cells, between, written, rest⟩ := run_bind_eq_ok run
      obtain ⟨rfl, within, rfl⟩ := writeCell_eq_ok written
      cases rest
      exact .inr ⟨Int.not_lt.mp negative, within, rfl⟩
  · rw [if_neg inside] at run
    cases run
    exact .inl ⟨rfl, inside⟩

/-- An `int` is below `2 ^ 31`. -/
theorem toInt_lt (value : Int) : toInt value < 2 ^ 31 := by
  have bound : toInt value < ((uintModulus : Int) + 1) / 2 :=
    Int.bmod_lt (by decide : 0 < uintModulus)
  unfold uintModulus at bound
  omega

/-- What the loop's turns keep holds of what it returns. -/
theorem prefillLoop_keeps (invariant : Int × List (Slot α) → Prop) {frame : Int × List (Slot α)}
    (run : loop .exhausted (prefillTurn sizeModulus sizei) fuel frame world = .ok cells' world')
    (holds : invariant frame)
    (kept : ∀ counter cells, invariant (counter, cells) → 0 ≤ counter →
      counter.toNat < cells.length →
      invariant (toInt (counter + 1), cells.set counter.toNat .null)) :
    ∃ counter, invariant (counter, cells') := by
  have turns : Triple (fun _ : World V => invariant frame)
      (loop .exhausted (prefillTurn sizeModulus sizei) fuel frame)
      (fun cells' _ => ∃ counter, invariant (counter, cells')) fun _ _ => True := by
    refine Triple.loop (fun frame _ => invariant frame) (fun frame => .of_return ?_)
      (fun _ _ _ => trivial) fuel frame
    intro state outcome next holds turn
    rcases prefillTurn_return turn with ⟨rfl, -⟩ | ⟨positive, within, rfl⟩
    · exact ⟨frame.1, holds⟩
    · exact kept frame.1 frame.2 holds positive within
  exact turns.ok holds run

/-- The loop does not reach the slots behind `INT_MAX`. -/
theorem prefillLoop_far {counter : Int} (small : counter < 2 ^ 31)
    (run : loop .exhausted (prefillTurn sizeModulus sizei) fuel (counter, cells) world =
      .ok cells' world') {index : Nat} (far : 2 ^ 31 ≤ index) : cells'[index]? = cells[index]? := by
  obtain ⟨_, -, same⟩ := prefillLoop_keeps
    (fun frame => frame.1 < 2 ^ 31 ∧ frame.2[index]? = cells[index]?) run ⟨small, rfl⟩
    fun counter between holds positive _ => ⟨toInt_lt _, by
      rw [List.getElem?_set_ne (by omega), holds.2]⟩
  exact same

/-- The slot that the loop begins with is `NULL` afterwards. -/
theorem prefillLoop_first {first : Nat} (small : first < 2 ^ 31) (below : first < sizei)
    (run : loop .exhausted (prefillTurn sizeModulus sizei) fuel ((first : Int), cells) world =
      .ok cells' world') : cells'[first]? = some .null := by
  obtain ⟨left, outcome, between, rfl, turn, rest⟩ := loop_eq_ok run
  have counter : ((first : Int) % sizeModulus).toNat = first := by
    unfold sizeModulus
    omega
  rcases prefillTurn_return turn with ⟨-, stops⟩ | ⟨-, within, rfl⟩
  · exact absurd (by rw [counter]; exact below) stops
  · obtain ⟨_, null⟩ := prefillLoop_keeps (fun frame => frame.2[first]? = some .null) rest
      (List.getElem?_set_self within) fun counter cells null _ within => by
        show (cells.set counter.toNat .null)[first]? = _
        by_cases here : counter.toNat = first
        · rw [here] at within ⊢
          exact List.getElem?_set_self within
        · rw [List.getElem?_set_ne here, null]
    exact null

/-! ### When they agree -/

/-- The prefill that fills nothing: where the loop begins there is no slot to fill. -/
theorem prefillLoop_stops {counter : Int} (stops : ¬ (counter % sizeModulus).toNat < sizei)
    (enough : 0 < fuel) :
    loop .exhausted (prefillTurn sizeModulus sizei) fuel (counter, cells) world =
      .ok cells world := by
  obtain ⟨fuel, rfl⟩ : ∃ left, fuel = left + 1 := ⟨fuel - 1, by omega⟩
  refine loop_done ?_
  rw [prefillTurn, if_neg stops]
  rfl

/-- An array of at most `2 ^ 31` slots, and one that gained none and whose size makes a negative
`int`. -/
theorem prefillsExactly_of (build : Build) (ordered : origSizei ≤ sizei)
    (representable : sizei < sizeModulus)
    (narrow : sizei ≤ 2 ^ 31 ∨ (origSizei = sizei ∧ 2 ^ 31 ≤ sizei % 2 ^ 32)) :
    PrefillsExactly V α build origSizei sizei := by
  intro cells world room
  cases zeroes : build.nullIsZeroes with
  | true =>
    refine ⟨0, fun fuel _ => ?_⟩
    have fits : (sizei - origSizei) * pointerSize < sizeModulus := by
      unfold pointerSize sizeModulus
      omega
    obtain ⟨cells', run, filled⟩ := prefillZeroes_filled world ordered room fits
    exact ⟨cells', by rw [prefill, zeroes, if_pos rfl, run], filled⟩
  | false =>
    have loops (fuel : Nat) : prefill fuel build sizeModulus cells origSizei sizei pointerSize world =
        loop .exhausted (prefillTurn sizeModulus sizei) fuel (toInt origSizei, cells) world := by
      rw [prefill, zeroes, if_neg Bool.false_ne_true]
    rcases narrow with narrow | ⟨rfl, negative⟩
    · refine ⟨2 ^ 32, fun fuel enough => ?_⟩
      obtain ⟨cells', run, length, kept, gained⟩ :=
        prefillLoop_run fuel world room (by omega)
          (show origSizei ≤ 2 ^ 31 by omega) ordered (by omega)
      refine ⟨cells', by rw [loops, run], length, fun index above below =>
        gained index above below (by omega), fun index outside => ?_⟩
      rcases outside with below | above
      · exact kept index (.inl below)
      · exact kept index (.inr (.inl above))
    · refine ⟨1, fun fuel enough => ⟨cells, ?_, .refl cells origSizei⟩⟩
      rw [loops]
      refine prefillLoop_stops ?_ enough
      unfold toInt uintModulus
      rw [Int.bmod_def]
      unfold sizeModulus at representable ⊢
      split <;> omega

/-- An `int` that is made of a size whose last 32 bits are no negative `int`. -/
theorem toInt_low {size : Nat} (low : size % 2 ^ 32 < 2 ^ 31) :
    toInt size = ((size % 2 ^ 32 : Nat) : Int) := by
  unfold toInt uintModulus
  rw [Int.bmod_def]
  split <;> omega

/-- The loop of a longer array does not fill what it should, or it fills what it should not. -/
theorem narrow_of_prefillsExactly (ordered : origSizei ≤ sizei)
    (exact : PrefillsExactly V α { nullIsZeroes := false } origSizei sizei) :
    sizei ≤ 2 ^ 31 ∨ (origSizei = sizei ∧ 2 ^ 31 ≤ sizei % 2 ^ 32) := by
  by_contra otherwise
  rw [not_or] at otherwise
  obtain ⟨wide, otherwise⟩ := otherwise
  have fresh (index : Nat) (below : index < sizei) :
      (List.replicate sizei (.indeterminate : Slot α))[index]? = some .indeterminate := by
    rw [List.getElem?_replicate, if_pos below]
  obtain ⟨least, ends⟩ := exact (List.replicate sizei .indeterminate) {}
    (Nat.le_of_eq List.length_replicate.symm)
  obtain ⟨cells', run, filled⟩ := ends least (Nat.le_refl _)
  rw [prefill, if_neg Bool.false_ne_true] at run
  by_cases gains : origSizei < sizei
  · -- The last slot was gained.
    have last : sizei - 1 < sizei := by omega
    have null := filled.gained (sizei - 1) (by omega) last
    rw [prefillLoop_far (toInt_lt _) run (by omega), fresh _ last] at null
    cases null
  · -- Nothing was gained, and the loop begins with an older slot.
    obtain rfl : origSizei = sizei := by omega
    have low : origSizei % 2 ^ 32 < 2 ^ 31 := by
      by_contra high
      exact otherwise ⟨rfl, Nat.le_of_not_lt high⟩
    rw [toInt_low low] at run
    have below : origSizei % 2 ^ 32 < origSizei := by omega
    have null := prefillLoop_first low below run
    rw [filled.kept _ (.inl below), fresh _ below] at null
    cases null

/-- Both builds fill exactly the slots that were gained if and only if the array has at most
`2 ^ 31` slots, or it gained none and its size makes a negative `int`. -/
theorem prefill_exact_iff (ordered : origSizei ≤ sizei) (representable : sizei < sizeModulus) :
    (∀ build, PrefillsExactly V α build origSizei sizei) ↔
      sizei ≤ 2 ^ 31 ∨ (origSizei = sizei ∧ 2 ^ 31 ≤ sizei % 2 ^ 32) :=
  ⟨fun exact => narrow_of_prefillsExactly ordered (exact _), fun narrow build =>
    prefillsExactly_of build ordered representable narrow⟩

end Prefills

/-- The first 100 slots. -/
theorem prefill_exact_first :
    (∀ build, PrefillsExactly Nat Nat build 0 100) ↔
      100 ≤ 2 ^ 31 ∨ (0 = 100 ∧ 2 ^ 31 ≤ 100 % 2 ^ 32) :=
  prefill_exact_iff (by decide) (by decide)

/-- The last doubling that leads beyond `2 ^ 31` slots. -/
theorem prefill_inexact :
    ¬ ∀ build, PrefillsExactly Nat Nat build (100 * 2 ^ 24) (100 * 2 ^ 25) := by
  intro exact
  have narrow := narrow_of_prefillsExactly (by decide) (exact { nullIsZeroes := false })
  omega

end MarpaWrapper
