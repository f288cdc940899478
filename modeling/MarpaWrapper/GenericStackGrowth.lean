/-
This file compares the two ways in which the value stack grows. `seti` raises the
size to the index it wrote. `getp` only pushes `NULL` until the buffer reaches the
index, and the size is what those pushes make of it: the last push is the one that
doubles the buffer, so the size ends one past a capacity. An index inside the
buffer does not move the size at all. Thus `getp` extends the stack up to an index
past the last entry only when the index is itself a capacity.
-/

import MarpaWrapper.GenericStackTermination

namespace MarpaWrapper

open Effects

variable {V : Type} {libc : Libc V} {fuel : Nat} {stack stack' : GenericStack V}
  {world world' : World V} {index : Nat}

/-! ### The size that growth ends with -/

/-- Past the buffer the growth loop ends with one entry behind the largest capacity that is not
above the index. -/
theorem growTo_size (turns : Nat) (sound : stack.Sound)
    (beyond : stack.allocSizei ≤ index) {grown : GenericStack V}
    (run : loop .exhausted (growToTurn libc fuel index) turns stack world = .ok grown world') :
    ∃ doublings, grown.stackSizei = stack.allocSizei * 2 ^ doublings + 1 ∧
      grown.allocSizei = stack.allocSizei * 2 ^ (doublings + 1) ∧
      stack.allocSizei * 2 ^ doublings ≤ index := by
  induction turns generalizing stack world with
  | zero => cases run
  | succ turns inductionHypothesis =>
    obtain ⟨left, outcome, between, same, turn, rest⟩ := loop_eq_ok run
    obtain rfl : turns = left := Nat.succ.inj same
    obtain ⟨next, rfl, made⟩ := growToTurn_inv sound beyond turn
    obtain ⟨sound', -⟩ := made.keeps sound
    cases made with
    | pads room =>
      have ends := inductionHypothesis sound' beyond rest
      exact ends
    | retries full refusal => exact inductionHypothesis sound' beyond rest
    | doubles full small grant =>
      by_cases again : stack.allocSizei * 2 ≤ index
      · obtain ⟨doublings, size, capacity, below⟩ := inductionHypothesis sound' again rest
        have doubled (count : Nat) : stack.allocSizei * 2 * 2 ^ count =
            stack.allocSizei * 2 ^ (count + 1) := by
          rw [Nat.mul_assoc, ← Nat.pow_succ']
        refine ⟨doublings + 1, ?_, ?_, ?_⟩
        · rw [← doubled]
          exact size
        · rw [← doubled]
          exact capacity
        · rw [← doubled]
          exact below
      · cases turns with
        | zero => cases rest
        | succ turns =>
          have reached : index < (stack.enlarged world.nextAddress).extended.allocSizei :=
            Nat.not_le.mp again
          simp only at rest
          rw [loop_done (growToTurn_done reached)] at rest
          cases rest
          refine ⟨0, ?_, ?_, ?_⟩
          · show stack.stackSizei + 1 = _
            rw [full, Nat.pow_zero, Nat.mul_one]
          · rfl
          · rwa [Nat.pow_zero, Nat.mul_one]

/-! ### Growth that agrees -/

/-- The stack with leave to grow on writes. -/
def GenericStack.growingOnSet (stack : GenericStack V) : GenericStack V :=
  { stack with optionGrowOnSeti := true }

/-- What `getp` is to leave of `stack`: the size reaches the index, the new entries are `NULL`, the
others are as they were, the next push lands behind the last entry, and past the last entry all
this is what `seti` leaves for `NULL`. -/
structure GrowsLikeSet (libc : Libc V) (fuel : Nat) (stack : GenericStack V) (world : World V)
    (index : Nat) (stack' : GenericStack V) (world' : World V) : Prop where
  size : stack'.stackSizei = max stack.stackSizei (index + 1)
  padded : ∀ other, stack.stackSizei ≤ other → other ≤ index → stack'.entry other = none
  kept : ∀ other, other < stack.stackSizei ∨ index < other →
    stack'.entry other = stack.entry other
  lands : ∀ elementp, ∃ pushed final stored,
    genericStackPushi libc fuel stack' elementp world' = .ok (1, pushed) final ∧
    stack'.Copies elementp stored ∧
    pushed.stackSizei = max stack.stackSizei (index + 1) + 1 ∧
    ∀ other, pushed.entry other =
      Function.update stack'.entry (max stack.stackSizei (index + 1)) stored other
  likeSet : stack.stackSizei ≤ index → ∃ set final,
    genericStackSeti libc fuel stack.growingOnSet index none world = .ok (1, set) final ∧
    set.stackSizei = stack'.stackSizei ∧ ∀ other, set.entry other = stack'.entry other

theorem GenericStack.Sound.growingOnSet (sound : stack.Sound) : stack.growingOnSet.Sound :=
  ⟨sound.bounded, sound.room, sound.used, sound.written, sound.beyond, sound.doubled⟩

/-- A push lands behind the last entry. -/
theorem lands_of_space (grants : libc.AlwaysGrants) (enough : 2 ^ 32 ≤ fuel) (sound : stack.Sound)
    (callable : stack.Callable) (space : stack.stackSizei < 2 ^ 31) (world : World V)
    (elementp : Option (Element V)) :
    ∃ pushed final stored,
      genericStackPushi libc fuel stack elementp world = .ok (1, pushed) final ∧
      stack.Copies elementp stored ∧ pushed.stackSizei = stack.stackSizei + 1 ∧
      ∀ other, pushed.entry other = Function.update stack.entry stack.stackSizei stored other := by
  obtain ⟨pushed, final, stored, run, became, -, storing, -⟩ :=
    genericStackPushi_run grants enough sound callable space elementp world
  exact ⟨pushed, final, stored, run, storing.copies, became.size, became.entries⟩

/-- Inside the buffer `getp` leaves the stack as it is, so it agrees for the indices of its
entries. -/
theorem growsLikeSet_inside (grants : libc.AlwaysGrants) (enough : 2 ^ 32 ≤ fuel)
    (sound : stack.Sound) (callable : stack.Callable) :
    GrowsLikeSet libc fuel stack world index stack world ↔
      index < stack.stackSizei ∧ stack.stackSizei < 2 ^ 31 := by
  have used := sound.used
  have bounded := sound.bounded
  constructor
  · intro grows
    have size := grows.size
    refine ⟨by omega, ?_⟩
    by_contra full
    obtain ⟨pushed, final, stored, run, -⟩ := grows.lands none
    obtain ⟨endless, exhausted⟩ :=
      genericStackPushi_exhausted fuel grants sound (by omega) none world
    rw [exhausted] at run
    cases run
  · rintro ⟨inside, space⟩
    have size : max stack.stackSizei (index + 1) = stack.stackSizei := Nat.max_eq_left inside
    refine ⟨size.symm, fun other above below => by omega, fun _ _ => rfl, fun elementp => ?_,
      fun above => by omega⟩
    rw [size]
    exact lands_of_space grants enough sound callable space world elementp

/-- Past the buffer `getp` agrees when it ends with the size that reaches the index. -/
theorem growsLikeSet_beyond (grants : libc.AlwaysGrants) (enough : 2 ^ 32 ≤ fuel)
    (sound : stack.Sound) (callable : stack.Callable) (narrow : index < 2 ^ 31)
    (beyond : stack.allocSizei ≤ index) (grown : stack.GrownTo index stack') (world : World V)
    (exact : stack'.stackSizei = index + 1) (space : stack'.stackSizei < 2 ^ 31) :
    GrowsLikeSet libc fuel stack world index stack' world' := by
  have used := sound.used
  have size : max stack.stackSizei (index + 1) = stack'.stackSizei := by
    rw [exact]
    exact Nat.max_eq_right (by omega)
  have entries (other : Nat) : stack'.entry other =
      if other < stack.stackSizei then stack.entry other else none := by
    rw [grown.became.entries, sound.padded (grown.passed beyond)]
  refine ⟨size.symm, fun other above below => ?_, fun other outside => ?_, fun elementp => ?_,
    fun above => ?_⟩
  · rw [entries, if_neg (Nat.not_lt.mpr above)]
  · rw [entries]
    by_cases old : other < stack.stackSizei
    · rw [if_pos old]
    · rw [if_neg old, sound.beyond other (by omega)]
  · rw [size]
    exact lands_of_space grants enough grown.became.sound
      (callable.of_sameSettings grown.became.settings) space world' elementp
  · have callable' : stack.growingOnSet.Callable := ⟨callable.free, callable.copy⟩
    obtain ⟨set, final, stored, run, became, storing, -⟩ :=
      genericStackSeti_run grants enough sound.growingOnSet callable' narrow (.inr rfl)
        (.none_right _) world
    obtain rfl : stored = none := by
      cases stored with
      | none => rfl
      | some element => exact storing.copies.elim
    refine ⟨set, final, run, became.size.trans size, fun other => ?_⟩
    rw [became.entries, entries, GenericStack.setEntry]
    by_cases here : other = index
    · rw [here, Function.update_self, if_neg (by omega)]
    · rw [Function.update_of_ne here]
      show (if stack.allocSizei ≤ index ∧ stack.stackSizei ≤ other then none
        else stack.entry other) = _
      by_cases old : other < stack.stackSizei
      · rw [if_pos old, if_neg (by omega)]
      · rw [if_neg old, if_pos ⟨beyond, Nat.not_lt.mp old⟩]

/-- On a stack that is reached and may grow on reads, with every allocation granted, `getp` grows
as `seti` does exactly for the indices of its entries (while there is room for a push) and for the
indices that are capacities. -/
theorem genericStackGetp_growsLikeSet_iff {optionp : Option (GenericStackOption V)}
    (grants : libc.AlwaysGrants) (enough : 2 ^ 32 ≤ fuel)
    (reached : StackReached libc optionp stack world)
    (callable : ∀ option ∈ optionp, option.Callable) (grows : stack.optionGrowOnGeti = true)
    (narrow : index < 2 ^ 31) :
    ∃ value stack' world',
      genericStackGetp libc fuel stack index world = .ok (value, stack') world' ∧
      (GrowsLikeSet libc fuel stack world index stack' world' ↔
        (index < stack.stackSizei ∧ stack.stackSizei < 2 ^ 31) ∨
          ∃ doublings, index = stack.allocSizei * 2 ^ doublings) := by
  obtain ⟨sound, callable'⟩ := reached.sound callable
  have used := sound.used
  have positive := sound.positive
  have capacity (doublings : Nat) : stack.allocSizei ≤ stack.allocSizei * 2 ^ doublings :=
    Nat.le_mul_of_pos_right _ (Nat.two_pow_pos _)
  by_cases below : index < stack.allocSizei
  · refine ⟨_, stack, world, genericStackGetp_run sound below (.inr grows) world, ?_⟩
    rw [growsLikeSet_inside grants enough sound callable']
    refine ⟨.inl, fun condition => condition.resolve_right ?_⟩
    rintro ⟨doublings, rfl⟩
    exact absurd below (Nat.not_lt.mpr (capacity doublings))
  · have beyond : stack.allocSizei ≤ index := Nat.not_lt.mp below
    obtain ⟨stack', world', growth, grown, -⟩ :=
      growTo_run grants enough sound narrow grows world
    have run : genericStackGetp libc fuel stack index world =
        .ok (stack'.entry index, stack') world' := by
      rw [genericStackGetp, run_bind_ok growth,
        if_neg (fun refused => refused.2 (by rw [grown.became.settings.optionGrowOnGeti, grows])),
        run_bind_ok (grown.became.sound.readCell grown.reached world')]
      rfl
    rw [growTo, if_pos ⟨beyond, grows⟩] at growth
    obtain ⟨doublings, size, capacity', inside⟩ := growTo_size fuel sound beyond growth
    have outside := grown.reached
    refine ⟨_, stack', world', run, fun agrees => .inr ⟨doublings, ?_⟩, fun condition => ?_⟩
    · have size' := agrees.size
      omega
    · obtain ⟨doublings', equal⟩ := condition.resolve_left (by omega)
      have same : doublings' = doublings := by
        rw [capacity', equal] at outside
        rw [equal] at inside
        have upper := (Nat.pow_lt_pow_iff_right (by decide)).mp (Nat.lt_of_mul_lt_mul_left outside)
        have lower := (Nat.pow_le_pow_iff_right (by decide)).mp
          (Nat.le_of_mul_le_mul_left inside positive)
        omega
      rw [same] at equal
      have bounded := grown.became.sound.bounded
      rw [capacity', Nat.pow_succ, ← Nat.mul_assoc, ← equal] at bounded
      exact growsLikeSet_beyond grants enough sound callable' narrow beyond grown world
        (by rw [size, equal]) (by rw [size, ← equal]; omega)

/-- The first index past the buffer of a new stack. -/
theorem genericStackGetp_growsLikeSet_four :
    ∃ value stack' world',
      genericStackGetp Libc.generous (2 ^ 32) growingStack 4 growOnSetWorld =
        .ok (value, stack') world' ∧
      (GrowsLikeSet Libc.generous (2 ^ 32) growingStack growOnSetWorld 4 stack' world' ↔
        (4 < growingStack.stackSizei ∧ growingStack.stackSizei < 2 ^ 31) ∨
          ∃ doublings, 4 = growingStack.allocSizei * 2 ^ doublings) :=
  genericStackGetp_growsLikeSet_iff Libc.generous_alwaysGrants (Nat.le_refl _)
    (growingStack_reached Libc.generous fun _ _ _ => rfl) growingOption_callable rfl (by decide)

/-- The first index of a new stack: `getp` leaves the stack empty, where `seti` leaves one entry. -/
theorem genericStackGetp_stays_empty :
    StackReached Libc.generous (some growingOption) growingStack growOnSetWorld ∧
      genericStackGetp Libc.generous (2 ^ 32) growingStack 0 growOnSetWorld =
        .ok (none, growingStack) growOnSetWorld ∧
      genericStackSizei growingStack = 0 ∧
      ¬ GrowsLikeSet Libc.generous (2 ^ 32) growingStack growOnSetWorld 0 growingStack
        growOnSetWorld := by
  refine ⟨growingStack_reached Libc.generous fun _ _ _ => rfl, rfl, rfl, fun grows => ?_⟩
  exact absurd grows.size (by decide)

end MarpaWrapper
