/-
This file is about when the operations of the value stack return. The growth loop
of `getp` and `seti` pushes until the buffer reaches the index and does not look at
the results of the pushes: a refused request is made again, so the loop ends only
if every request is granted after finitely many refusals. The loop that clears the
new cells counts in 32 bits, so no index from `2 ^ 31` on is reached at all.
-/

import MarpaWrapper.GenericStackCapacity

namespace MarpaWrapper

open Effects

variable {V : Type} {libc : Libc V} {fuel : Nat} {stack stack' : GenericStack V}
  {world world' : World V} {index : Nat}

/-! ### One push of `NULL`, whatever is granted -/

/-- What a report to the failure callback adds to the record. -/
def failureReport (failureCallbackp : Bool) (errorType : GenericStackError) (errorNumber : Int) :
    List (Event V) :=
  if failureCallbackp then [.stackFailure errorType errorNumber] else []

theorem reportFailure_eq (failureCallbackp : Bool) (errorType : GenericStackError)
    (errorNumber : Int) (world : World V) :
    reportFailure failureCallbackp errorType errorNumber world =
      .ok () { world with
        events := world.events ++ failureReport failureCallbackp errorType errorNumber } := by
  cases failureCallbackp with
  | false =>
    rw [failureReport, if_neg Bool.false_ne_true, List.append_nil]
    rfl
  | true => rfl

theorem GenericStack.Sound.positive (sound : stack.Sound) : 0 < stack.allocSizei := by
  obtain ⟨doublings, size⟩ := sound.doubled
  rw [size]
  exact Nat.mul_pos (by decide) (Nat.two_pow_pos _)

/-- The number of bytes that a full stack asks for. -/
def GenericStack.doubledBytes (stack : GenericStack V) : Nat :=
  stack.allocSizei * 2 * pointerSize

theorem GenericStack.Sound.doubling_size (sound : stack.Sound) :
    stack.allocSizei * 2 % sizeModulus = stack.allocSizei * 2 := by
  have bounded := sound.bounded
  exact Nat.mod_eq_of_lt (by simp only [sizeModulus]; omega)

theorem GenericStack.Sound.doubling_bytes (sound : stack.Sound) :
    stack.allocSizei * 2 * pointerSize % sizeModulus = stack.doubledBytes := by
  have bounded := sound.bounded
  exact Nat.mod_eq_of_lt (by simp only [sizeModulus, pointerSize]; omega)

/-- What a refused doubling adds to the record. -/
def growthRefusal (failureCallbackp : Bool) (bytes : Nat) : List (Event V) :=
  .realloc bytes none :: failureReport failureCallbackp .system enomem

/-- A full stack whose request is refused stays as it is. -/
theorem growBuffer_refused (fuel : Nat) (sound : stack.Sound)
    (full : stack.stackSizei = stack.allocSizei)
    (refusal : libc.grants world.events stack.doubledBytes = false) :
    growBuffer libc fuel stack world = .ok (false, stack) { world with
      events := world.events ++ growthRefusal stack.failureCallbackp stack.doubledBytes } := by
  unfold growBuffer
  simp only [if_pos (Nat.le_of_eq full.symm : stack.stackSizei ≥ stack.allocSizei),
    sound.doubling_size, sound.doubling_bytes]
  rw [realloc, run_bind_ok (run_acquire_refused refusal)]
  simp only
  rw [run_bind_ok (reportFailure_eq _ _ _ _), List.append_assoc]
  rfl

/-- A full stack whose request is granted has its buffer doubled. -/
theorem growBuffer_granted (enough : 2 ^ 32 ≤ fuel) (sound : stack.Sound)
    (full : stack.stackSizei = stack.allocSizei) (small : stack.allocSizei < 2 ^ 31)
    (grant : libc.grants world.events stack.doubledBytes = true) :
    growBuffer libc fuel stack world = .ok (true, stack.enlarged world.nextAddress) { world with
      events := world.events ++ [.realloc stack.doubledBytes (some world.nextAddress)]
      nextAddress := world.nextAddress + 1 } := by
  have doubled := sound.double_le small
  unfold growBuffer
  simp only [if_pos (Nat.le_of_eq full.symm : stack.stackSizei ≥ stack.allocSizei),
    sound.doubling_size, sound.doubling_bytes]
  rw [realloc, run_bind_ok (run_acquire_granted grant)]
  simp only
  rw [run_bind_ok (fillNull_run (by simp only [uintModulus]; omega)
    (by rw [resize_length, GenericStack.doubledBytes]; simp only [pointerSize]; omega) (by omega)
    (by omega))]
  rfl

/-- A stack of `2 ^ 31` cells whose request is granted clears its new cells for ever. -/
theorem growBuffer_endless (fuel : Nat) (sound : stack.Sound)
    (full : stack.stackSizei = stack.allocSizei) (last : stack.allocSizei = 2 ^ 31)
    (grant : libc.grants world.events stack.doubledBytes = true) :
    ∃ world', growBuffer libc fuel stack world = .error .exhausted world' := by
  unfold growBuffer
  simp only [if_pos (Nat.le_of_eq full.symm : stack.stackSizei ≥ stack.allocSizei),
    sound.doubling_size, sound.doubling_bytes]
  rw [realloc, run_bind_ok (run_acquire_granted grant)]
  simp only
  rw [run_bind_error (fillNull_exhausted fuel _ (by simp only [uintModulus]; omega)
    (by rw [resize_length, GenericStack.doubledBytes]; simp only [pointerSize]; omega))]
  exact ⟨_, rfl⟩

theorem growBuffer_room (room : stack.stackSizei < stack.allocSizei) :
    growBuffer libc fuel stack world = .ok (true, stack) world := by
  rw [growBuffer, if_neg (Nat.not_le.mpr room)]
  rfl

theorem fillNull_world {cells cells' : List (Slot (Element V))} {first bound : Nat}
    (run : fillNull fuel cells first bound world = .ok cells' world') : world' = world := by
  have keeps : Keeps (fun state => state = world) (fillNull fuel cells first bound) :=
    .loop (fun _ => .ite (.bind (.ite (.pure _) (.throw _)) fun _ => .pure _) (.pure _)) _ _
  exact Triple.ok keeps rfl run

/-- A `growBuffer` that returns found room, was refused its request, or doubled the buffer. -/
theorem growBuffer_inv (sound : stack.Sound) {grows : Bool} {grown : GenericStack V}
    (run : growBuffer libc fuel stack world = .ok (grows, grown) world') :
    (stack.stackSizei < stack.allocSizei ∧ grows = true ∧ grown = stack ∧ world' = world) ∨
    (stack.stackSizei = stack.allocSizei ∧ grows = false ∧ grown = stack ∧
      libc.grants world.events stack.doubledBytes = false ∧ world' = { world with
        events := world.events ++ growthRefusal stack.failureCallbackp stack.doubledBytes }) ∨
    (stack.stackSizei = stack.allocSizei ∧ grows = true ∧ stack.allocSizei < 2 ^ 31 ∧
      grown = stack.enlarged world.nextAddress ∧
      libc.grants world.events stack.doubledBytes = true ∧ world' = { world with
        events := world.events ++ [.realloc stack.doubledBytes (some world.nextAddress)]
        nextAddress := world.nextAddress + 1 }) := by
  have used := sound.used
  by_cases room : stack.stackSizei < stack.allocSizei
  · rw [growBuffer_room room] at run
    cases run
    exact .inl ⟨room, rfl, rfl, rfl⟩
  · have full : stack.stackSizei = stack.allocSizei := by omega
    cases grant : libc.grants world.events stack.doubledBytes with
    | false =>
      rw [growBuffer_refused fuel sound full grant] at run
      cases run
      exact .inr (.inl ⟨full, rfl, rfl, rfl, rfl⟩)
    | true =>
      have bytes : stack.doubledBytes = stack.allocSizei * 2 * pointerSize := rfl
      unfold growBuffer at run
      simp only [if_pos (Nat.le_of_eq full.symm : stack.stackSizei ≥ stack.allocSizei),
        sound.doubling_size, sound.doubling_bytes] at run
      rw [realloc, run_bind_ok (run_acquire_granted grant)] at run
      obtain ⟨cells, between, filled, rest⟩ := run_bind_eq_ok run
      -- Only a bound that an `unsigned int` can count is reached.
      have inside : stack.allocSizei * 2 ≤ (resize stack.bufpp stack.doubledBytes).length := by
        rw [resize_length, bytes, Nat.mul_div_cancel _ (by decide)]
      obtain ⟨narrow, rfl⟩ := (fillNull_inside inside (by omega)).ok trivial filled
      have small : stack.allocSizei < 2 ^ 31 := by
        unfold uintModulus at narrow
        omega
      obtain rfl := fillNull_world filled
      cases rest
      exact .inr (.inr ⟨full, rfl, small, rfl, rfl, rfl⟩)

/-- The stack with `NULL` behind its last entry. -/
def GenericStack.extended (stack : GenericStack V) : GenericStack V :=
  { stack with
    bufpp := stack.bufpp.set stack.stackSizei .null
    stackSizei := stack.stackSizei + 1 }

theorem GenericStack.Sound.extended (sound : stack.Sound)
    (room : stack.stackSizei < stack.allocSizei) : stack.extended.Sound := by
  have written : (Slot.null : Slot (Element V)) ≠ .indeterminate := by simp
  exact (sound.became_of_set written room room).sound

/-- Every cell keeps what it holds or becomes empty. -/
def GenericStack.Thins (stack stack' : GenericStack V) : Prop :=
  ∀ index element, stack'.entry index = some element → stack.entry index = some element

theorem GenericStack.Thins.refl (stack : GenericStack V) : stack.Thins stack :=
  fun _ _ found => found

theorem GenericStack.Thins.trans {between : GenericStack V} (thins : stack.Thins between)
    (thins' : between.Thins stack') : stack.Thins stack' :=
  fun index element found => thins index element (thins' index element found)

theorem GenericStack.Thins.entry_none (thins : stack.Thins stack')
    (empty : stack.entry index = none) : stack'.entry index = none := by
  refine Option.eq_none_iff_forall_ne_some.mpr fun element found => ?_
  rw [thins index element found] at empty
  cases empty

theorem GenericStack.Sound.extended_thins (sound : stack.Sound)
    (room : stack.stackSizei < stack.allocSizei) : stack.Thins stack.extended := by
  intro index element found
  have written : (Slot.null : Slot (Element V)) ≠ .indeterminate := by simp
  have entries := (sound.became_of_set written room (Nat.succ_le_of_lt room)).entries index
  rw [show stack.extended.entry index = _ from entries] at found
  by_cases here : index = stack.stackSizei
  · rw [here, Function.update_self] at found
    cases found
  · rwa [Function.update_of_ne here] at found

theorem GenericStack.extended_settings (stack : GenericStack V) :
    stack.SameSettings stack.extended :=
  ⟨rfl, rfl, rfl, rfl, rfl, rfl⟩

theorem GenericStack.enlarged_settings (stack : GenericStack V) (buffer : Nat) :
    stack.SameSettings (stack.enlarged buffer) :=
  ⟨rfl, rfl, rfl, rfl, rfl, rfl⟩

/-- Once there is room, `NULL` is pushed. -/
theorem genericStackPushi_null {grown : GenericStack V}
    (run : growBuffer libc fuel stack world = .ok (true, grown) world') (sound : grown.Sound)
    (room : grown.stackSizei < grown.allocSizei) :
    genericStackPushi libc fuel stack none world = .ok (1, grown.extended) world' := by
  unfold genericStackPushi
  rw [run_bind_ok run]
  simp only [if_true]
  rw [run_bind_ok (writeCell_run (Nat.lt_of_lt_of_le room sound.room)), sound.size_mod]
  rfl

theorem genericStackPushi_refused {elementp : Option (Element V)}
    (run : growBuffer libc fuel stack world = .ok (false, stack) world') :
    genericStackPushi libc fuel stack elementp world = .ok (0, stack) world' := by
  unfold genericStackPushi
  rw [run_bind_ok run]
  rfl

/-! ### The condition -/

/-- What a number of refusals of one request adds to the record. -/
def growthRefusals (failureCallbackp : Bool) (bytes count : Nat) : List (Event V) :=
  (List.replicate count (growthRefusal failureCallbackp bytes)).flatten

/-- Each of the doublings that begin with `allocSizei` is granted after as many refusals as the
list says. -/
def Libc.GrantsAfter (libc : Libc V) (failureCallbackp : Bool) :
    List Nat → Nat → Nat → List (Event V) → Prop
  | [], _, _, _ => True
  | count :: counts, allocSizei, nextAddress, events =>
    let bytes := allocSizei * 2 * pointerSize
    let asked := events ++ growthRefusals failureCallbackp bytes count
    (∀ earlier < count,
      libc.grants (events ++ growthRefusals failureCallbackp bytes earlier) bytes = false) ∧
    libc.grants asked bytes = true ∧
    libc.GrantsAfter failureCallbackp counts (allocSizei * 2) (nextAddress + 1)
      (asked ++ [.realloc bytes (some nextAddress)])

/-- The buffer can be made to reach an index: the index is below `2 ^ 31`, and the doublings up to
it are each granted after finitely many refusals. -/
def GenericStack.CanReach (stack : GenericStack V) (libc : Libc V) (world : World V)
    (index : Nat) : Prop :=
  index < 2 ^ 31 ∧ ∃ counts, index < stack.allocSizei * 2 ^ counts.length ∧
    libc.GrantsAfter stack.failureCallbackp counts stack.allocSizei world.nextAddress world.events

theorem growthRefusals_zero (failureCallbackp : Bool) (bytes : Nat) (events : List (Event V)) :
    events ++ growthRefusals failureCallbackp bytes 0 = events :=
  List.append_nil events

theorem growthRefusals_succ (failureCallbackp : Bool) (bytes count : Nat)
    (events : List (Event V)) :
    events ++ growthRefusals failureCallbackp bytes (count + 1) =
      (events ++ growthRefusal failureCallbackp bytes) ++
        growthRefusals failureCallbackp bytes count := by
  rw [growthRefusals, List.replicate_succ, List.flatten_cons, List.append_assoc]
  rfl

theorem growthRefusals_last (failureCallbackp : Bool) (bytes count : Nat)
    (events : List (Event V)) :
    (events ++ growthRefusals failureCallbackp bytes count) ++
        growthRefusal failureCallbackp bytes =
      events ++ growthRefusals failureCallbackp bytes (count + 1) := by
  rw [growthRefusals, growthRefusals, List.replicate_succ', List.flatten_append,
    List.flatten_singleton, List.append_assoc]

/-- The world after a doubling was granted behind a number of refusals. -/
def grantedWorld (world : World V) (stack : GenericStack V) (count : Nat) : World V :=
  { world with
    events := world.events ++ growthRefusals stack.failureCallbackp stack.doubledBytes count ++
      [.realloc stack.doubledBytes (some world.nextAddress)]
    nextAddress := world.nextAddress + 1 }

/-! ### The growth loop -/

/-- A turn of the growth loop, for an index past the buffer. -/
theorem growToTurn_next {result : Nat} (beyond : stack.allocSizei ≤ index)
    (run : genericStackPushi libc fuel stack none world = .ok (result, stack') world') :
    growToTurn libc fuel index stack world = .ok (.next stack') world' := by
  rw [growToTurn, if_pos beyond, run_bind_ok run]
  rfl

/-- What one turn of the growth loop does to a stack: it writes `NULL` behind the last entry, its
request for a larger buffer is refused, or the request is granted and it writes `NULL` in the
larger buffer. -/
inductive GrowthTurn (libc : Libc V) (stack : GenericStack V) (world : World V) :
    GenericStack V → World V → Prop where
  | pads (room : stack.stackSizei < stack.allocSizei) :
    GrowthTurn libc stack world stack.extended world
  | retries (full : stack.stackSizei = stack.allocSizei)
    (refusal : libc.grants world.events stack.doubledBytes = false) :
    GrowthTurn libc stack world stack { world with
      events := world.events ++ growthRefusal stack.failureCallbackp stack.doubledBytes }
  | doubles (full : stack.stackSizei = stack.allocSizei) (small : stack.allocSizei < 2 ^ 31)
    (grant : libc.grants world.events stack.doubledBytes = true) :
    GrowthTurn libc stack world (stack.enlarged world.nextAddress).extended { world with
      events := world.events ++ [.realloc stack.doubledBytes (some world.nextAddress)]
      nextAddress := world.nextAddress + 1 }

theorem GenericStack.Sound.enlarged_room (sound : stack.Sound) (buffer : Nat) :
    (stack.enlarged buffer).stackSizei < (stack.enlarged buffer).allocSizei := by
  have used := sound.used
  have positive := sound.positive
  show stack.stackSizei < stack.allocSizei * 2
  omega

/-- A turn keeps the stack sound and its settings. -/
theorem GrowthTurn.keeps (turn : GrowthTurn libc stack world stack' world')
    (sound : stack.Sound) : stack'.Sound ∧ stack.SameSettings stack' := by
  cases turn with
  | pads room => exact ⟨sound.extended room, stack.extended_settings⟩
  | retries full refusal => exact ⟨sound, .refl stack⟩
  | doubles full small grant =>
    exact ⟨(sound.enlarged _ small).extended (sound.enlarged_room _),
      (stack.enlarged_settings _).trans (GenericStack.extended_settings _)⟩

/-- A turn puts no pointer into a cell. -/
theorem GrowthTurn.thins (turn : GrowthTurn libc stack world stack' world')
    (sound : stack.Sound) :
    stack.Thins stack' ∧ world.nextAddress ≤ world'.nextAddress := by
  cases turn with
  | pads room => exact ⟨sound.extended_thins room, Nat.le_refl _⟩
  | retries full refusal => exact ⟨.refl stack, Nat.le_refl _⟩
  | doubles full small grant =>
    refine ⟨fun index element found => ?_, Nat.le_succ _⟩
    have kept := (sound.enlarged world.nextAddress small).extended_thins (sound.enlarged_room _)
      index element found
    rwa [sound.enlarged_entry] at kept

/-- Each of these turns is made. -/
theorem GrowthTurn.run (turn : GrowthTurn libc stack world stack' world') (enough : 2 ^ 32 ≤ fuel)
    (sound : stack.Sound) (beyond : stack.allocSizei ≤ index) :
    growToTurn libc fuel index stack world = .ok (.next stack') world' := by
  cases turn with
  | pads room =>
    exact growToTurn_next beyond (genericStackPushi_null (growBuffer_room room) sound room)
  | retries full refusal =>
    exact growToTurn_next beyond
      (genericStackPushi_refused (growBuffer_refused fuel sound full refusal))
  | doubles full small grant =>
    exact growToTurn_next beyond (genericStackPushi_null
      (growBuffer_granted enough sound full small grant) (sound.enlarged _ small)
        (sound.enlarged_room _))

/-- A turn that returns is one of these. -/
theorem growToTurn_inv (sound : stack.Sound)
    (beyond : stack.allocSizei ≤ index) {outcome : Turn (GenericStack V) (GenericStack V)}
    (run : growToTurn libc fuel index stack world = .ok outcome world') :
    ∃ next, outcome = .next next ∧ GrowthTurn libc stack world next world' := by
  have turn {result : Nat} {next : GenericStack V} {after : World V}
      (made : GrowthTurn libc stack world next after)
      (pushed : genericStackPushi libc fuel stack none world = .ok (result, next) after) :
      ∃ next, outcome = .next next ∧ GrowthTurn libc stack world next world' := by
    rw [growToTurn_next beyond pushed] at run
    cases run
    exact ⟨next, rfl, made⟩
  have pushed := run
  rw [growToTurn, if_pos beyond] at pushed
  obtain ⟨_, _, push, -⟩ := run_bind_eq_ok pushed
  obtain ⟨⟨grows, grown⟩, _, growth, -⟩ := run_bind_eq_ok push
  rcases growBuffer_inv sound growth with ⟨room, rfl, rfl, rfl⟩ | ⟨full, rfl, rfl, refusal, rfl⟩ |
    ⟨full, rfl, small, rfl, grant, rfl⟩
  · exact turn (.pads room) (genericStackPushi_null growth sound room)
  · exact turn (.retries full refusal) (genericStackPushi_refused growth)
  · exact turn (.doubles full small grant)
      (genericStackPushi_null growth (sound.enlarged _ small) (sound.enlarged_room _))

/-- The loop puts no pointer into a cell. -/
theorem growToLoop_thins (turns : Nat) (sound : stack.Sound)
    (run : loop .exhausted (growToTurn libc fuel index) turns stack world = .ok stack' world') :
    stack.Thins stack' ∧ world.nextAddress ≤ world'.nextAddress := by
  induction turns generalizing stack world with
  | zero => cases run
  | succ turns inductionHypothesis =>
    by_cases below : index < stack.allocSizei
    · rw [loop_done (growToTurn_done below)] at run
      cases run
      exact ⟨.refl _, Nat.le_refl _⟩
    · obtain ⟨left, outcome, between, same, turn, rest⟩ := loop_eq_ok run
      obtain rfl : turns = left := Nat.succ.inj same
      obtain ⟨next, rfl, made⟩ := growToTurn_inv sound (Nat.not_lt.mp below) turn
      obtain ⟨thins, later⟩ := made.thins sound
      obtain ⟨thins', later'⟩ := inductionHypothesis (made.keeps sound).1 rest
      exact ⟨thins.trans thins', Nat.le_trans later later'⟩

/-- The loop pads the buffer that there is. -/
theorem growTo_pads (libc : Libc V) (world : World V) (sound : stack.Sound)
    (beyond : stack.allocSizei ≤ index) :
    ∃ stack', stack'.Sound ∧ stack.SameSettings stack' ∧ stack'.allocSizei = stack.allocSizei ∧
      stack'.stackSizei = stack'.allocSizei ∧
      ∀ fuel, 2 ^ 32 ≤ fuel → LeadsIn .exhausted (growToTurn libc fuel index)
        (stack.allocSizei - stack.stackSizei) stack world stack' world := by
  have used := sound.used
  generalize gap : stack.allocSizei - stack.stackSizei = turns
  induction turns generalizing stack with
  | zero =>
    exact ⟨stack, sound, .refl stack, rfl, by omega, fun fuel _ => .refl stack world⟩
  | succ turns inductionHypothesis =>
    have room : stack.stackSizei < stack.allocSizei := by omega
    obtain ⟨stack', sound', same, capacity, full, leads⟩ :=
      inductionHypothesis (sound.extended room) beyond (sound.extended room).used
        (by show stack.allocSizei - (stack.stackSizei + 1) = turns; omega)
    refine ⟨stack', sound', stack.extended_settings.trans same, capacity, full,
      fun fuel enough => ?_⟩
    have turn : GrowthTurn libc stack world stack.extended world := .pads room
    rw [Nat.add_comm]
    exact (LeadsIn.single (turn.run enough sound beyond)).trans (leads fuel enough)

/-- The loop makes a refused request again. -/
theorem growTo_retries (enough : 2 ^ 32 ≤ fuel) (sound : stack.Sound)
    (full : stack.stackSizei = stack.allocSizei) (beyond : stack.allocSizei ≤ index) {count : Nat}
    (refused : ∀ earlier < count, libc.grants (world.events ++
      growthRefusals stack.failureCallbackp stack.doubledBytes earlier) stack.doubledBytes =
        false) :
    LeadsIn .exhausted (growToTurn libc fuel index) count stack world stack { world with
      events := world.events ++
        growthRefusals stack.failureCallbackp stack.doubledBytes count } := by
  induction count with
  | zero =>
    rw [growthRefusals_zero]
    exact .refl stack world
  | succ count inductionHypothesis =>
    rw [← growthRefusals_last]
    refine (inductionHypothesis fun earlier below => refused earlier (by omega)).trans
      (.single (GrowthTurn.run (.retries full ?_) enough sound beyond))
    exact refused count (Nat.lt_succ_self count)

/-- When the doublings are granted after finitely many refusals, the loop reaches the index. -/
theorem growTo_leads (counts : List Nat) (sound : stack.Sound) (narrow : index < 2 ^ 31)
    (wide : index < stack.allocSizei * 2 ^ counts.length)
    (granted : libc.GrantsAfter stack.failureCallbackp counts stack.allocSizei world.nextAddress
      world.events) :
    ∃ turns stack' world', stack'.Sound ∧ stack.SameSettings stack' ∧ index < stack'.allocSizei ∧
      ∀ fuel, 2 ^ 32 ≤ fuel →
        LeadsIn .exhausted (growToTurn libc fuel index) turns stack world stack' world' := by
  induction counts generalizing stack world with
  | nil =>
    rw [List.length_nil, Nat.pow_zero, Nat.mul_one] at wide
    exact ⟨0, stack, world, sound, .refl stack, wide, fun fuel _ => .refl stack world⟩
  | cons count counts inductionHypothesis =>
    by_cases below : index < stack.allocSizei
    · exact ⟨0, stack, world, sound, .refl stack, below, fun fuel _ => .refl stack world⟩
    · have beyond : stack.allocSizei ≤ index := Nat.not_lt.mp below
      obtain ⟨padded, sound', same, capacity, full, pads⟩ := growTo_pads libc world sound beyond
      obtain ⟨refused, grant, later⟩ := granted
      have bytes : stack.allocSizei * 2 * pointerSize = padded.doubledBytes := by
        rw [GenericStack.doubledBytes, capacity]
      rw [bytes, ← same.failureCallbackp] at refused grant later
      rw [← capacity] at later beyond
      have small : padded.allocSizei < 2 ^ 31 := Nat.lt_of_le_of_lt beyond narrow
      have doubles : GrowthTurn libc padded
          { world with events := world.events ++
            growthRefusals padded.failureCallbackp padded.doubledBytes count }
          (padded.enlarged world.nextAddress).extended (grantedWorld world padded count) :=
        .doubles full small grant
      have further : index <
          (padded.enlarged world.nextAddress).extended.allocSizei * 2 ^ counts.length := by
        show index < padded.allocSizei * 2 * 2 ^ counts.length
        rw [capacity, Nat.mul_assoc, ← Nat.pow_succ']
        exact wide
      have later : libc.GrantsAfter (padded.enlarged world.nextAddress).extended.failureCallbackp
          counts (padded.enlarged world.nextAddress).extended.allocSizei
          (grantedWorld world padded count).nextAddress
          (grantedWorld world padded count).events := later
      obtain ⟨turns, stack', world', sound'', same', reached, leads⟩ :=
        inductionHypothesis (doubles.keeps sound').1 further later
      refine ⟨stack.allocSizei - stack.stackSizei + count + 1 + turns, stack', world', sound'',
        (same.trans (doubles.keeps sound').2).trans same', reached, fun fuel enough => ?_⟩
      exact (((pads fuel enough).trans (growTo_retries enough sound' full beyond refused)).trans
        (.single (doubles.run enough sound' beyond))).trans (leads fuel enough)

/-- A growth loop that returned could reach the index. -/
theorem growTo_canReach (turns : Nat) (sound : stack.Sound)
    (run : loop .exhausted (growToTurn libc fuel index) turns stack world = .ok stack' world') :
    stack.CanReach libc world index := by
  induction turns generalizing stack world with
  | zero => cases run
  | succ turns inductionHypothesis =>
    have bounded := sound.bounded
    have used := sound.used
    by_cases below : index < stack.allocSizei
    · exact ⟨by omega, [], by rwa [List.length_nil, Nat.pow_zero, Nat.mul_one], trivial⟩
    · have beyond : stack.allocSizei ≤ index := Nat.not_lt.mp below
      obtain ⟨left, outcome, between, same, turn, rest⟩ := loop_eq_ok run
      obtain rfl : turns = left := Nat.succ.inj same
      obtain ⟨next, rfl, made⟩ := growToTurn_inv sound beyond turn
      obtain ⟨narrow, counts, wide, granted⟩ := inductionHypothesis (made.keeps sound).1 rest
      cases made with
      | pads room => exact ⟨narrow, counts, wide, granted⟩
      | retries full refusal =>
        cases counts with
        | nil => exact absurd wide (by rwa [List.length_nil, Nat.pow_zero, Nat.mul_one])
        | cons count counts =>
          obtain ⟨refused, granted, later⟩ := granted
          refine ⟨narrow, (count + 1) :: counts, wide, fun earlier below => ?_, ?_, ?_⟩
          · cases earlier with
            | zero => rw [growthRefusals_zero]; exact refusal
            | succ earlier =>
              rw [growthRefusals_succ]
              exact refused earlier (by omega)
          · rw [growthRefusals_succ]
            exact granted
          · rw [growthRefusals_succ]
            exact later
      | doubles full small grant =>
        refine ⟨narrow, 0 :: counts, ?_, fun earlier below => absurd below (Nat.not_lt_zero _),
          ?_, ?_⟩
        · rw [List.length_cons, Nat.pow_succ', ← Nat.mul_assoc]
          exact wide
        · rw [growthRefusals_zero]
          exact grant
        · rw [growthRefusals_zero]
          exact granted

/-! ### Every stack that is reached -/

/-- A stack that was created and then reached by a sequence of calls, whatever was granted. -/
def StackReached (libc : Libc V) (optionp : Option (GenericStackOption V))
    (stack : GenericStack V) (world : World V) : Prop :=
  ∃ fuel elementSizei start created between calls answers,
    genericStackNewp libc fuel elementSizei optionp start = .ok (some created) between ∧
    runCalls (stackCall libc fuel) calls created between = .ok (answers, stack) world

/-- The loop only comes to a bound that lies inside the block. -/
theorem fillNull_fits {cells cells' : List (Slot (Element V))} {first bound : Nat}
    (narrow : bound < uintModulus) (below : first ≤ bound) (inside : first ≤ cells.length)
    (run : fillNull fuel cells first bound world = .ok cells' world') : bound ≤ cells.length := by
  rw [fillNull, Nat.mod_eq_of_lt (Nat.lt_of_le_of_lt below narrow)] at run
  induction fuel generalizing cells first with
  | zero => cases run
  | succ fuel inductionHypothesis =>
    by_cases done : first < bound
    · by_cases here : first < cells.length
      · rw [loop_next (fillNullTurn_next (by omega) done here)] at run
        have fits := inductionHypothesis (by omega) (by rw [List.length_set]; exact here) run
        rwa [List.length_set] at fits
      · have turn : fillNullTurn bound (first, cells) world = .error .outOfBounds world := by
          rw [fillNullTurn, if_pos done]
          refine run_bind_error ?_
          rw [writeCell, if_neg here]
          rfl
        rw [loop_error turn] at run
        cases run
    · omega

/-- A stack is only created when its first block has room for four pointers. -/
theorem genericStackNewp_hasRoom {elementSizei : Nat} {optionp : Option (GenericStackOption V)}
    (run : genericStackNewp libc fuel elementSizei optionp world = .ok (some stack) world') :
    HasRoom elementSizei := by
  simp only [genericStackNewp] at run
  by_cases zero : elementSizei ≤ 0
  · rw [if_pos zero, run_bind_ok (reportFailure_eq _ _ _ _)] at run
    cases run
  · rw [if_neg zero] at run
    obtain ⟨address, between, -, run⟩ := run_bind_eq_ok run
    cases address with
    | none =>
      simp only at run
      rw [run_bind_ok (reportFailure_eq _ _ _ _)] at run
      cases run
    | some address =>
      obtain ⟨buffer, between', -, run⟩ := run_bind_eq_ok run
      cases buffer with
      | none =>
        simp only at run
        rw [run_bind_ok (reportFailure_eq _ _ _ _), run_bind_ok (run_emit _ _)] at run
        cases run
      | some buffer =>
        obtain ⟨bufpp, final, filled, -⟩ := run_bind_eq_ok run
        have fits := fillNull_fits (by decide) (Nat.zero_le _) (Nat.zero_le _) filled
        rw [resize_length] at fits
        exact (Nat.le_div_iff_mul_le (by decide)).mp fits

/-- Every stack that is reached is sound, and its callbacks return. -/
theorem StackReached.sound {optionp : Option (GenericStackOption V)}
    (reached : StackReached libc optionp stack world)
    (callable : ∀ option ∈ optionp, option.Callable) : stack.Sound ∧ stack.Callable := by
  obtain ⟨fuel, elementSizei, start, created, between, calls, answers, new, run⟩ := reached
  have fresh := (genericStackNewp_inside (genericStackNewp_hasRoom new) optionp).ok trivial new
    created rfl
  exact stackCalls_sound calls fresh.sound (fresh.callable callable) run

/-! ### When a call returns -/

/-- A call returns, given enough turns for its loops. -/
def Returns {α : Type} (call : Nat → Exec V α) (world : World V) : Prop :=
  ∃ least, ∀ fuel, least ≤ fuel → ∃ answer world', call fuel world = .ok answer world'

/-- `getp` returns, and it reports a failure when the buffer cannot be made to reach the index. -/
structure GetpAnswers (libc : Libc V) (stack : GenericStack V) (world : World V)
    (index : Nat) : Prop where
  returns : Returns (fun fuel => genericStackGetp libc fuel stack index) world
  fails : ¬ stack.CanReach libc world index → ∃ least, ∀ fuel, least ≤ fuel →
    genericStackGetp libc fuel stack index world = .ok (none, stack) { world with
      events := world.events ++ failureReport stack.failureCallbackp .runtime
        genericStackErrorRuntimeStackTooSmallGet }

/-- A call comes to an end, given enough turns for its loops: it returns, or it is stopped by the
read of a released element, which can only happen when `aliased`. -/
def ReturnsUnless {α : Type} (aliased : Prop) (call : Nat → Exec V α) (world : World V) : Prop :=
  ∃ least, ∀ fuel, least ≤ fuel → (∃ answer world', call fuel world = .ok answer world') ∨
    aliased ∧ ∃ world', call fuel world = .error .released world'

/-- `seti` returns, unless it was passed the very element that its cell holds and that it releases,
and it reports a failure when the buffer cannot be made to reach the index. -/
structure SetiAnswers (libc : Libc V) (stack : GenericStack V) (world : World V)
    (index : Nat) (elementp : Option (Element V)) : Prop where
  returns : ReturnsUnless (¬ Apart (stack.entry index) elementp)
    (fun fuel => genericStackSeti libc fuel stack index elementp) world
  fails : ¬ stack.CanReach libc world index → ∃ least, ∀ fuel, least ≤ fuel →
    genericStackSeti libc fuel stack index elementp world = .ok (0, stack) { world with
      events := world.events ++ failureReport stack.failureCallbackp .runtime
        genericStackErrorRuntimeStackTooSmallSet }

theorem GenericStack.Sound.canReach_of_lt (sound : stack.Sound)
    (below : index < stack.allocSizei) : stack.CanReach libc world index := by
  have bounded := sound.bounded
  exact ⟨by omega, [], by rwa [List.length_nil, Nat.pow_zero, Nat.mul_one], trivial⟩

/-- An index that can be reached is allocated after the growth, given enough turns. -/
theorem growTo_reaches_after (sound : stack.Sound) {optionGrow : Bool} (grows : optionGrow = true)
    (reach : stack.CanReach libc world index) :
    ∃ least grown world', grown.Sound ∧ stack.SameSettings grown ∧ index < grown.allocSizei ∧
      grown.entry index = stack.entry index ∧
      ∀ fuel, least ≤ fuel → growTo libc fuel optionGrow stack index world = .ok grown world' := by
  by_cases below : index < stack.allocSizei
  · exact ⟨0, stack, world, sound, .refl stack, below, rfl, fun fuel _ => growTo_inside below _⟩
  · obtain ⟨narrow, counts, wide, granted⟩ := reach
    obtain ⟨turns, grown, world', sound', same, reached, leads⟩ :=
      growTo_leads counts sound narrow wide granted
    have empty : stack.entry index = none := sound.beyond index (Nat.not_lt.mp below)
    have ends (fuel : Nat) (enough : max (turns + 1) (2 ^ 32) ≤ fuel) :
        loop .exhausted (growToTurn libc fuel index) fuel stack world = .ok grown world' :=
      (leads fuel (by omega)).returns (growToTurn_done reached) (by omega)
    refine ⟨max (turns + 1) (2 ^ 32), grown, world', sound', same, reached, ?_,
      fun fuel enough => ?_⟩
    · rw [empty]
      exact (growToLoop_thins _ sound (ends _ (Nat.le_refl _))).1.entry_none empty
    · rw [growTo, if_pos ⟨Nat.not_lt.mp below, grows⟩]
      exact ends fuel enough

/-- The growth at the head of `getp` and `seti` only returns when there is none or when the index
can be reached. -/
theorem growTo_reach_of_returns (sound : stack.Sound) {optionGrow : Bool}
    (returns : Returns (fun fuel => growTo libc fuel optionGrow stack index) world) :
    optionGrow = false ∨ stack.CanReach libc world index := by
  obtain ⟨least, returns⟩ := returns
  by_cases grows : optionGrow = true
  · by_cases below : index < stack.allocSizei
    · exact .inr (sound.canReach_of_lt below)
    · obtain ⟨grown, world', run⟩ := returns (max least (2 ^ 32)) (Nat.le_max_left _ _)
      simp only at run
      rw [growTo, if_pos ⟨Nat.not_lt.mp below, grows⟩] at run
      exact .inr (growTo_canReach _ sound run)
  · exact .inl (eq_false_of_ne_true grows)

/-- A call that returns goes through a return of its first part. -/
theorem Returns.head {α β : Type} {first : Nat → Exec V α} {rest : Nat → α → Exec V β}
    (returns : Returns (fun fuel => first fuel >>= rest fuel) world) : Returns first world := by
  obtain ⟨least, returns⟩ := returns
  refine ⟨least, fun fuel enough => ?_⟩
  obtain ⟨answer, world', run⟩ := returns fuel enough
  obtain ⟨value, between, head, -⟩ := run_bind_eq_ok run
  exact ⟨value, between, head⟩

/-- A call with nothing released that it could read comes to an end by returning. -/
theorem ReturnsUnless.returns {α : Type} {aliased : Prop} {call : Nat → Exec V α}
    (ends : ReturnsUnless aliased call world) (apart : ¬ aliased) : Returns call world := by
  obtain ⟨least, ends⟩ := ends
  exact ⟨least, fun fuel enough => (ends fuel enough).resolve_right fun stopped =>
    apart stopped.1⟩

/-- A cell that holds the passed element is allocated. -/
theorem GenericStack.Sound.canReach_of_aliased (sound : stack.Sound)
    {elementp : Option (Element V)} (aliased : ¬ Apart (stack.entry index) elementp) :
    stack.CanReach libc world index := by
  refine sound.canReach_of_lt (Nat.not_le.mp fun beyond => aliased ?_)
  rw [sound.beyond index beyond]
  exact .none_left _

/-- Making a copy returns, whether its block is granted or not, unless its source is gone. -/
theorem copyElement_ends (libc : Libc V) (callable : stack.Callable) (freed : Option (Element V))
    (source : Element V) (world : World V) :
    (∃ copy world', copyElement libc stack freed source world = .ok copy world') ∨
      ¬ Apart freed (some source) ∧
        ∃ world', copyElement libc stack freed source world = .error .released world' := by
  unfold copyElement
  cases grant : libc.grants world.events stack.elementSizei with
  | false =>
    rw [malloc, run_bind_ok (run_acquire_refused grant)]
    simp only
    rw [run_bind_ok (reportFailure_eq _ _ _ _)]
    exact .inl ⟨_, _, rfl⟩
  | true =>
    rw [malloc, run_bind_ok (run_acquire_granted grant)]
    simp only
    by_cases same : freed.any (·.address == source.address) = true
    · rw [if_pos same]
      exact .inr ⟨fun apart => Bool.false_ne_true (apart.any_eq_false.symm.trans same), _, rfl⟩
    rw [if_neg same]
    refine .inl ?_
    cases copy : stack.copyCallbackp with
    | none => exact ⟨_, _, rfl⟩
    | some callback =>
      obtain ⟨errnum, value, answer⟩ := callable.copy callback copy
        (world.events ++ [.malloc stack.elementSizei (some world.nextAddress)]) source
      simp only
      rw [run_bind_ok (callCopyCallback_run world.nextAddress answer)]
      obtain ⟨world', reported, -⟩ := reportCallbackError_run stack.failureCallbackp errnum
        { world with
          events := world.events ++ [.malloc stack.elementSizei (some world.nextAddress)] ++
            [.stackCopy source ⟨world.nextAddress, value⟩ errnum]
          nextAddress := world.nextAddress + 1 }
      simp only
      rw [run_bind_ok reported]
      exact ⟨_, _, rfl⟩

/-- Making a copy of an element returns when nothing was released. -/
theorem copyElement_returns (libc : Libc V) (callable : stack.Callable) (source : Element V)
    (world : World V) : ∃ copy world', copyElement libc stack none source world = .ok copy world' :=
  (copyElement_ends libc callable none source world).resolve_right fun stopped =>
    stopped.1 (.none_left _)

/-- After its growth, `seti` comes to an end. -/
theorem genericStackSeti_ends {grown : GenericStack V} {between : World V}
    (run : growTo libc fuel stack.optionGrowOnSeti stack index world = .ok grown between)
    (sound : grown.Sound) (callable : grown.Callable)
    (accepted : index < grown.stackSizei ∨ grown.optionGrowOnSeti = true →
      index < grown.allocSizei) (elementp : Option (Element V)) :
    (∃ answer world', genericStackSeti libc fuel stack index elementp world = .ok answer world') ∨
      ¬ Apart (grown.entry index) elementp ∧
        ∃ world', genericStackSeti libc fuel stack index elementp world =
          .error .released world' := by
  simp only [genericStackSeti]
  rw [run_bind_ok run]
  by_cases refused : index ≥ grown.stackSizei ∧ ¬ grown.optionGrowOnSeti
  · rw [if_pos refused, run_bind_ok (reportFailure_eq _ _ _ _)]
    exact .inl ⟨_, _, rfl⟩
  · have reached : index < grown.allocSizei := by
      refine accepted ?_
      by_cases inside : index < grown.stackSizei
      · exact .inl inside
      · exact .inr (by_contra fun fixed => refused ⟨Nat.not_lt.mp inside, fixed⟩)
    have room := Nat.lt_of_lt_of_le reached sound.room
    obtain ⟨cells, cleared, clear, length, -⟩ :=
      clearCell_run callable room (sound.written index reached) between
    rw [if_neg refused, run_bind_ok clear]
    cases elementp with
    | none => exact .inl ⟨_, _, rfl⟩
    | some element =>
      have same : grown.SameSettings { grown with bufpp := cells } :=
        ⟨rfl, rfl, rfl, rfl, rfl, rfl⟩
      rcases copyElement_ends libc (callable.of_sameSettings same)
          (grown.bufpp[index]?.bind Slot.target?) element cleared with
        ⟨copy, copied, run'⟩ | ⟨aliased, stopped, run'⟩
      · refine .inl ?_
        simp only
        rw [run_bind_ok run']
        cases copy with
        | none => exact ⟨_, _, rfl⟩
        | some target =>
          simp only
          rw [run_bind_ok (writeCell_run (by rw [length]; exact room)), run_bind_ok (run_emit _ _)]
          exact ⟨_, _, rfl⟩
      · exact .inr ⟨aliased, stopped, run_bind_error run'⟩

/-! ### Every operation -/

/-- `getp` answers exactly when it may not grow or the index can be reached. -/
theorem genericStackGetp_answers_iff (sound : stack.Sound) (world : World V) (index : Nat) :
    GetpAnswers libc stack world index ↔
      stack.optionGrowOnGeti = false ∨ stack.CanReach libc world index := by
  constructor
  · intro answers
    exact growTo_reach_of_returns sound answers.returns.head
  · intro possible
    have inside (below : index < stack.stackSizei) : index < stack.allocSizei :=
      Nat.lt_of_lt_of_le below sound.used
    by_cases grows : stack.optionGrowOnGeti = true
    · have reach := possible.resolve_left (by rw [grows]; exact Bool.true_eq_false.mp)
      obtain ⟨least, grown, between, sound', same, reached, -, run⟩ :=
        growTo_reaches_after sound grows reach
      refine ⟨⟨least, fun fuel enough => ⟨(grown.entry index, grown), between, ?_⟩⟩,
        fun impossible => absurd reach impossible⟩
      simp only [genericStackGetp]
      rw [run_bind_ok (run fuel enough),
        if_neg (fun refused => refused.2 (by rw [same.optionGrowOnGeti]; exact grows)),
        run_bind_ok (sound'.readCell reached between)]
      rfl
    · have fixed := eq_false_of_ne_true grows
      have refused (above : stack.stackSizei ≤ index) (fuel : Nat) :
          genericStackGetp libc fuel stack index world = .ok (none, stack) { world with
            events := world.events ++ failureReport stack.failureCallbackp .runtime
              genericStackErrorRuntimeStackTooSmallGet } := by
        rw [genericStackGetp, run_bind_ok (growTo_fixed fixed index), if_pos ⟨above, grows⟩,
          run_bind_ok (reportFailure_eq _ _ _ _)]
        rfl
      by_cases below : index < stack.stackSizei
      · exact ⟨⟨0, fun fuel _ => ⟨_, _, genericStackGetp_run sound (inside below) (.inl below) world⟩⟩,
          fun impossible => absurd (sound.canReach_of_lt (inside below)) impossible⟩
      · exact ⟨⟨0, fun fuel _ => ⟨_, _, refused (Nat.not_lt.mp below) fuel⟩⟩,
          fun _ => ⟨0, fun fuel _ => refused (Nat.not_lt.mp below) fuel⟩⟩

/-- `seti` answers exactly when it may not grow or the index can be reached. -/
theorem genericStackSeti_answers_iff (sound : stack.Sound) (callable : stack.Callable)
    (world : World V) (index : Nat) (elementp : Option (Element V)) :
    SetiAnswers libc stack world index elementp ↔
      stack.optionGrowOnSeti = false ∨ stack.CanReach libc world index := by
  constructor
  · intro answers
    by_cases apart : Apart (stack.entry index) elementp
    · exact growTo_reach_of_returns sound (answers.returns.returns (not_not.mpr apart)).head
    · exact .inr (sound.canReach_of_aliased apart)
  · intro possible
    by_cases grows : stack.optionGrowOnSeti = true
    · have reach := possible.resolve_left (by rw [grows]; exact Bool.true_eq_false.mp)
      obtain ⟨least, grown, between, sound', same, reached, kept, run⟩ :=
        growTo_reaches_after sound grows reach
      refine ⟨⟨least, fun fuel enough => ?_⟩, fun impossible => absurd reach impossible⟩
      rw [← kept]
      exact genericStackSeti_ends (run fuel enough) sound' (callable.of_sameSettings same)
        (fun _ => reached) elementp
    · have fixed := eq_false_of_ne_true grows
      refine ⟨⟨0, fun fuel _ => genericStackSeti_ends (growTo_fixed fixed index) sound callable
        (fun accepted => Nat.lt_of_lt_of_le (accepted.resolve_right grows) sound.used) elementp⟩,
          fun impossible => ⟨0, fun fuel _ => ?_⟩⟩
      have above : stack.stackSizei ≤ index := Nat.not_lt.mp fun below =>
        impossible (sound.canReach_of_lt (Nat.lt_of_lt_of_le below sound.used))
      simp only [genericStackSeti]
      rw [run_bind_ok (growTo_fixed fixed index), if_pos ⟨above, grows⟩,
        run_bind_ok (reportFailure_eq _ _ _ _)]
      rfl

/-- `pushi` returns unless it is granted a buffer of `2 ^ 32` cells. -/
theorem genericStackPushi_returns_iff (sound : stack.Sound) (callable : stack.Callable)
    (world : World V) (elementp : Option (Element V)) :
    Returns (fun fuel => genericStackPushi libc fuel stack elementp) world ↔
      ¬ (stack.stackSizei = 2 ^ 31 ∧ libc.grants world.events (2 ^ 32 * pointerSize) = true) := by
  have used := sound.used
  have bounded := sound.bounded
  have bytes (last : stack.allocSizei = 2 ^ 31) : stack.doubledBytes = 2 ^ 32 * pointerSize := by
    rw [GenericStack.doubledBytes, last]
    rfl
  constructor
  · rintro returns ⟨last, grant⟩
    obtain ⟨least, returns⟩ : Returns (fun fuel => growBuffer libc fuel stack) world :=
      returns.head
    obtain ⟨grown, between, run⟩ := returns least (Nat.le_refl least)
    rw [← bytes (by omega)] at grant
    obtain ⟨final, endless⟩ := growBuffer_endless least sound (by omega) (by omega) grant
    simp only at run
    rw [endless] at run
    cases run
  · intro allowed
    have pushed {fuel : Nat} {grown : GenericStack V} {between : World V}
        (run : growBuffer libc fuel stack world = .ok (true, grown) between)
        (sound' : grown.Sound) (same : stack.SameSettings grown)
        (room : grown.stackSizei < grown.allocSizei) :
        ∃ answer world', genericStackPushi libc fuel stack elementp world = .ok answer world' := by
      have inside := Nat.lt_of_lt_of_le room sound'.room
      unfold genericStackPushi
      rw [run_bind_ok run]
      simp only [if_true]
      cases elementp with
      | none =>
        simp only
        rw [run_bind_ok (writeCell_run inside)]
        exact ⟨_, _, rfl⟩
      | some element =>
        obtain ⟨copy, copied, run'⟩ :=
          copyElement_returns libc (callable.of_sameSettings same) element between
        simp only
        rw [run_bind_ok run']
        cases copy with
        | none => exact ⟨_, _, rfl⟩
        | some target =>
          simp only
          rw [run_bind_ok (writeCell_run inside), run_bind_ok (run_emit _ _)]
          exact ⟨_, _, rfl⟩
    refine ⟨2 ^ 32, fun fuel enough => ?_⟩
    by_cases room : stack.stackSizei < stack.allocSizei
    · exact pushed (growBuffer_room room) sound (.refl stack) room
    · have full : stack.stackSizei = stack.allocSizei := by omega
      cases grant : libc.grants world.events stack.doubledBytes with
      | false =>
        exact ⟨_, _, genericStackPushi_refused (growBuffer_refused fuel sound full grant)⟩
      | true =>
        have small : stack.allocSizei < 2 ^ 31 := by
          by_contra last
          exact allowed ⟨by omega, by rw [← bytes (by omega)]; exact grant⟩
        exact pushed (growBuffer_granted enough sound full small grant)
          (sound.enlarged _ small) (stack.enlarged_settings _) (sound.enlarged_room _)

/-- When the operations of a stack that is reached return: `getp` and `seti` answer exactly when
they may not grow or the index can be reached, `pushi` returns exactly when it is not granted a
buffer of `2 ^ 32` cells, and the end of the stack always returns. -/
theorem genericStack_returns_iff {optionp : Option (GenericStackOption V)}
    (reached : StackReached libc optionp stack world)
    (callable : ∀ option ∈ optionp, option.Callable) :
    (∀ index, GetpAnswers libc stack world index ↔
      stack.optionGrowOnGeti = false ∨ stack.CanReach libc world index) ∧
    (∀ index elementp, SetiAnswers libc stack world index elementp ↔
      stack.optionGrowOnSeti = false ∨ stack.CanReach libc world index) ∧
    (∀ elementp, Returns (fun fuel => genericStackPushi libc fuel stack elementp) world ↔
      ¬ (stack.stackSizei = 2 ^ 31 ∧ libc.grants world.events (2 ^ 32 * pointerSize) = true)) ∧
    Returns (fun fuel => genericStackDestroyv fuel stack) world := by
  obtain ⟨sound, callable'⟩ := reached.sound callable
  refine ⟨genericStackGetp_answers_iff sound world,
    genericStackSeti_answers_iff sound callable' world,
    genericStackPushi_returns_iff sound callable' world, 2 ^ 32, fun fuel enough => ?_⟩
  obtain ⟨world', run, -⟩ := genericStackDestroyv_run enough sound callable' world
  exact ⟨(), world', run⟩

/-! ### An allocator that never grants the first growth -/

/-- Elements without callbacks, and a stack that grows on reads and on writes. -/
def growingOption : GenericStackOption Nat := { growFlags := genericStackOptionGrowDefault }

/-- The stack that `genericStack_newp` creates with this option for elements of eight bytes. -/
def growingStack : GenericStack Nat := { growOnSetStack with optionGrowOnGeti := true }

/-- A C library that never grants 64 bytes, the request of a stack with four entries. -/
def Libc.withoutGrowth : Libc Nat where
  grants _ size := size != 64
  qsort := Sorting.inserting

theorem growingOption_callable : ∀ option ∈ some growingOption, option.Callable := by
  intro option member
  cases member
  exact ⟨fun _ member => (nomatch member), fun _ member => (nomatch member)⟩

/-- The new stack is reached by no call at all. -/
theorem growingStack_reached (libc : Libc Nat) (refuses : ∀ events size, size ≠ 64 →
    libc.grants events size = true) :
    StackReached libc (some growingOption) growingStack growOnSetWorld := by
  have structureGranted : malloc libc genericStackSize {} = .ok (some 0)
      { events := [.malloc 88 (some 0)], nextAddress := 1 } :=
    run_acquire_granted (refuses _ _ (by decide))
  have bufferGranted : malloc libc (8 * stackInitSize % sizeModulus)
      { events := [.malloc 88 (some 0)], nextAddress := 1 } = .ok (some 1) growOnSetWorld :=
    run_acquire_granted (refuses _ _ (by decide))
  refine ⟨5, 8, {}, growingStack, growOnSetWorld, [], [], ?_, rfl⟩
  simp only [genericStackNewp]
  rw [if_neg (by decide), run_bind_ok structureGranted]
  simp only
  rw [run_bind_ok bufferGranted]
  rfl

/-- A stack that is granted everything. -/
theorem genericStack_returns_growing :
    (∀ index, GetpAnswers Libc.generous growingStack growOnSetWorld index ↔
      growingStack.optionGrowOnGeti = false ∨
        growingStack.CanReach Libc.generous growOnSetWorld index) ∧
    (∀ index elementp, SetiAnswers Libc.generous growingStack growOnSetWorld index elementp ↔
      growingStack.optionGrowOnSeti = false ∨
        growingStack.CanReach Libc.generous growOnSetWorld index) ∧
    (∀ elementp, Returns (fun fuel => genericStackPushi Libc.generous fuel growingStack elementp)
        growOnSetWorld ↔
      ¬ (growingStack.stackSizei = 2 ^ 31 ∧
        Libc.generous.grants growOnSetWorld.events (2 ^ 32 * pointerSize) = true)) ∧
    Returns (fun fuel => genericStackDestroyv fuel growingStack) growOnSetWorld :=
  genericStack_returns_iff (growingStack_reached Libc.generous fun _ _ _ => rfl)
    growingOption_callable

/-- When the growth is refused every time, neither `getp` nor `seti` returns for the first index past
the buffer of a new stack. -/
theorem genericStack_endless :
    StackReached Libc.withoutGrowth (some growingOption) growingStack growOnSetWorld ∧
      (∀ events, Libc.withoutGrowth.grants events 64 = false) ∧
      ¬ Returns (fun fuel => genericStackGetp Libc.withoutGrowth fuel growingStack 4)
        growOnSetWorld ∧
      ¬ Returns (fun fuel => genericStackSeti Libc.withoutGrowth fuel growingStack 4 none)
        growOnSetWorld := by
  have reached := growingStack_reached Libc.withoutGrowth fun _ size other => bne_iff_ne.mpr other
  have sound := (reached.sound growingOption_callable).1
  have stuck : ¬ growingStack.CanReach Libc.withoutGrowth growOnSetWorld 4 := by
    rintro ⟨-, counts, wide, granted⟩
    cases counts with
    | nil => exact absurd wide (by decide)
    | cons count counts => exact Bool.false_ne_true granted.2.1
  have endless {grows : Bool} (permitted : grows = true) :
      ¬ Returns (fun fuel => growTo Libc.withoutGrowth fuel grows growingStack 4)
        growOnSetWorld := by
    intro returns
    rcases growTo_reach_of_returns sound returns with fixed | reach
    · exact Bool.false_ne_true (fixed.symm.trans permitted)
    · exact stuck reach
  exact ⟨reached, fun _ => rfl, fun returns => endless rfl returns.head,
    fun returns => endless rfl returns.head⟩

end MarpaWrapper
