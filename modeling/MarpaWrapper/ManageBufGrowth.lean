/-
This file is about how an array of pointers grows. The count of the slots and the
count of the bytes double together, and only the first is watched for a wrap: that
neither wraps follows from the limit of the allocator. A block that was granted is
smaller than half of the address space, so its double still fits, and a request that
does not fit the limit is refused before the count of the slots could turn around.

The width of the machine is a parameter, and the buffer is followed from the empty
one over any number of calls, with what its owner stores in between.
-/

import MarpaWrapper.ManageBuf

namespace MarpaWrapper

open Effects

variable {V α : Type}

/-! ### One turn -/

/-- The block that a pointer designates, when it is not `NULL`, can be used. -/
def Unreleased (ppp : Option (Block α)) : Prop := ∀ block ∈ ppp, block.released = false

section Turns

variable (modulus elementSizei : Nat) (growth : Growth α)

/-- The number of slots after another turn. -/
def Growth.nextSizei : Nat := if growth.sizei = 0 then 100 else growth.sizei * 2 % modulus

/-- The number of bytes that the turn requests. -/
def Growth.nextBytes : Nat := growth.nextSizei modulus * elementSizei % modulus

/-- The request that the turn makes. -/
def Growth.request (address : Option Nat) : Event V :=
  if growth.sizei = 0 then .malloc (growth.nextBytes modulus elementSizei) address
  else .realloc (growth.nextBytes modulus elementSizei) address

/-- The cells that the turn takes over. -/
def Growth.oldCells : List (Slot α) := if growth.sizei = 0 then [] else cellsOf growth.pp

/-- What a turn leaves whose request was granted. -/
def Growth.enlarged (address : Nat) : Growth α where
  sizei := growth.nextSizei modulus
  prevSizei := growth.nextSizei modulus
  pp := some {
    address
    cells := growth.oldCells.take (growth.nextBytes modulus elementSizei / elementSizei) ++
      List.replicate (growth.nextBytes modulus elementSizei / elementSizei -
        growth.oldCells.length) .indeterminate }

/-- The doubled count is smaller than the last one. -/
def Growth.TurnsAround : Prop := 0 < growth.sizei ∧ growth.sizei * 2 % modulus < growth.prevSizei

/-- A block that was granted can be used. -/
theorem Growth.enlarged_live (address : Nat) :
    Unreleased (growth.enlarged modulus elementSizei address).pp := by
  rintro _ ⟨⟩
  rfl

end Turns

section Turning

variable {libc : Libc V} {modulus wanted elementSizei : Nat} {growth : Growth α} {world : World V}

/-- A loop that granted nothing leaves the block of its caller. -/
theorem leftBy_same {ppp : Option (Block α)} {sizeip : Nat} (same : growth.sizei = sizeip) :
    leftBy ppp sizeip growth = ppp := by
  cases ppp with
  | none => rfl
  | some block => simp [leftBy, same]

theorem reallocBlock_live {pp : Option (Block α)} (live : Unreleased pp) (bytes : Nat) :
    reallocBlock libc pp bytes world = realloc libc bytes world := by
  cases pp with
  | none => rfl
  | some block => exact run_bind_ok (useBlock_live (live block rfl) world)

/-- There are as many slots as are wanted. -/
theorem growTurn_enough (enough : wanted ≤ growth.sizei) :
    growTurn libc modulus wanted elementSizei growth world =
      .ok (.done (.ok growth)) world := by
  rw [growTurn, if_neg (Nat.not_lt.mpr enough)]
  rfl

theorem growTurn_turnaround (small : growth.sizei < wanted)
    (turnaround : growth.TurnsAround modulus) :
    growTurn libc modulus wanted elementSizei growth world =
      .ok (.done (.error growth)) world := by
  rw [growTurn, if_pos small, if_neg (Nat.not_le.mpr turnaround.1), if_pos turnaround.2]
  rfl

theorem growTurn_refused (small : growth.sizei < wanted)
    (forward : ¬ growth.TurnsAround modulus) (live : growth.sizei ≠ 0 → Unreleased growth.pp)
    (refusal : libc.grants world.events (growth.nextBytes modulus elementSizei) = false) :
    growTurn libc modulus wanted elementSizei growth world =
      .ok (.done (.error growth)) { world with
        events := world.events ++ [growth.request modulus elementSizei none] } := by
  rw [growTurn, if_pos small]
  unfold Growth.request
  unfold Growth.nextBytes Growth.nextSizei at refusal ⊢
  by_cases empty : growth.sizei = 0
  · rw [if_pos empty] at refusal
    rw [if_pos (Nat.le_of_eq empty), if_pos empty, if_pos empty, malloc,
      run_bind_ok (run_acquire_refused refusal)]
    rfl
  · rw [if_neg empty] at refusal
    rw [if_neg (by omega), if_neg fun less => forward ⟨Nat.pos_of_ne_zero empty, less⟩,
      if_neg empty, if_neg empty, run_bind, reallocBlock_live (live empty), realloc,
      run_acquire_refused refusal]
    rfl

theorem growTurn_granted (small : growth.sizei < wanted)
    (forward : ¬ growth.TurnsAround modulus) (live : growth.sizei ≠ 0 → Unreleased growth.pp)
    (grant : libc.grants world.events (growth.nextBytes modulus elementSizei) = true) :
    growTurn libc modulus wanted elementSizei growth world =
      .ok (.next (growth.enlarged modulus elementSizei world.nextAddress)) { world with
        events := world.events ++ [growth.request modulus elementSizei (some world.nextAddress)]
        nextAddress := world.nextAddress + 1 } := by
  rw [growTurn, if_pos small]
  unfold Growth.request Growth.enlarged Growth.oldCells
  unfold Growth.nextBytes Growth.nextSizei at grant ⊢
  by_cases empty : growth.sizei = 0
  · simp only [if_pos empty] at grant ⊢
    rw [if_pos (Nat.le_of_eq empty), malloc, run_bind_ok (run_acquire_granted grant)]
    rfl
  · simp only [if_neg empty] at grant ⊢
    rw [if_neg (by omega), if_neg fun less => forward ⟨Nat.pos_of_ne_zero empty, less⟩,
      run_bind, reallocBlock_live (live empty), realloc, run_acquire_granted grant]
    rfl

/-- A turn that requests more returns only when the block can be used. -/
theorem growTurn_live {outcome : Turn (Growth α) (Except (Growth α) (Growth α))} {world' : World V}
    (run : growTurn libc modulus wanted elementSizei growth world = .ok outcome world')
    (small : growth.sizei < wanted) (forward : ¬ growth.TurnsAround modulus)
    (some : growth.sizei ≠ 0) : Unreleased growth.pp := by
  rintro block there
  rw [growTurn, if_pos small, if_neg (by omega),
    if_neg fun less => forward ⟨Nat.pos_of_ne_zero some, less⟩] at run
  obtain ⟨address, between, requested, -⟩ := run_bind_eq_ok run
  rw [show growth.pp = Option.some block from there] at requested
  obtain ⟨⟨⟩, used, use, -⟩ := run_bind_eq_ok requested
  exact (useBlock_eq_ok use).1

/-- What a turn does: there were enough slots, it turned around, or its request was refused or
granted. -/
theorem growTurn_cases {outcome : Turn (Growth α) (Except (Growth α) (Growth α))} {world' : World V}
    (run : growTurn libc modulus wanted elementSizei growth world = .ok outcome world') :
    (wanted ≤ growth.sizei ∧ outcome = .done (.ok growth) ∧ world' = world) ∨
    (growth.sizei < wanted ∧ growth.TurnsAround modulus ∧ outcome = .done (.error growth) ∧
      world' = world) ∨
    (growth.sizei < wanted ∧ ¬ growth.TurnsAround modulus ∧
      libc.grants world.events (growth.nextBytes modulus elementSizei) = false ∧
      outcome = .done (.error growth) ∧ world' = { world with
        events := world.events ++ [growth.request modulus elementSizei none] }) ∨
    (growth.sizei < wanted ∧ ¬ growth.TurnsAround modulus ∧
      libc.grants world.events (growth.nextBytes modulus elementSizei) = true ∧
      outcome = .next (growth.enlarged modulus elementSizei world.nextAddress) ∧
      world' = { world with
        events := world.events ++ [growth.request modulus elementSizei (some world.nextAddress)]
        nextAddress := world.nextAddress + 1 }) := by
  by_cases small : growth.sizei < wanted
  · by_cases turnaround : growth.TurnsAround modulus
    · rw [growTurn_turnaround small turnaround] at run
      cases run
      exact .inr (.inl ⟨small, turnaround, rfl, rfl⟩)
    · have live := growTurn_live run small turnaround
      cases grant : libc.grants world.events (growth.nextBytes modulus elementSizei) with
      | false =>
        rw [growTurn_refused small turnaround live grant] at run
        cases run
        exact .inr (.inr (.inl ⟨small, turnaround, rfl, rfl, rfl⟩))
      | true =>
        rw [growTurn_granted small turnaround live grant] at run
        cases run
        exact .inr (.inr (.inr ⟨small, turnaround, rfl, rfl, rfl⟩))
  · have enough := Nat.le_of_not_lt small
    rw [growTurn_enough enough] at run
    cases run
    exact .inl ⟨enough, rfl, rfl⟩

/-- A turn that goes on requested memory, and it was granted. -/
theorem growTurn_next {following : Growth α} {world' : World V}
    (run : growTurn libc modulus wanted elementSizei growth world = .ok (.next following) world') :
    growth.sizei < wanted ∧ ¬ growth.TurnsAround modulus ∧
      libc.grants world.events (growth.nextBytes modulus elementSizei) = true ∧
      following = growth.enlarged modulus elementSizei world.nextAddress ∧
      world' = { world with
        events := world.events ++ [growth.request modulus elementSizei (some world.nextAddress)]
        nextAddress := world.nextAddress + 1 } := by
  rcases growTurn_cases run with ⟨-, ⟨⟩, -⟩ | ⟨-, -, ⟨⟩, -⟩ | ⟨-, -, -, ⟨⟩, -⟩ |
    ⟨small, forward, grant, same, world_eq⟩
  injection same with same
  exact ⟨small, forward, grant, same, world_eq⟩

/-- A turn that ends the loop with a block found as many slots as are wanted. -/
theorem growTurn_done {last : Growth α} {world' : World V}
    (run : growTurn libc modulus wanted elementSizei growth world =
      .ok (.done (.ok last)) world') : wanted ≤ growth.sizei ∧ last = growth ∧ world' = world := by
  rcases growTurn_cases run with ⟨enough, same, world_eq⟩ | ⟨-, -, ⟨⟩, -⟩ | ⟨-, -, -, ⟨⟩, -⟩ |
    ⟨-, -, -, ⟨⟩, -⟩
  cases same
  exact ⟨enough, rfl, world_eq⟩

/-- The last turn of a loop that fails. -/
theorem growTurn_fails {last : Growth α} {world' : World V}
    (run : growTurn libc modulus wanted elementSizei growth world =
      .ok (.done (.error last)) world') :
    growth.sizei < wanted ∧ last = growth ∧ ((growth.TurnsAround modulus ∧ world' = world) ∨
      (¬ growth.TurnsAround modulus ∧
        libc.grants world.events (growth.nextBytes modulus elementSizei) = false ∧
        world' = { world with
          events := world.events ++ [growth.request modulus elementSizei none] })) := by
  rcases growTurn_cases run with ⟨-, ⟨⟩, -⟩ | ⟨small, turnaround, same, world_eq⟩ |
    ⟨small, forward, refusal, same, world_eq⟩ | ⟨-, -, -, ⟨⟩, -⟩
  · cases same
    exact ⟨small, rfl, .inl ⟨turnaround, world_eq⟩⟩
  · cases same
    exact ⟨small, rfl, .inr ⟨forward, refusal, world_eq⟩⟩

end Turning

/-! ### The limit of the allocator -/

/-- The counts of a machine: `half` is half of its address space. -/
structure Machine (modulus half elementSizei : Nat) : Prop where
  modulus_eq : modulus = 2 * half
  positive : 0 < elementSizei
  first : 100 * elementSizei < modulus

/-- No block has `half` bytes or more. -/
def Libc.Refuses (libc : Libc V) (half : Nat) : Prop :=
  ∀ events bytes, half ≤ bytes → libc.grants events bytes = false

/-- A buffer whose block is as large as its size says, and smaller than half of the address
space. -/
structure Sized (half elementSizei : Nat) (growth : Growth α) : Prop where
  same : growth.prevSizei = growth.sizei
  length : (cellsOf growth.pp).length = growth.sizei
  allocated : growth.pp.isSome = true ↔ 0 < growth.sizei
  fits : growth.sizei * elementSizei < half

theorem Machine.of_width {width : Nat} (known : width = 32 ∨ width = 64) :
    Machine (2 ^ width) (2 ^ (width - 1)) (width / 8) := by
  rcases known with rfl | rfl <;> exact ⟨by decide, by decide, by decide⟩

/-- The machine that the wrapper's own tables are on. -/
theorem machine_pointers : Machine sizeModulus (2 ^ 63) pointerSize :=
  ⟨by decide, by decide, by decide⟩

theorem Libc.Refuses.below {libc : Libc V} {half : Nat} (limited : libc.Refuses half)
    {events : List (Event V)} {bytes : Nat} (grant : libc.grants events bytes = true) :
    bytes < half := by
  by_contra large
  rw [limited events bytes (Nat.le_of_not_lt large)] at grant
  cases grant

section Limit

variable {libc : Libc V} {modulus half elementSizei wanted : Nat} {growth : Growth α}
  {world : World V}

/-- The double of a block that was granted fits. -/
theorem Sized.doubled (sized : Sized half elementSizei growth)
    (machine : Machine modulus half elementSizei) :
    growth.sizei * 2 * elementSizei < modulus ∧ growth.sizei * 2 < modulus := by
  have fits := sized.fits
  have positive := machine.positive
  have bytes : growth.sizei * 2 * elementSizei < modulus := by
    rw [Nat.mul_right_comm, machine.modulus_eq]
    omega
  exact ⟨bytes, Nat.lt_of_le_of_lt (Nat.le_mul_of_pos_right _ positive) bytes⟩

/-- The count of the slots does not wrap. -/
theorem Sized.nextSizei_eq (sized : Sized half elementSizei growth)
    (machine : Machine modulus half elementSizei) :
    growth.nextSizei modulus = if growth.sizei = 0 then 100 else growth.sizei * 2 := by
  rw [Growth.nextSizei, Nat.mod_eq_of_lt (sized.doubled machine).2]

/-- The count of the bytes does not wrap. -/
theorem Sized.nextBytes_eq (sized : Sized half elementSizei growth)
    (machine : Machine modulus half elementSizei) :
    growth.nextBytes modulus elementSizei = growth.nextSizei modulus * elementSizei := by
  rw [Growth.nextBytes, sized.nextSizei_eq machine]
  by_cases empty : growth.sizei = 0
  · rw [if_pos empty, Nat.mod_eq_of_lt machine.first]
  · rw [if_neg empty, Nat.mod_eq_of_lt (sized.doubled machine).1]

theorem Sized.forward (sized : Sized half elementSizei growth)
    (machine : Machine modulus half elementSizei) : ¬ growth.TurnsAround modulus := by
  rintro ⟨positive, less⟩
  rw [Nat.mod_eq_of_lt (sized.doubled machine).2, sized.same] at less
  omega

theorem Sized.next_larger (sized : Sized half elementSizei growth)
    (machine : Machine modulus half elementSizei) :
    growth.sizei < growth.nextSizei modulus := by
  rw [sized.nextSizei_eq machine]
  by_cases empty : growth.sizei = 0
  · rw [if_pos empty]
    omega
  · rw [if_neg empty]
    omega

/-- The cells of the old block are taken over as they are. -/
theorem Sized.oldCells_eq (sized : Sized half elementSizei growth) :
    growth.oldCells = cellsOf growth.pp := by
  unfold Growth.oldCells
  by_cases empty : growth.sizei = 0
  · have none : (cellsOf growth.pp).length = 0 := by rw [sized.length, empty]
    rw [if_pos empty, List.eq_nil_of_length_eq_zero none]
  · rw [if_neg empty]

/-- A granted request leaves the cells that there were, and as many new ones as its size says. -/
theorem Sized.enlarged_cells (sized : Sized half elementSizei growth)
    (machine : Machine modulus half elementSizei) (address : Nat) :
    cellsOf (growth.enlarged modulus elementSizei address).pp = cellsOf growth.pp ++
      List.replicate (growth.nextSizei modulus - growth.sizei) .indeterminate := by
  have larger := sized.next_larger machine
  show growth.oldCells.take (growth.nextBytes modulus elementSizei / elementSizei) ++
    List.replicate (growth.nextBytes modulus elementSizei / elementSizei -
      growth.oldCells.length) .indeterminate = _
  rw [sized.nextBytes_eq machine, Nat.mul_div_cancel _ machine.positive, sized.oldCells_eq,
    sized.length, List.take_of_length_le (by rw [sized.length]; omega)]

/-- A buffer whose block is not too large. -/
theorem Sized.enlarged_of_fits (sized : Sized half elementSizei growth)
    (machine : Machine modulus half elementSizei)
    (fits : growth.nextBytes modulus elementSizei < half) (address : Nat) :
    Sized half elementSizei (growth.enlarged modulus elementSizei address) := by
  have larger := sized.next_larger machine
  refine ⟨rfl, ?_, ⟨fun _ => ?_, fun _ => rfl⟩, ?_⟩
  · rw [sized.enlarged_cells machine, List.length_append, List.length_replicate, sized.length]
    show _ = growth.nextSizei modulus
    omega
  · show 0 < growth.nextSizei modulus
    omega
  · show growth.nextSizei modulus * elementSizei < half
    rw [← sized.nextBytes_eq machine]
    exact fits

theorem Sized.enlarged (sized : Sized half elementSizei growth)
    (machine : Machine modulus half elementSizei) (limited : libc.Refuses half)
    (grant : libc.grants world.events (growth.nextBytes modulus elementSizei) = true)
    (address : Nat) : Sized half elementSizei (growth.enlarged modulus elementSizei address) :=
  sized.enlarged_of_fits machine (limited.below grant) address

end Limit

/-! ### The loop -/

/-- The byte counts that were requested. -/
def requestedBytes (events : List (Event V)) : List Nat :=
  events.filterMap fun
    | .malloc bytes _ => some bytes
    | .realloc bytes _ => some bytes
    | _ => none

/-- The byte counts that were requested between two worlds. -/
def requestedSince (world world' : World V) : List Nat :=
  requestedBytes (world'.events.drop world.events.length)

/-- The sizes that a buffer has. -/
def IsBufferSize (size : Nat) : Prop := ∃ doublings, size = 100 * 2 ^ doublings

/-- The least of these sizes that is enough. -/
def IsLeastSize (wanted size : Nat) : Prop :=
  IsBufferSize size ∧ wanted ≤ size ∧ ∀ other, IsBufferSize other → wanted ≤ other → size ≤ other

/-- What the loop has done when it comes to a frame: nothing, or it requested memory until the
last size, below which there is none that is enough. -/
structure Grew (half elementSizei wanted : Nat) (start : Growth α) (begun : World V)
    (growth : Growth α) (world : World V) : Prop where
  sized : Sized half elementSizei growth
  size : growth.sizei = 0 ∨ IsBufferSize growth.sizei
  larger : start.sizei ≤ growth.sizei
  kept : ∀ index < start.sizei, (cellsOf growth.pp)[index]? = (cellsOf start.pp)[index]?
  live : Unreleased start.pp → Unreleased growth.pp
  progress : (growth = start ∧ world = begun) ∨ (start.sizei < wanted ∧
    (∀ other, IsBufferSize other → wanted ≤ other → growth.sizei ≤ other) ∧
    IsBufferSize growth.sizei ∧
    (requestedSince begun world).getLast? = some (growth.sizei * elementSizei) ∧
    begun.events <+: world.events)

theorem requestedBytes_request (growth : Growth α) (modulus elementSizei : Nat)
    (address : Option Nat) :
    requestedBytes [growth.request (V := V) modulus elementSizei address] =
      [growth.nextBytes modulus elementSizei] := by
  unfold Growth.request
  by_cases empty : growth.sizei = 0
  · rw [if_pos empty]
    rfl
  · rw [if_neg empty]
    rfl

/-- One more exchange. -/
theorem requestedSince_append {begun world : World V} (prolongs : begun.events <+: world.events)
    {event : Event V} {world' : World V} (events : world'.events = world.events ++ [event]) :
    requestedSince begun world' = requestedSince begun world ++ requestedBytes [event] := by
  unfold requestedSince requestedBytes
  rw [events, List.drop_append_of_le_length prolongs.length_le, List.filterMap_append]

section Loop

variable {libc : Libc V} {modulus half elementSizei wanted : Nat} {start growth : Growth α}
  {begun world : World V}

/-- The size that follows is no larger than any that is enough. -/
theorem nextSizei_least (sized : Sized half elementSizei growth)
    (machine : Machine modulus half elementSizei)
    (size : growth.sizei = 0 ∨ IsBufferSize growth.sizei) (small : growth.sizei < wanted) :
    IsBufferSize (growth.nextSizei modulus) ∧
      ∀ other, IsBufferSize other → wanted ≤ other → growth.nextSizei modulus ≤ other := by
  rw [sized.nextSizei_eq machine]
  by_cases empty : growth.sizei = 0
  · rw [if_pos empty]
    refine ⟨⟨0, rfl⟩, ?_⟩
    rintro _ ⟨doublings, rfl⟩ -
    exact Nat.le_mul_of_pos_right _ (Nat.two_pow_pos doublings)
  · rw [if_neg empty]
    obtain ⟨doublings, same⟩ := size.resolve_left empty
    rw [same]
    refine ⟨⟨doublings + 1, by rw [Nat.pow_succ, Nat.mul_assoc]⟩, ?_⟩
    rintro _ ⟨others, rfl⟩ enough
    -- A larger size has at least one doubling more.
    have fewer : doublings < others := by
      refine (Nat.pow_lt_pow_iff_right (by decide : 1 < 2)).mp ?_
      omega
    have doubled : 2 ^ (doublings + 1) ≤ 2 ^ others := Nat.pow_le_pow_right (by decide) fewer
    rw [Nat.pow_succ] at doubled
    omega

theorem Grew.refl (sized : Sized half elementSizei start)
    (size : start.sizei = 0 ∨ IsBufferSize start.sizei) :
    Grew half elementSizei wanted start begun start begun :=
  ⟨sized, size, Nat.le_refl _, fun _ _ => rfl, fun live => live, .inl ⟨rfl, rfl⟩⟩

/-- A turn that goes on. -/
theorem Grew.turn (machine : Machine modulus half elementSizei) (limited : libc.Refuses half)
    (grew : Grew half elementSizei wanted start begun growth world) {following : Growth α}
    {world' : World V}
    (turned : growTurn libc modulus wanted elementSizei growth world =
      .ok (.next following) world') :
    Grew half elementSizei wanted start begun following world' := by
  obtain ⟨small, -, grant, rfl, rfl⟩ := growTurn_next turned
  have sized := grew.sized
  have larger := grew.larger
  have less := sized.next_larger machine
  obtain ⟨size, least⟩ := nextSizei_least sized machine grew.size small
  have prolongs : begun.events <+: world.events := by
    rcases grew.progress with ⟨-, rfl⟩ | ⟨-, -, -, -, prolongs⟩
    · exact List.prefix_refl _
    · exact prolongs
  refine ⟨sized.enlarged machine limited grant _, .inr size, ?_, fun index below => ?_,
    fun _ => growth.enlarged_live _ _ _,
    .inr ⟨by omega, least, size, ?_, prolongs.trans (List.prefix_append _ _)⟩⟩
  · show start.sizei ≤ growth.nextSizei modulus
    omega
  · rw [sized.enlarged_cells machine, List.getElem?_append_left (by rw [sized.length]; omega),
      grew.kept index below]
  · rw [requestedSince_append prolongs rfl, requestedBytes_request, List.getLast?_concat,
      sized.nextBytes_eq machine]
    rfl

/-- Whatever frame the loop comes to. -/
theorem Grew.of_visits (machine : Machine modulus half elementSizei) (limited : libc.Refuses half)
    (sized : Sized half elementSizei start) (size : start.sizei = 0 ∨ IsBufferSize start.sizei)
    (visited : Visits (growTurn libc modulus wanted elementSizei) start begun growth world) :
    Grew half elementSizei wanted start begun growth world := by
  induction visited with
  | start => exact .refl sized size
  | turn _ turned inductionHypothesis => exact inductionHypothesis.turn machine limited turned

/-- The loop ends: the number of bytes doubles with each turn, and it stays below `half`. -/
theorem growLoop_ends (machine : Machine modulus half elementSizei) (limited : libc.Refuses half)
    {turns fuel : Nat} (sized : Sized half elementSizei growth) (live : Unreleased growth.pp)
    (positive : 0 < growth.sizei) (reaches : half ≤ growth.sizei * elementSizei * 2 ^ turns)
    (enough : turns < fuel) :
    ∃ outcome world', loop .exhausted (growTurn libc modulus wanted elementSizei) fuel growth
      world = .ok outcome world' := by
  induction turns generalizing growth world fuel with
  | zero =>
    have fits := sized.fits
    omega
  | succ turns inductionHypothesis =>
    obtain ⟨fuel, rfl⟩ : ∃ left, fuel = left + 1 := ⟨fuel - 1, by omega⟩
    by_cases small : growth.sizei < wanted
    · have forward := sized.forward machine
      cases grant : libc.grants world.events (growth.nextBytes modulus elementSizei) with
      | false => exact ⟨_, _, loop_done (growTurn_refused small forward (fun _ => live) grant)⟩
      | true =>
        rw [loop_next (growTurn_granted small forward (fun _ => live) grant)]
        have doubled : growth.nextSizei modulus = growth.sizei * 2 := by
          rw [sized.nextSizei_eq machine, if_neg (Nat.ne_of_gt positive)]
        refine inductionHypothesis (sized.enlarged machine limited grant _) (growth.enlarged_live _ _ _)
          ?_ ?_ (by omega)
        · show 0 < growth.nextSizei modulus
          omega
        · show half ≤ growth.nextSizei modulus * elementSizei * 2 ^ turns
          rw [doubled, Nat.mul_right_comm _ 2, Nat.mul_assoc _ 2, ← Nat.pow_succ']
          exact reaches
    · exact ⟨_, _, loop_done (growTurn_enough (Nat.le_of_not_lt small))⟩

end Loop

/-! ### The calls -/

section Calls

variable {libc : Libc V} {fuel modulus half elementSizei wanted size : Nat} {build : Build}
  {ppp : Option (Block α)} {world : World V}

/-- When the gain fits, `memset` fills it and nothing else. -/
theorem prefillZeroes_gain {cells : List (Slot α)} {size' : Nat} (positive : 0 < elementSizei)
    (fits : size' * elementSizei < modulus) (length : cells.length = size')
    (larger : size ≤ size') :
    prefillZeroes modulus cells size size' elementSizei world =
      .ok (cells.take size ++ List.replicate (size' - size) .null) world := by
  have less : (size' - size) * elementSizei < modulus :=
    Nat.lt_of_le_of_lt (Nat.mul_le_mul_right _ (Nat.sub_le _ _)) fits
  rw [prefillZeroes]
  simp only [Nat.mod_eq_of_lt less, Nat.mul_div_cancel _ positive]
  rw [if_pos (by omega), Nat.add_sub_cancel' larger, ← length, List.drop_length, List.append_nil]
  rfl

/-- The loop ends from the empty buffer too. -/
theorem growLoop_returns {width : Nat} (known : width = 32 ∨ width = 64)
    (limited : libc.Refuses (2 ^ (width - 1))) {start : Growth α}
    (sized : Sized (2 ^ (width - 1)) (width / 8) start) (live : Unreleased start.pp)
    (shape : start.sizei = 0 ∨ IsBufferSize start.sizei) (enough : width < fuel) (wanted : Nat)
    (world : World V) :
    ∃ outcome world', loop .exhausted (growTurn libc (2 ^ width) wanted (width / 8)) fuel start
      world = .ok outcome world' := by
  have machine := Machine.of_width known
  have grows (growth : Growth α) (size : IsBufferSize growth.sizei) :
      0 < growth.sizei ∧ 2 ^ (width - 1) ≤ growth.sizei * (width / 8) * 2 ^ (width - 1) := by
    obtain ⟨doublings, same⟩ := size
    have positive : 0 < growth.sizei := by
      rw [same]
      exact Nat.mul_pos (by decide) (Nat.two_pow_pos _)
    exact ⟨positive, Nat.le_mul_of_pos_left _ (Nat.mul_pos positive machine.positive)⟩
  rcases shape with empty | size
  · obtain ⟨left, rfl⟩ : ∃ left, fuel = left + 1 := ⟨fuel - 1, by omega⟩
    by_cases small : start.sizei < wanted
    · have forward := sized.forward machine
      cases grant : libc.grants world.events (start.nextBytes (2 ^ width) (width / 8)) with
      | false => exact ⟨_, _, loop_done (growTurn_refused small forward (fun _ => live) grant)⟩
      | true =>
        have first : IsBufferSize (start.nextSizei (2 ^ width)) :=
          (nextSizei_least sized machine (.inl empty) small).1
        obtain ⟨positive, reaches⟩ :=
          grows (start.enlarged (2 ^ width) (width / 8) world.nextAddress) first
        rw [loop_next (growTurn_granted small forward (fun _ => live) grant)]
        exact growLoop_ends machine limited (sized.enlarged machine limited grant _)
          (start.enlarged_live _ _ _) positive reaches (by omega)
    · exact ⟨_, _, loop_done (growTurn_enough (Nat.le_of_not_lt small))⟩
  · obtain ⟨positive, reaches⟩ := grows start size
    exact growLoop_ends machine limited sized live positive reaches (by omega)

/-- The buffers that a sequence of successful calls leaves, with the byte counts that were
requested for it. In between their owner stores pointers, and the rest of the world goes on. -/
inductive BufferReached (libc : Libc V) (fuel : Nat) (build : Build) (width : Nat) :
    Option (Block α) → Nat → List Nat → Prop
  | empty : BufferReached libc fuel build width none 0 []
  | provided {ppp : Option (Block α)} {size wanted size' : Nat} {requested : List Nat}
    {block : Block α} {world world' : World V}
    (reached : BufferReached libc fuel build width ppp size requested) (positive : 0 < wanted)
    (run : manageBufCreatep libc fuel build (2 ^ width) ppp size wanted (width / 8) world =
      .ok (.ok (block, size')) world') :
    BufferReached libc fuel build width (some block) size'
      (requested ++ requestedSince world world')
  | stored {block : Block α} {size : Nat} {requested : List Nat} {cells : List (Slot α)}
    (reached : BufferReached libc fuel build width (some block) size requested)
    (length : cells.length = block.cells.length) :
    BufferReached libc fuel build width (some { block with cells }) size requested

/-- What a call that does not return `NULL` leaves. -/
structure GrowsExactly (ppp : Option (Block α)) (size wanted elementSizei : Nat)
    (requested : List Nat) (block : Block α) (size' : Nat) : Prop where
  enough : wanted ≤ size'
  same : wanted ≤ size → size' = size
  least : size < wanted → IsLeastSize wanted size'
  last : requested.getLast? = some (size' * elementSizei)
  length : block.cells.length = size'
  kept : ∀ index < size, block.cells[index]? = (cellsOf ppp)[index]?
  gained : ∀ index, size ≤ index → index < size' → block.cells[index]? = some .null

/-- Wherever the loop goes on, neither count wraps, and it does not turn around. -/
def NeverWraps (libc : Libc V) (modulus elementSizei wanted : Nat) (ppp : Option (Block α))
    (size : Nat) (world : World V) : Prop :=
  ∀ growth between,
    Visits (growTurn libc modulus wanted elementSizei) ⟨size, size, ppp⟩ world growth between →
    growth.sizei < wanted → ¬ growth.TurnsAround modulus ∧
      growth.nextSizei modulus = (if growth.sizei = 0 then 100 else growth.sizei * 2) ∧
      growth.nextBytes modulus elementSizei = growth.nextSizei modulus * elementSizei

/-- The buffer between two calls. -/
structure BufferSound (half elementSizei : Nat) (ppp : Option (Block α)) (size : Nat)
    (requested : List Nat) : Prop where
  sized : Sized half elementSizei ⟨size, size, ppp⟩
  live : Unreleased ppp
  shape : size = 0 ∨ IsBufferSize size
  last : 0 < size → requested.getLast? = some (size * elementSizei)

theorem BufferSound.empty (half elementSizei : Nat) (positive : 0 < half) :
    BufferSound half elementSizei (none : Option (Block α)) 0 [] := by
  refine ⟨⟨rfl, rfl, ⟨fun there => ?_, fun above => absurd above (Nat.lt_irrefl 0)⟩, ?_⟩,
    fun _ member => (nomatch member), .inl rfl, fun above => absurd above (Nat.lt_irrefl 0)⟩
  · cases there
  · rw [Nat.zero_mul]
    exact positive

theorem requestedSince_refl (world : World V) : requestedSince world world = [] := by
  unfold requestedSince requestedBytes
  rw [List.drop_length]
  rfl

theorem NeverWraps.of_sound {requested : List Nat} (machine : Machine modulus half elementSizei)
    (limited : libc.Refuses half) (sound : BufferSound half elementSizei ppp size requested) :
    NeverWraps libc modulus elementSizei wanted ppp size world := by
  intro growth between visited _
  have sized := (Grew.of_visits machine limited sound.sized sound.shape visited).sized
  exact ⟨sized.forward machine, sized.nextSizei_eq machine, sized.nextBytes_eq machine⟩

/-- What the loop leaves when it ends with enough slots, and the gain is filled. -/
theorem Grew.fills {requested : List Nat} {growth : Growth α} {block : Block α} {world' : World V}
    {cells : List (Slot α)}
    (sound : BufferSound half elementSizei ppp size requested)
    (grew : Grew half elementSizei wanted ⟨size, size, ppp⟩ world growth world')
    (room : wanted ≤ growth.sizei) (there : growth.pp = some block)
    (filled : cells = (cellsOf growth.pp).take size ++
      List.replicate (growth.sizei - size) .null) :
    GrowsExactly ppp size wanted elementSizei (requested ++ requestedSince world world')
        { block with cells } growth.sizei ∧
      BufferSound half elementSizei (some { block with cells }) growth.sizei
        (requested ++ requestedSince world world') := by
  have sized := grew.sized
  have larger : size ≤ growth.sizei := grew.larger
  have positive : 0 < growth.sizei := sized.allocated.mp (by rw [there]; rfl)
  have taken : ((cellsOf growth.pp).take size).length = size := by
    rw [List.length_take, sized.length]
    omega
  have length : cells.length = growth.sizei := by
    rw [filled, List.length_append, taken, List.length_replicate]
    omega
  have last : (requested ++ requestedSince world world').getLast? =
      some (growth.sizei * elementSizei) := by
    rcases grew.progress with ⟨rfl, rfl⟩ | ⟨-, -, -, last, -⟩
    · rw [requestedSince_refl, List.append_nil]
      exact sound.last positive
    · rw [List.getLast?_append, last]
      rfl
  refine ⟨⟨room, fun sufficed => ?_, fun small => ?_, last, length, fun index below => ?_,
    fun index above below => ?_⟩, ⟨rfl, length, ⟨fun _ => positive, fun _ => rfl⟩,
      sized.fits⟩, fun _ same => ?_, grew.size, fun _ => last⟩
  · rcases grew.progress with ⟨rfl, -⟩ | ⟨small, -⟩
    · rfl
    · exact absurd sufficed (Nat.not_le.mpr small)
  · rcases grew.progress with ⟨rfl, -⟩ | ⟨-, least, shape, -⟩
    · exact absurd room (Nat.not_le.mpr small)
    · exact ⟨shape, room, least⟩
  · show cells[index]? = _
    rw [filled, List.getElem?_append_left (by rwa [taken]), List.getElem?_take_of_lt below]
    exact grew.kept index below
  · show cells[index]? = _
    rw [filled, List.getElem?_append_right (by rwa [taken]), taken, List.getElem?_replicate,
      if_pos (by omega)]
  · cases same
    exact grew.live sound.live block there

/-- A call on a buffer that successful calls left returns. -/
theorem manageBufCreatep_sound {width : Nat} (known : width = 32 ∨ width = 64)
    (zeroes : build.nullIsZeroes = true) (limited : libc.Refuses (2 ^ (width - 1)))
    {requested : List Nat}
    (sound : BufferSound (2 ^ (width - 1)) (width / 8) ppp size requested)
    (enough : width < fuel) :
    ∃ answer world', manageBufCreatep libc fuel build (2 ^ width) ppp size wanted (width / 8)
        world = .ok answer world' ∧
      ∀ block size', answer = .ok (block, size') →
        GrowsExactly ppp size wanted (width / 8) (requested ++ requestedSince world world') block
          size' ∧
        BufferSound (2 ^ (width - 1)) (width / 8) (some block) size'
          (requested ++ requestedSince world world') := by
  have machine := Machine.of_width known
  obtain ⟨outcome, world', loop⟩ :=
    growLoop_returns known limited sound.sized sound.live sound.shape enough wanted world
  unfold manageBufCreatep
  rw [run_bind_ok loop]
  cases outcome with
  | error growth => exact ⟨_, world', rfl, fun _ _ absent => (nomatch absent)⟩
  | ok growth =>
    obtain ⟨last, between, visited, ended⟩ := loop_eq_ok_visits loop
    obtain ⟨room, rfl, rfl⟩ := growTurn_done ended
    have grew := Grew.of_visits machine limited sound.sized sound.shape visited
    have fits : growth.sizei * (width / 8) < 2 ^ width :=
      Nat.lt_of_lt_of_le grew.sized.fits
        (by rw [machine.modulus_eq]; exact Nat.le_mul_of_pos_left _ (by decide))
    have filled : prefill fuel build (2 ^ width) (cellsOf growth.pp) size growth.sizei (width / 8)
        world' = .ok ((cellsOf growth.pp).take size ++
          List.replicate (growth.sizei - size) .null) world' := by
      rw [prefill, if_pos zeroes]
      exact prefillZeroes_gain machine.positive fits grew.sized.length grew.larger
    simp only
    rw [run_bind_ok filled]
    refine ⟨_, _, rfl, fun block size' answered => ?_⟩
    cases there : growth.pp with
    | none =>
      rw [there] at answered
      cases answered
    | some old =>
      rw [there] at answered
      cases answered
      exact grew.fills sound room there (by rw [there])

theorem BufferReached.sound {width : Nat} (known : width = 32 ∨ width = 64)
    (zeroes : build.nullIsZeroes = true) (limited : libc.Refuses (2 ^ (width - 1)))
    (enough : width < fuel) {requested : List Nat}
    (reached : BufferReached libc fuel build width ppp size requested) :
    BufferSound (2 ^ (width - 1)) (width / 8) ppp size requested := by
  induction reached with
  | empty => exact .empty _ _ (Nat.two_pow_pos _)
  | provided _ _ run inductionHypothesis =>
    obtain ⟨answer, final, returned, leaves⟩ :=
      manageBufCreatep_sound known zeroes limited inductionHypothesis enough
    rw [returned] at run
    cases run
    exact (leaves _ _ rfl).2
  | stored _ length inductionHypothesis =>
    have sized := inductionHypothesis.sized
    have same := sized.length
    have live := inductionHypothesis.live _ rfl
    exact ⟨⟨sized.same, length.trans same, ⟨fun _ => sized.allocated.mp rfl, fun _ => rfl⟩,
      sized.fits⟩, fun _ same => by cases same; exact live,
      inductionHypothesis.shape, inductionHypothesis.last⟩

/-- Over any number of successful calls: the next one returns, neither count wraps in it, and
unless it returns `NULL` the buffer has exactly the slots that it should have. -/
theorem manageBufCreatep_growsExactly {width : Nat} (known : width = 32 ∨ width = 64)
    (zeroes : build.nullIsZeroes = true) (limited : libc.Refuses (2 ^ (width - 1)))
    (enough : width < fuel) {requested : List Nat}
    (reached : BufferReached libc fuel build width ppp size requested) (wanted : Nat)
    (world : World V) :
    NeverWraps libc (2 ^ width) (width / 8) wanted ppp size world ∧
    ∃ answer world', manageBufCreatep libc fuel build (2 ^ width) ppp size wanted (width / 8)
        world = .ok answer world' ∧
      ∀ block size', answer = .ok (block, size') →
        GrowsExactly ppp size wanted (width / 8) (requested ++ requestedSince world world') block
          size' := by
  have sound := reached.sound known zeroes limited enough
  refine ⟨.of_sound (.of_width known) limited sound, ?_⟩
  obtain ⟨answer, world', run, leaves⟩ := manageBufCreatep_sound known zeroes limited sound enough
  exact ⟨answer, world', run, fun block size' answered => (leaves block size' answered).1⟩

/-- A C library that refuses every request of `half` bytes or more. -/
def Libc.limited (half : Nat) : Libc V where
  grants _ bytes := decide (bytes < half)
  qsort := Sorting.inserting

theorem Libc.limited_refuses (half : Nat) : (Libc.limited (V := V) half).Refuses half :=
  fun _ _ large => decide_eq_false (Nat.not_lt.mpr large)

/-- The table that a request for 150 pointers leaves, by two requests. -/
def grownTable : Block Nat where
  address := 1
  cells := List.replicate 200 .null

/-- The world that this leaves. -/
def grownWorld : World Nat where
  events := [.malloc 800 (some 0), .realloc 1600 (some 1)]
  nextAddress := 2

set_option maxRecDepth 4000 in
/-- Room for 450 pointers in this table. -/
theorem manageBufCreatep_growsExactly_again :
    NeverWraps (Libc.limited (2 ^ 63)) (2 ^ 64) 8 450 (some grownTable) 200 grownWorld ∧
    ∃ answer world', manageBufCreatep (Libc.limited (2 ^ 63)) 65 {} (2 ^ 64) (some grownTable) 200
        450 8 grownWorld = .ok answer world' ∧
      ∀ block size', answer = .ok (block, size') →
        GrowsExactly (some grownTable) 200 450 8 ([] ++ requestedSince {} grownWorld ++
          requestedSince grownWorld world') block size' :=
  have reached : BufferReached (Libc.limited (2 ^ 63)) 65 {} 64 (some grownTable) 200
      ([] ++ requestedSince {} grownWorld) := .provided .empty (by decide : 0 < 150) rfl
  manageBufCreatep_growsExactly (.inr rfl) rfl (Libc.limited_refuses (2 ^ 63)) (by decide) reached
    450 grownWorld

end Calls

end MarpaWrapper
