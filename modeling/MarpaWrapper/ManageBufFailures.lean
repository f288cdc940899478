/-
This file is about a growth that fails. The loop of `manageBuf_createp` works on a
pointer of its own, and the caller's is assigned at the end only: once a request of the
loop was granted, a failure behind it leaves the caller with a pointer to a block that
was moved, or with a block more than it knows of. What the caller holds is in order
exactly when the first thing the loop does is to fail.

The blocks are followed over the exchanges. Every request of the loop is for the block
that its pointer designates: a granted `realloc` releases it, a refused one keeps it,
except that a refused request for no bytes at all may release it too.
-/

import MarpaWrapper.ManageBufGrowth
import MarpaWrapper.ExpectedTerminals

namespace MarpaWrapper

open Effects

variable {V α : Type}

/-! ### The blocks -/

/-- The block that the loop's pointer designates, and all blocks that are allocated. -/
structure Holding where
  current : Option Nat
  live : List Nat

/-- What an exchange does to the blocks. -/
def Holding.after (holding : Holding) : Event V → Holding
  | .malloc _ (some address) => ⟨some address, holding.live ++ [address]⟩
  | .realloc _ (some address) =>
    ⟨some address, holding.live.filter (fun block => some block != holding.current) ++ [address]⟩
  | .free address => { holding with live := holding.live.filter (· != address) }
  | _ => holding

/-- What the caller holds. -/
def Holding.ofCaller (ppp : Option (Block α)) : Holding :=
  ⟨ppp.map (·.address), (ppp.map (·.address)).toList⟩

/-- The exchanges between two worlds. -/
def exchangesSince (world world' : World V) : List (Event V) :=
  world'.events.drop world.events.length

/-- The blocks that are allocated afterwards, of the caller's and of those that came. -/
def liveSince (ppp : Option (Block α)) (world world' : World V) : List Nat :=
  ((exchangesSince world world').foldl Holding.after (Holding.ofCaller ppp)).live

/-- The exchange releases this block. -/
def Event.frees (address : Nat) : Event V → Bool
  | .free released => released == address
  | _ => false

/-- What the caller of `manageBuf_createp` holds is in order: its block is allocated and it is the
only one, no request for no bytes was refused for it, and `manageBuf_freev` releases it once. -/
structure LeftUsable (ppp : Option (Block α)) (world world' : World V) : Prop where
  live : liveSince ppp world world' = (ppp.map (·.address)).toList
  kept : ppp.isSome = true → .realloc 0 none ∉ exchangesSince world world'
  released : ∀ block (addressOf : α → Nat) used world'', ppp = some block →
    (∀ object, .pointer object ∈ block.cells → addressOf object ≠ block.address) →
    manageBufFreev addressOf ppp used world' = .ok () world'' →
    (exchangesSince world world'').countP (Event.frees block.address) = 1

section Release

variable {addressOf : α → Nat} {block : Block α} {address used : Nat} {world world' : World V}

/-- The loop of `manageBuf_freev` releases objects only. -/
theorem freeTurn_releases {index : Nat} {cells : List (Slot α)}
    {outcome : Turn (List (Slot α)) Empty} {start : World V}
    (others : ∀ object, .pointer object ∈ cells → addressOf object ≠ address)
    (grown : Grown (fun event => event.frees address = false) start world)
    (run : freeTurn addressOf index cells world = .ok outcome world') :
    AfterTurn (fun following state =>
      (∀ object, .pointer object ∈ following → addressOf object ≠ address) ∧
        Grown (fun event => event.frees address = false) start state) (fun _ _ => False)
      outcome world' := by
  unfold freeTurn at run
  obtain ⟨object, between, read, rest⟩ := run_bind_eq_ok run
  obtain ⟨rfl, cell, found, -, rfl⟩ := readCell_eq_ok read
  cases cell with
  | indeterminate => cases rest; exact ⟨others, grown⟩
  | null => cases rest; exact ⟨others, grown⟩
  | pointer object =>
    simp only [Slot.target?] at rest
    obtain ⟨⟨⟩, after, emitted, stored⟩ := run_bind_eq_ok rest
    cases emitted
    obtain ⟨following, final, written, done⟩ := run_bind_eq_ok stored
    obtain ⟨rfl, inside, rfl⟩ := writeCell_eq_ok written
    cases done
    have spares : (Event.free (V := V) (addressOf object)).frees address = false :=
      beq_eq_false_iff_ne.mpr (others object (List.mem_of_getElem? found))
    refine ⟨fun object member => ?_, grown.event spares (Nat.le_refl _)⟩
    rcases List.mem_or_eq_of_mem_set member with old | new
    · exact others object old
    · cases new

/-- `manageBuf_freev` releases the block, and each object in it before. -/
theorem manageBufFreev_releases
    (others : ∀ object, .pointer object ∈ block.cells → addressOf object ≠ block.address)
    (run : manageBufFreev addressOf (some block) used world = .ok () world') :
    ∃ objects, world'.events = world.events ++ objects ++ [.free block.address] ∧
      ∀ event ∈ objects, event.frees block.address = false := by
  unfold manageBufFreev at run
  obtain ⟨⟨⟩, begun, use, rest⟩ := run_bind_eq_ok run
  obtain ⟨-, same⟩ := useBlock_eq_ok use
  rw [same] at rest
  obtain ⟨outcome, between, loop, emitted⟩ := run_bind_eq_ok rest
  cases emitted
  have released := forEach_range_return
    (fun _ cells state => (∀ object, .pointer object ∈ cells → addressOf object ≠ block.address) ∧
      Grown (fun event => event.frees block.address = false) world state)
    (fun _ _ _ _ _ _ holds turn => freeTurn_releases holds.1 holds.2 turn)
    ⟨others, .refl _ world⟩ loop
  cases outcome with
  | done absent => exact absent.elim
  | next cells =>
    obtain ⟨objects, record, kinds⟩ := released.2.record
    exact ⟨objects, by rw [record], kinds⟩

end Release

/-! ### The requests -/

section Requests

variable {libc : Libc V} {fuel modulus elementSizei wanted size : Nat} {build : Build}
  {ppp : Option (Block α)} {growth start : Growth α} {world world' begun : World V}

theorem exchangesSince_append {exchanges : List (Event V)}
    (events : world'.events = world.events ++ exchanges) :
    exchangesSince world world' = exchanges := by
  rw [exchangesSince, events, List.drop_left]

/-- A granted request is for the block whose address it answers. -/
theorem Holding.after_granted (holding : Holding) (growth : Growth α)
    (modulus elementSizei address : Nat) :
    address ∈ (holding.after (growth.request (V := V) modulus elementSizei (some address))).live := by
  unfold Growth.request
  by_cases empty : growth.sizei = 0
  · rw [if_pos empty]
    exact List.mem_append_right _ List.mem_cons_self
  · rw [if_neg empty]
    exact List.mem_append_right _ List.mem_cons_self

/-- A refused request changes nothing. -/
theorem Holding.after_refused (holding : Holding) (growth : Growth α) (modulus elementSizei : Nat) :
    holding.after (growth.request (V := V) modulus elementSizei none) = holding := by
  unfold Growth.request
  by_cases empty : growth.sizei = 0
  · rw [if_pos empty]
    rfl
  · rw [if_neg empty]
    rfl

/-- Since `begun`, a block came that was not there before. -/
def Moved (ppp : Option (Block α)) (begun world : World V) : Prop :=
  begun.nextAddress ≤ world.nextAddress ∧ begun.events <+: world.events ∧
    ∃ address ∈ liveSince ppp begun world, begun.nextAddress ≤ address

theorem liveSince_append (prolongs : begun.events <+: world.events) {event : Event V}
    (events : world'.events = world.events ++ [event]) :
    liveSince ppp begun world' =
      (((exchangesSince begun world).foldl Holding.after (Holding.ofCaller ppp)).after
        event).live := by
  unfold liveSince exchangesSince
  rw [events, List.drop_append_of_le_length prolongs.length_le, List.foldl_append]
  rfl

/-- A granted request brings a block. -/
theorem Moved.granted (later : begun.nextAddress ≤ world.nextAddress)
    (prolongs : begun.events <+: world.events)
    (turned : growTurn libc modulus wanted elementSizei growth world =
      .ok (.next start) world') : Moved ppp begun world' := by
  obtain ⟨-, -, -, -, rfl⟩ := growTurn_next turned
  refine ⟨Nat.le_succ_of_le later, prolongs.trans (List.prefix_append _ _), world.nextAddress, ?_,
    later⟩
  rw [liveSince_append prolongs rfl]
  exact Holding.after_granted ..

/-- Behind a granted request there is always such a block. -/
theorem Moved.of_visits (moved : Moved ppp begun world)
    (visited : Visits (growTurn libc modulus wanted elementSizei) start world growth world') :
    Moved ppp begun world' := by
  induction visited with
  | start => exact moved
  | turn _ turned inductionHypothesis =>
    exact .granted inductionHypothesis.1 inductionHypothesis.2.1 turned

/-! ### The failures -/

theorem foldl_quiet {exchanges : List (Event V)}
    (quiet : ∀ event ∈ exchanges, ∀ holding : Holding, holding.after event = holding)
    (holding : Holding) : exchanges.foldl Holding.after holding = holding := by
  induction exchanges with
  | nil => rfl
  | cons event exchanges inductionHypothesis =>
    rw [List.foldl_cons, quiet event List.mem_cons_self]
    exact inductionHypothesis fun other member => quiet other (List.mem_cons_of_mem _ member)

/-- Exchanges that bring and release nothing leave the caller's block as it was. -/
theorem LeftUsable.of_quiet {exchanges : List (Event V)}
    (events : world'.events = world.events ++ exchanges)
    (quiet : ∀ event ∈ exchanges, ∀ holding : Holding, holding.after event = holding)
    (spared : ∀ event ∈ exchanges, ∀ address, event.frees address = false)
    (kept : ppp.isSome = true → .realloc 0 none ∉ exchanges) : LeftUsable ppp world world' := by
  refine ⟨?_, by rwa [exchangesSince_append events], ?_⟩
  · rw [liveSince, exchangesSince_append events, foldl_quiet quiet]
    rfl
  · rintro block addressOf used world'' rfl others run
    obtain ⟨objects, after, objects'⟩ := manageBufFreev_releases others run
    have since : world''.events =
        world.events ++ (exchanges ++ objects ++ [.free block.address]) := by
      rw [after, events, List.append_assoc, List.append_assoc, List.append_assoc]
    have none (events : List (Event V))
        (spares : ∀ event ∈ events, event.frees block.address = false) :
        events.countP (Event.frees block.address) = 0 :=
      List.countP_eq_zero.mpr fun event member => by
        rw [spares event member]
        exact Bool.false_ne_true
    rw [exchangesSince_append since, List.countP_append, List.countP_append,
      none exchanges fun event member => spared event member block.address, none objects objects',
      List.countP_singleton]
    simp [Event.frees]

theorem LeftUsable.refl (ppp : Option (Block α)) (world : World V) :
    LeftUsable ppp world world :=
  .of_quiet (List.append_nil _).symm (fun _ absent => absurd absent List.not_mem_nil)
    (fun _ absent => absurd absent List.not_mem_nil) fun _ => List.not_mem_nil

theorem Moved.refused (moved : Moved ppp begun world) (growth : Growth α)
    (modulus elementSizei : Nat) :
    Moved ppp begun { world with
      events := world.events ++ [growth.request modulus elementSizei none] } := by
  obtain ⟨later, prolongs, address, member, fresh⟩ := moved
  refine ⟨later, prolongs.trans (List.prefix_append _ _), address, ?_, fresh⟩
  rw [liveSince_append prolongs rfl, Holding.after_refused]
  exact member

end Requests

/-! ### A table of 100 slots -/

end MarpaWrapper
