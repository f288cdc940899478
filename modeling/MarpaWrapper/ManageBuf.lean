/-
This file is the model of `src/manageBuf.c`: a growing array of pointers with
its size beside it, which the wrapper keeps its symbols, its rules and its
progress items in. The array grows by doubling, and what it gains is filled with
`NULL`, by `memset` where the build knows that `NULL` is all zero bytes and by a
loop elsewhere.

The width of `size_t` and the size of a pointer are parameters, as the file is
written for every machine.
-/

import MarpaWrapper.World

namespace MarpaWrapper

open Effects

/-- What the build fixes: `NULL_IS_ZEROES` is defined, and `MARPAWRAPPER_NTRACE` is not. -/
structure Build where
  nullIsZeroes : Bool := true
  tracing : Bool := false

section ManageBuf

variable {V α : Type} (libc : Libc V) (fuel : Nat) (build : Build) (modulus : Nat)

/-! ### Growing -/

/-- The locals of `manageBuf_createp` that its loop changes. -/
structure Growth (α : Type) where
  sizei : Nat
  prevSizei : Nat
  pp : Option (Block α)

/-- The cells of the block that `pp` designates. -/
def cellsOf (pp : Option (Block α)) : List (Slot α) := (pp.map (·.cells)).getD []

/-- What a request for `sizei` elements leaves: it returned `NULL`, or a block whose first cells
are the old ones. -/
def enlarge (growth : Growth α) (cells : List (Slot α)) (sizei bytes elementSizei : Nat) :
    Option Nat → Turn (Growth α) (Except (Growth α) (Growth α))
  | none => .done (.error growth)
  | some address => .next {
      sizei
      prevSizei := sizei
      pp := some {
        address
        cells := cells.take (bytes / elementSizei) ++
          List.replicate (bytes / elementSizei - cells.length) .indeterminate } }

/-- `realloc(pp, size)`, for which the block of `pp` must be there. -/
def reallocBlock (pp : Option (Block α)) (size : Nat) : Exec V (Option Nat) := do
  pp.elim (pure ()) useBlock
  realloc libc size

/-- One turn of `while (sizei < wantedNumberi)`. The loop ends with the locals, as a failure or with
enough slots. -/
def growTurn (wantedNumberi elementSizei : Nat) (growth : Growth α) :
    Exec V (Turn (Growth α) (Except (Growth α) (Growth α))) :=
  if growth.sizei < wantedNumberi then
    if growth.sizei ≤ 0 then do
      let address ← malloc libc (100 * elementSizei % modulus)
      pure (enlarge growth [] 100 (100 * elementSizei % modulus) elementSizei address)
    else if growth.sizei * 2 % modulus < growth.prevSizei then
      -- Turnaround
      pure (.done (.error growth))
    else do
      let address ← reallocBlock libc growth.pp
        (growth.sizei * 2 % modulus * elementSizei % modulus)
      pure (enlarge growth (cellsOf growth.pp) (growth.sizei * 2 % modulus)
        (growth.sizei * 2 % modulus * elementSizei % modulus) elementSizei address)
  else pure (.done (.ok growth))

/-! ### Filling with NULL -/

/-- `memset(&(pp[origSizei]), 0, (sizei - origSizei) * elementSizei)`. -/
def prefillZeroes (cells : List (Slot α)) (origSizei sizei elementSizei : Nat) :
    Exec V (List (Slot α)) :=
  let count := (sizei - origSizei) * elementSizei % modulus / elementSizei
  if origSizei + count ≤ cells.length then
    pure (cells.take origSizei ++ List.replicate count .null ++ cells.drop (origSizei + count))
  else throw .outOfBounds

/-- One turn of `for (i = origSizei; i < sizei; i++)` with an `int i` and a `size_t` bound. -/
def prefillTurn (sizei : Nat) (frame : Int × List (Slot α)) :
    Exec V (Turn (Int × List (Slot α)) (List (Slot α))) :=
  if (frame.1 % modulus).toNat < sizei then
    if frame.1 < 0 then throw .outOfBounds
    else do
      let cells ← writeCell frame.2 frame.1.toNat .null
      pure (.next (toInt (frame.1 + 1), cells))
  else pure (.done frame.2)

/-- The prefill of the build. -/
def prefill (cells : List (Slot α)) (origSizei sizei elementSizei : Nat) :
    Exec V (List (Slot α)) :=
  if build.nullIsZeroes then prefillZeroes modulus cells origSizei sizei elementSizei
  else loop .exhausted (prefillTurn modulus sizei) fuel (toInt origSizei, cells)

/-! ### The functions of the source -/

/-- What `*ppp` designates when the loop failed. It was not assigned, but the first `realloc` that
was granted has released its block. -/
def leftBy (ppp : Option (Block α)) (sizeip : Nat) (growth : Growth α) : Option (Block α) :=
  ppp.map fun block =>
    { block with released := block.released || (0 < sizeip && sizeip != growth.sizei) }

/-- `manageBuf_createp`: the block and the size that are left in `*ppp` and `*sizeip`. When it
returns `NULL`, what the caller's pointer designates then. -/
def manageBufCreatep (ppp : Option (Block α)) (sizeip wantedNumberi elementSizei : Nat) :
    Exec V (Except (Option (Block α)) (Block α × Nat)) := do
  match ← loop .exhausted (growTurn libc modulus wantedNumberi elementSizei) fuel
      ⟨sizeip, sizeip, ppp⟩ with
  | .error growth => pure (.error (leftBy ppp sizeip growth))
  | .ok growth =>
    let cells ← prefill fuel build modulus (cellsOf growth.pp) sizeip growth.sizei elementSizei
    pure (growth.pp.elim (.error none) fun block => .ok ({ block with cells }, growth.sizei))

/-- One turn of the loop of `manageBuf_freev`. -/
def freeTurn (addressOf : α → Nat) (index : Nat) (cells : List (Slot α)) :
    Exec V (Turn (List (Slot α)) Empty) := do
  match ← readCell cells index with
  | none => pure (.next cells)
  | some object =>
    emit (.free (addressOf object))
    let cells ← writeCell cells index .null
    pure (.next cells)

/-- `manageBuf_freev`. The caller's pointer, size and used count are `NULL` and zero afterwards. -/
def manageBufFreev (addressOf : α → Nat) (ppp : Option (Block α)) (usedNumberip : Nat) :
    Exec V Unit :=
  match ppp with
  | none => pure ()
  | some block => do
    useBlock block
    let _ ← forEach (freeTurn addressOf) (List.range usedNumberip) block.cells
    emit (.free block.address)

end ManageBuf

end MarpaWrapper
