/-
This file is the model of `src/genericStack.c`: a growing array of pointers to
deep copies of the user's elements, with optional callbacks that copy an element
in and release it. The functions take the stack they are given by pointer as an
argument and return it; a `NULL` stack pointer, which every function answers
with a zero result, is excluded by the type.

The loops of the source keep their own counters. `fuel` bounds the number of
turns of one loop, and a loop that exceeds it ends in `Fault.exhausted`.
-/

import MarpaWrapper.World

namespace MarpaWrapper

open Effects

/-- `genericStack_freeCallback_t`: the error number for an element. -/
abbrev FreeCallback (V : Type) := List (Event V) → Element V → Except Fault Int

/-- `genericStack_copyCallback_t`: the error number for a source element, and what the
destination holds afterwards. -/
abbrev CopyCallback (V : Type) := List (Event V) → Element V → Except Fault (Int × V)

/-- `genericStack_option_t`. The failure callback returns nothing, so only its presence
matters. -/
structure GenericStackOption (V : Type) where
  growFlags : Nat
  failureCallbackp : Bool := false
  freeCallbackp : Option (FreeCallback V) := none
  copyCallbackp : Option (CopyCallback V) := none

/-- `struct genericStack`: `address` and `buffer` are the addresses of the structure and of
`bufpp`, and `bufpp` lists the cells of that block. -/
structure GenericStack (V : Type) where
  address : Nat
  buffer : Nat
  bufpp : List (Slot (Element V))
  allocSizei : Nat
  stackSizei : Nat
  elementSizei : Nat
  failureCallbackp : Bool
  freeCallbackp : Option (FreeCallback V)
  copyCallbackp : Option (CopyCallback V)
  optionGrowOnSeti : Bool
  optionGrowOnGeti : Bool

/-- `STACK_INIT_SIZE`. -/
def stackInitSize : Nat := 4

/-- `GENERICSTACK_OPTION_GROW_ON_GET`, `..._GROW_ON_SET` and `..._GROW_DEFAULT`. -/
def genericStackOptionGrowOnGet : Nat := 0x01
def genericStackOptionGrowOnSet : Nat := 0x02
def genericStackOptionGrowDefault : Nat := genericStackOptionGrowOnGet ||| genericStackOptionGrowOnSet

/-- `sizeof(genericStack_t)` on a 64-bit machine. -/
def genericStackSize : Nat := 88

/-- `ENOMEM`, the error number of a refused request. -/
def enomem : Int := 12

/-- The members of `genericStack_error_parameter_t` and `genericStack_error_runtime_t`. -/
def genericStackErrorParameterElementsize : Int := 0
def genericStackErrorRuntimeStackEmpty : Int := 0
def genericStackErrorRuntimeStackTooSmallGet : Int := 1
def genericStackErrorRuntimeStackTooSmallSet : Int := 2

/-! ### Cells -/

section Cells

variable {V α : Type}

/-- One turn of `for (i = first; i < bound; i++) cells[i] = NULL;` with an `unsigned int i` and a
`size_t` bound. -/
def fillNullTurn (bound : Nat) (frame : Nat × List (Slot α)) :
    Exec V (Turn (Nat × List (Slot α)) (List (Slot α))) :=
  if frame.1 < bound then do
    let cells ← writeCell frame.2 frame.1 .null
    pure (.next ((frame.1 + 1) % uintModulus, cells))
  else pure (.done frame.2)

/-- The whole loop. -/
def fillNull (fuel : Nat) (cells : List (Slot α)) (first bound : Nat) :
    Exec V (List (Slot α)) :=
  loop .exhausted (fillNullTurn bound) fuel (first % uintModulus, cells)

end Cells

section Stack

variable {V : Type} (libc : Libc V) (fuel : Nat)

/-! ### Callbacks -/

/-- Call the failure callback, when there is one. -/
def reportFailure (failureCallbackp : Bool) (errorType : GenericStackError) (errorNumber : Int) :
    Exec V Unit :=
  if failureCallbackp then emit (.stackFailure errorType errorNumber) else pure ()

/-- Report a callback's error, when it has one. -/
def reportCallbackError (failureCallbackp : Bool) (errnum : Int) : Exec V Unit :=
  if errnum ≠ 0 then reportFailure failureCallbackp .callback errnum else pure ()

/-- Call the free callback on an element of the stack. -/
def callFreeCallback (freeCallbackp : FreeCallback V) (element : Element V) : Exec V Int :=
  fun world =>
    match freeCallbackp world.events element with
    | .ok errnum => .ok errnum { world with events := world.events ++ [.stackFree element errnum] }
    | .error fault => .error fault world

/-- Call the copy callback from `source` into the block at `address`. -/
def callCopyCallback (copyCallbackp : CopyCallback V) (source : Element V) (address : Nat) :
    Exec V (Int × V) :=
  fun world =>
    match copyCallbackp world.events source with
    | .ok (errnum, value) =>
      .ok (errnum, value)
        { world with events := world.events ++ [.stackCopy source ⟨address, value⟩ errnum] }
    | .error fault => .error fault world

/-- The block that `pushi` and `seti` share: allocate an element, `memcpy` the source into it
and let the copy callback work on it. The callback's error is reported and otherwise ignored. There
is nothing to copy from when the source is the element that was `freed` before. -/
def copyElement (stack : GenericStack V) (freed : Option (Element V)) (source : Element V) :
    Exec V (Option (Element V)) := do
  match ← malloc libc stack.elementSizei with
  | none =>
    reportFailure stack.failureCallbackp .system enomem
    pure none
  | some address =>
    if freed.any (·.address == source.address) then throw .released
    else
      match stack.copyCallbackp with
      | none => pure (some ⟨address, source.value⟩)
      | some copyCallbackp =>
        let (errnum, value) ← callCopyCallback copyCallbackp source address
        reportCallbackError stack.failureCallbackp errnum
        pure (some ⟨address, value⟩)

/-- Give an element to the free callback, when there is one. The callback's error is reported
and otherwise ignored. -/
def handToFreeCallback (stack : GenericStack V) (element : Element V) : Exec V Unit :=
  match stack.freeCallbackp with
  | none => pure ()
  | some freeCallbackp => do
    let errnum ← callFreeCallback freeCallbackp element
    reportCallbackError stack.failureCallbackp errnum

/-- Give an element to the free callback and free it. -/
def releaseElement (stack : GenericStack V) (element : Element V) : Exec V Unit := do
  handToFreeCallback stack element
  emit (.free element.address)

/-- The block that `seti` and `destroyv` share: release what a cell points to and set the cell to
`NULL`. -/
def clearCell (stack : GenericStack V) (cells : List (Slot (Element V))) (index : Nat) :
    Exec V (List (Slot (Element V))) := do
  match ← readCell cells index with
  | none => pure cells
  | some element =>
    releaseElement stack element
    writeCell cells index .null

/-! ### The functions of the source -/

/-- `genericStack_newp`. -/
def genericStackNewp (elementSizei : Nat) (optionp : Option (GenericStackOption V)) :
    Exec V (Option (GenericStack V)) := do
  let failureCallbackp := (optionp.map (·.failureCallbackp)).getD false
  if elementSizei ≤ 0 then
    reportFailure failureCallbackp .parameter genericStackErrorParameterElementsize
    pure none
  else
    match ← malloc libc genericStackSize with
    | none =>
      reportFailure failureCallbackp .system enomem
      pure none
    | some address =>
      match ← malloc libc (elementSizei * stackInitSize % sizeModulus) with
      | none =>
        reportFailure failureCallbackp .system enomem
        emit (.free address)
        pure none
      | some buffer =>
        let bufpp ← fillNull fuel (resize [] (elementSizei * stackInitSize % sizeModulus)) 0
          stackInitSize
        pure (some {
          address, buffer, bufpp
          allocSizei := stackInitSize
          stackSizei := 0
          elementSizei, failureCallbackp
          freeCallbackp := optionp.bind (·.freeCallbackp)
          copyCallbackp := optionp.bind (·.copyCallbackp)
          optionGrowOnGeti := (optionp.map fun option =>
            option.growFlags &&& genericStackOptionGrowOnGet == genericStackOptionGrowOnGet).getD
              false
          optionGrowOnSeti := (optionp.map fun option =>
            option.growFlags &&& genericStackOptionGrowOnSet == genericStackOptionGrowOnSet).getD
              false })

/-- The growth at the head of `genericStack_pushi`: double the buffer of a full stack. The
result tells whether the push goes on. -/
def growBuffer (stack : GenericStack V) : Exec V (Bool × GenericStack V) := do
  if stack.stackSizei ≥ stack.allocSizei then
    let allocSizei := stack.allocSizei * 2 % sizeModulus
    match ← realloc libc (allocSizei * pointerSize % sizeModulus) with
    | none =>
      reportFailure stack.failureCallbackp .system enomem
      pure (false, stack)
    | some buffer =>
      let bufpp ← fillNull fuel (resize stack.bufpp (allocSizei * pointerSize % sizeModulus))
        stack.allocSizei allocSizei
      pure (true, { stack with buffer, bufpp, allocSizei })
  else pure (true, stack)

/-- `genericStack_pushi`. -/
def genericStackPushi (stack : GenericStack V) (elementp : Option (Element V)) :
    Exec V (Nat × GenericStack V) := do
  let (grown, stack) ← growBuffer libc fuel stack
  if grown then
    match elementp with
    | some element =>
      match ← copyElement libc stack none element with
      | none => pure (0, stack)
      | some newElement =>
        let bufpp ← writeCell stack.bufpp stack.stackSizei (.pointer newElement)
        emit (.stackStore newElement)
        pure (1, { stack with bufpp, stackSizei := (stack.stackSizei + 1) % sizeModulus })
    | none =>
      let bufpp ← writeCell stack.bufpp stack.stackSizei .null
      pure (1, { stack with bufpp, stackSizei := (stack.stackSizei + 1) % sizeModulus })
  else pure (0, stack)

/-- `genericStack_popp`. -/
def genericStackPopp (stack : GenericStack V) : Exec V (Option (Element V) × GenericStack V) := do
  if stack.stackSizei ≤ 0 then
    reportFailure stack.failureCallbackp .runtime genericStackErrorRuntimeStackEmpty
    pure (none, stack)
  else
    let value ← readCell stack.bufpp (stack.stackSizei - 1)
    let stack := { stack with stackSizei := stack.stackSizei - 1 }
    if stack.stackSizei * 2 % sizeModulus ≤ stack.allocSizei ∧ stack.allocSizei ≥ 8 then
      let allocSizei := stack.allocSizei / 2
      match ← realloc libc (allocSizei * pointerSize % sizeModulus) with
      | none => pure (value, stack)
      | some buffer =>
        pure (value, { stack with
          allocSizei, buffer
          bufpp := resize stack.bufpp (allocSizei * pointerSize % sizeModulus) })
    else pure (value, stack)

/-- One turn of `while (index >= allocSizei) genericStack_pushi(NULL);`, the growth loop of `getp`
and `seti`. The result of the push is not looked at. -/
def growToTurn (index : Nat) (stack : GenericStack V) :
    Exec V (Turn (GenericStack V) (GenericStack V)) :=
  if index ≥ stack.allocSizei then do
    let (_, stack) ← genericStackPushi libc fuel stack none
    pure (.next stack)
  else pure (.done stack)

/-- The growth at the head of `getp` and `seti`, for an index past the buffer and when the option
allows it. -/
def growTo (optionGrow : Bool) (stack : GenericStack V) (index : Nat) :
    Exec V (GenericStack V) :=
  if index ≥ stack.allocSizei ∧ optionGrow then
    loop .exhausted (growToTurn libc fuel index) fuel stack
  else pure stack

/-- `genericStack_getp`. -/
def genericStackGetp (stack : GenericStack V) (index : Nat) :
    Exec V (Option (Element V) × GenericStack V) := do
  let stack ← growTo libc fuel stack.optionGrowOnGeti stack index
  if index ≥ stack.stackSizei ∧ ¬ stack.optionGrowOnGeti then
    reportFailure stack.failureCallbackp .runtime genericStackErrorRuntimeStackTooSmallGet
    pure (none, stack)
  else
    let value ← readCell stack.bufpp index
    pure (value, stack)

/-- `genericStack_seti`. -/
def genericStackSeti (stack : GenericStack V) (index : Nat) (elementp : Option (Element V)) :
    Exec V (Nat × GenericStack V) := do
  let minStackSize := (index + 1) % uintModulus
  let stack ← growTo libc fuel stack.optionGrowOnSeti stack index
  if index ≥ stack.stackSizei ∧ ¬ stack.optionGrowOnSeti then
    reportFailure stack.failureCallbackp .runtime genericStackErrorRuntimeStackTooSmallSet
    pure (0, stack)
  else
    let held := stack.bufpp[index]?.bind Slot.target?
    let bufpp ← clearCell stack stack.bufpp index
    let stack := { stack with bufpp }
    match elementp with
    | some element =>
      match ← copyElement libc stack held element with
      | none => pure (0, stack)
      | some newElement =>
        let bufpp ← writeCell stack.bufpp index (.pointer newElement)
        emit (.stackStore newElement)
        pure (1, { stack with bufpp, stackSizei := max stack.stackSizei minStackSize })
    | none => pure (1, { stack with stackSizei := max stack.stackSizei minStackSize })

/-- `genericStack_sizei`. -/
def genericStackSizei (stack : GenericStack V) : Nat := stack.stackSizei

/-- One turn of the loop of `genericStack_destroyv`. It visits every allocated cell, not only the
used ones. -/
def destroyTurn (stack : GenericStack V) (frame : Nat × List (Slot (Element V))) :
    Exec V (Turn (Nat × List (Slot (Element V))) Unit) :=
  if frame.1 < stack.allocSizei then do
    let bufpp ← clearCell stack frame.2 frame.1
    pure (.next ((frame.1 + 1) % uintModulus, bufpp))
  else pure (.done ())

/-- `genericStack_destroyv`. -/
def genericStackDestroyv (stack : GenericStack V) : Exec V Unit := do
  loop .exhausted (destroyTurn stack) fuel (0, stack.bufpp)
  emit (.free stack.buffer)
  emit (.free stack.address)

end Stack

end MarpaWrapper
