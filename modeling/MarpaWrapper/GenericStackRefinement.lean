/-
This file compares the value stack with what it stands for, a list of optional
entries. `listCall` is the list machine: it pushes, pops, reads and writes
entries and knows no buffer, no copies and no callbacks. A stack agrees with a
list when the list reads the stack's table of entries up to its size.

Every call keeps the agreement as long as one thing does not happen: a `seti`
that extends the stack inside its buffer does not visit the cells it passes, so
a cell that still holds a popped pointer becomes an entry again.
-/

import MarpaWrapper.GenericStackRuns

namespace MarpaWrapper

open Effects Tables

/-! ### Calls -/

/-- A call of one of the stack's functions. -/
inductive StackCall (α : Type) where
  | pushi (elementp : Option α)
  | popp
  | getp (index : Nat)
  | seti (index : Nat) (elementp : Option α)
  | sizei

/-- What a call returns: a number or a pointer. -/
inductive StackAnswer (α : Type) where
  | number (value : Nat)
  | pointer (target : Option α)
  deriving DecidableEq

section Calls

variable {α : Type}

/-- The index a call names. -/
def StackCall.index : StackCall α → Nat
  | .getp index => index
  | .seti index _ => index
  | _ => 0

/-- The element a call brings. -/
def StackCall.elementp : StackCall α → Option α
  | .pushi elementp => elementp
  | .seti _ elementp => elementp
  | _ => none

/-- The same call with another element. -/
def StackCall.withElement : StackCall α → Option α → StackCall α
  | .pushi _, entry => .pushi entry
  | .seti index _, entry => .seti index entry
  | call, _ => call

/-- The list machine. -/
def listCall (growOnSet : Bool) :
    StackCall α → List (Option α) → StackAnswer α × List (Option α)
  | .pushi entry, entries => (.number 1, entries ++ [entry])
  | .popp, entries => (.pointer entries.getLast?.join, entries.dropLast)
  | .getp index, entries => (.pointer entries[index]?.join, entries)
  | .seti index entry, entries =>
    if index < entries.length then (.number 1, entries.set index entry)
    else if growOnSet then
      (.number 1, entries ++ List.replicate (index - entries.length) none ++ [entry])
    else (.number 0, entries)
  | .sizei, entries => (.number entries.length, entries)

/-- The answers of the list machine to a sequence of calls. -/
def listAnswers (growOnSet : Bool) : List (StackCall α) → List (Option α) → List (StackAnswer α)
  | [], _ => []
  | call :: rest, entries =>
    (listCall growOnSet call entries).1 ::
      listAnswers growOnSet rest (listCall growOnSet call entries).2

/-- The answers of a run, when it returns. -/
def answersOf {β ε σ : Type} : EStateM.Result ε σ (α × β) → Option α
  | .ok (answers, _) _ => some answers
  | .error _ _ => none

end Calls

variable {V : Type}

/-- The call on the value stack. -/
def stackCall (libc : Libc V) (fuel : Nat) (call : StackCall (Element V)) (stack : GenericStack V) :
    Exec V (StackAnswer (Element V) × GenericStack V) :=
  match call with
  | .pushi elementp => do
    let (result, stack) ← genericStackPushi libc fuel stack elementp
    pure (.number result, stack)
  | .popp => do
    let (value, stack) ← genericStackPopp libc stack
    pure (.pointer value, stack)
  | .getp index => do
    let (value, stack) ← genericStackGetp libc fuel stack index
    pure (.pointer value, stack)
  | .seti index elementp => do
    let (result, stack) ← genericStackSeti libc fuel stack index elementp
    pure (.number result, stack)
  | .sizei => pure (.number (genericStackSizei stack), stack)

/-- The stack agrees with a list of entries. -/
structure GenericStack.Agrees (stack : GenericStack V) (entries : List (Option (Element V))) :
    Prop where
  sound : stack.Sound
  reads : Reads entries stack.stackSizei stack.entry

section Step

variable {libc : Libc V} {fuel : Nat} {stack : GenericStack V}
  {entries : List (Option (Element V))}

/-- What one call of a stack that agrees with a list comes to: the answer is the list machine's to
the call with some entry for the call's element, and the agreement is kept. -/
structure Follows (stack : GenericStack V) (call : StackCall (Element V))
    (entries : List (Option (Element V))) (entry : Option (Element V))
    (answer : StackAnswer (Element V)) (stack' : GenericStack V) : Prop where
  settings : stack.SameSettings stack'
  copies : stack.Copies call.elementp entry
  answers : answer = (listCall stack.optionGrowOnSeti (call.withElement entry) entries).1
  agrees : stack'.Agrees (listCall stack.optionGrowOnSeti (call.withElement entry) entries).2

theorem popp_follows (agrees : stack.Agrees entries) (world : World V) :
    ∃ answer stack' world' entry,
      stackCall libc fuel .popp stack world = .ok (answer, stack') world' ∧
      Follows stack .popp entries entry answer stack' := by
  by_cases occupied : 0 < stack.stackSizei
  · obtain ⟨stack', world', run, sound, settings, size, kept, -⟩ :=
      genericStackPopp_last libc agrees.sound occupied world
    refine ⟨_, stack', world', none, run_bind_ok run, settings, trivial, ?_, sound, ?_⟩
    · exact congrArg StackAnswer.pointer (agrees.reads.getLast occupied).symm
    · rw [size]
      exact agrees.reads.pop fun other below =>
        (kept other).resolve_right fun cut => absurd cut.1 (Nat.not_le.mpr below)
  · have empty : stack.stackSizei = 0 := by omega
    obtain ⟨world', run, -⟩ := genericStackPopp_empty libc empty world
    have nothing : entries = [] :=
      List.length_eq_zero_iff.mp (agrees.reads.length.trans empty)
    subst nothing
    exact ⟨_, stack, world', none, run_bind_ok run, .refl stack, trivial, rfl, agrees⟩

theorem getp_follows (agrees : stack.Agrees entries) (fixed : stack.optionGrowOnGeti = false)
    (index : Nat) (world : World V) :
    ∃ answer stack' world' entry,
      stackCall libc fuel (.getp index) stack world = .ok (answer, stack') world' ∧
      Follows stack (.getp index) entries entry answer stack' := by
  by_cases inside : index < stack.stackSizei
  · have below := Nat.lt_of_lt_of_le inside agrees.sound.used
    exact ⟨_, stack, world, none,
      run_bind_ok (genericStackGetp_run agrees.sound below (.inl inside) world), .refl stack,
      trivial, congrArg StackAnswer.pointer (agrees.reads.join inside).symm, agrees⟩
  · obtain ⟨world', run, -⟩ := genericStackGetp_refused libc fuel
      (Nat.not_lt.mp inside) fixed world
    exact ⟨_, stack, world', none, run_bind_ok run, .refl stack, trivial,
      congrArg StackAnswer.pointer (agrees.reads.join_above (Nat.not_lt.mp inside)).symm, agrees⟩

theorem GenericStack.Fresh.agrees {optionp : Option (GenericStackOption V)}
    (fresh : stack.Fresh optionp) : stack.Agrees [] :=
  ⟨fresh.sound, by rw [fresh.empty]; exact .nil _⟩

end Step

/-! ### A popped entry comes back -/

/-- The stack that `genericStack_newp` creates with this option for elements of eight bytes. -/
def growOnSetStack : GenericStack Nat where
  address := 0
  buffer := 1
  bufpp := List.replicate 4 .null
  allocSizei := 4
  stackSizei := 0
  elementSizei := 8
  failureCallbackp := false
  freeCallbackp := none
  copyCallbackp := none
  optionGrowOnSeti := true
  optionGrowOnGeti := false

/-- The world after its creation. -/
def growOnSetWorld : World Nat where
  events := [.malloc 88 (some 0), .malloc 32 (some 1)]
  nextAddress := 2

end MarpaWrapper
