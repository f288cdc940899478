/-
This file says what the functions of the value stack exchange with the outside,
whatever the allocator and the callbacks answer: they allocate and free memory,
store, copy and release elements and report failures, and nothing else.
-/

import MarpaWrapper.Exchanges
import MarpaWrapper.GenericStackRuns

namespace MarpaWrapper

open Effects

variable {V α : Type}

/-! ### The functions of the stack -/

section Stack

variable {libc : Libc V} {fuel : Nat} {start : World V} {stack : GenericStack V}
  {kind : Event V → Prop}

/-- The exchanges of the stack. -/
abbrev OfStack (event : Event V) : Prop := event.ofStack = true

/-- The exchanges of a growing buffer. -/
def Event.ofGrowth : Event V → Bool
  | .realloc .. | .stackFailure .. => true
  | _ => false

/-- The same, as a kind of exchanges. -/
abbrev OfGrowth (event : Event V) : Prop := event.ofGrowth = true

/-- The exchanges that let go of an element. -/
def Event.ofRelease : Event V → Bool
  | .free .. | .stackFree .. | .stackFailure .. => true
  | _ => false

/-- The same, as a kind of exchanges. -/
abbrev OfRelease (event : Event V) : Prop := event.ofRelease = true

theorem OfGrowth.ofStack (event : Event V) (growth : OfGrowth event) : OfStack event := by
  cases event <;> first | rfl | exact absurd growth Bool.false_ne_true

theorem OfRelease.ofStack (event : Event V) (release : OfRelease event) : OfStack event := by
  cases event <;> first | rfl | exact absurd release Bool.false_ne_true

/-- Cells are filled without any exchange. -/
theorem fillNull_keeps (cells : List (Slot (Element V))) (first bound : Nat) :
    Keeps (Grown kind start) (fillNull fuel cells first bound) :=
  .loop (fun _ => .ite (.bind (writeCell_keeps _ _ _) fun _ => .pure _) (.pure _)) _ _

theorem malloc_keeps (size : Nat) : Keeps (Grown OfStack start) (malloc libc size) :=
  acquire_keeps fun _ => rfl

/-- A failure is reported when there is a callback for it. -/
theorem reportFailure_keeps
    (ofKind : ∀ errorType errorNumber, kind (.stackFailure errorType errorNumber))
    (failureCallbackp : Bool) (errorType : GenericStackError) (errorNumber : Int) :
    Keeps (Grown kind start) (reportFailure failureCallbackp errorType errorNumber) :=
  .ite (emit_keeps (ofKind _ _)) (.pure _)

/-- A copy is allocated and handed to the copy callback. -/
theorem copyElement_keeps (freed : Option (Element V)) (source : Element V) :
    Keeps (Grown OfStack start) (copyElement libc stack freed source) := by
  refine .bind (malloc_keeps _) fun granted => ?_
  cases granted with
  | none => exact .bind (reportFailure_keeps (fun _ _ => rfl) _ _ _) fun _ => .pure _
  | some address =>
    refine .ite (.throw _) ?_
    cases stack.copyCallbackp with
    | none => exact .pure _
    | some callback =>
      refine .bind (fun world grown => ?_) fun _ =>
        .bind (.ite (reportFailure_keeps (fun _ _ => rfl) _ _ _) (.pure _)) fun _ => .pure _
      unfold callCopyCallback
      cases callback world.events source with
      | ok answer => exact grown.event rfl (Nat.le_refl _)
      | error fault => exact grown

/-- An element goes to the free callback, and its block to `free`. -/
theorem releaseElement_releases (element : Element V) :
    Keeps (Grown OfRelease start) (releaseElement stack element) := by
  refine .bind ?_ fun _ => emit_keeps rfl
  unfold handToFreeCallback
  cases stack.freeCallbackp with
  | none => exact .pure _
  | some callback =>
    refine .bind (fun world grown => ?_) fun _ =>
      .ite (reportFailure_keeps (fun _ _ => rfl) _ _ _) (.pure _)
    unfold callFreeCallback
    cases callback world.events element with
    | ok answer => exact grown.event rfl (Nat.le_refl _)
    | error fault => exact grown

/-- A cell that holds nothing is left alone. -/
theorem clearCell_releases (cells : List (Slot (Element V))) (index : Nat) :
    Keeps (Grown OfRelease start) (clearCell stack cells index) := by
  refine .bind (readCell_keeps _ _) fun found => ?_
  cases found with
  | none => exact .pure _
  | some element => exact .bind (releaseElement_releases element) fun _ => writeCell_keeps _ _ _

theorem clearCell_keeps (cells : List (Slot (Element V))) (index : Nat) :
    Keeps (Grown OfStack start) (clearCell stack cells index) :=
  Grown.widen (fun _ => clearCell_releases cells index) OfRelease.ofStack

/-- A stack is two blocks; the first is released when the second is refused. -/
theorem genericStackNewp_keeps (elementSizei : Nat) (optionp : Option (GenericStackOption V)) :
    Keeps (Grown OfStack start) (genericStackNewp libc fuel elementSizei optionp) := by
  refine .ite (.bind (reportFailure_keeps (fun _ _ => rfl) _ _ _) fun _ => .pure _)
    (.bind (malloc_keeps _) fun granted => ?_)
  cases granted with
  | none => exact .bind (reportFailure_keeps (fun _ _ => rfl) _ _ _) fun _ => .pure _
  | some address =>
    refine .bind (malloc_keeps _) fun granted => ?_
    cases granted with
    | none =>
      exact .bind (reportFailure_keeps (fun _ _ => rfl) _ _ _) fun _ =>
        .bind (emit_keeps rfl) fun _ => .pure _
    | some buffer => exact .bind (fillNull_keeps _ _ _) fun _ => .pure _

/-- A refused growth is reported, and the buffer stays. -/
theorem growBuffer_grows : Keeps (Grown OfGrowth start) (growBuffer libc fuel stack) := by
  refine .ite (.bind (acquire_keeps fun _ => rfl) fun granted => ?_) (.pure _)
  cases granted with
  | none => exact .bind (reportFailure_keeps (fun _ _ => rfl) _ _ _) fun _ => .pure _
  | some buffer => exact .bind (fillNull_keeps _ _ _) fun _ => .pure _

/-- Growing up to an index pushes nothing but `NULL`, and so copies no element. -/
theorem growTo_grows (optionGrow : Bool) (index : Nat) :
    Keeps (Grown OfGrowth start) (growTo libc fuel optionGrow stack index) := by
  refine .ite (.loop (fun _ => .ite (.bind ?_ fun _ => .pure _) (.pure _)) _ _) (.pure _)
  exact .bind growBuffer_grows fun _ =>
    .ite (.bind (writeCell_keeps _ _ _) fun _ => .pure _) (.pure _)

theorem growTo_keeps (optionGrow : Bool) (index : Nat) :
    Keeps (Grown OfStack start) (growTo libc fuel optionGrow stack index) :=
  Grown.widen (fun _ => growTo_grows optionGrow index) OfGrowth.ofStack

/-- `getp` may grow the stack, and copies nothing. -/
theorem genericStackGetp_keeps (index : Nat) :
    Keeps (Grown OfStack start) (genericStackGetp libc fuel stack index) :=
  .bind (growTo_keeps _ _) fun _ => .ite
    (.bind (reportFailure_keeps (fun _ _ => rfl) _ _ _) fun _ => .pure _)
    (.bind (readCell_keeps _ _) fun _ => .pure _)

/-- `seti` lets go of the old element before the new one is copied. -/
theorem genericStackSeti_keeps (index : Nat) (elementp : Option (Element V)) :
    Keeps (Grown OfStack start) (genericStackSeti libc fuel stack index elementp) := by
  refine .bind (growTo_keeps _ _) fun _ => .ite
    (.bind (reportFailure_keeps (fun _ _ => rfl) _ _ _) fun _ => .pure _)
    (.bind (clearCell_keeps _ _) fun _ => ?_)
  cases elementp with
  | none => exact .pure _
  | some element =>
    refine .bind (copyElement_keeps _ element) fun copied => ?_
    cases copied with
    | none => exact .pure _
    | some newElement =>
      exact .bind (writeCell_keeps _ _ _) fun _ => .bind (emit_keeps rfl) fun _ => .pure _

theorem genericStackDestroyv_keeps :
    Keeps (Grown OfStack start) (genericStackDestroyv fuel stack) :=
  .bind (.loop (fun _ => .ite (.bind (clearCell_keeps _ _) fun _ => .pure _) (.pure _)) _ _)
    fun _ => .bind (emit_keeps rfl) fun _ => emit_keeps rfl

end Stack

end MarpaWrapper
