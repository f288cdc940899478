/-
This file says what `marpaWrapper_vb` does not do, however it ends: it makes no grammar
call, it neither creates nor releases a grammar or a recognizer, and what lies in
libmarpa's grammar stays as it is.
-/

import MarpaWrapper.ValuationFailures

namespace MarpaWrapper

open Effects

variable {V α : Type}

/-- An exchange that leaves libmarpa's grammars and recognizers alone. -/
def Event.plain : Event V → Bool
  | .grammarNew _ | .grammarUnref _ | .grammar _ _ | .recognizerNew _ | .recognizerUnref _ => false
  | _ => true

/-- The same, as a kind of exchanges. -/
abbrev LeavesMarpa (event : Event V) : Prop := event.plain = true

/-- In the body only plain exchanges were made. -/
def PlainSince (start : World V) (state : VbState V) : Prop := Grown LeavesMarpa start state.world

section Body

variable {start : World V} {libc : Libc V} {fuel : Nat} {phase : ValuePhase V} {wrapper : Wrapper}
  {valueOption : MarpaWrapperValueOption V} {stackOption : MarpaWrapperStackOption V}

/-! ### The parts of the body -/

/-- A computation on the world, run in the body. -/
theorem onWorld_plain {program : Exec V α} (keeps : Keeps (Grown LeavesMarpa start) program) :
    Keeps (PlainSince start) (onWorld program) := by
  rintro ⟨locals, world⟩ holds
  have outcome := keeps world holds
  unfold onWorld
  cases run : program world with
  | ok value world' => rw [run] at outcome; exact outcome
  | error fault world' => rw [run] at outcome; exact outcome

theorem assign_plain (change : VbLocals V → VbLocals V) : Keeps (PlainSince start) (assign change) :=
  fun _ holds => holds

theorem readLocals_plain : Keeps (PlainSince start) (readLocals (V := V)) := fun _ holds => holds

/-- `goto err` exchanges nothing. -/
theorem fail_plain : Keeps (PlainSince start) (fail : Vb V α) :=
  .bind (assign_plain _) fun _ => .throw _

theorem failIf_plain (condition : Bool) : Keeps (PlainSince start) (failIf (V := V) condition) :=
  .ite fail_plain (.pure _)

theorem ask_plain {answer : List (Event V) → α} {event : α → Event V}
    (plain : ∀ value, LeavesMarpa (event value)) : Keeps (PlainSince start) (onWorld (ask answer event)) :=
  onWorld_plain (ask_keeps plain)

/-- An object is asked for, and the body is left when there is none. -/
theorem acquireOrFail_plain {granted : List (Event V) → Bool} {event : Option Nat → Event V}
    (plain : ∀ handle, LeavesMarpa (event handle)) :
    Keeps (PlainSince start) (acquireOrFail granted event) := by
  refine .bind (onWorld_plain (acquire_keeps plain)) fun handle => ?_
  cases handle with
  | none => exact fail_plain
  | some handle => exact .pure _

/-- An option is set, or an answer is asked for, and a failure leaves the body. -/
theorem askOrFail_plain {wanted : Bool} {answer : List (Event V) → Int} {event : Int → Event V}
    {failed : Int → Bool} (plain : ∀ value, LeavesMarpa (event value)) :
    Keeps (PlainSince start) (askOrFail wanted answer event failed) :=
  .ite (.bind (ask_plain plain) fun _ => failIf_plain _) (.pure _)

/-- The exchanges of the stack are plain. -/
theorem leavesMarpa_ofStack (event : Event V) (ofStack : OfStack event) : LeavesMarpa event := by
  cases event <;> first | rfl | exact absurd ofStack Bool.false_ne_true

theorem plain_ofStack {program : Exec V α} (keeps : ∀ start, Keeps (Grown OfStack start) program) :
    Keeps (Grown LeavesMarpa start) program :=
  Grown.widen keeps leavesMarpa_ofStack

/-- A call of a stack function, on whatever stack there is. -/
theorem onStack_plain {program : GenericStack V → Exec V (α × GenericStack V)} (zero : α)
    (keeps : ∀ stack start, Keeps (Grown OfStack start) (program stack)) :
    Keeps (PlainSince start) (onStack program zero) := by
  refine .bind readLocals_plain fun locals => ?_
  cases locals.genericStackp with
  | none => exact .pure _
  | some stack =>
    exact .bind (onWorld_plain (plain_ofStack (keeps stack))) fun _ =>
      .bind (assign_plain _) fun _ => .pure _

/-- Only the read of an indeterminate local is noted. -/
theorem noteRead_plain (slot : Slot α) : Keeps (Grown LeavesMarpa start) (noteRead (V := V) slot) := by
  cases slot with
  | indeterminate => exact emit_keeps rfl
  | null => exact .pure _
  | pointer target => exact .pure _

theorem readOutput_plain : Keeps (PlainSince start) (readOutput (V := V)) :=
  .bind readLocals_plain fun _ => .bind (onWorld_plain (noteRead_plain _)) fun _ => .pure _

/-- A value callback is called, and its failure leaves the body. -/
theorem produceOrFail_plain (callback : List (Event V) → Bool × Option V)
    {event : Bool → Option (Element V) → Event V} (plain : ∀ answer output, LeavesMarpa (event answer output)) :
    Keeps (PlainSince start) (produceOrFail callback event) :=
  .bind (onWorld_plain (invoke_keeps plain)) fun _ => .bind (assign_plain _) fun _ => failIf_plain _

/-! ### The body -/

/-- The bocage, the order on it and the iterator on that: none of them is a recognizer. -/
theorem openTree_plain : Keeps (PlainSince start) (openTree phase valueOption) :=
  .bind (ask_plain fun _ => rfl) fun _ => .bind (acquireOrFail_plain fun _ => rfl) fun _ =>
    .bind (assign_plain _) fun _ => .bind (acquireOrFail_plain fun _ => rfl) fun _ =>
    .bind (assign_plain _) fun _ => .bind (askOrFail_plain fun _ => rfl) fun _ =>
    .bind (askOrFail_plain fun _ => rfl) fun _ => .bind (askOrFail_plain fun _ => rfl) fun _ =>
    .bind (askOrFail_plain fun _ => rfl) fun _ => .bind (acquireOrFail_plain fun _ => rfl) fun _ =>
    assign_plain _

/-- A valuator, and a value stack for it. -/
theorem openValuator_plain : Keeps (PlainSince start) (openValuator libc fuel phase stackOption) := by
  refine .bind (acquireOrFail_plain fun _ => rfl) fun _ => .bind (assign_plain _) fun _ =>
    .bind (askOrFail_plain fun _ => rfl) fun _ =>
    .bind (onWorld_plain (plain_ofStack fun _ => genericStackNewp_keeps _ _)) fun created => ?_
  cases created with
  | none => exact fail_plain
  | some stack => exact assign_plain _

/-- The inputs of a rule are read off the stack, into an array of their own. -/
theorem collectInputs_plain (argFirsti argLasti : Int) :
    Keeps (PlainSince start) (collectInputs libc fuel argFirsti argLasti) :=
  collectInputs_triple (fun _ => onWorld_plain (plain_ofStack fun _ => malloc_keeps _))
    (fun _ _ plain => plain) (fun _ => assign_plain _)
    (fun _ => onStack_plain _ fun _ _ => genericStackGetp_keeps _)
    (fun _ _ _ => onWorld_plain (plain_ofStack fun _ => writeCell_keeps _ _ _))
    (fun _ plain => plain) _ _

theorem freeInputs_plain : Keeps (PlainSince start) (freeInputs (V := V)) :=
  .bind readLocals_plain fun _ => .bind (onWorld_plain (plain_ofStack fun _ =>
    freeIfNotNull_keeps _)) fun _ => assign_plain _

/-- The output is copied into the stack. -/
theorem storeOutput_plain (argResulti : Int) :
    Keeps (PlainSince start) (storeOutput libc fuel argResulti) :=
  .bind readOutput_plain fun _ => .bind (onStack_plain 0 fun _ _ => genericStackSeti_keeps _ _)
    fun _ => failIf_plain _

/-- A step makes plain exchanges, whatever the callbacks answer. -/
theorem stepRules_plain (step : MarpaStep) :
    StepRules libc fuel wrapper valueOption step (PlainSince start) (PlainSince start)
      (PlainSince start) fun _ => PlainSince start where
  collects _ := collectInputs_plain _ _
  looksUp _ _ _ := onWorld_plain (readPointer_keeps _ _)
  skips _ plain := plain
  calls call := produceOrFail_plain _ (by cases call <;> exact fun _ _ => rfl)
  frees := freeInputs_plain
  stores _ := storeOutput_plain _
  idles _ plain := plain

/-- The output itself is released after each step, by the callback and by `free`. -/
theorem releaseOutput_plain : Keeps (PlainSince start) (releaseOutput stackOption) := by
  refine .bind readOutput_plain fun locals => ?_
  cases locals.valueOutputp with
  | indeterminate => exact .pure _
  | null => exact .pure _
  | pointer output =>
    exact .bind (onWorld_plain (callOutputFree_keeps _ _ fun _ => rfl)) fun _ => .bind (failIf_plain _)
      fun _ => .bind (onWorld_plain (emit_keeps rfl)) fun _ => assign_plain _

/-- The result callback gets the bottom of the stack. -/
theorem reportResult_plain : Keeps (PlainSince start) (reportResult libc fuel valueOption) :=
  reportResult_triple (fun _ => PlainSince start)
    (onStack_plain _ fun _ _ => genericStackGetp_keeps _) (fun _ _ => ask_plain fun _ => rfl)
    (fun _ _ plain => plain) (fun _ plain => plain) fun _ plain => plain

/-- The value stack goes first, and the valuator after it. -/
theorem closeValuator_plain : Keeps (PlainSince start) (closeValuator (V := V) fuel) :=
  .bind readLocals_plain fun _ => .bind (onWorld_plain (plain_ofStack fun _ =>
    destroyIfNotNull_keeps _ _)) fun _ => .bind (assign_plain _) fun _ =>
    .bind (onWorld_plain (unrefIfNotNull_keeps _ fun _ => rfl)) fun _ => assign_plain _

theorem stepTurn_plain :
    Keeps (PlainSince start) (stepTurn libc fuel phase wrapper valueOption stackOption ()) :=
  stepTurn_triple (fun _ _ plain => plain.event rfl (Nat.le_refl _)) (fun _ => stepRules_plain _)
    releaseOutput_plain

theorem vbBody_plain (marpaWrapperp : Option Wrapper)
    (marpaWrapperValueOptionp : Option (MarpaWrapperValueOption V))
    (marpaWrapperStackOptionp : Option (MarpaWrapperStackOption V)) :
    Keeps (PlainSince start) (vbBody libc fuel phase marpaWrapperp marpaWrapperValueOptionp
      marpaWrapperStackOptionp) :=
  vbBody_triple (fun _ _ plain => plain) openTree_plain (fun _ _ _ _ =>
    treeTurn_triple (ask_plain fun _ => rfl) openValuator_plain stepTurn_plain (fun _ plain => plain)
      reportResult_plain closeValuator_plain) fun _ plain => plain

/-- However it ends, the function made plain exchanges only. -/
theorem marpaWrapperVb_plain (marpaWrapperp : Option Wrapper)
    (marpaWrapperValueOptionp : Option (MarpaWrapperValueOption V))
    (marpaWrapperStackOptionp : Option (MarpaWrapperStackOption V)) :
    Keeps (Grown LeavesMarpa start) (marpaWrapperVb libc fuel phase marpaWrapperp
      marpaWrapperValueOptionp marpaWrapperStackOptionp) :=
  marpaWrapperVb_triple (vbBody_plain _ _ _) (fun _ plain => plain) (fun _ plain => plain)
    (fun _ _ plain => plain) fun locals => vbEndLabel_keeps locals rfl leavesMarpa_ofStack fun _ =>
      ⟨rfl, rfl, rfl, rfl⟩

end Body

end MarpaWrapper
