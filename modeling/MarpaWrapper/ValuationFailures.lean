/-
This file asks whether `marpaWrapper_vb` can return `TRUE` over a failure. The
failures are those that libmarpa documents for the calls of the value phase and
the `FALSE` answers of the user's callbacks. The body looks at most of them, and
`rcb` is `FALSE` after each of those. Six it does not look at: `-2` from
`marpa_o_ambiguity_metric`, `marpa_o_is_null`, `marpa_t_next` and
`marpa_v_step`, and the error of a stack callback, which the value stack reports
to its failure callback only.

Nothing is assumed about the allocator, the fuel or the answers.
-/

import MarpaWrapper.GenericStackExchanges
import MarpaWrapper.ValuationOwnership

namespace MarpaWrapper

open Effects

variable {V α : Type}

/-! ### Failures -/

/-- The failures that the body looks at. -/
def Event.FailsChecked : Event V → Prop
  | .bocageNew handle => handle = none
  | .orderNew handle => handle = none
  | .treeNew handle => handle = none
  | .valueNew handle => handle = none
  | .highRankOnlySet _ answer => answer = -2
  | .rank answer => answer = -2
  | .valuedForce answer => answer = -2
  | .valueRule _ _ answer _ => answer = false
  | .valueSymbol _ _ answer _ => answer = false
  | .valueNulling _ answer _ => answer = false
  | .valueResult _ answer => answer = .false
  | .outputFree _ errnum => errnum ≠ 0
  | _ => False

/-- The failures that it does not look at. -/
def Event.FailsUnchecked : Event V → Prop
  | .ambiguityMetric answer => answer = -2
  | .isNull answer => answer = -2
  | .treeNext answer => answer = -2
  | .step answer => answer = .other (-2)
  | .stackCopy _ _ errnum => errnum ≠ 0
  | .stackFree _ errnum => errnum ≠ 0
  | _ => False

/-- A failure of libmarpa or a `FALSE` answer of a callback. -/
def Event.Fails (event : Event V) : Prop := event.FailsChecked ∨ event.FailsUnchecked

theorem Event.not_failsChecked_ofStack {event : Event V} (ofStack : event.ofStack = true) :
    ¬ event.FailsChecked := by
  intro fails
  cases event <;> first | exact fails | cases ofStack

/-! ### The invariant -/

/-- An exchange that is no failure the body looks at, where `rcb` is `TRUE`. -/
def Passes (rcb : Bool) (event : Event V) : Prop := rcb = true → ¬ event.FailsChecked

/-- As long as `rcb` is `TRUE`, no failure since `start` is one that the body looks at. -/
def Clean (start : World V) (state : VbState V) : Prop :=
  Grown (Passes state.locals.rcb) start state.world

section Clean

variable {start : World V} {locals locals' : VbLocals V} {world world' : World V}

theorem Clean.event (clean : Clean start ⟨locals, world⟩) (same : locals'.rcb = locals.rcb)
    {event : Event V} (passed : ¬ event.FailsChecked) {address : Nat}
    (later : world.nextAddress ≤ address) :
    Clean start
      ⟨locals', { world with events := world.events ++ [event], nextAddress := address }⟩ := by
  unfold Clean
  rw [same]
  exact Grown.event clean (fun _ => passed) later

/-- The note of an early read is no failure. -/
theorem Clean.noted (clean : Clean start ⟨locals, world⟩) : Clean start ⟨locals, { world with
    events := world.events ++ [.indeterminateRead] }⟩ :=
  have passed : ¬ (Event.indeterminateRead (V := V)).FailsChecked := fun fails => fails
  clean.event rfl passed (Nat.le_refl _)

theorem Clean.ofStack (clean : Clean start ⟨locals, world⟩) (same : locals'.rcb = locals.rcb)
    (grown : Grown OfStack world world') : Clean start ⟨locals', world'⟩ := by
  unfold Clean
  rw [same]
  exact Grown.trans clean grown fun _ ofStack _ => Event.not_failsChecked_ofStack ofStack

theorem Clean.assign (clean : Clean start ⟨locals, world⟩) (same : locals'.rcb = locals.rcb) :
    Clean start ⟨locals', world⟩ := by
  unfold Clean
  rw [same]
  exact clean

/-- Nothing is asked of the record where `rcb` is `FALSE`. -/
theorem Clean.failed (grown : Grown (fun _ => True) start world) :
    Clean start ⟨{ locals with rcb := false }, world⟩ :=
  Grown.weaken grown fun _ _ succeeded => nomatch succeeded

theorem Clean.grown {state : VbState V} (clean : Clean start state) :
    Grown (fun _ => True) start state.world :=
  Grown.weaken clean fun _ _ => trivial

/-! ### The parts of the body -/

/-- A part of the body that keeps the record clean, or goes to the end label with a clean one. -/
abbrev StaysClean (start : World V) (program : Vb V α) : Prop :=
  Triple (Clean start) program (fun _ => Clean start) (AtExit (Clean start))

theorem fail_clean : StaysClean start (fail : Vb V α) :=
  fail_triple fun _ _ clean => .failed clean.grown

theorem failIf_clean (condition : Bool) : StaysClean start (failIf condition) :=
  failIf_triple (fun _ _ _ clean => .failed clean.grown) fun _ _ clean => clean

theorem assign_clean {change : VbLocals V → VbLocals V}
    (same : ∀ locals, (change locals).rcb = locals.rcb) : StaysClean start (assign change) :=
  assign_triple fun locals _ clean => clean.assign (same locals)

theorem ask_clean {answer : List (Event V) → α} {event : α → Event V}
    (passed : ∀ value, ¬ (event value).FailsChecked) : StaysClean start (onWorld (ask answer event)) := by
  refine onWorld_triple fun locals world value world' clean run => ?_
  rw [run_ask] at run
  cases run
  exact clean.event rfl (passed _) (Nat.le_refl _)

/-- A call whose failures are looked at. -/
theorem askOrFail_clean (wanted : Bool) (answer : List (Event V) → Int) {event : Int → Event V}
    {failed : Int → Bool} (passed : ∀ value, failed value = false → ¬ (event value).FailsChecked) :
    StaysClean start (askOrFail wanted answer event failed) :=
  askOrFail_triple (fun _ _ _ _ clean => .failed (clean.grown.event trivial (Nat.le_refl _)))
    (fun _ _ value succeeded clean => clean.event rfl (passed value succeeded) (Nat.le_refl _))
    fun _ clean => clean

theorem acquireOrFail_clean (granted : List (Event V) → Bool) {event : Option Nat → Event V}
    (passed : ∀ handle, ¬ (event (some handle)).FailsChecked) :
    StaysClean start (acquireOrFail granted event) :=
  acquireOrFail_triple (fun _ _ clean => .failed (clean.grown.event trivial (Nat.le_refl _)))
    fun _ _ clean => clean.event rfl (passed _) (Nat.le_succ _)

/-- A computation whose exchanges pass. -/
theorem onWorld_passes {program : Exec V α}
    (keeps : ∀ rcb, Keeps (Grown (Passes rcb) start) program) :
    StaysClean start (onWorld program) :=
  onWorld_triple fun locals _ _ _ clean run => (keeps locals.rcb).ok clean run

/-- A computation that only makes exchanges of the stack. -/
theorem passes_ofStack {program : Exec V α} (keeps : ∀ start, Keeps (Grown OfStack start) program)
    (rcb : Bool) : Keeps (Grown (Passes rcb) start) program :=
  Grown.widen keeps fun _ ofStack _ => Event.not_failsChecked_ofStack ofStack

theorem onWorld_clean {program : Exec V α}
    (keeps : ∀ start, Keeps (Grown OfStack start) program) : StaysClean start (onWorld program) :=
  onWorld_passes (passes_ofStack keeps)

theorem onStack_clean {program : GenericStack V → Exec V (α × GenericStack V)} (zero : α)
    (keeps : ∀ stack start, Keeps (Grown OfStack start) (program stack)) :
    StaysClean start (onStack program zero) :=
  onStack_triple (fun _ clean _ => clean) fun _ _ stack _ _ _ clean _ run =>
    clean.ofStack rfl (.of_run (keeps stack) run)

/-- A value callback whose answer is looked at. -/
theorem produceOrFail_clean (callback : List (Event V) → Bool × Option V)
    {event : Bool → Option (Element V) → Event V}
    (passed : ∀ output, ¬ (event true output).FailsChecked) :
    StaysClean start (produceOrFail callback event) := by
  refine .through (fun result state => Grown (fun _ => True) start state.world ∧
    (result.1 = true → Clean start state)) ?_ fun result =>
    .through (fun _ state => Grown (fun _ => True) start state.world ∧
      (result.1 = true → Clean start state))
      (assign_triple fun locals world holds =>
        ⟨holds.1, fun answered => (holds.2 answered).assign rfl⟩) fun _ =>
      failIf_triple (fun _ _ _ holds => .failed holds.1)
        fun going _ holds => holds.2 (by simpa using going)
  refine onWorld_triple fun locals world result world' clean run => ?_
  unfold invoke at run
  generalize callback world.events = reply at run
  obtain ⟨answer, content⟩ := reply
  cases run
  refine ⟨clean.grown.event trivial (Nat.le_succ _), fun answered => ?_⟩
  obtain rfl : answer = true := answered
  exact clean.event rfl (passed _) (Nat.le_succ _)

/-! ### The body -/

section Body

variable {libc : Libc V} {fuel : Nat} {phase : ValuePhase V} {wrapper : Wrapper}
  {valueOption : MarpaWrapperValueOption V} {stackOption : MarpaWrapperStackOption V}

theorem openTree_clean : StaysClean start (openTree phase valueOption) := by
  refine .bind (ask_clean fun _ fails => fails) fun _ =>
    .bind (acquireOrFail_clean _ fun _ fails => nomatch fails) fun _ =>
    .bind (assign_clean fun _ => rfl) fun _ =>
    .bind (acquireOrFail_clean _ fun _ fails => nomatch fails) fun _ =>
    .bind (assign_clean fun _ => rfl) fun _ =>
    .bind (askOrFail_clean _ _ fun value passed fails => ?_) fun _ =>
    .bind (askOrFail_clean _ _ fun value passed fails => ?_) fun _ =>
    .bind (askOrFail_clean _ _ fun _ _ fails => fails) fun _ =>
    .bind (askOrFail_clean _ _ fun _ _ fails => fails) fun _ =>
    .bind (acquireOrFail_clean _ fun _ fails => nomatch fails) fun _ => assign_clean fun _ => rfl
  · -- The flag that was set is never the failure value.
    obtain rfl : value = -2 := fails
    cases flag : valueOption.highRankOnlyb <;> rw [flag] at passed <;> exact nomatch passed
  · exact of_decide_eq_false passed fails

theorem openValuator_clean : StaysClean start (openValuator libc fuel phase stackOption) := by
  refine .bind (acquireOrFail_clean _ fun _ fails => nomatch fails) fun _ =>
    .bind (assign_clean fun _ => rfl) fun _ =>
    .bind (askOrFail_clean _ _ fun value passed fails => ?_) fun _ =>
    .bind (onWorld_clean fun _ => genericStackNewp_keeps _ _) fun created => ?_
  · obtain rfl : value = -2 := fails
    exact absurd passed (by decide)
  · cases created with
    | none => exact fail_clean
    | some stack => exact assign_clean fun _ => rfl

theorem collectInputs_clean (argFirsti argLasti : Int) :
    StaysClean start (collectInputs libc fuel argFirsti argLasti) :=
  collectInputs_triple (fun _ => onWorld_clean fun _ => malloc_keeps _)
    (fun _ _ clean => .failed clean.grown) (fun _ => assign_clean fun _ => rfl)
    (fun _ => onStack_clean _ fun _ _ => genericStackGetp_keeps _)
    (fun _ _ _ => onWorld_clean fun _ => writeCell_keeps _ _ _) (fun _ _ => trivial) _ _

theorem freeIfNotNull_keeps (address : Option Nat) :
    Keeps (Grown OfStack start) (freeIfNotNull address) := by
  cases address with
  | none => exact .pure _
  | some address => exact emit_keeps rfl

theorem freeInputs_clean : StaysClean start (freeInputs (V := V)) :=
  readLocals_triple fun _ => .through (fun _ => Clean start)
    (fun state holds => onWorld_clean (fun _ => freeIfNotNull_keeps _) state holds.1) fun _ =>
      assign_clean fun _ => rfl

theorem storeOutput_clean (argResulti : Int) : StaysClean start (storeOutput libc fuel argResulti) :=
  readOutput_triple (fun _ _ clean => clean.noted) fun _ => .through (fun _ => Clean start)
    (fun state holds => onStack_clean 0 (fun _ _ => genericStackSeti_keeps _ _) state holds.1)
      fun _ => failIf_clean _

/-- A step keeps the record clean: the answer of each value callback is looked at. -/
theorem stepRules_clean (step : MarpaStep) :
    StepRules libc fuel wrapper valueOption step (Clean start) (Clean start) (Clean start)
      (AtExit (Clean start)) where
  collects _ := collectInputs_clean _ _
  looksUp _ _ _ := onWorld_clean fun _ => readPointer_keeps _ _
  skips _ clean := clean
  calls call := produceOrFail_clean _ (by cases call <;> exact fun _ fails => nomatch fails)
  frees := freeInputs_clean
  stores _ := storeOutput_clean _
  idles _ clean := clean

/-- The answer of the free callback to an output is looked at. -/
theorem releaseOutput_clean : StaysClean start (releaseOutput stackOption) := by
  refine readOutput_triple (fun _ _ clean => clean.noted) fun locals => ?_
  cases locals.valueOutputp with
  | indeterminate => exact .pure fun _ holds => holds.1
  | null => exact .pure fun _ holds => holds.1
  | pointer output =>
    refine .through (fun status state => Grown (fun _ => True) start state.world ∧
      (status = 0 → Clean start state)) ?_ fun status =>
      .through (fun _ => Clean start) (failIf_triple (fun _ _ _ holds => .failed holds.1)
        fun going _ holds => holds.2 (by simpa using going)) fun _ =>
      .bind (onWorld_clean fun _ => emit_keeps rfl) fun _ => assign_clean fun _ => rfl
    refine onWorld_triple fun locals' world status world' holds run => ?_
    rw [callOutputFree_run run]
    refine ⟨holds.1.grown.event trivial (Nat.le_refl _), fun succeeded => ?_⟩
    have passed : ¬ (Event.outputFree output status).FailsChecked := fun fails => fails succeeded
    exact holds.1.event rfl passed (Nat.le_refl _)

theorem stepTurn_clean :
    StaysClean start (stepTurn libc fuel phase wrapper valueOption stackOption ()) := by
  refine stepTurn_triple (fun locals world clean => ?_) (fun _ => stepRules_clean _)
    releaseOutput_clean
  have passed : ¬ (Event.step (V := V) (phase.step world.events)).FailsChecked := fun fails => fails
  exact clean.event rfl passed (Nat.le_refl _)

/-- The answer of the result callback is looked at. -/
theorem reportResult_clean : StaysClean start (reportResult libc fuel valueOption) := by
  refine reportResult_triple (fun answer state =>
    Grown (fun _ => True) start state.world ∧ (answer ≠ .false → Clean start state))
    (onStack_clean _ fun _ _ => genericStackGetp_keeps _) (fun {callback} _ value => ?_)
    (fun _ _ holds => .failed holds.1) (fun _ holds => holds.2 fun same => nomatch same)
    fun _ holds => holds.2 fun same => nomatch same
  refine onWorld_triple fun locals world answer world' clean run => ?_
  rw [run_ask] at run
  cases run
  refine ⟨clean.grown.event trivial (Nat.le_refl _), fun accepted => ?_⟩
  have passed : ¬ (Event.valueResult value (callback world.events value)).FailsChecked := accepted
  exact clean.event rfl passed (Nat.le_refl _)

/-- The free callback is called with the output, or it is missing. -/
theorem callOutputFree_keeps {kind : Event V → Prop} (stackOption : MarpaWrapperStackOption V)
    (output : Element V) (ofKind : ∀ status, kind (.outputFree output status)) :
    Keeps (Grown kind start) (callOutputFree stackOption output) := by
  intro world grown
  unfold callOutputFree
  cases marpaWrapperStackFreeCallback stackOption.stackElementFreeCallbackp world.events output with
  | ok status => exact grown.event (ofKind status) (Nat.le_refl _)
  | error fault => exact grown

theorem invoke_keeps {kind : Event V → Prop} {callback : List (Event V) → Bool × Option V}
    {event : Bool → Option (Element V) → Event V}
    (ofKind : ∀ answer output, kind (event answer output)) :
    Keeps (Grown kind start) (invoke callback event) :=
  fun _ grown => grown.event (ofKind _ _) (Nat.le_succ _)

theorem destroyIfNotNull_keeps (fuel : Nat) (genericStackp : Option (GenericStack V)) :
    Keeps (Grown OfStack start) (destroyIfNotNull fuel genericStackp) := by
  cases genericStackp with
  | none => exact .pure _
  | some stack => exact genericStackDestroyv_keeps

theorem unrefIfNotNull_keeps {kind : Event V → Prop} {event : Nat → Event V}
    (handle : Option Nat) (ofKind : ∀ handle, kind (event handle)) :
    Keeps (Grown kind start) (unrefIfNotNull event handle) := by
  cases handle with
  | none => exact .pure _
  | some handle => exact emit_keeps (ofKind handle)

theorem closeValuator_clean : StaysClean start (closeValuator (V := V) fuel) := by
  exact readLocals_triple fun _ => .through (fun _ => Clean start)
    (fun state holds => onWorld_clean (fun _ => destroyIfNotNull_keeps _ _) state holds.1) fun _ =>
    .bind (assign_clean fun _ => rfl) fun _ => .bind (onWorld_passes fun rcb =>
      unrefIfNotNull_keeps _ fun _ _ fails => fails) fun _ => assign_clean fun _ => rfl

theorem vbBody_clean (marpaWrapperp : Option Wrapper)
    (marpaWrapperValueOptionp : Option (MarpaWrapperValueOption V))
    (marpaWrapperStackOptionp : Option (MarpaWrapperStackOption V)) :
    StaysClean start (vbBody libc fuel phase marpaWrapperp marpaWrapperValueOptionp
      marpaWrapperStackOptionp) :=
  vbBody_triple (fun _ _ clean => .failed clean.grown) openTree_clean (fun _ _ _ _ =>
    treeTurn_triple (ask_clean fun _ fails => fails) openValuator_clean stepTurn_clean
      (fun _ _ => trivial) reportResult_clean closeValuator_clean) fun _ _ => trivial

/-! ### The end label -/

theorem freeOutput_keeps {kind : Event V → Prop} (read : kind .indeterminateRead)
    (freed : ∀ address, kind (.free address)) (valueOutputp : Slot (Element V)) :
    Keeps (Grown kind start) (freeOutput valueOutputp) := by
  cases valueOutputp with
  | indeterminate => exact emit_keeps read
  | null => exact .pure _
  | pointer output => exact emit_keeps (freed _)

/-- After the output the end label makes exchanges of the stack and releases libmarpa's objects; it
returns `rcb`. -/
theorem vbEndLabel_grown {kind : Event V → Prop} {before : World V → Prop} (locals : VbLocals V)
    (output : Triple before (freeOutput locals.valueOutputp) (fun _ => Grown kind start)
      fun _ => Grown kind start)
    (ofStack : ∀ event, OfStack event → kind event)
    (unref : ∀ handle, kind (.valueUnref handle) ∧ kind (.treeUnref handle) ∧
      kind (.orderUnref handle) ∧ kind (.bocageUnref handle)) :
    Triple before (vbEndLabel fuel locals)
      (fun result world => result = locals.rcb ∧ Grown kind start world) fun _ => Grown kind start := by
  have widened {program : Exec V Unit} (keeps : ∀ start, Keeps (Grown OfStack start) program) :
      Keeps (Grown kind start) program := Grown.widen keeps ofStack
  exact .bind output fun _ => .bind (widened fun _ => freeIfNotNull_keeps _) fun _ =>
    .bind (widened fun _ => destroyIfNotNull_keeps _ _) fun _ =>
    .bind (unrefIfNotNull_keeps _ fun handle => (unref handle).1) fun _ =>
    .bind (unrefIfNotNull_keeps _ fun handle => (unref handle).2.1) fun _ =>
    .bind (unrefIfNotNull_keeps _ fun handle => (unref handle).2.2.1) fun _ =>
    .bind (unrefIfNotNull_keeps _ fun handle => (unref handle).2.2.2) fun _ =>
    .pure fun _ grown => ⟨rfl, grown⟩

/-- The same, where the read of `valueOutputp` does no harm. -/
theorem vbEndLabel_keeps {kind : Event V → Prop} (locals : VbLocals V)
    (read : kind .indeterminateRead) (ofStack : ∀ event, OfStack event → kind event)
    (unref : ∀ handle, kind (.valueUnref handle) ∧ kind (.treeUnref handle) ∧
      kind (.orderUnref handle) ∧ kind (.bocageUnref handle)) :
    Keeps (Grown kind start) (vbEndLabel fuel locals) :=
  (vbEndLabel_grown locals (freeOutput_keeps read (fun _ => ofStack _ rfl) _) ofStack
    unref).consequence (fun _ grown => grown) (fun _ _ after => after.2) fun _ _ grown => grown

/-- The end label adds no failure that the body looks at, and returns `rcb`. -/
theorem vbEndLabel_passes (locals : VbLocals V) :
    Triple (Grown (Passes locals.rcb) start) (vbEndLabel fuel locals)
      (fun result world => result = locals.rcb ∧ Grown (Passes locals.rcb) start world)
      fun _ _ => True :=
  (vbEndLabel_grown locals (freeOutput_keeps (fun _ fails => fails) (fun _ _ fails => fails) _)
    (fun _ ofStack _ => Event.not_failsChecked_ofStack ofStack) fun _ => ⟨fun _ fails => fails,
      fun _ fails => fails, fun _ fails => fails, fun _ fails => fails⟩).consequence
    (fun _ grown => grown) (fun _ _ after => after) fun _ _ _ => trivial

/-! ### The function -/

/-- A run that returns `TRUE` met no failure that the body looks at. -/
theorem marpaWrapperVb_passes {marpaWrapperp : Option Wrapper}
    {marpaWrapperValueOptionp : Option (MarpaWrapperValueOption V)}
    {marpaWrapperStackOptionp : Option (MarpaWrapperStackOption V)} {result : Bool}
    {final : World V}
    (run : marpaWrapperVb libc fuel phase marpaWrapperp marpaWrapperValueOptionp
      marpaWrapperStackOptionp start = .ok result final) :
    Grown (Passes result) start final := by
  have passes : Triple (fun world => world = start) (marpaWrapperVb libc fuel phase marpaWrapperp
      marpaWrapperValueOptionp marpaWrapperStackOptionp)
      (fun result => Grown (Passes result) start) fun _ _ => True :=
    marpaWrapperVb_triple (vbBody_clean _ _ _)
      (fun _ same => by rw [same]; exact .refl _ start) (fun _ clean => clean)
      (fun _ _ _ => trivial) fun locals => (vbEndLabel_passes locals).consequence
        (fun _ clean => clean) (fun _ _ after => by rw [after.1]; exact after.2) fun _ _ left => left
  exact passes.ok rfl run

/-- A run that returns `TRUE` met no failure at all if and only if it met none of those that the
body does not look at. -/
theorem marpaWrapperVb_hides_unchecked {marpaWrapperp : Option Wrapper}
    {marpaWrapperValueOptionp : Option (MarpaWrapperValueOption V)}
    {marpaWrapperStackOptionp : Option (MarpaWrapperStackOption V)} {final : World V}
    (run : marpaWrapperVb libc fuel phase marpaWrapperp marpaWrapperValueOptionp
      marpaWrapperStackOptionp start = .ok true final) :
    ∃ exchanges, final.events = start.events ++ exchanges ∧
      ((∀ event ∈ exchanges, ¬ event.Fails) ↔ ∀ event ∈ exchanges, ¬ event.FailsUnchecked) := by
  obtain ⟨exchanges, appended, passed⟩ := (marpaWrapperVb_passes run).record
  refine ⟨exchanges, appended, fun none event member fails => none event member (.inr fails),
    fun none event member fails => ?_⟩
  rcases fails with checked | unchecked
  · exact passed event member rfl checked
  · exact none event member unchecked

end Body

end Clean

theorem marpaWrapperVb_hides_unchecked_sum : ∃ final exchanges,
    marpaWrapperVb Libc.generous (2 ^ 32) (.walking [sumTree]) (some sumWrapper) (some sumOption)
      (some sumStackOption) {} = .ok true final ∧
    final.events = [] ++ exchanges ∧
    ((∀ event ∈ exchanges, ¬ event.Fails) ↔ ∀ event ∈ exchanges, ¬ event.FailsUnchecked) := by
  obtain ⟨final, run⟩ := returnsTrue_run sum_returns
  obtain ⟨exchanges, appended, passes⟩ := marpaWrapperVb_hides_unchecked run
  exact ⟨final, exchanges, run, appended, passes⟩

/-! ### A failure that is not looked at -/

/-- Elements of eight bytes whose copy callback answers `FALSE`. -/
def refusingStackOption : MarpaWrapperStackOption Int :=
  { sumStackOption with stackElementCopyCallbackp := some fun _ element => (false, element.value) }

/-- A copy callback that answered `FALSE`. -/
def Event.refusedCopy : Event V → Bool
  | .stackCopy _ _ errnum => errnum != 0
  | _ => false

/-- Whether a computation returned `TRUE` and had a copy refused. -/
def succeedsOverCopy {ε : Type} : EStateM.Result ε (World V) Bool → Bool
  | .ok result final => result && final.events.any Event.refusedCopy
  | .error _ _ => false

theorem refusing_succeeds : succeedsOverCopy (marpaWrapperVb Libc.generous (2 ^ 32)
    (.walking [sumTree]) (some sumWrapper) (some sumOption) (some refusingStackOption) {}) = true := by
  decide +kernel

/-- With a copy callback that answers `FALSE` the function returns `TRUE`. -/
theorem marpaWrapperVb_hides_unchecked_copy : ∃ final,
    marpaWrapperVb Libc.generous (2 ^ 32) (.walking [sumTree]) (some sumWrapper) (some sumOption)
      (some refusingStackOption) {} = .ok true final ∧
    ¬ ∀ event ∈ final.events, ¬ event.Fails := by
  have succeeds := refusing_succeeds
  cases run : marpaWrapperVb Libc.generous (2 ^ 32) (.walking [sumTree]) (some sumWrapper)
      (some sumOption) (some refusingStackOption) {} with
  | error fault final => rw [run] at succeeds; cases succeeds
  | ok result final =>
    rw [run] at succeeds
    obtain ⟨answered, refused⟩ := Bool.and_eq_true_iff.mp succeeds
    obtain ⟨event, member, failed⟩ := List.any_eq_true.mp refused
    obtain rfl : result = true := answered
    refine ⟨final, rfl, fun none => none event member (.inr ?_)⟩
    cases event with
    | stackCopy source target errnum => exact bne_iff_ne.mp failed
    | _ => cases failed

end MarpaWrapper
