/-
This file is the model of `marpaWrapper_vb`, the value phase. It walks over the
parse trees libmarpa offers; for each tree it follows the valuator's steps, calls
the user's rule, symbol and nulling callbacks, keeps copies of their outputs on a
value stack, and hands the entry at index 0 to the result callback.

The function leaves only through its end label, which releases whatever the
locals hold. `Vb` is the monad of its body: the state is the locals with the
world, and an early exit goes to the end label or is a fault. `valueOutputp` is
the one local that is not initialised. Wherever it is read, a read before the
first assignment is put on record.
-/

import MarpaWrapper.GenericStack
import MarpaWrapper.Wrapper

namespace MarpaWrapper

open Effects

/-! ### Parameters -/

/-- What libmarpa answers in the value phase, by the record so far. -/
structure ValuePhase (V : Type) where
  latestEarleySet : List (Event V) → Int
  bocageNew : List (Event V) → Bool
  orderNew : List (Event V) → Bool
  highRankOnlySet : Int → List (Event V) → Int
  rank : List (Event V) → Int
  ambiguityMetric : List (Event V) → Int
  isNull : List (Event V) → Int
  treeNew : List (Event V) → Bool
  treeNext : List (Event V) → Int
  valueNew : List (Event V) → Bool
  valuedForce : List (Event V) → Int
  step : List (Event V) → MarpaStep

/-- `marpaWrapperValueOption_t`. A value callback answers with a boolean and with what its output
holds, if there is one. -/
structure MarpaWrapperValueOption (V : Type) where
  highRankOnlyb : Bool := true
  orderByRankb : Bool := true
  ambiguityb : Bool := true
  nullb : Bool := true
  valueRuleCallbackp :
    Option (List (Event V) → Option Nat → List (Option (Element V)) → Bool × Option V) := none
  valueSymbolCallbackp : Option (List (Event V) → Option Nat → Int → Bool × Option V) := none
  valueNullingCallbackp : Option (List (Event V) → Option Nat → Bool × Option V) := none
  valueResultCallbackp : Option (List (Event V) → Option (Element V) → ValueBool) := none

/-- `marpaWrapperStackOption_t`. The copy callback answers with what the copy holds. -/
structure MarpaWrapperStackOption (V : Type) where
  stackElementSizei : Nat
  stackElementFreeCallbackp : Option (List (Event V) → Element V → Bool) := none
  stackElementCopyCallbackp : Option (List (Event V) → Element V → Bool × V) := none

/-- `_marpaWrapperStackFreeCallback`. The user's callback is called without a check. -/
def marpaWrapperStackFreeCallback {V : Type}
    (stackElementFreeCallbackp : Option (List (Event V) → Element V → Bool)) : FreeCallback V :=
  fun events element =>
    match stackElementFreeCallbackp with
    | none => .error .nullCall
    | some callback => .ok (if callback events element then 0 else -1)

/-- `_marpaWrapperStackCopyCallback`. -/
def marpaWrapperStackCopyCallback {V : Type}
    (stackElementCopyCallbackp : Option (List (Event V) → Element V → Bool × V)) :
    CopyCallback V :=
  fun events source =>
    match stackElementCopyCallbackp with
    | none => .error .nullCall
    | some callback =>
      .ok (if (callback events source).1 then 0 else -1, (callback events source).2)

/-- `genericStackOption` as `marpaWrapper_vb` fills it in. -/
def marpaWrapperGenericStackOption {V : Type} (stackOption : MarpaWrapperStackOption V) :
    GenericStackOption V where
  growFlags := genericStackOptionGrowDefault
  failureCallbackp := true
  freeCallbackp := some (marpaWrapperStackFreeCallback stackOption.stackElementFreeCallbackp)
  copyCallbackp := some (marpaWrapperStackCopyCallback stackOption.stackElementCopyCallbackp)

/-! ### The body and its locals -/

/-- The locals that the end label reads. -/
structure VbLocals (V : Type) where
  marpaBocagep : Option Nat := none
  marpaOrderp : Option Nat := none
  marpaTreep : Option Nat := none
  marpaValuep : Option Nat := none
  genericStackp : Option (GenericStack V) := none
  valueInputArraypp : Option Nat := none
  valueOutputp : Slot (Element V) := .indeterminate
  rcb : Bool := true

/-- The locals with the world. -/
structure VbState (V : Type) where
  locals : VbLocals V
  world : World V

/-- How the body is left early: with `goto marpaWrapper_v_end_label`, or by a fault. -/
inductive VbExit where
  | endLabel
  | fault (fault : Fault)

/-- A computation of the body. -/
abbrev Vb (V : Type) : Type → Type := EStateM VbExit (VbState V)

section Body

variable {V α : Type}

/-- Run a computation that leaves the locals alone. -/
def onWorld (program : Exec V α) : Vb V α := fun state =>
  match program state.world with
  | .ok value world => .ok value { state with world }
  | .error fault world => .error (.fault fault) { state with world }

/-- Assign locals. -/
def assign (change : VbLocals V → VbLocals V) : Vb V Unit := fun state =>
  .ok () { state with locals := change state.locals }

/-- Read the locals. -/
def readLocals : Vb V (VbLocals V) := fun state => .ok state.locals state

/-- `goto marpaWrapper_v_end_label`. -/
def leave : Vb V α := throw .endLabel

/-- `rcb = MARPAWRAPPER_BOOL_FALSE; goto marpaWrapper_v_end_label;` -/
def fail : Vb V α := do
  assign fun locals => { locals with rcb := false }
  leave

/-- Fail when a condition holds. -/
def failIf (condition : Bool) : Vb V Unit :=
  if condition then fail else pure ()

/-- Ask libmarpa for an object, and fail when it is refused. -/
def acquireOrFail (granted : List (Event V) → Bool) (event : Option Nat → Event V) : Vb V Nat := do
  match ← onWorld (acquire granted event) with
  | none => fail
  | some handle => pure handle

/-- Make a libmarpa call when `wanted`, and fail when its answer is a failure. -/
def askOrFail (wanted : Bool) (answer : List (Event V) → Int) (event : Int → Event V)
    (failed : Int → Bool) : Vb V Unit :=
  if wanted then do
    let answered ← onWorld (ask answer event)
    failIf (failed answered)
  else pure ()

/-- Use the value stack. The functions of the stack answer a `NULL` stack with a zero result. -/
def onStack (program : GenericStack V → Exec V (α × GenericStack V)) (zero : α) : Vb V α := do
  let locals ← readLocals
  match locals.genericStackp with
  | none => pure zero
  | some stack =>
    let (value, stack) ← onWorld (program stack)
    assign fun locals => { locals with genericStackp := some stack }
    pure value

/-- Put a read of a local on record when nothing was assigned to it. -/
def noteRead (slot : Slot α) : Exec V Unit :=
  match slot with
  | .indeterminate => emit .indeterminateRead
  | _ => pure ()

/-- Read the locals, `valueOutputp` among them. -/
def readOutput : Vb V (VbLocals V) := do
  let locals ← readLocals
  onWorld (noteRead locals.valueOutputp)
  pure locals

/-- Invoke a value callback: an output lies in a block that the callback allocates. -/
def invoke (callback : List (Event V) → Bool × Option V)
    (event : Bool → Option (Element V) → Event V) : Exec V (Bool × Option (Element V)) :=
  fun world =>
    let (answer, content) := callback world.events
    let output := content.map fun value => ⟨world.nextAddress, value⟩
    .ok (answer, output)
      { world with
        events := world.events ++ [event answer output]
        nextAddress := world.nextAddress + 1 }

/-- The cell of a pointer that was assigned. -/
def Slot.ofOption : Option α → Slot α
  | none => .null
  | some target => .pointer target

/-- Invoke a value callback with `&valueOutputp`, and fail when it answers `FALSE`. -/
def produceOrFail (callback : List (Event V) → Bool × Option V)
    (event : Bool → Option (Element V) → Event V) : Vb V Unit := do
  let (answer, output) ← onWorld (invoke callback event)
  assign fun locals => { locals with valueOutputp := .ofOption output }
  failIf (!answer)

end Body

section Value

variable {V : Type} (libc : Libc V) (fuel : Nat) (phase : ValuePhase V)
  (wrapper : Wrapper) (valueOption : MarpaWrapperValueOption V)
  (stackOption : MarpaWrapperStackOption V)

/-! ### Steps -/

/-- One turn of the loop that collects the inputs of a rule. An index is computed as a `size_t` and
passed as an `unsigned int`. -/
def collectTurn (argFirsti : Int) (nValueInputi : Nat)
    (frame : Nat × List (Slot (Element V))) :
    Vb V (Turn (Nat × List (Slot (Element V))) (List (Slot (Element V)))) :=
  if frame.1 < nValueInputi then do
    let value ← onStack
      (genericStackGetp libc fuel · ((toSize argFirsti + frame.1) % uintModulus)) none
    let cells ← onWorld (writeCell frame.2 frame.1 (.ofOption value))
    pure (.next ((frame.1 + 1) % sizeModulus, cells))
  else pure (.done frame.2)

/-- Allocate and fill `valueInputArraypp`. -/
def collectInputs (argFirsti argLasti : Int) : Vb V (List (Option (Element V))) := do
  let nValueInputi := toSize (argLasti - argFirsti + 1)
  match ← onWorld (malloc libc (nValueInputi * pointerSize % sizeModulus)) with
  | none => fail
  | some address =>
    assign fun locals => { locals with valueInputArraypp := some address }
    let cells ← loop (.fault .exhausted) (collectTurn libc fuel argFirsti nValueInputi) fuel
      (0, resize [] (nValueInputi * pointerSize % sizeModulus))
    pure (cells.map Slot.target?)

/-- Free a block that a local designates, when there is one. -/
def freeIfNotNull (address : Option Nat) : Exec V Unit :=
  match address with
  | none => pure ()
  | some address => emit (.free address)

/-- `free(valueInputArraypp); valueInputArraypp = NULL;` -/
def freeInputs : Vb V Unit := do
  let locals ← readLocals
  onWorld (freeIfNotNull locals.valueInputArraypp)
  assign fun locals => { locals with valueInputArraypp := none }

/-- Call `valueRuleCallbackp`, when there is one. -/
def callRule (marpaRuleIdi : Int) (inputs : List (Option (Element V))) : Vb V Unit :=
  match valueOption.valueRuleCallbackp with
  | none => pure ()
  | some callback => do
    let rulep ← onWorld (readPointer wrapper.marpaWrapperRulepp marpaRuleIdi)
    produceOrFail (callback · rulep inputs) (.valueRule rulep inputs)

/-- Call `valueSymbolCallbackp`, when there is one. -/
def callSymbol (marpaSymbolIdi tokenValuei : Int) : Vb V Unit :=
  match valueOption.valueSymbolCallbackp with
  | none => pure ()
  | some callback => do
    let symbolp ← onWorld (readPointer wrapper.marpaWrapperSymbolpp marpaSymbolIdi)
    produceOrFail (callback · symbolp tokenValuei) (.valueSymbol symbolp tokenValuei)

/-- Call `valueNullingCallbackp`, when there is one. -/
def callNulling (marpaSymbolIdi : Int) : Vb V Unit :=
  match valueOption.valueNullingCallbackp with
  | none => pure ()
  | some callback => do
    let symbolp ← onWorld (readPointer wrapper.marpaWrapperSymbolpp marpaSymbolIdi)
    produceOrFail (callback · symbolp) (.valueNulling symbolp)

/-- `genericStack_seti(genericStackp, argResulti, valueOutputp)`. -/
def storeOutput (argResulti : Int) : Vb V Unit := do
  let locals ← readOutput
  let stored ← onStack
    (genericStackSeti libc fuel · (toUnsigned argResulti) locals.valueOutputp.target?) 0
  failIf (stored ≤ 0)

/-- The switch over the step type. The result is `nextb`. -/
def applyStep : MarpaStep → Vb V Bool
  | .rule marpaRuleIdi argFirsti argLasti argResulti => do
    let inputs ← collectInputs libc fuel argFirsti argLasti
    callRule wrapper valueOption marpaRuleIdi inputs
    freeInputs
    storeOutput libc fuel argResulti
    pure true
  | .token marpaSymbolIdi tokenValuei argResulti => do
    callSymbol wrapper valueOption marpaSymbolIdi tokenValuei
    storeOutput libc fuel argResulti
    pure true
  | .nullingSymbol marpaSymbolIdi argResulti => do
    callNulling wrapper valueOption marpaSymbolIdi
    storeOutput libc fuel argResulti
    pure true
  | .inactive => pure false
  | .initial => pure true
  | .other _ => pure true

/-- Call `_marpaWrapperStackFreeCallback` on an output. -/
def callOutputFree (output : Element V) : Exec V Int := fun world =>
  match marpaWrapperStackFreeCallback stackOption.stackElementFreeCallbackp world.events output with
  | .ok status => .ok status { world with events := world.events ++ [.outputFree output status] }
  | .error fault => .error fault world

/-- The release of `valueOutputp` after the switch. -/
def releaseOutput : Vb V Unit := do
  let locals ← readOutput
  match locals.valueOutputp with
  | .pointer output =>
    let valueOutputFreeStatusi ← onWorld (callOutputFree stackOption output)
    failIf (valueOutputFreeStatusi ≠ 0)
    onWorld (emit (.free output.address))
    assign fun locals => { locals with valueOutputp := .null }
  | _ => pure ()

/-- One turn of `while (nextb == MARPAWRAPPER_BOOL_TRUE)`. -/
def stepTurn (_ : Unit) : Vb V (Turn Unit Unit) := do
  let step ← onWorld (ask phase.step .step)
  assign fun locals => { locals with valueOutputp := .null }
  let nextb ← applyStep libc fuel wrapper valueOption step
  releaseOutput stackOption
  pure (if nextb then .next () else .done ())

/-! ### Trees -/

/-- From the bocage to the tree iterator. -/
def openTree : Vb V Unit := do
  let _ ← onWorld (ask phase.latestEarleySet .latestEarleySet)
  let marpaBocagep ← acquireOrFail phase.bocageNew .bocageNew
  assign fun locals => { locals with marpaBocagep := some marpaBocagep }
  let marpaOrderp ← acquireOrFail phase.orderNew .orderNew
  assign fun locals => { locals with marpaOrderp := some marpaOrderp }
  let highRankOnlyFlagi : Int := if valueOption.highRankOnlyb then 1 else 0
  askOrFail true (phase.highRankOnlySet highRankOnlyFlagi) (.highRankOnlySet highRankOnlyFlagi)
    (· ≠ highRankOnlyFlagi)
  askOrFail valueOption.orderByRankb phase.rank .rank (· = -2)
  askOrFail (!valueOption.ambiguityb) phase.ambiguityMetric .ambiguityMetric (· > 1)
  askOrFail (!valueOption.nullb) phase.isNull .isNull (· ≥ 1)
  let marpaTreep ← acquireOrFail phase.treeNew .treeNew
  assign fun locals => { locals with marpaTreep := some marpaTreep }

/-- The valuator and the value stack of a tree. -/
def openValuator : Vb V Unit := do
  let marpaValuep ← acquireOrFail phase.valueNew .valueNew
  assign fun locals => { locals with marpaValuep := some marpaValuep }
  askOrFail true phase.valuedForce .valuedForce (· < 0)
  match ← onWorld (genericStackNewp libc fuel stackOption.stackElementSizei
      (some (marpaWrapperGenericStackOption stackOption))) with
  | none => fail
  | some stack => assign fun locals => { locals with genericStackp := some stack }

/-- Call `valueResultCallbackp`, when there is one. -/
def reportResult : Vb V Unit :=
  match valueOption.valueResultCallbackp with
  | none => pure ()
  | some callback => do
    let value ← onStack (genericStackGetp libc fuel · 0) none
    match ← onWorld (ask (callback · value) (.valueResult value)) with
    | .false => fail
    | .stop => leave
    | .true => pure ()

/-- `genericStack_destroyv(&genericStackp)`. -/
def destroyIfNotNull (genericStackp : Option (GenericStack V)) : Exec V Unit :=
  match genericStackp with
  | none => pure ()
  | some stack => genericStackDestroyv fuel stack

/-- Drop a libmarpa object that a local designates, when there is one. -/
def unrefIfNotNull (event : Nat → Event V) (handle : Option Nat) : Exec V Unit :=
  match handle with
  | none => pure ()
  | some handle => emit (event handle)

/-- The end of a tree: the stack and the valuator are released. -/
def closeValuator : Vb V Unit := do
  let locals ← readLocals
  onWorld (destroyIfNotNull fuel locals.genericStackp)
  assign fun locals => { locals with genericStackp := none }
  onWorld (unrefIfNotNull .valueUnref locals.marpaValuep)
  assign fun locals => { locals with marpaValuep := none }

/-- One turn of the loop over the trees. -/
def treeTurn (_ : Unit) : Vb V (Turn Unit Unit) := do
  let treeNexti ← onWorld (ask phase.treeNext .treeNext)
  if treeNexti < 0 then pure (.done ())
  else do
    openValuator libc fuel phase stackOption
    loop (.fault .exhausted) (stepTurn libc fuel phase wrapper valueOption stackOption) fuel ()
    reportResult libc fuel valueOption
    closeValuator fuel
    pure (.next ())

/-! ### The function -/

/-- The body, from the checks of the arguments to the end label. -/
def vbBody (marpaWrapperp : Option Wrapper)
    (marpaWrapperValueOptionp : Option (MarpaWrapperValueOption V))
    (marpaWrapperStackOptionp : Option (MarpaWrapperStackOption V)) : Vb V Unit :=
  match marpaWrapperp, marpaWrapperStackOptionp with
  | none, _ => fail
  | some _, none => fail
  | some wrapper, some stackOption => do
    failIf wrapper.marpaRecognizerp.isNone
    openTree phase (marpaWrapperValueOptionp.getD {})
    loop (.fault .exhausted)
      (treeTurn libc fuel phase wrapper (marpaWrapperValueOptionp.getD {}) stackOption) fuel ()

/-- `if (valueOutputp != NULL) free(valueOutputp);` -/
def freeOutput (valueOutputp : Slot (Element V)) : Exec V Unit := do
  noteRead valueOutputp
  match valueOutputp with
  | .pointer output => emit (.free output.address)
  | _ => pure ()

/-- The code after `marpaWrapper_v_end_label`. -/
def vbEndLabel (locals : VbLocals V) : Exec V Bool := do
  freeOutput locals.valueOutputp
  freeIfNotNull locals.valueInputArraypp
  destroyIfNotNull fuel locals.genericStackp
  unrefIfNotNull .valueUnref locals.marpaValuep
  unrefIfNotNull .treeUnref locals.marpaTreep
  unrefIfNotNull .orderUnref locals.marpaOrderp
  unrefIfNotNull .bocageUnref locals.marpaBocagep
  pure locals.rcb

/-- `marpaWrapper_vb`. -/
def marpaWrapperVb (marpaWrapperp : Option Wrapper)
    (marpaWrapperValueOptionp : Option (MarpaWrapperValueOption V))
    (marpaWrapperStackOptionp : Option (MarpaWrapperStackOption V)) : Exec V Bool := fun world =>
  match vbBody libc fuel phase marpaWrapperp marpaWrapperValueOptionp marpaWrapperStackOptionp
      ⟨{}, world⟩ with
  | .ok () state => vbEndLabel fuel state.locals state.world
  | .error .endLabel state => vbEndLabel fuel state.locals state.world
  | .error (.fault fault) state => .error fault state.world

end Value

end MarpaWrapper
