/-
This file is the model of the wrapper's read phase: the functions that drive a
recognizer by hand, the progress report, and `marpaWrapper_r_recognizeb`, which
reads a whole input with the user's callbacks.

The results of a function that its caller receives through pointers are part of
its result here. The callbacks that turn rules and symbols into text serve the
trace log only, so that nothing but their presence matters.
-/

import MarpaWrapper.EventReport

namespace MarpaWrapper

open Effects

/-- `sizeof(marpaWrapperProgress_t)`. -/
def marpaWrapperProgressSize : Nat := 24

/-! ### Comparators -/

/-- `_marpaWrapper_symbol_cmp_by_sizelDesc_firstCharDesc`, where `indeterminate` is what a first
character holds that was never assigned. -/
def marpaWrapperSymbolCmpBySizelDescFirstCharDesc (indeterminate : Int)
    (symbol1 symbol2 : MarpaWrapperSymbol) : Int :=
  let size1l := symbol1.marpaWrapperSymbolOption.sizel
  let size2l := symbol2.marpaWrapperSymbolOption.sizel
  let c1i := symbol1.marpaWrapperSymbolOption.firstChari.getD indeterminate
  let c2i := symbol2.marpaWrapperSymbolOption.firstChari.getD indeterminate
  if size1l < size2l then 1
  else if size1l = size2l then
    if c1i < 0 then 1
    else if c2i < 0 then -1
    else if c1i < c2i then 1
    else if c2i < c1i then -1
    else 0
  else -1

/-- `_marpaWrapper_progress_cmp`, on items that come with the id of their rule. -/
def marpaWrapperProgressCmp (item1 item2 : Int × MarpaWrapperProgress) : Int :=
  if item1.1 < item2.1 then -1
  else if item2.1 < item1.1 then 1
  else if item1.2.positioni < item2.2.positioni then -1
  else if item2.2.positioni < item1.2.positioni then 1
  else 0

section Recognizer

variable {V : Type} (libc : Libc V) (fuel : Nat) (build : Build) (marpa : Libmarpa V)

/-! ### Starting -/

/-- The part of `marpaWrapper_r_startb` that releases an earlier recognizer with its arrays. -/
def releaseRecognizer (wrapper : Wrapper) : Exec V Wrapper :=
  match wrapper.marpaRecognizerp with
  | none => pure wrapper
  | some handle => do
    emit (.recognizerUnref handle)
    freeIfNotNull (wrapper.expectedMarpaSymbolIdArrayp.map (·.address))
    freeIfNotNull (wrapper.expectedMarpaWrapperSymbolArraypp.map (·.address))
    pure { wrapper with
      expectedMarpaSymbolIdArrayp := none
      expectedMarpaWrapperSymbolArraypp := none }

/-- The part of `marpaWrapper_r_startb` before the events. -/
def startRecognizer (wrapper : Wrapper) : Exec V (Bool × Wrapper) := do
  let wrapper ← releaseRecognizer wrapper
  let marpaRecognizerp ← acquire marpa.recognizerNew .recognizerNew
  let wrapper := { wrapper with marpaRecognizerp }
  if marpaRecognizerp.isNone then pure (false, wrapper)
  else
    let started ← marpaRStartInput marpa
    pure (!(started < 0), wrapper)

/-- `marpaWrapper_r_startb`. -/
def marpaWrapperRStartb (wrapper : Wrapper) : Exec V (Bool × Wrapper) := do
  let (started, wrapper) ← startRecognizer marpa wrapper
  if started then
    let reported ← marpaWrapperEvent libc marpa wrapper
    pure (reported, wrapper)
  else pure (false, wrapper)

/-! ### Tokens -/

/-- `marpaWrapper_r_alternativeb`. -/
def marpaWrapperRAlternativeb (wrapper : Wrapper) (marpaWrapperSymbolp : Option Nat)
    (value length : Int) : Exec V Bool :=
  match marpaWrapperSymbolp with
  | none => pure false
  | some pointer =>
    if wrapper.marpaRecognizerp.isNone then pure false
    else do
      let symbol ← readSymbol wrapper pointer
      let code ← ask (marpa.alternative · symbol.marpaSymbolIdi value length)
        (.alternative symbol.marpaSymbolIdi value length)
      pure (code == marpaErrNone)

/-- The part of `marpaWrapper_r_completeb` before the events. -/
def completeEarleme (wrapper : Wrapper) : Exec V Bool :=
  if wrapper.marpaRecognizerp.isNone then pure false
  else do
    let completed ← marpaREarlemeComplete marpa
    pure (completed != -2)

/-- `marpaWrapper_r_completeb`. -/
def marpaWrapperRCompleteb (wrapper : Wrapper) : Exec V Bool := do
  if ← completeEarleme marpa wrapper then marpaWrapperEvent libc marpa wrapper else pure false

/-- `marpaWrapper_r_readb`. -/
def marpaWrapperRReadb (wrapper : Wrapper) (marpaWrapperSymbolp : Option Nat)
    (value length : Int) : Exec V Bool := do
  if ← marpaWrapperRAlternativeb marpa wrapper marpaWrapperSymbolp value length then
    marpaWrapperRCompleteb libc marpa wrapper
  else pure false

/-- One of the three event kinds of `marpaWrapper_r_event_activateb`. -/
def activateEvent (marpaSymbolIdi booleani eventSeti : Int) (eventType : Nat) : Exec V Bool :=
  if eventSetHas eventSeti eventType then do
    let answer ← ask (marpa.symbolActivate · eventType marpaSymbolIdi booleani)
      (.symbolActivate eventType marpaSymbolIdi booleani)
    pure (answer == booleani)
  else pure true

/-- `marpaWrapper_r_event_activateb`. -/
def marpaWrapperREventActivateb (wrapper : Wrapper) (marpaWrapperSymbolp : Option Nat)
    (eventSeti : Int) (onb : Bool) : Exec V Bool :=
  let booleani : Int := if onb then 1 else 0
  match marpaWrapperSymbolp with
  | none => pure false
  | some pointer =>
    if wrapper.marpaRecognizerp.isNone then pure false
    else do
      let symbol ← readSymbol wrapper pointer
      match ← forEach (fun eventType (_ : Unit) => do
          let activated ← activateEvent marpa symbol.marpaSymbolIdi booleani eventSeti eventType
          pure (if activated then .next () else .done ()))
        [marpaWrapperEventtypeCompleted, marpaWrapperEventtypeNulled,
          marpaWrapperEventtypePredicted] () with
      | .next () => pure true
      | .done () => pure false

/-! ### Expected terminals -/

/-- The part of `marpaWrapper_r_terminals_expectedb` that allocates the two arrays. -/
def allocateExpected (wrapper : Wrapper) : Exec V (Bool × Wrapper) :=
  if wrapper.expectedMarpaSymbolIdArrayp.isSome then pure (true, wrapper)
  else do
    let highestSymbolIdi ← marpaGHighestSymbolId marpa
    if highestSymbolIdi = -2 then pure (false, wrapper)
    else
      let idsSize := toSize (highestSymbolIdi + 1) * marpaSymbolIdSize % sizeModulus
      let pointersSize := toSize (highestSymbolIdi + 1) * pointerSize % sizeModulus
      match ← malloc libc idsSize with
      | none => pure (false, wrapper)
      | some ids =>
        match ← malloc libc pointersSize with
        | none =>
          emit (.free ids)
          pure (false, { wrapper with expectedMarpaWrapperSymbolArraypp := none })
        | some pointers =>
          pure (true, { wrapper with
            expectedMarpaSymbolIdArrayp :=
              some {
                address := ids
                cells := List.replicate (idsSize / marpaSymbolIdSize) .indeterminate }
            expectedMarpaWrapperSymbolArraypp :=
              some {
                address := pointers
                cells := List.replicate (pointersSize / pointerSize) .indeterminate } })

/-- `marpa_r_terminals_expected`, which writes the ids to the array it is given. -/
def marpaRTerminalsExpected (array : Block Int) : Exec V (Int × Block Int) := do
  match ← ask marpa.terminalsExpected .terminalsExpected with
  | none => pure (-2, array)
  | some ids =>
    if ids.length ≤ array.cells.length then
      pure (ids.length,
        { array with cells := ids.map .pointer ++ array.cells.drop ids.length })
    else throw .outOfBounds

/-- One turn of the loop that looks the ids up in the table of symbols. -/
def lookupTurn (wrapper : Wrapper) (ids : List (Slot Int)) (index : Nat)
    (pointers : List (Slot Nat)) : Exec V (Turn (List (Slot Nat)) Empty) := do
  match ← readCell ids index with
  | none => throw .indeterminate
  | some marpaSymbolIdi =>
    let pointer ← readPointer wrapper.marpaWrapperSymbolpp marpaSymbolIdi
    let pointers ← writeCell pointers index (pointer.elim .null .pointer)
    pure (.next pointers)

/-- The rest of `marpaWrapper_r_terminals_expectedb`, with the arrays there. -/
def fillExpected (wrapper : Wrapper) : Exec V (Option Nat × Wrapper) :=
  match wrapper.expectedMarpaSymbolIdArrayp, wrapper.expectedMarpaWrapperSymbolArraypp with
  | some ids, some pointers => do
    let (nSymbolIdi, ids) ← marpaRTerminalsExpected marpa ids
    let wrapper := { wrapper with expectedMarpaSymbolIdArrayp := some ids }
    if nSymbolIdi = -2 then pure (none, wrapper)
    else
      match ← forEach (lookupTurn wrapper ids.cells) (List.range nSymbolIdi.toNat)
          pointers.cells with
      | .next cells =>
        pure (some (toSize nSymbolIdi), { wrapper with
          expectedMarpaWrapperSymbolArraypp := some { pointers with cells } })
  | _, _ => throw .nullDereference

/-- `marpaWrapper_r_terminals_expectedb`. On `TRUE` the result is the number of terminals; the
array is the one in the wrapper. -/
def marpaWrapperRTerminalsExpectedb (wrapper : Wrapper) : Exec V (Option Nat × Wrapper) :=
  if wrapper.marpaRecognizerp.isNone then pure (none, wrapper)
  else do
    let (allocated, wrapper) ← allocateExpected libc marpa wrapper
    if allocated then fillExpected marpa wrapper else pure (none, wrapper)

/-- `marpaWrapper_r_terminal_is_expectedb`. On `TRUE` the result is what `*isExpectedbp` is set
to. -/
def marpaWrapperRTerminalIsExpectedb (wrapper : Wrapper) (marpaWrapperSymbolp : Option Nat) :
    Exec V (Option Bool) :=
  match marpaWrapperSymbolp with
  | none => pure none
  | some pointer =>
    if wrapper.marpaRecognizerp.isNone then pure none
    else do
      let symbol ← readSymbol wrapper pointer
      let isExpectedi ← ask (marpa.terminalIsExpected · symbol.marpaSymbolIdi)
        (.terminalIsExpected symbol.marpaSymbolIdi)
      pure (if isExpectedi = -2 then none else some (isExpectedi > 0))

/-! ### Progress -/

/-- How the loops of `marpaWrapper_r_progressb` are left early: by `break` with `rcb` set to
`FALSE`, or by `return`. -/
inductive ProgressExit where
  | broken (wrapper : Wrapper)
  | returned (wrapper : Wrapper)

/-- Store a progress item behind the others. The local count of the items is the wrapper's. -/
def storeProgress (wrapper : Wrapper) (marpaEarleySetIdi marpaRuleIdi positioni
    marpaEarleySetIdOrigini : Int) : Exec V (Turn Wrapper ProgressExit) := do
  match ← manageBufCreatep libc fuel build sizeModulus wrapper.marpaWrapperProgresspp
      wrapper.sizeMarpaWrapperProgressi (wrapper.nMarpaWrapperProgressi + 1) pointerSize with
  | .error marpaWrapperProgresspp =>
    pure (.done (.broken { wrapper with marpaWrapperProgresspp }))
  | .ok (table, sizeMarpaWrapperProgressi) =>
    let wrapper := { wrapper with
      marpaWrapperProgresspp := some table
      sizeMarpaWrapperProgressi }
    match ← malloc libc marpaWrapperProgressSize with
    | none => pure (.done (.returned wrapper))
    | some address =>
      let marpaWrapperRulep ← readPointer wrapper.marpaWrapperRulepp marpaRuleIdi
      let table ← writeArray table wrapper.nMarpaWrapperProgressi (.pointer {
        address, marpaEarleySetIdi, marpaEarleySetIdOrigini, marpaWrapperRulep, positioni })
      pure (.next { wrapper with
        marpaWrapperProgresspp := some table
        nMarpaWrapperProgressi := wrapper.nMarpaWrapperProgressi + 1 })

/-- One turn of the loop over the items of an Earley set. -/
def itemTurn (marpaEarleySetIdi : Int) (_ : Nat) (wrapper : Wrapper) :
    Exec V (Turn Wrapper ProgressExit) := do
  let (marpaRuleIdi, positioni, marpaEarleySetIdOrigini) ←
    ask marpa.progressItem fun item => .progressItem item.1 item.2.1 item.2.2
  if marpaRuleIdi = -2 ∨ marpaRuleIdi = -1 then pure (.done (.broken wrapper))
  else
    storeProgress libc fuel build wrapper marpaEarleySetIdi marpaRuleIdi positioni
      marpaEarleySetIdOrigini

/-- One turn of the loop over the Earley sets. -/
def setTurn (starti : Int) (offset : Nat) (wrapper : Wrapper) :
    Exec V (Turn Wrapper ProgressExit) := do
  let marpaEarleySetIdi := starti + offset
  let marpEarlemei ← ask (marpa.earleme · marpaEarleySetIdi) (.earleme marpaEarleySetIdi)
  if marpEarlemei = -2 then pure (.done (.broken wrapper))
  else
    let nbItemsi ← ask (marpa.progressReportStart · marpaEarleySetIdi)
      (.progressReportStart marpaEarleySetIdi)
    if nbItemsi < 0 then pure (.done (.broken wrapper))
    else
      forEach (itemTurn libc fuel build marpa marpaEarleySetIdi) (List.range nbItemsi.toNat)
        wrapper

/-- One turn of the walk over the stored items that reads what the comparator needs of them. -/
def rankTurn (wrapper : Wrapper) (cells : List (Slot MarpaWrapperProgress)) (index : Nat)
    (items : List (Int × MarpaWrapperProgress)) :
    Exec V (Turn (List (Int × MarpaWrapperProgress)) Empty) := do
  match ← readCell cells index with
  | none => throw .nullDereference
  | some item =>
    match item.marpaWrapperRulep with
    | none => throw .nullDereference
    | some pointer =>
      match ← readObject wrapper.marpaWrapperRulepp pointer with
      | none => throw .nullDereference
      | some rule => pure (.next (items ++ [(rule.marpaRuleIdi, item)]))

/-- The `qsort` of the items. For a single item the comparator is not called. -/
def sortProgress (wrapper : Wrapper) : Exec V Wrapper :=
  match wrapper.marpaWrapperProgresspp with
  | none => pure wrapper
  | some table =>
    if wrapper.nMarpaWrapperProgressi > 1 then do
      match ← forEach (rankTurn wrapper table.cells) (List.range wrapper.nMarpaWrapperProgressi)
          [] with
      | .next items =>
        pure { wrapper with
          marpaWrapperProgresspp := some { table with
            cells := (libc.qsort marpaWrapperProgressCmp items).map (.pointer ·.2) ++
              table.cells.drop wrapper.nMarpaWrapperProgressi } }
    else pure wrapper

/-- The end of `marpaWrapper_r_progressb`, after the loops. -/
def finishProgress (rcb : Bool) (wrapper : Wrapper) : Exec V (Option Nat × Wrapper) := do
  let finished ← ask marpa.progressReportFinish .progressReportFinish
  if rcb ∧ ¬ finished < 0 then
    let wrapper ← sortProgress libc wrapper
    pure (some wrapper.nMarpaWrapperProgressi, wrapper)
  else pure (none, wrapper)

/-- A range argument: a negative one counts from the end. -/
def rangeArgument (argument marpaLatestEarleySetIdi : Int) : Int :=
  if argument < 0 then argument + (marpaLatestEarleySetIdi + 1) else argument

/-- `marpaWrapper_r_progressb`. On `TRUE` the result is the number of items; the array is the one
in the wrapper. -/
def marpaWrapperRProgressb (wrapper : Wrapper) (starti endi : Int) :
    Exec V (Option Nat × Wrapper) :=
  if wrapper.marpaRecognizerp.isNone then pure (none, wrapper)
  else do
    manageBufFreev MarpaWrapperProgress.address wrapper.marpaWrapperProgresspp
      wrapper.nMarpaWrapperProgressi
    let wrapper := { wrapper with
      marpaWrapperProgresspp := none
      sizeMarpaWrapperProgressi := 0
      nMarpaWrapperProgressi := 0 }
    let latest ← ask marpa.latestEarleySet .latestEarleySet
    let starti := rangeArgument starti latest
    let endi := rangeArgument endi latest
    if starti < 0 ∨ latest < starti ∨ endi < 0 ∨ latest < endi ∨ endi < starti then
      pure (none, wrapper)
    else
      match ← forEach (setTurn libc fuel build marpa starti)
          (List.range (endi - starti + 1).toNat) wrapper with
      | .next wrapper => finishProgress libc marpa true wrapper
      | .done (.broken wrapper) => finishProgress libc marpa false wrapper
      | .done (.returned wrapper) => pure (none, wrapper)

end Recognizer

end MarpaWrapper
