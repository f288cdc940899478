/-
This file is the model of the wrapper's constructor and destructor and of the
functions that define a grammar, `marpaWrapper_g_addSymbolp` and
`marpaWrapper_g_addRulep`. libmarpa creates the symbol or the rule first; then
the wrapper makes room in its table, allocates its own object, enters it under
the id libmarpa handed out, and last applies the options.

A `NULL` wrapper, which every function answers with `FALSE` or `NULL`, is
excluded by the type. A pointer to a symbol is the index of its slot.
-/

import MarpaWrapper.Libmarpa
import MarpaWrapper.ManageBuf

namespace MarpaWrapper

open Effects

/-! ### Sizes and defaults -/

/-- The sizes of the structures on a 64-bit machine. -/
def marpaWrapperSize : Nat := 176
def marpaWrapperSymbolSize : Nat := 72
def marpaWrapperRuleSize : Nat := 80
def marpaSymbolIdSize : Nat := 4

/-- `marpaWrapper_optionDefaultb`. -/
def marpaWrapperOptionDefaultb : MarpaWrapperOption where
  versionip := none
  eventCallbackp := false
  warningIsErrorb := false
  warningIsIgnoredb := false
  unsortedEventsb := false

/-- `marpaWrapper_symbolOptionDefaultb`. It does not assign `firstChari`. -/
def marpaWrapperSymbolOptionDefaultb : MarpaWrapperSymbolOption where
  datavp := 0
  terminalb := false
  startb := false
  eventSeti := 0
  sizel := 0
  firstChari := none

/-- `(eventSeti & eventType) == eventType`. -/
def eventSetHas (eventSeti : Int) (eventType : Nat) : Bool :=
  toUnsigned eventSeti &&& eventType == eventType

section Grammar

variable {V : Type} (libc : Libc V) (fuel : Nat) (build : Build) (marpa : Libmarpa V)

/-! ### Pointers to symbols -/

/-- Write `array[index]` for an `int` index. -/
def writeArray {α : Type} (block : Block α) (index : Int) (content : Slot α) :
    Exec V (Block α) := do
  useBlock block
  if index < 0 then throw .outOfBounds
  else
    let cells ← writeCell block.cells index.toNat content
    pure { block with cells }

/-- What a non-`NULL` pointer to a symbol designates. -/
def readSymbol (wrapper : Wrapper) (marpaWrapperSymbolp : Nat) : Exec V MarpaWrapperSymbol := do
  match ← readObject wrapper.marpaWrapperSymbolpp marpaWrapperSymbolp with
  | none => throw .nullDereference
  | some symbol => pure symbol

/-- What memory holds before it is written. -/
def readGarbage : Exec V Int := fun world => .ok (libc.garbage world.events) world

/-! ### Constructor and destructor -/

/-- `marpaWrapper_destroyv`. -/
def marpaWrapperDestroyv (wrapper : Wrapper) : Exec V Unit := do
  unrefIfNotNull .recognizerUnref wrapper.marpaRecognizerp
  unrefIfNotNull .grammarUnref wrapper.marpaGrammarp
  manageBufFreev MarpaWrapperSymbol.address wrapper.marpaWrapperSymbolpp
    wrapper.nMarpaWrapperSymboli
  manageBufFreev MarpaWrapperRule.address wrapper.marpaWrapperRulepp wrapper.nMarpaWrapperRulei
  manageBufFreev MarpaWrapperProgress.address wrapper.marpaWrapperProgresspp
    wrapper.nMarpaWrapperProgressi
  freeIfNotNull (wrapper.expectedMarpaSymbolIdArrayp.map (·.address))
  freeIfNotNull (wrapper.expectedMarpaWrapperSymbolArraypp.map (·.address))
  emit (.free wrapper.address)

/-- `marpaWrapper_destroyv(&marpaWrapperp); return NULL;` -/
def abandon (wrapper : Wrapper) : Exec V (Option Wrapper) := do
  marpaWrapperDestroyv wrapper
  pure none

/-- The part of `marpaWrapper_newp` that creates the grammar. -/
def createGrammar (wrapper : Wrapper) : Exec V (Option Wrapper) := do
  match ← marpaGNew marpa with
  | none => abandon wrapper
  | some handle =>
    let wrapper := { wrapper with marpaGrammarp := some handle }
    let forced ← grammarCall marpa .forceValued
    if forced < 0 then abandon wrapper else pure (some wrapper)

/-- `marpaWrapper_newp`. -/
def marpaWrapperNewp (marpaWrapperOptionp : Option MarpaWrapperOption) :
    Exec V (Option Wrapper) := do
  let marpaWrapperOption := marpaWrapperOptionp.getD marpaWrapperOptionDefaultb
  match ← malloc libc marpaWrapperSize with
  | none => pure none
  | some address =>
    let wrapper : Wrapper := { address, marpaWrapperOption }
    let marpaErrorCode ← ask marpa.version .version
    if marpaErrorCode < 0 then abandon wrapper
    else
      match marpaWrapperOption.versionip with
      | none => createGrammar marpa wrapper
      | some version =>
        let marpaErrorCode ← ask (marpa.checkVersion · version) .checkVersion
        if marpaErrorCode ≠ marpaErrNone then abandon wrapper else createGrammar marpa wrapper

/-! ### Options that are applied after the creation -/

/-- An option: whether it is set, the grammar call it asks for, and whether that call failed, by
its answer and the grammar's error code. -/
structure OptionCall where
  wanted : Bool
  call : GrammarCall
  failed : Int → Int → Bool

/-- Apply an option. The result tells whether the function goes on. -/
def applyOption (option : OptionCall) : Exec V Bool :=
  if option.wanted then do
    let answer ← grammarCall marpa option.call
    let error ← marpaGError
    pure (!option.failed answer error)
  else pure true

/-- Apply options up to the first failure. -/
def applyOptions : List OptionCall → Exec V Bool
  | [] => pure true
  | option :: rest => do
    if ← applyOption marpa option then applyOptions rest else pure false

/-- The options of a symbol, in the order they are applied. -/
def symbolOptionCalls (marpaSymbolIdi : Int) (option : MarpaWrapperSymbolOption) :
    List OptionCall := [
  ⟨option.terminalb, .symbolIsTerminalSet marpaSymbolIdi 1, fun answer _ => answer != 1⟩,
  ⟨option.startb, .startSymbolSet marpaSymbolIdi, fun answer _ => answer < 0⟩,
  ⟨eventSetHas option.eventSeti marpaWrapperEventtypeCompleted,
    .symbolIsCompletionEventSet marpaSymbolIdi 1, fun answer _ => answer != 1⟩,
  ⟨eventSetHas option.eventSeti marpaWrapperEventtypeNulled,
    .symbolIsNulledEventSet marpaSymbolIdi 1, fun answer _ => answer != 1⟩,
  ⟨eventSetHas option.eventSeti marpaWrapperEventtypePredicted,
    .symbolIsPredictionEventSet marpaSymbolIdi 1, fun answer _ => answer != 1⟩]

/-- The options of a rule. The rank is checked through the error code, because a rank may be any
number. -/
def ruleOptionCalls (marpaRuleIdi : Int) (option : MarpaWrapperRuleOption) : List OptionCall := [
  ⟨option.ranki != 0, .ruleRankSet marpaRuleIdi option.ranki,
    fun _ error => error != marpaErrNone⟩,
  ⟨option.nullRanksHighb, .ruleNullHighSet marpaRuleIdi 1, fun answer _ => answer == -2⟩]

/-! ### Symbols -/

/-- `_marpaWrapper_g_addSymbolp`. -/
def marpaWrapperGAddSymbolpInternal (wrapper : Wrapper) (marpaSymbolIdi : Int)
    (marpaWrapperSymbolOptionp : Option MarpaWrapperSymbolOption) :
    Exec V (Option Nat × Wrapper) := do
  let nMarpaWrapperSymboli := toSize (marpaSymbolIdi + 1)
  match ← manageBufCreatep libc fuel build sizeModulus wrapper.marpaWrapperSymbolpp
      wrapper.sizeMarpaWrapperSymboli nMarpaWrapperSymboli pointerSize with
  | .error marpaWrapperSymbolpp => pure (none, { wrapper with marpaWrapperSymbolpp })
  | .ok (table, sizeMarpaWrapperSymboli) =>
    let wrapper := { wrapper with marpaWrapperSymbolpp := some table, sizeMarpaWrapperSymboli }
    match ← malloc libc marpaWrapperSymbolSize with
    | none => pure (none, wrapper)
    | some address =>
      let garbage ← readGarbage libc
      let symbol : MarpaWrapperSymbol := {
        address, marpaSymbolIdi
        marpaWrapperp := wrapper.address
        marpaWrapperSymbolOption :=
          marpaWrapperSymbolOptionp.getD marpaWrapperSymbolOptionDefaultb
        isLexemeb := garbage != 0
        lengthl := toSize garbage }
      let table ← writeArray table marpaSymbolIdi (.pointer symbol)
      let applied ← applyOptions marpa
        (symbolOptionCalls marpaSymbolIdi symbol.marpaWrapperSymbolOption)
      pure (if applied then some marpaSymbolIdi.toNat else none,
        { wrapper with nMarpaWrapperSymboli, marpaWrapperSymbolpp := some table })

/-- `marpaWrapper_g_addSymbolp`. -/
def marpaWrapperGAddSymbolp (wrapper : Wrapper)
    (marpaWrapperSymbolOptionp : Option MarpaWrapperSymbolOption) :
    Exec V (Option Nat × Wrapper) := do
  let marpaSymbolIdi ← grammarCall marpa .symbolNew
  if marpaSymbolIdi = -2 then pure (none, wrapper)
  else
    marpaWrapperGAddSymbolpInternal libc fuel build marpa wrapper marpaSymbolIdi
      marpaWrapperSymbolOptionp

/-! ### Rules -/

/-- `_marpaWrapper_g_addRulep`. -/
def marpaWrapperGAddRulepInternal (wrapper : Wrapper) (marpaRuleIdi : Int)
    (marpaWrapperRuleOption : MarpaWrapperRuleOption) : Exec V (Option Nat × Wrapper) := do
  let nMarpaWrapperRulei := toSize (marpaRuleIdi + 1)
  match ← manageBufCreatep libc fuel build sizeModulus wrapper.marpaWrapperRulepp
      wrapper.sizeMarpaWrapperRulei nMarpaWrapperRulei pointerSize with
  | .error marpaWrapperRulepp => pure (none, { wrapper with marpaWrapperRulepp })
  | .ok (table, sizeMarpaWrapperRulei) =>
    let wrapper := { wrapper with marpaWrapperRulepp := some table, sizeMarpaWrapperRulei }
    match ← malloc libc marpaWrapperRuleSize with
    | none => pure (none, wrapper)
    | some address =>
      let rule : MarpaWrapperRule := {
        address, marpaRuleIdi, marpaWrapperRuleOption
        marpaWrapperp := wrapper.address }
      let table ← writeArray table marpaRuleIdi (.pointer rule)
      let applied ← applyOptions marpa (ruleOptionCalls marpaRuleIdi marpaWrapperRuleOption)
      pure (if applied then some marpaRuleIdi.toNat else none,
        { wrapper with nMarpaWrapperRulei, marpaWrapperRulepp := some table })

/-- The checks of a rule's description: a sequence has exactly one right-hand side symbol and a
minimum of 0 or 1. -/
def MarpaWrapperRuleOption.isAcceptable (option : MarpaWrapperRuleOption) : Bool :=
  !option.sequenceb ||
    (option.nRhsSymboli == 1 && (option.minimumi == 0 || option.minimumi == 1))

/-- One turn of the loop that fills `rhsIdp`, a block of `capacity` ids. -/
def rhsTurn (wrapper : Wrapper) (rhsSymbolpp : List (Option Nat)) (capacity index : Nat)
    (rhsIdp : List Int) : Exec V (Turn (List Int) Empty) :=
  match rhsSymbolpp[index]? with
  | none => throw .outOfBounds
  | some none => throw .nullDereference
  | some (some rhsSymbolp) => do
    let symbol ← readSymbol wrapper rhsSymbolp
    if index < capacity then pure (.next (rhsIdp ++ [symbol.marpaSymbolIdi]))
    else throw .outOfBounds

/-- The right-hand side's ids, in a block of memory when there are any. Nothing when memory is
refused. -/
def collectRhs (wrapper : Wrapper) (option : MarpaWrapperRuleOption) :
    Exec V (Option (Option Nat × List Int)) :=
  if option.nRhsSymboli > 0 then do
    let size := option.nRhsSymboli * marpaSymbolIdSize % sizeModulus
    match ← malloc libc size with
    | none => pure none
    | some address =>
      match ← forEach (rhsTurn wrapper option.rhsSymbolpp (size / marpaSymbolIdSize))
          (List.range option.nRhsSymboli) [] with
      | .next rhsIdp => pure (some (some address, rhsIdp))
  else pure (some (none, []))

/-- `separatorSymbolp != NULL ? separatorSymbolp->marpaSymbolIdi : -1`. -/
def separatorId (wrapper : Wrapper) (separatorSymbolp : Option Nat) : Exec V Int :=
  match separatorSymbolp with
  | none => pure (-1)
  | some pointer => do
    let symbol ← readSymbol wrapper pointer
    pure symbol.marpaSymbolIdi

/-- The rule constructor that the option asks for. -/
def createRule (wrapper : Wrapper) (option : MarpaWrapperRuleOption) (lhsSymbolp : Nat)
    (rhsIdp : List Int) : Exec V Int :=
  if option.sequenceb then do
    let separatorSymbolIdi ← separatorId wrapper option.separatorSymbolp
    let lhs ← readSymbol wrapper lhsSymbolp
    grammarCall marpa (.sequenceNew lhs.marpaSymbolIdi (rhsIdp.headD 0) separatorSymbolIdi
      option.minimumi (if option.properb then marpaProperSeparation else 0))
  else do
    let lhs ← readSymbol wrapper lhsSymbolp
    -- libmarpa reads as many ids as the `int` it is given says.
    let length := toInt option.nRhsSymboli
    grammarCall marpa (.ruleNew lhs.marpaSymbolIdi (rhsIdp.take length.toNat) length)

/-- `marpaWrapper_g_addRulep`. -/
def marpaWrapperGAddRulep (wrapper : Wrapper)
    (marpaWrapperRuleOptionp : Option MarpaWrapperRuleOption) :
    Exec V (Option Nat × Wrapper) :=
  match marpaWrapperRuleOptionp with
  | none => pure (none, wrapper)
  | some option =>
    match option.lhsSymbolp with
    | none => pure (none, wrapper)
    | some lhsSymbolp =>
      if option.isAcceptable then do
        match ← collectRhs libc wrapper option with
        | none => pure (none, wrapper)
        | some (address, rhsIdp) =>
          let marpaRuleIdi ← createRule marpa wrapper option lhsSymbolp rhsIdp
          freeIfNotNull address
          if marpaRuleIdi = -2 then pure (none, wrapper)
          else marpaWrapperGAddRulepInternal libc fuel build marpa wrapper marpaRuleIdi option
      else pure (none, wrapper)

end Grammar

end MarpaWrapper
