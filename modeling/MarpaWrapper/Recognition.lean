/-
This file is the model of `marpaWrapper_r_recognizeb`. Each turn of its loop asks
the reader whether to go on, asks libmarpa for the expected terminals, asks the
user's lexeme callback which of them match and how far, passes the selected ones
to libmarpa as alternatives, and completes the Earley set.

Under `longestAcceptableTokenMatchb` the terminals are sorted by their declared
size first, and a terminal whose declared size is below the longest match so far
is not asked about.
-/

import MarpaWrapper.Recognizer

namespace MarpaWrapper

open Effects

/-- `marpaWrapperRecognizerOption_t`. The reader answers with what it returns and with what it sets
`*endOfInputbp` to; a lexeme callback answers with a length when it returns `TRUE`, and a value
callback with a value and a length. -/
structure MarpaWrapperRecognizerOption (V : Type) where
  remainingDataIsOkb : Bool := false
  longestAcceptableTokenMatchb : Bool := false
  longestAcceptableTokensShareTheSameValueAndLengthb : Bool := false
  readerCallbackp : Option (List (Event V) → Bool × Bool) := none
  isLexemebCallbackp : Option (List (Event V) → Nat → Option Nat) := none
  lexemeValuebCallbackp : Option (List (Event V) → Nat → Option (Int × Int)) := none
  ruleToCharsbCallbackp : Bool := false
  symbolToCharsbCallbackp : Bool := false

/-- The options with the callbacks that are always needed. -/
structure RecognizerCallbacks (V : Type) where
  remainingDataIsOkb : Bool
  longestAcceptableTokenMatchb : Bool
  longestAcceptableTokensShareTheSameValueAndLengthb : Bool
  reader : List (Event V) → Bool × Bool
  isLexeme : List (Event V) → Nat → Option Nat
  lexemeValue : List (Event V) → Nat → Option (Int × Int)

/-- The checks of the options: what is needed is there. -/
def MarpaWrapperRecognizerOption.callbacks {V : Type} (tracing : Bool)
    (option : MarpaWrapperRecognizerOption V) : Option (RecognizerCallbacks V) :=
  match option.readerCallbackp, option.isLexemebCallbackp, option.lexemeValuebCallbackp with
  | some reader, some isLexeme, some lexemeValue =>
    if tracing ∧ ¬ (option.ruleToCharsbCallbackp ∧ option.symbolToCharsbCallbackp) then none
    else some {
      remainingDataIsOkb := option.remainingDataIsOkb
      longestAcceptableTokenMatchb := option.longestAcceptableTokenMatchb
      longestAcceptableTokensShareTheSameValueAndLengthb :=
        option.longestAcceptableTokensShareTheSameValueAndLengthb
      reader, isLexeme, lexemeValue }
  | _, _, _ => none

section Recognition

variable {V : Type} (libc : Libc V) (fuel : Nat) (build : Build) (marpa : Libmarpa V)

/-! ### The expected terminals -/

/-- The symbol that `marpaWrapperSymbolpp[i]` points to, with its slot. -/
def expectedSymbol (wrapper : Wrapper) (cells : List (Slot Nat)) (index : Nat) :
    Exec V (Nat × MarpaWrapperSymbol) := do
  match ← readCell cells index with
  | none => throw .nullDereference
  | some pointer =>
    let symbol ← readSymbol wrapper pointer
    pure (pointer, symbol)

/-- Change a symbol object. -/
def writeSymbol (wrapper : Wrapper) (pointer : Nat) (symbol : MarpaWrapperSymbol) :
    Exec V Wrapper :=
  match wrapper.marpaWrapperSymbolpp with
  | none => throw .nullDereference
  | some table => do
    let cells ← writeCell table.cells pointer (.pointer symbol)
    pure { wrapper with marpaWrapperSymbolpp := some { table with cells } }

/-- The cells of the array of expected terminals. -/
def expectedCells (wrapper : Wrapper) : List (Slot Nat) :=
  cellsOf wrapper.expectedMarpaWrapperSymbolArraypp

/-- One turn of the walk over the terminals that reads what the comparator needs of them. -/
def keyTurn (wrapper : Wrapper) (index : Nat) (terminals : List (Nat × MarpaWrapperSymbol)) :
    Exec V (Turn (List (Nat × MarpaWrapperSymbol)) Empty) := do
  let terminal ← expectedSymbol wrapper (expectedCells wrapper) index
  pure (.next (terminals ++ [terminal]))

/-- The `qsort` of the expected terminals. -/
def sortTerminals (wrapper : Wrapper) (nMarpaWrapperSymboli : Nat) : Exec V Wrapper := do
  match ← forEach (keyTurn wrapper) (List.range nMarpaWrapperSymboli) [] with
  | .next terminals =>
    let garbage ← readGarbage libc
    let sorted := libc.qsort (fun terminal1 terminal2 =>
      marpaWrapperSymbolCmpBySizelDescFirstCharDesc garbage terminal1.2 terminal2.2) terminals
    pure { wrapper with
      expectedMarpaWrapperSymbolArraypp :=
        wrapper.expectedMarpaWrapperSymbolArraypp.map fun array => { array with
          cells := sorted.map (.pointer ·.1) ++ array.cells.drop nMarpaWrapperSymboli } }

/-! ### Trace -/

/-- One turn of the loop that logs a progress item: it goes through the item's rule. -/
def traceTurn (wrapper : Wrapper) (index : Nat) (_ : Unit) : Exec V (Turn Unit Empty) := do
  match ← readCell (cellsOf wrapper.marpaWrapperProgresspp) index with
  | none => throw .nullDereference
  | some item =>
    match item.marpaWrapperRulep with
    | none => throw .nullDereference
    | some pointer =>
      match ← readObject wrapper.marpaWrapperRulepp pointer with
      | none => throw .nullDereference
      | some _ => pure (.next ())

/-- "Show progress": a build that traces asks for the items of the latest Earley set. -/
def showProgress (wrapper : Wrapper) : Exec V Wrapper :=
  if build.tracing then do
    let (progress, wrapper) ← marpaWrapperRProgressb libc fuel build marpa wrapper (-1) (-1)
    let _ ← forEach (traceTurn wrapper) (List.range (progress.getD 0)) ()
    pure wrapper
  else pure wrapper

/-! ### One iteration -/

section Iteration

variable (callbacks : RecognizerCallbacks V)

/-- Call the lexeme callback. -/
def callIsLexeme (datavp : Nat) : Exec V (Option Nat) :=
  ask (callbacks.isLexeme · datavp) (.isLexeme datavp)

/-- Call the value callback. -/
def callLexemeValue (datavp : Nat) : Exec V (Option (Int × Int)) :=
  ask (callbacks.lexemeValue · datavp) (.lexemeValue datavp)

/-- Whether a terminal is not asked about: its declared size is below the longest match so far. -/
def skips (symbol : MarpaWrapperSymbol) (maxLengthl : Nat) : Bool :=
  callbacks.longestAcceptableTokenMatchb &&
    symbol.marpaWrapperSymbolOption.sizel > 0 &&
    symbol.marpaWrapperSymbolOption.sizel < maxLengthl

/-- One turn of "Check expected terminals". The frame holds the wrapper and `maxLengthl`. -/
def checkTurn (index : Nat) (frame : Wrapper × Nat) : Exec V (Turn (Wrapper × Nat) Empty) := do
  let (wrapper, maxLengthl) := frame
  let (pointer, symbol) ← expectedSymbol wrapper (expectedCells wrapper) index
  if skips callbacks symbol maxLengthl then
    let wrapper ← writeSymbol wrapper pointer { symbol with lengthl := 0 }
    pure (.next (wrapper, maxLengthl))
  else
    match ← callIsLexeme callbacks symbol.marpaWrapperSymbolOption.datavp with
    | some lengthl =>
      let wrapper ← writeSymbol wrapper pointer { symbol with isLexemeb := true, lengthl }
      pure (.next (wrapper, if lengthl > maxLengthl then lengthl else maxLengthl))
    | none =>
      let wrapper ← writeSymbol wrapper pointer { symbol with isLexemeb := false, lengthl := 0 }
      pure (.next (wrapper, maxLengthl))

/-- Whether a terminal is passed to libmarpa. -/
def selected (lengthl maxLengthl : Nat) : Bool :=
  if callbacks.longestAcceptableTokenMatchb then lengthl == maxLengthl else lengthl > 0

/-- The value and the length of a terminal: the ones at hand when they are shared, else those of
the value callback. Nothing when the callback returns `FALSE`. -/
def tokenValue (symbol : MarpaWrapperSymbol) (value : Int × Int) : Exec V (Option (Int × Int)) :=
  if callbacks.longestAcceptableTokensShareTheSameValueAndLengthb ∧ value.1 ≠ 0 then
    pure (some value)
  else callLexemeValue callbacks symbol.marpaWrapperSymbolOption.datavp

/-- One turn of "Push terminals". The frame holds `lexemeValuei` and `lexemelengthi`; a turn that
is done returns `FALSE`. -/
def pushTurn (wrapper : Wrapper) (maxLengthl index : Nat) (value : Int × Int) :
    Exec V (Turn (Int × Int) Unit) := do
  let (pointer, symbol) ← expectedSymbol wrapper (expectedCells wrapper) index
  if selected callbacks symbol.lengthl maxLengthl then
    match ← tokenValue callbacks symbol value with
    | none => pure (.done ())
    | some value =>
      let accepted ← marpaWrapperRAlternativeb marpa wrapper (some pointer) value.1 value.2
      pure (if accepted then .next value else .done ())
  else pure (.next value)

/-- "Push terminals". `lexemelengthi` is not assigned at first, and not read then, because
`lexemeValuei` is 0. -/
def pushTerminals (wrapper : Wrapper) (nMarpaWrapperSymboli maxLengthl : Nat) : Exec V Bool :=
  if maxLengthl > 0 then do
    match ← forEach (pushTurn marpa callbacks wrapper maxLengthl)
        (List.range nMarpaWrapperSymboli) (0, 0) with
    | .next _ => pure true
    | .done () => pure false
  else pure true

/-- The sort under `longestAcceptableTokenMatchb`. -/
def orderTerminals (wrapper : Wrapper) (nMarpaWrapperSymboli : Nat) : Exec V Wrapper :=
  if callbacks.longestAcceptableTokenMatchb ∧ nMarpaWrapperSymboli > 1 then
    sortTerminals libc wrapper nMarpaWrapperSymboli
  else pure wrapper

/-- The lexemes of one position: sort, check and push the terminals that are expected. -/
def readLexemes (wrapper : Wrapper) (nMarpaWrapperSymboli : Nat) : Exec V (Bool × Wrapper) := do
  let wrapper ← orderTerminals libc callbacks wrapper nMarpaWrapperSymboli
  match ← forEach (checkTurn callbacks) (List.range nMarpaWrapperSymboli) (wrapper, 0) with
  | .next (wrapper, maxLengthl) =>
    let pushed ← pushTerminals marpa callbacks wrapper nMarpaWrapperSymboli maxLengthl
    pure (pushed, wrapper)

/-- The body of the loop. The result tells whether the loop goes on. -/
def recognizeIteration (wrapper : Wrapper) : Exec V (Bool × Wrapper) := do
  let wrapper ← showProgress libc fuel build marpa wrapper
  let (expected, wrapper) ← marpaWrapperRTerminalsExpectedb libc marpa wrapper
  match expected with
  | none => pure (false, wrapper)
  | some nMarpaWrapperSymboli =>
    let (pushed, wrapper) ← readLexemes libc marpa callbacks wrapper nMarpaWrapperSymboli
    if pushed then
      let completed ← marpaWrapperRCompleteb libc marpa wrapper
      pure (completed, wrapper)
    else pure (false, wrapper)

/-- One turn of the loop, with its condition. -/
def recognizeTurn (wrapper : Wrapper) : Exec V (Turn Wrapper (Bool × Wrapper)) := do
  let (more, endOfInputb) ← ask callbacks.reader fun answer => .reader answer.1 answer.2
  if more then
    let (goesOn, wrapper) ← recognizeIteration libc fuel build marpa callbacks wrapper
    pure (if goesOn then .next wrapper else .done (false, wrapper))
  else pure (.done (endOfInputb || callbacks.remainingDataIsOkb, wrapper))

end Iteration

/-- `marpaWrapper_r_recognizeb`. -/
def marpaWrapperRRecognizeb (wrapper : Wrapper)
    (marpaWrapperRecognizerOptionp : Option (MarpaWrapperRecognizerOption V)) :
    Exec V (Bool × Wrapper) :=
  match marpaWrapperRecognizerOptionp.bind (·.callbacks build.tracing) with
  | none => pure (false, wrapper)
  | some callbacks => do
    let (started, wrapper) ← marpaWrapperRStartb libc marpa wrapper
    if started then
      loop .exhausted (recognizeTurn libc fuel build marpa callbacks) fuel wrapper
    else pure (false, wrapper)

end Recognition

end MarpaWrapper
