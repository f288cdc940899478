/-
This file puts the functions of the wrapper's interface together. A call names a
function with its arguments, and a run is a sequence of calls on one wrapper, so
that a state is reachable when a run that began with `marpaWrapper_newp` ends in
it.

The user's callbacks do not call back into the wrapper.
-/

import MarpaWrapper.Recognition

namespace MarpaWrapper

open Effects

/-- A call of the interface, between the creation of a wrapper and its destruction. -/
inductive ApiCall (V : Type) where
  | addSymbolp (option : Option MarpaWrapperSymbolOption)
  | addRulep (option : Option MarpaWrapperRuleOption)
  | precomputeb
  | startb
  | alternativeb (symbolp : Option Nat) (value length : Int)
  | completeb
  | readb (symbolp : Option Nat) (value length : Int)
  | eventActivateb (symbolp : Option Nat) (eventSeti : Int) (onb : Bool)
  | terminalsExpectedb
  | terminalIsExpectedb (symbolp : Option Nat)
  | progressb (starti endi : Int)
  | recognizeb (option : Option (MarpaWrapperRecognizerOption V))
  | vb (valueOption : Option (MarpaWrapperValueOption V))
      (stackOption : Option (MarpaWrapperStackOption V))

/-- What a call returns, with what its caller finds through pointers. -/
inductive ApiAnswer where
  | pointer (pointer : Option Nat)
  | bool (result : Bool)
  | count (count : Option Nat)
  | isExpected (result : Option Bool)
  deriving DecidableEq

section Api

variable {V : Type} (libc : Libc V) (fuel : Nat) (build : Build) (marpa : Libmarpa V)

/-- A function that returns a boolean and does not write to the wrapper. -/
def answering (wrapper : Wrapper) (program : Exec V Bool) : Exec V (ApiAnswer × Wrapper) := do
  let result ← program
  pure (.bool result, wrapper)

/-- Make one call. -/
def ApiCall.run : ApiCall V → Wrapper → Exec V (ApiAnswer × Wrapper)
  | .addSymbolp option, wrapper => do
    let (pointer, wrapper) ← marpaWrapperGAddSymbolp libc fuel build marpa wrapper option
    pure (.pointer pointer, wrapper)
  | .addRulep option, wrapper => do
    let (pointer, wrapper) ← marpaWrapperGAddRulep libc fuel build marpa wrapper option
    pure (.pointer pointer, wrapper)
  | .precomputeb, wrapper => answering wrapper (marpaWrapperGPrecomputeb libc marpa wrapper)
  | .startb, wrapper => do
    let (result, wrapper) ← marpaWrapperRStartb libc marpa wrapper
    pure (.bool result, wrapper)
  | .alternativeb symbolp value length, wrapper =>
    answering wrapper (marpaWrapperRAlternativeb marpa wrapper symbolp value length)
  | .completeb, wrapper => answering wrapper (marpaWrapperRCompleteb libc marpa wrapper)
  | .readb symbolp value length, wrapper =>
    answering wrapper (marpaWrapperRReadb libc marpa wrapper symbolp value length)
  | .eventActivateb symbolp eventSeti onb, wrapper =>
    answering wrapper (marpaWrapperREventActivateb marpa wrapper symbolp eventSeti onb)
  | .terminalsExpectedb, wrapper => do
    let (count, wrapper) ← marpaWrapperRTerminalsExpectedb libc marpa wrapper
    pure (.count count, wrapper)
  | .terminalIsExpectedb symbolp, wrapper => do
    let result ← marpaWrapperRTerminalIsExpectedb marpa wrapper symbolp
    pure (.isExpected result, wrapper)
  | .progressb starti endi, wrapper => do
    let (count, wrapper) ← marpaWrapperRProgressb libc fuel build marpa wrapper starti endi
    pure (.count count, wrapper)
  | .recognizeb option, wrapper => do
    let (result, wrapper) ← marpaWrapperRRecognizeb libc fuel build marpa wrapper option
    pure (.bool result, wrapper)
  | .vb valueOption stackOption, wrapper =>
    answering wrapper
      (marpaWrapperVb libc fuel marpa.value (some wrapper) valueOption stackOption)

/-- Create a wrapper and make calls on it, as long as there is one. -/
def session (option : Option MarpaWrapperOption) (calls : List (ApiCall V)) :
    Exec V (Option (List ApiAnswer × Wrapper)) := do
  match ← marpaWrapperNewp libc marpa option with
  | none => pure none
  | some wrapper =>
    let result ← runCalls (ApiCall.run libc fuel build marpa) calls wrapper
    pure (some result)

end Api

end MarpaWrapper
