/-
This file is the model of `_marpaWrapper_event`, which every operation that may
queue events ends with, of its comparator, and of `marpaWrapper_g_precomputeb`.
The queue is read event by event: symbol events are collected under the
wrapper's own constants, a fatal event and a warning that counts as an error end
the operation with `FALSE`, and so does the informational one. What was
collected is sorted and handed to the event callback.

The array of collected events has room for the whole queue and each turn writes
one entry at most, so it is a list here.
-/

import MarpaWrapper.GrammarDefinition

namespace MarpaWrapper

open Effects

/-- `sizeof(marpaWrapperEvent_t)`. -/
def marpaWrapperEventSize : Nat := 16

/-! ### The comparator -/

/-- `_marpaWrapper_event_weight`. Its cases are the event types of libmarpa. -/
def marpaWrapperEventWeight (eventType : Int) : Int :=
  if eventType = marpaEventSymbolCompleted then -1
  else if eventType = marpaEventSymbolNulled then 0
  else if eventType = marpaEventSymbolExpected ∨ eventType = marpaEventSymbolPredicted then 1
  else 0

/-- `_marpaWrapper_event_cmp`. -/
def marpaWrapperEventCmp (event1 event2 : MarpaWrapperEvent) : Int :=
  let rc1 := marpaWrapperEventWeight event1.eventType
  let rc2 := marpaWrapperEventWeight event2.eventType
  if rc1 < rc2 then -1 else if rc2 < rc1 then 1 else 0

/-! ### The queue -/

/-- The kinds of events that the `switch` tells apart. A symbol event comes with the wrapper's
constant for it. -/
inductive EventClass where
  | silent
  | warning
  | fatal
  | info
  | symbol (eventType : Nat)
  deriving DecidableEq

/-- The `switch` over the event type. -/
def eventClass (eventType : Int) : EventClass :=
  if eventType = marpaEventNone then .silent
  else if eventType = marpaEventCountedNullable then .fatal
  else if eventType = marpaEventEarleyItemThreshold then .warning
  else if eventType = marpaEventExhausted then .info
  else if eventType = marpaEventLoopRules then .warning
  else if eventType = marpaEventNullingTerminal then .fatal
  else if eventType = marpaEventSymbolCompleted then .symbol marpaWrapperEventtypeCompleted
  else if eventType = marpaEventSymbolNulled then .symbol marpaWrapperEventtypeNulled
  else if eventType = marpaEventSymbolExpected then .symbol marpaWrapperEventtypePredicted
  else if eventType = marpaEventSymbolPredicted then .symbol marpaWrapperEventtypePredicted
  else .silent

section Report

variable {V : Type} (libc : Libc V) (marpa : Libmarpa V)

/-- One turn of the loop over the queue. The frame holds what was collected; a turn that is done
returns `FALSE`. -/
def eventTurn (wrapper : Wrapper) (index : Nat) (collected : List MarpaWrapperEvent) :
    Exec V (Turn (List MarpaWrapperEvent) Unit) := do
  let (eventType, eventValuei) ← marpaGEvent marpa index
  if eventType < 0 then pure (.done ())
  else
    match eventClass eventType with
    | .silent => pure (.next collected)
    | .warning =>
      pure (if wrapper.marpaWrapperOption.warningIsErrorb then .done () else .next collected)
    | .fatal => pure (.done ())
    | .info => pure (.done ())
    | .symbol eventType =>
      let marpaWrapperSymbolp ← readPointer wrapper.marpaWrapperSymbolpp eventValuei
      pure (.next (collected ++ [{ eventType, marpaWrapperSymbolp }]))

/-- `qsort` is called for more than one event, unless the events are to stay unsorted. -/
def sortEvents (wrapper : Wrapper) (collected : List MarpaWrapperEvent) :
    List MarpaWrapperEvent :=
  if collected.length > 1 ∧ wrapper.marpaWrapperOption.unsortedEventsb = false then
    libc.qsort marpaWrapperEventCmp collected
  else collected

/-- Hand the events to the callback, when there are both. -/
def deliverEvents (wrapper : Wrapper) (collected : List MarpaWrapperEvent) : Exec V Unit :=
  if collected.length > 0 ∧ wrapper.marpaWrapperOption.eventCallbackp then
    emit (.eventCallback (sortEvents libc wrapper collected))
  else pure ()

/-- `_marpaWrapper_event`. -/
def marpaWrapperEvent (wrapper : Wrapper) : Exec V Bool := do
  let nbEventi ← marpaGEventCount marpa
  -- Formally this is not an error
  if nbEventi < 0 then pure true
  else
    match ← malloc libc (toSize (nbEventi * marpaWrapperEventSize)) with
    | none => pure false
    | some address =>
      match ← forEach (eventTurn marpa wrapper) (List.range nbEventi.toNat) [] with
      | .done () =>
        emit (.free address)
        pure false
      | .next collected =>
        deliverEvents libc wrapper collected
        emit (.free address)
        pure true

/-- The part of `marpaWrapper_g_precomputeb` before the events. The result tells whether it goes
on. -/
def precomputeGrammar : Exec V Bool := do
  let precomputed ← marpaGPrecompute marpa
  pure (!(precomputed < 0))

/-- `marpaWrapper_g_precomputeb`. -/
def marpaWrapperGPrecomputeb (wrapper : Wrapper) : Exec V Bool := do
  if ← precomputeGrammar marpa then marpaWrapperEvent libc marpa wrapper else pure false

end Report

end MarpaWrapper
