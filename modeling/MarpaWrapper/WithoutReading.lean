/-
This file leaves the reading callbacks out of the record. libmarpa and the allocator do not
know of them: what they answer is the same when the exchanges with the reader and with the
lexeme callbacks are taken away. Then a function of the interface that makes no such exchange
runs in the same way in both worlds.

The wrapper of a recognition holds more than a client sees. The work fields of its symbols
and the order of its expected terminals belong to the recognition, and no function of the
interface looks at them.
-/

import MarpaWrapper.Lockstep
import MarpaWrapper.OwnView
import MarpaWrapper.ProgressLockstep

namespace MarpaWrapper

open Effects Sorting

variable {V α : Type}

/-! ### Records -/

/-- An exchange with the callbacks that read the input. -/
def Event.ofReading : Event V → Bool
  | .reader _ _ | .isLexeme _ _ | .lexemeValue _ _ => true
  | _ => false

/-- The exchanges that are not with the reading callbacks. -/
def withoutReading (exchanges : List (Event V)) : List (Event V) :=
  exchanges.filter fun event => !event.ofReading

/-- The world as it is without its reading callbacks. -/
def World.withoutReading (world : World V) : World V :=
  { world with events := MarpaWrapper.withoutReading world.events }

/-- Two worlds that are the same but for the reading. -/
def ReadingAside (world hand : World V) : Prop := hand = world.withoutReading

theorem withoutReading_append (exchanges more : List (Event V)) :
    withoutReading (exchanges ++ more) = withoutReading exchanges ++ withoutReading more :=
  List.filter_append _ _

/-- What was read does not change the answer. -/
def IgnoresReading (answer : List (Event V) → α) : Prop :=
  ∀ exchanges, answer (withoutReading exchanges) = answer exchanges

/-- libmarpa does not know of the callbacks that read the input. -/
structure Libmarpa.Unaware (marpa : Libmarpa V) : Prop where
  highestSymbolIdFails : IgnoresReading marpa.highestSymbolIdFails
  eventCountFails : IgnoresReading marpa.eventCountFails
  eventFails : ∀ index, IgnoresReading (marpa.eventFails · index)
  recognizerNew : IgnoresReading marpa.recognizerNew
  startInput : IgnoresReading marpa.startInput
  alternative : ∀ symbolId value length,
    IgnoresReading (marpa.alternative · symbolId value length)
  earlemeComplete : IgnoresReading marpa.earlemeComplete
  terminalsExpected : IgnoresReading marpa.terminalsExpected
  latestEarleySet : IgnoresReading marpa.latestEarleySet
  earleme : ∀ set, IgnoresReading (marpa.earleme · set)
  progressReportStart : ∀ set, IgnoresReading (marpa.progressReportStart · set)
  progressItem : IgnoresReading marpa.progressItem
  progressReportFinish : IgnoresReading marpa.progressReportFinish

/-- The allocator does not know of them either. -/
def Libc.Unaware (libc : Libc V) : Prop := ∀ size, IgnoresReading (libc.grants · size)

/-! ### Exchanges -/

section Exchanges

variable {world : World V}

theorem withoutReading_cons {event : Event V} (other : event.ofReading = false) :
    withoutReading [event] = [event] := by
  unfold withoutReading
  rw [List.filter_cons_of_pos (by rw [other]; rfl), List.filter_nil]

/-- One more exchange, which is not with the reading callbacks. -/
theorem ReadingAside.exchange {next next' : World V} {event : Event V}
    (other : event.ofReading = false) (added : next.events = world.events ++ [event])
    (added' : next'.events = world.withoutReading.events ++ [event])
    (address : next'.nextAddress = next.nextAddress) (grammar : next'.grammar = next.grammar) :
    ReadingAside next next' := by
  obtain ⟨events, nextAddress, _⟩ := next
  obtain ⟨events', _, _⟩ := next'
  obtain rfl : events = world.events ++ [event] := added
  obtain rfl : events' = world.withoutReading.events ++ [event] := added'
  obtain rfl := address
  obtain rfl := grammar
  unfold ReadingAside World.withoutReading
  rw [withoutReading_append, withoutReading_cons other]

theorem emit_oblivious {event : Event V} (other : event.ofReading = false) :
    Oblivious ReadingAside (emit event) := by
  rintro world _ rfl
  exact .ok (ReadingAside.exchange other rfl rfl rfl rfl) rfl

/-- A question whose answer ignores the reading is answered in the same way. -/
theorem ask_oblivious {answer : List (Event V) → α} (ignores : IgnoresReading answer)
    {event : α → Event V} (other : ∀ answer, (event answer).ofReading = false) :
    Oblivious ReadingAside (ask answer event) := by
  rintro world _ rfl
  have answers : answer world.withoutReading.events = answer world.events := ignores _
  unfold ask
  rw [answers]
  exact .ok (ReadingAside.exchange (other _) rfl rfl rfl rfl) rfl

/-- So is a request. -/
theorem acquire_oblivious {granted : List (Event V) → Bool} (ignores : IgnoresReading granted)
    {event : Option Nat → Event V} (other : ∀ address, (event address).ofReading = false) :
    Oblivious ReadingAside (acquire granted event) := by
  rintro world _ rfl
  have answers : granted world.withoutReading.events = granted world.events := ignores _
  cases grant : granted world.events with
  | true =>
    rw [run_acquire_granted grant, run_acquire_granted (answers.trans grant)]
    exact .ok (ReadingAside.exchange (other _) rfl rfl rfl rfl) rfl
  | false =>
    rw [run_acquire_refused grant, run_acquire_refused (answers.trans grant)]
    exact .ok (ReadingAside.exchange (other _) rfl rfl rfl rfl) rfl

variable {libc : Libc V} {marpa : Libmarpa V}

theorem malloc_oblivious (unaware : libc.Unaware) (size : Nat) :
    Oblivious ReadingAside (malloc libc size) :=
  acquire_oblivious (unaware size) fun _ => rfl

theorem realloc_oblivious (unaware : libc.Unaware) (size : Nat) :
    Oblivious ReadingAside (realloc libc size) :=
  acquire_oblivious (unaware size) fun _ => rfl

/-- The queue of events is refilled in the same way. -/
theorem reportingCall_oblivious {answered : List (Event V) → Int × List (Nat × Int)}
    (ignores : IgnoresReading answered) {event : Int → Event V}
    (other : ∀ answer, (event answer).ofReading = false) :
    Oblivious ReadingAside (reportingCall answered event) := by
  rintro world _ rfl
  have answers : answered world.withoutReading.events = answered world.events := ignores _
  unfold reportingCall
  rw [answers]
  exact .ok (ReadingAside.exchange (other _) rfl rfl rfl rfl) rfl

theorem marpaGHighestSymbolId_oblivious (unaware : marpa.Unaware) :
    Oblivious ReadingAside (marpaGHighestSymbolId marpa) := by
  rintro world _ rfl
  have fails : marpa.highestSymbolIdFails world.withoutReading.events =
      marpa.highestSymbolIdFails world.events := unaware.highestSymbolIdFails _
  unfold marpaGHighestSymbolId
  rw [fails]
  exact .ok (ReadingAside.exchange rfl rfl rfl rfl rfl) rfl

theorem marpaGEventCount_oblivious (unaware : marpa.Unaware) :
    Oblivious ReadingAside (marpaGEventCount marpa) := by
  rintro world _ rfl
  have fails : marpa.eventCountFails world.withoutReading.events =
      marpa.eventCountFails world.events := unaware.eventCountFails _
  unfold marpaGEventCount
  rw [fails]
  exact .ok (ReadingAside.exchange rfl rfl rfl rfl rfl) rfl

theorem marpaGEvent_oblivious (unaware : marpa.Unaware) (index : Nat) :
    Oblivious ReadingAside (marpaGEvent marpa index) := by
  rintro world _ rfl
  have fails : marpa.eventFails world.withoutReading.events index =
      marpa.eventFails world.events index := unaware.eventFails index _
  unfold marpaGEvent
  rw [fails]
  exact .ok (ReadingAside.exchange rfl rfl rfl rfl rfl) rfl

theorem freeIfNotNull_oblivious (address : Option Nat) :
    Oblivious (ReadingAside (V := V)) (freeIfNotNull address) := by
  cases address with
  | none => exact .pure _
  | some address => exact emit_oblivious rfl

theorem readCell_oblivious (cells : List (Slot α)) (index : Nat) :
    Oblivious (ReadingAside (V := V)) (readCell cells index) :=
  readCell_same cells index

theorem writeCell_oblivious (cells : List (Slot α)) (index : Nat) (content : Slot α) :
    Oblivious (ReadingAside (V := V)) (writeCell cells index content) :=
  writeCell_same cells index content

theorem useBlock_oblivious (block : Block α) :
    Oblivious (ReadingAside (V := V)) (useBlock block) :=
  .ite (.throw _) (.pure _)

theorem readArray_oblivious (table : Option (Block α)) (index : Int) :
    Oblivious (ReadingAside (V := V)) (readArray table index) := by
  cases table with
  | none => exact .throw _
  | some block =>
    exact (useBlock_oblivious block).bind fun _ => .ite (.throw _) (readCell_oblivious _ _)

theorem readObject_oblivious (table : Option (Block α)) (index : Nat) :
    Oblivious (ReadingAside (V := V)) (readObject table index) := by
  cases table with
  | none => exact .throw _
  | some block => exact readCell_oblivious _ _

theorem readPointer_oblivious (table : Option (Block α)) (index : Int) :
    Oblivious (ReadingAside (V := V)) (readPointer table index) :=
  (readArray_oblivious table index).bind fun _ => .pure _

/-! ### Buffers -/

theorem reallocBlock_oblivious (unaware : libc.Unaware) (pp : Option (Block α)) (size : Nat) :
    Oblivious ReadingAside (reallocBlock libc pp size) := by
  cases pp with
  | none => exact realloc_oblivious unaware size
  | some block => exact (useBlock_oblivious block).bind fun _ => realloc_oblivious unaware size

/-- A buffer grows in both worlds, or in none. -/
theorem growTurn_oblivious (unaware : libc.Unaware) (modulus wanted elementSizei : Nat)
    (growth : Growth α) : Oblivious ReadingAside (growTurn libc modulus wanted elementSizei growth) :=
  .ite (.ite ((malloc_oblivious unaware _).bind fun _ => .pure _)
    (.ite (.pure _) ((reallocBlock_oblivious unaware _ _).bind fun _ => .pure _))) (.pure _)

theorem prefill_oblivious (fuel : Nat) (build : Build) (modulus : Nat) (cells : List (Slot α))
    (origSizei sizei elementSizei : Nat) :
    Oblivious (ReadingAside (V := V))
      (prefill fuel build modulus cells origSizei sizei elementSizei) :=
  .ite (.ite (.pure _) (.throw _)) (.loop (fun _ =>
    .ite (.ite (.throw _) ((writeCell_oblivious _ _ _).bind fun _ => .pure _)) (.pure _)) _ _)

/-- `manageBuf_createp` makes the same table. -/
theorem manageBufCreatep_oblivious (unaware : libc.Unaware) (fuel : Nat) (build : Build)
    (modulus : Nat) (ppp : Option (Block α)) (sizeip wanted elementSizei : Nat) :
    Oblivious ReadingAside (manageBufCreatep libc fuel build modulus ppp sizeip wanted elementSizei) := by
  refine (Oblivious.loop (fun _ => growTurn_oblivious unaware _ _ _ _) _ _).bind fun growth => ?_
  cases growth with
  | error growth => exact .pure _
  | ok growth => exact (prefill_oblivious _ _ _ _ _ _ _).bind fun _ => .pure _

/-- `manageBuf_freev` releases the same objects in the same order. -/
theorem manageBufFreev_oblivious (addressOf : α → Nat) (ppp : Option (Block α)) (used : Nat) :
    Oblivious (ReadingAside (V := V)) (manageBufFreev addressOf ppp used) := by
  cases ppp with
  | none => exact .pure _
  | some block =>
    have turn (index : Nat) (cells : List (Slot α)) :
        Oblivious (ReadingAside (V := V)) (freeTurn addressOf index cells) := by
      refine (readCell_oblivious cells index).bind fun object => ?_
      cases object with
      | none => exact .pure _
      | some object =>
        exact (emit_oblivious rfl).bind fun _ => (writeCell_oblivious _ _ _).bind fun _ => .pure _
    exact (useBlock_oblivious block).bind fun _ =>
      (Oblivious.forEach turn _).bind fun _ => emit_oblivious rfl

end Exchanges

end MarpaWrapper
