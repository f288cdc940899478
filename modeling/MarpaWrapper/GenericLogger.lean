/-
This file is the model of the default log sink of `src/genericLogger.c` on a POSIX
system, and about what it writes. It formats a line and hands it to `write`, again and
again, from where the last call left off. How far that is, the sink counts in an
`ssize_t` that the answer of every call is added to, the `-1` of a failed one too, and
that is compared with a `size_t`.

A failed call stops the loop only as long as nothing was accepted: the counter is
negative then, which is a large `size_t`. Behind an accepted byte a failure takes one
byte back, and the loop writes it a second time.

`write` is any sequence of answers: the call fails, or it accepts so many bytes at most.
-/

import MarpaWrapper.World

namespace MarpaWrapper

open Effects

/-! ### The line -/

/-- The bytes of a text. -/
def textBytes (text : String) : List UInt8 := text.toList.map fun char => UInt8.ofNat char.toNat

/-- `genericLoggerLevel_t`. -/
inductive GenericLoggerLevel where
  | trace
  | debug
  | info
  | notice
  | warning
  | error
  | critical
  | alert
  | emergency
  | unknown (value : Int)

/-- The prefix of a level. -/
def prefixs : GenericLoggerLevel → String
  | .trace => "TRACE"
  | .debug => "DEBUG"
  | .info => "INFO"
  | .notice => "NOTICE"
  | .warning => "WARNING"
  | .error => "ERROR"
  | .critical => "CRITICAL"
  | .alert => "ALERT"
  | .emergency => "EMERGENCY"
  | .unknown _ => "UNKOWN"

/-- `GENERICLOGGER_LOG_NO_MESSAGE`. -/
def genericLoggerLogNoMessage : List UInt8 := textBytes "No message"

/-- `%9s`. -/
def padded (text : List UInt8) : List UInt8 := List.replicate (9 - text.length) 32 ++ text

/-- The line that is asked for: `"%s %9s %s\n"`. -/
def formattedLine (dates : List UInt8) (logLeveli : GenericLoggerLevel)
    (msgs : Option (List UInt8)) : List UInt8 :=
  dates ++ [32] ++ padded (textBytes (prefixs logLeveli)) ++ [32] ++
    msgs.getD genericLoggerLogNoMessage ++ [10]

/-! ### Writing -/

/-- A call of `write`: the bytes that were handed over, and the answer. -/
structure WriteCall where
  bytes : List UInt8
  answer : Int
  deriving DecidableEq

/-- The calls so far, of one call of the sink. -/
abbrev Writing : Type → Type := EStateM Fault (List WriteCall)

/-- The bytes that were accepted, in order. -/
def accepted (calls : List WriteCall) : List UInt8 :=
  calls.flatMap fun call => call.bytes.take call.answer.toNat

section Sink

variable (answers : Nat → Option Nat) (fuel : Nat)

/-- `write(filenoStderr, bytes)`. -/
def write (bytes : List UInt8) : Writing Int := fun calls =>
  let answer : Int := match answers calls.length with
    | none => -1
    | some most => (min most bytes.length : Nat)
  .ok answer (calls ++ [⟨bytes, answer⟩])

/-- One turn of `while (bytesWriten < count)`: a `ssize_t` is compared with a `size_t`. -/
def writeTurn (localMsgs : List UInt8) (bytesWriten : Int) : Writing (Turn Int Unit) :=
  if (bytesWriten % sizeModulus).toNat < localMsgs.length then
    if bytesWriten < 0 then throw .outOfBounds
    else do
      let answer ← write answers (localMsgs.drop bytesWriten.toNat)
      pure (.next (bytesWriten + answer))
  else pure (.done ())

/-- `_genericLogger_defaultCallback`: `dates` is the date that `dateBuilder` made, and
`messageBuilder` makes the text that it is asked for, or another one when it fails. -/
def genericLoggerDefaultCallback (dates : List UInt8) (messageBuilder : List UInt8 → List UInt8)
    (logLeveli : GenericLoggerLevel) (msgs : Option (List UInt8)) : Writing Unit :=
  loop .exhausted (writeTurn answers (messageBuilder (formattedLine dates logLeveli msgs))) fuel 0

end Sink

/-! ### What should be written -/

/-- The calls that a call of the sink has made, with so much fuel. -/
def callsOf (sink : Nat → Writing Unit) (fuel : Nat) : List WriteCall := finalState (sink fuel [])

/-- The line is written exactly: what was accepted is always the beginning of it, nothing is
handed over after a failed call and the sink ends then, and when it ends without one the whole
line was accepted. -/
structure WritesExactly (sink : Nat → Writing Unit) (line : List UInt8) : Prop where
  inOrder : ∀ fuel, accepted (callsOf sink fuel) <+: line
  stops : ∀ fuel before call after, callsOf sink fuel = before ++ call :: after →
    call.answer = -1 → after = [] ∧ ∃ enough, ∀ more, enough ≤ more →
      sink more [] = .ok () (before ++ [call])
  complete : ∀ fuel calls, sink fuel [] = .ok () calls → (∀ call ∈ calls, call.answer ≠ -1) →
    accepted calls = line

/-- How many bytes the calls before this one accept at most. -/
def acceptedBefore (answers : Nat → Option Nat) (count : Nat) : Nat :=
  ((List.range count).map fun index => (answers index).getD 0).sum

/-- The first call that fails comes before any byte was accepted, or it does not come because all
of them were. -/
def FailsFirst (answers : Nat → Option Nat) (length : Nat) : Prop :=
  ∀ first, answers first = none → (∀ index < first, answers index ≠ none) →
    acceptedBefore answers first = 0 ∨ length ≤ acceptedBefore answers first

section Writing

variable {answers : Nat → Option Nat} {line : List UInt8} {written : Nat} {calls : List WriteCall}

/-! ### One turn -/

/-- A line that is no larger than half of the address space. -/
theorem writeTurn_goes (few : line.length < 2 ^ 63) (below : written < line.length) :
    writeTurn answers line written calls = (do
      let answer ← write answers (line.drop written)
      pure (.next (written + answer)) : Writing (Turn Int Unit)) calls := by
  have counter : ((written : Int) % sizeModulus).toNat = written := by
    unfold sizeModulus
    omega
  rw [writeTurn, if_pos (by rwa [counter]), if_neg (by omega), Int.toNat_natCast]

theorem writeTurn_fails (few : line.length < 2 ^ 63) (below : written < line.length)
    (fails : answers calls.length = none) :
    writeTurn answers line written calls =
      .ok (.next (written - 1)) (calls ++ [⟨line.drop written, -1⟩]) := by
  rw [writeTurn_goes few below]
  have call : write answers (line.drop written) calls =
      .ok (-1) (calls ++ [⟨line.drop written, -1⟩]) := by
    rw [write, fails]
  rw [run_bind_ok call]
  rfl

theorem writeTurn_accepts (few : line.length < 2 ^ 63) (below : written < line.length) {most : Nat}
    (accepts : answers calls.length = some most) :
    writeTurn answers line written calls =
      .ok (.next ((written + min most (line.length - written) : Nat) : Int))
        (calls ++ [⟨line.drop written, (min most (line.length - written) : Nat)⟩]) := by
  rw [writeTurn_goes few below]
  have call : write answers (line.drop written) calls =
      .ok ((min most (line.length - written) : Nat) : Int)
        (calls ++ [⟨line.drop written, (min most (line.length - written) : Nat)⟩]) := by
    rw [write, accepts, List.length_drop]
  rw [run_bind_ok call]
  rfl

/-- While bytes are left there is another call. -/
theorem writeTurn_calls (answers : Nat → Option Nat) (few : line.length < 2 ^ 63)
    (below : written < line.length) (calls : List WriteCall) :
    ∃ following call, writeTurn answers line written calls =
      .ok (.next following) (calls ++ [call]) := by
  cases answer : answers calls.length with
  | none => exact ⟨_, _, writeTurn_fails few below answer⟩
  | some most => exact ⟨_, _, writeTurn_accepts few below answer⟩

theorem writeTurn_ends (few : line.length < 2 ^ 63) {counter : Int}
    (ends : counter = -1 ∨ counter = line.length) :
    writeTurn answers line counter calls = .ok (.done ()) calls := by
  have stops : ¬ (counter % sizeModulus).toNat < line.length := by
    unfold sizeModulus
    omega
  rw [writeTurn, if_neg stops]
  rfl

/-! ### The calls -/

theorem acceptedBefore_succ (answers : Nat → Option Nat) (count : Nat) :
    acceptedBefore answers (count + 1) =
      acceptedBefore answers count + (answers count).getD 0 := by
  unfold acceptedBefore
  rw [List.range_succ, List.map_append, List.sum_append]
  simp only [List.map_cons, List.map_nil, List.sum_cons, List.sum_nil, Nat.add_zero]

theorem accepted_append (before after : List WriteCall) :
    accepted (before ++ after) = accepted before ++ accepted after :=
  List.flatMap_append

theorem accepted_singleton (call : WriteCall) :
    accepted [call] = call.bytes.take call.answer.toNat :=
  List.flatMap_singleton _ call

/-- No call failed so far, and what was accepted is the beginning of the line. -/
structure Unbroken (answers : Nat → Option Nat) (line : List UInt8) (written : Nat)
    (calls : List WriteCall) : Prop where
  counter : written = min (acceptedBefore answers calls.length) line.length
  answered : ∀ index < calls.length, answers index ≠ none
  succeeded : ∀ call ∈ calls, call.answer ≠ -1
  text : accepted calls = line.take written

theorem Unbroken.start (answers : Nat → Option Nat) (line : List UInt8) :
    Unbroken answers line 0 [] :=
  ⟨(Nat.zero_min _).symm, fun _ below => absurd below (Nat.not_lt_zero _),
    fun _ absent => absurd absent List.not_mem_nil, rfl⟩

/-- Another call that accepts. -/
theorem Unbroken.next (unbroken : Unbroken answers line written calls)
    (below : written < line.length) {most : Nat} (accepts : answers calls.length = some most) :
    Unbroken answers line (written + min most (line.length - written))
      (calls ++ [⟨line.drop written, (min most (line.length - written) : Nat)⟩]) := by
  have counter := unbroken.counter
  have length : (calls ++ [(⟨line.drop written, (min most (line.length - written) : Nat)⟩ :
      WriteCall)]).length = calls.length + 1 := List.length_append
  refine ⟨?_, fun index less => ?_, fun call member => ?_, ?_⟩
  · rw [length, acceptedBefore_succ, accepts, Option.getD_some]
    omega
  · rw [length] at less
    by_cases last : index = calls.length
    · rw [last, accepts]
      exact Option.some_ne_none most
    · exact unbroken.answered index (by omega)
  · rcases List.mem_append.mp member with old | new
    · exact unbroken.succeeded call old
    · rw [List.mem_singleton.mp new]
      show ((min most (line.length - written) : Nat) : Int) ≠ -1
      omega
  · rw [accepted_append, accepted_singleton, unbroken.text, Int.toNat_natCast]
    exact (List.take_add).symm

/-- What the calls are in every frame of the loop, when a failure comes first or not at all. -/
inductive Written (answers : Nat → Option Nat) (line : List UInt8) : Int → List WriteCall → Prop
  | unbroken {written : Nat} {calls : List WriteCall}
    (unbroken : Unbroken answers line written calls) : Written answers line written calls
  | failed {before : List WriteCall} {bytes : List UInt8}
    (succeeded : ∀ call ∈ before, call.answer ≠ -1) (nothing : accepted before = []) :
    Written answers line (-1) (before ++ [⟨bytes, -1⟩])

theorem Unbroken.most (unbroken : Unbroken answers line written calls) :
    written ≤ line.length := by
  rw [unbroken.counter]
  exact Nat.min_le_right _ _

/-- A turn that goes on. -/
theorem Written.turn (few : line.length < 2 ^ 63) (fails : FailsFirst answers line.length)
    {counter following : Int} {calls' : List WriteCall}
    (holds : Written answers line counter calls)
    (turn : writeTurn answers line counter calls = .ok (.next following) calls') :
    Written answers line following calls' := by
  cases holds with
  | failed succeeded nothing =>
    rw [writeTurn_ends few (.inl rfl)] at turn
    cases turn
  | @unbroken written _ unbroken =>
    by_cases below : written < line.length
    · cases answer : answers calls.length with
      | none =>
        rw [writeTurn_fails few below answer] at turn
        cases turn
        have counter := unbroken.counter
        have none : written = 0 := by
          rcases fails _ answer unbroken.answered with before | all <;> omega
        subst none
        exact .failed unbroken.succeeded unbroken.text
      | some most =>
        rw [writeTurn_accepts few below answer] at turn
        cases turn
        exact .unbroken (unbroken.next below answer)
    · have all : written = line.length := Nat.le_antisymm unbroken.most (Nat.le_of_not_lt below)
      rw [writeTurn_ends few (.inr (by rw [all]))] at turn
      cases turn

theorem Written.of_visits (few : line.length < 2 ^ 63) (fails : FailsFirst answers line.length)
    {counter : Int}
    (visited : Visits (writeTurn answers line) 0 [] counter calls) :
    Written answers line counter calls := by
  induction visited with
  | start => exact .unbroken (.start answers line)
  | turn _ turned inductionHypothesis => exact inductionHypothesis.turn few fails turned

/-! ### Exactly the line -/

/-- The frame and the calls that so much fuel leads to. -/
theorem writeLoop_reaches (few : line.length < 2 ^ 63) (fails : FailsFirst answers line.length)
    (fuel : Nat) :
    ∃ turns counter calls, Written answers line counter calls ∧
      LeadsIn .exhausted (writeTurn answers line) turns 0 [] counter calls ∧
      finalState (loop .exhausted (writeTurn answers line) fuel 0 []) = calls ∧
      ∀ final, loop .exhausted (writeTurn answers line) fuel 0 [] = .ok () final →
        counter = -1 ∨ counter = line.length := by
  rcases loop_stages .exhausted (writeTurn answers line) 0 [] fuel with
    ⟨counter, calls, visited, leads⟩ | ⟨turns, counter, calls, fewer, visited, leads, ends⟩
  · have run : loop .exhausted (writeTurn answers line) fuel 0 [] = .error .exhausted calls :=
      leads 0
    refine ⟨fuel, counter, calls, .of_visits few fails visited, leads, by rw [run]; rfl,
      fun final returned => ?_⟩
    rw [run] at returned
    cases returned
  · have holds := Written.of_visits few fails visited
    have last : counter = -1 ∨ counter = line.length := by
      cases holds with
      | failed => exact .inl rfl
      | @unbroken written _ unbroken =>
        refine .inr (congrArg _ (Nat.le_antisymm unbroken.most (Nat.le_of_not_lt fun below => ?_)))
        obtain ⟨_, _, turn⟩ := writeTurn_calls answers few below calls
        exact ends _ _ turn
    exact ⟨turns, counter, calls, holds, leads,
      by rw [leads.returns (writeTurn_ends few last) fewer]; rfl, fun _ _ => last⟩

theorem Written.inOrder {counter : Int} (holds : Written answers line counter calls) :
    accepted calls <+: line := by
  cases holds with
  | unbroken unbroken => rw [unbroken.text]; exact List.take_prefix _ _
  | failed _ nothing =>
    rw [accepted_append, nothing, accepted_singleton]
    exact List.nil_prefix

/-- A failed call is the last one. -/
theorem Written.last {counter : Int} (holds : Written answers line counter calls)
    {before after : List WriteCall} {call : WriteCall} (same : calls = before ++ call :: after)
    (failed : call.answer = -1) : counter = -1 ∧ after = [] := by
  cases holds with
  | unbroken unbroken =>
    exact absurd failed (unbroken.succeeded call (by rw [same]; simp))
  | @failed others bytes succeeded _ =>
    refine ⟨rfl, ?_⟩
    rcases List.eq_nil_or_concat after with none | ⟨rest, other, rfl⟩
    · exact none
    · rw [List.concat_eq_append, ← List.cons_append, ← List.append_assoc] at same
      have earlier : others = before ++ call :: rest := (List.append_inj' same rfl).1
      exact absurd failed (succeeded call (by rw [earlier]; simp))

/-- Without a failed call the loop ends with the whole line. -/
theorem Written.complete {counter : Int} (holds : Written answers line counter calls)
    (ended : counter = -1 ∨ counter = line.length)
    (succeeded : ∀ call ∈ calls, call.answer ≠ -1) : accepted calls = line := by
  cases holds with
  | @unbroken written _ unbroken =>
    have all : written = line.length := by omega
    rw [unbroken.text, all, List.take_length]
  | @failed before bytes =>
    exact absurd rfl (succeeded ⟨bytes, -1⟩ (List.mem_append_right _ List.mem_cons_self))

/-- When a failure comes first, or not before the end, the line is written exactly. -/
theorem writesExactly_of (few : line.length < 2 ^ 63) (fails : FailsFirst answers line.length) :
    WritesExactly (fun fuel => loop .exhausted (writeTurn answers line) fuel 0) line := by
  refine ⟨fun fuel => ?_, fun fuel before call after same failed => ?_,
    fun fuel calls run succeeded => ?_⟩
  · obtain ⟨_, _, calls, holds, -, final, -⟩ := writeLoop_reaches few fails fuel
    rw [callsOf, final]
    exact holds.inOrder
  · obtain ⟨turns, counter, calls, holds, leads, final, -⟩ := writeLoop_reaches few fails fuel
    rw [callsOf, final] at same
    obtain ⟨negative, rfl⟩ := holds.last same failed
    refine ⟨rfl, turns + 1, fun more enough => ?_⟩
    rw [← same]
    exact leads.returns (writeTurn_ends few (.inl negative)) enough
  · obtain ⟨_, _, between, holds, -, final, ended⟩ := writeLoop_reaches few fails fuel
    have same : calls = between := by
      rw [← final, run]
      rfl
    rw [same] at succeeded ⊢
    exact holds.complete (ended calls run) succeeded

/-! ### A failure behind an accepted byte -/

/-- Until then the loop goes on from where it left off. -/
theorem writeLoop_leads (few : line.length < 2 ^ 63) {count : Nat}
    (answered : ∀ index < count, answers index ≠ none)
    (below : acceptedBefore answers count < line.length) :
    ∃ calls, calls.length = count ∧
      Unbroken answers line (acceptedBefore answers count) calls ∧
      LeadsIn .exhausted (writeTurn answers line) count 0 [] (acceptedBefore answers count)
        calls := by
  induction count with
  | zero => exact ⟨[], rfl, .start answers line, .refl _ _⟩
  | succ count inductionHypothesis =>
    obtain ⟨most, accepts⟩ := Option.ne_none_iff_exists'.mp (answered count (Nat.lt_succ_self count))
    have sum := acceptedBefore_succ answers count
    rw [accepts, Option.getD_some] at sum
    obtain ⟨calls, rfl, unbroken, leads⟩ := inductionHypothesis
      (fun index less => answered index (by omega)) (by omega)
    have here : acceptedBefore answers calls.length < line.length := by omega
    have all : min most (line.length - acceptedBefore answers calls.length) = most := by omega
    have next := unbroken.next here accepts
    have turn := writeTurn_accepts few here accepts
    rw [all, ← sum] at next turn
    exact ⟨_, List.length_append, next, leads.trans (.single turn)⟩

/-- A failure between the first byte and the last one does not stop the loop. -/
theorem failsFirst_of (few : line.length < 2 ^ 63)
    (exact : WritesExactly (fun fuel => loop .exhausted (writeTurn answers line) fuel 0) line) :
    FailsFirst answers line.length := by
  intro first fails answered
  by_contra between
  rw [not_or, Nat.not_le] at between
  obtain ⟨some', below⟩ := between
  obtain ⟨calls, rfl, -, leads⟩ := writeLoop_leads few answered below
  -- The failed call takes one byte back, and another call follows.
  have failed := writeTurn_fails few below fails
  have back : ((acceptedBefore answers calls.length : Nat) : Int) - 1 =
      ((acceptedBefore answers calls.length - 1 : Nat) : Int) := by omega
  rw [back] at failed
  obtain ⟨following, call, again⟩ := writeTurn_calls answers few
    (show acceptedBefore answers calls.length - 1 < line.length by omega)
    (calls ++ [⟨line.drop (acceptedBefore answers calls.length), -1⟩])
  have reached := (leads.trans (.single failed)).trans (.single again)
  have run : loop .exhausted (writeTurn answers line) (calls.length + 1 + 1) 0 [] =
      .error .exhausted
        (calls ++ [⟨line.drop (acceptedBefore answers calls.length), -1⟩] ++ [call]) := reached 0
  have stops := exact.stops (calls.length + 1 + 1) calls
    ⟨line.drop (acceptedBefore answers calls.length), -1⟩ [call]
    (by rw [callsOf, run]; simp [finalState]) rfl
  cases stops.1

end Writing

/-- The default sink writes its line exactly if and only if `write` does not fail between the first
byte of it and the last one. -/
theorem genericLoggerDefaultCallback_writesExactly_iff (answers : Nat → Option Nat)
    (dates : List UInt8) (messageBuilder : List UInt8 → List UInt8)
    (logLeveli : GenericLoggerLevel) (msgs : Option (List UInt8))
    (few : (messageBuilder (formattedLine dates logLeveli msgs)).length < 2 ^ 63) :
    WritesExactly (fun fuel =>
        genericLoggerDefaultCallback answers fuel dates messageBuilder logLeveli msgs)
        (messageBuilder (formattedLine dates logLeveli msgs)) ↔
      FailsFirst answers (messageBuilder (formattedLine dates logLeveli msgs)).length :=
  ⟨failsFirst_of few, writesExactly_of few⟩

/-! ### An interrupted write -/

/-- `write` accepts one byte, is interrupted, and accepts everything then. -/
def interrupted : Nat → Option Nat
  | 0 => some 1
  | 1 => none
  | _ => some 100

/-- Six short writes, of seven bytes at most, reach the end of the line. -/
theorem genericLoggerDefaultCallback_writesExactly_short :
    WritesExactly (fun fuel => genericLoggerDefaultCallback (fun _ => some 7) fuel
        (textBytes "01/01/2020 00:00:00") id .info (some (textBytes "ready")))
        (formattedLine (textBytes "01/01/2020 00:00:00") .info (some (textBytes "ready"))) ∧
      (finalState (genericLoggerDefaultCallback (fun _ => some 7) 10
        (textBytes "01/01/2020 00:00:00") id .info (some (textBytes "ready")) [])).length = 6 :=
  ⟨(genericLoggerDefaultCallback_writesExactly_iff (fun _ => some 7) _ id .info _ (by decide)).mpr
      fun _ fails => (by cases fails),
    by decide⟩

/-- The first byte is written twice. -/
theorem genericLoggerDefaultCallback_repeats :
    ¬ WritesExactly (fun fuel => genericLoggerDefaultCallback interrupted fuel
        (textBytes "01/01/2020 00:00:00") id .info (some (textBytes "ready")))
        (formattedLine (textBytes "01/01/2020 00:00:00") .info (some (textBytes "ready"))) := by
  intro exact
  have inOrder := exact.inOrder 3
  revert inOrder
  decide

end MarpaWrapper
