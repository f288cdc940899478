/-
This file is the model of `src/messageBuilder.c`, and about the messages it makes. It
formats into a buffer and tries again with a larger one until the message fits. There are
two dialects of the formatter. The one of UNIX says how long the message is, so that the
second buffer is large enough. The one of Windows only says that the message was too
long, and the buffer is doubled.

The message fits when its length is below the size, and under Windows the size is
converted to an `int` for that. No size of `2 ^ 31` or more survives the conversion, so a
message of `2 ^ 30` characters or more never fits: the loop goes on, also when the size has
become zero.
-/

import MarpaWrapper.World

namespace MarpaWrapper

open Effects

/-! ### Formatters -/

/-- What a buffer of `char` holds; nothing is known of a byte that was not written. -/
abbrev Buffer := List (Option UInt8)

/-- The buffer that `realloc` makes of one. -/
def Buffer.resized (p : Buffer) (size : Nat) : Buffer :=
  p.take size ++ List.replicate (size - p.length) none

/-- The formatter of a message, applied to a buffer of some size: what it answers, and what it
writes. -/
structure Formatter where
  answer : Nat → Int
  written : Nat → List UInt8

/-- `vsnprintf` of UNIX. -/
def vsnprintf (message : List UInt8) : Formatter where
  answer _ := message.length
  written size := if size = 0 then [] else message.take (size - 1) ++ [0]

/-- `_vsnprintf` of Windows. -/
def vsnprintfWindows (message : List UInt8) : Formatter where
  answer size := if size < message.length then -1 else message.length
  written size := message.take size ++ if message.length < size then [0] else []

/-- Whether `_WIN32` is defined. -/
inductive Dialect where
  | unix
  | windows
  deriving DecidableEq

/-- The formatter of a dialect. -/
def Dialect.formatter (message : List UInt8) : Dialect → Formatter
  | .unix => vsnprintf message
  | .windows => vsnprintfWindows message

/-! ### The function -/

/-- A call that `messageBuilder_ap` makes, with what came of it. -/
inductive BuilderCall where
  | malloc (size : Nat) (granted : Bool)
  | realloc (size : Nat) (granted : Bool)
  | free
  | format (size : Nat) (answer : Int)
  deriving DecidableEq

/-- The calls so far, of one call of the function. -/
abbrev Building : Type → Type := EStateM Fault (List BuilderCall)

/-- What is returned: the static text of an internal error, or a buffer. -/
inductive BuiltMessage where
  | internalErrors
  | allocated (p : Buffer)
  deriving DecidableEq

/-- The first guess of the size. -/
def messageBuilderSize : Nat := 4096

section Builder

variable (dialect : Dialect) (formatter : Formatter) (grants : List BuilderCall → Nat → Bool)
  (fuel : Nat)

/-- `malloc(size)`. -/
def allocateBuffer (size : Nat) : Building (Option Buffer) := fun calls =>
  let granted := grants calls size
  .ok (if granted then some (List.replicate size none) else none) (calls ++ [.malloc size granted])

/-- `realloc(p, size)`. -/
def enlargeBuffer (p : Buffer) (size : Nat) : Building (Option Buffer) := fun calls =>
  let granted := grants calls size
  .ok (if granted then some (p.resized size) else none) (calls ++ [.realloc size granted])

/-- `free(p)`. -/
def freeBuffer : Building Unit := fun calls => .ok () (calls ++ [.free])

/-- A call of the formatter. It stays inside the buffer or the program is wrong. -/
def formatInto (p : Buffer) (size : Nat) : Building (Int × Buffer) := fun calls =>
  let bytes := formatter.written size
  if bytes.length ≤ p.length then
    .ok (formatter.answer size, bytes.map some ++ p.drop bytes.length)
      (calls ++ [.format size (formatter.answer size)])
  else .error .outOfBounds calls

/-- The test for success: a `size_t` is compared with an `int` that is converted to it, or
converted to an `int` itself. -/
def Dialect.fits (n : Int) (size : Nat) : Dialect → Bool
  | .unix => decide (toSize n < size)
  | .windows => decide (0 ≤ n ∧ n < toInt size)

/-- The size of the next buffer. -/
def Dialect.nextSize (n : Int) (size : Nat) : Dialect → Nat
  | .unix => toSize (toInt (n + 1))
  | .windows => size * 2 % sizeModulus

/-- One turn of `while (1)`. -/
def builderTurn (frame : Nat × Buffer) : Building (Turn (Nat × Buffer) BuiltMessage) := do
  let (n, p) ← formatInto formatter frame.2 frame.1
  if dialect = .unix ∧ n < 0 then
    freeBuffer
    pure (.done .internalErrors)
  else if dialect.fits n frame.1 then pure (.done (.allocated p))
  else
    let size := dialect.nextSize n frame.1
    match ← enlargeBuffer grants p size with
    | none =>
      freeBuffer
      pure (.done .internalErrors)
    | some np => pure (.next (size, np))

/-- `messageBuilder_ap`. -/
def messageBuilderAp : Building BuiltMessage := do
  match ← allocateBuffer grants messageBuilderSize with
  | none => pure .internalErrors
  | some p => loop .exhausted (builderTurn dialect formatter grants) fuel (messageBuilderSize, p)

end Builder

/-! ### Messages that are not truncated -/

/-- The attempts to format among the calls. -/
def attempts (calls : List BuilderCall) : Nat :=
  calls.countP fun
    | .format .. => true
    | _ => false

/-- A buffer holds a message, and a NUL behind it. -/
def HoldsMessage (message : List UInt8) (p : Buffer) : Prop :=
  p.take (message.length + 1) = message.map some ++ [some 0]

/-- The function ends, whatever more fuel it has, with the message and a NUL behind it; under UNIX
after two attempts at most. -/
def BuildsMessage (dialect : Dialect) (grants : List BuilderCall → Nat → Bool)
    (message : List UInt8) : Prop :=
  ∃ p calls, HoldsMessage message p ∧ (dialect = .unix → attempts calls ≤ 2) ∧
    ∃ enough, ∀ fuel, enough ≤ fuel →
      messageBuilderAp dialect (dialect.formatter message) grants fuel [] =
        .ok (.allocated p) calls

section Builder

variable {dialect : Dialect} {grants : List BuilderCall → Nat → Bool} {message : List UInt8}
  {size : Nat} {p : Buffer} {calls : List BuilderCall}

/-! ### One attempt -/

/-- The buffer after an attempt. -/
def formatted (formatter : Formatter) (size : Nat) (p : Buffer) : Buffer :=
  (formatter.written size).map some ++ p.drop (formatter.written size).length

/-- A formatter writes at most so many bytes as it was told. -/
theorem formatter_within (dialect : Dialect) (message : List UInt8) (size : Nat) :
    ((dialect.formatter message).written size).length ≤ size := by
  cases dialect with
  | unix =>
    show (if size = 0 then [] else message.take (size - 1) ++ [0]).length ≤ size
    by_cases none : size = 0
    · rw [if_pos none]
      exact Nat.zero_le _
    · rw [if_neg none, List.length_append, List.length_take, List.length_singleton]
      omega
  | windows =>
    show (message.take size ++ if message.length < size then [0] else []).length ≤ size
    by_cases shorter : message.length < size
    · rw [if_pos shorter, List.length_append, List.length_take, List.length_singleton]
      omega
    · rw [if_neg shorter, List.append_nil, List.length_take]
      exact Nat.min_le_left _ _

theorem formatInto_run (sized : p.length = size) (calls : List BuilderCall) :
    formatInto (dialect.formatter message) p size calls =
      .ok ((dialect.formatter message).answer size, formatted (dialect.formatter message) size p)
        (calls ++ [.format size ((dialect.formatter message).answer size)]) := by
  rw [formatInto, if_pos (by rw [sized]; exact formatter_within dialect message size)]
  rfl

/-- What fits is written whole, with its NUL. -/
theorem formatted_holds (dialect : Dialect) (p : Buffer) (fits : message.length < size) :
    HoldsMessage message (formatted (dialect.formatter message) size p) := by
  have whole : (dialect.formatter message).written size = message ++ [0] := by
    cases dialect with
    | unix =>
      show (if size = 0 then [] else message.take (size - 1) ++ [0]) = message ++ [0]
      rw [if_neg (Nat.ne_zero_of_lt fits), List.take_of_length_le (Nat.le_sub_one_of_lt fits)]
    | windows =>
      show (message.take size ++ if message.length < size then [0] else []) = message ++ [0]
      rw [if_pos fits, List.take_of_length_le (Nat.le_of_lt fits)]
  unfold HoldsMessage formatted
  rw [whole, List.map_append, List.map_singleton]
  exact List.take_left' (by simp)

/-! ### One turn -/

theorem builderTurn_fits (sized : p.length = size)
    (succeeds : 0 ≤ (dialect.formatter message).answer size)
    (fits : dialect.fits ((dialect.formatter message).answer size) size = true)
    (calls : List BuilderCall) :
    builderTurn dialect (dialect.formatter message) grants (size, p) calls =
      .ok (.done (.allocated (formatted (dialect.formatter message) size p)))
        (calls ++ [.format size ((dialect.formatter message).answer size)]) := by
  rw [builderTurn, run_bind_ok (formatInto_run sized calls)]
  dsimp only
  rw [if_neg fun failed => absurd failed.2 (Int.not_lt.mpr succeeds), if_pos fits]
  rfl

theorem resized_length (p : Buffer) (size : Nat) : (p.resized size).length = size := by
  rw [Buffer.resized, List.length_append, List.length_take, List.length_replicate]
  omega

/-- A message that does not fit gets a buffer of the next size. -/
theorem builderTurn_grows (generous : ∀ calls size, grants calls size = true)
    (sized : p.length = size)
    (succeeds : dialect = .unix → 0 ≤ (dialect.formatter message).answer size)
    (large : dialect.fits ((dialect.formatter message).answer size) size = false)
    {size' : Nat}
    (next : dialect.nextSize ((dialect.formatter message).answer size) size = size')
    (calls : List BuilderCall) :
    builderTurn dialect (dialect.formatter message) grants (size, p) calls =
      .ok (.next (size', (formatted (dialect.formatter message) size p).resized size'))
        (calls ++ [.format size ((dialect.formatter message).answer size)] ++
          [.realloc size' true]) := by
  have enlarged (q : Buffer) (calls : List BuilderCall) : enlargeBuffer grants q size' calls =
      .ok (some (q.resized size')) (calls ++ [.realloc size' true]) := by
    rw [enlargeBuffer, generous]
    rfl
  rw [builderTurn, run_bind_ok (formatInto_run sized calls)]
  dsimp only
  rw [if_neg fun failed => absurd failed.2 (Int.not_lt.mpr (succeeds failed.1)),
    if_neg (by rw [large]; exact Bool.false_ne_true), next, run_bind_ok (enlarged _ _)]
  rfl

/-- From a buffer the loop ends with the message, after so many attempts at most. -/
def EndsWith (dialect : Dialect) (grants : List BuilderCall → Nat → Bool) (message : List UInt8)
    (most size : Nat) : Prop :=
  ∀ p calls, p.length = size → ∃ q calls', HoldsMessage message q ∧
    attempts calls' ≤ attempts calls + most ∧ ∃ enough, ∀ fuel, enough ≤ fuel →
      loop .exhausted (builderTurn dialect (dialect.formatter message) grants) fuel (size, p) calls =
        .ok (.allocated q) calls'

theorem attempts_append (before after : List BuilderCall) :
    attempts (before ++ after) = attempts before + attempts after :=
  List.countP_append

theorem EndsWith.fits (shorter : message.length < size)
    (succeeds : 0 ≤ (dialect.formatter message).answer size)
    (fits : dialect.fits ((dialect.formatter message).answer size) size = true) :
    EndsWith dialect grants message 1 size := by
  intro p calls sized
  refine ⟨_, calls ++ [.format size ((dialect.formatter message).answer size)],
    formatted_holds dialect p shorter, ?_, 1, fun fuel enough => ?_⟩
  · rw [attempts_append]
    exact Nat.le_refl _
  · obtain ⟨fuel, rfl⟩ := Nat.exists_eq_add_of_le' enough
    exact loop_done (builderTurn_fits sized succeeds fits calls)

theorem EndsWith.grows (generous : ∀ calls size, grants calls size = true)
    (succeeds : dialect = .unix → 0 ≤ (dialect.formatter message).answer size)
    (large : dialect.fits ((dialect.formatter message).answer size) size = false)
    {size' most : Nat}
    (next : dialect.nextSize ((dialect.formatter message).answer size) size = size')
    (ends : EndsWith dialect grants message most size') :
    EndsWith dialect grants message (most + 1) size := by
  intro p calls sized
  obtain ⟨q, calls', holds, few, enough, run⟩ := ends
    ((formatted (dialect.formatter message) size p).resized size')
    (calls ++ [.format size ((dialect.formatter message).answer size)] ++ [.realloc size' true])
    (resized_length _ _)
  refine ⟨q, calls', holds, ?_, enough + 1, fun fuel more => ?_⟩
  · rw [attempts_append, attempts_append] at few
    refine Nat.le_trans few (Nat.le_of_eq ?_)
    show attempts calls + 1 + 0 + most = attempts calls + (most + 1)
    omega
  · obtain ⟨fuel, rfl⟩ := Nat.exists_eq_add_of_le' (Nat.le_trans (Nat.le_add_left 1 enough) more)
    rw [loop_next (builderTurn_grows generous sized succeeds large next calls)]
    exact run fuel (Nat.le_of_succ_le_succ more)

/-- The first buffer. -/
theorem messageBuilderAp_run (generous : ∀ calls size, grants calls size = true)
    (formatter : Formatter) (fuel : Nat) :
    messageBuilderAp dialect formatter grants fuel [] =
      loop .exhausted (builderTurn dialect formatter grants) fuel
        (messageBuilderSize, List.replicate messageBuilderSize none)
        [.malloc messageBuilderSize true] := by
  have allocated : allocateBuffer grants messageBuilderSize [] =
      .ok (some (List.replicate messageBuilderSize none)) [.malloc messageBuilderSize true] := by
    rw [allocateBuffer, generous]
    rfl
  rw [messageBuilderAp, run_bind_ok allocated]

theorem EndsWith.builds (generous : ∀ calls size, grants calls size = true) {most : Nat}
    (ends : EndsWith dialect grants message most messageBuilderSize)
    (few : dialect = .unix → most ≤ 2) : BuildsMessage dialect grants message := by
  obtain ⟨p, calls, holds, counted, enough, run⟩ := ends _ [.malloc messageBuilderSize true]
    List.length_replicate
  refine ⟨p, calls, holds, fun unix => ?_, enough, fun fuel more => ?_⟩
  · exact Nat.le_trans counted (Nat.le_trans (Nat.le_of_eq (Nat.zero_add most)) (few unix))
  · rw [messageBuilderAp_run generous]
    exact run fuel more

/-! ### The dialect of UNIX -/

theorem unix_fits (small : message.length < 2 ^ 31 - 1) :
    Dialect.unix.fits message.length size = decide (message.length < size) := by
  have same : toSize message.length = message.length := by
    unfold toSize sizeModulus
    omega
  rw [Dialect.fits, same]

/-- The second buffer is what is needed. -/
theorem unix_nextSize (small : message.length < 2 ^ 31 - 1) :
    Dialect.unix.nextSize message.length size = message.length + 1 := by
  have inRange : toInt (message.length + 1 : Nat) = (message.length + 1 : Nat) :=
    toInt_small (by omega)
  rw [Dialect.nextSize]
  push_cast at inRange
  rw [inRange]
  unfold toSize sizeModulus
  omega

/-- Every message is made, with two attempts at most. -/
theorem unix_builds (generous : ∀ calls size, grants calls size = true)
    (small : message.length < 2 ^ 31 - 1) : BuildsMessage .unix grants message := by
  have succeeds (size : Nat) : 0 ≤ (Dialect.unix.formatter message).answer size :=
    Int.natCast_nonneg _
  have fits {size : Nat} (shorter : message.length < size) :
      EndsWith .unix grants message 1 size :=
    .fits shorter (succeeds size) ((unix_fits small).trans (decide_eq_true shorter))
  by_cases shorter : message.length < messageBuilderSize
  · exact (fits shorter).builds generous fun _ => by decide
  · have grows : EndsWith .unix grants message 2 messageBuilderSize :=
      .grows generous (fun _ => succeeds _) ((unix_fits small).trans (decide_eq_false shorter))
        (unix_nextSize small) (fits (Nat.lt_succ_self _))
    exact grows.builds generous fun _ => Nat.le_refl 2

/-! ### The dialect of Windows -/

/-- The sizes that the loop can have when the message does not fit: a power of two, or zero. -/
def Doubled (size : Nat) : Prop := size = 0 ∨ ∃ exponent, exponent < 64 ∧ size = 2 ^ exponent

theorem Doubled.next (doubled : Doubled size) : Doubled (size * 2 % sizeModulus) := by
  rcases doubled with rfl | ⟨exponent, below, rfl⟩
  · exact .inl rfl
  · rw [← Nat.pow_succ]
    rcases Nat.lt_or_ge (exponent + 1) 64 with small | large
    · refine .inr ⟨exponent + 1, small, Nat.mod_eq_of_lt ?_⟩
      exact Nat.pow_lt_pow_right (by decide) small
    · obtain rfl : exponent = 63 := by omega
      exact .inl (Nat.mod_self _)

/-- From `2 ^ 31` on no size is a positive `int`. -/
theorem toInt_doubled {exponent : Nat} (large : 31 ≤ exponent) :
    toInt (2 ^ exponent : Nat) ≤ 0 := by
  obtain ⟨more, rfl⟩ := Nat.exists_eq_add_of_le large
  cases more with
  | zero => decide
  | succ more =>
    have multiple : (2 ^ (31 + (more + 1)) : Nat) = uintModulus * 2 ^ more := by
      rw [show 31 + (more + 1) = 32 + more by omega, Nat.pow_add]
      rfl
    rw [multiple, toInt]
    push_cast
    rw [Int.mul_comm, Int.mul_bmod_left]

theorem windows_answer (message : List UInt8) (size : Nat) :
    (Dialect.windows.formatter message).answer size =
      if size < message.length then -1 else (message.length : Int) := rfl

/-- A message of `2 ^ 30` characters fits no buffer. -/
theorem windows_fits_none (long : 2 ^ 30 ≤ message.length) (doubled : Doubled size) :
    Dialect.windows.fits ((Dialect.windows.formatter message).answer size) size = false := by
  refine decide_eq_false fun fits => ?_
  obtain ⟨succeeds, below⟩ := fits
  by_cases tooLong : size < message.length
  · rw [windows_answer, if_pos tooLong] at succeeds
    exact absurd succeeds (by decide)
  · rw [windows_answer, if_neg tooLong] at below
    rcases doubled with rfl | ⟨exponent, -, rfl⟩
    · omega
    · rcases Nat.lt_trichotomy exponent 30 with smaller | rfl | larger
      · have shorter : 2 ^ exponent < 2 ^ 30 := Nat.pow_lt_pow_right (by decide) smaller
        omega
      · rw [toInt_small (by decide)] at below
        omega
      · have none := toInt_doubled larger
        omega

/-- The loop doubles on, until its fuel is used up. -/
theorem windows_endless (generous : ∀ calls size, grants calls size = true)
    (long : 2 ^ 30 ≤ message.length) (fuel : Nat) (doubled : Doubled size) (sized : p.length = size)
    (calls : List BuilderCall) : ∃ calls',
      loop .exhausted (builderTurn .windows (Dialect.windows.formatter message) grants) fuel
        (size, p) calls = .error .exhausted calls' := by
  induction fuel generalizing size p calls with
  | zero => exact ⟨calls, rfl⟩
  | succ fuel inductionHypothesis =>
    rw [loop_next (builderTurn_grows generous sized (fun unix => by cases unix)
      (windows_fits_none long doubled) rfl calls)]
    exact inductionHypothesis doubled.next (resized_length _ _) _

/-- A shorter message fits as soon as its buffer is larger. -/
theorem windows_fits (shorter : message.length < size) (small : size ≤ 2 ^ 30) :
    EndsWith .windows grants message 1 size := by
  have same : toInt size = size := toInt_small (Nat.lt_of_le_of_lt small (by decide))
  have answer : (Dialect.windows.formatter message).answer size = message.length := by
    rw [windows_answer, if_neg (Nat.lt_asymm shorter)]
  refine .fits shorter ?_ ?_
  · rw [answer]
    exact Int.natCast_nonneg _
  · rw [answer, Dialect.fits, same]
    exact decide_eq_true ⟨Int.natCast_nonneg _, Int.ofNat_lt.mpr shorter⟩

/-- A message that is as long as its buffer is formatted again. -/
theorem windows_tooLong (long : size ≤ message.length) (small : size ≤ 2 ^ 30) :
    Dialect.windows.fits ((Dialect.windows.formatter message).answer size) size = false := by
  have same : toInt size = size := toInt_small (Nat.lt_of_le_of_lt small (by decide))
  refine decide_eq_false fun fits => ?_
  obtain ⟨succeeds, below⟩ := fits
  rw [windows_answer] at succeeds below
  rw [same] at below
  split at succeeds <;> omega

/-- It is made after so many doublings. -/
theorem windows_ends (generous : ∀ calls size, grants calls size = true)
    (short : message.length < 2 ^ 30) (left : Nat) (reaches : size * 2 ^ left = 2 ^ 30) :
    ∃ most, EndsWith .windows grants message most size := by
  have small : size ≤ 2 ^ 30 := by
    rw [← reaches]
    exact Nat.le_mul_of_pos_right size (Nat.two_pow_pos left)
  induction left generalizing size with
  | zero =>
    rw [Nat.pow_zero, Nat.mul_one] at reaches
    exact ⟨1, windows_fits (by rwa [reaches]) small⟩
  | succ left inductionHypothesis =>
    by_cases shorter : message.length < size
    · exact ⟨1, windows_fits shorter small⟩
    · have doubled : size * 2 * 2 ^ left = 2 ^ 30 := by rw [← reaches, Nat.pow_succ]; ring
      have bounded : size * 2 ≤ 2 ^ 30 := by
        rw [← doubled]
        exact Nat.le_mul_of_pos_right _ (Nat.two_pow_pos left)
      obtain ⟨most, ends⟩ := inductionHypothesis doubled bounded
      refine ⟨most + 1, .grows generous (fun unix => by cases unix)
        (windows_tooLong (Nat.not_lt.mp shorter) small) (Nat.mod_eq_of_lt ?_) ends⟩
      exact Nat.lt_of_le_of_lt bounded (by decide)

/-- No message of `2 ^ 30` characters is made. -/
theorem windows_never_builds (generous : ∀ calls size, grants calls size = true)
    (long : 2 ^ 30 ≤ message.length) : ¬ BuildsMessage .windows grants message := by
  rintro ⟨p, calls, -, -, enough, run⟩
  have doubled : Doubled messageBuilderSize := .inr ⟨12, by decide, rfl⟩
  obtain ⟨calls', endless⟩ := windows_endless generous long enough doubled
    List.length_replicate [.malloc messageBuilderSize true]
  have built := run enough (Nat.le_refl _)
  rw [messageBuilderAp_run generous, endless] at built
  cases built

/-- Under Windows the messages of fewer characters are made, and no others. -/
theorem windows_builds_iff (generous : ∀ calls size, grants calls size = true) :
    BuildsMessage .windows grants message ↔ message.length < 2 ^ 30 := by
  constructor
  · intro builds
    by_contra long
    exact windows_never_builds generous (Nat.not_lt.mp long) builds
  · intro short
    obtain ⟨most, ends⟩ := windows_ends generous short 18
      (show messageBuilderSize * 2 ^ 18 = 2 ^ 30 by decide)
    exact ends.builds generous fun unix => by cases unix

/-- What is returned is the message that is made. -/
theorem BuildsMessage.holds (generous : ∀ calls size, grants calls size = true)
    (builds : BuildsMessage dialect grants message) {fuel : Nat}
    (run : messageBuilderAp dialect (dialect.formatter message) grants fuel [] =
      .ok (.allocated p) calls) : HoldsMessage message p := by
  obtain ⟨q, calls', holds, -, enough, final⟩ := builds
  have more := final (max fuel enough) (Nat.le_max_right _ _)
  rw [messageBuilderAp_run generous] at run more
  rw [loop_eq_ok_more run (Nat.le_max_left _ _)] at more
  injection more with same
  injection same with same
  rwa [same]

end Builder

/-- Under UNIX every message below `INT_MAX` is made whole, and under Windows exactly those of fewer
than `2 ^ 30` characters are; where both make one it is the same. -/
theorem messageBuilderAp_builds_iff {grants : List BuilderCall → Nat → Bool} {message : List UInt8}
    (generous : ∀ calls size, grants calls size = true) (small : message.length < 2 ^ 31 - 1) :
    (∀ dialect, BuildsMessage dialect grants message ↔
      (dialect = .windows → message.length < 2 ^ 30)) ∧
    ∀ fuel fuel' p p' calls calls',
      messageBuilderAp .unix (Dialect.unix.formatter message) grants fuel [] =
        .ok (.allocated p) calls →
      messageBuilderAp .windows (Dialect.windows.formatter message) grants fuel' [] =
        .ok (.allocated p') calls' →
      p.take (message.length + 1) = p'.take (message.length + 1) := by
  constructor
  · intro dialect
    cases dialect with
    | unix => exact ⟨fun _ other => (by cases other), fun _ => unix_builds generous small⟩
    | windows =>
      rw [windows_builds_iff generous]
      exact ⟨fun short _ => short, fun short => short rfl⟩
  · intro fuel fuel' p p' calls calls' unix windows
    have holds : HoldsMessage message p := (unix_builds generous small).holds generous unix
    have holds' : HoldsMessage message p' := by
      by_cases short : message.length < 2 ^ 30
      · exact ((windows_builds_iff generous).mpr short).holds generous windows
      · have doubled : Doubled messageBuilderSize := .inr ⟨12, by decide, rfl⟩
        obtain ⟨between, endless⟩ := windows_endless generous (Nat.not_lt.mp short) fuel' doubled
          List.length_replicate [.malloc messageBuilderSize true]
        rw [messageBuilderAp_run generous, endless] at windows
        cases windows
    exact holds.trans holds'.symm

/-- A message that is longer than the first two buffers is made under both dialects. -/
theorem messageBuilderAp_builds_iff_long :
    messageBuilderSize * 2 < (List.replicate 10000 (97 : UInt8)).length ∧
      BuildsMessage .unix (fun _ _ => true) (List.replicate 10000 97) ∧
      BuildsMessage .windows (fun _ _ => true) (List.replicate 10000 97) := by
  have length : (List.replicate 10000 (97 : UInt8)).length = 10000 := List.length_replicate
  have builds (dialect : Dialect) :
      BuildsMessage dialect (fun _ _ => true) (List.replicate 10000 97) ↔
        (dialect = .windows → (List.replicate 10000 (97 : UInt8)).length < 2 ^ 30) :=
    (messageBuilderAp_builds_iff (fun _ _ => rfl) (by rw [length]; decide)).1 dialect
  rw [length] at builds
  exact ⟨by rw [length]; decide, (builds .unix).mpr fun other => (by cases other),
    (builds .windows).mpr fun _ => by decide⟩

/-- A message of `2 ^ 30` characters is below `INT_MAX`, and under Windows it is never made. -/
theorem messageBuilderAp_builds_never : ∃ message : List UInt8, message.length = 2 ^ 30 ∧
    message.length < 2 ^ 31 - 1 ∧ ¬ BuildsMessage .windows (fun _ _ => true) message := by
  have length : (List.replicate (2 ^ 30) (97 : UInt8)).length = 2 ^ 30 := List.length_replicate
  refine ⟨List.replicate (2 ^ 30) 97, length, ?_, ?_⟩
  · rw [length]
    decide
  · exact windows_never_builds (fun _ _ => rfl) (Nat.le_of_eq length.symm)

end MarpaWrapper
