/-
This file says what a computation exchanges with the outside, whatever the
answers are: only exchanges of a kind are added to the record, the grammar inside
libmarpa stays as it is, and no address is handed out again. Unlike a run of a
computation this needs no sound state and no fuel.
-/

import MarpaWrapper.World

namespace MarpaWrapper

open Effects

variable {V α : Type}

/-- Since `start` only exchanges of a kind were made, none of which changed the grammar. -/
structure Grown (kind : Event V → Prop) (start world : World V) : Prop where
  record : ∃ exchanges, world.events = start.events ++ exchanges ∧ ∀ event ∈ exchanges, kind event
  grammar : world.grammar = start.grammar
  later : start.nextAddress ≤ world.nextAddress

variable {kind : Event V → Prop} {start world world' : World V}

theorem Grown.refl (kind : Event V → Prop) (start : World V) : Grown kind start start :=
  ⟨⟨[], (List.append_nil _).symm, fun _ member => absurd member List.not_mem_nil⟩, rfl,
    Nat.le_refl _⟩

/-- What was made before is kept, and what is made then may be of a narrower kind. -/
theorem Grown.trans {narrow : Event V → Prop} (grown : Grown kind start world)
    (more : Grown narrow world world') (wider : ∀ event, narrow event → kind event) :
    Grown kind start world' := by
  obtain ⟨before, record, kinds⟩ := grown.record
  obtain ⟨exchanges, appended, narrowly⟩ := more.record
  refine ⟨⟨before ++ exchanges, by rw [appended, record, List.append_assoc], fun event member => ?_⟩,
    more.grammar.trans grown.grammar, Nat.le_trans grown.later more.later⟩
  rcases List.mem_append.mp member with old | new
  · exact kinds event old
  · exact wider event (narrowly event new)

theorem Grown.weaken (grown : Grown kind start world) {wide : Event V → Prop}
    (wider : ∀ event, kind event → wide event) : Grown wide start world :=
  (Grown.refl wide start).trans grown wider

/-- One exchange. -/
theorem Grown.one {event : Event V} (ofKind : kind event) {address : Nat}
    (later : world.nextAddress ≤ address) :
    Grown kind world
      { world with events := world.events ++ [event], nextAddress := address } :=
  ⟨⟨[event], rfl, fun other member => by rwa [List.mem_singleton.mp member]⟩, rfl, later⟩

/-- One more exchange. -/
theorem Grown.event (grown : Grown kind start world) {event : Event V} (ofKind : kind event)
    {address : Nat} (later : world.nextAddress ≤ address) :
    Grown kind start { world with events := world.events ++ [event], nextAddress := address } :=
  grown.trans (.one ofKind later) fun _ same => same

/-- A computation that keeps the kind of the exchanges, from one world to the other. -/
theorem Grown.of_run {program : Exec V α} (keeps : ∀ start, Keeps (Grown kind start) program)
    {value : α} (run : program world = .ok value world') : Grown kind world world' := by
  have grown := (keeps world).finalState (.refl kind world)
  rwa [run] at grown

/-- A computation that makes exchanges of one kind makes exchanges of every wider kind. -/
theorem Grown.widen {program : Exec V α} {narrow : Event V → Prop}
    (keeps : ∀ start, Keeps (Grown narrow start) program)
    (wider : ∀ event, narrow event → kind event) : Keeps (Grown kind start) program := by
  intro world grown
  have narrowly := keeps world world (.refl narrow world)
  cases run : program world with
  | ok value world' =>
    rw [run] at narrowly
    exact grown.trans narrowly wider
  | error fault world' =>
    rw [run] at narrowly
    exact grown.trans narrowly wider

/-! ### The parts of a computation -/

theorem emit_keeps {event : Event V} (ofKind : kind event) :
    Keeps (Grown kind start) (emit event) :=
  fun _ grown => grown.event ofKind (Nat.le_refl _)

theorem ask_keeps {answer : List (Event V) → α} {event : α → Event V}
    (ofKind : ∀ value, kind (event value)) : Keeps (Grown kind start) (ask answer event) :=
  fun _ grown => grown.event (ofKind _) (Nat.le_refl _)

/-- Both answers are exchanges, the one that grants and the one that refuses. -/
theorem acquire_keeps {granted : List (Event V) → Bool} {event : Option Nat → Event V}
    (ofKind : ∀ address, kind (event address)) :
    Keeps (Grown kind start) (acquire granted event) := by
  intro world grown
  cases grant : granted world.events with
  | false => rw [run_acquire_refused grant]; exact grown.event (ofKind _) (Nat.le_refl _)
  | true => rw [run_acquire_granted grant]; exact grown.event (ofKind _) (Nat.le_succ _)

/-- Memory is read without any exchange. -/
theorem readCell_keeps (cells : List (Slot α)) (index : Nat) :
    Keeps (Grown kind start) (readCell cells index) := by
  unfold readCell
  cases cells[index]? with
  | none => exact .throw _
  | some cell => cases cell <;> first | exact .throw _ | exact .pure _

theorem writeCell_keeps (cells : List (Slot α)) (index : Nat) (content : Slot α) :
    Keeps (Grown kind start) (writeCell cells index content) :=
  .ite (.pure _) (.throw _)

theorem useBlock_keeps (block : Block α) : Keeps (Grown kind start) (useBlock block) :=
  .ite (.throw _) (.pure _)

theorem readObject_keeps (arraypp : Option (Block α)) (index : Nat) :
    Keeps (Grown kind start) (readObject arraypp index) := by
  cases arraypp with
  | none => exact .throw _
  | some block => exact readCell_keeps _ _

/-- An array is read at any index, also where the program is wrong. -/
theorem readArray_keeps (arraypp : Option (Block α)) (index : Int) :
    Keeps (Grown kind start) (readArray arraypp index) := by
  cases arraypp with
  | none => exact .throw _
  | some block => exact .bind (useBlock_keeps block) fun _ => .ite (.throw _) (readCell_keeps _ _)

theorem readPointer_keeps (arraypp : Option (Block α)) (index : Int) :
    Keeps (Grown kind start) (readPointer arraypp index) :=
  .bind (readArray_keeps _ _) fun _ => .pure _

end MarpaWrapper
