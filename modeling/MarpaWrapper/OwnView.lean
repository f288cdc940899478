/-
This file says what a recognition can observe of the world. It sees the answers that it gets,
but no addresses: what an allocator answers it only compares with `NULL`, and what it
releases gives no answer at all. So two recognitions show the same when their records do
once the addresses are left out.

A world answers afresh when its answers to a recognition depend on nothing but what that
recognition shows. That is what is assumed of libmarpa, whose new recognizer starts from the
grammar alone, and of the callbacks of a user whose input begins anew.
-/

import MarpaWrapper.Lockstep
import MarpaWrapper.WrapperTables

namespace MarpaWrapper

open Effects Sorting

variable {V α β : Type}

/-! ### Views -/

/-- What an exchange shows. -/
def Event.ownView : Event V → Option (Event V)
  | .malloc size address => some (.malloc size (address.map fun _ => 0))
  | .realloc size address => some (.realloc size (address.map fun _ => 0))
  | .free _ => none
  | .recognizerNew handle => some (.recognizerNew (handle.map fun _ => 0))
  | .recognizerUnref _ => none
  | other => some other

/-- What a list of exchanges shows. -/
def ownView (exchanges : List (Event V)) : List (Event V) := exchanges.filterMap Event.ownView

theorem ownView_append (exchanges more : List (Event V)) :
    ownView (exchanges ++ more) = ownView exchanges ++ ownView more :=
  List.filterMap_append

/-- Two records of exchanges get the same answers when they show the same. -/
def SameAnswers (answer : List (Event V) → α) (before before' : List (Event V)) : Prop :=
  ∀ exchanges exchanges', ownView exchanges = ownView exchanges' →
    answer (before ++ exchanges) = answer (before' ++ exchanges')

/-- libmarpa answers two recognitions the same. -/
structure Libmarpa.AnswersAfresh (marpa : Libmarpa V) (before before' : List (Event V)) :
    Prop where
  highestSymbolIdFails : SameAnswers marpa.highestSymbolIdFails before before'
  eventCountFails : SameAnswers marpa.eventCountFails before before'
  eventFails : ∀ index, SameAnswers (marpa.eventFails · index) before before'
  startInput : SameAnswers marpa.startInput before before'
  alternative : ∀ symbolId value length,
    SameAnswers (marpa.alternative · symbolId value length) before before'
  earlemeComplete : SameAnswers marpa.earlemeComplete before before'
  terminalsExpected : SameAnswers marpa.terminalsExpected before before'
  latestEarleySet : SameAnswers marpa.latestEarleySet before before'
  earleme : ∀ set, SameAnswers (marpa.earleme · set) before before'
  progressReportStart : ∀ set, SameAnswers (marpa.progressReportStart · set) before before'
  progressItem : SameAnswers marpa.progressItem before before'
  progressReportFinish : SameAnswers marpa.progressReportFinish before before'

/-- The same requests are granted, and what was never assigned holds the same. -/
structure Libc.AnswersAfresh (libc : Libc V) (before before' : List (Event V)) : Prop where
  grants : ∀ size, SameAnswers (libc.grants · size) before before'
  garbage : SameAnswers libc.garbage before before'

/-- The callbacks answer as functions of their own run's input. -/
structure RecognizerCallbacks.AnswersAfresh (callbacks : RecognizerCallbacks V)
    (before before' : List (Event V)) : Prop where
  reader : SameAnswers callbacks.reader before before'
  isLexeme : ∀ datavp, SameAnswers (callbacks.isLexeme · datavp) before before'
  lexemeValue : ∀ datavp, SameAnswers (callbacks.lexemeValue · datavp) before before'

/-- Two records are alike afresh once a recognizer was created in both, with nothing but releases
before it. -/
def Anew (afresh : List (Event V) → List (Event V) → Prop) (before before' : List (Event V)) :
    Prop :=
  ∀ exchanges exchanges' handle handle', ownView exchanges = [] → ownView exchanges' = [] →
    afresh (before ++ exchanges ++ [.recognizerNew (some handle)])
      (before' ++ exchanges' ++ [.recognizerNew (some handle')])

/-! ### Worlds -/

/-- Since two starts the exchanges show the same. The grammar has as many symbols, and the same
events are in its queue. -/
structure Alike (start start' world world' : World V) : Prop where
  record : ∃ exchanges exchanges', world.events = start.events ++ exchanges ∧
    world'.events = start'.events ++ exchanges' ∧ ownView exchanges = ownView exchanges'
  symbols : world.grammar.symbols.length = world'.grammar.symbols.length
  queue : world.grammar.events = world'.grammar.events

section Worlds

variable {start start' world world' next next' : World V}

theorem Alike.answers (alike : Alike start start' world world') {answer : List (Event V) → α}
    (same : SameAnswers answer start.events start'.events) :
    answer world.events = answer world'.events := by
  obtain ⟨exchanges, exchanges', record, record', shown⟩ := alike.record
  rw [record, record']
  exact same exchanges exchanges' shown

/-- More exchanges on both sides. -/
theorem Alike.exchanges (alike : Alike start start' world world') {more more' : List (Event V)}
    (added : next.events = world.events ++ more) (added' : next'.events = world'.events ++ more')
    (shows : ownView more = ownView more')
    (symbols : next.grammar.symbols.length = next'.grammar.symbols.length)
    (queue : next.grammar.events = next'.grammar.events) : Alike start start' next next' := by
  obtain ⟨exchanges, exchanges', record, record', shown⟩ := alike.record
  refine ⟨⟨exchanges ++ more, exchanges' ++ more', ?_, ?_, ?_⟩, symbols, queue⟩
  · rw [added, record, List.append_assoc]
  · rw [added', record', List.append_assoc]
  · rw [ownView_append, ownView_append, shown, shows]

/-- One more exchange on both sides. -/
theorem Alike.exchange (alike : Alike start start' world world') {event event' : Event V}
    (added : next.events = world.events ++ [event])
    (added' : next'.events = world'.events ++ [event'])
    (shows : event.ownView = event'.ownView)
    (symbols : next.grammar.symbols.length = next'.grammar.symbols.length)
    (queue : next.grammar.events = next'.grammar.events) : Alike start start' next next' :=
  alike.exchanges added added' (by simp only [ownView, List.filterMap_cons, shows]) symbols queue

theorem emit_lockstep {event event' : Event V} (shows : event.ownView = event'.ownView) :
    Lockstep (Alike start start') (emit event) (emit event') Eq :=
  fun _ _ alike => .ok (alike.exchange rfl rfl shows alike.symbols alike.queue) rfl

/-- A release at any addresses. -/
theorem free_lockstep (address address' : Nat) :
    Lockstep (Alike start start') (emit (.free address)) (emit (.free address')) Eq :=
  fun _ _ alike => .ok (alike.exchange rfl rfl rfl alike.symbols alike.queue) rfl

theorem ask_lockstep {answer : List (Event V) → α}
    (same : SameAnswers answer start.events start'.events) (event : α → Event V) :
    Lockstep (Alike start start') (ask answer event) (ask answer event) Eq := by
  intro world world' alike
  have answers := alike.answers same
  exact .ok (alike.exchange rfl rfl (by rw [answers]) alike.symbols alike.queue) answers

theorem acquire_lockstep {granted : List (Event V) → Bool}
    (same : SameAnswers granted start.events start'.events) {event : Option Nat → Event V}
    (shows : ∀ address address', (event (some address)).ownView = (event (some address')).ownView) :
    Lockstep (Alike start start') (acquire granted event) (acquire granted event)
      fun address address' => address.isSome = address'.isSome := by
  intro world world' alike
  have answers := alike.answers same
  cases grant : granted world.events with
  | true =>
    rw [run_acquire_granted grant, run_acquire_granted (answers ▸ grant)]
    exact .ok (alike.exchange rfl rfl (shows _ _) alike.symbols alike.queue) rfl
  | false =>
    rw [run_acquire_refused grant, run_acquire_refused (answers ▸ grant)]
    exact .ok (alike.exchange rfl rfl rfl alike.symbols alike.queue) rfl

variable {libc : Libc V}

theorem malloc_lockstep (afresh : libc.AnswersAfresh start.events start'.events) (size : Nat) :
    Lockstep (Alike start start') (malloc libc size) (malloc libc size)
      fun address address' => address.isSome = address'.isSome :=
  acquire_lockstep (afresh.grants size) fun _ _ => rfl

theorem realloc_lockstep (afresh : libc.AnswersAfresh start.events start'.events) (size : Nat) :
    Lockstep (Alike start start') (realloc libc size) (realloc libc size)
      fun address address' => address.isSome = address'.isSome :=
  acquire_lockstep (afresh.grants size) fun _ _ => rfl

theorem readGarbage_lockstep (afresh : libc.AnswersAfresh start.events start'.events) :
    Lockstep (Alike start start') (readGarbage libc) (readGarbage libc) Eq :=
  fun _ _ alike => .ok alike (alike.answers afresh.garbage)

/-- A recognizer call leaves the same events in the queue. -/
theorem reportingCall_lockstep {answered : List (Event V) → Int × List (Nat × Int)}
    (same : SameAnswers answered start.events start'.events) (event : Int → Event V) :
    Lockstep (Alike start start') (reportingCall answered event) (reportingCall answered event)
      Eq := by
  intro world world' alike
  have answers := alike.answers same
  unfold reportingCall
  rw [answers]
  exact .ok (alike.exchange rfl rfl rfl alike.symbols rfl) rfl

end Worlds

/-! ### Tables -/

/-- A cell, with the object it points to seen through a view. -/
def Slot.map (view : α → β) : Slot α → Slot β
  | .indeterminate => .indeterminate
  | .null => .null
  | .pointer target => .pointer (view target)

/-- Two lists of cells are the same through a view. -/
def SameCells (view : α → β) (cells cells' : List (Slot α)) : Prop :=
  cells.map (Slot.map view) = cells'.map (Slot.map view)

/-- A block through a view, wherever it is. -/
def Block.seen (view : α → β) (block : Block α) : Bool × List (Slot β) :=
  (block.released, block.cells.map (Slot.map view))

/-- Two tables have the same cells through a view, at any addresses, and both are there or none. -/
def SameTable (view : α → β) (table table' : Option (Block α)) : Prop :=
  table.map (Block.seen view) = table'.map (Block.seen view)

section Tables

variable {view : α → β} {cells cells' : List (Slot α)} {table table' : Option (Block α)}
  {alike : World V → World V → Prop}

theorem SameCells.length (same : SameCells view cells cells') : cells.length = cells'.length := by
  have lengths := congrArg List.length same
  rwa [List.length_map, List.length_map] at lengths

theorem SameCells.at (same : SameCells view cells cells') (index : Nat) :
    cells[index]?.map (Slot.map view) = cells'[index]?.map (Slot.map view) := by
  rw [← List.getElem?_map, ← List.getElem?_map, same]

theorem readCell_lockstep (same : SameCells view cells cells') (index : Nat) :
    Lockstep alike (readCell cells index) (readCell cells' index)
      fun object object' => object.map view = object'.map view := by
  have here := same.at index
  unfold readCell
  generalize cells[index]? = cell at here ⊢
  generalize cells'[index]? = cell' at here ⊢
  cases cell with
  | none =>
    cases cell' with
    | none => exact .throw _
    | some cell' => cases here
  | some cell =>
    cases cell' with
    | none => cases here
    | some cell' =>
      have here := Option.some.inj here
      cases cell <;> cases cell' <;>
        first
        | exact .throw _
        | exact .pure rfl
        | cases here
        | exact .pure (congrArg some (Slot.pointer.inj here))

theorem writeCell_lockstep (same : SameCells view cells cells') (index : Nat)
    {content content' : Slot α} (contents : content.map view = content'.map view) :
    Lockstep alike (writeCell cells index content) (writeCell cells' index content')
      (SameCells view) := by
  refine .ite (by rw [same.length]) (fun _ _ => .pure ?_) fun _ _ => .throw _
  unfold SameCells
  rw [List.map_set, List.map_set, contents, same]

/-- The same cells are read and written alike. -/
theorem readCell_same (cells : List (Slot α)) (index : Nat) :
    Lockstep alike (readCell cells index) (readCell cells index) Eq := by
  unfold readCell
  cases cells[index]? with
  | none => exact .throw _
  | some cell => cases cell <;> first | exact .throw _ | exact .pure rfl

theorem writeCell_same (cells : List (Slot α)) (index : Nat) (content : Slot α) :
    Lockstep alike (writeCell cells index content) (writeCell cells index content) Eq :=
  .ite Iff.rfl (fun _ _ => .pure rfl) fun _ _ => .throw _

theorem SameTable.cellsOf (same : SameTable view table table') :
    SameCells view (cellsOf table) (cellsOf table') := by
  cases table with
  | none =>
    cases table' with
    | none => rfl
    | some block' => cases same
  | some block =>
    cases table' with
    | none => cases same
    | some block' => exact congrArg Prod.snd (Option.some.inj same)

theorem SameTable.live (same : SameTable view table table') {block block' : Block α}
    (here : table = some block) (there : table' = some block') :
    block.released = block'.released := by
  subst here there
  exact congrArg Prod.fst (Option.some.inj same)

/-- Blocks that are there are used alike. -/
theorem useBlock_lockstep {block block' : Block α} (same : block.released = block'.released) :
    Lockstep alike (useBlock block) (useBlock block') Eq :=
  .ite (by rw [same]) (fun _ _ => .throw _) fun _ _ => .pure rfl

theorem readObject_lockstep (same : SameTable view table table') (index : Nat) :
    Lockstep alike (readObject table index) (readObject table' index)
      fun object object' => object.map view = object'.map view := by
  cases table with
  | none =>
    cases table' with
    | none => exact .throw _
    | some block' => cases same
  | some block =>
    cases table' with
    | none => cases same
    | some block' => exact readCell_lockstep same.cellsOf _

theorem readArray_lockstep (same : SameTable view table table') (index : Int) :
    Lockstep alike (readArray table index) (readArray table' index)
      fun object object' => object.map view = object'.map view := by
  cases table with
  | none =>
    cases table' with
    | none => exact .throw _
    | some block' => cases same
  | some block =>
    cases table' with
    | none => cases same
    | some block' =>
      exact (useBlock_lockstep (same.live rfl rfl)).bind fun _ _ _ =>
        .ite Iff.rfl (fun _ _ => .throw _) fun _ _ => readCell_lockstep same.cellsOf _

/-- The pointers are named by the index. -/
theorem readPointer_lockstep (same : SameTable view table table') (index : Int) :
    Lockstep alike (readPointer table index) (readPointer table' index) Eq := by
  refine (readArray_lockstep same index).bind fun object object' objects => .pure ?_
  cases object <;> cases object' <;> first | rfl | cases objects

/-- Through a view both tables have an object in a slot, or none has. -/
theorem SameTable.lookup (same : SameTable view table table') (index : Nat) :
    (lookup table index).map view = (lookup table' index).map view := by
  have viewed (table : Option (Block α)) : (MarpaWrapper.lookup table index).map view =
      ((MarpaWrapper.cellsOf table)[index]?.map (Slot.map view)).bind Slot.target? := by
    unfold MarpaWrapper.lookup
    cases (MarpaWrapper.cellsOf table)[index]? with
    | none => rfl
    | some cell => cases cell <;> rfl
  rw [viewed, viewed, same.cellsOf.at index]

end Tables

end MarpaWrapper
