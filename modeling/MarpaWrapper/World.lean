/-
This file fixes what the wrapper sees of the world outside its own memory: the
machine's integers, the allocator, the libmarpa grammar it talks to, and the
record of every exchange with them.

Everything outside is a function of that record. An allocator grants or refuses
a request, libmarpa answers a call and a user callback answers an invocation by
looking at all exchanges made so far, so a statement over every such function
is a statement over every pattern of answers.
-/

import MarpaWrapper.Effects
import MarpaWrapper.Sorting

namespace MarpaWrapper

open Effects

/-! ### Machine integers -/

/-- `SIZE_MAX + 1` of a 64-bit `size_t`. -/
def sizeModulus : Nat := 2 ^ 64

/-- `UINT_MAX + 1` of a 32-bit `unsigned int`. -/
def uintModulus : Nat := 2 ^ 32

/-- `sizeof(void *)`. -/
def pointerSize : Nat := 8

/-- The conversion of an `int` to `unsigned int`. -/
def toUnsigned (value : Int) : Nat := (value % uintModulus).toNat

/-- The conversion of an `int` to `size_t`. -/
def toSize (value : Int) : Nat := (value % sizeModulus).toNat

/-- The conversion of an integer to a 32-bit `int`. -/
def toInt (value : Int) : Int := Int.bmod value uintModulus

theorem toInt_small {value : Nat} (small : value < 2 ^ 31) : toInt value = value := by
  unfold toInt uintModulus
  exact Int.bmod_eq_of_le_mul_two (by omega) (by omega)

/-- A number is an `int` when it is the same after the conversion. -/
theorem toInt_natCast_iff {value : Nat} : toInt value = value ↔ value < 2 ^ 31 := by
  constructor
  · intro same
    have bound : toInt value < ((uintModulus : Int) + 1) / 2 :=
      Int.bmod_lt (by decide : 0 < uintModulus)
    rw [same] at bound
    unfold uintModulus at bound
    omega
  · exact toInt_small

/-! ### Memory -/

/-- One cell of an array of pointers: never written, `NULL`, or a pointer to an object. -/
inductive Slot (α : Type) where
  | indeterminate
  | null
  | pointer (target : α)
  deriving DecidableEq

/-- The object a cell points to, if any. -/
def Slot.target? {α : Type} : Slot α → Option α
  | .pointer target => some target
  | _ => none

/-- A block of the user's element type: its address and what it holds. -/
structure Element (V : Type) where
  address : Nat
  value : V
  deriving DecidableEq

/-- Why a computation has no further behaviour: a loop outran its fuel, or the C code has
undefined behaviour. -/
inductive Fault where
  | exhausted
  | outOfBounds
  | indeterminate
  | nullDereference
  | nullCall
  | released
  deriving DecidableEq

/-! ### The grammar inside libmarpa -/

/-- What libmarpa records for a symbol. A terminal flag that was set by a call is locked. -/
structure SymbolFlags where
  terminal : Bool := false
  lockedTerminal : Bool := false
  completionEvent : Bool := false
  nulledEvent : Bool := false
  predictionEvent : Bool := false
  deriving DecidableEq

/-- The right-hand side of a rule: a BNF rule, or a sequence with its separator (`-1` for none),
its minimum and its flags. -/
inductive RuleShape where
  | bnf (rhs : List Int) (length : Int)
  | sequence (rhs separator minimum flags : Int)
  deriving DecidableEq

/-- What libmarpa records for a rule. -/
structure GrammarRule where
  lhs : Int
  shape : RuleShape
  rank : Int := 0
  nullRanksHigh : Bool := false
  deriving DecidableEq

/-- A libmarpa grammar, as far as the wrapper can reach it. `events` is its event queue: the type
and the value of each event that the last precomputation or the last Earley set reported. -/
structure Grammar where
  symbols : List SymbolFlags := []
  rules : List GrammarRule := []
  startSymbol : Option Int := none
  precomputed : Bool := false
  error : Int := 0
  events : List (Nat × Int) := []
  deriving DecidableEq

/-- The grammar calls of libmarpa that the wrapper makes while a grammar is defined. -/
inductive GrammarCall where
  | forceValued
  | symbolNew
  | symbolIsTerminalSet (symbolId value : Int)
  | startSymbolSet (symbolId : Int)
  | symbolIsCompletionEventSet (symbolId value : Int)
  | symbolIsNulledEventSet (symbolId value : Int)
  | symbolIsPredictionEventSet (symbolId value : Int)
  | ruleNew (lhs : Int) (rhs : List Int) (length : Int)
  | sequenceNew (lhs rhs separator minimum flags : Int)
  | ruleRankSet (ruleId rank : Int)
  | ruleNullHighSet (ruleId flag : Int)
  deriving DecidableEq

/-! ### The record of exchanges -/

/-- `genericStack_error_t`. -/
inductive GenericStackError where
  | system
  | parameter
  | runtime
  | callback
  deriving DecidableEq

/-- `marpaWrapperEventType_t`, by its C values. -/
def marpaWrapperEventtypeCompleted : Nat := 0x01
def marpaWrapperEventtypeNulled : Nat := 0x02
def marpaWrapperEventtypePredicted : Nat := 0x04

/-- `marpaWrapperEvent_t`. A pointer to a registered symbol is named by its slot in the
wrapper's table. -/
structure MarpaWrapperEvent where
  eventType : Nat
  marpaWrapperSymbolp : Option Nat
  deriving DecidableEq

/-- `marpaWrapperValueBool_t`. -/
inductive ValueBool where
  | stop
  | false
  | true
  deriving DecidableEq

/-- What `marpa_v_step` answers, with the fields of the valuator that the accessor macros read
after it. Every answer without a case of its own in the wrapper is `other`, among them the
failure value `-2`. -/
inductive MarpaStep where
  | rule (ruleId arg0 argN result : Int)
  | token (symbolId value result : Int)
  | nullingSymbol (symbolId result : Int)
  | inactive
  | initial
  | other (code : Int)
  deriving DecidableEq

/-- One exchange with the world outside, with its answer. -/
inductive Event (V : Type) where
  -- libc
  | malloc (size : Nat) (address : Option Nat)
  | realloc (size : Nat) (address : Option Nat)
  | free (address : Nat)
  -- the value stack and its user
  | stackStore (element : Element V)
  | stackCopy (source target : Element V) (errnum : Int)
  | stackFree (element : Element V) (errnum : Int)
  | stackFailure (errorType : GenericStackError) (errorNumber : Int)
  -- libmarpa's grammar
  | version (answer : Int)
  | checkVersion (answer : Int)
  | grammarNew (handle : Option Nat)
  | grammarUnref (handle : Nat)
  | grammar (call : GrammarCall) (answer : Int)
  | precompute (answer : Int)
  | highestSymbolId (answer : Int)
  | eventCount (answer : Int)
  | event (index : Nat) (eventType value : Int)
  -- libmarpa's recognizer
  | recognizerNew (handle : Option Nat)
  | recognizerUnref (handle : Nat)
  | startInput (answer : Int)
  | alternative (symbolId value length answer : Int)
  | earlemeComplete (answer : Int)
  | terminalsExpected (symbolIds : Option (List Int))
  | terminalIsExpected (symbolId answer : Int)
  | symbolActivate (eventType : Nat) (symbolId reactivate answer : Int)
  | latestEarleySet (answer : Int)
  | earleme (set answer : Int)
  | progressReportStart (set answer : Int)
  | progressItem (ruleId position origin : Int)
  | progressReportFinish (answer : Int)
  -- libmarpa's evaluation objects
  | bocageNew (handle : Option Nat)
  | bocageUnref (handle : Nat)
  | orderNew (handle : Option Nat)
  | orderUnref (handle : Nat)
  | highRankOnlySet (flag answer : Int)
  | rank (answer : Int)
  | ambiguityMetric (answer : Int)
  | isNull (answer : Int)
  | treeNew (handle : Option Nat)
  | treeUnref (handle : Nat)
  | treeNext (answer : Int)
  | valueNew (handle : Option Nat)
  | valueUnref (handle : Nat)
  | valuedForce (answer : Int)
  | step (answer : MarpaStep)
  -- the wrapper's user
  | eventCallback (events : List MarpaWrapperEvent)
  | reader (more endOfInput : Bool)
  | isLexeme (datavp : Nat) (length : Option Nat)
  | lexemeValue (datavp : Nat) (valueAndLength : Option (Int × Int))
  | valueRule (rule : Option Nat) (inputs : List (Option (Element V))) (answer : Bool)
      (output : Option (Element V))
  | valueSymbol (symbol : Option Nat) (token : Int) (answer : Bool) (output : Option (Element V))
  | valueNulling (symbol : Option Nat) (answer : Bool) (output : Option (Element V))
  | valueResult (value : Option (Element V)) (answer : ValueBool)
  | outputFree (output : Element V) (errnum : Int)
  -- a read of a local variable that was never assigned
  | indeterminateRead

/-- What lies outside the wrapper: all exchanges so far, the next address the allocator hands
out, and the grammar libmarpa keeps. -/
structure World (V : Type) where
  events : List (Event V) := []
  nextAddress : Nat := 0
  grammar : Grammar := {}

/-- A computation of the C code. -/
abbrev Exec (V : Type) : Type → Type := EStateM Fault (World V)

section Exchange

variable {V α : Type}

/-- Record an exchange that has no answer. -/
def emit (event : Event V) : Exec V Unit :=
  fun world => .ok () { world with events := world.events ++ [event] }

/-- Make an exchange: the answer is a function of the record so far. -/
def ask (answer : List (Event V) → α) (event : α → Event V) : Exec V α :=
  fun world =>
    .ok (answer world.events) { world with events := world.events ++ [event (answer world.events)] }

/-- Ask for a new object: when it is granted, it gets an address no object had before. -/
def acquire (granted : List (Event V) → Bool) (event : Option Nat → Event V) :
    Exec V (Option Nat) :=
  fun world =>
    if granted world.events then
      .ok (some world.nextAddress)
        { world with
          events := world.events ++ [event (some world.nextAddress)]
          nextAddress := world.nextAddress + 1 }
    else .ok none { world with events := world.events ++ [event none] }

theorem run_emit (event : Event V) (world : World V) :
    emit event world = .ok () { world with events := world.events ++ [event] } := rfl

theorem run_ask (answer : List (Event V) → α) (event : α → Event V) (world : World V) :
    ask answer event world =
      .ok (answer world.events)
        { world with events := world.events ++ [event (answer world.events)] } := rfl

theorem run_acquire_granted {granted : List (Event V) → Bool} {event : Option Nat → Event V}
    {world : World V} (grant : granted world.events = true) :
    acquire granted event world =
      .ok (some world.nextAddress)
        { world with
          events := world.events ++ [event (some world.nextAddress)]
          nextAddress := world.nextAddress + 1 } := by
  rw [acquire, if_pos grant]

theorem run_acquire_refused {granted : List (Event V) → Bool} {event : Option Nat → Event V}
    {world : World V} (refusal : granted world.events = false) :
    acquire granted event world =
      .ok none { world with events := world.events ++ [event none] } := by
  rw [acquire, if_neg (by rw [refusal]; exact Bool.false_ne_true)]

theorem acquire_returns {granted : List (Event V) → Bool} {event : Option Nat → Event V} :
    Completes (acquire granted event) := by
  intro world
  cases grant : granted world.events with
  | false => exact ⟨_, _, run_acquire_refused grant⟩
  | true => exact ⟨_, _, run_acquire_granted grant⟩

end Exchange

/-! ### Arrays of pointers -/

/-- A pointer to a block of memory that holds pointers. It may outlive the block: when `released`
is set, the block is gone, and only the objects are left that its cells pointed to. -/
structure Block (α : Type) where
  address : Nat
  cells : List (Slot α)
  released : Bool := false

section Arrays

variable {V α : Type}

/-- Read a cell. Outside the block, and in a cell nothing was written to, there is nothing to
read. -/
def readCell (cells : List (Slot α)) (index : Nat) : Exec V (Option α) :=
  match cells[index]? with
  | none => throw .outOfBounds
  | some .indeterminate => throw .indeterminate
  | some .null => pure none
  | some (.pointer target) => pure (some target)

/-- Write a cell of the block. -/
def writeCell (cells : List (Slot α)) (index : Nat) (content : Slot α) :
    Exec V (List (Slot α)) :=
  if index < cells.length then pure (cells.set index content) else throw .outOfBounds

/-- A block can be used as long as it was not released. -/
def useBlock (block : Block α) : Exec V Unit :=
  if block.released then throw .released else pure ()

/-- What a pointer designates that was read from `arraypp[index]`. The object has memory of its own,
which the array's is not needed for. -/
def readObject (arraypp : Option (Block α)) (index : Nat) : Exec V (Option α) :=
  match arraypp with
  | none => throw .nullDereference
  | some block => readCell block.cells index

/-- Read `arraypp[index]` for an `int` index. -/
def readArray (arraypp : Option (Block α)) (index : Int) : Exec V (Option α) :=
  match arraypp with
  | none => throw .nullDereference
  | some block => do
    useBlock block
    if index < 0 then throw .outOfBounds else readCell block.cells index.toNat

/-- The pointer in `arraypp[index]`: the object it points to is named by the index. -/
def readPointer (arraypp : Option (Block α)) (index : Int) : Exec V (Option Nat) := do
  let object ← readArray arraypp index
  pure (object.map fun _ => index.toNat)

/-- An object is registered at an index of an array that is there. -/
def Registers (arraypp : Option (Block α)) (index : Int) : Prop :=
  0 ≤ index ∧ ∃ block object, arraypp = some block ∧ block.released = false ∧
    block.cells[index.toNat]? = some (.pointer object)

/-- The pointer to the object that is registered for an id. -/
def registered (id : Int) : Option Nat := some id.toNat

theorem useBlock_live {block : Block α} (live : block.released = false) (world : World V) :
    useBlock block world = .ok () world := by
  rw [useBlock, live]
  rfl

theorem useBlock_eq_ok {block : Block α} {world world' : World V}
    (run : useBlock block world = .ok () world') : block.released = false ∧ world' = world := by
  unfold useBlock at run
  cases released : block.released with
  | true => rw [released] at run; cases run
  | false => rw [released] at run; cases run; exact ⟨rfl, rfl⟩

theorem readArray_registered {arraypp : Option (Block α)} {index : Int}
    (registers : Registers arraypp index) :
    ∃ object, ∀ world : World V, readArray arraypp index world = .ok (some object) world := by
  obtain ⟨nonNegative, block, object, rfl, live, found⟩ := registers
  refine ⟨object, fun world => ?_⟩
  rw [readArray, run_bind_ok (useBlock_live live world), if_neg (Int.not_lt.mpr nonNegative),
    readCell, found]
  rfl

theorem readPointer_registered {arraypp : Option (Block α)} {index : Int}
    (registers : Registers arraypp index) (world : World V) :
    readPointer arraypp index world = .ok (registered index) world := by
  obtain ⟨object, read⟩ := readArray_registered (V := V) registers
  rw [readPointer, run_bind_ok (read world)]
  rfl

theorem readCell_world {cells : List (Slot α)} {index : Nat} {object : Option α}
    {world world' : World V} (run : readCell cells index world = .ok object world') :
    world' = world := by
  unfold readCell at run
  cases found : cells[index]? with
  | none => rw [found] at run; cases run
  | some cell => rw [found] at run; cases cell <;> cases run <;> rfl

theorem readArray_world {arraypp : Option (Block α)} {index : Int} {object : Option α}
    {world world' : World V} (run : readArray arraypp index world = .ok object world') :
    world' = world := by
  cases arraypp with
  | none => cases run
  | some block =>
    obtain ⟨⟨⟩, between, used, read⟩ := run_bind_eq_ok run
    obtain ⟨-, rfl⟩ := useBlock_eq_ok used
    by_cases negative : index < 0
    · rw [if_pos negative] at read
      cases read
    · rw [if_neg negative] at read
      exact readCell_world read

theorem readObject_world {arraypp : Option (Block α)} {index : Nat} {object : Option α}
    {world world' : World V} (run : readObject arraypp index world = .ok object world') :
    world' = world := by
  cases arraypp with
  | none => cases run
  | some block => exact readCell_world run

theorem readPointer_world {arraypp : Option (Block α)} {index : Int} {pointer : Option Nat}
    {world world' : World V} (run : readPointer arraypp index world = .ok pointer world') :
    world' = world := by
  obtain ⟨object, between, read, rest⟩ := run_bind_eq_ok run
  cases rest
  exact readArray_world read

end Arrays

/-! ### The C library -/

/-- The C library as the wrapper uses it: which requests for memory are granted, what fresh
memory holds, and the order `qsort` leaves an array in. -/
structure Libc (V : Type) where
  grants : List (Event V) → Nat → Bool
  garbage : List (Event V) → Int := fun _ => 0
  qsort : {α : Type} → (α → α → Int) → List α → List α

section Allocation

variable {V : Type} (libc : Libc V)

/-- `malloc(size)`. -/
def malloc (size : Nat) : Exec V (Option Nat) :=
  acquire (fun events => libc.grants events size) (.malloc size)

/-- `realloc(_, size)`. The old block keeps its place when the request is refused. -/
def realloc (size : Nat) : Exec V (Option Nat) :=
  acquire (fun events => libc.grants events size) (.realloc size)

/-- The cells of a block of `size` bytes that `realloc` made out of the cells of another one. -/
def resize {α : Type} (cells : List (Slot α)) (size : Nat) : List (Slot α) :=
  cells.take (size / pointerSize) ++
    List.replicate (size / pointerSize - cells.length) .indeterminate

/-- Every request for memory is granted. -/
def Libc.AlwaysGrants : Prop := ∀ events size, libc.grants events size = true

/-- A C library that grants every request and sorts by insertion. -/
def Libc.generous : Libc V where
  grants _ _ := true
  qsort := Sorting.inserting

theorem Libc.generous_alwaysGrants : (Libc.generous (V := V)).AlwaysGrants := fun _ _ => rfl

end Allocation

end MarpaWrapper
