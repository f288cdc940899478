/-
This file asks whether the callbacks of `marpaWrapper_vb` are optional. The value
callbacks are tested where they are called. The two callbacks of the stack are
not: a missing one is called as soon as a value callback hands an output back and
the memory for the element is granted, by the stack that copies the output or by
the step that releases it.

So in a run no `NULL` is called if and only if both callbacks of the stack are
given or no output gets its memory. The invariant of the body follows an output
from its callback to the value stack.
-/

import MarpaWrapper.GenericStackCallbacks
import MarpaWrapper.ValuationTermination

namespace MarpaWrapper

open Effects

variable {V α : Type}

/-! ### Optional callbacks -/

/-- The exchange is no call of a callback that is missing. -/
def Event.Given (valueOption : MarpaWrapperValueOption V) (stackOption : MarpaWrapperStackOption V) :
    Event V → Prop
  | .valueRule .. => valueOption.valueRuleCallbackp.isSome = true
  | .valueSymbol .. => valueOption.valueSymbolCallbackp.isSome = true
  | .valueNulling .. => valueOption.valueNullingCallbackp.isSome = true
  | .valueResult .. => valueOption.valueResultCallbackp.isSome = true
  | .stackFree .. => stackOption.stackElementFreeCallbackp.isSome = true
  | .outputFree .. => stackOption.stackElementFreeCallbackp.isSome = true
  | .stackCopy .. => stackOption.stackElementCopyCallbackp.isSome = true
  | _ => True

/-- A value callback succeeded, and it handed an output back. -/
def Event.produces : Event V → Bool
  | .valueRule _ _ true (some _) => true
  | .valueSymbol _ _ true (some _) => true
  | .valueNulling _ true (some _) => true
  | _ => false

/-- The exchange neither produces nor is about an element of the stack. -/
def Event.idles : Event V → Bool
  | .stackStore .. | .stackCopy .. | .stackFree .. | .outputFree .. => false
  | other => !other.produces

/-- The output that the current step has after one more exchange. -/
def outputAfter (output : Option (Element V)) : Event V → Option (Element V)
  | .step _ => none
  | .valueRule _ _ _ left => left
  | .valueSymbol _ _ _ left => left
  | .valueNulling _ _ left => left
  | _ => output

/-- The output that a callback handed back in the current step, if it was called and did. -/
def stepOutput (exchanges : List (Event V)) : Option (Element V) :=
  exchanges.foldl outputAfter none

/-- An element is stored only for the output of the current step, and without a copy callback it
has what the output has. -/
def StoresOutputs (stackOption : MarpaWrapperStackOption V) (exchanges : List (Event V)) : Prop :=
  ∀ before element after, exchanges = before ++ .stackStore element :: after →
    ∃ output, stepOutput before = some output ∧
      (stackOption.stackElementCopyCallbackp = none → element.value = output.value)

/-- A run treats its callbacks as optional: no `NULL` is called, no exchange is a call of a missing
callback, and what is stored are outputs of callbacks. -/
structure CallbacksOptional (valueOption : MarpaWrapperValueOption V)
    (stackOption : MarpaWrapperStackOption V) (result : EStateM.Result Fault (World V) Bool)
    (exchanges : List (Event V)) : Prop where
  noCall : ∀ world, result ≠ .error .nullCall world
  given : ∀ event ∈ exchanges, event.Given valueOption stackOption
  stores : StoresOutputs stackOption exchanges

/-- A value callback handed an output back, and memory was granted afterwards. -/
def OutputFunded (exchanges : List (Event V)) : Prop :=
  ∃ before event after, exchanges = before ++ event :: after ∧ event.produces = true ∧
    ∃ request ∈ after, request.funds = true

/-! ### What the record says -/

/-- No output waits: the exchanges are calls of callbacks that are given, `output` is the current
step's, and where a callback of the stack is missing nothing was produced or stored. -/
structure Rests (valueOption : MarpaWrapperValueOption V) (stackOption : MarpaWrapperStackOption V)
    (output : Option (Element V)) (exchanges : List (Event V)) : Prop where
  given : ∀ event ∈ exchanges, event.Given valueOption stackOption
  stores : StoresOutputs stackOption exchanges
  output : output.isSome = true → (stepOutput exchanges).isSome = true
  idles : Lacks stackOption → ∀ event ∈ exchanges, event.idles = true

/-- An output waits for the memory of its element. -/
def Unpaid (valueOption : MarpaWrapperValueOption V) (stackOption : MarpaWrapperStackOption V)
    (exchanges : List (Event V)) : Prop :=
  ∃ before event after, exchanges = before ++ event :: after ∧
    Rests valueOption stackOption none before ∧ event.Given valueOption stackOption ∧
    event.produces = true ∧ ∀ later ∈ after, Unfunded stackOption none later

/-- One of the two; an output waits only where a callback of the stack is missing. -/
def Settled (valueOption : MarpaWrapperValueOption V) (stackOption : MarpaWrapperStackOption V)
    (exchanges : List (Event V)) : Prop :=
  Rests valueOption stackOption none exchanges ∨
    (Lacks stackOption ∧ Unpaid valueOption stackOption exchanges)

section Record

variable {valueOption : MarpaWrapperValueOption V} {stackOption : MarpaWrapperStackOption V}
  {output output' : Option (Element V)} {exchanges more : List (Event V)} {event : Event V}

theorem stepOutput_snoc (exchanges : List (Event V)) (event : Event V) :
    stepOutput (exchanges ++ [event]) = outputAfter (stepOutput exchanges) event := by
  rw [stepOutput, List.foldl_append]
  rfl

theorem StoresOutputs.nil : StoresOutputs stackOption [] :=
  fun before _ _ record => absurd record.symm (List.append_ne_nil_of_right_ne_nil before
    (List.cons_ne_nil _ _))

/-- One more exchange, which stores an element only for an output. -/
theorem StoresOutputs.snoc (stores : StoresOutputs stackOption exchanges)
    (fitting : ∀ element, event = .stackStore element → ¬ Lacks stackOption ∧
      (stepOutput exchanges).isSome = true) :
    StoresOutputs stackOption (exchanges ++ [event]) := by
  intro before element after record
  rcases List.eq_nil_or_concat after with rfl | ⟨rest, last, rfl⟩
  · obtain ⟨rfl, same⟩ := List.append_inj' record rfl
    obtain ⟨complete, there⟩ := fitting element (List.cons.inj same).1
    obtain ⟨output, known⟩ := Option.isSome_iff_exists.mp there
    exact ⟨output, known, fun missing => absurd (.inr missing) complete⟩
  · have record' : exchanges ++ [event] = (before ++ .stackStore element :: rest) ++ [last] := by
      rw [record, List.append_assoc, List.cons_append, List.concat_eq_append]
    exact stores before element rest (List.append_inj' record' rfl).1

theorem Rests.nil : Rests valueOption stackOption none ([] : List (Event V)) :=
  ⟨fun _ member => absurd member List.not_mem_nil, .nil, fun some => absurd some Bool.false_ne_true,
    fun _ _ member => absurd member List.not_mem_nil⟩

theorem Rests.forget (rests : Rests valueOption stackOption output exchanges) :
    Rests valueOption stackOption none exchanges :=
  ⟨rests.given, rests.stores, fun some => absurd some Bool.false_ne_true, rests.idles⟩

/-- One more exchange. -/
theorem Rests.snoc (rests : Rests valueOption stackOption output exchanges)
    (given : event.Given valueOption stackOption)
    (fitting : ∀ element, event = .stackStore element → ¬ Lacks stackOption ∧
      (stepOutput exchanges).isSome = true)
    (left : output'.isSome = true → (outputAfter (stepOutput exchanges) event).isSome = true)
    (idle : Lacks stackOption → event.idles = true) :
    Rests valueOption stackOption output' (exchanges ++ [event]) where
  given other member := by
    rcases List.mem_append.mp member with old | new
    · exact rests.given other old
    · rwa [List.mem_singleton.mp new]
  stores := rests.stores.snoc fitting
  output some := by
    rw [stepOutput_snoc]
    exact left some
  idles lacks other member := by
    rcases List.mem_append.mp member with old | new
    · exact rests.idles lacks other old
    · rw [List.mem_singleton.mp new]
      exact idle lacks

theorem isSome_of_complete (complete : ¬ Lacks stackOption) :
    stackOption.stackElementFreeCallbackp.isSome = true ∧
      stackOption.stackElementCopyCallbackp.isSome = true :=
  ⟨Option.isSome_iff_ne_none.mpr fun missing => complete (.inl missing),
    Option.isSome_iff_ne_none.mpr fun missing => complete (.inr missing)⟩

theorem Allowed.given (allowed : Allowed stackOption output event) :
    event.Given valueOption stackOption := by
  cases event <;> first
    | exact trivial
    | exact (isSome_of_complete allowed).1
    | exact (isSome_of_complete allowed).2
    | exact allowed.elim

theorem Allowed.idles (allowed : Allowed stackOption output event) (lacks : Lacks stackOption) :
    event.idles = true := by
  cases event <;> first
    | rfl
    | exact absurd lacks allowed
    | exact absurd lacks allowed.1
    | exact allowed.elim

theorem Allowed.outputAfter (allowed : Allowed stackOption output event) :
    MarpaWrapper.outputAfter output' event = output' := by
  cases event <;> first
    | rfl
    | exact allowed.elim

/-- More exchanges of the kind that is allowed. -/
theorem Rests.append (rests : Rests valueOption stackOption output exchanges)
    (allowed : ∀ event ∈ more, Allowed stackOption output event) :
    Rests valueOption stackOption output (exchanges ++ more) := by
  induction more using List.reverseRecOn with
  | nil => rwa [List.append_nil]
  | append_singleton more event inductionHypothesis =>
    have before := inductionHypothesis fun other member =>
      allowed other (List.mem_append_left _ member)
    have last := allowed event (List.mem_append_right _ (List.mem_singleton_self _))
    rw [← List.append_assoc]
    refine before.snoc last.given (fun element same => ?_) (fun some => ?_) last.idles
    · subst same
      exact ⟨last.1, before.output last.2⟩
    · rw [last.outputAfter]
      exact before.output some

theorem Unpaid.append (awaits : Unpaid valueOption stackOption exchanges)
    (unfunded : ∀ event ∈ more, Unfunded stackOption none event) :
    Unpaid valueOption stackOption (exchanges ++ more) := by
  obtain ⟨before, event, after, record, rests, given, produces, since⟩ := awaits
  refine ⟨before, event, after ++ more, by rw [record, List.append_assoc, List.cons_append], rests,
    given, produces, fun other member => ?_⟩
  exact (List.mem_append.mp member).elim (since other) (unfunded other)

theorem Settled.append (settled : Settled valueOption stackOption exchanges)
    (unfunded : ∀ event ∈ more, Unfunded stackOption none event) :
    Settled valueOption stackOption (exchanges ++ more) := by
  rcases settled with rests | ⟨lacks, awaits⟩
  · exact .inl (rests.append fun event member => (unfunded event member).1)
  · exact .inr ⟨lacks, awaits.append unfunded⟩

theorem Event.idles_produces (idles : event.idles = true) : event.produces = false := by
  cases event <;> first
    | rfl
    | exact (Bool.not_eq_true' _).mp idles

/-- The exchanges are calls of callbacks that are given. -/
theorem Settled.given (settled : Settled valueOption stackOption exchanges) :
    ∀ event ∈ exchanges, event.Given valueOption stackOption := by
  rcases settled with rests | ⟨-, before, event, after, rfl, rests, given, -, unfunded⟩
  · exact rests.given
  · intro other member
    rcases List.mem_append.mp member with old | new
    · exact rests.given other old
    · rcases List.mem_cons.mp new with rfl | later
      · exact given
      · exact (unfunded other later).1.given

/-- Where an output waits nothing was stored. -/
theorem Settled.stores (settled : Settled valueOption stackOption exchanges) :
    StoresOutputs stackOption exchanges := by
  rcases settled with rests | ⟨lacks, before, event, after, rfl, rests, -, produces, unfunded⟩
  · exact rests.stores
  · intro first element rest record
    have member : .stackStore element ∈ before ++ event :: after := by
      rw [record]
      exact List.mem_append_right _ List.mem_cons_self
    rcases List.mem_append.mp member with old | new
    · exact absurd (rests.idles lacks _ old) Bool.false_ne_true
    · rcases List.mem_cons.mp new with rfl | later
      · cases produces
      · exact absurd lacks (unfunded _ later).1.1

/-- Where a callback is missing no output got its memory. -/
theorem Settled.unfunded (settled : Settled valueOption stackOption exchanges)
    (lacks : Lacks stackOption) : ¬ OutputFunded exchanges := by
  rintro ⟨first, producer, rest, record, produces, request, member, funds⟩
  rcases settled with rests | ⟨-, before, event, after, rfl, rests, -, -, unfunded⟩
  · have idles := rests.idles lacks producer (by
      rw [record]
      exact List.mem_append_right _ List.mem_cons_self)
    rw [Event.idles_produces idles] at produces
    cases produces
  · have later (included : rest ⊆ after) : False := by
      have unfunded := (unfunded request (included member)).2 lacks
      rw [funds] at unfunded
      cases unfunded
    rcases List.append_eq_append_iff.mp record with ⟨middle, -, split⟩ | ⟨middle, split, earlier⟩
    · cases middle with
      | nil => exact later (by rw [(List.cons.inj split).2]; exact List.Subset.refl _)
      | cons head middle =>
        refine later ?_
        rw [(List.cons.inj split).2]
        exact List.subset_append_of_subset_right _ (List.subset_cons_self _ _)
    · cases middle with
      | nil => exact later (by rw [(List.cons.inj earlier).2]; exact List.Subset.refl _)
      | cons head middle =>
        have old : producer ∈ before := by
          rw [split, (List.cons.inj earlier).1]
          exact List.mem_append_right _ List.mem_cons_self
        rw [Event.idles_produces (rests.idles lacks producer old)] at produces
        cases produces

end Record

/-! ### The invariant of the body -/

section Invariant

variable (valueOption : MarpaWrapperValueOption V) (stackOption : MarpaWrapperStackOption V)
  (start : World V)

/-- No output waits. -/
structure Resting (state : VbState V) : Prop where
  stack : ∀ stack ∈ state.locals.genericStackp, Spared stackOption stack
  record : Recorded start
    (Rests valueOption stackOption state.locals.valueOutputp.target?) state.world
  empty : Lacks stackOption → state.locals.valueOutputp.target? = none

/-- An output of a callback waits for the memory of its element. -/
structure Awaiting (state : VbState V) : Prop where
  stack : ∀ stack ∈ state.locals.genericStackp, Spared stackOption stack
  lacks : Lacks stackOption
  record : Recorded start (Unpaid valueOption stackOption) state.world
  output : state.locals.valueOutputp.target?.isSome = true

/-- An output got its memory, and the callback that releases it is missing. -/
structure Doomed (state : VbState V) : Prop where
  missing : stackOption.stackElementFreeCallbackp = none
  record : Recorded start OutputFunded state.world
  output : state.locals.valueOutputp.target?.isSome = true

/-- What holds when the body is left: `NULL` is called only where a callback of the stack is missing
and an output got its memory. -/
def Quits : VbExit → VbState V → Prop
  | .endLabel, state => (∀ stack ∈ state.locals.genericStackp, Spared stackOption stack) ∧
      Recorded start (Settled valueOption stackOption) state.world
  | .fault .nullCall, state => Lacks stackOption ∧ Recorded start OutputFunded state.world
  | .fault _, state => Recorded start (Settled valueOption stackOption) state.world

/-- A part of the body that keeps the invariant. -/
abbrev StaysResting (program : Vb V α) : Prop :=
  Triple (Resting valueOption stackOption start) program
    (fun _ => Resting valueOption stackOption start) (Quits valueOption stackOption start)

end Invariant

section Body

variable {valueOption : MarpaWrapperValueOption V} {stackOption : MarpaWrapperStackOption V}
  {start : World V} {locals locals' : VbLocals V} {world world' : World V} {event : Event V}
  {holds wide : List (Event V) → Prop}

/-- More exchanges, all of a kind. -/
theorem Recorded.append {kind : Event V → Prop} (recorded : Recorded start holds world)
    (grown : Grown kind world world')
    (step : ∀ exchanges more, holds exchanges → (∀ event ∈ more, kind event) →
      wide (exchanges ++ more)) : Recorded start wide world' := by
  obtain ⟨before, record, held⟩ := recorded
  obtain ⟨more, appended, kinds⟩ := grown.record
  exact ⟨before ++ more, by rw [appended, record, List.append_assoc], step before more held kinds⟩

theorem Quits.fault {fault : Fault} {state : VbState V} (other : fault ≠ .nullCall)
    (recorded : Recorded start (Settled valueOption stackOption) state.world) :
    Quits valueOption stackOption start (.fault fault) state := by
  cases fault with
  | nullCall => exact absurd rfl other
  | _ => exact recorded

theorem Resting.settled (resting : Resting valueOption stackOption start ⟨locals, world⟩) :
    Recorded start (Settled valueOption stackOption) world :=
  resting.record.weaken fun _ rests => .inl rests.forget

theorem Awaiting.settled (awaiting : Awaiting valueOption stackOption start ⟨locals, world⟩) :
    Recorded start (Settled valueOption stackOption) world :=
  awaiting.record.weaken fun _ awaits => .inr ⟨awaiting.lacks, awaits⟩

theorem Resting.refl (start : World V) : Resting valueOption stackOption start ⟨{}, start⟩ :=
  ⟨(fun _ member => by cases member), ⟨[], (List.append_nil _).symm, .nil⟩, fun _ => rfl⟩

theorem Resting.assign (resting : Resting valueOption stackOption start ⟨locals, world⟩)
    (same : locals'.valueOutputp = locals.valueOutputp)
    (stack : ∀ stack ∈ locals'.genericStackp, Spared stackOption stack) :
    Resting valueOption stackOption start ⟨locals', world⟩ := by
  refine ⟨stack, ?_, ?_⟩
  · show Recorded start (Rests valueOption stackOption locals'.valueOutputp.target?) world
    rw [same]
    exact resting.record
  · show Lacks stackOption → locals'.valueOutputp.target? = none
    rw [same]
    exact resting.empty

theorem Resting.grown (resting : Resting valueOption stackOption start ⟨locals, world⟩)
    (grown : Grown (Allowed stackOption locals.valueOutputp.target?) world world') :
    Resting valueOption stackOption start ⟨locals, world'⟩ :=
  ⟨resting.stack, resting.record.append grown fun _ _ rests => rests.append, resting.empty⟩

theorem Awaiting.grown (awaiting : Awaiting valueOption stackOption start ⟨locals, world⟩)
    (grown : Grown (Unfunded stackOption none) world world') :
    Awaiting valueOption stackOption start ⟨locals, world'⟩ :=
  ⟨awaiting.stack, awaiting.lacks, awaiting.record.append grown fun _ _ awaits => awaits.append,
    awaiting.output⟩

/-! ### The parts of the body -/

/-- A computation on the world, with what it returns. -/
theorem onWorld_resting {program : Exec V α} {fact : α → Prop}
    (spares : Spares (Allowed stackOption locals.valueOutputp.target?) fact program) :
    Triple (fun state => Resting valueOption stackOption start state ∧ state.locals = locals)
      (onWorld program)
      (fun value state => fact value ∧ Resting valueOption stackOption start state ∧
        state.locals = locals) (Quits valueOption stackOption start) := by
  rintro ⟨_, world⟩ ⟨resting, rfl⟩
  have outcome := spares world world (.refl _ world)
  unfold onWorld
  cases run : program world with
  | ok value world' =>
    rw [run] at outcome
    exact ⟨outcome.1, resting.grown outcome.2, rfl⟩
  | error fault world' =>
    rw [run] at outcome
    exact Quits.fault outcome.1 (resting.grown outcome.2).settled

/-- A computation on the world that does not depend on the locals. -/
theorem onWorld_rests {program : Exec V α} {fact : α → Prop}
    (spares : ∀ output, Spares (Allowed stackOption output) fact program) :
    Triple (Resting valueOption stackOption start) (onWorld program)
      (fun value state => fact value ∧ Resting valueOption stackOption start state)
      (Quits valueOption stackOption start) :=
  fun state resting => (onWorld_resting (spares _)).consequence (fun _ holds => holds)
    (fun _ _ after => ⟨after.1, after.2.1⟩) (fun _ _ left => left) state ⟨resting, rfl⟩

theorem assign_resting {change : VbLocals V → VbLocals V}
    (same : ∀ locals, (change locals).valueOutputp = locals.valueOutputp)
    (stack : ∀ locals, (change locals).genericStackp = locals.genericStackp) :
    StaysResting valueOption stackOption start (assign change) :=
  fun state resting => Resting.assign resting (same _) (by rw [stack]; exact resting.stack)

theorem fail_resting : Triple (Resting valueOption stackOption start) (fail : Vb V α)
    (fun _ => Resting valueOption stackOption start) (Quits valueOption stackOption start) :=
  fun _ resting => ⟨resting.stack, resting.settled⟩

theorem failIf_resting (condition : Bool) :
    StaysResting valueOption stackOption start (failIf condition) :=
  .ite (fun _ => fail_resting) fun _ => .pure fun _ resting => resting

theorem ask_resting {answer : List (Event V) → α} {event : α → Event V}
    (allowed : ∀ value output, Allowed stackOption output (event value)) :
    StaysResting valueOption stackOption start (onWorld (ask answer event)) :=
  fun _ resting => Resting.grown resting (.one (allowed _ _) (Nat.le_refl _))

theorem askOrFail_resting (wanted : Bool) (answer : List (Event V) → Int) {event : Int → Event V}
    (failed : Int → Bool) (allowed : ∀ value output, Allowed stackOption output (event value)) :
    StaysResting valueOption stackOption start (askOrFail wanted answer event failed) :=
  .ite (fun _ => .bind (ask_resting allowed) fun _ => failIf_resting _) fun _ =>
    .pure fun _ resting => resting

theorem acquireOrFail_resting (granted : List (Event V) → Bool) {event : Option Nat → Event V}
    (allowed : ∀ handle output, Allowed stackOption output (event handle)) :
    StaysResting valueOption stackOption start (acquireOrFail granted event) := by
  refine .bind (onWorld_rests fun output => .acquire fun handle => allowed handle output)
    fun handle => ?_
  cases handle with
  | none => exact fun state holds => fail_resting (α := Nat) state holds.2
  | some handle => exact .pure fun _ holds => holds.2

/-- A call of a stack function. -/
theorem onStack_resting {program : GenericStack V → Exec V (α × GenericStack V)} (zero : α)
    (spares : ∀ stack, Spared stackOption stack →
      Spares (Allowed stackOption locals.valueOutputp.target?)
        (fun result => Spared stackOption result.2) (program stack)) :
    Triple (fun state => Resting valueOption stackOption start state ∧ state.locals = locals)
      (onStack program zero) (fun _ => Resting valueOption stackOption start)
      (Quits valueOption stackOption start) := by
  rintro ⟨locals', world⟩ ⟨resting, same⟩
  obtain rfl : locals' = locals := same
  cases designated : locals'.genericStackp with
  | none =>
    rw [onStack_none designated]
    exact resting
  | some stack =>
    rw [onStack_some designated]
    have rest (value : α) (stack' : GenericStack V) :
        Triple (fun state => Spared stackOption stack' ∧
            Resting valueOption stackOption start state ∧ state.locals = locals')
          (do
            assign fun locals => { locals with genericStackp := some stack' }
            pure value : Vb V α)
          (fun _ => Resting valueOption stackOption start)
          (Quits valueOption stackOption start) := by
      rintro ⟨_, world'⟩ ⟨spared, resting', rfl⟩
      exact Resting.assign resting' rfl fun _ member => by cases member; exact spared
    exact Triple.bind (onWorld_resting (spares stack (resting.stack stack designated)))
      (fun result => rest result.1 result.2) _ ⟨resting, rfl⟩

theorem readPointer_spares {β : Type} {kind : Event V → Prop} (arraypp : Option (Block β))
    (index : Int) : Spares kind (fun _ => True) (readPointer arraypp index : Exec V _) := by
  have read : Spares kind (fun _ => True) (readArray arraypp index : Exec V _) := by
    unfold readArray
    cases arraypp with
    | none => exact .throw (by decide)
    | some block =>
      have used : Spares kind (fun _ => True) (useBlock block : Exec V Unit) :=
        .ite (fun _ => .throw (by decide)) fun _ => .pure trivial
      refine .bind used fun _ _ => .ite (fun _ => .throw (by decide)) fun _ => ?_
      unfold readCell
      cases block.cells[index.toNat]? with
      | none => exact .throw (by decide)
      | some cell =>
        cases cell with
        | indeterminate => exact .throw (by decide)
        | null => exact .pure trivial
        | pointer object => exact .pure trivial
  exact .bind read fun _ _ => .pure trivial

/-! ### Outputs -/

variable (valueOption stackOption start) in
/-- An output may wait. -/
def Carries (state : VbState V) : Prop :=
  Resting valueOption stackOption start state ∨ Awaiting valueOption stackOption start state

variable (valueOption stackOption start) in
/-- No output waits, or one got its memory and nothing releases it. -/
def Charged (state : VbState V) : Prop :=
  Resting valueOption stackOption start state ∨ Doomed stackOption start state

theorem target?_ofOption (output : Option (Element V)) :
    (Slot.ofOption output).target? = output := by
  cases output <;> rfl

/-- An exchange that reports the call of a value callback. -/
structure Reports (valueOption : MarpaWrapperValueOption V)
    (stackOption : MarpaWrapperStackOption V)
    (event : Bool → Option (Element V) → Event V) : Prop where
  given : ∀ answer output, (event answer output).Given valueOption stackOption
  left : ∀ before answer output, outputAfter before (event answer output) = output
  produces : ∀ answer output, (event answer output).produces = (answer && output.isSome)
  idles : ∀ answer output, (event answer output).idles = !(answer && output.isSome)
  other : ∀ answer output element, event answer output ≠ .stackStore element

/-- The state after the call of a value callback, which may have failed. -/
theorem Resting.produced (resting : Resting valueOption stackOption start ⟨locals, world⟩)
    {event : Bool → Option (Element V) → Event V} (reports : Reports valueOption stackOption event)
    (answer : Bool) (output : Option (Element V)) (address : Nat) {state : VbState V}
    (reached : state = ⟨{ locals with valueOutputp := .ofOption output },
      { world with events := world.events ++ [event answer output], nextAddress := address }⟩) :
    (answer = true → Carries valueOption stackOption start state) ∧
      (∀ stack ∈ state.locals.genericStackp, Spared stackOption stack) ∧
      Recorded start (Settled valueOption stackOption) state.world := by
  subst reached
  have fitting (exchanges : List (Event V)) (element : Element V)
      (same : event answer output = .stackStore element) : ¬ Lacks stackOption ∧
        (stepOutput exchanges).isSome = true := absurd same (reports.other answer output element)
  by_cases waits : Lacks stackOption ∧ (answer && output.isSome) = true
  · obtain ⟨lacks, produced⟩ := waits
    have record : Recorded start (Unpaid valueOption stackOption)
        { world with events := world.events ++ [event answer output], nextAddress := address } :=
      resting.record.exchange fun exchanges rests => ⟨exchanges, event answer output, [], rfl,
        rests.forget, reports.given answer output, by rw [reports.produces, produced],
        fun _ member => absurd member List.not_mem_nil⟩
    refine ⟨fun _ => .inr ⟨resting.stack, lacks, record, ?_⟩, resting.stack,
      record.weaken fun _ awaits => .inr ⟨lacks, awaits⟩⟩
    show (Slot.ofOption output).target?.isSome = true
    rw [target?_ofOption]
    exact (Bool.and_eq_true_iff.mp produced).2
  · have record : Recorded start (Rests valueOption stackOption output)
        { world with events := world.events ++ [event answer output], nextAddress := address } :=
      resting.record.exchange fun exchanges rests => by
        refine rests.snoc (reports.given answer output) (fitting exchanges) (fun some => ?_)
          fun lacks => ?_
        · rwa [reports.left]
        · rw [reports.idles, (Bool.not_eq_true _).mp fun produced => waits ⟨lacks, produced⟩]
          rfl
    refine ⟨fun success => .inl ⟨resting.stack, ?_, fun lacks => ?_⟩, resting.stack,
      record.weaken fun _ rests => .inl rests.forget⟩
    · show Recorded start (Rests valueOption stackOption (Slot.ofOption output).target?) _
      rwa [target?_ofOption]
    · show (Slot.ofOption output).target? = none
      rw [target?_ofOption]
      refine Option.not_isSome_iff_eq_none.mp fun some => waits ⟨lacks, ?_⟩
      rw [success, some]
      rfl

/-- A value callback is called. -/
theorem produceOrFail_resting (callback : List (Event V) → Bool × Option V)
    {event : Bool → Option (Element V) → Event V} (reports : Reports valueOption stackOption event) :
    Triple (Resting valueOption stackOption start) (produceOrFail callback event)
      (fun _ => Carries valueOption stackOption start) (Quits valueOption stackOption start) := by
  have produces : Triple (Resting valueOption stackOption start) (onWorld (invoke callback event))
      (fun produced state =>
        (produced.1 = true → Carries valueOption stackOption start
          ⟨{ state.locals with valueOutputp := .ofOption produced.2 }, state.world⟩) ∧
        (∀ stack ∈ state.locals.genericStackp, Spared stackOption stack) ∧
        Recorded start (Settled valueOption stackOption) state.world)
      (Quits valueOption stackOption start) := by
    rintro ⟨locals, world⟩ resting
    exact Resting.produced resting reports _ _ _ rfl
  refine .bind produces fun produced => .through (fun _ state =>
    (produced.1 = true → Carries valueOption stackOption start state) ∧
      (∀ stack ∈ state.locals.genericStackp, Spared stackOption stack) ∧
      Recorded start (Settled valueOption stackOption) state.world) (fun _ holds => holds)
    fun _ => .ite (fun _ _ holds => holds.2) fun succeeded => .pure fun _ holds => holds.1 ?_
  simpa using succeeded

/-- A computation on the world that an output may wait for. -/
theorem onWorld_carries {program : Exec V α} {fact : α → Prop}
    (spares : ∀ output, Spares (Unfunded stackOption output) fact program) :
    Triple (Carries valueOption stackOption start) (onWorld program)
      (fun _ => Carries valueOption stackOption start) (Quits valueOption stackOption start) := by
  rintro ⟨locals, world⟩ (resting | awaiting)
  · have allowed (output : Option (Element V)) : Spares (Allowed stackOption output) fact program :=
      (spares output).weaken (fun _ unfunded => unfunded.1) fun _ known => known
    exact (onWorld_rests allowed).consequence (fun _ holds => holds) (fun _ _ after => .inl after.2)
      (fun _ _ left => left) _ resting
  · have outcome := spares none world world (.refl _ world)
    unfold onWorld
    cases run : program world with
    | ok value world' =>
      rw [run] at outcome
      exact .inr (awaiting.grown outcome.2)
    | error fault world' =>
      rw [run] at outcome
      exact Quits.fault outcome.1 (awaiting.grown outcome.2).settled

theorem freeIfNotNull_spares {output : Option (Element V)} (address : Option Nat) :
    Spares (Unfunded stackOption output) (fun _ => True) (freeIfNotNull address) := by
  cases address with
  | none => exact .pure trivial
  | some address => exact .emit ⟨trivial, fun _ => rfl⟩

theorem freeInputs_carries : Triple (Carries valueOption stackOption start) freeInputs
    (fun _ => Carries valueOption stackOption start) (Quits valueOption stackOption start) := by
  refine readLocals_triple fun locals => .through (fun _ => Carries valueOption stackOption start)
    (fun state holds => onWorld_carries (fun _ => freeIfNotNull_spares _) state holds.1) fun _ => ?_
  rintro ⟨locals, world⟩ (resting | awaiting)
  · exact .inl (resting.assign rfl resting.stack)
  · exact .inr ⟨awaiting.stack, awaiting.lacks, awaiting.record, awaiting.output⟩

/-- An output that waited got memory. -/
theorem Unpaid.funded {exchanges more : List (Event V)}
    (awaits : Unpaid valueOption stackOption exchanges)
    (funding : ∃ event ∈ more, event.funds = true) : OutputFunded (exchanges ++ more) := by
  obtain ⟨before, event, after, record, -, -, produces, -⟩ := awaits
  obtain ⟨request, member, funds⟩ := funding
  exact ⟨before, event, after ++ more, by rw [record, List.append_assoc, List.cons_append],
    produces, request, List.mem_append_right _ member, funds⟩

theorem Awaiting.paid (awaiting : Awaiting valueOption stackOption start ⟨locals, world⟩)
    (paid : Paid world world') : Recorded start OutputFunded world' := by
  obtain ⟨before, record, awaits⟩ := awaiting.record
  obtain ⟨more, appended, funding⟩ := paid
  exact ⟨before ++ more, by rw [appended, record, List.append_assoc], awaits.funded funding⟩

/-- An early read is noted. -/
theorem Resting.noted (resting : Resting valueOption stackOption start ⟨locals, world⟩) :
    Resting valueOption stackOption start
      ⟨locals, { world with events := world.events ++ [.indeterminateRead] }⟩ :=
  resting.grown (.one trivial (Nat.le_refl _))

/-- The output is stored. One that waited is refused its memory, or nothing releases it. -/
theorem storeOutput_carries {libc : Libc V} {fuel : Nat} (argResulti : Int) :
    Triple (Carries valueOption stackOption start) (storeOutput libc fuel argResulti)
      (fun _ => Charged valueOption stackOption start) (Quits valueOption stackOption start) := by
  refine readOutput_triple (fun locals world carries => ?_) fun locals => ?_
  · rcases carries with resting | awaiting
    · exact .inl resting.noted
    · exact .inr (awaiting.grown (.one ⟨trivial, fun _ => rfl⟩ (Nat.le_refl _)))
  rintro ⟨locals', world⟩ ⟨carries, same⟩
  obtain rfl : locals' = locals := same
  rcases carries with resting | awaiting
  · exact Triple.bind (onStack_resting 0 fun stack spared =>
      genericStackSeti_spares spared _ resting.empty) (fun stored => (failIf_resting _).consequence
        (fun _ holds => holds) (fun _ _ after => .inl after) fun _ _ left => left) _ ⟨resting, rfl⟩
  obtain ⟨source, there⟩ := Option.isSome_iff_exists.mp awaiting.output
  cases designated : locals'.genericStackp with
  | none =>
    rw [run_bind_ok (onStack_none designated)]
    exact ⟨awaiting.stack, awaiting.settled⟩
  | some stack =>
    have waits : Waits stackOption none
        (fun stored => stored.1 = 0 ∧ Spared stackOption stored.2)
        (fun stored => stored.1 = 1 ∧ stackOption.stackElementFreeCallbackp = none)
        (genericStackSeti libc fuel stack (toUnsigned argResulti) (some source)) :=
      genericStackSeti_waits awaiting.lacks (awaiting.stack stack designated) _ source
    have outcome := waits world world (.refl _ world)
    simp only [there]
    rw [run_bind, onStack_some designated, run_bind]
    unfold onWorld
    cases run : genericStackSeti libc fuel stack (toUnsigned argResulti) (some source) world with
    | ok stored world' =>
      obtain ⟨status, stack'⟩ := stored
      rw [run] at outcome
      rcases outcome with ⟨⟨rfl, spared⟩, grown⟩ | ⟨⟨rfl, missing⟩, paid⟩
      · exact ⟨fun _ member => by cases member; exact spared, (awaiting.grown grown).settled⟩
      · exact .inr ⟨missing, awaiting.paid paid, awaiting.output⟩
    | error fault world' =>
      rw [run] at outcome
      rcases outcome with ⟨other, grown⟩ | ⟨rfl, paid⟩
      · exact Quits.fault other (awaiting.grown grown).settled
      · exact ⟨awaiting.lacks, awaiting.paid paid⟩

theorem callOutputFree_spares {output : Option (Element V)} (complete : ¬ Lacks stackOption)
    (element : Element V) :
    Spares (Allowed stackOption output) (fun _ => True) (callOutputFree stackOption element) := by
  intro start world grown
  unfold callOutputFree marpaWrapperStackFreeCallback
  cases given : stackOption.stackElementFreeCallbackp with
  | none => exact absurd (.inl given) complete
  | some callback =>
    refine ⟨trivial, grown.event ?_ (Nat.le_refl _)⟩
    exact complete

theorem OutputFunded.append {exchanges : List (Event V)} (funded : OutputFunded exchanges)
    (more : List (Event V)) : OutputFunded (exchanges ++ more) := by
  obtain ⟨before, event, after, record, produces, request, member, funds⟩ := funded
  exact ⟨before, event, after ++ more, by rw [record, List.append_assoc, List.cons_append],
    produces, request, List.mem_append_left _ member, funds⟩

/-- The output is released: the callback is given, or it is called where it is missing. -/
theorem releaseOutput_charged :
    Triple (Charged valueOption stackOption start) (releaseOutput stackOption)
      (fun _ => Resting valueOption stackOption start) (Quits valueOption stackOption start) := by
  refine readOutput_triple (fun locals world charged => ?_) fun locals => ?_
  · rcases charged with resting | doomed
    · exact .inl resting.noted
    · exact .inr ⟨doomed.missing, doomed.record.exchange fun _ funded => funded.append _,
        doomed.output⟩
  cases designated : locals.valueOutputp with
  | indeterminate =>
    refine .pure fun state holds => ?_
    obtain ⟨resting | doomed, rfl⟩ := holds
    · exact resting
    · exact absurd doomed.output (by rw [designated]; exact Bool.false_ne_true)
  | null =>
    refine .pure fun state holds => ?_
    obtain ⟨resting | doomed, rfl⟩ := holds
    · exact resting
    · exact absurd doomed.output (by rw [designated]; exact Bool.false_ne_true)
  | pointer output =>
    rintro ⟨locals', world⟩ ⟨resting | doomed, same⟩
    · obtain rfl : locals' = locals := same
      have complete : ¬ Lacks stackOption := fun lacks => by
        have empty := resting.empty lacks
        rw [designated] at empty
        cases empty
      have release : Triple (Resting valueOption stackOption start)
          (onWorld (emit (.free output.address)) >>= fun _ =>
            assign fun locals => { locals with valueOutputp := .null })
          (fun _ => Resting valueOption stackOption start) (Quits valueOption stackOption start) :=
        .bind (onWorld_rests fun _ => .emit trivial) fun _ => by
          rintro ⟨_, world⟩ ⟨-, resting⟩
          exact ⟨resting.stack, resting.record.weaken fun _ rests => rests.forget, fun _ => rfl⟩
      exact Triple.bind (onWorld_rests fun _ => callOutputFree_spares complete output)
        (fun status => .bind (fun state holds => failIf_resting _ state holds.2) fun _ => release) _
        resting
    · have called : callOutputFree stackOption output world = .error .nullCall world := by
        unfold callOutputFree marpaWrapperStackFreeCallback
        rw [doomed.missing]
      dsimp only
      rw [run_bind]
      unfold onWorld
      rw [called]
      exact ⟨.inl doomed.missing, doomed.record⟩

/-! ### Steps and trees -/

section Calls

variable {libc : Libc V} {fuel : Nat} {phase : ValuePhase V} {wrapper : Wrapper}

theorem getp_resting (index : Nat) : StaysResting valueOption stackOption start
    (onStack (genericStackGetp libc fuel · index) none) :=
  fun state resting => onStack_resting _ (fun stack spared =>
    (genericStackGetp_spares stack _).weaken (fun event growth => (OfGrowth.unfunded event growth).1)
      fun _ tame => spared.tame tame) state ⟨resting, rfl⟩

theorem collectInputs_resting (argFirsti argLasti : Int) :
    StaysResting valueOption stackOption start (collectInputs libc fuel argFirsti argLasti) :=
  collectInputs_triple (fun _ => onWorld_rests fun _ => .acquire fun _ => trivial)
    (fun _ _ holds => fail_resting (α := Unit) _ holds.2)
    (fun _ _ holds => Resting.assign holds.2 rfl holds.2.stack) getp_resting
    (fun _ _ _ => (onWorld_rests fun _ => writeCell_spares.weaken (fun _ same => same)
      fun _ _ => trivial).consequence (fun _ resting => resting) (fun _ _ holds => holds.2)
      fun _ _ left => left) (fun _ resting => Quits.fault (by decide) resting.settled) _ _

/-- The exchanges that report the calls of the value callbacks. -/
theorem ValueCall.reports {callback : List (Event V) → Bool × Option V}
    {event : Bool → Option (Element V) → Event V} (call : ValueCall valueOption callback event) :
    Reports valueOption stackOption event := by
  have given : ∀ answer output, (event answer output).Given valueOption stackOption := by
    cases call with
    | rule given | symbol given | nulling given => exact fun _ _ => Option.isSome_of_eq_some given
  refine ⟨given, ?_, ?_, ?_, ?_⟩
  · cases call <;> exact fun _ _ _ => rfl
  · cases call <;> exact fun answer output => by cases answer <;> cases output <;> rfl
  · cases call <;> exact fun answer output => by cases answer <;> cases output <;> rfl
  · cases call <;> exact fun _ _ _ => nofun

/-- A step: an output may wait after the value callback, and is stored or lost after that. -/
theorem stepRules_resting (step : MarpaStep) :
    StepRules libc fuel wrapper valueOption step (Resting valueOption stackOption start)
      (Carries valueOption stackOption start) (Charged valueOption stackOption start)
      (Quits valueOption stackOption start) where
  collects _ := collectInputs_resting _ _
  looksUp _ _ _ := (onWorld_rests fun _ => readPointer_spares _ _).consequence
    (fun _ resting => resting) (fun _ _ holds => holds.2) fun _ _ left => left
  skips _ resting := .inl resting
  calls call := produceOrFail_resting _ call.reports
  frees := freeInputs_carries
  stores _ := storeOutput_carries _
  idles _ resting := .inl resting

theorem stepTurn_resting : StaysResting valueOption stackOption start
    (stepTurn libc fuel phase wrapper valueOption stackOption ()) := by
  refine stepTurn_triple (fun locals world resting => ⟨resting.stack, ?_, fun _ => rfl⟩)
    (fun _ => stepRules_resting _) releaseOutput_charged
  refine resting.record.exchange fun _ rests => rests.snoc ?_ ?_ (fun some => ?_) fun _ => rfl
  · exact trivial
  · exact fun _ => nofun
  · exact absurd some Bool.false_ne_true

theorem openTree_resting :
    StaysResting valueOption stackOption start (openTree phase valueOption) :=
  .bind (ask_resting fun _ _ => trivial) fun _ =>
    .bind (acquireOrFail_resting _ fun _ _ => trivial) fun _ =>
    .bind (assign_resting (fun _ => rfl) fun _ => rfl) fun _ =>
    .bind (acquireOrFail_resting _ fun _ _ => trivial) fun _ =>
    .bind (assign_resting (fun _ => rfl) fun _ => rfl) fun _ =>
    .bind (askOrFail_resting _ _ _ fun _ _ => trivial) fun _ =>
    .bind (askOrFail_resting _ _ _ fun _ _ => trivial) fun _ =>
    .bind (askOrFail_resting _ _ _ fun _ _ => trivial) fun _ =>
    .bind (askOrFail_resting _ _ _ fun _ _ => trivial) fun _ =>
    .bind (acquireOrFail_resting _ fun _ _ => trivial) fun _ =>
    assign_resting (fun _ => rfl) fun _ => rfl

theorem openValuator_resting :
    StaysResting valueOption stackOption start (openValuator libc fuel phase stackOption) := by
  refine .bind (acquireOrFail_resting _ fun _ _ => trivial) fun _ =>
    .bind (assign_resting (fun _ => rfl) fun _ => rfl) fun _ =>
    .bind (askOrFail_resting _ _ _ fun _ _ => trivial) fun _ =>
    .bind (onWorld_rests fun _ => genericStackNewp_spares _) fun created => ?_
  cases created with
  | none => exact fun state holds => fail_resting (α := Unit) state holds.2
  | some stack =>
    rintro ⟨locals, world⟩ ⟨spared, resting⟩
    exact Resting.assign resting rfl spared

theorem reportResult_resting :
    StaysResting valueOption stackOption start (reportResult libc fuel valueOption) := by
  refine reportResult_triple (fun _ => Resting valueOption stackOption start) (getp_resting 0)
    (fun given value => ?_) (fun _ _ resting => fail_resting (α := Unit) _ resting)
    (fun _ resting => ⟨resting.stack, resting.settled⟩) fun _ resting => resting
  rintro ⟨locals, world⟩ resting
  refine ⟨resting.stack, resting.record.exchange fun _ rests =>
    rests.snoc ?_ ?_ rests.output fun _ => rfl, resting.empty⟩
  · exact Option.isSome_of_eq_some given
  · exact fun _ => nofun

theorem destroyIfNotNull_spares {output : Option (Element V)}
    {genericStackp : Option (GenericStack V)}
    (spared : ∀ stack ∈ genericStackp, Spared stackOption stack) :
    Spares (Unfunded stackOption output) (fun _ => True) (destroyIfNotNull fuel genericStackp) := by
  cases genericStackp with
  | none => exact .pure trivial
  | some stack => exact genericStackDestroyv_spares (spared stack rfl)

theorem unrefIfNotNull_spares {output : Option (Element V)} (event : Nat → Event V)
    (unfunded : ∀ handle, Unfunded stackOption output (event handle)) (handle : Option Nat) :
    Spares (Unfunded stackOption output) (fun _ => True) (unrefIfNotNull event handle) := by
  cases handle with
  | none => exact .pure trivial
  | some handle => exact .emit (unfunded handle)

theorem closeValuator_resting :
    StaysResting valueOption stackOption start (closeValuator fuel) := by
  refine readLocals_triple fun locals => .through (fun _ => Resting valueOption stackOption start)
    (fun state holds => ?_) fun _ => .through (fun _ => Resting valueOption stackOption start)
    (fun _ resting => Resting.assign resting rfl fun _ member => by cases member) fun _ =>
    .bind (onWorld_rests fun _ => (unrefIfNotNull_spares .valueUnref
      (fun _ => ⟨trivial, fun _ => rfl⟩) _).weaken (fun _ unfunded => unfunded.1)
      fun _ known => known) fun _ _ holds => Resting.assign holds.2 rfl holds.2.stack
  obtain ⟨resting, rfl⟩ := holds
  exact (onWorld_rests fun _ => (destroyIfNotNull_spares resting.stack).weaken
    (fun _ unfunded => unfunded.1) fun _ known => known).consequence (fun _ resting => resting)
    (fun _ _ after => after.2) (fun _ _ left => left) state resting

variable (fuel) in
/-- The end label makes no call of a missing callback. -/
theorem vbEndLabel_spares {locals : VbLocals V}
    (spared : ∀ stack ∈ locals.genericStackp, Spared stackOption stack) :
    Spares (Unfunded stackOption none) (fun _ => True) (vbEndLabel fuel locals) := by
  have output : Spares (Unfunded stackOption none) (fun _ => True)
      (freeOutput locals.valueOutputp) := by
    cases locals.valueOutputp with
    | indeterminate =>
      exact .bind (.emit ⟨trivial, fun _ => rfl⟩) fun _ _ => .pure trivial
    | null => exact .pure trivial
    | pointer output => exact .emit ⟨trivial, fun _ => rfl⟩
  exact .bind output fun _ _ => .bind (freeIfNotNull_spares _) fun _ _ =>
    .bind (destroyIfNotNull_spares spared) fun _ _ =>
    .bind (unrefIfNotNull_spares .valueUnref (fun _ => ⟨trivial, fun _ => rfl⟩) _) fun _ _ =>
    .bind (unrefIfNotNull_spares .treeUnref (fun _ => ⟨trivial, fun _ => rfl⟩) _) fun _ _ =>
    .bind (unrefIfNotNull_spares .orderUnref (fun _ => ⟨trivial, fun _ => rfl⟩) _) fun _ _ =>
    .bind (unrefIfNotNull_spares .bocageUnref (fun _ => ⟨trivial, fun _ => rfl⟩) _) fun _ _ => .pure trivial

theorem vbBody_resting (marpaWrapperp : Option Wrapper)
    (marpaWrapperValueOptionp : Option (MarpaWrapperValueOption V))
    (marpaWrapperStackOptionp : Option (MarpaWrapperStackOption V)) :
    StaysResting (marpaWrapperValueOptionp.getD {})
      (marpaWrapperStackOptionp.getD { stackElementSizei := 0 }) start
      (vbBody libc fuel phase marpaWrapperp marpaWrapperValueOptionp marpaWrapperStackOptionp) := by
  refine vbBody_triple (fun _ _ resting => fail_resting (α := Unit) _ resting) openTree_resting
    (fun wrapper stackOption _ given => ?_)
    fun _ resting => Quits.fault (by decide) resting.settled
  subst given
  exact treeTurn_triple (ask_resting fun _ _ => trivial) openValuator_resting stepTurn_resting
    (fun _ resting => Quits.fault (by decide) resting.settled) reportResult_resting
    closeValuator_resting

end Calls

/-! ### The function -/

/-- A run that settled calls no missing callback, and where one of the stack is missing no output
got its memory. -/
theorem Settled.optional {exchanges : List (Event V)}
    (settled : Settled valueOption stackOption exchanges)
    {result : EStateM.Result Fault (World V) Bool}
    (noCall : ∀ world, result ≠ .error .nullCall world) :
    CallbacksOptional valueOption stackOption result exchanges ↔
      stackOption.HasCallbacks ∨ ¬ OutputFunded exchanges := by
  refine ⟨fun _ => ?_, fun _ => ⟨noCall, settled.given, settled.stores⟩⟩
  by_cases lacks : Lacks stackOption
  · exact .inr (settled.unfunded lacks)
  · exact .inl (isSome_of_complete lacks)

/-- A run that called `NULL` did so because a callback of the stack is missing and an output got its
memory. -/
theorem OutputFunded.not_optional {exchanges : List (Event V)} (funded : OutputFunded exchanges)
    (lacks : Lacks stackOption) (world : World V) :
    CallbacksOptional valueOption stackOption (.error .nullCall world) exchanges ↔
      stackOption.HasCallbacks ∨ ¬ OutputFunded exchanges := by
  refine ⟨fun optional => absurd rfl (optional.noCall world), fun calm => ?_⟩
  rcases calm with complete | unfunded
  · rcases lacks with missing | missing
    · exact absurd complete.1 (by rw [missing]; exact Bool.false_ne_true)
    · exact absurd complete.2 (by rw [missing]; exact Bool.false_ne_true)
  · exact absurd funded unfunded

/-- What the end label makes of a state that the body leaves. -/
theorem Quits.endLabel (fuel : Nat) {state : VbState V}
    (quits : Quits valueOption stackOption start .endLabel state) :
    ∃ exchanges, (finalState (vbEndLabel fuel state.locals state.world)).events =
        start.events ++ exchanges ∧
      (CallbacksOptional valueOption stackOption (vbEndLabel fuel state.locals state.world)
          exchanges ↔
        stackOption.HasCallbacks ∨ ¬ OutputFunded exchanges) := by
  obtain ⟨spared, recorded⟩ := quits
  have outcome := vbEndLabel_spares fuel spared state.world state.world (.refl _ _)
  cases run : vbEndLabel fuel state.locals state.world with
  | ok result final =>
    rw [run] at outcome
    obtain ⟨exchanges, record, settled⟩ := recorded.append outcome.2 fun _ _ settled =>
      settled.append
    exact ⟨exchanges, record, settled.optional nofun⟩
  | error fault final =>
    rw [run] at outcome
    obtain ⟨exchanges, record, settled⟩ := recorded.append outcome.2 fun _ _ settled =>
      settled.append
    refine ⟨exchanges, record, settled.optional fun world same => outcome.1 ?_⟩
    injection same

end Body

/-- In every run `NULL` is not called, what is called are callbacks that are given, and what is stored
are their outputs, if and only if both callbacks of the stack are given or no output that a value
callback handed back gets the memory for its element. -/
theorem marpaWrapperVb_calls_given_iff (libc : Libc V) (fuel : Nat) (phase : ValuePhase V)
    (marpaWrapperp : Option Wrapper)
    (marpaWrapperValueOptionp : Option (MarpaWrapperValueOption V))
    (marpaWrapperStackOptionp : Option (MarpaWrapperStackOption V)) (start : World V) :
    ∃ exchanges,
      (finalState (marpaWrapperVb libc fuel phase marpaWrapperp marpaWrapperValueOptionp
        marpaWrapperStackOptionp start)).events = start.events ++ exchanges ∧
      (CallbacksOptional (marpaWrapperValueOptionp.getD {})
          (marpaWrapperStackOptionp.getD { stackElementSizei := 0 })
          (marpaWrapperVb libc fuel phase marpaWrapperp marpaWrapperValueOptionp
            marpaWrapperStackOptionp start) exchanges ↔
        (marpaWrapperStackOptionp.getD { stackElementSizei := 0 }).HasCallbacks ∨
          ¬ OutputFunded exchanges) := by
  have keeps : StaysResting (marpaWrapperValueOptionp.getD {})
      (marpaWrapperStackOptionp.getD { stackElementSizei := 0 }) start
      (vbBody libc fuel phase marpaWrapperp marpaWrapperValueOptionp marpaWrapperStackOptionp) :=
    vbBody_resting _ _ _
  have body := keeps ⟨{}, start⟩ (.refl start)
  unfold marpaWrapperVb
  cases run : vbBody libc fuel phase marpaWrapperp marpaWrapperValueOptionp
    marpaWrapperStackOptionp ⟨{}, start⟩ with
  | ok result state =>
    rw [run] at body
    have quits : Quits (marpaWrapperValueOptionp.getD {})
        (marpaWrapperStackOptionp.getD { stackElementSizei := 0 }) start .endLabel state :=
      ⟨body.stack, Resting.settled body⟩
    exact quits.endLabel fuel
  | error exit state =>
    rw [run] at body
    cases exit with
    | endLabel => exact Quits.endLabel fuel body
    | fault fault =>
      by_cases called : fault = .nullCall
      · subst called
        obtain ⟨lacks, exchanges, record, funded⟩ := body
        exact ⟨exchanges, record, funded.not_optional lacks _⟩
      · have recorded : Recorded start (Settled (marpaWrapperValueOptionp.getD {})
            (marpaWrapperStackOptionp.getD { stackElementSizei := 0 })) state.world := by
          cases fault with
          | nullCall => exact absurd rfl called
          | _ => exact body
        obtain ⟨exchanges, record, settled⟩ := recorded
        exact ⟨exchanges, record, settled.optional fun _ same => called (by injection same)⟩

/-- Whether a run called `NULL`. -/
def callsNull {ε : Type} : EStateM.Result Fault (World V) ε → Bool
  | .error .nullCall _ => true
  | _ => false

/-- The sum of the stack callbacks' defaults: both are left `NULL`. -/
theorem bare_callsNull : callsNull (marpaWrapperVb Libc.generous 8 (.walking [sumTree])
    (some sumWrapper) (some sumOption) (some { stackElementSizei := 8 }) {}) = true := by
  decide +kernel

/-- Without the two callbacks of the stack the first output leads to a call of `NULL`. -/
theorem marpaWrapperVb_calls_null : ∃ final,
    marpaWrapperVb Libc.generous 8 (.walking [sumTree]) (some sumWrapper) (some sumOption)
      (some { stackElementSizei := 8 }) {} = .error .nullCall final ∧
    ∀ exchanges, ¬ CallbacksOptional sumOption { stackElementSizei := 8 }
      (marpaWrapperVb Libc.generous 8 (.walking [sumTree]) (some sumWrapper) (some sumOption)
        (some { stackElementSizei := 8 }) {}) exchanges := by
  have calls := bare_callsNull
  cases run : marpaWrapperVb Libc.generous 8 (.walking [sumTree]) (some sumWrapper)
      (some sumOption) (some { stackElementSizei := 8 }) {} with
  | ok result final => rw [run] at calls; cases calls
  | error fault final =>
    rw [run] at calls
    cases fault with
    | nullCall => exact ⟨final, rfl, fun _ optional => optional.noCall final rfl⟩
    | _ => cases calls

end MarpaWrapper
