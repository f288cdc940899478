/-
This file is about the callbacks that a value stack of `marpaWrapper_vb` reaches. Its
user may leave both out, but the stack always has its own two, which call the user's
without a check. Where both are given, no function of the stack calls `NULL`. Where one
is missing, this holds as long as the stack holds no element: storing one is what goes
wrong, and it goes wrong when the memory for the element is granted.
-/

import MarpaWrapper.GenericStackAddresses
import MarpaWrapper.ValuationFailures

namespace MarpaWrapper

open Effects

variable {V α β γ : Type}

/-! ### Exchanges -/

/-- A stack callback of the user is missing. -/
def Lacks (stackOption : MarpaWrapperStackOption V) : Prop :=
  stackOption.stackElementFreeCallbackp = none ∨ stackOption.stackElementCopyCallbackp = none

/-- A request for memory that was granted. -/
def Event.funds : Event V → Bool
  | .malloc _ (some _) => true
  | _ => false

/-- What may be exchanged between the steps' own exchanges, when the output to store is `output`:
where a stack callback is missing no element is stored, copied or released. -/
def Allowed (stackOption : MarpaWrapperStackOption V) (output : Option (Element V)) :
    Event V → Prop
  | .stackCopy .. | .stackFree .. | .outputFree .. => ¬ Lacks stackOption
  | .stackStore _ => ¬ Lacks stackOption ∧ output.isSome = true
  | .step _ | .valueRule .. | .valueSymbol .. | .valueNulling .. | .valueResult .. => False
  | _ => True

/-- What may be exchanged while an output waits for the memory of its element: where a stack
callback is missing, no memory is granted. -/
def Unfunded (stackOption : MarpaWrapperStackOption V) (output : Option (Element V))
    (event : Event V) : Prop :=
  Allowed stackOption output event ∧ (Lacks stackOption → event.funds = false)

theorem OfGrowth.unfunded {stackOption : MarpaWrapperStackOption V} {output : Option (Element V)}
    (event : Event V) (growth : OfGrowth event) : Unfunded stackOption output event := by
  cases event <;> first
    | exact ⟨trivial, fun _ => rfl⟩
    | exact absurd growth Bool.false_ne_true

/-! ### Computations that do not call `NULL` -/

/-- A computation that makes exchanges of a kind and does not call `NULL`; what it returns meets
`fact`. -/
def Spares (kind : Event V → Prop) (fact : α → Prop) (program : Exec V α) : Prop :=
  ∀ start, Triple (Grown kind start) program (fun value world => fact value ∧ Grown kind start world)
    fun fault world => fault ≠ .nullCall ∧ Grown kind start world

/-- What is known after a turn of a loop. -/
def TurnFact (following : β → Prop) (result : γ → Prop) : Turn β γ → Prop
  | .next frame => following frame
  | .done value => result value

section Spares

variable {kind wide : Event V → Prop} {fact : α → Prop} {program : Exec V α}

theorem Spares.pure {value : α} (known : fact value) : Spares kind fact (pure value) :=
  fun _ => .pure fun _ grown => ⟨known, grown⟩

theorem Spares.throw {fault : Fault} (other : fault ≠ .nullCall) :
    Spares kind fact (throw fault : Exec V α) :=
  fun _ => .throw fun _ grown => ⟨other, grown⟩

theorem Spares.bind {known : β → Prop} {first : Exec V β} {rest : β → Exec V α}
    (head : Spares kind known first) (tail : ∀ value, known value → Spares kind fact (rest value)) :
    Spares kind fact (first >>= rest) :=
  fun start => .bind (head start) fun value world holds => tail value holds.1 start world holds.2

theorem Spares.ite {condition : Prop} [Decidable condition] {other : Exec V α}
    (positive : condition → Spares kind fact program)
    (negative : ¬ condition → Spares kind fact other) :
    Spares kind fact (if condition then program else other) :=
  fun start => .ite (fun yes => positive yes start) fun no => negative no start

theorem Spares.weaken {known : α → Prop} (spares : Spares kind fact program)
    (wider : ∀ event, kind event → wide event) (weaker : ∀ value, fact value → known value) :
    Spares wide known program := by
  intro start world grown
  have outcome := spares world world (.refl kind world)
  cases run : program world with
  | ok value next =>
    rw [run] at outcome
    exact ⟨weaker value outcome.1, grown.trans outcome.2 wider⟩
  | error fault next =>
    rw [run] at outcome
    exact ⟨outcome.1, grown.trans outcome.2 wider⟩

theorem Spares.loop {body : β → Exec V (Turn β γ)} (following : β → Prop) {result : γ → Prop}
    (turn : ∀ frame, following frame → Spares kind (TurnFact following result) (body frame))
    (fuel : Nat) {frame : β} (entry : following frame) :
    Spares kind result (loop .exhausted body fuel frame) := by
  induction fuel generalizing frame with
  | zero => exact .throw (by decide)
  | succ fuel inductionHypothesis =>
    refine .bind (turn frame entry) fun outcome known => ?_
    cases outcome with
    | next other => exact inductionHypothesis known
    | done value => exact .pure known

theorem Spares.emit {event : Event V} (ofKind : kind event) :
    Spares kind (fun _ => True) (emit event) :=
  fun _ _ grown => ⟨trivial, grown.event ofKind (Nat.le_refl _)⟩

theorem Spares.acquire {granted : List (Event V) → Bool} {event : Option Nat → Event V}
    (ofKind : ∀ address, kind (event address)) :
    Spares kind (fun _ => True) (acquire granted event) := by
  intro start world grown
  cases grant : granted world.events with
  | false =>
    rw [run_acquire_refused grant]
    exact ⟨trivial, grown.event (ofKind _) (Nat.le_refl _)⟩
  | true =>
    rw [run_acquire_granted grant]
    exact ⟨trivial, grown.event (ofKind _) (Nat.le_succ _)⟩

/-- The element that is read is one of the cells'. -/
theorem readCell_spares (cells : List (Slot (Element V))) (index : Nat) :
    Spares kind (fun found => ∀ element ∈ found, element.address ∈ pointees cells)
      (readCell cells index) := by
  unfold readCell
  cases found : cells[index]? with
  | none => exact .throw (by decide)
  | some cell =>
    cases cell with
    | indeterminate => exact .throw (by decide)
    | null => exact .pure fun _ none => by cases none
    | pointer element =>
      refine .pure fun other same => ?_
      cases same
      exact mem_pointees.mpr ⟨element, List.mem_of_getElem? found, rfl⟩

theorem writeCell_spares {cells : List (Slot (Element V))} {index : Nat}
    {content : Slot (Element V)} :
    Spares kind (fun cells' => pointees cells' ⊆ pointees [content] ++ pointees cells)
      (writeCell cells index content) :=
  .ite (fun _ => .pure pointees_set) fun _ => .throw (by decide)

theorem reportFailure_spares
    (ofKind : ∀ errorType errorNumber, kind (.stackFailure errorType errorNumber))
    (failureCallbackp : Bool) (errorType : GenericStackError) (errorNumber : Int) :
    Spares kind (fun _ => True) (reportFailure failureCallbackp errorType errorNumber) :=
  .ite (fun _ => .emit (ofKind _ _)) fun _ => .pure trivial

end Spares

/-! ### A growing stack -/

section Growing

variable {libc : Libc V} {fuel : Nat} {stack : GenericStack V}

/-- The same callbacks, and no element that was not there. -/
structure Tame (stack stack' : GenericStack V) : Prop where
  freeCallback : stack'.freeCallbackp = stack.freeCallbackp
  copyCallback : stack'.copyCallbackp = stack.copyCallbackp
  pointees : pointees stack'.bufpp ⊆ pointees stack.bufpp

theorem Tame.refl (stack : GenericStack V) : Tame stack stack :=
  ⟨rfl, rfl, List.Subset.refl _⟩

theorem Tame.trans {stack' stack'' : GenericStack V} (first : Tame stack stack')
    (second : Tame stack' stack'') : Tame stack stack'' :=
  ⟨second.freeCallback.trans first.freeCallback, second.copyCallback.trans first.copyCallback,
    List.Subset.trans second.pointees first.pointees⟩

theorem fillNull_spares {kind : Event V → Prop} (cells : List (Slot (Element V)))
    (first bound : Nat) :
    Spares kind (fun cells' => pointees cells' ⊆ pointees cells)
      (fillNull fuel cells first bound) := by
  refine .loop (fun frame : Nat × List (Slot (Element V)) => pointees frame.2 ⊆ pointees cells)
    (fun frame fewer => ?_) fuel (List.Subset.refl _)
  exact .ite (fun _ => .bind writeCell_spares fun cells' written =>
    .pure (List.Subset.trans written fewer)) fun _ => .pure fewer

theorem growBuffer_spares (stack : GenericStack V) :
    Spares OfGrowth (fun grown => Tame stack grown.2) (growBuffer libc fuel stack) := by
  refine .ite (fun _ => .bind (.acquire fun _ => rfl) fun granted _ => ?_) fun _ => .pure (.refl stack)
  cases granted with
  | none => exact .bind (reportFailure_spares (fun _ _ => rfl) _ _ _) fun _ _ => .pure (.refl stack)
  | some buffer =>
    exact .bind (fillNull_spares _ _ _) fun bufpp fewer =>
      .pure ⟨rfl, rfl, List.Subset.trans fewer pointees_resize⟩

/-- The push of `NULL` that the growth loop makes. -/
theorem genericStackPushi_spares (stack : GenericStack V) :
    Spares OfGrowth (fun pushed => Tame stack pushed.2) (genericStackPushi libc fuel stack none) := by
  refine .bind (growBuffer_spares stack) fun grown tame => ?_
  obtain ⟨goes, stack'⟩ := grown
  exact .ite (fun _ => .bind writeCell_spares fun bufpp written =>
    .pure (tame.trans ⟨rfl, rfl, written⟩)) fun _ => .pure tame

theorem growTo_spares (optionGrow : Bool) (stack : GenericStack V) (index : Nat) :
    Spares OfGrowth (Tame stack) (growTo libc fuel optionGrow stack index) := by
  refine .ite (fun _ => .loop (Tame stack) (fun stack' tame => ?_) fuel (.refl stack)) fun _ =>
    .pure (.refl stack)
  exact .ite (fun _ => .bind (genericStackPushi_spares stack') fun _ pushed =>
    .pure (tame.trans pushed)) fun _ => .pure tame

theorem genericStackGetp_spares (stack : GenericStack V) (index : Nat) :
    Spares OfGrowth (fun got => Tame stack got.2) (genericStackGetp libc fuel stack index) :=
  .bind (growTo_spares _ stack index) fun _ tame => .ite
    (fun _ => .bind (reportFailure_spares (fun _ _ => rfl) _ _ _) fun _ _ => .pure tame)
    fun _ => .bind (readCell_spares _ _) fun _ _ => .pure tame

end Growing

/-! ### Elements -/

section Elements

variable {libc : Libc V} {fuel : Nat} {stackOption : MarpaWrapperStackOption V}
  {output : Option (Element V)} {stack stack' : GenericStack V}

/-- The stack has the callbacks of `marpaWrapper_vb`, and where one of the user's is missing it
holds no element. -/
structure Spared (stackOption : MarpaWrapperStackOption V) (stack : GenericStack V) : Prop where
  freeCallback : stack.freeCallbackp =
    some (marpaWrapperStackFreeCallback stackOption.stackElementFreeCallbackp)
  copyCallback : stack.copyCallbackp =
    some (marpaWrapperStackCopyCallback stackOption.stackElementCopyCallbackp)
  hollow : Lacks stackOption → pointees stack.bufpp = []

theorem Spared.tame (spared : Spared stackOption stack) (tame : Tame stack stack') :
    Spared stackOption stack' :=
  ⟨tame.freeCallback.trans spared.freeCallback, tame.copyCallback.trans spared.copyCallback,
    fun lacks => List.subset_nil.mp (by rw [← spared.hollow lacks]; exact tame.pointees)⟩

/-- The same stack with other cells. -/
theorem Spared.cells (spared : Spared stackOption stack) {bufpp : List (Slot (Element V))}
    {stackSizei : Nat} (hollow : Lacks stackOption → pointees bufpp = []) :
    Spared stackOption { stack with bufpp, stackSizei } :=
  ⟨spared.freeCallback, spared.copyCallback, hollow⟩

theorem reportCallbackError_spares (failureCallbackp : Bool) (errnum : Int) :
    Spares (Unfunded stackOption output) (fun _ => True)
      (reportCallbackError failureCallbackp errnum) :=
  .ite (fun _ => reportFailure_spares (fun _ _ => ⟨trivial, fun _ => rfl⟩) _ _ _) fun _ =>
    .pure trivial

/-- Where both callbacks are given, the one that releases is called. -/
theorem callFreeCallback_spares (complete : ¬ Lacks stackOption) (element : Element V) :
    Spares (Unfunded stackOption output) (fun _ => True)
      (callFreeCallback (marpaWrapperStackFreeCallback stackOption.stackElementFreeCallbackp)
        element) := by
  intro start world grown
  unfold callFreeCallback marpaWrapperStackFreeCallback
  cases given : stackOption.stackElementFreeCallbackp with
  | none => exact absurd (.inl given) complete
  | some callback =>
    refine ⟨trivial, grown.event ⟨?_, fun _ => rfl⟩ (Nat.le_refl _)⟩
    exact complete

theorem callCopyCallback_spares (complete : ¬ Lacks stackOption) (source : Element V)
    (address : Nat) :
    Spares (Unfunded stackOption output) (fun _ => True)
      (callCopyCallback (marpaWrapperStackCopyCallback stackOption.stackElementCopyCallbackp) source
        address) := by
  intro start world grown
  unfold callCopyCallback marpaWrapperStackCopyCallback
  cases given : stackOption.stackElementCopyCallbackp with
  | none => exact absurd (.inr given) complete
  | some callback =>
    refine ⟨trivial, grown.event ⟨?_, fun _ => rfl⟩ (Nat.le_refl _)⟩
    exact complete

/-- A cell is cleared: where a callback is missing there is nothing to release. -/
theorem clearCell_spares (spared : Spared stackOption stack) {cells : List (Slot (Element V))}
    (hollow : Lacks stackOption → pointees cells = []) (index : Nat) :
    Spares (Unfunded stackOption output)
      (fun cells' => Lacks stackOption → pointees cells' = []) (clearCell stack cells index) := by
  refine .bind (readCell_spares cells index) fun found known => ?_
  cases found with
  | none => exact .pure hollow
  | some element =>
    have complete : ¬ Lacks stackOption := by
      intro lacks
      have member := known element rfl
      rw [hollow lacks] at member
      exact absurd member List.not_mem_nil
    have hands : Spares (Unfunded stackOption output) (fun _ => True)
        (handToFreeCallback stack element) := by
      unfold handToFreeCallback
      rw [spared.freeCallback]
      exact .bind (callFreeCallback_spares complete element) fun _ _ =>
        reportCallbackError_spares _ _
    exact .bind (.bind hands fun _ _ => .emit ⟨trivial, fun _ => rfl⟩) fun _ _ =>
      writeCell_spares.weaken (fun _ same => same) fun _ _ lacks => absurd lacks complete

/-- Where both callbacks are given an element is copied. -/
theorem copyElement_spares (complete : ¬ Lacks stackOption) (spared : Spared stackOption stack)
    (freed : Option (Element V)) (source : Element V) :
    Spares (Allowed stackOption output) (fun _ => True) (copyElement libc stack freed source) := by
  refine .bind (.acquire fun _ => trivial) fun granted _ => ?_
  cases granted with
  | none => exact .bind (reportFailure_spares (fun _ _ => trivial) _ _ _) fun _ _ => .pure trivial
  | some address =>
    refine .ite (fun _ => .throw nofun) fun _ => ?_
    simp only [spared.copyCallback]
    refine .bind ((callCopyCallback_spares complete source address).weaken (fun _ unfunded =>
      unfunded.1) fun _ known => known) fun _ _ => .bind ((reportCallbackError_spares _ _).weaken
        (fun _ unfunded => unfunded.1) fun _ known => known) fun _ _ => .pure trivial

/-- Where a callback is missing nothing but `NULL` is stored. -/
theorem genericStackSeti_spares (spared : Spared stackOption stack) (index : Nat)
    (empty : Lacks stackOption → output = none) :
    Spares (Allowed stackOption output) (fun stored => Spared stackOption stored.2)
      (genericStackSeti libc fuel stack index output) := by
  have wide (event : Event V) (unfunded : Unfunded stackOption output event) :
      Allowed stackOption output event := unfunded.1
  refine .bind ((growTo_spares _ stack index).weaken (fun event growth =>
    (OfGrowth.unfunded event growth).1) fun _ known => known) fun grown tame => ?_
  have spared' := spared.tame tame
  refine .ite (fun _ => .bind (reportFailure_spares (fun _ _ => trivial) _ _ _)
    fun _ _ => .pure spared') fun _ => ?_
  refine .bind ((clearCell_spares spared' spared'.hollow index).weaken wide fun _ known => known)
    fun bufpp hollow => ?_
  cases output with
  | none => exact .pure (spared'.cells hollow)
  | some source =>
    have complete : ¬ Lacks stackOption := fun lacks => by cases empty lacks
    refine .bind (copyElement_spares complete (spared'.cells hollow) _ source) fun copied _ => ?_
    cases copied with
    | none => exact .pure (spared'.cells hollow)
    | some newElement =>
      exact .bind writeCell_spares fun _ _ => .bind (.emit ⟨complete, rfl⟩) fun _ _ =>
        .pure (spared'.cells fun lacks => absurd lacks complete)

theorem genericStackDestroyv_spares (spared : Spared stackOption stack) :
    Spares (Unfunded stackOption output) (fun _ => True) (genericStackDestroyv fuel stack) := by
  refine .bind (.loop (fun frame : Nat × List (Slot (Element V)) =>
    Lacks stackOption → pointees frame.2 = []) (fun frame hollow => ?_) fuel spared.hollow)
    fun _ (_ : True) => .bind (.emit ⟨trivial, fun _ => rfl⟩) fun _ _ =>
      .emit ⟨trivial, fun _ => rfl⟩
  exact .ite (fun _ => .bind (clearCell_spares spared hollow _) fun _ known => .pure known)
    fun _ => .pure trivial

/-- A new stack holds no element. -/
theorem genericStackNewp_spares (elementSizei : Nat) :
    Spares (Allowed stackOption output) (fun created => ∀ stack ∈ created,
        Spared stackOption stack)
      (genericStackNewp libc fuel elementSizei
        (some (marpaWrapperGenericStackOption stackOption))) := by
  have none' : ∀ stack ∈ (none : Option (GenericStack V)), Spared stackOption stack :=
    fun _ absent => by cases absent
  have reported (errorType : GenericStackError) (errorNumber : Int) :
      Spares (Allowed stackOption output) (fun _ => True)
        (reportFailure true errorType errorNumber : Exec V Unit) :=
    reportFailure_spares (fun _ _ => trivial) _ _ _
  have asked (size : Nat) : Spares (Allowed stackOption output) (fun _ => True)
      (malloc libc size) := .acquire fun _ => trivial
  refine .ite (fun _ => .bind (reported _ _) fun _ _ => .pure none') fun _ =>
    .bind (asked _) fun granted _ => ?_
  cases granted with
  | none => exact .bind (reported _ _) fun _ _ => .pure none'
  | some address =>
    refine .bind (asked _) fun granted _ => ?_
    cases granted with
    | none =>
      exact .bind (reported _ _) fun _ _ => .bind (.emit trivial) fun _ _ =>
        .pure none'
    | some buffer =>
      refine .bind (fillNull_spares _ _ _) fun bufpp fewer => .pure fun stack created => ?_
      cases created
      exact ⟨rfl, rfl, fun _ => List.subset_nil.mp (List.Subset.trans fewer pointees_resize)⟩

/-! ### An output that waits -/

/-- Since `start` memory was granted. -/
def Paid (start world : World V) : Prop :=
  ∃ exchanges, world.events = start.events ++ exchanges ∧
    ∃ event ∈ exchanges, event.funds = true

theorem Paid.event {start world : World V} (paid : Paid start world) (event : Event V)
    (address : Nat) :
    Paid start { world with events := world.events ++ [event], nextAddress := address } := by
  obtain ⟨exchanges, record, funding, member, funds⟩ := paid
  exact ⟨exchanges ++ [event], by rw [record, List.append_assoc], funding,
    List.mem_append_left _ member, funds⟩

/-- A part of the work after the memory was granted: only the call of a missing callback stops
it. -/
def Pays (fact : α → Prop) (program : Exec V α) : Prop :=
  ∀ start, Triple (Paid start) program (fun value world => fact value ∧ Paid start world)
    fun fault world => fault = .nullCall ∧ Paid start world

theorem Pays.pure {fact : α → Prop} {value : α} (known : fact value) :
    Pays fact (pure value : Exec V α) :=
  fun _ => .pure fun _ paid => ⟨known, paid⟩

theorem Pays.bind {known : β → Prop} {fact : α → Prop} {first : Exec V β} {rest : β → Exec V α}
    (head : Pays known first) (tail : ∀ value, known value → Pays fact (rest value)) :
    Pays fact (first >>= rest) :=
  fun start => .bind (head start) fun value world holds => tail value holds.1 start world holds.2

theorem Pays.emit (event : Event V) : Pays (fun _ => True) (emit event) :=
  fun _ _ paid => ⟨trivial, paid.event event _⟩

theorem reportCallbackError_pays (failureCallbackp : Bool) (errnum : Int) :
    Pays (fun _ => True) (reportCallbackError failureCallbackp errnum : Exec V Unit) := by
  unfold reportCallbackError reportFailure
  by_cases failed : errnum ≠ 0
  · rw [if_pos failed]
    cases failureCallbackp with
    | true => exact .emit _
    | false => exact .pure trivial
  · rw [if_neg failed]
    exact .pure trivial

/-- The copy callback is called: it is missing, or the one that releases is. -/
theorem callCopyCallback_pays (lacks : Lacks stackOption) (source : Element V) (address : Nat) :
    Pays (fun _ => stackOption.stackElementFreeCallbackp = none)
      (callCopyCallback (marpaWrapperStackCopyCallback stackOption.stackElementCopyCallbackp) source
        address) := by
  intro start world paid
  unfold callCopyCallback marpaWrapperStackCopyCallback
  cases given : stackOption.stackElementCopyCallbackp with
  | none => exact ⟨rfl, paid⟩
  | some callback =>
    exact ⟨lacks.resolve_right (by rw [given]; exact Option.some_ne_none _), paid.event _ _⟩

/-- What holds at a fault while an output waits: `NULL` is called only after the memory for its
element was granted. -/
def WaitingFault (stackOption : MarpaWrapperStackOption V) (output : Option (Element V))
    (start : World V) (fault : Fault) (world : World V) : Prop :=
  (fault ≠ .nullCall ∧ Grown (Unfunded stackOption output) start world) ∨
    (fault = .nullCall ∧ Paid start world)

/-- What a part of the work leaves while an output waits: `unpaid` as long as the memory was not
granted, and `paid` since then. -/
def Waits (stackOption : MarpaWrapperStackOption V) (output : Option (Element V))
    (unpaid paid : α → Prop) (program : Exec V α) : Prop :=
  ∀ start, Triple (Grown (Unfunded stackOption output) start) program
    (fun value world => (unpaid value ∧ Grown (Unfunded stackOption output) start world) ∨
      (paid value ∧ Paid start world))
    (WaitingFault stackOption output start)

section Waits

variable {unpaid paid : α → Prop}

/-- A first part that does not ask for memory. -/
theorem Waits.after {known : β → Prop} {first : Exec V β} {rest : β → Exec V α}
    (head : Spares (Unfunded stackOption output) known first)
    (tail : ∀ value, known value → Waits stackOption output unpaid paid (rest value)) :
    Waits stackOption output unpaid paid (first >>= rest) := by
  intro start
  have first' : Triple (Grown (Unfunded stackOption output) start) first
      (fun value world => known value ∧ Grown (Unfunded stackOption output) start world)
      (WaitingFault stackOption output start) :=
    (head start).consequence (fun _ grown => grown) (fun _ _ known => known) fun _ _ left =>
      .inl left
  exact first'.bind fun value world holds => tail value holds.1 start world holds.2

/-- A first part that asks for memory. -/
theorem Waits.bind {unpaid' paid' : β → Prop} {first : Exec V β} {rest : β → Exec V α}
    (head : Waits stackOption output unpaid' paid' first)
    (before : ∀ value, unpaid' value → Waits stackOption output unpaid paid (rest value))
    (after : ∀ value, paid' value → Pays paid (rest value)) :
    Waits stackOption output unpaid paid (first >>= rest) := by
  intro start
  refine (head start).bind fun value world holds => ?_
  rcases holds with ⟨known, grown⟩ | ⟨known, granted⟩
  · exact before value known start world grown
  · have outcome := after value known start world granted
    cases run : rest value world with
    | ok result final =>
      rw [run] at outcome
      exact .inr outcome
    | error fault final =>
      rw [run] at outcome
      exact .inr outcome

theorem Waits.spares {known : α → Prop} {program : Exec V α}
    (spares : Spares (Unfunded stackOption output) known program)
    (weaker : ∀ value, known value → unpaid value) :
    Waits stackOption output unpaid paid program :=
  fun start => (spares start).consequence (fun _ grown => grown)
    (fun value _ holds => .inl ⟨weaker value holds.1, holds.2⟩) fun _ _ left => .inl left

theorem Waits.ite {condition : Prop} [Decidable condition] {program other : Exec V α}
    (positive : condition → Waits stackOption output unpaid paid program)
    (negative : ¬ condition → Waits stackOption output unpaid paid other) :
    Waits stackOption output unpaid paid (if condition then program else other) :=
  fun start => .ite (fun yes => positive yes start) fun no => negative no start

end Waits

theorem malloc_waits (size : Nat) :
    Waits stackOption output (fun granted => granted = none) (fun granted => granted.isSome = true)
      (malloc libc size) := by
  intro start world grown
  unfold malloc
  cases grant : libc.grants world.events size with
  | false =>
    rw [run_acquire_refused grant]
    have unfunded : Unfunded stackOption output (.malloc size none) := ⟨trivial, fun _ => rfl⟩
    exact .inl ⟨rfl, grown.event unfunded (Nat.le_refl _)⟩
  | true =>
    rw [run_acquire_granted grant]
    obtain ⟨exchanges, record, -⟩ := grown.record
    exact .inr ⟨rfl, exchanges ++ [.malloc size (some world.nextAddress)],
      by rw [record, List.append_assoc], _, List.mem_append_right _ List.mem_cons_self, rfl⟩

/-- An output that is copied, with nothing freed before: its memory is refused, or a callback that
is missing is called, or the one that releases is missing. -/
theorem copyElement_waits (lacks : Lacks stackOption) (spared : Spared stackOption stack)
    (source : Element V) :
    Waits stackOption output (fun copied => copied = none)
      (fun copied => copied.isSome = true ∧ stackOption.stackElementFreeCallbackp = none)
      (copyElement libc stack none source) := by
  refine .bind (malloc_waits _) (fun granted refused => ?_) fun granted there => ?_
  · subst refused
    have reported : Spares (Unfunded stackOption output)
        (fun copied : Option (Element V) => copied = none)
        (reportFailure stack.failureCallbackp .system enomem >>= fun _ => Pure.pure none) :=
      .bind (reportFailure_spares (fun _ _ => ⟨trivial, fun _ => rfl⟩) _ _ _) fun _ _ => .pure rfl
    exact .spares reported fun _ known => known
  · cases granted with
    | none => cases there
    | some address =>
      simp only [spared.copyCallback, Option.any_none, Bool.false_eq_true, if_false]
      exact .bind (callCopyCallback_pays lacks source address) fun _ missing =>
        .bind (reportCallbackError_pays _ _) fun _ _ => .pure ⟨rfl, missing⟩

/-- A cell of a stack without elements. -/
theorem clearCell_hollow {kind : Event V → Prop} {cells : List (Slot (Element V))}
    (hollow : pointees cells = []) (index : Nat) :
    Spares kind (fun cells' => cells' = cells ∧ index < cells.length)
      (clearCell stack cells index) := by
  have stopped {fault : Fault} (other : fault ≠ .nullCall) : Spares kind (fun _ => False)
      (throw fault : Exec V (Option (Element V))) := .throw other
  unfold clearCell readCell
  cases found : cells[index]? with
  | none => exact (stopped (by decide)).bind fun _ known => known.elim
  | some cell =>
    have inside : index < cells.length := (List.getElem?_eq_some_iff.mp found).1
    cases cell with
    | indeterminate => exact (stopped (by decide)).bind fun _ known => known.elim
    | null =>
      have absent : Spares kind (fun found : Option (Element V) => found = none) (pure none) :=
        .pure rfl
      refine absent.bind fun found absent => ?_
      subst absent
      exact .pure ⟨rfl, inside⟩
    | pointer element =>
      have member := mem_pointees.mpr ⟨element, List.mem_of_getElem? found, rfl⟩
      rw [hollow] at member
      exact absurd member List.not_mem_nil

theorem held_hollow {cells : List (Slot (Element V))} (hollow : pointees cells = []) (index : Nat) :
    cells[index]?.bind Slot.target? = none := by
  refine Option.eq_none_iff_forall_ne_some.mpr fun element found => ?_
  obtain ⟨cell, here, target⟩ := Option.bind_eq_some_iff.mp found
  cases cell with
  | pointer held =>
    have member := mem_pointees.mpr ⟨held, List.mem_of_getElem? here, rfl⟩
    rw [hollow] at member
    exact List.not_mem_nil member
  | indeterminate => cases target
  | null => cases target

/-- An output is stored where a callback is missing: nothing is stored as long as no memory is
granted, and afterwards the callback that releases is the one that is missing. -/
theorem genericStackSeti_waits (lacks : Lacks stackOption) (spared : Spared stackOption stack)
    (index : Nat) (source : Element V) :
    Waits stackOption output (fun stored => stored.1 = 0 ∧ Spared stackOption stored.2)
      (fun stored => stored.1 = 1 ∧ stackOption.stackElementFreeCallbackp = none)
      (genericStackSeti libc fuel stack index (some source)) := by
  refine .after ((growTo_spares _ stack index).weaken OfGrowth.unfunded fun _ known => known)
    fun stack' tame => ?_
  have spared' := spared.tame tame
  refine .ite (fun _ => .spares (.bind (reportFailure_spares
    (fun _ _ => ⟨trivial, fun _ => rfl⟩) _ _ _) fun _ _ => .pure ⟨rfl, spared'⟩)
      fun _ known => known) fun _ => ?_
  refine .after (clearCell_hollow (spared'.hollow lacks) index) fun bufpp cleared => ?_
  obtain ⟨rfl, inside⟩ := cleared
  rw [held_hollow (spared'.hollow lacks)]
  refine .bind (copyElement_waits lacks spared' source) (fun copied refused => ?_)
    fun copied there => ?_
  · subst refused
    exact .spares (.pure ⟨rfl, spared'⟩) fun _ known => known
  · obtain ⟨there, missing⟩ := there
    cases copied with
    | none => cases there
    | some newElement =>
      have written : Pays (fun _ => True)
          (writeCell stack'.bufpp index (.pointer newElement) : Exec V _) := by
        rw [writeCell, if_pos inside]
        exact .pure trivial
      exact .bind written fun _ _ => .bind (.emit _) fun _ _ => .pure ⟨rfl, missing⟩

end Elements

end MarpaWrapper
