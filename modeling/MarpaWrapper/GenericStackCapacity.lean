/-
This file asks whether the value stack stays inside its buffer, whatever the
allocator grants. The buffer doubles and halves in bytes of pointers, but its
first block is measured in elements. Where that block has room for four
pointers, every reachable stack has as many cells as `allocSizei` says, and no
operation touches a cell beyond them. Where it has not, `genericStack_newp`
itself writes past its end.

An access beyond a block is a fault of its own, so that an operation that meets
no such fault on a stack whose buffer is cut at `allocSizei` only uses slots
below it.
-/

import MarpaWrapper.GenericStackRefinement

namespace MarpaWrapper

open Effects

variable {V α β : Type}

/-! ### Staying inside -/

/-- Whatever the world, the program accesses no cell outside a block, and what it returns meets
`after`. -/
def StaysInside (program : Exec V α) (after : α → Prop) : Prop :=
  Triple (fun _ => True) program (fun value _ => after value) fun fault _ => fault ≠ .outOfBounds

theorem StaysInside.pure {value : α} {after : α → Prop} (holds : after value) :
    StaysInside (pure value : Exec V α) after :=
  Triple.pure fun _ _ => holds

theorem StaysInside.throw {fault : Fault} {after : α → Prop} (other : fault ≠ .outOfBounds) :
    StaysInside (throw fault : Exec V α) after :=
  Triple.throw fun _ _ => other

theorem StaysInside.bind {program : Exec V α} {rest : α → Exec V β} {between : α → Prop}
    {after : β → Prop} (head : StaysInside program between)
    (tail : ∀ value, between value → StaysInside (rest value) after) :
    StaysInside (program >>= rest) after :=
  Triple.bind head fun value state holds => tail value holds state trivial

/-- The same, when nothing is said of the first value. -/
theorem StaysInside.andThen {program : Exec V α} {rest : α → Exec V β} {after : β → Prop}
    (head : StaysInside program fun _ => True) (tail : ∀ value, StaysInside (rest value) after) :
    StaysInside (program >>= rest) after :=
  .bind head fun value _ => tail value

theorem StaysInside.ite {condition : Prop} [Decidable condition] {program other : Exec V α}
    {after : α → Prop} (positive : condition → StaysInside program after)
    (negative : ¬ condition → StaysInside other after) :
    StaysInside (if condition then program else other) after :=
  Triple.ite positive negative

/-- What a turn of a loop leads to. -/
def TurnMeets {β γ : Type} (invariant : β → Prop) (result : γ → Prop) : Turn β γ → Prop
  | .next frame => invariant frame
  | .done value => result value

theorem StaysInside.loop {γ : Type} {body : β → Exec V (Turn β γ)} (invariant : β → Prop)
    {result : γ → Prop}
    (turn : ∀ frame, invariant frame → StaysInside (body frame) (TurnMeets invariant result))
    (fuel : Nat) {frame : β} (entry : invariant frame) :
    StaysInside (loop .exhausted body fuel frame) result := by
  intro world _
  refine Triple.loop (fun frame (_ : World V) => invariant frame) (fun frame state holds => ?_)
    (fun _ _ _ => nofun) fuel frame world entry
  have outcome := turn frame holds state trivial
  cases run : body frame state with
  | ok value next => rw [run] at outcome; cases value <;> exact outcome
  | error fault next => rw [run] at outcome; exact outcome

theorem StaysInside.acquire (granted : List (Event V) → Bool) (event : Option Nat → Event V) :
    StaysInside (acquire granted event) fun _ => True := by
  intro world _
  cases grant : granted world.events with
  | false => rw [run_acquire_refused grant]; trivial
  | true => rw [run_acquire_granted grant]; trivial

theorem StaysInside.emit (event : Event V) : StaysInside (emit event) fun _ => True :=
  fun _ _ => trivial

section Stack

variable {libc : Libc V} {fuel : Nat} {stack : GenericStack V}
  {cells : List (Slot (Element V))} {index : Nat}

theorem reportFailure_inside (failureCallbackp : Bool) (errorType : GenericStackError)
    (errorNumber : Int) :
    StaysInside (V := V) (reportFailure failureCallbackp errorType errorNumber) fun _ => True :=
  StaysInside.ite (fun _ => .emit _) fun _ => .pure trivial

theorem readCell_inside (inside : index < cells.length) :
    StaysInside (readCell (V := V) cells index) fun _ => True := by
  unfold readCell
  rw [List.getElem?_eq_getElem inside]
  cases cells[index] with
  | indeterminate => exact .throw nofun
  | null => exact .pure trivial
  | pointer target => exact .pure trivial

theorem writeCell_inside (inside : index < cells.length) (content : Slot (Element V)) :
    StaysInside (V := V) (writeCell cells index content) fun cells' =>
      cells' = cells.set index content := by
  unfold writeCell
  rw [if_pos inside]
  exact .pure rfl

/-- A loop that an `unsigned int` can count sets the cells to `NULL`; one that it cannot count
does not return. -/
theorem fillNull_inside {first bound : Nat} (inside : bound ≤ cells.length)
    (below : first ≤ bound) :
    StaysInside (V := V) (fillNull fuel cells first bound) fun cells' =>
      bound < uintModulus ∧ cells' = nulled cells first bound := by
  by_cases narrow : bound < uintModulus
  · rw [fillNull, Nat.mod_eq_of_lt (Nat.lt_of_le_of_lt below narrow)]
    refine .loop (fun frame => frame.1 ≤ bound ∧ frame.2.length = cells.length ∧
      nulled frame.2 frame.1 bound = nulled cells first bound) (fun frame holds world _ => ?_) fuel
      ⟨below, rfl, rfl⟩
    obtain ⟨reached, length, same⟩ := holds
    by_cases more : frame.1 < bound
    · rw [fillNullTurn_next (by omega) more (by omega)]
      exact ⟨more, List.length_set.trans length, (nulled_set _ more).trans same⟩
    · rw [fillNullTurn_done (Nat.not_lt.mp more)]
      exact ⟨narrow, by rw [← same, nulled_of_le _ (Nat.not_lt.mp more)]⟩
  · intro world _
    rw [fillNull_exhausted fuel first (Nat.not_lt.mp narrow) inside]
    show Fault.exhausted ≠ .outOfBounds
    decide

/-! ### The operations -/

theorem growBuffer_inside (sound : stack.Sound) :
    StaysInside (growBuffer libc fuel stack) fun result =>
      result.2.Sound ∧ stack.SameSettings result.2 ∧
        (result.1 = true → result.2.stackSizei < result.2.allocSizei) := by
  have used := sound.used
  have bounded := sound.bounded
  unfold growBuffer
  refine StaysInside.ite (fun full => ?_) fun room =>
    .pure ⟨sound, .refl stack, fun _ => Nat.not_le.mp room⟩
  have size : stack.allocSizei * 2 % sizeModulus = stack.allocSizei * 2 :=
    Nat.mod_eq_of_lt (by simp only [sizeModulus]; omega)
  have bytes : stack.allocSizei * 2 * pointerSize % sizeModulus =
      stack.allocSizei * 2 * pointerSize :=
    Nat.mod_eq_of_lt (by simp only [sizeModulus, pointerSize]; omega)
  simp only [size, bytes]
  refine .bind (.acquire _ _) fun buffer _ => ?_
  cases buffer with
  | none =>
    exact .bind (reportFailure_inside _ _ _) fun _ _ => .pure ⟨sound, .refl stack,
      fun grown => absurd grown Bool.false_ne_true⟩
  | some buffer =>
    refine .bind (fillNull_inside (by rw [resize_length]; simp only [pointerSize]; omega)
      (by omega)) fun cells filled => ?_
    obtain ⟨narrow, rfl⟩ := filled
    -- A capacity of 2 ^ 32 is not reached, because the loop over it does not return.
    have small : stack.allocSizei < 2 ^ 31 := by
      unfold uintModulus at narrow
      omega
    refine .pure ⟨sound.enlarged buffer small, ⟨rfl, rfl, rfl, rfl, rfl, rfl⟩, fun _ => ?_⟩
    show stack.stackSizei < stack.allocSizei * 2
    have positive : 0 < stack.allocSizei := by
      obtain ⟨doublings, size⟩ := sound.doubled
      rw [size]
      exact Nat.mul_pos (by decide) (Nat.two_pow_pos _)
    omega

theorem copyElement_inside (callable : stack.Callable) (freed : Option (Element V))
    (source : Element V) : StaysInside (copyElement libc stack freed source) fun _ => True := by
  refine .bind (.acquire _ _) fun address _ => ?_
  cases address with
  | none => exact .bind (reportFailure_inside _ _ _) fun _ _ => .pure trivial
  | some address =>
    refine .ite (fun _ => .throw nofun) fun _ => ?_
    cases given : stack.copyCallbackp with
    | none => exact .pure trivial
    | some callback =>
      refine .andThen (fun world _ => ?_) fun _ =>
        .andThen (.ite (fun _ => reportFailure_inside _ _ _) fun _ => .pure trivial) fun _ =>
          .pure trivial
      obtain ⟨errnum, value, answer⟩ := callable.copy callback given world.events source
      rw [callCopyCallback_run _ answer]
      trivial

theorem releaseElement_inside (callable : stack.Callable) (element : Element V) :
    StaysInside (releaseElement stack element) fun _ => True := by
  refine .andThen ?_ fun _ => .emit _
  unfold handToFreeCallback
  cases given : stack.freeCallbackp with
  | none => exact .pure trivial
  | some callback =>
    refine .andThen (fun world _ => ?_) fun _ =>
      .ite (fun _ => reportFailure_inside _ _ _) fun _ => .pure trivial
    obtain ⟨errnum, answer⟩ := callable.free callback given world.events element
    rw [callFreeCallback_run answer]
    trivial

/-- A cell is `NULL` after it was cleared. -/
theorem clearCell_inside (callable : stack.Callable) (inside : index < cells.length) :
    StaysInside (clearCell stack cells index) fun cells' => cells' = cells.set index .null := by
  have read : readCell cells index = (match cells[index] with
      | .indeterminate => throw .indeterminate
      | .null => pure none
      | .pointer target => pure (some target) : Exec V (Option (Element V))) := by
    unfold readCell
    rw [List.getElem?_eq_getElem inside]
    cases cells[index] <;> rfl
  unfold clearCell
  rw [read]
  cases cell : cells[index] with
  | indeterminate => exact fun _ _ => nofun
  | null =>
    refine .pure ?_
    rw [← cell, List.set_getElem_self]
  | pointer element =>
    show StaysInside (releaseElement stack element >>= fun _ => writeCell cells index .null) _
    exact .andThen (releaseElement_inside callable element) fun _ => writeCell_inside inside _

theorem genericStackPushi_inside (sound : stack.Sound) (callable : stack.Callable)
    (elementp : Option (Element V)) :
    StaysInside (genericStackPushi libc fuel stack elementp) fun result =>
      result.2.Sound ∧ stack.SameSettings result.2 := by
  refine .bind (growBuffer_inside sound) fun grown holds => ?_
  obtain ⟨sound', same, space⟩ := holds
  refine StaysInside.ite (fun more => ?_) fun _ => .pure ⟨sound', same⟩
  have below := space more
  have written (content : Slot (Element V)) (determinate : content ≠ .indeterminate) :
      GenericStack.Sound { grown.2 with
        bufpp := grown.2.bufpp.set grown.2.stackSizei content
        stackSizei := (grown.2.stackSizei + 1) % sizeModulus } := by
    rw [sound'.size_mod]
    exact (sound'.became_of_set determinate below below).sound
  have inside := Nat.lt_of_lt_of_le below sound'.room
  cases elementp with
  | none =>
    refine .bind (writeCell_inside inside _) fun cells written' => .pure ?_
    rw [written']
    exact ⟨written .null nofun, same.trans ⟨rfl, rfl, rfl, rfl, rfl, rfl⟩⟩
  | some element =>
    refine .bind (copyElement_inside (callable.of_sameSettings same) _ element) fun copied _ => ?_
    cases copied with
    | none => exact .pure ⟨sound', same⟩
    | some newElement =>
      refine .bind (writeCell_inside inside _) fun cells written' => .bind (.emit _) fun _ _ =>
        .pure ?_
      rw [written']
      exact ⟨written (.pointer newElement) nofun, same.trans ⟨rfl, rfl, rfl, rfl, rfl, rfl⟩⟩

theorem genericStackPopp_inside (sound : stack.Sound) :
    StaysInside (genericStackPopp libc stack) fun result =>
      result.2.Sound ∧ stack.SameSettings result.2 := by
  have used := sound.used
  have bounded := sound.bounded
  unfold genericStackPopp
  refine StaysInside.ite (fun _ => .bind (reportFailure_inside _ _ _) fun _ _ =>
    .pure ⟨sound, .refl stack⟩) fun occupied => ?_
  have smaller : GenericStack.Sound { stack with stackSizei := stack.stackSizei - 1 } :=
    ⟨bounded, sound.room, Nat.le_trans (Nat.sub_le _ _) used, sound.written, sound.beyond,
      sound.doubled⟩
  have doubled : (stack.stackSizei - 1) * 2 % sizeModulus = (stack.stackSizei - 1) * 2 :=
    Nat.mod_eq_of_lt (by simp only [sizeModulus]; omega)
  have bytes : stack.allocSizei / 2 * pointerSize % sizeModulus =
      stack.allocSizei / 2 * pointerSize :=
    Nat.mod_eq_of_lt (by simp only [sizeModulus, pointerSize]; omega)
  refine .bind (readCell_inside (by have room := sound.room; omega)) fun value _ => ?_
  simp only [doubled, bytes]
  refine StaysInside.ite (fun shrinks => ?_) fun _ =>
    .pure ⟨smaller, ⟨rfl, rfl, rfl, rfl, rfl, rfl⟩⟩
  refine .bind (.acquire _ _) fun buffer _ => ?_
  cases buffer with
  | none => exact .pure ⟨smaller, ⟨rfl, rfl, rfl, rfl, rfl, rfl⟩⟩
  | some buffer =>
    have popped := sound.popped buffer
    rw [GenericStack.popped, if_pos (show stack.Shrinks from shrinks)] at popped
    exact .pure ⟨popped.sound, popped.settings⟩

/-- A growth that returns has reached the index, or was not allowed. -/
theorem growTo_inside_of_sound (sound : stack.Sound) (callable : stack.Callable)
    (optionGrow : Bool) :
    StaysInside (growTo libc fuel optionGrow stack index) fun grown =>
      grown.Sound ∧ stack.SameSettings grown ∧ (optionGrow = true → index < grown.allocSizei) := by
  refine StaysInside.ite (fun _ => ?_) fun kept => .pure ⟨sound, .refl stack, fun grows =>
    Nat.not_le.mp fun above => kept ⟨above, grows⟩⟩
  refine .loop (fun grown => grown.Sound ∧ stack.SameSettings grown) (fun grown holds => ?_) fuel
    ⟨sound, .refl stack⟩
  obtain ⟨sound', same⟩ := holds
  refine .ite (fun _ => ?_) fun reached => .pure ⟨sound', same, fun _ => Nat.not_le.mp reached⟩
  exact .bind (genericStackPushi_inside sound' (callable.of_sameSettings same) none)
    fun pushed holds => .pure ⟨holds.1, same.trans holds.2⟩

theorem genericStackGetp_inside (sound : stack.Sound) (callable : stack.Callable) :
    StaysInside (genericStackGetp libc fuel stack index) fun result =>
      result.2.Sound ∧ stack.SameSettings result.2 := by
  refine .bind (growTo_inside_of_sound sound callable _) fun grown holds => ?_
  obtain ⟨sound', same, reached⟩ := holds
  refine StaysInside.ite (fun _ => .bind (reportFailure_inside _ _ _) fun _ _ => .pure ⟨sound', same⟩)
    fun accepted => ?_
  have below : index < grown.allocSizei := by
    by_cases grows : stack.optionGrowOnGeti = true
    · exact reached grows
    · have used := sound'.used
      rw [same.optionGrowOnGeti] at accepted
      exact Nat.lt_of_lt_of_le (Nat.not_le.mp fun above => accepted ⟨above, grows⟩) used
  exact .bind (readCell_inside (Nat.lt_of_lt_of_le below sound'.room)) fun _ _ =>
    .pure ⟨sound', same⟩

theorem genericStackSeti_inside (sound : stack.Sound) (callable : stack.Callable)
    (elementp : Option (Element V)) :
    StaysInside (genericStackSeti libc fuel stack index elementp) fun result =>
      result.2.Sound ∧ stack.SameSettings result.2 := by
  refine .bind (growTo_inside_of_sound sound callable _) fun grown holds => ?_
  obtain ⟨sound', same, reached⟩ := holds
  refine StaysInside.ite (fun _ => .bind (reportFailure_inside _ _ _) fun _ _ => .pure ⟨sound', same⟩)
    fun accepted => ?_
  have used := sound'.used
  have below : index < grown.allocSizei := by
    by_cases grows : stack.optionGrowOnSeti = true
    · exact reached grows
    · rw [same.optionGrowOnSeti] at accepted
      exact Nat.lt_of_lt_of_le (Nat.not_le.mp fun above => accepted ⟨above, grows⟩) used
  have inside := Nat.lt_of_lt_of_le below sound'.room
  have size : max grown.stackSizei ((index + 1) % uintModulus) ≤ grown.allocSizei := by
    have smaller : (index + 1) % uintModulus ≤ index + 1 := Nat.mod_le _ _
    omega
  have cleared (size : Nat) (used : size ≤ grown.allocSizei) : GenericStack.Sound { grown with
      bufpp := grown.bufpp.set index .null, stackSizei := size } :=
    (sound'.became_of_set (fun same : Slot.null = _ => nomatch same) below used).sound
  have stored (newElement : Element V) : GenericStack.Sound { grown with
      bufpp := (grown.bufpp.set index .null).set index (.pointer newElement)
      stackSizei := max grown.stackSizei ((index + 1) % uintModulus) } := by
    rw [List.set_set]
    exact (sound'.became_of_set (fun same : Slot.pointer newElement = _ => nomatch same) below
      size).sound
  refine .bind (clearCell_inside (callable.of_sameSettings same) inside) fun cells clear => ?_
  rw [clear]
  have same' : stack.SameSettings { grown with bufpp := grown.bufpp.set index .null } :=
    same.trans ⟨rfl, rfl, rfl, rfl, rfl, rfl⟩
  cases elementp with
  | none => exact .pure ⟨cleared _ size, same'.trans ⟨rfl, rfl, rfl, rfl, rfl, rfl⟩⟩
  | some element =>
    refine .bind (copyElement_inside (callable.of_sameSettings same') _ element) fun copied _ => ?_
    cases copied with
    | none => exact .pure ⟨cleared _ used, same'⟩
    | some newElement =>
      refine .bind (writeCell_inside (by rw [List.length_set]; exact inside) _) fun cells written =>
        .bind (.emit _) fun _ _ => .pure ?_
      rw [written]
      exact ⟨stored newElement, same'.trans ⟨rfl, rfl, rfl, rfl, rfl, rfl⟩⟩

theorem genericStackDestroyv_inside (sound : stack.Sound) (callable : stack.Callable) :
    StaysInside (genericStackDestroyv fuel stack) fun _ => True := by
  refine .andThen ?_ fun _ => .andThen (.emit _) fun _ => .emit _
  refine .loop (fun frame => frame.2.length = stack.bufpp.length) (fun frame length => ?_) fuel rfl
  refine .ite (fun below => ?_) fun _ => .pure trivial
  have inside : frame.1 < frame.2.length := by
    rw [length]
    exact Nat.lt_of_lt_of_le below sound.room
  refine .bind (clearCell_inside callable inside) fun cells clear => .pure ?_
  show cells.length = _
  rw [clear, List.length_set, length]

theorem stackCall_inside (sound : stack.Sound) (callable : stack.Callable)
    (call : StackCall (Element V)) :
    StaysInside (stackCall libc fuel call stack) fun result =>
      result.2.Sound ∧ stack.SameSettings result.2 := by
  cases call with
  | pushi elementp =>
    exact .bind (genericStackPushi_inside sound callable elementp) fun _ holds => .pure holds
  | popp => exact .bind (genericStackPopp_inside sound) fun _ holds => .pure holds
  | getp index => exact .bind (genericStackGetp_inside sound callable) fun _ holds => .pure holds
  | seti index elementp =>
    exact .bind (genericStackSeti_inside sound callable elementp) fun _ holds => .pure holds
  | sizei => exact .pure ⟨sound, .refl stack⟩

/-- A sequence of calls keeps the buffer sound. -/
theorem stackCalls_sound (calls : List (StackCall (Element V))) {stack stack' : GenericStack V}
    (sound : stack.Sound) (callable : stack.Callable) {answers : List (StackAnswer (Element V))}
    {world world' : World V}
    (run : runCalls (stackCall libc fuel) calls stack world = .ok (answers, stack') world') :
    stack'.Sound ∧ stack'.Callable := by
  induction calls generalizing stack answers world with
  | nil =>
    cases run
    exact ⟨sound, callable⟩
  | cons call rest inductionHypothesis =>
    obtain ⟨answer, others, between, state, head, tail, -⟩ := runCalls_cons_eq_ok run
    obtain ⟨sound', same⟩ := (stackCall_inside sound callable call).ok trivial head
    exact inductionHypothesis sound' (callable.of_sameSettings same) tail

/-! ### Every reachable stack -/

/-- The sizes of a stack: the block that was requested has a cell for each of the `allocSizei` slots,
the entries in use are among them, and their number is four times a power of two. A block has
as many cells as the bytes that were requested for it have room for. -/
structure GenericStack.WithinBuffer (stack : GenericStack V) : Prop where
  capacity : stack.allocSizei ≤ stack.bufpp.length
  used : stack.stackSizei ≤ stack.allocSizei
  doubled : ∃ doublings, stack.allocSizei = stackInitSize * 2 ^ doublings

/-- The stack with a buffer that ends at `allocSizei`. -/
def GenericStack.cut (stack : GenericStack V) : GenericStack V :=
  { stack with bufpp := stack.bufpp.take stack.allocSizei }

/-- A stack whose operations, and whose end, only access slots below `allocSizei`. -/
def GenericStack.AccessesSlots (libc : Libc V) (fuel : Nat) (stack : GenericStack V)
    (world : World V) : Prop :=
  (∀ call fault world', stackCall libc fuel call stack.cut world = .error fault world' →
    fault ≠ .outOfBounds) ∧
  ∀ fault world', genericStackDestroyv fuel stack.cut world = .error fault world' →
    fault ≠ .outOfBounds

/-- The creation of a stack stays inside its blocks, and so does every stack that a sequence of
calls reaches from it. -/
def StackStaysInside (libc : Libc V) (fuel elementSizei : Nat)
    (optionp : Option (GenericStackOption V)) (world : World V) : Prop :=
  (∀ fault world', genericStackNewp libc fuel elementSizei optionp world = .error fault world' →
    fault ≠ .outOfBounds) ∧
  ∀ stack world' calls answers stack' world'',
    genericStackNewp libc fuel elementSizei optionp world = .ok (some stack) world' →
    runCalls (stackCall libc fuel) calls stack world' = .ok (answers, stack') world'' →
    stack'.WithinBuffer ∧ stack'.AccessesSlots libc fuel world''

theorem GenericStack.Sound.cut (sound : stack.Sound) : stack.cut.Sound := by
  have cells (index : Nat) (below : index < stack.allocSizei) :
      stack.cut.bufpp[index]? = stack.bufpp[index]? := List.getElem?_take_of_lt below
  refine ⟨sound.bounded, ?_, sound.used, fun index below => ?_, fun index above => ?_,
    sound.doubled⟩
  · show stack.allocSizei ≤ (stack.bufpp.take stack.allocSizei).length
    rw [List.length_take]
    exact Nat.le_min.mpr ⟨Nat.le_refl _, sound.room⟩
  · rw [cells index below]
    exact sound.written index below
  · have outside : stack.cut.bufpp[index]? = none :=
      List.getElem?_eq_none (Nat.le_trans (List.length_take_le _ _) above)
    rw [GenericStack.entry, outside]
    rfl

theorem GenericStack.Sound.accessesSlots (sound : stack.Sound) (callable : stack.Callable)
    (world : World V) : stack.AccessesSlots libc fuel world :=
  ⟨fun call _ _ run => (stackCall_inside sound.cut ⟨callable.free, callable.copy⟩ call).error
      trivial run,
    fun _ _ run => (genericStackDestroyv_inside sound.cut ⟨callable.free, callable.copy⟩).error
      trivial run⟩

/-- With room for four pointers, a new stack is sound, whatever is granted. -/
theorem genericStackNewp_inside {elementSizei : Nat} (room : HasRoom elementSizei)
    (optionp : Option (GenericStackOption V)) :
    StaysInside (genericStackNewp libc fuel elementSizei optionp) fun created =>
      ∀ stack ∈ created, stack.Fresh optionp := by
  have cells : stackInitSize ≤ (resize [] (elementSizei * stackInitSize % sizeModulus) :
      List (Slot (Element V))).length := by
    rw [resize_length]
    exact (Nat.le_div_iff_mul_le (by decide)).mpr room
  unfold genericStackNewp
  refine .ite (fun _ => .andThen (reportFailure_inside _ _ _) fun _ =>
    .pure fun _ member => nomatch member) fun _ => .andThen (.acquire _ _) fun address => ?_
  cases address with
  | none =>
    exact .andThen (reportFailure_inside _ _ _) fun _ => .pure fun _ member => nomatch member
  | some address =>
    refine .andThen (.acquire _ _) fun buffer => ?_
    cases buffer with
    | none =>
      exact .andThen (reportFailure_inside _ _ _) fun _ => .andThen (.emit _) fun _ =>
        .pure fun _ member => nomatch member
    | some buffer =>
      refine .bind (fillNull_inside cells (Nat.zero_le _)) fun bufpp filled => .pure ?_
      intro stack created
      cases created
      exact GenericStack.fresh_of_nulled room filled.2 rfl rfl rfl rfl rfl rfl

/-- Without that room, the creation writes past its block when its requests are granted. -/
theorem genericStackNewp_outside {elementSizei : Nat} (positive : 0 < elementSizei)
    (short : ¬ HasRoom elementSizei) (optionp : Option (GenericStackOption V)) (world : World V) :
    ∃ world', genericStackNewp Libc.generous 5 elementSizei optionp world =
      .error .outOfBounds world' := by
  have cells : (resize [] (elementSizei * stackInitSize % sizeModulus) :
      List (Slot (Element V))).length < stackInitSize := by
    rw [resize_length]
    exact Nat.not_le.mp fun inside => short ((Nat.le_div_iff_mul_le (by decide)).mp inside)
  simp only [genericStackNewp, if_neg (Nat.not_le.mpr positive)]
  rw [run_bind_ok (malloc_run Libc.generous_alwaysGrants _ world)]
  simp only
  rw [run_bind_ok (malloc_run Libc.generous_alwaysGrants _ _)]
  simp only
  rw [run_bind_error (fillNull_outOfBounds (by decide) cells (by decide) (Nat.zero_le _))]
  exact ⟨_, rfl⟩

/-- The value stack stays inside its buffer, whatever the allocator grants, if and only if the block
of four elements that it begins with has room for four pointers. -/
theorem genericStack_stays_inside_iff {elementSizei : Nat} (positive : 0 < elementSizei)
    {optionp : Option (GenericStackOption V)} (callable : ∀ option ∈ optionp, option.Callable) :
    (∀ libc fuel world, StackStaysInside libc fuel elementSizei optionp world) ↔
      HasRoom elementSizei := by
  constructor
  · intro inside
    by_contra short
    obtain ⟨world', run⟩ := genericStackNewp_outside positive short optionp ({} : World V)
    exact (inside Libc.generous 5 {}).1 _ _ run rfl
  · intro room libc fuel world
    refine ⟨fun fault _ run => (genericStackNewp_inside room optionp).error trivial run,
      fun stack world' calls answers stack' world'' created run => ?_⟩
    have fresh := (genericStackNewp_inside room optionp).ok trivial created stack rfl
    obtain ⟨sound, callable'⟩ := stackCalls_sound calls fresh.sound (fresh.callable callable) run
    exact ⟨⟨sound.room, sound.used, sound.doubled⟩, sound.accessesSlots callable' world''⟩

/-- Elements of the size of a pointer, with no callbacks. -/
theorem genericStack_stays_inside_iff_pointers :
    (∀ libc fuel world, StackStaysInside (V := Nat) libc fuel 8 none world) ↔ HasRoom 8 :=
  genericStack_stays_inside_iff (by decide) fun _ member => nomatch member

/-- The creation of a stack of `int` elements writes past its block of sixteen bytes. -/
theorem genericStack_stays_inside_int :
    ¬ StackStaysInside (V := Nat) Libc.generous 5 4 none {} := by
  intro inside
  obtain ⟨world', run⟩ := genericStackNewp_outside (show 0 < 4 by decide)
    (show ¬ HasRoom 4 by decide) none ({} : World Nat)
  exact inside.1 _ _ run rfl

end Stack

end MarpaWrapper
