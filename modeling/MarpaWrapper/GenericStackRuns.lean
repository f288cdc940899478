/-
This file computes what each function of the value stack does, from any sound
stack and with an allocator that grants every request. `GenericStack.Sound` is
the invariant of the buffer: the allocated cells lie inside the block, the used
ones inside the allocated ones, every allocated cell has been written, and the
allocated size is the initial one doubled some number of times.

A stack is read as the table of its entries. Every function is described by the
entries it leaves, by the elements it stores and by the elements it gives to
the free callback; nothing of how the buffer grows and shrinks is left in these
descriptions except which cells keep an old pointer.

The counter of the fill loop is 32 bits wide, so a buffer of more than `2 ^ 31`
cells is never reached: doubling one of `2 ^ 31` cells does not end.
-/

import MarpaWrapper.Tables
import MarpaWrapper.GenericStack

namespace MarpaWrapper

open Effects Tables

variable {V : Type}

/-! ### The record of a stack operation -/

/-- The exchanges a function of the stack makes. -/
def Event.ofStack : Event V → Bool
  | .malloc .. | .realloc .. | .free .. => true
  | .stackStore .. | .stackCopy .. | .stackFree .. | .stackFailure .. => true
  | _ => false

/-- The elements that were written into a cell, in order. -/
def storedIn (events : List (Event V)) : List (Element V) :=
  events.filterMap fun
    | .stackStore element => some element
    | _ => none

/-- The elements the stack gave to the free callback, in order. -/
def releasedIn (events : List (Event V)) : List (Element V) :=
  events.filterMap fun
    | .stackFree element _ => some element
    | _ => none

theorem storedIn_append (first second : List (Event V)) :
    storedIn (first ++ second) = storedIn first ++ storedIn second :=
  List.filterMap_append

theorem releasedIn_append (first second : List (Event V)) :
    releasedIn (first ++ second) = releasedIn first ++ releasedIn second :=
  List.filterMap_append

/-- Between two worlds only the stack was at work: it stored `stored` and gave `released` to the
free callback. -/
structure Exchanged (world world' : World V) (stored released : List (Element V)) : Prop where
  events : ∃ exchanges, world'.events = world.events ++ exchanges ∧
    (∀ event ∈ exchanges, event.ofStack = true) ∧
    storedIn exchanges = stored ∧ releasedIn exchanges = released
  addresses : world.nextAddress ≤ world'.nextAddress
  grammar : world'.grammar = world.grammar

theorem Exchanged.refl (world : World V) : Exchanged world world [] [] :=
  ⟨⟨[], (List.append_nil _).symm, fun _ member => absurd member List.not_mem_nil, rfl, rfl⟩,
    Nat.le_refl _, rfl⟩

theorem Exchanged.trans {world world' world'' : World V}
    {stored stored' released released' : List (Element V)}
    (first : Exchanged world world' stored released)
    (second : Exchanged world' world'' stored' released') :
    Exchanged world world'' (stored ++ stored') (released ++ released') := by
  obtain ⟨exchanges, appended, ofStack, rfl, rfl⟩ := first.events
  obtain ⟨exchanges', appended', ofStack', rfl, rfl⟩ := second.events
  refine ⟨⟨exchanges ++ exchanges', ?_, ?_, storedIn_append _ _, releasedIn_append _ _⟩,
    Nat.le_trans first.addresses second.addresses, second.grammar.trans first.grammar⟩
  · rw [appended', appended, List.append_assoc]
  · intro event member
    rcases List.mem_append.mp member with left | right
    · exact ofStack event left
    · exact ofStack' event right

/-- One exchange of the stack. -/
theorem Exchanged.single (world : World V) (event : Event V) (address : Nat)
    (ofStack : event.ofStack = true) (later : world.nextAddress ≤ address) :
    Exchanged world
      { world with events := world.events ++ [event], nextAddress := address }
      (storedIn [event]) (releasedIn [event]) :=
  ⟨⟨[event], rfl, fun other member => by rwa [List.mem_singleton.mp member], rfl, rfl⟩, later, rfl⟩

/-- Freeing a block neither stores nor releases an element. -/
theorem Exchanged.freed {world world' : World V} {stored released : List (Element V)}
    (exchanged : Exchanged world world' stored released) (address : Nat) :
    Exchanged world { world' with events := world'.events ++ [.free address] } stored released := by
  have freed := exchanged.trans
    (Exchanged.single world' (.free address) world'.nextAddress rfl (Nat.le_refl _))
  rwa [show storedIn [(.free address : Event V)] = [] from rfl,
    show releasedIn [(.free address : Event V)] = [] from rfl, List.append_nil, List.append_nil]
    at freed

/-! ### Entries -/

/-- The object the cell at `index` points to. -/
def GenericStack.entry (stack : GenericStack V) (index : Nat) : Option (Element V) :=
  stack.bufpp[index]?.bind Slot.target?

/-- The invariant of the buffer. -/
structure GenericStack.Sound (stack : GenericStack V) : Prop where
  bounded : stack.allocSizei ≤ 2 ^ 31
  room : stack.allocSizei ≤ stack.bufpp.length
  used : stack.stackSizei ≤ stack.allocSizei
  written : ∀ index < stack.allocSizei, stack.bufpp[index]? ≠ some .indeterminate
  beyond : ∀ index, stack.allocSizei ≤ index → stack.entry index = none
  doubled : ∃ doublings, stack.allocSizei = stackInitSize * 2 ^ doublings

/-- Two stacks with the same element size, callbacks and options. -/
structure GenericStack.SameSettings (stack stack' : GenericStack V) : Prop where
  elementSizei : stack'.elementSizei = stack.elementSizei
  failureCallbackp : stack'.failureCallbackp = stack.failureCallbackp
  freeCallbackp : stack'.freeCallbackp = stack.freeCallbackp
  copyCallbackp : stack'.copyCallbackp = stack.copyCallbackp
  optionGrowOnSeti : stack'.optionGrowOnSeti = stack.optionGrowOnSeti
  optionGrowOnGeti : stack'.optionGrowOnGeti = stack.optionGrowOnGeti

theorem GenericStack.SameSettings.refl (stack : GenericStack V) : stack.SameSettings stack :=
  ⟨rfl, rfl, rfl, rfl, rfl, rfl⟩

theorem GenericStack.SameSettings.trans {stack stack' stack'' : GenericStack V}
    (first : stack.SameSettings stack') (second : stack'.SameSettings stack'') :
    stack.SameSettings stack'' :=
  ⟨second.1.trans first.1, second.2.trans first.2, second.3.trans first.3,
    second.4.trans first.4, second.5.trans first.5, second.6.trans first.6⟩

/-- The callbacks of a stack, when it has any, return. -/
structure GenericStack.Callable (stack : GenericStack V) : Prop where
  free : ∀ callback ∈ stack.freeCallbackp, ∀ events element,
    ∃ errnum, callback events element = .ok errnum
  copy : ∀ callback ∈ stack.copyCallbackp, ∀ events element,
    ∃ errnum value, callback events element = .ok (errnum, value)

theorem GenericStack.Callable.of_sameSettings {stack stack' : GenericStack V}
    (callable : stack.Callable) (same : stack.SameSettings stack') : stack'.Callable :=
  ⟨by rw [same.freeCallbackp]; exact callable.free,
    by rw [same.copyCallbackp]; exact callable.copy⟩

/-- What reaches the free callback when the stack lets go of an element. -/
def GenericStack.handedBack (stack : GenericStack V) (elements : List (Element V)) :
    List (Element V) :=
  if stack.freeCallbackp.isSome then elements else []

/-! ### Cells -/

theorem readCell_target {cells : List (Slot (Element V))} {index : Nat} {world : World V}
    (inside : index < cells.length) (written : cells[index]? ≠ some .indeterminate) :
    readCell cells index world = .ok (cells[index]?.bind Slot.target?) world := by
  unfold readCell
  rw [List.getElem?_eq_getElem inside] at written ⊢
  cases content : cells[index] with
  | indeterminate => exact absurd (congrArg some content) written
  | null => rfl
  | pointer target => rfl

theorem writeCell_run {cells : List (Slot (Element V))} {index : Nat}
    {content : Slot (Element V)} {world : World V} (inside : index < cells.length) :
    writeCell cells index content world = .ok (cells.set index content) world := by
  rw [writeCell, if_pos inside]
  rfl

/-- The cells of a buffer after those from `first` to `bound` were set to `NULL`. -/
def nulled (cells : List (Slot (Element V))) (first bound : Nat) : List (Slot (Element V)) :=
  cells.mapIdx fun index cell => if first ≤ index ∧ index < bound then .null else cell

theorem nulled_length (cells : List (Slot (Element V))) (first bound : Nat) :
    (nulled cells first bound).length = cells.length :=
  List.length_mapIdx

theorem nulled_of_le (cells : List (Slot (Element V))) {first bound : Nat} (empty : bound ≤ first) :
    nulled cells first bound = cells := by
  refine List.ext_getElem? fun index => ?_
  rw [nulled, List.getElem?_mapIdx]
  cases cells[index]? with
  | none => rfl
  | some cell =>
    rw [Option.map_some, if_neg (fun ⟨above, below⟩ => absurd below (by omega))]

theorem nulled_set (cells : List (Slot (Element V))) {first bound : Nat} (inside : first < bound) :
    nulled (cells.set first .null) (first + 1) bound = nulled cells first bound := by
  refine List.ext_getElem? fun index => ?_
  simp only [nulled, List.getElem?_mapIdx, List.getElem?_set]
  by_cases same : first = index
  · subst same
    by_cases short : first < cells.length
    · simp [short, inside]
    · simp [short]
  · have shifted : (first + 1 ≤ index ∧ index < bound) ↔ (first ≤ index ∧ index < bound) := by
      omega
    simp only [same, if_false, shifted]

theorem fillNullTurn_next {cells : List (Slot (Element V))} {index bound : Nat} {world : World V}
    (narrow : index + 1 < uintModulus) (below : index < bound) (inside : index < cells.length) :
    fillNullTurn bound (index, cells) world = .ok (.next (index + 1, cells.set index .null)) world := by
  rw [fillNullTurn, if_pos below, run_bind_ok (writeCell_run inside), Nat.mod_eq_of_lt narrow]
  rfl

theorem fillNullTurn_done {cells : List (Slot (Element V))} {index bound : Nat} {world : World V}
    (above : bound ≤ index) : fillNullTurn bound (index, cells) world = .ok (.done cells) world := by
  rw [fillNullTurn, if_neg (Nat.not_lt.mpr above)]
  rfl

/-- With a bound that an `unsigned int` reaches, the loop sets the cells from `first` to the
bound. -/
theorem fillNull_run {fuel : Nat} {cells : List (Slot (Element V))} {first bound : Nat}
    {world : World V} (narrow : bound < uintModulus) (inside : bound ≤ cells.length)
    (enough : bound - first < fuel) (below : first ≤ bound) :
    fillNull fuel cells first bound world = .ok (nulled cells first bound) world := by
  rw [fillNull, Nat.mod_eq_of_lt (Nat.lt_of_le_of_lt below narrow)]
  induction fuel generalizing cells first with
  | zero => omega
  | succ fuel inductionHypothesis =>
    by_cases done : first < bound
    · rw [loop_next (fillNullTurn_next (by omega) done (by omega)), ← nulled_set cells done]
      exact inductionHypothesis (by rw [List.length_set]; exact inside) (by omega) (by omega)
    · rw [loop_done (fillNullTurn_done (Nat.not_lt.mp done)), nulled_of_le cells (Nat.not_lt.mp done)]

/-- With a bound past the block, the loop writes outside it. -/
theorem fillNull_outOfBounds {fuel : Nat} {cells : List (Slot (Element V))} {first bound : Nat}
    {world : World V} (narrow : bound < uintModulus) (outside : cells.length < bound)
    (enough : bound - first < fuel) (inside : first ≤ cells.length) :
    fillNull fuel cells first bound world = .error .outOfBounds world := by
  rw [fillNull, Nat.mod_eq_of_lt (by omega)]
  induction fuel generalizing cells first with
  | zero => omega
  | succ fuel inductionHypothesis =>
    by_cases here : first < cells.length
    · rw [loop_next (fillNullTurn_next (by omega) (by omega) here)]
      exact inductionHypothesis (by rw [List.length_set]; exact outside) (by omega)
        (by rw [List.length_set]; exact here)
    · refine loop_error ?_
      rw [fillNullTurn, if_pos (by omega : first < bound)]
      refine run_bind_error ?_
      rw [writeCell, if_neg here]
      rfl

/-- With a bound no `unsigned int` reaches, the loop does not end. -/
theorem fillNull_exhausted (fuel : Nat) {cells : List (Slot (Element V))} (first : Nat) {bound : Nat}
    {world : World V} (wide : uintModulus ≤ bound) (inside : bound ≤ cells.length) :
    fillNull fuel cells first bound world = .error .exhausted world := by
  have start : first % uintModulus < uintModulus := Nat.mod_lt _ (by decide)
  rw [fillNull]
  generalize first % uintModulus = index at start
  induction fuel generalizing cells index with
  | zero => rfl
  | succ fuel inductionHypothesis =>
    have turn : fillNullTurn bound (index, cells) world =
        .ok (.next ((index + 1) % uintModulus, cells.set index .null)) world := by
      rw [fillNullTurn, if_pos (by omega : index < bound),
        run_bind_ok (writeCell_run (show index < cells.length by omega))]
      rfl
    rw [loop_next turn]
    exact inductionHypothesis (by rw [List.length_set]; exact inside) _ (Nat.mod_lt _ (by decide))

/-! ### Growing the buffer -/

theorem resize_length (cells : List (Slot (Element V))) (size : Nat) :
    (resize cells size).length = size / pointerSize := by
  rw [resize, List.length_append, List.length_take, List.length_replicate]
  omega

theorem resize_getElem? (cells : List (Slot (Element V))) {size index : Nat}
    (kept : index < size / pointerSize) (inside : index < cells.length) :
    (resize cells size)[index]? = cells[index]? := by
  rw [resize, List.getElem?_append_left (by rw [List.length_take]; omega),
    List.getElem?_take_of_lt kept]

/-- `stack'` is sound, has the settings of `stack`, and holds `entries`. -/
structure GenericStack.Became (stack stack' : GenericStack V) (size : Nat)
    (entries : Nat → Option (Element V)) : Prop where
  sound : stack'.Sound
  settings : stack.SameSettings stack'
  size : stack'.stackSizei = size
  entries : ∀ index, stack'.entry index = entries index

theorem GenericStack.Sound.became {stack : GenericStack V} (sound : stack.Sound) :
    stack.Became stack stack.stackSizei stack.entry :=
  ⟨sound, .refl stack, rfl, fun _ => rfl⟩

theorem GenericStack.Sound.readCell {stack : GenericStack V} (sound : stack.Sound) {index : Nat}
    (below : index < stack.allocSizei) (world : World V) :
    readCell stack.bufpp index world = .ok (stack.entry index) world :=
  readCell_target (Nat.lt_of_lt_of_le below sound.room) (sound.written index below)

/-- A power of two times the initial size that is below `2 ^ 31` may be doubled. -/
theorem GenericStack.Sound.double_le {stack : GenericStack V} (sound : stack.Sound)
    (small : stack.allocSizei < 2 ^ 31) : stack.allocSizei * 2 ≤ 2 ^ 31 := by
  obtain ⟨doublings, size⟩ := sound.doubled
  rw [size, stackInitSize, show 4 = 2 ^ 2 from rfl, ← Nat.pow_add] at small ⊢
  rw [← Nat.pow_succ]
  exact Nat.pow_le_pow_right (by decide) ((Nat.pow_lt_pow_iff_right (by decide)).mp small)

/-- A stack whose buffer was doubled. -/
def GenericStack.enlarged (stack : GenericStack V) (buffer : Nat) : GenericStack V :=
  { stack with
    buffer
    bufpp := nulled (resize stack.bufpp (stack.allocSizei * 2 * pointerSize)) stack.allocSizei
      (stack.allocSizei * 2)
    allocSizei := stack.allocSizei * 2 }

theorem GenericStack.Sound.enlarged_getElem? {stack : GenericStack V} (sound : stack.Sound)
    (buffer : Nat) {index : Nat} (below : index < stack.allocSizei) :
    (stack.enlarged buffer).bufpp[index]? = stack.bufpp[index]? := by
  have room := sound.room
  show (nulled _ _ _)[index]? = _
  rw [nulled, List.getElem?_mapIdx,
    resize_getElem? _ (by simp only [pointerSize]; omega) (by omega)]
  cases stack.bufpp[index]? with
  | none => rfl
  | some cell => rw [Option.map_some, if_neg (by omega)]

theorem GenericStack.enlarged_getElem?_new (stack : GenericStack V) (buffer : Nat) {index : Nat}
    (above : stack.allocSizei ≤ index) (below : index < stack.allocSizei * 2) :
    (stack.enlarged buffer).bufpp[index]? = some .null := by
  have inside : index < (resize stack.bufpp (stack.allocSizei * 2 * pointerSize)).length := by
    rw [resize_length]
    simp only [pointerSize]
    omega
  show (nulled _ _ _)[index]? = _
  rw [nulled, List.getElem?_mapIdx, List.getElem?_eq_getElem inside, Option.map_some,
    if_pos ⟨above, below⟩]

theorem GenericStack.Sound.enlarged_entry {stack : GenericStack V} (sound : stack.Sound)
    (buffer index : Nat) : (stack.enlarged buffer).entry index = stack.entry index := by
  by_cases old : index < stack.allocSizei
  · rw [GenericStack.entry, sound.enlarged_getElem? buffer old]
    rfl
  · rw [sound.beyond index (Nat.not_lt.mp old), GenericStack.entry]
    by_cases new : index < stack.allocSizei * 2
    · rw [stack.enlarged_getElem?_new buffer (Nat.not_lt.mp old) new]
      rfl
    · have outside : (stack.enlarged buffer).bufpp.length ≤ index := by
        show (nulled _ _ _).length ≤ index
        rw [nulled_length, resize_length]
        simp only [pointerSize]
        omega
      rw [List.getElem?_eq_none outside]
      rfl

theorem GenericStack.Sound.enlarged {stack : GenericStack V} (sound : stack.Sound) (buffer : Nat)
    (small : stack.allocSizei < 2 ^ 31) : (stack.enlarged buffer).Sound where
  bounded := sound.double_le small
  room := by
    show stack.allocSizei * 2 ≤ (nulled _ _ _).length
    rw [nulled_length, resize_length]
    simp only [pointerSize]
    omega
  used := by
    have used := sound.used
    show stack.stackSizei ≤ stack.allocSizei * 2
    omega
  written index below := by
    by_cases old : index < stack.allocSizei
    · rw [sound.enlarged_getElem? buffer old]
      exact sound.written index old
    · rw [stack.enlarged_getElem?_new buffer (Nat.not_lt.mp old) below]
      simp
  beyond index above := by
    rw [sound.enlarged_entry]
    exact sound.beyond index (Nat.le_trans (by show _ ≤ stack.allocSizei * 2; omega) above)
  doubled := by
    obtain ⟨doublings, size⟩ := sound.doubled
    exact ⟨doublings + 1, by show stack.allocSizei * 2 = _; rw [size, Nat.pow_succ, Nat.mul_assoc]⟩

section Granted

variable {libc : Libc V} {fuel : Nat} {stack : GenericStack V} {world : World V}

theorem malloc_run (grants : libc.AlwaysGrants) (size : Nat) (world : World V) :
    malloc libc size world =
      .ok (some world.nextAddress)
        { world with
          events := world.events ++ [.malloc size (some world.nextAddress)]
          nextAddress := world.nextAddress + 1 } :=
  run_acquire_granted (grants _ _)

theorem realloc_run (grants : libc.AlwaysGrants) (size : Nat) (world : World V) :
    realloc libc size world =
      .ok (some world.nextAddress)
        { world with
          events := world.events ++ [.realloc size (some world.nextAddress)]
          nextAddress := world.nextAddress + 1 } :=
  run_acquire_granted (grants _ _)

/-- A push onto fewer than `2 ^ 31` entries finds room: the buffer is doubled when it is full,
and no entry changes. -/
theorem growBuffer_run (grants : libc.AlwaysGrants) (enough : 2 ^ 32 ≤ fuel) (sound : stack.Sound)
    (space : stack.stackSizei < 2 ^ 31) (world : World V) :
    ∃ stack' world', growBuffer libc fuel stack world = .ok (true, stack') world' ∧
      stack.Became stack' stack.stackSizei stack.entry ∧
      stack'.allocSizei =
        (if stack.stackSizei = stack.allocSizei then stack.allocSizei * 2 else stack.allocSizei) ∧
      Exchanged world world' [] [] := by
  have used := sound.used
  unfold growBuffer
  by_cases full : stack.stackSizei ≥ stack.allocSizei
  · have small : stack.allocSizei < 2 ^ 31 := by omega
    have doubled := sound.double_le small
    have size : stack.allocSizei * 2 % sizeModulus = stack.allocSizei * 2 :=
      Nat.mod_eq_of_lt (by simp only [sizeModulus]; omega)
    have bytes : stack.allocSizei * 2 * pointerSize % sizeModulus =
        stack.allocSizei * 2 * pointerSize :=
      Nat.mod_eq_of_lt (by simp only [sizeModulus, pointerSize]; omega)
    simp only [if_pos full, size, bytes]
    rw [run_bind_ok (realloc_run grants _ world)]
    simp only
    rw [run_bind_ok (fillNull_run (by simp only [uintModulus]; omega)
      (by rw [resize_length]; simp only [pointerSize]; omega) (by omega) (by omega))]
    refine ⟨stack.enlarged world.nextAddress, _, rfl,
      ⟨sound.enlarged _ small, ⟨rfl, rfl, rfl, rfl, rfl, rfl⟩, rfl, sound.enlarged_entry _⟩, ?_,
      Exchanged.single world _ _ rfl (Nat.le_succ _)⟩
    rw [if_pos (by omega)]
    rfl
  · rw [if_neg full]
    exact ⟨stack, world, rfl, sound.became, by rw [if_neg (by omega)], .refl world⟩

/-- There is a cell for one more entry then. -/
theorem growBuffer_space (grants : libc.AlwaysGrants) (enough : 2 ^ 32 ≤ fuel) (sound : stack.Sound)
    (space : stack.stackSizei < 2 ^ 31) (world : World V) :
    ∃ grown world', growBuffer libc fuel stack world = .ok (true, grown) world' ∧
      stack.Became grown stack.stackSizei stack.entry ∧
      grown.allocSizei =
        (if stack.stackSizei = stack.allocSizei then stack.allocSizei * 2 else stack.allocSizei) ∧
      grown.stackSizei < grown.allocSizei ∧ Exchanged world world' [] [] := by
  obtain ⟨grown, world', run, became, alloc, exchanged⟩ :=
    growBuffer_run grants enough sound space world
  refine ⟨grown, world', run, became, alloc, ?_, exchanged⟩
  have used := sound.used
  have positive : 0 < stack.allocSizei := by
    obtain ⟨doublings, size⟩ := sound.doubled
    rw [size]
    exact Nat.mul_pos (by decide) (Nat.two_pow_pos _)
  rw [became.size, alloc]
  split <;> omega

/-- A push onto `2 ^ 31` entries does not return. -/
theorem growBuffer_exhausted (fuel : Nat) (grants : libc.AlwaysGrants) (sound : stack.Sound)
    (full : stack.stackSizei = 2 ^ 31) (world : World V) :
    ∃ world', growBuffer libc fuel stack world = .error .exhausted world' := by
  have used := sound.used
  have bounded := sound.bounded
  have size : stack.allocSizei * 2 % sizeModulus = 2 ^ 32 := by
    rw [show stack.allocSizei = 2 ^ 31 by omega]
    rfl
  unfold growBuffer
  simp only [if_pos (by omega : stack.stackSizei ≥ stack.allocSizei), size]
  rw [run_bind_ok (realloc_run grants _ world)]
  simp only
  rw [run_bind_error (fillNull_exhausted fuel _ (by decide) (by rw [resize_length]; decide))]
  exact ⟨_, rfl⟩

/-! ### Copies and releases -/

/-- `target` is what the stack stores for `source`: nothing for `NULL`, else a block that holds
what the copy callback left in it, or the source's own value when there is no copy callback. -/
def GenericStack.Copies (stack : GenericStack V) : Option (Element V) → Option (Element V) → Prop
  | none, none => True
  | some source, some target =>
    match stack.copyCallbackp with
    | none => target.value = source.value
    | some callback => ∃ events errnum, callback events source = .ok (errnum, target.value)
  | _, _ => False

theorem GenericStack.Copies.of_sameSettings {stack' : GenericStack V}
    {source target : Option (Element V)} (copies : stack'.Copies source target)
    (same : stack.SameSettings stack') : stack.Copies source target := by
  cases source <;> cases target <;>
    simp only [GenericStack.Copies, same.copyCallbackp] at copies ⊢
  exact copies

/-- The block of an element was allocated between two worlds. -/
def AllocatedBetween (world world' : World V) (element : Element V) : Prop :=
  world.nextAddress ≤ element.address ∧ element.address < world'.nextAddress

theorem reportFailure_run (failureCallbackp : Bool) (errorType : GenericStackError)
    (errorNumber : Int) (world : World V) :
    ∃ world', reportFailure failureCallbackp errorType errorNumber world = .ok () world' ∧
      Exchanged world world' [] [] := by
  cases failureCallbackp with
  | false => exact ⟨world, rfl, .refl world⟩
  | true => exact ⟨_, rfl, Exchanged.single world _ _ rfl (Nat.le_refl _)⟩

theorem reportCallbackError_run (failureCallbackp : Bool) (errnum : Int) (world : World V) :
    ∃ world', reportCallbackError failureCallbackp errnum world = .ok () world' ∧
      Exchanged world world' [] [] := by
  unfold reportCallbackError
  by_cases failed : errnum ≠ 0
  · rw [if_pos failed]
    exact reportFailure_run _ _ _ world
  · rw [if_neg failed]
    exact ⟨world, rfl, .refl world⟩

theorem callCopyCallback_run {world : World V} {callback : CopyCallback V} {source : Element V} {errnum : Int}
    {value : V} (address : Nat) (answer : callback world.events source = .ok (errnum, value)) :
    callCopyCallback callback source address world =
      .ok (errnum, value)
        { world with events := world.events ++ [.stackCopy source ⟨address, value⟩ errnum] } := by
  rw [callCopyCallback, answer]

theorem callFreeCallback_run {callback : FreeCallback V} {element : Element V} {errnum : Int}
    (answer : callback world.events element = .ok errnum) :
    callFreeCallback callback element world =
      .ok errnum { world with events := world.events ++ [.stackFree element errnum] } := by
  rw [callFreeCallback, answer]

/-- The element that is freed is not the one that is copied. -/
def Apart (freed source : Option (Element V)) : Prop :=
  ∀ element ∈ freed, ∀ passed ∈ source, element.address ≠ passed.address

theorem Apart.none_left (source : Option (Element V)) : Apart none source :=
  fun _ absent => nomatch absent

theorem Apart.none_right (freed : Option (Element V)) : Apart freed none :=
  fun _ _ _ absent => nomatch absent

theorem Apart.any_eq_false {freed : Option (Element V)} {source : Element V}
    (apart : Apart freed (some source)) :
    freed.any (·.address == source.address) = false := by
  cases freed with
  | none => rfl
  | some element => exact beq_eq_false_iff_ne.mpr (apart element rfl source rfl)

theorem Apart.of_any {freed : Option (Element V)} {source : Element V}
    (other : ¬ freed.any (·.address == source.address) = true) : Apart freed (some source) := by
  rintro element ⟨⟩ passed ⟨⟩ same
  exact other (beq_iff_eq.mpr same)

theorem copyElement_run (grants : libc.AlwaysGrants) (callable : stack.Callable)
    {freed : Option (Element V)} {source : Element V} (apart : Apart freed (some source))
    (world : World V) :
    ∃ target world', copyElement libc stack freed source world = .ok (some target) world' ∧
      stack.Copies (some source) (some target) ∧ AllocatedBetween world world' target ∧
      Exchanged world world' [] [] := by
  unfold copyElement
  rw [run_bind_ok (malloc_run grants _ world)]
  simp only
  rw [apart.any_eq_false, if_neg Bool.false_ne_true]
  have requested : Exchanged world _ [] [] := Exchanged.single world
    (.malloc stack.elementSizei (some world.nextAddress)) (world.nextAddress + 1) rfl (Nat.le_succ _)
  cases copy : stack.copyCallbackp with
  | none =>
    refine ⟨⟨world.nextAddress, source.value⟩, _, rfl, ?_, ⟨Nat.le_refl _, Nat.lt_succ_self _⟩,
      requested⟩
    simp only [GenericStack.Copies, copy]
  | some callback =>
    obtain ⟨errnum, value, answer⟩ := callable.copy callback (by rw [copy]; rfl)
      (world.events ++ [.malloc stack.elementSizei (some world.nextAddress)]) source
    simp only
    rw [run_bind_ok (callCopyCallback_run world.nextAddress answer)]
    have copied := requested.trans (Exchanged.single _
      (.stackCopy source ⟨world.nextAddress, value⟩ errnum) (world.nextAddress + 1) rfl
        (Nat.le_refl _))
    obtain ⟨world', reported, exchanged⟩ := reportCallbackError_run stack.failureCallbackp errnum
      { world with
        events := (world.events ++ [.malloc stack.elementSizei (some world.nextAddress)]) ++
          [.stackCopy source ⟨world.nextAddress, value⟩ errnum]
        nextAddress := world.nextAddress + 1 }
    simp only
    rw [run_bind_ok reported]
    refine ⟨⟨world.nextAddress, value⟩, world', rfl, ?_, ⟨Nat.le_refl _, exchanged.addresses⟩,
      copied.trans exchanged⟩
    simp only [GenericStack.Copies, copy]
    exact ⟨_, errnum, answer⟩

theorem handToFreeCallback_run (callable : stack.Callable) (element : Element V)
    (world : World V) :
    ∃ world', handToFreeCallback stack element world = .ok () world' ∧
      Exchanged world world' [] (stack.handedBack [element]) := by
  unfold handToFreeCallback GenericStack.handedBack
  cases free : stack.freeCallbackp with
  | none => exact ⟨world, rfl, .refl world⟩
  | some callback =>
    obtain ⟨errnum, answer⟩ := callable.free callback (by rw [free]; rfl) world.events element
    obtain ⟨world', reported, exchanged⟩ := reportCallbackError_run stack.failureCallbackp errnum
      { world with events := world.events ++ [.stackFree element errnum] }
    simp only
    rw [run_bind_ok (callFreeCallback_run answer), reported]
    exact ⟨world', rfl, (Exchanged.single world (.stackFree element errnum) world.nextAddress rfl
      (Nat.le_refl _)).trans exchanged⟩

theorem releaseElement_run (callable : stack.Callable) (element : Element V) (world : World V) :
    ∃ world', releaseElement stack element world = .ok () world' ∧
      Exchanged world world' [] (stack.handedBack [element]) := by
  obtain ⟨world', handed, exchanged⟩ := handToFreeCallback_run callable element world
  unfold releaseElement
  rw [run_bind_ok handed]
  exact ⟨_, rfl, exchanged.freed element.address⟩

/-- A cell that was written and points to nothing is `NULL`. -/
theorem cell_null {cells : List (Slot (Element V))} {index : Nat} (inside : index < cells.length)
    (written : cells[index]? ≠ some .indeterminate)
    (empty : cells[index]?.bind Slot.target? = none) : cells[index]? = some .null := by
  rw [List.getElem?_eq_getElem inside] at empty written ⊢
  cases cell : cells[index] with
  | indeterminate => exact absurd (congrArg some cell) written
  | null => rfl
  | pointer target => rw [cell] at empty; cases empty

/-- Clearing a cell releases what it pointed to. -/
theorem clearCell_run (callable : stack.Callable) {cells : List (Slot (Element V))} {index : Nat}
    (inside : index < cells.length) (written : cells[index]? ≠ some .indeterminate)
    (world : World V) :
    ∃ cells' world', clearCell stack cells index world = .ok cells' world' ∧
      cells'.length = cells.length ∧ cells'[index]? = some .null ∧
      (∀ other, other ≠ index → cells'[other]? = cells[other]?) ∧
      Exchanged world world' []
        (stack.handedBack (cells[index]?.bind Slot.target?).toList) := by
  unfold clearCell
  rw [run_bind_ok (readCell_target inside written)]
  cases content : cells[index]?.bind Slot.target? with
  | none =>
    refine ⟨cells, world, rfl, rfl, cell_null inside written content, fun _ _ => rfl, ?_⟩
    simp only [GenericStack.handedBack, Option.toList_none, ite_self]
    exact .refl world
  | some element =>
    obtain ⟨world', released, exchanged⟩ := releaseElement_run callable element world
    simp only
    rw [run_bind_ok released]
    refine ⟨cells.set index .null, world', writeCell_run inside, List.length_set,
      List.getElem?_set_self inside, fun other different => List.getElem?_set_ne different.symm,
      exchanged⟩

/-! ### One cell of the table changes -/

theorem GenericStack.Became.trans {stack' stack'' : GenericStack V} {size size' : Nat}
    {entries entries' : Nat → Option (Element V)} (first : stack.Became stack' size entries)
    (second : stack'.Became stack'' size' entries') : stack.Became stack'' size' entries' :=
  ⟨second.sound, first.settings.trans second.settings, second.size, second.entries⟩

/-- A stack whose cells differ from a sound one's in one allocated cell. -/
theorem GenericStack.Sound.became_of_cells (sound : stack.Sound)
    {cells : List (Slot (Element V))} {index size : Nat} {content : Slot (Element V)}
    (length : cells.length = stack.bufpp.length) (here : cells[index]? = some content)
    (elsewhere : ∀ other, other ≠ index → cells[other]? = stack.bufpp[other]?)
    (written : content ≠ .indeterminate) (below : index < stack.allocSizei)
    (used : size ≤ stack.allocSizei) :
    stack.Became { stack with bufpp := cells, stackSizei := size } size
      (Function.update stack.entry index content.target?) := by
  have entries : ∀ other, ({ stack with bufpp := cells, stackSizei := size } :
      GenericStack V).entry other = Function.update stack.entry index content.target? other := by
    intro other
    by_cases same : other = index
    · subst same
      rw [Function.update_self, GenericStack.entry, here]
      rfl
    · rw [Function.update_of_ne same, GenericStack.entry, elsewhere other same]
      rfl
  refine ⟨⟨sound.bounded, by rw [length]; exact sound.room, used, ?_, ?_, sound.doubled⟩,
    ⟨rfl, rfl, rfl, rfl, rfl, rfl⟩, rfl, entries⟩
  · intro other otherBelow
    by_cases same : other = index
    · rw [same, here]
      exact fun equal => written (Option.some.inj equal)
    · rw [elsewhere other same]
      exact sound.written other otherBelow
  · intro other above
    rw [entries, Function.update_of_ne (by have : stack.allocSizei ≤ other := above; omega)]
    exact sound.beyond other above

theorem GenericStack.Sound.became_of_set (sound : stack.Sound) {index size : Nat}
    {content : Slot (Element V)} (written : content ≠ .indeterminate)
    (below : index < stack.allocSizei) (used : size ≤ stack.allocSizei) :
    stack.Became { stack with bufpp := stack.bufpp.set index content, stackSizei := size } size
      (Function.update stack.entry index content.target?) :=
  sound.became_of_cells List.length_set
    (List.getElem?_set_self (Nat.lt_of_lt_of_le below sound.room))
    (fun _ different => List.getElem?_set_ne different.symm) written below used

theorem AllocatedBetween.mono {first second third fourth : World V} {element : Element V}
    (allocated : AllocatedBetween second third element)
    (before : first.nextAddress ≤ second.nextAddress)
    (after : third.nextAddress ≤ fourth.nextAddress) : AllocatedBetween first fourth element :=
  ⟨Nat.le_trans before allocated.1, Nat.lt_of_lt_of_le allocated.2 after⟩

/-- What storing `source` came to: `stored` is a copy of it in a new block. -/
structure GenericStack.Stored (stack : GenericStack V) (world world' : World V)
    (source stored : Option (Element V)) : Prop where
  copies : stack.Copies source stored
  fresh : ∀ element ∈ stored, AllocatedBetween world world' element

/-- Storing an element in a cell: the copy is made, written and recorded. -/
theorem store_run (grants : libc.AlwaysGrants) (callable : stack.Callable)
    {freed : Option (Element V)} {source : Element V} (apart : Apart freed (some source))
    (world : World V) :
    ∃ target world', copyElement libc stack freed source world = .ok (some target) world' ∧
      stack.Stored world world' (some source) (some target) ∧
      Exchanged world { world' with events := world'.events ++ [.stackStore target] } [target] [] := by
  obtain ⟨target, world', run, copies, fresh, exchanged⟩ :=
    copyElement_run grants callable apart world
  refine ⟨target, world', run, ⟨copies, fun element member => ?_⟩, exchanged.trans
    (Exchanged.single world' (.stackStore target) world'.nextAddress rfl (Nat.le_refl _))⟩
  rw [← Option.some.inj member]
  exact fresh

theorem GenericStack.Sound.size_mod (sound : stack.Sound) :
    (stack.stackSizei + 1) % sizeModulus = stack.stackSizei + 1 := by
  have used := sound.used
  have bounded := sound.bounded
  exact Nat.mod_eq_of_lt (by simp only [sizeModulus]; omega)

/-- A push of `NULL` writes an empty entry, and calls no callback. -/
theorem genericStackPushi_pads (grants : libc.AlwaysGrants) (enough : 2 ^ 32 ≤ fuel)
    (sound : stack.Sound) (space : stack.stackSizei < 2 ^ 31) (world : World V) :
    ∃ stack' world', genericStackPushi libc fuel stack none world = .ok (1, stack') world' ∧
      stack.Became stack' (stack.stackSizei + 1)
        (Function.update stack.entry stack.stackSizei none) ∧
      stack'.allocSizei =
        (if stack.stackSizei = stack.allocSizei then stack.allocSizei * 2 else stack.allocSizei) ∧
      Exchanged world world' [] [] := by
  obtain ⟨grown, between, run, became, alloc, below, exchanged⟩ :=
    growBuffer_space grants enough sound space world
  unfold genericStackPushi
  rw [run_bind_ok run]
  simp only [if_true]
  rw [run_bind_ok (writeCell_run (Nat.lt_of_lt_of_le below became.sound.room)),
    became.sound.size_mod]
  refine ⟨_, between, rfl, ?_, alloc, exchanged⟩
  rw [← funext became.entries, ← became.size]
  exact became.trans (became.sound.became_of_set nofun below below)

/-- `pushi` writes the entry after the last one. -/
theorem genericStackPushi_run (grants : libc.AlwaysGrants) (enough : 2 ^ 32 ≤ fuel)
    (sound : stack.Sound) (callable : stack.Callable) (space : stack.stackSizei < 2 ^ 31)
    (elementp : Option (Element V)) (world : World V) :
    ∃ stack' world' stored,
      genericStackPushi libc fuel stack elementp world = .ok (1, stack') world' ∧
      stack.Became stack' (stack.stackSizei + 1)
        (Function.update stack.entry stack.stackSizei stored) ∧
      stack'.allocSizei =
        (if stack.stackSizei = stack.allocSizei then stack.allocSizei * 2 else stack.allocSizei) ∧
      stack.Stored world world' elementp stored ∧
      Exchanged world world' stored.toList [] := by
  cases elementp with
  | none =>
    obtain ⟨stack', world', run, became, alloc, exchanged⟩ :=
      genericStackPushi_pads grants enough sound space world
    exact ⟨stack', world', none, run, became, alloc, ⟨trivial, fun _ member => nomatch member⟩,
      exchanged⟩
  | some source =>
    obtain ⟨grown, between, run, became, alloc, below, exchanged⟩ :=
      growBuffer_space grants enough sound space world
    obtain ⟨target, world', copied, stored, storing⟩ := store_run grants
      (callable.of_sameSettings became.settings) (.none_left (some source)) between
    unfold genericStackPushi
    rw [run_bind_ok run]
    simp only [if_true]
    rw [run_bind_ok copied]
    simp only
    rw [run_bind_ok (writeCell_run (Nat.lt_of_lt_of_le below became.sound.room)),
      became.sound.size_mod]
    refine ⟨_, _, some target, rfl, ?_, alloc,
      ⟨stored.copies.of_sameSettings became.settings, fun element member =>
        (stored.fresh element member).mono exchanged.addresses (Nat.le_refl _)⟩,
      exchanged.trans storing⟩
    rw [← funext became.entries, ← became.size]
    exact became.trans (became.sound.became_of_set nofun below below)

/-- A push onto `2 ^ 31` entries does not return. -/
theorem genericStackPushi_exhausted (fuel : Nat) (grants : libc.AlwaysGrants)
    (sound : stack.Sound) (full : stack.stackSizei = 2 ^ 31) (elementp : Option (Element V)) (world : World V) :
    ∃ world', genericStackPushi libc fuel stack elementp world = .error .exhausted world' := by
  obtain ⟨world', run⟩ := growBuffer_exhausted fuel grants sound full world
  unfold genericStackPushi
  exact ⟨world', run_bind_error run⟩

/-! ### Growing up to an index -/

/-- The entries of a stack after `NULL` was pushed until there were `size` entries. -/
def GenericStack.padded (stack : GenericStack V) (size : Nat) (index : Nat) : Option (Element V) :=
  if stack.stackSizei ≤ index ∧ index < size then none else stack.entry index

theorem GenericStack.padded_self (stack : GenericStack V) :
    stack.padded stack.stackSizei = stack.entry := by
  funext index
  rw [GenericStack.padded, if_neg (by omega)]

theorem GenericStack.padded_succ {stack stack' : GenericStack V} {size : Nat}
    (became : stack.Became stack' (stack.stackSizei + 1)
      (Function.update stack.entry stack.stackSizei none))
    (larger : stack.stackSizei < size) : stack'.padded size = stack.padded size := by
  funext index
  rw [GenericStack.padded, GenericStack.padded, became.size, became.entries]
  by_cases same : index = stack.stackSizei
  · rw [same, Function.update_self, ite_self, if_pos ⟨Nat.le_refl _, larger⟩]
  · rw [Function.update_of_ne same]
    by_cases new : stack.stackSizei ≤ index ∧ index < size
    · rw [if_pos new, if_pos (by omega)]
    · rw [if_neg new, if_neg (by omega)]

/-- Past the old buffer a padded stack holds nothing but the old entries. -/
theorem GenericStack.Sound.padded (sound : stack.Sound) {size : Nat}
    (larger : stack.allocSizei ≤ size) (index : Nat) :
    stack.padded size index = if index < stack.stackSizei then stack.entry index else none := by
  rw [GenericStack.padded]
  by_cases old : index < stack.stackSizei
  · rw [if_neg (by omega), if_pos old]
  · rw [if_neg old]
    by_cases new : index < size
    · rw [if_pos (by omega)]
    · rw [if_neg (by omega)]
      exact sound.beyond index (by omega)

/-- What growing up to `index` leaves. -/
structure GenericStack.GrownTo (stack : GenericStack V) (index : Nat) (stack' : GenericStack V) :
    Prop where
  became : stack.Became stack' stack'.stackSizei (stack.padded stack'.stackSizei)
  reached : index < stack'.allocSizei
  larger : stack.stackSizei ≤ stack'.stackSizei
  smaller : stack'.stackSizei ≤ max stack.stackSizei (index + 1)
  passed : stack.allocSizei ≤ index → stack.allocSizei ≤ stack'.stackSizei

theorem growToTurn_push {index result : Nat} {stack' : GenericStack V} {world' : World V}
    (beyond : stack.allocSizei ≤ index)
    (run : genericStackPushi libc fuel stack none world = .ok (result, stack') world') :
    growToTurn libc fuel index stack world = .ok (.next stack') world' := by
  rw [growToTurn, if_pos beyond, run_bind_ok run]
  rfl

theorem growToTurn_done {index : Nat} (reached : index < stack.allocSizei) :
    growToTurn libc fuel index stack world = .ok (.done stack) world := by
  rw [growToTurn, if_neg (Nat.not_le.mpr reached)]
  rfl

/-- The growth loop reaches every index below `2 ^ 31`. Every turn adds an entry, so the induction
is on the turns that are left. -/
theorem growTo_loop (grants : libc.AlwaysGrants) (enough : 2 ^ 32 ≤ fuel) {index : Nat}
    (narrow : index < 2 ^ 31) (turns : Nat) (sound : stack.Sound)
    (left : 2 ^ 31 - stack.stackSizei < turns) (world : World V) :
    ∃ stack' world',
      loop .exhausted (growToTurn libc fuel index) turns stack world = .ok stack' world' ∧
      stack.GrownTo index stack' ∧ Exchanged world world' [] [] := by
  induction turns generalizing stack world with
  | zero => omega
  | succ turns inductionHypothesis =>
    have used := sound.used
    by_cases reached : index < stack.allocSizei
    · refine ⟨stack, world, loop_done (growToTurn_done reached), ⟨?_, reached, Nat.le_refl _,
        Nat.le_max_left _ _, fun beyond => absurd reached (Nat.not_lt.mpr beyond)⟩, .refl world⟩
      rw [stack.padded_self]
      exact sound.became
    · obtain ⟨next, between, run, became, alloc, exchanged⟩ :=
        genericStackPushi_pads grants enough sound (by omega) world
      have size := became.size
      obtain ⟨stack', world', rest, grown, exchanged'⟩ :=
        inductionHypothesis became.sound (by omega) between
      have larger := grown.larger
      have smaller := grown.smaller
      refine ⟨stack', world', ?_, ⟨⟨grown.became.sound,
        became.settings.trans grown.became.settings, rfl, fun other => ?_⟩, grown.reached,
        by omega, by omega, fun beyond => ?_⟩, exchanged.trans exchanged'⟩
      · rw [loop_next (growToTurn_push (Nat.not_lt.mp reached) run), rest]
      · rw [grown.became.entries, GenericStack.padded_succ became (by omega)]
      · by_cases again : next.allocSizei ≤ index
        · have passed := grown.passed again
          split at alloc <;> omega
        · split at alloc <;> omega

/-- Within the buffer nothing grows. -/
theorem growTo_inside {index : Nat} (below : index < stack.allocSizei) (optionGrow : Bool) :
    growTo libc fuel optionGrow stack index world = .ok stack world := by
  rw [growTo, if_neg (fun grown => absurd grown.1 (Nat.not_le.mpr below))]
  rfl

/-- Without leave to grow nothing grows. -/
theorem growTo_fixed {optionGrow : Bool} (fixed : optionGrow = false) (index : Nat) :
    growTo libc fuel optionGrow stack index world = .ok stack world := by
  rw [growTo, if_neg (by rw [fixed]; simp)]
  rfl

theorem growTo_run (grants : libc.AlwaysGrants) (enough : 2 ^ 32 ≤ fuel) (sound : stack.Sound)
    {index : Nat} (narrow : index < 2 ^ 31) {optionGrow : Bool}
    (grows : optionGrow = true) (world : World V) :
    ∃ stack' world', growTo libc fuel optionGrow stack index world = .ok stack' world' ∧
      stack.GrownTo index stack' ∧ Exchanged world world' [] [] := by
  obtain ⟨stack', world', run, grown, exchanged⟩ :=
    growTo_loop grants enough narrow fuel sound (by omega) world
  refine ⟨stack', world', ?_, grown, exchanged⟩
  by_cases beyond : stack.allocSizei ≤ index
  · rw [growTo, if_pos ⟨beyond, grows⟩, run]
  · obtain ⟨turns, rfl⟩ : ∃ turns, fuel = turns + 1 := ⟨fuel - 1, by omega⟩
    rw [loop_done (growToTurn_done (Nat.not_le.mp beyond))] at run
    rw [growTo_inside (Nat.not_le.mp beyond), run]

/-- No buffer has more than `2 ^ 31` cells, so growing past them does not return. -/
theorem growTo_exhausted (grants : libc.AlwaysGrants) (enough : 2 ^ 32 ≤ fuel)
    (sound : stack.Sound) {index : Nat} (wide : 2 ^ 31 ≤ index) {optionGrow : Bool} (grows : optionGrow = true) (world : World V) :
    ∃ world', growTo libc fuel optionGrow stack index world = .error .exhausted world' := by
  have full (turns : Nat) (stack : GenericStack V) (sound : stack.Sound) (world : World V) :
      ∃ world',
        loop .exhausted (growToTurn libc fuel index) turns stack world =
          .error .exhausted world' := by
    induction turns generalizing stack world with
    | zero => exact ⟨world, loop_zero⟩
    | succ turns inductionHypothesis =>
      have bounded := sound.bounded
      have used := sound.used
      by_cases space : stack.stackSizei < 2 ^ 31
      · obtain ⟨next, between, run, became, -, -⟩ :=
          genericStackPushi_pads grants enough sound space world
        rw [loop_next (growToTurn_push (by omega) run)]
        exact inductionHypothesis next became.sound _
      · obtain ⟨world', run⟩ := genericStackPushi_exhausted fuel grants sound (by omega)
          none world
        refine ⟨world', loop_error ?_⟩
        rw [growToTurn, if_pos (by omega), run_bind_error run]
  rw [growTo, if_pos ⟨Nat.le_trans sound.bounded wide, grows⟩]
  exact full fuel stack sound world

/-! ### Reading, writing and removing entries -/

/-- Without leave to grow, an index past the last entry is refused and nothing changes. -/
theorem genericStackGetp_refused (libc : Libc V) (fuel : Nat) {index : Nat} (above : stack.stackSizei ≤ index)
    (fixed : stack.optionGrowOnGeti = false) (world : World V) :
    ∃ world', genericStackGetp libc fuel stack index world = .ok (none, stack) world' ∧
      Exchanged world world' [] [] := by
  obtain ⟨world', reported, exchanged⟩ := reportFailure_run stack.failureCallbackp .runtime
    genericStackErrorRuntimeStackTooSmallGet world
  refine ⟨world', ?_, exchanged⟩
  rw [genericStackGetp, run_bind_ok (growTo_fixed fixed index),
    if_pos ⟨above, by rw [fixed]; simp⟩, run_bind_ok reported]
  rfl

/-- `getp` reads any allocated cell that it does not refuse. -/
theorem genericStackGetp_run (sound : stack.Sound) {index : Nat} (below : index < stack.allocSizei)
    (granted : index < stack.stackSizei ∨ stack.optionGrowOnGeti = true) (world : World V) :
    genericStackGetp libc fuel stack index world = .ok (stack.entry index, stack) world := by
  have readable : ¬ (stack.stackSizei ≤ index ∧ ¬ stack.optionGrowOnGeti = true) := fun refused =>
    granted.elim (fun inside => absurd inside (Nat.not_lt.mpr refused.1)) refused.2
  rw [genericStackGetp, run_bind_ok (growTo_inside below _), if_neg readable,
    run_bind_ok (sound.readCell below world)]
  rfl

/-- With leave to grow, an index past the buffer extends the stack and reads `NULL`. -/
theorem genericStackGetp_grows (grants : libc.AlwaysGrants) (enough : 2 ^ 32 ≤ fuel)
    (sound : stack.Sound) {index : Nat} (narrow : index < 2 ^ 31)
    (beyond : stack.allocSizei ≤ index) (grows : stack.optionGrowOnGeti = true) (world : World V) :
    ∃ stack' world', genericStackGetp libc fuel stack index world = .ok (none, stack') world' ∧
      stack.GrownTo index stack' ∧ Exchanged world world' [] [] := by
  obtain ⟨stack', world', run, grown, exchanged⟩ :=
    growTo_run grants enough sound narrow grows world
  have empty : stack'.entry index = none := by
    rw [grown.became.entries, GenericStack.padded, sound.beyond index beyond, ite_self]
  refine ⟨stack', world', ?_, grown, exchanged⟩
  rw [genericStackGetp, run_bind_ok run,
    if_neg (by rw [grown.became.settings.optionGrowOnGeti, grows]; simp),
    run_bind_ok (grown.became.sound.readCell grown.reached world'), empty]
  rfl

theorem genericStackGetp_exhausted (grants : libc.AlwaysGrants) (enough : 2 ^ 32 ≤ fuel)
    (sound : stack.Sound) {index : Nat} (wide : 2 ^ 31 ≤ index) (grows : stack.optionGrowOnGeti = true) (world : World V) :
    ∃ world', genericStackGetp libc fuel stack index world = .error .exhausted world' := by
  obtain ⟨world', run⟩ := growTo_exhausted grants enough sound wide grows world
  exact ⟨world', run_bind_error run⟩

/-- Without leave to grow, an index past the last entry is refused and nothing changes. -/
theorem genericStackSeti_refused (libc : Libc V) (fuel : Nat) {index : Nat} (above : stack.stackSizei ≤ index)
    (fixed : stack.optionGrowOnSeti = false) (elementp : Option (Element V)) (world : World V) :
    ∃ world', genericStackSeti libc fuel stack index elementp world = .ok (0, stack) world' ∧
      Exchanged world world' [] [] := by
  obtain ⟨world', reported, exchanged⟩ := reportFailure_run stack.failureCallbackp .runtime
    genericStackErrorRuntimeStackTooSmallSet world
  refine ⟨world', ?_, exchanged⟩
  simp only [genericStackSeti]
  rw [run_bind_ok (growTo_fixed fixed index), if_pos ⟨above, by rw [fixed]; simp⟩,
    run_bind_ok reported]
  rfl

theorem genericStackSeti_exhausted (grants : libc.AlwaysGrants) (enough : 2 ^ 32 ≤ fuel)
    (sound : stack.Sound) {index : Nat} (wide : 2 ^ 31 ≤ index) (grows : stack.optionGrowOnSeti = true) (elementp : Option (Element V)) (world : World V) :
    ∃ world', genericStackSeti libc fuel stack index elementp world = .error .exhausted world' := by
  obtain ⟨world', run⟩ := growTo_exhausted grants enough sound wide grows world
  exact ⟨world', run_bind_error run⟩

/-- The entries of a stack after `seti` wrote the one at `index`. The cells between the old size
and `index` are passed over when they are allocated, and are `NULL` when they are new. -/
def GenericStack.setEntry (stack : GenericStack V) (index : Nat) (stored : Option (Element V)) :
    Nat → Option (Element V) :=
  Function.update
    (fun other => if stack.allocSizei ≤ index ∧ stack.stackSizei ≤ other then none
      else stack.entry other) index stored

/-- An index below `2 ^ 31` is allocated after the growth at the head of `seti`. -/
theorem growTo_reaches (grants : libc.AlwaysGrants) (enough : 2 ^ 32 ≤ fuel) (sound : stack.Sound)
    {index : Nat} (narrow : index < 2 ^ 31) {optionGrow : Bool}
    (granted : index < stack.stackSizei ∨ optionGrow = true) (world : World V) :
    ∃ stack' world' size, growTo libc fuel optionGrow stack index world = .ok stack' world' ∧
      stack.Became stack' size (fun other =>
        if stack.allocSizei ≤ index ∧ stack.stackSizei ≤ other then none else stack.entry other) ∧
      index < stack'.allocSizei ∧ stack.stackSizei ≤ size ∧
      size ≤ max stack.stackSizei (index + 1) ∧ Exchanged world world' [] [] := by
  by_cases below : index < stack.allocSizei
  · refine ⟨stack, world, stack.stackSizei, growTo_inside below _, ⟨sound, .refl stack, rfl,
      fun other => ?_⟩, below, Nat.le_refl _, Nat.le_max_left _ _, .refl world⟩
    rw [if_neg (fun beyond => absurd beyond.1 (Nat.not_le.mpr below))]
  · have used := sound.used
    have beyond : stack.allocSizei ≤ index := Nat.not_lt.mp below
    obtain ⟨stack', world', run, grown, exchanged⟩ := growTo_run grants enough sound narrow
      (granted.resolve_left (by omega)) world
    refine ⟨stack', world', stack'.stackSizei, run, ⟨grown.became.sound, grown.became.settings, rfl,
      fun other => ?_⟩, grown.reached, grown.larger, grown.smaller, exchanged⟩
    rw [grown.became.entries, sound.padded (grown.passed beyond)]
    by_cases inside : other < stack.stackSizei
    · rw [if_pos inside, if_neg (by omega)]
    · rw [if_neg inside, if_pos ⟨beyond, by omega⟩]

section Reached

variable {grown : GenericStack V} {size index : Nat}

/-- The growth at the head of `seti` leaves the entry at the index. -/
theorem GenericStack.Became.reached (sound : stack.Sound)
    (became : stack.Became grown size (fun other =>
      if stack.allocSizei ≤ index ∧ stack.stackSizei ≤ other then none else stack.entry other)) :
    grown.bufpp[index]?.bind Slot.target? = stack.entry index := by
  rw [show grown.bufpp[index]?.bind Slot.target? = grown.entry index from rfl, became.entries]
  by_cases beyond : stack.allocSizei ≤ index
  · rw [sound.beyond index beyond, ite_self]
  · rw [if_neg (fun both => beyond both.1)]

/-- After it, `seti` does not find the stack too small. -/
theorem GenericStack.Became.accepts {entries : Nat → Option (Element V)}
    (became : stack.Became grown size entries)
    (granted : index < stack.stackSizei ∨ stack.optionGrowOnSeti = true)
    (larger : stack.stackSizei ≤ size) :
    ¬ (grown.stackSizei ≤ index ∧ ¬ grown.optionGrowOnSeti = true) := by
  rintro ⟨above, fixed⟩
  rw [became.settings.optionGrowOnSeti] at fixed
  have inside := granted.resolve_right fixed
  have size' := became.size
  omega

end Reached

/-- There is nothing to copy from when the source was freed before. -/
theorem copyElement_released (grants : libc.AlwaysGrants) (stack : GenericStack V)
    {freed : Option (Element V)} {source : Element V} (aliased : ¬ Apart freed (some source)) (world : World V) :
    ∃ world', copyElement libc stack freed source world = .error .released world' := by
  have same : freed.any (·.address == source.address) = true := by
    by_contra other
    exact aliased (.of_any other)
  unfold copyElement
  rw [run_bind_ok (malloc_run grants _ world)]
  simp only
  rw [if_pos same]
  exact ⟨_, rfl⟩

/-- `seti` cannot store the element that its cell holds: it releases it first. -/
theorem genericStackSeti_released (grants : libc.AlwaysGrants) (enough : 2 ^ 32 ≤ fuel)
    (sound : stack.Sound) (callable : stack.Callable) {index : Nat} (narrow : index < 2 ^ 31)
    (granted : index < stack.stackSizei ∨ stack.optionGrowOnSeti = true)
    {elementp : Option (Element V)} (aliased : ¬ Apart (stack.entry index) elementp)
    (world : World V) :
    ∃ world', genericStackSeti libc fuel stack index elementp world = .error .released world' := by
  cases elementp with
  | none => exact absurd (.none_right _) aliased
  | some source =>
    obtain ⟨grown, between, size, run, became, below, larger, -, -⟩ :=
      growTo_reaches grants enough sound narrow granted world
    obtain ⟨cells, cleared, clear, -⟩ := clearCell_run (callable.of_sameSettings became.settings)
      (Nat.lt_of_lt_of_le below became.sound.room) (became.sound.written index below) between
    obtain ⟨world', fault⟩ := copyElement_released grants { grown with bufpp := cells }
      (became.reached sound ▸ aliased) cleared
    refine ⟨world', ?_⟩
    simp only [genericStackSeti]
    rw [run_bind_ok run, if_neg (became.accepts granted larger), run_bind_ok clear]
    exact run_bind_error fault

/-- So a `seti` that returned stored another element. -/
theorem genericStackSeti_apart (grants : libc.AlwaysGrants) (enough : 2 ^ 32 ≤ fuel)
    (sound : stack.Sound) (callable : stack.Callable) {index : Nat} (narrow : index < 2 ^ 31)
    (granted : index < stack.stackSizei ∨ stack.optionGrowOnSeti = true)
    {elementp : Option (Element V)} {world world' : World V} {answer : Nat × GenericStack V}
    (run : genericStackSeti libc fuel stack index elementp world = .ok answer world') :
    Apart (stack.entry index) elementp := by
  by_contra aliased
  obtain ⟨between, fault⟩ :=
    genericStackSeti_released grants enough sound callable narrow granted aliased world
  rw [fault] at run
  cases run

/-- `seti` releases the entry at the index and stores the new one, which is another one. -/
theorem genericStackSeti_run (grants : libc.AlwaysGrants) (enough : 2 ^ 32 ≤ fuel)
    (sound : stack.Sound) (callable : stack.Callable) {index : Nat} (narrow : index < 2 ^ 31)
    (granted : index < stack.stackSizei ∨ stack.optionGrowOnSeti = true)
    {elementp : Option (Element V)} (apart : Apart (stack.entry index) elementp) (world : World V) :
    ∃ stack' world' stored,
      genericStackSeti libc fuel stack index elementp world = .ok (1, stack') world' ∧
      stack.Became stack' (max stack.stackSizei (index + 1)) (stack.setEntry index stored) ∧
      stack.Stored world world' elementp stored ∧
      Exchanged world world' stored.toList (stack.handedBack (stack.entry index).toList) := by
  obtain ⟨grown, between, size, run, became, below, larger, smaller, exchanged⟩ :=
    growTo_reaches grants enough sound narrow granted world
  have callable' := callable.of_sameSettings became.settings
  have room := Nat.lt_of_lt_of_le below became.sound.room
  obtain ⟨cells, cleared, clear, length, here, elsewhere, releasing⟩ :=
    clearCell_run callable' room (became.sound.written index below) between
  have old := became.reached sound
  have handed : grown.handedBack (stack.entry index).toList =
      stack.handedBack (stack.entry index).toList := by
    rw [GenericStack.handedBack, GenericStack.handedBack, became.settings.freeCallbackp]
  have minimum : (index + 1) % uintModulus = index + 1 :=
    Nat.mod_eq_of_lt (by simp only [uintModulus]; omega)
  have size' : max grown.stackSizei (index + 1) = max stack.stackSizei (index + 1) := by
    rw [became.size]
    omega
  have used : max stack.stackSizei (index + 1) ≤ grown.allocSizei := by
    have used := became.sound.used
    rw [became.size] at used
    omega
  have written (content : Slot (Element V)) (cells : List (Slot (Element V)))
      (length : cells.length = grown.bufpp.length) (here : cells[index]? = some content)
      (elsewhere : ∀ other, other ≠ index → cells[other]? = grown.bufpp[other]?)
      (determinate : content ≠ .indeterminate) :
      stack.Became { grown with
        bufpp := cells, stackSizei := max stack.stackSizei (index + 1) }
        (max stack.stackSizei (index + 1)) (stack.setEntry index content.target?) := by
    have changed := became.trans (became.sound.became_of_cells length here elsewhere determinate
      below used)
    rwa [show grown.entry = _ from funext became.entries] at changed
  rw [old, handed] at releasing
  simp only [genericStackSeti, minimum]
  rw [run_bind_ok run, if_neg (became.accepts granted larger), run_bind_ok clear]
  cases elementp with
  | none =>
    refine ⟨_, cleared, none, rfl, ?_, ⟨trivial, fun _ member => nomatch member⟩,
      exchanged.trans releasing⟩
    rw [size']
    exact written .null cells length here elsewhere (by simp)
  | some source =>
    have same : grown.SameSettings { grown with bufpp := cells } := ⟨rfl, rfl, rfl, rfl, rfl, rfl⟩
    obtain ⟨target, copied, copy, stored, storing⟩ :=
      store_run grants (callable'.of_sameSettings same) (old.symm ▸ apart) cleared
    simp only
    rw [run_bind_ok copy]
    simp only
    rw [run_bind_ok (writeCell_run (by rw [length]; exact room))]
    refine ⟨_, _, some target, rfl, ?_,
      ⟨(stored.copies.of_sameSettings same).of_sameSettings became.settings, fun element member =>
        (stored.fresh element member).mono
          (Nat.le_trans exchanged.addresses releasing.addresses) (Nat.le_refl _)⟩,
      ?_⟩
    · rw [size']
      refine written (.pointer target) _ (List.length_set.trans length)
        (List.getElem?_set_self (by rw [length]; exact room)) (fun other different => ?_) (by simp)
      rw [List.getElem?_set_ne different.symm, elsewhere other different]
    · have all := (exchanged.trans releasing).trans storing
      simp only [List.append_nil, List.nil_append] at all
      exact all

/-! ### Removing the last entry -/

/-- `popp` halves the buffer when at most half of it stays in use. -/
def GenericStack.Shrinks (stack : GenericStack V) : Prop :=
  (stack.stackSizei - 1) * 2 ≤ stack.allocSizei ∧ stack.allocSizei ≥ 8

instance (stack : GenericStack V) : Decidable stack.Shrinks :=
  inferInstanceAs (Decidable (_ ∧ _))

/-- The entries of a stack after `popp`. The removed entry keeps its cell, unless the cell is cut
off. -/
def GenericStack.poppedEntry (stack : GenericStack V) (index : Nat) : Option (Element V) :=
  if stack.Shrinks ∧ stack.allocSizei / 2 ≤ index then none else stack.entry index

/-- The stack `popp` leaves. -/
def GenericStack.popped (stack : GenericStack V) (buffer : Nat) : GenericStack V :=
  if stack.Shrinks then
    { stack with
      stackSizei := stack.stackSizei - 1
      allocSizei := stack.allocSizei / 2
      buffer
      bufpp := resize stack.bufpp (stack.allocSizei / 2 * pointerSize) }
  else { stack with stackSizei := stack.stackSizei - 1 }

theorem GenericStack.Sound.popped (sound : stack.Sound) (buffer : Nat) :
    stack.Became (stack.popped buffer) (stack.stackSizei - 1) stack.poppedEntry := by
  have used := sound.used
  have room := sound.room
  have bounded := sound.bounded
  by_cases shrinks : stack.Shrinks
  · have cells (index : Nat) (below : index < stack.allocSizei / 2) :
        (stack.popped buffer).bufpp[index]? = stack.bufpp[index]? := by
      rw [GenericStack.popped, if_pos shrinks]
      exact resize_getElem? _ (by simp only [pointerSize]; omega) (by omega)
    have length : (stack.popped buffer).bufpp.length = stack.allocSizei / 2 := by
      rw [GenericStack.popped, if_pos shrinks, resize_length]
      simp only [pointerSize]
      omega
    have entries (index : Nat) : (stack.popped buffer).entry index = stack.poppedEntry index := by
      rw [GenericStack.poppedEntry, GenericStack.entry]
      by_cases below : index < stack.allocSizei / 2
      · rw [cells index below, if_neg (by omega)]
        rfl
      · rw [if_pos ⟨shrinks, by omega⟩, List.getElem?_eq_none (by omega)]
        rfl
    have alloc : (stack.popped buffer).allocSizei = stack.allocSizei / 2 := by
      rw [GenericStack.popped, if_pos shrinks]
    have size : (stack.popped buffer).stackSizei = stack.stackSizei - 1 := by
      rw [GenericStack.popped, if_pos shrinks]
    have half := shrinks.1
    refine ⟨⟨by omega, by omega, by omega, fun index below => ?_, fun index above => ?_, ?_⟩, ?_,
      size, entries⟩
    · rw [cells index (by omega)]
      exact sound.written index (by omega)
    · rw [entries, GenericStack.poppedEntry, if_pos ⟨shrinks, by omega⟩]
    · obtain ⟨doublings, doubled⟩ := sound.doubled
      obtain ⟨fewer, rfl⟩ : ∃ fewer, doublings = fewer + 1 := by
        refine ⟨doublings - 1, ?_⟩
        rcases doublings with _ | fewer
        · have large := shrinks.2
          rw [doubled] at large
          exact absurd large (by decide)
        · rfl
      rw [alloc, doubled, Nat.pow_succ, ← Nat.mul_assoc]
      exact ⟨fewer, Nat.mul_div_cancel _ (by decide)⟩
    · rw [GenericStack.popped, if_pos shrinks]
      exact ⟨rfl, rfl, rfl, rfl, rfl, rfl⟩
  · rw [GenericStack.popped, if_neg shrinks]
    refine ⟨⟨bounded, room, Nat.le_trans (Nat.sub_le _ _) used, sound.written, sound.beyond,
      sound.doubled⟩, ⟨rfl, rfl, rfl, rfl, rfl, rfl⟩, rfl, fun index => ?_⟩
    rw [GenericStack.poppedEntry, if_neg (fun both => shrinks both.1)]
    rfl

theorem genericStackPopp_empty (libc : Libc V) (empty : stack.stackSizei = 0) (world : World V) :
    ∃ world', genericStackPopp libc stack world = .ok (none, stack) world' ∧
      Exchanged world world' [] [] := by
  obtain ⟨world', reported, exchanged⟩ := reportFailure_run stack.failureCallbackp .runtime
    genericStackErrorRuntimeStackEmpty world
  refine ⟨world', ?_, exchanged⟩
  rw [genericStackPopp, if_pos (Nat.le_of_eq empty), run_bind_ok reported]
  rfl

/-- `popp` returns the last entry and forgets it, but leaves its cell as it is. -/
theorem genericStackPopp_run (grants : libc.AlwaysGrants) (sound : stack.Sound)
    (occupied : 0 < stack.stackSizei) (world : World V) :
    ∃ stack' world',
      genericStackPopp libc stack world = .ok (stack.entry (stack.stackSizei - 1), stack') world' ∧
      stack.Became stack' (stack.stackSizei - 1) stack.poppedEntry ∧
      stack'.allocSizei =
        (if stack.Shrinks then stack.allocSizei / 2 else stack.allocSizei) ∧
      Exchanged world world' [] [] := by
  have used := sound.used
  have bounded := sound.bounded
  have doubled : (stack.stackSizei - 1) * 2 % sizeModulus = (stack.stackSizei - 1) * 2 :=
    Nat.mod_eq_of_lt (by simp only [sizeModulus]; omega)
  have bytes : stack.allocSizei / 2 * pointerSize % sizeModulus =
      stack.allocSizei / 2 * pointerSize :=
    Nat.mod_eq_of_lt (by simp only [sizeModulus, pointerSize]; omega)
  unfold genericStackPopp
  rw [if_neg (Nat.not_le.mpr occupied), run_bind_ok (sound.readCell (by omega) world)]
  simp only [doubled, bytes]
  by_cases shrinks : stack.Shrinks
  · have popped := sound.popped world.nextAddress
    rw [GenericStack.popped, if_pos shrinks] at popped
    rw [if_pos (show (stack.stackSizei - 1) * 2 ≤ stack.allocSizei ∧ stack.allocSizei ≥ 8 from
      shrinks), run_bind_ok (realloc_run grants _ world)]
    exact ⟨_, _, rfl, popped, by rw [if_pos shrinks],
      Exchanged.single world _ _ rfl (Nat.le_succ _)⟩
  · have popped := sound.popped 0
    rw [GenericStack.popped, if_neg shrinks] at popped
    rw [if_neg (show ¬ ((stack.stackSizei - 1) * 2 ≤ stack.allocSizei ∧ stack.allocSizei ≥ 8) from
      shrinks)]
    exact ⟨_, world, rfl, popped, by rw [if_neg shrinks], .refl world⟩

/-- Whatever the allocator answers, `popp` returns the last entry and leaves the others: at most a
cell above them is cut off. -/
theorem genericStackPopp_last (libc : Libc V) (sound : stack.Sound)
    (occupied : 0 < stack.stackSizei) (world : World V) :
    ∃ stack' world',
      genericStackPopp libc stack world = .ok (stack.entry (stack.stackSizei - 1), stack') world' ∧
      stack'.Sound ∧ stack.SameSettings stack' ∧ stack'.stackSizei = stack.stackSizei - 1 ∧
      (∀ other, stack'.entry other = stack.entry other ∨
        stack.stackSizei - 1 ≤ other ∧ stack'.entry other = none) ∧
      world.nextAddress ≤ world'.nextAddress := by
  have used := sound.used
  have bounded := sound.bounded
  have doubled : (stack.stackSizei - 1) * 2 % sizeModulus = (stack.stackSizei - 1) * 2 :=
    Nat.mod_eq_of_lt (by simp only [sizeModulus]; omega)
  have bytes : stack.allocSizei / 2 * pointerSize % sizeModulus =
      stack.allocSizei / 2 * pointerSize :=
    Nat.mod_eq_of_lt (by simp only [sizeModulus, pointerSize]; omega)
  have shorter : GenericStack.Sound { stack with stackSizei := stack.stackSizei - 1 } :=
    ⟨bounded, sound.room, Nat.le_trans (Nat.sub_le _ _) used, sound.written, sound.beyond,
      sound.doubled⟩
  unfold genericStackPopp
  rw [if_neg (Nat.not_le.mpr occupied), run_bind_ok (sound.readCell (by omega) world)]
  simp only [doubled, bytes]
  by_cases shrinks : stack.Shrinks
  · rw [if_pos (show (stack.stackSizei - 1) * 2 ≤ stack.allocSizei ∧ stack.allocSizei ≥ 8 from
      shrinks)]
    cases grant : libc.grants world.events (stack.allocSizei / 2 * pointerSize) with
    | false =>
      rw [realloc, run_bind_ok (run_acquire_refused grant)]
      exact ⟨_, _, rfl, shorter, ⟨rfl, rfl, rfl, rfl, rfl, rfl⟩, rfl, fun _ => .inl rfl,
        Nat.le_refl _⟩
    | true =>
      have popped := sound.popped world.nextAddress
      rw [GenericStack.popped, if_pos shrinks] at popped
      rw [realloc, run_bind_ok (run_acquire_granted grant)]
      refine ⟨_, _, rfl, popped.sound, popped.settings, popped.size, fun other => ?_,
        Nat.le_succ _⟩
      rw [popped.entries, GenericStack.poppedEntry]
      by_cases cut : stack.Shrinks ∧ stack.allocSizei / 2 ≤ other
      · have half := shrinks.1
        rw [if_pos cut]
        exact .inr ⟨by omega, rfl⟩
      · rw [if_neg cut]
        exact .inl rfl
  · rw [if_neg (show ¬ ((stack.stackSizei - 1) * 2 ≤ stack.allocSizei ∧ stack.allocSizei ≥ 8) from
      shrinks)]
    exact ⟨_, world, rfl, shorter, ⟨rfl, rfl, rfl, rfl, rfl, rfl⟩, rfl, fun _ => .inl rfl,
      Nat.le_refl _⟩

/-! ### The end of a stack -/

theorem GenericStack.handedBack_append (stack : GenericStack V) (first second : List (Element V)) :
    stack.handedBack (first ++ second) = stack.handedBack first ++ stack.handedBack second := by
  unfold GenericStack.handedBack
  split <;> rfl

/-- The loop of `destroyv` from the cell at `index` on, with those cells as they were. -/
theorem destroyLoop_run (sound : stack.Sound) (callable : stack.Callable) (turns : Nat) {index left : Nat}
    (remaining : index + left = stack.allocSizei) (enough : left < turns)
    {cells : List (Slot (Element V))} (length : cells.length = stack.bufpp.length)
    (ahead : ∀ other, index ≤ other → cells[other]? = stack.bufpp[other]?) (world : World V) :
    ∃ world', loop .exhausted (destroyTurn stack) turns (index, cells) world = .ok () world' ∧
      Exchanged world world' [] (stack.handedBack (occupants stack.entry index left)) := by
  have room := sound.room
  have bounded := sound.bounded
  induction left generalizing turns index cells world with
  | zero =>
    obtain ⟨turns, rfl⟩ : ∃ fewer, turns = fewer + 1 := ⟨turns - 1, by omega⟩
    have turn : destroyTurn stack (index, cells) world = .ok (.done ()) world := by
      rw [destroyTurn, if_neg (show ¬ index < stack.allocSizei by omega)]
      rfl
    refine ⟨world, loop_done turn, ?_⟩
    rw [show occupants stack.entry index 0 = [] from rfl, GenericStack.handedBack, ite_self]
    exact .refl world
  | succ left inductionHypothesis =>
    obtain ⟨turns, rfl⟩ : ∃ fewer, turns = fewer + 1 := ⟨turns - 1, by omega⟩
    have below : index < stack.allocSizei := by omega
    obtain ⟨cells', between, clear, length', -, elsewhere, exchanged⟩ :=
      clearCell_run callable (show index < cells.length by omega)
        (by rw [ahead index (Nat.le_refl _)]; exact sound.written index below) world
    have turn : destroyTurn stack (index, cells) world =
        .ok (.next (index + 1, cells')) between := by
      rw [destroyTurn, if_pos below, run_bind_ok clear,
        Nat.mod_eq_of_lt (by simp only [uintModulus]; omega)]
      rfl
    obtain ⟨world', rest, exchanged'⟩ := inductionHypothesis turns
      (show index + 1 + left = stack.allocSizei by omega) (by omega) (length'.trans length)
      (fun other above => by rw [elsewhere other (by omega), ahead other (by omega)]) between
    refine ⟨world', by rw [loop_next turn, rest], ?_⟩
    have both := exchanged.trans exchanged'
    rwa [ahead index (Nat.le_refl _), ← stack.handedBack_append,
      show (stack.bufpp[index]?.bind Slot.target?) = stack.entry index from rfl,
      ← occupants_succ] at both

/-- `destroyv` releases the elements in all allocated cells, used or not. -/
theorem genericStackDestroyv_run (enough : 2 ^ 32 ≤ fuel) (sound : stack.Sound)
    (callable : stack.Callable) (world : World V) :
    ∃ world', genericStackDestroyv fuel stack world = .ok () world' ∧
      Exchanged world world' []
        (stack.handedBack (occupants stack.entry 0 stack.allocSizei)) := by
  have bounded := sound.bounded
  obtain ⟨between, run, exchanged⟩ := destroyLoop_run sound callable fuel
    (Nat.zero_add stack.allocSizei) (by omega) rfl (fun _ _ => rfl) world
  exact ⟨_, (run_bind_ok run).trans rfl, (exchanged.freed stack.buffer).freed stack.address⟩

/-! ### A new stack -/

/-- The initial block has room for four pointers. The source allocates four elements there. -/
def HasRoom (elementSizei : Nat) : Prop :=
  stackInitSize * pointerSize ≤ elementSizei * stackInitSize % sizeModulus

instance (elementSizei : Nat) : Decidable (HasRoom elementSizei) :=
  inferInstanceAs (Decidable (_ ≤ _))

/-- A sound and empty stack with the callbacks and options of `optionp`. -/
structure GenericStack.Fresh (stack : GenericStack V)
    (optionp : Option (GenericStackOption V)) : Prop where
  sound : stack.Sound
  empty : stack.stackSizei = 0
  entries : ∀ index, stack.entry index = none
  freeCallbackp : stack.freeCallbackp = optionp.bind (·.freeCallbackp)
  copyCallbackp : stack.copyCallbackp = optionp.bind (·.copyCallbackp)
  optionGrowOnGeti : stack.optionGrowOnGeti = (optionp.map fun option =>
    option.growFlags &&& genericStackOptionGrowOnGet == genericStackOptionGrowOnGet).getD false
  optionGrowOnSeti : stack.optionGrowOnSeti = (optionp.map fun option =>
    option.growFlags &&& genericStackOptionGrowOnSet == genericStackOptionGrowOnSet).getD false

/-- Freshly nulled cells hold no entry. -/
theorem GenericStack.fresh_of_nulled {elementSizei : Nat}
    {optionp : Option (GenericStackOption V)} (room : HasRoom elementSizei)
    (bufpp : stack.bufpp =
      nulled (resize [] (elementSizei * stackInitSize % sizeModulus)) 0 stackInitSize)
    (alloc : stack.allocSizei = stackInitSize) (empty : stack.stackSizei = 0)
    (freeCallbackp : stack.freeCallbackp = optionp.bind (·.freeCallbackp))
    (copyCallbackp : stack.copyCallbackp = optionp.bind (·.copyCallbackp))
    (growOnGet : stack.optionGrowOnGeti = (optionp.map fun option =>
      option.growFlags &&& genericStackOptionGrowOnGet == genericStackOptionGrowOnGet).getD false)
    (growOnSet : stack.optionGrowOnSeti = (optionp.map fun option =>
      option.growFlags &&& genericStackOptionGrowOnSet == genericStackOptionGrowOnSet).getD
        false) : stack.Fresh optionp := by
  have length : stackInitSize ≤ stack.bufpp.length := by
    rw [bufpp, nulled_length, resize_length]
    exact (Nat.le_div_iff_mul_le (by decide)).mpr room
  have cells (index : Nat) (below : index < stackInitSize) :
      stack.bufpp[index]? = some .null := by
    have inside : index < (resize [] (elementSizei * stackInitSize % sizeModulus) :
        List (Slot (Element V))).length := by
      rw [bufpp, nulled_length] at length
      omega
    rw [bufpp, nulled, List.getElem?_mapIdx, List.getElem?_eq_getElem inside, Option.map_some,
      if_pos ⟨Nat.zero_le _, below⟩]
  have entries (index : Nat) : stack.entry index = none := by
    by_cases below : index < stackInitSize
    · rw [GenericStack.entry, cells index below]
      rfl
    · rw [GenericStack.entry, bufpp, nulled, List.getElem?_mapIdx]
      cases content : (resize [] (elementSizei * stackInitSize % sizeModulus) :
        List (Slot (Element V)))[index]? with
      | none => rfl
      | some cell =>
        obtain rfl : cell = .indeterminate := by
          have member := List.mem_of_getElem? content
          simp only [resize, List.take_nil, List.nil_append] at member
          exact List.eq_of_mem_replicate member
        rw [Option.map_some, if_neg (fun both => below both.2)]
        rfl
  refine ⟨⟨by rw [alloc]; decide, by rw [alloc]; exact length, by rw [empty]; exact Nat.zero_le _,
    fun index below => ?_, fun index _ => entries index, ⟨0, by rw [alloc]; rfl⟩⟩, empty, entries,
    freeCallbackp, copyCallbackp, growOnGet, growOnSet⟩
  rw [cells index (by rwa [alloc] at below)]
  simp

/-- With room for its four pointers, a new stack is sound and empty. -/
theorem genericStackNewp_run (grants : libc.AlwaysGrants) (enough : 2 ^ 32 ≤ fuel)
    {elementSizei : Nat} (room : HasRoom elementSizei)
    (optionp : Option (GenericStackOption V)) (world : World V) :
    ∃ stack world', genericStackNewp libc fuel elementSizei optionp world = .ok (some stack) world' ∧
      stack.Fresh optionp ∧ Exchanged world world' [] [] := by
  have positive : ¬ elementSizei ≤ 0 := by
    intro zero
    rw [Nat.le_zero.mp zero] at room
    exact absurd room (by decide)
  have cells : stackInitSize ≤ (resize [] (elementSizei * stackInitSize % sizeModulus) :
      List (Slot (Element V))).length := by
    rw [resize_length]
    exact (Nat.le_div_iff_mul_le (by decide)).mpr room
  simp only [genericStackNewp, if_neg positive]
  rw [run_bind_ok (malloc_run grants _ world)]
  simp only
  rw [run_bind_ok (malloc_run grants _ _)]
  simp only
  rw [run_bind_ok (fillNull_run (by decide) cells
    (by simp only [stackInitSize]; omega) (by decide))]
  refine ⟨_, _, rfl, GenericStack.fresh_of_nulled room rfl rfl rfl rfl rfl rfl rfl, ?_⟩
  exact (Exchanged.single world (.malloc genericStackSize (some world.nextAddress))
    (world.nextAddress + 1) rfl (Nat.le_succ _)).trans
      (Exchanged.single _ (.malloc (elementSizei * stackInitSize % sizeModulus)
        (some (world.nextAddress + 1))) (world.nextAddress + 1 + 1) rfl (Nat.le_succ _))

/-- A stack is only created when its initial block has room, and then it is sound and empty. -/
theorem genericStackNewp_return (grants : libc.AlwaysGrants) (enough : 2 ^ 32 ≤ fuel)
    {elementSizei : Nat} {optionp : Option (GenericStackOption V)}
    {created : Option (GenericStack V)} {world' : World V}
    (run : genericStackNewp libc fuel elementSizei optionp world = .ok created world') :
    (∀ stack ∈ created, stack.Fresh optionp) ∧ Exchanged world world' [] [] := by
  by_cases room : HasRoom elementSizei
  · obtain ⟨stack, between, run', fresh, exchanged⟩ :=
      genericStackNewp_run grants enough room optionp world
    rw [run'] at run
    cases run
    exact ⟨fun _ member => by cases member; exact fresh, exchanged⟩
  · by_cases zero : elementSizei ≤ 0
    · obtain ⟨between, reported, exchanged⟩ := reportFailure_run
        ((optionp.map (·.failureCallbackp)).getD false) .parameter
          genericStackErrorParameterElementsize world
      simp only [genericStackNewp, if_pos zero] at run
      rw [run_bind_ok reported] at run
      cases run
      exact ⟨fun _ member => (nomatch member), exchanged⟩
    · exfalso
      have short : (resize [] (elementSizei * stackInitSize % sizeModulus) :
          List (Slot (Element V))).length < stackInitSize := by
        rw [resize_length]
        exact Nat.not_le.mp fun inside => room ((Nat.le_div_iff_mul_le (by decide)).mp inside)
      simp only [genericStackNewp, if_neg zero] at run
      rw [run_bind_ok (malloc_run grants _ world)] at run
      simp only at run
      rw [run_bind_ok (malloc_run grants _ _)] at run
      simp only at run
      rw [run_bind_error (fillNull_outOfBounds (by decide) short
        (by simp only [stackInitSize]; omega) (Nat.zero_le _))] at run
      cases run

/-- The callbacks of an option record, when it has any, return. -/
structure GenericStackOption.Callable (option : GenericStackOption V) : Prop where
  free : ∀ callback ∈ option.freeCallbackp, ∀ events element,
    ∃ errnum, callback events element = .ok errnum
  copy : ∀ callback ∈ option.copyCallbackp, ∀ events element,
    ∃ errnum value, callback events element = .ok (errnum, value)

theorem GenericStack.Fresh.callable {optionp : Option (GenericStackOption V)}
    (fresh : stack.Fresh optionp) (callable : ∀ option ∈ optionp, option.Callable) :
    stack.Callable := by
  constructor
  · rw [fresh.freeCallbackp]
    intro callback member
    obtain ⟨option, given, provided⟩ := Option.bind_eq_some_iff.mp member
    exact (callable option given).free callback provided
  · rw [fresh.copyCallbackp]
    intro callback member
    obtain ⟨option, given, provided⟩ := Option.bind_eq_some_iff.mp member
    exact (callable option given).copy callback provided

end Granted

end MarpaWrapper
