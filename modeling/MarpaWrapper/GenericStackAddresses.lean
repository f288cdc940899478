/-
This file says which blocks the functions of the value stack free, whatever the
allocator and the callbacks answer. A stack refers to the elements in its cells,
to its buffer and to itself. It frees blocks that it refers to, and blocks that
were handed out since, so that a block it never referred to stays allocated.
-/

import MarpaWrapper.GenericStackExchanges

namespace MarpaWrapper

open Effects

variable {V α : Type}

/-- The blocks that cells point to. -/
def pointees (cells : List (Slot (Element V))) : List Nat :=
  cells.filterMap fun cell => cell.target?.map Element.address

/-- The blocks that a stack refers to. -/
def GenericStack.blocks (stack : GenericStack V) : List Nat :=
  stack.address :: stack.buffer :: pointees stack.bufpp

/-- Since `start` the stack freed only blocks of `own`, each after it was handed out, and `blocks`
are blocks of `own` that were handed out. What is handed out after `start` is of `own`. -/
structure Owning (own : Nat → Prop) (start : World V) (blocks : List Nat) (world : World V) :
    Prop where
  record : ∃ exchanges, world.events = start.events ++ exchanges ∧ ∀ event ∈ exchanges,
    OfStack event ∧ ∀ address, event = .free address → own address ∧ address < world.nextAddress
  later : start.nextAddress ≤ world.nextAddress
  fresh : ∀ address, start.nextAddress ≤ address → own address
  blocks : ∀ address ∈ blocks, own address ∧ address < world.nextAddress

/-- A computation that ends with `after`, given that `blocks` are owned. -/
abbrev Owned (own : Nat → Prop) (start : World V) (blocks : List Nat) (program : Exec V α)
    (after : α → List Nat) : Prop :=
  Triple (Owning own start blocks) program (fun value => Owning own start (after value ++ blocks))
    fun _ _ => True

variable {own : Nat → Prop} {start world : World V} {blocks blocks' : List Nat}
  {cells cells' : List (Slot (Element V))} {stack : GenericStack V} {event : Event V} {index : Nat}
  {libc : Libc V} {fuel : Nat}

theorem Owning.subset (owning : Owning own start blocks world) (fewer : blocks' ⊆ blocks) :
    Owning own start blocks' world :=
  ⟨owning.record, owning.later, owning.fresh, fun address member =>
    owning.blocks address (fewer member)⟩

/-- One more exchange, which releases nothing but an own block. -/
theorem Owning.exchange (owning : Owning own start blocks world) (ofStack : OfStack event)
    {next : Nat} (later : world.nextAddress ≤ next)
    (freed : ∀ address, event = .free address → own address ∧ address < next) :
    Owning own start blocks
      { world with events := world.events ++ [event], nextAddress := next } := by
  obtain ⟨exchanges, record, kinds⟩ := owning.record
  refine ⟨⟨exchanges ++ [event], by rw [record, List.append_assoc], fun other member => ?_⟩,
    Nat.le_trans owning.later later, owning.fresh, fun address member =>
      ⟨(owning.blocks address member).1, Nat.lt_of_lt_of_le (owning.blocks address member).2 later⟩⟩
  rcases List.mem_append.mp member with old | new
  · refine ⟨(kinds other old).1, fun address same => ?_⟩
    obtain ⟨owned, below⟩ := (kinds other old).2 address same
    exact ⟨owned, Nat.lt_of_lt_of_le below later⟩
  · rw [List.mem_singleton.mp new]
    exact ⟨ofStack, freed⟩

/-! ### Rules -/

theorem Owned.pure {value : α} {after : α → List Nat} (fewer : after value ⊆ blocks) :
    Owned own start blocks (pure value : Exec V α) after :=
  Triple.pure fun _ owning => owning.subset (List.append_subset.mpr ⟨fewer, List.Subset.refl _⟩)

/-- The second computation may use what the first one leads to. -/
theorem Owned.bind {β : Type} {first : Exec V β} {rest : β → Exec V α} {between : β → List Nat}
    {after : α → List Nat} (head : Owned own start blocks first between)
    (tail : ∀ value, Owned own start (between value ++ blocks) (rest value) after) :
    Owned own start blocks (first >>= rest) after :=
  Triple.bind head fun value => (tail value).consequence (fun _ owning => owning)
    (fun _ _ owning => owning.subset (List.append_subset.mpr ⟨List.subset_append_left _ _,
      List.subset_append_of_subset_right _ (List.subset_append_right _ _)⟩))
    fun _ _ _ => trivial

/-- A computation that leads to no block. -/
theorem Owned.quiet {program : Exec V α} (keeps : Keeps (Owning own start blocks) program) :
    Owned own start blocks program fun _ => [] :=
  Triple.consequence keeps (fun _ owning => owning) (fun _ _ owning => owning) fun _ _ _ => trivial

/-- A granted block is an own one, since no other has its address. -/
theorem Owned.acquire {granted : List (Event V) → Bool}
    {event : Option Nat → Event V} (ofStack : ∀ handle, OfStack (event handle))
    (noFree : ∀ handle address, event handle ≠ .free address) :
    Owned own start blocks (acquire granted event) Option.toList := by
  intro world owning
  cases grant : granted world.events with
  | false =>
    rw [run_acquire_refused grant]
    exact owning.exchange (ofStack _) (Nat.le_refl _) fun address same =>
      absurd same (noFree _ address)
  | true =>
    rw [run_acquire_granted grant]
    have later := owning.exchange (ofStack (some world.nextAddress)) (Nat.le_succ _)
      fun address same => absurd same (noFree _ address)
    refine ⟨later.record, later.later, later.fresh, fun address member => ?_⟩
    rcases List.mem_append.mp member with new | old
    · rw [List.mem_singleton.mp new]
      exact ⟨owning.fresh _ owning.later, Nat.lt_succ_self _⟩
    · exact later.blocks address old

theorem Owned.emit (ofStack : OfStack event) (noFree : ∀ address, event ≠ .free address) :
    Owned own start blocks (emit event) fun _ => [] :=
  fun _ owning => owning.exchange ofStack (Nat.le_refl _) fun address same =>
    absurd same (noFree address)

/-- A block that is referred to may be freed. -/
theorem Owned.free {address : Nat} (member : address ∈ blocks) :
    Owned own start blocks (MarpaWrapper.emit (.free address)) fun _ => [] := by
  intro world owning
  refine owning.exchange rfl (Nat.le_refl _) fun freed same => ?_
  cases same
  exact owning.blocks address member

theorem Owned.ite {condition : Prop} [Decidable condition] {program other : Exec V α}
    {after : α → List Nat} (positive : Owned own start blocks program after)
    (negative : Owned own start blocks other after) :
    Owned own start blocks (if condition then program else other) after :=
  Triple.ite (fun _ => positive) fun _ => negative

theorem Owned.throw {fault : Fault} {after : α → List Nat} :
    Owned own start blocks (throw fault : Exec V α) after :=
  Triple.throw fun _ _ => trivial

/-- The blocks that a turn leads to. -/
def turnBlocks {β γ : Type} (refers : β → List Nat) (after : γ → List Nat) : Turn β γ → List Nat
  | .next frame => refers frame
  | .done result => after result

/-- What each turn refers to, the loop refers to. -/
theorem Owned.loop {β γ : Type} {body : β → Exec V (Turn β γ)} (refers : β → List Nat)
    {after : γ → List Nat}
    (turn : ∀ blocks frame, refers frame ⊆ blocks →
      Owned own start blocks (body frame) (turnBlocks refers after))
    (fuel : Nat) {frame : β} (entry : refers frame ⊆ blocks) :
    Owned own start blocks (loop .exhausted body fuel frame) after := by
  induction fuel generalizing frame blocks with
  | zero => exact .throw
  | succ fuel inductionHypothesis =>
    refine .bind (turn blocks frame entry) fun outcome => ?_
    cases outcome with
    | next following => exact inductionHypothesis (List.subset_append_left _ _)
    | done result => exact .pure (List.subset_append_left _ _)

/-! ### Cells -/

theorem mem_pointees {address : Nat} :
    address ∈ pointees cells ↔ ∃ element, .pointer element ∈ cells ∧ element.address = address := by
  unfold pointees
  rw [List.mem_filterMap]
  constructor
  · rintro ⟨cell, member, found⟩
    cases cell with
    | pointer element => exact ⟨element, member, Option.some.inj found⟩
    | indeterminate => cases found
    | null => cases found
  · rintro ⟨element, member, rfl⟩
    exact ⟨_, member, rfl⟩

theorem pointees_set {content : Slot (Element V)} :
    pointees (cells.set index content) ⊆ pointees [content] ++ pointees cells := by
  intro address member
  obtain ⟨element, found, rfl⟩ := mem_pointees.mp member
  rcases List.mem_or_eq_of_mem_set found with kept | rfl
  · exact List.mem_append_right _ (mem_pointees.mpr ⟨element, kept, rfl⟩)
  · exact List.mem_append_left _ (mem_pointees.mpr ⟨element, List.mem_singleton_self _, rfl⟩)

theorem pointees_resize {size : Nat} : pointees (resize cells size) ⊆ pointees cells := by
  intro address member
  obtain ⟨element, found, rfl⟩ := mem_pointees.mp member
  rcases List.mem_append.mp found with kept | fresh
  · exact mem_pointees.mpr ⟨element, List.mem_of_mem_take kept, rfl⟩
  · cases List.eq_of_mem_replicate fresh

theorem writeCell_owned {content : Slot (Element V)} (written : pointees [content] ⊆ blocks)
    (kept : pointees cells ⊆ blocks) :
    Owned own start blocks (writeCell cells index content) pointees :=
  .ite (.pure (List.Subset.trans pointees_set (List.append_subset.mpr ⟨written, kept⟩))) .throw

theorem readCell_owned (kept : pointees cells ⊆ blocks) :
    Owned own start blocks (readCell cells index) fun found =>
      (found.map Element.address).toList := by
  unfold readCell
  cases found : cells[index]? with
  | none => exact .throw
  | some cell =>
    cases cell with
    | indeterminate => exact .throw
    | null => exact .pure (List.nil_subset _)
    | pointer element =>
      refine .pure fun address member => kept (mem_pointees.mpr ⟨element, List.mem_of_getElem? found, ?_⟩)
      exact (List.mem_singleton.mp member).symm

theorem fillNull_owned {first bound : Nat} (kept : pointees cells ⊆ blocks) :
    Owned own start blocks (fillNull fuel cells first bound) pointees :=
  .loop (fun frame : Nat × List (Slot (Element V)) => pointees frame.2) (fun _ _ kept => .ite
    (.bind (writeCell_owned (List.nil_subset _) kept) fun _ => .pure (List.subset_append_left _ _))
    (.pure (by exact kept))) fuel kept

/-! ### The functions of the stack -/

theorem malloc_owned (size : Nat) : Owned own start blocks (malloc libc size) Option.toList :=
  .acquire (fun _ => rfl) fun _ _ => nofun

theorem realloc_owned (size : Nat) : Owned own start blocks (realloc libc size) Option.toList :=
  .acquire (fun _ => rfl) fun _ _ => nofun

theorem reportFailure_owned (failureCallbackp : Bool) (errorType : GenericStackError)
    (errorNumber : Int) :
    Owned own start blocks (reportFailure failureCallbackp errorType errorNumber) fun _ => [] :=
  .ite (.emit rfl fun _ => nofun) (.pure (List.nil_subset _))

/-- The block of a copy is a fresh one. -/
theorem copyElement_owned (freed : Option (Element V)) (source : Element V) :
    Owned own start blocks (copyElement libc stack freed source) fun copied =>
      (copied.map Element.address).toList := by
  refine .bind (malloc_owned _) fun granted => ?_
  cases granted with
  | none => exact .bind (reportFailure_owned _ _ _) fun _ => .pure (List.nil_subset _)
  | some address =>
    refine .ite .throw ?_
    cases stack.copyCallbackp with
    | none => exact .pure (List.subset_append_left _ _)
    | some callback =>
      have copies : Owned own start ((some address).toList ++ blocks)
          (callCopyCallback callback source address) fun _ => [] := by
        intro world owning
        unfold callCopyCallback
        cases callback world.events source with
        | ok answer => exact owning.exchange rfl (Nat.le_refl _) fun _ => nofun
        | error fault => trivial
      exact .bind copies fun _ =>
        .bind (.ite (reportFailure_owned _ _ _) (.pure (List.nil_subset _))) fun _ =>
          .pure (List.subset_append_left _ _)

theorem handToFreeCallback_owned (element : Element V) :
    Owned own start blocks (handToFreeCallback stack element) fun _ => [] := by
  unfold handToFreeCallback
  cases stack.freeCallbackp with
  | none => exact .pure (List.nil_subset _)
  | some callback =>
    have frees : Owned own start blocks (callFreeCallback callback element) fun _ => [] := by
      intro world owning
      unfold callFreeCallback
      cases callback world.events element with
      | ok answer => exact owning.exchange rfl (Nat.le_refl _) fun _ => nofun
      | error fault => trivial
    exact .bind frees fun _ => .ite (reportFailure_owned _ _ _) (.pure (List.nil_subset _))

/-- An element that is referred to may be released. -/
theorem releaseElement_owned {element : Element V} (member : element.address ∈ blocks) :
    Owned own start blocks (releaseElement stack element) fun _ => [] :=
  .bind (handToFreeCallback_owned element) fun _ => .free member

/-- The element of a cell is released, which the cells refer to. -/
theorem clearCell_owned (kept : pointees cells ⊆ blocks) :
    Owned own start blocks (clearCell stack cells index) pointees := by
  refine .bind (readCell_owned kept) fun found => ?_
  cases found with
  | none => exact .pure (List.subset_append_of_subset_right _ kept)
  | some element =>
    exact .bind (releaseElement_owned (List.mem_cons_self ..)) fun _ =>
      writeCell_owned (List.nil_subset _)
        (List.subset_append_of_subset_right _ (List.subset_append_of_subset_right _ kept))

theorem genericStackNewp_owned (elementSizei : Nat) (optionp : Option (GenericStackOption V)) :
    Owned own start blocks (genericStackNewp libc fuel elementSizei optionp) fun created =>
      created.elim [] GenericStack.blocks := by
  refine .ite (.bind (reportFailure_owned _ _ _) fun _ => .pure (List.nil_subset _))
    (.bind (malloc_owned _) fun granted => ?_)
  cases granted with
  | none => exact .bind (reportFailure_owned _ _ _) fun _ => .pure (List.nil_subset _)
  | some address =>
    refine .bind (malloc_owned _) fun granted => ?_
    cases granted with
    | none =>
      exact .bind (reportFailure_owned _ _ _) fun _ =>
        .bind (.free (List.mem_cons_self ..)) fun _ => .pure (List.nil_subset _)
    | some buffer =>
      refine .bind (fillNull_owned (List.Subset.trans pointees_resize (List.nil_subset _)))
        fun bufpp => .pure fun block member => ?_
      rcases List.mem_cons.mp member with rfl | member
      · simp
      · rcases List.mem_cons.mp member with rfl | member
        · simp
        · exact List.mem_append_left _ member

/-! ### Growth -/

theorem pointees_subset_blocks : pointees stack.bufpp ⊆ stack.blocks :=
  fun _ member => List.mem_cons_of_mem _ (List.mem_cons_of_mem _ member)

/-- The old buffer is released, and the new one is an own block. -/
theorem growBuffer_owned (kept : stack.blocks ⊆ blocks) :
    Owned own start blocks (growBuffer libc fuel stack) fun grown => grown.2.blocks := by
  refine .ite (.bind (realloc_owned _) fun granted => ?_) (.pure kept)
  cases granted with
  | none =>
    exact .bind (reportFailure_owned _ _ _) fun _ =>
      .pure (List.subset_append_of_subset_right _ kept)
  | some buffer =>
    have cells := List.Subset.trans pointees_subset_blocks kept
    refine .bind (fillNull_owned (List.subset_append_of_subset_right _
      (List.Subset.trans pointees_resize cells))) fun bufpp => .pure fun block member => ?_
    rcases List.mem_cons.mp member with rfl | member
    · simp [kept (List.mem_cons_self ..)]
    · rcases List.mem_cons.mp member with rfl | member
      · simp
      · exact List.mem_append_left _ member

/-- A cell of a stack is written. -/
theorem blocks_written (stack : GenericStack V) {bufpp : List (Slot (Element V))} {stackSizei : Nat}
    (cells : pointees bufpp ⊆ blocks) (kept : stack.blocks ⊆ blocks) :
    GenericStack.blocks { stack with bufpp, stackSizei } ⊆ blocks := by
  intro block member
  rcases List.mem_cons.mp member with rfl | member
  · exact kept (List.mem_cons_self ..)
  · rcases List.mem_cons.mp member with rfl | member
    · exact kept (List.mem_cons_of_mem _ (List.mem_cons_self ..))
    · exact cells member

/-- Growing pushes `NULL`. -/
theorem genericStackPushi_null_owned (kept : stack.blocks ⊆ blocks) :
    Owned own start blocks (genericStackPushi libc fuel stack none) fun pushed =>
      pushed.2.blocks := by
  refine .bind (growBuffer_owned kept) fun grown => .ite ?_ (.pure (List.subset_append_left _ _))
  have room : grown.2.blocks ⊆ grown.2.blocks ++ blocks := List.subset_append_left _ _
  exact .bind (writeCell_owned (List.nil_subset _) (List.Subset.trans pointees_subset_blocks room))
    fun _ => .pure (blocks_written grown.2 (List.subset_append_left _ _)
      (List.subset_append_of_subset_right _ room))

theorem growTo_owned {optionGrow : Bool} (kept : stack.blocks ⊆ blocks) :
    Owned own start blocks (growTo libc fuel optionGrow stack index) GenericStack.blocks :=
  .ite (.loop GenericStack.blocks (fun _ _ kept => .ite
    (.bind (genericStackPushi_null_owned kept) fun _ => .pure (List.subset_append_left _ _))
    (.pure (by exact kept))) fuel kept) (.pure kept)

/-! ### The functions of the source -/

theorem genericStackGetp_owned (kept : stack.blocks ⊆ blocks) :
    Owned own start blocks (genericStackGetp libc fuel stack index) fun found =>
      found.2.blocks := by
  refine .bind (growTo_owned kept) fun grown => .ite
    (.bind (reportFailure_owned _ _ _) fun _ => .pure ?_)
    (.bind (readCell_owned ?_) fun _ => .pure ?_)
  · exact List.subset_append_left _ _
  · exact List.subset_append_of_subset_left _ pointees_subset_blocks
  · exact List.subset_append_of_subset_right _ (List.subset_append_left _ _)

/-- What the stack refers to afterwards it referred to before, or it allocated it. -/
theorem genericStackSeti_owned (kept : stack.blocks ⊆ blocks) (elementp : Option (Element V)) :
    Owned own start blocks (genericStackSeti libc fuel stack index elementp) fun stored =>
      stored.2.blocks := by
  refine .bind (growTo_owned kept) fun grown => .ite
    (.bind (reportFailure_owned _ _ _) fun _ => .pure (List.subset_append_left _ _)) ?_
  have room : grown.blocks ⊆ grown.blocks ++ blocks := List.subset_append_left _ _
  refine .bind (clearCell_owned (List.Subset.trans pointees_subset_blocks room)) fun bufpp => ?_
  have cleared : pointees bufpp ⊆ pointees bufpp ++ (grown.blocks ++ blocks) :=
    List.subset_append_left _ _
  have kept' := List.subset_append_of_subset_right (pointees bufpp) room
  cases elementp with
  | none => exact .pure (blocks_written grown cleared kept')
  | some element =>
    refine .bind (copyElement_owned _ element) fun copied => ?_
    cases copied with
    | none =>
      exact .pure (blocks_written grown (List.subset_append_of_subset_right _ cleared)
        (List.subset_append_of_subset_right _ kept'))
    | some newElement =>
      refine .bind (writeCell_owned (List.subset_append_left _ _)
        (List.subset_append_of_subset_right _ cleared)) fun _ =>
        .bind (.emit rfl fun _ => nofun) fun _ => .pure (blocks_written grown ?_ ?_)
      · exact List.subset_append_left _ _
      · exact List.subset_append_of_subset_right _ (List.subset_append_of_subset_right _
          (List.subset_append_of_subset_right _ kept'))

theorem genericStackDestroyv_owned (kept : stack.blocks ⊆ blocks) :
    Owned own start blocks (genericStackDestroyv fuel stack) fun _ => [] := by
  have clears : Owned own start blocks (loop .exhausted (destroyTurn stack) fuel (0, stack.bufpp))
      fun _ => [] :=
    .loop (fun frame : Nat × List (Slot (Element V)) => pointees frame.2) (fun _ _ kept => .ite
      (.bind (clearCell_owned kept) fun _ => .pure (List.subset_append_left _ _))
      (.pure (List.nil_subset _))) fuel (List.Subset.trans pointees_subset_blocks kept)
  refine .bind clears fun _ => ?_
  exact .bind (.free (kept (List.mem_cons_of_mem _ (List.mem_cons_self ..)))) fun _ =>
    .free (kept (List.mem_cons_self ..))

end MarpaWrapper
