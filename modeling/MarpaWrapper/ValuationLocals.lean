/-
This file asks whether `marpaWrapper_vb` reads a local that was never assigned.
Only `valueOutputp` is not initialised; it is assigned after each step of a
valuator, and the end label reads it. So it is read in time in a run that asked
a valuator for a step, and in no other run that returns.

Where it was assigned, the pointer that the end label frees is `NULL` or the
output of a callback that is still allocated: what was freed since lies in blocks
that the stack and the inputs refer to, and those are others.
-/

import MarpaWrapper.GenericStackAddresses
import MarpaWrapper.ValuationFailures

namespace MarpaWrapper

open Effects

variable {V α : Type}

/-! ### The invariant -/

/-- What a value callback left in `valueOutputp`, whatever it answered. -/
def Event.leftOutput : Event V → Option (Element V)
  | .valueRule _ _ _ output => output
  | .valueSymbol _ _ _ output => output
  | .valueNulling _ _ output => output
  | _ => none

/-- A block is another one than the output that a cell points to. -/
def Slot.Spares (output : Slot (Element V)) (address : Nat) : Prop :=
  ∀ element, output = .pointer element → address ≠ element.address

/-- The blocks that the locals refer to, besides the output. -/
def VbLocals.blocks (locals : VbLocals V) : List Nat :=
  locals.genericStackp.elim [] GenericStack.blocks ++ locals.valueInputArraypp.toList

/-- An output is live: a callback left it, and it was not freed. -/
def Live (output : Element V) (exchanges : List (Event V)) : Prop :=
  (∃ event ∈ exchanges, event.leftOutput = some output) ∧ .free output.address ∉ exchanges

/-- Some exchanges since `start` read no local before it was assigned, ask for a step exactly when
`valueOutputp` is assigned, and leave the output it points to live. -/
structure ReadsAssigned (output : Slot (Element V)) (next : Nat) (exchanges : List (Event V)) :
    Prop where
  unread : .indeterminateRead ∉ exchanges
  stepped : (∃ step, .step step ∈ exchanges) ↔ output ≠ .indeterminate
  freed : ∀ address, .free address ∈ exchanges → output.Spares address ∧ address < next
  left : ∀ element, output = .pointer element →
    ∃ event ∈ exchanges, event.leftOutput = some element

/-- The invariant of the body. -/
structure Tidy (start : World V) (state : VbState V) : Prop where
  record : ∃ exchanges, state.world.events = start.events ++ exchanges ∧
    ReadsAssigned state.locals.valueOutputp state.world.nextAddress exchanges
  blocks : ∀ address ∈ state.locals.blocks,
    state.locals.valueOutputp.Spares address ∧ address < state.world.nextAddress
  output : ∀ element, state.locals.valueOutputp = .pointer element →
    element.address < state.world.nextAddress

/-- Since `start` no local was read before it was assigned. -/
def Unread (start world : World V) : Prop :=
  ∃ exchanges, world.events = start.events ++ exchanges ∧ .indeterminateRead ∉ exchanges

/-- What holds when the body is left. -/
def LeavesTidy (start : World V) : VbExit → VbState V → Prop
  | .endLabel, state => Tidy start state
  | .fault _, state => Unread start state.world

/-- The invariant, with `valueOutputp` assigned where it is about to be read. -/
structure InOrder (start : World V) (assigned : Bool) (state : VbState V) : Prop where
  tidy : Tidy start state
  output : assigned = true → state.locals.valueOutputp ≠ .indeterminate

/-- A part of the body that keeps the invariant. -/
abbrev StaysInOrder (start : World V) (assigned : Bool) (program : Vb V α) : Prop :=
  Triple (InOrder start assigned) program (fun _ => InOrder start assigned) (LeavesTidy start)

section Tidy

variable {start : World V} {locals locals' : VbLocals V} {world world' : World V}
  {exchanges : List (Event V)} {event : Event V}

theorem Tidy.refl (start : World V) : Tidy start ⟨{}, start⟩ where
  record := ⟨[], (List.append_nil _).symm, List.not_mem_nil,
    ⟨fun ⟨_, member⟩ => absurd member List.not_mem_nil, fun assigned => absurd rfl assigned⟩,
    fun _ member => absurd member List.not_mem_nil, fun _ => nofun⟩
  blocks _ member := absurd member List.not_mem_nil
  output _ := nofun

theorem Tidy.unread {state : VbState V} (tidy : Tidy start state) : Unread start state.world :=
  let ⟨exchanges, record, reads⟩ := tidy.record
  ⟨exchanges, record, reads.unread⟩

/-- An exchange that no step of the argument looks at. -/
def Event.Plain (event : Event V) : Prop :=
  event ≠ .indeterminateRead ∧ ∀ step, event ≠ .step step

/-- Exchanges that read nothing, ask for no step and free nothing that the output needs. -/
theorem Tidy.append (tidy : Tidy start ⟨locals, world⟩)
    (same : locals'.valueOutputp = locals.valueOutputp)
    (appended : world'.events = world.events ++ exchanges)
    (later : world.nextAddress ≤ world'.nextAddress) (plain : ∀ event ∈ exchanges, event.Plain)
    (freed : ∀ address, .free address ∈ exchanges →
      locals.valueOutputp.Spares address ∧ address < world'.nextAddress)
    (blocks : ∀ address ∈ locals'.blocks,
      locals.valueOutputp.Spares address ∧ address < world'.nextAddress) :
    Tidy start ⟨locals', world'⟩ := by
  obtain ⟨before, record, reads⟩ := tidy.record
  refine ⟨⟨before ++ exchanges, by rw [appended, record, List.append_assoc], ?_⟩, ?_, ?_⟩
  · show ReadsAssigned locals'.valueOutputp _ _
    rw [same]
    refine ⟨fun member => ?_, ?_, fun address member => ?_, fun element designated => ?_⟩
    · rcases List.mem_append.mp member with old | new
      · exact reads.unread old
      · exact (plain _ new).1 rfl
    · rw [← reads.stepped]
      constructor
      · rintro ⟨step, member⟩
        rcases List.mem_append.mp member with old | new
        · exact ⟨step, old⟩
        · exact absurd rfl ((plain _ new).2 step)
      · rintro ⟨step, member⟩
        exact ⟨step, List.mem_append_left _ member⟩
    · rcases List.mem_append.mp member with old | new
      · exact ⟨(reads.freed address old).1, Nat.lt_of_lt_of_le (reads.freed address old).2 later⟩
      · exact freed address new
    · obtain ⟨event, member, left⟩ := reads.left element designated
      exact ⟨event, List.mem_append_left _ member, left⟩
  · show ∀ address ∈ locals'.blocks, locals'.valueOutputp.Spares address ∧ _
    rw [same]
    exact blocks
  · intro element designated
    exact Nat.lt_of_lt_of_le (tidy.output element (same.symm.trans designated)) later

/-- A single exchange that frees nothing. -/
theorem Tidy.exchange (tidy : Tidy start ⟨locals, world⟩) (plain : event.Plain)
    (noFree : ∀ address, event ≠ .free address) {next : Nat} (later : world.nextAddress ≤ next)
    (same : locals'.valueOutputp = locals.valueOutputp)
    (fewer : locals'.blocks ⊆ locals.blocks) :
    Tidy start
      ⟨locals', { world with events := world.events ++ [event], nextAddress := next }⟩ := by
  refine tidy.append same rfl later (fun other member => ?_) (fun address member => ?_)
    fun address member => ?_
  · rw [List.mem_singleton.mp member]
    exact plain
  · exact absurd (List.mem_singleton.mp member).symm (noFree address)
  · obtain ⟨spared, below⟩ := tidy.blocks address (fewer member)
    exact ⟨spared, Nat.lt_of_lt_of_le below later⟩

/-- Assignments to other locals. -/
theorem Tidy.rebind (tidy : Tidy start ⟨locals, world⟩)
    (same : locals'.valueOutputp = locals.valueOutputp)
    (blocks : ∀ address ∈ locals'.blocks,
      locals.valueOutputp.Spares address ∧ address < world.nextAddress) :
    Tidy start ⟨locals', world⟩ :=
  tidy.append same (show world.events = world.events ++ [] from (List.append_nil _).symm)
    (Nat.le_refl _) nofun nofun blocks

theorem Tidy.assign (tidy : Tidy start ⟨locals, world⟩)
    (same : locals'.valueOutputp = locals.valueOutputp)
    (fewer : locals'.blocks ⊆ locals.blocks) : Tidy start ⟨locals', world⟩ :=
  tidy.rebind same fun address member => tidy.blocks address (fewer member)

/-- The stack is used on the blocks that the locals refer to, and spares the output. -/
theorem Tidy.owning (tidy : Tidy start ⟨locals, world⟩) :
    Owning locals.valueOutputp.Spares world locals.blocks world where
  record := ⟨[], (List.append_nil _).symm, nofun⟩
  later := Nat.le_refl _
  fresh address later element designated same := by
    have below := tidy.output element designated
    rw [← same] at below
    exact absurd below (Nat.not_lt.mpr later)
  blocks := tidy.blocks

theorem Event.plain_ofStack (ofStack : OfStack event) : event.Plain := by
  constructor
  · rintro rfl
    cases ofStack
  · rintro step rfl
    cases ofStack

/-- What the stack did keeps the invariant. -/
theorem Tidy.ofStack (tidy : Tidy start ⟨locals, world⟩) {blocks : List Nat}
    (owning : Owning locals.valueOutputp.Spares world blocks world')
    (same : locals'.valueOutputp = locals.valueOutputp) (fewer : locals'.blocks ⊆ blocks) :
    Tidy start ⟨locals', world'⟩ := by
  obtain ⟨exchanges, appended, kinds⟩ := owning.record
  exact tidy.append same appended owning.later
    (fun event member => Event.plain_ofStack (kinds event member).1)
    (fun address member => (kinds _ member).2 address rfl)
    fun address member => owning.blocks address (fewer member)

/-- A step is asked for and `valueOutputp` is set to `NULL`. -/
theorem Tidy.step (tidy : Tidy start ⟨locals, world⟩) (step : MarpaStep) :
    InOrder start true ⟨{ locals with valueOutputp := .null },
      { world with events := world.events ++ [.step step] }⟩ := by
  obtain ⟨before, record, reads⟩ := tidy.record
  refine ⟨⟨⟨before ++ [.step step], by rw [record, List.append_assoc], fun member => ?_,
    ⟨fun _ => nofun, fun _ => ⟨step, List.mem_append_right _ (List.mem_singleton_self _)⟩⟩,
    fun address member => ?_, fun _ => nofun⟩, fun address member => ⟨fun _ => nofun,
      (tidy.blocks address member).2⟩, fun _ => nofun⟩, fun _ => nofun⟩
  · rcases List.mem_append.mp member with old | new
    · exact reads.unread old
    · cases List.mem_singleton.mp new
  · rcases List.mem_append.mp member with old | new
    · exact ⟨fun _ => nofun, (reads.freed address old).2⟩
    · cases List.mem_singleton.mp new

/-- A callback leaves its output in a fresh block, and `valueOutputp` points to it. -/
theorem Tidy.produce (tidy : Tidy start ⟨locals, world⟩) (assigned : locals.valueOutputp ≠ .indeterminate)
    (plain : event.Plain) (noFree : ∀ address, event ≠ .free address)
    (content : Option V)
    (left : event.leftOutput = content.map fun value => ⟨world.nextAddress, value⟩) :
    InOrder start true
      ⟨{ locals with valueOutputp := .ofOption event.leftOutput },
        { world with events := world.events ++ [event], nextAddress := world.nextAddress + 1 }⟩ := by
  have spares {address : Nat} (below : address < world.nextAddress) :
      (Slot.ofOption event.leftOutput).Spares address := by
    intro element designated same
    rw [left] at designated
    cases content with
    | none => cases designated
    | some value =>
      cases designated
      exact absurd below (Nat.not_lt.mpr (Nat.le_of_eq same.symm))
  have pointer {element : Element V} (designated : Slot.ofOption event.leftOutput = .pointer element) :
      event.leftOutput = some element ∧ element.address = world.nextAddress := by
    rw [left] at designated ⊢
    cases content with
    | none => cases designated
    | some value =>
      cases designated
      exact ⟨rfl, rfl⟩
  have determinate : Slot.ofOption event.leftOutput ≠ .indeterminate := by
    cases event.leftOutput <;> nofun
  obtain ⟨before, record, reads⟩ := tidy.record
  refine ⟨⟨⟨before ++ [event], by rw [record, List.append_assoc], fun member => ?_, ?_,
    fun address member => ?_, fun element designated => ?_⟩, fun address member => ?_,
    fun element designated => ?_⟩, fun _ => determinate⟩
  · rcases List.mem_append.mp member with old | new
    · exact reads.unread old
    · exact plain.1 (List.mem_singleton.mp new).symm
  · refine ⟨fun _ => determinate, fun _ => ?_⟩
    obtain ⟨step, member⟩ := reads.stepped.mpr assigned
    exact ⟨step, List.mem_append_left _ member⟩
  · rcases List.mem_append.mp member with old | new
    · have below := (reads.freed address old).2
      exact ⟨spares below, Nat.lt_succ_of_lt below⟩
    · exact absurd (List.mem_singleton.mp new).symm (noFree address)
  · exact ⟨event, List.mem_append_right _ (List.mem_singleton_self _), (pointer designated).1⟩
  · have below := (tidy.blocks address member).2
    exact ⟨spares below, Nat.lt_succ_of_lt below⟩
  · show element.address < world.nextAddress + 1
    rw [(pointer designated).2]
    exact Nat.lt_succ_self _

/-- The output is freed and forgotten. -/
theorem Tidy.release (tidy : Tidy start ⟨locals, world⟩) {output : Element V}
    (designated : locals.valueOutputp = .pointer output) :
    Tidy start ⟨{ locals with valueOutputp := .null },
      { world with events := world.events ++ [.free output.address] }⟩ := by
  obtain ⟨before, record, reads⟩ := tidy.record
  refine ⟨⟨before ++ [.free output.address], by rw [record, List.append_assoc], fun member => ?_,
    ⟨fun _ => nofun, fun _ => ?_⟩, fun address member => ⟨fun _ => nofun, ?_⟩, fun _ => nofun⟩,
    fun address member => ⟨fun _ => nofun, (tidy.blocks address member).2⟩, fun _ => nofun⟩
  · rcases List.mem_append.mp member with old | new
    · exact reads.unread old
    · cases List.mem_singleton.mp new
  · obtain ⟨step, member⟩ := reads.stepped.mpr (by rw [designated]; exact nofun)
    exact ⟨step, List.mem_append_left _ member⟩
  · rcases List.mem_append.mp member with old | new
    · exact (reads.freed address old).2
    · cases List.mem_singleton.mp new
      exact tidy.output output designated

end Tidy

/-! ### The parts of the body -/

section Rules

variable {start : World V} {assigned : Bool}

/-- An exchange that is no read of an unassigned local, no step and no release of a block. -/
def Event.harmless : Event V → Bool
  | .indeterminateRead => false
  | .step _ => false
  | .free _ => false
  | _ => true

/-- The same, as a kind of exchanges. -/
abbrev Event.Harmless (event : Event V) : Prop := event.harmless = true

theorem Event.Harmless.plain {event : Event V} (harmless : event.Harmless) : event.Plain := by
  constructor
  · rintro rfl
    cases harmless
  · rintro step rfl
    cases harmless

theorem Event.Harmless.noFree {event : Event V} (harmless : event.Harmless) (address : Nat) :
    event ≠ .free address := by
  rintro rfl
  cases harmless

theorem Unread.grown {world world' : World V} {kind : Event V → Prop} (unread : Unread start world)
    (grown : Grown kind world world') (plain : ∀ event, kind event → event.Plain) :
    Unread start world' := by
  obtain ⟨before, record, none⟩ := unread
  obtain ⟨exchanges, appended, kinds⟩ := grown.record
  refine ⟨before ++ exchanges, by rw [appended, record, List.append_assoc], fun member => ?_⟩
  rcases List.mem_append.mp member with old | new
  · exact none old
  · exact (plain _ (kinds _ new)).1 rfl

theorem InOrder.with {state state' : VbState V} (inOrder : InOrder start assigned state)
    (tidy : Tidy start state') (same : state'.locals.valueOutputp = state.locals.valueOutputp) :
    InOrder start assigned state' :=
  ⟨tidy, fun holds => by rw [same]; exact inOrder.output holds⟩

theorem fail_inOrder : Triple (InOrder start assigned) (fail : Vb V α)
    (fun _ => InOrder start assigned) (LeavesTidy start) :=
  fun _ inOrder => inOrder.tidy.assign rfl (List.Subset.refl _)

theorem failIf_inOrder (condition : Bool) : StaysInOrder start assigned (failIf condition) :=
  .ite (fun _ => fail_inOrder) fun _ => .pure fun _ inOrder => inOrder

theorem assign_inOrder {change : VbLocals V → VbLocals V}
    (same : ∀ locals, (change locals).valueOutputp = locals.valueOutputp)
    (fewer : ∀ locals, (change locals).blocks ⊆ locals.blocks) :
    StaysInOrder start assigned (assign change) :=
  fun _ inOrder => inOrder.with (inOrder.tidy.assign (same _) (fewer _)) (same _)

/-- A computation on the world whose exchanges are harmless. -/
theorem onWorld_inOrder {program : Exec V α}
    (keeps : ∀ start, Keeps (Grown Event.Harmless start) program) :
    StaysInOrder start assigned (onWorld program) := by
  rintro ⟨locals, world⟩ inOrder
  have grown := keeps world world (.refl _ world)
  unfold onWorld
  cases run : program world with
  | ok value world' =>
    rw [run] at grown
    obtain ⟨exchanges, appended, harmless⟩ := grown.record
    refine inOrder.with (inOrder.tidy.append rfl appended grown.later
      (fun event member => (harmless event member).plain)
      (fun address member => absurd rfl ((harmless _ member).noFree address))
      fun address member => ?_) rfl
    obtain ⟨spared, below⟩ := inOrder.tidy.blocks address member
    exact ⟨spared, Nat.lt_of_lt_of_le below grown.later⟩
  | error fault world' =>
    rw [run] at grown
    exact inOrder.tidy.unread.grown grown fun _ harmless => harmless.plain

/-- A computation of the stack, on the blocks that the locals refer to. -/
theorem onWorld_owned {program : Exec V α} {after : α → List Nat} {locals : VbLocals V}
    (keeps : ∀ start, Keeps (Grown OfStack start) program)
    (owned : ∀ start, Owned locals.valueOutputp.Spares start locals.blocks program after) :
    Triple (fun state => InOrder start assigned state ∧ state.locals = locals) (onWorld program)
      (fun value state => InOrder start assigned state ∧ state.locals = locals ∧
        ∀ address ∈ after value,
          locals.valueOutputp.Spares address ∧ address < state.world.nextAddress)
      (LeavesTidy start) := by
  rintro ⟨_, world⟩ ⟨inOrder, rfl⟩
  have outcome := owned world world inOrder.tidy.owning
  have grown := keeps world world (.refl _ world)
  unfold onWorld
  cases run : program world with
  | ok value world' =>
    rw [run] at outcome
    exact ⟨inOrder.with (inOrder.tidy.ofStack outcome rfl (List.subset_append_right _ _)) rfl, rfl,
      fun address member => outcome.blocks address (List.mem_append_left _ member)⟩
  | error fault world' =>
    rw [run] at grown
    exact inOrder.tidy.unread.grown grown fun _ ofStack => Event.plain_ofStack ofStack

/-- The locals are made to refer to blocks that a computation of the stack returned. -/
theorem assign_owned {change : VbLocals V → VbLocals V} {locals : VbLocals V} {more : List Nat}
    (same : (change locals).valueOutputp = locals.valueOutputp)
    (fewer : (change locals).blocks ⊆ more ++ locals.blocks) :
    Triple
      (fun state => InOrder start assigned state ∧ state.locals = locals ∧
        ∀ address ∈ more, locals.valueOutputp.Spares address ∧ address < state.world.nextAddress)
      (assign change) (fun _ => InOrder start assigned) (LeavesTidy start) := by
  rintro ⟨_, world⟩ ⟨inOrder, rfl, blocks⟩
  refine inOrder.with (inOrder.tidy.rebind same fun address member => ?_) same
  rcases List.mem_append.mp (fewer member) with new | old
  · exact blocks address new
  · exact inOrder.tidy.blocks address old

theorem onStack_inOrder {program : GenericStack V → Exec V (α × GenericStack V)} (zero : α)
    (keeps : ∀ stack start, Keeps (Grown OfStack start) (program stack))
    (owned : ∀ own start blocks stack, stack.blocks ⊆ blocks →
      Owned own start blocks (program stack) fun result => result.2.blocks) :
    StaysInOrder start assigned (onStack program zero) := by
  refine readLocals_triple fun locals => ?_
  cases designated : locals.genericStackp with
  | none => exact .pure fun _ holds => holds.1
  | some stack =>
    have kept : stack.blocks ⊆ locals.blocks := by
      unfold VbLocals.blocks
      rw [designated]
      exact List.subset_append_left _ _
    refine .bind (onWorld_owned (keeps stack) fun start => owned _ start _ stack kept) fun result =>
      .bind (assign_owned rfl ?_) fun _ => .pure fun _ inOrder => inOrder
    exact List.append_subset.mpr ⟨List.subset_append_left _ _,
      List.subset_append_of_subset_right _ (List.subset_append_right _ _)⟩

theorem askOrFail_inOrder (wanted : Bool) (answer : List (Event V) → Int) {event : Int → Event V}
    (failed : Int → Bool) (harmless : ∀ value, (event value).Harmless) :
    StaysInOrder start assigned (askOrFail wanted answer event failed) :=
  .ite (fun _ => .bind (onWorld_inOrder fun _ => ask_keeps harmless) fun _ => failIf_inOrder _)
    fun _ => .pure fun _ inOrder => inOrder

theorem acquireOrFail_inOrder (granted : List (Event V) → Bool) {event : Option Nat → Event V}
    (harmless : ∀ handle, (event handle).Harmless) :
    Triple (InOrder start assigned) (acquireOrFail granted event) (fun _ => InOrder start assigned)
      (LeavesTidy start) := by
  refine .bind (onWorld_inOrder fun _ => acquire_keeps harmless) fun handle => ?_
  cases handle with
  | none => exact fail_inOrder
  | some handle => exact .pure fun _ inOrder => inOrder

/-- A local that is not read here is made to designate a libmarpa object. -/
theorem designate_inOrder {change : VbLocals V → VbLocals V}
    (same : ∀ locals, (change locals).valueOutputp = locals.valueOutputp)
    (fewer : ∀ locals, (change locals).blocks = locals.blocks) :
    StaysInOrder start assigned (assign change) :=
  assign_inOrder same fun locals => by rw [fewer locals]; exact List.Subset.refl _

theorem produceOrFail_inOrder (callback : List (Event V) → Bool × Option V)
    {event : Bool → Option (Element V) → Event V}
    (harmless : ∀ answer output, (event answer output).Harmless)
    (left : ∀ answer output, (event answer output).leftOutput = output) :
    StaysInOrder start true (produceOrFail callback event) := by
  refine .through (fun produced state => InOrder start true
    ⟨{ state.locals with valueOutputp := .ofOption produced.2 }, state.world⟩) ?_ fun produced =>
    .through (fun _ => InOrder start true) (fun _ => id) fun _ => failIf_inOrder _
  rintro ⟨locals, world⟩ inOrder
  have produced := inOrder.tidy.produce (inOrder.output rfl)
    (harmless (callback world.events).1 _).plain (harmless (callback world.events).1 _).noFree
    (callback world.events).2 (left _ _)
  rw [left] at produced
  exact produced

/-! ### The body -/

section Body

variable {libc : Libc V} {fuel : Nat} {phase : ValuePhase V} {wrapper : Wrapper}
  {valueOption : MarpaWrapperValueOption V} {stackOption : MarpaWrapperStackOption V}

theorem openTree_inOrder : StaysInOrder start assigned (openTree phase valueOption) :=
  .bind (onWorld_inOrder fun _ => ask_keeps fun _ => rfl) fun _ =>
    .bind (acquireOrFail_inOrder _ fun _ => rfl) fun _ =>
    .bind (designate_inOrder (fun _ => rfl) fun _ => rfl) fun _ =>
    .bind (acquireOrFail_inOrder _ fun _ => rfl) fun _ =>
    .bind (designate_inOrder (fun _ => rfl) fun _ => rfl) fun _ =>
    .bind (askOrFail_inOrder _ _ _ fun _ => rfl) fun _ =>
    .bind (askOrFail_inOrder _ _ _ fun _ => rfl) fun _ =>
    .bind (askOrFail_inOrder _ _ _ fun _ => rfl) fun _ =>
    .bind (askOrFail_inOrder _ _ _ fun _ => rfl) fun _ =>
    .bind (acquireOrFail_inOrder _ fun _ => rfl) fun _ =>
    designate_inOrder (fun _ => rfl) fun _ => rfl

theorem openValuator_inOrder :
    StaysInOrder start assigned (openValuator libc fuel phase stackOption) := by
  refine .bind (acquireOrFail_inOrder _ fun _ => rfl) fun _ =>
    .bind (designate_inOrder (fun _ => rfl) fun _ => rfl) fun _ =>
    .bind (askOrFail_inOrder _ _ _ fun _ => rfl) fun _ => ?_
  rintro ⟨locals, world⟩ inOrder
  refine Triple.bind (onWorld_owned (fun _ => genericStackNewp_keeps _ _) fun _ =>
    genericStackNewp_owned _ _) (fun created => ?_) ⟨locals, world⟩ ⟨inOrder, rfl⟩
  cases created with
  | none => exact fun _ holds => fail_inOrder (α := Unit) _ holds.1
  | some stack =>
    exact assign_owned rfl (List.append_subset.mpr ⟨List.subset_append_left _ _,
      List.subset_append_of_subset_right _ (List.subset_append_right _ _)⟩)

/-- The array is a new block, which the locals refer to from then on. -/
theorem collectInputs_inOrder (argFirsti argLasti : Int) :
    StaysInOrder start assigned (collectInputs libc fuel argFirsti argLasti) := by
  have allocates (size : Nat) : Triple (InOrder start assigned) (onWorld (malloc libc size))
      (fun granted state => InOrder start assigned state ∧ ∀ address ∈ granted.toList,
        state.locals.valueOutputp.Spares address ∧ address < state.world.nextAddress)
      (LeavesTidy start) := fun state inOrder =>
    (onWorld_owned (fun _ => malloc_keeps _) fun _ => malloc_owned _).consequence
      (fun _ holds => holds) (fun _ _ holds => ⟨holds.1, by rw [holds.2.1]; exact holds.2.2⟩)
      (fun _ _ left => left) state ⟨inOrder, rfl⟩
  refine collectInputs_triple allocates (fun _ _ holds => fail_inOrder (α := Unit) _ holds.1)
    (fun address state holds => holds.1.with (holds.1.tidy.rebind rfl fun other member => ?_) rfl)
    (fun _ => onStack_inOrder _ (fun _ _ => genericStackGetp_keeps _)
      fun _ _ _ _ kept => genericStackGetp_owned kept)
    (fun _ _ _ => onWorld_inOrder fun _ => writeCell_keeps _ _ _)
    (fun _ inOrder => inOrder.tidy.unread) _ _
  rcases List.mem_append.mp member with old | new
  · exact holds.1.tidy.blocks other (List.mem_append_left _ old)
  · exact holds.2 other new

theorem freeInputs_inOrder : StaysInOrder start assigned (freeInputs (V := V)) := by
  refine readLocals_triple fun locals => ?_
  have owned (start : World V) : Owned locals.valueOutputp.Spares start locals.blocks
      (freeIfNotNull locals.valueInputArraypp) fun _ => [] := by
    unfold VbLocals.blocks
    cases locals.valueInputArraypp with
    | none => exact .pure (List.nil_subset _)
    | some address => exact .free (List.mem_append_right _ (List.mem_singleton_self _))
  refine .bind (onWorld_owned (fun _ => freeIfNotNull_keeps _) owned) fun _ => assign_owned rfl ?_
  exact List.append_subset.mpr ⟨List.subset_append_left _ _, List.nil_subset _⟩

/-- In a step `valueOutputp` is read after it was assigned. -/
theorem readOutput_inOrder {rest : VbLocals V → Vb V α} {after : α → VbState V → Prop}
    (step : ∀ locals, Triple (fun state => InOrder start true state ∧ state.locals = locals)
      (rest locals) after (LeavesTidy start)) :
    Triple (InOrder start true) (readOutput >>= rest) after (LeavesTidy start) := by
  rintro ⟨locals, world⟩ inOrder
  have assigned := inOrder.output rfl
  have read : readOutput ⟨locals, world⟩ = .ok locals ⟨locals, world⟩ := by
    have silent : noteRead locals.valueOutputp world = .ok () world := by
      cases output : locals.valueOutputp with
      | indeterminate => exact absurd output assigned
      | null => rfl
      | pointer output => rfl
    exact run_bind_ok (onWorld_run silent)
  rw [run_bind_ok read]
  exact step locals _ ⟨inOrder, rfl⟩

theorem storeOutput_inOrder (argResulti : Int) :
    StaysInOrder start true (storeOutput libc fuel argResulti) :=
  readOutput_inOrder fun _ => .through (fun _ => InOrder start true)
    (fun state holds => onStack_inOrder 0 (fun _ _ => genericStackSeti_keeps _ _)
      (fun _ _ _ _ kept => genericStackSeti_owned kept _) state holds.1) fun _ => failIf_inOrder _

/-- In a step `valueOutputp` is assigned. -/
theorem stepRules_inOrder (step : MarpaStep) :
    StepRules libc fuel wrapper valueOption step (InOrder start true) (InOrder start true)
      (InOrder start true) (LeavesTidy start) where
  collects _ := collectInputs_inOrder _ _
  looksUp _ _ _ := onWorld_inOrder fun _ => readPointer_keeps _ _
  skips _ inOrder := inOrder
  calls call := produceOrFail_inOrder _ (by cases call <;> exact fun _ _ => rfl)
    (by cases call <;> exact fun _ _ => rfl)
  frees := freeInputs_inOrder
  stores _ := storeOutput_inOrder _
  idles _ inOrder := inOrder

theorem releaseOutput_inOrder : StaysInOrder start true (releaseOutput stackOption) := by
  refine readOutput_inOrder fun locals => ?_
  cases designated : locals.valueOutputp with
  | indeterminate => exact .pure fun _ holds => holds.1
  | null => exact .pure fun _ holds => holds.1
  | pointer output =>
    -- The block is freed and the pointer reset before anything else happens.
    have released : Triple
        (fun state => InOrder start true state ∧ state.locals.valueOutputp = .pointer output)
        (onWorld (emit (.free output.address)) >>= fun _ =>
          assign fun locals => { locals with valueOutputp := .null })
        (fun _ => InOrder start true) (LeavesTidy start) := by
      rintro ⟨locals, world⟩ ⟨inOrder, designated⟩
      exact ⟨inOrder.tidy.release designated, fun _ => nofun⟩
    refine .through (fun _ state => InOrder start true state ∧
        state.locals.valueOutputp = .pointer output) ?_ fun status =>
      .through (fun _ state => InOrder start true state ∧
        state.locals.valueOutputp = .pointer output) ?_ fun _ => released
    · rintro ⟨locals', world⟩ ⟨inOrder, same⟩
      obtain rfl : locals' = locals := same
      have called := onWorld_inOrder (fun _ => callOutputFree_keeps stackOption output fun _ => rfl)
        ⟨locals', world⟩ inOrder
      unfold onWorld at called ⊢
      cases run : callOutputFree stackOption output world with
      | ok value world' =>
        rw [run] at called
        exact ⟨called, designated⟩
      | error fault world' =>
        rw [run] at called
        exact called
    · exact .ite (fun _ _ holds => fail_inOrder (α := Unit) _ holds.1) fun _ =>
        .pure fun _ holds => holds

theorem stepTurn_inOrder :
    StaysInOrder start false (stepTurn libc fuel phase wrapper valueOption stackOption ()) :=
  stepTurn_triple (fun _ _ inOrder => inOrder.tidy.step _) (fun _ => stepRules_inOrder _)
    (releaseOutput_inOrder.consequence (fun _ inOrder => inOrder)
      (fun _ _ inOrder => ⟨inOrder.tidy, nofun⟩) fun _ _ left => left)

theorem reportResult_inOrder : StaysInOrder start assigned (reportResult libc fuel valueOption) :=
  reportResult_triple (fun _ => InOrder start assigned)
    (onStack_inOrder _ (fun _ _ => genericStackGetp_keeps _)
      fun _ _ _ _ kept => genericStackGetp_owned kept)
    (fun _ _ => onWorld_inOrder fun _ => ask_keeps fun _ => rfl)
    (fun _ _ inOrder => fail_inOrder (α := Unit) _ inOrder) (fun _ inOrder => inOrder.tidy)
    fun _ inOrder => inOrder

theorem closeValuator_inOrder : StaysInOrder start assigned (closeValuator (V := V) fuel) := by
  refine readLocals_triple fun locals => ?_
  have owned (start : World V) : Owned locals.valueOutputp.Spares start locals.blocks
      (destroyIfNotNull fuel locals.genericStackp) fun _ => [] := by
    unfold VbLocals.blocks
    cases locals.genericStackp with
    | none => exact .pure (List.nil_subset _)
    | some stack => exact genericStackDestroyv_owned (List.subset_append_left _ _)
  refine .bind (onWorld_owned (fun _ => destroyIfNotNull_keeps _ _) owned) fun _ =>
    .bind (assign_owned rfl ?_) fun _ =>
    .bind (onWorld_inOrder fun _ => unrefIfNotNull_keeps _ fun _ => rfl) fun _ =>
    designate_inOrder (fun _ => rfl) fun _ => rfl
  exact List.subset_append_of_subset_right _ (List.subset_append_right _ _)

theorem vbBody_inOrder (marpaWrapperp : Option Wrapper)
    (marpaWrapperValueOptionp : Option (MarpaWrapperValueOption V))
    (marpaWrapperStackOptionp : Option (MarpaWrapperStackOption V)) :
    StaysInOrder start false (vbBody libc fuel phase marpaWrapperp marpaWrapperValueOptionp
      marpaWrapperStackOptionp) :=
  vbBody_triple (fun _ _ inOrder => fail_inOrder (α := Unit) _ inOrder) openTree_inOrder
    (fun _ _ _ _ => treeTurn_triple (onWorld_inOrder fun _ => ask_keeps fun _ => rfl)
      openValuator_inOrder stepTurn_inOrder (fun _ inOrder => inOrder.tidy.unread)
      reportResult_inOrder closeValuator_inOrder) fun _ inOrder => inOrder.tidy.unread

/-! ### The end label -/

/-- After the output the end label reads no local that was not initialised, and asks for no step. -/
theorem vbEndLabel_plain (fuel : Nat) {before : World V → Prop} {locals : VbLocals V}
    (output : Triple before (freeOutput locals.valueOutputp) (fun _ => Grown Event.Plain start)
      fun _ => Grown Event.Plain start) :
    Triple before (vbEndLabel fuel locals) (fun _ => Grown Event.Plain start)
      fun _ => Grown Event.Plain start :=
  (vbEndLabel_grown locals output (fun _ ofStack => Event.plain_ofStack ofStack) fun _ =>
    ⟨⟨nofun, fun _ => nofun⟩, ⟨nofun, fun _ => nofun⟩, ⟨nofun, fun _ => nofun⟩,
      ⟨nofun, fun _ => nofun⟩⟩).consequence (fun _ holds => holds) (fun _ _ after => after.2)
    fun _ _ grown => grown

/-- What the end label exchanges: it asks for no step, and it reads a local that was never assigned
if and only if that is what `valueOutputp` is. -/
theorem vbEndLabel_reads (fuel : Nat) (locals : VbLocals V) (world : World V) :
    ∃ exchanges, (finalState (vbEndLabel fuel locals world)).events = world.events ++ exchanges ∧
      (∀ step, .step step ∉ exchanges) ∧
      (.indeterminateRead ∈ exchanges ↔ locals.valueOutputp = .indeterminate) := by
  by_cases unassigned : locals.valueOutputp = .indeterminate
  · have output : Triple (fun before => before = world) (freeOutput locals.valueOutputp)
        (fun _ => Grown Event.Plain { world with events := world.events ++ [.indeterminateRead] })
        fun _ => Grown Event.Plain { world with
          events := world.events ++ [.indeterminateRead] } := by
      rw [unassigned]
      rintro _ rfl
      exact .refl _ _
    have grown := Triple.finalState (vbEndLabel_plain fuel output) rfl
    obtain ⟨exchanges, appended, plain⟩ := grown.record
    refine ⟨.indeterminateRead :: exchanges, ?_, fun step member => ?_,
      ⟨fun _ => unassigned, fun _ => List.mem_cons_self ..⟩⟩
    · rw [appended, List.append_assoc]
      rfl
    · rcases List.mem_cons.mp member with same | later
      · cases same
      · exact (plain _ later).2 step rfl
  · have output : Keeps (Grown Event.Plain world) (freeOutput locals.valueOutputp) := by
      cases given : locals.valueOutputp with
      | indeterminate => exact absurd given unassigned
      | null => exact .pure ()
      | pointer output => exact emit_keeps ⟨nofun, fun _ => nofun⟩
    have grown := Keeps.finalState (vbEndLabel_plain fuel output) (.refl _ world)
    obtain ⟨exchanges, appended, plain⟩ := grown.record
    exact ⟨exchanges, appended, fun step member => (plain _ member).2 step rfl,
      ⟨fun member => absurd rfl (plain _ member).1, fun same => absurd same unassigned⟩⟩

end Body

end Rules

/-! ### The function -/

/-- The body comes to the end label in a state. -/
def ComesToEndLabel (outcome : EStateM.Result VbExit (VbState V) Unit) (state : VbState V) : Prop :=
  outcome = .ok () state ∨ outcome = .error .endLabel state

theorem ComesToEndLabel.unique {outcome : EStateM.Result VbExit (VbState V) Unit}
    {state other : VbState V} (comes : ComesToEndLabel outcome state)
    (comes' : ComesToEndLabel outcome other) : other = state := by
  rcases comes with rfl | rfl
  · rcases comes' with same | same <;> cases same
    rfl
  · rcases comes' with same | same <;> cases same
    rfl

/-- Among the exchanges of the function no local is read before it was assigned, and the pointer that
the end label frees is `NULL` or a live output of a callback. -/
def VbReadsAssigned (start : World V) (outcome : EStateM.Result VbExit (VbState V) Unit)
    (exchanges : List (Event V)) : Prop :=
  .indeterminateRead ∉ exchanges ∧ ∀ state, ComesToEndLabel outcome state →
    ∀ output, state.locals.valueOutputp = .pointer output →
      ∃ before, state.world.events = start.events ++ before ∧ Live output before

section Function

variable {start : World V} {libc : Libc V} {fuel : Nat} {phase : ValuePhase V}
  {marpaWrapperp : Option Wrapper} {valueOptionp : Option (MarpaWrapperValueOption V)}
  {stackOptionp : Option (MarpaWrapperStackOption V)}

/-- An output that is pending in an orderly state is live. -/
theorem Tidy.live {state : VbState V} (tidy : Tidy start state) {output : Element V}
    (designated : state.locals.valueOutputp = .pointer output) :
    ∃ before, state.world.events = start.events ++ before ∧ Live output before := by
  obtain ⟨before, record, reads⟩ := tidy.record
  exact ⟨before, record, reads.left output designated, fun member =>
    (reads.freed _ member).1 output designated rfl⟩

/-- From a tidy state at the end label: the reads are in time if and only if a step was asked for. -/
theorem Tidy.endLabel (fuel : Nat) {state : VbState V} (tidy : Tidy start state)
    {outcome : EStateM.Result VbExit (VbState V) Unit} (comes : ComesToEndLabel outcome state) :
    ∃ exchanges, (finalState (vbEndLabel fuel state.locals state.world)).events =
        start.events ++ exchanges ∧
      (VbReadsAssigned start outcome exchanges ↔ (∃ step, .step step ∈ exchanges) ∨
        ∀ other, ¬ ComesToEndLabel outcome other) := by
  obtain ⟨before, record, reads⟩ := tidy.record
  obtain ⟨exchanges, appended, noStep, read⟩ := vbEndLabel_reads fuel state.locals
    state.world
  refine ⟨before ++ exchanges, by rw [appended, record, List.append_assoc], ?_⟩
  have stepped : (∃ step, .step step ∈ before ++ exchanges) ↔
      state.locals.valueOutputp ≠ .indeterminate := by
    rw [← reads.stepped]
    refine exists_congr fun step => ?_
    rw [List.mem_append, or_iff_left (noStep step)]
  rw [stepped, or_iff_left fun never => never state comes]
  constructor
  · rintro ⟨unread, -⟩ unassigned
    exact unread (List.mem_append_right _ (read.mpr unassigned))
  · refine fun assigned => ⟨fun member => ?_, fun other comes' output designated => ?_⟩
    · rcases List.mem_append.mp member with old | new
      · exact reads.unread old
      · exact assigned (read.mp new)
    · rw [comes.unique comes'] at designated ⊢
      exact tidy.live designated

end Function

/-- In every run the locals are read after they were assigned, and the output that the end label frees
is live, if and only if the run asks a valuator for a step or never comes to the end label. -/
theorem marpaWrapperVb_reads_assigned_iff (libc : Libc V) (fuel : Nat) (phase : ValuePhase V)
    (marpaWrapperp : Option Wrapper)
    (marpaWrapperValueOptionp : Option (MarpaWrapperValueOption V))
    (marpaWrapperStackOptionp : Option (MarpaWrapperStackOption V)) (start : World V) :
    ∃ exchanges,
      (finalState (marpaWrapperVb libc fuel phase marpaWrapperp marpaWrapperValueOptionp
        marpaWrapperStackOptionp start)).events = start.events ++ exchanges ∧
      (VbReadsAssigned start (vbBody libc fuel phase marpaWrapperp marpaWrapperValueOptionp
          marpaWrapperStackOptionp ⟨{}, start⟩) exchanges ↔
        (∃ step, .step step ∈ exchanges) ∨
          ∀ state, ¬ ComesToEndLabel (vbBody libc fuel phase marpaWrapperp marpaWrapperValueOptionp
            marpaWrapperStackOptionp ⟨{}, start⟩) state) := by
  have keeps : StaysInOrder start false (vbBody libc fuel phase marpaWrapperp
      marpaWrapperValueOptionp marpaWrapperStackOptionp) := vbBody_inOrder _ _ _
  have body := keeps ⟨{}, start⟩ ⟨.refl start, nofun⟩
  unfold marpaWrapperVb
  cases run : vbBody libc fuel phase marpaWrapperp marpaWrapperValueOptionp
    marpaWrapperStackOptionp ⟨{}, start⟩ with
  | ok result state =>
    rw [run] at body
    exact body.tidy.endLabel fuel (.inl rfl)
  | error exit state =>
    rw [run] at body
    cases exit with
    | endLabel => exact Tidy.endLabel fuel body (.inr rfl)
    | fault fault =>
      obtain ⟨exchanges, record, unread⟩ := body
      have never (other : VbState V) :
          ¬ ComesToEndLabel (EStateM.Result.error (VbExit.fault fault) state) other :=
        fun comes => by rcases comes with same | same <;> cases same
      exact ⟨exchanges, record, fun _ => .inr never, fun _ =>
        ⟨unread, fun other comes => absurd comes (never other)⟩⟩

/-- Without a stack option the end label reads `valueOutputp`, which was never assigned. -/
theorem marpaWrapperVb_reads_unassigned : ∃ final,
    marpaWrapperVb (V := Nat) Libc.generous 0 (.walking []) (some { address := 0 }) none none {} =
      .ok false final ∧ .indeterminateRead ∈ final.events ∧
    ¬ VbReadsAssigned (V := Nat) {} (vbBody Libc.generous 0 (.walking []) (some { address := 0 })
      none none ⟨{}, {}⟩) final.events :=
  ⟨_, rfl, List.mem_cons_self .., fun reads => reads.1 (List.mem_cons_self ..)⟩

end MarpaWrapper
