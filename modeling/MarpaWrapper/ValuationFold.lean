/-
This file proves that the value phase is a fold. When libmarpa walks over parse
trees in post-order, the callbacks of `marpaWrapper_vb` compute the bottom-up
fold of every tree: a rule's callback receives the values of the rule's own
children, and the result callback receives the value of the root.

The value stack holds more than the walk needs. The entries up to the top are
the values of the finished subtrees; what lies above was left by subtrees that
are part of a larger one by now. `GenericStack.Holds` says only what the entries
up to the top are, and every step keeps it.
-/

import MarpaWrapper.GenericStackCells
import MarpaWrapper.ValuationOwnership

namespace MarpaWrapper

open Effects Tables

variable {V : Type}

/-! ### What the user's callbacks compute -/

/-- The user's callbacks as functions of their arguments. -/
structure Semantics (V : Type) where
  rule : Option Nat → List (Option V) → Option V
  symbol : Option Nat → Int → Option V
  nulling : Option Nat → Option V

/-- The value of a leaf. -/
def Semantics.leaf (semantics : Semantics V) : ParseLeaf → Option V
  | .token symbolId value => semantics.symbol (registered symbolId) value
  | .nulled symbolId => semantics.nulling (registered symbolId)

/-- The value of a rule over the values of its children. -/
def Semantics.node (semantics : Semantics V) (ruleId : Int) (values : List (Option V)) : Option V :=
  semantics.rule (registered ruleId) values

/-- The bottom-up fold of a parse tree. -/
def Semantics.fold (semantics : Semantics V) (tree : ParseTree) : Option V :=
  PostOrder.Tree.fold semantics.leaf semantics.node tree

/-- A call of the rule callback, with the registered rule. -/
def registeredCall (call : Int × List (Option V)) : Option Nat × List (Option V) :=
  (registered call.1, call.2)

/-- What the rule callback is to be called with: for every rule of the tree, in post-order, the
registered rule and the values of its children from left to right. -/
def Semantics.ruleCalls (semantics : Semantics V) (tree : ParseTree) :
    List (Option Nat × List (Option V)) :=
  (PostOrder.Tree.calls semantics.leaf semantics.node tree).map registeredCall

/-- What a list of pointers points to. -/
def contents (inputs : List (Option (Element V))) : List (Option V) :=
  inputs.map (Option.map Element.value)

/-- The callbacks answer `TRUE` and compute the given functions. -/
structure MarpaWrapperValueOption.Computes (valueOption : MarpaWrapperValueOption V)
    (semantics : Semantics V) : Prop where
  rule : valueOption.valueRuleCallbackp =
    some fun _ rulep inputs => (true, semantics.rule rulep (contents inputs))
  symbol : valueOption.valueSymbolCallbackp =
    some fun _ symbolp value => (true, semantics.symbol symbolp value)
  nulling : valueOption.valueNullingCallbackp =
    some fun _ symbolp => (true, semantics.nulling symbolp)

/-- The stack callbacks are given; a copy equals its source and the free callback answers
`TRUE`. -/
structure MarpaWrapperStackOption.Copies (stackOption : MarpaWrapperStackOption V) : Prop where
  copy : ∃ callback, stackOption.stackElementCopyCallbackp = some callback ∧
    ∀ events element, (callback events element).2 = element.value
  free : ∃ callback, stackOption.stackElementFreeCallbackp = some callback ∧
    ∀ events element, callback events element = true

/-- The elements hold a pointer at least, and the size of four of them is a `size_t`. -/
def MarpaWrapperStackOption.Sized (stackOption : MarpaWrapperStackOption V) : Prop :=
  pointerSize ≤ stackOption.stackElementSizei ∧
    stackOption.stackElementSizei * stackInitSize < sizeModulus

/-! ### The record of the callbacks -/

/-- What the rule callback was called with, in order. -/
def ruleCallsIn (events : List (Event V)) : List (Option Nat × List (Option V)) :=
  events.filterMap fun
    | .valueRule rulep inputs _ _ => some (rulep, contents inputs)
    | _ => none

/-- What the result callback was called with, in order. -/
def resultsIn (events : List (Event V)) : List (Option V) :=
  events.filterMap fun
    | .valueResult value _ => some (value.map Element.value)
    | _ => none

/-- Since `start` the rule and the result callback were called with `calls` and `results`. -/
structure Called (start world : World V) (calls : List (Option Nat × List (Option V)))
    (results : List (Option V)) : Prop where
  record : ∃ exchanges, world.events = start.events ++ exchanges ∧ ruleCallsIn exchanges = calls ∧
    resultsIn exchanges = results

/-- An exchange that neither calls these callbacks nor moves the iterator or the valuator. -/
structure Event.Aside (event : Event V) : Prop where
  calls : ruleCallsIn [event] = []
  results : resultsIn [event] = []
  cursor : ∀ cursor, advance cursor event = cursor

theorem Event.aside_ofStack {event : Event V} (ofStack : event.ofStack = true) : event.Aside := by
  cases event <;> first | exact ⟨rfl, rfl, fun _ => rfl⟩ | cases ofStack

section Called

variable {start world world' : World V} {calls : List (Option Nat × List (Option V))}
  {results : List (Option V)}

theorem Called.refl (start : World V) : Called start start [] [] :=
  ⟨[], (List.append_nil _).symm, rfl, rfl⟩

/-- More exchanges, with what they call. -/
theorem Called.append (called : Called start world calls results) (exchanges : List (Event V))
    (appended : world'.events = world.events ++ exchanges) :
    Called start world' (calls ++ ruleCallsIn exchanges) (results ++ resultsIn exchanges) := by
  obtain ⟨before, record, rfl, rfl⟩ := called.record
  exact ⟨before ++ exchanges, by rw [appended, record, List.append_assoc],
    List.filterMap_append, List.filterMap_append⟩

theorem Called.single (called : Called start world calls results) (event : Event V)
    (address : Nat) :
    Called start { world with events := world.events ++ [event], nextAddress := address }
      (calls ++ ruleCallsIn [event]) (results ++ resultsIn [event]) :=
  called.append [event] rfl

/-- One exchange that calls neither callback. -/
theorem Called.quiet (called : Called start world calls results) {event : Event V}
    (noCall : ruleCallsIn [event] = []) (noResult : resultsIn [event] = []) {address : Nat} :
    Called start { world with events := world.events ++ [event], nextAddress := address } calls
      results := by
  have more := called.single event address
  rwa [noCall, noResult, List.append_nil, List.append_nil] at more

/-- More exchanges that do not concern the callbacks. -/
theorem Called.aside (called : Called start world calls results) {exchanges : List (Event V)}
    (appended : world'.events = world.events ++ exchanges)
    (aside : ∀ event ∈ exchanges, event.Aside) :
    Called start world' calls results ∧ cursor world'.events = cursor world.events := by
  have noCall : ruleCallsIn exchanges = [] := by
    refine List.filterMap_eq_nil_iff.mpr fun event member => ?_
    have nothing := (aside event member).calls
    rw [ruleCallsIn] at nothing
    exact List.filterMap_eq_nil_iff.mp nothing event List.mem_cons_self
  have noResult : resultsIn exchanges = [] := by
    refine List.filterMap_eq_nil_iff.mpr fun event member => ?_
    have nothing := (aside event member).results
    rw [resultsIn] at nothing
    exact List.filterMap_eq_nil_iff.mp nothing event List.mem_cons_self
  have more := called.append exchanges appended
  rw [noCall, noResult, List.append_nil, List.append_nil] at more
  exact ⟨more, by rw [appended]; exact cursor_quiet fun event member => (aside event member).cursor⟩

end Called

/-! ### The entries up to the top -/

/-- Up to the top the value stack holds the values of the finished subtrees. -/
structure GenericStack.Holds (stack : GenericStack V) (values : List (Option V)) : Prop where
  kept : stack.Kept
  copying : ∀ source target, stack.Copies source target →
    target.map Element.value = source.map Element.value
  reads : Reads values values.length fun index => (stack.entry index).map Element.value
  used : values.length ≤ stack.stackSizei

theorem MarpaWrapperStackOption.Copies.hasCallbacks {stackOption : MarpaWrapperStackOption V}
    (copies : stackOption.Copies) : stackOption.HasCallbacks := by
  obtain ⟨copy, copyGiven, -⟩ := copies.copy
  obtain ⟨free, freeGiven, -⟩ := copies.free
  exact ⟨by rw [freeGiven]; rfl, by rw [copyGiven]; rfl⟩

theorem MarpaWrapperStackOption.Sized.hasRoom {stackOption : MarpaWrapperStackOption V}
    (sized : stackOption.Sized) : HasRoom stackOption.stackElementSizei := by
  rw [HasRoom, Nat.mod_eq_of_lt sized.2, Nat.mul_comm]
  exact Nat.mul_le_mul_right _ sized.1

section Stack

variable {libc : Libc V} {fuel : Nat} {stack : GenericStack V} {values : List (Option V)}
  {stackOption : MarpaWrapperStackOption V}

/-- On a new value stack no subtree is finished. -/
theorem GenericStack.Fresh.holds (copies : stackOption.Copies)
    (fresh : stack.Fresh (some (marpaWrapperGenericStackOption stackOption))) :
    stack.Holds [] := by
  refine ⟨(fresh.kept copies.hasCallbacks).1, fun source target copied => ?_, .nil _,
    Nat.zero_le _⟩
  obtain ⟨callback, given, exact⟩ := copies.copy
  cases source <;> cases target <;> simp only [GenericStack.Copies] at copied
  · rfl
  · rw [fresh.copyCallbackp] at copied
    simp only [Option.bind_some, marpaWrapperGenericStackOption, given,
      marpaWrapperStackCopyCallback] at copied
    obtain ⟨events, errnum, answered⟩ := copied
    injection answered with answered
    injection answered with _ value
    rw [Option.map_some, Option.map_some, ← value, exact]

theorem GenericStack.Holds.narrow (holds : stack.Holds values) : values.length ≤ 2 ^ 31 :=
  Nat.le_trans holds.used (Nat.le_trans holds.kept.sound.used holds.kept.sound.bounded)

/-- An entry up to the top is read. -/
theorem GenericStack.Holds.getp (holds : stack.Holds values) {index : Nat}
    (below : index < values.length) (world : World V) :
    genericStackGetp libc fuel stack index world = .ok (stack.entry index, stack) world :=
  genericStackGetp_run holds.kept.sound (Nat.lt_of_lt_of_le below
    (Nat.le_trans holds.used holds.kept.sound.used)) (.inr holds.kept.growsOnGet) world

/-- Writing at an index leaves the values below it, and the written one becomes the top. What lies
above it does not count any more. -/
theorem GenericStack.Holds.seti (grants : libc.AlwaysGrants) (enough : 2 ^ 32 ≤ fuel)
    (holds : stack.Holds values) {index : Nat} (inside : index ≤ values.length)
    (narrow : index < 2 ^ 31) {output : Option (Element V)}
    (apart : Apart (stack.entry index) output) (world : World V) :
    ∃ stack' world' stored released,
      genericStackSeti libc fuel stack index output world = .ok (1, stack') world' ∧
      stack'.Holds (values.take index ++ [output.map Element.value]) ∧
      Exchanged world world' stored released := by
  obtain ⟨stack', world', stored, set, became, storing, exchanged⟩ := genericStackSeti_run grants
    enough holds.kept.sound holds.kept.callable narrow (.inr holds.kept.growsOnSet) apart world
  have kept := (genericStackSeti_kept grants enough holds.kept narrow set).2.1
  have length : (values.take index).length = index := List.length_take_of_le inside
  refine ⟨stack', world', _, _, set, ⟨kept, fun source target copied =>
    holds.copying source target (copied.of_sameSettings became.settings), ?_, ?_⟩, exchanged⟩
  · have below : Reads (values.take index) index
        fun other => (stack.entry other).map Element.value := by
      refine ⟨length, fun other inside' => ?_⟩
      rw [List.getElem?_take_of_lt inside', holds.reads.lookup other (by omega)]
    rw [List.length_append, length]
    refine below.push ?_ fun other inside' => ?_
    · rw [became.entries, GenericStack.setEntry, Function.update_self,
        holds.copying output stored storing.copies]
    · have used := holds.used
      rw [became.entries, GenericStack.setEntry, Function.update_of_ne (by omega),
        if_neg (by omega)]
  · rw [List.length_append, length, became.size]
    exact Nat.le_max_right _ _

end Stack

/-! ### Steps -/

/-- The value stack holds `values` in different blocks, the callbacks were called with `calls` and
`results`, and the iterator and the valuator have come to `position`. -/
structure Standing (start : World V) (position : Nat × Nat) (values : List (Option V))
    (calls : List (Option Nat × List (Option V))) (results : List (Option V))
    (state : VbState V) : Prop where
  stack : ∃ stack, state.locals.genericStackp = some stack ∧ stack.Holds values
  apart : ∀ stack ∈ state.locals.genericStackp, stack.HoldsApart state.world
  called : Called start state.world calls results
  cursor : cursor state.world.events = position

/-- The local designates an output of a step: its value, in a block that no cell of the value stack
points to. -/
structure Produced (output : Option V) (state : VbState V) : Prop where
  value : state.locals.valueOutputp.target?.map Element.value = output
  apart : ∀ stack ∈ state.locals.genericStackp, ∀ index,
    Apart (stack.entry index) state.locals.valueOutputp.target?

section Steps

variable {start : World V} {position : Nat × Nat} {values : List (Option V)}
  {calls : List (Option Nat × List (Option V))} {results : List (Option V)}
  {leaving : VbExit → VbState V → Prop} {locals locals' : VbLocals V} {world world' : World V}

/-- Exchanges on the side, while the local of the value stack stays as it is. -/
theorem Standing.aside (standing : Standing start position values calls results ⟨locals, world⟩)
    (same : locals'.genericStackp = locals.genericStackp) (exchanges : List (Event V))
    (appended : world'.events = world.events ++ exchanges)
    (later : world.nextAddress ≤ world'.nextAddress)
    (aside : ∀ event ∈ exchanges, event.Aside) :
    Standing start position values calls results ⟨locals', world'⟩ := by
  obtain ⟨called, cursor⟩ := standing.called.aside appended aside
  refine ⟨by rw [same]; exact standing.stack, ?_, called, cursor.trans standing.cursor⟩
  rw [same]
  exact fun stack member => (standing.apart stack member).later later

/-- One exchange on the side. -/
theorem Standing.event (standing : Standing start position values calls results ⟨locals, world⟩)
    (same : locals'.genericStackp = locals.genericStackp) {event : Event V} (aside : event.Aside)
    {address : Nat} (later : world.nextAddress ≤ address) :
    Standing start position values calls results
      ⟨locals', { world with events := world.events ++ [event], nextAddress := address }⟩ :=
  standing.aside same [event] rfl later fun other member => by
    rwa [List.mem_singleton.mp member]

/-- Assigning another local. -/
theorem Standing.assign (standing : Standing start position values calls results ⟨locals, world⟩)
    (same : locals'.genericStackp = locals.genericStackp) :
    Standing start position values calls results ⟨locals', world⟩ :=
  ⟨by rw [same]; exact standing.stack, by rw [same]; exact standing.apart, standing.called,
    standing.cursor⟩

section Calls

variable {libc : Libc V} {fuel : Nat}

/-- The first `frame.1` inputs have been collected, from index `first` on. -/
structure Collected (values : List (Option V)) (first : Nat)
    (frame : Nat × List (Slot (Element V))) : Prop where
  length : frame.2.length = values.length - first
  filled : ∀ offset < frame.1,
    frame.2[offset]?.map (fun cell => cell.target?.map Element.value) = values[first + offset]?

theorem Collected.write {first : Nat} {frame : Nat × List (Slot (Element V))}
    (collected : Collected values first frame) (inside : frame.1 < frame.2.length)
    {input : Option (Element V)}
    (here : values[first + frame.1]? = some (input.map Element.value)) :
    Collected values first (frame.1 + 1, frame.2.set frame.1 (.ofOption input)) := by
  refine ⟨by rw [List.length_set]; exact collected.length, fun offset below => ?_⟩
  by_cases same : offset = frame.1
  · subst same
    rw [List.getElem?_set_self inside, here]
    cases input <;> rfl
  · rw [List.getElem?_set_ne (Ne.symm same)]
    exact collected.filled offset (by omega)

/-- The collected inputs are the values from `first` on. -/
theorem Collected.contents {first : Nat} {cells : List (Slot (Element V))}
    (collected : Collected values first (values.length - first, cells)) :
    contents (cells.map Slot.target?) = values.drop first := by
  refine List.ext_getElem? fun offset => ?_
  rw [MarpaWrapper.contents, List.map_map, List.getElem?_map, List.getElem?_drop]
  by_cases below : offset < values.length - first
  · exact collected.filled offset below
  · rw [List.getElem?_eq_none (by rw [collected.length]; omega),
      List.getElem?_eq_none (by omega)]
    rfl

theorem toSize_natCast {value : Nat} (fits : value < sizeModulus) : toSize value = value := by
  rw [toSize]
  simp only [sizeModulus] at fits ⊢
  omega

/-- The turn of the collecting loop that reads the next value. -/
theorem collectTurn_standing {first left : Nat} (frame : Nat × List (Slot (Element V))) :
    Triple
      (fun state => (Standing start position values calls results state ∧
        Collected values first frame) ∧ frame.1 + left = values.length - first)
      (collectTurn libc fuel first (values.length - first) frame)
      (AfterTurn
        (fun following state => ∃ less < left,
          (Standing start position values calls results state ∧ Collected values first following) ∧
            following.1 + less = values.length - first)
        fun cells state => Standing start position values calls results state ∧
          MarpaWrapper.contents (cells.map Slot.target?) = values.drop first) leaving := by
  refine .ite (fun more => ?_) fun finished => ?_
  · refine .through (fun input state =>
        ((Standing start position values calls results state ∧ Collected values first frame) ∧
          frame.1 + left = values.length - first) ∧
        values[first + frame.1]? = some (input.map Element.value)) ?_ fun input => ?_
    · refine onStack_returns fun locals world holds => ?_
      obtain ⟨stack, designated, held⟩ := holds.1.1.stack
      have narrow := held.narrow
      have index : (toSize first + frame.1) % uintModulus = first + frame.1 := by
        rw [toSize_natCast (by simp only [sizeModulus]; omega)]
        exact Nat.mod_eq_of_lt (by simp only [uintModulus]; omega)
      refine ⟨stack, _, _, _, designated, by rw [index]; exact held.getp (by omega) world, ?_, ?_⟩
      · exact ⟨⟨⟨⟨stack, rfl, held⟩, fun _ member => by
          cases member; exact holds.1.1.apart stack designated, holds.1.1.called,
          holds.1.1.cursor⟩, holds.1.2⟩, holds.2⟩
      · exact held.reads.lookup _ (by omega)
    · refine .through (fun cells state =>
        Standing start position values calls results state ∧
          Collected values first (frame.1 + 1, cells) ∧
          frame.1 + left = values.length - first) ?_ fun cells => ?_
      · refine onWorld_returns fun locals world holds => ?_
        have inside : frame.1 < frame.2.length := by
          rw [holds.1.1.2.length]
          exact more
        exact ⟨_, _, writeCell_run inside .., holds.1.1.1, holds.1.1.2.write inside holds.2,
          holds.1.2⟩
      · refine .pure fun state holds => ?_
        obtain ⟨standing, collected, counted⟩ := holds
        obtain ⟨stack, designated, held⟩ := standing.stack
        have narrow := held.narrow
        have next : (frame.1 + 1) % sizeModulus = frame.1 + 1 :=
          Nat.mod_eq_of_lt (by simp only [sizeModulus]; omega)
        refine ⟨left - 1, by omega, ?_⟩
        simp only [next]
        exact ⟨⟨standing, collected⟩, by omega⟩
  · refine .pure fun state holds => ⟨holds.1.1, ?_⟩
    have all : frame.1 = values.length - first := by omega
    have collected := holds.1.2
    obtain ⟨count, cells⟩ := frame
    obtain rfl : count = values.length - first := all
    exact collected.contents

/-- The inputs of a rule are the values from its first child on. -/
theorem collectInputs_standing (grants : libc.AlwaysGrants) (enough : 2 ^ 32 ≤ fuel)
    {first last : Int} (fits : (PostOrder.Step.node (α := ParseLeaf) (0 : Int) first last).Fits values) :
    Triple (Standing start position values calls results)
      (collectInputs libc fuel first last)
      (fun inputs state => Standing start position values calls results state ∧
        MarpaWrapper.contents inputs = values.drop first.toNat) leaving := by
  obtain ⟨nonNegative, ordered, top⟩ := fits
  obtain ⟨first, rfl⟩ := Int.eq_ofNat_of_zero_le nonNegative
  intro state standing
  obtain ⟨stack, -, held⟩ := standing.stack
  have narrow := held.narrow
  have count : toSize (last - (first : Int) + 1) = values.length - first := by
    rw [show last - (first : Int) + 1 = ((values.length - first : Nat) : Int) by omega,
      toSize_natCast (by simp only [sizeModulus]; omega)]
  have bytes : (values.length - first) * pointerSize % sizeModulus =
      (values.length - first) * pointerSize :=
    Nat.mod_eq_of_lt (by simp only [pointerSize, sizeModulus]; omega)
  have collecting : Triple (Standing start position values calls results)
      (collectInputs libc fuel first last)
      (fun inputs state => Standing start position values calls results state ∧
        MarpaWrapper.contents inputs = values.drop first) leaving := by
    unfold collectInputs
    simp only [count, bytes]
    refine .through (fun granted state => granted.isSome = true ∧
      Standing start position values calls results state) ?_ fun granted => ?_
    · refine onWorld_returns fun locals world standing =>
        ⟨_, _, malloc_run grants _ world, rfl, standing.event rfl ⟨rfl, rfl, fun _ => rfl⟩ (Nat.le_succ _)⟩
    · cases granted with
      | none => exact fun _ holds => absurd holds.1 Bool.false_ne_true
      | some address =>
        refine .through (fun _ => Standing start position values calls results)
          (assign_triple fun locals world holds => holds.2.assign rfl) fun _ => ?_
        refine .through (fun cells state =>
            Standing start position values calls results state ∧
              MarpaWrapper.contents (cells.map Slot.target?) = values.drop first)
          ?_ fun cells => .pure fun _ holds => holds
        refine Triple.consequence (Triple.loop_ends
          (fun left frame state => (Standing start position values calls results state ∧
            Collected values first frame) ∧ frame.1 + left = values.length - first)
          (fun left frame => collectTurn_standing frame) (values.length - first) (by omega) _)
          (fun state standing => ⟨⟨standing, ?_, fun offset below => ?_⟩, Nat.zero_add _⟩)
          (fun _ _ holds => holds) fun _ _ left => left
        · rw [resize_length, Nat.mul_div_cancel _ (by decide)]
        · exact absurd below (Nat.not_lt_zero _)
  exact collecting state standing

/-- A callback that answers `TRUE` is on record, and its output is designated. -/
theorem produceOrFail_standing {callback : List (Event V) → Bool × Option V}
    {event : Bool → Option (Element V) → Event V} {output : Option V}
    {more calls' : List (Option Nat × List (Option V))}
    (answers : ∀ events, callback events = (true, output)) (joined : calls ++ more = calls')
    (called : ∀ output, ruleCallsIn [event true output] = more)
    (noResult : ∀ output, resultsIn [event true output] = [])
    (still : ∀ output cursor, advance cursor (event true output) = cursor) :
    Triple (Standing start position values calls results) (produceOrFail callback event)
      (fun _ state => Standing start position values calls' results state ∧
        Produced output state) leaving := by
  subst joined
  refine .through (fun (result : Bool × Option (Element V)) state => result.1 = true ∧
    result.2.map Element.value = output ∧
    (∀ stack ∈ state.locals.genericStackp, ∀ index, Apart (stack.entry index) result.2) ∧
    Standing start position values (calls ++ more) results state) ?_ fun result => ?_
  · refine onWorld_returns fun locals world standing => ?_
    refine ⟨_, _, rfl, ?_⟩
    simp only [answers]
    refine ⟨trivial, by cases output <;> rfl, fun stack member index =>
      (standing.apart stack member).fresh (fun output member => ?_) index, standing.stack,
      fun stack member => (standing.apart stack member).later (Nat.le_succ _), ?_, ?_⟩
    · obtain ⟨value, -, rfl⟩ := Option.mem_map.mp member
      exact Nat.le_refl _
    · rw [← called (output.map fun value => ⟨world.nextAddress, value⟩),
        ← List.append_nil results, ← noResult (output.map fun value => ⟨world.nextAddress, value⟩)]
      exact standing.called.append [_] rfl
    · rw [cursor_append, still]
      exact standing.cursor
  · refine .through (fun _ state => result.1 = true ∧
      Standing start position values (calls ++ more) results state ∧ Produced output state)
      (assign_triple fun locals world holds => ⟨holds.1, holds.2.2.2.assign rfl, ?_⟩) fun _ => ?_
    · have designated : (Slot.ofOption result.2).target? = result.2 := by cases result.2 <;> rfl
      exact ⟨by rw [designated]; exact holds.2.1, fun stack member index => by
        rw [designated]; exact holds.2.2.1 stack member index⟩
    · intro state holds
      rw [holds.1]
      exact holds.2

/-- Storing the output of a step. -/
theorem storeOutput_standing (grants : libc.AlwaysGrants) (enough : 2 ^ 32 ≤ fuel)
    {argResulti : Int} {index : Nat} (result : argResulti = index) (narrow : index < 2 ^ 31)
    (inside : index ≤ values.length) {output : Option V} :
    Triple
      (fun state => Standing start position values calls results state ∧ Produced output state)
      (storeOutput libc fuel argResulti)
      (fun _ => Standing start position (values.take index ++ [output]) calls results) leaving := by
  have unsigned : toUnsigned argResulti = index := by
    rw [result, toUnsigned]
    simp only [uintModulus]
    omega
  refine readOutput_triple (fun _ _ holds =>
    ⟨holds.1.event rfl ⟨rfl, rfl, fun _ => rfl⟩ (Nat.le_refl _), holds.2.value, holds.2.apart⟩)
    fun locals => .through (fun stored state => stored = 1 ∧
      Standing start position (values.take index ++ [output]) calls results state) ?_
    fun stored => ?_
  · refine onStack_returns fun locals' world holds => ?_
    obtain ⟨⟨standing, produced⟩, same⟩ := holds
    obtain rfl : locals' = locals := same
    obtain ⟨stack, held, holds⟩ := standing.stack
    obtain ⟨stack', world', stored, released, set, holds', exchanged⟩ :=
      holds.seti grants enough inside narrow (produced.apart stack held index) world
    rw [produced.value] at holds'
    have apart := (standing.apart stack held).stores
      (genericStackSeti_storesAt holds.kept.sound holds.kept.callable set)
    obtain ⟨exchanges, appended, ofStack, -, -⟩ := exchanged.events
    obtain ⟨called, cursor⟩ := standing.called.aside appended fun event member =>
      Event.aside_ofStack (ofStack event member)
    exact ⟨stack, 1, stack', world', held, by rw [unsigned]; exact set, rfl,
      ⟨stack', rfl, holds'⟩, fun _ member => by cases member; exact apart, called,
      cursor.trans standing.cursor⟩
  · intro state holds
    rw [holds.1]
    exact holds.2

variable {wrapper : Wrapper} {valueOption : MarpaWrapperValueOption V}
  {stackOption : MarpaWrapperStackOption V} {semantics : Semantics V}

theorem callRule_standing (computes : valueOption.Computes semantics) {ruleId : Int}
    (known : Registers wrapper.marpaWrapperRulepp ruleId) {arguments : List (Option V)}
    {inputs : List (Option (Element V))} (collected : contents inputs = arguments) :
    Triple (Standing start position values calls results)
      (callRule wrapper valueOption ruleId inputs)
      (fun _ state =>
        Standing start position values (calls ++ [(registered ruleId, arguments)]) results state ∧
        Produced (semantics.node ruleId arguments) state)
      leaving := by
  subst collected
  unfold callRule
  rw [computes.rule]
  exact onWorld_reads (readPointer_registered known) (produceOrFail_standing (fun _ => rfl) rfl
    (fun _ => rfl) (fun _ => rfl) fun _ _ => rfl)

/-- The callback of a leaf is called, and its output is the value of the leaf. -/
theorem callSymbol_standing (computes : valueOption.Computes semantics) {symbolId : Int}
    (known : Registers wrapper.marpaWrapperSymbolpp symbolId) (value : Int) :
    Triple (Standing start position values calls results)
      (callSymbol wrapper valueOption symbolId value)
      (fun _ state => Standing start position values calls results state ∧
        Produced (semantics.leaf (.token symbolId value)) state) leaving := by
  unfold callSymbol
  rw [computes.symbol]
  exact onWorld_reads (readPointer_registered known) (produceOrFail_standing (fun _ => rfl)
    (List.append_nil calls) (fun _ => rfl) (fun _ => rfl) fun _ _ => rfl)

theorem callNulling_standing (computes : valueOption.Computes semantics) {symbolId : Int}
    (known : Registers wrapper.marpaWrapperSymbolpp symbolId) :
    Triple (Standing start position values calls results)
      (callNulling wrapper valueOption symbolId)
      (fun _ state => Standing start position values calls results state ∧
        Produced (semantics.leaf (.nulled symbolId)) state)
      leaving := by
  unfold callNulling
  rw [computes.nulling]
  exact onWorld_reads (readPointer_registered known) (produceOrFail_standing (fun _ => rfl)
    (List.append_nil calls) (fun _ => rfl) (fun _ => rfl) fun _ _ => rfl)

/-- The inputs are freed before the output is stored. -/
theorem freeInputs_standing {output : Option V} :
    Triple
      (fun state => Standing start position values calls results state ∧ Produced output state)
      freeInputs
      (fun _ state => Standing start position values calls results state ∧ Produced output state)
      leaving := by
  refine readLocals_triple fun locals => .through (fun _ state =>
      Standing start position values calls results state ∧ Produced output state) ?_ fun _ =>
    assign_triple fun locals world holds => ⟨holds.1.assign rfl, holds.2.value, holds.2.apart⟩
  refine onWorld_returns fun locals' world holds => ?_
  cases locals.valueInputArraypp with
  | none => exact ⟨_, _, rfl, holds.1⟩
  | some address =>
    exact ⟨_, _, rfl, holds.1.1.event rfl ⟨rfl, rfl, fun _ => rfl⟩ (Nat.le_refl _),
      holds.1.2.value, holds.1.2.apart⟩

/-- A step of the walk executes as on the machine. -/
theorem applyStep_standing (grants : libc.AlwaysGrants) (enough : 2 ^ 32 ≤ fuel)
    (computes : valueOption.Computes semantics) {machine : PostOrder.Machine Int (Option V)}
    {step : PostOrder.Step ParseLeaf Int} (fits : step.Fits machine.values)
    (known : wrapper.Knows (marpaStep step)) (placed : (marpaStep step).NonNegative) :
    Triple
      (Standing start position machine.values (calls ++ machine.calls.map registeredCall) results)
      (applyStep libc fuel wrapper valueOption (marpaStep step))
      (fun nextb state => nextb = true ∧
        Standing start position (step.execute semantics.leaf semantics.node machine).values
          (calls ++ (step.execute semantics.leaf semantics.node machine).calls.map registeredCall)
          results state) leaving := by
  cases step with
  | leaf label result =>
    have top : result = (machine.values.length : Nat) := fits
    have all : machine.values.take machine.values.length = machine.values := List.take_length
    cases label with
    | token symbolId value =>
      refine .bind (callSymbol_standing computes known value) fun _ =>
        .bind (storeOutput_standing grants enough top ?_ (Nat.le_refl _)) fun _ =>
          .pure fun state standing => ⟨rfl, ?_⟩
      · have narrow := placed.2
        omega
      · rw [all] at standing
        exact standing
    | nulled symbolId =>
      refine .bind (callNulling_standing computes known) fun _ =>
        .bind (storeOutput_standing grants enough top ?_ (Nat.le_refl _)) fun _ =>
          .pure fun state standing => ⟨rfl, ?_⟩
      · have narrow := placed.2
        omega
      · rw [all] at standing
        exact standing
  | node ruleId first last =>
    have bounds : 0 ≤ first ∧ first ≤ last ∧ last + 1 = machine.values.length := fits
    have narrow : first < 2 ^ 31 := placed.2
    refine .bind (collectInputs_standing grants enough fits) fun inputs => ?_
    intro state holds
    obtain ⟨standing, collected⟩ := holds
    have rest : Triple
        (Standing start position machine.values (calls ++ machine.calls.map registeredCall) results)
        (do
          callRule wrapper valueOption ruleId inputs
          freeInputs
          storeOutput libc fuel first
          pure true : Vb V Bool)
        (fun nextb state => nextb = true ∧ Standing start position
          (machine.values.take first.toNat ++
            [semantics.node ruleId (machine.values.drop first.toNat)])
          (calls ++ machine.calls.map registeredCall ++
            [(registered ruleId, machine.values.drop first.toNat)]) results state) leaving :=
      .bind (callRule_standing computes known collected) fun _ => .bind freeInputs_standing fun _ =>
        .bind (storeOutput_standing grants enough (by omega) (by omega) (by omega)) fun _ =>
          .pure fun _ standing => ⟨rfl, standing⟩
    have outcome := rest state standing
    rw [List.append_assoc] at outcome
    rw [PostOrder.Step.execute, List.map_append]
    exact outcome

/-- The output of a step is released. -/
theorem releaseOutput_standing (copies : stackOption.Copies) :
    Triple (Standing start position values calls results) (releaseOutput stackOption)
      (fun _ => Standing start position values calls results) leaving := by
  obtain ⟨callback, given, succeeds⟩ := copies.free
  refine readOutput_triple (fun _ _ standing =>
    standing.event rfl ⟨rfl, rfl, fun _ => rfl⟩ (Nat.le_refl _)) fun locals => ?_
  cases locals.valueOutputp with
  | indeterminate => exact .pure fun _ holds => holds.1
  | null => exact .pure fun _ holds => holds.1
  | pointer output =>
    refine .through (fun status state => status = 0 ∧
      Standing start position values calls results state) ?_ fun status => ?_
    · refine onWorld_returns fun locals' world holds =>
        ⟨0, { world with events := world.events ++ [.outputFree output 0] }, ?_, rfl,
          holds.1.event rfl ⟨rfl, rfl, fun _ => rfl⟩ (Nat.le_refl _)⟩
      rw [callOutputFree, given, marpaWrapperStackFreeCallback]
      simp only [succeeds, if_true]
    · refine .through (fun _ => Standing start position values calls results) ?_ fun _ =>
        .through (fun _ => Standing start position values calls results) ?_ fun _ =>
          assign_triple fun locals world standing => standing.assign rfl
      · intro state holds
        rw [holds.1]
        exact holds.2
      · exact onWorld_returns fun locals world standing =>
          ⟨_, _, rfl, standing.event rfl ⟨rfl, rfl, fun _ => rfl⟩ (Nat.le_refl _)⟩

/-! ### The walk over a tree -/

variable {phase : ValuePhase V} {trees : List ParseTree} {tree : ParseTree} {begun taken : Nat}

/-- The valuator gives the next step of the tree, or `MARPA_STEP_INACTIVE` after the last one. -/
theorem askStep_standing (walks : phase.Walks valueOption trees)
    (current : trees[begun - 1]? = some tree) :
    Triple (Standing start (begun, taken) values calls results) (onWorld (ask phase.step .step))
      (fun step state => step = (tree.steps[taken]?).getD .inactive ∧
        Standing start (begun, taken + 1) values calls results state) leaving := by
  refine ask_returns fun locals world standing => ⟨?_, standing.stack,
    fun stack member => (standing.apart stack member).later (Nat.le_refl _), ?_, ?_⟩
  · rw [walks.step world.events tree (by rw [standing.cursor]; exact current), standing.cursor]
  · exact standing.called.quiet rfl rfl
  · rw [cursor_append, standing.cursor]
    rfl

/-- One turn makes the next step of the walk. -/
theorem stepTurn_standing (grants : libc.AlwaysGrants) (enough : 2 ^ 32 ≤ fuel)
    (walks : phase.Walks valueOption trees) (computes : valueOption.Computes semantics)
    (copies : stackOption.Copies) (current : trees[begun - 1]? = some tree)
    {machine : PostOrder.Machine Int (Option V)} {step : PostOrder.Step ParseLeaf Int}
    (next : tree.steps[taken]? = some (marpaStep step)) (fits : step.Fits machine.values)
    (known : wrapper.Knows (marpaStep step)) (placed : (marpaStep step).NonNegative) :
    Triple
      (Standing start (begun, taken) machine.values
        (calls ++ machine.calls.map registeredCall) results)
      (stepTurn libc fuel phase wrapper valueOption stackOption ())
      (fun turn state => turn = .next () ∧
        Standing start (begun, taken + 1)
          (step.execute semantics.leaf semantics.node machine).values
          (calls ++ (step.execute semantics.leaf semantics.node machine).calls.map registeredCall)
          results state) leaving := by
  refine .bind (askStep_standing walks current) fun asked => ?_
  intro state holds
  obtain ⟨rfl, standing⟩ := holds
  rw [next, Option.getD_some]
  have rest : Triple
      (Standing start (begun, taken + 1) machine.values
        (calls ++ machine.calls.map registeredCall) results)
      (do
        assign fun locals => { locals with valueOutputp := .null }
        let nextb ← applyStep libc fuel wrapper valueOption (marpaStep step)
        releaseOutput stackOption
        pure (if nextb then .next () else .done ()) : Vb V (Turn Unit Unit))
      (fun turn state => turn = .next () ∧
        Standing start (begun, taken + 1)
          (step.execute semantics.leaf semantics.node machine).values
          (calls ++ (step.execute semantics.leaf semantics.node machine).calls.map registeredCall)
          results state) leaving := by
    refine .through (fun _ => Standing start (begun, taken + 1) machine.values
        (calls ++ machine.calls.map registeredCall) results)
      (assign_triple fun locals world standing => standing.assign rfl) fun _ =>
      .bind (applyStep_standing grants enough computes fits known placed) fun nextb => ?_
    intro state holds
    obtain ⟨rfl, standing⟩ := holds
    exact Triple.bind (releaseOutput_standing copies) (fun _ => .pure fun _ standing =>
      ⟨rfl, standing⟩) state standing
  exact rest state standing

/-- After the last step the loop is left. -/
theorem stepTurn_inactive (walks : phase.Walks valueOption trees) (copies : stackOption.Copies)
    (current : trees[begun - 1]? = some tree) (last : tree.steps[taken]? = none) :
    Triple (Standing start (begun, taken) values calls results)
      (stepTurn libc fuel phase wrapper valueOption stackOption ())
      (fun turn state => turn = .done () ∧
        Standing start (begun, taken + 1) values calls results state) leaving := by
  refine .bind (askStep_standing walks current) fun asked => ?_
  intro state holds
  obtain ⟨rfl, standing⟩ := holds
  rw [last, Option.getD_none]
  have rest : Triple (Standing start (begun, taken + 1) values calls results)
      (do
        assign fun locals => { locals with valueOutputp := .null }
        let nextb ← applyStep libc fuel wrapper valueOption .inactive
        releaseOutput stackOption
        pure (if nextb then .next () else .done ()) : Vb V (Turn Unit Unit))
      (fun turn state => turn = .done () ∧
        Standing start (begun, taken + 1) values calls results state) leaving := by
    refine .through (fun _ => Standing start (begun, taken + 1) values calls results)
      (assign_triple fun locals world standing => standing.assign rfl) fun _ =>
      .through (fun nextb state => nextb = false ∧
        Standing start (begun, taken + 1) values calls results state)
        (.pure fun _ standing => ⟨rfl, standing⟩) fun nextb => ?_
    intro state holds
    obtain ⟨rfl, standing⟩ := holds
    exact Triple.bind (releaseOutput_standing copies) (fun _ => .pure fun _ standing =>
      ⟨rfl, standing⟩) state standing
  exact rest state standing

/-- The walk over a tree, from an empty value stack: the fold of the tree is on the stack, and the
rule callback was called for every rule. -/
theorem stepLoop_standing (grants : libc.AlwaysGrants) (enough : 2 ^ 32 ≤ fuel)
    (walks : phase.Walks valueOption trees) (computes : valueOption.Computes semantics)
    (copies : stackOption.Copies) (current : trees[begun - 1]? = some tree)
    (known : ∀ step ∈ tree.steps, wrapper.Knows step)
    (placed : ∀ step ∈ tree.steps, step.NonNegative) (turns : tree.steps.length < fuel) :
    Triple (Standing start (begun, 0) [] calls results)
      (loop (.fault .exhausted) (stepTurn libc fuel phase wrapper valueOption stackOption) fuel ())
      (fun _ state => ∃ taken, Standing start (begun, taken) [semantics.fold tree]
        (calls ++ semantics.ruleCalls tree) results state) leaving := by
  refine Triple.consequence (Triple.loop_ends (fun left _ state =>
      ∃ done todo machine, (tree.walk (-1)).1 = done ++ todo ∧ todo.length = left ∧
        PostOrder.Runs semantics.leaf semantics.node todo machine
          ⟨[semantics.fold tree], tree.calls semantics.leaf semantics.node⟩ ∧
        Standing start (begun, done.length) machine.values
          (calls ++ machine.calls.map registeredCall) results state)
    (fun left frame => ?_) tree.steps.length turns ()) ?_ (fun _ _ holds => holds) fun _ _ left => left
  · rintro state ⟨done, todo, machine, cut, rfl, runs, standing⟩
    have here (taken : Nat) : tree.steps[taken]? = ((done ++ todo)[taken]?).map marpaStep := by
      rw [ParseTree.steps, cut, List.getElem?_map]
    cases todo with
    | nil =>
      obtain rfl := runs
      have last : tree.steps[done.length]? = none := by
        rw [here, List.append_nil, List.getElem?_eq_none (Nat.le_refl _)]
        rfl
      refine (stepTurn_inactive walks copies current last).consequence (fun _ holds => holds)
        (fun turn state holds => ?_) (fun _ _ left => left) state standing
      rw [holds.1]
      exact ⟨_, holds.2⟩
    | cons step rest =>
      have next : tree.steps[done.length]? = some (marpaStep step) := by
        rw [here, List.getElem?_append_right (Nat.le_refl _), Nat.sub_self]
        rfl
      have member := List.mem_of_getElem? next
      refine (stepTurn_standing grants enough walks computes copies current next runs.1
        (known _ member) (placed _ member)).consequence (fun _ holds => holds)
        (fun turn state holds => ?_) (fun _ _ left => left) state standing
      rw [holds.1]
      refine ⟨rest.length, Nat.lt_succ_self _, done ++ [step], rest, _, ?_, rfl, runs.2, ?_⟩
      · rw [cut, List.append_assoc]
        rfl
      · rw [List.length_append]
        exact holds.2
  · intro state standing
    have walked := (tree.walk_runs semantics.leaf semantics.node ⟨[], []⟩ (-1) rfl).1
    refine ⟨[], (tree.walk (-1)).1, ⟨[], []⟩, rfl, ?_, walked, ?_⟩
    · rw [ParseTree.steps, List.length_map]
    · rw [List.map_nil, List.append_nil]
      exact standing

/-! ### The walk over all trees -/

/-- There is no value stack, as before and after a tree. -/
structure Between (start : World V) (position : Nat × Nat)
    (calls : List (Option Nat × List (Option V))) (results : List (Option V))
    (state : VbState V) : Prop where
  noStack : state.locals.genericStackp = none
  called : Called start state.world calls results
  cursor : cursor state.world.events = position

theorem Between.event (between : Between start position calls results ⟨locals, world⟩)
    (same : locals'.genericStackp = locals.genericStackp) {event : Event V} (aside : event.Aside)
    {address : Nat} : Between start position calls results
      ⟨locals', { world with events := world.events ++ [event], nextAddress := address }⟩ := by
  refine ⟨same.trans between.noStack, between.called.quiet aside.calls aside.results, ?_⟩
  rw [cursor_append, aside.cursor]
  exact between.cursor

theorem Between.assign (between : Between start position calls results ⟨locals, world⟩)
    (same : locals'.genericStackp = locals.genericStackp) :
    Between start position calls results ⟨locals', world⟩ :=
  ⟨same.trans between.noStack, between.called, between.cursor⟩

/-- The valuator and an empty value stack. -/
theorem openValuator_standing (grants : libc.AlwaysGrants) (enough : 2 ^ 32 ≤ fuel)
    (walks : phase.Walks valueOption trees) (copies : stackOption.Copies)
    (sized : stackOption.Sized) :
    Triple (Between start position calls results) (openValuator libc fuel phase stackOption)
      (fun _ => Standing start position [] calls results) leaving := by
  refine .through (fun _ => Between start position calls results)
    (acquireOrFail_returns walks.valueNew fun locals world between =>
      between.event rfl ⟨rfl, rfl, fun _ => rfl⟩) fun valuator =>
    .through (fun _ => Between start position calls results)
      (assign_triple fun locals world between => between.assign rfl) fun _ =>
    .through (fun _ => Between start position calls results) (askOrFail_returns
      (fun _ events => decide_eq_false (Int.not_lt.mpr (walks.valuedForce events)))
      (fun locals world value between => between.event rfl ⟨rfl, rfl, fun _ => rfl⟩)
      fun _ between => between) fun _ =>
    .through (fun created state => ∃ stack, created = some stack ∧ stack.Holds [] ∧
      stack.HoldsApart state.world ∧ Between start position calls results state) ?_ fun created => ?_
  · refine onWorld_returns fun locals world between => ?_
    obtain ⟨stack, world', run, fresh, exchanged⟩ := genericStackNewp_run grants enough
      sized.hasRoom (some (marpaWrapperGenericStackOption stackOption)) world
    obtain ⟨exchanges, appended, ofStack, -, -⟩ := exchanged.events
    obtain ⟨called, cursor⟩ := between.called.aside appended fun event member =>
      Event.aside_ofStack (ofStack event member)
    exact ⟨_, _, run, stack, rfl, fresh.holds copies, fresh.holdsApart world', between.noStack, called,
      cursor.trans between.cursor⟩
  · rintro state ⟨stack, rfl, holds, apart, between⟩
    exact ⟨⟨stack, rfl, holds⟩, fun _ member => by cases member; exact apart, between.called,
      between.cursor⟩

/-- The value stack and the valuator are released. -/
theorem closeValuator_between (enough : 2 ^ 32 ≤ fuel) :
    Triple (Standing start position values calls results) (closeValuator fuel)
      (fun _ => Between start position calls results) leaving := by
  refine readLocals_triple fun locals => ?_
  refine .through (fun _ state => Called start state.world calls results ∧
    cursor state.world.events = position) ?_ fun _ =>
    .through (fun _ => Between start position calls results)
      (assign_triple fun locals world holds => ⟨rfl, holds.1, holds.2⟩) fun _ =>
    .through (fun _ => Between start position calls results) ?_ fun _ =>
      assign_triple fun locals world between => between.assign rfl
  · refine onWorld_returns fun locals' world holds => ?_
    obtain ⟨standing, same⟩ := holds
    obtain rfl : locals' = locals := same
    obtain ⟨stack, designated, held⟩ := standing.stack
    obtain ⟨world', run, exchanged⟩ := genericStackDestroyv_run enough held.kept.sound
      held.kept.callable world
    obtain ⟨exchanges, appended, ofStack, -, -⟩ := exchanged.events
    obtain ⟨called, cursor⟩ := standing.called.aside appended fun event member =>
      Event.aside_ofStack (ofStack event member)
    refine ⟨(), world', ?_, called, cursor.trans standing.cursor⟩
    rw [designated]
    exact run
  · refine onWorld_returns fun locals' world between => ?_
    cases locals.marpaValuep with
    | none => exact ⟨_, _, rfl, between⟩
    | some handle => exact ⟨_, _, rfl, between.event rfl ⟨rfl, rfl, fun _ => rfl⟩⟩

/-- The result callback receives the value at the bottom of the stack. When it does not answer
`TRUE`, no further tree is valued. -/
theorem reportResult_standing {resultCallback : List (Event V) → Option (Element V) → ValueBool}
    (given : valueOption.valueResultCallbackp = some resultCallback) {value : Option V}
    (stopped : ∀ state events element, resultCallback events element ≠ .true →
      Standing start position [value] calls (results ++ [value]) state → leaving .endLabel state) :
    Triple (Standing start position [value] calls results) (reportResult libc fuel valueOption)
      (fun _ => Standing start position [value] calls (results ++ [value])) leaving := by
  unfold reportResult
  rw [given]
  refine .through (fun element state => element.map Element.value = value ∧
    Standing start position [value] calls results state) ?_ fun element => ?_
  · refine onStack_returns fun locals world standing => ?_
    obtain ⟨stack, designated, held⟩ := standing.stack
    have bottom : some value = some ((stack.entry 0).map Element.value) :=
      held.reads.lookup 0 Nat.zero_lt_one
    exact ⟨stack, _, _, _, designated, held.getp Nat.zero_lt_one world,
      (Option.some.inj bottom).symm, ⟨stack, rfl, held⟩,
      fun _ member => by cases member; exact standing.apart stack designated, standing.called,
      standing.cursor⟩
  · refine .through (fun answer state =>
      Standing start position [value] calls (results ++ [value]) state ∧
        ∃ events element, answer = resultCallback events element) ?_ fun answer => ?_
    · refine ask_returns fun locals world holds => ?_
      obtain ⟨rfl, standing⟩ := holds
      refine ⟨⟨standing.stack, fun stack member =>
        (standing.apart stack member).later (Nat.le_refl _), ?_, ?_⟩, world.events, element, rfl⟩
      · have more := standing.called.single
          (.valueResult element (resultCallback world.events element)) world.nextAddress
        rw [show ruleCallsIn [(.valueResult element _ : Event V)] = [] from rfl,
          List.append_nil] at more
        exact more
      · rw [cursor_append]
        exact standing.cursor
    · cases answer with
      | false =>
        intro state holds
        obtain ⟨standing, events, element, answered⟩ := holds
        exact stopped _ events element (by rw [← answered]; exact fun same => nomatch same)
          (standing.assign rfl)
      | stop =>
        intro state holds
        obtain ⟨standing, events, element, answered⟩ := holds
        exact stopped _ events element (by rw [← answered]; exact fun same => nomatch same) standing
      | true => exact .pure fun _ holds => holds.1

/-- The state in which the end label is reached: the folds of some first trees were reported, of all
trees when the result callback always answers `TRUE`, and of one tree at least when there is one. -/
def Reported (semantics : Semantics V) (trees : List ParseTree)
    (resultCallback : List (Event V) → Option (Element V) → ValueBool) (start world : World V) :
    Prop :=
  ∃ count ≤ trees.length,
    Called start world ((trees.take count).flatMap semantics.ruleCalls)
      ((trees.take count).map semantics.fold) ∧
    (trees ≠ [] → 0 < count) ∧
    ((∀ events element, resultCallback events element = .true) → count = trees.length)

/-- The exit to the end label: the folds are reported and the value stack can be destroyed. -/
def AtEnd (semantics : Semantics V) (trees : List ParseTree)
    (resultCallback : List (Event V) → Option (Element V) → ValueBool) (start : World V)
    (state : VbState V) : Prop :=
  (∀ stack ∈ state.locals.genericStackp, stack.Kept) ∧
    Reported semantics trees resultCallback start state.world

/-- The iterator goes to the next tree, as long as there is one. -/
theorem askTreeNext_between (walks : phase.Walks valueOption trees) :
    Triple (Between start (begun, taken) calls results)
      (onWorld (ask phase.treeNext .treeNext))
      (fun treeNexti state => (0 ≤ treeNexti ↔ begun < trees.length) ∧
        Between start (begun + 1, 0) calls results state) leaving := by
  refine ask_returns fun locals world between => ⟨?_, between.noStack, ?_, ?_⟩
  · rw [walks.treeNext world.events, between.cursor]
  · exact between.called.quiet rfl rfl
  · rw [cursor_append, between.cursor]
    rfl

/-- One turn values the next tree. -/
theorem treeTurn_between (grants : libc.AlwaysGrants) (enough : 2 ^ 32 ≤ fuel)
    (walks : phase.Walks valueOption trees) (computes : valueOption.Computes semantics)
    {resultCallback : List (Event V) → Option (Element V) → ValueBool}
    (given : valueOption.valueResultCallbackp = some resultCallback)
    (copies : stackOption.Copies) (sized : stackOption.Sized)
    (known : ∀ tree ∈ trees, ∀ step ∈ tree.steps, wrapper.Knows step)
    (placed : ∀ tree ∈ trees, ∀ step ∈ tree.steps, step.NonNegative)
    (turns : ∀ tree ∈ trees, tree.steps.length < fuel) (left : Nat) :
    Triple
      (fun state => ∃ begun taken, begun + left = trees.length ∧
        Between start (begun, taken) ((trees.take begun).flatMap semantics.ruleCalls)
          ((trees.take begun).map semantics.fold) state)
      (treeTurn libc fuel phase wrapper valueOption stackOption ())
      (AfterTurn
        (fun _ state => ∃ less < left, ∃ begun taken, begun + less = trees.length ∧
          Between start (begun, taken) ((trees.take begun).flatMap semantics.ruleCalls)
            ((trees.take begun).map semantics.fold) state)
        fun _ => AtEnd semantics trees resultCallback start)
      (fun exit state => exit = .endLabel ∧
        AtEnd semantics trees resultCallback start state) := by
  rintro state ⟨begun, taken, counted, between⟩
  refine Triple.bind (askTreeNext_between walks) (fun treeNexti => ?_) state between
  by_cases more : begun < trees.length
  · obtain ⟨tree, current⟩ : ∃ tree, trees[begun]? = some tree :=
      ⟨_, List.getElem?_eq_getElem more⟩
    have member := List.mem_of_getElem? current
    have calls : (trees.take (begun + 1)).flatMap semantics.ruleCalls =
        (trees.take begun).flatMap semantics.ruleCalls ++ semantics.ruleCalls tree := by
      rw [List.take_add_one, current, List.flatMap_append]
      exact congrArg _ (List.flatMap_singleton _ _)
    have results : (trees.take (begun + 1)).map semantics.fold =
        (trees.take begun).map semantics.fold ++ [semantics.fold tree] := by
      rw [List.take_add_one, current, List.map_append]
      rfl
    refine .ite (fun negative state holds => absurd (holds.1.mpr more) (Int.not_le.mpr negative))
      fun _ => ?_
    refine .through (fun _ => Standing start (begun + 1, 0) []
        ((trees.take begun).flatMap semantics.ruleCalls) ((trees.take begun).map semantics.fold))
      (fun state holds => openValuator_standing grants enough walks copies sized state holds.2)
      fun _ => .bind (stepLoop_standing grants enough walks computes copies current
        (known tree member) (placed tree member) (turns tree member)) fun _ => ?_
    rintro state ⟨taken, standing⟩
    rw [← calls] at standing
    refine Triple.bind (reportResult_standing given ?_) (fun _ =>
      .bind (closeValuator_between enough) fun _ => .pure fun state between => ?_) state standing
    · rintro state events element refused standing
      refine ⟨rfl, ?_, begun + 1, more, ?_, fun _ => Nat.succ_pos _, fun always =>
        absurd (always events element) refused⟩
      · obtain ⟨stack, designated, held⟩ := standing.stack
        rw [designated]
        exact fun _ member => by cases member; exact held.kept
      · rw [results]
        exact standing.called
    · rw [← results] at between
      exact ⟨left - 1, by omega, begun + 1, taken, by omega, between⟩
  · refine .ite (fun _ => .pure fun state holds => ?_)
      fun positive state holds => absurd (holds.1.mp (Int.not_lt.mp positive)) more
    have all : begun = trees.length := by omega
    refine ⟨?_, begun, by omega, holds.2.called, fun someTree => ?_, fun _ => all⟩
    · rw [holds.2.noStack]
      exact fun _ member => nomatch member
    · rw [all]
      exact List.length_pos_of_ne_nil someTree

/-- The objects of libmarpa up to the tree iterator. -/
theorem openTree_between (walks : phase.Walks valueOption trees) :
    Triple (Between start position [] []) (openTree phase valueOption)
      (fun _ => Between start (0, 0) [] []) leaving := by
  refine .through (fun _ => Between start position [] [])
      (ask_returns fun locals world between => between.event rfl ⟨rfl, rfl, fun _ => rfl⟩) fun _ =>
    .through (fun _ => Between start position [] []) (acquireOrFail_returns walks.bocageNew
      fun locals world between => between.event rfl ⟨rfl, rfl, fun _ => rfl⟩) fun bocage =>
    .through (fun _ => Between start position [] [])
      (assign_triple fun locals world between => between.assign rfl) fun _ =>
    .through (fun _ => Between start position [] []) (acquireOrFail_returns walks.orderNew
      fun locals world between => between.event rfl ⟨rfl, rfl, fun _ => rfl⟩) fun order =>
    .through (fun _ => Between start position [] [])
      (assign_triple fun locals world between => between.assign rfl) fun _ => ?_
  refine .through (fun _ => Between start position [] []) (askOrFail_returns
      (fun _ events => decide_eq_false (not_not.mpr (walks.highRankOnlySet _ events)))
      (fun locals world value between => between.event rfl ⟨rfl, rfl, fun _ => rfl⟩)
      fun _ between => between) fun _ =>
    .through (fun _ => Between start position [] []) (askOrFail_returns
      (fun _ events => decide_eq_false (walks.rank events))
      (fun locals world value between => between.event rfl ⟨rfl, rfl, fun _ => rfl⟩)
      fun _ between => between) fun _ =>
    .through (fun _ => Between start position [] []) (askOrFail_returns
      (fun wanted events => decide_eq_false (Int.not_lt.mpr (walks.ambiguityMetric
        (by simpa using wanted) events)))
      (fun locals world value between => between.event rfl ⟨rfl, rfl, fun _ => rfl⟩)
      fun _ between => between) fun _ =>
    .through (fun _ => Between start position [] []) (askOrFail_returns
      (fun wanted events => decide_eq_false (Int.not_le.mpr (walks.isNull
        (by simpa using wanted) events)))
      (fun locals world value between => between.event rfl ⟨rfl, rfl, fun _ => rfl⟩)
      fun _ between => between) fun _ => ?_
  refine .through (fun _ => Between start (0, 0) [] []) (acquireOrFail_returns walks.treeNew
    fun locals world between => ⟨between.noStack, between.called.quiet rfl rfl, ?_⟩) fun tree =>
    assign_triple fun locals world between => between.assign rfl
  rw [cursor_append]
  rfl

theorem vbBody_atEnd (grants : libc.AlwaysGrants) (enough : 2 ^ 32 ≤ fuel)
    (walks : phase.Walks valueOption trees) (computes : valueOption.Computes semantics)
    {resultCallback : List (Event V) → Option (Element V) → ValueBool}
    (given : valueOption.valueResultCallbackp = some resultCallback)
    (copies : stackOption.Copies) (sized : stackOption.Sized)
    (recognizer : wrapper.marpaRecognizerp.isSome = true)
    (known : ∀ tree ∈ trees, ∀ step ∈ tree.steps, wrapper.Knows step)
    (placed : ∀ tree ∈ trees, ∀ step ∈ tree.steps, step.NonNegative)
    (turns : ∀ tree ∈ trees, tree.steps.length < fuel) (treeTurns : trees.length < fuel) :
    Triple (fun state => state = ⟨{}, start⟩)
      (vbBody libc fuel phase (some wrapper) (some valueOption) (some stackOption))
      (fun _ => AtEnd semantics trees resultCallback start)
      (fun exit state => exit = .endLabel ∧ AtEnd semantics trees resultCallback start state) := by
  rintro _ rfl
  have between : Between start (cursor start.events) [] [] (⟨{}, start⟩ : VbState V) :=
    ⟨rfl, .refl start, rfl⟩
  have present : wrapper.marpaRecognizerp.isNone = false := by
    rw [← Option.not_isSome, recognizer]
    rfl
  have body : Triple (Between start (cursor start.events) [] [])
      (vbBody libc fuel phase (some wrapper) (some valueOption) (some stackOption))
      (fun _ => AtEnd semantics trees resultCallback start)
      (fun exit state => exit = .endLabel ∧
        AtEnd semantics trees resultCallback start state) := by
    refine .through (fun _ => Between start (cursor start.events) [] []) ?_ fun _ =>
      .bind (openTree_between walks) fun _ => ?_
    · rw [present]
      exact .pure fun _ between => between
    · refine Triple.consequence (Triple.loop_ends _ (fun left _ => treeTurn_between grants enough
        walks computes given copies sized known placed turns left) trees.length treeTurns ())
        (fun state between => ?_) (fun _ _ holds => holds) fun _ _ left => left
      exact ⟨0, 0, Nat.zero_add _, between⟩
  exact body _ between

theorem freeOutput_called (valueOutputp : Slot (Element V)) (called : Called start world calls results) :
    ∃ world', freeOutput valueOutputp world = .ok () world' ∧ Called start world' calls results := by
  cases valueOutputp with
  | indeterminate => exact ⟨_, rfl, called.quiet rfl rfl⟩
  | null => exact ⟨_, rfl, called⟩
  | pointer output => exact ⟨_, rfl, called.quiet rfl rfl⟩

theorem freeIfNotNull_called (address : Option Nat) (called : Called start world calls results) :
    ∃ world', freeIfNotNull address world = .ok () world' ∧ Called start world' calls results := by
  cases address with
  | none => exact ⟨_, rfl, called⟩
  | some address => exact ⟨_, rfl, called.quiet rfl rfl⟩

theorem unrefIfNotNull_called (event : Nat → Event V) (handle : Option Nat)
    (noCall : ∀ handle, ruleCallsIn [event handle] = [])
    (noResult : ∀ handle, resultsIn [event handle] = [])
    (called : Called start world calls results) :
    ∃ world', unrefIfNotNull event handle world = .ok () world' ∧
      Called start world' calls results := by
  cases handle with
  | none => exact ⟨_, rfl, called⟩
  | some handle => exact ⟨_, rfl, called.quiet (noCall handle) (noResult handle)⟩

theorem destroyIfNotNull_called (enough : 2 ^ 32 ≤ fuel) {genericStackp : Option (GenericStack V)}
    (kept : ∀ stack ∈ genericStackp, stack.Kept) (called : Called start world calls results) :
    ∃ world', destroyIfNotNull fuel genericStackp world = .ok () world' ∧
      Called start world' calls results := by
  cases genericStackp with
  | none => exact ⟨_, rfl, called⟩
  | some stack =>
    obtain ⟨world', run, exchanged⟩ := genericStackDestroyv_run enough (kept stack rfl).sound
      (kept stack rfl).callable world
    obtain ⟨exchanges, appended, ofStack, -, -⟩ := exchanged.events
    exact ⟨world', run, (called.aside appended fun event member =>
      Event.aside_ofStack (ofStack event member)).1⟩

/-- The end label returns and calls neither callback. -/
theorem vbEndLabel_called (enough : 2 ^ 32 ≤ fuel)
    (kept : ∀ stack ∈ locals.genericStackp, stack.Kept)
    (called : Called start world calls results) :
    ∃ value final, vbEndLabel fuel locals world = .ok value final ∧
      Called start final calls results := by
  obtain ⟨_, run₁, called⟩ := freeOutput_called locals.valueOutputp called
  obtain ⟨_, run₂, called⟩ := freeIfNotNull_called locals.valueInputArraypp called
  obtain ⟨_, run₃, called⟩ := destroyIfNotNull_called enough kept called
  obtain ⟨_, run₄, called⟩ := unrefIfNotNull_called .valueUnref locals.marpaValuep
    (fun _ => rfl) (fun _ => rfl) called
  obtain ⟨_, run₅, called⟩ := unrefIfNotNull_called .treeUnref locals.marpaTreep
    (fun _ => rfl) (fun _ => rfl) called
  obtain ⟨_, run₆, called⟩ := unrefIfNotNull_called .orderUnref locals.marpaOrderp
    (fun _ => rfl) (fun _ => rfl) called
  obtain ⟨_, run₇, called⟩ := unrefIfNotNull_called .bocageUnref locals.marpaBocagep
    (fun _ => rfl) (fun _ => rfl) called
  refine ⟨locals.rcb, _, ?_, called⟩
  rw [vbEndLabel, run_bind_ok run₁, run_bind_ok run₂, run_bind_ok run₃, run_bind_ok run₄,
    run_bind_ok run₅, run_bind_ok run₆, run_bind_ok run₇]
  rfl

/-- The value phase folds the parse trees. Up to the first answer of the result callback that is not
`TRUE`, the rule callback is called for every rule with the values of its children, and the
result callback is called for every tree with its fold. -/
theorem marpaWrapperVb_folds_trees (grants : libc.AlwaysGrants) (enough : 2 ^ 32 ≤ fuel)
    (walks : phase.Walks valueOption trees) (computes : valueOption.Computes semantics)
    {resultCallback : List (Event V) → Option (Element V) → ValueBool}
    (given : valueOption.valueResultCallbackp = some resultCallback)
    (copies : stackOption.Copies) (sized : stackOption.Sized)
    (recognizer : wrapper.marpaRecognizerp.isSome = true)
    (known : ∀ tree ∈ trees, ∀ step ∈ tree.steps, wrapper.Knows step)
    (placed : ∀ tree ∈ trees, ∀ step ∈ tree.steps, step.NonNegative)
    (turns : ∀ tree ∈ trees, tree.steps.length < fuel) (treeTurns : trees.length < fuel)
    (start : World V) :
    ∃ result final exchanges count,
      marpaWrapperVb libc fuel phase (some wrapper) (some valueOption) (some stackOption) start =
        .ok result final ∧
      final.events = start.events ++ exchanges ∧ count ≤ trees.length ∧
      ruleCallsIn exchanges = (trees.take count).flatMap semantics.ruleCalls ∧
      resultsIn exchanges = (trees.take count).map semantics.fold ∧
      (trees ≠ [] → 0 < count) ∧
      ((∀ events element, resultCallback events element = .true) → count = trees.length) := by
  obtain ⟨result, final, run, count, below, called, some, all⟩ := marpaWrapperVb_returns
    (fun _ world => Reported semantics trees resultCallback start world)
    (vbBody_atEnd grants enough walks computes given copies sized recognizer known placed turns
      treeTurns)
    (fun locals between atEnd => by
      obtain ⟨kept, count, below, called, some, all⟩ := atEnd
      obtain ⟨value, final, run, called⟩ := vbEndLabel_called enough kept called
      exact ⟨value, final, run, count, below, called, some, all⟩)
  obtain ⟨exchanges, record, calls, results⟩ := called.record
  exact ⟨result, final, exchanges, count, run, record, below, calls, results, some, all⟩

end Calls

end Steps

/-! ### The sum of a tree -/

/-- What the callbacks of the sum compute. -/
def sumSemantics : Semantics Int where
  rule _ values := some (values.filterMap id).sum
  symbol _ value := some value
  nulling _ := none

theorem sumOption_computes : sumOption.Computes sumSemantics := ⟨rfl, rfl, rfl⟩

theorem sumStackOption_copies : sumStackOption.Copies :=
  ⟨⟨_, rfl, fun _ _ => rfl⟩, ⟨_, rfl, fun _ _ => rfl⟩⟩

theorem sumTree_steps : ∀ tree ∈ [sumTree], ∀ step ∈ tree.steps,
    step = .token 0 7 0 ∨ step = .nullingSymbol 0 1 ∨ step = .rule 0 0 1 0 := by
  intro tree member step among
  obtain rfl := List.mem_singleton.mp member
  have steps : sumTree.steps = [.token 0 7 0, .nullingSymbol 0 1, .rule 0 0 1 0] := rfl
  simpa [steps] using among

theorem sumWrapper_knows : ∀ tree ∈ [sumTree], ∀ step ∈ tree.steps, sumWrapper.Knows step := by
  intro tree member step among
  rcases sumTree_steps tree member step among with rfl | rfl | rfl
  all_goals exact ⟨Int.le_refl 0, _, _, rfl, rfl, rfl⟩

theorem marpaWrapperVb_folds_trees_sum : ∃ result final exchanges,
    marpaWrapperVb Libc.generous (2 ^ 32) (.walking [sumTree]) (some sumWrapper) (some sumOption)
      (some sumStackOption) {} = .ok result final ∧
    final.events = [] ++ exchanges ∧
    ruleCallsIn exchanges = [(some 0, [some 7, none])] ∧ resultsIn exchanges = [some 7] := by
  obtain ⟨result, final, exchanges, count, run, record, -, calls, results, -, all⟩ :=
    marpaWrapperVb_folds_trees Libc.generous_alwaysGrants (Nat.le_refl _)
      (ValuePhase.walking_walks sumOption [sumTree]) sumOption_computes rfl
      sumStackOption_copies ⟨by decide, by decide⟩ rfl sumWrapper_knows sumTree_nonNegative (by decide)
      (by decide) {}
  obtain rfl : count = 1 := all fun _ _ => rfl
  exact ⟨result, final, exchanges, run, record, calls, results⟩

end MarpaWrapper
