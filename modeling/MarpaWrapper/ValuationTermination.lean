/-
This file asks whether `marpaWrapper_vb` comes to an end. Its two loops are left
by libmarpa's answers only: the loop over the trees when `marpa_t_next` answers
below zero, the loop over the steps when `marpa_v_step` answers
`MARPA_STEP_INACTIVE`. A valuator that fails answers `-2` from then on, and the
loop over the steps goes on for every answer that it has no case for.

Where libmarpa offers finitely many trees, and every valuator becomes inactive or
fails, the function ends if and only if no valuator fails. Both loops count what
they have seen in the record, and the loops of the value stack end because no
index reaches `2 ^ 31`.
-/

import MarpaWrapper.ValuationFold
import MarpaWrapper.ValuationFailures

namespace MarpaWrapper

open Effects

variable {V α : Type}

/-! ### Trees and steps in a record -/

/-- The number of trees that `marpa_t_next` offered. -/
def treesIn (events : List (Event V)) : Nat :=
  events.countP fun
    | .treeNext answer => decide (0 ≤ answer)
    | _ => false

/-- The answers of the current valuator after one more exchange. -/
def valuatorSteps (steps : List MarpaStep) : Event V → List MarpaStep
  | .valueNew _ => []
  | .step step => steps ++ [step]
  | _ => steps

/-- The answers of the last valuator that was created. -/
def stepsOfValuator (events : List (Event V)) : List MarpaStep :=
  events.foldl valuatorSteps []

/-- No valuator failed. -/
def Unfailed (exchanges : List (Event V)) : Prop := .step (.other (-2)) ∉ exchanges

/-- The last valuator failed. -/
def Failing (exchanges : List (Event V)) : Prop :=
  (stepsOfValuator exchanges).getLast? = some (.other (-2))

/-- More trees than a loop of `fuel` turns goes through, or a valuator with more steps that neither
became inactive nor failed. -/
def Overlong (fuel : Nat) (exchanges : List (Event V)) : Prop :=
  fuel ≤ treesIn exchanges ∨
    ∃ before, before <+: exchanges ∧ fuel ≤ (stepsOfValuator before).length ∧
      .inactive ∉ stepsOfValuator before ∧ .other (-2) ∉ stepsOfValuator before

/-- Finitely many trees are offered, and after finitely many steps every valuator is inactive or
has failed. -/
structure Settles (trees steps : Nat) (exchanges : List (Event V)) : Prop where
  trees : treesIn exchanges ≤ trees
  valuators : ∀ before, before <+: exchanges → steps ≤ (stepsOfValuator before).length →
    .inactive ∈ stepsOfValuator before ∨ .other (-2) ∈ stepsOfValuator before

/-- A valuator that failed fails again. -/
def ValuePhase.KeepsFailing (phase : ValuePhase V) (start : World V) : Prop :=
  ∀ exchanges, Failing exchanges → phase.step (start.events ++ exchanges) = .other (-2)

/-- The indices of a step are those of a stack: the inputs lie side by side, and none of them or of
the results reaches `2 ^ 31`. A rule may have no inputs. -/
def MarpaStep.InRange : MarpaStep → Prop
  | .rule _ argFirst argLast argResult => (0 ≤ argFirst ∧ argFirst ≤ argLast + 1 ∧ argLast < 2 ^ 31) ∧
      0 ≤ argResult ∧ argResult < 2 ^ 31
  | .token _ _ argResult => 0 ≤ argResult ∧ argResult < 2 ^ 31
  | .nullingSymbol _ argResult => 0 ≤ argResult ∧ argResult < 2 ^ 31
  | _ => True

/-- An exchange that offers no tree, and neither creates a valuator nor asks one for a step. -/
def Event.quiet : Event V → Bool
  | .treeNext _ | .valueNew _ | .step _ => false
  | _ => true

/-- The same, as a kind of exchanges. -/
abbrev Event.Quiet (event : Event V) : Prop := event.quiet = true

section Record

variable {exchanges : List (Event V)} {event : Event V}

theorem treesIn_append (first second : List (Event V)) :
    treesIn (first ++ second) = treesIn first + treesIn second :=
  List.countP_append

theorem stepsOfValuator_snoc (exchanges : List (Event V)) (event : Event V) :
    stepsOfValuator (exchanges ++ [event]) = valuatorSteps (stepsOfValuator exchanges) event := by
  rw [stepsOfValuator, List.foldl_append]
  rfl

/-- The steps of the last valuator are in the record. -/
theorem mem_of_stepsOfValuator {step : MarpaStep} (member : step ∈ stepsOfValuator exchanges) :
    .step step ∈ exchanges := by
  induction exchanges using List.reverseRecOn with
  | nil => exact absurd member List.not_mem_nil
  | append_singleton before event inductionHypothesis =>
    rw [stepsOfValuator_snoc] at member
    cases event with
    | valueNew handle => exact absurd member List.not_mem_nil
    | step answer =>
      rcases List.mem_append.mp member with old | new
      · exact List.mem_append_left _ (inductionHypothesis old)
      · rw [List.mem_singleton.mp new]
        exact List.mem_append_right _ (List.mem_singleton_self _)
    | _ => exact List.mem_append_left _ (inductionHypothesis member)

theorem Failing.failed (failing : Failing exchanges) : .step (.other (-2)) ∈ exchanges :=
  mem_of_stepsOfValuator (List.mem_of_getLast? failing)

/-- A failed valuator that fails again is a failed valuator. -/
theorem Failing.again (exchanges : List (Event V)) :
    Failing (exchanges ++ [.step (.other (-2))]) := by
  rw [Failing, stepsOfValuator_snoc]
  exact List.getLast?_concat

theorem Unfailed.snoc (unfailed : Unfailed exchanges) (other : event ≠ .step (.other (-2))) :
    Unfailed (exchanges ++ [event]) := by
  intro member
  rcases List.mem_append.mp member with old | new
  · exact unfailed old
  · exact other (List.mem_singleton.mp new).symm

/-- Where everything settles, a loop with more fuel does not stop for want of it. -/
theorem Settles.not_overlong {trees steps fuel : Nat} (settles : Settles trees steps exchanges)
    (moreTrees : trees < fuel) (moreSteps : steps ≤ fuel) : ¬ Overlong fuel exchanges := by
  rintro (many | ⟨before, isPrefix, long, active, unfailed⟩)
  · exact absurd settles.trees (Nat.not_le.mpr (Nat.lt_of_lt_of_le moreTrees many))
  · exact (settles.valuators before isPrefix (Nat.le_trans moreSteps long)).elim active unfailed

end Record

/-! ### The value stack, whatever callbacks the user gave -/

/-- The value stack as far as the user's callbacks do not matter: it is sound, it grows on reads and
writes, and no call of its callbacks wants for fuel. -/
structure GenericStack.Growing (stack : GenericStack V) : Prop where
  sound : stack.Sound
  free : ∀ callback ∈ stack.freeCallbackp, ∀ events element,
    callback events element ≠ .error .exhausted
  copy : ∀ callback ∈ stack.copyCallbackp, ∀ events element,
    callback events element ≠ .error .exhausted
  growsOnGet : stack.optionGrowOnGeti = true
  growsOnSet : stack.optionGrowOnSeti = true

/-- The stack that the body keeps has callbacks that return. -/
theorem GenericStack.Kept.growing {stack : GenericStack V} (kept : stack.Kept) : stack.Growing where
  sound := kept.sound
  free callback member events element := by
    obtain ⟨errnum, answer⟩ := kept.callable.free callback member events element
    rw [answer]
    exact nofun
  copy callback member events element := by
    obtain ⟨errnum, value, answer⟩ := kept.callable.copy callback member events element
    rw [answer]
    exact nofun
  growsOnGet := kept.growsOnGet
  growsOnSet := kept.growsOnSet

/-- A new value stack calls the user's callbacks, which may be missing. -/
theorem GenericStack.Fresh.growing {stack : GenericStack V}
    {stackOption : MarpaWrapperStackOption V}
    (fresh : stack.Fresh (some (marpaWrapperGenericStackOption stackOption))) : stack.Growing where
  sound := fresh.sound
  free callback member events element := by
    rw [fresh.freeCallbackp] at member
    cases member
    unfold marpaWrapperStackFreeCallback
    cases stackOption.stackElementFreeCallbackp <;> exact nofun
  copy callback member events element := by
    rw [fresh.copyCallbackp] at member
    cases member
    unfold marpaWrapperStackCopyCallback
    cases stackOption.stackElementCopyCallbackp <;> exact nofun
  growsOnGet := by
    rw [fresh.optionGrowOnGeti]
    exact genericStackOptionGrowDefault_both.1
  growsOnSet := by
    rw [fresh.optionGrowOnSeti]
    exact genericStackOptionGrowDefault_both.2

/-- A computation that does not run out of fuel; what it returns meets `fact`. -/
def Ending (fact : α → Prop) (program : Exec V α) : Prop :=
  Triple (fun _ => True) program (fun value _ => fact value) fun fault _ => fault ≠ .exhausted

section Ending

variable {β : Type} {fact : α → Prop} {libc : Libc V} {fuel : Nat} {stack : GenericStack V}

theorem Ending.pure {value : α} (known : fact value) : Ending (V := V) fact (pure value) :=
  Triple.pure fun _ _ => known

theorem Ending.bind {known : β → Prop} {first : Exec V β} {rest : β → Exec V α}
    (head : Ending known first) (tail : ∀ value, known value → Ending fact (rest value)) :
    Ending fact (first >>= rest) :=
  Triple.bind head fun value state holds => tail value holds state trivial

/-- What the first computation returns does not matter. -/
theorem Ending.seq {first : Exec V β} {rest : β → Exec V α} (head : Ending (fun _ => True) first)
    (tail : ∀ value, Ending fact (rest value)) : Ending fact (first >>= rest) :=
  head.bind fun value _ => tail value

theorem Ending.ite {condition : Prop} [Decidable condition] {program other : Exec V α}
    (positive : condition → Ending fact program) (negative : ¬ condition → Ending fact other) :
    Ending fact (if condition then program else other) :=
  Triple.ite positive negative

theorem Ending.emit (event : Event V) : Ending (fun _ => True) (emit event) :=
  fun _ _ => trivial

theorem reportFailure_ending (failureCallbackp : Bool) (errorType : GenericStackError)
    (errorNumber : Int) :
    Ending (V := V) (fun _ => True) (reportFailure failureCallbackp errorType errorNumber) :=
  .ite (fun _ => .emit _) fun _ => .pure trivial

theorem reportCallbackError_ending (failureCallbackp : Bool) (errnum : Int) :
    Ending (V := V) (fun _ => True) (reportCallbackError failureCallbackp errnum) :=
  .ite (fun _ => reportFailure_ending _ _ _) fun _ => .pure trivial

theorem writeCell_ending {cells : List (Slot (Element V))} {index : Nat}
    (inside : index < cells.length) (content : Slot (Element V)) :
    Ending (V := V) (· = cells.set index content) (writeCell cells index content) := by
  intro world _
  rw [writeCell_run inside]

/-- A missing free callback stops the program, but not for want of fuel. -/
theorem releaseElement_ending (growing : stack.Growing) (element : Element V) :
    Ending (fun _ => True) (releaseElement stack element) := by
  refine .seq ?_ fun _ => .emit _
  unfold handToFreeCallback
  cases given : stack.freeCallbackp with
  | none => exact .pure trivial
  | some callback =>
    refine .seq (fun world _ => ?_) fun _ => reportCallbackError_ending _ _
    unfold callFreeCallback
    have ends := growing.free callback given world.events element
    cases answer : callback world.events element with
    | ok errnum => trivial
    | error fault => exact fun same => ends (by rw [answer, same])

/-- A cell is cleared, and the others are left alone. -/
theorem clearCell_ending (growing : stack.Growing) {cells : List (Slot (Element V))} {index : Nat}
    (inside : index < cells.length) (written : cells[index]? ≠ some .indeterminate) :
    Ending (fun cells' => cells'.length = cells.length ∧ cells'[index]? = some .null ∧
        ∀ other, other ≠ index → cells'[other]? = cells[other]?)
      (clearCell stack cells index) := by
  intro world holds
  unfold clearCell
  rw [run_bind_ok (readCell_target inside written)]
  cases content : cells[index]?.bind Slot.target? with
  | none => exact ⟨rfl, cell_null inside written content, fun _ _ => rfl⟩
  | some element =>
    have cleared : Ending (fun cells' => cells'.length = cells.length ∧
        cells'[index]? = some .null ∧ ∀ other, other ≠ index → cells'[other]? = cells[other]?)
        (do releaseElement stack element; writeCell cells index .null) := by
      refine .seq (releaseElement_ending growing element) fun _ => ?_
      refine Triple.consequence (writeCell_ending inside .null) (fun _ known => known) ?_
        fun _ _ other => other
      rintro _ _ rfl
      exact ⟨List.length_set, List.getElem?_set_self inside, fun other different =>
        List.getElem?_set_ne different.symm⟩
    exact cleared world holds

/-- So does a missing copy callback, and a source that was released. -/
theorem copyElement_ending (growing : stack.Growing) (freed : Option (Element V))
    (source : Element V) : Ending (fun _ => True) (copyElement libc stack freed source) := by
  have asked : Ending (fun _ => True) (malloc libc stack.elementSizei) := by
    intro world _
    obtain ⟨answer, world', run⟩ := acquire_returns world
    rw [malloc, run]
    trivial
  refine .seq asked fun granted => ?_
  cases granted with
  | none => exact .seq (reportFailure_ending _ _ _) fun _ => .pure trivial
  | some address =>
    refine .ite (fun _ => Triple.throw fun _ _ => by decide) fun _ => ?_
    cases given : stack.copyCallbackp with
    | none => exact .pure trivial
    | some callback =>
      refine .seq (fun world _ => ?_) fun _ =>
        .seq (reportCallbackError_ending _ _) fun _ => .pure trivial
      unfold callCopyCallback
      have ends := growing.copy callback given world.events source
      cases answer : callback world.events source with
      | ok reply => trivial
      | error fault => exact fun same => ends (by rw [answer, same])

/-- Another content in one cell. -/
theorem GenericStack.Growing.cells (growing : stack.Growing) {cells : List (Slot (Element V))}
    {index size : Nat} {content : Slot (Element V)} (length : cells.length = stack.bufpp.length)
    (here : cells[index]? = some content)
    (elsewhere : ∀ other, other ≠ index → cells[other]? = stack.bufpp[other]?)
    (written : content ≠ .indeterminate) (below : index < stack.allocSizei)
    (used : size ≤ stack.allocSizei) :
    ({ stack with bufpp := cells, stackSizei := size } : GenericStack V).Growing :=
  ⟨(growing.sound.became_of_cells length here elsewhere written below used).sound, growing.free,
    growing.copy, growing.growsOnGet, growing.growsOnSet⟩

/-- The same settings. -/
theorem GenericStack.Growing.became (growing : stack.Growing) {stack' : GenericStack V}
    {size : Nat} {entries : Nat → Option (Element V)} (became : stack.Became stack' size entries) :
    stack'.Growing :=
  ⟨became.sound, by rw [became.settings.freeCallbackp]; exact growing.free,
    by rw [became.settings.copyCallbackp]; exact growing.copy,
    became.settings.optionGrowOnGeti.trans growing.growsOnGet,
    became.settings.optionGrowOnSeti.trans growing.growsOnSet⟩

/-- `getp` calls no callback. -/
theorem genericStackGetp_growing (grants : libc.AlwaysGrants) (enough : 2 ^ 32 ≤ fuel)
    (growing : stack.Growing) {index : Nat} (narrow : index < 2 ^ 31) (world : World V) :
    ∃ value stack' world', genericStackGetp libc fuel stack index world = .ok (value, stack') world' ∧
      stack'.Growing := by
  by_cases below : index < stack.allocSizei
  · exact ⟨_, _, _, genericStackGetp_run growing.sound below (.inr growing.growsOnGet) world, growing⟩
  · obtain ⟨stack', world', run, grown, -⟩ := genericStackGetp_grows grants enough growing.sound
      narrow (Nat.not_lt.mp below) growing.growsOnGet world
    exact ⟨_, _, _, run, growing.became grown.became⟩

/-- The growth of `seti` reaches the index. -/
theorem growTo_ending (grants : libc.AlwaysGrants) (enough : 2 ^ 32 ≤ fuel) (growing : stack.Growing)
    {index : Nat} (narrow : index < 2 ^ 31) :
    Ending (fun grown : GenericStack V => grown.Growing ∧ index < grown.allocSizei)
      (growTo libc fuel stack.optionGrowOnSeti stack index) := by
  intro world _
  obtain ⟨grown, between, size, run, became, below, -, -, -⟩ :=
    growTo_reaches grants enough growing.sound narrow (.inr growing.growsOnSet) world
  rw [run]
  exact ⟨growing.became became, below⟩

/-- `seti` of any element, also of the one that its cell holds. -/
theorem genericStackSeti_ending (grants : libc.AlwaysGrants) (enough : 2 ^ 32 ≤ fuel)
    (growing : stack.Growing) {index : Nat} (narrow : index < 2 ^ 31)
    (elementp : Option (Element V)) :
    Ending (fun answer => answer.2.Growing) (genericStackSeti libc fuel stack index elementp) := by
  refine .bind (growTo_ending grants enough growing narrow) fun grown reached => ?_
  obtain ⟨growing', below⟩ := reached
  have room := Nat.lt_of_lt_of_le below growing'.sound.room
  have used : max grown.stackSizei ((index + 1) % uintModulus) ≤ grown.allocSizei :=
    Nat.max_le.mpr ⟨growing'.sound.used, Nat.le_trans (Nat.mod_le _ _) below⟩
  refine .ite (fun _ => .seq (reportFailure_ending _ _ _) fun _ => .pure growing') fun _ =>
    .bind (clearCell_ending growing' room (growing'.sound.written index below)) fun cells cleared => ?_
  obtain ⟨length, here, elsewhere⟩ := cleared
  cases elementp with
  | none => exact .pure (growing'.cells length here elsewhere (by simp) below used)
  | some element =>
    have emptied : ({ grown with bufpp := cells } : GenericStack V).Growing :=
      growing'.cells length here elsewhere (by simp) below growing'.sound.used
    refine .seq (copyElement_ending emptied _ element) fun copied => ?_
    cases copied with
    | none => exact .pure emptied
    | some newElement =>
      have inside : index < cells.length := by rwa [length]
      refine .bind (writeCell_ending inside _) fun bufpp stored => .seq (.emit _) fun _ =>
        .pure ?_
      subst stored
      refine growing'.cells (List.length_set.trans length) (List.getElem?_set_self inside)
        (fun other different => ?_) (by simp) below used
      rw [List.getElem?_set_ne different.symm, elsewhere other different]

/-- `destroyv` visits the cells, of which there are at most `2 ^ 31`. -/
theorem genericStackDestroyv_ending (enough : 2 ^ 32 ≤ fuel) (growing : stack.Growing) :
    Ending (fun _ => True) (genericStackDestroyv fuel stack) := by
  have bounded := growing.sound.bounded
  refine .seq (fun world _ => ?_) fun _ => .seq (.emit _) fun _ => .emit _
  refine Triple.loop_ends (fun left frame _ => frame.1 + left = stack.allocSizei ∧
    ({ stack with bufpp := frame.2 } : GenericStack V).Growing) (fun left frame => ?_)
    stack.allocSizei (by omega) (0, stack.bufpp) world ⟨Nat.zero_add _, growing⟩
  rintro world ⟨counting, growing'⟩
  have turn : Ending (fun outcome => ∀ state : World V, AfterTurn (fun following _ => ∃ less < left,
        following.1 + less = stack.allocSizei ∧
          ({ stack with bufpp := following.2 } : GenericStack V).Growing) (fun _ _ => True) outcome
        state) (destroyTurn stack frame) := by
    refine .ite (fun more => ?_) fun _ => .pure fun _ => trivial
    have room : frame.1 < frame.2.length := Nat.lt_of_lt_of_le more growing'.sound.room
    refine .bind (clearCell_ending growing room (growing'.sound.written frame.1 more))
      fun cells cleared => .pure fun _ => ⟨left - 1, by omega, ?_, ?_⟩
    · show (frame.1 + 1) % uintModulus + (left - 1) = stack.allocSizei
      rw [Nat.mod_eq_of_lt (by simp only [uintModulus]; omega)]
      omega
    · exact growing'.cells cleared.1 cleared.2.1 cleared.2.2 (by simp) more growing'.sound.used
  have outcome := turn world trivial
  cases run : destroyTurn stack frame world with
  | ok value world' => rw [run] at outcome; exact outcome world'
  | error fault world' => rw [run] at outcome; exact outcome

end Ending

/-! ### The invariant -/

/-- A condition on the record that no quiet exchange changes, and that no failure meets. -/
structure Stable (holds : List (Event V) → Prop) : Prop where
  quiet : ∀ exchanges event, event.Quiet → holds exchanges → holds (exchanges ++ [event])
  unfailed : ∀ exchanges, holds exchanges → Unfailed exchanges

/-- Between the trees: `count` of them were offered. -/
structure AtTree (count : Nat) (exchanges : List (Event V)) : Prop where
  unfailed : Unfailed exchanges
  trees : treesIn exchanges = count

/-- Between the steps of a valuator: it made `count` of them, and is still active. -/
structure AtStep (trees count : Nat) (exchanges : List (Event V)) : Prop where
  tree : AtTree trees exchanges
  active : .inactive ∉ stepsOfValuator exchanges
  steps : (stepsOfValuator exchanges).length = count

/-- Since `start` the exchanges meet a condition. -/
def Recorded (start : World V) (holds : List (Event V) → Prop) (world : World V) : Prop :=
  ∃ exchanges, world.events = start.events ++ exchanges ∧ holds exchanges

/-- The elements in the cells of the value stack and the output that the local designates are
different blocks. -/
structure Distinct (state : VbState V) : Prop where
  cells : ∀ stack ∈ state.locals.genericStackp, stack.HoldsApart state.world
  output : ∀ stack ∈ state.locals.genericStackp, ∀ index,
    Apart (stack.entry index) state.locals.valueOutputp.target?
  older : ∀ output ∈ state.locals.valueOutputp.target?, output.address < state.world.nextAddress

/-- The value stack, when there is one, grows, and the exchanges meet a condition. If `sure`, the
stack is as the body keeps it, and no block is used twice. -/
structure Underway (start : World V) (sure : Prop) (holds : List (Event V) → Prop)
    (state : VbState V) : Prop where
  stack : ∀ stack ∈ state.locals.genericStackp, stack.Growing
  kept : sure → ∀ stack ∈ state.locals.genericStackp, stack.Kept
  distinct : sure → Distinct state
  record : Recorded start holds state.world

/-- What holds at a fault: a loop runs out of fuel only with a valuator that failed or that outlasts
the fuel, and there is no other fault if `sure`. -/
def Ends (start : World V) (fuel : Nat) (sure : Prop) : Fault → World V → Prop
  | .exhausted, world => Recorded start
      (fun exchanges => .step (.other (-2)) ∈ exchanges ∨ Overlong fuel exchanges) world
  | _, world => ¬ sure ∧ Recorded start Unfailed world

/-- What holds when the body is left. -/
def Leaves (start : World V) (fuel : Nat) (sure : Prop) : VbExit → VbState V → Prop
  | .endLabel, state => Underway start sure Unfailed state
  | .fault fault, state => Ends start fuel sure fault state.world

/-- A part of the body that keeps the invariant. -/
abbrev StaysUnderway (start : World V) (fuel : Nat) (sure : Prop) (holds : List (Event V) → Prop)
    (program : Vb V α) : Prop :=
  Triple (Underway start sure holds) program (fun _ => Underway start sure holds) (Leaves start fuel sure)

theorem Unfailed.stable : Stable (V := V) Unfailed where
  quiet exchanges event quiet unfailed := unfailed.snoc fun same => by subst same; cases quiet
  unfailed _ unfailed := unfailed

theorem AtTree.stable (count : Nat) : Stable (V := V) (AtTree count) where
  quiet exchanges event quiet atTree := by
    refine ⟨Unfailed.stable.quiet _ _ quiet atTree.unfailed, ?_⟩
    have none : treesIn [event] = 0 := by cases event <;> first | rfl | cases quiet
    rw [treesIn_append, none, atTree.trees]
    rfl
  unfailed _ atTree := atTree.unfailed

theorem AtStep.stable (trees count : Nat) : Stable (V := V) (AtStep trees count) where
  quiet exchanges event quiet atStep := by
    have same : stepsOfValuator (exchanges ++ [event]) = stepsOfValuator exchanges := by
      rw [stepsOfValuator_snoc]
      cases event <;> first | rfl | cases quiet
    exact ⟨(AtTree.stable trees).quiet _ _ quiet atStep.tree, by rw [same]; exact atStep.active,
      by rw [same]; exact atStep.steps⟩
  unfailed _ atStep := atStep.tree.unfailed

section Underway

variable {start : World V} {fuel : Nat} {sure : Prop} {holds wide : List (Event V) → Prop}
  {locals locals' : VbLocals V} {world world' : World V} {event : Event V}

theorem Recorded.grown (recorded : Recorded start holds world) (stable : Stable holds)
    (grown : Grown Event.Quiet world world') : Recorded start holds world' := by
  obtain ⟨before, record, held⟩ := recorded
  obtain ⟨exchanges, appended, quiet⟩ := grown.record
  refine ⟨before ++ exchanges, by rw [appended, record, List.append_assoc], ?_⟩
  clear appended grown record
  induction exchanges using List.reverseRecOn with
  | nil => rwa [List.append_nil]
  | append_singleton exchanges event inductionHypothesis =>
    rw [← List.append_assoc]
    exact stable.quiet _ _ (quiet event (List.mem_append_right _ (List.mem_singleton_self _)))
      (inductionHypothesis fun other member => quiet other (List.mem_append_left _ member))

theorem Recorded.weaken (recorded : Recorded start holds world)
    (wider : ∀ exchanges, holds exchanges → wide exchanges) : Recorded start wide world :=
  let ⟨exchanges, record, held⟩ := recorded
  ⟨exchanges, record, wider exchanges held⟩

/-- One exchange. -/
theorem Recorded.exchange (recorded : Recorded start holds world)
    (step : ∀ exchanges, holds exchanges → wide (exchanges ++ [event])) {address : Nat} :
    Recorded start wide
      { world with events := world.events ++ [event], nextAddress := address } := by
  obtain ⟨before, record, held⟩ := recorded
  exact ⟨before ++ [event], by rw [record, List.append_assoc], step before held⟩

theorem Distinct.later (distinct : Distinct ⟨locals, world⟩)
    (later : world.nextAddress ≤ world'.nextAddress) : Distinct ⟨locals, world'⟩ :=
  ⟨fun stack member => (distinct.cells stack member).later later, distinct.output,
    fun output member => Nat.lt_of_lt_of_le (distinct.older output member) later⟩

/-- Other locals are assigned, or the output is forgotten. -/
theorem Distinct.assign (distinct : Distinct ⟨locals, world⟩)
    (same : locals'.genericStackp = locals.genericStackp)
    (fewer : ∀ output ∈ locals'.valueOutputp.target?, output ∈ locals.valueOutputp.target?) :
    Distinct ⟨locals', world⟩ := by
  refine ⟨?_, ?_, fun output member => distinct.older output (fewer output member)⟩
  · rw [same]
    exact distinct.cells
  · rw [same]
    exact fun stack member index held found output designated =>
      distinct.output stack member index held found output (fewer output designated)

/-- Another stack, whose cells are empty, takes the place of the stack. -/
theorem Distinct.replace (distinct : Distinct ⟨locals, world⟩)
    (empty : ∀ stack ∈ locals'.genericStackp, ∀ index, stack.entry index = none)
    (same : locals'.valueOutputp = locals.valueOutputp) : Distinct ⟨locals', world⟩ := by
  refine ⟨fun stack member => ⟨fun first _ _ _ found => ?_, fun index _ found => ?_⟩,
    fun stack member index _ found => ?_, fun output designated => distinct.older output ?_⟩
  · cases (empty stack member first).symm.trans found
  · cases (empty stack member index).symm.trans found
  · cases (empty stack member index).symm.trans found
  · rwa [← same]

/-- A call of a stack function: one cell at most comes to hold a fresh block. -/
theorem Distinct.stores (distinct : Distinct ⟨locals, world⟩) {stack stack' : GenericStack V}
    (designated : locals.genericStackp = some stack) {index : Nat}
    (stores : stack.StoresAt world stack' world' index) :
    Distinct ⟨{ locals with genericStackp := some stack' }, world'⟩ := by
  refine ⟨?_, ?_, fun output member =>
    Nat.lt_of_lt_of_le (distinct.older output member) stores.later⟩
  · rintro _ ⟨⟩
    exact (distinct.cells stack designated).stores stores
  · rintro _ ⟨⟩ other held found output member
    rcases stores.cells other held found with old | ⟨-, fresh⟩
    · exact distinct.output stack designated other held old output member
    · have older : output.address < world.nextAddress := distinct.older output member
      have newer := fresh.1
      omega

theorem Underway.weaken (underway : Underway start sure holds ⟨locals, world⟩)
    (wider : ∀ exchanges, holds exchanges → wide exchanges) :
    Underway start sure wide ⟨locals, world⟩ :=
  ⟨underway.stack, underway.kept, underway.distinct, underway.record.weaken wider⟩

/-- The record grows, and the locals are the same. -/
theorem Underway.later (underway : Underway start sure holds ⟨locals, world⟩)
    (later : world.nextAddress ≤ world'.nextAddress) (record : Recorded start wide world') :
    Underway start sure wide ⟨locals, world'⟩ :=
  ⟨underway.stack, underway.kept, fun certain => (underway.distinct certain).later later, record⟩

theorem Underway.assign (underway : Underway start sure holds ⟨locals, world⟩)
    (same : locals'.genericStackp = locals.genericStackp)
    (fewer : ∀ output ∈ locals'.valueOutputp.target?, output ∈ locals.valueOutputp.target?) :
    Underway start sure holds ⟨locals', world⟩ :=
  ⟨by rw [same]; exact underway.stack, by rw [same]; exact underway.kept,
    fun certain => (underway.distinct certain).assign same fewer, underway.record⟩

theorem Underway.grown (underway : Underway start sure holds ⟨locals, world⟩) (stable : Stable holds)
    (grown : Grown Event.Quiet world world') : Underway start sure holds ⟨locals, world'⟩ :=
  underway.later grown.later (underway.record.grown stable grown)

/-- A fault that does not come from a want of fuel. -/
theorem Underway.stop (underway : Underway start sure holds ⟨locals, world⟩) (stable : Stable holds)
    (grown : Grown Event.Quiet world world') {fault : Fault} (other : fault ≠ .exhausted)
    (unsure : ¬ sure) : Ends start fuel sure fault world' := by
  have unfailed := (underway.record.grown stable grown).weaken stable.unfailed
  cases fault with
  | exhausted => exact absurd rfl other
  | _ => exact ⟨unsure, unfailed⟩

/-- A quiet exchange. -/
theorem Underway.exchange (underway : Underway start sure holds ⟨locals, world⟩) (stable : Stable holds)
    (quiet : event.Quiet) {address : Nat} (later : world.nextAddress ≤ address) :
    Underway start sure holds
      ⟨locals, { world with events := world.events ++ [event], nextAddress := address }⟩ :=
  underway.grown stable (.one quiet later)

theorem Underway.failed (underway : Underway start sure holds ⟨locals, world⟩) (stable : Stable holds) :
    Leaves start fuel sure .endLabel ⟨{ locals with rcb := false }, world⟩ :=
  (underway.weaken stable.unfailed).assign rfl fun _ member => member

theorem Event.quiet_ofStack {event : Event V} (ofStack : OfStack event) : event.Quiet := by
  cases event <;> first | rfl | cases ofStack

theorem quiet_ofStack {program : Exec V α} (keeps : ∀ start, Keeps (Grown OfStack start) program)
    (start : World V) : Keeps (Grown Event.Quiet start) program :=
  Grown.widen keeps fun _ => Event.quiet_ofStack

theorem Exchanged.grown {stored released : List (Element V)}
    (exchanged : Exchanged world world' stored released) : Grown Event.Quiet world world' := by
  obtain ⟨exchanges, appended, ofStack, -, -⟩ := exchanged.events
  exact ⟨⟨exchanges, appended, fun event member => Event.quiet_ofStack (ofStack event member)⟩,
    exchanged.grammar, exchanged.addresses⟩

/-! ### The parts of the body -/

theorem assign_underway {change : VbLocals V → VbLocals V}
    (same : ∀ locals, (change locals).genericStackp = locals.genericStackp)
    (fewer : ∀ locals, ∀ output ∈ (change locals).valueOutputp.target?,
      output ∈ locals.valueOutputp.target?) :
    StaysUnderway start fuel sure holds (assign change) :=
  fun _ underway => Underway.assign underway (same _) (fewer _)

theorem fail_underway (stable : Stable holds) :
    StaysUnderway start fuel sure holds (fail : Vb V α) :=
  fun _ underway => Underway.failed underway stable

theorem failIf_underway (stable : Stable holds) (condition : Bool) :
    StaysUnderway start fuel sure holds (failIf condition) :=
  .ite (fun _ => fail_underway stable) fun _ => .pure fun _ underway => underway

theorem ask_underway (stable : Stable holds) {answer : List (Event V) → α} {event : α → Event V}
    (quiet : ∀ value, (event value).Quiet) :
    StaysUnderway start fuel sure holds (onWorld (ask answer event)) :=
  fun _ underway => Underway.exchange underway stable (quiet _) (Nat.le_refl _)

theorem askOrFail_underway (stable : Stable holds) (wanted : Bool) (answer : List (Event V) → Int)
    {event : Int → Event V} (failed : Int → Bool) (quiet : ∀ value, (event value).Quiet) :
    StaysUnderway start fuel sure holds (askOrFail wanted answer event failed) :=
  .ite (fun _ => .bind (ask_underway stable quiet) fun _ => failIf_underway stable _) fun _ =>
    .pure fun _ underway => underway

/-- An object is asked for, with the condition on the record that the exchange leads to. -/
theorem acquireOrFail_underway (stable : Stable wide) (granted : List (Event V) → Bool)
    {event : Option Nat → Event V}
    (step : ∀ handle exchanges, holds exchanges → wide (exchanges ++ [event handle])) :
    Triple (Underway start sure holds) (acquireOrFail granted event) (fun _ => Underway start sure wide)
      (Leaves start fuel sure) := by
  rintro ⟨locals, world⟩ underway
  cases grant : granted world.events with
  | false =>
    rw [acquireOrFail, run_bind_ok (onWorld_run (run_acquire_refused grant))]
    have refused : Underway start sure wide
        ⟨locals, { world with events := world.events ++ [event none] }⟩ :=
      underway.later (Nat.le_refl _) (underway.record.exchange (step none))
    exact refused.failed stable
  | true =>
    rw [acquireOrFail, run_bind_ok (onWorld_run (run_acquire_granted grant))]
    exact Underway.later underway (Nat.le_succ _) (underway.record.exchange (step _))

/-- A computation on the world with quiet exchanges. What it returns meets `fact`, and where it does
not return the body may be left by a fault. -/
theorem onWorld_underway (stable : Stable holds) {program : Exec V α} (fact : α → Prop)
    (keeps : ∀ start, Keeps (Grown Event.Quiet start) program)
    (returns : ∀ world value world', program world = .ok value world' → fact value)
    (faults : ∀ world fault world', program world = .error fault world' →
      fault ≠ .exhausted ∧ ¬ sure) :
    Triple (Underway start sure holds) (onWorld program)
      (fun value state => fact value ∧ Underway start sure holds state) (Leaves start fuel sure) := by
  rintro ⟨locals, world⟩ underway
  have grown := keeps world world (.refl _ world)
  unfold onWorld
  cases run : program world with
  | ok value world' =>
    rw [run] at grown
    exact ⟨returns world value world' run, Underway.grown underway stable grown⟩
  | error fault world' =>
    rw [run] at grown
    obtain ⟨other, unsure⟩ := faults world fault world' run
    exact Underway.stop underway stable grown other unsure

/-- A call of a stack function, where the locals meet `fact`. It keeps the stack growing and does
not run out of fuel; if `sure`, it returns and keeps what the body keeps. -/
theorem onStack_underway (stable : Stable holds) {program : GenericStack V → Exec V (α × GenericStack V)}
    (zero : α) (fact : VbLocals V → Prop)
    (keeps : ∀ stack start, Keeps (Grown OfStack start) (program stack))
    (ends : ∀ stack, stack.Growing → Ending (fun answer => answer.2.Growing) (program stack))
    (returns : ∀ stack locals world, locals.genericStackp = some stack → stack.Kept →
      Distinct ⟨locals, world⟩ → fact locals → ∃ value stack' world' index,
        program stack world = .ok (value, stack') world' ∧ stack'.Kept ∧
        stack.StoresAt world stack' world' index) :
    Triple (fun state => Underway start sure holds state ∧ fact state.locals) (onStack program zero)
      (fun _ => Underway start sure holds) (Leaves start fuel sure) := by
  rintro ⟨locals, world⟩ ⟨underway, met⟩
  cases designated : locals.genericStackp with
  | none =>
    rw [onStack_none designated]
    exact underway
  | some stack =>
    have grown := quiet_ofStack (keeps stack) world world (.refl _ world)
    have ended := ends stack (underway.stack stack designated) world trivial
    have called (certain : sure) := returns stack locals world designated
      (underway.kept certain stack designated) (underway.distinct certain) met
    cases run : program stack world with
    | ok answer world' =>
      obtain ⟨value, stack'⟩ := answer
      rw [run] at grown ended
      rw [onStack_run designated run]
      have next (certain : sure) : stack'.Kept ∧ ∃ index, stack.StoresAt world stack' world' index := by
        obtain ⟨_, _, _, index, returned, kept, stores⟩ := called certain
        rw [run] at returned
        cases returned
        exact ⟨kept, index, stores⟩
      refine ⟨fun _ member => by cases member; exact ended, fun certain _ member => ?_,
        fun certain => ?_, underway.record.grown stable grown⟩
      · cases member
        exact (next certain).1
      · obtain ⟨-, index, stores⟩ := next certain
        exact (underway.distinct certain).stores designated stores
    | error fault world' =>
      rw [run] at grown ended
      have stopped : onWorld (program stack) ⟨locals, world⟩ =
          .error (.fault fault) ⟨locals, world'⟩ := by
        unfold onWorld
        rw [run]
      rw [onStack_some designated, run_bind_error stopped]
      refine Underway.stop underway stable grown ended fun certain => ?_
      obtain ⟨_, _, _, _, returned, -⟩ := called certain
      rw [run] at returned
      cases returned

theorem produceOrFail_underway (stable : Stable holds) (callback : List (Event V) → Bool × Option V)
    {event : Bool → Option (Element V) → Event V}
    (quiet : ∀ answer output, (event answer output).Quiet) :
    StaysUnderway start fuel sure holds (produceOrFail callback event) := by
  rintro ⟨locals, world⟩ underway
  obtain ⟨output, world', run, fresh, grown⟩ : ∃ output world',
      invoke callback event world = .ok ((callback world.events).1, output) world' ∧
      (∀ element ∈ output, AllocatedBetween world world' element) ∧
      Grown Event.Quiet world world' := by
    refine ⟨_, _, rfl, fun element member => ?_, .one (quiet _ _) (Nat.le_succ _)⟩
    obtain ⟨value, -, rfl⟩ := Option.mem_map.mp member
    exact ⟨Nat.le_refl _, Nat.lt_succ_self _⟩
  have designated : (Slot.ofOption output).target? = output := by cases output <;> rfl
  have distinct (certain : sure) :
      Distinct ⟨{ locals with valueOutputp := .ofOption output }, world'⟩ := by
    have before := underway.distinct certain
    refine ⟨(before.later grown.later).cells, ?_, ?_⟩
    · rw [designated]
      exact fun stack member index => (before.cells stack member).fresh
        (fun element held => (fresh element held).1) index
    · rw [designated]
      exact fun element held => (fresh element held).2
  have rest : Triple (fun state => state = ⟨locals, world'⟩)
      (do
        assign fun locals => { locals with valueOutputp := .ofOption output }
        failIf (!(callback world.events).1) : Vb V Unit)
      (fun _ => Underway start sure holds) (Leaves start fuel sure) := by
    refine .through (fun _ => Underway start sure holds) (assign_triple ?_) fun _ =>
      failIf_underway stable _
    rintro _ _ ⟨⟩
    exact ⟨underway.stack, underway.kept, distinct, underway.record.grown stable grown⟩
  rw [produceOrFail, run_bind_ok (onWorld_run run)]
  exact rest _ rfl

/-- A pointer is not read only where no object is registered. -/
theorem readPointer_fault {β : Type} {arraypp : Option (Block β)} {index : Int} {fault : Fault}
    (run : readPointer arraypp index world = .error fault world') :
    fault ≠ .exhausted ∧ ¬ Registers arraypp index := by
  refine ⟨?_, fun registers => ?_⟩
  · rintro rfl
    rw [readPointer, run_bind] at run
    cases arraypp with
    | none => cases run
    | some block =>
      rw [readArray, run_bind, useBlock] at run
      cases released : block.released with
      | true => rw [released] at run; cases run
      | false =>
        rw [released] at run
        by_cases negative : index < 0
        · rw [if_pos negative] at run
          cases run
        · rw [if_neg negative, readCell] at run
          cases found : block.cells[index.toNat]? with
          | none => rw [found] at run; cases run
          | some cell => rw [found] at run; cases cell <;> cases run
  · rw [readPointer_registered registers] at run
    cases run

section Body

variable {libc : Libc V} {phase : ValuePhase V} {wrapper : Wrapper}
  {valueOption : MarpaWrapperValueOption V} {stackOption : MarpaWrapperStackOption V}

theorem readPointer_underway {β : Type} (stable : Stable holds) {arraypp : Option (Block β)}
    {index : Int} (known : sure → Registers arraypp index) :
    StaysUnderway start fuel sure holds (onWorld (readPointer arraypp index)) :=
  (onWorld_underway stable (fun _ => True) (fun _ => readPointer_keeps _ _)
    (fun _ _ _ _ => trivial) fun _ _ _ run =>
      ⟨(readPointer_fault run).1, fun certain => (readPointer_fault run).2 (known certain)⟩).consequence
    (fun _ underway => underway) (fun _ _ holds => holds.2) fun _ _ left => left

theorem getp_underway (grants : libc.AlwaysGrants) (enough : 2 ^ 32 ≤ fuel) (stable : Stable holds)
    {index : Nat} (narrow : index < 2 ^ 31) :
    StaysUnderway start fuel sure holds (onStack (genericStackGetp libc fuel · index) none) := by
  refine (onStack_underway stable none (fun _ => True) (fun _ _ => genericStackGetp_keeps index)
    (fun stack growing world _ => ?_) fun stack _ world _ kept _ _ => ?_).consequence
      (fun _ underway => ⟨underway, trivial⟩) (fun _ _ underway => underway) fun _ _ left => left
  · obtain ⟨value, stack', world', run, growing'⟩ :=
      genericStackGetp_growing grants enough growing narrow world
    rw [run]
    exact growing'
  · obtain ⟨value, stack', world', run, -⟩ :=
      genericStackGetp_growing grants enough kept.growing narrow world
    obtain ⟨kept', -, exchanged⟩ := genericStackGetp_kept grants enough kept run
    exact ⟨value, stack', world', 0, run, kept',
      (genericStackGetp_thins kept.sound run).1.storesAt exchanged.addresses 0⟩

theorem seti_underway (grants : libc.AlwaysGrants) (enough : 2 ^ 32 ≤ fuel) (stable : Stable holds)
    {index : Nat} (narrow : index < 2 ^ 31) (elementp : Option (Element V)) :
    Triple (fun state => Underway start sure holds state ∧ state.locals.valueOutputp.target? = elementp)
      (onStack (genericStackSeti libc fuel · index elementp) 0) (fun _ => Underway start sure holds)
      (Leaves start fuel sure) := by
  refine onStack_underway stable 0 (·.valueOutputp.target? = elementp)
    (fun _ _ => genericStackSeti_keeps index elementp)
    (fun stack growing => genericStackSeti_ending grants enough growing narrow elementp)
    fun stack locals world designated kept distinct output => ?_
  have apart := distinct.output stack designated index
  rw [output] at apart
  obtain ⟨stack', world', stored, run, -, -, -⟩ := genericStackSeti_run grants enough
    kept.sound kept.callable narrow (.inr kept.growsOnSet) apart world
  have kept' := (genericStackSeti_kept grants enough kept narrow run).2.1
  exact ⟨1, stack', world', index, run, kept',
    genericStackSeti_storesAt kept.sound kept.callable run⟩

theorem malloc_underway (grants : libc.AlwaysGrants) (stable : Stable holds) (size : Nat) :
    Triple (Underway start sure holds) (onWorld (malloc libc size))
      (fun granted state => granted.isSome = true ∧ Underway start sure holds state)
      (Leaves start fuel sure) := by
  refine onWorld_underway stable _ (quiet_ofStack fun _ => malloc_keeps _)
    (fun world _ _ run => ?_) fun world _ _ run => ?_
  · rw [malloc_run grants] at run
    cases run
    rfl
  · rw [malloc_run grants] at run
    cases run

/-- The inputs of a rule lie at indices below `2 ^ 31`, and there are finitely many. -/
theorem collectInputs_underway (grants : libc.AlwaysGrants) (enough : 2 ^ 32 ≤ fuel)
    (stable : Stable holds) {first last : Int}
    (inRange : 0 ≤ first ∧ first ≤ last + 1 ∧ last < 2 ^ 31) :
    StaysUnderway start fuel sure holds (collectInputs libc fuel first last) := by
  obtain ⟨nonNegative, ordered, narrow⟩ := inRange
  obtain ⟨first, rfl⟩ := Int.eq_ofNat_of_zero_le nonNegative
  obtain ⟨count, counted⟩ := Int.eq_ofNat_of_zero_le (show 0 ≤ last - first + 1 by omega)
  have size : toSize (last - first + 1) = count := by
    rw [counted, toSize_natCast (by simp only [sizeModulus]; omega)]
  have bytes : count * pointerSize % sizeModulus = count * pointerSize :=
    Nat.mod_eq_of_lt (by simp only [pointerSize, sizeModulus]; omega)
  unfold collectInputs
  simp only [size, bytes]
  refine .bind (malloc_underway grants stable _) fun granted => ?_
  cases granted with
  | none => exact fun _ holds => absurd holds.1 Bool.false_ne_true
  | some address =>
    refine .through (fun _ => Underway start sure holds)
      (fun _ holds => Underway.assign holds.2 rfl fun _ member => member) fun _ => ?_
    -- The cells are as many as the inputs, and the loop visits each of them once.
    refine .bind (fun state underway => Triple.loop_ends
      (fun left frame state => (frame.2.length = count ∧ frame.1 + left = count) ∧
        Underway start sure holds state) (fun left frame => ?_) count (by omega) _ state
        ⟨⟨?_, Nat.zero_add count⟩, underway⟩)
      fun _ => .pure fun _ underway => underway
    · refine .ite (fun more => ?_) fun _ => .pure fun _ underway => underway.2
      have index (inside : frame.1 < count) :
          (toSize first + frame.1) % uintModulus = first + frame.1 := by
        rw [toSize_natCast (by simp only [sizeModulus]; omega)]
        exact Nat.mod_eq_of_lt (by simp only [uintModulus]; omega)
      rw [index more]
      refine .bind (Triple.under (getp_underway grants enough stable (by omega))) fun value => ?_
      rintro ⟨locals, world⟩ ⟨⟨length, counting⟩, underway⟩
      rw [run_bind_ok (onWorld_run (writeCell_run (by omega)))]
      have next : (frame.1 + 1) % sizeModulus = frame.1 + 1 :=
        Nat.mod_eq_of_lt (by simp only [sizeModulus]; omega)
      refine ⟨left - 1, by omega, ⟨?_, ?_⟩, underway⟩
      · rw [List.length_set, length]
      · rw [next]
        omega
    · rw [resize_length]
      exact Nat.mul_div_cancel _ (by decide)

theorem emitIfNotNull_underway (stable : Stable holds) {program : Exec V Unit}
    (keeps : ∀ start, Keeps (Grown OfStack start) program)
    (returns : ∀ world, ∃ world', program world = .ok () world') :
    StaysUnderway start fuel sure holds (onWorld program) :=
  (onWorld_underway stable (fun _ => True) (quiet_ofStack keeps) (fun _ _ _ _ => trivial)
    fun world _ _ run => by
      obtain ⟨world', returned⟩ := returns world
      rw [returned] at run
      cases run).consequence (fun _ underway => underway) (fun _ _ holds => holds.2)
    fun _ _ left => left

theorem freeInputs_underway (stable : Stable holds) :
    StaysUnderway start fuel sure holds (freeInputs (V := V)) :=
  readLocals_triple fun locals => .through (fun _ => Underway start sure holds)
    (fun state before => emitIfNotNull_underway stable (fun _ => freeIfNotNull_keeps _)
      (fun _ => by cases locals.valueInputArraypp <;> exact ⟨_, rfl⟩) state before.1) fun _ =>
    assign_underway (fun _ => rfl) fun _ _ member => member

/-- The note of an early read is quiet. -/
theorem Underway.noted (underway : Underway start sure holds ⟨locals, world⟩) (stable : Stable holds) :
    Underway start sure holds
      ⟨locals, { world with events := world.events ++ [.indeterminateRead] }⟩ :=
  underway.exchange stable rfl (Nat.le_refl _)

theorem storeOutput_underway (grants : libc.AlwaysGrants) (enough : 2 ^ 32 ≤ fuel)
    (stable : Stable holds) {argResult : Int} (inRange : 0 ≤ argResult ∧ argResult < 2 ^ 31) :
    StaysUnderway start fuel sure holds (storeOutput libc fuel argResult) := by
  have index : toUnsigned argResult < 2 ^ 31 := by
    rw [toUnsigned]
    simp only [uintModulus]
    omega
  exact readOutput_triple (fun _ _ underway => underway.noted stable) fun _ =>
    .through (fun _ => Underway start sure holds)
      (fun state before => seti_underway grants enough stable index _ state
        ⟨before.1, by rw [before.2]⟩) fun _ =>
      failIf_underway stable _

theorem MarpaStep.InRange.result {step : MarpaStep} (inRange : step.InRange) {argResulti : Int}
    (stored : step.result? = some argResulti) : 0 ≤ argResulti ∧ argResulti < 2 ^ 31 := by
  cases step with
  | rule ruleId first last result => cases stored; exact inRange.2
  | token symbolId value result => cases stored; exact inRange
  | nullingSymbol symbolId result => cases stored; exact inRange
  | inactive | initial | other code => cases stored

/-- A step keeps the invariant; if `sure`, its rule or symbol is registered. -/
theorem stepRules_underway (grants : libc.AlwaysGrants) (enough : 2 ^ 32 ≤ fuel)
    (stable : Stable holds) {step : MarpaStep} (inRange : step.InRange)
    (known : sure → wrapper.Knows step) :
    StepRules libc fuel wrapper valueOption step (Underway start sure holds)
      (Underway start sure holds) (Underway start sure holds) (Leaves start fuel sure) where
  collects same := collectInputs_underway grants enough stable (by subst same; exact inRange.1)
  looksUp _ _ registers := readPointer_underway stable fun certain => registers (known certain)
  skips _ underway := underway
  calls call := produceOrFail_underway stable _ (by cases call <;> exact fun _ _ => rfl)
  frees := freeInputs_underway stable
  stores stored := storeOutput_underway grants enough stable (inRange.result stored)
  idles _ underway := underway

theorem releaseOutput_underway (given : sure → stackOption.HasCallbacks) (stable : Stable holds) :
    StaysUnderway start fuel sure holds (releaseOutput stackOption) := by
  refine readOutput_triple (fun _ _ underway => underway.noted stable) fun locals => ?_
  cases locals.valueOutputp with
  | indeterminate => exact .pure fun _ before => before.1
  | null => exact .pure fun _ before => before.1
  | pointer output =>
    refine .through (fun _ => Underway start sure holds) (fun state before => ?_) fun status =>
      .bind (failIf_underway stable _) fun _ =>
      .bind (emitIfNotNull_underway stable (fun _ => emit_keeps rfl) fun _ => ⟨_, rfl⟩) fun _ =>
        assign_underway (fun _ => rfl) fun _ _ member => nomatch member
    cases callback : stackOption.stackElementFreeCallbackp with
    | none =>
      have stopped : callOutputFree stackOption output state.world =
          .error .nullCall state.world := by
        unfold callOutputFree
        rw [callback]
        rfl
      have unsure (certain : sure) : False := by
        have present := (given certain).1
        rw [callback] at present
        cases present
      have left : Ends start fuel sure .nullCall state.world :=
        Underway.stop before.1 stable (.refl _ _) (by decide) unsure
      unfold onWorld
      rw [stopped]
      exact left
    | some free =>
      obtain ⟨status, called⟩ : ∃ status, callOutputFree stackOption output state.world =
          .ok status { state.world with
            events := state.world.events ++ [.outputFree output status] } := by
        unfold callOutputFree
        rw [callback]
        exact ⟨_, rfl⟩
      rw [onWorld_run called]
      exact before.1.exchange stable rfl (Nat.le_refl _)

/-! ### One valuator -/

/-- Between the steps, or in a valuator that has failed. -/
def Stepping (start : World V) (sure : Prop) (trees count : Nat) (state : VbState V) : Prop :=
  Underway start sure (AtStep trees count) state ∨ Recorded start Failing state.world

/-- After the answer of a valuator that has not failed. -/
def Stepped (trees count : Nat) (step : MarpaStep) (exchanges : List (Event V)) : Prop :=
  if step = .inactive then AtTree trees exchanges else AtStep trees (count + 1) exchanges

theorem Stepped.stable (trees count : Nat) (step : MarpaStep) :
    Stable (V := V) (Stepped trees count step) := by
  unfold Stepped
  split
  · exact AtTree.stable trees
  · exact AtStep.stable trees (count + 1)

theorem AtStep.step {trees count : Nat} {step : MarpaStep} {exchanges : List (Event V)}
    (atStep : AtStep trees count exchanges) (other : step ≠ .other (-2)) :
    Stepped trees count step (exchanges ++ [.step step]) := by
  have atTree : AtTree trees (exchanges ++ [.step step]) := by
    refine ⟨atStep.tree.unfailed.snoc fun same => other (by injection same), ?_⟩
    rw [treesIn_append, atStep.tree.trees]
    rfl
  unfold Stepped
  split
  · exact atTree
  · rename_i active
    refine ⟨atTree, ?_, ?_⟩
    · rw [stepsOfValuator_snoc]
      intro member
      rcases List.mem_append.mp member with old | new
      · exact atStep.active old
      · exact active (List.mem_singleton.mp new).symm
    · rw [stepsOfValuator_snoc, valuatorSteps, List.length_append, atStep.steps]
      rfl

/-- After a failure of the valuator the loop goes on. -/
theorem stepTurn_failed (failed : phase.step world.events = .other (-2)) :
    stepTurn libc fuel phase wrapper valueOption stackOption () ⟨locals, world⟩ =
      .ok (.next ()) ⟨{ locals with valueOutputp := .null },
        { world with events := world.events ++ [.step (.other (-2))] }⟩ := by
  rw [stepTurn, run_bind_ok (onWorld_run (run_ask ..)), failed]
  rfl

theorem stepTurn_underway (grants : libc.AlwaysGrants) (enough : 2 ^ 32 ≤ fuel)
    (given : sure → stackOption.HasCallbacks) (keepsFailing : phase.KeepsFailing start)
    (inRange : ∀ events, (phase.step events).InRange)
    (known : sure → ∀ events, wrapper.Knows (phase.step events)) (trees count : Nat) :
    Triple (Stepping start sure trees count)
      (stepTurn libc fuel phase wrapper valueOption stackOption ())
      (AfterTurn (fun _ => Stepping start sure trees (count + 1))
        fun _ => Underway start sure (AtTree trees))
      (Leaves start fuel sure) := by
  rintro ⟨locals, world⟩ stepping
  by_cases failed : phase.step world.events = .other (-2)
  · rw [stepTurn_failed failed]
    refine .inr ?_
    rcases stepping with underway | failing
    · exact underway.record.exchange fun _ _ => .again _
    · exact failing.exchange fun _ _ => .again _
  · have underway : Underway start sure (AtStep trees count) ⟨locals, world⟩ := by
      refine stepping.resolve_right fun failing => failed ?_
      obtain ⟨exchanges, record, failing⟩ := failing
      rw [show world.events = _ from record]
      exact keepsFailing exchanges failing
    rw [stepTurn, run_bind_ok (onWorld_run (run_ask ..))]
    have stable : Stable (V := V) (Stepped trees count (phase.step world.events)) :=
      Stepped.stable trees count _
    have rest : Triple (Underway start sure (Stepped trees count (phase.step world.events)))
        (do
          assign fun locals => { locals with valueOutputp := .null }
          let nextb ← applyStep libc fuel wrapper valueOption (phase.step world.events)
          releaseOutput stackOption
          pure (if nextb then .next () else .done ()))
        (AfterTurn (fun _ => Stepping start sure trees (count + 1))
          fun _ => Underway start sure (AtTree trees)) (Leaves start fuel sure) := by
      refine .bind (assign_underway (fun _ => rfl) fun _ _ member => nomatch member) fun _ =>
        .bind (stepRules_underway grants enough stable (inRange _) fun certain => known certain _).goesOn
          fun nextb => .bind (.under (releaseOutput_underway given stable)) fun _ =>
            .pure fun state after => ?_
      obtain ⟨rfl, underway⟩ := after
      by_cases inactive : phase.step world.events = .inactive
      · rw [if_neg (by simp [inactive])]
        exact underway.weaken fun _ stepped => by rwa [Stepped, if_pos inactive] at stepped
      · rw [if_pos (by simp [inactive])]
        exact .inl (underway.weaken fun _ stepped => by rwa [Stepped, if_neg inactive] at stepped)
    exact rest _ (underway.later (Nat.le_refl _)
      (underway.record.exchange fun _ atStep => atStep.step failed))

/-! ### Trees -/

/-- The creation of a value stack returns, unless its first block has no room for its pointers. -/
theorem genericStackNewp_returns (grants : libc.AlwaysGrants) (enough : 2 ^ 32 ≤ fuel)
    {elementSizei : Nat} (sized : elementSizei = 0 ∨ HasRoom elementSizei)
    (optionp : Option (GenericStackOption V)) (world : World V) :
    ∃ created world', genericStackNewp libc fuel elementSizei optionp world = .ok created world' := by
  rcases sized with rfl | room
  · obtain ⟨between, reported, -⟩ := reportFailure_run
      ((optionp.map (·.failureCallbackp)).getD false) .parameter
        genericStackErrorParameterElementsize world
    refine ⟨none, between, ?_⟩
    simp only [genericStackNewp, if_pos (Nat.le_refl 0)]
    rw [run_bind_ok reported]
    rfl
  · obtain ⟨stack, world', run, -, -⟩ := genericStackNewp_run grants enough room optionp world
    exact ⟨some stack, world', run⟩

theorem genericStackNewp_fault (grants : libc.AlwaysGrants) (enough : 2 ^ 32 ≤ fuel)
    {elementSizei : Nat} {optionp : Option (GenericStackOption V)} {fault : Fault}
    (run : genericStackNewp libc fuel elementSizei optionp world = .error fault world') :
    fault ≠ .exhausted ∧ ¬ (elementSizei = 0 ∨ HasRoom elementSizei) := by
  have unsized : ¬ (elementSizei = 0 ∨ HasRoom elementSizei) := by
    intro sized
    obtain ⟨created, world'', returned⟩ :=
      genericStackNewp_returns grants enough sized optionp world
    rw [returned] at run
    cases run
  obtain ⟨positive, short⟩ := not_or.mp unsized
  have cells : (resize [] (elementSizei * stackInitSize % sizeModulus) :
      List (Slot (Element V))).length < stackInitSize := by
    rw [resize_length]
    exact Nat.not_le.mp fun inside => short ((Nat.le_div_iff_mul_le (by decide)).mp inside)
  simp only [genericStackNewp, if_neg (show ¬ elementSizei ≤ 0 by omega)] at run
  rw [run_bind_ok (malloc_run grants _ world)] at run
  simp only at run
  rw [run_bind_ok (malloc_run grants _ _)] at run
  simp only at run
  rw [run_bind_error (fillNull_outOfBounds (by decide) cells
    (by simp only [stackInitSize]; omega) (Nat.zero_le _))] at run
  cases run
  exact ⟨by decide, unsized⟩

theorem openTree_underway (stable : Stable holds) :
    StaysUnderway start fuel sure holds (openTree phase valueOption) := by
  have quietly (event : Option Nat → Event V) (quiet : ∀ handle, (event handle).Quiet)
      (handle : Option Nat) (exchanges : List (Event V)) (held : holds exchanges) :
      holds (exchanges ++ [event handle]) := stable.quiet _ _ (quiet handle) held
  exact .bind (ask_underway stable fun _ => rfl) fun _ =>
    .bind (acquireOrFail_underway stable _ (quietly _ fun _ => rfl)) fun _ =>
    .bind (assign_underway (fun _ => rfl) fun _ _ member => member) fun _ =>
    .bind (acquireOrFail_underway stable _ (quietly _ fun _ => rfl)) fun _ =>
    .bind (assign_underway (fun _ => rfl) fun _ _ member => member) fun _ =>
    .bind (askOrFail_underway stable _ _ _ fun _ => rfl) fun _ =>
    .bind (askOrFail_underway stable _ _ _ fun _ => rfl) fun _ =>
    .bind (askOrFail_underway stable _ _ _ fun _ => rfl) fun _ =>
    .bind (askOrFail_underway stable _ _ _ fun _ => rfl) fun _ =>
    .bind (acquireOrFail_underway stable _ (quietly _ fun _ => rfl)) fun _ =>
      assign_underway (fun _ => rfl) fun _ _ member => member

/-- A valuator that was created has made no step. -/
theorem AtTree.create {trees : Nat} {handle : Option Nat} {exchanges : List (Event V)}
    (atTree : AtTree trees exchanges) : AtStep trees 0 (exchanges ++ [.valueNew handle]) := by
  have steps : stepsOfValuator (exchanges ++ [.valueNew handle]) = [] := by
    rw [stepsOfValuator_snoc]
    rfl
  refine ⟨⟨atTree.unfailed.snoc nofun, ?_⟩, ?_, ?_⟩
  · rw [treesIn_append, atTree.trees]
    rfl
  · rw [steps]
    exact List.not_mem_nil
  · rw [steps]
    rfl

theorem openValuator_underway (grants : libc.AlwaysGrants) (enough : 2 ^ 32 ≤ fuel)
    (given : sure → stackOption.HasCallbacks)
    (sized : sure → stackOption.stackElementSizei = 0 ∨ HasRoom stackOption.stackElementSizei)
    (trees : Nat) :
    Triple (Underway start sure (AtTree trees)) (openValuator libc fuel phase stackOption)
      (fun _ => Underway start sure (AtStep trees 0)) (Leaves start fuel sure) := by
  have stable : Stable (V := V) (AtStep trees 0) := AtStep.stable trees 0
  refine .bind (acquireOrFail_underway stable _ fun _ _ atTree => atTree.create) fun _ =>
    .bind (assign_underway (fun _ => rfl) fun _ _ member => member) fun _ =>
    .bind (askOrFail_underway stable _ _ _ fun _ => rfl) fun _ =>
    .bind (onWorld_underway stable
      (fun created => ∀ stack ∈ created,
        stack.Fresh (some (marpaWrapperGenericStackOption stackOption)))
      (quiet_ofStack fun _ => genericStackNewp_keeps _ _) (fun world created world' run => ?_)
      fun world fault world' run => ?_) fun created => ?_
  · exact (genericStackNewp_return grants enough run).1
  · obtain ⟨other, unsized⟩ := genericStackNewp_fault grants enough run
    exact ⟨other, fun certain => unsized (sized certain)⟩
  · cases created with
    | none => exact fun state holds => fail_underway (α := Unit) stable state holds.2
    | some stack => exact fun state ⟨fresh, underway⟩ =>
        ⟨fun _ member => by cases member; exact (fresh stack rfl).growing,
          fun certain _ member => by cases member; exact ((fresh stack rfl).kept (given certain)).1,
          fun certain => (underway.distinct certain).replace
            (fun _ member => by cases member; exact (fresh stack rfl).entries) rfl,
          underway.record⟩

theorem reportResult_underway (grants : libc.AlwaysGrants) (enough : 2 ^ 32 ≤ fuel)
    (stable : Stable holds) :
    StaysUnderway start fuel sure holds (reportResult libc fuel valueOption) :=
  reportResult_triple (fun _ => Underway start sure holds)
    (getp_underway grants enough stable (by decide)) (fun _ _ => ask_underway stable fun _ => rfl)
    (fun _ _ underway => underway.failed stable)
    (fun _ underway => Underway.weaken underway stable.unfailed) fun _ underway => underway

theorem destroyIfNotNull_ending (enough : 2 ^ 32 ≤ fuel) {genericStackp : Option (GenericStack V)}
    (growing : ∀ stack ∈ genericStackp, stack.Growing) :
    Ending (fun _ => True) (destroyIfNotNull fuel genericStackp) := by
  cases genericStackp with
  | none => exact .pure trivial
  | some stack => exact genericStackDestroyv_ending enough (growing stack rfl)

theorem destroyIfNotNull_returns (enough : 2 ^ 32 ≤ fuel)
    {genericStackp : Option (GenericStack V)} (kept : ∀ stack ∈ genericStackp, stack.Kept)
    (world : World V) : ∃ world', destroyIfNotNull fuel genericStackp world = .ok () world' := by
  cases genericStackp with
  | none => exact ⟨world, rfl⟩
  | some stack =>
    obtain ⟨world', run, -⟩ := genericStackDestroyv_run enough (kept stack rfl).sound
      (kept stack rfl).callable world
    exact ⟨world', run⟩

/-- The value stack that the local designates is destroyed. -/
theorem destroyIfNotNull_underway (enough : 2 ^ 32 ≤ fuel) (stable : Stable holds)
    (genericStackp : Option (GenericStack V)) :
    Triple (fun state => Underway start sure holds state ∧ state.locals.genericStackp = genericStackp)
      (onWorld (destroyIfNotNull fuel genericStackp)) (fun _ => Underway start sure holds)
      (Leaves start fuel sure) := by
  rintro state ⟨underway, rfl⟩
  have grown := quiet_ofStack (fun _ => destroyIfNotNull_keeps fuel state.locals.genericStackp)
    state.world state.world (.refl _ state.world)
  have ended := destroyIfNotNull_ending enough underway.stack state.world trivial
  unfold onWorld
  cases run : destroyIfNotNull fuel state.locals.genericStackp state.world with
  | ok value world' =>
    rw [run] at grown
    exact Underway.grown underway stable grown
  | error fault world' =>
    rw [run] at grown ended
    refine Underway.stop underway stable grown ended fun certain => ?_
    obtain ⟨world'', returned⟩ := destroyIfNotNull_returns enough (underway.kept certain) state.world
    rw [run] at returned
    cases returned

theorem closeValuator_underway (enough : 2 ^ 32 ≤ fuel) (stable : Stable holds) :
    StaysUnderway start fuel sure holds (closeValuator (V := V) fuel) := by
  refine readLocals_triple fun locals => .through (fun _ => Underway start sure holds)
    (fun state before => destroyIfNotNull_underway enough stable _ state
      ⟨before.1, by rw [before.2]⟩) fun _ => .through (fun _ => Underway start sure holds)
      (fun _ underway => ⟨fun _ member => (nomatch member), fun _ _ member => (nomatch member),
        fun certain => (underway.distinct certain).replace (fun _ member => (nomatch member)) rfl,
        underway.record⟩) fun _ =>
    .through (fun _ => Underway start sure holds) (fun state underway => ?_) fun _ =>
      assign_underway (fun _ => rfl) fun _ _ member => member
  obtain ⟨world', run⟩ : ∃ world', unrefIfNotNull .valueUnref locals.marpaValuep state.world =
      .ok () world' := by
    cases locals.marpaValuep <;> exact ⟨_, rfl⟩
  rw [onWorld_run run]
  exact Underway.grown underway stable
    (.of_run (fun _ => unrefIfNotNull_keeps locals.marpaValuep fun _ => rfl) run)

/-- A loop over the steps that makes as many turns as it has fuel for outlasts the fuel. -/
theorem Stepping.stopped {trees : Nat} {state : VbState V} (stepping : Stepping start sure trees fuel state) :
    Leaves start fuel sure (.fault .exhausted) state := by
  rcases stepping with underway | failing
  · refine underway.record.weaken fun exchanges atStep => .inr (.inr ⟨exchanges,
      List.prefix_refl _, Nat.le_of_eq atStep.steps.symm, atStep.active, fun failed =>
        atStep.tree.unfailed (mem_of_stepsOfValuator failed)⟩)
  · exact failing.weaken fun exchanges failing => .inl failing.failed

theorem treeTurn_underway (grants : libc.AlwaysGrants) (enough : 2 ^ 32 ≤ fuel)
    (given : sure → stackOption.HasCallbacks) (keepsFailing : phase.KeepsFailing start)
    (inRange : ∀ events, (phase.step events).InRange)
    (sized : sure → stackOption.stackElementSizei = 0 ∨ HasRoom stackOption.stackElementSizei)
    (known : sure → ∀ events, wrapper.Knows (phase.step events)) (count : Nat) :
    Triple (Underway start sure (AtTree count))
      (treeTurn libc fuel phase wrapper valueOption stackOption ())
      (AfterTurn (fun _ => Underway start sure (AtTree (count + 1))) fun _ => Underway start sure Unfailed)
      (Leaves start fuel sure) := by
  refine .through (fun treeNext state =>
    Underway start sure (AtTree (count + if 0 ≤ treeNext then 1 else 0)) state) ?_ fun treeNext =>
    .ite (fun negative => .pure fun _ underway => ?_) fun offered => ?_
  · rintro ⟨locals, world⟩ underway
    refine underway.later (Nat.le_refl _)
      (underway.record.exchange fun exchanges atTree => ⟨atTree.unfailed.snoc nofun, ?_⟩)
    rw [treesIn_append, atTree.trees, treesIn, List.countP_singleton]
    simp only [decide_eq_true_eq]
  · exact Underway.weaken underway fun _ atTree => atTree.unfailed
  · rw [if_pos (Int.not_lt.mp offered)]
    exact .bind (openValuator_underway grants enough given sized _) fun _ =>
      .bind (fun state underway => Triple.loop_counts (fun made _ => Stepping start sure (count + 1) made)
        (fun made _ => stepTurn_underway grants enough given keepsFailing inRange known _ made)
        (fun _ state stepping => (show Stepping start sure (count + 1) fuel state by
          rwa [Nat.zero_add] at stepping).stopped) () state (.inl underway)) fun _ =>
      .bind (reportResult_underway grants enough (AtTree.stable _)) fun _ =>
      .bind (closeValuator_underway enough (AtTree.stable _)) fun _ =>
        .pure fun _ underway => underway

/-! ### The function -/

variable {wrapperp : Option Wrapper} {valueOptionp : Option (MarpaWrapperValueOption V)}
  {stackOptionp : Option (MarpaWrapperStackOption V)}

/-- A loop over the trees that makes as many turns as it has fuel for outlasts the fuel. -/
theorem Underway.stopped {state : VbState V} (underway : Underway start sure (AtTree (0 + fuel)) state) :
    Leaves start fuel sure (.fault .exhausted) state :=
  underway.record.weaken fun _ atTree =>
    .inr (.inl (Nat.le_of_eq (by rw [atTree.trees, Nat.zero_add])))

/-- Both stack callbacks are given, the rules and symbols of the steps are registered, and the value
stack has room for its pointers, or elements of no size, for which none is created. -/
structure Secured (phase : ValuePhase V) (wrapperp : Option Wrapper)
    (stackOptionp : Option (MarpaWrapperStackOption V)) : Prop where
  given : ∀ stackOption ∈ stackOptionp, stackOption.HasCallbacks
  known : ∀ wrapper ∈ wrapperp, ∀ events, wrapper.Knows (phase.step events)
  sized : ∀ stackOption ∈ stackOptionp,
    stackOption.stackElementSizei = 0 ∨ HasRoom stackOption.stackElementSizei

theorem vbBody_underway (grants : libc.AlwaysGrants) (enough : 2 ^ 32 ≤ fuel)
    (keepsFailing : phase.KeepsFailing start) (inRange : ∀ events, (phase.step events).InRange)
    (secured : sure → Secured phase wrapperp stackOptionp) :
    Triple (Underway start sure (AtTree 0))
      (vbBody libc fuel phase wrapperp valueOptionp stackOptionp)
      (fun _ => Underway start sure Unfailed) (Leaves start fuel sure) := by
  have stable : Stable (V := V) (AtTree 0) := AtTree.stable 0
  have failed (state : VbState V) (underway : Underway start sure (AtTree 0) state) :
      Leaves start fuel sure .endLabel ⟨{ state.locals with rcb := false }, state.world⟩ :=
    Underway.failed underway stable
  cases wrapperp with
  | none => exact failed
  | some wrapper =>
    cases stackOptionp with
    | none => exact failed
    | some stackOption =>
      exact .bind (failIf_underway stable _) fun _ => .bind (openTree_underway stable) fun _ =>
        Triple.loop_counts (fun count _ => Underway start sure (AtTree count))
          (fun count _ => treeTurn_underway grants enough
            (fun certain => (secured certain).given _ rfl) keepsFailing inRange
            (fun certain => (secured certain).sized _ rfl)
            (fun certain => (secured certain).known _ rfl) count)
          (fun _ _ underway => underway.stopped) ()

theorem vbEndLabel_ending (enough : 2 ^ 32 ≤ fuel)
    (growing : ∀ stack ∈ locals.genericStackp, stack.Growing) :
    Ending (fun _ => True) (vbEndLabel fuel locals) := by
  have freed : Ending (fun _ => True) (freeOutput locals.valueOutputp) := by
    cases locals.valueOutputp <;> first | exact .pure trivial | exact .emit _
  have inputs : Ending (V := V) (fun _ => True) (freeIfNotNull locals.valueInputArraypp) := by
    cases locals.valueInputArraypp <;> first | exact .pure trivial | exact .emit _
  have unref (event : Nat → Event V) (handle : Option Nat) :
      Ending (fun _ => True) (unrefIfNotNull event handle) := by
    cases handle <;> first | exact .pure trivial | exact .emit _
  exact .seq freed fun _ => .seq inputs fun _ => .seq (destroyIfNotNull_ending enough growing)
    fun _ => .seq (unref _ _) fun _ => .seq (unref _ _) fun _ => .seq (unref _ _) fun _ =>
    .seq (unref _ _) fun _ => .pure trivial

/-- The end label does not run out of fuel; if `sure`, it returns. -/
theorem vbEndLabel_underway (enough : 2 ^ 32 ≤ fuel) :
    Triple (fun world => Underway start sure Unfailed ⟨locals, world⟩) (vbEndLabel fuel locals)
      (fun _ => Recorded start Unfailed) (Ends start fuel sure) := by
  intro world underway
  have quiet : Keeps (Grown Event.Quiet world) (vbEndLabel fuel locals) :=
    vbEndLabel_keeps locals rfl (fun _ => Event.quiet_ofStack) fun _ => ⟨rfl, rfl, rfl, rfl⟩
  have grown := quiet world (.refl _ world)
  have ended := vbEndLabel_ending enough underway.stack world trivial
  cases run : vbEndLabel fuel locals world with
  | ok result final =>
    rw [run] at grown
    exact underway.record.grown Unfailed.stable grown
  | error fault final =>
    rw [run] at grown ended
    refine Underway.stop underway Unfailed.stable grown ended fun certain => ?_
    obtain ⟨_, _, returned, -⟩ := vbEndLabel_called enough (underway.kept certain) (.refl world)
    rw [run] at returned
    cases returned

theorem marpaWrapperVb_ends (grants : libc.AlwaysGrants) (enough : 2 ^ 32 ≤ fuel)
    (keepsFailing : phase.KeepsFailing start) (inRange : ∀ events, (phase.step events).InRange) :
    Triple (fun world => world = start)
      (marpaWrapperVb libc fuel phase wrapperp valueOptionp stackOptionp)
      (fun _ => Recorded start Unfailed)
      (Ends start fuel (Secured phase wrapperp stackOptionp)) := by
  refine marpaWrapperVb_triple (vbBody_underway grants enough keepsFailing inRange id)
    (fun world same => ?_) (fun _ left => left) (fun _ _ left => left) fun _ =>
      vbEndLabel_underway enough
  subst same
  exact ⟨fun _ member => (nomatch member), fun _ _ member => (nomatch member),
    fun _ => ⟨fun _ member => (nomatch member), fun _ member => (nomatch member),
      fun _ member => (nomatch member)⟩,
    [], (List.append_nil _).symm, List.not_mem_nil, rfl⟩

theorem Recorded.since (recorded : Recorded start holds world) : holds (start.since world) := by
  obtain ⟨exchanges, record, held⟩ := recorded
  rwa [World.since, record, List.drop_left]

end Body

end Underway

/-- Where `marpa_t_next` offers finitely many trees, and every valuator becomes inactive or fails and
keeps failing after finitely many steps, the function comes to an end if and only if no valuator
fails; and what it comes to is a return, where both stack callbacks are given, the rules and symbols
of the steps are registered and the elements of the stack have room for a pointer. -/
theorem marpaWrapperVb_ends_iff_unfailed {libc : Libc V} {phase : ValuePhase V} {start : World V}
    {wrapperp : Option Wrapper} {valueOptionp : Option (MarpaWrapperValueOption V)}
    {stackOptionp : Option (MarpaWrapperStackOption V)} (grants : libc.AlwaysGrants)
    (inRange : ∀ events, (phase.step events).InRange) (keepsFailing : phase.KeepsFailing start)
    (settles : ∃ trees steps, ∀ fuel, Settles trees steps (start.since (finalState
      (marpaWrapperVb libc fuel phase wrapperp valueOptionp stackOptionp start)))) :
    ∃ enough, ∀ fuel, enough ≤ fuel →
      ((∀ final, marpaWrapperVb libc fuel phase wrapperp valueOptionp stackOptionp start ≠
          .error .exhausted final) ↔
        Unfailed (start.since (finalState
          (marpaWrapperVb libc fuel phase wrapperp valueOptionp stackOptionp start)))) ∧
      (Secured phase wrapperp stackOptionp →
        ((∃ result final, marpaWrapperVb libc fuel phase wrapperp valueOptionp stackOptionp start =
            .ok result final) ↔
          Unfailed (start.since (finalState
            (marpaWrapperVb libc fuel phase wrapperp valueOptionp stackOptionp start))))) := by
  obtain ⟨trees, steps, settles⟩ := settles
  refine ⟨max (2 ^ 32) (max (trees + 1) steps), fun fuel enough => ?_⟩
  have settled := settles fuel
  have ends : Triple (fun world => world = start)
      (marpaWrapperVb libc fuel phase wrapperp valueOptionp stackOptionp)
      (fun _ => Recorded start Unfailed) (Ends start fuel (Secured phase wrapperp stackOptionp)) :=
    marpaWrapperVb_ends grants (by omega) keepsFailing inRange
  have outcome := ends start rfl
  cases run : marpaWrapperVb libc fuel phase wrapperp valueOptionp stackOptionp start with
  | ok result final =>
    rw [run] at outcome
    have unfailed : Unfailed (start.since final) := Recorded.since outcome
    exact ⟨⟨fun _ => unfailed, fun _ _ => nofun⟩,
      fun _ => ⟨fun _ => unfailed, fun _ => ⟨result, final, rfl⟩⟩⟩
  | error fault final =>
    rw [run] at outcome settled
    by_cases exhausted : fault = .exhausted
    · subst exhausted
      have failed : ¬ Unfailed (start.since final) := fun unfailed =>
        (Recorded.since outcome).elim unfailed (settled.not_overlong (by omega) (by omega))
      exact ⟨⟨fun ended => absurd rfl (ended final), fun unfailed => absurd unfailed failed⟩,
        fun _ => ⟨fun ⟨_, _, returns⟩ => (nomatch returns), fun unfailed => absurd unfailed failed⟩⟩
    · have left : ¬ Secured phase wrapperp stackOptionp ∧ Recorded start Unfailed final := by
        cases fault with
        | exhausted => exact absurd rfl exhausted
        | _ => exact outcome
      have unfailed : Unfailed (start.since final) := left.2.since
      refine ⟨⟨fun _ => unfailed, fun _ _ same => ?_⟩, fun secured => absurd secured left.1⟩
      cases same
      exact exhausted rfl

/-! ### One tree -/

/-- The answers of a libmarpa whose valuators fail again once they failed. -/
def ValuePhase.persistent (phase : ValuePhase V) : ValuePhase V :=
  { phase with step := fun events =>
      if (stepsOfValuator events).getLast? = some (.other (-2)) then .other (-2)
      else phase.step events }

theorem ValuePhase.persistent_keepsFailing (phase : ValuePhase V) :
    phase.persistent.KeepsFailing {} :=
  fun _ failing => if_pos failing

/-- What holds of a failure and of the steps of the phase. -/
theorem ValuePhase.persistent_step {phase : ValuePhase V} {fact : MarpaStep → Prop}
    (failure : fact (.other (-2))) (steps : ∀ events, fact (phase.step events))
    (events : List (Event V)) : fact (phase.persistent.step events) := by
  show fact (if _ then _ else _)
  split
  · exact failure
  · exact steps events

/-- The number of steps in a record. -/
def stepsIn (events : List (Event V)) : Nat :=
  events.countP fun
    | .step _ => true
    | _ => false

theorem stepsOfValuator_length (exchanges : List (Event V)) :
    (stepsOfValuator exchanges).length ≤ stepsIn exchanges := by
  induction exchanges using List.reverseRecOn with
  | nil => exact Nat.le_refl 0
  | append_singleton before event inductionHypothesis =>
    rw [stepsOfValuator_snoc, stepsIn, List.countP_append]
    unfold stepsIn at inductionHypothesis
    cases event with
    | valueNew handle => exact Nat.zero_le _
    | step step =>
      rw [valuatorSteps, List.length_append]
      exact Nat.succ_le_succ inductionHypothesis
    | _ => exact inductionHypothesis

/-- A record of few trees and few steps. -/
theorem Settles.of_few {trees steps : Nat} {exchanges : List (Event V)}
    (offered : treesIn exchanges ≤ trees) (made : stepsIn exchanges < steps) :
    Settles trees steps exchanges := by
  refine ⟨offered, fun before isPrefix long => absurd long (Nat.not_le.mpr ?_)⟩
  calc (stepsOfValuator before).length ≤ stepsIn before := stepsOfValuator_length before
    _ ≤ stepsIn exchanges := isPrefix.sublist.countP_le
    _ < steps := made

/-- The sum of one tree. -/
def runSum (fuel : Nat) : EStateM.Result Fault (World Int) Bool :=
  marpaWrapperVb Libc.generous fuel (ValuePhase.walking [sumTree]).persistent (some sumWrapper)
    (some sumOption) (some sumStackOption) {}

/-- One tree was offered at most, and its valuator made four steps at most and did not fail. -/
def walksOnce (outcome : EStateM.Result Fault (World Int) Bool) : Bool :=
  let exchanges := World.since {} (finalState outcome)
  decide (treesIn exchanges ≤ 1) && decide (stepsIn exchanges < 5) && exchanges.all fun
    | .step step => decide (step ≠ .other (-2))
    | _ => true

/-- With five turns the loops of the stack come to their end, and the others with fewer. -/
theorem runSum_walksOnce (fuel : Nat) : walksOnce (runSum fuel) = true := by
  match fuel with
  | 0 | 1 | 2 | 3 | 4 => decide +kernel
  | turns + 5 => cbv

theorem sumTree_inRange : ∀ tree ∈ [sumTree], ∀ step ∈ tree.steps, step.InRange := by
  intro tree member step among
  rcases sumTree_steps tree member step among with rfl | rfl | rfl
  · exact ⟨by decide, by decide⟩
  · exact ⟨by decide, by decide⟩
  · exact ⟨⟨by decide, by decide, by decide⟩, by decide, by decide⟩

/-- The walk over the tree of the sum comes to an end, and the function returns. -/
theorem marpaWrapperVb_ends_iff_unfailed_sum : ∃ enough, ∀ fuel, enough ≤ fuel →
    ∃ result final, runSum fuel = .ok result final := by
  have walks (fuel : Nat) := runSum_walksOnce fuel
  simp only [walksOnce, Bool.and_eq_true, decide_eq_true_eq] at walks
  obtain ⟨enough, ends⟩ := marpaWrapperVb_ends_iff_unfailed Libc.generous_alwaysGrants
    (ValuePhase.persistent_step trivial (ValuePhase.walking_step trivial sumTree_inRange))
    (ValuePhase.persistent_keepsFailing (ValuePhase.walking [sumTree]))
    ⟨1, 5, fun fuel => .of_few (walks fuel).1.1 (walks fuel).1.2⟩
  refine ⟨enough, fun fuel more => ((ends fuel more).2 ⟨?_, ?_, ?_⟩).mpr fun failed => ?_⟩
  · rintro _ ⟨⟩
    exact ⟨rfl, rfl⟩
  · rintro _ ⟨⟩
    exact ValuePhase.persistent_step trivial (ValuePhase.walking_step trivial sumWrapper_knows)
  · rintro _ ⟨⟩
    exact .inr (by decide)
  · have unfailed := List.all_eq_true.mp (walks fuel).2 _ failed
    simp at unfailed

/-! ### A valuator that fails -/

section Failing

variable (fuel turns : Nat)

/-- A libmarpa that offers one tree, whose valuator fails at every step. -/
def ValuePhase.failing : ValuePhase V :=
  { ValuePhase.walking [sumTree] with step := fun _ => .other (-2) }

/-- A new value stack at an address. -/
def emptyStack (address : Nat) : GenericStack Int where
  address := address
  buffer := address + 1
  bufpp := [.null, .null, .null, .null]
  allocSizei := 4
  stackSizei := 0
  elementSizei := 8
  failureCallbackp := true
  freeCallbackp := (marpaWrapperGenericStackOption sumStackOption).freeCallbackp
  copyCallbackp := (marpaWrapperGenericStackOption sumStackOption).copyCallbackp
  optionGrowOnSeti := true
  optionGrowOnGeti := true

/-- The run up to the first tree. -/
def openedTree : VbState Int where
  locals := { marpaBocagep := some 0, marpaOrderp := some 1, marpaTreep := some 2 }
  world := {
    events := [.latestEarleySet 0, .bocageNew (some 0), .orderNew (some 1), .highRankOnlySet 1 1,
      .rank 0, .treeNew (some 2)]
    nextAddress := 3 }

/-- The run up to the first step. -/
def openedValuator : VbState Int where
  locals := {
    marpaBocagep := some 0, marpaOrderp := some 1, marpaTreep := some 2, marpaValuep := some 3
    genericStackp := some (emptyStack 4) }
  world := {
    events := openedTree.world.events ++ [.treeNext 1, .valueNew (some 3), .valuedForce 0,
      .malloc 88 (some 4), .malloc 32 (some 5)]
    nextAddress := 6 }

theorem failing_opens : openTree .failing {} ⟨{}, ({} : World Int)⟩ = .ok () openedTree := rfl

theorem failing_turns : treeTurn Libc.generous (turns + 5) .failing sumWrapper {} sumStackOption ()
      openedTree =
    (do
      loop (VbExit.fault .exhausted) (stepTurn Libc.generous (turns + 5) .failing sumWrapper {}
        sumStackOption) (turns + 5) ()
      reportResult Libc.generous (turns + 5) {}
      closeValuator (turns + 5)
      pure (.next ()) : Vb Int (Turn Unit Unit)) openedValuator := by
  have opened : openValuator Libc.generous (turns + 5) .failing sumStackOption
      { openedTree with world := { openedTree.world with
        events := openedTree.world.events ++ [.treeNext 1] } } = .ok () openedValuator := rfl
  have offered : ask ValuePhase.failing.treeNext .treeNext openedTree.world =
      .ok 1 { openedTree.world with events := openedTree.world.events ++ [.treeNext 1] } := rfl
  rw [treeTurn, run_bind_ok (onWorld_run offered), if_neg (by decide), run_bind_ok opened]

/-- The value phase over the one tree. -/
def runFailing (fuel : Nat) : EStateM.Result Fault (World Int) Bool :=
  marpaWrapperVb Libc.generous fuel .failing (some sumWrapper) none (some sumStackOption) {}

/-- A failed valuator is asked again and again. -/
theorem steps_exhausted (state : VbState Int) : ∃ final,
    loop (.fault .exhausted) (stepTurn Libc.generous fuel .failing sumWrapper {} sumStackOption)
        turns () state = .error (.fault .exhausted) final ∧
      final.world.events = state.world.events ++ List.replicate turns (.step (.other (-2))) := by
  induction turns generalizing state with
  | zero => exact ⟨state, rfl, (List.append_nil _).symm⟩
  | succ turns inductionHypothesis =>
    obtain ⟨final, run, record⟩ := inductionHypothesis
      ⟨{ state.locals with valueOutputp := .null },
        { state.world with events := state.world.events ++ [.step (.other (-2))] }⟩
    refine ⟨final, by rw [loop_next (stepTurn_failed rfl), run], ?_⟩
    rw [record, List.append_assoc]
    rfl

theorem runFailing_exhausted : ∃ final, runFailing (turns + 5) = .error .exhausted final ∧
    final.events = openedValuator.world.events ++
      List.replicate (turns + 5) (.step (.other (-2))) := by
  obtain ⟨final, run, record⟩ := steps_exhausted (turns + 5) (turns + 5) openedValuator
  refine ⟨final.world, ?_, record⟩
  have body : vbBody Libc.generous (turns + 5) .failing (some sumWrapper) none
      (some sumStackOption) ⟨{}, {}⟩ = .error (.fault .exhausted) final :=
    (run_bind_ok rfl).trans ((run_bind_ok failing_opens).trans
      (loop_error ((failing_turns _).trans (run_bind_error run))))
  unfold runFailing marpaWrapperVb
  rw [body]

/-- A run that is out of fuel, with one tree at most and no step but a failure. -/
def outlasts : EStateM.Result Fault (World Int) Bool → Bool
  | .error .exhausted final => decide (treesIn final.events ≤ 1) && final.events.all fun
      | .step step => decide (step = .other (-2))
      | _ => true
  | _ => false

theorem runFailing_outlasts : outlasts (runFailing fuel) = true := by
  match fuel with
  | 0 | 1 | 2 | 3 | 4 => decide +kernel
  | turns + 5 =>
    obtain ⟨final, run, record⟩ := runFailing_exhausted turns
    have opening : openedValuator.world.events.all (fun
        | .step step => decide (step = .other (-2))
        | _ => true) = true := by decide
    have offered : treesIn final.events ≤ 1 := by
      rw [record, treesIn_append, treesIn, treesIn, List.countP_replicate,
        if_neg Bool.false_ne_true]
      decide
    rw [run, outlasts, Bool.and_eq_true]
    refine ⟨decide_eq_true offered, ?_⟩
    rw [record, List.all_append, opening, List.all_replicate]
    rfl

theorem settles_of_outlasts {outcome : EStateM.Result Fault (World Int) Bool}
    (runs : outlasts outcome = true) : Settles 1 1 (World.since {} (finalState outcome)) := by
  unfold outlasts at runs
  split at runs
  · rename_i final
    rw [Bool.and_eq_true, decide_eq_true_eq, List.all_eq_true] at runs
    refine ⟨runs.1, fun before isPrefix long => ?_⟩
    obtain ⟨step, member⟩ := List.exists_mem_of_length_pos long
    have failed := runs.2 _ (isPrefix.subset (mem_of_stepsOfValuator member))
    rw [of_decide_eq_true failed] at member
    exact .inr member
  · cases runs

/-- A valuator that fails at its first step, and at every step after it: the loop over its steps does
not end, whatever the fuel. -/
theorem marpaWrapperVb_outlasts_failure :
    Libc.AlwaysGrants (V := Int) Libc.generous ∧
    ValuePhase.failing.KeepsFailing ({} : World Int) ∧
    (∃ trees steps, ∀ fuel, Settles trees steps
      (World.since {} (finalState (runFailing fuel)))) ∧
    ∀ fuel result final, runFailing fuel ≠ .ok result final := by
  refine ⟨Libc.generous_alwaysGrants, fun _ _ => rfl,
    ⟨1, 1, fun fuel => settles_of_outlasts (runFailing_outlasts fuel)⟩,
    fun fuel result final returns => ?_⟩
  have runs := runFailing_outlasts fuel
  rw [returns] at runs
  cases runs

end Failing

end MarpaWrapper
