/-
This file is about stores that fail. What a failed store leaves is judged by what can
be observed afterwards, with calls that read the stack. A push that is refused memory
leaves the stack as it was, except that a buffer that it doubled before stays doubled,
which shows on a stack that grows on reads. `seti` grows the stack and lets go of the
old element before it asks for the block of the new one, and it goes on after a refused
growth until one is granted. Neither of the two looks at what the copy callback answers
beyond reporting it: the element is stored and the call succeeds.
-/

import MarpaWrapper.GenericStackCells

namespace MarpaWrapper

open Effects Tables

variable {V : Type} {libc : Libc V} {fuel : Nat} {stack stack' : GenericStack V}
  {world world' : World V} {index result : Nat}

/-! ### Observations -/

/-- The calls that read a stack. -/
def StackCall.observes {α : Type} : StackCall α → Bool
  | .popp | .getp _ | .sizei => true
  | .pushi _ | .seti .. => false

/-- No sequence of calls that read tells the stacks apart, whatever the world that they are made
in. -/
def Unchanged (stack stack' : GenericStack V) : Prop :=
  ∀ (libc : Libc V) (fuel : Nat) (calls : List (StackCall (Element V))) (world : World V),
    (∀ call ∈ calls, call.observes = true) →
    answersOf (runCalls (stackCall libc fuel) calls stack' world) =
      answersOf (runCalls (stackCall libc fuel) calls stack world)

theorem Unchanged.refl (stack : GenericStack V) : Unchanged stack stack :=
  fun _ _ _ _ _ => rfl

/-- A sound stack agrees with the list of its entries. -/
theorem GenericStack.Sound.agrees (sound : stack.Sound) :
    stack.Agrees ((List.range stack.stackSizei).map stack.entry) := by
  refine ⟨sound, by rw [List.length_map, List.length_range], fun index below => ?_⟩
  rw [List.getElem?_map, List.getElem?_range below]
  rfl

/-- Where reads do not grow the stack, a call that reads follows the list, whatever is granted. -/
theorem observing_follows {entries : List (Option (Element V))} (libc : Libc V) (fuel : Nat)
    (agrees : stack.Agrees entries) (fixed : stack.optionGrowOnGeti = false)
    {call : StackCall (Element V)} (observes : call.observes = true) (world : World V) :
    ∃ answer stack' world', stackCall libc fuel call stack world = .ok (answer, stack') world' ∧
      stack.SameSettings stack' ∧ answer = (listCall false call entries).1 ∧
      stack'.Agrees (listCall false call entries).2 := by
  cases call with
  | pushi elementp => cases observes
  | seti index elementp => cases observes
  | popp =>
    obtain ⟨answer, stack', world', entry, run, follows⟩ :=
      @popp_follows _ libc fuel _ _ agrees world
    exact ⟨answer, stack', world', run, follows.settings, follows.answers, follows.agrees⟩
  | getp index =>
    obtain ⟨answer, stack', world', entry, run, follows⟩ :=
      @getp_follows _ libc fuel _ _ agrees fixed index world
    exact ⟨answer, stack', world', run, follows.settings, follows.answers, follows.agrees⟩
  | sizei =>
    exact ⟨_, stack, world, rfl, .refl stack,
      congrArg StackAnswer.number agrees.reads.length.symm, agrees⟩

/-- The answers to calls that read are those of the list. -/
theorem observations_eq {entries : List (Option (Element V))} (libc : Libc V) (fuel : Nat)
    (agrees : stack.Agrees entries) (fixed : stack.optionGrowOnGeti = false)
    (calls : List (StackCall (Element V))) (observing : ∀ call ∈ calls, call.observes = true)
    (world : World V) :
    answersOf (runCalls (stackCall libc fuel) calls stack world) =
      some (listAnswers false calls entries) := by
  induction calls generalizing stack entries world with
  | nil => rfl
  | cons call rest inductionHypothesis =>
    obtain ⟨answer, stack', between, head, settings, answers, agrees'⟩ :=
      observing_follows libc fuel agrees fixed (observing call List.mem_cons_self) world
    have tail := inductionHypothesis agrees' (settings.optionGrowOnGeti.trans fixed)
      (fun call member => observing call (List.mem_cons_of_mem _ member)) between
    rw [runCalls_cons head, listAnswers, ← answers]
    cases run : runCalls (stackCall libc fuel) rest stack' between with
    | ok value final =>
      rw [run] at tail
      exact congrArg (Option.map (answer :: ·)) tail
    | error fault final =>
      rw [run] at tail
      cases tail

/-- Where reads do not grow the stack, only its entries are observed. -/
theorem unchanged_of_entries (sound : stack.Sound) (sound' : stack'.Sound)
    (fixed : stack.optionGrowOnGeti = false) (fixed' : stack'.optionGrowOnGeti = false)
    (size : stack'.stackSizei = stack.stackSizei)
    (kept : ∀ index < stack.stackSizei, stack'.entry index = stack.entry index) :
    Unchanged stack stack' := by
  intro libc fuel calls world observing
  have same : (List.range stack'.stackSizei).map stack'.entry =
      (List.range stack.stackSizei).map stack.entry := by
    rw [size]
    exact List.map_congr_left fun index member => kept index (List.mem_range.mp member)
  rw [observations_eq libc fuel sound'.agrees fixed' calls observing,
    observations_eq libc fuel sound.agrees fixed calls observing, same]

/-- The size is observed. -/
theorem Unchanged.size (unchanged : Unchanged stack stack') :
    stack'.stackSizei = stack.stackSizei := by
  have answers : some [StackAnswer.number stack'.stackSizei] =
      some [(StackAnswer.number stack.stackSizei : StackAnswer (Element V))] :=
    unchanged Libc.generous 0 [.sizei] {} (by simp [StackCall.observes])
  exact StackAnswer.number.inj (List.cons.inj (Option.some.inj answers)).1

/-- So is a cell that `getp` reads. -/
theorem Unchanged.entry (unchanged : Unchanged stack stack') (sound : stack.Sound)
    (sound' : stack'.Sound) (settings : stack.SameSettings stack')
    (below : index < stack.allocSizei) (below' : index < stack'.allocSizei)
    (granted : index < stack.stackSizei ∨ stack.optionGrowOnGeti = true) :
    stack'.entry index = stack.entry index := by
  have answers := unchanged Libc.generous 0 [.getp index] {} (by simp [StackCall.observes])
  have granted' : index < stack'.stackSizei ∨ stack'.optionGrowOnGeti = true := by
    rwa [unchanged.size, settings.optionGrowOnGeti]
  rw [runCalls_cons (run_bind_ok (genericStackGetp_run sound' below' granted' _)),
    runCalls_cons (run_bind_ok (genericStackGetp_run sound below granted _))] at answers
  exact StackAnswer.pointer.inj (List.cons.inj (Option.some.inj answers)).1

/-! ### What a failed store leaves -/

/-- The copy callback failed. -/
def Event.failsCopy : Event V → Bool
  | .stackCopy _ _ errnum => errnum != 0
  | _ => false

/-- The growth of the buffer was refused. -/
def Event.refusesGrowth : Event V → Bool
  | .realloc _ none => true
  | _ => false

/-- The block of an element was refused. -/
def Event.refusesElement : Event V → Bool
  | .malloc _ none => true
  | _ => false

/-- Something that a store needs failed. -/
def Event.failsStore (event : Event V) : Bool :=
  event.failsCopy || event.refusesGrowth || event.refusesElement

/-- A store that made `exchanges` and returned `result`: it failed when something that it needed
failed, and when it failed, no later observation tells that it was made, and none of the elements of
the stack went to the free callback. -/
structure StoresCleanly (stack : GenericStack V) (exchanges : List (Event V)) (result : Nat)
    (stack' : GenericStack V) : Prop where
  reported : (∃ event ∈ exchanges, event.failsStore = true) → result = 0
  unchanged : result = 0 → Unchanged stack stack'
  unreleased : result = 0 → ∀ element ∈ releasedIn exchanges, ∀ index < stack.stackSizei,
    stack.entry index ≠ some element

/-- A store that succeeded. -/
theorem storesCleanly_one {exchanges : List (Event V)} :
    StoresCleanly stack exchanges 1 stack' ↔
      ∀ event ∈ exchanges, event.failsStore = false := by
  constructor
  · intro clean event member
    by_contra failed
    exact absurd (clean.reported ⟨event, member, eq_true_of_ne_false failed⟩) Nat.one_ne_zero
  · intro fine
    refine ⟨?_, fun failed => absurd failed Nat.one_ne_zero,
      fun failed => absurd failed Nat.one_ne_zero⟩
    rintro ⟨event, member, failed⟩
    rw [fine event member] at failed
    cases failed

/-- A store that failed. -/
theorem storesCleanly_zero {exchanges : List (Event V)} (nothing : releasedIn exchanges = [])
    (unchanged : Unchanged stack stack') : StoresCleanly stack exchanges 0 stack' := by
  refine ⟨fun _ => rfl, fun _ => unchanged, fun _ element member => ?_⟩
  rw [nothing] at member
  cases member

/-! ### Kinds of exchanges -/

theorem OfGrowth.harmless {event : Event V} (growth : OfGrowth event) :
    event.failsCopy = false ∧ event.refusesElement = false := by
  cases event <;> first | exact ⟨rfl, rfl⟩ | exact absurd growth Bool.false_ne_true

theorem OfRelease.harmless {event : Event V} (release : OfRelease event) :
    event.failsStore = false := by
  cases event <;> first | rfl | exact absurd release Bool.false_ne_true

theorem releasedIn_growth {exchanges : List (Event V)}
    (growth : ∀ event ∈ exchanges, OfGrowth event) : releasedIn exchanges = [] := by
  refine List.filterMap_eq_nil_iff.mpr fun event member => ?_
  have ofGrowth := growth event member
  cases event <;> first | rfl | exact absurd ofGrowth Bool.false_ne_true

/-- What a refused element adds to the record. -/
def elementRefusal (stack : GenericStack V) : List (Event V) :=
  .malloc stack.elementSizei none :: failureReport stack.failureCallbackp .system enomem

theorem failureReport_ofGrowth {failureCallbackp : Bool} {errorType : GenericStackError}
    {errorNumber : Int} {event : Event V}
    (member : event ∈ failureReport failureCallbackp errorType errorNumber) : OfGrowth event := by
  unfold failureReport at member
  split at member
  · rw [List.mem_singleton.mp member]
    rfl
  · cases member

/-- The exchanges of a store that is not refused anything. -/
abbrev OfGranted (event : Event V) : Prop :=
  event.refusesGrowth = false ∧ event.refusesElement = false

/-- When the block is refused there is no copy; else no request is refused. -/
theorem copyElement_outcome (callable : stack.Callable) {freed : Option (Element V)}
    {source : Element V} {copied : Option (Element V)}
    (run : copyElement libc stack freed source world = .ok copied world') :
    copied = none ∧ world' = { world with events := world.events ++ elementRefusal stack } ∨
      ∃ target, copied = some target ∧ Grown OfGranted world world' := by
  unfold copyElement at run
  cases grant : libc.grants world.events stack.elementSizei with
  | false =>
    left
    rw [malloc, run_bind_ok (run_acquire_refused grant)] at run
    simp only at run
    rw [run_bind_ok (reportFailure_eq _ _ _ _), List.append_assoc] at run
    cases run
    exact ⟨rfl, rfl⟩
  | true =>
    right
    rw [malloc, run_bind_ok (run_acquire_granted grant)] at run
    simp only at run
    by_cases same : freed.any (·.address == source.address) = true
    · rw [if_pos same] at run
      cases run
    rw [if_neg same] at run
    have requested : Grown OfGranted world { world with
        events := world.events ++ [.malloc stack.elementSizei (some world.nextAddress)]
        nextAddress := world.nextAddress + 1 } := .one ⟨rfl, rfl⟩ (Nat.le_succ _)
    cases copy : stack.copyCallbackp with
    | none =>
      rw [copy] at run
      cases run
      exact ⟨_, rfl, requested⟩
    | some callback =>
      obtain ⟨errnum, value, answer⟩ := callable.copy callback copy
        (world.events ++ [.malloc stack.elementSizei (some world.nextAddress)]) source
      have copied : Grown OfGranted world { world with
          events := world.events ++ [.malloc stack.elementSizei (some world.nextAddress)] ++
            [.stackCopy source ⟨world.nextAddress, value⟩ errnum]
          nextAddress := world.nextAddress + 1 } := requested.event ⟨rfl, rfl⟩ (Nat.le_refl _)
      rw [copy] at run
      simp only at run
      rw [run_bind_ok (callCopyCallback_run world.nextAddress answer)] at run
      simp only at run
      obtain ⟨final, reported, -⟩ := reportCallbackError_run stack.failureCallbackp errnum
        { world with
          events := world.events ++ [.malloc stack.elementSizei (some world.nextAddress)] ++
            [.stackCopy source ⟨world.nextAddress, value⟩ errnum]
          nextAddress := world.nextAddress + 1 }
      rw [run_bind_ok reported] at run
      cases run
      refine ⟨_, rfl, copied.trans (.of_run (fun start => ?_) reported) fun _ same => same⟩
      exact .ite (reportFailure_keeps (fun _ _ => ⟨rfl, rfl⟩) _ _ _) (.pure _)

/-! ### Growth -/

/-- The growth at the head of a push: the stack stays as it is when it is refused, else it keeps
its entries and, unless it was full, its buffer. -/
theorem growBuffer_outcome (sound : stack.Sound) {grows : Bool} {grown : GenericStack V}
    (run : growBuffer libc fuel stack world = .ok (grows, grown) world') :
    (grows = false ∧ grown = stack ∧ Grown OfGrowth world world') ∨
      (grows = true ∧ (stack.stackSizei < stack.allocSizei ∧ grown = stack ∨
          stack.stackSizei = stack.allocSizei ∧ stack.allocSizei < 2 ^ 31 ∧
            ∃ buffer, grown = stack.enlarged buffer) ∧
        Grown (fun event => event.failsStore = false ∧ OfGrowth event) world world') := by
  have grownBy := Grown.of_run (fun _ => growBuffer_grows) run
  rcases growBuffer_inv sound run with ⟨room, rfl, rfl, rfl⟩ | ⟨-, rfl, rfl, -, rfl⟩ |
    ⟨full, rfl, small, rfl, -, rfl⟩
  · exact .inr ⟨rfl, .inl ⟨room, rfl⟩, .refl _ _⟩
  · exact .inl ⟨rfl, rfl, grownBy⟩
  · exact .inr ⟨rfl, .inr ⟨full, small, _, rfl⟩, .one ⟨rfl, rfl⟩ (Nat.le_succ _)⟩

/-- A turn of the growth loop does not make the stack smaller, and one that leaves the loop makes it
larger. -/
theorem GrowthTurn.larger {next : GenericStack V} (turn : GrowthTurn libc stack world next world') :
    stack.stackSizei < next.stackSizei ∨
      stack.stackSizei = next.stackSizei ∧ next.allocSizei = stack.allocSizei := by
  cases turn with
  | pads room => exact .inl (Nat.lt_succ_self stack.stackSizei)
  | retries full refusal => exact .inr ⟨rfl, rfl⟩
  | doubles full small grant => exact .inl (Nat.lt_succ_self stack.stackSizei)

/-- A growth loop that comes to its end for an index past the buffer makes the stack larger. -/
theorem growTo_enlarges (turns : Nat) (sound : stack.Sound)
    {grown : GenericStack V}
    (run : loop .exhausted (growToTurn libc fuel index) turns stack world = .ok grown world') :
    grown.Sound ∧ stack.SameSettings grown ∧ index < grown.allocSizei ∧
      stack.stackSizei ≤ grown.stackSizei ∧
      (stack.allocSizei ≤ index → stack.stackSizei < grown.stackSizei) := by
  induction turns generalizing stack world with
  | zero => cases run
  | succ turns inductionHypothesis =>
    by_cases below : index < stack.allocSizei
    · rw [loop_done (growToTurn_done below)] at run
      cases run
      exact ⟨sound, .refl _, below, Nat.le_refl _, fun beyond => absurd below (by omega)⟩
    · obtain ⟨left, outcome, between, same, turn, rest⟩ := loop_eq_ok run
      obtain rfl : turns = left := Nat.succ.inj same
      obtain ⟨next, rfl, made⟩ := growToTurn_inv sound (Nat.not_lt.mp below) turn
      obtain ⟨sound', settings⟩ := made.keeps sound
      obtain ⟨sound'', settings', reached, rises, passes⟩ := inductionHypothesis sound' rest
      refine ⟨sound'', settings.trans settings', reached, ?_, fun beyond => ?_⟩
      · rcases made.larger with larger | ⟨still, -⟩ <;> omega
      · rcases made.larger with larger | ⟨still, capacity⟩
        · omega
        · have passes' := passes (by omega)
          omega

/-- The growth at the head of `seti` either does nothing, or it makes the stack larger. -/
theorem growTo_outcome (sound : stack.Sound) {optionGrow : Bool}
    {grown : GenericStack V}
    (run : growTo libc fuel optionGrow stack index world = .ok grown world') :
    grown.Sound ∧ stack.SameSettings grown ∧
      ((grown = stack ∧ world' = world ∧ (index < stack.allocSizei ∨ optionGrow = false)) ∨
        (optionGrow = true ∧ stack.allocSizei ≤ index ∧ index < grown.allocSizei ∧
          stack.stackSizei < grown.stackSizei)) := by
  by_cases grows : index ≥ stack.allocSizei ∧ optionGrow
  · rw [growTo, if_pos grows] at run
    obtain ⟨sound', settings, reached, -, passes⟩ := growTo_enlarges fuel sound run
    exact ⟨sound', settings, .inr ⟨grows.2, grows.1, reached, passes grows.1⟩⟩
  · rw [growTo, if_neg grows] at run
    cases run
    refine ⟨sound, .refl stack, .inl ⟨rfl, rfl, ?_⟩⟩
    by_cases below : index < stack.allocSizei
    · exact .inl below
    · exact .inr (eq_false_of_ne_true fun permitted => grows ⟨Nat.not_lt.mp below, permitted⟩)

theorem releasedIn_refusal (stack : GenericStack V) : releasedIn (elementRefusal stack) = [] := by
  unfold elementRefusal failureReport
  split <;> rfl

theorem elementRefusal_copies {event : Event V} (member : event ∈ elementRefusal stack) :
    event.failsCopy = false ∧ event.refusesGrowth = false := by
  rcases List.mem_cons.mp member with rfl | reported
  · exact ⟨rfl, rfl⟩
  · unfold failureReport at reported
    split at reported
    · rw [List.mem_singleton.mp reported]
      exact ⟨rfl, rfl⟩
    · cases reported

theorem OfGranted.of_fine {event : Event V} (fine : event.failsStore = false) :
    OfGranted event := by
  simp only [Event.failsStore, Bool.or_eq_false_iff] at fine
  exact ⟨fine.1.2, fine.2⟩

/-! ### A push -/

/-- A read past the buffer makes a stack that grows on reads larger. -/
theorem genericStackGetp_enlarges (sound : stack.Sound) (beyond : stack.allocSizei ≤ index)
    (grows : stack.optionGrowOnGeti = true) {value : Option (Element V)}
    (run : genericStackGetp libc fuel stack index world = .ok (value, stack') world') :
    stack.stackSizei < stack'.stackSizei := by
  obtain ⟨grown, between, growth, rest⟩ := run_bind_eq_ok run
  obtain ⟨-, settings, outcome⟩ := growTo_outcome sound growth
  rw [if_neg (fun refused => refused.2 (settings.optionGrowOnGeti.trans grows))] at rest
  obtain ⟨found, after, read, returned⟩ := run_bind_eq_ok rest
  cases returned
  rcases outcome with ⟨-, -, below | fixed⟩ | ⟨-, -, -, larger⟩
  · exact absurd below (Nat.not_lt.mpr beyond)
  · exact absurd (fixed.symm.trans grows) Bool.false_ne_true
  · exact larger

/-- A doubled buffer is observed where reads grow the stack: there a read past the old buffer makes
the stack larger, and one inside the new buffer does not. -/
theorem unchanged_enlarged_iff (sound : stack.Sound)
    (full : stack.stackSizei = stack.allocSizei) (small : stack.allocSizei < 2 ^ 31)
    (buffer : Nat) : Unchanged stack (stack.enlarged buffer) ↔ stack.optionGrowOnGeti = false := by
  have settings := stack.enlarged_settings buffer
  constructor
  · intro unchanged
    by_contra grows
    rw [Bool.not_eq_false] at grows
    have inside : stack.allocSizei < (stack.enlarged buffer).allocSizei := by
      show stack.allocSizei < stack.allocSizei * 2
      have positive := sound.positive
      omega
    obtain ⟨grown, between, got, -, -⟩ := genericStackGetp_grows Libc.generous_alwaysGrants
      (Nat.le_refl _) sound small (Nat.le_refl _) grows ({} : World V)
    have larger := genericStackGetp_enlarges sound (Nat.le_refl _) grows got
    have answers := unchanged Libc.generous (2 ^ 32) [.getp stack.allocSizei, .sizei] {}
      (by simp [StackCall.observes])
    have enlarged : answersOf (runCalls (stackCall Libc.generous (2 ^ 32))
        [.getp stack.allocSizei, .sizei] (stack.enlarged buffer) {}) =
          some [.pointer ((stack.enlarged buffer).entry stack.allocSizei),
            .number stack.stackSizei] := by
      rw [runCalls_cons (run_bind_ok (genericStackGetp_run (sound.enlarged buffer small) inside
        (.inr (settings.optionGrowOnGeti.trans grows)) _))]
      rfl
    have before : answersOf (runCalls (stackCall Libc.generous (2 ^ 32))
        [.getp stack.allocSizei, .sizei] stack {}) =
          some [.pointer none, .number grown.stackSizei] := by
      rw [runCalls_cons (run_bind_ok got)]
      rfl
    rw [enlarged, before] at answers
    have sizes : stack.stackSizei = grown.stackSizei :=
      StackAnswer.number.inj (List.cons.inj (List.cons.inj (Option.some.inj answers)).2).1
    omega
  · intro fixed
    exact unchanged_of_entries sound (sound.enlarged buffer small) fixed
      (settings.optionGrowOnGeti.trans fixed) rfl fun index _ => sound.enlarged_entry buffer index

/-- What a push needs besides a copy that does not fail: the block of the element is only refused
where reads do not grow the stack or where the buffer was not full. -/
def PushesCleanly (stack : GenericStack V) (event : Event V) : Prop :=
  event.failsCopy = false ∧ (event.refusesElement = true →
    stack.optionGrowOnGeti = false ∨ stack.stackSizei < stack.allocSizei)

/-- A push that is not refused anything. -/
theorem storesCleanly_pushed {exchanges : List (Event V)}
    (granted : ∀ event ∈ exchanges, OfGranted event) :
    StoresCleanly stack exchanges 1 stack' ↔ ∀ event ∈ exchanges, PushesCleanly stack event := by
  rw [storesCleanly_one]
  refine forall₂_congr fun event member => ?_
  obtain ⟨growth, element⟩ := granted event member
  rw [Event.failsStore, growth, element, Bool.or_false, Bool.or_false]
  exact ⟨fun fine => ⟨fine, fun refused => absurd refused (ne_true_of_eq_false element)⟩,
    fun fine => fine.1⟩

/-- A push fails cleanly exactly when no copy fails, and the block of the element is only refused
where reads do not grow the stack or where the buffer was not full. -/
theorem genericStackPushi_cleanly (sound : stack.Sound) (callable : stack.Callable)
    {elementp : Option (Element V)}
    (run : genericStackPushi libc fuel stack elementp world = .ok (result, stack') world') :
    ∃ exchanges, world'.events = world.events ++ exchanges ∧
      (StoresCleanly stack exchanges result stack' ↔
        ∀ event ∈ exchanges, PushesCleanly stack event) := by
  obtain ⟨⟨grows, grown⟩, between, growth, rest⟩ := run_bind_eq_ok run
  rcases growBuffer_outcome sound growth with ⟨rfl, rfl, grownBy⟩ | ⟨rfl, outcome, grownBy⟩
  · cases rest
    obtain ⟨exchanges, record, kinds⟩ := grownBy.record
    exact ⟨exchanges, record, iff_of_true
      (storesCleanly_zero (releasedIn_growth kinds) (.refl stack')) fun event member =>
        ⟨(kinds event member).harmless.1, fun refused =>
          absurd refused (ne_true_of_eq_false (kinds event member).harmless.2)⟩⟩
  · have became := (growBuffer_became sound growth).1
    have granted : Grown OfGranted world between :=
      grownBy.weaken fun _ fine => .of_fine fine.1
    simp only [if_true] at rest
    cases elementp with
    | none =>
      obtain ⟨bufpp, final, written, rest⟩ := run_bind_eq_ok rest
      cases rest
      obtain ⟨exchanges, record, kinds⟩ :=
        (granted.trans (.of_run (fun _ => writeCell_keeps _ _ _) written) fun _ same => same).record
      exact ⟨exchanges, record, storesCleanly_pushed kinds⟩
    | some element =>
      obtain ⟨copied, after, copy, rest⟩ := run_bind_eq_ok rest
      rcases copyElement_outcome (callable.of_sameSettings became.settings) copy with
        ⟨rfl, rfl⟩ | ⟨target, rfl, grownBy'⟩
      · -- The block is refused after the growth.
        cases rest
        obtain ⟨exchanges, record, kinds⟩ := grownBy.record
        have nothing : releasedIn (exchanges ++ elementRefusal stack') = [] := by
          rw [releasedIn_append, releasedIn_growth fun event member => (kinds event member).2,
            releasedIn_refusal]
          rfl
        refine ⟨exchanges ++ elementRefusal stack', ?_, ?_⟩
        · show between.events ++ elementRefusal stack' = _
          rw [record, List.append_assoc]
        have copies : ∀ event ∈ exchanges ++ elementRefusal stack', event.failsCopy = false := by
          intro event member
          rcases List.mem_append.mp member with earlier | later
          · exact (kinds event earlier).2.harmless.1
          · exact (elementRefusal_copies later).1
        have condition : (∀ event ∈ exchanges ++ elementRefusal stack',
            PushesCleanly stack event) ↔
            stack.optionGrowOnGeti = false ∨ stack.stackSizei < stack.allocSizei :=
          ⟨fun fine => (fine _ (List.mem_append_right _ List.mem_cons_self)).2 rfl,
            fun allowed event member => ⟨copies event member, fun _ => allowed⟩⟩
        rw [condition]
        rcases outcome with ⟨room, rfl⟩ | ⟨full, small, buffer, rfl⟩
        · exact iff_of_true (storesCleanly_zero nothing (.refl _)) (.inr room)
        · rw [← unchanged_enlarged_iff sound full small buffer]
          exact ⟨fun clean => .inl (clean.unchanged rfl), fun allowed =>
            storesCleanly_zero nothing (allowed.resolve_right (by omega))⟩
      · simp only at rest
        obtain ⟨bufpp, final, written, rest⟩ := run_bind_eq_ok rest
        cases rest
        have stored : Grown OfGranted world
            { final with events := final.events ++ [.stackStore target] } :=
          ((granted.trans grownBy' fun _ same => same).trans
            (.of_run (fun _ => writeCell_keeps _ _ _) written) fun _ same => same).event
              ⟨rfl, rfl⟩ (Nat.le_refl _)
        obtain ⟨exchanges, record, kinds⟩ := stored.record
        exact ⟨exchanges, record, storesCleanly_pushed kinds⟩

/-! ### A store at an index -/

/-- What `seti` needs besides a copy that does not fail: no growth is refused, and the block of the
element is only refused when the cell was allocated and either empty or, above the entries, out of
the reach of reads. -/
def SetsCleanly (stack : GenericStack V) (index : Nat) (event : Event V) : Prop :=
  event.failsCopy = false ∧ event.refusesGrowth = false ∧
    (event.refusesElement = true → index < stack.allocSizei ∧
      (stack.entry index = none ∨
        stack.stackSizei ≤ index ∧ stack.optionGrowOnGeti = false))

/-- A `seti` whose element is not refused its block. -/
theorem storesCleanly_set {exchanges : List (Event V)}
    (granted : ∀ event ∈ exchanges, event.refusesElement = false) :
    StoresCleanly stack exchanges 1 stack' ↔
      ∀ event ∈ exchanges, SetsCleanly stack index event := by
  rw [storesCleanly_one]
  refine forall₂_congr fun event member => ?_
  have element := granted event member
  rw [Event.failsStore, element, Bool.or_false, Bool.or_eq_false_iff]
  exact ⟨fun fine => ⟨fine.1, fine.2, fun refused => absurd refused (ne_true_of_eq_false element)⟩,
    fun fine => ⟨fine.1, fine.2.1⟩⟩

/-- A `seti` that only reports a failure. -/
theorem setsCleanly_reported {failureCallbackp : Bool} {errorType : GenericStackError}
    {errorNumber : Int} {event : Event V}
    (member : event ∈ failureReport failureCallbackp errorType errorNumber) :
    SetsCleanly stack index event := by
  unfold failureReport at member
  split at member
  · rw [List.mem_singleton.mp member]
    exact ⟨rfl, rfl, nofun⟩
  · cases member

/-- An empty cell stays as it is. -/
theorem clearCell_empty {cells : List (Slot (Element V))} (inside : index < cells.length)
    (written : cells[index]? ≠ some .indeterminate)
    (empty : cells[index]?.bind Slot.target? = none) :
    clearCell stack cells index world = .ok cells world := by
  unfold clearCell
  rw [run_bind_ok (readCell_target inside written), empty]
  rfl

/-- What clearing a cell releases is what the cell held. -/
theorem clearCell_outcome (sound : stack.Sound) (callable : stack.Callable)
    (below : index < stack.allocSizei) {cells : List (Slot (Element V))} {cleared : World V}
    (clear : clearCell stack stack.bufpp index world = .ok cells cleared) :
    ∃ exchanges, cleared.events = world.events ++ exchanges ∧
      (∀ event ∈ exchanges, event.failsStore = false) ∧
      ∀ element ∈ releasedIn exchanges, stack.entry index = some element := by
  obtain ⟨cells', world', run, -, -, -, exchanged⟩ := clearCell_run callable
    (Nat.lt_of_lt_of_le below sound.room) (sound.written index below) world
  cases run.symm.trans clear
  obtain ⟨exchanges, record, -, -, released⟩ := exchanged.events
  obtain ⟨releases, record', kinds⟩ :=
    (Grown.of_run (fun _ => clearCell_releases stack.bufpp index) clear).record
  obtain rfl : exchanges = releases := List.append_cancel_left (record.symm.trans record')
  refine ⟨exchanges, record, fun event member => (kinds event member).harmless,
    fun element member => ?_⟩
  rw [released, GenericStack.handedBack] at member
  split at member
  · exact Option.mem_toList.mp member
  · cases member

/-- A `seti` that is refused the block of its element, with a cell that was allocated: what it did
is to clear the cell. -/
theorem storesCleanly_cleared (sound : stack.Sound) (callable : stack.Callable)
    (apart : stack.HoldsApart world) (below : index < stack.allocSizei)
    {cells : List (Slot (Element V))} {cleared : World V}
    (clear : clearCell stack stack.bufpp index world = .ok cells cleared)
    {exchanges : List (Event V)}
    (released : ∀ element ∈ releasedIn exchanges, stack.entry index = some element) :
    StoresCleanly stack exchanges 0 { stack with bufpp := cells } ↔
      stack.entry index = none ∨ stack.stackSizei ≤ index ∧ stack.optionGrowOnGeti = false := by
  have room := Nat.lt_of_lt_of_le below sound.room
  have cellsEq := (clearCell_inside callable room).ok trivial clear
  have became : stack.Became { stack with bufpp := stack.bufpp.set index .null } stack.stackSizei
      (Function.update stack.entry index none) := sound.became_of_set (by simp) below sound.used
  rw [← cellsEq] at became
  have emptied : GenericStack.entry { stack with bufpp := cells } index = none := by
    rw [became.entries, Function.update_self]
  constructor
  · intro clean
    by_contra condition
    obtain ⟨occupied, reads⟩ := not_or.mp condition
    refine occupied (((clean.unchanged rfl).entry sound became.sound became.settings below below
      ?_).symm.trans emptied)
    by_cases inside : index < stack.stackSizei
    · exact .inl inside
    · exact .inr (eq_true_of_ne_false fun fixed => reads ⟨Nat.not_lt.mp inside, fixed⟩)
  · rintro (empty | ⟨above, fixed⟩)
    · cases (clearCell_empty room (sound.written index below) empty).symm.trans clear
      refine storesCleanly_zero ?_ (.refl stack)
      refine List.eq_nil_iff_forall_not_mem.mpr fun element member => ?_
      cases empty.symm.trans (released element member)
    · refine ⟨fun _ => rfl, fun _ => unchanged_of_entries sound became.sound fixed fixed rfl
        fun other inside => ?_, fun _ element member other inside found => ?_⟩
      · rw [became.entries, Function.update_of_ne (by omega)]
      · have same := apart.apart index other element element (released element member) found rfl
        omega

/-- `seti` fails cleanly exactly when no copy fails, no growth is refused, and the block of the
element is only refused when the cell was allocated and either empty or, above the entries, out of
the reach of reads. -/
theorem genericStackSeti_cleanly (sound : stack.Sound) (callable : stack.Callable)
    (apart : stack.HoldsApart world) {elementp : Option (Element V)}
    (run : genericStackSeti libc fuel stack index elementp world = .ok (result, stack') world') :
    ∃ exchanges, world'.events = world.events ++ exchanges ∧
      (StoresCleanly stack exchanges result stack' ↔
        ∀ event ∈ exchanges, SetsCleanly stack index event) := by
  simp only [genericStackSeti] at run
  obtain ⟨grown, between, growth, rest⟩ := run_bind_eq_ok run
  have grownBy := Grown.of_run (fun _ => growTo_grows _ _) growth
  obtain ⟨sound', same, outcome⟩ := growTo_outcome sound growth
  by_cases refused : index ≥ grown.stackSizei ∧ ¬ grown.optionGrowOnSeti
  · -- The index is refused before anything was done.
    rw [if_pos refused, run_bind_ok (reportFailure_eq _ _ _ _)] at rest
    cases rest
    rcases outcome with ⟨rfl, rfl, -⟩ | ⟨permitted, -⟩
    · exact ⟨_, rfl, iff_of_true (storesCleanly_zero (releasedIn_growth fun event member =>
        failureReport_ofGrowth member) (.refl _)) fun event member =>
          setsCleanly_reported member⟩
    · exact absurd (same.optionGrowOnSeti.trans permitted) refused.2
  · rw [if_neg refused] at rest
    have reached : index < grown.allocSizei := by
      rcases outcome with ⟨rfl, -, below | fixed⟩ | ⟨-, -, reached, -⟩
      · exact below
      · have inside : index < grown.stackSizei := by
          by_contra beyond
          exact refused ⟨Nat.not_lt.mp beyond, ne_true_of_eq_false fixed⟩
        exact Nat.lt_of_lt_of_le inside sound.used
      · exact reached
    have callable' := callable.of_sameSettings same
    obtain ⟨cells, cleared, clear, rest⟩ := run_bind_eq_ok rest
    have releases := Grown.of_run (fun _ => clearCell_releases grown.bufpp index) clear
    have quiet : Grown (fun event => event.refusesElement = false) world cleared :=
      (grownBy.weaken fun event growth => growth.harmless.2).trans releases fun event release =>
        (OfGranted.of_fine release.harmless).2
    cases elementp with
    | none =>
      cases rest
      obtain ⟨exchanges, record, kinds⟩ := quiet.record
      exact ⟨exchanges, record, storesCleanly_set kinds⟩
    | some element =>
      have settings : grown.SameSettings { grown with bufpp := cells } :=
        ⟨rfl, rfl, rfl, rfl, rfl, rfl⟩
      obtain ⟨copied, after, copy, rest⟩ := run_bind_eq_ok rest
      rcases copyElement_outcome (callable'.of_sameSettings settings) copy with
        ⟨rfl, rfl⟩ | ⟨target, rfl, grownBy'⟩
      · -- The block is refused after the growth and the release.
        cases rest
        have refusing : Event.malloc grown.elementSizei none ∈ elementRefusal grown :=
          List.mem_cons_self
        rcases outcome with ⟨rfl, rfl, -⟩ | ⟨-, beyond, -, larger⟩
        · obtain ⟨exchanges, record, fine, released⟩ :=
            clearCell_outcome sound callable reached clear
          refine ⟨exchanges ++ elementRefusal grown, ?_, ?_⟩
          · show cleared.events ++ elementRefusal grown = _
            rw [record, List.append_assoc]
          rw [storesCleanly_cleared sound callable apart reached clear (fun element member => by
            rw [releasedIn_append, releasedIn_refusal, List.append_nil] at member
            exact released element member)]
          refine ⟨fun allowed event member => ?_, fun allowed =>
            ((allowed _ (List.mem_append_right _ refusing)).2.2 rfl).2⟩
          rcases List.mem_append.mp member with earlier | later
          · have granted := OfGranted.of_fine (fine event earlier)
            have harmless := fine event earlier
            simp only [Event.failsStore, Bool.or_eq_false_iff] at harmless
            exact ⟨harmless.1.1, granted.1, fun _ => ⟨reached, allowed⟩⟩
          · obtain ⟨copies, growths⟩ := elementRefusal_copies later
            exact ⟨copies, growths, fun _ => ⟨reached, allowed⟩⟩
        · obtain ⟨growths, grew, -⟩ := grownBy.record
          obtain ⟨releasing, released, -⟩ := releases.record
          refine ⟨growths ++ releasing ++ elementRefusal grown, ?_, iff_of_false (fun clean => ?_)
            fun fine => ?_⟩
          · show cleared.events ++ elementRefusal grown = _
            rw [released, grew, List.append_assoc, List.append_assoc, List.append_assoc]
          · exact absurd (clean.unchanged rfl).size (Nat.ne_of_gt larger)
          · have inside := ((fine _ (List.mem_append_right _ refusing)).2.2 rfl).1
            omega
      · simp only at rest
        obtain ⟨bufpp, final, write, rest⟩ := run_bind_eq_ok rest
        cases rest
        have stored : Grown (fun event : Event V => event.refusesElement = false) world
            { final with events := final.events ++ [.stackStore target] } :=
          ((quiet.trans grownBy' fun _ granted => granted.2).trans
            (.of_run (fun _ => writeCell_keeps _ _ _) write) fun _ same => same).event rfl
              (Nat.le_refl _)
        obtain ⟨exchanges, record, kinds⟩ := stored.record
        exact ⟨exchanges, record, storesCleanly_set kinds⟩

/-- When stores on a stack that is reached fail cleanly, by what can be observed later: `pushi`
exactly when no copy fails and the block of the element is only refused where reads do not grow the
stack or where the buffer was not full; `seti` exactly when no copy fails, no growth is refused, and
the block of the element is only refused when the cell was allocated and either empty or, above the
entries, out of the reach of reads. -/
theorem genericStack_fails_cleanly_iff {optionp : Option (GenericStackOption V)}
    (reached : StackReached libc optionp stack world)
    (callable : ∀ option ∈ optionp, option.Callable) :
    (∀ fuel elementp result stack' world',
      genericStackPushi libc fuel stack elementp world = .ok (result, stack') world' →
      ∃ exchanges, world'.events = world.events ++ exchanges ∧
        (StoresCleanly stack exchanges result stack' ↔
          ∀ event ∈ exchanges, PushesCleanly stack event)) ∧
    ∀ fuel index elementp result stack' world',
      genericStackSeti libc fuel stack index elementp world = .ok (result, stack') world' →
      ∃ exchanges, world'.events = world.events ++ exchanges ∧
        (StoresCleanly stack exchanges result stack' ↔
          ∀ event ∈ exchanges, SetsCleanly stack index event) := by
  obtain ⟨sound, callable'⟩ := reached.sound callable
  exact ⟨fun _ _ _ _ _ run => genericStackPushi_cleanly sound callable' run,
    fun _ _ _ _ _ _ run =>
      genericStackSeti_cleanly sound callable' (reached.holdsApart callable) run⟩

/-! ### A copy that fails -/

/-- A copy callback that always fails. -/
def failingOption : GenericStackOption Nat :=
  { growFlags := 0, copyCallbackp := some fun _ source => .ok (1, source.value) }

/-- A new stack of elements of eight bytes with this callback. -/
def failingStack : GenericStack Nat :=
  { growOnSetStack with
    optionGrowOnSeti := false
    copyCallbackp := some fun _ source => .ok (1, source.value) }

theorem failingOption_callable : ∀ option ∈ some failingOption, option.Callable := by
  intro option member
  cases member
  refine ⟨fun _ member => (nomatch member), fun callback member events element => ?_⟩
  cases member
  exact ⟨1, element.value, rfl⟩

theorem failingStack_reached :
    StackReached Libc.generous (some failingOption) failingStack growOnSetWorld :=
  ⟨5, 8, {}, failingStack, growOnSetWorld, [], [], rfl, rfl⟩

theorem genericStack_fails_cleanly_failing :
    (∀ fuel elementp result stack' world',
      genericStackPushi Libc.generous fuel failingStack elementp growOnSetWorld =
        .ok (result, stack') world' →
      ∃ exchanges, world'.events = growOnSetWorld.events ++ exchanges ∧
        (StoresCleanly failingStack exchanges result stack' ↔
          ∀ event ∈ exchanges, PushesCleanly failingStack event)) ∧
    ∀ fuel index elementp result stack' world',
      genericStackSeti Libc.generous fuel failingStack index elementp growOnSetWorld =
        .ok (result, stack') world' →
      ∃ exchanges, world'.events = growOnSetWorld.events ++ exchanges ∧
        (StoresCleanly failingStack exchanges result stack' ↔
          ∀ event ∈ exchanges, SetsCleanly failingStack index event) :=
  genericStack_fails_cleanly_iff failingStack_reached failingOption_callable

/-- The push of an element whose copy fails succeeds. -/
theorem genericStackPushi_takes_failed_copy :
    StackReached Libc.generous (some failingOption) failingStack growOnSetWorld ∧
      ∃ stack' world' exchanges,
        genericStackPushi Libc.generous (2 ^ 32) failingStack (some ⟨7, 42⟩) growOnSetWorld =
          .ok (1, stack') world' ∧
        world'.events = growOnSetWorld.events ++ exchanges ∧
        .stackCopy ⟨7, 42⟩ ⟨2, 42⟩ 1 ∈ exchanges ∧
        ¬ StoresCleanly failingStack exchanges 1 stack' := by
  refine ⟨failingStack_reached, _, _, [.malloc 8 (some 2), .stackCopy ⟨7, 42⟩ ⟨2, 42⟩ 1,
    .stackStore ⟨2, 42⟩], rfl, rfl, by simp, fun clean => ?_⟩
  exact absurd (clean.reported ⟨.stackCopy ⟨7, 42⟩ ⟨2, 42⟩ 1, by simp, rfl⟩) Nat.one_ne_zero

end MarpaWrapper
