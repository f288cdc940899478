/-
This file follows every element from the cell it is stored in to the place
where the stack lets it go: `popp` hands it to the caller, `seti` and `destroyv`
give it to the free callback. The entries below the size of a stack are its
own; a popped pointer that still lies in a cell above them is not.

The dealings of a stack balance as long as no call touches such a cell: `getp`
on a stack that grows on reads does not return it, `seti` neither releases it
nor makes it an entry again, and none is left for `destroyv`.
-/

import MarpaWrapper.Ownership
import MarpaWrapper.GenericStackRefinement

namespace MarpaWrapper

open Effects Tables Ownership

variable {V : Type}

/-! ### Dealings -/

/-- The stores and releases among some exchanges. -/
def dealingsIn (events : List (Event V)) : List (Dealing (Element V)) :=
  events.filterMap fun
    | .stackStore element => some (.stored element)
    | .stackFree element _ => some (.released element)
    | _ => none

/-- What a call gives to its caller: `popp` hands an element out, `getp` lets it be read. -/
def StackCall.handover : StackCall (Element V) → StackAnswer (Element V) →
    List (Dealing (Element V))
  | .popp, .pointer (some element) => [.taken element]
  | .getp _, .pointer (some element) => [.read element]
  | _, _ => []

/-- The exchanges that were added to the record between two worlds. -/
def World.since (world world' : World V) : List (Event V) :=
  world'.events.drop world.events.length

/-- The call on the value stack, with its dealings for an answer. -/
def loggedCall (libc : Libc V) (fuel : Nat) (call : StackCall (Element V))
    (stack : GenericStack V) : Exec V (List (Dealing (Element V)) × GenericStack V) := do
  let before ← get
  let (answer, stack) ← stackCall libc fuel call stack
  let after ← get
  pure (dealingsIn (before.since after) ++ call.handover answer, stack)

theorem stored_dealingsIn (events : List (Event V)) :
    stored (dealingsIn events) = storedIn events := by
  rw [stored, dealingsIn, storedIn, List.filterMap_filterMap]
  refine List.filterMap_congr fun event _ => ?_
  cases event <;> rfl

theorem released_dealingsIn (events : List (Event V)) :
    released (dealingsIn events) = releasedIn events := by
  rw [released, dealingsIn, releasedIn, List.filterMap_filterMap]
  refine List.filterMap_congr fun event _ => ?_
  cases event <;> rfl

theorem dealingsIn_kinds (events : List (Event V)) :
    ∀ dealing ∈ dealingsIn events, (∃ object, dealing = .stored object) ∨
      ∃ object, dealing = .released object := by
  intro dealing member
  obtain ⟨event, -, found⟩ := List.mem_filterMap.mp member
  cases event <;> cases found
  · exact .inl ⟨_, rfl⟩
  · exact .inr ⟨_, rfl⟩

theorem Exchanged.since {world world' : World V} {stored released : List (Element V)}
    (exchanged : Exchanged world world' stored released) :
    storedIn (world.since world') = stored ∧ releasedIn (world.since world') = released := by
  obtain ⟨exchanges, appended, -, storing, releasing⟩ := exchanged.events
  rw [World.since, appended, List.drop_left]
  exact ⟨storing, releasing⟩

/-! ### Owning the entries -/

/-- The entries of a stack. -/
def GenericStack.owned (stack : GenericStack V) : List (Element V) :=
  occupants stack.entry 0 stack.stackSizei

/-- The dealings of a stack so far balance with its entries. -/
structure GenericStack.Owns (stack : GenericStack V) (log : List (Dealing (Element V)))
    (world : World V) : Prop where
  sound : stack.Sound
  callable : stack.Callable
  freeing : stack.freeCallbackp.isSome = true
  ledger : Ledger log stack.owned
  older : ∀ element ∈ stored log, element.address < world.nextAddress

/-- A call keeps clear of the pointers that lie above the entries. -/
def StackCall.KeepsClear (call : StackCall (Element V)) (stack : GenericStack V) : Prop :=
  match call with
  | .getp index => stack.optionGrowOnGeti = true → stack.stackSizei ≤ index →
    stack.entry index = none
  | .seti index _ => stack.optionGrowOnSeti = true → index < stack.allocSizei →
    ∀ passed, stack.stackSizei ≤ passed → passed ≤ index → stack.entry passed = none
  | _ => True

section Step

variable {libc : Libc V} {fuel : Nat} {stack stack' : GenericStack V} {world world' : World V}
  {log : List (Dealing (Element V))} {stored' released' : List (Element V)}

/-- Stores and releases that balance the entries keep the balance. -/
theorem GenericStack.Owns.exchange (owns : stack.Owns log world) (sound : stack'.Sound)
    (settings : stack.SameSettings stack')
    (exchanged : Exchanged world world' stored' released')
    (fresh : ∀ element ∈ stored', AllocatedBetween world world' element)
    (distinct : stored'.Nodup)
    (balance : (stack.owned ++ stored').Perm (released' ++ stack'.owned)) :
    stack'.Owns (log ++ dealingsIn (world.since world')) world' := by
  obtain ⟨storing, releasing⟩ := exchanged.since
  rw [← stored_dealingsIn] at storing
  rw [← released_dealingsIn] at releasing
  refine ⟨sound, owns.callable.of_sameSettings settings, by rw [settings.freeCallbackp]; exact owns.freeing,
    owns.ledger.exchange (dealingsIn_kinds _) ?_ ?_ ?_, ?_⟩
  · rw [storing]
    intro element new old
    exact absurd (owns.older element old) (Nat.not_lt.mpr (fresh element new).1)
  · rw [storing]
    exact distinct
  · rw [storing, releasing]
    exact balance
  · intro element member
    rw [stored_append, List.mem_append, storing] at member
    rcases member with old | new
    · exact Nat.lt_of_lt_of_le (owns.older element old) exchanged.addresses
    · exact (fresh element new).2

/-- A call that stores and releases nothing has no dealings but its answer. -/
theorem Exchanged.noDealings (exchanged : Exchanged world world' [] []) :
    dealingsIn (world.since world') = [] := by
  obtain ⟨storing, releasing⟩ := exchanged.since
  rw [← stored_dealingsIn] at storing
  rw [← released_dealingsIn] at releasing
  rw [List.eq_nil_iff_forall_not_mem]
  intro dealing member
  rcases dealingsIn_kinds _ dealing member with ⟨object, rfl⟩ | ⟨object, rfl⟩
  · rw [← mem_stored, storing] at member
    exact List.not_mem_nil member
  · rw [← mem_released, releasing] at member
    exact List.not_mem_nil member

/-- A call without dealings that leaves the entries as they are. -/
theorem GenericStack.Owns.unchanged (owns : stack.Owns log world) (sound : stack'.Sound)
    (settings : stack.SameSettings stack') (exchanged : Exchanged world world' [] [])
    (same : stack'.owned = stack.owned) :
    stack'.Owns (log ++ dealingsIn (world.since world')) world' :=
  owns.exchange sound settings exchanged (fun _ member => absurd member List.not_mem_nil) .nil
    (by rw [same, List.append_nil]; rfl)

/-- An element is handed to the caller. -/
theorem GenericStack.Owns.handover (owns : stack.Owns log world) (sound : stack'.Sound)
    (settings : stack.SameSettings stack') (dealing : Dealing (Element V))
    (notStored : stored [dealing] = []) (ledger : Ledger (log ++ [dealing]) stack'.owned)
    (later : world.nextAddress ≤ world'.nextAddress) : stack'.Owns (log ++ [dealing]) world' := by
  refine ⟨sound, owns.callable.of_sameSettings settings,
    by rw [settings.freeCallbackp]; exact owns.freeing, ledger, ?_⟩
  rw [stored_append, notStored, List.append_nil]
  exact fun element member => Nat.lt_of_lt_of_le (owns.older element member) later

/-- The cells that growing adds to a stack hold no entries. -/
theorem GenericStack.GrownTo.owned {index : Nat} (grown : stack.GrownTo index stack') :
    stack'.owned = stack.owned := by
  obtain ⟨more, size⟩ := Nat.exists_eq_add_of_le grown.larger
  rw [GenericStack.owned, GenericStack.owned, size]
  refine occupants_extend (fun other below => ?_) fun other above below => ?_
  · rw [grown.became.entries, GenericStack.padded, if_neg (by omega)]
  · rw [grown.became.entries, GenericStack.padded, if_pos (by omega)]

theorem pushi_owns (grants : libc.AlwaysGrants) (enough : 2 ^ 32 ≤ fuel)
    (owns : stack.Owns log world) {elementp : Option (Element V)}
    {answer : StackAnswer (Element V)}
    (run : stackCall libc fuel (.pushi elementp) stack world = .ok (answer, stack') world') :
    stack'.Owns (log ++ dealingsIn (world.since world')) world' := by
  have used := owns.sound.used
  have bounded := owns.sound.bounded
  by_cases space : stack.stackSizei < 2 ^ 31
  · obtain ⟨next, between, entry, pushed, became, -, stored, exchanged⟩ :=
      genericStackPushi_run grants enough owns.sound owns.callable space elementp world
    rw [stackCall, run_bind_ok pushed] at run
    cases run
    refine owns.exchange became.sound became.settings exchanged (fun element member =>
      stored.fresh element (Option.mem_toList.mp member)) (by cases entry <;> simp) ?_
    have size : stack'.owned = stack.owned ++ entry.toList := by
      rw [GenericStack.owned, became.size, occupants_last, became.entries, Nat.zero_add,
        Function.update_self]
      refine congrArg (· ++ _) (occupants_congr fun index _ below => ?_)
      rw [became.entries, Function.update_of_ne (by omega)]
    rw [size]
    rfl
  · obtain ⟨between, exhausted⟩ := genericStackPushi_exhausted fuel grants owns.sound
      (by omega) elementp world
    rw [stackCall, run_bind_error exhausted] at run
    cases run

theorem popp_owns (grants : libc.AlwaysGrants) (owns : stack.Owns log world)
    {answer : StackAnswer (Element V)}
    (run : stackCall libc fuel .popp stack world = .ok (answer, stack') world') :
    stack'.Owns (log ++ (dealingsIn (world.since world') ++ StackCall.popp.handover answer))
      world' := by
  by_cases occupied : 0 < stack.stackSizei
  · obtain ⟨next, between, popped, became, -, exchanged⟩ :=
      genericStackPopp_run grants owns.sound occupied world
    rw [stackCall, run_bind_ok popped] at run
    cases run
    have below : occupants stack'.entry 0 (stack.stackSizei - 1) =
        occupants stack.entry 0 (stack.stackSizei - 1) := by
      refine occupants_congr fun index _ below => ?_
      rw [became.entries, GenericStack.poppedEntry]
      refine if_neg fun cut => ?_
      have half := cut.1.1
      omega
    have split : stack.owned = stack'.owned ++ (stack.entry (stack.stackSizei - 1)).toList := by
      rw [GenericStack.owned, GenericStack.owned, became.size, below]
      conv_lhs => rw [show stack.stackSizei = stack.stackSizei - 1 + 1 by omega]
      rw [occupants_last, Nat.zero_add]
    rw [exchanged.noDealings, List.nil_append]
    cases last : stack.entry (stack.stackSizei - 1) with
    | none =>
      rw [last, Option.toList_none, List.append_nil] at split
      have same := owns.unchanged became.sound became.settings exchanged split.symm
      rwa [exchanged.noDealings] at same
    | some element =>
      rw [last] at split
      have ledger := owns.ledger.perm (show stack.owned.Perm (element :: stack'.owned) by
        rw [split]; exact List.perm_append_singleton _ _)
      exact owns.handover became.sound became.settings (.taken element) rfl ledger.take
        exchanged.addresses
  · obtain ⟨between, popped, exchanged⟩ :=
      genericStackPopp_empty libc (show stack.stackSizei = 0 by omega) world
    rw [stackCall, run_bind_ok popped] at run
    cases run
    rw [show StackCall.popp.handover (.pointer (none : Option (Element V))) = [] from rfl,
      List.append_nil]
    exact owns.unchanged owns.sound (.refl stack) exchanged rfl

/-- An entry of the stack is read, or an empty cell. -/
theorem getp_owns_inside (owns : stack.Owns log world) {index : Nat}
    (below : index < stack.allocSizei)
    (granted : index < stack.stackSizei ∨ stack.optionGrowOnGeti = true)
    (clear : stack.stackSizei ≤ index → stack.entry index = none)
    {answer : StackAnswer (Element V)}
    (run : stackCall libc fuel (.getp index) stack world = .ok (answer, stack') world') :
    stack'.Owns (log ++ (dealingsIn (world.since world') ++
      (StackCall.getp index).handover answer)) world' := by
  rw [stackCall, run_bind_ok (genericStackGetp_run owns.sound below granted world)] at run
  cases run
  rw [(Exchanged.refl world).noDealings, List.nil_append]
  cases found : stack.entry index with
  | none =>
    rw [show (StackCall.getp index).handover (.pointer (none : Option (Element V))) = [] from rfl,
      List.append_nil]
    exact owns
  | some element =>
    have inside : index < stack.stackSizei := by
      refine Nat.not_le.mp fun above => ?_
      rw [clear above] at found
      cases found
    exact owns.handover owns.sound (.refl stack) (.read element) rfl
      (owns.ledger.read (mem_occupants.mpr ⟨index, Nat.zero_le _, by omega, found⟩))
      (Nat.le_refl _)

theorem getp_owns (grants : libc.AlwaysGrants) (enough : 2 ^ 32 ≤ fuel)
    (owns : stack.Owns log world) {index : Nat} {answer : StackAnswer (Element V)}
    (clear : (StackCall.getp index).KeepsClear stack)
    (run : stackCall libc fuel (.getp index) stack world = .ok (answer, stack') world') :
    stack'.Owns (log ++ (dealingsIn (world.since world') ++
      (StackCall.getp index).handover answer)) world' := by
  have used := owns.sound.used
  have nothing : (StackCall.getp index).handover (.pointer (none : Option (Element V))) = [] := rfl
  by_cases granted : index < stack.stackSizei ∨ stack.optionGrowOnGeti = true
  · by_cases below : index < stack.allocSizei
    · exact getp_owns_inside owns below granted
        (fun above => clear (granted.resolve_left (Nat.not_lt.mpr above)) above) run
    · have grows := granted.resolve_left (by omega)
      by_cases narrow : index < 2 ^ 31
      · obtain ⟨next, between, got, grown, exchanged⟩ := genericStackGetp_grows grants enough
          owns.sound narrow (Nat.not_lt.mp below) grows world
        rw [stackCall, run_bind_ok got] at run
        cases run
        rw [nothing, List.append_nil]
        exact owns.unchanged grown.became.sound grown.became.settings exchanged grown.owned
      · obtain ⟨between, exhausted⟩ := genericStackGetp_exhausted grants enough owns.sound
          (Nat.not_lt.mp narrow) grows world
        rw [stackCall, run_bind_error exhausted] at run
        cases run
  · obtain ⟨outside, fixed⟩ := not_or.mp granted
    rw [Bool.not_eq_true] at fixed
    obtain ⟨between, got, exchanged⟩ := genericStackGetp_refused libc fuel
      (Nat.not_lt.mp outside) fixed world
    rw [stackCall, run_bind_ok got] at run
    cases run
    rw [nothing, List.append_nil]
    exact owns.unchanged owns.sound (.refl stack) exchanged rfl

/-- The entries after `seti` are the old ones with the entry at the index exchanged. -/
theorem GenericStack.setEntry_owned {index : Nat} {entry : Option (Element V)}
    (clear : stack.stackSizei ≤ index → index < stack.allocSizei →
      ∀ passed, stack.stackSizei ≤ passed → passed ≤ index → stack.entry passed = none)
    (sound : stack.Sound)
    (became : stack.Became stack' (max stack.stackSizei (index + 1)) (stack.setEntry index entry)) :
    (stack.owned ++ entry.toList).Perm ((stack.entry index).toList ++ stack'.owned) := by
  have used := sound.used
  have here : stack'.entry index = entry := by
    rw [became.entries, GenericStack.setEntry, Function.update_self]
  have elsewhere (other : Nat) (below : other < stack.stackSizei) (different : other ≠ index) :
      stack'.entry other = stack.entry other := by
    rw [became.entries, GenericStack.setEntry, Function.update_of_ne different,
      if_neg (fun both => absurd both.2 (Nat.not_le.mpr below))]
  by_cases inside : index < stack.stackSizei
  · rw [GenericStack.owned, GenericStack.owned, became.size, Nat.max_eq_left inside]
    exact List.perm_append_comm.trans (occupants_update_perm inside here elsewhere).symm
  · have above := Nat.not_lt.mp inside
    have empty (passed : Nat) (from' : stack.stackSizei ≤ passed) (upTo : passed < index) :
        stack'.entry passed = none := by
      rw [became.entries, GenericStack.setEntry, Function.update_of_ne (Nat.ne_of_lt upTo)]
      by_cases beyond : stack.allocSizei ≤ index
      · rw [if_pos ⟨beyond, from'⟩]
      · rw [if_neg (fun both => beyond both.1)]
        exact clear above (Nat.not_le.mp beyond) passed from' (Nat.le_of_lt upTo)
    have old : stack.entry index = none := by
      by_cases beyond : stack.allocSizei ≤ index
      · exact sound.beyond index beyond
      · exact clear above (Nat.not_le.mp beyond) index above (Nat.le_refl _)
    obtain ⟨more, reach⟩ := Nat.exists_eq_add_of_le above
    have others : occupants stack'.entry 0 index = stack.owned := by
      rw [reach]
      exact occupants_extend (fun other below => elsewhere other below (by omega))
        fun other from' upTo => empty other from' (by omega)
    rw [old, show stack'.owned = occupants stack'.entry 0 (index + 1) by
      rw [GenericStack.owned, became.size, Nat.max_eq_right (by omega)], occupants_last, others,
      Nat.zero_add, here]
    rfl

theorem seti_owns (grants : libc.AlwaysGrants) (enough : 2 ^ 32 ≤ fuel)
    (owns : stack.Owns log world) {index : Nat} {elementp : Option (Element V)}
    {answer : StackAnswer (Element V)}
    (clear : (StackCall.seti index elementp).KeepsClear stack)
    (run : stackCall libc fuel (.seti index elementp) stack world = .ok (answer, stack') world') :
    stack'.Owns (log ++ dealingsIn (world.since world')) world' := by
  have used := owns.sound.used
  have bounded := owns.sound.bounded
  by_cases granted : index < stack.stackSizei ∨ stack.optionGrowOnSeti = true
  · by_cases narrow : index < 2 ^ 31
    · obtain ⟨answer', between, returned, -⟩ := run_bind_eq_ok run
      have apart := genericStackSeti_apart grants enough owns.sound owns.callable narrow granted
        returned
      obtain ⟨next, between, entry, set, became, stored, exchanged⟩ := genericStackSeti_run grants
        enough owns.sound owns.callable narrow granted apart world
      rw [stackCall, run_bind_ok set] at run
      cases run
      refine owns.exchange became.sound became.settings exchanged (fun element member =>
        stored.fresh element (Option.mem_toList.mp member)) (by cases entry <;> simp) ?_
      rw [GenericStack.handedBack, if_pos owns.freeing]
      exact GenericStack.setEntry_owned
        (fun above => clear (granted.resolve_left (Nat.not_lt.mpr above))) owns.sound became
    · obtain ⟨between, exhausted⟩ := genericStackSeti_exhausted grants enough owns.sound
        (Nat.not_lt.mp narrow) (granted.resolve_left (by omega)) elementp world
      rw [stackCall, run_bind_error exhausted] at run
      cases run
  · obtain ⟨outside, fixed⟩ := not_or.mp granted
    rw [Bool.not_eq_true] at fixed
    obtain ⟨between, refused, exchanged⟩ := genericStackSeti_refused libc fuel
      (Nat.not_lt.mp outside) fixed elementp world
    rw [stackCall, run_bind_ok refused] at run
    cases run
    exact owns.unchanged owns.sound (.refl stack) exchanged rfl

/-- Every call that keeps clear of the pointers above the entries keeps the balance. -/
theorem stackCall_owns (grants : libc.AlwaysGrants) (enough : 2 ^ 32 ≤ fuel)
    (owns : stack.Owns log world) {call : StackCall (Element V)} {answer : StackAnswer (Element V)}
    (clear : call.KeepsClear stack)
    (run : stackCall libc fuel call stack world = .ok (answer, stack') world') :
    stack'.Owns (log ++ (dealingsIn (world.since world') ++ call.handover answer)) world' := by
  cases call with
  | pushi elementp =>
    rw [show (StackCall.pushi elementp).handover answer = [] from rfl, List.append_nil]
    exact pushi_owns grants enough owns run
  | popp => exact popp_owns grants owns run
  | getp index => exact getp_owns grants enough owns clear run
  | seti index elementp =>
    rw [show (StackCall.seti index elementp).handover answer = [] from rfl, List.append_nil]
    exact seti_owns grants enough owns clear run
  | sizei =>
    cases run
    rw [(Exchanged.refl world).noDealings]
    rwa [show log ++ ([] ++ StackCall.sizei.handover _) = log from List.append_nil log]

/-! ### From creation to destruction -/

/-- A logged call is the call, and its log is read off the record and the answer. -/
theorem loggedCall_eq_ok {call : StackCall (Element V)} {dealings : List (Dealing (Element V))}
    (run : loggedCall libc fuel call stack world = .ok (dealings, stack') world') :
    ∃ answer, stackCall libc fuel call stack world = .ok (answer, stack') world' ∧
      dealings = dealingsIn (world.since world') ++ call.handover answer := by
  rw [loggedCall, run_bind_ok (run_get world)] at run
  obtain ⟨⟨answer, next⟩, between, called, run⟩ := run_bind_eq_ok run
  cases run
  exact ⟨answer, called, rfl⟩

/-- The dealings of a sequence of calls balance with the entries at its end. -/
theorem loggedCalls_own (grants : libc.AlwaysGrants) (enough : 2 ^ 32 ≤ fuel)
    (owns : stack.Owns log world) (calls : List (StackCall (Element V)))
    (clear : Throughout (stackCall libc fuel) StackCall.KeepsClear calls stack world)
    {logs : List (List (Dealing (Element V)))}
    (run : runCalls (loggedCall libc fuel) calls stack world = .ok (logs, stack') world') :
    stack'.Owns (log ++ logs.flatten) world' := by
  induction calls generalizing stack log world logs with
  | nil =>
    cases run
    rwa [List.flatten_nil, List.append_nil]
  | cons call rest inductionHypothesis =>
    obtain ⟨dealings, others, next, between, head, tail, rfl⟩ := runCalls_cons_eq_ok run
    obtain ⟨answer, called, rfl⟩ := loggedCall_eq_ok head
    rw [List.flatten_cons, ← List.append_assoc]
    exact inductionHypothesis (stackCall_owns grants enough owns clear.1 called)
      (clear.2 _ _ _ called) tail

/-- No pointer lies in the cells above the entries. -/
def GenericStack.Clear (stack : GenericStack V) : Prop :=
  ∀ index, stack.stackSizei ≤ index → stack.entry index = none

/-- Without pointers above them, the entries are all that the cells hold. -/
theorem GenericStack.Clear.occupants (clear : stack.Clear) (sound : stack.Sound) :
    occupants stack.entry 0 stack.allocSizei = stack.owned := by
  obtain ⟨more, size⟩ := Nat.exists_eq_add_of_le sound.used
  rw [size]
  exact occupants_extend (fun _ _ => rfl) fun index above _ => clear index above

/-- `destroyv` releases the entries, and with them all that is owned. -/
theorem genericStackDestroyv_owns (enough : 2 ^ 32 ≤ fuel) (owns : stack.Owns log world)
    (clear : stack.Clear) :
    ∃ world', genericStackDestroyv fuel stack world = .ok () world' ∧
      OwnedOnce (log ++ dealingsIn (world.since world')) := by
  obtain ⟨world', run, exchanged⟩ :=
    genericStackDestroyv_run enough owns.sound owns.callable world
  rw [GenericStack.handedBack, if_pos owns.freeing, clear.occupants owns.sound] at exchanged
  obtain ⟨storing, releasing⟩ := exchanged.since
  refine ⟨world', run, Ledger.ownedOnce (owns.ledger.exchange (dealingsIn_kinds _) ?_ ?_ ?_)⟩
  · rw [stored_dealingsIn, storing]
    exact fun _ member => absurd member List.not_mem_nil
  · rw [stored_dealingsIn, storing]
    exact .nil
  · rw [stored_dealingsIn, storing, released_dealingsIn, releasing]

/-- From its creation to its destruction a stack deals with every element it stores once, as long
as no call touches a popped pointer above the entries and none is left there at the end. -/
theorem genericStack_owns_elements_once (grants : libc.AlwaysGrants) (enough : 2 ^ 32 ≤ fuel)
    {elementSizei : Nat} {option : GenericStackOption V} (callable : option.Callable)
    (freeing : option.freeCallbackp.isSome = true) {world world' world'' : World V}
    (created : genericStackNewp libc fuel elementSizei (some option) world =
      .ok (some stack) world')
    (calls : List (StackCall (Element V))) {logs : List (List (Dealing (Element V)))}
    (run : runCalls (loggedCall libc fuel) calls stack world' = .ok (logs, stack') world'')
    (clear : Throughout (stackCall libc fuel) StackCall.KeepsClear calls stack world')
    (clearEnd : stack'.Clear) :
    ∃ final, genericStackDestroyv fuel stack' world'' = .ok () final ∧
      OwnedOnce (logs.flatten ++ dealingsIn (world''.since final)) := by
  have fresh := (genericStackNewp_return grants enough created).1 stack rfl
  have empty : stack.owned = [] := by
    rw [GenericStack.owned, fresh.empty]
    rfl
  have owns : stack.Owns [] world' :=
    { sound := fresh.sound
      callable := fresh.callable fun _ member => by cases member; exact callable
      freeing := by rw [fresh.freeCallbackp]; exact freeing
      ledger := by rw [empty]; exact .nil
      older := fun _ member => absurd member List.not_mem_nil }
  exact genericStackDestroyv_owns enough (loggedCalls_own grants enough owns calls clear run)
    clearEnd

end Step

/-! ### A popped element is released -/

/-- A stack of elements with a free callback that succeeds. -/
def freeingOption : GenericStackOption Nat :=
  { growFlags := genericStackOptionGrowOnSet, freeCallbackp := some fun _ _ => .ok 0 }

/-- The stack that `genericStack_newp` creates with this option for elements of eight bytes. -/
def freeingStack : GenericStack Nat :=
  { growOnSetStack with freeCallbackp := some fun _ _ => .ok 0 }

theorem freeingStack_created :
    genericStackNewp Libc.generous (2 ^ 32) 8 (some freeingOption) {} =
      .ok (some freeingStack) growOnSetWorld := rfl

theorem freeingOption_callable : freeingOption.Callable :=
  ⟨fun _ member _ _ => by cases member; exact ⟨0, rfl⟩, fun _ member => (nomatch member)⟩

/-- A push, a write over the entry, a pop, a push over the popped element and a read. -/
def overwritingCalls : List (StackCall (Element Nat)) :=
  [.pushi (some ⟨100, 10⟩), .seti 0 (some ⟨108, 20⟩), .popp, .pushi (some ⟨116, 30⟩), .getp 0]

theorem overwritingCalls_clear : Throughout (stackCall Libc.generous (2 ^ 32))
    StackCall.KeepsClear overwritingCalls freeingStack growOnSetWorld := by
  refine ⟨trivial, fun _ _ _ pushed => ?_⟩
  cases pushed
  refine ⟨fun _ _ passed above below => absurd (Nat.le_trans above below) (by decide),
    fun _ _ _ set => ?_⟩
  cases set
  refine ⟨trivial, fun _ _ _ popped => ?_⟩
  cases popped
  refine ⟨trivial, fun _ _ _ pushed => ?_⟩
  cases pushed
  exact ⟨fun grows => (nomatch grows), fun _ _ _ _ => trivial⟩

theorem genericStack_owns_elements_once_overwritten : ∃ logs stack' world'' final,
    runCalls (loggedCall Libc.generous (2 ^ 32)) overwritingCalls freeingStack growOnSetWorld =
      .ok (logs, stack') world'' ∧
    genericStackDestroyv (2 ^ 32) stack' world'' = .ok () final ∧
    OwnedOnce (logs.flatten ++ dealingsIn (world''.since final)) := by
  obtain ⟨final, destroyed, once⟩ := genericStack_owns_elements_once Libc.generous_alwaysGrants
    (Nat.le_refl _) freeingOption_callable rfl freeingStack_created overwritingCalls rfl
    overwritingCalls_clear (fun index above => by
      match index, above with
      | 1, _ | 2, _ | 3, _ => rfl
      | _ + 4, _ => rfl)
  exact ⟨_, _, _, final, rfl, destroyed, once⟩

/-- A push, a pop and the destruction: the popped element is given to the free callback. -/
theorem genericStack_owns_elements_once_popped :
    genericStackNewp Libc.generous (2 ^ 32) 8 (some freeingOption) {} =
        .ok (some freeingStack) growOnSetWorld ∧
      ∃ logs stack' world'' final,
        runCalls (loggedCall Libc.generous (2 ^ 32)) [.pushi (some ⟨100, 10⟩), .popp] freeingStack
          growOnSetWorld = .ok (logs, stack') world'' ∧
        genericStackDestroyv (2 ^ 32) stack' world'' = .ok () final ∧
        logs.flatten ++ dealingsIn (world''.since final) =
          [.stored ⟨2, 10⟩, .taken ⟨2, 10⟩, .released ⟨2, 10⟩] ∧
        ¬ OwnedOnce (logs.flatten ++ dealingsIn (world''.since final)) := by
  refine ⟨freeingStack_created, _, _, _, _, rfl, rfl, rfl, ?_⟩
  show ¬ OwnedOnce [.stored ⟨2, 10⟩, .taken ⟨2, 10⟩, .released (⟨2, 10⟩ : Element Nat)]
  intro once
  rcases once ⟨2, 10⟩ List.mem_cons_self with ⟨before, after, cut, -, -, settled⟩ | ⟨kept, -⟩
  · obtain - | ⟨first, - | ⟨second, - | ⟨third, more⟩⟩⟩ := before <;> simp at cut
    exact settled (.released ⟨2, 10⟩) (by rw [← cut.2]; exact List.mem_cons_self) rfl
  · exact kept (by simp)

end MarpaWrapper
