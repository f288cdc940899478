/-
This file follows the semantic values through `marpaWrapper_vb`. A value exists
twice: as the output of a callback that answered `TRUE`, and as the copy the
value stack stores for it. Both are given to the user's free callback, the
output after its step and the copy when the stack lets go of it.

The record of the function balances at every point of the body: what was
produced and stored has been given to the free callback, or is an entry of the
value stack, or is the output the local designates. Where the body goes to the
end label, no output is left.
-/

import MarpaWrapper.GenericStackOwnership
import MarpaWrapper.ParseTrees
import MarpaWrapper.ValuationRules

namespace MarpaWrapper

open Effects Tables Ownership

variable {V : Type}

/-! ### The record -/

/-- The output of a callback that answered `TRUE`. -/
def Event.output : Event V → Option (Element V)
  | .valueRule _ _ true output => output
  | .valueSymbol _ _ true output => output
  | .valueNulling _ true output => output
  | _ => none

/-- What was given to the user's free callback, by the stack or directly. -/
def Event.passed : Event V → Option (Element V)
  | .stackFree element _ => some element
  | .outputFree output _ => some output
  | _ => none

/-- The outputs of the callbacks that answered `TRUE`, in order. -/
def producedIn (events : List (Event V)) : List (Element V) :=
  events.filterMap Event.output

/-- What was given to the user's free callback, in order. -/
def passedIn (events : List (Event V)) : List (Element V) :=
  events.filterMap Event.passed

/-- The dealing of the value phase that an exchange is. -/
def valueDealing : Event V → Option (Dealing (Element V))
  | .stackStore element => some (.stored element)
  | .stackFree element _ => some (.released element)
  | .outputFree output _ => some (.released output)
  | event => event.output.map .stored

/-- The dealings of the value phase among some exchanges. -/
def valueDealingsIn (events : List (Event V)) : List (Dealing (Element V)) :=
  events.filterMap valueDealing

theorem valueDealingsIn_append (first second : List (Event V)) :
    valueDealingsIn (first ++ second) = valueDealingsIn first ++ valueDealingsIn second :=
  List.filterMap_append

/-- An exchange stores an output of a callback or a copy of the value stack. -/
theorem stored_valueDealing (event : Event V) :
    stored (valueDealingsIn [event]) = producedIn [event] ++ storedIn [event] := by
  cases event with
  | valueRule _ _ answer output => cases answer <;> cases output <;> rfl
  | valueSymbol _ _ answer output => cases answer <;> cases output <;> rfl
  | valueNulling _ answer output => cases answer <;> cases output <;> rfl
  | _ => rfl

theorem stored_valueDealingsIn (events : List (Event V)) :
    (stored (valueDealingsIn events)).Perm (producedIn events ++ storedIn events) := by
  induction events with
  | nil => exact .refl _
  | cons event rest inductionHypothesis =>
    have produced : producedIn ([event] ++ rest) = producedIn [event] ++ producedIn rest :=
      List.filterMap_append
    show (stored (valueDealingsIn ([event] ++ rest))).Perm
      (producedIn ([event] ++ rest) ++ storedIn ([event] ++ rest))
    rw [valueDealingsIn_append, stored_append, stored_valueDealing, produced, storedIn_append,
      List.append_assoc, List.append_assoc]
    refine List.Perm.append_left _ ?_
    calc storedIn [event] ++ stored (valueDealingsIn rest)
      _ |>.Perm (storedIn [event] ++ (producedIn rest ++ storedIn rest)) :=
          inductionHypothesis.append_left _
      _ |>.Perm (producedIn rest ++ (storedIn [event] ++ storedIn rest)) :=
          List.perm_append_comm_assoc ..

theorem released_valueDealingsIn (events : List (Event V)) :
    released (valueDealingsIn events) = passedIn events := by
  rw [released, valueDealingsIn, passedIn, List.filterMap_filterMap]
  refine List.filterMap_congr fun event _ => ?_
  cases event <;> simp [valueDealing, Event.output, Event.passed]

theorem valueDealingsIn_kinds (events : List (Event V)) :
    ∀ dealing ∈ valueDealingsIn events, (∃ object, dealing = .stored object) ∨
      ∃ object, dealing = .released object := by
  intro dealing member
  obtain ⟨event, -, found⟩ := List.mem_filterMap.mp member
  cases dealing with
  | stored object => exact .inl ⟨object, rfl⟩
  | released object => exact .inr ⟨object, rfl⟩
  | read object => cases event <;> simp [valueDealing, Event.output] at found
  | taken object => cases event <;> simp [valueDealing, Event.output] at found

/-- Among the exchanges of the stack, the dealings of the value phase are the stack's. -/
theorem valueDealingsIn_ofStack {events : List (Event V)}
    (ofStack : ∀ event ∈ events, event.ofStack = true) :
    valueDealingsIn events = dealingsIn events := by
  refine List.filterMap_congr fun event member => ?_
  have stack := ofStack event member
  cases event <;> first | rfl | cases stack

/-! ### The balance -/

theorem World.since_append {start world : World V} {exchanges : List (Event V)}
    {world' : World V} (record : start.events <+: world.events)
    (appended : world'.events = world.events ++ exchanges) :
    start.since world' = start.since world ++ exchanges := by
  rw [World.since, World.since, appended, List.drop_append_of_le_length record.length_le]

/-- Since `start` everything that was produced or stored has been given to the free callback or is
among `owed`, and no two of these lie at one address. -/
structure Owes (start world : World V) (owed : List (Element V)) : Prop where
  record : start.events <+: world.events
  ledger : Ledger (valueDealingsIn (start.since world)) owed
  apart : ((stored (valueDealingsIn (start.since world))).map Element.address).Nodup
  older : ∀ element ∈ stored (valueDealingsIn (start.since world)),
    element.address < world.nextAddress

section Balance

variable {start world world' : World V} {owed owed' : List (Element V)}

theorem Owes.refl (start : World V) : Owes start start [] := by
  have nothing : valueDealingsIn (start.since start) = [] := by
    rw [World.since, List.drop_length]
    rfl
  refine ⟨List.prefix_refl _, by rw [nothing]; exact .nil, ?_, ?_⟩
  · rw [nothing]
    exact .nil
  · rw [nothing]
    exact fun _ member => absurd member List.not_mem_nil

/-- Exchanges that pay for what they bring. -/
theorem Owes.exchange (owes : Owes start world owed) (exchanges : List (Event V))
    (appended : world'.events = world.events ++ exchanges)
    (later : world.nextAddress ≤ world'.nextAddress)
    (fresh : ∀ element ∈ stored (valueDealingsIn exchanges), AllocatedBetween world world' element)
    (apart : ((stored (valueDealingsIn exchanges)).map Element.address).Nodup)
    (balance : (owed ++ stored (valueDealingsIn exchanges)).Perm
      (released (valueDealingsIn exchanges) ++ owed')) :
    Owes start world' owed' := by
  have since : valueDealingsIn (start.since world') =
      valueDealingsIn (start.since world) ++ valueDealingsIn exchanges := by
    rw [World.since_append owes.record appended, valueDealingsIn_append]
  have new (element : Element V) (member : element ∈ stored (valueDealingsIn exchanges)) :
      element ∉ stored (valueDealingsIn (start.since world)) := fun old =>
    absurd (owes.older element old) (Nat.not_lt.mpr (fresh element member).1)
  refine ⟨owes.record.trans ⟨exchanges, appended.symm⟩, ?_, ?_, ?_⟩
  · rw [since]
    exact owes.ledger.exchange (valueDealingsIn_kinds _) new (List.Nodup.of_map _ apart) balance
  · rw [since, stored_append, List.map_append, List.nodup_append]
    refine ⟨owes.apart, apart, ?_⟩
    rintro _ oldMember _ newMember rfl
    obtain ⟨older, oldStored, same⟩ := List.mem_map.mp oldMember
    obtain ⟨newer, newStored, rfl⟩ := List.mem_map.mp newMember
    have below := owes.older older oldStored
    have above := (fresh newer newStored).1
    omega
  · rw [since, stored_append]
    intro element member
    rcases List.mem_append.mp member with old | newer
    · exact Nat.lt_of_lt_of_le (owes.older element old) later
    · exact (fresh element newer).2

/-- An exchange without a dealing. -/
theorem Owes.quiet (owes : Owes start world owed) {event : Event V}
    (noDealing : valueDealing event = none) {address : Nat} (later : world.nextAddress ≤ address) :
    Owes start { world with events := world.events ++ [event], nextAddress := address } owed := by
  have nothing : valueDealingsIn [event] = [] := by
    rw [valueDealingsIn, List.filterMap_cons, noDealing]
    rfl
  refine owes.exchange [event] rfl later ?_ ?_ ?_
  · rw [nothing]
    exact fun _ member => absurd member List.not_mem_nil
  · rw [nothing]
    exact .nil
  · rw [nothing]
    exact List.Perm.of_eq (List.append_nil _)

/-- A callback that answers `TRUE` brings its output. -/
theorem Owes.output (owes : Owes start world owed) {event : Event V} {value : V}
    (dealing : valueDealing event = some (.stored ⟨world.nextAddress, value⟩)) :
    Owes start
      { world with events := world.events ++ [event], nextAddress := world.nextAddress + 1 }
      (owed ++ [⟨world.nextAddress, value⟩]) := by
  have only : valueDealingsIn [event] = [.stored ⟨world.nextAddress, value⟩] := by
    rw [valueDealingsIn, List.filterMap_cons, dealing]
    rfl
  refine owes.exchange [event] rfl (Nat.le_succ _) ?_ ?_ ?_
  · rw [only]
    intro element member
    rw [List.mem_singleton.mp member]
    exact ⟨Nat.le_refl _, Nat.lt_succ_self _⟩
  · rw [only]
    exact List.nodup_singleton _
  · rw [only]
    rfl

/-- Exchanges of the value stack. -/
theorem Owes.ofStack (owes : Owes start world owed) (stored' : Option (Element V))
    {released' : List (Element V)} (exchanged : Exchanged world world' stored'.toList released')
    (fresh : ∀ element ∈ stored', AllocatedBetween world world' element)
    (balance : (owed ++ stored'.toList).Perm (released' ++ owed')) : Owes start world' owed' := by
  obtain ⟨exchanges, appended, ofStack, storing, releasing⟩ := exchanged.events
  rw [← stored_dealingsIn, ← valueDealingsIn_ofStack ofStack] at storing
  rw [← released_dealingsIn, ← valueDealingsIn_ofStack ofStack] at releasing
  refine owes.exchange exchanges appended exchanged.addresses ?_ ?_ ?_
  · rw [storing]
    exact fun element member => fresh element (Option.mem_toList.mp member)
  · rw [storing]
    cases stored' <;> simp
  · rw [storing, releasing]
    exact balance

end Balance

/-! ### The value stack -/

/-- The value stack as `marpaWrapper_vb` uses it: it grows on reads and writes, its callbacks are
given, and nothing is ever popped from it. -/
structure GenericStack.Kept (stack : GenericStack V) : Prop where
  sound : stack.Sound
  callable : stack.Callable
  freeing : stack.freeCallbackp.isSome = true
  clear : stack.Clear
  growsOnGet : stack.optionGrowOnGeti = true
  growsOnSet : stack.optionGrowOnSeti = true

/-- The user gave both stack callbacks. -/
def MarpaWrapperStackOption.HasCallbacks (stackOption : MarpaWrapperStackOption V) : Prop :=
  stackOption.stackElementFreeCallbackp.isSome = true ∧
    stackOption.stackElementCopyCallbackp.isSome = true

theorem MarpaWrapperStackOption.HasCallbacks.callable {stackOption : MarpaWrapperStackOption V}
    (given : stackOption.HasCallbacks) : (marpaWrapperGenericStackOption stackOption).Callable := by
  obtain ⟨free, freeGiven⟩ := Option.isSome_iff_exists.mp given.1
  obtain ⟨copy, copyGiven⟩ := Option.isSome_iff_exists.mp given.2
  constructor
  · intro callback member events element
    cases member
    rw [freeGiven]
    exact ⟨_, rfl⟩
  · intro callback member events element
    cases member
    rw [copyGiven]
    exact ⟨_, _, rfl⟩

section Stack

variable {libc : Libc V} {fuel : Nat} {stack stack' : GenericStack V}
  {stackOption : MarpaWrapperStackOption V} {world world' : World V}

theorem genericStackOptionGrowDefault_both :
    (genericStackOptionGrowDefault &&& genericStackOptionGrowOnGet == genericStackOptionGrowOnGet)
        = true ∧
      (genericStackOptionGrowDefault &&& genericStackOptionGrowOnSet == genericStackOptionGrowOnSet)
        = true := by
  decide

/-- A new value stack is empty. -/
theorem GenericStack.Fresh.kept (given : stackOption.HasCallbacks)
    (fresh : stack.Fresh (some (marpaWrapperGenericStackOption stackOption))) :
    stack.Kept ∧ stack.owned = [] := by
  refine ⟨⟨fresh.sound, fresh.callable fun _ member => by cases member; exact given.callable,
    by rw [fresh.freeCallbackp]; rfl, fun index _ => fresh.entries index,
    by rw [fresh.optionGrowOnGeti]; exact genericStackOptionGrowDefault_both.1,
    by rw [fresh.optionGrowOnSeti]; exact genericStackOptionGrowDefault_both.2⟩, ?_⟩
  rw [GenericStack.owned, fresh.empty]
  rfl

/-- A read leaves the entries as they are. -/
theorem genericStackGetp_kept (grants : libc.AlwaysGrants) (enough : 2 ^ 32 ≤ fuel)
    (kept : stack.Kept) {index : Nat} {value : Option (Element V)}
    (run : genericStackGetp libc fuel stack index world = .ok (value, stack') world') :
    stack'.Kept ∧ stack'.owned = stack.owned ∧ Exchanged world world' [] [] := by
  by_cases below : index < stack.allocSizei
  · rw [genericStackGetp_run kept.sound below (.inr kept.growsOnGet)] at run
    cases run
    exact ⟨kept, rfl, .refl world⟩
  · by_cases narrow : index < 2 ^ 31
    · obtain ⟨next, between, got, grown, exchanged⟩ := genericStackGetp_grows grants enough
        kept.sound narrow (Nat.not_lt.mp below) kept.growsOnGet world
      rw [got] at run
      cases run
      have settings := grown.became.settings
      refine ⟨⟨grown.became.sound, kept.callable.of_sameSettings settings,
        by rw [settings.freeCallbackp]; exact kept.freeing, fun other above => ?_,
        settings.optionGrowOnGeti.trans kept.growsOnGet,
        settings.optionGrowOnSeti.trans kept.growsOnSet⟩, grown.owned, exchanged⟩
      rw [grown.became.entries, GenericStack.padded, if_neg (by omega)]
      exact kept.clear other (Nat.le_trans grown.larger above)
    · obtain ⟨between, exhausted⟩ := genericStackGetp_exhausted grants enough kept.sound
        (Nat.not_lt.mp narrow) kept.growsOnGet world
      rw [exhausted] at run
      cases run

/-- A write below `2 ^ 31` succeeds: the old entry is given to the free callback, the new one is a
fresh copy. -/
theorem genericStackSeti_kept (grants : libc.AlwaysGrants) (enough : 2 ^ 32 ≤ fuel)
    (kept : stack.Kept) {index : Nat} (narrow : index < 2 ^ 31) {elementp : Option (Element V)}
    {result : Nat}
    (run : genericStackSeti libc fuel stack index elementp world = .ok (result, stack') world') :
    result = 1 ∧ stack'.Kept ∧ ∃ (stored : Option (Element V)) (released : List (Element V)),
      Exchanged world world' stored.toList released ∧
      (∀ element ∈ stored, AllocatedBetween world world' element) ∧
      (stack.owned ++ stored.toList).Perm (released ++ stack'.owned) := by
  have apart := genericStackSeti_apart grants enough kept.sound kept.callable narrow
    (.inr kept.growsOnSet) run
  obtain ⟨next, between, entry, set, became, stored, exchanged⟩ := genericStackSeti_run grants
    enough kept.sound kept.callable narrow (.inr kept.growsOnSet) apart world
  rw [set] at run
  cases run
  have settings := became.settings
  rw [GenericStack.handedBack, if_pos kept.freeing] at exchanged
  refine ⟨rfl, ⟨became.sound, kept.callable.of_sameSettings settings,
    by rw [settings.freeCallbackp]; exact kept.freeing, fun other above => ?_,
    settings.optionGrowOnGeti.trans kept.growsOnGet,
    settings.optionGrowOnSeti.trans kept.growsOnSet⟩, entry, _, exchanged, stored.fresh,
    GenericStack.setEntry_owned (fun above _ passed from' _ => kept.clear passed from') kept.sound
      became⟩
  rw [became.size] at above
  rw [became.entries, GenericStack.setEntry, Function.update_of_ne (by omega)]
  split
  · rfl
  · exact kept.clear other (by omega)

/-- The destruction gives the entries to the free callback. -/
theorem genericStackDestroyv_kept (enough : 2 ^ 32 ≤ fuel) (kept : stack.Kept)
    (run : genericStackDestroyv fuel stack world = .ok () world') :
    Exchanged world world' [] stack.owned := by
  obtain ⟨between, destroyed, exchanged⟩ :=
    genericStackDestroyv_run enough kept.sound kept.callable world
  rw [destroyed] at run
  cases run
  rwa [GenericStack.handedBack, if_pos kept.freeing,
    kept.clear.occupants kept.sound] at exchanged

end Stack

/-! ### The body -/

/-- The entries of the value stack that a local designates. -/
def ownedBy : Option (GenericStack V) → List (Element V)
  | none => []
  | some stack => stack.owned

/-- The record since `start` balances with the value stack and the outputs in `pending`. -/
structure Held (start : World V) (pending : List (Element V)) (state : VbState V) : Prop where
  kept : ∀ stack ∈ state.locals.genericStackp, stack.Kept
  owes : Owes start state.world (ownedBy state.locals.genericStackp ++ pending)

/-- Between two steps no output is pending. -/
structure Idle (start : World V) (opened : Bool) (state : VbState V) : Prop where
  held : Held start [] state
  noOutput : state.locals.valueOutputp.target? = none
  opened : state.locals.genericStackp.isSome = opened

/-- Within a step the output that the local designates is pending. -/
structure Busy (start : World V) (state : VbState V) : Prop where
  held : Held start state.locals.valueOutputp.target?.toList state
  opened : state.locals.genericStackp.isSome = true

section Body

variable {start : World V} {locals : VbLocals V} {world : World V} {opened : Bool}
  {pending : List (Element V)}

theorem Held.quiet (held : Held start pending ⟨locals, world⟩) {event : Event V}
    (noDealing : valueDealing event = none) {address : Nat} (later : world.nextAddress ≤ address) :
    Held start pending
      ⟨locals, { world with events := world.events ++ [event], nextAddress := address }⟩ :=
  ⟨held.kept, held.owes.quiet noDealing later⟩

theorem Idle.quiet (idle : Idle start opened ⟨locals, world⟩) {event : Event V}
    (noDealing : valueDealing event = none) {address : Nat} (later : world.nextAddress ≤ address) :
    Idle start opened
      ⟨locals, { world with events := world.events ++ [event], nextAddress := address }⟩ :=
  ⟨idle.held.quiet noDealing later, idle.noOutput, idle.opened⟩

theorem Busy.quiet (busy : Busy start ⟨locals, world⟩) {event : Event V}
    (noDealing : valueDealing event = none) :
    Busy start ⟨locals, { world with events := world.events ++ [event] }⟩ :=
  ⟨busy.held.quiet noDealing (Nat.le_refl _), busy.opened⟩

theorem Idle.busy {state : VbState V} (idle : Idle start true state) : Busy start state :=
  ⟨by rw [idle.noOutput]; exact idle.held, idle.opened⟩

theorem Held.failed (held : Held start pending ⟨locals, world⟩) :
    Held start pending ⟨{ locals with rcb := false }, world⟩ :=
  ⟨held.kept, held.owes⟩

/-- Asking for an answer. -/
theorem ask_idle {α : Type} (answer : List (Event V) → α) (event : α → Event V)
    (noDealing : ∀ value, valueDealing (event value) = none) :
    Triple (Idle start opened) (onWorld (ask answer event)) (fun _ => Idle start opened)
      (AtExit (Held start [])) := by
  refine onWorld_triple fun locals world value world' idle run => ?_
  rw [run_ask] at run
  cases run
  exact idle.quiet (noDealing _) (Nat.le_refl _)

theorem askOrFail_idle (wanted : Bool) (answer : List (Event V) → Int) (event : Int → Event V)
    (failed : Int → Bool) (noDealing : ∀ value, valueDealing (event value) = none) :
    Triple (Idle start opened) (askOrFail wanted answer event failed) (fun _ => Idle start opened)
      (AtExit (Held start [])) :=
  askOrFail_triple
    (fun _ _ value _ idle => (idle.quiet (noDealing value) (Nat.le_refl _)).held.failed)
    (fun _ _ value _ idle => idle.quiet (noDealing value) (Nat.le_refl _)) fun _ idle => idle

theorem acquireOrFail_idle (granted : List (Event V) → Bool) (event : Option Nat → Event V)
    (noDealing : ∀ handle, valueDealing (event handle) = none) :
    Triple (Idle start opened) (acquireOrFail granted event) (fun _ => Idle start opened)
      (AtExit (Held start [])) :=
  acquireOrFail_triple
    (fun _ _ idle => (idle.quiet (noDealing _) (Nat.le_refl _)).held.failed)
    fun _ _ idle => idle.quiet (noDealing _) (Nat.le_succ _)

/-- Assigning a local that designates neither the value stack nor an output. -/
theorem assign_idle {change : VbLocals V → VbLocals V}
    (sameStack : ∀ locals, (change locals).genericStackp = locals.genericStackp)
    (sameOutput : ∀ locals, (change locals).valueOutputp = locals.valueOutputp) :
    Triple (Idle start opened) (assign change) (fun _ => Idle start opened)
      (AtExit (Held start [])) :=
  assign_triple fun locals world idle =>
    ⟨⟨by rw [sameStack]; exact idle.held.kept, by rw [sameStack]; exact idle.held.owes⟩,
      by rw [sameOutput]; exact idle.noOutput, by rw [sameStack]; exact idle.opened⟩

theorem openTree_idle (phase : ValuePhase V) (valueOption : MarpaWrapperValueOption V) :
    Triple (Idle start opened) (openTree phase valueOption) (fun _ => Idle start opened)
      (AtExit (Held start [])) :=
  .bind (ask_idle _ _ fun _ => rfl) fun _ =>
  .bind (acquireOrFail_idle _ _ fun _ => rfl) fun _ =>
  .bind (assign_idle (fun _ => rfl) fun _ => rfl) fun _ =>
  .bind (acquireOrFail_idle _ _ fun _ => rfl) fun _ =>
  .bind (assign_idle (fun _ => rfl) fun _ => rfl) fun _ =>
  .bind (askOrFail_idle _ _ _ _ fun _ => rfl) fun _ =>
  .bind (askOrFail_idle _ _ _ _ fun _ => rfl) fun _ =>
  .bind (askOrFail_idle _ _ _ _ fun _ => rfl) fun _ =>
  .bind (askOrFail_idle _ _ _ _ fun _ => rfl) fun _ =>
  .bind (acquireOrFail_idle _ _ fun _ => rfl) fun _ =>
  assign_idle (fun _ => rfl) fun _ => rfl

section Loops

variable {libc : Libc V} {fuel : Nat} {phase : ValuePhase V} {wrapper : Wrapper}
  {valueOption : MarpaWrapperValueOption V} {stackOption : MarpaWrapperStackOption V}

theorem openValuator_idle (grants : libc.AlwaysGrants) (enough : 2 ^ 32 ≤ fuel)
    (given : stackOption.HasCallbacks) :
    Triple (Idle start false) (openValuator libc fuel phase stackOption) (fun _ => Idle start true)
      (AtExit (Held start [])) := by
  refine .bind (acquireOrFail_idle _ _ fun _ => rfl) fun _ =>
    .bind (assign_idle (fun _ => rfl) fun _ => rfl) fun _ =>
    .bind (askOrFail_idle _ _ _ _ fun _ => rfl) fun _ => ?_
  -- The new stack owns nothing, and there was none before it.
  refine .through (fun created state => Idle start false state ∧
    ∀ stack ∈ created, stack.Kept ∧ stack.owned = []) ?_ fun created => ?_
  · refine onWorld_triple fun locals world created world' idle run => ?_
    obtain ⟨fresh, exchanged⟩ := genericStackNewp_return grants enough run
    exact ⟨⟨⟨idle.held.kept, idle.held.owes.ofStack none exchanged
      (fun _ member => nomatch member) (List.Perm.of_eq (List.append_nil _))⟩, idle.noOutput,
      idle.opened⟩, fun stack member => (fresh stack member).kept given⟩
  · cases created with
    | none => exact fail_triple fun locals world holds => holds.1.held.failed
    | some stack =>
      refine assign_triple fun locals world ⟨idle, new⟩ => ?_
      obtain ⟨kept, empty⟩ := new stack rfl
      have missing : locals.genericStackp = none := Option.isNone_iff_eq_none.mp (by
        rw [← Option.not_isSome, idle.opened]
        rfl)
      have owes := idle.held.owes
      simp only [missing, ownedBy, List.append_nil] at owes
      refine ⟨⟨fun _ member => by cases member; exact kept, ?_⟩, idle.noOutput, rfl⟩
      simp only [ownedBy, empty, List.append_nil]
      exact owes

theorem getp_held (grants : libc.AlwaysGrants) (enough : 2 ^ 32 ≤ fuel) (index : Nat)
    {locals : VbLocals V} {world world' : World V} {stack stack' : GenericStack V}
    {value : Option (Element V)} (held : Held start pending ⟨locals, world⟩)
    (designated : locals.genericStackp = some stack)
    (run : genericStackGetp libc fuel stack index world = .ok (value, stack') world') :
    Held start pending ⟨{ locals with genericStackp := some stack' }, world'⟩ := by
  have owes := held.owes
  simp only [designated, ownedBy] at owes
  obtain ⟨kept, owned, exchanged⟩ :=
    genericStackGetp_kept grants enough (held.kept stack designated) run
  refine ⟨fun _ member => by cases member; exact kept, ?_⟩
  simp only [ownedBy, owned]
  exact owes.ofStack none exchanged (fun _ member => nomatch member)
    (List.Perm.of_eq (List.append_nil _))

theorem getp_idle (grants : libc.AlwaysGrants) (enough : 2 ^ 32 ≤ fuel) (index : Nat) :
    Triple (Idle start true) (onStack (genericStackGetp libc fuel · index) none)
      (fun _ => Idle start true) (AtExit (Held start [])) :=
  onStack_triple (fun _ idle _ => idle) fun _ _ _ _ _ _ idle designated run =>
    ⟨getp_held grants enough index idle.held designated run, idle.noOutput, rfl⟩

theorem collectInputs_idle (grants : libc.AlwaysGrants) (enough : 2 ^ 32 ≤ fuel)
    (argFirsti argLasti : Int) :
    Triple (Idle start true) (collectInputs libc fuel argFirsti argLasti)
      (fun _ => Idle start true) (AtExit (Held start [])) := by
  have allocates (size : Nat) : Triple (Idle start true) (onWorld (malloc libc size))
      (fun _ => Idle start true) (AtExit (Held start [])) := by
    refine onWorld_triple fun locals world address world' idle run => ?_
    rw [malloc_run grants] at run
    cases run
    exact idle.quiet rfl (Nat.le_succ _)
  refine collectInputs_triple allocates (fun _ _ idle => idle.held.failed)
    (fun _ => assign_idle (fun _ => rfl) fun _ => rfl) (getp_idle grants enough)
    (fun _ _ _ => onWorld_triple fun locals world cells world' idle run => ?_) (fun _ _ => trivial) _ _
  unfold writeCell at run
  split at run <;> cases run
  exact idle

/-- A callback's output is pending when the callback answered `TRUE`. -/
theorem produceOrFail_busy (callback : List (Event V) → Bool × Option V)
    (event : Bool → Option (Element V) → Event V)
    (refused : ∀ output, valueDealing (event false output) = none)
    (nothing : valueDealing (event true none) = none)
    (produced : ∀ output, valueDealing (event true (some output)) = some (.stored output)) :
    Triple (Idle start true) (produceOrFail callback event) (fun _ => Busy start)
      (AtExit (Held start [])) := by
  refine .through (fun (result : Bool × Option (Element V)) state =>
    Held start (if result.1 then result.2.toList else []) state ∧
      state.locals.genericStackp.isSome = true) ?_ fun result => ?_
  · refine onWorld_triple fun locals world result world' idle run => ?_
    unfold invoke at run
    generalize callback world.events = reply at run
    obtain ⟨answer, content⟩ := reply
    cases run
    refine ⟨?_, idle.opened⟩
    cases answer with
    | false => exact idle.held.quiet (refused _) (Nat.le_succ _)
    | true =>
      cases content with
      | none => exact idle.held.quiet nothing (Nat.le_succ _)
      | some value =>
        have owes := idle.held.owes
        rw [List.append_nil] at owes
        exact ⟨idle.held.kept, owes.output (produced _)⟩
  · refine .through (fun _ state => Held start (if result.1 then result.2.toList else [])
      state ∧ state.locals.valueOutputp = .ofOption result.2 ∧
      state.locals.genericStackp.isSome = true) ?_ fun _ => ?_
    · exact assign_triple fun locals world holds =>
        ⟨⟨holds.1.kept, holds.1.owes⟩, rfl, holds.2⟩
    · refine failIf_triple (fun failing locals world holds => ?_) fun going state holds => ?_
      · have answered : result.1 = false := by simpa using failing
        rw [answered] at holds
        exact holds.1.failed
      · have answered : result.1 = true := by simpa using going
        rw [answered] at holds
        refine ⟨?_, holds.2.2⟩
        rw [holds.2.1]
        cases output : result.2 <;> rw [output] at holds <;> exact holds.1

theorem readPointer_idle {α : Type} (arraypp : Option (Block α)) (index : Int) :
    Triple (Idle start true) (onWorld (readPointer arraypp index)) (fun _ => Idle start true)
      (AtExit (Held start [])) := by
  refine onWorld_triple fun locals world pointer world' idle run => ?_
  obtain rfl := readPointer_world run
  exact idle

theorem freeInputs_busy :
    Triple (Busy start) (freeInputs (V := V)) (fun _ => Busy start) (AtExit (Held start [])) := by
  refine readLocals_triple fun locals => .through (fun _ => Busy start) ?_ fun _ =>
    assign_triple fun locals world busy => ⟨⟨busy.held.kept, busy.held.owes⟩, busy.opened⟩
  refine onWorld_triple fun _ world _ world' holds run => ?_
  cases array : locals.valueInputArraypp with
  | none =>
    rw [array] at run
    cases run
    exact holds.1
  | some address =>
    rw [array] at run
    cases run
    exact holds.1.quiet rfl

/-- Storing succeeds at every result below `2 ^ 31`, so a pending output is not lost. -/
theorem storeOutput_busy (grants : libc.AlwaysGrants) (enough : 2 ^ 32 ≤ fuel) {argResulti : Int}
    (lower : 0 ≤ argResulti) (upper : argResulti < 2 ^ 31) :
    Triple (Busy start) (storeOutput libc fuel argResulti) (fun _ => Busy start)
      (AtExit (Held start [])) := by
  have narrow : toUnsigned argResulti < 2 ^ 31 := by
    simp only [toUnsigned, uintModulus]
    omega
  refine readOutput_triple (fun _ _ busy => busy.quiet rfl) fun locals => .through (fun stored state =>
    stored = 1 ∧ Busy start state) ?_ fun stored => ?_
  · refine onStack_triple (fun state holds missing => ?_)
      fun locals' world stack result stack' world' holds designated run => ?_
    · have opened := holds.1.opened
      rw [missing] at opened
      cases opened
    · obtain ⟨busy, rfl⟩ := holds
      have owes := busy.held.owes
      simp only [designated, ownedBy] at owes
      obtain ⟨rfl, kept, stored, released, exchanged, fresh, balance⟩ :=
        genericStackSeti_kept grants enough (busy.held.kept stack designated) narrow run
      refine ⟨rfl, ⟨fun _ member => by cases member; exact kept, ?_⟩, rfl⟩
      refine owes.ofStack stored exchanged fresh ?_
      simp only [ownedBy]
      rw [List.append_assoc, ← List.append_assoc released]
      refine (List.perm_append_comm.append_left _).trans ?_
      rw [← List.append_assoc]
      exact balance.append_right _
  · refine failIf_triple (fun failing locals world holds => ?_) fun _ state holds => holds.2
    rw [holds.1] at failing
    cases failing

theorem MarpaStep.NonNegative.result {step : MarpaStep} (nonNegative : step.NonNegative)
    {argResulti : Int} (stored : step.result? = some argResulti) :
    0 ≤ argResulti ∧ argResulti < 2 ^ 31 := by
  cases step <;> cases stored <;> exact nonNegative

/-- What a step does when its result index is that of a stack. -/
theorem stepRules_busy (grants : libc.AlwaysGrants) (enough : 2 ^ 32 ≤ fuel) {step : MarpaStep}
    (nonNegative : step.NonNegative) :
    StepRules libc fuel wrapper valueOption step (Idle start true) (Busy start) (Busy start)
      (AtExit (Held start [])) where
  collects _ := collectInputs_idle grants enough _ _
  looksUp _ _ _ := readPointer_idle _ _
  skips _ idle := idle.busy
  calls call := by cases call <;> exact produceOrFail_busy _ _ (fun _ => rfl) rfl fun _ => rfl
  frees := freeInputs_busy
  stores stored := storeOutput_busy grants enough (nonNegative.result stored).1
    (nonNegative.result stored).2
  idles _ idle := idle.busy

theorem callOutputFree_run {output : Element V} {world world' : World V} {status : Int}
    (run : callOutputFree stackOption output world = .ok status world') :
    world' = { world with events := world.events ++ [.outputFree output status] } := by
  unfold callOutputFree at run
  split at run
  · cases run
    rfl
  · cases run

/-- The pending output is given to the free callback, whatever the callback answers. -/
theorem releaseOutput_idle :
    Triple (Busy start) (releaseOutput stackOption) (fun _ => Idle start true)
      (AtExit (Held start [])) := by
  refine readOutput_triple (fun _ _ busy => busy.quiet rfl) fun locals => ?_
  cases designated : locals.valueOutputp with
  | indeterminate =>
    refine .pure fun state holds => ?_
    obtain ⟨busy, rfl⟩ := holds
    have held := busy.held
    rw [designated] at held
    exact ⟨held, by rw [designated]; rfl, busy.opened⟩
  | null =>
    refine .pure fun state holds => ?_
    obtain ⟨busy, rfl⟩ := holds
    have held := busy.held
    rw [designated] at held
    exact ⟨held, by rw [designated]; rfl, busy.opened⟩
  | pointer output =>
    refine .through (fun _ state => Held start [] state ∧
      state.locals.genericStackp.isSome = true) ?_ fun status => ?_
    · refine onWorld_triple fun locals' world status world' holds run => ?_
      obtain ⟨busy, same⟩ := holds
      obtain rfl : locals' = locals := same
      rw [callOutputFree_run run]
      refine ⟨⟨busy.held.kept, ?_⟩, busy.opened⟩
      have owes : Owes start world (ownedBy locals'.genericStackp ++ [output]) := by
        have owes := busy.held.owes
        simpa only [designated, Slot.target?, Option.toList_some] using owes
      refine owes.exchange [.outputFree output status] rfl (Nat.le_refl _)
        (fun _ member => (nomatch member)) .nil ?_
      show (ownedBy locals'.genericStackp ++ [output] ++ []).Perm
        ([output] ++ (ownedBy locals'.genericStackp ++ []))
      rw [List.append_nil, List.append_nil]
      exact List.perm_append_comm
    · refine .through (fun _ state => Held start [] state ∧
        state.locals.genericStackp.isSome = true)
        (failIf_triple (fun _ _ _ holds => holds.1.failed) fun _ _ holds => holds) fun _ =>
        .through (fun _ state => Held start [] state ∧
          state.locals.genericStackp.isSome = true) ?_ fun _ => ?_
      · refine onWorld_triple fun locals' world value world' holds run => ?_
        cases run
        exact ⟨holds.1.quiet rfl (Nat.le_refl _), holds.2⟩
      · exact assign_triple fun locals' world holds =>
          ⟨⟨holds.1.kept, holds.1.owes⟩, rfl, holds.2⟩

theorem stepTurn_idle (grants : libc.AlwaysGrants) (enough : 2 ^ 32 ≤ fuel)
    (nonNegative : ∀ events, (phase.step events).NonNegative) :
    Triple (Idle start true) (stepTurn libc fuel phase wrapper valueOption stackOption ())
      (fun _ => Idle start true) (AtExit (Held start [])) :=
  stepTurn_triple (fun _ _ idle =>
      have asked := idle.quiet rfl (Nat.le_refl _)
      ⟨⟨asked.held.kept, asked.held.owes⟩, rfl, asked.opened⟩)
    (fun events => stepRules_busy grants enough (nonNegative events)) releaseOutput_idle

theorem reportResult_idle (grants : libc.AlwaysGrants) (enough : 2 ^ 32 ≤ fuel) :
    Triple (Idle start true) (reportResult libc fuel valueOption) (fun _ => Idle start true)
      (AtExit (Held start [])) :=
  reportResult_triple (fun _ => Idle start true) (getp_idle grants enough 0)
    (fun _ _ => ask_idle _ _ fun _ => rfl) (fun _ _ idle => idle.held.failed)
    (fun _ idle => idle.held) fun _ idle => idle

/-- Destroying the value stack pays for its entries. -/
theorem destroyIfNotNull_held (enough : 2 ^ 32 ≤ fuel) {genericStackp : Option (GenericStack V)}
    {world world' : World V} (kept : ∀ stack ∈ genericStackp, stack.Kept)
    (owes : Owes start world (ownedBy genericStackp))
    (run : destroyIfNotNull fuel genericStackp world = .ok () world') : Owes start world' [] := by
  cases genericStackp with
  | none =>
    cases run
    exact owes
  | some stack =>
    have exchanged := genericStackDestroyv_kept enough (kept stack rfl) run
    exact owes.ofStack none exchanged (fun _ member => nomatch member) (.refl _)

theorem unrefIfNotNull_owes {owed : List (Element V)} {event : Nat → Event V}
    {handle : Option Nat} {world world' : World V}
    (noDealing : ∀ handle, valueDealing (event handle) = none) (owes : Owes start world owed)
    (run : unrefIfNotNull event handle world = .ok () world') : Owes start world' owed := by
  cases handle with
  | none =>
    cases run
    exact owes
  | some handle =>
    cases run
    exact owes.quiet (noDealing handle) (Nat.le_refl _)

theorem closeValuator_idle (enough : 2 ^ 32 ≤ fuel) :
    Triple (Idle start true) (closeValuator fuel) (fun _ => Idle start false)
      (AtExit (Held start [])) := by
  refine readLocals_triple fun locals => ?_
  -- The value stack is gone before its local is cleared.
  refine .through (fun _ state => Owes start state.world [] ∧
    state.locals.valueOutputp.target? = none) ?_ fun _ => ?_
  · refine onWorld_triple fun locals' world _ world' holds run => ?_
    obtain ⟨idle, rfl⟩ := holds
    have owes := idle.held.owes
    rw [List.append_nil] at owes
    exact ⟨destroyIfNotNull_held enough idle.held.kept owes run, idle.noOutput⟩
  · refine .through (fun _ => Idle start false) ?_ fun _ =>
      .through (fun _ => Idle start false) ?_ fun _ =>
        assign_idle (fun _ => rfl) fun _ => rfl
    · exact assign_triple fun locals' world holds =>
        ⟨⟨fun _ member => (nomatch member), holds.1⟩, holds.2, rfl⟩
    · refine onWorld_triple fun locals' world _ world' idle run => ?_
      refine ⟨⟨idle.held.kept, unrefIfNotNull_owes (fun _ => rfl) idle.held.owes run⟩,
        idle.noOutput, idle.opened⟩

theorem vbBody_idle (grants : libc.AlwaysGrants) (enough : 2 ^ 32 ≤ fuel)
    (given : stackOption.HasCallbacks)
    (nonNegative : ∀ events, (phase.step events).NonNegative) (marpaWrapperp : Option Wrapper)
    (marpaWrapperValueOptionp : Option (MarpaWrapperValueOption V)) :
    Triple (Idle start false)
      (vbBody libc fuel phase marpaWrapperp marpaWrapperValueOptionp (some stackOption))
      (fun _ => Held start []) (AtExit (Held start [])) := by
  refine (vbBody_triple (fun _ _ idle => idle.held.failed) (openTree_idle phase _)
    (fun wrapper _ _ same => ?_) fun _ _ => trivial).consequence (fun _ idle => idle)
    (fun _ _ idle => idle.held) fun _ _ left => left
  cases same
  exact treeTurn_triple (ask_idle _ _ fun _ => rfl) (openValuator_idle grants enough given)
    (stepTurn_idle grants enough nonNegative) (fun _ _ => trivial) (reportResult_idle grants enough)
    (closeValuator_idle enough)

theorem freeOutput_owes {owed : List (Element V)} {valueOutputp : Slot (Element V)}
    {world world' : World V} (owes : Owes start world owed)
    (run : freeOutput valueOutputp world = .ok () world') : Owes start world' owed := by
  cases valueOutputp with
  | indeterminate =>
    cases run
    exact owes.quiet rfl (Nat.le_refl _)
  | null =>
    cases run
    exact owes
  | pointer output =>
    cases run
    exact owes.quiet rfl (Nat.le_refl _)

theorem freeIfNotNull_owes {owed : List (Element V)} {address : Option Nat}
    {world world' : World V} (owes : Owes start world owed)
    (run : freeIfNotNull address world = .ok () world') : Owes start world' owed := by
  cases address with
  | none =>
    cases run
    exact owes
  | some address =>
    cases run
    exact owes.quiet rfl (Nat.le_refl _)

/-- The end label gives the entries of the value stack to the free callback, and nothing else. -/
theorem vbEndLabel_owes (enough : 2 ^ 32 ≤ fuel) {locals : VbLocals V} {world world' : World V}
    {result : Bool} (held : Held start [] ⟨locals, world⟩)
    (run : vbEndLabel fuel locals world = .ok result world') : Owes start world' [] := by
  obtain ⟨_, afterOutput, run₁, run⟩ := run_bind_eq_ok run
  obtain ⟨_, afterInputs, run₂, run⟩ := run_bind_eq_ok run
  obtain ⟨_, afterStack, run₃, run⟩ := run_bind_eq_ok run
  obtain ⟨_, afterValue, run₄, run⟩ := run_bind_eq_ok run
  obtain ⟨_, afterTree, run₅, run⟩ := run_bind_eq_ok run
  obtain ⟨_, afterOrder, run₆, run⟩ := run_bind_eq_ok run
  obtain ⟨_, afterBocage, run₇, run⟩ := run_bind_eq_ok run
  cases run
  have owes := held.owes
  rw [List.append_nil] at owes
  have stackOwed := freeIfNotNull_owes (freeOutput_owes owes run₁) run₂
  have nothingOwed := destroyIfNotNull_held enough held.kept stackOwed run₃
  exact unrefIfNotNull_owes (fun _ => rfl) (unrefIfNotNull_owes (fun _ => rfl)
    (unrefIfNotNull_owes (fun _ => rfl) (unrefIfNotNull_owes (fun _ => rfl) nothingOwed run₄) run₅)
    run₆) run₇

/-- When the function returns, nothing is owed. -/
theorem marpaWrapperVb_owes (grants : libc.AlwaysGrants) (enough : 2 ^ 32 ≤ fuel)
    (given : stackOption.HasCallbacks)
    (nonNegative : ∀ events, (phase.step events).NonNegative) {marpaWrapperp : Option Wrapper}
    {marpaWrapperValueOptionp : Option (MarpaWrapperValueOption V)} :
    Triple (fun world => world = start)
      (marpaWrapperVb libc fuel phase marpaWrapperp marpaWrapperValueOptionp (some stackOption))
      (fun _ world => Owes start world []) fun _ _ => True := by
  refine marpaWrapperVb_triple (vbBody_idle grants enough given nonNegative _ _) (fun world same => ?_)
    (fun _ held => held) (fun _ _ left => left) fun _ => .of_return fun _ _ _ held run =>
      vbEndLabel_owes enough held run
  subst same
  exact ⟨⟨fun _ member => (nomatch member), .refl world⟩, rfl, rfl⟩

/-- Every output of a callback and every copy of the value stack has been given to the free callback
once when `marpaWrapper_vb` returns, and nothing else has. -/
theorem marpaWrapperVb_releases_once (grants : libc.AlwaysGrants) (enough : 2 ^ 32 ≤ fuel)
    (given : stackOption.HasCallbacks)
    (nonNegative : ∀ events, (phase.step events).NonNegative) {marpaWrapperp : Option Wrapper}
    {marpaWrapperValueOptionp : Option (MarpaWrapperValueOption V)} {final : World V} {result : Bool}
    (run : marpaWrapperVb libc fuel phase marpaWrapperp marpaWrapperValueOptionp (some stackOption)
      start = .ok result final) :
    ∃ exchanges, final.events = start.events ++ exchanges ∧
      (passedIn exchanges).Perm (producedIn exchanges ++ storedIn exchanges) ∧
      ((producedIn exchanges ++ storedIn exchanges).map Element.address).Nodup := by
  have owes : Owes start final [] := (marpaWrapperVb_owes grants enough given nonNegative).ok rfl run
  obtain ⟨exchanges, appended⟩ := owes.record
  have since : start.since final = exchanges := by
    rw [World.since, ← appended, List.drop_left]
  have ledger := owes.ledger
  have apart := owes.apart
  rw [since] at ledger apart
  have noneTaken : taken (valueDealingsIn exchanges) = [] := by
    rw [List.eq_nil_iff_forall_not_mem]
    intro element member
    rcases valueDealingsIn_kinds exchanges _ (mem_taken.mp member) with ⟨_, kind⟩ | ⟨_, kind⟩ <;>
      cases kind
  have balance := ledger.balance
  rw [noneTaken, released_valueDealingsIn, List.nil_append, List.append_nil] at balance
  exact ⟨exchanges, appended.symm, balance.symm.trans (stored_valueDealingsIn exchanges),
    ((stored_valueDealingsIn exchanges).map _).nodup_iff.mp apart⟩

end Loops

end Body

/-! ### A sum -/

/-- A rule over a token and a nulled symbol. -/
def sumTree : ParseTree := .node 0 (.leaf (.token 0 7)) [.leaf (.nulled 0)]

/-- A wrapper with one symbol and one rule. -/
def sumWrapper : Wrapper where
  address := 0
  marpaRecognizerp := some 0
  marpaWrapperSymbolpp := some { address := 0, cells := [.pointer
    { address := 0, marpaSymbolIdi := 0, marpaWrapperp := 0, isLexemeb := false, lengthl := 0
      marpaWrapperSymbolOption := ⟨0, true, false, 0, 0, none⟩ }] }
  marpaWrapperRulepp := some { address := 0, cells := [.pointer
    { address := 0, marpaRuleIdi := 0, marpaWrapperp := 0, marpaWrapperRuleOption := {} }] }

/-- A token is its value, a nulled symbol has none and a rule adds up its children. -/
def sumOption : MarpaWrapperValueOption Int where
  valueRuleCallbackp := some fun _ _ inputs =>
    (true, some ((inputs.map (Option.map Element.value)).filterMap id).sum)
  valueSymbolCallbackp := some fun _ _ value => (true, some value)
  valueNullingCallbackp := some fun _ _ => (true, none)
  valueResultCallbackp := some fun _ _ => .true

/-- Elements of eight bytes. -/
def sumStackOption : MarpaWrapperStackOption Int where
  stackElementSizei := 8
  stackElementFreeCallbackp := some fun _ _ => true
  stackElementCopyCallbackp := some fun _ element => (true, element.value)

theorem sumTree_nonNegative : ∀ tree ∈ [sumTree], ∀ step ∈ tree.steps, step.NonNegative := by
  decide

/-- Whether a computation returned `TRUE`. -/
def returnsTrue {ε σ : Type} : EStateM.Result ε σ Bool → Bool
  | .ok result _ => result
  | .error _ _ => false

theorem returnsTrue_run {ε σ : Type} {outcome : EStateM.Result ε σ Bool}
    (returned : returnsTrue outcome = true) : ∃ final, outcome = .ok true final := by
  cases outcome with
  | ok result final =>
    obtain rfl : result = true := returned
    exact ⟨final, rfl⟩
  | error exit final => cases returned

theorem sum_returns : returnsTrue (marpaWrapperVb Libc.generous (2 ^ 32) (.walking [sumTree])
    (some sumWrapper) (some sumOption) (some sumStackOption) {}) = true := by
  decide +kernel

theorem marpaWrapperVb_releases_once_sum : ∃ final exchanges,
    marpaWrapperVb Libc.generous (2 ^ 32) (.walking [sumTree]) (some sumWrapper) (some sumOption)
      (some sumStackOption) {} = .ok true final ∧
    final.events = [] ++ exchanges ∧
    (passedIn exchanges).Perm (producedIn exchanges ++ storedIn exchanges) ∧
    ((producedIn exchanges ++ storedIn exchanges).map Element.address).Nodup := by
  obtain ⟨final, run⟩ := returnsTrue_run sum_returns
  obtain ⟨exchanges, appended, balance⟩ := marpaWrapperVb_releases_once Libc.generous_alwaysGrants
    (Nat.le_refl _) ⟨rfl, rfl⟩ (ValuePhase.walking_step trivial sumTree_nonNegative) run
  exact ⟨final, exchanges, run, appended, balance⟩

end MarpaWrapper
