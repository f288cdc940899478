/-
This file is about the life of a recognizer and of the two arrays beside it, in which
`marpaWrapper_r_terminals_expectedb` returns its result. The arrays are allocated
together, with as many slots as the grammar has symbols at that time, and they are
released with the recognizer. Between, only what their cells hold changes.
-/

import MarpaWrapper.ReachableStates

namespace MarpaWrapper

open Effects Sorting

variable {V : Type}

/-- Where a block lies, and how many slots it has. -/
def Block.extent {α : Type} (block : Block α) : Nat × Nat := (block.address, block.cells.length)

/-- A request for an object that was granted or refused. -/
theorem run_acquire_cases {granted : List (Event V) → Bool} {event : Option Nat → Event V}
    {address : Option Nat} {world world' : World V}
    (run : acquire granted event world = .ok address world') :
    (address = some world.nextAddress ∧ world' = { world with
      events := world.events ++ [event (some world.nextAddress)]
      nextAddress := world.nextAddress + 1 }) ∨
    (address = none ∧ world' = { world with events := world.events ++ [event none] }) := by
  cases grant : granted world.events with
  | true =>
    rw [run_acquire_granted grant] at run
    cases run
    exact .inl ⟨rfl, rfl⟩
  | false =>
    rw [run_acquire_refused grant] at run
    cases run
    exact .inr ⟨rfl, rfl⟩

theorem malloc_some {libc : Libc V} {size address : Nat} {world world' : World V}
    (run : malloc libc size world = .ok (some address) world') :
    address = world.nextAddress ∧ world'.nextAddress = world.nextAddress + 1 := by
  rcases run_acquire_cases run with ⟨same, rfl⟩ | ⟨none, -⟩
  · exact ⟨Option.some.inj same, rfl⟩
  · cases none

/-! ### The expected terminals -/

section Expected

variable {libc : Libc V} {marpa : Libmarpa V} {wrapper wrapper' : Wrapper} {world world' : World V}

/-- What `marpaWrapper_r_terminals_expectedb` may do to the arrays. They stay where they are, or an
array that lies alone is dropped, or both are allocated. -/
inductive ArraysAfter (wrapper : Wrapper) (world : World V) (wrapper' : Wrapper)
    (world' : World V) : Prop where
  | kept (ids : wrapper'.expectedMarpaSymbolIdArrayp.map Block.extent =
        wrapper.expectedMarpaSymbolIdArrayp.map Block.extent)
      (pointers : wrapper'.expectedMarpaWrapperSymbolArraypp.map Block.extent =
        wrapper.expectedMarpaWrapperSymbolArraypp.map Block.extent)
  | dropped (ids : wrapper.expectedMarpaSymbolIdArrayp = none)
      (ids' : wrapper'.expectedMarpaSymbolIdArrayp = none)
      (pointers' : wrapper'.expectedMarpaWrapperSymbolArraypp = none)
  | allocated (ids : wrapper.expectedMarpaSymbolIdArrayp = none)
      (ids' : wrapper'.expectedMarpaSymbolIdArrayp.map Block.extent =
        some (world.nextAddress, world.grammar.symbols.length))
      (pointers' : wrapper'.expectedMarpaWrapperSymbolArraypp.map Block.extent =
        some (world.nextAddress + 1, world.grammar.symbols.length))
      (recognizer : wrapper'.marpaRecognizerp.isSome)
      (later : world.nextAddress + 2 ≤ world'.nextAddress)

/-- The sizes of the arrays are exact: a grammar has fewer than `INT_MAX + 1` symbols. -/
theorem expectedSize_exact {symbols elementSizei : Nat} (few : symbols < 2 ^ 31)
    (positive : 0 < elementSizei) (small : elementSizei ≤ pointerSize) :
    toSize ((symbols : Int) - 1 + 1) * elementSizei % sizeModulus / elementSizei = symbols := by
  have exact : toSize ((symbols : Int) - 1 + 1) = symbols := by
    unfold toSize sizeModulus
    omega
  have fits : symbols * elementSizei < sizeModulus :=
    Nat.lt_of_le_of_lt (Nat.mul_le_mul (Nat.le_of_lt few) small) (by decide)
  rw [exact, Nat.mod_eq_of_lt fits, Nat.mul_div_cancel _ positive]

/-- What the allocation leaves. -/
theorem allocateExpected_cases {allocated : Bool} (few : world.grammar.symbols.length < 2 ^ 31)
    (recognizer : wrapper.marpaRecognizerp.isSome)
    (run : allocateExpected libc marpa wrapper world = .ok (allocated, wrapper') world') :
    ArraysAfter wrapper world wrapper' world' ∧
      (allocated = true → wrapper'.expectedMarpaSymbolIdArrayp.isSome = true) := by
  unfold allocateExpected at run
  by_cases there : wrapper.expectedMarpaSymbolIdArrayp.isSome
  · rw [if_pos there] at run
    cases run
    exact ⟨.kept rfl rfl, fun _ => there⟩
  · rw [if_neg there] at run
    have none : wrapper.expectedMarpaSymbolIdArrayp = none :=
      Option.not_isSome_iff_eq_none.mp there
    obtain ⟨highest, between, asked, rest⟩ := run_bind_eq_ok run
    have answer : (highest = -2 ∨ highest = (world.grammar.symbols.length : Int) - 1) ∧
        between.nextAddress = world.nextAddress := by
      unfold marpaGHighestSymbolId at asked
      cases asked
      refine ⟨?_, rfl⟩
      split
      · exact .inl rfl
      · exact .inr rfl
    by_cases failed : highest = -2
    · rw [if_pos failed] at rest
      cases rest
      exact ⟨.kept rfl rfl, fun same => nomatch same⟩
    · rw [if_neg failed] at rest
      obtain ⟨rfl, place⟩ := And.imp_left (Or.resolve_left · failed) answer
      obtain ⟨ids, first, granted, rest⟩ := run_bind_eq_ok rest
      cases ids with
      | none => cases rest; exact ⟨.kept rfl rfl, fun same => nomatch same⟩
      | some ids =>
        obtain ⟨pointers, second, granted', rest⟩ := run_bind_eq_ok rest
        cases pointers with
        | none => cases rest; exact ⟨.dropped none none rfl, fun same => nomatch same⟩
        | some pointers =>
          cases rest
          obtain ⟨rfl, first'⟩ := malloc_some granted
          obtain ⟨rfl, second'⟩ := malloc_some granted'
          refine ⟨.allocated none ?_ ?_ recognizer ?_, fun _ => rfl⟩
          · show some (_, _) = _
            rw [List.length_replicate, expectedSize_exact few (by decide) (by decide), place]
          · show some (_, _) = _
            rw [List.length_replicate, expectedSize_exact few (by decide) (by decide), first', place]
          · rw [second', first', place]

/-- What is filled in keeps the arrays where they are. -/
theorem fillExpected_extent {count : Option Nat}
    (run : fillExpected marpa wrapper world = .ok (count, wrapper') world') :
    wrapper'.expectedMarpaSymbolIdArrayp.map Block.extent =
        wrapper.expectedMarpaSymbolIdArrayp.map Block.extent ∧
      wrapper'.expectedMarpaWrapperSymbolArraypp.map Block.extent =
        wrapper.expectedMarpaWrapperSymbolArraypp.map Block.extent := by
  unfold fillExpected at run
  cases ids : wrapper.expectedMarpaSymbolIdArrayp with
  | none => rw [ids] at run; cases run
  | some array =>
    cases pointers : wrapper.expectedMarpaWrapperSymbolArraypp with
    | none => rw [ids, pointers] at run; cases run
    | some block =>
      rw [ids, pointers] at run
      obtain ⟨⟨nSymbolIdi, array'⟩, between, asked, rest⟩ := run_bind_eq_ok run
      rcases marpaRTerminalsExpected_return asked with ⟨rfl, -, rfl, -⟩ |
        ⟨reported, answer, rfl, fits, rfl, -⟩
      · cases rest
        exact ⟨rfl, rfl⟩
      · have same : Block.extent
            { array with cells := reported.map .pointer ++ array.cells.drop reported.length } =
              array.extent := by
          unfold Block.extent
          rw [List.length_append, List.length_map, List.length_drop, Nat.add_sub_cancel' fits]
        simp only [if_neg (show ¬ (reported.length : Int) = -2 by omega)] at rest
        obtain ⟨outcome, after, looked, last⟩ := run_bind_eq_ok rest
        obtain ⟨-, cells, rfl, length, -⟩ := lookupLoop_return looked
        cases last
        refine ⟨congrArg some same, congrArg some ?_⟩
        unfold Block.extent
        rw [length]

theorem marpaWrapperRTerminalsExpectedb_arrays {count : Option Nat}
    (few : world.grammar.symbols.length < 2 ^ 31)
    (run : marpaWrapperRTerminalsExpectedb libc marpa wrapper world =
      .ok (count, wrapper') world') : ArraysAfter wrapper world wrapper' world' := by
  unfold marpaWrapperRTerminalsExpectedb at run
  by_cases missing : wrapper.marpaRecognizerp.isNone
  · rw [if_pos missing] at run
    cases run
    exact .kept rfl rfl
  · rw [if_neg missing] at run
    obtain ⟨⟨allocated, between⟩, state, prepared, rest⟩ := run_bind_eq_ok run
    have recognizer : wrapper.marpaRecognizerp.isSome := by
      rw [Option.isNone_iff_eq_none, ← Option.not_isSome_iff_eq_none, Decidable.not_not] at missing
      exact missing
    have after := (allocateExpected_cases few recognizer prepared).1
    cases allocated with
    | false => cases rest; exact after
    | true =>
      have continued : Continued (·.ofExpected = true) state world' :=
        .of_run (fun _ => fillExpected_continued) rest
      obtain ⟨ids, pointers⟩ := fillExpected_extent rest
      obtain ⟨_, _, frame⟩ := fillExpected_frame rest
      cases after with
      | kept ids' pointers' => exact .kept (ids.trans ids') (pointers.trans pointers')
      | dropped none ids' pointers' =>
        rw [ids'] at ids
        rw [pointers'] at pointers
        exact .dropped none (Option.map_eq_none_iff.mp ids) (Option.map_eq_none_iff.mp pointers)
      | allocated none ids' pointers' recognizer' later =>
        refine .allocated none (ids.trans ids') (pointers.trans pointers') ?_
          (Nat.le_trans later continued.later)
        rw [frame]
        exact recognizer'

/-- The sort of the terminals keeps the arrays where they are. -/
theorem orderTerminals_extent (conforms : Conforms libc.qsort)
    {callbacks : RecognizerCallbacks V} {count : Nat}
    (run : orderTerminals libc callbacks wrapper count world = .ok wrapper' world') :
    world' = world ∧ ∃ pointers, wrapper' = { wrapper with
        expectedMarpaWrapperSymbolArraypp := pointers } ∧
      pointers.map Block.extent =
        wrapper.expectedMarpaWrapperSymbolArraypp.map Block.extent := by
  unfold orderTerminals at run
  by_cases sorts : callbacks.longestAcceptableTokenMatchb ∧ count > 1
  · rw [if_pos sorts] at run
    obtain ⟨outcome, between, walked, rest⟩ := run_bind_eq_ok run
    obtain ⟨rfl, terminals, rfl, cells, length⟩ := keyLoop_return walked
    cases rest
    refine ⟨rfl, _, rfl, ?_⟩
    have perm := conforms.perm (fun terminal1 terminal2 : Nat × MarpaWrapperSymbol =>
      marpaWrapperSymbolCmpBySizelDescFirstCharDesc (libc.garbage world'.events) terminal1.2
        terminal2.2) terminals
    cases array : wrapper.expectedMarpaWrapperSymbolArraypp with
    | none => rfl
    | some block =>
      have enough : count ≤ block.cells.length := by
        unfold expectedCells cellsOf at cells
        rw [array] at cells
        have same := congrArg List.length cells
        rw [List.length_take, List.length_map, length] at same
        change min count block.cells.length = count at same
        omega
      refine congrArg some ?_
      unfold Block.extent
      rw [List.length_append, List.length_map, List.length_drop, perm.length_eq, length,
        Nat.add_sub_cancel' enough]
  · rw [if_neg sorts] at run
    cases run
    exact ⟨rfl, _, rfl, rfl⟩

end Expected

/-! ### The recognizer -/

section Recognizer

variable {marpa : Libmarpa V} {wrapper wrapper' : Wrapper} {world world' : World V}

/-- What a start makes of the wrapper: another recognizer, or none, and no arrays if there was a
recognizer before. -/
inductive Restarted (wrapper : Wrapper) (handle : Option Nat) : Wrapper → Prop
  | first (none : wrapper.marpaRecognizerp = none) :
      Restarted wrapper handle { wrapper with marpaRecognizerp := handle }
  | again {old : Nat} (there : wrapper.marpaRecognizerp = some old) :
      Restarted wrapper handle { wrapper with
        marpaRecognizerp := handle
        expectedMarpaSymbolIdArrayp := none
        expectedMarpaWrapperSymbolArraypp := none }

/-- What a start adds to the record: the release of the earlier recognizer, with its arrays, and
the request for another one, with the call that starts its input. -/
structure Starts (old handle : Option Nat) (world world' : World V) : Prop where
  record : ∃ freed started, (∀ event ∈ freed, LeavesMarpa event) ∧ (∀ event ∈ started, LeavesMarpa event) ∧
    world'.events = world.events ++ ((old.map .recognizerUnref).toList ++ freed ++
      .recognizerNew handle :: started)
  place : handle = none ∨ handle = some world.nextAddress
  later : world.nextAddress + handle.toList.length = world'.nextAddress
  symbols : world'.grammar.symbols = world.grammar.symbols
  rules : world'.grammar.rules = world.grammar.rules

theorem unrefIfNotNull_run (event : Nat → Event V) (handle : Option Nat) (world : World V) :
    unrefIfNotNull event handle world =
      .ok () { world with events := world.events ++ (handle.map event).toList } := by
  cases handle with
  | none => rw [Option.map_none, Option.toList_none, List.append_nil]; rfl
  | some handle => rfl

theorem freeIfNotNull_run (address : Option Nat) (world : World V) :
    freeIfNotNull address world =
      .ok () { world with events := world.events ++ (address.map Event.free).toList } := by
  cases address with
  | none => rw [Option.map_none, Option.toList_none, List.append_nil]; rfl
  | some address => rfl

theorem freeIfNotNull_return {address : Option Nat}
    (run : freeIfNotNull address world = .ok () world') :
    world' = { world with events := world.events ++ (address.map Event.free).toList } := by
  rw [freeIfNotNull_run] at run
  cases run
  rfl

theorem releaseRecognizer_return
    (run : releaseRecognizer wrapper world = .ok wrapper' world') :
    (∀ handle, Restarted wrapper handle { wrapper' with marpaRecognizerp := handle }) ∧
      ∃ freed, (∀ event ∈ freed, LeavesMarpa event) ∧ world' = { world with events := world.events ++
        ((wrapper.marpaRecognizerp.map .recognizerUnref).toList ++ freed) } := by
  unfold releaseRecognizer at run
  cases there : wrapper.marpaRecognizerp with
  | none =>
    rw [there] at run
    cases run
    exact ⟨fun _ => .first there, [], (fun _ member => nomatch member), by
      rw [Option.map_none, Option.toList_none, List.append_nil, List.append_nil]⟩
  | some old =>
    rw [there] at run
    obtain ⟨_, state, unreferenced, rest⟩ := run_bind_eq_ok run
    cases unreferenced
    obtain ⟨_, first, freed, rest⟩ := run_bind_eq_ok rest
    obtain ⟨_, second, freed', rest⟩ := run_bind_eq_ok rest
    cases rest
    obtain rfl := freeIfNotNull_return freed
    obtain rfl := freeIfNotNull_return freed'
    refine ⟨fun _ => .again there,
      (wrapper.expectedMarpaSymbolIdArrayp.map fun block => Event.free block.address).toList ++
        (wrapper.expectedMarpaWrapperSymbolArraypp.map fun block =>
          Event.free block.address).toList,
      fun event member => ?_, ?_⟩
    · rcases List.mem_append.mp member with ids | pointers
      · obtain ⟨block, -, rfl⟩ := Option.map_eq_some_iff.mp (Option.mem_toList.mp ids)
        rfl
      · obtain ⟨block, -, rfl⟩ := Option.map_eq_some_iff.mp (Option.mem_toList.mp pointers)
        rfl
    · simp only [Option.map_map, List.append_assoc]
      rfl

theorem reportingCall_return {answered : List (Event V) → Int × List (Nat × Int)}
    {event : Int → Event V} {answer : Int}
    (run : reportingCall answered event world = .ok answer world') :
    world'.events = world.events ++ [event answer] ∧
      world'.grammar.symbols = world.grammar.symbols ∧
      world'.grammar.rules = world.grammar.rules ∧ world'.nextAddress = world.nextAddress := by
  unfold reportingCall at run
  cases run
  exact ⟨rfl, rfl, rfl, rfl⟩

theorem startRecognizer_return {started : Bool}
    (run : startRecognizer marpa wrapper world = .ok (started, wrapper') world') :
    ∃ handle, Restarted wrapper handle wrapper' ∧
      Starts wrapper.marpaRecognizerp handle world world' := by
  obtain ⟨released, between, freed, rest⟩ := run_bind_eq_ok run
  obtain ⟨restarted, frees, plain, rfl⟩ := releaseRecognizer_return freed
  obtain ⟨handle, after, created, rest⟩ := run_bind_eq_ok rest
  refine ⟨handle, ?_⟩
  have granted := run_acquire_cases created
  cases handle with
  | none =>
    cases rest
    rcases granted with ⟨same, -⟩ | ⟨-, rfl⟩
    · cases same
    · exact ⟨restarted none, ⟨⟨frees, [], plain, (fun _ member => nomatch member), by
        simp only [List.append_assoc]⟩, .inl rfl, rfl, rfl, rfl⟩⟩
  | some handle =>
    rcases granted with ⟨same, rfl⟩ | ⟨none, -⟩
    · obtain ⟨answer, state, begun, rest⟩ := run_bind_eq_ok rest
      cases rest
      obtain ⟨added, symbols, rules, place⟩ := reportingCall_return begun
      refine ⟨restarted _, ⟨⟨frees, [.startInput answer], plain, List.forall_mem_singleton.mpr rfl,
        ?_⟩, .inr same, place.symm, symbols, rules⟩⟩
      rw [added]
      simp only [List.append_assoc, List.cons_append, List.nil_append, same]
    · cases none

end Recognizer

end MarpaWrapper
