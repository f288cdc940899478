/-
This file is about the recognizer of a wrapper and the two arrays beside it, over whole
sessions: the recognizer is started again and again, symbols are created while it is
there, and any call of libmarpa may fail, as may the allocation of the arrays.

The arrays are sized by the symbols that there are when they are allocated, which is after
the recognizer was created. What libmarpa writes to them are ids of symbols that existed
before. So how many symbols existed when the recognizer was created is what the record of
the exchanges is asked for.
-/

import MarpaWrapper.Ownership
import MarpaWrapper.TableMirror

namespace MarpaWrapper

open Effects Ownership Sorting

variable {V α : Type}

/-! ### What the record tells -/

/-- How many symbols a grammar has, and how many it had when its recognizer was created. -/
structure Census where
  symbols : Nat := 0
  recognized : Nat := 0

/-- The census after an exchange. -/
def Census.after (census : Census) : Event V → Census
  | .grammarNew (some _) => {}
  | .grammar .symbolNew answer =>
    if answer < 0 then census else { census with symbols := census.symbols + 1 }
  | .recognizerNew (some _) => { census with recognized := census.symbols }
  | _ => census

/-- The census of a record. -/
def census (events : List (Event V)) : Census := events.foldl Census.after {}

/-- What an exchange does with a recognizer. -/
def Event.handling : Event V → Option (Dealing Nat)
  | .recognizerNew (some handle) => some (.stored handle)
  | .recognizerUnref handle => some (.released handle)
  | _ => none

/-- The recognizers that were created and released, in order. -/
def handlings (exchanges : List (Event V)) : List (Dealing Nat) :=
  exchanges.filterMap Event.handling

/-- An exchange that neither creates a symbol or a grammar nor deals with a recognizer. -/
def Event.settled : Event V → Bool
  | .grammarNew _ | .recognizerNew _ | .recognizerUnref _ => false
  | .grammar call _ => decide (call ≠ .symbolNew)
  | _ => true

section Record

variable {event : Event V} {events exchanges : List (Event V)}

theorem Event.settled_of_plain (plain : LeavesMarpa event) : event.settled = true := by
  cases event <;> first | rfl | exact absurd plain Bool.false_ne_true

theorem Event.settled_of_definition (ofDefinition : event.ofDefinition = true) :
    event.settled = true := by
  cases event <;> first | rfl | exact ofDefinition

theorem census_append (events exchanges : List (Event V)) :
    census (events ++ exchanges) = exchanges.foldl Census.after (census events) := List.foldl_append

theorem handlings_append (events exchanges : List (Event V)) :
    handlings (events ++ exchanges) = handlings events ++ handlings exchanges :=
  List.filterMap_append

theorem Census.after_settled (census : Census) (settled : event.settled = true) :
    census.after event = census := by
  cases event with
  | grammar call answer => cases call <;> first | rfl | cases settled
  | grammarNew handle => cases settled
  | recognizerNew handle => cases settled
  | _ => rfl

theorem Census.after_created (census : Census) {answer : Int} (created : 0 ≤ answer) :
    census.after (.grammar .symbolNew answer : Event V) =
      { census with symbols := census.symbols + 1 } :=
  if_neg (Int.not_lt.mpr created)

theorem census_settled (settled : ∀ event ∈ exchanges, event.settled = true) :
    census (events ++ exchanges) = census events := by
  rw [census_append]
  generalize census events = before
  induction exchanges with
  | nil => rfl
  | cons event exchanges inductionHypothesis =>
    rw [List.foldl_cons, before.after_settled (settled event List.mem_cons_self)]
    exact inductionHypothesis fun other member => settled other (List.mem_cons_of_mem _ member)

theorem handlings_settled (settled : ∀ event ∈ exchanges, event.settled = true) :
    handlings exchanges = [] := by
  refine List.filterMap_eq_nil_iff.mpr fun event member => ?_
  have kind := settled event member
  cases event <;> first | rfl | cases kind

end Record

/-- libmarpa reports ids of symbols that existed when the recognizer was created, each of them
once. -/
def Libmarpa.ReportsRecognized (marpa : Libmarpa V) : Prop :=
  ∀ events ids, marpa.terminalsExpected events = some ids →
    ids.Nodup ∧ ∀ id ∈ ids, 0 ≤ id ∧ id < (census events).recognized

/-! ### The invariant -/

/-- The arrays of the expected terminals are both there, with so many slots each, or neither is.
They are there only beside a recognizer, and they have a slot for each symbol that it may
report. -/
structure Paired (wrapper : Wrapper) (recognized : Nat) : Prop where
  same : wrapper.expectedMarpaSymbolIdArrayp.map (·.cells.length) =
    wrapper.expectedMarpaWrapperSymbolArraypp.map (·.cells.length)
  alive : wrapper.expectedMarpaSymbolIdArrayp.isSome = true → wrapper.marpaRecognizerp.isSome = true
  enough : ∀ capacity, wrapper.expectedMarpaSymbolIdArrayp.map (·.cells.length) = some capacity →
    recognized ≤ capacity

/-- The recognizers that were created since the beginning are released, but the current one. -/
structure Handled (beginning : List (Event V)) (current : Option Nat) (world : World V) : Prop where
  record : ∃ exchanges, world.events = beginning ++ exchanges ∧
    Ledger (handlings exchanges) current.toList ∧
    ∀ handle ∈ stored (handlings exchanges), handle < world.nextAddress

/-- The invariant of a session that began with this record. -/
structure Coherent (build : Build) (beginning : List (Event V)) (wrapper : Wrapper)
    (world : World V) : Prop where
  symbols : ∃ symbols, Mirror symbolRegistry build wrapper.address wrapper.marpaWrapperSymbolpp
    wrapper.sizeMarpaWrapperSymboli wrapper.nMarpaWrapperSymboli world.grammar.symbols.length symbols
  rules : ∃ rules, Mirror ruleRegistry build wrapper.address wrapper.marpaWrapperRulepp
    wrapper.sizeMarpaWrapperRulei wrapper.nMarpaWrapperRulei world.grammar.rules.length rules
  counted : (census world.events).symbols = world.grammar.symbols.length
  recognized : (census world.events).recognized ≤ world.grammar.symbols.length
  paired : Paired wrapper (census world.events).recognized
  handled : Handled beginning wrapper.marpaRecognizerp world

section Coherent

variable {libc : Libc V} {fuel : Nat} {build : Build} {marpa : Libmarpa V}
  {beginning : List (Event V)} {current : Option Nat} {wrapper wrapper' : Wrapper}
  {world world' : World V}

/-- Exchanges that do not deal with a recognizer. -/
theorem Handled.settled (handled : Handled beginning current world) {exchanges : List (Event V)}
    (record : world'.events = world.events ++ exchanges) (none : handlings exchanges = [])
    (later : world.nextAddress ≤ world'.nextAddress) : Handled beginning current world' := by
  obtain ⟨before, begun, ledger, below⟩ := handled.record
  refine ⟨before ++ exchanges, by rw [record, begun, List.append_assoc], ?_⟩
  rw [handlings_append, none, List.append_nil]
  exact ⟨ledger, fun handle member => Nat.lt_of_lt_of_le (below handle member) later⟩

/-- The world goes on, and nothing happens to the symbols, the rules and the recognizer. -/
theorem Coherent.settled (coherent : Coherent build beginning wrapper world)
    (record : ∃ exchanges, world'.events = world.events ++ exchanges ∧
      ∀ event ∈ exchanges, event.settled = true)
    (symbols : world'.grammar.symbols.length = world.grammar.symbols.length)
    (rules : ∃ rules, Mirror ruleRegistry build wrapper'.address wrapper'.marpaWrapperRulepp
      wrapper'.sizeMarpaWrapperRulei wrapper'.nMarpaWrapperRulei world'.grammar.rules.length rules)
    (later : world.nextAddress ≤ world'.nextAddress)
    (same : ∃ table size count, wrapper' = { wrapper with
      marpaWrapperRulepp := table, sizeMarpaWrapperRulei := size, nMarpaWrapperRulei := count }) :
    Coherent build beginning wrapper' world' := by
  obtain ⟨exchanges, appended, settled⟩ := record
  obtain ⟨_, _, _, rfl⟩ := same
  have unchanged : census world'.events = census world.events := by
    rw [appended, census_settled settled]
  refine ⟨symbols ▸ coherent.symbols, rules, ?_, ?_, ?_,
    coherent.handled.settled appended (handlings_settled settled) later⟩
  · rw [unchanged, symbols]
    exact coherent.counted
  · rw [unchanged, symbols]
    exact coherent.recognized
  · rw [unchanged]
    exact ⟨coherent.paired.1, coherent.paired.2, coherent.paired.3⟩

theorem Coherent.aside (coherent : Coherent build beginning wrapper world)
    (continued : Continued LeavesMarpa world world') : Coherent build beginning wrapper world' := by
  obtain ⟨exchanges, appended, plain⟩ := continued.record
  exact coherent.settled ⟨exchanges, appended, fun event member =>
    Event.settled_of_plain (plain event member)⟩ (congrArg _ continued.symbols)
    (continued.rules ▸ coherent.rules) continued.later ⟨_, _, _, rfl⟩

theorem Coherent.precomputes (coherent : Coherent build beginning wrapper world)
    (censused : Censused world world') : Coherent build beginning wrapper world' := by
  obtain ⟨answer, record⟩ := censused.record
  exact coherent.settled ⟨_, record, fun event member => by rw [List.mem_singleton.mp member]; rfl⟩
    censused.length (censused.rules ▸ coherent.rules) (Nat.le_of_eq censused.addresses.symm)
    ⟨_, _, _, rfl⟩

theorem Coherent.addsRule (grants : libc.GrantsOthers) {option : Option MarpaWrapperRuleOption}
    {pointer : Option Nat} (coherent : Coherent build beginning wrapper world)
    (run : marpaWrapperGAddRulep libc fuel build marpa wrapper option world =
      .ok (pointer, wrapper') world') : Coherent build beginning wrapper' world' := by
  obtain ⟨rules, mirror⟩ := coherent.rules
  obtain ⟨recorded, changed⟩ := marpaWrapperGAddRulep_cases mirror grants run
  obtain ⟨exchanges, appended, kind⟩ := recorded.record
  have settled : ∀ event ∈ exchanges, event.settled = true := fun event member =>
    Event.settled_of_definition (kind event member)
  obtain ⟨rfl, same⟩ | ⟨block, size, rule, -, rfl, -, mirror'⟩ := changed
  · exact coherent.settled ⟨exchanges, appended, settled⟩ recorded.symbols ⟨rules, same ▸ mirror⟩
      recorded.later ⟨_, _, _, rfl⟩
  · exact coherent.settled ⟨exchanges, appended, settled⟩ recorded.symbols ⟨_, mirror'⟩
      recorded.later ⟨_, _, _, rfl⟩

theorem Coherent.addsSymbol (grants : libc.GrantsOthers) {option : Option MarpaWrapperSymbolOption}
    {pointer : Option Nat} (coherent : Coherent build beginning wrapper world)
    (run : marpaWrapperGAddSymbolp libc fuel build marpa wrapper option world =
      .ok (pointer, wrapper') world') : Coherent build beginning wrapper' world' := by
  obtain ⟨symbols, mirror⟩ := coherent.symbols
  obtain ⟨sameRules, ⟨rfl, record, same, place⟩ | ⟨block, size, symbol, exchanges, record, kind, more,
    rfl, placed, mirror'⟩⟩ := marpaWrapperGAddSymbolp_cases mirror grants run
  · -- A refused creation is none.
    have unchanged : census world'.events = census world.events := by
      rw [record, census_append]
      rfl
    exact ⟨⟨symbols, same ▸ mirror⟩, sameRules ▸ coherent.rules,
      by rw [unchanged, same]; exact coherent.counted,
      by rw [unchanged, same]; exact coherent.recognized, unchanged ▸ coherent.paired,
      coherent.handled.settled record rfl (Nat.le_of_eq place.symm)⟩
  · have settled : ∀ event ∈ exchanges, event.settled = true := fun event member =>
      Event.settled_of_definition (kind event member)
    have counted : census world'.events =
        { census world.events with symbols := (census world.events).symbols + 1 } := by
      rw [record, List.append_cons, census_settled settled, census_append, List.foldl_cons]
      exact Census.after_created _ (Int.natCast_nonneg _)
    have recognized := coherent.recognized
    refine ⟨⟨_, mirror'⟩, sameRules ▸ coherent.rules, ?_, ?_, ?_,
      coherent.handled.settled record ?_ ?_⟩
    · rw [counted, more, coherent.counted]
    · rw [counted, more]
      exact Nat.le_succ_of_le recognized
    · rw [counted]
      exact ⟨coherent.paired.same, coherent.paired.alive, coherent.paired.enough⟩
    · exact (List.filterMap_cons_none rfl).trans (handlings_settled settled)
    · exact Nat.le_of_lt (Nat.lt_of_le_of_lt placed.ofObject placed.later)

/-- What a start deals with. -/
def restarting (old handle : Option Nat) : List (Dealing Nat) :=
  (old.map .released).toList ++ (handle.map .stored).toList

theorem stored_restarting (old handle : Option Nat) :
    stored (restarting old handle) = handle.toList := by
  cases old <;> cases handle <;> rfl

theorem released_restarting (old handle : Option Nat) :
    released (restarting old handle) = old.toList := by
  cases old <;> cases handle <;> rfl

/-- What a start adds to the record, by its dealings and by what it makes of the census. -/
theorem Starts.tells {old handle : Option Nat} (starts : Starts old handle world world') :
    census world'.events = (census world.events).after (.recognizerNew handle : Event V) ∧
      ∃ exchanges, world'.events = world.events ++ exchanges ∧
        handlings exchanges = restarting old handle := by
  obtain ⟨freed, started, plain, plain', record⟩ := starts.record
  have settled : ∀ event ∈ freed, event.settled = true := fun event member =>
    Event.settled_of_plain (plain event member)
  have settled' : ∀ event ∈ started, event.settled = true := fun event member =>
    Event.settled_of_plain (plain' event member)
  refine ⟨?_, _, record, ?_⟩
  · have released : census (world.events ++ (old.map Event.recognizerUnref).toList) =
        census world.events := by
      rw [census_append]
      cases old <;> rfl
    rw [record, List.append_cons, ← List.append_assoc, ← List.append_assoc, ← List.append_assoc,
      census_settled settled', census_append, census_settled settled, released]
    rfl
  · rw [handlings_append, handlings_append, handlings_settled settled, List.append_nil,
      ← List.singleton_append, handlings_append, handlings_settled settled', List.append_nil]
    cases old <;> cases handle <;> rfl

/-- The recognizer is released, and the one that is created has a fresh handle. -/
theorem Handled.restarts {old handle : Option Nat} {exchanges : List (Event V)}
    (handled : Handled beginning old world) (record : world'.events = world.events ++ exchanges)
    (dealings : handlings exchanges = restarting old handle)
    (fresh : ∀ fresh ∈ handle.toList, fresh = world.nextAddress)
    (later : world.nextAddress + handle.toList.length ≤ world'.nextAddress) :
    Handled beginning handle world' := by
  obtain ⟨before, begun, ledger, below⟩ := handled.record
  refine ⟨before ++ exchanges, by rw [record, begun, List.append_assoc], ?_⟩
  rw [handlings_append, dealings]
  refine ⟨ledger.exchange (fun dealing member => ?_) (fun object member old => ?_) ?_ ?_,
    fun object member => ?_⟩
  · rcases List.mem_append.mp member with first | last
    · obtain ⟨object, -, rfl⟩ := Option.map_eq_some_iff.mp (Option.mem_toList.mp first)
      exact .inr ⟨object, rfl⟩
    · obtain ⟨object, -, rfl⟩ := Option.map_eq_some_iff.mp (Option.mem_toList.mp last)
      exact .inl ⟨object, rfl⟩
  · rw [stored_restarting] at member
    have same := fresh object member
    have known := below object old
    omega
  · rw [stored_restarting]
    cases handle with
    | none => exact .nil
    | some handle => exact List.nodup_singleton _
  · rw [stored_restarting, released_restarting]
  · rw [stored_append, stored_restarting] at member
    rcases List.mem_append.mp member with old | new
    · have := below object old
      omega
    · have := List.length_pos_of_mem new
      rw [fresh object new]
      omega

theorem Handled.starts {old handle : Option Nat} (handled : Handled beginning old world)
    (starts : Starts old handle world world') : Handled beginning handle world' := by
  obtain ⟨-, exchanges, record, dealings⟩ := starts.tells
  refine handled.restarts record dealings ?_ (Nat.le_of_eq starts.later)
  rcases starts.place with rfl | rfl
  · exact fun _ member => absurd member List.not_mem_nil
  · exact fun _ member => List.mem_singleton.mp member

theorem Coherent.starts {started : Bool} (coherent : Coherent build beginning wrapper world)
    (run : startRecognizer marpa wrapper world = .ok (started, wrapper') world') :
    Coherent build beginning wrapper' world' := by
  obtain ⟨handle, restarted, starts⟩ := startRecognizer_return run
  have handled := coherent.handled.starts starts
  have told := starts.tells.1
  have recognized := coherent.recognized
  have counted := coherent.counted
  have known : (census world'.events).symbols = world'.grammar.symbols.length ∧
      (census world'.events).recognized ≤ world'.grammar.symbols.length := by
    rw [told, starts.symbols]
    cases handle with
    | none => exact ⟨counted, recognized⟩
    | some handle => exact ⟨counted, Nat.le_of_eq counted⟩
  have empty (wrapper : Wrapper) (ids : wrapper.expectedMarpaSymbolIdArrayp = none)
      (pointers : wrapper.expectedMarpaWrapperSymbolArraypp = none) (recognized : Nat) :
      Paired wrapper recognized := by
    refine ⟨by rw [ids, pointers]; rfl, fun there => ?_, fun capacity same => ?_⟩
    · rw [ids] at there
      cases there
    · rw [ids] at same
      cases same
  cases restarted with
  | first missing =>
    -- Without a recognizer there were no arrays.
    have ids : wrapper.expectedMarpaSymbolIdArrayp = none := by
      rw [← Option.not_isSome_iff_eq_none]
      intro there
      have := coherent.paired.alive there
      rw [missing] at this
      cases this
    have pointers : wrapper.expectedMarpaWrapperSymbolArraypp = none := by
      have same := coherent.paired.same
      rw [ids] at same
      exact Option.map_eq_none_iff.mp same.symm
    exact ⟨starts.symbols ▸ coherent.symbols, starts.rules ▸ coherent.rules, known.1, known.2,
      empty { wrapper with marpaRecognizerp := handle } ids pointers _, handled⟩
  | again there =>
    exact ⟨starts.symbols ▸ coherent.symbols, starts.rules ▸ coherent.rules, known.1, known.2,
      empty _ rfl rfl _, handled⟩

/-- The arrays of the expected terminals are kept, dropped or allocated. -/
theorem Coherent.arrays (coherent : Coherent build beginning wrapper world)
    (continued : Continued (·.ofExpected = true) world world')
    (arrays : ArraysAfter wrapper world wrapper' world') (frame : OnlyExpected wrapper wrapper') :
    Coherent build beginning wrapper' world' := by
  have ready := coherent.aside (.trans (.refl _ _) continued fun _ => Event.plain_of_expected)
  have sameSymbols := continued.symbols
  obtain ⟨ids, pointers, rfl⟩ := frame
  refine ⟨ready.1, ready.2, ready.3, ready.4, ?_, ready.6⟩
  have counts {β : Type} {array : Option (Block β)} {extent : Option (Nat × Nat)}
      (same : array.map Block.extent = extent) :
      array.map (·.cells.length) = extent.map (·.2) := by
    rw [← same, Option.map_map]
    rfl
  have paired := ready.paired
  cases arrays with
  | kept ids' pointers' =>
    refine ⟨?_, fun there => paired.alive ?_, fun capacity same => paired.enough capacity ?_⟩
    · rw [counts ids', counts pointers', ← counts rfl, ← counts rfl]
      exact paired.same
    · rw [← Option.isSome_map (f := Block.extent), ← ids', Option.isSome_map]
      exact there
    · rw [← same, counts ids', ← counts rfl]
  | dropped missing ids' pointers' =>
    refine ⟨?_, fun there => ?_, fun capacity same => ?_⟩
    · rw [ids', pointers']
      rfl
    · rw [ids'] at there
      cases there
    · rw [ids'] at same
      cases same
  | allocated missing ids' pointers' recognizer later =>
    refine ⟨?_, fun _ => recognizer, fun capacity same => ?_⟩
    · rw [counts ids', counts pointers']
      rfl
    · rw [counts ids'] at same
      cases same
      rw [← sameSymbols]
      exact ready.recognized

theorem Coherent.few (coherent : Coherent build beginning wrapper world) :
    world.grammar.symbols.length < 2 ^ 31 := by
  obtain ⟨symbols, mirror⟩ := coherent.symbols
  exact mirror.given ▸ mirror.few

theorem Coherent.expects {count : Option Nat} (coherent : Coherent build beginning wrapper world)
    (run : marpaWrapperRTerminalsExpectedb libc marpa wrapper world =
      .ok (count, wrapper') world') : Coherent build beginning wrapper' world' :=
  coherent.arrays (.of_run (fun _ => marpaWrapperRTerminalsExpectedb_continued) run)
    (marpaWrapperRTerminalsExpectedb_arrays coherent.few run)
    (marpaWrapperRTerminalsExpectedb_frame run)

theorem Coherent.progresses {starti endi : Int} {count : Option Nat}
    (coherent : Coherent build beginning wrapper world)
    (run : marpaWrapperRProgressb libc fuel build marpa wrapper starti endi world =
      .ok (count, wrapper') world') : Coherent build beginning wrapper' world' := by
  have continued : Continued (·.ofProgress = true) world world' :=
    .of_run (fun _ => marpaWrapperRProgressb_continued _ _) run
  have ready := coherent.aside (.trans (.refl _ _) continued fun _ => Event.plain_of_progress)
  obtain ⟨_, _, _, rfl⟩ := marpaWrapperRProgressb_frame run
  exact ⟨ready.1, ready.2, ready.3, ready.4, ⟨ready.5.1, ready.5.2, ready.5.3⟩, ready.6⟩

theorem Coherent.orders (conforms : Conforms libc.qsort) {callbacks : RecognizerCallbacks V}
    {count : Nat} (coherent : Coherent build beginning wrapper world)
    (run : orderTerminals libc callbacks wrapper count world = .ok wrapper' world') :
    Coherent build beginning wrapper' world' := by
  obtain ⟨rfl, pointers, rfl, extent⟩ := orderTerminals_extent conforms run
  have paired := coherent.paired
  refine ⟨coherent.1, coherent.2, coherent.3, coherent.4, ⟨?_, paired.2, paired.3⟩, coherent.6⟩
  have lengths := congrArg (Option.map Prod.snd) extent
  rw [Option.map_map, Option.map_map] at lengths
  exact paired.same.trans lengths.symm

theorem Coherent.checks {pointer : Nat} {symbol result : MarpaWrapperSymbol}
    (coherent : Coherent build beginning wrapper world)
    (found : lookup wrapper.marpaWrapperSymbolpp pointer = some symbol)
    (same : result.withoutWork = symbol.withoutWork) :
    Coherent build beginning (wrapper.withSymbol pointer result) world := by
  obtain ⟨symbols, mirror⟩ := coherent.symbols
  have paired := coherent.paired
  exact ⟨⟨_, mirror.check found same⟩, coherent.2, coherent.3, coherent.4,
    ⟨paired.1, paired.2, paired.3⟩, coherent.6⟩

/-- Everything that a wrapper does keeps its recognizer and the arrays beside it in order. -/
theorem coherent_kept (grants : libc.GrantsOthers) (conforms : Conforms libc.qsort) :
    Kept libc fuel build marpa (Coherent build beginning) where
  aside coherent continued := coherent.aside continued
  precomputes coherent censused := coherent.precomputes censused
  adds coherent run := coherent.addsSymbol grants run
  rules coherent run := coherent.addsRule grants run
  starts coherent run := coherent.starts run
  expects coherent run := coherent.expects run
  progresses coherent run := coherent.progresses run
  orders coherent run := coherent.orders conforms run
  checks coherent found same := coherent.checks found same

/-- A wrapper that was created has no recognizer and no arrays. -/
theorem Created.coherent (created : Created world world' wrapper) :
    Coherent build world.events wrapper world' := by
  obtain ⟨handle, options, rfl⟩ := created.fresh
  obtain ⟨opening, handle', answer, kind, -, record⟩ := created.record
  have empty : census world'.events = {} := by
    rw [record, census_append]
    rfl
  have settled : ∀ event ∈ opening, event.settled = true := by
    intro event member
    have opens := kind event member
    cases event <;> first | rfl | cases opens
  have unhandled : handlings (opening ++
      [.grammarNew (some handle'), .grammar .forceValued answer]) = [] := by
    rw [handlings_append, handlings_settled settled]
    rfl
  refine ⟨⟨[], ?_⟩, ⟨[], ?_⟩, ?_, ?_, ⟨rfl, (fun there => ?_), fun capacity same => ?_⟩,
    ⟨_, record.trans (List.append_assoc _ _ _), ?_⟩⟩
  · rw [created.symbols]
    exact .empty _ _ _
  · rw [created.rules]
    exact .empty _ _ _
  · rw [empty, created.symbols]
    rfl
  · rw [empty]
    exact Nat.zero_le _
  · cases there
  · cases same
  · rw [unhandled]
    exact ⟨.nil, fun _ member => absurd member List.not_mem_nil⟩

end Coherent

/-! ### The expected terminals -/

section Terminals

variable {libc : Libc V} {build : Build} {marpa : Libmarpa V} {beginning : List (Event V)}
  {wrapper wrapper' : Wrapper} {world world' : World V}

/-- Distinct ids below a bound are no more than the bound says. -/
theorem length_le_of_distinct {ids : List Int} {bound : Nat} (distinct : ids.Nodup)
    (below : ∀ id ∈ ids, 0 ≤ id ∧ id < bound) : ids.length ≤ bound := by
  have indices : (ids.map Int.toNat).Nodup := by
    refine distinct.map_on fun id member other member' same => ?_
    have := below id member
    have := below other member'
    omega
  have inside : ids.map Int.toNat ⊆ List.range bound := by
    intro index member
    obtain ⟨id, given, rfl⟩ := List.mem_map.mp member
    have := below id given
    exact List.mem_range.mpr (by omega)
  have length := (List.subperm_of_subset indices inside).length_le
  rwa [List.length_map, List.length_range] at length

variable (libc marpa wrapper) in
theorem allocateExpected_returns : Completes (allocateExpected libc marpa wrapper) := by
  refine .ite (.pure _) (.bind (fun _ => ⟨_, _, rfl⟩) fun _ =>
    .ite (.pure _) (.bind acquire_returns fun ids => ?_))
  cases ids with
  | none => exact .pure _
  | some ids =>
    refine .bind acquire_returns fun pointers => ?_
    cases pointers with
    | none => exact .bind (fun _ => ⟨_, _, rfl⟩) fun _ => .pure _
    | some pointers => exact .pure _

/-- An id that is registered is looked up. -/
theorem lookupTurn_run {ids : List (Slot Int)} {index : Nat} {pointers : List (Slot Nat)} {id : Int}
    (here : ids[index]? = some (.pointer id)) (registered : Registers wrapper.marpaWrapperSymbolpp id)
    (room : index < pointers.length) (world : World V) :
    lookupTurn wrapper ids index pointers world =
      .ok (.next (pointers.set index (.pointer id.toNat))) world := by
  have read : readCell ids index world = .ok (some id) world := by
    rw [readCell, here]
    rfl
  rw [lookupTurn, run_bind_ok read]
  simp only
  rw [run_bind_ok (readPointer_registered registered world), writeCell, if_pos room]
  rfl

variable (wrapper) in
/-- The loop looks all ids up. -/
theorem lookupLoop_run {ids : List Int} {beyond : List (Slot Int)} {cells : List (Slot Nat)}
    (registered : ∀ id ∈ ids, Registers wrapper.marpaWrapperSymbolpp id)
    (room : ids.length ≤ cells.length) (world : World V) : ∃ cells',
      forEach (lookupTurn wrapper (ids.map .pointer ++ beyond)) (List.range ids.length) cells
        world = .ok (.next cells') world := by
  have turns : Triple (fun state => cells.length = cells.length ∧ state = world)
      (forEach (lookupTurn wrapper (ids.map .pointer ++ beyond)) (List.range ids.length) cells)
      (AfterTurn (fun cells' state => cells'.length = cells.length ∧ state = world)
        fun result _ => result.elim) fun _ _ => False := by
    refine Triple.forEach_range (fun _ cells' state => cells'.length = cells.length ∧ state = world)
      (fun index below cells' => ?_) cells
    rintro state ⟨length, rfl⟩
    have here : (ids.map Slot.pointer ++ beyond)[index]? = some (.pointer ids[index]) := by
      rw [List.getElem?_append_left (by rwa [List.length_map]), List.getElem?_map,
        List.getElem?_eq_getElem below]
      rfl
    rw [lookupTurn_run here (registered _ (List.getElem_mem below)) (by omega)]
    exact ⟨by rw [List.length_set, length], rfl⟩
  have outcome := turns world ⟨rfl, rfl⟩
  cases run : forEach (lookupTurn wrapper (ids.map .pointer ++ beyond)) (List.range ids.length)
      cells world with
  | error fault state => rw [run] at outcome; exact outcome.elim
  | ok result state =>
    rw [run] at outcome
    cases result with
    | done result => exact result.elim
    | next cells' =>
      obtain ⟨-, rfl⟩ := outcome
      exact ⟨cells', rfl⟩

/-- What libmarpa reports is registered, and it fits the arrays. -/
theorem Coherent.reported (coherent : Coherent build beginning wrapper world)
    (reports : marpa.ReportsRecognized) {ids : List Int}
    (answer : marpa.terminalsExpected world.events = some ids) :
    ids.length ≤ (census world.events).recognized ∧
      ∀ id ∈ ids, 0 ≤ id ∧ ∃ symbol, lookup wrapper.marpaWrapperSymbolpp id.toNat = some symbol ∧
        symbol.marpaSymbolIdi = id := by
  obtain ⟨distinct, below⟩ := reports _ _ answer
  refine ⟨length_le_of_distinct distinct below, fun id member => ?_⟩
  obtain ⟨nonNegative, less⟩ := below id member
  obtain ⟨symbols, mirror⟩ := coherent.symbols
  have recognized := coherent.recognized
  obtain ⟨symbol, found, same, -⟩ := mirror.registers nonNegative (by omega)
  exact ⟨nonNegative, symbol, found, same⟩

/-- With the arrays there, they are filled in. -/
theorem Coherent.fills (coherent : Coherent build beginning wrapper world)
    (reports : marpa.ReportsRecognized) (there : wrapper.expectedMarpaSymbolIdArrayp.isSome = true) :
    ∃ count wrapper', fillExpected marpa wrapper world = .ok (count, wrapper') { world with
      events := world.events ++ [.terminalsExpected (marpa.terminalsExpected world.events)] } := by
  obtain ⟨array, ids⟩ := Option.isSome_iff_exists.mp there
  have paired := coherent.paired
  have same := paired.same
  have enough := paired.enough
  rw [ids] at same enough
  obtain ⟨block, pointers, length⟩ := Option.map_eq_some_iff.mp same.symm
  have room := enough _ rfl
  unfold fillExpected
  rw [ids, pointers]
  cases answer : marpa.terminalsExpected world.events with
  | none =>
    have asked : marpaRTerminalsExpected marpa array world =
        .ok (-2, array) { world with events := world.events ++ [.terminalsExpected none] } := by
      rw [marpaRTerminalsExpected, run_bind_ok (run_ask ..), answer]
      rfl
    simp only
    rw [run_bind_ok asked]
    exact ⟨_, _, rfl⟩
  | some reported =>
    obtain ⟨few, registered⟩ := coherent.reported reports answer
    have fits : reported.length ≤ array.cells.length := Nat.le_trans few room
    have asked : marpaRTerminalsExpected marpa array world = .ok (reported.length,
        { array with cells := reported.map .pointer ++ array.cells.drop reported.length })
        { world with events := world.events ++ [.terminalsExpected (some reported)] } := by
      rw [marpaRTerminalsExpected, run_bind_ok (run_ask ..), answer]
      simp only [if_pos fits]
      rfl
    simp only
    rw [run_bind_ok asked]
    simp only [if_neg (show ¬ (reported.length : Int) = -2 by omega), Int.toNat_natCast]
    obtain ⟨symbols, mirror⟩ := coherent.symbols
    obtain ⟨cells, looked⟩ := lookupLoop_run { wrapper with
        expectedMarpaSymbolIdArrayp := some { array with
          cells := reported.map .pointer ++ array.cells.drop reported.length }
        expectedMarpaWrapperSymbolArraypp := some block }
      (fun id member => by
        obtain ⟨nonNegative, symbol, found, -⟩ := registered id member
        exact registers_of_lookup mirror.stores.live nonNegative found)
      (Nat.le_trans fits (Nat.le_of_eq length.symm)) { world with
        events := world.events ++ [.terminalsExpected (some reported)] }
    rw [run_bind_ok looked]
    exact ⟨_, _, rfl⟩

/-- A call of `marpaWrapper_r_terminals_expectedb` returns. When it reaches libmarpa, the array that
it passes has a slot for each id that may be written. On `TRUE` the result is the registered symbol
of each id that libmarpa reported, in order. -/
def AsksWithinCapacity (libc : Libc V) (marpa : Libmarpa V) (wrapper : Wrapper) (world : World V) :
    Prop :=
  ∃ count wrapper' world' exchanges,
    marpaWrapperRTerminalsExpectedb libc marpa wrapper world = .ok (count, wrapper') world' ∧
    world'.events = world.events ++ exchanges ∧
    (∀ answer, .terminalsExpected answer ∈ exchanges →
      ∃ array, wrapper'.expectedMarpaSymbolIdArrayp = some array ∧
        (census world.events).recognized ≤ array.cells.length) ∧
    ∀ number, count = some number → ∃ opening ids pointers,
      exchanges = opening ++ [.terminalsExpected (some ids)] ∧ number = ids.length ∧
      wrapper'.expectedMarpaWrapperSymbolArraypp = some pointers ∧
      pointers.cells.take number = ids.map (fun id => .pointer id.toNat) ∧
      ∀ id ∈ ids, ∃ symbol, lookup wrapper'.marpaWrapperSymbolpp id.toNat = some symbol ∧
        symbol.marpaSymbolIdi = id

theorem Event.settled_of_opens {event : Event V} (opens : event.opensExpected = true) :
    event.settled = true :=
  Event.settled_of_plain (Event.plain_of_expected (Event.ofExpected_of_opens opens))

/-- The arrays are allocated when they are missing, and then they are filled in. -/
theorem Coherent.asks (coherent : Coherent build beginning wrapper world)
    (reports : marpa.ReportsRecognized) : AsksWithinCapacity libc marpa wrapper world := by
  by_cases missing : wrapper.marpaRecognizerp.isNone = true
  · refine ⟨none, wrapper, world, [], ?_, (List.append_nil _).symm, fun _ member => ?_,
      fun _ same => ?_⟩
    · unfold marpaWrapperRTerminalsExpectedb
      rw [if_pos missing]
      rfl
    · cases member
    · cases same
  · have recognizer : wrapper.marpaRecognizerp.isSome = true := by
      rwa [Option.isNone_iff_eq_none, ← Option.not_isSome_iff_eq_none, Decidable.not_not] at missing
    obtain ⟨⟨allocated, prepared⟩, state, run⟩ :=
      allocateExpected_returns libc marpa wrapper world
    have continued : Continued (·.opensExpected = true) world state :=
      .of_run (fun _ => allocateExpected_opens) run
    obtain ⟨opening, record, opens⟩ := continued.record
    obtain ⟨arrays, there⟩ := allocateExpected_cases coherent.few recognizer run
    obtain ⟨_, _, frame⟩ := allocateExpected_return run
    have ready := coherent.arrays (.of_run (fun _ => allocateExpected_continued) run) arrays
      ⟨_, _, frame⟩
    have unchanged : census state.events = census world.events := by
      rw [record]
      exact census_settled fun event member => Event.settled_of_opens (opens event member)
    have program : marpaWrapperRTerminalsExpectedb libc marpa wrapper world =
        (if allocated then fillExpected marpa prepared else pure (none, prepared)) state := by
      unfold marpaWrapperRTerminalsExpectedb
      rw [if_neg missing, run_bind_ok run]
    cases allocated with
    | false =>
      refine ⟨none, prepared, state, opening, program, record, fun answer member => ?_,
        fun _ same => ?_⟩
      · cases opens _ member
      · cases same
    | true =>
      obtain ⟨count, wrapper', filled⟩ := ready.fills reports (there rfl)
      refine ⟨count, wrapper', _, opening ++ [.terminalsExpected
        (marpa.terminalsExpected state.events)], program.trans filled, ?_, fun _ _ => ?_,
        fun number same => ?_⟩
      · rw [← List.append_assoc, ← record]
      · obtain ⟨array, here⟩ := Option.isSome_iff_exists.mp (there rfl)
        have kept := (fillExpected_extent filled).1
        rw [here] at kept
        obtain ⟨array', here', extent⟩ := Option.map_eq_some_iff.mp kept
        have enough := ready.paired.enough array.cells.length (by rw [here]; rfl)
        have length : array'.cells.length = array.cells.length := congrArg Prod.snd extent
        exact ⟨array', here', by rw [length, ← unchanged]; exact enough⟩
      · rw [same] at filled
        obtain ⟨ids, idArray, pointers, answer, -, number', same', points⟩ :=
          fillExpected_return filled
        obtain ⟨few, registered⟩ := ready.reported reports answer
        have small := ready.few
        have recognized := ready.recognized
        have exact : number = ids.length := by
          rw [number']
          unfold toSize sizeModulus
          omega
        refine ⟨opening, ids, pointers, by rw [answer], exact, by rw [same'], ?_,
          fun id member => ?_⟩
        · rw [exact, points.take]
          refine List.map_congr_left fun id member => ?_
          obtain ⟨-, symbol, found, -⟩ := registered id member
          rw [found]
          rfl
        · rw [same']
          exact (registered id member).2

end Terminals

/-! ### Recognizers -/

section Recognizers

variable {build : Build} {beginning exchanges : List (Event V)} {current : Option Nat}
  {wrapper : Wrapper} {world world' : World V}

/-- The recognizers that were created by these exchanges have handles of their own, and they were
released once, but the current one, which was not. -/
structure ReleasedButCurrent (exchanges : List (Event V)) (current : Option Nat) : Prop where
  distinct : (stored (handlings exchanges)).Nodup
  known : ∀ handle ∈ current, .recognizerNew (some handle) ∈ exchanges
  releases : ∀ handle, .recognizerNew (some handle) ∈ exchanges →
    (released (handlings exchanges)).count handle = if current = some handle then 0 else 1
  others : ∀ handle, .recognizerUnref handle ∈ exchanges →
    .recognizerNew (some handle) ∈ exchanges

theorem mem_stored_handlings {handle : Nat} :
    handle ∈ stored (handlings exchanges) ↔ .recognizerNew (some handle) ∈ exchanges := by
  unfold stored handlings
  simp only [List.filterMap_filterMap, List.mem_filterMap]
  refine ⟨?_, fun member => ⟨_, member, rfl⟩⟩
  rintro ⟨event, member, same⟩
  cases event with
  | recognizerNew handle' =>
    cases handle' with
    | none => cases same
    | some handle' => cases same; exact member
  | _ => cases same

theorem mem_released_handlings {handle : Nat} :
    handle ∈ released (handlings exchanges) ↔ .recognizerUnref handle ∈ exchanges := by
  unfold released handlings
  simp only [List.filterMap_filterMap, List.mem_filterMap]
  refine ⟨?_, fun member => ⟨_, member, rfl⟩⟩
  rintro ⟨event, member, same⟩
  cases event with
  | recognizerNew handle' => cases handle' <;> cases same
  | recognizerUnref handle' => cases same; exact member
  | _ => cases same

theorem taken_handlings : taken (handlings exchanges) = [] := by
  unfold taken handlings
  rw [List.filterMap_filterMap]
  refine List.filterMap_eq_nil_iff.mpr fun event member => ?_
  cases event with
  | recognizerNew handle => cases handle <;> rfl
  | _ => rfl

theorem releasedButCurrent_of_ledger (ledger : Ledger (handlings exchanges) current.toList) :
    ReleasedButCurrent exchanges current := by
  have balance := ledger.balance
  rw [taken_handlings, List.nil_append] at balance
  refine ⟨ledger.distinct, fun handle here => ?_, fun handle created => ?_, fun handle member => ?_⟩
  · exact mem_stored_handlings.mp (ledger.owned_stored (Option.mem_toList.mpr here))
  · have once := List.count_eq_one_of_mem ledger.distinct (mem_stored_handlings.mpr created)
    rw [balance.count_eq, List.count_append] at once
    by_cases here : current = some handle
    · rw [here, Option.toList_some, List.count_singleton_self] at once
      rw [if_pos here]
      omega
    · have none : current.toList.count handle = 0 :=
        List.count_eq_zero.mpr fun member => here (Option.mem_toList.mp member)
      rw [if_neg here]
      omega
  · exact mem_stored_handlings.mp (balance.mem_iff.mpr
      (List.mem_append_left _ (mem_released_handlings.mpr member)))

/-- The destructor releases the recognizer that is left. -/
theorem Handled.destroyed (handled : Handled beginning wrapper.marpaRecognizerp world)
    (run : marpaWrapperDestroyv wrapper world = .ok () world') : Handled beginning none world' := by
  obtain ⟨_, state, unreferenced, rest⟩ := run_bind_eq_ok run
  rw [unrefIfNotNull_run] at unreferenced
  cases unreferenced
  obtain ⟨_, state', unreferenced, rest⟩ := run_bind_eq_ok rest
  rw [unrefIfNotNull_run] at unreferenced
  cases unreferenced
  have freed (address : Option Nat) (start : World V) :
      Keeps (Continued (·.ofMemory = true) start) (freeIfNotNull address) :=
    freeIfNotNull_continued (fun _ => rfl) address
  have continued : Continued (·.ofMemory = true) _ world' := .of_run (fun _ =>
    .bind (manageBufFreev_continued _ _ _) fun _ => .bind (manageBufFreev_continued _ _ _) fun _ =>
      .bind (manageBufFreev_continued _ _ _) fun _ => .bind (freed _ _) fun _ =>
        .bind (freed _ _) fun _ => emit_continued rfl) rest
  obtain ⟨more, record, ofMemory⟩ := continued.record
  rw [List.append_assoc, List.append_assoc] at record
  refine handled.restarts record ?_ (fun _ member => absurd member List.not_mem_nil)
    continued.later
  have ofGrammar : handlings ((wrapper.marpaGrammarp.map Event.grammarUnref).toList :
      List (Event V)) = [] := by
    cases wrapper.marpaGrammarp <;> rfl
  have ofRest : handlings more = [] := by
    refine handlings_settled fun event member => ?_
    have kind := ofMemory event member
    cases event <;> first | rfl | cases kind
  rw [handlings_append, handlings_append, ofGrammar, ofRest]
  cases wrapper.marpaRecognizerp <;> rfl

theorem Handled.releasedButCurrent (handled : Handled beginning current world) :
    ∃ exchanges, world.events = beginning ++ exchanges ∧ ReleasedButCurrent exchanges current := by
  obtain ⟨exchanges, record, ledger, -⟩ := handled.record
  exact ⟨exchanges, record, releasedButCurrent_of_ledger ledger⟩

end Recognizers

/-! ### Every reachable state -/

section Reachable

variable {libc : Libc V} {fuel : Nat} {build : Build} {marpa : Libmarpa V} {wrapper : Wrapper}
  {initial world : World V}

/-- In every state in which the expected terminals may be asked for, whatever libmarpa refused
before and whichever of the arrays was not granted, the arrays are there together and only beside a
recognizer, each recognizer but the current one was released once, the call is within the capacity
of the arrays, and after the destructor no recognizer is left. -/
theorem session_keepsExpectedCache (grants : libc.GrantsOthers) (conforms : Conforms libc.qsort)
    (reports : marpa.ReportsRecognized) {option : Option MarpaWrapperOption}
    (asks : AsksTerminals libc fuel build marpa option initial wrapper world) :
    Paired wrapper (census world.events).recognized ∧
      (∃ exchanges, world.events = initial.events ++ exchanges ∧
        ReleasedButCurrent exchanges wrapper.marpaRecognizerp) ∧
      AsksWithinCapacity libc marpa wrapper world ∧
      ∀ world', marpaWrapperDestroyv wrapper world = .ok () world' →
        ∃ exchanges, world'.events = initial.events ++ exchanges ∧
          ReleasedButCurrent exchanges none := by
  have coherent : Coherent build initial.events wrapper world :=
    (coherent_kept grants conforms).asksTerminals
      (fun run => (marpaWrapperNewp_creates run).coherent) asks
  exact ⟨coherent.paired, coherent.handled.releasedButCurrent, coherent.asks reports,
    fun _ run => (coherent.handled.destroyed run).releasedButCurrent⟩

/-- A libmarpa that expects every symbol that its recognizer knows. -/
def Libmarpa.expecting : Libmarpa V :=
  { Libmarpa.accepting with
    terminalsExpected := fun events => some ((List.range (census events).recognized).map Int.ofNat) }

theorem Libmarpa.expecting_reports : (Libmarpa.expecting : Libmarpa V).ReportsRecognized := by
  intro events ids answer
  cases answer
  refine ⟨List.nodup_range.map Int.ofNat_injective, fun id member => ?_⟩
  obtain ⟨index, inside, rfl⟩ := List.mem_map.mp member
  exact ⟨Int.natCast_nonneg index, Int.ofNat_lt.mpr (List.mem_range.mp inside)⟩

/-- The expected terminals of two recognizers, with a symbol created beside each. -/
def restartingCalls : List (ApiCall Nat) :=
  [.addSymbolp none, .addSymbolp none, .precomputeb, .startb, .addSymbolp none, .terminalsExpectedb,
    .startb, .addSymbolp none, .terminalsExpectedb]

/-- A session that starts two recognizers. -/
theorem session_keepsExpectedCache_two : ∃ answers wrapper world,
    session Libc.generous 2 { nullIsZeroes := true } Libmarpa.expecting none restartingCalls {} =
      .ok (some (answers, wrapper)) world ∧
    Paired wrapper (census world.events).recognized ∧
      (∃ exchanges, world.events = [] ++ exchanges ∧
        ReleasedButCurrent exchanges wrapper.marpaRecognizerp) ∧
      AsksWithinCapacity Libc.generous Libmarpa.expecting wrapper world ∧
      ∀ world', marpaWrapperDestroyv wrapper world = .ok () world' →
        ∃ exchanges, world'.events = [] ++ exchanges ∧ ReleasedButCurrent exchanges none := by
  obtain ⟨⟨answers, wrapper⟩, world, reached⟩ := reaches_ok
    (show reaches (session Libc.generous 2 { nullIsZeroes := true } Libmarpa.expecting none
      restartingCalls {}) = true by decide +kernel)
  exact ⟨answers, wrapper, world, reached, session_keepsExpectedCache
    Libc.generous_alwaysGrants.others inserting_conforms Libmarpa.expecting_reports
    (.called reached)⟩

end Reachable

end MarpaWrapper
