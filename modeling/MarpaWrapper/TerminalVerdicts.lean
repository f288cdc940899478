/-
This file carries the verdicts through one position of the input: the terminals that
libmarpa expects are reported into arrays that have room for them, each of them leads to
a registered symbol, and the terminals that match are passed on until one of them is
refused. None of it has undefined behaviour as long as libmarpa reports what it
documents.
-/

import MarpaWrapper.ExpectedCache
import MarpaWrapper.Verdicts

namespace MarpaWrapper

open Effects Sorting

variable {V : Type}

/-! ### The expected terminals -/

section Expected

variable {libc : Libc V} {marpa : Libmarpa V} {origin wrapper wrapper' : Wrapper}
  {start world world' : World V} {tracing remaining : Bool} {symbols : Nat}

theorem marpaGHighestSymbolId_makesOne (marpa : Libmarpa V) :
    MakesOne (marpaGHighestSymbolId marpa) .highestSymbolId :=
  fun _ => ⟨_, _, rfl, rfl⟩

/-- The arrays are allocated unless a request is refused. -/
theorem allocateExpected_verdict (wrapper : Wrapper) :
    Assuming (AllSince start (·.Documented tracing origin symbols))
      (Verdict (·.passes origin remaining) start true) (allocateExpected libc marpa wrapper)
      fun result => Verdict (·.passes origin remaining) start result.1 := by
  have asked {kind : Event V → Prop} {passes : Event V → Bool} {size : Nat} {fact : Prop} :
      Assuming (AllSince start kind) (fun world => fact ∧ Verdict passes start true world)
        (malloc libc size)
        fun address world => kind (.malloc size address) ∧
          Verdict passes start (passes (.malloc size address)) world :=
    (acquire_makesOne _ _).decides.consequence (fun _ holds => holds.2) fun _ _ holds => holds
  refine .ite (fun _ => .pure fun _ _ holds => holds) fun _ =>
    (marpaGHighestSymbolId_makesOne marpa).decides.bind fun highest => .ite (fun failed => ?_)
      fun answered => ?_
  · subst failed
    exact .pure fun _ _ holds => holds.2
  · have passes : Event.passes (V := V) origin remaining (.highestSymbolId highest) = true :=
      bne_iff_ne.mpr answered
    rw [passes]
    refine asked.bind fun ids => ?_
    cases ids with
    | none => exact .pure fun _ _ holds => holds.2
    | some ids =>
      refine asked.bind fun pointers => ?_
      cases pointers with
      | none =>
        exact ((emit_decides rfl).consequence (fun _ holds => holds.2) fun _ _ holds =>
          holds).bind fun _ => .pure fun _ _ holds => holds
      | some pointers => exact .pure fun _ _ holds => holds.2

theorem Roomy.arrays (roomy : Roomy symbols wrapper)
    (arrays : ArraysAfter wrapper world wrapper' world')
    (same : world.grammar.symbols.length = symbols) : Roomy symbols wrapper' := by
  cases arrays with
  | kept ids' pointers' =>
    rcases roomy with ⟨none, none'⟩ | ⟨ids, pointers, some, some', room, room'⟩
    · rw [none] at ids'
      rw [none'] at pointers'
      exact .inl ⟨Option.map_eq_none_iff.mp ids', Option.map_eq_none_iff.mp pointers'⟩
    · rw [some] at ids'
      rw [some'] at pointers'
      obtain ⟨idArray, idArray_eq, extent⟩ := Option.map_eq_some_iff.mp ids'
      obtain ⟨pointerArray, pointerArray_eq, extent'⟩ := Option.map_eq_some_iff.mp pointers'
      have length : idArray.cells.length = ids.cells.length := congrArg Prod.snd extent
      have length' : pointerArray.cells.length = pointers.cells.length := congrArg Prod.snd extent'
      exact .inr ⟨_, _, idArray_eq, pointerArray_eq, length ▸ room, length' ▸ room'⟩
  | dropped _ ids' pointers' => exact .inl ⟨ids', pointers'⟩
  | allocated _ ids' pointers' _ _ =>
    obtain ⟨idArray, idArray_eq, extent⟩ := Option.map_eq_some_iff.mp ids'
    obtain ⟨pointerArray, pointerArray_eq, extent'⟩ := Option.map_eq_some_iff.mp pointers'
    have length : idArray.cells.length = world.grammar.symbols.length := congrArg Prod.snd extent
    have length' : pointerArray.cells.length = world.grammar.symbols.length :=
      congrArg Prod.snd extent'
    exact .inr ⟨_, _, idArray_eq, pointerArray_eq, by omega, by omega⟩

/-- Registered ids, each of them once, are no more than there are symbols. -/
theorem length_le_of_documented {ids : List Int}
    (documented : (Event.terminalsExpected (V := V) (some ids)).Documented tracing origin symbols) :
    ids.length ≤ symbols :=
  length_le_of_distinct documented.1 fun id member =>
    ⟨(documented.2 id member).2.1, (documented.2 id member).1⟩

/-- What libmarpa reports fits the array. -/
theorem marpaRTerminalsExpected_verdict {array : Block Int} (room : symbols ≤ array.cells.length) :
    Assuming (AllSince start (·.Documented tracing origin symbols))
      (Verdict (·.passes origin remaining) start true) (marpaRTerminalsExpected marpa array)
      fun result world => Verdict (·.passes origin remaining) start (result.1 != -2) world ∧
        (result.1 ≠ -2 → ∃ ids,
          (Event.terminalsExpected (V := V) (some ids)).Documented tracing origin symbols ∧
          result = ((ids.length : Int),
            { array with cells := ids.map Slot.pointer ++ array.cells.drop ids.length })) := by
  refine (ask_makesOne _ _).decides.bind fun answer => ?_
  cases answer with
  | none => exact .pure fun _ _ holds => ⟨holds.2, fun other => absurd rfl other⟩
  | some ids =>
    refine .ite (fun fits => .pure fun _ _ holds => ⟨?_, fun _ => ⟨ids, holds.1, rfl⟩⟩)
      fun overflows => .throw fun _ _ holds => ?_
    · rw [show ((ids.length : Int) != -2) = true from bne_iff_ne.mpr (by omega)]
      exact holds.2
    · exact overflows (Nat.le_trans (length_le_of_documented holds.1) room)

theorem lookupTurn_continued {kind : Event V → Prop} (ids : List (Slot Int)) (index : Nat)
    (pointers : List (Slot Nat)) :
    Keeps (Continued kind start) (lookupTurn wrapper ids index pointers) := by
  refine .bind (readCell_continued _ _) fun cell => ?_
  cases cell with
  | none => exact .throw _
  | some id =>
    exact .bind (readPointer_continued _ _) fun _ => .bind (writeCell_continued _ _ _) fun _ =>
      .pure _

/-- The arrays are filled in. -/
theorem fillExpected_verdict (agrees : Agrees origin wrapper) (roomy : Roomy symbols wrapper)
    (there : wrapper.expectedMarpaSymbolIdArrayp.isSome = true) :
    Assuming (AllSince start (·.Documented tracing origin symbols))
      (Verdict (·.passes origin remaining) start true) (fillExpected marpa wrapper)
      fun result => Verdict (·.passes origin remaining) start result.1.isSome := by
  rcases roomy with ⟨none, -⟩ | ⟨ids, pointers, some, some', room, room'⟩
  · rw [none] at there
    cases there
  · unfold fillExpected
    rw [some, some']
    refine (marpaRTerminalsExpected_verdict room).bind fun result => ?_
    obtain ⟨nSymbolIdi, array⟩ := result
    refine .ite (fun failed => .pure fun _ _ holds => ?_) fun answered => ⟨AllSince.lost fun _ =>
      Prolonged.of_any fun _ => .bind (.forEach (lookupTurn_continued _) _ _) fun turn => ?_, ?_⟩
    · have verdict := holds.1
      rwa [show nSymbolIdi = -2 from failed] at verdict
    · cases turn with
      | next cells => exact .pure _
      | done result => exact result.elim
    · rintro world ⟨-, verdict, whenAnswered⟩
      obtain ⟨reported, documented, same⟩ := whenAnswered answered
      cases same
      rw [show ((reported.length : Int) != -2) = true from bne_iff_ne.mpr answered] at verdict
      have found (id : Int) (member : id ∈ reported) : Registers wrapper.marpaWrapperSymbolpp id :=
        agrees.registers (documented.2 id member).2
      have room : reported.length ≤ pointers.cells.length :=
        Nat.le_trans (length_le_of_documented documented) room'
      obtain ⟨cells, looked⟩ : ∃ cells, forEach (lookupTurn { wrapper with
          expectedMarpaSymbolIdArrayp := Option.some { ids with
            cells := reported.map Slot.pointer ++ ids.cells.drop reported.length }
          expectedMarpaWrapperSymbolArraypp := Option.some pointers }
          (reported.map Slot.pointer ++ ids.cells.drop reported.length))
          (List.range reported.length) pointers.cells world = .ok (.next cells) world :=
        lookupLoop_run _ found room world
      rw [Int.toNat_natCast, run_bind_ok looked]
      exact fun _ => verdict

/-- What `marpaWrapper_r_terminals_expectedb` leaves for the lexemes: its array points to registered
symbols, each of them once. -/
structure ExpectsLexemes (ids : List Int) (wrapper : Wrapper) : Prop where
  points : PointsTo wrapper.marpaWrapperSymbolpp ids (expectedCells wrapper)
  distinct : ids.Nodup
  found : ∀ id ∈ ids, ∃ symbol, lookup wrapper.marpaWrapperSymbolpp id.toNat = some symbol

/-- The array is as it is documented, and the wrapper stays fit. -/
theorem marpaWrapperRTerminalsExpectedb_expects (fit : Fit tracing origin symbols wrapper)
    (few : symbols < 2 ^ 31) (same : world.grammar.symbols.length = symbols)
    (verdict : Verdict (·.passes origin remaining) start true world)
    (kept : AllSince start (·.Documented tracing origin symbols) world') {count : Nat}
    (run : marpaWrapperRTerminalsExpectedb libc marpa wrapper world =
      .ok (some count, wrapper') world') :
    Fit tracing origin symbols wrapper' ∧
      ∃ ids, count = ids.length ∧ ExpectsLexemes ids wrapper' := by
  have frame := marpaWrapperRTerminalsExpectedb_frame run
  have roomy := fit.roomy.arrays
    (marpaWrapperRTerminalsExpectedb_arrays (same ▸ few) run) same
  obtain ⟨opening, ids, idArray, pointerArray, kind, asked, added, rfl, rfl, points⟩ :=
    marpaWrapperRTerminalsExpectedb_return run
  have documented :
      (Event.terminalsExpected (V := V) (some ids)).Documented tracing origin symbols := by
    refine kept.recent verdict.prolonged (added.trans (List.append_assoc _ _ _)) _ ?_
    exact List.mem_append_right _ (List.mem_singleton_self _)
  refine ⟨⟨fit.agrees.trans frame.agrees, fit.recognizer, roomy, fit.report⟩, ids, ?_, points,
    documented.1, fun id member => (fit.agrees.symbols.found (documented.2 id member).2).2⟩
  have length := length_le_of_documented documented
  unfold toSize sizeModulus
  omega

/-- `marpaWrapper_r_terminals_expectedb` succeeds when its exchanges pass. -/
theorem marpaWrapperRTerminalsExpectedb_verdict (fit : Fit tracing origin symbols wrapper)
    (few : symbols < 2 ^ 31) :
    Assuming (AllSince start (·.Documented tracing origin symbols))
      (fun world => world.grammar.symbols.length = symbols ∧
        Verdict (·.passes origin remaining) start true world)
      (marpaWrapperRTerminalsExpectedb libc marpa wrapper)
      fun result => Verdict (·.passes origin remaining) start result.1.isSome := by
  have recognizer : ¬ wrapper.marpaRecognizerp.isNone = true := by
    rw [Option.isNone_iff_eq_none, ← Option.not_isSome_iff_eq_none, Decidable.not_not]
    exact fit.recognizer
  unfold marpaWrapperRTerminalsExpectedb
  rw [if_neg recognizer]
  have allocated : Assuming (AllSince start (·.Documented tracing origin symbols))
      (fun world => world.grammar.symbols.length = symbols ∧
        Verdict (·.passes origin remaining) start true world)
      (allocateExpected libc marpa wrapper)
      fun result world => Verdict (·.passes origin remaining) start result.1 world ∧
        Agrees origin result.2 ∧ Roomy symbols result.2 ∧
          (result.1 = true → result.2.expectedMarpaSymbolIdArrayp.isSome = true) := by
    refine ((allocateExpected_verdict wrapper).consequence (fun _ holds => holds.2)
      fun _ _ holds => holds).remembering _ fun world result between holds _ run => ?_
    obtain ⟨arrays, there⟩ := allocateExpected_cases (holds.1 ▸ few) fit.recognizer run
    obtain ⟨_, _, frame⟩ := allocateExpected_return run
    exact ⟨fit.agrees.trans (OnlyExpected.agrees ⟨_, _, frame⟩), fit.roomy.arrays arrays holds.1,
      there⟩
  refine allocated.bind fun result => ?_
  obtain ⟨prepared, between⟩ := result
  cases prepared with
  | false => exact .pure fun _ _ holds => holds.1
  | true =>
    show Assuming _ _ (fillExpected marpa between) _
    refine (Assuming.knowing (AllSince.lost fun _ => Prolonged.of_continued fun _ =>
      fillExpected_continued) fun known => ?_).consequence (fun _ holds => holds.symm)
        fun _ _ holds => holds
    exact fillExpected_verdict known.1 known.2.1 (known.2.2 rfl)

end Expected

/-! ### The lexemes -/

section Lexemes

variable {libc : Libc V} {marpa : Libmarpa V} {callbacks : RecognizerCallbacks V}
  {origin wrapper wrapper' : Wrapper} {start world world' : World V} {tracing remaining : Bool}
  {symbols count : Nat}

/-- Each of the first cells leads to a registered symbol. -/
structure Designates (wrapper : Wrapper) (count : Nat) : Prop where
  room : count ≤ (expectedCells wrapper).length
  leads : ∀ cell ∈ (expectedCells wrapper).take count, ∃ pointer symbol, cell = .pointer pointer ∧
    lookup wrapper.marpaWrapperSymbolpp pointer = some symbol

theorem Designates.at (designates : Designates wrapper count) {index : Nat}
    (below : index < count) :
    ∃ pointer symbol, (expectedCells wrapper)[index]? = some (.pointer pointer) ∧
      lookup wrapper.marpaWrapperSymbolpp pointer = some symbol := by
  have inside := Nat.lt_of_lt_of_le below designates.room
  have member : (expectedCells wrapper)[index] ∈ (expectedCells wrapper).take count :=
    List.mem_take_iff_getElem.mpr ⟨index, by omega, rfl⟩
  obtain ⟨pointer, symbol, cell, found⟩ := designates.leads _ member
  exact ⟨pointer, symbol, by rw [List.getElem?_eq_getElem inside, cell], found⟩

/-- The order of the cells does not matter. -/
theorem Designates.perm (designates : Designates wrapper count)
    (same : wrapper'.marpaWrapperSymbolpp = wrapper.marpaWrapperSymbolpp)
    (perm : ((expectedCells wrapper').take count).Perm ((expectedCells wrapper).take count)) :
    Designates wrapper' count := by
  refine ⟨?_, fun cell member => ?_⟩
  · have length := perm.length_eq
    rw [List.length_take, List.length_take, Nat.min_eq_left designates.room] at length
    exact length ▸ Nat.min_le_right _ _
  · rw [same]
    exact designates.leads cell (perm.mem_iff.mp member)

/-- A symbol object is still one after it was changed. -/
theorem Designates.withSymbol (designates : Designates wrapper count) {pointer : Nat}
    {old : MarpaWrapperSymbol} (found : lookup wrapper.marpaWrapperSymbolpp pointer = some old)
    (symbol : MarpaWrapperSymbol) : Designates (wrapper.withSymbol pointer symbol) count := by
  refine ⟨designates.room, fun cell member => ?_⟩
  obtain ⟨target, other, here, there⟩ := designates.leads cell member
  by_cases same : target = pointer
  · subst same
    exact ⟨_, symbol, here, lookup_withSymbol_self found symbol⟩
  · exact ⟨target, other, here, (lookup_withSymbol_ne same symbol).trans there⟩

/-- What `marpaWrapper_r_terminals_expectedb` leaves can be read. -/
theorem ExpectsLexemes.designates {ids : List Int} (expects : ExpectsLexemes ids wrapper) :
    Designates wrapper ids.length := by
  have cells := expects.points.take
  refine ⟨?_, fun cell member => ?_⟩
  · have length := congrArg List.length cells
    rw [List.length_take, List.length_map] at length
    exact length ▸ Nat.min_le_right _ _
  · rw [cells] at member
    obtain ⟨id, given, rfl⟩ := List.mem_map.mp member
    obtain ⟨symbol, found⟩ := expects.found id given
    exact ⟨id.toNat, symbol, by rw [found]; rfl, found⟩

/-- A loop over the terminals ends when none of its turns faults. -/
theorem forEach_designated {frame : Type} {body : Nat → frame → Exec V (Turn frame Empty)}
    (holds : frame → Prop)
    (turn : ∀ index < count, ∀ given, holds given → ∀ world, ∃ following world',
      body index given world = .ok (.next following) world' ∧ holds following)
    {first : frame} (begun : holds first) (world : World V) : ∃ last world',
      forEach body (List.range count) first world = .ok (.next last) world' ∧ holds last := by
  have turns : Triple (fun _ => holds first) (forEach body (List.range count) first)
      (AfterTurn (fun last _ => holds last) fun result _ => result.elim) fun _ _ => False := by
    refine Triple.forEach_range (fun _ given _ => holds given) (fun index below given => ?_) first
    intro state holding
    obtain ⟨following, state', run, kept⟩ := turn index below given holding state
    rw [run]
    exact kept
  have outcome := turns world begun
  cases run : forEach body (List.range count) first world with
  | error fault state => rw [run] at outcome; exact outcome.elim
  | ok result state =>
    rw [run] at outcome
    cases result with
    | done result => exact result.elim
    | next last => exact ⟨last, state, rfl, outcome⟩

/-- The terminals can be sorted. -/
theorem orderTerminals_designated (callbacks : RecognizerCallbacks V)
    (conforms : Conforms libc.qsort) (designates : Designates wrapper count) (world : World V) :
    ∃ wrapper',
    orderTerminals libc callbacks wrapper count world = .ok wrapper' world ∧
      Designates wrapper' count := by
  have ordered : ∃ wrapper' world',
      orderTerminals libc callbacks wrapper count world = .ok wrapper' world' := by
    unfold orderTerminals
    by_cases sorts : callbacks.longestAcceptableTokenMatchb ∧ count > 1
    · rw [if_pos sorts]
      obtain ⟨terminals, world', walked, -⟩ : ∃ terminals world', forEach (keyTurn wrapper)
          (List.range count) [] world = .ok (.next terminals) world' ∧ True := by
        refine forEach_designated (fun _ => True) (fun index below terminals _ world => ?_) trivial
          world
        obtain ⟨pointer, symbol, cell, found⟩ := designates.at below
        exact ⟨_, world, run_bind_ok (expectedSymbol_run cell found), trivial⟩
      exact ⟨_, _, run_bind_ok walked⟩
    · rw [if_neg sorts]
      exact ⟨wrapper, world, rfl⟩
  obtain ⟨wrapper', world', run⟩ := ordered
  obtain ⟨rfl, pointers, frame, perm⟩ := orderTerminals_return conforms run
  exact ⟨wrapper', run, designates.perm (by rw [frame]) perm⟩

/-- A terminal can be checked. -/
theorem checkTurn_designated (designates : Designates wrapper count) {index : Nat}
    (below : index < count) (maxLengthl : Nat) (world : World V) : ∃ following world',
    checkTurn callbacks index (wrapper, maxLengthl) world = .ok (.next following) world' ∧
      Designates following.1 count := by
  obtain ⟨pointer, symbol, cell, found⟩ := designates.at below
  rw [checkTurn, run_bind_ok (expectedSymbol_run cell found)]
  simp only
  by_cases skipped : skips callbacks symbol maxLengthl
  · rw [if_pos skipped, run_bind_ok (writeSymbol_run found _ _)]
    exact ⟨_, _, rfl, designates.withSymbol found _⟩
  · rw [if_neg skipped, callIsLexeme, run_bind_ok (run_ask ..)]
    cases callbacks.isLexeme world.events symbol.marpaWrapperSymbolOption.datavp with
    | none =>
      simp only
      rw [run_bind_ok (writeSymbol_run found _ _)]
      exact ⟨_, _, rfl, designates.withSymbol found _⟩
    | some lengthl =>
      simp only
      rw [run_bind_ok (writeSymbol_run found _ _)]
      exact ⟨_, _, rfl, designates.withSymbol found _⟩

/-- The terminals can be checked one after the other. -/
theorem checkLoop_designated (callbacks : RecognizerCallbacks V)
    (designates : Designates wrapper count) (world : World V) : ∃ last world',
    forEach (checkTurn callbacks) (List.range count) (wrapper, 0) world =
      .ok (.next last) world' := by
  have looped : ∃ last world', forEach (checkTurn callbacks) (List.range count) (wrapper, 0) world =
      .ok (.next last) world' ∧ Designates last.1 count :=
    forEach_designated (fun given : Wrapper × Nat => Designates given.1 count)
      (fun index below given holding world => checkTurn_designated holding below given.2 world)
      designates world
  obtain ⟨last, world', run, -⟩ := looped
  exact ⟨last, world', run⟩

/-- The lexemes change symbol objects and the order of the terminals only. -/
def Aside (wrapper wrapper' : Wrapper) : Prop :=
  ∃ table pointers, wrapper' = { wrapper with
      marpaWrapperSymbolpp := table, expectedMarpaWrapperSymbolArraypp := pointers } ∧
    (Unreleased wrapper.marpaWrapperSymbolpp → Unreleased table) ∧
    pointers.map Block.extent = wrapper.expectedMarpaWrapperSymbolArraypp.map Block.extent

theorem Fit.aside (fit : Fit tracing origin symbols wrapper) (aside : Aside wrapper wrapper')
    (same : SameSymbols wrapper wrapper') : Fit tracing origin symbols wrapper' := by
  obtain ⟨table, pointers, rfl, live, extent⟩ := aside
  refine ⟨fit.agrees.trans ⟨same, live, rfl, rfl⟩, fit.recognizer, ?_, fit.report⟩
  rcases fit.roomy with ⟨none, none'⟩ | ⟨ids, block, some, some', room, room'⟩
  · rw [none'] at extent
    exact .inl ⟨none, Option.map_eq_none_iff.mp extent⟩
  · rw [some'] at extent
    obtain ⟨array, array_eq, extent⟩ := Option.map_eq_some_iff.mp extent
    have length : array.cells.length = block.cells.length := congrArg Prod.snd extent
    exact .inr ⟨ids, array, some, array_eq, room, length ▸ room'⟩

/-- The lexemes of a position are read without undefined behaviour. -/
theorem readLexemes_returns (marpa : Libmarpa V) (callbacks : RecognizerCallbacks V)
    (conforms : Conforms libc.qsort) {ids : List Int} (expects : ExpectsLexemes ids wrapper)
    (recognizer : wrapper.marpaRecognizerp.isSome) (world : World V) : ∃ pushed wrapper' world',
    readLexemes libc marpa callbacks wrapper ids.length world = .ok (pushed, wrapper') world' ∧
      Aside wrapper wrapper' := by
  obtain ⟨sorted, ordered, designates⟩ :=
    orderTerminals_designated callbacks conforms expects.designates world
  obtain ⟨-, pointers, frame, perm⟩ := orderTerminals_return conforms ordered
  obtain ⟨-, pointers', frame', extent⟩ := orderTerminals_extent conforms ordered
  have spread : Spread (expectedCells sorted) ids.length :=
    (expects.points.spread expects.distinct (Nat.le_refl _)).perm perm
  obtain ⟨last, world', looped⟩ := checkLoop_designated callbacks designates world
  obtain ⟨checks, wrapper', length, same, checked⟩ := checkLoop_return spread looped
  cases same
  obtain ⟨table, frame''⟩ := checked.frame
  have still : wrapper'.marpaRecognizerp.isSome := by
    rw [frame'', frame']
    exact recognizer
  obtain ⟨pushes, through, run, -⟩ := pushTerminals_run marpa callbacks world' still
    fun index check => checked.awaits
  rw [length] at run
  have live := checked.live
  rw [frame'', frame'] at live
  refine ⟨through, wrapper', { world' with events := world'.events ++ pushes }, ?_, table,
    pointers', by rw [frame'', frame'], live, extent⟩
  rw [readLexemes, run_bind_ok ordered, run_bind_ok looped]
  exact run_bind_ok run

/-- The pushes came to their end when each of them passes. -/
theorem Pushes.through_eq {maxLengthl : Nat} {checks : List Check} {value : Int × Int}
    {events exchanges : List (Event V)} {through : Bool}
    (pushes : Pushes marpa callbacks maxLengthl checks value events exchanges through) :
    through = exchanges.all (·.passes origin remaining) := by
  have fetches {check : Check} {value fresh : Int × Int} {events fetch : List (Event V)}
      (obtained : Obtained callbacks check value events fetch fresh) :
      fetch.all (·.passes origin remaining) = true := by
    cases obtained with
    | atHand _ => rfl
    | fetched _ _ => rfl
  induction pushes with
  | nil => rfl
  | unselected _ _ inductionHypothesis => exact inductionHypothesis
  | refused _ _ _ => rfl
  | rejected _ obtained _ failure =>
    rw [List.all_append, fetches obtained, Bool.true_and, List.all_cons, List.all_nil,
      Bool.and_true]
    exact (beq_eq_false_iff_ne.mpr failure).symm
  | accepted _ obtained _ _ inductionHypothesis =>
    rw [List.all_append, List.all_append, fetches obtained, ← inductionHypothesis]
    rfl

theorem Pushed.through_eq {checks : List Check} {events exchanges : List (Event V)} {through : Bool}
    (pushed : Pushed marpa callbacks checks events exchanges through) :
    through = exchanges.all (·.passes origin remaining) := by
  unfold Pushed at pushed
  by_cases matched : 0 < longest checks
  · rw [if_pos matched] at pushed
    exact pushed.through_eq
  · rw [if_neg matched] at pushed
    obtain ⟨rfl, rfl⟩ := pushed
    rfl

/-- The lexemes of a position are accepted when their pushes pass. -/
theorem readLexemes_verdict (marpa : Libmarpa V) (callbacks : RecognizerCallbacks V)
    (conforms : Conforms libc.qsort) {ids : List Int} (fit : Fit tracing origin symbols wrapper)
    (expects : ExpectsLexemes ids wrapper)
    (verdict : Verdict (·.passes origin remaining) start true world) :
    ∃ pushed wrapper' world',
      readLexemes libc marpa callbacks wrapper ids.length world = .ok (pushed, wrapper') world' ∧
        Fit tracing origin symbols wrapper' ∧
        Verdict (·.passes origin remaining) start pushed world' := by
  obtain ⟨pushed, wrapper', world', run, aside⟩ :=
    readLexemes_returns marpa callbacks conforms expects fit.recognizer world
  have recorded := readLexemes_record marpa callbacks world conforms expects.points
    expects.distinct fit.recognizer
  rw [run] at recorded
  obtain ⟨checks, pushes, lexemes, added, same⟩ := recorded
  have quiet : (checkExchanges (V := V) checks).all (·.passes origin remaining) = true :=
    List.all_eq_true.mpr fun event member => by
      obtain ⟨datavp, length, rfl⟩ := checkExchanges_kind checks event member
      rfl
  have decided := verdict.more added
  rw [Bool.true_and, List.all_append, quiet, Bool.true_and, ← lexemes.pushed.through_eq] at decided
  exact ⟨pushed, wrapper', world', run, fit.aside aside same, decided⟩

end Lexemes

end MarpaWrapper
