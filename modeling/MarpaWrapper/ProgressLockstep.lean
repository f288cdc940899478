/-
This file runs `marpaWrapper_r_progressb` on two wrappers that have the same grammar. Each
releases the report that it has, and what it releases shows in no answer. Then both begin with
an empty table, they store the same items, at addresses of their own, and they sort them by
what they have in common.
-/

import MarpaWrapper.Leftovers
import MarpaWrapper.ProgressReports
import MarpaWrapper.RecognitionLockstep

namespace MarpaWrapper

open Effects Sorting

variable {V α β : Type}

/-! ### Buffers -/

/-- Two buffers that have grown alike. -/
structure SameGrowth (view : α → β) (growth growth' : Growth α) : Prop where
  sizei : growth.sizei = growth'.sizei
  prevSizei : growth.prevSizei = growth'.prevSizei
  table : SameTable view growth.pp growth'.pp

section Buffers

variable {libc : Libc V} {fuel modulus : Nat} {build : Build} {view : α → β}
  {cells cells' : List (Slot α)} {table table' : Option (Block α)} {start start' : World V}
  {alike : World V → World V → Prop}

theorem SameCells.take (same : SameCells view cells cells') (count : Nat) :
    SameCells view (cells.take count) (cells'.take count) := by
  unfold SameCells
  rw [List.map_take, List.map_take, same]

theorem SameCells.drop (same : SameCells view cells cells') (count : Nat) :
    SameCells view (cells.drop count) (cells'.drop count) := by
  unfold SameCells
  rw [List.map_drop, List.map_drop, same]

theorem SameCells.append {more more' : List (Slot α)} (same : SameCells view cells cells')
    (appended : SameCells view more more') : SameCells view (cells ++ more) (cells' ++ more') := by
  unfold SameCells
  rw [List.map_append, List.map_append, same, appended]

theorem enlarge_lockstep {growth growth' : Growth α} (grown : SameGrowth view growth growth')
    (same : SameCells view cells cells') (sizei bytes elementSizei : Nat)
    {address address' : Option Nat} (granted : address.isSome = address'.isSome) :
    TurnsAlike (SameGrowth view) (ExceptsAlike (SameGrowth view) (SameGrowth view))
      (enlarge growth cells sizei bytes elementSizei address)
      (enlarge growth' cells' sizei bytes elementSizei address') := by
  cases address with
  | none =>
    cases address' with
    | none => exact .done (.error grown)
    | some address' => cases granted
  | some address =>
    cases address' with
    | none => cases granted
    | some address' =>
      refine .next ⟨rfl, rfl, congrArg some (Prod.ext rfl ?_)⟩
      rw [same.length]
      exact (same.take _).append rfl

theorem reallocBlock_lockstep (granted : libc.AnswersAfresh start.events start'.events)
    (same : SameTable view table table') (bytes : Nat) :
    Lockstep (Alike start start') (reallocBlock libc table bytes) (reallocBlock libc table' bytes)
      fun address address' => address.isSome = address'.isSome := by
  have used : Lockstep (Alike start start') (table.elim (pure ()) useBlock)
      (table'.elim (pure ()) useBlock) Eq := by
    cases table <;> cases table' <;> first | exact .pure rfl | cases same | skip
    exact useBlock_lockstep (same.live rfl rfl)
  exact used.bind fun _ _ _ => realloc_lockstep granted _

theorem growTurn_lockstep (granted : libc.AnswersAfresh start.events start'.events)
    (wanted elementSizei : Nat) {growth growth' : Growth α}
    (same : SameGrowth view growth growth') :
    Lockstep (Alike start start') (growTurn libc modulus wanted elementSizei growth)
      (growTurn libc modulus wanted elementSizei growth')
      (TurnsAlike (SameGrowth view) (ExceptsAlike (SameGrowth view) (SameGrowth view))) := by
  unfold growTurn
  rw [same.sizei, same.prevSizei]
  refine .ite Iff.rfl (fun _ _ => .ite Iff.rfl (fun _ _ => ?_) fun _ _ =>
    .ite Iff.rfl (fun _ _ => .pure (.done (.error same))) fun _ _ => ?_) fun _ _ =>
      .pure (.done (.ok same))
  · exact (malloc_lockstep granted _).bind fun _ _ addresses =>
      .pure (enlarge_lockstep same rfl _ _ _ addresses)
  · exact (reallocBlock_lockstep granted same.table _).bind fun _ _ addresses =>
      .pure (enlarge_lockstep same same.table.cellsOf _ _ _ addresses)

theorem prefill_lockstep (same : SameCells view cells cells') (origSizei sizei elementSizei : Nat) :
    Lockstep alike (prefill fuel build modulus cells origSizei sizei elementSizei)
      (prefill fuel build modulus cells' origSizei sizei elementSizei) (SameCells view) := by
  refine .ite Iff.rfl (fun _ _ => .ite (by rw [same.length]) (fun _ _ => .pure ?_)
    fun _ _ => .throw _) fun _ _ => ?_
  · exact ((same.take _).append rfl).append (same.drop _)
  · refine Lockstep.loop (fun frame frame' => frame.1 = frame'.1 ∧ SameCells view frame.2 frame'.2)
      (fun frame frame' frames => ?_) fuel ⟨rfl, same⟩
    obtain ⟨counter, between⟩ := frame
    obtain ⟨_, between'⟩ := frame'
    obtain ⟨rfl, same⟩ := frames
    exact .ite Iff.rfl (fun _ _ => .ite Iff.rfl (fun _ _ => .throw _) fun _ _ =>
      (writeCell_lockstep same _ rfl).bind fun _ _ same => .pure (.next ⟨rfl, same⟩))
        fun _ _ => .pure (.done same)

/-- What a failure leaves is the same table. -/
theorem leftBy_same_table (same : SameTable view table table') (size : Nat)
    {growth growth' : Growth α} (grown : growth.sizei = growth'.sizei) :
    SameTable view (leftBy table size growth) (leftBy table' size growth') := by
  cases table <;> cases table' <;> first | rfl | cases same | skip
  refine congrArg some (Prod.ext ?_ same.cellsOf)
  simp only [Block.seen, same.live rfl rfl, grown]

/-- Both provide the room, or none does. -/
theorem manageBufCreatep_lockstep (granted : libc.AnswersAfresh start.events start'.events)
    (same : SameTable view table table') (size wanted elementSizei : Nat) :
    Lockstep (Alike start start')
      (manageBufCreatep libc fuel build modulus table size wanted elementSizei)
      (manageBufCreatep libc fuel build modulus table' size wanted elementSizei)
      (ExceptsAlike (SameTable view) fun room room' =>
        SameTable view (some room.1) (some room'.1) ∧ room.2 = room'.2) := by
  have begun : SameGrowth view ⟨size, size, table⟩ ⟨size, size, table'⟩ := ⟨rfl, rfl, same⟩
  refine (Lockstep.loop (SameGrowth view)
    (fun _ _ same => growTurn_lockstep granted wanted elementSizei same) fuel begun).bind
      fun outcome outcome' outcomes => ?_
  cases outcomes with
  | error grown => exact .pure (.error (leftBy_same_table same size grown.sizei))
  | @ok growth growth' grown =>
    have table := grown.table
    simp only [grown.sizei]
    refine (prefill_lockstep table.cellsOf _ _ _).bind fun cells cells' same => .pure ?_
    generalize growth.pp = pp at table ⊢
    generalize growth'.pp = pp' at table ⊢
    cases pp <;> cases pp' <;> first | exact .error rfl | cases table | skip
    exact .ok ⟨congrArg some (Prod.ext (table.live rfl rfl) same), rfl⟩

end Buffers

/-! ### Reports -/

/-- Two wrappers in the middle of a recognition, with the same report at any addresses. -/
structure SameReport (wrapper wrapper' : Wrapper) : Prop where
  prepared : Prepared wrapper wrapper'
  table : SameTable MarpaWrapperProgress.withoutAddress wrapper.marpaWrapperProgresspp
    wrapper'.marpaWrapperProgresspp
  size : wrapper.sizeMarpaWrapperProgressi = wrapper'.sizeMarpaWrapperProgressi
  count : wrapper.nMarpaWrapperProgressi = wrapper'.nMarpaWrapperProgressi

/-- Both leave the loops in the same way. -/
inductive ExitsAlike : ProgressExit → ProgressExit → Prop
  | broken {wrapper wrapper' : Wrapper} (reported : SameReport wrapper wrapper') :
      ExitsAlike (.broken wrapper) (.broken wrapper')
  | returned {wrapper wrapper' : Wrapper} (reported : SameReport wrapper wrapper') :
      ExitsAlike (.returned wrapper) (.returned wrapper')

section Reports

variable {libc : Libc V} {fuel : Nat} {build : Build} {marpa : Libmarpa V}
  {wrapper wrapper' : Wrapper} {start start' : World V}

/-- What a recognition goes on with is not in the report. -/
theorem Prepared.progresses {next next' : Wrapper} (prepared : Prepared wrapper wrapper')
    (frame : OnlyProgress wrapper next) (frame' : OnlyProgress wrapper' next') :
    Prepared next next' := by
  obtain ⟨_, _, _, rfl⟩ := frame
  obtain ⟨_, _, _, rfl⟩ := frame'
  exact ⟨⟨prepared.peers.options, prepared.peers.symbols, prepared.peers.rules⟩,
    prepared.recognizer, prepared.ids, prepared.pointers⟩

theorem Peers.sameRules (peers : Peers wrapper wrapper') : SameTable (fun rule => rule)
    wrapper.marpaWrapperRulepp wrapper'.marpaWrapperRulepp :=
  congrArg _ peers.rules

/-- A rule is read alike. -/
theorem readRule_lockstep {alike : World V → World V → Prop} (peers : Peers wrapper wrapper')
    (index : Nat) :
    Lockstep alike (readObject wrapper.marpaWrapperRulepp index)
      (readObject wrapper'.marpaWrapperRulepp index) Eq := by
  refine (readObject_lockstep peers.sameRules index).weaken fun rule rule' rules => ?_
  rwa [Option.map_id', Option.map_id'] at rules

theorem storeProgress_lockstep (granted : libc.AnswersAfresh start.events start'.events)
    (reported : SameReport wrapper wrapper') (set ruleId position origin : Int) :
    Lockstep (Alike start start')
      (storeProgress libc fuel build wrapper set ruleId position origin)
      (storeProgress libc fuel build wrapper' set ruleId position origin)
      (TurnsAlike SameReport ExitsAlike) := by
  obtain ⟨prepared, table, size, count⟩ := reported
  unfold storeProgress
  rw [size, count]
  refine (manageBufCreatep_lockstep granted table _ _ _).bind fun room room' rooms => ?_
  cases rooms with
  | error left =>
    exact .pure (.done (.broken ⟨prepared.progresses ⟨_, _, _, rfl⟩ ⟨_, _, _, rfl⟩, left, rfl,
      rfl⟩))
  | @ok room room' same =>
    obtain ⟨block, grown⟩ := room
    obtain ⟨block', _⟩ := room'
    obtain ⟨same, rfl⟩ := same
    refine (malloc_lockstep granted _).bind fun address address' addresses => ?_
    cases address with
    | none =>
      cases address' with
      | none =>
        exact .pure (.done (.returned
          ⟨prepared.progresses ⟨_, _, _, rfl⟩ ⟨_, _, _, rfl⟩, same, rfl, rfl⟩))
      | some address' => cases addresses
    | some address =>
      cases address' with
      | none => cases addresses
      | some address' =>
        have pointed : Lockstep (Alike start start') (readPointer wrapper.marpaWrapperRulepp ruleId)
            (readPointer wrapper'.marpaWrapperRulepp ruleId) Eq :=
          readPointer_lockstep prepared.peers.sameRules ruleId
        refine pointed.bind ?_
        rintro pointer _ rfl
        have written : Lockstep (Alike start start')
            (writeArray block wrapper'.nMarpaWrapperProgressi (.pointer (MarpaWrapperProgress.mk
              address set origin pointer position)))
            (writeArray block' wrapper'.nMarpaWrapperProgressi (.pointer (MarpaWrapperProgress.mk
              address' set origin pointer position)))
            fun table table' => SameTable MarpaWrapperProgress.withoutAddress (some table)
              (some table') := by
          have released := same.live rfl rfl
          refine (useBlock_lockstep released).bind fun _ _ _ =>
            .ite Iff.rfl (fun _ _ => .throw _) fun _ _ => ?_
          refine Lockstep.bind (writeCell_lockstep same.cellsOf _ rfl) fun cells cells' same =>
            .pure ?_
          exact congrArg some (Prod.ext released same)
        exact written.bind fun table table' same => .pure (.next
          ⟨prepared.progresses ⟨_, _, _, rfl⟩ ⟨_, _, _, rfl⟩, same, rfl, rfl⟩)

theorem itemTurn_lockstep (granted : libc.AnswersAfresh start.events start'.events)
    (afresh : marpa.AnswersAfresh start.events start'.events) (set : Int) (index : Nat)
    (reported : SameReport wrapper wrapper') :
    Lockstep (Alike start start') (itemTurn libc fuel build marpa set index wrapper)
      (itemTurn libc fuel build marpa set index wrapper') (TurnsAlike SameReport ExitsAlike) := by
  refine (ask_lockstep afresh.progressItem _).bind ?_
  rintro item _ rfl
  exact .ite Iff.rfl (fun _ _ => .pure (.done (.broken reported))) fun _ _ =>
    storeProgress_lockstep granted reported _ _ _ _

theorem setTurn_lockstep (granted : libc.AnswersAfresh start.events start'.events)
    (afresh : marpa.AnswersAfresh start.events start'.events) (starti : Int) (offset : Nat)
    (reported : SameReport wrapper wrapper') :
    Lockstep (Alike start start') (setTurn libc fuel build marpa starti offset wrapper)
      (setTurn libc fuel build marpa starti offset wrapper')
      (TurnsAlike SameReport ExitsAlike) := by
  refine (ask_lockstep (afresh.earleme _) _).bind ?_
  rintro earleme _ rfl
  refine .ite Iff.rfl (fun _ _ => .pure (.done (.broken reported))) fun _ _ =>
    (ask_lockstep (afresh.progressReportStart _) _).bind ?_
  rintro items _ rfl
  exact .ite Iff.rfl (fun _ _ => .pure (.done (.broken reported))) fun _ _ =>
    .forEach_range (fun _ => SameReport)
      (fun index _ _ _ reported => itemTurn_lockstep granted afresh _ index reported) reported

/-- An item with the id of its rule, without its address. -/
def withoutAddress (item : Int × MarpaWrapperProgress) : Int × MarpaWrapperProgress :=
  (item.1, item.2.withoutAddress)

theorem rankTurn_lockstep {alike : World V → World V → Prop} (peers : Peers wrapper wrapper')
    {cells cells' : List (Slot MarpaWrapperProgress)}
    (same : SameCells MarpaWrapperProgress.withoutAddress cells cells') (index : Nat)
    {items items' : List (Int × MarpaWrapperProgress)}
    (ranked : items.map withoutAddress = items'.map withoutAddress) :
    Lockstep alike (rankTurn wrapper cells index items) (rankTurn wrapper' cells' index items')
      (TurnsAlike (fun items items' => items.map withoutAddress = items'.map withoutAddress)
        fun _ _ => False) := by
  refine (readCell_lockstep same index).bind fun item item' here => ?_
  cases item with
  | none =>
    cases item' with
    | none => exact .throw _
    | some item' => cases here
  | some item =>
    cases item' with
    | none => cases here
    | some item' =>
      have here : item.withoutAddress = item'.withoutAddress := Option.some.inj here
      have rule := congrArg MarpaWrapperProgress.marpaWrapperRulep here
      change item.marpaWrapperRulep = item'.marpaWrapperRulep at rule
      simp only [rule]
      cases item'.marpaWrapperRulep with
      | none => exact .throw _
      | some pointer =>
        refine (readRule_lockstep peers pointer).bind ?_
        rintro rule _ rfl
        cases rule with
        | none => exact .throw _
        | some rule =>
          refine .pure (.next ?_)
          rw [List.map_append, List.map_append, ranked, List.map_singleton, List.map_singleton]
          exact congrArg (_ ++ [·]) (congrArg (Prod.mk rule.marpaRuleIdi) here)

/-- The items are in the same order. -/
theorem sortProgress_lockstep {alike : World V → World V → Prop} (blind : SortsBlindly libc.qsort)
    (reported : SameReport wrapper wrapper') :
    Lockstep alike (sortProgress libc wrapper) (sortProgress libc wrapper') SameReport := by
  obtain ⟨prepared, table, size, count⟩ := reported
  unfold sortProgress
  cases there : wrapper.marpaWrapperProgresspp with
  | none =>
    cases there' : wrapper'.marpaWrapperProgresspp with
    | none => exact .pure ⟨prepared, table, size, count⟩
    | some block' => rw [there, there'] at table; cases table
  | some block =>
    cases there' : wrapper'.marpaWrapperProgresspp with
    | none => rw [there, there'] at table; cases table
    | some block' =>
      rw [there, there'] at table
      have released := table.live rfl rfl
      have cells : SameCells MarpaWrapperProgress.withoutAddress block.cells block'.cells :=
        table.cellsOf
      refine .ite (by rw [count]) (fun _ _ => ?_) fun _ _ =>
        .pure ⟨prepared, by rw [there, there']; exact table, size, count⟩
      rw [count]
      refine (Lockstep.forEach_range
        (fun _ items items' => items.map withoutAddress = items'.map withoutAddress)
        (fun index _ _ _ ranked => rankTurn_lockstep prepared.peers cells index ranked) rfl).bind
          fun _ _ turns => ?_
      cases turns with
      | done impossible => exact impossible.elim
      | @next items items' ranked =>
        have sorted (items : List (Int × MarpaWrapperProgress)) :
            ((libc.qsort marpaWrapperProgressCmp items).map (Slot.pointer ·.2)).map
                (Slot.map MarpaWrapperProgress.withoutAddress) =
              (libc.qsort marpaWrapperProgressCmp (items.map withoutAddress)).map
                (Slot.pointer ·.2) := by
          have blindly := blind withoutAddress marpaWrapperProgressCmp items
          have pointed := congrArg (List.map (Slot.pointer ·.2)) blindly
          rw [List.map_map] at pointed
          rw [List.map_map]
          exact pointed
        refine .pure ⟨prepared.progresses ⟨_, _, _, rfl⟩ ⟨_, _, _, rfl⟩,
          congrArg some (Prod.ext released (SameCells.append ?_ (cells.drop _))), size, rfl⟩
        show _ = _
        rw [sorted items, sorted items', ranked]

/-- Both return the same count, and the same report when there is one. -/
structure ReportResult (result result' : Option Nat × Wrapper) : Prop where
  count : result.1 = result'.1
  prepared : Prepared result.2 result'.2
  report : result.1.isSome = true → SameReport result.2 result'.2

theorem finishProgress_lockstep (blind : SortsBlindly libc.qsort)
    (afresh : marpa.AnswersAfresh start.events start'.events) (rcb : Bool)
    (same : SameReport wrapper wrapper') :
    Lockstep (Alike start start') (finishProgress libc marpa rcb wrapper)
      (finishProgress libc marpa rcb wrapper') ReportResult := by
  refine (ask_lockstep afresh.progressReportFinish _).bind ?_
  rintro finished _ rfl
  exact .ite Iff.rfl (fun _ _ => (sortProgress_lockstep blind same).bind fun _ _ sorted =>
    .pure ⟨congrArg some sorted.count, sorted.prepared, fun _ => sorted⟩) fun _ _ =>
      .pure ⟨rfl, same.prepared, fun _ => same⟩

/-- What the releases of two reports show is nothing. -/
theorem manageBufFreev_lockstep {table table' : Option (Block α)} {count count' : Nat}
    (addressOf : α → Nat) (assigned : Assigned (cellsOf table) count)
    (assigned' : Assigned (cellsOf table') count') (live : Unreleased table)
    (live' : Unreleased table') :
    Lockstep (Alike start start') (manageBufFreev addressOf table count)
      (manageBufFreev addressOf table' count') Eq := by
  have unseen {exchanges : List (Event V)}
      (frees : ∀ event ∈ exchanges, ∃ address, event = .free address) : ownView exchanges = [] := by
    refine List.filterMap_eq_nil_iff.mpr fun event member => ?_
    obtain ⟨address, rfl⟩ := frees event member
    rfl
  intro world world' alike
  obtain ⟨exchanges, run, frees⟩ := manageBufFreev_assigned addressOf assigned live world
  obtain ⟨exchanges', run', frees'⟩ := manageBufFreev_assigned addressOf assigned' live' world'
  rw [run, run']
  exact .ok (alike.exchanges rfl rfl ((unseen frees).trans (unseen frees').symm) alike.symbols
    alike.queue) rfl

/-- Two reports that can be released give way to the same one. -/
theorem marpaWrapperRProgressb_lockstep (blind : SortsBlindly libc.qsort)
    (granted : libc.AnswersAfresh start.events start'.events)
    (afresh : marpa.AnswersAfresh start.events start'.events)
    (prepared : Prepared wrapper wrapper') (releasable : wrapper.ReportReleasable)
    (releasable' : wrapper'.ReportReleasable) (starti endi : Int) :
    Lockstep (Alike start start') (marpaWrapperRProgressb libc fuel build marpa wrapper starti endi)
      (marpaWrapperRProgressb libc fuel build marpa wrapper' starti endi) ReportResult := by
  have cleared : SameReport
      { wrapper with
        marpaWrapperProgresspp := none
        sizeMarpaWrapperProgressi := 0
        nMarpaWrapperProgressi := 0 }
      { wrapper' with
        marpaWrapperProgresspp := none
        sizeMarpaWrapperProgressi := 0
        nMarpaWrapperProgressi := 0 } :=
    ⟨prepared.progresses ⟨_, _, _, rfl⟩ ⟨_, _, _, rfl⟩, rfl, rfl, rfl⟩
  refine .ite prepared.isNone
    (fun _ _ => .pure ⟨rfl, prepared, fun there => absurd there Bool.false_ne_true⟩) fun _ _ =>
    (manageBufFreev_lockstep _ releasable.assigned releasable'.assigned releasable.live
      releasable'.live).bind fun _ _ _ =>
      (ask_lockstep afresh.latestEarleySet _).bind ?_
  rintro latest _ rfl
  refine .ite Iff.rfl (fun _ _ => .pure ⟨rfl, cleared.prepared, fun _ => cleared⟩) fun _ _ =>
    (Lockstep.forEach_range (fun _ => SameReport) (fun offset _ _ _ same =>
      setTurn_lockstep granted afresh _ offset same) cleared).bind fun _ _ turns => ?_
  cases turns with
  | next same => exact finishProgress_lockstep blind afresh true same
  | done exits =>
    cases exits with
    | broken same => exact finishProgress_lockstep blind afresh false same
    | returned same => exact .pure ⟨rfl, same.prepared, fun _ => same⟩

/-- The trace goes through the same items. -/
theorem traceTurn_lockstep {alike : World V → World V → Prop} (same : SameReport wrapper wrapper')
    (index : Nat) :
    Lockstep alike (traceTurn wrapper index ()) (traceTurn wrapper' index ())
      (TurnsAlike Eq fun _ _ => False) := by
  refine (readCell_lockstep same.table.cellsOf index).bind fun item item' here => ?_
  cases item with
  | none =>
    cases item' with
    | none => exact .throw _
    | some item' => cases here
  | some item =>
    cases item' with
    | none => cases here
    | some item' =>
      have here : item.withoutAddress = item'.withoutAddress := Option.some.inj here
      have rule := congrArg MarpaWrapperProgress.marpaWrapperRulep here
      change item.marpaWrapperRulep = item'.marpaWrapperRulep at rule
      simp only [rule]
      cases item'.marpaWrapperRulep with
      | none => exact .throw _
      | some pointer =>
        refine (readRule_lockstep same.prepared.peers pointer).bind ?_
        rintro rule _ rfl
        cases rule with
        | none => exact .throw _
        | some rule => exact .pure (.next rfl)

/-- A trace shows the same. -/
theorem showProgress_lockstep (blind : SortsBlindly libc.qsort)
    (granted : libc.AnswersAfresh start.events start'.events)
    (afresh : marpa.AnswersAfresh start.events start'.events)
    (prepared : Prepared wrapper wrapper') (releasable : wrapper.ReportReleasable)
    (releasable' : wrapper'.ReportReleasable) :
    Lockstep (Alike start start') (showProgress libc fuel build marpa wrapper)
      (showProgress libc fuel build marpa wrapper') Prepared := by
  refine .ite Iff.rfl (fun _ _ => ?_) fun _ _ => .pure prepared
  refine (marpaWrapperRProgressb_lockstep blind granted afresh prepared releasable releasable' _
    _).bind ?_
  rintro ⟨progress, between⟩ ⟨_, between'⟩ ⟨rfl, prepared, report⟩
  cases progress with
  | none => exact .pure prepared
  | some count =>
    exact (Lockstep.forEach_range (fun _ => Eq) (fun index _ _ _ _ =>
      traceTurn_lockstep (report rfl) index) rfl).bind fun _ _ _ => .pure prepared

end Reports

end MarpaWrapper
