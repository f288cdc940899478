/-
This file carries the verdicts through the trace. A build that traces asks for the progress
report of the latest Earley set before each position of the input, and goes through the
rules of its items. The report of the position before is released first, also when it was
broken off. As long as libmarpa reports registered rules, and not more items than it can
count, there is no undefined behaviour in it, and a trace that fails ends nothing.
-/

import MarpaWrapper.ProgressReports
import MarpaWrapper.TerminalVerdicts

namespace MarpaWrapper

open Effects Sorting

variable {V : Type}

section Traced

variable {libc : Libc V} {fuel : Nat} {build : Build} {marpa : Libmarpa V}
  {origin wrapper wrapper' : Wrapper} {start world : World V} {tracing remaining : Bool}
  {symbols : Nat}

/-- The exchange is of the kind that is assumed. -/
theorem MakesOne.documents {α : Type} {program : Exec V α} {event : α → Event V}
    {kind : Event V → Prop} (makes : MakesOne program event) :
    Assuming (AllSince start kind) (Prolonged start) program
      fun value world => kind (event value) ∧ Prolonged start world := by
  have decides : Assuming (AllSince start kind) (Verdict (fun _ => true) start true) program
      fun value world => kind (event value) ∧ Verdict (fun _ => true) start true world :=
    makes.decides
  refine decides.consequence ?_ fun _ _ holds => ⟨holds.1, holds.2.prolonged⟩
  rintro world ⟨exchanges, record⟩
  exact ⟨exchanges, record.symm, (List.all_eq_true.mpr fun _ _ => rfl).symm⟩

/-! ### The items -/

/-- A report whose items point to registered rules. -/
structure Reporting (build : Build) (origin wrapper : Wrapper)
    (items : List MarpaWrapperProgress) : Prop where
  frame : OnlyProgress origin wrapper
  stored : HasReport build wrapper items
  known : ∀ object ∈ items, (wrapper.ruleIdOf object).isSome = true

theorem OnlyProgress.ruleIdOf (frame : OnlyProgress wrapper wrapper') :
    wrapper'.ruleIdOf = wrapper.ruleIdOf := by
  unfold Wrapper.ruleIdOf
  rw [frame.rules]

/-- So many items were stored since `start`. -/
def ReportedSoFar (build : Build) (origin : Wrapper) (start : World V) (count : Nat)
    (wrapper : Wrapper) (world : World V) : Prop :=
  (∃ items, Reporting build origin wrapper items ∧ items.length = count) ∧ Prolonged start world

/-- An item is stored, or the loop is left. -/
theorem storeProgress_reporting {items : List MarpaWrapperProgress}
    (reporting : Reporting build origin wrapper items) (few : items.length < build.limit)
    (enough : 2 ^ 32 ≤ fuel) {item : ProgressItem}
    (known : Registers wrapper.marpaWrapperRulepp item.1) (libc : Libc V) (set : Int)
    (world : World V) : ∃ outcome world',
      storeProgress libc fuel build wrapper set item.1 item.2.1 item.2.2 world =
        .ok outcome world' ∧
      ∀ following, outcome = .next following →
        ∃ more, Reporting build origin following more ∧ more.length = items.length + 1 := by
  obtain ⟨outcome, world', run, stored⟩ :=
    storeProgress_run reporting.stored few enough known libc set world
  refine ⟨outcome, world', run, fun following same => ?_⟩
  subst same
  cases stored with
  | @entered block table size between provided granted stores =>
    refine ⟨_, ⟨reporting.frame.trans ⟨_, _, _, rfl⟩, ⟨stores, ?_⟩, fun object member => ?_⟩,
      List.length_append⟩
    · rw [List.length_append, ← reporting.stored.count]
      rfl
    · rcases List.mem_append.mp member with earlier | last
      · exact reporting.known object earlier
      · rw [List.mem_singleton.mp last]
        exact ruleIdOf_registered known rfl

/-- One turn of the loop over the items. -/
theorem itemTurn_reporting (agrees : Agrees origin wrapper) (enough : 2 ^ 32 ≤ fuel) {index : Nat}
    (few : index < build.limit) (set : Int) {between : Wrapper} :
    Assuming (AllSince start (·.Documented tracing origin symbols))
      (ReportedSoFar build wrapper start index between)
      (itemTurn libc fuel build marpa set index between)
      (AfterTurn (ReportedSoFar build wrapper start (index + 1)) fun _ => Prolonged start) := by
  have turn {items : List MarpaWrapperProgress} (reporting : Reporting build wrapper between items)
      (count : items.length = index) :
      Assuming (AllSince start (·.Documented tracing origin symbols)) (Prolonged start)
        (itemTurn libc fuel build marpa set index between)
        (AfterTurn (ReportedSoFar build wrapper start (index + 1)) fun _ => Prolonged start) := by
    refine (ask_makesOne _ _).documents.bind fun item => .ite
      (fun _ => .pure fun _ _ holds => holds.2) fun valid => ?_
    have prolongs : ∀ start : World V, Keeps (Prolonged start)
        (storeProgress libc fuel build between set item.1 item.2.1 item.2.2) :=
      fun _ => Prolonged.of_continued fun _ => storeProgress_continued _ _ _ _
    refine ⟨AllSince.lost fun _ => prolongs _, ?_⟩
    rintro world ⟨kept, documented, prolonged⟩
    have registers : Registers origin.marpaWrapperRulepp item.1 := by
      have outcome : item.1 = -2 ∨ item.1 = -1 ∨ Registers origin.marpaWrapperRulepp item.1 :=
        documented
      rcases outcome with failed | missing | known
      · exact absurd (.inl failed) valid
      · exact absurd (.inr missing) valid
      · exact known
    have known : Registers between.marpaWrapperRulepp item.1 := by
      rw [reporting.frame.rules, agrees.rules]
      exact registers
    obtain ⟨outcome, world', run, stored⟩ :=
      storeProgress_reporting reporting (count ▸ few) enough known libc set world
    have prolonged' := prolongs start world prolonged
    rw [run] at prolonged' ⊢
    cases outcome with
    | next following =>
      obtain ⟨more, reporting', length⟩ := stored following rfl
      exact fun _ => ⟨⟨more, reporting', length.trans (congrArg (· + 1) count)⟩, prolonged'⟩
    | done exit => exact fun _ => prolonged'
  refine (Assuming.knowing (AllSince.lost fun _ => Prolonged.of_continued fun _ =>
    itemTurn_continued _ _) fun known => ?_)
  obtain ⟨items, reporting, count⟩ := known
  exact turn reporting count

/-- The Earley set of the trace. -/
theorem setTurn_reporting (agrees : Agrees origin wrapper) (enough : 2 ^ 32 ≤ fuel) (starti : Int)
    (offset : Nat) {between : Wrapper} (reporting : Reporting build wrapper between []) :
    Assuming (AllSince start (·.Documented tracing origin symbols)) (Prolonged start)
      (setTurn libc fuel build marpa starti offset between)
      (AfterTurn
        (fun following world => ∃ count, ReportedSoFar build wrapper start count following world)
        fun _ => Prolonged start) := by
  refine (ask_makesOne _ _).documents.bind fun earleme => .ite
    (fun _ => .pure fun _ _ holds => holds.2) fun _ => ?_
  refine Assuming.consequence ?_ (fun _ holds => holds.2) fun _ _ holds => holds
  refine (ask_makesOne _ _).documents.bind fun nbItemsi => .ite
    (fun _ => .pure fun _ _ holds => holds.2) fun _ => ?_
  have lost : Keeps (fun world => ¬ AllSince start (·.Documented tracing origin symbols) world)
      (forEach (itemTurn libc fuel build marpa (starti + offset)) (List.range nbItemsi.toNat)
        between) :=
    AllSince.lost fun _ => Prolonged.of_continued fun _ =>
      Keeps.forEach (fun index _ => itemTurn_continued _ index) _ _
  refine Assuming.knowing lost fun documented => ?_
  have few : nbItemsi ≤ intMax := documented
  have limit := build.limit_large
  have turns : Assuming (AllSince start (·.Documented tracing origin symbols))
      (ReportedSoFar build wrapper start 0 between)
      (forEach (itemTurn libc fuel build marpa (starti + offset)) (List.range nbItemsi.toNat)
        between)
      (AfterTurn (ReportedSoFar build wrapper start nbItemsi.toNat) fun _ => Prolonged start) :=
    Assuming.forEach_range (ReportedSoFar build wrapper start)
      (fun index below following => itemTurn_reporting agrees enough
        (by unfold intMax at few; omega) _) between
  refine turns.consequence (fun world prolonged => ⟨⟨[], reporting, rfl⟩, prolonged⟩)
    fun outcome world holds => ?_
  cases outcome with
  | next following => exact ⟨_, holds⟩
  | done exit => exact holds

/-- The items are sorted. -/
theorem finishProgress_reporting (conforms : Conforms libc.qsort) {rcb : Bool} {between : Wrapper}
    (reporting : rcb = true → ∃ items, Reporting build wrapper between items) :
    Assuming (AllSince start (·.Documented tracing origin symbols)) (Prolonged start)
      (finishProgress libc marpa rcb between)
      fun result world => (∀ count, result.1 = some count →
        ReportedSoFar build wrapper start count result.2 world) ∧ Prolonged start world := by
  refine (ask_makesOne _ _).documents.bind fun finished => .ite (fun succeeds => ?_)
    fun _ => .pure fun _ _ holds => ⟨(fun _ same => nomatch same), holds.2⟩
  obtain ⟨items, reporting⟩ := reporting succeeds.1
  have lost : Keeps (fun world => ¬ AllSince start (·.Documented tracing origin symbols) world)
      (do
        let wrapper ← sortProgress libc between
        pure (some wrapper.nMarpaWrapperProgressi, wrapper) : Exec V (Option Nat × Wrapper)) :=
    AllSince.lost fun _ => Prolonged.of_any fun _ => .bind sortProgress_continued fun _ => .pure _
  refine ⟨lost, ?_⟩
  rintro world ⟨-, -, prolonged⟩
  obtain ⟨sorted, following, run, stored, perm, -, -⟩ :=
    sortProgress_sorts conforms reporting.stored reporting.known world
  have frame := sortProgress_frame run
  rw [run_bind_ok run]
  refine fun _ => ⟨?_, prolonged⟩
  rintro count ⟨⟩
  refine ⟨⟨sorted, ⟨reporting.frame.trans frame, stored, fun object member => ?_⟩,
    stored.count.symm⟩, prolonged⟩
  rw [frame.ruleIdOf]
  exact reporting.known object (perm.mem_iff.mp member)

/-- The report of the latest Earley set ends, and the items that it counts were stored. -/
theorem latestProgress_reporting (agrees : Agrees origin wrapper) (enough : 2 ^ 32 ≤ fuel)
    (conforms : Conforms libc.qsort) (releasable : wrapper.ReportReleasable) :
    Assuming (AllSince start (·.Documented tracing origin symbols)) (Prolonged start)
      (marpaWrapperRProgressb libc fuel build marpa wrapper (-1) (-1))
      fun result world => (∀ count, result.1 = some count →
        ReportedSoFar build wrapper start count result.2 world) ∧ Prolonged start world := by
  have released : Assuming (AllSince start (·.Documented tracing origin symbols)) (Prolonged start)
      (manageBufFreev MarpaWrapperProgress.address wrapper.marpaWrapperProgresspp
        wrapper.nMarpaWrapperProgressi) fun _ => Prolonged start := by
    refine ⟨AllSince.lost fun _ => Prolonged.of_continued fun _ =>
      manageBufFreev_continued _ _ _, ?_⟩
    rintro world ⟨-, prolonged⟩
    obtain ⟨exchanges, run, -⟩ :=
      manageBufFreev_assigned MarpaWrapperProgress.address releasable.assigned releasable.live world
    rw [run]
    exact fun _ => prolonged.trans ⟨exchanges, rfl⟩
  refine .ite (fun _ => .pure fun _ _ prolonged => ⟨(fun _ same => nomatch same), prolonged⟩)
    fun _ => released.bind fun _ => (ask_makesOne _ _).documents.bind fun latest => .ite
      (fun _ => .pure fun _ _ holds => ⟨(fun _ same => nomatch same), holds.2⟩) fun _ => ?_
  rw [show (rangeArgument (-1) latest - rangeArgument (-1) latest + 1).toNat = 1 by omega]
  have cleared : Reporting build wrapper { wrapper with
      marpaWrapperProgresspp := none
      sizeMarpaWrapperProgressi := 0
      nMarpaWrapperProgressi := 0 } [] :=
    ⟨⟨_, _, _, rfl⟩, ⟨.empty build, rfl⟩, fun _ member => absurd member List.not_mem_nil⟩
  have turns {between : Wrapper} (reporting : Reporting build wrapper between []) :
      Assuming (AllSince start (·.Documented tracing origin symbols)) (Prolonged start)
        (forEach (setTurn libc fuel build marpa (rangeArgument (-1) latest)) (List.range 1) between)
        (AfterTurn
          (fun following world => ∃ count, ReportedSoFar build wrapper start count following world)
          fun _ => Prolonged start) := by
    refine (setTurn_reporting agrees enough _ 0 reporting).bind fun outcome => ?_
    cases outcome with
    | next following => exact .pure fun _ _ holds => holds
    | done exit => exact .pure fun _ _ holds => holds
  refine ((turns cleared).consequence (fun _ holds => holds.2) fun _ _ holds => holds).bind
    fun outcome => ?_
  cases outcome with
  | next following =>
    refine (Assuming.knowing (AllSince.lost fun _ => Prolonged.of_continued fun _ =>
      finishProgress_continued true) fun known => finishProgress_reporting conforms
        fun _ => known).consequence ?_ fun _ _ holds => holds
    rintro world ⟨count, ⟨items, reporting, -⟩, prolonged⟩
    exact ⟨⟨items, reporting⟩, prolonged⟩
  | done exit =>
    cases exit with
    | broken between =>
      exact finishProgress_reporting conforms fun same => nomatch same
    | returned between =>
      exact .pure fun _ _ prolonged => ⟨(fun _ same => nomatch same), prolonged⟩

/-! ### The trace -/

/-- The items of a report are gone through. -/
theorem traceLoop_run {items : List MarpaWrapperProgress}
    (reporting : Reporting build origin wrapper items) (world : World V) : ∃ outcome,
      forEach (traceTurn wrapper) (List.range items.length) () world = .ok outcome world := by
  have turns : Triple (fun state => state = world)
      (forEach (traceTurn wrapper) (List.range items.length) ())
      (AfterTurn (fun _ state => state = world) fun result _ => result.elim) fun _ _ => False := by
    refine Triple.forEach_range (fun _ _ state => state = world) (fun index below _ => ?_) ()
    rintro state rfl
    have here := List.getElem?_eq_getElem below
    have read : readCell (cellsOf wrapper.marpaWrapperProgresspp) index state =
        .ok (some items[index]) state := by
      rw [readCell, reporting.stored.stores.cell index _ here]
      rfl
    obtain ⟨ruleId, ruleId_eq⟩ :=
      Option.isSome_iff_exists.mp (reporting.known _ (List.getElem_mem below))
    obtain ⟨pointer, pointer_eq, looked⟩ := Option.bind_eq_some_iff.mp ruleId_eq
    obtain ⟨rule, found, -⟩ := Option.map_eq_some_iff.mp looked
    rw [traceTurn, run_bind_ok read]
    simp only [pointer_eq]
    rw [run_bind_ok (readObject_lookup found state)]
    rfl
  have outcome := turns world rfl
  cases run : forEach (traceTurn wrapper) (List.range items.length) () world with
  | error fault state => rw [run] at outcome; exact outcome.elim
  | ok result state =>
    rw [run] at outcome
    cases result with
    | done result => exact result.elim
    | next _ =>
      cases outcome
      exact ⟨_, rfl⟩

/-- A trace ends. -/
theorem showProgress_returns (agrees : Agrees origin wrapper) (enough : 2 ^ 32 ≤ fuel)
    (conforms : Conforms libc.qsort)
    (report : build.tracing = true → wrapper.ReportReleasable) :
    Assuming (AllSince start (·.Documented tracing origin symbols)) (Prolonged start)
      (showProgress libc fuel build marpa wrapper) fun _ => Prolonged start := by
  have walked (progress : Option Nat) (following : Wrapper) :
      Assuming (AllSince start (·.Documented tracing origin symbols))
        (fun world => (∀ count, progress = some count →
          ReportedSoFar build wrapper start count following world) ∧ Prolonged start world)
        (forEach (traceTurn following) (List.range (progress.getD 0)) ())
        fun _ => Prolonged start := by
    refine ⟨AllSince.lost fun _ => Prolonged.of_any fun _ => .forEach traceTurn_continued _ _, ?_⟩
    rintro world ⟨-, reported, prolonged⟩
    cases progress with
    | none => exact fun _ => prolonged
    | some count =>
      obtain ⟨⟨items, reporting, rfl⟩, -⟩ := reported count rfl
      obtain ⟨outcome, run⟩ := traceLoop_run reporting world
      rw [Option.getD_some, run]
      exact fun _ => prolonged
  refine .ite (fun traces => ?_) fun _ => .pure fun _ _ prolonged => prolonged
  exact (latestProgress_reporting agrees enough conforms (report traces)).bind fun result =>
    (walked result.1 result.2).bind fun _ => .pure fun _ _ prolonged => prolonged

/-- With memory for the trace all of its exchanges pass. -/
theorem Event.passes_of_progress {event : Event V} (ofProgress : event.ofProgress = true)
    (documented : event.Documented true origin symbols) :
    event.passes origin remaining = true := by
  cases event <;> first | rfl | exact documented rfl | cases ofProgress

/-- A trace changes the report only, and the next trace can release it. -/
theorem Fit.shown {world' : World V} (fit : Fit build.tracing origin symbols wrapper)
    (limited : libc.Refuses (2 ^ 63)) (conforms : Conforms libc.qsort)
    (run : showProgress libc fuel build marpa wrapper world = .ok wrapper' world') :
    Fit build.tracing origin symbols wrapper' := by
  have frame := showProgress_frame run
  have report (traces : build.tracing = true) : wrapper'.ReportReleasable := by
    unfold showProgress at run
    rw [if_pos traces] at run
    obtain ⟨⟨progress, between⟩, after, reported, rest⟩ := run_bind_eq_ok run
    obtain ⟨_, _, _, rest⟩ := run_bind_eq_ok rest
    cases rest
    exact marpaWrapperRProgressb_releasable limited conforms (fit.report traces) reported
  have agrees := fit.agrees.trans frame.agrees
  obtain ⟨_, _, _, rfl⟩ := frame
  exact ⟨agrees, fit.recognizer, fit.roomy, report⟩

/-- A trace decides nothing. -/
theorem showProgress_verdict (fit : Fit build.tracing origin symbols wrapper)
    (enough : 2 ^ 32 ≤ fuel) (limited : libc.Refuses (2 ^ 63)) (conforms : Conforms libc.qsort) :
    Assuming (AllSince start (·.Documented build.tracing origin symbols))
      (Verdict (·.passes origin remaining) start true)
      (showProgress libc fuel build marpa wrapper)
      fun following world => Fit build.tracing origin symbols following ∧
        Verdict (·.passes origin remaining) start true world := by
  have returns : Assuming (AllSince start (·.Documented build.tracing origin symbols))
      (Verdict (·.passes origin remaining) start true)
      (showProgress libc fuel build marpa wrapper) fun _ => Prolonged start :=
    (showProgress_returns fit.agrees enough conforms fit.report).consequence
      (fun _ verdict => verdict.prolonged) fun _ _ holds => holds
  refine (returns.remembering (fun following world =>
    Fit build.tracing origin symbols following ∧
      Verdict (·.passes origin remaining) start true world)
    fun world following state verdict kept run => ⟨fit.shown limited conforms run, ?_⟩).consequence
      (fun _ holds => holds) fun _ _ holds => holds.2
  by_cases traces : build.tracing = true
  · obtain ⟨exchanges, added, ofProgress⟩ :=
      (Continued.of_run (fun _ => showProgress_continued) run).record
    have documented := kept.recent verdict.prolonged added
    rw [traces] at documented
    exact verdict.quiet added fun event member =>
      Event.passes_of_progress (ofProgress event member) (documented event member)
  · unfold showProgress at run
    rw [if_neg traces] at run
    cases run
    exact verdict

end Traced

end MarpaWrapper
