/-
This file follows the libmarpa objects of `marpaWrapper_vb`: the bocage, the
order on it, the tree iterator on that, and one valuator after the other on the
iterator. Each call creates an object, uses one or releases one, and
`marpa_t_next` uses the iterator with nothing on it, as libmarpa demands.

The locals of the body say at any time which objects are alive. That is the
invariant; it holds at a fault and when the fuel runs out as well, so that the
calls are in order in a run that does not end.
-/

import MarpaWrapper.Nesting
import MarpaWrapper.ValuationFailures

namespace MarpaWrapper

open Effects Nesting

variable {V α : Type}

/-! ### The calls as acts -/

/-- The act of an exchange: the levels are the bocage, the order, the tree iterator and the
valuator. A call names the local of its level, which designates the object of that level that is
alive. -/
def Event.act : Event V → Option (Act Nat)
  | .bocageNew (some handle) => some (.create 0 handle)
  | .orderNew (some handle) => some (.create 1 handle)
  | .orderNew none => some (.use 0)
  | .highRankOnlySet _ _ => some (.use 1)
  | .rank _ => some (.use 1)
  | .ambiguityMetric _ => some (.use 1)
  | .isNull _ => some (.use 1)
  | .treeNew (some handle) => some (.create 2 handle)
  | .treeNew none => some (.use 1)
  | .treeNext _ => some (.useInnermost 2)
  | .valueNew (some handle) => some (.create 3 handle)
  | .valueNew none => some (.use 2)
  | .valuedForce _ => some (.use 3)
  | .step _ => some (.use 3)
  | .valueUnref handle => some (.release 3 handle)
  | .treeUnref handle => some (.release 2 handle)
  | .orderUnref handle => some (.release 1 handle)
  | .bocageUnref handle => some (.release 0 handle)
  | _ => none

/-- The acts of a record, in order. -/
def actsIn (events : List (Event V)) : List (Act Nat) := events.filterMap Event.act

theorem actsIn_append (first second : List (Event V)) :
    actsIn (first ++ second) = actsIn first ++ actsIn second :=
  List.filterMap_append

theorem actsIn_silent {events : List (Event V)} (silent : ∀ event ∈ events, event.act = none) :
    actsIn events = [] :=
  List.filterMap_eq_nil_iff.mpr silent

/-! ### The invariant -/

/-- The acts since `start` are allowed and leave `alive`; the objects they created are distinct. -/
structure Lawful (start : World V) (alive : List Nat) (world : World V) : Prop where
  record : ∃ exchanges, world.events = start.events ++ exchanges ∧
    follow (actsIn exchanges) [] = some alive ∧ (created (actsIn exchanges)).Nodup ∧
    ∀ object ∈ created (actsIn exchanges), object < world.nextAddress

/-- The locals designate the objects that are alive. -/
def VbLocals.Designate (locals : VbLocals V) (alive : List Nat) : Prop :=
  [locals.marpaBocagep, locals.marpaOrderp, locals.marpaTreep, locals.marpaValuep] =
    alive.reverse.map some ++ List.replicate (4 - alive.length) none

/-- The first `level` objects are alive, and the locals designate them. -/
def AtLevel (start : World V) (level : Nat) (state : VbState V) : Prop :=
  ∃ alive, alive.length = level ∧ Lawful start alive state.world ∧ state.locals.Designate alive

/-- What holds when the body is left. -/
def LeavesLawful (start : World V) : VbExit → VbState V → Prop
  | .endLabel, state => ∃ level, AtLevel start level state
  | .fault _, state => ∃ alive, Lawful start alive state.world

/-- A part of the body that begins and ends with the same objects alive. -/
abbrev StaysAtLevel (start : World V) (level : Nat) (program : Vb V α) : Prop :=
  Triple (AtLevel start level) program (fun _ => AtLevel start level) (LeavesLawful start)

section Lawful

variable {start : World V} {alive alive' : List Nat} {world world' : World V} {level : Nat}
  {locals locals' : VbLocals V} {event : Event V}

theorem Lawful.refl (start : World V) : Lawful start [] start :=
  ⟨[], (List.append_nil _).symm, rfl, .nil, fun _ member => absurd member List.not_mem_nil⟩

/-- Exchanges that are no acts. -/
theorem Lawful.silent (lawful : Lawful start alive world)
    (grown : Grown (fun event => event.act = none) world world') : Lawful start alive world' := by
  obtain ⟨before, record, followed, distinct, below⟩ := lawful.record
  obtain ⟨exchanges, appended, silent⟩ := grown.record
  have acts : actsIn (before ++ exchanges) = actsIn before := by
    rw [actsIn_append, actsIn_silent silent, List.append_nil]
  refine ⟨before ++ exchanges, by rw [appended, record, List.append_assoc], ?_⟩
  rw [acts]
  exact ⟨followed, distinct, fun object member =>
    Nat.lt_of_lt_of_le (below object member) grown.later⟩

/-- An exchange that is an allowed act and creates nothing. -/
theorem Lawful.act (lawful : Lawful start alive world) {act : Act Nat} (acts : event.act = some act)
    (allowed : step alive act = some alive') (nothing : created [act] = []) :
    Lawful start alive' { world with events := world.events ++ [event] } := by
  obtain ⟨before, record, followed, distinct, below⟩ := lawful.record
  have extended : actsIn (before ++ [event]) = actsIn before ++ [act] := by
    rw [actsIn_append, actsIn, actsIn, List.filterMap_cons_some acts]
    rfl
  have same : created (actsIn before ++ [act]) = created (actsIn before) := by
    rw [created_append, nothing, List.append_nil]
  refine ⟨before ++ [event], by rw [record, List.append_assoc], ?_⟩
  rw [extended, same]
  exact ⟨follow_snoc followed allowed, distinct, below⟩

/-- An object of the next level is created. -/
theorem Lawful.create (lawful : Lawful start alive world)
    (acts : event.act = some (.create alive.length world.nextAddress)) :
    Lawful start (world.nextAddress :: alive) { world with
      events := world.events ++ [event], nextAddress := world.nextAddress + 1 } := by
  obtain ⟨before, record, followed, distinct, below⟩ := lawful.record
  have extended : actsIn (before ++ [event]) =
      actsIn before ++ [.create alive.length world.nextAddress] := by
    rw [actsIn_append, actsIn, actsIn, List.filterMap_cons_some acts]
    rfl
  have more : created (actsIn before ++ [.create alive.length world.nextAddress]) =
      created (actsIn before) ++ [world.nextAddress] := created_append _ _
  refine ⟨before ++ [event], by rw [record, List.append_assoc], ?_⟩
  rw [extended, more]
  refine ⟨follow_snoc followed (by rw [step, if_pos rfl]), ?_, fun object member => ?_⟩
  · rw [List.nodup_append]
    refine ⟨distinct, List.nodup_singleton _, fun old member new member' same => ?_⟩
    have earlier := below old member
    rw [same, List.mem_singleton.mp member'] at earlier
    exact absurd earlier (Nat.lt_irrefl _)
  · show object < world.nextAddress + 1
    rcases List.mem_append.mp member with old | new
    · exact Nat.lt_succ_of_lt (below object old)
    · rw [List.mem_singleton.mp new]
      exact Nat.lt_succ_self _

theorem AtLevel.lawful {state : VbState V} (atLevel : AtLevel start level state) :
    ∃ alive, Lawful start alive state.world :=
  let ⟨alive, _, lawful, _⟩ := atLevel
  ⟨alive, lawful⟩

/-- The locals that do not designate objects may change, and exchanges that are no acts be made. -/
theorem AtLevel.silent (atLevel : AtLevel start level ⟨locals, world⟩)
    (bocage : locals'.marpaBocagep = locals.marpaBocagep)
    (order : locals'.marpaOrderp = locals.marpaOrderp)
    (tree : locals'.marpaTreep = locals.marpaTreep)
    (value : locals'.marpaValuep = locals.marpaValuep)
    (grown : Grown (fun event => event.act = none) world world') :
    AtLevel start level ⟨locals', world'⟩ := by
  obtain ⟨alive, length, lawful, designate⟩ := atLevel
  refine ⟨alive, length, lawful.silent grown, ?_⟩
  unfold VbLocals.Designate
  rw [bocage, order, tree, value]
  exact designate

theorem AtLevel.failed (atLevel : AtLevel start level ⟨locals, world⟩) :
    ∃ level, AtLevel start level ⟨{ locals with rcb := false }, world⟩ :=
  ⟨level, atLevel.silent rfl rfl rfl rfl (.refl _ _)⟩

/-- An object that is alive is used. -/
theorem AtLevel.use (atLevel : AtLevel start level ⟨locals, world⟩) {used : Nat}
    (acts : event.act = some (.use used)) (below : used < level) :
    AtLevel start level ⟨locals, { world with events := world.events ++ [event] }⟩ := by
  obtain ⟨alive, rfl, lawful, designate⟩ := atLevel
  exact ⟨alive, rfl, lawful.act acts (by rw [step, if_pos below]) rfl, designate⟩

/-- An exchange that is no act. -/
theorem AtLevel.ignore (atLevel : AtLevel start level ⟨locals, world⟩) (noAct : event.act = none) :
    AtLevel start level ⟨locals, { world with events := world.events ++ [event] }⟩ :=
  atLevel.silent rfl rfl rfl rfl
    ((Grown.refl _ world).event noAct (Nat.le_refl _))

/-! ### The parts of the body -/

theorem fail_lawful : Triple (AtLevel start level) (fail : Vb V α) (fun _ => AtLevel start level)
    (LeavesLawful start) :=
  fun _ atLevel => AtLevel.failed atLevel

theorem failIf_lawful (condition : Bool) : StaysAtLevel start level (failIf condition) :=
  .ite (fun _ => fail_lawful) fun _ => .pure fun _ atLevel => atLevel

theorem assign_lawful {change : VbLocals V → VbLocals V}
    (bocage : ∀ locals, (change locals).marpaBocagep = locals.marpaBocagep)
    (order : ∀ locals, (change locals).marpaOrderp = locals.marpaOrderp)
    (tree : ∀ locals, (change locals).marpaTreep = locals.marpaTreep)
    (value : ∀ locals, (change locals).marpaValuep = locals.marpaValuep) :
    StaysAtLevel start level (assign change) :=
  fun _ atLevel => AtLevel.silent atLevel (bocage _) (order _) (tree _) (value _) (.refl _ _)

/-- A computation on the world whose exchanges are no acts. -/
theorem onWorld_silent {program : Exec V α}
    (keeps : ∀ start, Keeps (Grown (fun event => event.act = none) start) program) :
    StaysAtLevel start level (onWorld program) := by
  rintro ⟨locals, world⟩ atLevel
  have grown := keeps world world (.refl _ world)
  unfold onWorld
  cases run : program world with
  | ok value world' =>
    rw [run] at grown
    exact AtLevel.silent atLevel rfl rfl rfl rfl grown
  | error fault world' =>
    rw [run] at grown
    obtain ⟨alive, lawful⟩ := AtLevel.lawful atLevel
    exact ⟨alive, Lawful.silent lawful grown⟩

theorem Event.act_ofStack {event : Event V} (ofStack : event.ofStack = true) :
    event.act = none := by
  cases event <;> first | rfl | cases ofStack

theorem silent_ofStack {program : Exec V α} (keeps : ∀ start, Keeps (Grown OfStack start) program)
    (start : World V) : Keeps (Grown (fun event => event.act = none) start) program :=
  Grown.widen keeps fun _ ofStack => Event.act_ofStack ofStack

/-- The functions of the stack act on no object of libmarpa. -/
theorem onStack_lawful {program : GenericStack V → Exec V (α × GenericStack V)} (zero : α)
    (keeps : ∀ stack start, Keeps (Grown OfStack start) (program stack)) :
    StaysAtLevel start level (onStack program zero) := by
  refine readLocals_triple fun locals => ?_
  cases locals.genericStackp with
  | none => exact .pure fun _ holds => holds.1
  | some stack =>
    refine .through (fun _ => AtLevel start level) (fun state holds =>
      onWorld_silent (silent_ofStack (keeps stack)) state holds.1) fun result =>
      .bind (assign_lawful (fun _ => rfl) (fun _ => rfl) (fun _ => rfl) fun _ => rfl) fun _ =>
        .pure fun _ atLevel => atLevel

/-- A call that uses an object that is alive. -/
theorem ask_use {answer : List (Event V) → α} {event : α → Event V} {used : Nat}
    (acts : ∀ value, (event value).act = some (.use used)) (below : used < level) :
    StaysAtLevel start level (onWorld (ask answer event)) :=
  fun _ atLevel => AtLevel.use atLevel (acts _) below

/-- A call uses an object that is alive, and its failure leaves the objects as they are. -/
theorem askOrFail_use (wanted : Bool) (answer : List (Event V) → Int) {event : Int → Event V}
    (failed : Int → Bool) {used : Nat} (acts : ∀ value, (event value).act = some (.use used))
    (below : used < level) :
    StaysAtLevel start level (askOrFail wanted answer event failed) :=
  .ite (fun _ => .bind (ask_use acts below) fun _ => failIf_lawful _) fun _ =>
    .pure fun _ atLevel => atLevel

/-- An object is created on those that are alive, and a local is made to designate it. -/
theorem acquire_create {granted : List (Event V) → Bool} {event : Option Nat → Event V}
    {designate : Nat → VbLocals V → VbLocals V}
    (acts : ∀ handle, (event (some handle)).act = some (.create level handle))
    (refused : ∀ state : VbState V, AtLevel start level state → AtLevel start level
      ⟨state.locals, { state.world with events := state.world.events ++ [event none] }⟩)
    (designates : ∀ (locals : VbLocals V) (alive : List Nat) (handle : Nat),
      alive.length = level → locals.Designate alive →
      (designate handle locals).Designate (handle :: alive)) :
    Triple (AtLevel start level)
      (acquireOrFail granted event >>= fun handle => assign (designate handle))
      (fun _ => AtLevel start (level + 1)) (LeavesLawful start) := by
  refine .through (fun handle state => ∃ alive, alive.length = level ∧
    Lawful start (handle :: alive) state.world ∧ state.locals.Designate alive) ?_ fun handle => ?_
  · rintro ⟨locals, world⟩ atLevel
    cases grant : granted world.events with
    | false =>
      rw [acquireOrFail, run_bind_ok (onWorld_run (run_acquire_refused grant))]
      exact AtLevel.failed (refused _ atLevel)
    | true =>
      rw [acquireOrFail, run_bind_ok (onWorld_run (run_acquire_granted grant))]
      obtain ⟨alive, rfl, lawful, designate⟩ := atLevel
      exact ⟨alive, rfl, lawful.create (acts _), designate⟩
  · rintro state ⟨alive, length, lawful, designate⟩
    exact ⟨handle :: alive, by rw [List.length_cons, length], lawful,
      designates _ _ _ length designate⟩

/-- The same, followed by the rest of the body. -/
theorem acquire_create_then {granted : List (Event V) → Bool} {event : Option Nat → Event V}
    {designate : Nat → VbLocals V → VbLocals V} {rest : Vb V α} {after : α → VbState V → Prop}
    (created : Triple (AtLevel start level)
      (acquireOrFail granted event >>= fun handle => assign (designate handle))
      (fun _ => AtLevel start (level + 1)) (LeavesLawful start))
    (tail : Triple (AtLevel start (level + 1)) rest after (LeavesLawful start)) :
    Triple (AtLevel start level)
      (acquireOrFail granted event >>= fun handle => assign (designate handle) >>= fun _ => rest)
      after (LeavesLawful start) := by
  rw [← bind_assoc]
  exact created.bind fun _ => tail

theorem produceOrFail_lawful (callback : List (Event V) → Bool × Option V)
    {event : Bool → Option (Element V) → Event V}
    (silent : ∀ answer output, (event answer output).act = none) :
    StaysAtLevel start level (produceOrFail callback event) :=
  .bind (onWorld_silent fun _ => invoke_keeps silent) fun _ =>
    .bind (assign_lawful (fun _ => rfl) (fun _ => rfl) (fun _ => rfl) fun _ => rfl) fun _ =>
      failIf_lawful _

/-! ### The body -/

section Body

variable {libc : Libc V} {fuel : Nat} {phase : ValuePhase V} {wrapper : Wrapper}
  {valueOption : MarpaWrapperValueOption V} {stackOption : MarpaWrapperStackOption V}

/-! The locals with one object more, level by level. -/

theorem VbLocals.Designate.bocage (designate : locals.Designate alive) (length : alive.length = 0)
    (handle : Nat) : ({ locals with marpaBocagep := some handle } : VbLocals V).Designate
      (handle :: alive) := by
  obtain rfl := List.eq_nil_of_length_eq_zero length
  simp only [VbLocals.Designate, List.reverse_nil, List.map_nil, List.nil_append, List.length_nil,
    Nat.sub_zero, List.replicate, List.cons.injEq, and_true] at designate
  obtain ⟨_, order, tree, value⟩ := designate
  show [some handle, locals.marpaOrderp, locals.marpaTreep, locals.marpaValuep] = _
  rw [order, tree, value]
  rfl

theorem VbLocals.Designate.order (designate : locals.Designate alive) (length : alive.length = 1)
    (handle : Nat) : ({ locals with marpaOrderp := some handle } : VbLocals V).Designate
      (handle :: alive) := by
  obtain ⟨bocage, rfl⟩ := List.length_eq_one_iff.mp length
  have slots : [locals.marpaBocagep, locals.marpaOrderp, locals.marpaTreep, locals.marpaValuep] =
      [some bocage, none, none, none] := designate
  simp only [List.cons.injEq, and_true] at slots
  obtain ⟨bocage', _, tree, value⟩ := slots
  show [locals.marpaBocagep, some handle, locals.marpaTreep, locals.marpaValuep] = _
  rw [bocage', tree, value]
  rfl

theorem VbLocals.Designate.tree (designate : locals.Designate alive) (length : alive.length = 2)
    (handle : Nat) : ({ locals with marpaTreep := some handle } : VbLocals V).Designate
      (handle :: alive) := by
  obtain ⟨order, bocage, rfl⟩ := List.length_eq_two.mp length
  have slots : [locals.marpaBocagep, locals.marpaOrderp, locals.marpaTreep, locals.marpaValuep] =
      [some bocage, some order, none, none] := designate
  simp only [List.cons.injEq, and_true] at slots
  obtain ⟨bocage', order', _, value⟩ := slots
  show [locals.marpaBocagep, locals.marpaOrderp, some handle, locals.marpaValuep] = _
  rw [bocage', order', value]
  rfl

/-- At the last level but one, an object more is the valuator, and the other way round. -/
theorem VbLocals.Designate.value (designate : locals.Designate alive) (length : alive.length = 3)
    (handle : Nat) : ({ locals with marpaValuep := some handle } : VbLocals V).Designate
      (handle :: alive) := by
  obtain ⟨tree, order, bocage, rfl⟩ := List.length_eq_three.mp length
  have slots : [locals.marpaBocagep, locals.marpaOrderp, locals.marpaTreep, locals.marpaValuep] =
      [some bocage, some order, some tree, none] := designate
  simp only [List.cons.injEq, and_true] at slots
  obtain ⟨bocage', order', tree', _⟩ := slots
  show [locals.marpaBocagep, locals.marpaOrderp, locals.marpaTreep, some handle] = _
  rw [bocage', order', tree']
  rfl

theorem VbLocals.Designate.closeValue (designate : locals.Designate alive)
    (length : alive.length = 4) : ∃ handle rest, alive = handle :: rest ∧ rest.length = 3 ∧
      locals.marpaValuep = some handle ∧
      ({ locals with marpaValuep := none } : VbLocals V).Designate rest := by
  obtain ⟨handle, rest, rfl⟩ : ∃ handle rest, alive = handle :: rest := by
    cases alive with
    | nil => cases length
    | cons handle rest => exact ⟨handle, rest, rfl⟩
  have shorter : rest.length = 3 := by simpa using length
  obtain ⟨tree, order, bocage, rfl⟩ := List.length_eq_three.mp shorter
  have slots : [locals.marpaBocagep, locals.marpaOrderp, locals.marpaTreep, locals.marpaValuep] =
      [some bocage, some order, some tree, some handle] := designate
  simp only [List.cons.injEq, and_true] at slots
  obtain ⟨bocage', order', tree', value⟩ := slots
  refine ⟨handle, _, rfl, rfl, value, ?_⟩
  show [locals.marpaBocagep, locals.marpaOrderp, locals.marpaTreep, none] = _
  rw [bocage', order', tree']
  rfl

/-- Each object is created on the one before. -/
theorem openTree_lawful :
    Triple (AtLevel start 0) (openTree phase valueOption) (fun _ => AtLevel start 3)
      (LeavesLawful start) := by
  refine .bind (onWorld_silent fun _ => ask_keeps fun _ => rfl) fun _ => ?_
  refine acquire_create_then (acquire_create (fun _ => rfl) (fun _ atLevel => atLevel.ignore rfl)
    fun _ _ handle length designate => designate.bocage length handle) ?_
  refine acquire_create_then (acquire_create (fun _ => rfl)
    (fun _ atLevel => atLevel.use rfl (by decide))
    fun _ _ handle length designate => designate.order length handle) ?_
  exact .bind (askOrFail_use _ _ _ (fun _ => rfl) (by decide)) fun _ =>
    .bind (askOrFail_use _ _ _ (fun _ => rfl) (by decide)) fun _ =>
    .bind (askOrFail_use _ _ _ (fun _ => rfl) (by decide)) fun _ =>
    .bind (askOrFail_use _ _ _ (fun _ => rfl) (by decide)) fun _ =>
    acquire_create (fun _ => rfl) (fun _ atLevel => atLevel.use rfl (by decide))
      fun _ _ handle length designate => designate.tree length handle

theorem openValuator_lawful :
    Triple (AtLevel start 3) (openValuator libc fuel phase stackOption) (fun _ => AtLevel start 4)
      (LeavesLawful start) := by
  refine acquire_create_then (acquire_create (fun _ => rfl)
    (fun _ atLevel => atLevel.use rfl (by decide))
    fun _ _ handle length designate => designate.value length handle) ?_
  refine .bind (askOrFail_use _ _ _ (fun _ => rfl) (by decide)) fun _ =>
    .bind (onWorld_silent (silent_ofStack fun _ => genericStackNewp_keeps _ _)) fun created => ?_
  cases created with
  | none => exact fail_lawful
  | some stack => exact assign_lawful (fun _ => rfl) (fun _ => rfl) (fun _ => rfl) fun _ => rfl

theorem collectInputs_lawful (argFirsti argLasti : Int) :
    StaysAtLevel start level (collectInputs libc fuel argFirsti argLasti) :=
  collectInputs_triple (fun _ => onWorld_silent (silent_ofStack fun _ => malloc_keeps _))
    (fun _ _ atLevel => atLevel.failed)
    (fun _ => assign_lawful (fun _ => rfl) (fun _ => rfl) (fun _ => rfl) fun _ => rfl)
    (fun _ => onStack_lawful _ fun _ _ => genericStackGetp_keeps _)
    (fun _ _ _ => onWorld_silent (silent_ofStack fun _ => writeCell_keeps _ _ _))
    (fun _ atLevel => atLevel.lawful) _ _

theorem freeInputs_lawful : StaysAtLevel start level (freeInputs (V := V)) :=
  readLocals_triple fun _ => .through (fun _ => AtLevel start level)
    (fun state holds => onWorld_silent (silent_ofStack fun _ => freeIfNotNull_keeps _) state holds.1)
    fun _ => assign_lawful (fun _ => rfl) (fun _ => rfl) (fun _ => rfl) fun _ => rfl

theorem storeOutput_lawful (argResulti : Int) :
    StaysAtLevel start level (storeOutput libc fuel argResulti) :=
  readOutput_triple (fun _ _ atLevel => atLevel.ignore rfl) fun _ => .through (fun _ => AtLevel start level)
    (fun state holds => onStack_lawful 0 (fun _ _ => genericStackSeti_keeps _ _) state holds.1)
    fun _ => failIf_lawful _

/-- A step acts on no object of libmarpa. -/
theorem stepRules_lawful (step : MarpaStep) :
    StepRules libc fuel wrapper valueOption step (AtLevel start level) (AtLevel start level)
      (AtLevel start level) (LeavesLawful start) where
  collects _ := collectInputs_lawful _ _
  looksUp _ _ _ := onWorld_silent (silent_ofStack fun _ => readPointer_keeps _ _)
  skips _ atLevel := atLevel
  calls call := produceOrFail_lawful _ (by cases call <;> exact fun _ _ => rfl)
  frees := freeInputs_lawful
  stores _ := storeOutput_lawful _
  idles _ atLevel := atLevel

theorem releaseOutput_lawful : StaysAtLevel start level (releaseOutput stackOption) := by
  refine readOutput_triple (fun _ _ atLevel => atLevel.ignore rfl) fun locals => ?_
  cases locals.valueOutputp with
  | indeterminate => exact .pure fun _ holds => holds.1
  | null => exact .pure fun _ holds => holds.1
  | pointer output =>
    exact .through (fun _ => AtLevel start level) (fun state holds =>
      onWorld_silent (fun _ => callOutputFree_keeps _ _ fun _ => rfl) state holds.1) fun _ =>
      .bind (failIf_lawful _) fun _ =>
      .bind (onWorld_silent (silent_ofStack fun _ => emit_keeps rfl)) fun _ =>
        assign_lawful (fun _ => rfl) (fun _ => rfl) (fun _ => rfl) fun _ => rfl

theorem stepTurn_lawful :
    StaysAtLevel start 4 (stepTurn libc fuel phase wrapper valueOption stackOption ()) :=
  stepTurn_triple (fun _ _ atLevel => (atLevel.use rfl (by decide)).silent rfl rfl rfl rfl
    (.refl _ _)) (fun _ => stepRules_lawful _) releaseOutput_lawful

theorem reportResult_lawful :
    StaysAtLevel start level (reportResult libc fuel valueOption) :=
  reportResult_triple (fun _ => AtLevel start level)
    (onStack_lawful _ fun _ _ => genericStackGetp_keeps _)
    (fun _ _ => onWorld_silent fun _ => ask_keeps fun _ => rfl) (fun _ _ atLevel => atLevel.failed)
    (fun _ atLevel => ⟨level, atLevel⟩) fun _ atLevel => atLevel

/-- The valuator is released before the iterator is used again. -/
theorem closeValuator_lawful :
    Triple (AtLevel start 4) (closeValuator (V := V) fuel) (fun _ => AtLevel start 3)
      (LeavesLawful start) := by
  refine readLocals_triple fun locals => ?_
  refine .through (fun _ state => AtLevel start 4 state ∧
    state.locals.marpaValuep = locals.marpaValuep) ?_ fun _ => ?_
  · rintro ⟨locals', world⟩ ⟨atLevel, rfl⟩
    have kept := onWorld_silent (silent_ofStack fun _ =>
      destroyIfNotNull_keeps fuel locals'.genericStackp) _ atLevel
    unfold onWorld at kept ⊢
    cases run : destroyIfNotNull fuel locals'.genericStackp world with
    | ok value world' =>
      simp only [run] at kept ⊢
      exact ⟨kept, trivial⟩
    | error fault world' =>
      simp only [run] at kept ⊢
      exact kept
  · rintro ⟨locals', world⟩ ⟨atLevel, same⟩
    obtain ⟨alive, length, lawful, designate⟩ := atLevel
    obtain ⟨handle, rest, rfl, shorter, value, designate'⟩ := designate.closeValue length
    rw [← same, value]
    exact ⟨rest, shorter, lawful.act rfl (by rw [step, if_pos ⟨shorter, rfl⟩]) rfl, designate'⟩

/-- Between the trees the iterator is the innermost object. -/
theorem treeTurn_lawful :
    StaysAtLevel start 3 (treeTurn libc fuel phase wrapper valueOption stackOption ()) := by
  refine treeTurn_triple ?_ openValuator_lawful stepTurn_lawful (fun _ atLevel => atLevel.lawful)
    reportResult_lawful closeValuator_lawful
  rintro ⟨locals, world⟩ ⟨alive, length, lawful, designate⟩
  exact ⟨alive, length, lawful.act rfl (by rw [step, if_pos length]) rfl, designate⟩

theorem vbBody_lawful (marpaWrapperp : Option Wrapper)
    (marpaWrapperValueOptionp : Option (MarpaWrapperValueOption V))
    (marpaWrapperStackOptionp : Option (MarpaWrapperStackOption V)) :
    Triple (AtLevel start 0) (vbBody libc fuel phase marpaWrapperp marpaWrapperValueOptionp
      marpaWrapperStackOptionp) (fun _ => AtLevel start 3) (LeavesLawful start) :=
  vbBody_triple (fun _ _ atLevel => atLevel.failed) openTree_lawful
    (fun _ _ _ _ => treeTurn_lawful) fun _ atLevel => atLevel.lawful

/-! ### The end label -/

/-- What the locals designate is what is alive, the innermost object first, and each object that
is designated lies at its level. -/
theorem VbLocals.Designate.lists (designate : locals.Designate alive) :
    alive = locals.marpaValuep.toList ++ (locals.marpaTreep.toList ++
        (locals.marpaOrderp.toList ++ (locals.marpaBocagep.toList ++ []))) ∧
      (∀ handle ∈ locals.marpaValuep, (locals.marpaTreep.toList ++ (locals.marpaOrderp.toList ++
        (locals.marpaBocagep.toList ++ []))).length = 3) ∧
      (∀ handle ∈ locals.marpaTreep,
        (locals.marpaOrderp.toList ++ (locals.marpaBocagep.toList ++ [])).length = 2) ∧
      ∀ handle ∈ locals.marpaOrderp, (locals.marpaBocagep.toList ++ []).length = 1 := by
  have lengths := congrArg List.length designate
  simp only [List.length_append, List.length_map, List.length_reverse, List.length_replicate,
    List.length_cons, List.length_nil] at lengths
  unfold VbLocals.Designate at designate
  match alive, lengths with
  | [], _ | [bocage], _ | [order, bocage], _ | [tree, order, bocage], _
  | [value, tree, order, bocage], _ =>
    simp only [List.reverse_cons, List.reverse_nil, List.nil_append, List.cons_append,
      List.map_cons, List.map_nil, List.length_cons, List.length_nil, List.replicate,
      Nat.reduceSub, Nat.reduceAdd, List.cons.injEq, and_true] at designate
    obtain ⟨bocage, order, tree, value⟩ := designate
    rw [bocage, order, tree, value]
    refine ⟨rfl, ?_, ?_, ?_⟩ <;> rintro handle ⟨⟩ <;> rfl
  | _ :: _ :: _ :: _ :: _ :: _, lengths =>
    simp only [List.length_cons] at lengths
    omega

/-- Releasing the object of a level, when it is alive. -/
theorem unref_lawful {handle : Option Nat} {event : Nat → Event V} {rest : List Nat}
    (acts : ∀ handle, (event handle).act = some (.release level handle))
    (depth : ∀ object ∈ handle, rest.length = level) :
    Triple (Lawful start (handle.toList ++ rest)) (unrefIfNotNull event handle)
      (fun _ => Lawful start rest) fun _ world => ∃ alive, Lawful start alive world := by
  intro world lawful
  cases handle with
  | none => exact lawful
  | some handle => exact lawful.act (acts handle) (if_pos ⟨depth handle rfl, rfl⟩) rfl

/-- Exchanges of the end label that are no acts. -/
theorem Lawful.keeps {program : Exec V α}
    (keeps : ∀ start, Keeps (Grown (fun event => event.act = none) start) program) :
    Triple (Lawful start alive) program (fun _ => Lawful start alive)
      fun _ world => ∃ alive, Lawful start alive world := by
  intro world lawful
  have grown := keeps world world (.refl _ world)
  cases run : program world with
  | ok value world' =>
    rw [run] at grown
    exact lawful.silent grown
  | error fault world' =>
    rw [run] at grown
    exact ⟨alive, lawful.silent grown⟩

/-- The end label releases what is alive, the innermost object first. -/
theorem vbEndLabel_lawful (designate : locals.Designate alive) :
    Triple (Lawful start alive) (vbEndLabel fuel locals) (fun _ => Lawful start [])
      fun _ world => ∃ alive, Lawful start alive world := by
  obtain ⟨same, value, tree, order⟩ := designate.lists
  rw [same]
  exact .bind (Lawful.keeps fun _ => freeOutput_keeps (by rfl) (fun _ => rfl) _) fun _ =>
    .bind (Lawful.keeps (silent_ofStack fun _ => freeIfNotNull_keeps _)) fun _ =>
    .bind (Lawful.keeps (silent_ofStack fun _ => destroyIfNotNull_keeps _ _)) fun _ =>
    .bind (unref_lawful (fun _ => rfl) value) fun _ =>
    .bind (unref_lawful (fun _ => rfl) tree) fun _ =>
    .bind (unref_lawful (fun _ => rfl) order) fun _ =>
    .bind (unref_lawful (fun _ => rfl) fun _ _ => rfl) fun _ => .pure fun _ lawful => lawful

end Body

/-! ### The function -/

variable {libc : Libc V} {fuel : Nat} {phase : ValuePhase V} {marpaWrapperp : Option Wrapper}
  {valueOptionp : Option (MarpaWrapperValueOption V)}
  {stackOptionp : Option (MarpaWrapperStackOption V)}

theorem marpaWrapperVb_lawful (start : World V) :
    Triple (fun world => world = start)
      (marpaWrapperVb libc fuel phase marpaWrapperp valueOptionp stackOptionp)
      (fun _ => Lawful start []) fun _ world => ∃ alive, Lawful start alive world := by
  refine marpaWrapperVb_triple ((vbBody_lawful _ _ _).consequence (fun _ holds => holds)
    (fun _ _ atLevel => ⟨3, atLevel⟩) fun _ _ left => left) (fun world same => ?_)
    (fun _ left => left) (fun _ _ left => left) fun locals world holds => ?_
  · subst same
    exact ⟨[], rfl, .refl world, rfl⟩
  · obtain ⟨level, alive, length, lawful, designate⟩ := holds
    exact vbEndLabel_lawful designate world lawful

end Lawful

/-- In every run, whether it returns or not, each call on the objects of the value phase is allowed:
an object is created on those that are alive, a call uses an object that is alive, the next tree
is asked for when the iterator is the innermost object, and what is released is the innermost
object. A run that returns leaves nothing alive and has released each object once. -/
theorem marpaWrapperVb_obeys_protocol (libc : Libc V) (fuel : Nat) (phase : ValuePhase V)
    (marpaWrapperp : Option Wrapper)
    (marpaWrapperValueOptionp : Option (MarpaWrapperValueOption V))
    (marpaWrapperStackOptionp : Option (MarpaWrapperStackOption V)) (start : World V) :
    ∃ exchanges alive,
      (finalState (marpaWrapperVb libc fuel phase marpaWrapperp marpaWrapperValueOptionp
        marpaWrapperStackOptionp start)).events = start.events ++ exchanges ∧
      follow (actsIn exchanges) [] = some alive ∧
      ∀ result final, marpaWrapperVb libc fuel phase marpaWrapperp marpaWrapperValueOptionp
          marpaWrapperStackOptionp start = .ok result final →
        alive = [] ∧ ∀ object ∈ created (actsIn exchanges),
          (released (actsIn exchanges)).count object = 1 := by
  have lawful : Triple (fun world => world = start)
      (marpaWrapperVb libc fuel phase marpaWrapperp marpaWrapperValueOptionp
        marpaWrapperStackOptionp)
      (fun _ => Lawful start []) fun _ world => ∃ alive, Lawful start alive world :=
    marpaWrapperVb_lawful start
  have outcome := lawful start rfl
  cases run : marpaWrapperVb libc fuel phase marpaWrapperp marpaWrapperValueOptionp
    marpaWrapperStackOptionp start with
  | ok result world =>
    rw [run] at outcome
    obtain ⟨exchanges, record, followed, distinct, _⟩ := outcome.record
    exact ⟨exchanges, [], record, followed, fun _ _ _ =>
      ⟨rfl, released_once followed distinct⟩⟩
  | error fault world =>
    rw [run] at outcome
    obtain ⟨alive, lawful⟩ := outcome
    obtain ⟨exchanges, record, followed, _⟩ := lawful.record
    exact ⟨exchanges, alive, record, followed, fun _ _ returns => nomatch returns⟩

end MarpaWrapper
