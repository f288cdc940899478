/-
This file says which fields of the wrapper a function of the read phase writes
to. The rest is as it was, whatever libmarpa and the allocator answered and
however the function ended.
-/

import MarpaWrapper.ExpectedTerminals

namespace MarpaWrapper

open Effects

variable {V : Type}

/-! ### Frames -/

/-- Only the fields of the progress report may differ. -/
def OnlyProgress (wrapper wrapper' : Wrapper) : Prop :=
  ∃ size count table, wrapper' = { wrapper with
    sizeMarpaWrapperProgressi := size
    nMarpaWrapperProgressi := count
    marpaWrapperProgresspp := table }

/-- Only the arrays of the expected terminals may differ. -/
def OnlyExpected (wrapper wrapper' : Wrapper) : Prop :=
  ∃ ids pointers, wrapper' = { wrapper with
    expectedMarpaSymbolIdArrayp := ids
    expectedMarpaWrapperSymbolArraypp := pointers }

/-- Only the recognizer and its arrays may differ. -/
def OnlyRecognizer (wrapper wrapper' : Wrapper) : Prop :=
  ∃ handle ids pointers, wrapper' = { wrapper with
    marpaRecognizerp := handle
    expectedMarpaSymbolIdArrayp := ids
    expectedMarpaWrapperSymbolArraypp := pointers }

/-- Only the table of the symbols may differ. -/
def OnlySymbols (wrapper wrapper' : Wrapper) : Prop :=
  ∃ table size count, wrapper' = { wrapper with
    marpaWrapperSymbolpp := table
    sizeMarpaWrapperSymboli := size
    nMarpaWrapperSymboli := count }

/-- Only the table of the rules may differ. -/
def OnlyRules (wrapper wrapper' : Wrapper) : Prop :=
  ∃ table size count, wrapper' = { wrapper with
    marpaWrapperRulepp := table
    sizeMarpaWrapperRulei := size
    nMarpaWrapperRulei := count }

theorem OnlyProgress.refl (wrapper : Wrapper) : OnlyProgress wrapper wrapper := ⟨_, _, _, rfl⟩

theorem OnlyProgress.trans {wrapper between wrapper' : Wrapper}
    (first : OnlyProgress wrapper between) (second : OnlyProgress between wrapper') :
    OnlyProgress wrapper wrapper' := by
  obtain ⟨_, _, _, rfl⟩ := first
  obtain ⟨_, _, _, rfl⟩ := second
  exact ⟨_, _, _, rfl⟩

theorem OnlyExpected.refl (wrapper : Wrapper) : OnlyExpected wrapper wrapper := ⟨_, _, rfl⟩

/-! ### The functions -/

section Functions

variable {libc : Libc V} {fuel : Nat} {build : Build} {marpa : Libmarpa V}
  {wrapper wrapper' : Wrapper} {world world' : World V}

/-- A symbol that is added, or refused, changes the table of symbols only. -/
theorem marpaWrapperGAddSymbolp_frame {option : Option MarpaWrapperSymbolOption}
    {pointer : Option Nat}
    (run : marpaWrapperGAddSymbolp libc fuel build marpa wrapper option world =
      .ok (pointer, wrapper') world') : OnlySymbols wrapper wrapper' := by
  obtain ⟨id, created, _, rest⟩ := run_bind_eq_ok run
  by_cases refused : id = -2
  · rw [if_pos refused] at rest
    cases rest
    exact ⟨_, _, _, rfl⟩
  · rw [if_neg refused] at rest
    obtain ⟨room, provided, _, rest⟩ := run_bind_eq_ok rest
    cases room with
    | error left => cases rest; exact ⟨_, _, _, rfl⟩
    | ok room =>
      obtain ⟨address, granted, _, rest⟩ := run_bind_eq_ok rest
      cases address with
      | none => cases rest; exact ⟨_, _, _, rfl⟩
      | some address =>
        obtain ⟨garbage, read, _, rest⟩ := run_bind_eq_ok rest
        obtain ⟨table, wrote, _, rest⟩ := run_bind_eq_ok rest
        obtain ⟨applied, options, _, rest⟩ := run_bind_eq_ok rest
        cases rest
        exact ⟨_, _, _, rfl⟩

/-- The same for a rule and the table of rules. -/
theorem marpaWrapperGAddRulep_frame {option : Option MarpaWrapperRuleOption}
    {pointer : Option Nat}
    (run : marpaWrapperGAddRulep libc fuel build marpa wrapper option world =
      .ok (pointer, wrapper') world') : OnlyRules wrapper wrapper' := by
  unfold marpaWrapperGAddRulep at run
  cases option with
  | none => cases run; exact ⟨_, _, _, rfl⟩
  | some option =>
    simp only at run
    cases lhs : option.lhsSymbolp with
    | none => rw [lhs] at run; cases run; exact ⟨_, _, _, rfl⟩
    | some lhsSymbolp =>
      rw [lhs] at run
      simp only at run
      by_cases acceptable : option.isAcceptable
      · rw [if_pos acceptable] at run
        obtain ⟨collected, collects, _, run⟩ := run_bind_eq_ok run
        cases collected with
        | none => cases run; exact ⟨_, _, _, rfl⟩
        | some collected =>
          obtain ⟨id, created, _, run⟩ := run_bind_eq_ok run
          obtain ⟨_, freed, _, run⟩ := run_bind_eq_ok run
          by_cases refused : id = -2
          · rw [if_pos refused] at run
            cases run
            exact ⟨_, _, _, rfl⟩
          · rw [if_neg refused] at run
            obtain ⟨room, provided, _, rest⟩ := run_bind_eq_ok run
            cases room with
            | error left => cases rest; exact ⟨_, _, _, rfl⟩
            | ok room =>
              obtain ⟨address, granted, _, rest⟩ := run_bind_eq_ok rest
              cases address with
              | none => cases rest; exact ⟨_, _, _, rfl⟩
              | some address =>
                obtain ⟨table, wrote, _, rest⟩ := run_bind_eq_ok rest
                obtain ⟨applied, options, _, rest⟩ := run_bind_eq_ok rest
                cases rest
                exact ⟨_, _, _, rfl⟩
      · rw [if_neg acceptable] at run
        cases run
        exact ⟨_, _, _, rfl⟩

/-- The wrapper after a turn of the progress report. -/
def turnWrapper : Turn Wrapper ProgressExit → Wrapper
  | .next wrapper => wrapper
  | .done (.broken wrapper) => wrapper
  | .done (.returned wrapper) => wrapper

/-- An item grows the table and is counted; no other field is written. -/
theorem storeProgress_frame {set ruleId position origin : Int}
    {outcome : Turn Wrapper ProgressExit}
    (run : storeProgress libc fuel build wrapper set ruleId position origin world =
      .ok outcome world') : OnlyProgress wrapper (turnWrapper outcome) := by
  obtain ⟨room, between, made, rest⟩ := run_bind_eq_ok run
  cases room with
  | error left => cases rest; exact ⟨_, _, _, rfl⟩
  | ok room =>
    obtain ⟨address, after, granted, rest⟩ := run_bind_eq_ok rest
    cases address with
    | none => cases rest; exact ⟨_, _, _, rfl⟩
    | some address =>
      obtain ⟨rule, read, _, rest⟩ := run_bind_eq_ok rest
      obtain ⟨table, wrote, _, rest⟩ := run_bind_eq_ok rest
      cases rest
      exact ⟨_, _, _, rfl⟩

theorem itemTurn_frame {set : Int} {index : Nat} {outcome : Turn Wrapper ProgressExit}
    (run : itemTurn libc fuel build marpa set index wrapper world = .ok outcome world') :
    OnlyProgress wrapper (turnWrapper outcome) := by
  obtain ⟨⟨ruleId, position, origin⟩, between, asked, rest⟩ := run_bind_eq_ok run
  by_cases missing : ruleId = -2 ∨ ruleId = -1
  · simp only [if_pos missing] at rest
    cases rest
    exact .refl _
  · simp only [if_neg missing] at rest
    exact storeProgress_frame rest

/-- What every turn of a loop keeps is kept by the loop, however it is left. -/
theorem turns_keep {α : Type} {body : α → Wrapper → Exec V (Turn Wrapper ProgressExit)}
    (holds : Wrapper → World V → Prop)
    (turn : ∀ item wrapper world outcome world', holds wrapper world →
      body item wrapper world = .ok outcome world' → holds (turnWrapper outcome) world')
    {items : List α} {outcome : Turn Wrapper ProgressExit} (before : holds wrapper world)
    (run : forEach body items wrapper world = .ok outcome world') :
    holds (turnWrapper outcome) world' := by
  have turns : AfterTurn holds (fun exit => holds (turnWrapper (.done exit))) outcome world' :=
    forEach_return (fun _ => holds)
      (fun item rest after state outcome next ready run => by
        have more := turn item after state outcome next ready run
        cases outcome <;> exact more) before run
  cases outcome <;> exact turns

/-- A loop over turns that writes to these fields writes to these fields. -/
theorem turns_frame {α : Type} {body : α → Wrapper → Exec V (Turn Wrapper ProgressExit)}
    (turn : ∀ item wrapper world outcome world', body item wrapper world = .ok outcome world' →
      OnlyProgress wrapper (turnWrapper outcome)) {items : List α}
    {outcome : Turn Wrapper ProgressExit}
    (run : forEach body items wrapper world = .ok outcome world') :
    OnlyProgress wrapper (turnWrapper outcome) :=
  turns_keep (fun after _ => OnlyProgress wrapper after) (fun item after state outcome next frame run =>
      frame.trans (turn item after state outcome next run)) (.refl _) run

theorem setTurn_frame {starti : Int} {offset : Nat} {outcome : Turn Wrapper ProgressExit}
    (run : setTurn libc fuel build marpa starti offset wrapper world = .ok outcome world') :
    OnlyProgress wrapper (turnWrapper outcome) := by
  obtain ⟨earleme, between, asked, rest⟩ := run_bind_eq_ok run
  by_cases failed : earleme = -2
  · simp only [if_pos failed] at rest
    cases rest
    exact .refl _
  · simp only [if_neg failed] at rest
    obtain ⟨items, after, started, rest⟩ := run_bind_eq_ok rest
    by_cases negative : items < 0
    · simp only [if_pos negative] at rest
      cases rest
      exact .refl _
    · simp only [if_neg negative] at rest
      exact turns_frame (fun _ _ _ _ _ => itemTurn_frame) rest

/-- Sorting permutes the cells of the table. -/
theorem sortProgress_frame (run : sortProgress libc wrapper world = .ok wrapper' world') :
    OnlyProgress wrapper wrapper' := by
  unfold sortProgress at run
  cases there : wrapper.marpaWrapperProgresspp with
  | none =>
    rw [there] at run
    cases run
    exact .refl _
  | some table =>
    rw [there] at run
    by_cases several : wrapper.nMarpaWrapperProgressi > 1
    · simp only [if_pos several] at run
      obtain ⟨outcome, between, walked, rest⟩ := run_bind_eq_ok run
      cases outcome with
      | done result => exact result.elim
      | next items => cases rest; exact ⟨_, _, _, rfl⟩
    · simp only [if_neg several] at run
      cases run
      exact .refl _

theorem finishProgress_frame {rcb : Bool} {count : Option Nat}
    (run : finishProgress libc marpa rcb wrapper world = .ok (count, wrapper') world') :
    OnlyProgress wrapper wrapper' := by
  obtain ⟨finished, between, asked, rest⟩ := run_bind_eq_ok run
  by_cases succeeds : rcb ∧ ¬ finished < 0
  · rw [if_pos succeeds] at rest
    obtain ⟨sorted, after, walked, rest⟩ := run_bind_eq_ok rest
    cases rest
    exact sortProgress_frame walked
  · rw [if_neg succeeds] at rest
    cases rest
    exact .refl _

/-- A report replaces the items of the report before. -/
theorem marpaWrapperRProgressb_frame {starti endi : Int} {count : Option Nat}
    (run : marpaWrapperRProgressb libc fuel build marpa wrapper starti endi world =
      .ok (count, wrapper') world') : OnlyProgress wrapper wrapper' := by
  unfold marpaWrapperRProgressb at run
  by_cases missing : wrapper.marpaRecognizerp.isNone
  · rw [if_pos missing] at run
    cases run
    exact .refl _
  · rw [if_neg missing] at run
    obtain ⟨_, released, _, run⟩ := run_bind_eq_ok run
    obtain ⟨latest, asked, _, run⟩ := run_bind_eq_ok run
    by_cases outside : rangeArgument starti latest < 0 ∨ latest < rangeArgument starti latest ∨
        rangeArgument endi latest < 0 ∨ latest < rangeArgument endi latest ∨
        rangeArgument endi latest < rangeArgument starti latest
    · simp only [if_pos outside] at run
      cases run
      exact ⟨_, _, _, rfl⟩
    · simp only [if_neg outside] at run
      obtain ⟨outcome, after, turns, run⟩ := run_bind_eq_ok run
      have cleared : OnlyProgress wrapper { wrapper with
        marpaWrapperProgresspp := none
        sizeMarpaWrapperProgressi := 0
        nMarpaWrapperProgressi := 0 } := ⟨_, _, _, rfl⟩
      have frame := cleared.trans (turns_frame (fun _ _ _ _ _ => setTurn_frame) turns)
      cases outcome with
      | next between => exact frame.trans (finishProgress_frame run)
      | done exit =>
        cases exit with
        | broken between => exact frame.trans (finishProgress_frame run)
        | returned between => cases run; exact frame

theorem showProgress_frame
    (run : showProgress libc fuel build marpa wrapper world = .ok wrapper' world') :
    OnlyProgress wrapper wrapper' := by
  unfold showProgress at run
  by_cases tracing : build.tracing
  · rw [if_pos tracing] at run
    obtain ⟨⟨progress, between⟩, after, reported, rest⟩ := run_bind_eq_ok run
    obtain ⟨_, _, _, rest⟩ := run_bind_eq_ok rest
    cases rest
    exact marpaWrapperRProgressb_frame reported
  · rw [if_neg tracing] at run
    cases run
    exact .refl _

theorem fillExpected_frame {count : Option Nat}
    (run : fillExpected marpa wrapper world = .ok (count, wrapper') world') :
    OnlyExpected wrapper wrapper' := by
  unfold fillExpected at run
  cases ids : wrapper.expectedMarpaSymbolIdArrayp with
  | none => rw [ids] at run; cases run
  | some array =>
    cases pointers : wrapper.expectedMarpaWrapperSymbolArraypp with
    | none => rw [ids, pointers] at run; cases run
    | some block =>
      rw [ids, pointers] at run
      obtain ⟨⟨nSymbolIdi, array'⟩, between, asked, rest⟩ := run_bind_eq_ok run
      by_cases failed : nSymbolIdi = -2
      · simp only [if_pos failed] at rest
        cases rest
        exact ⟨_, _, rfl⟩
      · simp only [if_neg failed] at rest
        obtain ⟨outcome, after, looked, rest⟩ := run_bind_eq_ok rest
        cases outcome with
        | done result => exact result.elim
        | next cells => cases rest; exact ⟨_, _, rfl⟩

/-- The order of the terminals is an order of one of the two cached arrays. -/
theorem orderTerminals_frame {callbacks : RecognizerCallbacks V} {count : Nat}
    (run : orderTerminals libc callbacks wrapper count world = .ok wrapper' world') :
    OnlyExpected wrapper wrapper' := by
  unfold orderTerminals at run
  by_cases sorts : callbacks.longestAcceptableTokenMatchb ∧ count > 1
  · rw [if_pos sorts] at run
    obtain ⟨outcome, between, walked, rest⟩ := run_bind_eq_ok run
    obtain ⟨rfl, terminals, rfl, -, -⟩ := keyLoop_return walked
    cases rest
    exact ⟨_, _, rfl⟩
  · rw [if_neg sorts] at run
    cases run
    exact .refl _

theorem marpaWrapperRTerminalsExpectedb_frame {count : Option Nat}
    (run : marpaWrapperRTerminalsExpectedb libc marpa wrapper world =
      .ok (count, wrapper') world') : OnlyExpected wrapper wrapper' := by
  unfold marpaWrapperRTerminalsExpectedb at run
  by_cases missing : wrapper.marpaRecognizerp.isNone
  · rw [if_pos missing] at run
    cases run
    exact .refl _
  · rw [if_neg missing] at run
    obtain ⟨⟨allocated, between⟩, state, prepared, rest⟩ := run_bind_eq_ok run
    obtain ⟨ids, pointers, rfl⟩ := allocateExpected_return prepared
    cases allocated with
    | false => cases rest; exact ⟨_, _, rfl⟩
    | true =>
      obtain ⟨_, _, rfl⟩ := fillExpected_frame rest
      exact ⟨_, _, rfl⟩

theorem startRecognizer_frame {started : Bool}
    (run : startRecognizer marpa wrapper world = .ok (started, wrapper') world') :
    OnlyRecognizer wrapper wrapper' := by
  obtain ⟨released, between, freed, rest⟩ := run_bind_eq_ok run
  have frame : OnlyRecognizer wrapper released := by
    unfold releaseRecognizer at freed
    cases handle : wrapper.marpaRecognizerp with
    | none => rw [handle] at freed; cases freed; exact ⟨_, _, _, rfl⟩
    | some handle' =>
      rw [handle] at freed
      obtain ⟨_, _, _, freed⟩ := run_bind_eq_ok freed
      obtain ⟨_, _, _, freed⟩ := run_bind_eq_ok freed
      obtain ⟨_, _, _, freed⟩ := run_bind_eq_ok freed
      cases freed
      exact ⟨_, _, _, rfl⟩
  obtain ⟨_, _, _, rfl⟩ := frame
  obtain ⟨handle, after, created, rest⟩ := run_bind_eq_ok rest
  cases handle with
  | none => cases rest; exact ⟨_, _, _, rfl⟩
  | some handle =>
    obtain ⟨_, _, _, rest⟩ := run_bind_eq_ok rest
    cases rest
    exact ⟨_, _, _, rfl⟩

/-- A start replaces the recognizer, and drops the arrays of the one before. -/
theorem marpaWrapperRStartb_frame {started : Bool}
    (run : marpaWrapperRStartb libc marpa wrapper world = .ok (started, wrapper') world') :
    OnlyRecognizer wrapper wrapper' := by
  obtain ⟨⟨begun, between⟩, state, prepared, rest⟩ := run_bind_eq_ok run
  have frame := startRecognizer_frame prepared
  cases begun with
  | false => cases rest; exact frame
  | true =>
    obtain ⟨_, _, _, rest⟩ := run_bind_eq_ok rest
    cases rest
    exact frame

end Functions

end MarpaWrapper
