/-
This file proves that the terminals of a position share one value, when they are
to. Whether the value callback was called already is told by the value at hand,
which is zero at first; so a value of zero from the callback would look like no
value. It never does any harm: libmarpa rejects it on a grammar whose symbols
are all valued, as every wrapper's are, and a rejection ends the loop.
-/

import MarpaWrapper.Iterations

namespace MarpaWrapper

open Effects Segments Sorting

variable {V : Type}

/-! ### Reading an iteration -/

/-- The answers of the value callback. -/
def fetchedIn (exchanges : List (Event V)) : List (Option (Int × Int)) :=
  exchanges.filterMap fun
    | .lexemeValue _ answer => some answer
    | _ => none

/-- The values and lengths that alternatives were passed with. -/
def pushedIn (exchanges : List (Event V)) : List (Int × Int) :=
  exchanges.filterMap fun
    | .alternative _ value length _ => some (value, length)
    | _ => none

/-- Some terminal matched, so that there is one to be pushed. -/
def MatchedIn (exchanges : List (Event V)) : Prop :=
  ∃ datavp length, 0 < length ∧ Event.isLexeme datavp (some length) ∈ exchanges

/-- libmarpa rejects the value 0 once all symbols are valued. -/
def Libmarpa.RejectsZero (marpa : Libmarpa V) : Prop :=
  ∀ events symbolId length, (∃ answer, 0 ≤ answer ∧ Event.grammar .forceValued answer ∈ events) →
    marpa.alternative events symbolId 0 length ≠ marpaErrNone

theorem fetchedIn_append (exchanges more : List (Event V)) :
    fetchedIn (exchanges ++ more) = fetchedIn exchanges ++ fetchedIn more :=
  List.filterMap_append

theorem pushedIn_append (exchanges more : List (Event V)) :
    pushedIn (exchanges ++ more) = pushedIn exchanges ++ pushedIn more :=
  List.filterMap_append

/-- Only the pushes fetch values. -/
theorem fetchedIn_other {exchanges : List (Event V)}
    (kind : ∀ event ∈ exchanges, event.ofPushes = false) : fetchedIn exchanges = [] := by
  refine List.filterMap_eq_nil_iff.mpr fun event member => ?_
  have other := kind event member
  cases event <;> first | rfl | cases other

theorem pushedIn_other {exchanges : List (Event V)}
    (kind : ∀ event ∈ exchanges, event.ofPushes = false) : pushedIn exchanges = [] := by
  refine List.filterMap_eq_nil_iff.mpr fun event member => ?_
  have other := kind event member
  cases event <;> first | rfl | cases other

/-! ### The pushes -/

section Pushes

variable {marpa : Libmarpa V} {callbacks : RecognizerCallbacks V} {maxLengthl : Nat}
  {checks : List Check} {value : Int × Int} {events exchanges : List (Event V)} {through : Bool}

theorem reuses_of_ne
    (shares : callbacks.longestAcceptableTokensShareTheSameValueAndLengthb = true)
    (there : value.1 ≠ 0) : reuses callbacks value = true := by
  rw [reuses, shares, Bool.true_and]
  exact bne_iff_ne.mpr there

theorem reuses_zero (length : Int) : reuses callbacks (0, length) = false :=
  Bool.and_false _

/-- With a value at hand, the callback is not called again. -/
theorem Pushes.shared (pushes : Pushes marpa callbacks maxLengthl checks value events exchanges through)
    (shares : callbacks.longestAcceptableTokensShareTheSameValueAndLengthb = true)
    (there : value.1 ≠ 0) :
    fetchedIn exchanges = [] ∧ ∀ pair ∈ pushedIn exchanges, pair = value := by
  have again := reuses_of_ne shares there
  induction pushes with
  | nil => exact ⟨rfl, fun _ member => nomatch member⟩
  | unselected _ _ inductionHypothesis => exact inductionHypothesis there again
  | refused _ first _ => exact absurd again (first ▸ Bool.false_ne_true)
  | rejected _ obtained _ _ =>
    cases obtained with
    | fetched first _ => exact absurd again (first ▸ Bool.false_ne_true)
    | atHand _ => exact ⟨rfl, List.forall_mem_singleton.mpr rfl⟩
  | accepted _ obtained _ _ inductionHypothesis =>
    cases obtained with
    | fetched first _ => exact absurd again (first ▸ Bool.false_ne_true)
    | atHand _ =>
      obtain ⟨fetched, pushed⟩ := inductionHypothesis there again
      exact ⟨fetched, List.forall_mem_cons.mpr ⟨rfl, pushed⟩⟩

/-- Without a value at hand, it is called for the first selected terminal. -/
theorem Pushes.first (pushes : Pushes marpa callbacks maxLengthl checks value events exchanges through)
    (shares : callbacks.longestAcceptableTokensShareTheSameValueAndLengthb = true)
    (rejects : marpa.RejectsZero)
    (forced : ∃ answer, 0 ≤ answer ∧ Event.grammar .forceValued answer ∈ events)
    (none : value = (0, 0)) :
    (fetchedIn exchanges).length =
        (if ∃ check ∈ checks, selected callbacks check.length maxLengthl = true then 1 else 0) ∧
      ∀ pair ∈ pushedIn exchanges, fetchedIn exchanges = [some pair] := by
  have here {check : Check} {checks : List Check}
      (chosen : selected callbacks check.length maxLengthl = true) :
      (if ∃ other ∈ check :: checks, selected callbacks other.length maxLengthl = true then 1
        else 0) = 1 := if_pos ⟨check, List.mem_cons_self, chosen⟩
  induction pushes with
  | nil => exact ⟨(if_neg fun ⟨_, member, _⟩ => nomatch member).symm, fun _ member => nomatch member⟩
  | unselected shorter _ inductionHypothesis =>
    obtain ⟨count, pushed⟩ := inductionHypothesis forced none
    refine ⟨count.trans (if_congr ?_ rfl rfl), pushed⟩
    simp [shorter]
  | refused chosen _ _ => exact ⟨(here chosen).symm, fun _ member => nomatch member⟩
  | rejected chosen obtained _ _ =>
    cases obtained with
    | atHand again => rw [none, reuses_zero] at again; cases again
    | fetched _ _ => exact ⟨(here chosen).symm, List.forall_mem_singleton.mpr rfl⟩
  | @accepted check checks value fresh events fetch exchanges through chosen obtained answer rest _ =>
    cases obtained with
    | atHand again => rw [none, reuses_zero] at again; cases again
    | fetched _ _ =>
      have there : fresh.1 ≠ 0 := by
        intro zero
        obtain ⟨code, success, member⟩ := forced
        rw [zero] at answer
        exact rejects _ _ _ ⟨code, success, List.mem_append_left _ member⟩ answer
      obtain ⟨fetched, pushed⟩ := rest.shared shares there
      rw [fetchedIn_append, pushedIn_append, fetched, List.append_nil]
      exact ⟨(here chosen).symm, List.forall_mem_append.mpr
        ⟨List.forall_mem_singleton.mpr rfl, fun pair member => by rw [pushed pair member]; rfl⟩⟩

end Pushes

/-! ### The iterations -/

section Iterations

variable {marpa : Libmarpa V} {callbacks : RecognizerCallbacks V} {wrapper : Wrapper}
  {checks : List Check} {ids : List Int} {before events exchanges segment : List (Event V)}
  {through : Bool}

/-- The shortest of the longest terminals is selected, as the maximum is one of their lengths. -/
theorem selected_longest (matched : 0 < longest checks) :
    ∃ check ∈ checks, selected callbacks check.length (longest checks) = true := by
  obtain ⟨check, member, length⟩ := exists_length_eq_longest matched
  refine ⟨check, member, ?_⟩
  rw [selected, length]
  cases callbacks.longestAcceptableTokenMatchb with
  | false => exact decide_eq_true matched
  | true => exact beq_self_eq_true _

theorem Pushed.shares (pushed : Pushed marpa callbacks checks events exchanges through)
    (shares : callbacks.longestAcceptableTokensShareTheSameValueAndLengthb = true)
    (rejects : marpa.RejectsZero)
    (forced : ∃ answer, 0 ≤ answer ∧ Event.grammar .forceValued answer ∈ events) :
    (fetchedIn exchanges).length = (if 0 < longest checks then 1 else 0) ∧
      ∀ pair ∈ pushedIn exchanges, fetchedIn exchanges = [some pair] := by
  unfold Pushed at pushed
  by_cases matched : 0 < longest checks
  · rw [if_pos matched] at pushed ⊢
    obtain ⟨count, pairs⟩ := pushed.first shares rejects forced rfl
    exact ⟨by rw [count, if_pos (selected_longest matched)], pairs⟩
  · rw [if_neg matched] at pushed ⊢
    rw [pushed.1]
    exact ⟨rfl, fun _ member => nomatch member⟩

/-- Some terminal matched when the maximum is positive. -/
theorem matchedIn_checkExchanges :
    MatchedIn (checkExchanges (V := V) checks) ↔ 0 < longest checks := by
  constructor
  · rintro ⟨datavp, length, positive, member⟩
    obtain ⟨check, checked, exchange⟩ := List.mem_filterMap.mp member
    obtain ⟨answer, answered, same⟩ := Option.map_eq_some_iff.mp exchange
    injection same with _ sameLength
    have : check.length = length := by
      rw [Check.length, answered, sameLength]
      rfl
    exact Nat.lt_of_lt_of_le positive (this ▸ length_le_longest checked)
  · intro positive
    obtain ⟨check, checked, length⟩ := exists_length_eq_longest positive
    rw [← length, Check.length] at positive
    cases answered : check.answer with
    | none => rw [answered] at positive; cases positive
    | some answer =>
      cases answer with
      | none => rw [answered] at positive; cases positive
      | some found =>
        rw [answered] at positive
        refine ⟨check.symbol.marpaWrapperSymbolOption.datavp, found, positive,
          List.mem_filterMap.mpr ⟨check, checked, ?_⟩⟩
        rw [Check.exchange?, answered]
        rfl

theorem not_matchedIn {exchanges : List (Event V)}
    (kind : ∀ event ∈ exchanges, ∀ datavp length, event ≠ .isLexeme datavp length) :
    ¬ MatchedIn exchanges :=
  fun ⟨datavp, length, _, member⟩ => kind _ member datavp (some length) rfl

/-- What an iteration exchanges besides its lexemes. -/
def Lexemeless (event : Event V) : Prop :=
  event.ofPushes = false ∧ ∀ datavp length, event ≠ .isLexeme datavp length

theorem lexemeless_of_before {event : Event V} (kind : event.beforeLexemes = true) :
    Lexemeless event := by
  refine ⟨?_, fun datavp length same => ?_⟩
  · cases event <;> first | rfl | exact absurd kind Bool.false_ne_true
  · rw [same] at kind
    exact absurd kind Bool.false_ne_true

theorem lexemeless_of_complete {event : Event V} (kind : event.ofComplete = true) :
    Lexemeless event := by
  refine ⟨?_, fun datavp length same => ?_⟩
  · cases event <;> first | rfl | exact absurd kind Bool.false_ne_true
  · rw [same] at kind
    exact absurd kind Bool.false_ne_true

/-- What a part of an iteration adds that has no lexemes. -/
theorem lexemeless_part {exchanges : List (Event V)}
    (kind : ∀ event ∈ exchanges, Lexemeless event) :
    fetchedIn exchanges = [] ∧ pushedIn exchanges = [] ∧ ¬ MatchedIn exchanges :=
  ⟨fetchedIn_other fun event member => (kind event member).1,
    pushedIn_other fun event member => (kind event member).1,
    not_matchedIn fun event member => (kind event member).2⟩

theorem matchedIn_append {exchanges more : List (Event V)} :
    MatchedIn (exchanges ++ more) ↔ MatchedIn exchanges ∨ MatchedIn more := by
  simp only [MatchedIn, List.mem_append, and_or_left, exists_or]

theorem checkExchanges_pushless (checks : List Check) :
    fetchedIn (checkExchanges (V := V) checks) = [] ∧
      pushedIn (checkExchanges (V := V) checks) = [] := by
  have kind : ∀ event ∈ checkExchanges (V := V) checks, event.ofPushes = false := by
    intro event member
    obtain ⟨datavp, length, rfl⟩ := checkExchanges_kind checks event member
    rfl
  exact ⟨fetchedIn_other kind, pushedIn_other kind⟩

theorem Pushed.matchless (pushed : Pushed marpa callbacks checks events exchanges through) :
    ¬ MatchedIn exchanges := by
  rintro ⟨datavp, length, _, member⟩
  exact absurd (pushed.kind _ member) Bool.false_ne_true

/-- A value is fetched once when a terminal is to be pushed, and never otherwise; every alternative
carries it. -/
theorem IterationRecord.shares (record : IterationRecord marpa callbacks wrapper before segment)
    (shares : callbacks.longestAcceptableTokensShareTheSameValueAndLengthb = true)
    (rejects : marpa.RejectsZero)
    (forced : ∃ answer, 0 ≤ answer ∧ Event.grammar .forceValued answer ∈ before) :
    (MatchedIn segment → (fetchedIn segment).length = 1) ∧
      (¬ MatchedIn segment → fetchedIn segment = []) ∧
      ∀ pair ∈ pushedIn segment, fetchedIn segment = [some pair] := by
  cases record with
  | stopped kind =>
    obtain ⟨unfetched, unpushed, unmatched⟩ := lexemeless_part fun event member =>
      lexemeless_of_before (kind event member)
    exact ⟨fun matched => absurd matched unmatched, fun _ => unfetched,
      by rw [unpushed]; exact fun _ member => nomatch member⟩
  | @read ids opening pushes closing checks through kind asked lexemes closed broken =>
    obtain ⟨fetched1, pushed1, matched1⟩ := lexemeless_part fun event member =>
      lexemeless_of_before (kind event member)
    obtain ⟨fetched2, pushed2, matched2⟩ := lexemeless_part (List.forall_mem_singleton.mpr
      (show Lexemeless (Event.terminalsExpected (V := V) (some ids)) from lexemeless_of_before rfl))
    obtain ⟨fetched3, pushed3⟩ := checkExchanges_pushless (V := V) checks
    obtain ⟨fetched4, pushed4, matched4⟩ := lexemeless_part fun event member =>
      lexemeless_of_complete (closed event member)
    have matched : MatchedIn (opening ++ [.terminalsExpected (some ids)] ++ checkExchanges checks ++
        pushes ++ closing) ↔ 0 < longest checks := by
      rw [← matchedIn_checkExchanges (V := V)]
      simp only [matchedIn_append, matched1, matched2, matched4, lexemes.pushed.matchless, false_or,
        or_false]
    obtain ⟨answer, success, member⟩ := forced
    obtain ⟨count, pairs⟩ := lexemes.pushed.shares shares rejects
      ⟨answer, success, by simp only [List.mem_append, member, true_or]⟩
    simp only [fetchedIn_append, pushedIn_append, fetched1, fetched2, fetched3, fetched4, pushed1,
      pushed2, pushed3, pushed4, List.nil_append, List.append_nil, matched]
    refine ⟨fun positive => by rw [count, if_pos positive], fun zero => ?_, pairs⟩
    exact List.eq_nil_of_length_eq_zero (by rw [count, if_neg zero])

end Iterations

/-! ### Runs -/

/-- The checks of the options leave the flag as it is. -/
theorem MarpaWrapperRecognizerOption.callbacks_shares (option : MarpaWrapperRecognizerOption V)
    {tracing : Bool} {callbacks : RecognizerCallbacks V}
    (given : option.callbacks tracing = some callbacks) :
    callbacks.longestAcceptableTokensShareTheSameValueAndLengthb =
      option.longestAcceptableTokensShareTheSameValueAndLengthb := by
  unfold MarpaWrapperRecognizerOption.callbacks at given
  split at given
  · split at given
    · cases given
    · cases given
      rfl
  · cases given

/-- In every iteration of every run of `marpaWrapper_r_recognizeb` in which the terminals share a
value, the value callback is called at most once, every alternative carries what it returned then,
and it is called once exactly when a terminal matched, unless undefined behaviour ended the run
before. -/
theorem marpaWrapperRRecognizeb_shares_value {libc : Libc V} {fuel fuel' : Nat} {build : Build}
    {marpa : Libmarpa V} (conforms : Conforms libc.qsort) (reports : marpa.ReportsTerminals)
    (rejects : marpa.RejectsZero) {wrapperOption : Option MarpaWrapperOption}
    {calls : List (ApiCall V)} {answers : List ApiAnswer} {wrapper : Wrapper}
    {initial start : World V}
    (reached : session libc fuel build marpa wrapperOption calls initial =
      .ok (some (answers, wrapper)) start)
    {option : MarpaWrapperRecognizerOption V}
    (shares : option.longestAcceptableTokensShareTheSameValueAndLengthb = true)
    {earlier segment : List (Event V)} {opener : Event V}
    (iteration : Segment (fun event => event.isReader = true)
      (finalState (marpaWrapperRRecognizeb libc fuel' build marpa wrapper (some option)
        start)).events (start.events ++ earlier) opener segment) :
    (fetchedIn segment).length ≤ 1 ∧
      (∀ pair ∈ pushedIn segment, fetchedIn segment = [some pair]) ∧
      (¬ CutShort (marpaWrapperRRecognizeb libc fuel' build marpa wrapper (some option) start)
          (start.events ++ earlier ++ [opener]) segment →
        ((fetchedIn segment).length = 1 ↔ MatchedIn segment)) := by
  obtain ⟨answer, success, member⟩ := session_forces reached
  cases given : option.callbacks build.tracing with
  | none =>
    -- Without its callbacks the function makes no exchange.
    have unopened : Every (fun event => event.isReader = true) start.events
        (finalState (marpaWrapperRRecognizeb libc fuel' build marpa wrapper (some option)
          start)).events fun _ _ => False := by
      rw [marpaWrapperRRecognizeb, Option.bind_some, given]
      show Every _ start.events start.events _
      have none : Every (fun event : Event V => event.isReader = true) start.events
          (start.events ++ []) fun _ _ => False := .unopened fun _ member => nomatch member
      rwa [List.append_nil] at none
    exact (unopened _ _ _ iteration).elim
  | some callbacks =>
    have same : callbacks.longestAcceptableTokensShareTheSameValueAndLengthb = true :=
      (option.callbacks_shares given).trans shares
    rcases marpaWrapperRRecognizeb_iterates conforms reports given wrapper start _ _ _ iteration with
      record | cut
    · obtain ⟨once, never, pairs⟩ := record.shares same rejects ⟨answer, success, by
        simp only [List.mem_append, member, true_or]⟩
      refine ⟨?_, pairs, fun _ => ⟨fun count => ?_, once⟩⟩
      · by_cases matched : MatchedIn segment
        · exact Nat.le_of_eq (once matched)
        · rw [never matched]
          exact Nat.zero_le _
      · by_contra unmatched
        rw [never unmatched] at count
        cases count
    · have pushless : ∀ event ∈ segment, event.ofPushes = false := by
        intro event member
        have kind := cut.early event member
        cases event <;> first | rfl | exact absurd kind Bool.false_ne_true
      rw [fetchedIn_other pushless, pushedIn_other pushless]
      exact ⟨Nat.zero_le _, (fun _ member => nomatch member), fun whole => absurd cut whole⟩

/-! ### An instance -/

/-- A libmarpa that expects two terminals and rejects the value 0. -/
def sharingMarpa : Libmarpa Nat :=
  { Libmarpa.accepting with
    alternative := fun _ _ value _ => if value = 0 then 1 else marpaErrNone
    terminalsExpected := fun _ => some [0, 1] }

/-- One position, at which every terminal matches. -/
def sharingOption : MarpaWrapperRecognizerOption Nat where
  longestAcceptableTokensShareTheSameValueAndLengthb := true
  readerCallbackp := some fun events => (!events.any (·.isReader), true)
  isLexemebCallbackp := some fun _ _ => some 1
  lexemeValuebCallbackp := some fun _ _ => some (7, 1)

/-- The first iteration of a run after a session, by what it fetches and pushes. -/
def sharingObservation : Option (List (Option (Int × Int)) × List (Int × Int)) :=
  match session Libc.generous 2 {} sharingMarpa none
      [.addSymbolp none, .addSymbolp none, .precomputeb] {} with
  | .ok (some (_, wrapper)) start =>
    (first Event.isReader ((finalState (marpaWrapperRRecognizeb Libc.generous 2 {} sharingMarpa
      wrapper (some sharingOption) start)).events.drop start.events.length)).map fun parts =>
        (fetchedIn parts.2.2, pushedIn parts.2.2)
  | _ => none

/-- Two terminals of a position share one value. -/
theorem marpaWrapperRRecognizeb_shares_value_two : ∃ answers wrapper start earlier opener segment,
    session Libc.generous 2 {} sharingMarpa none [.addSymbolp none, .addSymbolp none, .precomputeb]
      {} = .ok (some (answers, wrapper)) start ∧
    Segment (fun event => event.isReader = true)
      (finalState (marpaWrapperRRecognizeb Libc.generous 2 {} sharingMarpa wrapper
        (some sharingOption) start)).events (start.events ++ earlier) opener segment ∧
    pushedIn segment = [(7, 1), (7, 1)] ∧ (fetchedIn segment).length ≤ 1 ∧
    ∀ pair ∈ pushedIn segment, fetchedIn segment = [some pair] := by
  have observed : sharingObservation = some ([some (7, 1)], [(7, 1), (7, 1)]) := by decide +kernel
  have reports : sharingMarpa.ReportsTerminals := by
    rintro events ids answer
    cases answer
    exact ⟨by decide, by decide⟩
  have rejects : sharingMarpa.RejectsZero := fun _ _ _ _ same => nomatch same
  unfold sharingObservation at observed
  cases reached : session Libc.generous 2 {} sharingMarpa none
      [.addSymbolp none, .addSymbolp none, .precomputeb] {} with
  | error fault start => rw [reached] at observed; cases observed
  | ok result start =>
    rw [reached] at observed
    cases result with
    | none => cases observed
    | some result =>
      obtain ⟨answers, wrapper⟩ := result
      obtain ⟨⟨earlier, opener, segment⟩, found, parts⟩ := Option.map_eq_some_iff.mp observed
      injection parts with _ pushed
      have prolonged : Prolonged start (finalState (marpaWrapperRRecognizeb Libc.generous 2 {}
          sharingMarpa wrapper (some sharingOption) start)) :=
        Keeps.finalState (marpaWrapperRRecognizeb_prolongs _) List.prefix_rfl
      have iteration := first_segment found start.events
      rw [List.prefix_iff_eq_append.mp prolonged] at iteration
      obtain ⟨once, pairs, -⟩ := marpaWrapperRRecognizeb_shares_value inserting_conforms reports
        rejects reached rfl iteration
      exact ⟨answers, wrapper, start, earlier, opener, segment, rfl, iteration, pushed, once, pairs⟩

end MarpaWrapper
