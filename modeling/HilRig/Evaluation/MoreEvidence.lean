import HilRig.Evaluation.Verdicts

/-!
# More evidence

A capture may end early, and another run of the same test may store more. Samples that grow keep
what they said: a demand that was violated or proved stays so (`Demand.Grows`). So a capture that
holds everything an earlier one held, in whatever order it arrived, repeats each of its settled
verdicts, and its report does not take back a failure (`verdicts_of_more`).
-/

set_option autoImplicit false
set_option relaxedAutoImplicit false

namespace HilRig.Evaluation

open HilRig.Models HilRig.Results HilRig.Foundations Relation

/-! ### Samples that grow -/

/-- Every sample that was there is there, and the same. -/
def Extends {Value : Type} (first second : ℕ → Option Value) : Prop :=
  ∀ tick value, first tick = some value → second tick = some value

/-- The same demand on samples that grew. -/
inductive Demand.Grows : Demand → Demand → Prop
  | throughout {first second : ℕ → Option Bool} {fromTick untilTick : ℕ}
      (hextends : Extends first second) :
      Grows (.throughout first fromTick untilTick) (.throughout second fromTick untilTick)
  | change {first second : ℕ → Option Bool} {fromState toState : Bool} {fromTick untilTick : ℕ}
      (hextends : Extends first second) :
      Grows (.change first fromState toState fromTick untilTick)
        (.change second fromState toState fromTick untilTick)

section Growth

variable {Value Other : Type} {first second : ℕ → Option Value}

theorem Extends.map (hextends : Extends first second) (change : Value → Other) :
    Extends (fun tick ↦ (first tick).map change) fun tick ↦ (second tick).map change := by
  intro tick value hvalue
  obtain ⟨sample, hsample, rfl⟩ := Option.map_eq_some_iff.1 hvalue
  exact Option.map_eq_some_iff.2 ⟨sample, hextends tick sample hsample, rfl⟩

/-- Where there was a sample, the samples agree. -/
theorem Extends.eq_of_ne_none (hextends : Extends first second) {tick : ℕ}
    (hpresent : first tick ≠ none) : second tick = first tick := by
  obtain ⟨value, hvalue⟩ := Option.ne_none_iff_exists'.1 hpresent
  rw [hvalue, hextends tick value hvalue]

variable {demand later : Demand}

theorem Demand.Grows.violated (hgrows : demand.Grows later) (hviolated : demand.Violated) :
    later.Violated := by
  cases hgrows with
  | throughout hextends =>
    obtain ⟨tick, hfrom, huntil, hrejected⟩ := hviolated
    exact ⟨tick, hfrom, huntil, hextends tick false hrejected⟩
  | change hextends =>
    obtain ⟨hpresent, hnochange⟩ := hviolated
    have hsame {tick : ℕ} := fun hfrom huntil ↦
      hextends.eq_of_ne_none (hpresent tick hfrom huntil)
    refine ⟨fun tick hfrom huntil ↦ ?_, ?_⟩
    · rw [hsame hfrom huntil]
      exact hpresent tick hfrom huntil
    · rintro ⟨tick, hfrom, huntil, hbefore, hafter⟩
      rw [hsame hfrom huntil.le] at hbefore
      rw [hsame (hfrom.trans (Nat.le_succ tick)) huntil] at hafter
      exact hnochange ⟨tick, hfrom, huntil, hbefore, hafter⟩

theorem Demand.Grows.proved (hgrows : demand.Grows later) (hproved : demand.Proved) :
    later.Proved := by
  cases hgrows with
  | throughout hextends =>
    exact fun tick hfrom huntil ↦ hextends tick true (hproved tick hfrom huntil)
  | change hextends =>
    obtain ⟨tick, hfrom, huntil, hbefore, hafter⟩ := hproved
    exact ⟨tick, hfrom, huntil, hextends tick _ hbefore, hextends (tick + 1) _ hafter⟩

/-- A settled verdict is the verdict on samples that grew. -/
theorem Demand.Grows.verdict_eq (hgrows : demand.Grows later) {verdict next : EvaluationVerdict}
    (hdecides : Decides verdict demand) (hnext : Decides next later)
    (hsettled : verdict ≠ .inconclusive) : next = verdict := by
  cases verdict with
  | pass => exact hnext.pass.2 (hgrows.proved (hdecides.pass.1 rfl))
  | fail => exact hnext.fail.2 (hgrows.violated (hdecides.fail.1 rfl))
  | inconclusive => exact absurd rfl hsettled

end Growth

/-! ### Results that grow -/

section Results

variable {first second : List TickResult}

/-- With distinct ticks, more results have more samples. -/
theorem extends_sampleAt {Value : Type} (value : TickResult → Option Value)
    (hmore : first ⊆ second) (hnodup : (second.map TickResult.tick).Nodup) :
    Extends (sampleAt value first) (sampleAt value second) := by
  intro tick sample hsample
  obtain ⟨result, hfound, hvalue⟩ := Option.bind_eq_some_iff.1 hsample
  have htick := List.find?_some hfound
  have hresult := hmore (List.mem_of_find?_eq_some hfound)
  have hlater : second.find? (fun other ↦ other.tick = tick) = some result := by
    refine find?_of_unique hresult htick fun other hother hsame ↦ ?_
    exact List.inj_on_of_nodup_map hnodup hother hresult
      ((of_decide_eq_true hsame).trans (of_decide_eq_true htick).symm)
  rw [sampleAt, hlater, Option.bind_some, hvalue]

theorem extends_acceptedAt {Value : Type} (value : TickResult → Option Value)
    (accepts : Value → Bool) (hmore : first ⊆ second)
    (hnodup : (second.map TickResult.tick).Nodup) :
    Extends (acceptedAt value first accepts) (acceptedAt value second accepts) :=
  (extends_sampleAt value hmore hnodup).map accepts

/-- With more results, an assertion demands the same of more samples. -/
theorem grows_demandOf (hmore : first ⊆ second) (hnodup : (second.map TickResult.tick).Nodup)
    (channel : ℕ) (expectation : Expectation) :
    (demandOf first channel expectation).Grows (demandOf second channel expectation) := by
  cases expectation with
  | digitalTransition fromTick untilTick fromState toState =>
    exact .change (extends_sampleAt _ hmore hnodup)
  | _ => exact .throughout (extends_acceptedAt _ _ hmore hnodup)

end Results

/-! ### Captures that hold more -/

section Captures

variable {test after : Api.Test} {plan : CompiledTestIR}

/-- Two results of the same assertion, of which the second is from a capture that holds more. -/
def Persists (old new : AssertionResult) : Prop :=
  old.verdict ≠ .inconclusive → new.verdict = old.verdict

/-- What a builder added before a capture was finalized is stored in it, and so more records give
more results. -/
theorem ticksOf_subset {first second : List Record} (hmore : first ⊆ second) :
    ticksOf first ⊆ ticksOf second := by
  intro result hresult
  obtain ⟨record, hrecord, hvalue⟩ := List.mem_filterMap.1 hresult
  exact List.mem_filterMap.2 ⟨record, hmore hrecord, hvalue⟩

section Verdicts

variable {olds news : List AssertionResult} (hpersists : List.Forall₂ Persists olds news)

include hpersists

/-- A failure stays one. -/
theorem fail_mem_of_persists (hfail : .fail ∈ olds.map AssertionResult.verdict) :
    .fail ∈ news.map AssertionResult.verdict := by
  obtain ⟨old, hold, hfailed⟩ := List.mem_map.1 hfail
  obtain ⟨new, hnew, hpersist⟩ := exists_related hpersists hold
  have hsame := hpersist (by rw [hfailed]; decide)
  exact List.mem_map.2 ⟨new, hnew, hsame.trans hfailed⟩

/-- Where everything passed, everything passes. -/
theorem all_pass_of_persists
    (hall : ∀ verdict ∈ olds.map AssertionResult.verdict, verdict = .pass) :
    ∀ verdict ∈ news.map AssertionResult.verdict, verdict = .pass := by
  rw [List.forall_mem_map] at hall ⊢
  intro new hnew
  obtain ⟨old, hold, hpersist⟩ :=
    @exists_related _ _ (flip Persists) _ _ (List.Forall₂.flip hpersists) _ hnew
  have hpassed := hall old hold
  exact (hpersist (by rw [hpassed]; decide)).trans hpassed

end Verdicts

/-- For every compiled test and any two finalized captures of it, if all records of the first were
added to the second before it was finalized, in whatever order: evaluating the second returns a
report exactly when evaluating the first does. Then every assertion that passed or failed in the
first has the same verdict in the second; when the first report fails, so does the second; and when
the first passes, the second passes unless its status or its errors forbid it. -/
theorem verdicts_of_more (hreachable : test.Reachable)
    (hcompiled : Api.compile test = .ok plan after) (first second : BuiltCapture plan)
    (hmore : recordsAdded first.older ⊆ recordsAdded second.earlier) :
    ((∃ report, evaluateAssertions first.run = .ok report) ↔
      ∃ report, evaluateAssertions second.run = .ok report) ∧
    ∀ firstReport secondReport, evaluateAssertions first.run = .ok firstReport →
      evaluateAssertions second.run = .ok secondReport →
      List.Forall₂ Persists firstReport.assertionResults secondReport.assertionResults ∧
      (firstReport.verdict = .fail → secondReport.verdict = .fail) ∧
      (firstReport.verdict = .pass → (secondReport.verdict = .pass ↔
        second.database.status = .complete ∧
          (second.run.applicationErrors.countP fun error ↦ !error.recoverable) = 0)) := by
  have hplan := Api.plan_of_compile hreachable hcompiled
  obtain ⟨records, -, holder, hholds, hfinalized, -⟩ := first.exists_stored
  obtain ⟨later, hearlier, -, hlaterHolds, hlaterFinalized, -⟩ := second.exists_stored
  have hevaluable := exists_report_iff hreachable hcompiled hholds hfinalized
  refine ⟨hevaluable.trans
    (exists_report_iff hreachable hcompiled hlaterHolds hlaterFinalized).symm,
    fun firstReport secondReport hfirst hsecond ↦ ?_⟩
  obtain ⟨hresults, hverdict⟩ := results_of_report hplan hfinalized hfirst
  obtain ⟨hlaterResults, hlaterVerdict⟩ := results_of_report hplan hlaterFinalized hsecond
  have hticks : ticksOf records ⊆ ticksOf later :=
    ticksOf_subset fun record hrecord ↦ hearlier.subset (hmore (holder.subset hrecord))
  have hnodup := (stores_run hlaterHolds hlaterFinalized).nodup
  have hpersists : List.Forall₂ Persists firstReport.assertionResults
      secondReport.assertionResults := by
    refine forall₂_of_common hresults hlaterResults
      fun assertion hassertion old new hold hnew hsettled ↦ ?_
    have hassertionEvaluable := hevaluable.1 ⟨firstReport, hfirst⟩ assertion hassertion
    obtain ⟨_, heq, hdecides, -⟩ :=
      settles_run hreachable hcompiled hholds hfinalized hassertion hassertionEvaluable
    obtain ⟨_, hlaterEq, hnext, -⟩ :=
      settles_run hreachable hcompiled hlaterHolds hlaterFinalized hassertion hassertionEvaluable
    cases hold.symm.trans heq
    cases hnew.symm.trans hlaterEq
    exact (grows_demandOf hticks hnodup _ _).verdict_eq hdecides hnext hsettled
  refine ⟨hpersists, fun hfail ↦ ?_, fun hpass ↦ ?_⟩
  · rw [hverdict, overallVerdict_eq_fail_iff] at hfail
    rw [hlaterVerdict, overallVerdict_eq_fail_iff]
    exact fail_mem_of_persists hpersists hfail
  · rw [hverdict, overallVerdict_eq_pass_iff] at hpass
    obtain ⟨hnonempty, -, -, hall⟩ := hpass
    have hlaterAll := all_pass_of_persists hpersists hall
    have hlaterNonempty : secondReport.assertionResults.map AssertionResult.verdict ≠ [] := by
      rw [← List.length_pos_iff, List.length_map] at hnonempty ⊢
      rwa [← hpersists.length_eq]
    rw [hlaterVerdict, overallVerdict_eq_pass_iff]
    exact ⟨fun ⟨_, hstatus, herrors, _⟩ ↦ ⟨hstatus, herrors⟩,
      fun ⟨hstatus, herrors⟩ ↦ ⟨hlaterNonempty, hstatus, herrors, hlaterAll⟩⟩

/-- The door was closed at its first tick, so its test fails, whatever is added before that tick. -/
theorem verdicts_of_more_doorTest : ∃ (first second : BuiltCapture doorTest.plan)
    (firstReport secondReport : EvaluationReport),
    recordsAdded first.older = [.tick (levelResult 0 false)] ∧
      recordsAdded second.earlier = [.tick (levelResult 1 true), .tick (levelResult 0 false)] ∧
      evaluateAssertions first.run = .ok firstReport ∧ firstReport.verdict = .fail ∧
      evaluateAssertions second.run = .ok secondReport ∧ secondReport.verdict = .fail ∧
      List.Forall₂ Persists firstReport.assertionResults secondReport.assertionResults := by
  obtain ⟨after, hcompiled⟩ := compile_doorTest
  obtain ⟨first, -, hfirstEarlier, holder⟩ :=
    @exists_doorCapture [levelResult 0 false] (by decide +kernel)
  obtain ⟨second, -, hearlier, -⟩ :=
    @exists_doorCapture [levelResult 1 true, levelResult 0 false] (by decide +kernel)
  have hmore : recordsAdded first.older ⊆ recordsAdded second.earlier := by
    rw [holder, hearlier]
    decide
  obtain ⟨hexists, hverdicts⟩ :=
    verdicts_of_more reachable_doorTest hcompiled first second hmore
  obtain ⟨records, hadded, hstored, hholds, hfinalized, -⟩ := first.exists_stored
  obtain ⟨firstReport, hfirst⟩ :=
    (exists_report_iff reachable_doorTest hcompiled hholds hfinalized).2 (by decide +kernel)
  obtain ⟨secondReport, hsecond⟩ := hexists.1 ⟨firstReport, hfirst⟩
  obtain ⟨hpersists, hfail, -⟩ := hverdicts firstReport secondReport hfirst hsecond
  have hfailed : firstReport.verdict = .fail := by
    rw [hfirstEarlier] at hadded
    rw [holder] at hstored
    obtain rfl : records = [.tick (levelResult 0 false)] :=
      hstored.eq_of_length_le hadded.length_le
    exact (verdict_run reachable_doorTest hcompiled hholds hfinalized hfirst).1.2
      ⟨⟨0, ⟨.digitalInput, 0, Nat.succ_pos 9⟩, .digitalPoint 0 .high⟩, by decide +kernel, 0, le_rfl,
        le_rfl, by decide⟩
  exact ⟨first, second, firstReport, secondReport, holder, hearlier, hfirst, hfailed, hsecond,
    hfail hfailed, hpersists⟩

end Captures

end HilRig.Evaluation
