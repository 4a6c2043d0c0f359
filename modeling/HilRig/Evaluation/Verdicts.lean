import HilRig.Api.Compilation
import HilRig.Evaluation.RangeReports
import HilRig.Results.Finalization

/-!
# Verdicts of captures that a builder finalized

A `BuiltCapture` is the capture of a compiled test from its creation up to the return of its
finalization, in any run of its builder. Evaluating it never raises (`evaluateAssertions_built`),
and its verdict is what the stored samples say about the demands of the test's assertions
(`verdict_built`).
-/

set_option autoImplicit false
set_option relaxedAutoImplicit false

namespace HilRig.Evaluation

open HilRig.Models HilRig.Results HilRig.Foundations Relation

/-! ### Finalized captures -/

/-- A capture created for a compiled test, and a run of its builder in which a finalization
returned. -/
structure BuiltCapture (plan : CompiledTestIR) where
  uploadAttempt : Option UploadAttempt
  draws : List (Fin (2 ^ 128))
  runId : Fin (2 ^ 128)
  applicationProtocolVersion : Option String
  firmwareVersion : Option String
  file : CaptureFile
  created : CaptureFile.fromCompiledTest plan uploadAttempt draws runId applicationProtocolVersion
    firmwareVersion = .ok file
  settings : BuilderSettings
  expected : settings.expectedTickCount = plan.expectedTickCount
  faults : ℕ → Option HilRigError
  state : BuilderState
  steps : ReflTransGen (BuilderStep settings faults) (.initial settings) state
  request : ControlRequest
  requested : Option CaptureStatus
  database : CaptureDatabase
  older : List BuilderEvent
  earlier : List BuilderEvent
  completed : .completed request database :: older <:+ state.trace.history
  action : request.action = .finalize requested
  invoked : .invoked request :: earlier <:+ older

namespace BuiltCapture

variable {plan : CompiledTestIR} (capture : BuiltCapture plan)

/-- The capture file that the finalization left. -/
def captured : CaptureFile :=
  { capture.file with database := capture.database }

theorem assertionSets_captured : capture.captured.assertionSets =
    [⟨originalAssertionSetId, "Original compiled assertions", plan.schemaVersion⟩] :=
  (fromCompiledTest_eq_ok capture.created).2.1

/-- The run that the finalization opens. -/
def run : CapturedRunIR where
  file := capture.captured
  original := by
    rw [assertionSets_captured]
    rfl

theorem ofFile_captured : CapturedRunIR.ofFile capture.captured = .ok capture.run :=
  dif_pos capture.run.original

/-- The records that the capture holds. -/
theorem exists_stored : ∃ stored, recordsAdded capture.earlier <+: stored ∧
    stored <+: recordsAdded capture.older ∧ capture.database.Holds stored ∧
      capture.database.Finalized capture.settings capture.requested ∧
        ∀ record ∈ stored, record.InRun capture.settings :=
  finalized_run capture.steps capture.completed capture.action capture.invoked

end BuiltCapture

/-! ### The overall verdict -/

theorem overallVerdict_eq_fail_iff {verdicts : List EvaluationVerdict}
    {captureStatus : CaptureStatus} {nonRecoverableErrorCount : ℕ} :
    overallVerdict verdicts captureStatus nonRecoverableErrorCount = .fail ↔
      .fail ∈ verdicts := by
  unfold overallVerdict
  split_ifs with hfail hinconclusive
  · simp [hfail]
  · simp [hfail]
  · simp [hfail]

theorem overallVerdict_eq_pass_iff {verdicts : List EvaluationVerdict}
    {captureStatus : CaptureStatus} {nonRecoverableErrorCount : ℕ} :
    overallVerdict verdicts captureStatus nonRecoverableErrorCount = .pass ↔
      verdicts ≠ [] ∧ captureStatus = .complete ∧ nonRecoverableErrorCount = 0 ∧
        ∀ verdict ∈ verdicts, verdict = .pass := by
  have hall : (∀ verdict ∈ verdicts, verdict = .pass) ↔
      .fail ∉ verdicts ∧ .inconclusive ∉ verdicts := by
    constructor
    · intro hpass
      exact ⟨fun hfail ↦ absurd (hpass _ hfail) (by decide),
        fun hinconclusive ↦ absurd (hpass _ hinconclusive) (by decide)⟩
    · rintro ⟨hfail, hinconclusive⟩ verdict hverdict
      cases verdict with
      | pass => rfl
      | fail => exact absurd hverdict hfail
      | inconclusive => exact absurd hverdict hinconclusive
  rw [hall]
  unfold overallVerdict
  split_ifs with hfail hinconclusive
  · simp [hfail]
  · simp only [false_iff]
    tauto
  · simp only [true_iff]
    tauto

/-! ### Reports of finalized captures -/

/-- An assertion can be evaluated: none of its integers was passed as a member of an enumeration,
which is stored as a name, and each of its voltages can be shown as a float. -/
def Evaluable (expectation : Expectation) : Prop :=
  expectation.isPlain = true ∧ ∀ microvolts ∈ expectation.voltages, ShownVolts microvolts

instance : DecidablePred Evaluable := fun _ ↦ inferInstanceAs (Decidable (_ ∧ _))

section Reports

variable {test after : Api.Test} {plan : CompiledTestIR} {capture : BuiltCapture plan}
  {records : List Record}

theorem stores_run (hholds : capture.database.Holds records)
    (hfinalized : capture.database.Finalized capture.settings capture.requested) :
    Stores capture.run (ticksOf records) := by
  refine ⟨hholds.ticks, ?_, fits_of_rows hfinalized.consistent hholds.ticks⟩
  have hnodup := hfinalized.consistent.nodup
  rw [CaptureDatabase.ticks, hholds.ticks, List.map_map] at hnodup
  exact hnodup

/-- The original assertion set of a capture is that of its test. -/
theorem assertionSet_run (hplan : plan = test.plan) :
    capture.run.assertionSet originalAssertionSetId = .ok ⟨originalAssertionSetId,
      "Original compiled assertions", plan.schemaVersion, test.assertions.map stored⟩ := by
  have hassertions : readAssertions capture.captured.assertionDefinitions originalAssertionSetId =
      .ok (test.assertions.map stored) := by
    have hcompiled : plan.assertions = test.assertions.map compiledAssertion := by
      rw [hplan]
      rfl
    have hread := readAssertions_storeAssertions (fromCompiledTest_eq_ok capture.created).1
    rw [hcompiled, List.map_map] at hread
    exact hread
  have hset : capture.run.file.assertionSets = _ := capture.assertionSets_captured
  unfold CapturedRunIR.assertionSet
  rw [if_neg (by decide), hset]
  show (readAssertions capture.captured.assertionDefinitions originalAssertionSetId >>= _) = _
  rw [hassertions]
  rfl

/-- Every tick of an assertion is an expected one, and there are less than a million of these. -/
theorem ticks_lt_of_compile (hreachable : test.Reachable)
    (hcompiled : Api.compile test = .ok plan after) {assertion : Assertion}
    (hassertion : assertion ∈ test.assertions) :
    assertion.expectation.ticks.2 < plan.expectedTickCount ∧ plan.expectedTickCount < 1000000 := by
  have hlatest : assertion.expectation.ticks.2 ≤ test.latestTick :=
    Api.le_latestOf (List.mem_append_right _
      (List.mem_map_of_mem (f := fun assertion : Assertion ↦ assertion.expectation.ticks.2)
        hassertion))
  have hshort := (Api.compile_of_reachable test hreachable).1.1 ⟨plan, after, hcompiled⟩
  have hexpected : plan.expectedTickCount =
      test.latestTick + test.configuration.frequencyMode.hertz + 1 := by
    rw [Api.plan_of_compile hreachable hcompiled]
    exact Api.countExpectedTicks_eq test
  omega

/-- The stored arguments of a captured assertion are printable. -/
theorem printable_run (hplan : plan = test.plan) (capture : BuiltCapture plan)
    {assertion : Assertion} (hassertion : assertion ∈ test.assertions) :
    ∀ argument ∈ (compiledAssertion assertion).arguments, isPrintable argument.2 = true :=
  printable_of_storeAssertions (fromCompiledTest_eq_ok capture.created).1
    (compiledAssertion assertion) (by rw [hplan]; exact List.mem_map_of_mem hassertion)

/-- Every assertion of the test that can be evaluated is settled by the stored results. -/
theorem settles_run (hreachable : test.Reachable) (hcompiled : Api.compile test = .ok plan after)
    (hholds : capture.database.Holds records)
    (hfinalized : capture.database.Finalized capture.settings capture.requested)
    {assertion : Assertion} (hassertion : assertion ∈ test.assertions)
    (hevaluable : Evaluable assertion.expectation) :
    Settles (ticksOf records) assertion.expectation.ticks
      (evaluateAssertion ⟨capture.run⟩ (stored assertion))
      (demandOf (ticksOf records) assertion.channel.index assertion.expectation) := by
  obtain ⟨-, hkind, hordered⟩ :=
    (Api.wellFormed_of_reachable hreachable).assertion assertion hassertion
  obtain ⟨hlast, hshort⟩ := ticks_lt_of_compile hreachable hcompiled hassertion
  have hfits : fitsInteger assertion.expectation.ticks.2 = true := fitsInteger_iff.2 (by omega)
  exact settles_evaluateAssertion (stores_run hholds hfinalized) hkind hordered hfits
    (printable_run (Api.plan_of_compile hreachable hcompiled) capture hassertion) hevaluable.1
    hevaluable.2

/-- The handler of an assertion returns exactly when the assertion can be evaluated. -/
theorem returns_run_iff (hreachable : test.Reachable)
    (hcompiled : Api.compile test = .ok plan after) (hholds : capture.database.Holds records)
    (hfinalized : capture.database.Finalized capture.settings capture.requested)
    {assertion : Assertion} (hassertion : assertion ∈ test.assertions) :
    (∃ result, evaluateAssertion ⟨capture.run⟩ (stored assertion) = .ok result) ↔
      Evaluable assertion.expectation := by
  have hkind := ((Api.wellFormed_of_reachable hreachable).assertion assertion hassertion).2.1
  constructor
  · rintro ⟨result, hresult⟩
    refine ⟨?_, ?_⟩
    · have hprintable :=
        printable_run (Api.plan_of_compile hreachable hcompiled) capture hassertion
      rw [evaluateAssertion_stored hkind] at hresult
      exact (readsArguments_iff fun argument hargument _ _ ↦ hprintable argument hargument).1
        (reads_of_returned hresult)
    · by_contra hshown
      rw [overflows_of_not_shown hkind hshown] at hresult
      cases hresult
  · intro hevaluable
    obtain ⟨result, hresult, -⟩ :=
      settles_run hreachable hcompiled hholds hfinalized hassertion hevaluable
    exact ⟨result, hresult⟩

/-- Evaluating a finalized capture evaluates the assertions of its test in order, and combines their
verdicts with the status of the capture and its errors. -/
theorem evaluateAssertions_run (hplan : plan = test.plan)
    (hfinalized : capture.database.Finalized capture.settings capture.requested) :
    ∃ reportOn : List AssertionResult → EvaluationReport,
      evaluateAssertions capture.run = reportOn <$>
        test.assertions.mapM (fun assertion ↦ evaluateAssertion ⟨capture.run⟩ (stored assertion)) ∧
      ∀ results, (reportOn results).assertionResults = results ∧
        (reportOn results).verdict = overallVerdict (results.map AssertionResult.verdict)
          capture.database.status
          (capture.run.applicationErrors.countP fun error ↦ !error.recoverable) := by
  have hterminal : ¬capture.run.metadata.status = .inProgress := hfinalized.terminal
  unfold evaluateAssertions AssertionEvaluator.evaluate
  dsimp only
  rw [if_neg hterminal, assertionSet_run hplan, ok_bind, List.mapM_map]
  exact ⟨_, rfl, fun results ↦ ⟨rfl, rfl⟩⟩

/-- What a report is made of. -/
theorem results_of_report (hplan : plan = test.plan)
    (hfinalized : capture.database.Finalized capture.settings capture.requested)
    {report : EvaluationReport} (hreport : evaluateAssertions capture.run = .ok report) :
    List.Forall₂ (fun assertion result ↦
        evaluateAssertion ⟨capture.run⟩ (stored assertion) = .ok result) test.assertions
          report.assertionResults ∧
      report.verdict = overallVerdict (report.assertionResults.map AssertionResult.verdict)
        capture.database.status
        (capture.run.applicationErrors.countP fun error ↦ !error.recoverable) := by
  obtain ⟨reportOn, heq, hreportOn⟩ := evaluateAssertions_run hplan hfinalized
  rw [heq] at hreport
  cases hresults : test.assertions.mapM fun assertion ↦
      evaluateAssertion ⟨capture.run⟩ (stored assertion) with
  | error error =>
    rw [hresults] at hreport
    cases hreport
  | ok results =>
    rw [hresults] at hreport
    cases hreport
    obtain ⟨hsame, hverdict⟩ := hreportOn results
    rw [hsame]
    exact ⟨mapM_eq_ok.1 hresults, hverdict⟩

/-- Every error of an evaluation is that of the handler of some assertion. -/
theorem error_of_evaluateAssertions (hplan : plan = test.plan)
    (hfinalized : capture.database.Finalized capture.settings capture.requested)
    {error : HilRigError} (hraised : evaluateAssertions capture.run = .error error) :
    ∃ assertion ∈ test.assertions,
      evaluateAssertion ⟨capture.run⟩ (stored assertion) = .error error := by
  obtain ⟨reportOn, heq, -⟩ := evaluateAssertions_run hplan hfinalized
  rw [heq] at hraised
  cases hresults : test.assertions.mapM fun assertion ↦
      evaluateAssertion ⟨capture.run⟩ (stored assertion) with
  | error other =>
    rw [hresults] at hraised
    cases hraised
    exact mapM_eq_error hresults
  | ok results =>
    rw [hresults] at hraised
    cases hraised

/-- When the handler of the first assertion raises, so does the evaluation. -/
theorem evaluateAssertions_of_first_error (hplan : plan = test.plan)
    (hfinalized : capture.database.Finalized capture.settings capture.requested)
    {assertion : Assertion} (hfirst : test.assertions.head? = some assertion) {error : HilRigError}
    (hraised : evaluateAssertion ⟨capture.run⟩ (stored assertion) = .error error) :
    evaluateAssertions capture.run = .error error := by
  obtain ⟨reportOn, heq, -⟩ := evaluateAssertions_run hplan hfinalized
  obtain ⟨later, hassertions⟩ := List.head?_eq_some_iff.1 hfirst
  rw [heq, hassertions, List.mapM_cons, hraised]
  rfl

/-- There is a report exactly when every assertion can be evaluated. -/
theorem exists_report_iff (hreachable : test.Reachable)
    (hcompiled : Api.compile test = .ok plan after) (hholds : capture.database.Holds records)
    (hfinalized : capture.database.Finalized capture.settings capture.requested) :
    (∃ report, evaluateAssertions capture.run = .ok report) ↔
      ∀ assertion ∈ test.assertions, Evaluable assertion.expectation := by
  have hplan := Api.plan_of_compile hreachable hcompiled
  constructor
  · rintro ⟨report, hreport⟩ assertion hassertion
    obtain ⟨hresults, -⟩ := results_of_report hplan hfinalized hreport
    obtain ⟨result, -, hresult⟩ := exists_related hresults hassertion
    exact (returns_run_iff hreachable hcompiled hholds hfinalized hassertion).1 ⟨result, hresult⟩
  · intro hevaluable
    cases houtcome : evaluateAssertions capture.run with
    | ok report => exact ⟨report, rfl⟩
    | error error =>
      obtain ⟨assertion, hassertion, hraised⟩ :=
        error_of_evaluateAssertions hplan hfinalized houtcome
      obtain ⟨result, hresult⟩ :=
        (returns_run_iff hreachable hcompiled hholds hfinalized hassertion).2
          (hevaluable assertion hassertion)
      rw [hraised] at hresult
      cases hresult

/-- The verdict of a report is what the stored results say about the demands of the assertions. -/
theorem verdict_run (hreachable : test.Reachable) (hcompiled : Api.compile test = .ok plan after)
    (hholds : capture.database.Holds records)
    (hfinalized : capture.database.Finalized capture.settings capture.requested)
    {report : EvaluationReport} (hreport : evaluateAssertions capture.run = .ok report) :
    (report.verdict = .fail ↔ ∃ assertion ∈ test.assertions,
      (demandOf (ticksOf records) assertion.channel.index assertion.expectation).Violated) ∧
    (report.verdict = .pass ↔ test.assertions ≠ [] ∧ capture.database.status = .complete ∧
      (capture.run.applicationErrors.countP fun error ↦ !error.recoverable) = 0 ∧
      ∀ assertion ∈ test.assertions,
        (demandOf (ticksOf records) assertion.channel.index assertion.expectation).Proved) := by
  have hevaluable := (exists_report_iff hreachable hcompiled hholds hfinalized).1 ⟨report, hreport⟩
  obtain ⟨hresults, hverdict⟩ :=
    results_of_report (Api.plan_of_compile hreachable hcompiled) hfinalized hreport
  have hdecided {assertion : Assertion} (hassertion : assertion ∈ test.assertions)
      {result : AssertionResult}
      (hresult : evaluateAssertion ⟨capture.run⟩ (stored assertion) = .ok result) :
      Decides result.verdict
        (demandOf (ticksOf records) assertion.channel.index assertion.expectation) := by
    obtain ⟨other, hother, hdecides, -⟩ :=
      settles_run hreachable hcompiled hholds hfinalized hassertion (hevaluable _ hassertion)
    rw [hresult] at hother
    cases hother
    exact hdecides
  constructor
  · have hfailed := @exists_mem_iff_of_forall₂ _ _ _ _ _ (fun result ↦ result.verdict = .fail)
      (fun assertion ↦ (demandOf (ticksOf records) assertion.channel.index
        assertion.expectation).Violated) hresults fun assertion hassertion result hresult ↦
          (hdecided hassertion hresult).fail
    rw [hverdict, overallVerdict_eq_fail_iff, ← hfailed, List.mem_map]
  · have hpassed := @exists_mem_iff_of_forall₂ _ _ _ _ _ (fun result ↦ ¬result.verdict = .pass)
      (fun assertion ↦ ¬(demandOf (ticksOf records) assertion.channel.index
        assertion.expectation).Proved) hresults fun assertion hassertion result hresult ↦
          not_congr (hdecided hassertion hresult).pass
    have hempty : report.assertionResults.map AssertionResult.verdict ≠ [] ↔
        test.assertions ≠ [] := by
      rw [ne_eq, List.map_eq_nil_iff, ← List.length_eq_zero_iff, ← hresults.length_eq,
        List.length_eq_zero_iff]
    have hall := not_congr hpassed
    simp only [not_exists, not_and, not_not] at hall
    rw [hverdict, overallVerdict_eq_pass_iff, hempty, List.forall_mem_map, hall]

/-- Without a requested status, a finalized capture is complete exactly when every expected tick was
stored. -/
theorem status_eq_complete_iff (hholds : capture.database.Holds records)
    (hfinalized : capture.database.Finalized capture.settings none)
    (hinRun : ∀ record ∈ records, record.InRun capture.settings) :
    capture.database.status = .complete ↔
      ∀ tick, tick < plan.expectedTickCount → HasRow (ticksOf records) tick := by
  have hmem (tick : ℕ) : tick ∈ capture.database.ticks ↔ HasRow (ticksOf records) tick := by
    rw [CaptureDatabase.ticks, hholds.ticks, List.map_map]
    exact List.mem_map
  have hexpected : capture.database.expectedTickCount = plan.expectedTickCount :=
    hfinalized.expected.trans capture.expected
  have hstatus : capture.database.status = .complete ↔
      capture.database.fixedTicksComplete = true := by
    rw [hfinalized.status]
    show (if capture.database.fixedTicksComplete = true then CaptureStatus.complete
      else .incomplete) = .complete ↔ _
    split_ifs with hcomplete
    · simp [hcomplete]
    · simp [hcomplete]
  rw [hstatus, fixedTicksComplete_iff hfinalized.consistent, hexpected]
  constructor
  · exact fun hticks tick htick ↦ (hmem tick).1 ((hticks tick).2 htick)
  · intro hrows tick
    refine ⟨fun htick ↦ ?_, fun htick ↦ (hmem tick).2 (hrows tick htick)⟩
    obtain ⟨row, hrow, hsame⟩ := (hmem tick).1 htick
    obtain ⟨record, hrecord, hresult⟩ := List.mem_filterMap.1 hrow
    have hbound := hinRun record hrecord tick (by
      cases record <;> cases hresult
      exact congrArg some hsame)
    rwa [capture.expected] at hbound

/-- No stored error is counted as non-recoverable exactly when all of them are recoverable. -/
theorem nonRecoverable_eq_zero_iff (hholds : capture.database.Holds records) :
    (capture.run.applicationErrors.countP fun error ↦ !error.recoverable) = 0 ↔
      ∀ error ∈ errorsOf records, error.recoverable = true := by
  have hrows : capture.run.applicationErrors.map CapturedApplicationError.recoverable =
      (errorsOf records).map ApplicationErrorRecord.recoverable := by
    have hread : capture.run.applicationErrors.map CapturedApplicationError.recoverable =
        capture.database.applicationErrors.map fun row ↦ row.recoverable != 0 := by
      have hpositions := congrArg (List.map fun row : ErrorRow ↦ row.recoverable != 0)
        (List.zipIdx_map_fst 0 capture.database.applicationErrors)
      rw [List.map_map] at hpositions
      unfold CapturedRunIR.applicationErrors
      rw [List.map_map]
      exact hpositions
    rw [hread, hholds.errors, List.map_map]
    refine List.map_congr_left fun error _ ↦ ?_
    cases hrecoverable : error.recoverable <;> simp [errorParameters, hrecoverable]
  have hcount : (capture.run.applicationErrors.countP fun error ↦ !error.recoverable) =
      ((errorsOf records).map ApplicationErrorRecord.recoverable).countP fun recoverable ↦
        !recoverable := by
    rw [← hrows, List.countP_map]
    rfl
  rw [hcount, List.countP_eq_zero]
  constructor
  · intro hall error herror
    simpa using hall _ (List.mem_map_of_mem herror)
  · intro hall recoverable hmem
    obtain ⟨error, herror, rfl⟩ := List.mem_map.1 hmem
    simp [hall error herror]

/-- A verdict on a test is the one that some records give: it fails exactly when their samples
violate what some assertion demands, and passes exactly when there is an assertion, every expected
tick is there, no error is non-recoverable, and the samples prove what every assertion demands. -/
structure Reflects (test : Api.Test) (expectedTickCount : ℕ) (records : List Record)
    (verdict : EvaluationVerdict) : Prop where
  fail : verdict = .fail ↔ ∃ assertion ∈ test.assertions,
    (demandOf (ticksOf records) assertion.channel.index assertion.expectation).Violated
  pass : verdict = .pass ↔ test.assertions ≠ [] ∧
    (∀ tick, tick < expectedTickCount → HasRow (ticksOf records) tick) ∧
    (∀ error ∈ errorsOf records, error.recoverable = true) ∧
    ∀ assertion ∈ test.assertions,
      (demandOf (ticksOf records) assertion.channel.index assertion.expectation).Proved

/-- Evaluating the capture of a test returns a report whose verdict is the one that its records
give: all records added before the finalization was invoked, and no other ones than those added
before it returned. -/
def BuiltCapture.Judges (capture : BuiltCapture plan) (test : Api.Test) : Prop :=
  ∃ records report, recordsAdded capture.earlier <+: records ∧
    records <+: recordsAdded capture.older ∧ evaluateAssertions capture.run = .ok report ∧
      Reflects test plan.expectedTickCount records report.verdict

/-- For every compiled test and every finalized capture that a builder made of it without a
requested status, whatever was added in whatever order: evaluating the capture judges the test if
and only if each of its assertions can be evaluated. -/
theorem verdict_built_iff (hreachable : test.Reachable)
    (hcompiled : Api.compile test = .ok plan after) (capture : BuiltCapture plan)
    (hrequested : capture.requested = none) :
    capture.Judges test ↔ ∀ assertion ∈ test.assertions, Evaluable assertion.expectation := by
  obtain ⟨records, hearlier, holder, hholds, hfinalized, hinRun⟩ := capture.exists_stored
  rw [← exists_report_iff hreachable hcompiled hholds hfinalized]
  constructor
  · rintro ⟨_, report, -, -, hreport, -⟩
    exact ⟨report, hreport⟩
  · rintro ⟨report, hreport⟩
    obtain ⟨hfail, hpass⟩ := verdict_run hreachable hcompiled hholds hfinalized hreport
    rw [hrequested] at hfinalized
    rw [status_eq_complete_iff hholds hfinalized hinRun, nonRecoverable_eq_zero_iff hholds] at hpass
    exact ⟨records, report, hearlier, holder, hreport, ⟨hfail, hpass⟩⟩

/-- Evaluating the capture of a test finds everything it looks for: the file opens, its original
assertions are those of the test, each has a registered handler, whose arguments are present with
their kinds, a channel of the rig, and ticks of the run. No error says that something is
unsupported, missing, malformed or divided by zero. A report has one result for each assertion, and
of a complete capture none misses a sample. -/
structure EvaluatesSafely (test : Api.Test) (capture : BuiltCapture plan) : Prop where
  opened : CapturedRunIR.ofFile capture.captured = .ok capture.run
  snapshot : capture.run.assertionSet originalAssertionSetId = .ok ⟨originalAssertionSetId,
    "Original compiled assertions", plan.schemaVersion, test.assertions.map stored⟩
  registered : ∀ assertion ∈ plan.assertions, ∃ handler,
    evaluatorRegistry.lookup (assertion.peripheral, assertion.assertion) = some handler
  arguments : ∀ assertion ∈ test.assertions, ∀ argument ∈ readArguments assertion.expectation,
    ReadsAs (stored assertion) argument.1 argument.2
  queries : ∀ assertion ∈ test.assertions,
    (stored assertion).channel < channelCount assertion.channel.kind ∧
      ∃ firstTick lastTick : ℕ, assertionTicks (stored assertion) = .ok (firstTick, lastTick) ∧
        firstTick ≤ lastTick ∧ lastTick < plan.expectedTickCount
  raised : ∀ error, evaluateAssertions capture.run = .error error →
    error.kind ∉ [.unsupportedAssertion, .evaluation, .valueError, .zeroDivisionError]
  results : ∀ report, evaluateAssertions capture.run = .ok report →
    report.assertionResults.length = plan.assertions.length ∧
      (capture.database.status = .complete →
        ∀ result ∈ report.assertionResults, result.missingSampleCount = 0)

/-- Every compiled assertion has a registered handler. -/
theorem registered_of_compile (hreachable : test.Reachable)
    (hcompiled : Api.compile test = .ok plan after) :
    ∀ assertion ∈ plan.assertions, ∃ handler,
      evaluatorRegistry.lookup (assertion.peripheral, assertion.assertion) = some handler := by
  have hassertions : plan.assertions = test.assertions.map compiledAssertion := by
    rw [Api.plan_of_compile hreachable hcompiled]
    rfl
  rw [hassertions, List.forall_mem_map]
  intro assertion hassertion
  obtain ⟨-, hkind, -⟩ :=
    (Api.wellFormed_of_reachable hreachable).assertion assertion hassertion
  refine ⟨handlerOf assertion.expectation, ?_⟩
  show evaluatorRegistry.lookup (assertion.channel.kind.value, _) = _
  rw [← hkind]
  exact lookup_evaluatorRegistry assertion.expectation

/-- No result of a complete capture misses a sample. -/
theorem missingSampleCount_of_complete (hreachable : test.Reachable)
    (hcompiled : Api.compile test = .ok plan after) (hholds : capture.database.Holds records)
    (hfinalized : capture.database.Finalized capture.settings capture.requested)
    {report : EvaluationReport} (hreport : evaluateAssertions capture.run = .ok report)
    (hcomplete : capture.database.status = .complete) :
    ∀ result ∈ report.assertionResults, result.missingSampleCount = 0 := by
  have hevaluable := (exists_report_iff hreachable hcompiled hholds hfinalized).1 ⟨report, hreport⟩
  obtain ⟨hresults, -⟩ :=
    results_of_report (Api.plan_of_compile hreachable hcompiled) hfinalized hreport
  have hevaluated : List.Forall₂ (fun result assertion ↦
      evaluateAssertion ⟨capture.run⟩ (stored assertion) = .ok result) report.assertionResults
        test.assertions := List.Forall₂.flip hresults
  intro result hresult
  obtain ⟨assertion, hassertion, hreturned⟩ := exists_related hevaluated hresult
  obtain ⟨other, hother, -, hpresent⟩ :=
    settles_run hreachable hcompiled hholds hfinalized hassertion (hevaluable _ hassertion)
  rw [hreturned] at hother
  cases hother
  refine hpresent.2 fun tick _ huntil ↦ ?_
  -- Every tick of an assertion is an expected one, and the capture holds all of these.
  have hexpected : capture.database.expectedTickCount = plan.expectedTickCount :=
    hfinalized.expected.trans capture.expected
  have hticks := (fixedTicksComplete_iff hfinalized.consistent).1
    (hfinalized.complete hcomplete) tick
  rw [CaptureDatabase.ticks, hholds.ticks, List.map_map, hexpected] at hticks
  exact hticks.2 (huntil.trans_lt (ticks_lt_of_compile hreachable hcompiled hassertion).1)

/-- For every compiled test and every finalized capture that a builder made of it: evaluating the
capture is safe if and only if no integer of an assertion was passed as a member of an enumeration.
-/
theorem evaluatesSafely_iff (hreachable : test.Reachable)
    (hcompiled : Api.compile test = .ok plan after) (capture : BuiltCapture plan) :
    EvaluatesSafely test capture ↔
      ∀ assertion ∈ test.assertions, assertion.expectation.isPlain = true := by
  have hplan := Api.plan_of_compile hreachable hcompiled
  have hreads {assertion : Assertion} (hassertion : assertion ∈ test.assertions) :=
    readsArguments_iff fun argument hargument _ _ ↦
      printable_run hplan capture hassertion argument hargument
  refine ⟨fun hsafe assertion hassertion ↦ (hreads hassertion).1 (hsafe.arguments _ hassertion),
    fun hplain ↦ ?_⟩
  obtain ⟨records, -, -, hholds, hfinalized, -⟩ := capture.exists_stored
  exact {
    opened := capture.ofFile_captured
    snapshot := assertionSet_run hplan
    registered := registered_of_compile hreachable hcompiled
    arguments := fun assertion hassertion ↦ (hreads hassertion).2 (hplain _ hassertion)
    queries := fun assertion hassertion ↦
      ⟨assertion.channel.index_lt, _, _, assertionTicks_stored (hplain _ hassertion),
        ((Api.wellFormed_of_reachable hreachable).assertion assertion hassertion).2.2,
        (ticks_lt_of_compile hreachable hcompiled hassertion).1⟩
    raised := by
      intro error hraised
      obtain ⟨assertion, hassertion, hraised⟩ :=
        error_of_evaluateAssertions hplan hfinalized hraised
      have hkind := ((Api.wellFormed_of_reachable hreachable).assertion assertion hassertion).2.1
      by_cases hshown : ∀ microvolts ∈ assertion.expectation.voltages, ShownVolts microvolts
      · obtain ⟨result, hresult, -⟩ := settles_run hreachable hcompiled hholds hfinalized hassertion
          ⟨hplain _ hassertion, hshown⟩
        rw [hraised] at hresult
        cases hresult
      · rw [overflows_of_not_shown hkind hshown] at hraised
        cases hraised
        decide
    results := fun report hreport ↦ by
      obtain ⟨hresults, -⟩ := results_of_report hplan hfinalized hreport
      refine ⟨?_, missingSampleCount_of_complete hreachable hcompiled hholds hfinalized hreport⟩
      rw [← hresults.length_eq, hplan]
      exact (List.length_map compiledAssertion).symm }

end Reports

/-! ### A panel with a door, a supply and a fan -/

section Example

/-- The test that a script leaves. -/
def scriptTest (script : List Api.Call) : Api.Test :=
  Api.Test.after { testId := 5, name := "panel" } script

theorem reachable_scriptTest (script : List Api.Call) : (scriptTest script).Reachable :=
  ⟨5, .value "panel", { testId := 5, name := "panel" }, script, by decide +kernel, rfl⟩

theorem compile_scriptTest {script : List Api.Call}
    (hshort : (scriptTest script).latestTick +
      (scriptTest script).configuration.frequencyMode.hertz + 1 < 1000000) :
    ∃ after, Api.compile (scriptTest script) = .ok (scriptTest script).plan after := by
  have hreachable := reachable_scriptTest script
  obtain ⟨plan, after, hcompiled⟩ :=
    (Api.compile_of_reachable (scriptTest script) hreachable).1.2 hshort
  obtain rfl := Api.plan_of_compile hreachable hcompiled
  exact ⟨after, hcompiled⟩

/-- A run of a builder in which a finalization without a status returned made a capture. -/
theorem exists_capture {plan : CompiledTestIR} {settings : BuilderSettings}
    (hcreated : (CaptureFile.fromCompiledTest plan none [7] 9 none none).isOk = true)
    (hexpected : settings.expectedTickCount = plan.expectedTickCount) {state : BuilderState}
    (hsteps : ReflTransGen (BuilderStep settings fun _ ↦ none) (.initial settings) state)
    {request : ControlRequest} {database : CaptureDatabase} {older earlier : List BuilderEvent}
    (hcompleted : .completed request database :: older <:+ state.trace.history)
    (haction : request.action = .finalize none) (hinvoked : .invoked request :: earlier <:+ older) :
    ∃ capture : BuiltCapture plan, capture.requested = none ∧
      capture.earlier = earlier ∧ capture.older = older ∧ capture.settings = settings ∧
        capture.faults = (fun _ ↦ none) ∧ capture.state = state := by
  cases hfile : CaptureFile.fromCompiledTest plan none [7] 9 none none with
  | error error =>
    rw [hfile] at hcreated
    cases hcreated
  | ok file =>
    exact ⟨⟨none, [7], 9, none, none, file, hfile, settings, hexpected, fun _ ↦ none, state,
      hsteps, request, none, database, older, earlier, hcompleted, haction, hinvoked⟩,
      rfl, rfl, rfl, rfl, rfl, rfl⟩

/-- Results are added one after the other, and then the capture is finalized. -/
def recordingRun (results : List TickResult) : List BuilderLabel :=
  [.start none] ++
    results.flatMap (fun result ↦ [.add 0 (.tick result), .recheck 0, .enqueue 0, .process]) ++
      [.finalize 0 none, .recheck 0, .enqueue 0, .process, .poll 0, .join 0 true]

/-- Whether a history ends with the return of a finalization that was invoked after some results
were added. -/
def finalizesAfter (results : List TickResult) : List BuilderEvent → Bool
  | .completed request _ :: .invoked other :: earlier =>
    request == other && request.action == .finalize none &&
      recordsAdded earlier == results.map Record.tick
  | _ => false

theorem exists_of_finalizesAfter {results : List TickResult} {history : List BuilderEvent}
    (hfinalizes : finalizesAfter results history = true) : ∃ request database earlier,
      history = .completed request database :: .invoked request :: earlier ∧
        request.action = .finalize none ∧ recordsAdded earlier = results.map Record.tick := by
  unfold finalizesAfter at hfinalizes
  split at hfinalizes
  · simp only [Bool.and_eq_true, beq_iff_eq] at hfinalizes
    obtain ⟨⟨rfl, haction⟩, hadded⟩ := hfinalizes
    exact ⟨_, _, _, rfl, haction, hadded⟩
  · cases hfinalizes

/-- A run that records some results makes a capture of them. -/
theorem exists_capture_of_results {plan : CompiledTestIR} {settings : BuilderSettings}
    {results : List TickResult}
    (hcreated : (CaptureFile.fromCompiledTest plan none [7] 9 none none).isOk = true)
    (hexpected : settings.expectedTickCount = plan.expectedTickCount)
    (hrun : ((BuilderState.initial settings).run settings (fun _ ↦ none)
      (recordingRun results)).map (fun state ↦ finalizesAfter results state.trace.history) =
        some true) :
    ∃ capture : BuiltCapture plan, capture.requested = none ∧
      recordsAdded capture.earlier = results.map Record.tick ∧
      recordsAdded capture.older = results.map Record.tick := by
  obtain ⟨state, hstate, hfinalizes⟩ := Option.map_eq_some_iff.1 hrun
  obtain ⟨request, database, earlier, hhistory, haction, hadded⟩ :=
    exists_of_finalizesAfter hfinalizes
  have hcompleted : .completed request database :: .invoked request :: earlier <:+
      state.trace.history := by
    rw [hhistory]
  obtain ⟨capture, hrequested, hearlier, holder, -⟩ := exists_capture hcreated hexpected
    (reflTransGen_of_run hstate) hcompleted haction (List.suffix_refl _)
  refine ⟨capture, hrequested, by rw [hearlier, hadded], ?_⟩
  rw [holder, ← hadded]
  rfl

/-- A script that demands of two ticks that a supply is above a threshold and that a door is closed,
and of the first one that a fan turns at its frequency. -/
def panelScript (threshold : Quantity) : List Api.Call :=
  [.configure (.value .hz100) (.value .hostCommand),
    .analogueInputConfigure (0 : Fin 2),
    .digitalInputConfigure (0 : Fin 10) (.value .v3_3),
    .pwmInputConfigure (0 : Fin 2) (.value .v3_3),
    .expectRemainAbove (0 : Fin 2) (.value threshold)
      { fromTick := some (.value 0), untilTick := some (.value 1) },
    .expectRemainHigh (0 : Fin 10) { fromTick := some (.value 0), untilTick := some (.value 1) },
    .expectFrequencyNear (0 : Fin 2) (.value (.int 1000)) (.value (.int 1))
      { atTick := some (.value 0) }]

/-- The panel with a threshold of one volt. -/
def panelTest : Api.Test :=
  scriptTest (panelScript (.number (.int 1)))

/-- A result of the panel at some voltage. -/
def panelResult (microvolts : ℤ) (tick : ℕ) : TickResult where
  tick := tick
  digitalInputs := fun _ ↦ some true
  analogueInputsUv := fun _ ↦ some microvolts
  pwmInputs := fun _ ↦ some ⟨1000000, 5000, by decide⟩
  condition := .ok
  problemDetail := none
  measured := fun _ ↦ ⟨fun _ ↦ rfl, fun _ ↦ rfl, fun _ ↦ rfl⟩
  absent := fun hproblem ↦ by cases hproblem

/-- Builders of the panel. -/
def panelSettings : BuilderSettings :=
  ⟨102, Nat.succ_pos 101, 1, Nat.one_pos, 2, Nat.two_pos⟩

theorem assertions_panelTest : panelTest.assertions.map (fun assertion ↦
    (assertion.channel.index, assertion.expectation)) =
      [(0, .analogueRemainAbove 0 1 1000000), (0, .digitalRemainHigh 0 1),
        (0, .pwmFrequencyNear 0 (.finite 1000) (.finite 1))] := by
  decide +kernel

/-- A capture of some results of the panel. -/
theorem exists_panelCapture {results : List TickResult}
    (hrun : ((BuilderState.initial panelSettings).run panelSettings (fun _ ↦ none)
      (recordingRun results)).map (fun state ↦ finalizesAfter results state.trace.history) =
        some true) :
    ∃ capture : BuiltCapture panelTest.plan, capture.requested = none ∧
      recordsAdded capture.earlier = results.map Record.tick ∧
      recordsAdded capture.older = results.map Record.tick :=
  exists_capture_of_results (by decide +kernel) (by decide +kernel) hrun

/-- The panel passes when every tick was stored with accepted samples, and fails at a low supply. -/
theorem verdict_built_iff_panelTest :
    ∃ (capture low : BuiltCapture panelTest.plan) (report lowReport : EvaluationReport),
      evaluateAssertions capture.run = .ok report ∧ report.verdict = .pass ∧
        evaluateAssertions low.run = .ok lowReport ∧ lowReport.verdict = .fail := by
  obtain ⟨after, hcompiled⟩ :=
    @compile_scriptTest (panelScript (.number (.int 1))) (by decide +kernel)
  have hevaluable : ∀ assertion ∈ panelTest.assertions, Evaluable assertion.expectation := by
    decide +kernel
  have hreflects {results : List TickResult} {capture : BuiltCapture panelTest.plan}
      (hrequested : capture.requested = none)
      (hearlier : recordsAdded capture.earlier = results.map Record.tick)
      (holder : recordsAdded capture.older = results.map Record.tick) :
      ∃ report, evaluateAssertions capture.run = .ok report ∧
        Reflects panelTest 102 (results.map Record.tick) report.verdict := by
    obtain ⟨records, report, hadded, hstored, hreport, hreflects⟩ :=
      (verdict_built_iff (reachable_scriptTest _) hcompiled capture hrequested).2 hevaluable
    rw [hearlier] at hadded
    rw [holder] at hstored
    obtain rfl : records = results.map Record.tick := hstored.eq_of_length_le hadded.length_le
    have hexpected : panelTest.plan.expectedTickCount = 102 := by decide +kernel
    rw [← hexpected]
    exact ⟨report, hreport, hreflects⟩
  obtain ⟨capture, hrequested, hearlier, holder⟩ :=
    @exists_panelCapture ((List.range 102).map (panelResult 2000000)) (by decide +kernel)
  obtain ⟨low, hlowRequested, hlowEarlier, hlowOlder⟩ :=
    @exists_panelCapture [panelResult 900000 0] (by decide +kernel)
  obtain ⟨report, hreport, hreflected⟩ := hreflects hrequested hearlier holder
  obtain ⟨lowReport, hlowReport, hlowReflected⟩ :=
    hreflects hlowRequested hlowEarlier hlowOlder
  refine ⟨capture, low, report, lowReport, hreport,
    hreflected.pass.2 ⟨by decide +kernel, ?_, ?_, ?_⟩, hlowReport, hlowReflected.fail.2 ?_⟩
  · intro tick htick
    rw [ticksOf_map_tick]
    exact ⟨panelResult 2000000 tick, List.mem_map_of_mem (List.mem_range.2 htick), rfl⟩
  · rw [errorsOf_map_tick]
    exact fun error herror ↦ absurd herror List.not_mem_nil
  · rw [ticksOf_map_tick]
    have hproved : ∀ demanded ∈ panelTest.assertions.map
        (fun assertion ↦ (assertion.channel.index, assertion.expectation)),
        (demandOf ((List.range 102).map (panelResult 2000000)) demanded.1
          demanded.2).Proved := by
      rw [assertions_panelTest, List.forall_mem_cons, List.forall_mem_cons,
        List.forall_mem_singleton]
      refine ⟨fun tick _ huntil ↦ ?_, fun tick _ huntil ↦ ?_, fun tick _ huntil ↦ ?_⟩
      · obtain rfl | rfl := Nat.le_one_iff_eq_zero_or_eq_one.1 huntil
        · decide +kernel
        · decide +kernel
      · obtain rfl | rfl := Nat.le_one_iff_eq_zero_or_eq_one.1 huntil
        · decide +kernel
        · decide +kernel
      · obtain rfl := Nat.le_zero.1 huntil
        decide +kernel
    exact fun assertion hassertion ↦ hproved _ (List.mem_map_of_mem hassertion)
  · rw [ticksOf_map_tick]
    have hthreshold : (0, Expectation.analogueRemainAbove 0 1 1000000) ∈ panelTest.assertions.map
        fun assertion ↦ (assertion.channel.index, assertion.expectation) := by
      rw [assertions_panelTest]
      exact List.mem_cons_self
    obtain ⟨assertion, hassertion, hdemanded⟩ := List.mem_map.1 hthreshold
    obtain ⟨hindex, hexpectation⟩ := Prod.mk.inj hdemanded
    refine ⟨assertion, hassertion, ?_⟩
    rw [hindex, hexpectation]
    exact ⟨0, le_rfl, Nat.zero_le 1, by decide⟩

/-- The panel with a threshold that no float holds in microvolts. -/
def hugePanelTest : Api.Test :=
  scriptTest (panelScript (.number (.int (10 ^ 309))))

/-- The panel compiles with such a threshold, but evaluating its capture raises. -/
theorem not_judges_hugePanelTest :
    (∃ after, Api.compile hugePanelTest = .ok hugePanelTest.plan after) ∧
      ∃ capture : BuiltCapture hugePanelTest.plan, capture.requested = none ∧
        evaluateAssertions capture.run = .error voltsOverflow ∧
          ¬capture.Judges hugePanelTest := by
  obtain ⟨after, hcompiled⟩ :=
    @compile_scriptTest (panelScript (.number (.int (10 ^ 309)))) (by decide +kernel)
  obtain ⟨capture, hrequested, -⟩ := @exists_capture_of_results hugePanelTest.plan panelSettings
    [panelResult 900000 0] (by decide +kernel) (by decide +kernel) (by decide +kernel)
  obtain ⟨-, -, -, -, hfinalized, -⟩ := capture.exists_stored
  have hthreshold : hugePanelTest.assertions.head?.map (fun assertion ↦
      (assertion.channel.kind, assertion.expectation)) =
        some (.analogueInput, .analogueRemainAbove 0 1 (10 ^ 315)) := by decide +kernel
  obtain ⟨assertion, hfirst, hassertion⟩ := Option.map_eq_some_iff.1 hthreshold
  obtain ⟨hkind, hexpectation⟩ := Prod.mk.inj hassertion
  have hshown : ¬ShownVolts (10 ^ 315) := by decide +kernel
  have hraised : evaluateAssertions capture.run = .error voltsOverflow := by
    refine evaluateAssertions_of_first_error rfl hfinalized hfirst (overflows_of_not_shown ?_ ?_)
    · rw [hkind, hexpectation]
      rfl
    · rw [hexpectation]
      exact fun hall ↦ hshown (hall _ (List.mem_singleton_self _))
  refine ⟨⟨after, hcompiled⟩, capture, hrequested, hraised, ?_⟩
  rintro ⟨_, report, -, -, hreport, -⟩
  rw [hraised] at hreport
  cases hreport

/-! ### A door that is open -/

/-- A script that expects a digital input to be high at a tick. -/
def doorScript (tick : Builtin ℤ) : List Api.Call :=
  [.configure (.value .hz1k) (.value .hostCommand),
    .digitalInputConfigure (0 : Fin 10) (.value .v3_3),
    .expectHigh (0 : Fin 10) { atTick := some (.value tick) }]

/-- The test that expects it at its first tick. -/
def doorTest : Api.Test :=
  scriptTest (doorScript 0)

theorem reachable_doorTest : doorTest.Reachable :=
  reachable_scriptTest (doorScript 0)

theorem compile_doorTest : ∃ after, Api.compile doorTest = .ok doorTest.plan after :=
  compile_scriptTest (by decide +kernel)

/-- A builder for the ticks of the test. -/
def doorSettings : BuilderSettings :=
  ⟨1001, by decide, 1, by decide, 10, Nat.succ_pos 9⟩

/-- A capture of some results of the door. -/
theorem exists_doorCapture {results : List TickResult}
    (hrun : ((BuilderState.initial doorSettings).run doorSettings (fun _ ↦ none)
      (recordingRun results)).map (fun state ↦ finalizesAfter results state.trace.history) =
        some true) :
    ∃ capture : BuiltCapture doorTest.plan, capture.requested = none ∧
      recordsAdded capture.earlier = results.map Record.tick ∧
      recordsAdded capture.older = results.map Record.tick :=
  exists_capture_of_results (by decide +kernel) (by decide +kernel) hrun

/-- The door is evaluated safely, with one result. -/
theorem evaluatesSafely_iff_doorTest : ∃ (capture : BuiltCapture doorTest.plan)
    (report : EvaluationReport), EvaluatesSafely doorTest capture ∧
      evaluateAssertions capture.run = .ok report ∧ report.assertionResults.length = 1 := by
  obtain ⟨after, hcompiled⟩ := compile_doorTest
  obtain ⟨capture, -⟩ := @exists_doorCapture [levelResult 0 false] (by decide +kernel)
  have hsafe : EvaluatesSafely doorTest capture :=
    (evaluatesSafely_iff reachable_doorTest hcompiled capture).2 (by decide +kernel)
  obtain ⟨_, -, -, hholds, hfinalized, -⟩ := capture.exists_stored
  obtain ⟨report, hreport⟩ :=
    (exists_report_iff reachable_doorTest hcompiled hholds hfinalized).2 (by decide +kernel)
  exact ⟨capture, report, hsafe, hreport,
    (hsafe.results report hreport).1.trans (by decide +kernel)⟩

/-- The test that expects it at a tick which is a member of an enumeration. -/
def namedDoorTest : Api.Test :=
  scriptTest (doorScript (.member (some "FIRST") 0))

/-- That test compiles as well, but its tick is stored as a name, so evaluating a capture raises. -/
theorem not_evaluatesSafely_namedDoorTest :
    (∃ after, Api.compile namedDoorTest = .ok namedDoorTest.plan after) ∧
      ∃ capture : BuiltCapture namedDoorTest.plan,
        (∃ message, evaluateAssertions capture.run = .error ⟨.evaluation, message⟩) ∧
          ¬EvaluatesSafely namedDoorTest capture := by
  obtain ⟨after, hcompiled⟩ :=
    @compile_scriptTest (doorScript (.member (some "FIRST") 0)) (by decide +kernel)
  obtain ⟨capture, -⟩ := @exists_capture_of_results namedDoorTest.plan doorSettings
    [levelResult 0 false] (by decide +kernel) (by decide +kernel) (by decide +kernel)
  obtain ⟨-, -, -, -, hfinalized, -⟩ := capture.exists_stored
  have hassertion : namedDoorTest.assertions.head? =
      some ⟨0, ⟨.digitalInput, 0, by decide⟩, .digitalPoint (.member (some "FIRST") 0) .high⟩ := by
    decide +kernel
  have hraised := evaluateAssertions_of_first_error rfl hfinalized hassertion rfl
  exact ⟨⟨after, hcompiled⟩, capture, ⟨_, hraised⟩, fun hsafe ↦
    absurd (hsafe.raised _ hraised) (by decide)⟩

end Example

end HilRig.Evaluation
