import HilRig.Evaluation.Verdicts
import HilRig.Exporters.JsonIr

/-!
# Evaluation reports

The JSON text of a report holds, beside what the evaluation found, the file and the time of the
evaluation, a message for each result, and how many results have each verdict. `readReportText` is
a reader of the format that refuses counts which are not those of the results. It finds every
written report again (`evaluationReport_text`), and the counts of an evaluation decide its verdict
and its warnings (`counts_of_evaluate`).
-/

set_option autoImplicit false
set_option relaxedAutoImplicit false

namespace HilRig.Evaluation

open HilRig.Models HilRig.Results HilRig.Foundations HilRig.Exporters

/-! ### Reports -/

/-- The text of a verdict. -/
def EvaluationVerdict.value : EvaluationVerdict → String
  | .pass => "pass"
  | .fail => "fail"
  | .inconclusive => "inconclusive"

namespace EvaluationReport

variable (report : EvaluationReport)

def verdictCount (verdict : EvaluationVerdict) : ℕ :=
  report.assertionResults.countP fun result ↦ result.verdict = verdict

def passedCount : ℕ :=
  report.verdictCount .pass

def failedCount : ℕ :=
  report.verdictCount .fail

def inconclusiveCount : ℕ :=
  report.verdictCount .inconclusive

end EvaluationReport

/-- A report with what its evaluation leaves out: the file, the time, and a message for each
result. -/
@[ext] structure WrittenReport where
  report : EvaluationReport
  captureDatabase : String
  evaluatedAt : String
  messages : List String
  length_messages : messages.length = report.assertionResults.length

/-- The results with their messages. -/
def WrittenReport.entries (written : WrittenReport) : List (AssertionResult × String) :=
  written.report.assertionResults.zip written.messages

/-! ### Writing -/

def resultValue (entry : AssertionResult × String) : JsonValue :=
  .object [("assertion_id", numberValue entry.1.assertionId),
    ("verdict", textValue entry.1.verdict.value), ("peripheral", textValue entry.1.peripheral),
    ("channel", numberValue entry.1.channel), ("assertion", textValue entry.1.assertion),
    ("evaluated_from_tick", integerValue entry.1.evaluatedFromTick),
    ("evaluated_until_tick", integerValue entry.1.evaluatedUntilTick),
    ("expected", fieldsValue entry.1.expected), ("observed", fieldsValue entry.1.observed),
    ("valid_sample_count", numberValue entry.1.validSampleCount),
    ("missing_sample_count", numberValue entry.1.missingSampleCount),
    ("invalid_sample_count", numberValue entry.1.invalidSampleCount),
    ("violation_count", numberValue entry.1.violationCount),
    ("first_failure_tick", optionalValue entry.1.firstFailureTick),
    ("message", textValue entry.2)]

def runValue (written : WrittenReport) : JsonValue :=
  .object [("application_test_id", textValue (hexadecimal 32 written.report.applicationTestId)),
    ("run_id", textValue (hexadecimal 32 written.report.runId)),
    ("capture_database", textValue written.captureDatabase),
    ("capture_status", textValue (captureStatusValue written.report.captureStatus)),
    ("expected_tick_count", numberValue written.report.expectedTickCount),
    ("received_tick_count", numberValue written.report.receivedTickCount)]

def evaluationValue (written : WrittenReport) : JsonValue :=
  .object [("evaluated_at", textValue written.evaluatedAt),
    ("verdict", textValue written.report.verdict.value),
    ("passed_count", numberValue written.report.passedCount),
    ("failed_count", numberValue written.report.failedCount),
    ("inconclusive_count", numberValue written.report.inconclusiveCount),
    ("warnings", .array (written.report.warnings.map textValue))]

/-- The JSON-compatible evaluation report. -/
def asEvaluationReport (written : WrittenReport) : JsonValue :=
  .object [("evaluation_report_version", textValue written.report.schemaVersion),
    ("test", .object [("test_id", textValue (hexadecimal 32 written.report.testId)),
      ("name", textValue written.report.testName)]),
    ("run", runValue written),
    ("assertion_set", .object [("assertion_set_id", textValue written.report.assertionSetId),
      ("compiled_ir_version", textValue written.report.compiledIrVersion)]),
    ("evaluation", evaluationValue written),
    ("assertions", .array (written.entries.map resultValue))]

/-- The JSON text of a report. -/
def dumpsEvaluationReport (written : WrittenReport) (indent : Option ℤ) :
    Except HilRigError String :=
  dumpsLine (asEvaluationReport written) indent false

/-! ### Reading -/

def readVerdict (value : JsonValue) : Option EvaluationVerdict := do
  let text ← asText value
  [EvaluationVerdict.pass, .fail, .inconclusive].find? fun verdict ↦ verdict.value = text

def readCaptureStatus (value : JsonValue) : Option CaptureStatus := do
  let text ← asText value
  [CaptureStatus.inProgress, .complete, .incomplete, .sessionLost, .protocolError,
    .aborted].find? fun status ↦ captureStatusValue status = text

def readIdentifier (value : JsonValue) : Option ℕ := do
  let text ← asText value
  readHexadecimal text

def readResult (value : JsonValue) : Option (AssertionResult × String) := do
  let result : AssertionResult := {
    assertionId := ← asNumber (← member value "assertion_id")
    verdict := ← readVerdict (← member value "verdict")
    peripheral := ← asText (← member value "peripheral")
    channel := ← asNumber (← member value "channel")
    assertion := ← asText (← member value "assertion")
    evaluatedFromTick := ← asInteger (← member value "evaluated_from_tick")
    evaluatedUntilTick := ← asInteger (← member value "evaluated_until_tick")
    expected := ← asFields (← member value "expected")
    observed := ← asFields (← member value "observed")
    validSampleCount := ← asNumber (← member value "valid_sample_count")
    missingSampleCount := ← asNumber (← member value "missing_sample_count")
    invalidSampleCount := ← asNumber (← member value "invalid_sample_count")
    violationCount := ← asNumber (← member value "violation_count")
    firstFailureTick := ← asOptional (← member value "first_failure_tick") }
  let message ← asText (← member value "message")
  return (result, message)

/-- The report of a document, whose counts are those of its results. -/
def readReport (value : JsonValue) : Option WrittenReport := do
  let test ← member value "test"
  let run ← member value "run"
  let assertionSet ← member value "assertion_set"
  let evaluation ← member value "evaluation"
  let warnings ← asItems (← member evaluation "warnings")
  let items ← asItems (← member value "assertions")
  let entries ← items.mapM readResult
  let report : EvaluationReport := {
    testId := ← readIdentifier (← member test "test_id")
    applicationTestId := ← readIdentifier (← member run "application_test_id")
    runId := ← readIdentifier (← member run "run_id")
    testName := ← asText (← member test "name")
    captureStatus := ← readCaptureStatus (← member run "capture_status")
    expectedTickCount := ← asNumber (← member run "expected_tick_count")
    receivedTickCount := ← asNumber (← member run "received_tick_count")
    assertionSetId := ← asText (← member assertionSet "assertion_set_id")
    compiledIrVersion := ← asText (← member assertionSet "compiled_ir_version")
    verdict := ← readVerdict (← member evaluation "verdict")
    assertionResults := entries.map Prod.fst
    warnings := ← warnings.mapM asText
    schemaVersion := ← asText (← member value "evaluation_report_version") }
  let captureDatabase ← asText (← member run "capture_database")
  let evaluatedAt ← asText (← member evaluation "evaluated_at")
  let passedCount ← asNumber (← member evaluation "passed_count")
  let failedCount ← asNumber (← member evaluation "failed_count")
  let inconclusiveCount ← asNumber (← member evaluation "inconclusive_count")
  if passedCount = report.passedCount ∧ failedCount = report.failedCount ∧
      inconclusiveCount = report.inconclusiveCount then
    some ⟨report, captureDatabase, evaluatedAt, entries.map Prod.snd,
      (List.length_map _).trans (List.length_map _).symm⟩
  else none

/-- The report that a text holds. -/
def readReportText (text : String) : Option WrittenReport :=
  (loads text).bind readReport

/-! ### Reading what was written -/

section RoundTrip

variable (written : WrittenReport)

theorem readVerdict_value (verdict : EvaluationVerdict) :
    readVerdict (textValue verdict.value) = some verdict := by
  cases verdict <;> decide

theorem readCaptureStatus_value (status : CaptureStatus) :
    readCaptureStatus (textValue (captureStatusValue status)) = some status := by
  cases status <;> decide

theorem readIdentifier_hexadecimal (identifier : ℕ) :
    readIdentifier (textValue (hexadecimal 32 identifier)) = some identifier := by
  unfold readIdentifier
  dsimp only [bind, Option.bind, asText, textValue]
  rw [readHexadecimal_hexadecimal]

/-- A result is read back with its message. -/
theorem readResult_resultValue (entry : AssertionResult × String) :
    readResult (resultValue entry) = some entry := by
  have hmembers : readResult (resultValue entry) =
      (readVerdict (textValue entry.1.verdict.value)).bind fun verdict ↦
        (asFields (fieldsValue entry.1.expected)).bind fun expected ↦
          (asFields (fieldsValue entry.1.observed)).bind fun observed ↦
            (asOptional (optionalValue entry.1.firstFailureTick)).bind fun firstFailureTick ↦
              some ({ entry.1 with
                verdict := verdict
                expected := expected
                observed := observed
                firstFailureTick := firstFailureTick }, entry.2) :=
    rfl
  rw [hmembers, readVerdict_value, Option.bind_some, asFields_fieldsValue, Option.bind_some,
    asFields_fieldsValue, Option.bind_some, asOptional_optionalValue, Option.bind_some]

theorem map_fst_entries : written.entries.map Prod.fst = written.report.assertionResults :=
  List.map_fst_zip written.length_messages.ge

theorem map_snd_entries : written.entries.map Prod.snd = written.messages :=
  List.map_snd_zip written.length_messages.le

/-- A report whose counts are those of some results is read back. -/
theorem readCounted {entries : List (AssertionResult × String)}
    (hentries : written.entries = entries) :
    (if written.report.passedCount = EvaluationReport.passedCount
          { written.report with assertionResults := entries.map Prod.fst } ∧
        written.report.failedCount = EvaluationReport.failedCount
          { written.report with assertionResults := entries.map Prod.fst } ∧
        written.report.inconclusiveCount = EvaluationReport.inconclusiveCount
          { written.report with assertionResults := entries.map Prod.fst } then
      some (⟨{ written.report with assertionResults := entries.map Prod.fst },
        written.captureDatabase, written.evaluatedAt, entries.map Prod.snd,
        (List.length_map _).trans (List.length_map _).symm⟩ : WrittenReport)
    else none) = some written := by
  have hreport : { written.report with assertionResults := entries.map Prod.fst } =
      written.report := by
    rw [← hentries, map_fst_entries]
  have hmessages : entries.map Prod.snd = written.messages := by
    rw [← hentries, map_snd_entries]
  rw [if_pos (by rw [hreport]; exact ⟨rfl, rfl, rfl⟩)]
  exact congrArg some (WrittenReport.ext hreport rfl rfl hmessages)

theorem member_runValue :
    member (runValue written) "application_test_id" =
        some (textValue (hexadecimal 32 written.report.applicationTestId)) ∧
      member (runValue written) "run_id" =
        some (textValue (hexadecimal 32 written.report.runId)) ∧
      member (runValue written) "capture_database" = some (textValue written.captureDatabase) ∧
      member (runValue written) "capture_status" =
        some (textValue (captureStatusValue written.report.captureStatus)) ∧
      member (runValue written) "expected_tick_count" =
        some (numberValue written.report.expectedTickCount) ∧
      member (runValue written) "received_tick_count" =
        some (numberValue written.report.receivedTickCount) :=
  ⟨rfl, rfl, rfl, rfl, rfl, rfl⟩

theorem member_evaluationValue :
    member (evaluationValue written) "evaluated_at" = some (textValue written.evaluatedAt) ∧
      member (evaluationValue written) "verdict" =
        some (textValue written.report.verdict.value) ∧
      member (evaluationValue written) "passed_count" =
        some (numberValue written.report.passedCount) ∧
      member (evaluationValue written) "failed_count" =
        some (numberValue written.report.failedCount) ∧
      member (evaluationValue written) "inconclusive_count" =
        some (numberValue written.report.inconclusiveCount) ∧
      member (evaluationValue written) "warnings" =
        some (.array (written.report.warnings.map textValue)) :=
  ⟨rfl, rfl, rfl, rfl, rfl, rfl⟩

theorem member_asEvaluationReport :
    member (asEvaluationReport written) "evaluation_report_version" =
        some (textValue written.report.schemaVersion) ∧
      member (asEvaluationReport written) "test" =
        some (.object [("test_id", textValue (hexadecimal 32 written.report.testId)),
          ("name", textValue written.report.testName)]) ∧
      member (asEvaluationReport written) "run" = some (runValue written) ∧
      member (asEvaluationReport written) "assertion_set" =
        some (.object [("assertion_set_id", textValue written.report.assertionSetId),
          ("compiled_ir_version", textValue written.report.compiledIrVersion)]) ∧
      member (asEvaluationReport written) "evaluation" = some (evaluationValue written) ∧
      member (asEvaluationReport written) "assertions" =
        some (.array (written.entries.map resultValue)) :=
  ⟨rfl, rfl, rfl, rfl, rfl, rfl⟩

/-- A report is read back from its document. -/
theorem readReport_asEvaluationReport :
    readReport (asEvaluationReport written) = some written := by
  have hentries : (written.entries.map resultValue).mapM readResult = some written.entries :=
    mapM_map_eq_some readResult_resultValue written.entries
  have hwarnings : (written.report.warnings.map textValue).mapM asText =
      some written.report.warnings :=
    @mapM_map_eq_some _ _ textValue asText (fun _ ↦ rfl) written.report.warnings
  obtain ⟨hversion, htest, hrun, hset, hevaluation, hassertions⟩ :=
    member_asEvaluationReport written
  obtain ⟨happlicationTestId, hrunId, hdatabase, hstatus, hexpected, hreceived⟩ :=
    member_runValue written
  obtain ⟨hevaluatedAt, hverdict, hpassed, hfailed, hinconclusive, hwarning⟩ :=
    member_evaluationValue written
  have htestId (first second : JsonValue) :
      member (.object [("test_id", first), ("name", second)]) "test_id" = some first := rfl
  have hname (first second : JsonValue) :
      member (.object [("test_id", first), ("name", second)]) "name" = some second := rfl
  have hsetId (first second : JsonValue) :
      member (.object [("assertion_set_id", first), ("compiled_ir_version", second)])
        "assertion_set_id" = some first := rfl
  have hcompiled (first second : JsonValue) :
      member (.object [("assertion_set_id", first), ("compiled_ir_version", second)])
        "compiled_ir_version" = some second := rfl
  unfold readReport
  rw [htest, hrun, hset, hevaluation, hassertions, hversion]
  dsimp only [bind, Option.bind]
  rw [htestId, hname, hsetId, hcompiled, happlicationTestId, hrunId, hdatabase, hstatus,
    hexpected, hreceived, hevaluatedAt, hverdict, hpassed, hfailed, hinconclusive, hwarning]
  dsimp only [asItems]
  rw [hentries, hwarnings]
  dsimp only
  rw [readIdentifier_hexadecimal, readIdentifier_hexadecimal, readIdentifier_hexadecimal,
    readCaptureStatus_value, readVerdict_value]
  exact readCounted written rfl

/-- Whether Python can hold the floats among the fields of a report. -/
def WrittenReport.Printed : Prop :=
  ∀ result ∈ written.report.assertionResults, ∀ field ∈ result.expected ++ result.observed,
    IsPrinted field.2

theorem printed_resultValue {entry : AssertionResult × String}
    (hprinted : ∀ field ∈ entry.1.expected ++ entry.1.observed, IsPrinted field.2) :
    (resultValue entry).Printed := by
  obtain ⟨hexpected, hobserved⟩ := List.forall_mem_append.1 hprinted
  unfold resultValue
  refine printed_object ?_
  simp only [List.forall_mem_cons, printed_textValue, printed_numberValue, printed_integerValue,
    printed_optionalValue, true_and]
  exact ⟨printed_fieldsValue hexpected, printed_fieldsValue hobserved,
    fun _ hmember ↦ absurd hmember List.not_mem_nil⟩

theorem printed_runValue : (runValue written).Printed := by
  unfold runValue
  refine printed_object ?_
  simp only [List.forall_mem_cons, printed_textValue, printed_numberValue, true_and]
  exact fun _ hmember ↦ absurd hmember List.not_mem_nil

theorem printed_evaluationValue : (evaluationValue written).Printed := by
  have hwarnings : (JsonValue.array (written.report.warnings.map textValue)).Printed := by
    refine printed_array fun value hvalue ↦ ?_
    obtain ⟨warning, -, rfl⟩ := List.mem_map.1 hvalue
    exact printed_textValue warning
  unfold evaluationValue
  refine printed_object ?_
  simp only [List.forall_mem_cons, printed_textValue, printed_numberValue, true_and]
  exact ⟨hwarnings, fun _ hmember ↦ absurd hmember List.not_mem_nil⟩

variable {written}

theorem printed_asEvaluationReport (hprinted : written.Printed) :
    (asEvaluationReport written).Printed := by
  have hentries : (JsonValue.array (written.entries.map resultValue)).Printed := by
    refine printed_array fun value hvalue ↦ ?_
    obtain ⟨entry, hentry, rfl⟩ := List.mem_map.1 hvalue
    exact printed_resultValue (hprinted entry.1 (List.of_mem_zip hentry).1)
  have htexts (first second : String × String) :
      (JsonValue.object [(first.1, textValue first.2),
        (second.1, textValue second.2)]).Printed := by
    refine printed_object ?_
    simp only [List.forall_mem_cons, printed_textValue, true_and]
    exact fun _ hmember ↦ absurd hmember List.not_mem_nil
  unfold asEvaluationReport
  refine printed_object ?_
  simp only [List.forall_mem_cons, printed_textValue, printed_runValue, printed_evaluationValue,
    true_and]
  exact ⟨htexts ("test_id", _) ("name", _),
    htexts ("assertion_set_id", _) ("compiled_ir_version", _), hentries,
    fun _ hmember ↦ absurd hmember List.not_mem_nil⟩

/-- The JSON text of every report, whatever its indentation, its messages and its other texts, is
read back as the report: every result with its message, in order, the verdict, and counts that are
those of the results. -/
theorem evaluationReport_text (hprinted : written.Printed) {indent : Option ℤ} {text : String}
    (htext : dumpsEvaluationReport written indent = .ok text) :
    readReportText text = some written := by
  have hloads : loads text = some (asEvaluationReport written) :=
    loads_dumpsLine (printed_asEvaluationReport hprinted) htext
  rw [readReportText, hloads, Option.bind_some, readReport_asEvaluationReport]

/-- A report of one failed assertion, whose message has a line feed. -/
def failedReport : WrittenReport where
  report :=
    { testId := 0x1f
      applicationTestId := 2
      runId := 3
      testName := "door \"A\""
      captureStatus := .incomplete
      expectedTickCount := 10
      receivedTickCount := 9
      assertionSetId := originalAssertionSetId
      compiledIrVersion := "1.1"
      verdict := .fail
      assertionResults := [⟨0, .fail, "pwm_input", 1, "duty_cycle_near", 5, 5,
        [("duty_cycle", .float (.finite (1 / 4)))], [("duty_cycle", .none)], 0, 0, 0, 1, some 5⟩]
      warnings := ["µ"] }
  captureDatabase := "run.sqlite"
  evaluatedAt := "2026-01-01T00:00:00+00:00"
  messages := ["low\nduty"]
  length_messages := rfl

theorem evaluationReport_text_failedReport : ∃ text,
    dumpsEvaluationReport failedReport none = .ok text ∧
      readReportText text = some failedReport := by
  have hquarter : (PyFloat.finite (1 / 4)).Printed :=
    ⟨25, -2, by decide, by decide, by decide, by norm_num⟩
  have hprinted : failedReport.Printed :=
    List.forall_mem_singleton.2 (List.forall_mem_cons.2
      ⟨hquarter, List.forall_mem_singleton.2 trivial⟩)
  have hscalars : (asEvaluationReport failedReport).scalars.all hasText = true := by
    unfold asEvaluationReport
    decide +kernel
  have htext := dumpsLine_of_hasText hscalars none false
  exact ⟨_, htext, evaluationReport_text hprinted htext⟩

end RoundTrip

/-! ### Counts -/

section Counts

variable {run : CapturedRunIR} {assertionSetId : String} {report : EvaluationReport}

/-- The three counts are those of all results. -/
theorem counts_add (report : EvaluationReport) :
    report.passedCount + report.failedCount + report.inconclusiveCount =
      report.assertionResults.length := by
  unfold EvaluationReport.passedCount EvaluationReport.failedCount
    EvaluationReport.inconclusiveCount EvaluationReport.verdictCount
  induction report.assertionResults with
  | nil => rfl
  | cons result results ih =>
    rw [List.countP_cons, List.countP_cons, List.countP_cons, List.length_cons, ← ih]
    cases result.verdict <;> simp <;> omega

theorem verdictCount_eq_zero {verdict : EvaluationVerdict} :
    report.verdictCount verdict = 0 ↔
      verdict ∉ report.assertionResults.map AssertionResult.verdict := by
  rw [EvaluationReport.verdictCount, List.countP_eq_zero, List.mem_map]
  constructor
  · rintro hnone ⟨result, hresult, hverdict⟩
    exact hnone result hresult (decide_eq_true hverdict)
  · intro hnone result hresult hverdict
    exact hnone ⟨result, hresult, of_decide_eq_true hverdict⟩

/-- There are results and all passed exactly when the counts say so. -/
theorem allPassed_iff (report : EvaluationReport) :
    (report.assertionResults.map AssertionResult.verdict ≠ [] ∧
        ∀ verdict ∈ report.assertionResults.map AssertionResult.verdict, verdict = .pass) ↔
      0 < report.passedCount ∧ report.failedCount = 0 ∧ report.inconclusiveCount = 0 := by
  have htotal := counts_add report
  rw [EvaluationReport.failedCount, EvaluationReport.inconclusiveCount] at *
  constructor
  · rintro ⟨hnonempty, hpass⟩
    have hfail : report.verdictCount .fail = 0 :=
      verdictCount_eq_zero.2 fun hfail ↦ absurd (hpass _ hfail) (by decide)
    have hinconclusive : report.verdictCount .inconclusive = 0 :=
      verdictCount_eq_zero.2 fun hinconclusive ↦ absurd (hpass _ hinconclusive) (by decide)
    have hresults : 0 < report.assertionResults.length := by
      rw [List.length_pos_iff]
      exact fun hempty ↦ hnonempty (by rw [hempty, List.map_nil])
    exact ⟨by omega, hfail, hinconclusive⟩
  · rintro ⟨hpassed, hfail, hinconclusive⟩
    refine ⟨fun hempty ↦ ?_, fun verdict hverdict ↦ ?_⟩
    · rw [List.map_eq_nil_iff] at hempty
      rw [hempty, List.length_nil] at htotal
      omega
    · cases verdict with
      | pass => rfl
      | fail => exact absurd hverdict (verdictCount_eq_zero.1 hfail)
      | inconclusive => exact absurd hverdict (verdictCount_eq_zero.1 hinconclusive)

/-- What a report says of its run and its results. -/
structure EvaluationReport.Accounts (report : EvaluationReport) (run : CapturedRunIR)
    (assertions : List CompiledAssertion) : Prop where
  results : List.Forall₂ (fun assertion result ↦
    evaluateAssertion ⟨run⟩ assertion = .ok result) assertions report.assertionResults
  total : report.passedCount + report.failedCount + report.inconclusiveCount = assertions.length
  fail : report.verdict = .fail ↔ 0 < report.failedCount
  pass : report.verdict = .pass ↔ 0 < report.passedCount ∧ report.failedCount = 0 ∧
    report.inconclusiveCount = 0 ∧ report.captureStatus = .complete ∧
      ∀ error ∈ run.applicationErrors, error.recoverable = true
  warnings : report.warnings = [] ↔ report.captureStatus = .complete ∧ assertions ≠ [] ∧
    run.applicationErrors = []

theorem reportWarnings_eq_nil {captureStatus : CaptureStatus}
    {expectedTickCount receivedTickCount assertionCount errorCount nonRecoverableCount : ℕ} :
    reportWarnings captureStatus expectedTickCount receivedTickCount assertionCount errorCount
      nonRecoverableCount = [] ↔
        captureStatus = .complete ∧ assertionCount ≠ 0 ∧ errorCount = 0 := by
  unfold reportWarnings
  by_cases hcomplete : captureStatus = .complete <;> by_cases hcount : assertionCount = 0 <;>
    by_cases herrors : errorCount = 0 <;> simp [hcomplete, hcount, herrors]

/-- Every evaluation that returns reports one result for each stored assertion, in order, with
counts that add up to their number. The verdict is a failure exactly when a result failed, and a
pass exactly when there are results, all passed, of a complete capture without errors that are not
recoverable. There is no warning exactly when the capture is complete, without errors, and there is
an assertion. -/
theorem counts_of_evaluate
    (hreport : AssertionEvaluator.evaluate run assertionSetId = .ok report) :
    ∃ assertionSet, run.assertionSet assertionSetId = .ok assertionSet ∧
      report.Accounts run assertionSet.assertions := by
  unfold AssertionEvaluator.evaluate at hreport
  obtain ⟨-, hreport⟩ := ite_error_eq_ok.1 hreport
  obtain ⟨assertionSet, hset, hreport⟩ := bind_eq_ok.1 hreport
  obtain ⟨results, hresults, hreport⟩ := bind_eq_ok.1 hreport
  have hreport := pure_eq_ok.1 hreport
  have hrelated := mapM_eq_ok.1 hresults
  have hsame : report.assertionResults = results := by rw [← hreport]
  have hstatus : report.captureStatus = run.metadata.status := by rw [← hreport]
  have hverdict : report.verdict =
      overallVerdict (report.assertionResults.map AssertionResult.verdict) report.captureStatus
        (run.applicationErrors.countP fun error ↦ !error.recoverable) := by
    rw [← hreport]
  have hwarnings : report.warnings = reportWarnings report.captureStatus report.expectedTickCount
      report.receivedTickCount report.assertionResults.length run.applicationErrors.length
        (run.applicationErrors.countP fun error ↦ !error.recoverable) := by
    rw [← hreport]
  have hlength : report.assertionResults.length = assertionSet.assertions.length := by
    rw [hsame, hrelated.length_eq]
  have hrecoverable : (run.applicationErrors.countP fun error ↦ !error.recoverable) = 0 ↔
      ∀ error ∈ run.applicationErrors, error.recoverable = true := by
    simp [List.countP_eq_zero]
  refine ⟨assertionSet, hset, hsame ▸ hrelated, (counts_add report).trans hlength, ?_, ?_, ?_⟩
  · rw [hverdict, overallVerdict_eq_fail_iff, Nat.pos_iff_ne_zero, EvaluationReport.failedCount,
      Ne, verdictCount_eq_zero, not_not]
  · have hpassed := allPassed_iff report
    rw [hverdict, overallVerdict_eq_pass_iff, hrecoverable]
    tauto
  · rw [hwarnings, reportWarnings_eq_nil, hlength, Ne, List.length_eq_zero_iff,
      List.length_eq_zero_iff]

/-- A complete capture of one low tick, with an assertion that it is high. -/
def lowRun : CapturedRunIR where
  file :=
    { testId := 0
      applicationTestId := 0
      runId := 0
      testName := "low"
      tickPeriodNs := 1000000
      applicationProtocolVersion := none
      firmwareVersion := none
      assertionSets := [⟨originalAssertionSetId, "Original compiled assertions", "1.1"⟩]
      assertionDefinitions := [⟨originalAssertionSetId, 0, "digital_input", 3, "state_at_tick",
        .object [("expected_state", textValue "HIGH"), ("tick", numberValue 0)]⟩]
      database :=
        { initializeCaptureDatabase 1 Nat.one_pos with
          receivedTickCount := 1
          firstTick := some 0
          lastTick := some 0
          status := .complete
          tickResults := [tickParameters (levelResult 0 false)] } }
  original := rfl

theorem counts_of_evaluate_lowRun : ∃ report,
    AssertionEvaluator.evaluate lowRun originalAssertionSetId = .ok report ∧
      report.verdict = .fail ∧ 0 < report.failedCount := by
  have hevaluated : (AssertionEvaluator.evaluate lowRun originalAssertionSetId).toOption.map
      EvaluationReport.verdict = some .fail := by decide +kernel
  cases hreport : AssertionEvaluator.evaluate lowRun originalAssertionSetId with
  | error error =>
    rw [hreport] at hevaluated
    cases hevaluated
  | ok report =>
    rw [hreport] at hevaluated
    have hfail : report.verdict = .fail := Option.some.inj hevaluated
    obtain ⟨_, -, haccounts⟩ := counts_of_evaluate hreport
    exact ⟨report, rfl, hfail, haccounts.fail.1 hfail⟩

end Counts

end HilRig.Evaluation
