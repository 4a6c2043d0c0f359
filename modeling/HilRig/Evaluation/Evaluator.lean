import HilRig.Evaluation.Analogue
import HilRig.Evaluation.Digital
import HilRig.Evaluation.Pwm

/-!
# Dispatch of stored assertions and the overall verdict

`AssertionEvaluator.evaluate` reads one assertion set of a finalized capture, runs the registered
handler of each assertion, and combines their verdicts with the status of the capture and its stored
errors. The time of the evaluation and the name of the capture file are left out of the report.
-/

set_option autoImplicit false
set_option relaxedAutoImplicit false

namespace HilRig.Evaluation

open HilRig.Models HilRig.Results HilRig.Foundations

/-- The handlers by peripheral and operation. -/
def evaluatorRegistry : List ((String × String) × AssertionHandler) :=
  [(("digital_input", "state_at_tick"), evaluateStateAtTick),
    (("digital_input", "remain_high"), evaluateRemainHigh),
    (("digital_input", "remain_low"), evaluateRemainLow),
    (("digital_input", "transition"), evaluateTransition),
    (("pwm_input", "period_near"), evaluatePeriodNear),
    (("pwm_input", "frequency_near"), evaluateFrequencyNear),
    (("pwm_input", "duty_cycle_near"), evaluateDutyCycleNear),
    (("pwm_input", "waveform_near"), evaluateWaveformNear),
    (("pwm_input", "frequency_remain_within"), evaluateFrequencyRemainWithin),
    (("pwm_input", "duty_cycle_remain_within"), evaluateDutyCycleRemainWithin),
    (("analogue_input", "near"), evaluateNear),
    (("analogue_input", "within"), evaluateWithin),
    (("analogue_input", "remain_within"), evaluateRemainWithin),
    (("analogue_input", "remain_above"), evaluateRemainAbove),
    (("analogue_input", "remain_below"), evaluateRemainBelow)]

/-- Run the handler of one assertion. -/
def evaluateAssertion (context : EvaluationContext) (assertion : CompiledAssertion) :
    Except HilRigError AssertionResult :=
  match evaluatorRegistry.lookup (assertion.peripheral, assertion.assertion) with
  | some handler => handler assertion context
  | none => .error ⟨.unsupportedAssertion,
      s!"No evaluator is registered for {assertion.peripheral}.{assertion.assertion} " ++
        s!"(assertion {assertion.assertionId})"⟩

/-- The stored text of a capture status. -/
def captureStatusValue : CaptureStatus → String
  | .inProgress => "in_progress"
  | .complete => "complete"
  | .incomplete => "incomplete"
  | .sessionLost => "session_lost"
  | .protocolError => "protocol_error"
  | .aborted => "aborted"

def overallVerdict (verdicts : List EvaluationVerdict) (captureStatus : CaptureStatus)
    (nonRecoverableErrorCount : ℕ) : EvaluationVerdict :=
  if .fail ∈ verdicts then .fail
  else if verdicts = [] ∨ .inconclusive ∈ verdicts ∨ captureStatus ≠ .complete ∨
      nonRecoverableErrorCount ≠ 0 then .inconclusive
  else .pass

def reportWarnings (captureStatus : CaptureStatus) (expectedTickCount receivedTickCount
    assertionCount applicationErrorCount nonRecoverableErrorCount : ℕ) : List String :=
  (if captureStatus ≠ .complete then
    [s!"Capture status is {captureStatusValue captureStatus}; received {receivedTickCount} of " ++
      s!"{expectedTickCount} expected fixed-tick results."]
  else []) ++
  (if assertionCount = 0 then ["The selected assertion set contains no assertions."] else []) ++
  (if applicationErrorCount ≠ 0 then
    [s!"The capture contains {applicationErrorCount} application-layer errors, " ++
      s!"including {nonRecoverableErrorCount} non-recoverable errors."]
  else [])

/-- The result of evaluating one assertion set against a captured run. -/
structure EvaluationReport where
  testId : ℕ
  applicationTestId : ℕ
  runId : ℕ
  testName : String
  captureStatus : CaptureStatus
  expectedTickCount : ℕ
  receivedTickCount : ℕ
  assertionSetId : String
  compiledIrVersion : String
  verdict : EvaluationVerdict
  assertionResults : List AssertionResult
  warnings : List String
  schemaVersion : String := "1.1"
  deriving DecidableEq, Repr

/-- Evaluate one stored assertion set against a finalized captured run. -/
def AssertionEvaluator.evaluate (capturedRun : CapturedRunIR) (assertionSetId : String) :
    Except HilRigError EvaluationReport := do
  let metadata := capturedRun.metadata
  if metadata.status = .inProgress then
    .error ⟨.evaluation, "A captured run must be finalized before evaluation"⟩
  else
    let assertionSet ← capturedRun.assertionSet assertionSetId
    let results ← assertionSet.assertions.mapM (evaluateAssertion ⟨capturedRun⟩)
    let applicationErrors := capturedRun.applicationErrors
    let nonRecoverableErrorCount := applicationErrors.countP fun error ↦ !error.recoverable
    return {
      testId := metadata.testId
      applicationTestId := metadata.applicationTestId
      runId := metadata.runId
      testName := metadata.testName
      captureStatus := metadata.status
      expectedTickCount := metadata.expectedTickCount
      receivedTickCount := metadata.receivedTickCount
      assertionSetId := assertionSet.assertionSetId
      compiledIrVersion := assertionSet.compiledIrVersion
      verdict := overallVerdict (results.map AssertionResult.verdict) metadata.status
        nonRecoverableErrorCount
      assertionResults := results
      warnings := reportWarnings metadata.status metadata.expectedTickCount
        metadata.receivedTickCount results.length applicationErrors.length
        nonRecoverableErrorCount }

/-- Evaluate the original assertion set. -/
def evaluateAssertions (capturedRun : CapturedRunIR) : Except HilRigError EvaluationReport :=
  AssertionEvaluator.evaluate capturedRun originalAssertionSetId

end HilRig.Evaluation
