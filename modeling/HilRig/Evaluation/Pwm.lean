import HilRig.Evaluation.Common

/-!
# Evaluation handlers for PWM-input assertions

A period of zero reports that there is no measurable waveform: it is never accepted, and its
frequency is never computed.
-/

set_option autoImplicit false
set_option relaxedAutoImplicit false

namespace HilRig.Evaluation

open HilRig.Models HilRig.Results HilRig.Foundations

/-! ### Measurements -/

/-- The frequency of a measurement, a quotient of integers. -/
def frequencyHz (measurement : PWMMeasurement) : Except HilRigError ℚ :=
  if measurement.periodNs = 0 then .error ⟨.zeroDivisionError, "division by zero"⟩
  else .ok (toDouble (1000000000 / measurement.periodNs))

/-- The duty cycle of a measurement as a fraction between zero and one. -/
def measuredDutyCycle (measurement : PWMMeasurement) : ℚ :=
  toDouble (measurement.dutyPermyriad / 10000)

/-- Whether a double is near a target; their difference is a double too. -/
def isNearDouble (target tolerance value : ℚ) : Bool :=
  |toDouble (value - target)| ≤ tolerance

/-- Whether a double is between two bounds. -/
def isWithinDoubles (minimum maximum value : ℚ) : Bool :=
  minimum ≤ value ∧ value ≤ maximum

def measurementObserved (measurement : PWMMeasurement) : Except HilRigError Fields := do
  let frequency ←
    if measurement.periodNs = 0 then pure none else some <$> frequencyHz measurement
  return [("period_ns", .int measurement.periodNs), ("frequency_hz", optionalDouble frequency),
    ("duty_permyriad", .int measurement.dutyPermyriad),
    ("duty_cycle", .float (.ofDouble (measuredDutyCycle measurement)))]

namespace Pwm

/-! ### One tick -/

def evaluatePoint (accepts : PWMMeasurement → Except HilRigError Bool)
    (assertion : CompiledAssertion) (context : EvaluationContext) :
    Except HilRigError AssertionResult := do
  let tick ← integerArgument assertion "tick"
  let evidence ← context.pwmPoint assertion.channel tick
  match ← unavailablePointResult assertion evidence, evidence.value with
  | some unavailable, _ => return unavailable
  -- Evidence that is neither missing nor invalid has a value.
  | none, none => .error ⟨.assertionError, ""⟩
  | none, some measurement =>
    let fields ← measurementObserved measurement
    let observed := fields ++ [("tick", .int tick)]
    if measurement.periodNs = 0 then
      makeResult assertion .fail observed (pointCounts tick .fail)
    else
      let accepted ← accepts measurement
      let verdict := if accepted then EvaluationVerdict.pass else .fail
      makeResult assertion verdict observed (pointCounts tick verdict)

/-! ### A range -/

/-- What a range of PWM evidence counts and keeps. -/
structure Counts extends RangeCounts where
  noWaveformCount : ℕ := 0
  minimumObserved : Option ℚ := none
  maximumObserved : Option ℚ := none
  firstFailureValue : Option ℚ := none

/-- The counts with one more item of evidence. -/
def Counts.observe (metric : PWMMeasurement → Except HilRigError ℚ) (accepts : ℚ → Bool)
    (counts : Counts) (evidence : EvidenceSample PWMMeasurement) : Except HilRigError Counts :=
  if evidence.missing then return { counts with missingCount := counts.missingCount + 1 }
  else
    match evidence.value with
    | none => return { counts with invalidCount := counts.invalidCount + 1 }
    | some measurement =>
      if measurement.periodNs = 0 then
        return { counts with
          validCount := counts.validCount + 1
          noWaveformCount := counts.noWaveformCount + 1
          violationCount := counts.violationCount + 1
          firstFailureTick := counts.firstFailureTick.or (some evidence.tick) }
      else do
        let value ← metric measurement
        let counted := { counts with
          validCount := counts.validCount + 1
          minimumObserved :=
            some ((counts.minimumObserved.map fun minimum ↦ min minimum value).getD value)
          maximumObserved :=
            some ((counts.maximumObserved.map fun maximum ↦ max maximum value).getD value) }
        if accepts value then return counted
        else if counted.firstFailureTick.isNone then
          return { counted with
            violationCount := counted.violationCount + 1
            firstFailureTick := some evidence.tick
            firstFailureValue := some value }
        else return { counted with violationCount := counted.violationCount + 1 }

def evaluateMetricRange (metricName : String) (metric : PWMMeasurement → Except HilRigError ℚ)
    (accepts : ℚ → Bool) (assertion : CompiledAssertion) (context : EvaluationContext) :
    Except HilRigError AssertionResult := do
  let fromTick ← integerArgument assertion "from_tick"
  let untilTick ← integerArgument assertion "until_tick"
  let evidence ← context.pwmRange assertion.channel fromTick untilTick
  let counts ← evidence.loop (fun counts item ↦ counts.observe metric accepts item)
    ({} : Counts)
  makeResult assertion
    (rangeVerdict counts.violationCount counts.missingCount counts.invalidCount)
    [(s!"minimum_{metricName}", optionalDouble counts.minimumObserved),
      (s!"maximum_{metricName}", optionalDouble counts.maximumObserved),
      (s!"first_failure_{metricName}", optionalDouble counts.firstFailureValue),
      ("no_waveform_sample_count", .int counts.noWaveformCount)]
    counts.toRangeCounts

end Pwm

/-! ### Handlers -/

def evaluatePeriodNear (assertion : CompiledAssertion) (context : EvaluationContext) :
    Except HilRigError AssertionResult := do
  let periodNs ← integerArgument assertion "period_ns"
  let toleranceNs ← integerArgument assertion "tolerance_ns"
  Pwm.evaluatePoint (fun measurement ↦
    return |(measurement.periodNs : ℤ) - periodNs| ≤ toleranceNs) assertion context

def evaluateFrequencyNear (assertion : CompiledAssertion) (context : EvaluationContext) :
    Except HilRigError AssertionResult := do
  let frequency ← numberArgument assertion "frequency_hz"
  let toleranceHz ← numberArgument assertion "tolerance_hz"
  Pwm.evaluatePoint (fun measurement ↦ do
    let measured ← frequencyHz measurement
    return isNearDouble frequency toleranceHz measured) assertion context

def evaluateDutyCycleNear (assertion : CompiledAssertion) (context : EvaluationContext) :
    Except HilRigError AssertionResult := do
  let dutyCycle ← numberArgument assertion "duty_cycle"
  let tolerance ← numberArgument assertion "duty_cycle_tolerance"
  Pwm.evaluatePoint (fun measurement ↦
    return isNearDouble dutyCycle tolerance (measuredDutyCycle measurement)) assertion context

def evaluateWaveformNear (assertion : CompiledAssertion) (context : EvaluationContext) :
    Except HilRigError AssertionResult := do
  let frequency ← numberArgument assertion "frequency_hz"
  let frequencyToleranceHz ← numberArgument assertion "frequency_tolerance_hz"
  let dutyCycle ← numberArgument assertion "duty_cycle"
  let dutyCycleTolerance ← numberArgument assertion "duty_cycle_tolerance"
  Pwm.evaluatePoint (fun measurement ↦ do
    let measured ← frequencyHz measurement
    return isNearDouble frequency frequencyToleranceHz measured &&
      isNearDouble dutyCycle dutyCycleTolerance (measuredDutyCycle measurement))
    assertion context

def evaluateFrequencyRemainWithin (assertion : CompiledAssertion)
    (context : EvaluationContext) : Except HilRigError AssertionResult := do
  let minimumHz ← numberArgument assertion "minimum_hz"
  let maximumHz ← numberArgument assertion "maximum_hz"
  Pwm.evaluateMetricRange "frequency_hz" frequencyHz (isWithinDoubles minimumHz maximumHz)
    assertion context

def evaluateDutyCycleRemainWithin (assertion : CompiledAssertion)
    (context : EvaluationContext) : Except HilRigError AssertionResult := do
  let minimum ← numberArgument assertion "minimum_duty_cycle"
  let maximum ← numberArgument assertion "maximum_duty_cycle"
  Pwm.evaluateMetricRange "duty_cycle" (fun measurement ↦ .ok (measuredDutyCycle measurement))
    (isWithinDoubles minimum maximum) assertion context

end HilRig.Evaluation
