import HilRig.Foundations.Fallible
import HilRig.Models.Execution
import Mathlib.Data.Fintype.Basic

/-!
# Typed records of the incoming result boundary

One `TickResult` holds every fixed measurement of one tick. Its two invariants are fields: a result
that is not an execution problem has a value in every channel, and an execution problem has a value
in none, so a placeholder of the firmware can never be read as a measurement.
-/

set_option autoImplicit false
set_option relaxedAutoImplicit false

namespace HilRig.Results

open HilRig.Foundations

/-- Validity of one fixed-size result. -/
inductive TickCondition
  | ok
  | partialResult
  | executionProblem
  deriving DecidableEq, Repr

/-- State of receiving a run. -/
inductive CaptureStatus
  | inProgress
  | complete
  | incomplete
  | sessionLost
  | protocolError
  | aborted
  deriving DecidableEq, Repr

/-- Communication peripherals that produce variable-length captures. -/
inductive CommunicationPeripheral
  | i2c
  | spi
  | uart
  deriving DecidableEq, Repr

/-- A PWM measurement whose duty is at most ten thousand permyriad. -/
structure PWMMeasurement where
  periodNs : ℕ
  dutyPermyriad : ℕ
  dutyPermyriad_le : dutyPermyriad ≤ 10000
  deriving DecidableEq, Repr

/-- Validate a PWM measurement. -/
def PWMMeasurement.create (periodNs dutyPermyriad : ℕ) : Except HilRigError PWMMeasurement :=
  if h : dutyPermyriad ≤ 10000 then .ok ⟨periodNs, dutyPermyriad, h⟩
  else .error (.value "duty_permyriad must be between 0 and 10000")

/-- All fixed-size input measurements of one tick. -/
structure TickResult where
  tick : ℕ
  digitalInputs : Fin 10 → Option Bool
  analogueInputsUv : Fin 2 → Option ℤ
  pwmInputs : Fin 2 → Option PWMMeasurement
  condition : TickCondition
  problemDetail : Option ℕ
  measured : condition ≠ .executionProblem →
    (∀ channel, (digitalInputs channel).isSome) ∧ (∀ channel, (analogueInputsUv channel).isSome) ∧
      ∀ channel, (pwmInputs channel).isSome
  absent : condition = .executionProblem →
    (∀ channel, digitalInputs channel = none) ∧ (∀ channel, analogueInputsUv channel = none) ∧
      ∀ channel, pwmInputs channel = none
  deriving DecidableEq

/-- A tick whose fixed measurements are all invalid. -/
def TickResult.executionProblem (tick : ℕ) (problemDetail : Option ℕ) : TickResult where
  tick := tick
  digitalInputs := fun _ ↦ none
  analogueInputsUv := fun _ ↦ none
  pwmInputs := fun _ ↦ none
  condition := .executionProblem
  problemDetail := problemDetail
  measured := fun h ↦ absurd rfl h
  absent := fun _ ↦ ⟨fun _ ↦ rfl, fun _ ↦ rfl, fun _ ↦ rfl⟩

/-- A tuple of exactly `count` values, by channel. -/
def exactLength {Value : Type} (values : List Value) (count : ℕ) (name : String) :
    Except HilRigError (Fin count → Value) :=
  if h : values.length = count then .ok fun channel ↦ values.get (channel.cast h.symm)
  else .error (.value s!"{name} must contain exactly {count} values")

/-- Validate a tick result: the tuple lengths, and no values for an execution problem. -/
def TickResult.create (tick : ℕ) (digitalInputs : List Bool) (analogueInputsUv : List ℤ)
    (pwmInputs : List PWMMeasurement) (condition : TickCondition)
    (problemDetail : Option ℕ) : Except HilRigError TickResult := do
  let digital ← exactLength digitalInputs 10 "digital_inputs"
  let analogue ← exactLength analogueInputsUv 2 "analogue_inputs_uv"
  let pwm ← exactLength pwmInputs 2 "pwm_inputs"
  if h : condition = .executionProblem then
    return TickResult.executionProblem tick problemDetail
  else
    return {
      tick := tick
      digitalInputs := fun channel ↦ some (digital channel)
      analogueInputsUv := fun channel ↦ some (analogue channel)
      pwmInputs := fun channel ↦ some (pwm channel)
      condition := condition
      problemDetail := problemDetail
      measured := fun _ ↦ ⟨fun _ ↦ rfl, fun _ ↦ rfl, fun _ ↦ rfl⟩
      absent := fun hcondition ↦ absurd hcondition h }

/-- A validated result carries the tick it was made for. -/
theorem tick_of_create {tick : ℕ} {digitalInputs : List Bool} {analogueInputsUv : List ℤ}
    {pwmInputs : List PWMMeasurement} {condition : TickCondition} {problemDetail : Option ℕ}
    {result : TickResult}
    (hresult : TickResult.create tick digitalInputs analogueInputsUv pwmInputs condition
      problemDetail = .ok result) : result.tick = tick := by
  obtain ⟨digital, -, hresult⟩ := bind_eq_ok.1 hresult
  obtain ⟨analogue, -, hresult⟩ := bind_eq_ok.1 hresult
  obtain ⟨pwm, -, hresult⟩ := bind_eq_ok.1 hresult
  by_cases hproblem : condition = .executionProblem
  · rw [dif_pos hproblem] at hresult
    rw [← pure_eq_ok.1 hresult]
    rfl
  · rw [dif_neg hproblem] at hresult
    rw [← pure_eq_ok.1 hresult]

/-- One raw variable-length communication capture. -/
structure CommunicationResult where
  tick : ℕ
  peripheral : CommunicationPeripheral
  channel : ℕ
  payload : List UInt8
  ordinal : Option ℕ := none
  deriving DecidableEq, Repr

/-- An application-layer diagnostic kept alongside captured evidence; its category is not blank. -/
structure ApplicationErrorRecord where
  category : String
  detail : String
  recoverable : Bool
  tick : Option ℕ := none
  diagnosticData : List UInt8 := []
  deriving DecidableEq, Repr

/-- The identity of a captured-run builder as the protocol side sees it. -/
structure BuilderHandle where
  identity : ℕ
  testId : ℕ
  applicationTestId : ℕ
  expectedTickCount : ℕ
  deriving DecidableEq, Repr

/-- The builder made for one upload attempt of a compiled test. -/
def BuilderHandle.fromCompiledTest (identity : ℕ) (compiledTest : Models.CompiledTestIR)
    (uploadAttempt : Models.UploadAttempt) : Except HilRigError BuilderHandle :=
  if uploadAttempt.definitionTestId ≠ compiledTest.testId then
    .error (.value "upload_attempt belongs to a different compiled test")
  else .ok ⟨identity, compiledTest.testId, uploadAttempt.applicationTestId,
    compiledTest.expectedTickCount⟩

/-- Refuse a tick outside the expected run. -/
def BuilderHandle.validateTickInRun (builder : BuilderHandle) (tick : ℕ) :
    Except HilRigError Unit :=
  if builder.expectedTickCount ≤ tick then
    .error (.value
      s!"tick {tick} is outside expected range 0..{builder.expectedTickCount - 1}")
  else .ok ()

end HilRig.Results
