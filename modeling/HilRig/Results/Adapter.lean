import HilRig.Foundations.Fallible
import HilRig.Protocol.Messages
import HilRig.Results.Records

/-!
# Translating decoded result messages into captured records

`ingestApplicationMessage` turns one decoded `TestResult` into the `TickResult` the bound builder
receives, and `ingestApplicationError` one decoded error into an `ApplicationErrorRecord`. Each ends
with the builder's own tick check and with the answer of its submission, which is an input here: the
builder's queue and worker are another thread of the program.
-/

set_option autoImplicit false
set_option relaxedAutoImplicit false

namespace HilRig.Results

open HilRig.Models HilRig.Protocol HilRig.Foundations

/-- The condition a result message reports, as the captured condition. -/
def tickCondition (condition : ResultCondition) : Except HilRigError TickCondition :=
  match condition with
  | .ok => .ok .ok
  | .partialResult => .ok .partialResult
  | .executionProblem => .ok .executionProblem
  | .unsupported text => .error (.session s!"Unsupported TestResult condition: {text}")

/-- The tick result a message denotes. -/
def tickResultOf (message : TestResult) : Except HilRigError TickResult := do
  let condition ← tickCondition message.condition
  if condition = .executionProblem then
    return TickResult.executionProblem message.tickNumber (some message.problemDetail)
  else
    let pwmInputs ← message.pwmInputs.mapM fun value ↦
      PWMMeasurement.create value.periodNanoseconds value.dutyCyclePermyriad
    TickResult.create message.tickNumber message.digitalInputs message.analogInputs pwmInputs
      condition (some message.problemDetail)

/-- Refuse a message whose Application Test ID is not the builder's. -/
def requireBuilderTestId (builder : BuilderHandle) (testId : TestId) (text : String) :
    Except HilRigError Unit := do
  if (← applicationTestIdFromBytes testId.bytes) ≠ builder.applicationTestId then
    .error (.session text)
  else return ()

/-- Validate and hand over one decoded fixed test result; `submission` is what the builder's queue
answers. -/
def ingestApplicationMessage (builder : BuilderHandle) (message : TestResult)
    (submission : Except HilRigError Unit) : Except HilRigError TickResult := do
  requireBuilderTestId builder message.testId
    ("Received TestResult has an Application Test ID that does not match the active " ++
      "captured run")
  let result ← tickResultOf message
  builder.validateTickInRun result.tick
  submission
  return result

/-- Refuse a tick outside the builder's run, when there is a tick. -/
def requireTickInRun (builder : BuilderHandle) (tick : Option ℕ) : Except HilRigError Unit :=
  match tick with
  | some tick => builder.validateTickInRun tick
  | none => .ok ()

/-- The captured form of a decoded application error. -/
def errorRecordOf (message : ApplicationErrorMessage) : ApplicationErrorRecord where
  category := message.category.nameLower
  detail := toString message.detail
  recoverable := message.recoverable
  tick := message.tickNumber
  diagnosticData := message.diagnosticData

/-- Validate and hand over one decoded application error. -/
def ingestApplicationError (builder : BuilderHandle) (message : ApplicationErrorMessage)
    (submission : Except HilRigError Unit) : Except HilRigError ApplicationErrorRecord := do
  match message.testId with
  | some testId =>
    requireBuilderTestId builder testId
      ("Received Application Error has an Application Test ID that does not match the active " ++
        "captured run")
  | none => pure ()
  requireTickInRun builder message.tickNumber
  submission
  return errorRecordOf message

/-! ### What a successful translation says -/

/-- The tick a captured result carries is the message's. -/
theorem tick_of_tickResultOf {message : TestResult} {result : TickResult}
    (hresult : tickResultOf message = .ok result) : result.tick = message.tickNumber := by
  obtain ⟨condition, -, hresult⟩ := bind_eq_ok.1 hresult
  by_cases hproblem : condition = .executionProblem
  · rw [if_pos hproblem] at hresult
    rw [← pure_eq_ok.1 hresult]
    rfl
  · rw [if_neg hproblem] at hresult
    obtain ⟨pwmInputs, -, hresult⟩ := bind_eq_ok.1 hresult
    exact tick_of_create hresult

/-- A tick in the run is below the expected count. -/
theorem lt_of_validateTickInRun {builder : BuilderHandle} {tick : ℕ}
    (hvalid : builder.validateTickInRun tick = .ok ()) : tick < builder.expectedTickCount := by
  unfold BuilderHandle.validateTickInRun at hvalid
  exact Nat.lt_of_not_le (ite_error_eq_ok.1 hvalid).1

/-- A result that is handed over was accepted by the builder, and carries the message's tick, which
is one of the builder's run. -/
theorem ok_of_ingestApplicationMessage {builder : BuilderHandle} {message : TestResult}
    {submission : Except HilRigError Unit} {result : TickResult}
    (hresult : ingestApplicationMessage builder message submission = .ok result) :
    result.tick = message.tickNumber ∧ result.tick < builder.expectedTickCount ∧
      submission = .ok () := by
  obtain ⟨_, -, hresult⟩ := bind_eq_ok.1 hresult
  obtain ⟨translated, htranslated, hresult⟩ := bind_eq_ok.1 hresult
  obtain ⟨_, hvalid, hresult⟩ := bind_eq_ok.1 hresult
  obtain ⟨_, hsubmission, hresult⟩ := bind_eq_ok.1 hresult
  rw [← pure_eq_ok.1 hresult]
  exact ⟨tick_of_tickResultOf htranslated, lt_of_validateTickInRun hvalid, hsubmission⟩

end HilRig.Results
