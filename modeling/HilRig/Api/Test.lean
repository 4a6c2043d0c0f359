import HilRig.Api.Validation
import HilRig.Compiler

/-!
# The test under construction

`Test` is the root object of one test definition. Its methods are stateful computations that may
raise; the state they leave is kept when they raise, so that what a failed call has changed is
visible.

Every public method of a channel handle or an expectation object validates its arguments and then
performs one of four operations on the test: it configures a channel, schedules a stimulus, or adds
an assertion at one tick or over a range. `Request` is such an operation, with its validation, or a
method of the test itself, and `perform` carries it out.
-/

set_option autoImplicit false
set_option relaxedAutoImplicit false

namespace HilRig.Api

open HilRig.Models HilRig.Foundations

/-- The root object of one test definition. A handle is stored under its channel. -/
structure Test where
  testId : Fin (2 ^ 128)
  name : String
  configuration : Configuration := {}
  testConfigurationSet : Bool := false
  instructions : List Instruction := []
  assertions : List Assertion := []
  nextInstructionId : ℕ := 0
  nextAssertionId : ℕ := 0
  handles : List Channel := []
  compiledPlan : Option CompiledTestIR := none
  deriving DecidableEq

/-- Computations on a test that may raise. -/
abbrev TestM := EStateM HilRigError Test

/-- Make a test with a fresh random identifier. -/
def Test.create (testId : Fin (2 ^ 128)) (name : Passed String) : Except HilRigError Test :=
  match name with
  | .value name =>
    if name.toList.all isSpace then .error (.value "A test name must be a non-empty string")
    else .ok { testId := testId, name := name }
  | .mistyped => .error (.value "A test name must be a non-empty string")

/-- Run a fallible computation that does not touch the test. -/
def attempt {α : Type} (result : Except HilRigError α) : TestM α :=
  match result with
  | .ok value => pure value
  | .error error => throw error

/-- Refuse to change a compiled test. -/
def ensureMutable : TestM Unit := do
  if (← get).compiledPlan.isSome then
    throw (.frozenTest "A successfully compiled test cannot be changed")

/-! ### Internal operations -/

/-- Store the configuration of one channel. -/
def storeChannelConfiguration (configuration : Configuration) (channel : Channel)
    (peripheral : PeripheralConfiguration) : Except HilRigError Configuration := do
  let _ ← validateChannelIndex channel.kind channel.index
  if peripheral.kind ≠ channel.kind then
    .error (.type
      s!"{channel.kind.value} channel requires {configurationTypeFor channel.kind}")
  else if (configuration.forChannel channel).isSome then
    .error (.configuration
      s!"{channel.kind.value} channel {channel.index} is already configured")
  else
    return { configuration with
      channelConfigurations := configuration.channelConfigurations ++ [(channel, peripheral)] }

def configureChannel (channel : Channel) (peripheral : PeripheralConfiguration) : TestM Unit := do
  ensureMutable
  let configuration ←
    attempt (storeChannelConfiguration (← get).configuration channel peripheral)
  modify fun test ↦ { test with configuration := configuration }

def timestamp (time : TimeOptions) : TestM (Builtin ℕ) := do
  ensureMutable
  attempt (resolveTimestamp (← get).configuration.frequencyMode time)

def timeRange (range : RangeOptions) :
    TestM {bounds : Builtin ℕ × Builtin ℕ // bounds.1.value ≤ bounds.2.value} := do
  ensureMutable
  attempt (resolveTimeRange (← get).configuration.frequencyMode range)

def requireConfiguredChannel (channel : Channel) (usage : String) : TestM Unit := do
  if !isConfigured (← get).configuration channel then
    throw (.configuration (s!"{channel.kind.value} channel {channel.index} must be configured " ++
      s!"before adding {usage}"))

def schedule (factory : ℕ → Instruction) : TestM Unit := do
  ensureMutable
  let instruction := factory (← get).nextInstructionId
  requireConfiguredChannel instruction.channel "stimuli"
  modify fun test ↦ { test with instructions := test.instructions ++ [instruction] }
  modify fun test ↦ { test with nextInstructionId := test.nextInstructionId + 1 }

def addAssertion (factory : ℕ → Assertion) : TestM Unit := do
  ensureMutable
  let assertion := factory (← get).nextAssertionId
  requireConfiguredChannel assertion.channel "assertions"
  modify fun test ↦ { test with assertions := test.assertions ++ [assertion] }
  modify fun test ↦ { test with nextAssertionId := test.nextAssertionId + 1 }

/-! ### Methods of the test -/

/-- Configure test-level timing and start behaviour. -/
def configure (frequencyMode : Passed FrequencyMode) (startMode : Passed StartMode) :
    TestM Unit := do
  ensureMutable
  if (← get).testConfigurationSet then
    throw (.configuration "The Test object is already configured")
  if !(← get).instructions.isEmpty || !(← get).assertions.isEmpty then
    throw (.configuration
      "Test timing configuration must be set before instructions or assertions")
  let frequencyMode ← attempt (requireEnum frequencyMode "frequency_mode" "FrequencyMode")
  let startMode ← attempt (requireEnum startMode "start_mode" "StartMode")
  modify fun test ↦ { test with
    configuration := { test.configuration with
      frequencyMode := frequencyMode, startMode := startMode } }
  modify fun test ↦ { test with testConfigurationSet := true }

/-- The handle of a channel, made on its first use. -/
def handle (kind : ChannelKind) (channel : Passed ℤ) : TestM Channel := do
  let channel ← attempt (match channel with
    | .value index => validateChannelIndex kind index
    | .mistyped => .error (.type "channel must be an integer"))
  if channel ∉ (← get).handles then
    ensureMutable
    modify fun test ↦ { test with handles := test.handles ++ [channel] }
  return channel

/-- An object passed to `expect`. -/
inductive ExpectTarget
  | handle (channel : Channel)
  | foreignHandle (kind : ChannelKind)
  | other
  deriving DecidableEq, Repr

/-- The kinds of channel that assertions can be made about. -/
def inputKinds : List ChannelKind := [.digitalInput, .pwmInput, .analogueInput]

/-- Begin an assertion about an input handle of this test. -/
def expect (target : ExpectTarget) : TestM Channel := do
  ensureMutable
  let unsupported := HilRigError.type
    "expect() supports digital, PWM, or analogue input handles from this Test"
  match target with
  | .other => throw unsupported
  | .foreignHandle kind =>
    if kind ∉ inputKinds then throw unsupported
    else throw (.type "expect() requires an input handle from this Test")
  | .handle channel => if channel.kind ∉ inputKinds then throw unsupported else return channel

/-- Validate, snapshot and freeze this test definition. -/
def compile : TestM CompiledTestIR := do
  match (← get).compiledPlan with
  | some plan => return plan
  | none =>
    let test ← get
    let plan ← attempt (compileTest test.testId test.name test.configuration test.instructions
      test.assertions)
    modify fun test ↦ { test with compiledPlan := some plan }
    return plan

/-! ### Requests -/

/-- What a public call asks of the test: its own methods, or one of the four operations of handles
and expectation objects with the validation that comes before it. -/
inductive Request
  | configure (frequencyMode : Passed FrequencyMode) (startMode : Passed StartMode)
  | handle (kind : ChannelKind) (channel : Passed ℤ)
  | expect (target : ExpectTarget)
  | compile
  | configureChannel (channel : Channel) (validated : Except HilRigError PeripheralConfiguration)
  | stimulate (channel : Channel)
      (validated : Configuration → Except HilRigError Stimulus) (time : TimeOptions)
  | assertAt (channel : Channel) (validated : Except HilRigError (Builtin ℕ → Expectation))
      (time : TimeOptions)
  | assertOver (channel : Channel)
      (validated : Except HilRigError (Builtin ℕ → Builtin ℕ → Expectation))
      (range : Except HilRigError RangeOptions)

/-- Carry out a request. -/
def perform : Request → TestM Unit
  | .configure frequencyMode startMode => configure frequencyMode startMode
  | .handle kind channel => discard (handle kind channel)
  | .expect target => discard (expect target)
  | .compile => discard compile
  | .configureChannel channel validated => do
    let peripheral ← attempt validated
    configureChannel channel peripheral
  | .stimulate channel validated time => do
    let stimulus ← attempt (validated (← get).configuration)
    let tick ← timestamp time
    schedule fun instructionId ↦ ⟨instructionId, tick.value, channel, stimulus⟩
  | .assertAt channel validated time => do
    let expectation ← attempt validated
    let tick ← timestamp time
    addAssertion fun assertionId ↦ ⟨assertionId, channel, expectation tick⟩
  | .assertOver channel validated range => do
    let expectation ← attempt validated
    let range ← attempt range
    let bounds ← timeRange range
    addAssertion fun assertionId ↦
      ⟨assertionId, channel, expectation bounds.val.1 bounds.val.2⟩

end HilRig.Api
