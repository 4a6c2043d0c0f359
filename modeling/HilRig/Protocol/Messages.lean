import HilRig.Models.Identifiers
import Mathlib.Data.Fintype.Basic

/-!
# Application values exchanged with the rig

The public values of the native Application protocol that the host builds and reads, and the
statuses and events of its Transport. Encoding, decoding and the version check belong to the native
package: `NativeProtocol` takes them as given functions over an arbitrary type of wire messages.
-/

set_option autoImplicit false
set_option relaxedAutoImplicit false

namespace HilRig.Protocol

/-- The sixteen-byte identity of one upload. -/
structure TestId where
  bytes : List UInt8
  deriving DecidableEq, Repr

/-- A semantic version. -/
structure ProtocolVersion where
  major : ℕ
  minor : ℕ
  patch : ℕ
  deriving DecidableEq, Repr

/-- Logic voltage of one wire channel record. -/
inductive PeripheralVoltage
  | invalid
  | v3v3
  | v5v
  | v12v
  | v24v
  deriving DecidableEq, Repr

/-- Execution control commands. -/
inductive ControlCommand
  | invalid
  | start
  | abort
  deriving DecidableEq, Repr

/-- Test-independent control commands. -/
inductive GlobalControlCommand
  | invalid
  | resetApplication
  deriving DecidableEq, Repr

/-- What an Application response answers. -/
inductive ResponseScope
  | testConfiguration
  | tick
  | completeTest
  | executionControl
  | globalControl
  deriving DecidableEq, Repr

def ResponseScope.name : ResponseScope → String
  | .testConfiguration => "TEST_CONFIGURATION"
  | .tick => "TICK"
  | .completeTest => "COMPLETE_TEST"
  | .executionControl => "EXECUTION_CONTROL"
  | .globalControl => "GLOBAL_CONTROL"

/-- Outcome of an Application response. -/
inductive ResponseOutcome
  | accepted
  | rejected
  | completed
  | failed
  deriving DecidableEq, Repr

/-- The lower-case member name of an outcome. -/
def ResponseOutcome.nameLower : ResponseOutcome → String
  | .accepted => "accepted"
  | .rejected => "rejected"
  | .completed => "completed"
  | .failed => "failed"

/-- Reason of a negative response. -/
inductive ResponseReason
  | none
  | unsupported
  | operationNotAllowed
  | inconsistentTestId
  | invalidTick
  | lengthMismatch
  | storageUnavailable
  | validationFailed
  | hardwareNotReady
  | internalFailure
  deriving DecidableEq, Repr

def ResponseReason.name : ResponseReason → String
  | .none => "NONE"
  | .unsupported => "UNSUPPORTED"
  | .operationNotAllowed => "OPERATION_NOT_ALLOWED"
  | .inconsistentTestId => "INCONSISTENT_TEST_ID"
  | .invalidTick => "INVALID_TICK"
  | .lengthMismatch => "LENGTH_MISMATCH"
  | .storageUnavailable => "STORAGE_UNAVAILABLE"
  | .validationFailed => "VALIDATION_FAILED"
  | .hardwareNotReady => "HARDWARE_NOT_READY"
  | .internalFailure => "INTERNAL_FAILURE"

/-- Category of an Application error message. -/
inductive ErrorCategory
  | hardware
  | execution
  | timeout
  | retainedData
  | protocol
  | internal
  deriving DecidableEq, Repr

/-- The lower-case member name of an error category. -/
def ErrorCategory.nameLower : ErrorCategory → String
  | .hardware => "hardware"
  | .execution => "execution"
  | .timeout => "timeout"
  | .retainedData => "retained_data"
  | .protocol => "protocol"
  | .internal => "internal"

/-- Validity the rig reports for one result. -/
inductive ResultCondition
  | ok
  | partialResult
  | executionProblem
  | unsupported (text : String)
  deriving DecidableEq, Repr

/-! ### Messages to the rig -/

structure DigitalInputConfig where
  enabled : Bool := false
  voltageLevel : PeripheralVoltage := .invalid
  deriving DecidableEq, Repr

structure DigitalOutputConfig where
  enabled : Bool := false
  voltageLevel : PeripheralVoltage := .invalid
  initialHigh : Bool := false
  deriving DecidableEq, Repr

structure AnalogInputConfig where
  enabled : Bool := false
  deriving DecidableEq, Repr

structure AnalogOutputConfig where
  enabled : Bool := false
  deriving DecidableEq, Repr

structure PWMInputConfig where
  enabled : Bool := false
  voltageLevel : PeripheralVoltage := .invalid
  deriving DecidableEq, Repr

structure PWMOutputConfig where
  enabled : Bool := false
  voltageLevel : PeripheralVoltage := .invalid
  initialPeriodNanoseconds : ℕ := 0
  initialDutyCyclePermyriad : ℕ := 0
  deriving DecidableEq, Repr

structure PWMOutputValue where
  periodNanoseconds : ℕ
  dutyCyclePermyriad : ℕ
  deriving DecidableEq, Repr

/-- The complete fixed configuration of one test. -/
structure TestConfiguration where
  testId : TestId
  tickDurationUs : ℕ
  expectedTickCount : ℕ
  flags : ℕ
  digitalIn : Fin 10 → DigitalInputConfig
  digitalOut : Fin 10 → DigitalOutputConfig
  analogIn : Fin 2 → AnalogInputConfig
  analogOut : Fin 6 → AnalogOutputConfig
  pwmIn : Fin 2 → PWMInputConfig
  pwmOut : Fin 2 → PWMOutputConfig
  deriving DecidableEq

/-- The complete fixed output state in force from one tick on. -/
structure TestInstruction where
  testId : TestId
  tickNumber : ℕ
  digitalOutputs : Fin 10 → Bool
  analogOutputs : Fin 6 → ℕ
  pwmOutputs : Fin 2 → PWMOutputValue
  deriving DecidableEq

/-- Every Application value the host sends. -/
inductive OutboundMessage
  | systemInfoRequest (requestFirmwareGitHash : Bool)
  | testConfiguration (configuration : TestConfiguration)
  | testInstruction (instruction : TestInstruction)
  | executionControl (testId : TestId) (command : ControlCommand) (flags : ℕ)
  | globalControl (command : GlobalControlCommand) (flags : ℕ)
  deriving DecidableEq

/-! ### Messages from the rig -/

structure SystemInfoResponse where
  protocolVersion : ProtocolVersion
  firmwareVersion : ProtocolVersion
  diagnosticData : List UInt8
  firmwareGitHash : List UInt8
  deriving DecidableEq, Repr

structure ApplicationResponse where
  testId : Option TestId
  scope : ResponseScope
  outcome : ResponseOutcome
  reason : ResponseReason := .none
  tickNumber : ℕ := 0
  controlCommand : ControlCommand := .invalid
  globalControlCommand : GlobalControlCommand := .invalid
  detail : ℕ := 0
  deriving DecidableEq, Repr

structure ApplicationErrorMessage where
  testId : Option TestId
  category : ErrorCategory
  recoverable : Bool
  tickNumber : Option ℕ := none
  detail : ℕ := 0
  diagnosticData : List UInt8 := []
  deriving DecidableEq, Repr

structure PWMInputValue where
  periodNanoseconds : ℕ
  dutyCyclePermyriad : ℕ
  deriving DecidableEq, Repr

structure TestResult where
  testId : TestId
  tickNumber : ℕ
  digitalInputs : List Bool
  analogInputs : List ℤ
  pwmInputs : List PWMInputValue
  condition : ResultCondition
  problemDetail : ℕ
  deriving DecidableEq, Repr

/-- Every Application value the host can decode; `other` is a value of any other type. -/
inductive InboundMessage
  | systemInfoResponse (message : SystemInfoResponse)
  | applicationResponse (message : ApplicationResponse)
  | applicationErrorMessage (message : ApplicationErrorMessage)
  | testResult (message : TestResult)
  | other (typeName : String)
  deriving DecidableEq, Repr

/-! ### Transport -/

/-- Statuses the Transport returns. -/
inductive TransportStatus
  | ok
  | notReady
  | capacityExhausted
  | deliveryFailed
  | messageTooLarge
  | other (name : String)
  deriving DecidableEq, Repr

def TransportStatus.name : TransportStatus → String
  | .ok => "OK"
  | .notReady => "NOT_READY"
  | .capacityExhausted => "CAPACITY_EXHAUSTED"
  | .deliveryFailed => "DELIVERY_FAILED"
  | .messageTooLarge => "MESSAGE_TOO_LARGE"
  | .other name => name

/-- Events the Transport reports; `other` is an event of any type the host does not handle. -/
inductive EventType
  | sessionEstablished
  | sessionReset
  | deliveryConfirmed
  | deliveryFailed
  | protocolError
  | other (name : String)
  deriving DecidableEq, Repr

/-- Operating mode passed to a Transport pass. -/
inductive OperatingMode
  | normal
  | bulkTransfer
  deriving DecidableEq, Repr

/-- The part of the native package that the host calls on Application values: the codec, and the
compatibility check of a peer's protocol version. -/
structure NativeProtocol (Wire : Type) where
  encode : OutboundMessage → Except HilRigError Wire
  decode : Wire → Except HilRigError InboundMessage
  checkProtocolVersion : ProtocolVersion → Except HilRigError Unit

end HilRig.Protocol
