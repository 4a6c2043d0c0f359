/-!
# Exceptions raised by the host library

An exception is its class and its message. The classes are those of the library's own hierarchy
that the modelled code raises, the built-in ones it raises or lets through, and `native` for an
exception that leaves a native package or the operating system. `stalled` stands for a wait whose
answer is not part of the modelled run.
-/

set_option autoImplicit false
set_option relaxedAutoImplicit false

namespace HilRig

/-- The class of a raised exception. -/
inductive ExceptionClass
  | valueError
  | typeError
  | indexError
  | keyError
  | overflowError
  | zeroDivisionError
  | assertionError
  | validation
  | configuration
  | peripheral
  | timing
  | frozenTest
  | captureState
  | captureStorage
  | captureSchema
  | protocolIntegration
  | protocolSession
  | evaluation
  | unsupportedAssertion
  | native
  | stalled
  deriving DecidableEq, Repr

/-- A raised exception: its class and its text. -/
structure HilRigError where
  kind : ExceptionClass
  message : String
  deriving DecidableEq, Repr

namespace HilRigError

/-- A `ValueError`. -/
def value (message : String) : HilRigError := ⟨.valueError, message⟩

/-- A `TypeError`. -/
def type (message : String) : HilRigError := ⟨.typeError, message⟩

/-- A `ValidationError`. -/
def validation (message : String) : HilRigError := ⟨.validation, message⟩

/-- A `ConfigurationError`. -/
def configuration (message : String) : HilRigError := ⟨.configuration, message⟩

/-- A `PeripheralError`. -/
def peripheral (message : String) : HilRigError := ⟨.peripheral, message⟩

/-- A `TimingError`. -/
def timing (message : String) : HilRigError := ⟨.timing, message⟩

/-- A `FrozenTestError`. -/
def frozenTest (message : String) : HilRigError := ⟨.frozenTest, message⟩

/-- A `ProtocolIntegrationError`. -/
def integration (message : String) : HilRigError := ⟨.protocolIntegration, message⟩

/-- A `ProtocolSessionError`. -/
def session (message : String) : HilRigError := ⟨.protocolSession, message⟩

/-- A `CaptureStateError`. -/
def state (message : String) : HilRigError := ⟨.captureState, message⟩

/-- A `CaptureStorageError`. -/
def storage (message : String) : HilRigError := ⟨.captureStorage, message⟩

/-- An answer that the modelled run does not contain. -/
def stalled : HilRigError := ⟨.stalled, ""⟩

end HilRigError

end HilRig
