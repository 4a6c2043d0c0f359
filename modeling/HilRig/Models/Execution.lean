import HilRig.Models.Identifiers
import HilRig.Models.Instructions

/-!
# The compiled, protocol-neutral test

`CompiledTestIR` is the immutable snapshot a compilation returns. Peripherals, operations and the
fields of each record are stored under their text names with scalar values, as the compiler writes
them and as a hand-made snapshot may hold them.
-/

set_option autoImplicit false
set_option relaxedAutoImplicit false

namespace HilRig.Models

/-- A scalar value of the compiled form. -/
inductive IRScalar
  | str (value : String)
  | int (value : ℤ)
  | float (value : PyFloat)
  | bool (value : Bool)
  | none
  deriving DecidableEq, Repr

/-- A read-only mapping of field names to scalars. -/
abbrev Fields := List (String × IRScalar)

/-- `fields[name]`, which raises when the name is absent. -/
def Fields.item (fields : Fields) (name : String) : Except HilRigError IRScalar :=
  match fields.lookup name with
  | some value => .ok value
  | none => .error ⟨.keyError, name⟩

/-- `fields.get(name)`, which is `None` when the name is absent. -/
def Fields.get (fields : Fields) (name : String) : IRScalar :=
  (fields.lookup name).getD .none

/-- All instructions scheduled for one timestamp. -/
structure TimeSlot where
  timestamp : ℕ
  instructions : List Instruction
  deriving DecidableEq, Repr

/-- One compiled peripheral configuration. -/
structure CompiledConfiguration where
  peripheral : String
  channel : ℕ
  parameters : Fields
  deriving DecidableEq, Repr

/-- One compiled stimulus instruction. -/
structure CompiledInstruction where
  instructionId : ℕ
  tick : ℕ
  peripheral : String
  channel : ℕ
  operation : String
  arguments : Fields
  deriving DecidableEq, Repr

/-- One compiled host-side assertion. -/
structure CompiledAssertion where
  assertionId : ℕ
  peripheral : String
  channel : ℕ
  assertion : String
  arguments : Fields
  deriving DecidableEq, Repr

/-- The compiled snapshot of a test, at a positive execution frequency. -/
structure CompiledTestIR where
  testId : ℕ
  name : String
  frequencyMode : String
  frequencyHz : ℕ
  expectedTickCount : ℕ
  startMode : String
  configurations : List CompiledConfiguration
  instructions : List CompiledInstruction
  assertions : List CompiledAssertion
  timeSlots : List TimeSlot
  schemaVersion : String := "1.1"
  frequencyHz_pos : 0 < frequencyHz
  deriving DecidableEq, Repr

/-- The duration of one execution tick in nanoseconds. -/
def CompiledTestIR.tickPeriodNs (ir : CompiledTestIR) : ℕ :=
  1000000000 / ir.frequencyHz

/-- Allocate a fresh Application Test ID for uploading this definition. -/
def CompiledTestIR.newUploadAttempt (ir : CompiledTestIR) (draws : List (Fin (2 ^ 128))) :
    Except HilRigError UploadAttempt :=
  UploadAttempt.create ir.testId draws

end HilRig.Models
