import HilRig.Timing

/-!
# Validation of the arguments of public calls

Each function takes the object passed for a parameter and the name of that parameter, and returns
the value to be stored or raises an error with the parameter's name. Floats that passed are finite,
so they are returned as the decimals they print.
-/

set_option autoImplicit false
set_option relaxedAutoImplicit false

namespace HilRig.Api

open HilRig.Models HilRig.Foundations

def maxAnalogueOutputVoltage : ℚ := 20

def nanosecondsPerSecond : ℚ := 1000000000

def uint32Max : ℕ := 2 ^ 32 - 1

section Enumerations

variable {Member : Type}

/-- A member of an enumeration. -/
def requireEnum (value : Passed Member) (name enumeration : String) :
    Except HilRigError Member :=
  match value with
  | .value member => .ok member
  | .mistyped => .error (.type s!"{name} must be a {enumeration}")

end Enumerations

/-! ### Floats -/

def number (value : Passed Number) (name : String) : Except HilRigError ℚ :=
  match value with
  | .mistyped => .error (.type s!"{name} must be a number")
  | .value value => do
    match ← value.toFloat with
    | .finite converted => return converted
    | _ => .error (.value s!"{name} must be finite")

def nonNegativeNumber (value : Passed Number) (name : String) : Except HilRigError ℚ := do
  let converted ← number value name
  if converted < 0 then .error (.value s!"{name} must be non-negative") else return converted

def positiveNumber (value : Passed Number) (name : String) : Except HilRigError ℚ := do
  let converted ← number value name
  if converted ≤ 0 then .error (.value s!"{name} must be greater than zero")
  else return converted

def dutyCycle (value : Passed Number) (name : String) : Except HilRigError ℚ := do
  let converted ← number value name
  if 0 ≤ converted ∧ converted ≤ 1 then return converted
  else .error (.value s!"{name} must be between 0.0 and 1.0")

/-- The decimal of a number that has passed as a finite float. -/
def printedDecimal (value : Passed Number) : Except HilRigError ℚ :=
  match value with
  | .mistyped => .error ⟨.native, "decimal.InvalidOperation"⟩
  | .value value => do
    match ← value.toDecimal with
    | some decimal => return decimal
    | none => .error ⟨.native, "decimal.InvalidOperation"⟩

/-- Validate a duty cycle that can be represented exactly as a permyriad. -/
def protocolPwmDutyCycle (value : Passed Number) (name : String) : Except HilRigError ℚ := do
  let converted ← dutyCycle value name
  let permyriad ← trapped (defaultDecimalContext.multiply (← printedDecimal value) 10000)
  if permyriad ≠ roundHalfEven permyriad then
    .error (.value s!"{name} must align with one permyriad (0.0001)")
  else return converted

/-- Validate a frequency with an exact unsigned 32-bit nanosecond period. -/
def protocolPwmFrequency (value : Passed Number) (name : String) : Except HilRigError ℚ := do
  let converted ← positiveNumber value name
  let frequency ← printedDecimal value
  let periodNs ← trapped (defaultDecimalContext.divide nanosecondsPerSecond frequency)
  if periodNs ≠ roundHalfEven periodNs then
    .error (.value s!"{name} must produce a whole-nanosecond period")
  else if uint32Max < periodNs then
    .error (.value s!"{name} produces a period outside the uint32 nanosecond range")
  else return converted

section Bounds

variable {α : Type} [LT α] [DecidableLT α]

def orderedBounds (minimum maximum : α) (names : String) : Except HilRigError Unit :=
  if maximum < minimum then .error (.value s!"{names} must be in ascending order") else .ok ()

end Bounds

/-! ### Voltages -/

/-- Convert a finite voltage to an exact whole number of microvolts. -/
def voltsToMicrovolts (value : Passed Quantity) (name : String) : Except HilRigError ℤ :=
  match value with
  | .mistyped => .error (.type s!"{name} must be a number")
  | .value quantity => do
    match ← quantity.toDecimal with
    | none => .error (.value s!"{name} must be finite")
    | some volts =>
      let microvolts ← trapped (defaultDecimalContext.multiply volts 1000000)
      if microvolts ≠ roundHalfEven microvolts then
        .error (.value s!"{name} must align with a whole microvolt")
      else return roundHalfEven microvolts

def nonNegativeMicrovolts (value : Passed Quantity) (name : String) : Except HilRigError ℤ := do
  let microvolts ← voltsToMicrovolts value name
  if microvolts < 0 then .error (.value s!"{name} must be non-negative") else return microvolts

def voltageBounds (minimumV maximumV : Passed Quantity) : Except HilRigError (ℤ × ℤ) := do
  let minimumUv ← voltsToMicrovolts minimumV "minimum_v"
  let maximumUv ← voltsToMicrovolts maximumV "maximum_v"
  orderedBounds minimumUv maximumUv "minimum_v and maximum_v"
  return (minimumUv, maximumUv)

/-- A number passed where a `Decimal` is accepted too. -/
def Passed.quantity (value : Passed Number) : Passed Quantity :=
  match value with
  | .value value => .value (.number value)
  | .mistyped => .mistyped

def analogueOutputVoltage (value : Passed Number) (name : String) : Except HilRigError ℚ := do
  let converted ← number value name
  if 0 ≤ converted ∧ converted ≤ maxAnalogueOutputVoltage then
    let _ ← voltsToMicrovolts (Passed.quantity value) name
    return converted
  else .error (.value s!"{name} must be between 0 and 20 V")

/-- The logic voltages of each of the two PWM outputs. -/
def validatePwmVoltage (channel : Fin 2) (voltage : LogicVoltage) : Except HilRigError Unit :=
  let allowed : List LogicVoltage := if channel = 0 then [.v3_3, .v5] else [.v12, .v24]
  let domain := if channel = 0 then "3.3 V or 5 V" else "12 V or 24 V"
  if voltage ∈ allowed then .ok ()
  else .error (.configuration s!"PWM output channel {channel} supports only {domain}")

/-! ### Integers, booleans and bytes -/

/-- An integer with a property, which is returned as it was passed; another object fails in the same
way as a bad value. -/
def integer (accepted : ℤ → Bool) (value : Passed (Builtin ℤ)) (message : String) :
    Except HilRigError (Builtin ℕ) :=
  match value with
  | .value integer =>
    if accepted integer.value then .ok (integer.map Int.toNat) else .error (.value message)
  | .mistyped => .error (.value message)

def i2cAddress (address : Passed (Builtin ℤ)) (name : String) :
    Except HilRigError (Builtin ℕ) :=
  integer (fun address ↦ 0 ≤ address ∧ address ≤ 127) address
    s!"{name} must be a 7-bit I2C address (0x00 to 0x7F)"

def nonNegativeInteger (value : Passed (Builtin ℤ)) (name : String) :
    Except HilRigError (Builtin ℕ) :=
  integer (fun value ↦ 0 ≤ value) value s!"{name} must be a non-negative integer"

def positiveInteger (value : Passed (Builtin ℤ)) (name : String) :
    Except HilRigError (Builtin ℕ) :=
  integer (fun value ↦ 0 < value) value s!"{name} must be a positive integer"

def bytes (data : Passed (Builtin (List UInt8))) :
    Except HilRigError (Builtin (List UInt8)) :=
  match data with
  | .value payload => .ok payload
  | .mistyped => .error (.type "data must be bytes")

/-- The member of a boolean type. -/
def requireBool (value : Passed Bool) (message : String) : Except HilRigError Bool :=
  match value with
  | .value value => .ok value
  | .mistyped => .error (.type message)

end HilRig.Api
