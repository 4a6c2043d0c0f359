import HilRig.Foundations.OrderedDict
import HilRig.Models.Configuration
import Mathlib.Data.List.Sort

/-!
# Stimulus instructions and host-side assertions

Both are lists under construction in a test. An instruction carries its identifier, its tick, its
channel and the payload of its own class; an assertion carries its identifier, its channel, a tick
or an inclusive tick range, and the arguments of its class. `InstructionList` has the chronological
views of the scheduled instructions.
-/

set_option autoImplicit false
set_option relaxedAutoImplicit false

namespace HilRig.Models

/-- Digital output stimulus operations. -/
inductive DigitalOutputAction
  | high
  | low
  | toggle
  deriving DecidableEq, Repr

def DigitalOutputAction.name : DigitalOutputAction → String
  | .high => "HIGH"
  | .low => "LOW"
  | .toggle => "TOGGLE"

/-- The class of an instruction with its own fields. -/
inductive Stimulus
  | digitalOutput (action : DigitalOutputAction)
  | pwmEnable (enabled : Bool)
  | pwmSet (frequencyHz dutyCycle : PyFloat)
  | pwmSetFrequency (frequencyHz : PyFloat)
  | pwmSetDutyCycle (dutyCycle : PyFloat)
  | analogueOutput (voltage : PyFloat)
  | i2cWrite (address : Builtin ℕ) (data : Builtin (List UInt8))
  | i2cRead (address length : Builtin ℕ)
  | i2cPreloadResponse (data : Builtin (List UInt8))
  | spiTransfer (txData : Builtin (List UInt8)) (rxLength : Builtin ℕ)
  | uartWrite (data : Builtin (List UInt8))
  deriving DecidableEq, Repr

/-- The channel kind whose handle schedules a stimulus. -/
def Stimulus.kind : Stimulus → ChannelKind
  | .digitalOutput .. => .digitalOutput
  | .pwmEnable .. => .pwmOutput
  | .pwmSet .. => .pwmOutput
  | .pwmSetFrequency .. => .pwmOutput
  | .pwmSetDutyCycle .. => .pwmOutput
  | .analogueOutput .. => .analogueOutput
  | .i2cWrite .. => .i2c
  | .i2cRead .. => .i2c
  | .i2cPreloadResponse .. => .i2c
  | .spiTransfer .. => .spi
  | .uartWrite .. => .uart

/-- One timed stimulus instruction. Its tick is compiled as a number whatever object was passed. -/
structure Instruction where
  instructionId : ℕ
  timestamp : ℕ
  channel : Channel
  stimulus : Stimulus
  deriving DecidableEq, Repr

namespace InstructionList

/-- The instructions sorted stably by timestamp. -/
def ordered (instructions : List Instruction) : List Instruction :=
  instructions.insertionSort fun first second ↦ first.timestamp ≤ second.timestamp

/-- Chronological instruction groups keyed by timestamp. -/
def groupByTimestamp (instructions : List Instruction) : List (ℕ × List Instruction) :=
  (ordered instructions).foldl
    (fun grouped instruction ↦
      Foundations.OrderedDict.push instruction.timestamp instruction grouped) []

end InstructionList

/-- The class of an assertion with its own fields: the first group are evaluated at one tick, the
second over an inclusive tick range. -/
inductive Expectation
  | digitalPoint (timestamp : Builtin ℕ) (expectedState : DigitalState)
  | pwmPeriodNear (timestamp : Builtin ℕ) (periodNs toleranceNs : Builtin ℕ)
  | pwmFrequencyNear (timestamp : Builtin ℕ) (frequencyHz toleranceHz : PyFloat)
  | pwmDutyCycleNear (timestamp : Builtin ℕ) (dutyCycle dutyCycleTolerance : PyFloat)
  | pwmWaveformNear (timestamp : Builtin ℕ)
      (frequencyHz frequencyToleranceHz dutyCycle dutyCycleTolerance : PyFloat)
  | analogueNear (timestamp : Builtin ℕ) (targetUv toleranceUv : ℤ)
  | analogueWithin (timestamp : Builtin ℕ) (minimumUv maximumUv : ℤ)
  | digitalRemainHigh (fromTick untilTick : Builtin ℕ)
  | digitalRemainLow (fromTick untilTick : Builtin ℕ)
  | digitalTransition (fromTick untilTick : Builtin ℕ) (fromState toState : DigitalState)
  | pwmFrequencyRemainWithin (fromTick untilTick : Builtin ℕ) (minimumHz maximumHz : PyFloat)
  | pwmDutyCycleRemainWithin (fromTick untilTick : Builtin ℕ)
      (minimumDutyCycle maximumDutyCycle : PyFloat)
  | analogueRemainWithin (fromTick untilTick : Builtin ℕ) (minimumUv maximumUv : ℤ)
  | analogueRemainAbove (fromTick untilTick : Builtin ℕ) (thresholdUv : ℤ)
  | analogueRemainBelow (fromTick untilTick : Builtin ℕ) (thresholdUv : ℤ)
  deriving DecidableEq, Repr

/-- The channel kind whose expectation object adds an assertion. -/
def Expectation.kind : Expectation → ChannelKind
  | .digitalPoint .. => .digitalInput
  | .pwmPeriodNear .. => .pwmInput
  | .pwmFrequencyNear .. => .pwmInput
  | .pwmDutyCycleNear .. => .pwmInput
  | .pwmWaveformNear .. => .pwmInput
  | .analogueNear .. => .analogueInput
  | .analogueWithin .. => .analogueInput
  | .digitalRemainHigh .. => .digitalInput
  | .digitalRemainLow .. => .digitalInput
  | .digitalTransition .. => .digitalInput
  | .pwmFrequencyRemainWithin .. => .pwmInput
  | .pwmDutyCycleRemainWithin .. => .pwmInput
  | .analogueRemainWithin .. => .analogueInput
  | .analogueRemainAbove .. => .analogueInput
  | .analogueRemainBelow .. => .analogueInput

/-- The objects an assertion has for its first and last tick: its timestamp twice for a point
assertion. -/
def Expectation.bounds : Expectation → Builtin ℕ × Builtin ℕ
  | .digitalPoint timestamp _ => (timestamp, timestamp)
  | .pwmPeriodNear timestamp _ _ => (timestamp, timestamp)
  | .pwmFrequencyNear timestamp _ _ => (timestamp, timestamp)
  | .pwmDutyCycleNear timestamp _ _ => (timestamp, timestamp)
  | .pwmWaveformNear timestamp _ _ _ _ => (timestamp, timestamp)
  | .analogueNear timestamp _ _ => (timestamp, timestamp)
  | .analogueWithin timestamp _ _ => (timestamp, timestamp)
  | .digitalRemainHigh fromTick untilTick => (fromTick, untilTick)
  | .digitalRemainLow fromTick untilTick => (fromTick, untilTick)
  | .digitalTransition fromTick untilTick _ _ => (fromTick, untilTick)
  | .pwmFrequencyRemainWithin fromTick untilTick _ _ => (fromTick, untilTick)
  | .pwmDutyCycleRemainWithin fromTick untilTick _ _ => (fromTick, untilTick)
  | .analogueRemainWithin fromTick untilTick _ _ => (fromTick, untilTick)
  | .analogueRemainAbove fromTick untilTick _ => (fromTick, untilTick)
  | .analogueRemainBelow fromTick untilTick _ => (fromTick, untilTick)

/-- The first and last tick an assertion reads. -/
def Expectation.ticks (expectation : Expectation) : ℕ × ℕ :=
  (expectation.bounds.1.value, expectation.bounds.2.value)

/-- Whether no integer of an assertion is a member of an enumeration. -/
def Expectation.isPlain : Expectation → Bool
  | .pwmPeriodNear timestamp periodNs toleranceNs =>
    timestamp.isPlain && periodNs.isPlain && toleranceNs.isPlain
  | expectation => expectation.bounds.1.isPlain && expectation.bounds.2.isPlain

/-- The voltages of an assertion, in microvolts. -/
def Expectation.voltages : Expectation → List ℤ
  | .analogueNear _ targetUv toleranceUv => [targetUv, toleranceUv]
  | .analogueWithin _ minimumUv maximumUv => [minimumUv, maximumUv]
  | .analogueRemainWithin _ _ minimumUv maximumUv => [minimumUv, maximumUv]
  | .analogueRemainAbove _ _ thresholdUv => [thresholdUv]
  | .analogueRemainBelow _ _ thresholdUv => [thresholdUv]
  | _ => []

/-- One host-side assertion. -/
structure Assertion where
  assertionId : ℕ
  channel : Channel
  expectation : Expectation
  deriving DecidableEq, Repr

end HilRig.Models
