import HilRig.Foundations.DecimalContext
import HilRig.Foundations.Fallible
import HilRig.Foundations.OrderedDict
import HilRig.Models.Execution
import HilRig.Models.Numbers
import HilRig.Protocol.Messages
import Mathlib.Data.List.Sort

/-!
# Lowering a compiled test to fixed-I/O Application messages

`buildUpload` translates one compiled test into its Application test configuration and the sparse
list of complete output states. `buildConfiguration` fills the fixed channel arrays from the
configuration index. `buildSparseInstructions` starts from the configured output state, groups the
fixed-output instructions by consecutive equal ticks, and walks over the ascending ticks, applying
each group to one shared `OutputState` and emitting that state. A configured analogue output adds
tick zero, because the configuration message has no initial voltage.

Communication configurations and instructions are left out of both, as the source leaves them out.
-/

set_option autoImplicit false
set_option relaxedAutoImplicit false

namespace HilRig.Protocol

open HilRig.Models HilRig.Foundations

def uint32Max : ℕ := 2 ^ 32 - 1

/-- The peripherals whose instructions travel in the sparse messages. -/
def fixedOutputPeripherals : List String := ["digital_output", "analogue_output", "pwm_output"]

/-! ### Scalar conversions -/

/-- The name of a wire voltage for a compiled voltage name. -/
def peripheralVoltage (value : IRScalar) : Except HilRigError PeripheralVoltage :=
  match value with
  | .str "V3_3" => .ok .v3v3
  | .str "V5" => .ok .v5v
  | .str "V12" => .ok .v12v
  | .str "V24" => .ok .v24v
  | _ => .error (.integration "Unsupported fixed-I/O voltage value")

/-- A compiled digital state as a level. -/
def digitalState (value : IRScalar) : Except HilRigError Bool :=
  match value with
  | .str "LOW" => .ok false
  | .str "HIGH" => .ok true
  | _ => .error (.integration "Unsupported digital state")

def requireBool (value : IRScalar) (name : String) : Except HilRigError Bool :=
  match value with
  | .bool value => .ok value
  | _ => .error (.integration s!"{name} must be a bool in the compiled IR")

/-- A compiled number as the decimal its text denotes. -/
def decimal (value : IRScalar) (name : String) : Except HilRigError ℚ :=
  match value with
  | .int value => .ok value
  | .float (.finite value) => .ok value
  | .float _ => .error (.integration s!"{name} must be finite in the compiled IR")
  | _ => .error (.integration s!"{name} must be numeric in the compiled IR")

def voltsToMicrovolts (value : IRScalar) (name : String) : Except HilRigError ℕ := do
  let volts ← decimal value name
  let microvolts ← trapped (defaultDecimalContext.multiply volts 1000000)
  if microvolts ≠ ⌊microvolts⌋ then
    .error (.integration s!"{name} does not align with one microvolt")
  else if 0 ≤ ⌊microvolts⌋ ∧ ⌊microvolts⌋ ≤ uint32Max then .ok ⌊microvolts⌋.toNat
  else .error (.integration s!"{name} is outside the protocol microvolt range")

def dutyToPermyriad (value : IRScalar) (name : String) : Except HilRigError ℕ := do
  let duty ← decimal value name
  let permyriad ← trapped (defaultDecimalContext.multiply duty 10000)
  if permyriad ≠ ⌊permyriad⌋ then
    .error (.integration s!"{name} does not align with one permyriad")
  else if 0 ≤ ⌊permyriad⌋ ∧ ⌊permyriad⌋ ≤ 10000 then .ok ⌊permyriad⌋.toNat
  else .error (.integration s!"{name} is outside the protocol duty-cycle range")

def frequencyToPeriodNs (value : IRScalar) (name : String) : Except HilRigError ℕ := do
  let frequency ← decimal value name
  if frequency ≤ 0 then .error (.integration s!"{name} must be positive in the compiled IR")
  else
    let periodNs ← trapped (defaultDecimalContext.divide 1000000000 frequency)
    if periodNs ≠ ⌊periodNs⌋ then
      .error (.integration s!"{name} does not produce a whole-nanosecond period")
    else if 0 < ⌊periodNs⌋ ∧ ⌊periodNs⌋ ≤ uint32Max then .ok ⌊periodNs⌋.toNat
    else .error (.integration s!"{name} produces a period outside uint32")

/-- A list index, which raises outside the list. -/
def listIndex (count index : ℕ) : Except HilRigError (Fin count) :=
  if h : index < count then .ok ⟨index, h⟩
  else .error ⟨.indexError, "list assignment index out of range"⟩

/-! ### Configuration message -/

/-- The compiled configurations keyed by peripheral and channel. -/
def configurationIndex (configurations : List CompiledConfiguration) :
    List ((String × ℕ) × CompiledConfiguration) :=
  OrderedDict.ofEntries (configurations.map fun item ↦ ((item.peripheral, item.channel), item))

/-- The six channel arrays of a configuration message under construction. -/
@[ext]
structure ConfigurationArrays where
  digitalIn : Fin 10 → DigitalInputConfig := fun _ ↦ {}
  digitalOut : Fin 10 → DigitalOutputConfig := fun _ ↦ {}
  analogIn : Fin 2 → AnalogInputConfig := fun _ ↦ {}
  analogOut : Fin 6 → AnalogOutputConfig := fun _ ↦ {}
  pwmIn : Fin 2 → PWMInputConfig := fun _ ↦ {}
  pwmOut : Fin 2 → PWMOutputConfig := fun _ ↦ {}

/-- Enter one compiled configuration into the arrays; communication peripherals are skipped. -/
def configureArrays (arrays : ConfigurationArrays)
    (entry : (String × ℕ) × CompiledConfiguration) : Except HilRigError ConfigurationArrays := do
  let parameters := entry.2.parameters
  match entry.1.1 with
  | "digital_input" =>
    let voltage ← peripheralVoltage (← parameters.item "voltage")
    let channel ← listIndex 10 entry.1.2
    return { arrays with
      digitalIn := Function.update arrays.digitalIn channel ⟨true, voltage⟩ }
  | "digital_output" =>
    let voltage ← peripheralVoltage (← parameters.item "voltage")
    let initialHigh ← digitalState (← parameters.item "initial_state")
    let channel ← listIndex 10 entry.1.2
    return { arrays with
      digitalOut := Function.update arrays.digitalOut channel ⟨true, voltage, initialHigh⟩ }
  | "analogue_input" =>
    let channel ← listIndex 2 entry.1.2
    return { arrays with analogIn := Function.update arrays.analogIn channel ⟨true⟩ }
  | "analogue_output" =>
    let channel ← listIndex 6 entry.1.2
    return { arrays with analogOut := Function.update arrays.analogOut channel ⟨true⟩ }
  | "pwm_input" =>
    let voltage ← peripheralVoltage (← parameters.item "voltage")
    let channel ← listIndex 2 entry.1.2
    return { arrays with pwmIn := Function.update arrays.pwmIn channel ⟨true, voltage⟩ }
  | "pwm_output" =>
    let enabled ← requireBool (← parameters.item "initially_enabled") "initially_enabled"
    let period ←
      frequencyToPeriodNs (← parameters.item "initial_frequency_hz") "initial_frequency_hz"
    let duty ← dutyToPermyriad (← parameters.item "initial_duty_cycle") "initial_duty_cycle"
    let voltage ← peripheralVoltage (← parameters.item "voltage")
    let channel ← listIndex 2 entry.1.2
    return { arrays with
      pwmOut := Function.update arrays.pwmOut channel
        ⟨true, voltage, if enabled then period else 0, if enabled then duty else 0⟩ }
  | _ => return arrays

def buildConfiguration (compiledTest : CompiledTestIR) (testId : TestId)
    (configurations : List ((String × ℕ) × CompiledConfiguration)) :
    Except HilRigError TestConfiguration := do
  let arrays ← configurations.foldlM configureArrays {}
  if compiledTest.tickPeriodNs % 1000 ≠ 0 then
    .error (.integration
      "Compiled tick period cannot be represented as whole protocol microseconds")
  else
    return {
      testId := testId
      tickDurationUs := compiledTest.tickPeriodNs / 1000
      expectedTickCount := compiledTest.expectedTickCount
      flags := 0
      digitalIn := arrays.digitalIn
      digitalOut := arrays.digitalOut
      analogIn := arrays.analogIn
      analogOut := arrays.analogOut
      pwmIn := arrays.pwmIn
      pwmOut := arrays.pwmOut }

/-! ### Sparse output states -/

/-- The retained request of one PWM output, which a disabled output keeps. -/
structure PWMState where
  periodNanoseconds : ℕ := 0
  dutyCyclePermyriad : ℕ := 0
  enabled : Bool := false
  deriving DecidableEq, Repr

/-- The shared output state the instruction groups are applied to. -/
@[ext]
structure OutputState where
  digitalOutputs : Fin 10 → Bool := fun _ ↦ false
  analogueOutputs : Fin 6 → ℕ := fun _ ↦ 0
  pwmOutputs : Fin 2 → PWMState := fun _ ↦ {}

/-- The value of one PWM output on the wire: zero period and duty while it is disabled. -/
def PWMState.value (state : PWMState) : PWMOutputValue where
  periodNanoseconds := if state.enabled then state.periodNanoseconds else 0
  dutyCyclePermyriad := if state.enabled then state.dutyCyclePermyriad else 0

/-- Enter the initial value of one configured output; other peripherals are skipped. -/
def initializeOutput (state : OutputState) (entry : (String × ℕ) × CompiledConfiguration) :
    Except HilRigError OutputState := do
  let parameters := entry.2.parameters
  match entry.1.1 with
  | "digital_output" =>
    let level ← digitalState (← parameters.item "initial_state")
    let channel ← listIndex 10 entry.1.2
    return { state with digitalOutputs := Function.update state.digitalOutputs channel level }
  | "analogue_output" =>
    let microvolts ← voltsToMicrovolts (← parameters.item "initial_voltage") "initial_voltage"
    let channel ← listIndex 6 entry.1.2
    return { state with
      analogueOutputs := Function.update state.analogueOutputs channel microvolts }
  | "pwm_output" =>
    let period ←
      frequencyToPeriodNs (← parameters.item "initial_frequency_hz") "initial_frequency_hz"
    let duty ← dutyToPermyriad (← parameters.item "initial_duty_cycle") "initial_duty_cycle"
    let enabled ← requireBool (← parameters.item "initially_enabled") "initially_enabled"
    let channel ← listIndex 2 entry.1.2
    return { state with
      pwmOutputs := Function.update state.pwmOutputs channel ⟨period, duty, enabled⟩ }
  | _ => return state

/-- Apply one digital output instruction. -/
def applyDigital (instruction : CompiledInstruction) (state : OutputState) :
    Except HilRigError OutputState := do
  match instruction.arguments.get "action" with
  | .str "HIGH" =>
    let channel ← listIndex 10 instruction.channel
    return { state with digitalOutputs := Function.update state.digitalOutputs channel true }
  | .str "LOW" =>
    let channel ← listIndex 10 instruction.channel
    return { state with digitalOutputs := Function.update state.digitalOutputs channel false }
  | .str "TOGGLE" =>
    let channel ← listIndex 10 instruction.channel
    return { state with
      digitalOutputs :=
        Function.update state.digitalOutputs channel !state.digitalOutputs channel }
  | _ => .error (.integration "Unsupported digital output action")

/-- Apply one analogue output instruction. -/
def applyAnalogue (instruction : CompiledInstruction) (state : OutputState) :
    Except HilRigError OutputState := do
  if instruction.operation ≠ "set_voltage" then
    .error (.integration
      s!"Unsupported analogue output operation: {instruction.operation}")
  else
    let microvolts ← voltsToMicrovolts (instruction.arguments.get "voltage") "voltage"
    let channel ← listIndex 6 instruction.channel
    return { state with
      analogueOutputs := Function.update state.analogueOutputs channel microvolts }

/-- The retained request of a PWM output after one operation on it. -/
def applyPWMOperation (instruction : CompiledInstruction) (state : PWMState) :
    Except HilRigError PWMState := do
  let arguments := instruction.arguments
  match instruction.operation with
  | "set_enabled" =>
    return { state with enabled := ← requireBool (arguments.get "enabled") "enabled" }
  | "set" =>
    let period ← frequencyToPeriodNs (arguments.get "frequency_hz") "frequency_hz"
    let duty ← dutyToPermyriad (arguments.get "duty_cycle") "duty_cycle"
    return { state with periodNanoseconds := period, dutyCyclePermyriad := duty }
  | "set_frequency" =>
    return { state with
      periodNanoseconds :=
        ← frequencyToPeriodNs (arguments.get "frequency_hz") "frequency_hz" }
  | "set_duty_cycle" =>
    return { state with
      dutyCyclePermyriad := ← dutyToPermyriad (arguments.get "duty_cycle") "duty_cycle" }
  | _ => .error (.integration s!"Unsupported PWM output operation: {instruction.operation}")

/-- Apply one PWM output instruction. -/
def applyPWM (instruction : CompiledInstruction) (state : OutputState) :
    Except HilRigError OutputState := do
  let channel ← listIndex 2 instruction.channel
  let next ← applyPWMOperation instruction (state.pwmOutputs channel)
  return { state with pwmOutputs := Function.update state.pwmOutputs channel next }

/-- Apply one fixed-output instruction to the shared state. -/
def applyInstruction (state : OutputState) (instruction : CompiledInstruction) :
    Except HilRigError OutputState :=
  if instruction.peripheral = "digital_output" then applyDigital instruction state
  else if instruction.peripheral = "analogue_output" then applyAnalogue instruction state
  else if instruction.peripheral = "pwm_output" then applyPWM instruction state
  else .error (.integration
    s!"Unsupported fixed-output peripheral: {instruction.peripheral}")

/-- The instructions that travel in the sparse messages, in compiled order. -/
def fixedInstructions (compiledTest : CompiledTestIR) : List CompiledInstruction :=
  compiledTest.instructions.filter fun instruction ↦
    instruction.peripheral ∈ fixedOutputPeripherals

/-- Runs of instructions with equal consecutive ticks, keyed by that tick. -/
def groupByTick (instructions : List CompiledInstruction) :
    List (ℕ × List CompiledInstruction) :=
  OrderedDict.ofEntries
    ((instructions.splitBy fun first second ↦ first.tick == second.tick).filterMap fun group ↦
      group.head?.map fun first ↦ (first.tick, group))

/-- The complete output state as the message of one tick. -/
def testInstruction (testId : TestId) (tick : ℕ) (state : OutputState) : TestInstruction where
  testId := testId
  tickNumber := tick
  digitalOutputs := state.digitalOutputs
  analogOutputs := state.analogueOutputs
  pwmOutputs := fun channel ↦ (state.pwmOutputs channel).value

/-- Walk over the ticks in order: apply the group of each to the shared state and emit it. -/
def emitInstructions (testId : TestId) (grouped : List (ℕ × List CompiledInstruction)) :
    List ℕ → OutputState → Except HilRigError (List TestInstruction)
  | [], _ => return []
  | tick :: ticks, state => do
    let next ← ((grouped.lookup tick).getD []).foldlM applyInstruction state
    let later ← emitInstructions testId grouped ticks next
    return testInstruction testId tick next :: later

/-- Whether some configured output is analogue. -/
def hasAnalogueOutput (configurations : List ((String × ℕ) × CompiledConfiguration)) : Bool :=
  configurations.any fun entry ↦ entry.1.1 = "analogue_output"

/-- The ticks that get a message: the keys of the groups, and zero when an analogue output is
configured. -/
def emittedTicks (configurations : List ((String × ℕ) × CompiledConfiguration))
    (grouped : List (ℕ × List CompiledInstruction)) : List ℕ :=
  let ticks := grouped.map Prod.fst
  let ticks := if hasAnalogueOutput configurations ∧ 0 ∉ ticks then 0 :: ticks else ticks
  ticks.insertionSort (· ≤ ·)

def buildSparseInstructions (compiledTest : CompiledTestIR) (testId : TestId)
    (configurations : List ((String × ℕ) × CompiledConfiguration)) :
    Except HilRigError (List TestInstruction) := do
  let initial ← configurations.foldlM initializeOutput {}
  let grouped := groupByTick (fixedInstructions compiledTest)
  emitInstructions testId grouped (emittedTicks configurations grouped) initial

/-! ### Upload -/

/-- Application values for one configuration and its sparse fixed-I/O states. -/
structure FixedIOUploadMessages where
  uploadAttempt : UploadAttempt
  startMode : String
  configuration : TestConfiguration
  instructions : List TestInstruction
  deriving DecidableEq

/-- The configuration followed by every sparse instruction state. -/
def FixedIOUploadMessages.messages (upload : FixedIOUploadMessages) : List OutboundMessage :=
  .testConfiguration upload.configuration :: upload.instructions.map .testInstruction

/-- The attempt an upload is built for: the given one, or a fresh one. -/
def resolveUploadAttempt (compiledTest : CompiledTestIR) (uploadAttempt : Option UploadAttempt)
    (draws : List (Fin (2 ^ 128))) : Except HilRigError UploadAttempt :=
  match uploadAttempt with
  | some attempt => .ok attempt
  | none => compiledTest.newUploadAttempt draws

/-- Translate a compiled definition into one fixed-I/O upload; the draws are the random numbers a
fresh upload attempt is made from. -/
def buildUpload (compiledTest : CompiledTestIR) (uploadAttempt : Option UploadAttempt)
    (draws : List (Fin (2 ^ 128))) : Except HilRigError FixedIOUploadMessages := do
  let attempt ← resolveUploadAttempt compiledTest uploadAttempt draws
  if attempt.definitionTestId ≠ compiledTest.testId then
    .error (.value "upload_attempt belongs to a different compiled test")
  else
    let testId : TestId := ⟨applicationTestIdToBytes attempt.applicationTestId⟩
    let configurations := configurationIndex compiledTest.configurations
    let configuration ← buildConfiguration compiledTest testId configurations
    let instructions ← buildSparseInstructions compiledTest testId configurations
    return ⟨attempt, compiledTest.startMode, configuration, instructions⟩

section Requests

variable {Wire : Type} (protocol : NativeProtocol Wire)

/-- Encode every complete Application message of an upload. -/
def encodeUpload (upload : FixedIOUploadMessages) : Except HilRigError (List Wire) :=
  upload.messages.mapM protocol.encode

/-- The discovery request of a new Transport session. -/
def buildSystemInfoRequest : OutboundMessage := .systemInfoRequest true

def buildExecutionControl (attempt : UploadAttempt) (command : ControlCommand) :
    OutboundMessage :=
  .executionControl ⟨applicationTestIdToBytes attempt.applicationTestId⟩ command 0

/-- A START request for an accepted upload attempt. -/
def buildStart (attempt : UploadAttempt) : OutboundMessage := buildExecutionControl attempt .start

/-- An ABORT request for an active upload attempt. -/
def buildAbort (attempt : UploadAttempt) : OutboundMessage := buildExecutionControl attempt .abort

/-- A test-independent Application reset request. -/
def buildResetApplication : OutboundMessage := .globalControl .resetApplication 0

end Requests

/-! ### What an upload is made of -/

/-- One message is emitted for each tick, in order. -/
theorem ticks_of_emitInstructions {testId : TestId}
    {grouped : List (ℕ × List CompiledInstruction)} {ticks : List ℕ} {state : OutputState}
    {instructions : List TestInstruction}
    (hemitted : emitInstructions testId grouped ticks state = .ok instructions) :
    instructions.map TestInstruction.tickNumber = ticks := by
  induction ticks generalizing state instructions with
  | nil =>
    rw [← pure_eq_ok.1 hemitted]
    rfl
  | cons tick ticks ih =>
    obtain ⟨next, -, hemitted⟩ := bind_eq_ok.1 hemitted
    obtain ⟨later, hlater, hemitted⟩ := bind_eq_ok.1 hemitted
    rw [← pure_eq_ok.1 hemitted, List.map_cons, ih hlater]
    rfl

/-- The emitted ticks are distinct. -/
theorem nodup_emittedTicks (configurations : List ((String × ℕ) × CompiledConfiguration))
    (instructions : List CompiledInstruction) :
    (emittedTicks configurations (groupByTick instructions)).Nodup := by
  rw [emittedTicks, (List.perm_insertionSort _ _).nodup_iff]
  split
  · rename_i hzero
    exact List.nodup_cons.2 ⟨hzero.2, OrderedDict.nodup_keys_ofEntries _⟩
  · exact OrderedDict.nodup_keys_ofEntries _

/-- The emitted ticks ascend strictly. -/
theorem pairwise_lt_emittedTicks
    (configurations : List ((String × ℕ) × CompiledConfiguration))
    (instructions : List CompiledInstruction) :
    (emittedTicks configurations (groupByTick instructions)).Pairwise (· < ·) := by
  have hsorted : (emittedTicks configurations (groupByTick instructions)).Pairwise (· ≤ ·) :=
    List.pairwise_insertionSort _ _
  have hnodup := nodup_emittedTicks configurations instructions
  rw [List.Nodup] at hnodup
  exact (hsorted.and hnodup).imp fun h ↦ lt_of_le_of_ne h.1 h.2

/-- The instructions of an upload ascend strictly by tick. -/
theorem pairwise_of_buildUpload {compiledTest : CompiledTestIR} {attempt : Option UploadAttempt}
    {draws : List (Fin (2 ^ 128))} {upload : FixedIOUploadMessages}
    (hupload : buildUpload compiledTest attempt draws = .ok upload) :
    upload.instructions.Pairwise fun first second ↦ first.tickNumber < second.tickNumber := by
  obtain ⟨chosen, -, hupload⟩ := bind_eq_ok.1 hupload
  by_cases hother : chosen.definitionTestId ≠ compiledTest.testId
  · rw [if_pos hother] at hupload
    cases hupload
  rw [if_neg hother] at hupload
  obtain ⟨configuration, -, hupload⟩ := bind_eq_ok.1 hupload
  obtain ⟨instructions, hinstructions, hupload⟩ := bind_eq_ok.1 hupload
  obtain ⟨initial, -, hemitted⟩ := bind_eq_ok.1 hinstructions
  rw [← pure_eq_ok.1 hupload]
  have hticks := pairwise_lt_emittedTicks (configurationIndex compiledTest.configurations)
    (fixedInstructions compiledTest)
  rw [← ticks_of_emitInstructions hemitted, List.pairwise_map] at hticks
  exact hticks

/-- An encoded upload has one wire message for its configuration and one for each instruction. -/
theorem length_of_encodeUpload {Wire : Type} {protocol : NativeProtocol Wire}
    {upload : FixedIOUploadMessages} {encoded : List Wire}
    (hencoded : encodeUpload protocol upload = .ok encoded) :
    encoded.length = upload.instructions.length + 1 := by
  rw [← (mapM_eq_ok.1 hencoded).length_eq, FixedIOUploadMessages.messages, List.length_cons,
    List.length_map]

end HilRig.Protocol
