import HilRig.Foundations.Fallible
import HilRig.Foundations.OrderedDict
import HilRig.Models.Execution
import HilRig.Timing
import Mathlib.Data.List.Sort
import Mathlib.Data.String.Basic

/-!
# Validation and compilation of the internal test model

`compileTest` checks a test definition, sorts its instructions by tick and identifier and its
configurations by peripheral and channel, renders every field as a scalar under its name, and counts
the ticks to capture: through the last event and one second of settling, below a limit of the
protocol.

A record is rendered from the list of its dataclass fields in their declared order
(`PeripheralConfiguration.fields`, `Stimulus.fields`, `Expectation.fields`); `FieldValue.object`
stands for a field of any type that has no rendering. A member of an enumeration is rendered as its
name, also where it was passed for an integer or for bytes.
-/

set_option autoImplicit false
set_option relaxedAutoImplicit false

namespace HilRig

open HilRig.Models HilRig.Foundations

/-! ### Fields of the model records -/

/-- The value of a dataclass field. -/
inductive FieldValue
  | enum (name : String)
  | bytes (data : Builtin (List UInt8))
  | int (value : Builtin ℤ)
  | float (value : PyFloat)
  | bool (value : Bool)
  | none
  | object (typeName : String)
  deriving DecidableEq, Repr

/-- A field with an integer that is not negative. -/
def FieldValue.natural (value : Builtin ℕ) : FieldValue :=
  .int (value.map Nat.cast)

/-- The two lowercase hexadecimal digits of a byte. -/
def byteHex (byte : UInt8) : String :=
  String.ofList [Nat.digitChar (byte.toNat / 16), Nat.digitChar (byte.toNat % 16)]

/-- The name of a member of an enumeration, which an unnamed flag lacks. -/
def memberName : Option String → IRScalar
  | some name => .str name
  | none => .none

/-- A field value as a scalar of the compiled form. A member of an enumeration is recognised first,
whatever else it is. -/
def irValue : FieldValue → Except HilRigError IRScalar
  | .enum name => .ok (.str name)
  | .bytes (.member name _) => .ok (memberName name)
  | .int (.member name _) => .ok (memberName name)
  | .bytes (.plain data) => .ok (.str ("0x" ++ String.join (data.map byteHex)))
  | .int (.plain value) => .ok (.int value)
  | .float value => .ok (.float value)
  | .bool value => .ok (.bool value)
  | .none => .ok .none
  | .object typeName =>
    .error (.validation s!"Unsupported intermediate-representation value: {typeName}")

/-- The fields of a configuration record. -/
def peripheralFields : PeripheralConfiguration → List (String × FieldValue)
  | .digitalInput voltage => [("voltage", .enum voltage.name)]
  | .digitalOutput voltage initialState =>
    [("voltage", .enum voltage.name), ("initial_state", .enum initialState.name)]
  | .pwmInput voltage => [("voltage", .enum voltage.name)]
  | .pwmOutput voltage initialFrequencyHz initialDutyCycle initiallyEnabled =>
    [("voltage", .enum voltage.name), ("initial_frequency_hz", .float initialFrequencyHz),
      ("initial_duty_cycle", .float initialDutyCycle),
      ("initially_enabled", .bool initiallyEnabled)]
  | .analogueInput => []
  | .analogueOutput initialVoltage => [("initial_voltage", .float initialVoltage)]
  | .i2c role speed logicVoltage pullup ownAddress =>
    [("role", .enum role.name), ("speed", .enum speed.name),
      ("logic_voltage", .enum logicVoltage.name), ("pullup", .enum pullup.name),
      ("own_address", (ownAddress.map fun address ↦ FieldValue.natural address).getD .none)]
  | .spi role baud dataSize mode firstBit =>
    [("role", .enum role.name), ("baud", .enum baud.name), ("data_size", .enum dataSize.name),
      ("mode", .enum mode.name), ("first_bit", .enum firstBit.name)]
  | .uart mode baudHz parity length stop =>
    [("mode", .enum mode.name), ("baud_hz", .natural baudHz), ("parity", .enum parity.name),
      ("length", .enum length.name), ("stop", .enum stop.name)]

/-- The operation of an instruction class. -/
def instructionOperation : Stimulus → String
  | .digitalOutput .. => "set_state"
  | .pwmEnable .. => "set_enabled"
  | .pwmSet .. => "set"
  | .pwmSetFrequency .. => "set_frequency"
  | .pwmSetDutyCycle .. => "set_duty_cycle"
  | .analogueOutput .. => "set_voltage"
  | .i2cWrite .. => "write"
  | .i2cRead .. => "read"
  | .i2cPreloadResponse .. => "preload_response"
  | .spiTransfer .. => "transfer"
  | .uartWrite .. => "write"

/-- The fields of an instruction beside its identifier, its timestamp and its channel. -/
def stimulusFields : Stimulus → List (String × FieldValue)
  | .digitalOutput action => [("action", .enum action.name)]
  | .pwmEnable enabled => [("enabled", .bool enabled)]
  | .pwmSet frequencyHz dutyCycle =>
    [("frequency_hz", .float frequencyHz), ("duty_cycle", .float dutyCycle)]
  | .pwmSetFrequency frequencyHz => [("frequency_hz", .float frequencyHz)]
  | .pwmSetDutyCycle dutyCycle => [("duty_cycle", .float dutyCycle)]
  | .analogueOutput voltage => [("voltage", .float voltage)]
  | .i2cWrite address data => [("address", .natural address), ("data", .bytes data)]
  | .i2cRead address length => [("address", .natural address), ("length", .natural length)]
  | .i2cPreloadResponse data => [("data", .bytes data)]
  | .spiTransfer txData rxLength => [("tx_data", .bytes txData), ("rx_length", .natural rxLength)]
  | .uartWrite data => [("data", .bytes data)]

/-- The operation of an assertion class. -/
def assertionOperation : Expectation → String
  | .digitalPoint .. => "state_at_tick"
  | .digitalRemainHigh .. => "remain_high"
  | .digitalRemainLow .. => "remain_low"
  | .digitalTransition .. => "transition"
  | .pwmPeriodNear .. => "period_near"
  | .pwmFrequencyNear .. => "frequency_near"
  | .pwmDutyCycleNear .. => "duty_cycle_near"
  | .pwmWaveformNear .. => "waveform_near"
  | .pwmFrequencyRemainWithin .. => "frequency_remain_within"
  | .pwmDutyCycleRemainWithin .. => "duty_cycle_remain_within"
  | .analogueNear .. => "near"
  | .analogueWithin .. => "within"
  | .analogueRemainWithin .. => "remain_within"
  | .analogueRemainAbove .. => "remain_above"
  | .analogueRemainBelow .. => "remain_below"

/-- The fields an assertion has beside its identifier, its channel and its ticks. -/
def expectationFields : Expectation → List (String × FieldValue)
  | .digitalPoint _ expectedState => [("expected_state", .enum expectedState.name)]
  | .pwmPeriodNear _ periodNs toleranceNs =>
    [("period_ns", .natural periodNs), ("tolerance_ns", .natural toleranceNs)]
  | .pwmFrequencyNear _ frequencyHz toleranceHz =>
    [("frequency_hz", .float frequencyHz), ("tolerance_hz", .float toleranceHz)]
  | .pwmDutyCycleNear _ dutyCycle dutyCycleTolerance =>
    [("duty_cycle", .float dutyCycle), ("duty_cycle_tolerance", .float dutyCycleTolerance)]
  | .pwmWaveformNear _ frequencyHz frequencyToleranceHz dutyCycle dutyCycleTolerance =>
    [("frequency_hz", .float frequencyHz),
      ("frequency_tolerance_hz", .float frequencyToleranceHz),
      ("duty_cycle", .float dutyCycle), ("duty_cycle_tolerance", .float dutyCycleTolerance)]
  | .analogueNear _ targetUv toleranceUv =>
    [("target_uv", .int (.plain targetUv)), ("tolerance_uv", .int (.plain toleranceUv))]
  | .analogueWithin _ minimumUv maximumUv =>
    [("minimum_uv", .int (.plain minimumUv)), ("maximum_uv", .int (.plain maximumUv))]
  | .digitalRemainHigh .. => []
  | .digitalRemainLow .. => []
  | .digitalTransition _ _ fromState toState =>
    [("from_state", .enum fromState.name), ("to_state", .enum toState.name)]
  | .pwmFrequencyRemainWithin _ _ minimumHz maximumHz =>
    [("minimum_hz", .float minimumHz), ("maximum_hz", .float maximumHz)]
  | .pwmDutyCycleRemainWithin _ _ minimumDutyCycle maximumDutyCycle =>
    [("minimum_duty_cycle", .float minimumDutyCycle),
      ("maximum_duty_cycle", .float maximumDutyCycle)]
  | .analogueRemainWithin _ _ minimumUv maximumUv =>
    [("minimum_uv", .int (.plain minimumUv)), ("maximum_uv", .int (.plain maximumUv))]
  | .analogueRemainAbove _ _ thresholdUv => [("threshold_uv", .int (.plain thresholdUv))]
  | .analogueRemainBelow _ _ thresholdUv => [("threshold_uv", .int (.plain thresholdUv))]

/-- Whether an assertion is evaluated at one tick. -/
def isPoint : Expectation → Bool
  | .digitalPoint .. => true
  | .pwmPeriodNear .. => true
  | .pwmFrequencyNear .. => true
  | .pwmDutyCycleNear .. => true
  | .pwmWaveformNear .. => true
  | .analogueNear .. => true
  | .analogueWithin .. => true
  | _ => false

/-- The tick fields of an assertion under their compiled names. -/
def tickFields (expectation : Expectation) : List (String × FieldValue) :=
  if isPoint expectation then [("tick", .natural expectation.bounds.1)]
  else [("from_tick", .natural expectation.bounds.1), ("until_tick", .natural expectation.bounds.2)]

/-- The fields of a record as scalars. -/
def renderFields (fields : List (String × FieldValue)) : Except HilRigError Fields :=
  fields.mapM fun field ↦ do
    let value ← irValue field.2
    return (field.1, value)

/-! ### Compilation of single records -/

def compileConfiguration (channel : Channel) (configuration : PeripheralConfiguration) :
    Except HilRigError CompiledConfiguration := do
  let parameters ← renderFields (peripheralFields configuration)
  return ⟨channel.kind.value, channel.index, parameters⟩

def compileInstruction (instruction : Instruction) : Except HilRigError CompiledInstruction := do
  let arguments ← renderFields (stimulusFields instruction.stimulus)
  return {
    instructionId := instruction.instructionId
    tick := instruction.timestamp
    peripheral := instruction.channel.kind.value
    channel := instruction.channel.index
    operation := instructionOperation instruction.stimulus
    arguments := arguments }

def compileAssertion (assertion : Assertion) : Except HilRigError CompiledAssertion := do
  let arguments ←
    renderFields (tickFields assertion.expectation ++ expectationFields assertion.expectation)
  return {
    assertionId := assertion.assertionId
    peripheral := assertion.channel.kind.value
    channel := assertion.channel.index
    assertion := assertionOperation assertion.expectation
    arguments := arguments }

/-! ### Validation -/

/-- The class a configuration of each kind must have. -/
def configurationTypeFor : ChannelKind → String
  | .digitalInput => "DigitalInputConfiguration"
  | .digitalOutput => "DigitalOutputConfiguration"
  | .pwmInput => "PwmInputConfiguration"
  | .pwmOutput => "PwmOutputConfiguration"
  | .analogueInput => "AnalogueInputConfiguration"
  | .analogueOutput => "AnalogueOutputConfiguration"
  | .i2c => "I2CConfiguration"
  | .spi => "SPIConfiguration"
  | .uart => "UARTConfiguration"

/-- Whether a channel has a configuration of its kind. -/
def isConfigured (configuration : Configuration) (channel : Channel) : Bool :=
  (configuration.forChannel channel).any fun peripheral ↦ peripheral.kind = channel.kind

def validateModelChannel (channel : Channel) (label : String) : Except HilRigError Unit :=
  match validateChannelIndex channel.kind channel.index with
  | .ok _ => .ok ()
  | .error error => .error (.validation s!"{label} uses an invalid channel: {error.message}")

def validateChannelIsConfigured (channel : Channel) (configuration : Configuration)
    (label : String) : Except HilRigError Unit :=
  if isConfigured configuration channel then .ok ()
  else .error (.validation
    s!"{label} references unconfigured {channel.kind.value} channel {channel.index}")

def validateTick (tick : ℤ) (label : String) : Except HilRigError Unit :=
  if tick < 0 then .error (.timing s!"{label} must be non-negative") else .ok ()

/-- Check one instruction against the position it has in its list. -/
def validateInstruction (configuration : Configuration) (expectedId : ℕ)
    (instruction : Instruction) : Except HilRigError Unit := do
  if instruction.instructionId ≠ expectedId then
    .error (.validation "Instruction IDs must be sequential from zero")
  else
    validateModelChannel instruction.channel "Instruction"
    validateChannelIsConfigured instruction.channel configuration "Instruction"
    validateTick instruction.timestamp "Instruction timestamp"

/-- Check one assertion against the position it has in its list. -/
def validateAssertion (configuration : Configuration) (expectedId : ℕ) (assertion : Assertion) :
    Except HilRigError Unit := do
  if assertion.assertionId ≠ expectedId then
    .error (.validation "Assertion IDs must be sequential from zero")
  else
    validateModelChannel assertion.channel "Assertion"
    validateChannelIsConfigured assertion.channel configuration "Assertion"
    let ticks := assertion.expectation.ticks
    if isPoint assertion.expectation then validateTick ticks.1 "Assertion timestamp"
    else
      validateTick ticks.1 "Assertion start tick"
      validateTick ticks.2 "Assertion end tick"
      if ticks.2 < ticks.1 then
        .error (.timing "Assertion start tick must not be after its end tick")
      else .ok ()

/-- Check the members of a list, each with its position, counted from a first one. -/
def validateEach {α : Type} (validate : ℕ → α → Except HilRigError Unit) :
    ℕ → List α → Except HilRigError Unit
  | _, [] => .ok ()
  | position, item :: items => do
    validate position item
    validateEach validate (position + 1) items

def validateConfigurationChannels (configuration : Configuration) : Except HilRigError Unit :=
  validateEach (fun _ entry ↦ validateModelChannel entry.1 "Configuration") 0
    configuration.channelConfigurations

/-! ### Compilation of a test -/

/-- The order of instructions in a compiled test. -/
def instructionLE (first second : Instruction) : Bool :=
  first.timestamp < second.timestamp ∨
    first.timestamp = second.timestamp ∧ first.instructionId ≤ second.instructionId

/-- The order of configurations in a compiled test. -/
def configurationLE (first second : Channel × PeripheralConfiguration) : Bool :=
  first.1.kind.value < second.1.kind.value ∨
    first.1.kind.value = second.1.kind.value ∧ first.1.index ≤ second.1.index

/-- Instructions grouped by their timestamps, in the order the timestamps first occur. -/
def groupByTimestamp (instructions : List Instruction) : List (ℕ × List Instruction) :=
  instructions.foldl
    (fun grouped instruction ↦ OrderedDict.push instruction.timestamp instruction grouped) []

def buildTimeSlots (instructions : List Instruction) : List TimeSlot :=
  (groupByTimestamp instructions).map fun group ↦ ⟨group.1, group.2⟩

/-- The ticks 0 through the last event plus one second, inclusively. -/
def countExpectedTicks (instructions : List Instruction) (assertions : List Assertion)
    (frequencyHz : ℕ) : ℕ :=
  let latestInstruction := (instructions.map Instruction.timestamp).foldl max 0
  let latestRelevantTick :=
    (assertions.map fun assertion ↦ assertion.expectation.ticks.2).foldl max latestInstruction
  latestRelevantTick + frequencyHz * 1 + 1

def maxExpectedTickCountExclusive : ℕ := 1000000

/-- The error of a test that is too long for the protocol. -/
def tickLimitError : HilRigError :=
  .validation "Expected tick count must be less than 1000000 for protocol compatibility"

/-- Validate and copy a test definition into an immutable intermediate form. -/
def compileTest (testId : ℕ) (name : String) (configuration : Configuration)
    (instructions : List Instruction) (assertions : List Assertion) :
    Except HilRigError CompiledTestIR := do
  validateConfigurationChannels configuration
  validateEach (validateInstruction configuration) 0 instructions
  validateEach (validateAssertion configuration) 0 assertions
  let orderedInstructions := instructions.insertionSort fun first second ↦
    instructionLE first second
  let timeSlots := buildTimeSlots orderedInstructions
  let compiledConfigurations ←
    (configuration.channelConfigurations.insertionSort fun first second ↦
      configurationLE first second).mapM fun entry ↦ compileConfiguration entry.1 entry.2
  let compiledInstructions ← orderedInstructions.mapM compileInstruction
  let compiledAssertions ← assertions.mapM compileAssertion
  let expectedTickCount :=
    countExpectedTicks orderedInstructions assertions configuration.frequencyMode.hertz
  if maxExpectedTickCountExclusive ≤ expectedTickCount then .error tickLimitError
  else
    return {
      testId := testId
      name := name
      frequencyMode := configuration.frequencyMode.name
      frequencyHz := configuration.frequencyMode.hertz
      expectedTickCount := expectedTickCount
      startMode := configuration.startMode.name
      configurations := compiledConfigurations
      instructions := compiledInstructions
      assertions := compiledAssertions
      timeSlots := timeSlots
      frequencyHz_pos := configuration.frequencyMode.hertz_pos }

/-! ### Compilation of well-formed records -/

/-- A renderable field value as a scalar. -/
def FieldValue.scalar : FieldValue → IRScalar
  | .enum name => .str name
  | .bytes (.member name _) => memberName name
  | .int (.member name _) => memberName name
  | .bytes (.plain data) => .str ("0x" ++ String.join (data.map byteHex))
  | .int (.plain value) => .int value
  | .float value => .float value
  | .bool value => .bool value
  | .none => .none
  | .object _ => .none

/-- No integer is rendered as a float. -/
@[simp] theorem FieldValue.scalar_int_ne_float (value : Builtin ℤ) (float : PyFloat) :
    (FieldValue.int value).scalar ≠ .float float := by
  cases value with
  | plain value => exact nofun
  | member name value => cases name <;> exact nofun

/-- Whether a field value has a rendering. -/
def FieldValue.isScalar : FieldValue → Bool
  | .object _ => false
  | _ => true

/-- Fields with their scalars. -/
def scalars (fields : List (String × FieldValue)) : Fields :=
  fields.map fun field ↦ (field.1, field.2.scalar)

/-- Renderable fields are rendered as their scalars. -/
theorem renderFields_of_isScalar {fields : List (String × FieldValue)}
    (hfields : ∀ field ∈ fields, field.2.isScalar = true) :
    renderFields fields = .ok (scalars fields) := by
  refine mapM_of_forall fun field hfield ↦ ?_
  have hscalar := hfields field hfield
  obtain ⟨name, value⟩ := field
  cases value with
  | object typeName => cases hscalar
  | int value => cases value <;> rfl
  | bytes data => cases data <;> rfl
  | _ => rfl

/-- Every field of a configuration record has a rendering. -/
theorem isScalar_peripheralFields (peripheral : PeripheralConfiguration) :
    ∀ field ∈ peripheralFields peripheral, field.2.isScalar = true := by
  cases peripheral with
  | i2c role speed logicVoltage pullup ownAddress =>
    cases ownAddress <;> simp [peripheralFields, FieldValue.natural, FieldValue.isScalar]
  | _ => simp [peripheralFields, FieldValue.natural, FieldValue.isScalar]

/-- Every field of an instruction has a rendering. -/
theorem isScalar_stimulusFields (stimulus : Stimulus) :
    ∀ field ∈ stimulusFields stimulus, field.2.isScalar = true := by
  cases stimulus <;> simp [stimulusFields, FieldValue.natural, FieldValue.isScalar]

/-- Every field of an assertion has a rendering. -/
theorem isScalar_assertionFields (expectation : Expectation) :
    ∀ field ∈ tickFields expectation ++ expectationFields expectation,
      field.2.isScalar = true := by
  cases expectation <;>
    simp [tickFields, isPoint, expectationFields, FieldValue.natural, FieldValue.isScalar]

/-- The compiled form of a configuration. -/
def compiledConfiguration (entry : Channel × PeripheralConfiguration) : CompiledConfiguration :=
  ⟨entry.1.kind.value, entry.1.index, scalars (peripheralFields entry.2)⟩

/-- The compiled form of an instruction. -/
def compiledInstruction (instruction : Instruction) : CompiledInstruction where
  instructionId := instruction.instructionId
  tick := instruction.timestamp
  peripheral := instruction.channel.kind.value
  channel := instruction.channel.index
  operation := instructionOperation instruction.stimulus
  arguments := scalars (stimulusFields instruction.stimulus)

/-- The compiled form of an assertion. -/
def compiledAssertion (assertion : Assertion) : CompiledAssertion where
  assertionId := assertion.assertionId
  peripheral := assertion.channel.kind.value
  channel := assertion.channel.index
  assertion := assertionOperation assertion.expectation
  arguments :=
    scalars (tickFields assertion.expectation ++ expectationFields assertion.expectation)

@[simp] theorem compileConfiguration_eq (entry : Channel × PeripheralConfiguration) :
    compileConfiguration entry.1 entry.2 = .ok (compiledConfiguration entry) := by
  unfold compileConfiguration
  rw [renderFields_of_isScalar (isScalar_peripheralFields entry.2)]
  rfl

@[simp] theorem compileInstruction_eq (instruction : Instruction) :
    compileInstruction instruction = .ok (compiledInstruction instruction) := by
  unfold compileInstruction
  rw [renderFields_of_isScalar (isScalar_stimulusFields instruction.stimulus)]
  rfl

@[simp] theorem compileAssertion_eq (assertion : Assertion) :
    compileAssertion assertion = .ok (compiledAssertion assertion) := by
  unfold compileAssertion
  rw [renderFields_of_isScalar (isScalar_assertionFields assertion.expectation)]
  rfl

/-! ### Compilation of well-formed definitions -/

@[simp] theorem validateModelChannel_eq (channel : Channel) (label : String) :
    validateModelChannel channel label = .ok () := by
  rw [validateModelChannel, validateChannelIndex_index]

/-- A list passes when each member passes with its own position. -/
theorem validateEach_of_forall {α : Type} {validate : ℕ → α → Except HilRigError Unit}
    {items : List α} {start : ℕ}
    (hitems : ∀ position (hposition : position < items.length),
      validate (start + position) items[position] = .ok ()) :
    validateEach validate start items = .ok () := by
  induction items generalizing start with
  | nil => rfl
  | cons item items ih =>
    refine bind_eq_ok.2 ⟨(), hitems 0 (Nat.zero_lt_succ _), ih fun position hposition ↦ ?_⟩
    have hlater := hitems (position + 1) (Nat.succ_lt_succ hposition)
    rwa [← Nat.add_assoc, Nat.add_right_comm, List.getElem_cons_succ] at hlater

/-- A natural number is a tick. -/
@[simp] theorem validateTick_natCast (tick : ℕ) (label : String) :
    validateTick tick label = .ok () :=
  if_neg (not_lt.2 (Int.natCast_nonneg tick))

@[simp] theorem validateChannelIsConfigured_of_configured {channel : Channel}
    {configuration : Configuration} (hconfigured : isConfigured configuration channel = true)
    (label : String) : validateChannelIsConfigured channel configuration label = .ok () :=
  if_pos hconfigured

/-- An instruction on a configured channel passes at its own identifier. -/
theorem validateInstruction_of_configured {configuration : Configuration}
    {instruction : Instruction}
    (hconfigured : isConfigured configuration instruction.channel = true) :
    validateInstruction configuration instruction.instructionId instruction = .ok () := by
  rw [validateInstruction, if_neg (not_not.2 rfl), validateModelChannel_eq,
    validateChannelIsConfigured_of_configured hconfigured, validateTick_natCast]
  rfl

/-- An assertion on a configured channel with ordered ticks passes at its own identifier. -/
theorem validateAssertion_of_configured {configuration : Configuration} {assertion : Assertion}
    (hconfigured : isConfigured configuration assertion.channel = true)
    (hordered : assertion.expectation.ticks.1 ≤ assertion.expectation.ticks.2) :
    validateAssertion configuration assertion.assertionId assertion = .ok () := by
  rw [validateAssertion, if_neg (not_not.2 rfl), validateModelChannel_eq,
    validateChannelIsConfigured_of_configured hconfigured]
  dsimp only
  rw [validateTick_natCast, validateTick_natCast, validateTick_natCast,
    if_neg (not_lt.2 hordered)]
  exact ite_self _

/-- The configurations of a compiled test, before they are rendered. -/
def sortedConfigurations (configuration : Configuration) :
    List (Channel × PeripheralConfiguration) :=
  configuration.channelConfigurations.insertionSort fun first second ↦
    configurationLE first second

/-- The instructions of a compiled test, before they are rendered. -/
def sortedInstructions (instructions : List Instruction) : List Instruction :=
  instructions.insertionSort fun first second ↦ instructionLE first second

theorem pairwise_instructionLE (instructions : List Instruction) :
    (sortedInstructions instructions).Pairwise fun first second ↦
      instructionLE first second = true := by
  have htotal : Std.Total fun first second : Instruction ↦ instructionLE first second = true :=
    ⟨fun first second ↦ by simp only [instructionLE, decide_eq_true_eq]; omega⟩
  have htransitive : IsTrans Instruction fun first second ↦ instructionLE first second = true :=
    ⟨fun first second third ↦ by simp only [instructionLE, decide_eq_true_eq]; omega⟩
  exact List.pairwise_insertionSort (fun first second ↦ instructionLE first second = true)
    instructions

/-- The instructions of a snapshot are sorted by their ticks. -/
theorem pairwise_sortedInstructions (instructions : List Instruction) :
    (sortedInstructions instructions).Pairwise fun first second ↦
      first.timestamp ≤ second.timestamp := by
  refine (pairwise_instructionLE instructions).imp fun {first second} hle ↦ ?_
  simp only [instructionLE, decide_eq_true_eq] at hle
  omega

/-- The snapshot of a test definition. -/
def snapshot (testId : ℕ) (name : String) (configuration : Configuration)
    (instructions : List Instruction) (assertions : List Assertion) : CompiledTestIR where
  testId := testId
  name := name
  frequencyMode := configuration.frequencyMode.name
  frequencyHz := configuration.frequencyMode.hertz
  expectedTickCount :=
    countExpectedTicks (sortedInstructions instructions) assertions
      configuration.frequencyMode.hertz
  startMode := configuration.startMode.name
  configurations := (sortedConfigurations configuration).map compiledConfiguration
  instructions := (sortedInstructions instructions).map compiledInstruction
  assertions := assertions.map compiledAssertion
  timeSlots := buildTimeSlots (sortedInstructions instructions)
  frequencyHz_pos := configuration.frequencyMode.hertz_pos

/-- A definition whose records all pass their checks compiles to its snapshot, or is too long. -/
theorem compileTest_of_valid {testId : ℕ} {name : String} {configuration : Configuration}
    {instructions : List Instruction} {assertions : List Assertion}
    (hinstructions : validateEach (validateInstruction configuration) 0 instructions = .ok ())
    (hassertions : validateEach (validateAssertion configuration) 0 assertions = .ok ()) :
    compileTest testId name configuration instructions assertions =
      if maxExpectedTickCountExclusive ≤ countExpectedTicks (sortedInstructions instructions)
          assertions configuration.frequencyMode.hertz then .error tickLimitError
      else .ok (snapshot testId name configuration instructions assertions) := by
  have hchannels : validateConfigurationChannels configuration = .ok () :=
    validateEach_of_forall fun _ _ ↦ validateModelChannel_eq _ _
  have hconfigurations : ((configuration.channelConfigurations.insertionSort fun first second ↦
      configurationLE first second).mapM fun entry ↦ compileConfiguration entry.1 entry.2) =
        .ok ((sortedConfigurations configuration).map compiledConfiguration) :=
    mapM_of_forall fun entry _ ↦ compileConfiguration_eq entry
  have hcompiled : ((instructions.insertionSort fun first second ↦
      instructionLE first second).mapM compileInstruction) =
        .ok ((sortedInstructions instructions).map compiledInstruction) :=
    mapM_of_forall fun instruction _ ↦ compileInstruction_eq instruction
  have hasserted : assertions.mapM compileAssertion = .ok (assertions.map compiledAssertion) :=
    mapM_of_forall fun assertion _ ↦ compileAssertion_eq assertion
  unfold compileTest
  dsimp only
  rw [hchannels, hinstructions, hassertions, hconfigurations, hcompiled, hasserted]
  rfl

end HilRig
