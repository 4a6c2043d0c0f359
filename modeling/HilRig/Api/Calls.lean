import HilRig.Api.Test

/-!
# The public calls

Every public method of the test, of its channel handles and of its expectation objects, as a
request. A handle is its channel number, below the number of channels of its kind, so a handle that
no getter can return cannot be built; an expectation object is the handle it was made from.

`Call` lists the methods with their arguments, and `execute` runs one on a test. A handle or an
expectation object made earlier can be used at any time, so the calls of a script are a list in
which any call may follow any other.
-/

set_option autoImplicit false
set_option relaxedAutoImplicit false

namespace HilRig.Api

open HilRig.Models HilRig.Foundations

/-- The number of a physical channel of one kind. -/
abbrev Handle (kind : ChannelKind) := Fin (channelCount kind)

/-- The shared internal channel identity. -/
def Handle.identity {kind : ChannelKind} (self : Handle kind) : Channel :=
  ⟨kind, self, self.isLt⟩

/-! ### Getters of the test -/

def Test.digitalInput (channel : Passed ℤ) : Request := .handle .digitalInput channel

def Test.digitalOutput (channel : Passed ℤ) : Request := .handle .digitalOutput channel

def Test.pwmInput (channel : Passed ℤ) : Request := .handle .pwmInput channel

def Test.pwmOutput (channel : Passed ℤ) : Request := .handle .pwmOutput channel

def Test.analogueInput (channel : Passed ℤ) : Request := .handle .analogueInput channel

def Test.analogueOutput (channel : Passed ℤ) : Request := .handle .analogueOutput channel

def Test.i2c (channel : Passed ℤ) : Request := .handle .i2c channel

def Test.spi (channel : Passed ℤ) : Request := .handle .spi channel

def Test.uart (channel : Passed ℤ) : Request := .handle .uart channel

/-! ### Digital handles -/

def DigitalInput.configure (self : Handle .digitalInput) (voltage : Passed LogicVoltage) :
    Request :=
  .configureChannel self.identity do
    let voltage ← requireEnum voltage "voltage" "LogicVoltage"
    return .digitalInput voltage

def DigitalOutput.configure (self : Handle .digitalOutput) (voltage : Passed LogicVoltage)
    (initialState : Passed DigitalState) : Request :=
  .configureChannel self.identity do
    let voltage ← requireEnum voltage "voltage" "LogicVoltage"
    let initialState ← requireEnum initialState "initial_state" "DigitalState"
    return .digitalOutput voltage initialState

/-- Schedule an action of a digital output. -/
def DigitalOutput.set (self : Handle .digitalOutput) (action : DigitalOutputAction)
    (time : TimeOptions) : Request :=
  .stimulate self.identity (fun _ ↦ .ok (.digitalOutput action)) time

def DigitalOutput.high (self : Handle .digitalOutput) (time : TimeOptions) : Request :=
  DigitalOutput.set self .high time

def DigitalOutput.low (self : Handle .digitalOutput) (time : TimeOptions) : Request :=
  DigitalOutput.set self .low time

def DigitalOutput.toggle (self : Handle .digitalOutput) (time : TimeOptions) : Request :=
  DigitalOutput.set self .toggle time

/-! ### PWM handles -/

def PwmInput.configure (self : Handle .pwmInput) (voltage : Passed LogicVoltage) : Request :=
  .configureChannel self.identity do
    let voltage ← requireEnum voltage "voltage" "LogicVoltage"
    return .pwmInput voltage

def PwmOutput.configure (self : Handle .pwmOutput) (voltage : Passed LogicVoltage)
    (initialFrequencyHz initialDutyCycle : Passed Number) (initiallyEnabled : Passed Bool) :
    Request :=
  .configureChannel self.identity do
    let voltage ← requireEnum voltage "voltage" "LogicVoltage"
    let initiallyEnabled ← requireBool initiallyEnabled "initially_enabled must be a bool"
    validatePwmVoltage self voltage
    let frequency ← protocolPwmFrequency initialFrequencyHz "initial_frequency_hz"
    let dutyCycle ← protocolPwmDutyCycle initialDutyCycle "initial_duty_cycle"
    return .pwmOutput voltage (.finite frequency) (.finite dutyCycle) initiallyEnabled

/-- Schedule a PWM output to be enabled or disabled. -/
def PwmOutput.setEnabled (self : Handle .pwmOutput) (enabled : Bool) (time : TimeOptions) :
    Request :=
  .stimulate self.identity (fun _ ↦ .ok (.pwmEnable enabled)) time

def PwmOutput.enable (self : Handle .pwmOutput) (time : TimeOptions) : Request :=
  PwmOutput.setEnabled self true time

def PwmOutput.disable (self : Handle .pwmOutput) (time : TimeOptions) : Request :=
  PwmOutput.setEnabled self false time

def PwmOutput.set (self : Handle .pwmOutput) (frequencyHz dutyCycle : Passed Number)
    (time : TimeOptions) : Request :=
  .stimulate self.identity (fun _ ↦ do
    let frequency ← protocolPwmFrequency frequencyHz "frequency_hz"
    let duty ← protocolPwmDutyCycle dutyCycle "duty_cycle"
    return .pwmSet (.finite frequency) (.finite duty)) time

def PwmOutput.setFrequency (self : Handle .pwmOutput) (frequencyHz : Passed Number)
    (time : TimeOptions) : Request :=
  .stimulate self.identity (fun _ ↦ do
    let frequency ← protocolPwmFrequency frequencyHz "frequency_hz"
    return .pwmSetFrequency (.finite frequency)) time

def PwmOutput.setDutyCycle (self : Handle .pwmOutput) (dutyCycle : Passed Number)
    (time : TimeOptions) : Request :=
  .stimulate self.identity (fun _ ↦ do
    let duty ← protocolPwmDutyCycle dutyCycle "duty_cycle"
    return .pwmSetDutyCycle (.finite duty)) time

/-! ### Analogue handles -/

def AnalogueInput.configure (self : Handle .analogueInput) : Request :=
  .configureChannel self.identity (.ok .analogueInput)

def AnalogueOutput.configure (self : Handle .analogueOutput) (initialVoltage : Passed Number) :
    Request :=
  .configureChannel self.identity do
    let voltage ← analogueOutputVoltage initialVoltage "initial_voltage"
    return .analogueOutput (.finite voltage)

def AnalogueOutput.setVoltage (self : Handle .analogueOutput) (voltage : Passed Number)
    (time : TimeOptions) : Request :=
  .stimulate self.identity (fun configuration ↦ do
    match configuration.forChannel self.identity with
    | some (.analogueOutput _) =>
      let requested ← analogueOutputVoltage voltage "voltage"
      return .analogueOutput (.finite requested)
    | _ => .error (.configuration
        s!"analogue_output channel {self} must be configured before adding stimuli")) time

/-! ### Communication handles -/

def I2C.configure (self : Handle .i2c) (role : Passed BusRole) (speed : Passed I2CSpeed)
    (logicVoltage : Passed LogicVoltage) (pullup : Passed Pullup)
    (ownAddress : Option (Passed (Builtin ℤ))) : Request :=
  .configureChannel self.identity do
    let role ← requireEnum role "role" "I2CRole"
    let speed ← requireEnum speed "speed" "I2CSpeed"
    let logicVoltage ← requireEnum logicVoltage "logic_voltage" "LogicVoltage"
    let pullup ← requireEnum pullup "pullup" "Pullup"
    if logicVoltage ∉ [LogicVoltage.v3_3, .v5] then
      .error (.configuration "I2C supports only 3.3 V and 5 V logic")
    else
      match role with
      | .master =>
        if ownAddress.isSome then
          .error (.configuration "A master I2C channel must not define own_address")
        else return .i2c role speed logicVoltage pullup none
      | .slave =>
        let address ← i2cAddress (ownAddress.getD .mistyped) "own_address"
        return .i2c role speed logicVoltage pullup (some address)

/-- Refuse a stimulus on an I2C channel that is not configured for its role. -/
def I2C.requireRole (self : Handle .i2c) (requiredRole : BusRole)
    (configuration : Configuration) : Except HilRigError Unit :=
  match configuration.forChannel self.identity with
  | some (.i2c role _ _ _ _) =>
    if role ≠ requiredRole then
      .error (.peripheral
        s!"I2C channel {self} is configured as {role.value}, not {requiredRole.value}")
    else .ok ()
  | _ => .error (.configuration
      s!"I2C channel {self} must be configured before adding stimuli")

def I2C.write (self : Handle .i2c) (address : Passed (Builtin ℤ))
    (data : Passed (Builtin (List UInt8))) (time : TimeOptions) : Request :=
  .stimulate self.identity (fun configuration ↦ do
    I2C.requireRole self .master configuration
    let targetAddress ← i2cAddress address "address"
    let payload ← bytes data
    return .i2cWrite targetAddress payload) time

def I2C.read (self : Handle .i2c) (address length : Passed (Builtin ℤ)) (time : TimeOptions) :
    Request :=
  .stimulate self.identity (fun configuration ↦ do
    I2C.requireRole self .master configuration
    let targetAddress ← i2cAddress address "address"
    let length ← positiveInteger length "length"
    return .i2cRead targetAddress length) time

def I2C.preloadResponse (self : Handle .i2c) (data : Passed (Builtin (List UInt8)))
    (time : TimeOptions) : Request :=
  .stimulate self.identity (fun configuration ↦ do
    I2C.requireRole self .slave configuration
    let payload ← bytes data
    return .i2cPreloadResponse payload) time

def SPI.configure (self : Handle .spi) (role : Passed BusRole) (baud : Passed SPIBaud)
    (dataSize : Passed SPISize) (mode : Passed SPIMode) (firstBit : Passed SPIFirst) : Request :=
  .configureChannel self.identity do
    let role ← requireEnum role "role" "SPIRole"
    let baud ← requireEnum baud "baud" "SPIBaud"
    let dataSize ← requireEnum dataSize "data_size" "SPISize"
    let mode ← requireEnum mode "mode" "SPIMode"
    let firstBit ← requireEnum firstBit "first_bit" "SPIFirst"
    return .spi role baud dataSize mode firstBit

/-- The frame size of an SPI channel that may transfer. -/
def SPI.configurationForTransfer (self : Handle .spi) (configuration : Configuration) :
    Except HilRigError SPISize :=
  match configuration.forChannel self.identity with
  | some (.spi role _ dataSize _ _) =>
    if role ≠ .master then
      .error (.peripheral (s!"SPI channel {self} is configured as slave; transfer() generates " ++
        "clocks and is only defined for a master channel"))
    else .ok dataSize
  | _ => .error (.configuration
      s!"SPI channel {self} must be configured before adding stimuli")

def SPI.transfer (self : Handle .spi) (txData : Passed (Builtin (List UInt8)))
    (rxLength : Passed (Builtin ℤ)) (time : TimeOptions) : Request :=
  .stimulate self.identity (fun configuration ↦ do
    let dataSize ← SPI.configurationForTransfer self configuration
    let payload ← bytes txData
    let receivedBytes ← nonNegativeInteger rxLength "rx_length"
    if payload.value.isEmpty ∧ receivedBytes.value = 0 then
      .error (.value "An SPI transfer must transmit or receive at least one byte")
    else if dataSize = .size16bit ∧ payload.value.length % 2 ≠ 0 then
      .error (.value "tx_data length must be even for 16-bit SPI frames")
    else if dataSize = .size16bit ∧ receivedBytes.value % 2 ≠ 0 then
      .error (.value "rx_length must be even for 16-bit SPI frames")
    else return .spiTransfer payload receivedBytes) time

def UART.configure (self : Handle .uart) (mode : Passed UARTMode) (baudHz : Passed (Builtin ℤ))
    (parity : Passed UARTParity) (length : Passed UARTLengthBits) (stop : Passed UARTStopBits) :
    Request :=
  .configureChannel self.identity do
    let mode ← requireEnum mode "mode" "UARTMode"
    let parity ← requireEnum parity "parity" "UARTParity"
    let length ← requireEnum length "length" "UARTLengthBits"
    let stop ← requireEnum stop "stop" "UARTStopBits"
    let baud ← positiveInteger baudHz "baud_hz"
    if 921600 < baud.value then .error (.value "baud_hz must not exceed 921600")
    else return .uart mode baud parity length stop

def UART.write (self : Handle .uart) (data : Passed (Builtin (List UInt8))) (time : TimeOptions) :
    Request :=
  .stimulate self.identity (fun _ ↦ do
    let payload ← bytes data
    return .uartWrite payload) time

/-- Why a text could not be encoded: its encoding is unknown, or a character has no code in it. -/
inductive EncodingFailure
  | lookup
  | unicode (message : String)
  deriving DecidableEq, Repr

/-- Encode text immediately; `encoded` is what `data.encode(encoding)` gives. -/
def UART.writeText (self : Handle .uart) (data encoding : Passed String)
    (encoded : Except EncodingFailure (List UInt8)) (time : TimeOptions) : Request :=
  .stimulate self.identity (fun _ ↦
    match data, encoding with
    | .mistyped, _ => .error (.type "data must be a string")
    | .value _, .mistyped => .error (.type "encoding must be a non-empty string")
    | .value _, .value encoding =>
      if encoding.isEmpty then .error (.type "encoding must be a non-empty string")
      else
        match encoded with
        | .ok payload => .ok (.uartWrite (.plain payload))
        | .error .lookup => .error (.value s!"Unknown text encoding: {encoding}")
        | .error (.unicode message) => .error (.value message)) time

/-! ### Expectations about a digital input -/

/-- Expect a state at one time. -/
def DigitalInputExpectation.point (self : Handle .digitalInput) (state : DigitalState)
    (time : TimeOptions) : Request :=
  .assertAt self.identity (.ok fun tick ↦ .digitalPoint tick state) time

def DigitalInputExpectation.high (self : Handle .digitalInput) (time : TimeOptions) : Request :=
  DigitalInputExpectation.point self .high time

def DigitalInputExpectation.low (self : Handle .digitalInput) (time : TimeOptions) : Request :=
  DigitalInputExpectation.point self .low time

def DigitalInputExpectation.remainHigh (self : Handle .digitalInput) (bounds : BoundOptions) :
    Request :=
  .assertOver self.identity (.ok .digitalRemainHigh) bounds.range

def DigitalInputExpectation.remainLow (self : Handle .digitalInput) (bounds : BoundOptions) :
    Request :=
  .assertOver self.identity (.ok .digitalRemainLow) bounds.range

/-- The digital state of a boolean. -/
def digitalStateOf (level : Bool) : DigitalState :=
  if level then .high else .low

def DigitalInputExpectation.toTransition (self : Handle .digitalInput)
    (fromState toState : Passed Bool) (between : RangeOptions) : Request :=
  .assertOver self.identity
    (do
      let fromState ← requireBool fromState "from_state and to_state must be bool values"
      let toState ← requireBool toState "from_state and to_state must be bool values"
      if fromState = toState then .error (.value "A transition must change state")
      else return fun fromTick untilTick ↦
        .digitalTransition fromTick untilTick (digitalStateOf fromState) (digitalStateOf toState))
    (.ok between)

/-! ### Expectations about a PWM input -/

def PwmInputExpectation.periodNear (self : Handle .pwmInput)
    (periodNs toleranceNs : Passed (Builtin ℤ)) (time : TimeOptions) : Request :=
  .assertAt self.identity (do
    let period ← positiveInteger periodNs "period_ns"
    let tolerance ← nonNegativeInteger toleranceNs "tolerance_ns"
    return fun tick ↦ .pwmPeriodNear tick period tolerance) time

def PwmInputExpectation.frequencyNear (self : Handle .pwmInput)
    (frequencyHz toleranceHz : Passed Number) (time : TimeOptions) : Request :=
  .assertAt self.identity (do
    let frequency ← positiveNumber frequencyHz "frequency_hz"
    let tolerance ← nonNegativeNumber toleranceHz "tolerance_hz"
    return fun tick ↦ .pwmFrequencyNear tick (.finite frequency) (.finite tolerance)) time

def PwmInputExpectation.dutyCycleNear (self : Handle .pwmInput)
    (duty dutyCycleTolerance : Passed Number) (time : TimeOptions) : Request :=
  .assertAt self.identity (do
    let duty ← dutyCycle duty "duty_cycle"
    let tolerance ← dutyCycle dutyCycleTolerance "duty_cycle_tolerance"
    return fun tick ↦ .pwmDutyCycleNear tick (.finite duty) (.finite tolerance)) time

def PwmInputExpectation.waveformNear (self : Handle .pwmInput)
    (frequencyHz frequencyToleranceHz duty dutyCycleTolerance : Passed Number)
    (time : TimeOptions) : Request :=
  .assertAt self.identity (do
    let frequency ← positiveNumber frequencyHz "frequency_hz"
    let frequencyTolerance ← nonNegativeNumber frequencyToleranceHz "frequency_tolerance_hz"
    let duty ← dutyCycle duty "duty_cycle"
    let dutyTolerance ← dutyCycle dutyCycleTolerance "duty_cycle_tolerance"
    return fun tick ↦ .pwmWaveformNear tick (.finite frequency) (.finite frequencyTolerance)
      (.finite duty) (.finite dutyTolerance)) time

def PwmInputExpectation.frequencyRemainWithin (self : Handle .pwmInput)
    (minimumHz maximumHz : Passed Number) (bounds : BoundOptions) : Request :=
  .assertOver self.identity
    (do
      let minimum ← nonNegativeNumber minimumHz "minimum_hz"
      let maximum ← nonNegativeNumber maximumHz "maximum_hz"
      orderedBounds minimum maximum "minimum_hz and maximum_hz"
      return fun fromTick untilTick ↦
        .pwmFrequencyRemainWithin fromTick untilTick (.finite minimum) (.finite maximum))
    bounds.range

def PwmInputExpectation.dutyCycleRemainWithin (self : Handle .pwmInput)
    (minimumDutyCycle maximumDutyCycle : Passed Number) (bounds : BoundOptions) : Request :=
  .assertOver self.identity
    (do
      let minimum ← dutyCycle minimumDutyCycle "minimum_duty_cycle"
      let maximum ← dutyCycle maximumDutyCycle "maximum_duty_cycle"
      orderedBounds minimum maximum "minimum_duty_cycle and maximum_duty_cycle"
      return fun fromTick untilTick ↦
        .pwmDutyCycleRemainWithin fromTick untilTick (.finite minimum) (.finite maximum))
    bounds.range

/-! ### Expectations about an analogue input -/

def AnalogueInputExpectation.near (self : Handle .analogueInput)
    (targetV toleranceV : Passed Quantity) (time : TimeOptions) : Request :=
  .assertAt self.identity (do
    let targetUv ← voltsToMicrovolts targetV "target_v"
    let toleranceUv ← nonNegativeMicrovolts toleranceV "tolerance_v"
    return fun tick ↦ .analogueNear tick targetUv toleranceUv) time

def AnalogueInputExpectation.within (self : Handle .analogueInput)
    (minimumV maximumV : Passed Quantity) (time : TimeOptions) : Request :=
  .assertAt self.identity (do
    let (minimumUv, maximumUv) ← voltageBounds minimumV maximumV
    return fun tick ↦ .analogueWithin tick minimumUv maximumUv) time

def AnalogueInputExpectation.remainWithin (self : Handle .analogueInput)
    (minimumV maximumV : Passed Quantity) (bounds : BoundOptions) : Request :=
  .assertOver self.identity
    (do
      let (minimumUv, maximumUv) ← voltageBounds minimumV maximumV
      return fun fromTick untilTick ↦
        .analogueRemainWithin fromTick untilTick minimumUv maximumUv)
    bounds.range

def AnalogueInputExpectation.remainAbove (self : Handle .analogueInput)
    (thresholdV : Passed Quantity) (bounds : BoundOptions) : Request :=
  .assertOver self.identity
    (do
      let thresholdUv ← voltsToMicrovolts thresholdV "threshold_v"
      return fun fromTick untilTick ↦ .analogueRemainAbove fromTick untilTick thresholdUv)
    bounds.range

def AnalogueInputExpectation.remainBelow (self : Handle .analogueInput)
    (thresholdV : Passed Quantity) (bounds : BoundOptions) : Request :=
  .assertOver self.identity
    (do
      let thresholdUv ← voltsToMicrovolts thresholdV "threshold_v"
      return fun fromTick untilTick ↦ .analogueRemainBelow fromTick untilTick thresholdUv)
    bounds.range

/-! ### Calls -/

/-- A public call on the test, on one of its channel handles or on one of its expectation
objects. -/
inductive Call
  | configure (frequencyMode : Passed FrequencyMode) (startMode : Passed StartMode)
  | digitalInput (channel : Passed ℤ)
  | digitalOutput (channel : Passed ℤ)
  | pwmInput (channel : Passed ℤ)
  | pwmOutput (channel : Passed ℤ)
  | analogueInput (channel : Passed ℤ)
  | analogueOutput (channel : Passed ℤ)
  | i2c (channel : Passed ℤ)
  | spi (channel : Passed ℤ)
  | uart (channel : Passed ℤ)
  | expect (target : ExpectTarget)
  | compile
  | digitalInputConfigure (self : Handle .digitalInput) (voltage : Passed LogicVoltage)
  | digitalOutputConfigure (self : Handle .digitalOutput) (voltage : Passed LogicVoltage)
      (initialState : Passed DigitalState)
  | digitalOutputHigh (self : Handle .digitalOutput) (time : TimeOptions)
  | digitalOutputLow (self : Handle .digitalOutput) (time : TimeOptions)
  | digitalOutputToggle (self : Handle .digitalOutput) (time : TimeOptions)
  | pwmInputConfigure (self : Handle .pwmInput) (voltage : Passed LogicVoltage)
  | pwmOutputConfigure (self : Handle .pwmOutput) (voltage : Passed LogicVoltage)
      (initialFrequencyHz initialDutyCycle : Passed Number) (initiallyEnabled : Passed Bool)
  | pwmOutputEnable (self : Handle .pwmOutput) (time : TimeOptions)
  | pwmOutputDisable (self : Handle .pwmOutput) (time : TimeOptions)
  | pwmOutputSet (self : Handle .pwmOutput) (frequencyHz duty : Passed Number)
      (time : TimeOptions)
  | pwmOutputSetFrequency (self : Handle .pwmOutput) (frequencyHz : Passed Number)
      (time : TimeOptions)
  | pwmOutputSetDutyCycle (self : Handle .pwmOutput) (duty : Passed Number) (time : TimeOptions)
  | analogueInputConfigure (self : Handle .analogueInput)
  | analogueOutputConfigure (self : Handle .analogueOutput) (initialVoltage : Passed Number)
  | analogueOutputSetVoltage (self : Handle .analogueOutput) (voltage : Passed Number)
      (time : TimeOptions)
  | i2cConfigure (self : Handle .i2c) (role : Passed BusRole) (speed : Passed I2CSpeed)
      (logicVoltage : Passed LogicVoltage) (pullup : Passed Pullup)
      (ownAddress : Option (Passed (Builtin ℤ)))
  | i2cWrite (self : Handle .i2c) (address : Passed (Builtin ℤ))
      (data : Passed (Builtin (List UInt8))) (time : TimeOptions)
  | i2cRead (self : Handle .i2c) (address length : Passed (Builtin ℤ)) (time : TimeOptions)
  | i2cPreloadResponse (self : Handle .i2c) (data : Passed (Builtin (List UInt8)))
      (time : TimeOptions)
  | spiConfigure (self : Handle .spi) (role : Passed BusRole) (baud : Passed SPIBaud)
      (dataSize : Passed SPISize) (mode : Passed SPIMode) (firstBit : Passed SPIFirst)
  | spiTransfer (self : Handle .spi) (txData : Passed (Builtin (List UInt8)))
      (rxLength : Passed (Builtin ℤ)) (time : TimeOptions)
  | uartConfigure (self : Handle .uart) (mode : Passed UARTMode) (baudHz : Passed (Builtin ℤ))
      (parity : Passed UARTParity) (length : Passed UARTLengthBits) (stop : Passed UARTStopBits)
  | uartWrite (self : Handle .uart) (data : Passed (Builtin (List UInt8))) (time : TimeOptions)
  | uartWriteText (self : Handle .uart) (data encoding : Passed String)
      (encoded : Except EncodingFailure (List UInt8)) (time : TimeOptions)
  | expectHigh (self : Handle .digitalInput) (time : TimeOptions)
  | expectLow (self : Handle .digitalInput) (time : TimeOptions)
  | expectRemainHigh (self : Handle .digitalInput) (bounds : BoundOptions)
  | expectRemainLow (self : Handle .digitalInput) (bounds : BoundOptions)
  | expectToTransition (self : Handle .digitalInput) (fromState toState : Passed Bool)
      (between : RangeOptions)
  | expectPeriodNear (self : Handle .pwmInput) (periodNs toleranceNs : Passed (Builtin ℤ))
      (time : TimeOptions)
  | expectFrequencyNear (self : Handle .pwmInput) (frequencyHz toleranceHz : Passed Number)
      (time : TimeOptions)
  | expectDutyCycleNear (self : Handle .pwmInput) (duty dutyCycleTolerance : Passed Number)
      (time : TimeOptions)
  | expectWaveformNear (self : Handle .pwmInput)
      (frequencyHz frequencyToleranceHz duty dutyCycleTolerance : Passed Number)
      (time : TimeOptions)
  | expectFrequencyRemainWithin (self : Handle .pwmInput)
      (minimumHz maximumHz : Passed Number) (bounds : BoundOptions)
  | expectDutyCycleRemainWithin (self : Handle .pwmInput)
      (minimumDutyCycle maximumDutyCycle : Passed Number) (bounds : BoundOptions)
  | expectNear (self : Handle .analogueInput) (targetV toleranceV : Passed Quantity)
      (time : TimeOptions)
  | expectWithin (self : Handle .analogueInput) (minimumV maximumV : Passed Quantity)
      (time : TimeOptions)
  | expectRemainWithin (self : Handle .analogueInput) (minimumV maximumV : Passed Quantity)
      (bounds : BoundOptions)
  | expectRemainAbove (self : Handle .analogueInput) (thresholdV : Passed Quantity)
      (bounds : BoundOptions)
  | expectRemainBelow (self : Handle .analogueInput) (thresholdV : Passed Quantity)
      (bounds : BoundOptions)

/-- The request a call makes. -/
def Call.request : Call → Request
  | .configure frequencyMode startMode => .configure frequencyMode startMode
  | .digitalInput channel => Test.digitalInput channel
  | .digitalOutput channel => Test.digitalOutput channel
  | .pwmInput channel => Test.pwmInput channel
  | .pwmOutput channel => Test.pwmOutput channel
  | .analogueInput channel => Test.analogueInput channel
  | .analogueOutput channel => Test.analogueOutput channel
  | .i2c channel => Test.i2c channel
  | .spi channel => Test.spi channel
  | .uart channel => Test.uart channel
  | .expect target => .expect target
  | .compile => .compile
  | .digitalInputConfigure self voltage => DigitalInput.configure self voltage
  | .digitalOutputConfigure self voltage initialState =>
    DigitalOutput.configure self voltage initialState
  | .digitalOutputHigh self time => DigitalOutput.high self time
  | .digitalOutputLow self time => DigitalOutput.low self time
  | .digitalOutputToggle self time => DigitalOutput.toggle self time
  | .pwmInputConfigure self voltage => PwmInput.configure self voltage
  | .pwmOutputConfigure self voltage initialFrequencyHz initialDutyCycle initiallyEnabled =>
    PwmOutput.configure self voltage initialFrequencyHz initialDutyCycle initiallyEnabled
  | .pwmOutputEnable self time => PwmOutput.enable self time
  | .pwmOutputDisable self time => PwmOutput.disable self time
  | .pwmOutputSet self frequencyHz duty time => PwmOutput.set self frequencyHz duty time
  | .pwmOutputSetFrequency self frequencyHz time => PwmOutput.setFrequency self frequencyHz time
  | .pwmOutputSetDutyCycle self duty time => PwmOutput.setDutyCycle self duty time
  | .analogueInputConfigure self => AnalogueInput.configure self
  | .analogueOutputConfigure self initialVoltage => AnalogueOutput.configure self initialVoltage
  | .analogueOutputSetVoltage self voltage time => AnalogueOutput.setVoltage self voltage time
  | .i2cConfigure self role speed logicVoltage pullup ownAddress =>
    I2C.configure self role speed logicVoltage pullup ownAddress
  | .i2cWrite self address data time => I2C.write self address data time
  | .i2cRead self address length time => I2C.read self address length time
  | .i2cPreloadResponse self data time => I2C.preloadResponse self data time
  | .spiConfigure self role baud dataSize mode firstBit =>
    SPI.configure self role baud dataSize mode firstBit
  | .spiTransfer self txData rxLength time => SPI.transfer self txData rxLength time
  | .uartConfigure self mode baudHz parity length stop =>
    UART.configure self mode baudHz parity length stop
  | .uartWrite self data time => UART.write self data time
  | .uartWriteText self data encoding encoded time =>
    UART.writeText self data encoding encoded time
  | .expectHigh self time => DigitalInputExpectation.high self time
  | .expectLow self time => DigitalInputExpectation.low self time
  | .expectRemainHigh self bounds => DigitalInputExpectation.remainHigh self bounds
  | .expectRemainLow self bounds => DigitalInputExpectation.remainLow self bounds
  | .expectToTransition self fromState toState between =>
    DigitalInputExpectation.toTransition self fromState toState between
  | .expectPeriodNear self periodNs toleranceNs time =>
    PwmInputExpectation.periodNear self periodNs toleranceNs time
  | .expectFrequencyNear self frequencyHz toleranceHz time =>
    PwmInputExpectation.frequencyNear self frequencyHz toleranceHz time
  | .expectDutyCycleNear self duty dutyCycleTolerance time =>
    PwmInputExpectation.dutyCycleNear self duty dutyCycleTolerance time
  | .expectWaveformNear self frequencyHz frequencyToleranceHz duty dutyCycleTolerance time =>
    PwmInputExpectation.waveformNear self frequencyHz frequencyToleranceHz duty
      dutyCycleTolerance time
  | .expectFrequencyRemainWithin self minimumHz maximumHz bounds =>
    PwmInputExpectation.frequencyRemainWithin self minimumHz maximumHz bounds
  | .expectDutyCycleRemainWithin self minimumDutyCycle maximumDutyCycle bounds =>
    PwmInputExpectation.dutyCycleRemainWithin self minimumDutyCycle maximumDutyCycle bounds
  | .expectNear self targetV toleranceV time =>
    AnalogueInputExpectation.near self targetV toleranceV time
  | .expectWithin self minimumV maximumV time =>
    AnalogueInputExpectation.within self minimumV maximumV time
  | .expectRemainWithin self minimumV maximumV bounds =>
    AnalogueInputExpectation.remainWithin self minimumV maximumV bounds
  | .expectRemainAbove self thresholdV bounds =>
    AnalogueInputExpectation.remainAbove self thresholdV bounds
  | .expectRemainBelow self thresholdV bounds =>
    AnalogueInputExpectation.remainBelow self thresholdV bounds

/-- Run a public call on a test. -/
def execute (call : Call) : TestM Unit :=
  perform call.request

/-- The test after a call, whether it returned or raised. -/
def Test.called (test : Test) (call : Call) : Test :=
  match execute call test with
  | .ok _ after => after
  | .error _ after => after

/-- The test after a list of calls, some of which may have raised. -/
def Test.after (test : Test) (calls : List Call) : Test :=
  calls.foldl Test.called test

/-- A test that public calls can produce. -/
def Test.Reachable (test : Test) : Prop :=
  ∃ (testId : Fin (2 ^ 128)) (name : Passed String) (created : Test) (calls : List Call),
    Test.create testId name = .ok created ∧ test = created.after calls

end HilRig.Api
