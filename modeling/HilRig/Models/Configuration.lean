import HilRig.Exceptions
import Mathlib.Algebra.Ring.Nat
import Mathlib.Data.Rat.Defs

/-!
# Channels and static peripheral configuration

A channel is a peripheral kind with an index below the number of physical channels of that kind;
`Channel` carries that bound, so an invalid channel cannot be built. Each kind has its own
configuration record, and `PeripheralConfiguration.kind` is the kind a record configures. Member
names of the enumerations (`StartMode.name`, `LogicVoltage.name`, ...) are the symbolic names that
the compiled form stores.

A float stands for the exact decimal that `str` prints. An integer or a string of bytes that a
caller passes may be a member of an enumeration that derives from its type, which it stays when it
is stored (`Builtin`).
-/

set_option autoImplicit false
set_option relaxedAutoImplicit false

namespace HilRig.Models

/-- A Python float, as the decimal its `str` prints. -/
inductive PyFloat
  | finite (value : ℚ)
  | infinite (negative : Bool)
  | nan
  deriving DecidableEq, Repr

/-- A value of a built-in type: a plain one, or a member of an enumeration that derives from the
type, such as an `IntEnum`. A flag that combines no members has no name. -/
inductive Builtin (α : Type)
  | plain (value : α)
  | member (name : Option String) (value : α)
  deriving DecidableEq, Repr

namespace Builtin

variable {α β : Type}

instance {literal : ℕ} [OfNat α literal] : OfNat (Builtin α) literal :=
  ⟨plain (OfNat.ofNat literal)⟩

/-- The value as the built-in type has it. -/
def value : Builtin α → α
  | plain value => value
  | member _ value => value

@[simp] theorem value_plain (value : α) : (plain value).value = value := rfl

@[simp] theorem value_member (name : Option String) (value : α) :
    (member name value).value = value := rfl

def map (f : α → β) : Builtin α → Builtin β
  | plain value => plain (f value)
  | member name value => member name (f value)

@[simp] theorem value_map (f : α → β) (object : Builtin α) :
    (object.map f).value = f object.value := by
  cases object <;> rfl

/-- Whether a value is no member of an enumeration. -/
def isPlain : Builtin α → Bool
  | plain _ => true
  | member _ _ => false

@[simp] theorem isPlain_plain (value : α) : (plain value).isPlain = true := rfl

theorem isPlain_iff {object : Builtin α} : object.isPlain = true ↔ object = plain object.value := by
  cases object <;> simp [isPlain, value]

@[simp] theorem isPlain_map (f : α → β) (object : Builtin α) :
    (object.map f).isPlain = object.isPlain := by
  cases object <;> rfl

end Builtin

/-! ### Channels -/

/-- Two channels, or ten, are some, so that numerals can stand for them. -/
instance neZero_pair : NeZero 2 := ⟨by decide⟩

instance neZero_bank : NeZero 10 := ⟨by decide⟩

/-- Kinds of channel. -/
inductive ChannelKind
  | digitalInput
  | digitalOutput
  | pwmInput
  | pwmOutput
  | analogueInput
  | analogueOutput
  | i2c
  | spi
  | uart
  deriving DecidableEq, Repr

/-- The text value of a channel kind. -/
def ChannelKind.value : ChannelKind → String
  | .digitalInput => "digital_input"
  | .digitalOutput => "digital_output"
  | .pwmInput => "pwm_input"
  | .pwmOutput => "pwm_output"
  | .analogueInput => "analogue_input"
  | .analogueOutput => "analogue_output"
  | .i2c => "i2c"
  | .spi => "spi"
  | .uart => "uart"

/-- Distinct kinds have distinct text values. -/
theorem ChannelKind.value_injective : Function.Injective ChannelKind.value := by
  intro first second heq
  cases first <;> cases second <;> first | rfl | exact absurd heq (by decide)

/-- The number of physical channels of a kind. -/
@[reducible] def channelCount : ChannelKind → ℕ
  | .digitalInput => 10
  | .digitalOutput => 10
  | .pwmInput => 2
  | .pwmOutput => 2
  | .analogueInput => 2
  | .analogueOutput => 6
  | .i2c => 2
  | .spi => 2
  | .uart => 2

/-- One physical channel. -/
structure Channel where
  kind : ChannelKind
  index : ℕ
  index_lt : index < channelCount kind
  deriving DecidableEq, Repr

/-- Validate a zero-based channel index. -/
def validateChannelIndex (kind : ChannelKind) (index : ℤ) : Except HilRigError Channel :=
  if h : 0 ≤ index ∧ index.toNat < channelCount kind then .ok ⟨kind, index.toNat, h.2⟩
  else
    let validRange :=
      if channelCount kind = 2 then "0 or 1" else s!"between 0 and {channelCount kind - 1}"
    .error (.value s!"{kind.value} channel must be {validRange}")

/-- The index of a channel passes for its kind. -/
theorem validateChannelIndex_index (channel : Channel) :
    validateChannelIndex channel.kind channel.index = .ok channel := by
  unfold validateChannelIndex
  rw [dif_pos ⟨Int.natCast_nonneg _, by rw [Int.toNat_natCast]; exact channel.index_lt⟩]
  rfl

/-! ### Enumerations -/

/-- Externally visible execution frequency. -/
inductive FrequencyMode
  | hz100
  | hz1k
  | hz10k
  deriving DecidableEq, Repr

/-- Execution ticks per second. -/
def FrequencyMode.hertz : FrequencyMode → ℕ
  | .hz100 => 100
  | .hz1k => 1000
  | .hz10k => 10000

/-- Every execution frequency is positive. -/
theorem FrequencyMode.hertz_pos (mode : FrequencyMode) : 0 < mode.hertz := by
  cases mode <;> decide

def FrequencyMode.name : FrequencyMode → String
  | .hz100 => "HZ_100"
  | .hz1k => "HZ_1K"
  | .hz10k => "HZ_10K"

/-- Condition that starts an uploaded test. -/
inductive StartMode
  | immediate
  | hostCommand
  | externalTrigger
  deriving DecidableEq, Repr

def StartMode.name : StartMode → String
  | .immediate => "IMMEDIATE"
  | .hostCommand => "HOST_COMMAND"
  | .externalTrigger => "EXTERNAL_TRIGGER"

/-- Supported digital logic voltage domains. -/
inductive LogicVoltage
  | v3_3
  | v5
  | v12
  | v24
  deriving DecidableEq, Repr

def LogicVoltage.name : LogicVoltage → String
  | .v3_3 => "V3_3"
  | .v5 => "V5"
  | .v12 => "V12"
  | .v24 => "V24"

/-- Logical state of a digital channel. -/
inductive DigitalState
  | low
  | high
  deriving DecidableEq, Repr

def DigitalState.name : DigitalState → String
  | .low => "LOW"
  | .high => "HIGH"

/-- Role of an I2C or SPI channel. -/
inductive BusRole
  | master
  | slave
  deriving DecidableEq, Repr

def BusRole.name : BusRole → String
  | .master => "MASTER"
  | .slave => "SLAVE"

/-- The text value of a role. -/
def BusRole.value : BusRole → String
  | .master => "master"
  | .slave => "slave"

/-- I2C bus speeds. -/
inductive I2CSpeed
  | standard100kHz
  | fast400kHz
  deriving DecidableEq, Repr

def I2CSpeed.name : I2CSpeed → String
  | .standard100kHz => "STANDARD_100KHZ"
  | .fast400kHz => "FAST_400KHZ"

/-- Selectable I2C pull-up resistors. -/
inductive Pullup
  | disabled
  | ohm1k
  | ohm2k2
  | ohm4k7
  | ohm10k
  deriving DecidableEq, Repr

def Pullup.name : Pullup → String
  | .disabled => "DISABLED"
  | .ohm1k => "OHM_1K"
  | .ohm2k2 => "OHM_2K2"
  | .ohm4k7 => "OHM_4K7"
  | .ohm10k => "OHM_10K"

/-- Supported SPI bit rates. -/
inductive SPIBaud
  | baud45Mbit
  | baud22M5bit
  | baud11M25bit
  | baud5M625bit
  | baud2M813bit
  | baud1M406bit
  | baud703kbit
  | baud352kbit
  deriving DecidableEq, Repr

def SPIBaud.name : SPIBaud → String
  | .baud45Mbit => "BAUD_45MBIT"
  | .baud22M5bit => "BAUD_22M5BIT"
  | .baud11M25bit => "BAUD_11M25BIT"
  | .baud5M625bit => "BAUD_5M625BIT"
  | .baud2M813bit => "BAUD_2M813BIT"
  | .baud1M406bit => "BAUD_1M406BIT"
  | .baud703kbit => "BAUD_703KBIT"
  | .baud352kbit => "BAUD_352KBIT"

/-- SPI frame sizes. -/
inductive SPISize
  | size8bit
  | size16bit
  deriving DecidableEq, Repr

def SPISize.name : SPISize → String
  | .size8bit => "SIZE_8BIT"
  | .size16bit => "SIZE_16BIT"

/-- SPI clock polarity and phase combinations. -/
inductive SPIMode
  | mode0
  | mode1
  | mode2
  | mode3
  deriving DecidableEq, Repr

def SPIMode.name : SPIMode → String
  | .mode0 => "MODE_0"
  | .mode1 => "MODE_1"
  | .mode2 => "MODE_2"
  | .mode3 => "MODE_3"

/-- Bit order within each SPI frame. -/
inductive SPIFirst
  | msb
  | lsb
  deriving DecidableEq, Repr

def SPIFirst.name : SPIFirst → String
  | .msb => "MSB"
  | .lsb => "LSB"

/-- Electrical interface of a UART channel. -/
inductive UARTMode
  | ttl3v3
  | ttl5v0
  | rs232
  deriving DecidableEq, Repr

def UARTMode.name : UARTMode → String
  | .ttl3v3 => "TTL_3V3"
  | .ttl5v0 => "TTL_5V0"
  | .rs232 => "RS232"

/-- UART parity modes. -/
inductive UARTParity
  | none
  | odd
  | even
  deriving DecidableEq, Repr

def UARTParity.name : UARTParity → String
  | .none => "NONE"
  | .odd => "ODD"
  | .even => "EVEN"

/-- UART word lengths. -/
inductive UARTLengthBits
  | eight
  | nine
  deriving DecidableEq, Repr

def UARTLengthBits.name : UARTLengthBits → String
  | .eight => "EIGHT"
  | .nine => "NINE"

/-- UART stop-bit counts. -/
inductive UARTStopBits
  | one
  | two
  deriving DecidableEq, Repr

def UARTStopBits.name : UARTStopBits → String
  | .one => "ONE"
  | .two => "TWO"

/-! ### Peripheral configurations -/

/-- The static configuration of one channel. -/
inductive PeripheralConfiguration
  | digitalInput (voltage : LogicVoltage)
  | digitalOutput (voltage : LogicVoltage) (initialState : DigitalState)
  | pwmInput (voltage : LogicVoltage)
  | pwmOutput (voltage : LogicVoltage) (initialFrequencyHz initialDutyCycle : PyFloat)
      (initiallyEnabled : Bool)
  | analogueInput
  | analogueOutput (initialVoltage : PyFloat)
  | i2c (role : BusRole) (speed : I2CSpeed) (logicVoltage : LogicVoltage) (pullup : Pullup)
      (ownAddress : Option (Builtin ℕ))
  | spi (role : BusRole) (baud : SPIBaud) (dataSize : SPISize) (mode : SPIMode)
      (firstBit : SPIFirst)
  | uart (mode : UARTMode) (baudHz : Builtin ℕ) (parity : UARTParity) (length : UARTLengthBits)
      (stop : UARTStopBits)
  deriving DecidableEq, Repr

/-- The channel kind a configuration record belongs to. -/
def PeripheralConfiguration.kind : PeripheralConfiguration → ChannelKind
  | .digitalInput .. => .digitalInput
  | .digitalOutput .. => .digitalOutput
  | .pwmInput .. => .pwmInput
  | .pwmOutput .. => .pwmOutput
  | .analogueInput => .analogueInput
  | .analogueOutput .. => .analogueOutput
  | .i2c .. => .i2c
  | .spi .. => .spi
  | .uart .. => .uart

/-- Test-level settings and the configured channels, in the order they were configured. -/
structure Configuration where
  frequencyMode : FrequencyMode := .hz1k
  startMode : StartMode := .immediate
  channelConfigurations : List (Channel × PeripheralConfiguration) := []
  deriving DecidableEq, Repr

/-- The configuration of one channel, if it is configured. -/
def Configuration.forChannel (configuration : Configuration) (channel : Channel) :
    Option PeripheralConfiguration :=
  configuration.channelConfigurations.lookup channel

end HilRig.Models
