import HilRig.Api.Calls
import HilRig.Api.Quantities
import HilRig.Compiler
import HilRig.Foundations.Grouping
import HilRig.Protocol.Application

/-!
# Lowering a well-formed definition

The conversions of the protocol adapter are exact on the quantities that the public API lets pass,
so every compiled record of such a definition is lowered without an error. What a configuration or
an instruction does to the channel arrays and to the shared output state is then a function of its
own channel (`outputsAfter`), stated on the records of the definition instead of their compiled
form.
-/

set_option autoImplicit false
set_option relaxedAutoImplicit false

namespace HilRig.Protocol

open HilRig.Models HilRig.Foundations HilRig.Api

/-! ### Exact conversions -/

/-- A natural number of at most twenty-eight digits is a decimal of the default context. -/
theorem fix_natCast {whole : ℕ} (hwhole : whole < 10 ^ 28) :
    defaultDecimalContext.fix (whole : ℚ) = some (whole : ℚ) := by
  have hcast : ((whole : ℤ) : ℚ) * 10 ^ (0 : ℤ) = (whole : ℚ) := by simp
  rw [← hcast]
  have hcoefficient : |(whole : ℤ)| < 10 ^ 28 := by
    rw [abs_of_nonneg (Int.natCast_nonneg whole)]
    exact_mod_cast hwhole
  exact defaultDecimalContext.fix_of_coefficient hcoefficient le_rfl (by decide) (by decide)

/-- A whole number in the range of a conversion passes the checks at its end. -/
theorem whole_of_inRange {whole : ℕ} {inRange : ℤ → Prop} [DecidablePred inRange]
    (hrange : inRange whole) (inexact outside : HilRigError) :
    (if (whole : ℚ) ≠ ⌊(whole : ℚ)⌋ then .error inexact
      else if inRange ⌊(whole : ℚ)⌋ then .ok ⌊(whole : ℚ)⌋.toNat
      else .error outside : Except HilRigError ℕ) = .ok whole := by
  rw [Int.floor_natCast, if_neg (not_not.2 (Int.cast_natCast whole).symm), if_pos hrange,
    Int.toNat_natCast]

theorem voltsToMicrovolts_of_exact {volts : ℚ} {microvolts : ℕ}
    (hexact : (microvolts : ℚ) = 10 ^ 6 * volts) (hbound : microvolts ≤ 20000000)
    (name : String) :
    voltsToMicrovolts (.float (.finite volts)) name = .ok microvolts := by
  have hproduct : defaultDecimalContext.multiply volts 1000000 = some (microvolts : ℚ) := by
    rw [DecimalContext.multiply, show volts * 1000000 = microvolts by rw [hexact]; ring]
    exact fix_natCast (hbound.trans_lt (by norm_num))
  have hrange : (0 : ℤ) ≤ microvolts ∧ (microvolts : ℤ) ≤ uint32Max :=
    ⟨Int.natCast_nonneg _, by exact_mod_cast hbound.trans (by norm_num [uint32Max])⟩
  show (trapped (defaultDecimalContext.multiply volts 1000000) >>= _) = _
  rw [hproduct]
  exact @whole_of_inRange _ (fun whole ↦ 0 ≤ whole ∧ whole ≤ uint32Max) _ hrange _ _

theorem dutyToPermyriad_of_exact {duty : ℚ} {permyriad : ℕ}
    (hexact : (permyriad : ℚ) = 10 ^ 4 * duty) (hbound : permyriad ≤ 10000) (name : String) :
    dutyToPermyriad (.float (.finite duty)) name = .ok permyriad := by
  have hproduct : defaultDecimalContext.multiply duty 10000 = some (permyriad : ℚ) := by
    rw [DecimalContext.multiply, show duty * 10000 = permyriad by rw [hexact]; ring]
    exact fix_natCast (hbound.trans_lt (by norm_num))
  have hrange : (0 : ℤ) ≤ permyriad ∧ (permyriad : ℤ) ≤ 10000 :=
    ⟨Int.natCast_nonneg _, by exact_mod_cast hbound⟩
  show (trapped (defaultDecimalContext.multiply duty 10000) >>= _) = _
  rw [hproduct]
  exact @whole_of_inRange _ (fun whole ↦ 0 ≤ whole ∧ whole ≤ 10000) _ hrange _ _

theorem frequencyToPeriodNs_of_exact {frequency : ℚ} {period : ℕ}
    (hexact : (period : ℚ) * frequency = 10 ^ 9) (hpositive : 0 < period)
    (hbound : period ≤ uint32Max) (name : String) :
    frequencyToPeriodNs (.float (.finite frequency)) name = .ok period := by
  have hperiod : (0 : ℚ) < period := by exact_mod_cast hpositive
  have hfrequency : 0 < frequency := by
    have hproduct : 0 < (period : ℚ) * frequency := by rw [hexact]; positivity
    exact (pos_iff_pos_of_mul_pos hproduct).1 hperiod
  have hquotient : defaultDecimalContext.divide 1000000000 frequency = some (period : ℚ) := by
    rw [DecimalContext.divide, show 1000000000 / frequency = period by
      rw [div_eq_iff hfrequency.ne', hexact]; norm_num]
    exact fix_natCast (hbound.trans_lt (by norm_num [uint32Max]))
  have hrange : (0 : ℤ) < period ∧ (period : ℤ) ≤ uint32Max :=
    ⟨by exact_mod_cast hpositive, by exact_mod_cast hbound⟩
  show (if frequency ≤ 0 then _ else _) = _
  rw [if_neg (not_le.2 hfrequency)]
  show (trapped (defaultDecimalContext.divide 1000000000 frequency) >>= _) = _
  rw [hquotient]
  exact @whole_of_inRange _ (fun whole ↦ 0 < whole ∧ whole ≤ uint32Max) _ hrange _ _

/-! ### Lowered quantities -/

/-- The decimal of a stored float. -/
def decimalPart : PyFloat → ℚ
  | .finite value => value
  | _ => 0

/-- The microvolts of a voltage. -/
def microvoltsOf (volts : PyFloat) : ℕ :=
  ⌊10 ^ 6 * decimalPart volts⌋.toNat

/-- The permyriads of a duty cycle. -/
def permyriadOf (duty : PyFloat) : ℕ :=
  ⌊10 ^ 4 * decimalPart duty⌋.toNat

/-- The period in nanoseconds of a frequency. -/
def periodNsOf (frequency : PyFloat) : ℕ :=
  ⌊10 ^ 9 / decimalPart frequency⌋.toNat

section Quantities

variable {value : PyFloat}

theorem microvoltsOf_spec (hvolts : Stores IsVoltage value) :
    (microvoltsOf value : ℚ) = 10 ^ 6 * decimalPart value ∧ microvoltsOf value ≤ 20000000 := by
  obtain ⟨volts, rfl, microvolts, hexact, hbound⟩ := hvolts
  have heq : microvoltsOf (.finite volts) = microvolts := by
    rw [microvoltsOf, decimalPart, ← hexact, Int.floor_natCast, Int.toNat_natCast]
  rw [heq]
  exact ⟨hexact, hbound⟩

theorem permyriadOf_spec (hduty : Stores IsDutyCycle value) :
    (permyriadOf value : ℚ) = 10 ^ 4 * decimalPart value ∧ permyriadOf value ≤ 10000 := by
  obtain ⟨duty, rfl, permyriad, hexact, hbound⟩ := hduty
  have heq : permyriadOf (.finite duty) = permyriad := by
    rw [permyriadOf, decimalPart, ← hexact, Int.floor_natCast, Int.toNat_natCast]
  rw [heq]
  exact ⟨hexact, hbound⟩

theorem periodNsOf_spec (hfrequency : Stores IsFrequency value) :
    (periodNsOf value : ℚ) * decimalPart value = 10 ^ 9 ∧ 0 < periodNsOf value ∧
      periodNsOf value ≤ uint32Max := by
  obtain ⟨frequency, rfl, period, hexact, hpositive, hbound⟩ := hfrequency
  have hne : frequency ≠ 0 := by
    rintro rfl
    norm_num at hexact
  have heq : periodNsOf (.finite frequency) = period := by
    rw [periodNsOf, decimalPart, ← hexact, mul_div_cancel_right₀ _ hne, Int.floor_natCast,
      Int.toNat_natCast]
  rw [heq]
  exact ⟨hexact, hpositive, hbound⟩

theorem voltsToMicrovolts_eq (hvolts : Stores IsVoltage value) (name : String) :
    voltsToMicrovolts (.float value) name = .ok (microvoltsOf value) := by
  obtain ⟨hexact, hbound⟩ := microvoltsOf_spec hvolts
  obtain ⟨volts, rfl, -⟩ := hvolts
  exact voltsToMicrovolts_of_exact hexact hbound name

theorem dutyToPermyriad_eq (hduty : Stores IsDutyCycle value) (name : String) :
    dutyToPermyriad (.float value) name = .ok (permyriadOf value) := by
  obtain ⟨hexact, hbound⟩ := permyriadOf_spec hduty
  obtain ⟨duty, rfl, -⟩ := hduty
  exact dutyToPermyriad_of_exact hexact hbound name

theorem frequencyToPeriodNs_eq (hfrequency : Stores IsFrequency value) (name : String) :
    frequencyToPeriodNs (.float value) name = .ok (periodNsOf value) := by
  obtain ⟨hexact, hpositive, hbound⟩ := periodNsOf_spec hfrequency
  obtain ⟨frequency, rfl, -⟩ := hfrequency
  exact frequencyToPeriodNs_of_exact hexact hpositive hbound name

end Quantities

/-! ### Channels -/

/-- The channel of a kind with a physical number. -/
def channelOf (kind : ChannelKind) (index : Handle kind) : Channel :=
  index.identity

/-- The array of a kind after a change of the entry of one channel, which may be of another kind. -/
def changed {α : Type} (kind : ChannelKind) (channel : Channel) (next : α → α)
    (array : Handle kind → α) : Handle kind → α :=
  fun index ↦ if channel = channelOf kind index then next (array index) else array index

/-- The array of the channel's own kind. -/
theorem changed_own {α : Type} {kind : ChannelKind} {index : ℕ}
    (hindex : index < channelCount kind) (next : α → α) (array : Handle kind → α) :
    changed kind ⟨kind, index, hindex⟩ next array =
      Function.update array ⟨index, hindex⟩ (next (array ⟨index, hindex⟩)) := by
  ext other
  by_cases hother : other = ⟨index, hindex⟩
  · subst hother
    rw [Function.update_self]
    exact if_pos rfl
  · rw [Function.update_of_ne hother]
    exact if_neg fun heq ↦ hother (Fin.ext (congrArg Channel.index heq).symm)

/-- The array of another kind. -/
theorem changed_other {α : Type} {kind other : ChannelKind} {index : ℕ}
    {hindex : index < channelCount other} (hkind : other ≠ kind) (next : α → α)
    (array : Handle kind → α) : changed kind ⟨other, index, hindex⟩ next array = array :=
  funext fun _ ↦ if_neg fun heq ↦ hkind (congrArg Channel.kind heq)

/-- An array index below the length of the array. -/
theorem listIndex_eq {count index : ℕ} (hindex : index < count) :
    listIndex count index = .ok ⟨index, hindex⟩ :=
  dif_pos hindex

/-! ### Effects of one instruction -/

/-- The level of a digital output after a stimulus on it. -/
def levelAfter (level : Bool) : Stimulus → Bool
  | .digitalOutput .high => true
  | .digitalOutput .low => false
  | .digitalOutput .toggle => !level
  | _ => level

/-- The microvolts of an analogue output after a stimulus on it. -/
def microvoltsAfter (microvolts : ℕ) : Stimulus → ℕ
  | .analogueOutput volts => microvoltsOf volts
  | _ => microvolts

/-- The retained request of a PWM output after a stimulus on it. -/
def pwmAfter (state : PWMState) : Stimulus → PWMState
  | .pwmEnable enabled => { state with enabled := enabled }
  | .pwmSet frequency duty =>
    { state with
      periodNanoseconds := periodNsOf frequency, dutyCyclePermyriad := permyriadOf duty }
  | .pwmSetFrequency frequency => { state with periodNanoseconds := periodNsOf frequency }
  | .pwmSetDutyCycle duty => { state with dutyCyclePermyriad := permyriadOf duty }
  | _ => state

/-- The shared output state after an instruction: only its own channel changes. -/
def outputsAfter (state : OutputState) (instruction : Instruction) : OutputState where
  digitalOutputs := changed .digitalOutput instruction.channel
    (levelAfter · instruction.stimulus) state.digitalOutputs
  analogueOutputs := changed .analogueOutput instruction.channel
    (microvoltsAfter · instruction.stimulus) state.analogueOutputs
  pwmOutputs := changed .pwmOutput instruction.channel
    (pwmAfter · instruction.stimulus) state.pwmOutputs

/-- The kinds whose instructions travel in the sparse messages. -/
def fixedKinds : List ChannelKind := [.digitalOutput, .analogueOutput, .pwmOutput]

theorem mem_fixedKinds {kind : ChannelKind} :
    kind ∈ fixedKinds ↔
      kind = .digitalOutput ∨ kind = .analogueOutput ∨ kind = .pwmOutput := by
  simp [fixedKinds]

/-- Applying the compiled form of an exact digital instruction. -/
theorem applyDigital_compiledInstruction (state : OutputState) {instructionId timestamp index : ℕ}
    {hindex : index < channelCount .digitalOutput} (action : DigitalOutputAction) :
    applyDigital (compiledInstruction
        ⟨instructionId, timestamp, ⟨.digitalOutput, index, hindex⟩, .digitalOutput action⟩) state =
      .ok (outputsAfter state
        ⟨instructionId, timestamp, ⟨.digitalOutput, index, hindex⟩, .digitalOutput action⟩) := by
  have hlist : listIndex 10 index = .ok ⟨index, hindex⟩ := listIndex_eq hindex
  unfold outputsAfter
  dsimp only
  rw [changed_own, changed_other (by decide), changed_other (by decide)]
  cases action with
  | high =>
    show (listIndex 10 index >>= _) = _
    rw [hlist]
    rfl
  | low =>
    show (listIndex 10 index >>= _) = _
    rw [hlist]
    rfl
  | toggle =>
    show (listIndex 10 index >>= _) = _
    rw [hlist]
    rfl

/-- Applying the compiled form of an exact analogue instruction. -/
theorem applyAnalogue_compiledInstruction (state : OutputState)
    {instructionId timestamp index : ℕ} {hindex : index < channelCount .analogueOutput}
    {volts : PyFloat} (hvolts : Stores IsVoltage volts) :
    applyAnalogue (compiledInstruction
        ⟨instructionId, timestamp, ⟨.analogueOutput, index, hindex⟩, .analogueOutput volts⟩) state =
      .ok (outputsAfter state
        ⟨instructionId, timestamp, ⟨.analogueOutput, index, hindex⟩, .analogueOutput volts⟩) := by
  have hlist : listIndex 6 index = .ok ⟨index, hindex⟩ := listIndex_eq hindex
  unfold outputsAfter
  dsimp only
  rw [changed_own, changed_other (by decide), changed_other (by decide)]
  show (voltsToMicrovolts (.float volts) "voltage" >>= _) = _
  rw [voltsToMicrovolts_eq hvolts]
  show (listIndex 6 index >>= _) = _
  rw [hlist]
  rfl

/-- The operation of an exact PWM instruction on the retained request. -/
theorem applyPWMOperation_compiledInstruction (state : PWMState) {instruction : Instruction}
    (hkind : instruction.stimulus.kind = .pwmOutput) (hexact : ExactStimulus instruction.stimulus) :
    applyPWMOperation (compiledInstruction instruction) state =
      .ok (pwmAfter state instruction.stimulus) := by
  obtain ⟨instructionId, timestamp, channel, stimulus⟩ := instruction
  cases stimulus with
  | pwmEnable enabled => rfl
  | pwmSet frequency duty =>
    show (frequencyToPeriodNs (.float frequency) "frequency_hz" >>= _) = _
    rw [frequencyToPeriodNs_eq (hexact .frequency frequency rfl)]
    show (dutyToPermyriad (.float duty) "duty_cycle" >>= _) = _
    rw [dutyToPermyriad_eq (hexact .dutyCycle duty rfl)]
    rfl
  | pwmSetFrequency frequency =>
    show (frequencyToPeriodNs (.float frequency) "frequency_hz" >>= _) = _
    rw [frequencyToPeriodNs_eq (hexact .frequency frequency rfl)]
    rfl
  | pwmSetDutyCycle duty =>
    show (dutyToPermyriad (.float duty) "duty_cycle" >>= _) = _
    rw [dutyToPermyriad_eq (hexact .dutyCycle duty rfl)]
    rfl
  | _ => cases hkind

/-- Applying the compiled form of an exact PWM instruction. -/
theorem applyPWM_compiledInstruction (state : OutputState) {instruction : Instruction}
    (hchannel : instruction.channel.kind = .pwmOutput)
    (hkind : instruction.stimulus.kind = .pwmOutput) (hexact : ExactStimulus instruction.stimulus) :
    applyPWM (compiledInstruction instruction) state = .ok (outputsAfter state instruction) := by
  have hoperation := fun state ↦
    applyPWMOperation_compiledInstruction state hkind hexact
  obtain ⟨instructionId, timestamp, ⟨kind, index, hindex⟩, stimulus⟩ := instruction
  dsimp only at hchannel
  subst hchannel
  have hlist : listIndex 2 index = .ok ⟨index, hindex⟩ := listIndex_eq hindex
  unfold outputsAfter
  dsimp only
  rw [changed_own, changed_other (by decide), changed_other (by decide)]
  show (listIndex 2 index >>= _) = _
  rw [hlist]
  show (applyPWMOperation _ (state.pwmOutputs ⟨index, hindex⟩) >>= _) = _
  rw [hoperation]
  rfl

/-- Applying the compiled form of an exact instruction of a fixed output. -/
theorem applyInstruction_compiledInstruction (state : OutputState) {instruction : Instruction}
    (hfixed : instruction.channel.kind ∈ fixedKinds)
    (hkind : instruction.stimulus.kind = instruction.channel.kind)
    (hexact : ExactStimulus instruction.stimulus) :
    applyInstruction state (compiledInstruction instruction) =
      .ok (outputsAfter state instruction) := by
  obtain ⟨instructionId, timestamp, ⟨kind, index, hindex⟩, stimulus⟩ := instruction
  rcases mem_fixedKinds.1 hfixed with rfl | rfl | rfl
  · cases stimulus with
    | digitalOutput action => exact applyDigital_compiledInstruction state action
    | _ => cases hkind
  · cases stimulus with
    | analogueOutput volts =>
      exact applyAnalogue_compiledInstruction state (hexact .voltage volts rfl)
    | _ => cases hkind
  · exact applyPWM_compiledInstruction state rfl hkind hexact

/-! ### Effects of one configuration -/

/-- The initial level of a digital output. -/
def initialLevel : PeripheralConfiguration → Bool
  | .digitalOutput _ .high => true
  | _ => false

/-- The initial microvolts of an analogue output. -/
def initialMicrovolts : PeripheralConfiguration → ℕ
  | .analogueOutput volts => microvoltsOf volts
  | _ => 0

/-- The initial request of a PWM output. -/
def initialPWM : PeripheralConfiguration → PWMState
  | .pwmOutput _ frequency duty enabled => ⟨periodNsOf frequency, permyriadOf duty, enabled⟩
  | _ => {}

/-- The shared output state after a configuration: only its own channel changes. -/
def outputsConfigured (state : OutputState) (entry : Channel × PeripheralConfiguration) :
    OutputState where
  digitalOutputs :=
    changed .digitalOutput entry.1 (fun _ ↦ initialLevel entry.2) state.digitalOutputs
  analogueOutputs :=
    changed .analogueOutput entry.1 (fun _ ↦ initialMicrovolts entry.2) state.analogueOutputs
  pwmOutputs := changed .pwmOutput entry.1 (fun _ ↦ initialPWM entry.2) state.pwmOutputs

/-- The wire voltage of a logic voltage. -/
def wireVoltage : LogicVoltage → PeripheralVoltage
  | .v3_3 => .v3v3
  | .v5 => .v5v
  | .v12 => .v12v
  | .v24 => .v24v

def digitalInputConfig : PeripheralConfiguration → DigitalInputConfig
  | .digitalInput voltage => ⟨true, wireVoltage voltage⟩
  | _ => {}

def digitalOutputConfig : PeripheralConfiguration → DigitalOutputConfig
  | .digitalOutput voltage initialState =>
    ⟨true, wireVoltage voltage, initialLevel (.digitalOutput voltage initialState)⟩
  | _ => {}

def analogInputConfig : PeripheralConfiguration → AnalogInputConfig
  | .analogueInput => ⟨true⟩
  | _ => {}

def analogOutputConfig : PeripheralConfiguration → AnalogOutputConfig
  | .analogueOutput _ => ⟨true⟩
  | _ => {}

def pwmInputConfig : PeripheralConfiguration → PWMInputConfig
  | .pwmInput voltage => ⟨true, wireVoltage voltage⟩
  | _ => {}

def pwmOutputConfig : PeripheralConfiguration → PWMOutputConfig
  | .pwmOutput voltage frequency duty enabled =>
    let value := (initialPWM (.pwmOutput voltage frequency duty enabled)).value
    ⟨true, wireVoltage voltage, value.periodNanoseconds, value.dutyCyclePermyriad⟩
  | _ => {}

/-- The channel arrays after a configuration: only its own channel changes. -/
def arraysConfigured (arrays : ConfigurationArrays)
    (entry : Channel × PeripheralConfiguration) : ConfigurationArrays where
  digitalIn :=
    changed .digitalInput entry.1 (fun _ ↦ digitalInputConfig entry.2) arrays.digitalIn
  digitalOut :=
    changed .digitalOutput entry.1 (fun _ ↦ digitalOutputConfig entry.2) arrays.digitalOut
  analogIn :=
    changed .analogueInput entry.1 (fun _ ↦ analogInputConfig entry.2) arrays.analogIn
  analogOut :=
    changed .analogueOutput entry.1 (fun _ ↦ analogOutputConfig entry.2) arrays.analogOut
  pwmIn := changed .pwmInput entry.1 (fun _ ↦ pwmInputConfig entry.2) arrays.pwmIn
  pwmOut := changed .pwmOutput entry.1 (fun _ ↦ pwmOutputConfig entry.2) arrays.pwmOut

/-- The key of a channel in the configuration index. -/
def configurationKey (channel : Channel) : String × ℕ :=
  (channel.kind.value, channel.index)

theorem digitalState_name (state : DigitalState) (voltage : LogicVoltage) :
    digitalState (.str state.name) = .ok (initialLevel (.digitalOutput voltage state)) := by
  cases state <;> rfl

theorem peripheralVoltage_name (voltage : LogicVoltage) :
    peripheralVoltage (.str voltage.name) = .ok (wireVoltage voltage) := by
  cases voltage <;> rfl

/-- Initializing the output of an exact configuration. -/
theorem initializeOutput_compiledConfiguration (state : OutputState)
    {entry : Channel × PeripheralConfiguration} (hkind : entry.2.kind = entry.1.kind)
    (hexact : ExactConfiguration entry.2) :
    initializeOutput state (configurationKey entry.1, compiledConfiguration entry) =
      .ok (outputsConfigured state entry) := by
  obtain ⟨⟨kind, index, hindex⟩, peripheral⟩ := entry
  unfold outputsConfigured
  cases peripheral with
  | digitalOutput voltage initialState =>
    cases hkind
    have hlist : listIndex 10 index = .ok ⟨index, hindex⟩ := listIndex_eq hindex
    dsimp only
    rw [changed_own, changed_other (by decide), changed_other (by decide)]
    show (digitalState (.str initialState.name) >>= _) = _
    rw [digitalState_name initialState voltage]
    show (listIndex 10 index >>= _) = _
    rw [hlist]
    rfl
  | analogueOutput volts =>
    cases hkind
    have hlist : listIndex 6 index = .ok ⟨index, hindex⟩ := listIndex_eq hindex
    dsimp only
    rw [changed_own, changed_other (by decide), changed_other (by decide)]
    show (voltsToMicrovolts (.float volts) "initial_voltage" >>= _) = _
    rw [voltsToMicrovolts_eq (hexact .voltage volts rfl)]
    show (listIndex 6 index >>= _) = _
    rw [hlist]
    rfl
  | pwmOutput voltage frequency duty enabled =>
    cases hkind
    have hlist : listIndex 2 index = .ok ⟨index, hindex⟩ := listIndex_eq hindex
    dsimp only
    rw [changed_own, changed_other (by decide), changed_other (by decide)]
    show (frequencyToPeriodNs (.float frequency) "initial_frequency_hz" >>= _) = _
    rw [frequencyToPeriodNs_eq (hexact .frequency frequency rfl)]
    show (dutyToPermyriad (.float duty) "initial_duty_cycle" >>= _) = _
    rw [dutyToPermyriad_eq (hexact .dutyCycle duty rfl)]
    show (listIndex 2 index >>= _) = _
    rw [hlist]
    rfl
  | _ =>
    cases hkind
    dsimp only
    rw [changed_other (by decide), changed_other (by decide), changed_other (by decide)]
    rfl

/-- Entering an exact configuration into the channel arrays. -/
theorem configureArrays_compiledConfiguration (arrays : ConfigurationArrays)
    {entry : Channel × PeripheralConfiguration} (hkind : entry.2.kind = entry.1.kind)
    (hexact : ExactConfiguration entry.2) :
    configureArrays arrays (configurationKey entry.1, compiledConfiguration entry) =
      .ok (arraysConfigured arrays entry) := by
  obtain ⟨⟨kind, index, hindex⟩, peripheral⟩ := entry
  unfold arraysConfigured
  cases peripheral with
  | digitalInput voltage =>
    cases hkind
    have hlist : listIndex 10 index = .ok ⟨index, hindex⟩ := listIndex_eq hindex
    dsimp only
    rw [changed_own, changed_other (by decide), changed_other (by decide),
      changed_other (by decide), changed_other (by decide), changed_other (by decide)]
    show (peripheralVoltage (.str voltage.name) >>= _) = _
    rw [peripheralVoltage_name]
    show (listIndex 10 index >>= _) = _
    rw [hlist]
    rfl
  | digitalOutput voltage initialState =>
    cases hkind
    have hlist : listIndex 10 index = .ok ⟨index, hindex⟩ := listIndex_eq hindex
    dsimp only
    rw [changed_own, changed_other (by decide), changed_other (by decide),
      changed_other (by decide), changed_other (by decide), changed_other (by decide)]
    show (peripheralVoltage (.str voltage.name) >>= _) = _
    rw [peripheralVoltage_name]
    show (digitalState (.str initialState.name) >>= _) = _
    rw [digitalState_name initialState voltage]
    show (listIndex 10 index >>= _) = _
    rw [hlist]
    rfl
  | analogueInput =>
    cases hkind
    have hlist : listIndex 2 index = .ok ⟨index, hindex⟩ := listIndex_eq hindex
    dsimp only
    rw [changed_own, changed_other (by decide), changed_other (by decide),
      changed_other (by decide), changed_other (by decide), changed_other (by decide)]
    show (listIndex 2 index >>= _) = _
    rw [hlist]
    rfl
  | analogueOutput volts =>
    cases hkind
    have hlist : listIndex 6 index = .ok ⟨index, hindex⟩ := listIndex_eq hindex
    dsimp only
    rw [changed_own, changed_other (by decide), changed_other (by decide),
      changed_other (by decide), changed_other (by decide), changed_other (by decide)]
    show (listIndex 6 index >>= _) = _
    rw [hlist]
    rfl
  | pwmInput voltage =>
    cases hkind
    have hlist : listIndex 2 index = .ok ⟨index, hindex⟩ := listIndex_eq hindex
    dsimp only
    rw [changed_own, changed_other (by decide), changed_other (by decide),
      changed_other (by decide), changed_other (by decide), changed_other (by decide)]
    show (peripheralVoltage (.str voltage.name) >>= _) = _
    rw [peripheralVoltage_name]
    show (listIndex 2 index >>= _) = _
    rw [hlist]
    rfl
  | pwmOutput voltage frequency duty enabled =>
    cases hkind
    have hlist : listIndex 2 index = .ok ⟨index, hindex⟩ := listIndex_eq hindex
    dsimp only
    rw [changed_own, changed_other (by decide), changed_other (by decide),
      changed_other (by decide), changed_other (by decide), changed_other (by decide)]
    show (frequencyToPeriodNs (.float frequency) "initial_frequency_hz" >>= _) = _
    rw [frequencyToPeriodNs_eq (hexact .frequency frequency rfl)]
    show (dutyToPermyriad (.float duty) "initial_duty_cycle" >>= _) = _
    rw [dutyToPermyriad_eq (hexact .dutyCycle duty rfl)]
    show (peripheralVoltage (.str voltage.name) >>= _) = _
    rw [peripheralVoltage_name]
    show (listIndex 2 index >>= _) = _
    rw [hlist]
    cases enabled <;> rfl
  | _ =>
    cases hkind
    dsimp only
    rw [changed_other (by decide), changed_other (by decide), changed_other (by decide),
      changed_other (by decide), changed_other (by decide), changed_other (by decide)]
    rfl

end HilRig.Protocol
