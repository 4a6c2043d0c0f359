import HilRig.Api.Compilation
import HilRig.Api.Quantities

/-!
# Where the quantities of a test come from

Every voltage, duty cycle and frequency that a test stores is the decimal of a number that one of
its calls passed for the same channel, and it is exact in the units of the protocol
(`Test.Sourced.after`). What a call may store is read off its validation (`Call.sources`), and the
rest is an induction over the calls of a script.
-/

set_option autoImplicit false
set_option relaxedAutoImplicit false

namespace HilRig.Api

open HilRig.Models HilRig.Foundations

/-! ### Numbers of a call -/

/-- The number that a call passes for a quantity, with the channel it is for. -/
def Measure.passed : Measure → Call → Option (Channel × Passed Number)
  | .voltage, .analogueOutputConfigure self volts => some (self.identity, volts)
  | .voltage, .analogueOutputSetVoltage self volts _ => some (self.identity, volts)
  | .dutyCycle, .pwmOutputConfigure self _ _ duty _ => some (self.identity, duty)
  | .dutyCycle, .pwmOutputSet self _ duty _ => some (self.identity, duty)
  | .dutyCycle, .pwmOutputSetDutyCycle self duty _ => some (self.identity, duty)
  | .frequency, .pwmOutputConfigure self _ hertz _ _ => some (self.identity, hertz)
  | .frequency, .pwmOutputSet self hertz _ _ => some (self.identity, hertz)
  | .frequency, .pwmOutputSetFrequency self hertz _ => some (self.identity, hertz)
  | _, _ => none

/-- A stored quantity is the decimal of the number a call passed for it, and it is exact. -/
def Measure.ComesFrom (measure : Measure) (call : Call) (channel : Channel) (value : PyFloat) :
    Prop :=
  ∃ number decimal, measure.passed call = some (channel, number) ∧
    decimalOf number = some decimal ∧ value = .finite decimal ∧ measure.IsExact decimal

/-- The quantities of the records that a request makes come from a call. -/
def Request.Sources (call : Call) : Request → Prop
  | .configureChannel channel validated =>
    Guarantees validated fun peripheral ↦ peripheral.kind = channel.kind →
      ∀ measure value, Measure.configured measure peripheral = some value →
        measure.ComesFrom call channel value
  | .stimulate channel validated _ =>
    ∀ configuration, Guarantees (validated configuration) fun stimulus ↦
      stimulus.kind = channel.kind →
        ∀ measure value, Measure.requested measure stimulus = some value →
          measure.ComesFrom call channel value
  | _ => True

/-- Only outputs with quantities are configured with one. -/
theorem kind_of_configured {measure : Measure} {peripheral : PeripheralConfiguration}
    {value : PyFloat} (hconfigured : measure.configured peripheral = some value) :
    peripheral.kind = .analogueOutput ∨ peripheral.kind = .pwmOutput := by
  cases peripheral with
  | analogueOutput volts => exact .inl rfl
  | pwmOutput voltage hertz duty enabled => exact .inr rfl
  | _ => cases measure <;> cases hconfigured

/-- Only stimuli on outputs with quantities set one. -/
theorem kind_of_requested {measure : Measure} {stimulus : Stimulus} {value : PyFloat}
    (hrequested : measure.requested stimulus = some value) :
    stimulus.kind = .analogueOutput ∨ stimulus.kind = .pwmOutput := by
  cases stimulus with
  | analogueOutput volts => exact .inl rfl
  | pwmSet hertz duty => exact .inr rfl
  | pwmSetFrequency hertz => exact .inr rfl
  | pwmSetDutyCycle duty => exact .inr rfl
  | _ => cases measure <;> cases hrequested

section OtherKinds

variable {call : Call} {kind : ChannelKind}
  (hother : kind ≠ .analogueOutput ∧ kind ≠ .pwmOutput) (self : Handle kind)

include hother

/-- A configuration of another kind has no quantities. -/
theorem sources_configureChannel (validated : Except HilRigError PeripheralConfiguration) :
    (Request.configureChannel self.identity validated).Sources call := by
  intro peripheral _ hkind measure value hconfigured
  rcases kind_of_configured hconfigured with houtput | houtput
  · exact absurd (hkind.symm.trans houtput) hother.1
  · exact absurd (hkind.symm.trans houtput) hother.2

/-- A stimulus of another kind has no quantities. -/
theorem sources_stimulate (validated : Configuration → Except HilRigError Stimulus)
    (time : TimeOptions) : (Request.stimulate self.identity validated time).Sources call := by
  intro configuration stimulus _ hkind measure value hrequested
  rcases kind_of_requested hrequested with houtput | houtput
  · exact absurd (hkind.symm.trans houtput) hother.1
  · exact absurd (hkind.symm.trans houtput) hother.2

end OtherKinds

section Numbers

variable {call : Call} {channel : Channel} {number : Passed Number} {name : String}

theorem comesFrom_voltage {volts : ℚ} (hnumber : analogueOutputVoltage number name = .ok volts)
    (hpassed : Measure.voltage.passed call = some (channel, number)) :
    Measure.voltage.ComesFrom call channel (.finite volts) :=
  ⟨number, volts, hpassed, (isVoltage_of_analogueOutputVoltage hnumber).1, rfl,
    (isVoltage_of_analogueOutputVoltage hnumber).2⟩

theorem comesFrom_dutyCycle {duty : ℚ} (hnumber : protocolPwmDutyCycle number name = .ok duty)
    (hpassed : Measure.dutyCycle.passed call = some (channel, number)) :
    Measure.dutyCycle.ComesFrom call channel (.finite duty) :=
  ⟨number, duty, hpassed, (isDutyCycle_of_protocolPwmDutyCycle hnumber).1, rfl,
    (isDutyCycle_of_protocolPwmDutyCycle hnumber).2⟩

theorem comesFrom_frequency {hertz : ℚ} (hnumber : protocolPwmFrequency number name = .ok hertz)
    (hpassed : Measure.frequency.passed call = some (channel, number)) :
    Measure.frequency.ComesFrom call channel (.finite hertz) :=
  ⟨number, hertz, hpassed, (isFrequency_of_protocolPwmFrequency hnumber).1, rfl,
    (isFrequency_of_protocolPwmFrequency hnumber).2⟩

end Numbers

/-- Every call is the source of the quantities of the records it makes. -/
theorem Call.sources (call : Call) : call.request.Sources call := by
  cases call with
  | analogueOutputConfigure self voltage =>
    refine guarantees_bind fun volts hvolts ↦ guarantees_pure fun _ measure value hvalue ↦ ?_
    cases measure <;> cases hvalue
    exact comesFrom_voltage hvolts rfl
  | analogueOutputSetVoltage self voltage time =>
    intro configuration
    dsimp only
    split
    · refine guarantees_bind fun volts hvolts ↦ guarantees_pure fun _ measure value hvalue ↦ ?_
      cases measure <;> cases hvalue
      exact comesFrom_voltage hvolts rfl
    · exact guarantees_error _
  | pwmOutputConfigure self voltage hertz duty enabled =>
    refine guarantees_bind fun _ _ ↦ guarantees_bind fun _ _ ↦ guarantees_bind fun _ _ ↦
      guarantees_bind fun frequency hfrequency ↦ guarantees_bind fun dutyCycle hduty ↦
        guarantees_pure fun _ measure value hvalue ↦ ?_
    cases measure <;> cases hvalue
    · exact comesFrom_dutyCycle hduty rfl
    · exact comesFrom_frequency hfrequency rfl
  | pwmOutputSet self hertz duty time =>
    refine fun _ ↦ guarantees_bind fun frequency hfrequency ↦ guarantees_bind fun dutyCycle hduty ↦
      guarantees_pure fun _ measure value hvalue ↦ ?_
    cases measure <;> cases hvalue
    · exact comesFrom_dutyCycle hduty rfl
    · exact comesFrom_frequency hfrequency rfl
  | pwmOutputSetFrequency self hertz time =>
    refine fun _ ↦ guarantees_bind fun frequency hfrequency ↦
      guarantees_pure fun _ measure value hvalue ↦ ?_
    cases measure <;> cases hvalue
    exact comesFrom_frequency hfrequency rfl
  | pwmOutputSetDutyCycle self duty time =>
    refine fun _ ↦ guarantees_bind fun dutyCycle hduty ↦
      guarantees_pure fun _ measure value hvalue ↦ ?_
    cases measure <;> cases hvalue
    exact comesFrom_dutyCycle hduty rfl
  | pwmOutputEnable self time =>
    refine fun _ ↦ guarantees_ok fun _ measure value hvalue ↦ ?_
    cases measure <;> cases hvalue
  | pwmOutputDisable self time =>
    refine fun _ ↦ guarantees_ok fun _ measure value hvalue ↦ ?_
    cases measure <;> cases hvalue
  | digitalInputConfigure => exact sources_configureChannel (by decide) _ _
  | digitalOutputConfigure => exact sources_configureChannel (by decide) _ _
  | pwmInputConfigure => exact sources_configureChannel (by decide) _ _
  | analogueInputConfigure => exact sources_configureChannel (by decide) _ _
  | i2cConfigure => exact sources_configureChannel (by decide) _ _
  | spiConfigure => exact sources_configureChannel (by decide) _ _
  | uartConfigure => exact sources_configureChannel (by decide) _ _
  | digitalOutputHigh => exact sources_stimulate (by decide) _ _ _
  | digitalOutputLow => exact sources_stimulate (by decide) _ _ _
  | digitalOutputToggle => exact sources_stimulate (by decide) _ _ _
  | i2cWrite => exact sources_stimulate (by decide) _ _ _
  | i2cRead => exact sources_stimulate (by decide) _ _ _
  | i2cPreloadResponse => exact sources_stimulate (by decide) _ _ _
  | spiTransfer => exact sources_stimulate (by decide) _ _ _
  | uartWrite => exact sources_stimulate (by decide) _ _ _
  | uartWriteText => exact sources_stimulate (by decide) _ _ _
  | _ => trivial

/-! ### Quantities of a test -/

/-- Every quantity of a test comes from one of the calls. -/
structure Test.Sourced (test : Test) (calls : List Call) : Prop where
  configuration : ∀ entry ∈ test.configuration.channelConfigurations, ∀ measure value,
    Measure.configured measure entry.2 = some value →
      ∃ call ∈ calls, measure.ComesFrom call entry.1 value
  stimulus : ∀ instruction ∈ test.instructions, ∀ measure value,
    Measure.requested measure instruction.stimulus = some value →
      ∃ call ∈ calls, measure.ComesFrom call instruction.channel value

/-- Further calls keep the quantities sourced. -/
theorem Test.Sourced.mono {test : Test} {calls later : List Call} (hsourced : test.Sourced calls)
    (hsubset : calls ⊆ later) : test.Sourced later where
  configuration entry hentry measure value hvalue :=
    (hsourced.configuration entry hentry measure value hvalue).imp fun _ h ↦ ⟨hsubset h.1, h.2⟩
  stimulus instruction hinstruction measure value hvalue :=
    (hsourced.stimulus instruction hinstruction measure value hvalue).imp fun _ h ↦
      ⟨hsubset h.1, h.2⟩

/-- The effect of one of the calls keeps every quantity sourced by them. -/
theorem Test.Sourced.apply {test : Test} {calls : List Call} (hsourced : test.Sourced calls)
    {call : Call} (hcall : call ∈ calls) {effect : Effect}
    (hyields : call.request.Yields test effect) : (effect.apply test).Sourced calls := by
  have hsources := call.sources
  have htyped := call.typed
  obtain ⟨hconfiguration, hstimulus⟩ := hsourced
  generalize call.request = request at hyields hsources htyped
  cases hyields with
  | channelConfigured hmutable hvalidated hkind hfresh =>
    refine ⟨fun entry hentry measure value hvalue ↦ ?_, hstimulus⟩
    rcases List.mem_append.1 hentry with hentry | hentry
    · exact hconfiguration entry hentry measure value hvalue
    · rw [List.mem_singleton.1 hentry] at hvalue ⊢
      exact ⟨call, hcall, hsources _ hvalidated hkind measure value hvalue⟩
  | scheduled hmutable hvalidated htick hconfigured =>
    refine ⟨hconfiguration, fun instruction hinstruction measure value hvalue ↦ ?_⟩
    rcases List.mem_append.1 hinstruction with hinstruction | hinstruction
    · exact hstimulus instruction hinstruction measure value hvalue
    · rw [List.mem_singleton.1 hinstruction] at hvalue ⊢
      exact ⟨call, hcall, hsources _ _ hvalidated (htyped _ _ hvalidated) measure value hvalue⟩
  | _ => exact ⟨hconfiguration, hstimulus⟩

/-- The quantities of a new test after a script come from the calls of the script. -/
theorem Test.Sourced.after {testId : Fin (2 ^ 128)} {name : Passed String} {created : Test}
    (hcreated : Test.create testId name = .ok created) (calls : List Call) :
    (created.after calls).Sourced calls := by
  induction calls using List.reverseRecOn with
  | nil =>
    obtain ⟨text, rfl⟩ := create_eq_ok hcreated
    exact ⟨by simp [Test.after], by simp [Test.after]⟩
  | append_singleton calls call ih =>
    have hafter : created.after (calls ++ [call]) = (created.after calls).called call :=
      List.foldl_concat ..
    have hpast := ih.mono (List.subset_append_left calls [call])
    rw [hafter]
    rcases called_cases (created.after calls) call with hsame | ⟨effect, hyields, heffect⟩
    · rwa [hsame]
    · rw [heffect]
      exact hpast.apply (List.mem_append_right _ List.mem_cons_self) hyields

/-- All quantities of a test are exact in the units of the protocol. -/
structure Test.Exact (test : Test) : Prop where
  configuration : ∀ entry ∈ test.configuration.channelConfigurations,
    ExactConfiguration entry.2
  stimulus : ∀ instruction ∈ test.instructions, ExactStimulus instruction.stimulus

/-- A quantity that comes from a call is exact. -/
theorem Measure.ComesFrom.stores {measure : Measure} {call : Call} {channel : Channel}
    {value : PyFloat} (hsource : measure.ComesFrom call channel value) :
    Stores measure.IsExact value := by
  obtain ⟨number, decimal, -, -, rfl, hexact⟩ := hsource
  exact ⟨decimal, rfl, hexact⟩

theorem Test.Sourced.exact {test : Test} {calls : List Call} (hsourced : test.Sourced calls) :
    test.Exact where
  configuration entry hentry measure value hvalue :=
    (hsourced.configuration entry hentry measure value hvalue).elim fun _ h ↦ h.2.stores
  stimulus instruction hinstruction measure value hvalue :=
    (hsourced.stimulus instruction hinstruction measure value hvalue).elim fun _ h ↦ h.2.stores

/-- The quantities of every reachable test are exact. -/
theorem exact_of_reachable {test : Test} (hreachable : test.Reachable) : test.Exact := by
  obtain ⟨testId, name, created, calls, hcreated, rfl⟩ := hreachable
  exact (Test.Sourced.after hcreated calls).exact

end HilRig.Api
