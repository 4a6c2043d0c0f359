import HilRig.Foundations.LastWrite
import HilRig.Protocol.LoweredUpload

/-!
# The dense states behind the sparse messages

At every tick each output has a state that depends only on the initial configuration of its own
channel and on the stimuli on it up to that tick: the last level of a digital output, flipped by the
later toggles, the last voltage of an analogue output, and the last frequency, the last duty cycle
and the last enabling of a PWM output, each on its own. The sparse messages of an upload represent
exactly these states (`sparse_refines_dense`): the state in force at a tick is that of the last
message up to it, or that of the configuration message when there is none.
-/

set_option autoImplicit false
set_option relaxedAutoImplicit false

namespace HilRig.Protocol

open HilRig.Models HilRig.Foundations HilRig.Api

/-! ### Requests of stimuli and configurations -/

/-- The action of a stimulus on a digital output. -/
def actionOf : Stimulus → Option DigitalOutputAction
  | .digitalOutput action => some action
  | _ => none

/-- Whether a stimulus enables or disables a PWM output. -/
def enabledOf : Stimulus → Option Bool
  | .pwmEnable enabled => some enabled
  | _ => none

/-- Whether a PWM output is enabled initially. -/
def configuredEnabled : PeripheralConfiguration → Option Bool
  | .pwmOutput _ _ _ enabled => some enabled
  | _ => none

/-! ### Dense states -/

/-- The level a digital action sets; a toggle sets none. -/
def levelOf : DigitalOutputAction → Option Bool
  | .high => some true
  | .low => some false
  | .toggle => none

/-- The number of toggles after the last action that sets a level. -/
def laterToggles (actions : List DigitalOutputAction) : ℕ :=
  (actions.reverse.takeWhile (· = .toggle)).length

/-- The last level set by a list of actions, flipped by the later toggles. -/
def settledLevel (initial : Bool) (actions : List DigitalOutputAction) : Bool :=
  ((actions.filterMap levelOf).getLast?.getD initial) ^^ decide (laterToggles actions % 2 = 1)

/-- The stimuli on a channel among some instructions. -/
def stimuliOn (channel : Channel) (instructions : List Instruction) : List Stimulus :=
  (instructions.filter fun instruction ↦ instruction.channel = channel).map Instruction.stimulus

/-- The last value asked for on a channel by some instructions, else by its configuration. -/
def requestOn {β : Type} (configuration : Configuration) (channel : Channel)
    (configured : PeripheralConfiguration → Option β) (requested : Stimulus → Option β)
    (instructions : List Instruction) : Option β :=
  lastRequest ((configuration.forChannel channel).bind configured)
    ((stimuliOn channel instructions).filterMap requested)

section Dense

variable (test : Test)

/-- The instructions up to a tick, in the order of their ticks and identifiers. -/
def instructionsUpTo (tick : ℕ) : List Instruction :=
  (sortedInstructions test.instructions).filter fun instruction ↦ instruction.timestamp ≤ tick

/-- The last value asked for on a channel up to a tick: by a stimulus, else by its configuration. -/
def requestAt {β : Type} (channel : Channel) (configured : PeripheralConfiguration → Option β)
    (requested : Stimulus → Option β) (tick : ℕ) : Option β :=
  requestOn test.configuration channel configured requested (instructionsUpTo test tick)

/-- The level of a digital output at a tick: the last level set, flipped by the later toggles. -/
def levelAt (index : Fin 10) (tick : ℕ) : Bool :=
  let channel := channelOf .digitalOutput index
  settledLevel (configuredPart test.configuration channel initialLevel false)
    ((stimuliOn channel (instructionsUpTo test tick)).filterMap actionOf)

/-- The voltage last asked for on an analogue output. -/
def voltageAt (index : Fin 6) (tick : ℕ) : Option PyFloat :=
  requestAt test (channelOf .analogueOutput index) Measure.voltage.configured
    Measure.voltage.requested tick

/-- The frequency last asked for on a PWM output, whether it was enabled or not. -/
def frequencyAt (index : Fin 2) (tick : ℕ) : Option PyFloat :=
  requestAt test (channelOf .pwmOutput index) Measure.frequency.configured
    Measure.frequency.requested tick

/-- The duty cycle last asked for on a PWM output, whether it was enabled or not. -/
def dutyAt (index : Fin 2) (tick : ℕ) : Option PyFloat :=
  requestAt test (channelOf .pwmOutput index) Measure.dutyCycle.configured
    Measure.dutyCycle.requested tick

/-- Whether a PWM output was last enabled; one that is not configured is not. -/
def enabledAt (index : Fin 2) (tick : ℕ) : Bool :=
  (requestAt test (channelOf .pwmOutput index) configuredEnabled enabledOf tick).getD false

end Dense

/-! ### Levels -/

/-- The level of a digital output after an action. -/
def acted (level : Bool) : DigitalOutputAction → Bool
  | .high => true
  | .low => false
  | .toggle => !level

/-- A further toggle flips the settled level. -/
theorem settledLevel_toggle (initial : Bool) (actions : List DigitalOutputAction) :
    settledLevel initial (actions ++ [.toggle]) = !settledLevel initial actions := by
  have hcount : laterToggles (actions ++ [.toggle]) = laterToggles actions + 1 := by
    rw [laterToggles, List.reverse_concat, List.takeWhile_cons_of_pos (by decide),
      List.length_cons, laterToggles]
  have hparity : decide ((laterToggles actions + 1) % 2 = 1) =
      !decide (laterToggles actions % 2 = 1) := by
    rw [← decide_not, decide_eq_decide]
    omega
  have hlevels : (actions ++ [DigitalOutputAction.toggle]).filterMap levelOf =
      actions.filterMap levelOf := by
    rw [List.filterMap_append, List.filterMap_cons_none rfl, List.filterMap_nil,
      List.append_nil]
  rw [settledLevel, hcount, hparity, hlevels, Bool.xor_not, settledLevel]

/-- A further action that sets a level settles it. -/
theorem settledLevel_set {action : DigitalOutputAction} {level : Bool}
    (hlevel : levelOf action = some level) (initial : Bool)
    (actions : List DigitalOutputAction) :
    settledLevel initial (actions ++ [action]) = level := by
  have hne : ¬action = .toggle := by
    rintro rfl
    cases hlevel
  have hcount : laterToggles (actions ++ [action]) = 0 := by
    rw [laterToggles, List.reverse_concat, List.takeWhile_cons_of_neg (by simpa using hne),
      List.length_nil]
  rw [settledLevel, hcount, List.filterMap_append, List.filterMap_cons_some hlevel,
    List.filterMap_nil, List.getLast?_concat, Option.getD_some]
  exact Bool.xor_false level

/-- A list of actions leaves the settled level. -/
theorem foldl_acted (initial : Bool) (actions : List DigitalOutputAction) :
    actions.foldl acted initial = settledLevel initial actions := by
  induction actions using List.reverseRecOn with
  | nil => cases initial <;> rfl
  | append_singleton actions action ih =>
    rw [List.foldl_concat, ih]
    cases action with
    | high => exact (settledLevel_set rfl initial actions).symm
    | low => exact (settledLevel_set rfl initial actions).symm
    | toggle => exact (settledLevel_toggle initial actions).symm

/-- The stimuli on a digital output leave the settled level of their actions. -/
theorem foldl_levelAfter (initial : Bool) (stimuli : List Stimulus) :
    stimuli.foldl levelAfter initial = settledLevel initial (stimuli.filterMap actionOf) := by
  rw [← foldl_acted, List.foldl_filterMap]
  refine List.foldl_ext _ _ initial fun level stimulus _ ↦ ?_
  cases stimulus with
  | digitalOutput action => cases action <;> rfl
  | _ => rfl

/-! ### Parts of the output state -/

section Parts

variable (configuration : Configuration) (instructions : List Instruction)

/-- A part of the output state that only the stimuli on one channel change. -/
theorem read_foldl_outputsAfter {Part : Type} {read : OutputState → Part} {channel : Channel}
    {update : Part → Stimulus → Part}
    (hread : ∀ state instruction, read (outputsAfter state instruction) =
      if instruction.channel = channel then update (read state) instruction.stimulus
      else read state) (initial : OutputState) :
    read (instructions.foldl outputsAfter initial) =
      (stimuliOn channel instructions).foldl update (read initial) := by
  rw [@read_foldl_own _ _ _ outputsAfter read (fun instruction ↦ instruction.channel = channel) _
    (fun part instruction ↦ update part instruction.stimulus) hread, stimuliOn, List.foldl_map]

theorem digitalOutputs_foldl (index : Fin 10) :
    (instructions.foldl outputsAfter (initialOutputs configuration)).digitalOutputs index =
      settledLevel
        (configuredPart configuration (channelOf .digitalOutput index) initialLevel false)
        ((stimuliOn (channelOf .digitalOutput index) instructions).filterMap actionOf) := by
  rw [@read_foldl_outputsAfter instructions _ (fun state ↦ state.digitalOutputs index)
    (channelOf .digitalOutput index) levelAfter (fun _ _ ↦ rfl), foldl_levelAfter]
  rfl

/-- A part of the output state that the stimuli on one channel overwrite, or leave. -/
theorem read_foldl_request {β γ : Type} {read : OutputState → γ} {channel : Channel}
    {configured : PeripheralConfiguration → Option β} {requested : Stimulus → Option β}
    {value : β → γ} {unset : γ} {part : PeripheralConfiguration → γ}
    (hpart : ∀ peripheral, part peripheral = ((configured peripheral).map value).getD unset)
    (hinitial : read (initialOutputs configuration) =
      configuredPart configuration channel part unset)
    (hread : ∀ state instruction, read (outputsAfter state instruction) =
      if instruction.channel = channel then
        ((requested instruction.stimulus).map value).getD (read state)
      else read state) :
    read (instructions.foldl outputsAfter (initialOutputs configuration)) =
      ((requestOn configuration channel configured requested instructions).map value).getD
        unset := by
  have hconfigured : configuredPart configuration channel part unset =
      (((configuration.forChannel channel).bind configured).map value).getD unset := by
    rw [configuredPart]
    cases configuration.forChannel channel with
    | none => rfl
    | some peripheral => exact hpart peripheral
  rw [@read_foldl_outputsAfter instructions _ read channel
    (fun current stimulus ↦ ((requested stimulus).map value).getD current) hread, hinitial,
    hconfigured, foldl_eq_lastRequest fun _ _ ↦ rfl]
  rfl

theorem analogueOutputs_foldl (index : Fin 6) :
    (instructions.foldl outputsAfter (initialOutputs configuration)).analogueOutputs index =
      ((requestOn configuration (channelOf .analogueOutput index) Measure.voltage.configured
        Measure.voltage.requested instructions).map microvoltsOf).getD 0 := by
  refine @read_foldl_request configuration instructions _ _
    (fun state ↦ state.analogueOutputs index) (channelOf .analogueOutput index) _ _ microvoltsOf 0
    initialMicrovolts (fun peripheral ↦ ?_) rfl fun state instruction ↦ if_congr Iff.rfl ?_ rfl
  · cases peripheral <;> rfl
  · cases instruction.stimulus <;> rfl

/-- A field of the retained request of a PWM output. -/
theorem pwmOutputs_foldl {β γ : Type} {field : PWMState → γ}
    {configured : PeripheralConfiguration → Option β} {requested : Stimulus → Option β}
    {value : β → γ}
    (hpart : ∀ peripheral,
      field (initialPWM peripheral) = ((configured peripheral).map value).getD (field {}))
    (hfield : ∀ state stimulus,
      field (pwmAfter state stimulus) = ((requested stimulus).map value).getD (field state))
    (index : Fin 2) :
    field ((instructions.foldl outputsAfter (initialOutputs configuration)).pwmOutputs index) =
      ((requestOn configuration (channelOf .pwmOutput index) configured requested
        instructions).map value).getD (field {}) := by
  refine @read_foldl_request configuration instructions _ _
    (fun state ↦ field (state.pwmOutputs index)) (channelOf .pwmOutput index) configured requested
    value (field {}) (fun peripheral ↦ field (initialPWM peripheral)) hpart ?_
    fun state instruction ↦ ?_
  · show field (configuredPart _ _ _ _) = _
    unfold configuredPart
    cases configuration.forChannel (channelOf .pwmOutput index) <;> rfl
  · by_cases hchannel : instruction.channel = channelOf .pwmOutput index
    · rw [if_pos hchannel, ← hfield]
      exact congrArg field (if_pos hchannel)
    · rw [if_neg hchannel]
      exact congrArg field (if_neg hchannel)

theorem periodNanoseconds_foldl (index : Fin 2) :
    ((instructions.foldl outputsAfter
        (initialOutputs configuration)).pwmOutputs index).periodNanoseconds =
      ((requestOn configuration (channelOf .pwmOutput index) Measure.frequency.configured
        Measure.frequency.requested instructions).map periodNsOf).getD 0 :=
  pwmOutputs_foldl configuration instructions (fun peripheral ↦ by cases peripheral <;> rfl)
    (fun _ stimulus ↦ by cases stimulus <;> rfl) index

theorem dutyCyclePermyriad_foldl (index : Fin 2) :
    ((instructions.foldl outputsAfter
        (initialOutputs configuration)).pwmOutputs index).dutyCyclePermyriad =
      ((requestOn configuration (channelOf .pwmOutput index) Measure.dutyCycle.configured
        Measure.dutyCycle.requested instructions).map permyriadOf).getD 0 :=
  pwmOutputs_foldl configuration instructions (fun peripheral ↦ by cases peripheral <;> rfl)
    (fun _ stimulus ↦ by cases stimulus <;> rfl) index

theorem enabled_foldl (index : Fin 2) :
    ((instructions.foldl outputsAfter (initialOutputs configuration)).pwmOutputs index).enabled =
      (requestOn configuration (channelOf .pwmOutput index) configuredEnabled enabledOf
        instructions).getD false := by
  have hfield := @pwmOutputs_foldl configuration instructions _ _ PWMState.enabled configuredEnabled
    enabledOf id (fun peripheral ↦ by cases peripheral <;> rfl)
    (fun _ stimulus ↦ by cases stimulus <;> rfl) index
  rw [hfield, Option.map_id]
  rfl

end Parts

section Ticks

variable (test : Test) (tick : ℕ)

/-- The stimuli on a fixed output up to a tick are all among those the messages are made from. -/
theorem stimuliOn_fixedStimuli {channel : Channel} (hfixed : channel.kind ∈ fixedKinds) :
    stimuliOn channel ((fixedStimuli test.instructions).filter fun instruction ↦
      instruction.timestamp ≤ tick) = stimuliOn channel (instructionsUpTo test tick) := by
  rw [stimuliOn, stimuliOn, instructionsUpTo, fixedStimuli, List.filter_filter,
    List.filter_filter, List.filter_filter]
  refine congrArg (List.map _) (List.filter_congr fun instruction _ ↦ ?_)
  by_cases hchannel : instruction.channel = channel
  · simp [hchannel, hfixed]
  · simp [hchannel]

theorem requestOn_fixedStimuli {β : Type} {channel : Channel}
    (hfixed : channel.kind ∈ fixedKinds) (configured : PeripheralConfiguration → Option β)
    (requested : Stimulus → Option β) :
    requestOn test.configuration channel configured requested
      ((fixedStimuli test.instructions).filter fun instruction ↦ instruction.timestamp ≤ tick) =
        requestAt test channel configured requested tick := by
  rw [requestOn, stimuliOn_fixedStimuli test tick hfixed, requestAt, requestOn]

theorem digitalOutputs_outputsAt (index : Fin 10) :
    (outputsAt test tick).digitalOutputs index = levelAt test index tick := by
  rw [outputsAt, digitalOutputs_foldl, stimuliOn_fixedStimuli test tick
    (mem_fixedKinds.2 (.inl rfl)), levelAt]

theorem analogueOutputs_outputsAt (index : Fin 6) :
    (outputsAt test tick).analogueOutputs index =
      ((voltageAt test index tick).map microvoltsOf).getD 0 := by
  rw [outputsAt, analogueOutputs_foldl, requestOn_fixedStimuli test tick
    (mem_fixedKinds.2 (.inr (.inl rfl))), voltageAt]

theorem periodNanoseconds_outputsAt (index : Fin 2) :
    ((outputsAt test tick).pwmOutputs index).periodNanoseconds =
      ((frequencyAt test index tick).map periodNsOf).getD 0 := by
  rw [outputsAt, periodNanoseconds_foldl, requestOn_fixedStimuli test tick
    (mem_fixedKinds.2 (.inr (.inr rfl))), frequencyAt]

theorem dutyCyclePermyriad_outputsAt (index : Fin 2) :
    ((outputsAt test tick).pwmOutputs index).dutyCyclePermyriad =
      ((dutyAt test index tick).map permyriadOf).getD 0 := by
  rw [outputsAt, dutyCyclePermyriad_foldl, requestOn_fixedStimuli test tick
    (mem_fixedKinds.2 (.inr (.inr rfl))), dutyAt]

theorem enabled_outputsAt (index : Fin 2) :
    ((outputsAt test tick).pwmOutputs index).enabled = enabledAt test index tick := by
  rw [outputsAt, enabled_foldl, requestOn_fixedStimuli test tick
    (mem_fixedKinds.2 (.inr (.inr rfl))), enabledAt]

end Ticks

/-! ### The state in force -/

/-- The values of all outputs. -/
@[ext]
structure WireOutputs where
  digitalOutputs : Fin 10 → Bool
  analogOutputs : Fin 6 → ℕ
  pwmOutputs : Fin 2 → PWMOutputValue

/-- The values a message puts in force. -/
def TestInstruction.outputs (instruction : TestInstruction) : WireOutputs where
  digitalOutputs := instruction.digitalOutputs
  analogOutputs := instruction.analogOutputs
  pwmOutputs := instruction.pwmOutputs

/-- The values in force before the first message. -/
def TestConfiguration.outputs (configuration : TestConfiguration) : WireOutputs where
  digitalOutputs index := (configuration.digitalOut index).initialHigh
  analogOutputs _ := 0
  pwmOutputs index :=
    ⟨(configuration.pwmOut index).initialPeriodNanoseconds,
      (configuration.pwmOut index).initialDutyCyclePermyriad⟩

/-- The values of a shared output state on the wire. -/
def OutputState.outputs (state : OutputState) : WireOutputs where
  digitalOutputs := state.digitalOutputs
  analogOutputs := state.analogueOutputs
  pwmOutputs index := (state.pwmOutputs index).value

/-- The values in force at a tick: those of the last message up to it, else the initial ones. -/
def FixedIOUploadMessages.inForce (upload : FixedIOUploadMessages) (tick : ℕ) : WireOutputs :=
  ((upload.instructions.filter fun instruction ↦ instruction.tickNumber ≤ tick).getLast?.map
    TestInstruction.outputs).getD upload.configuration.outputs

section InForce

variable {test : Test}

/-- Between two emitted ticks the output state does not change. -/
theorem outputsAt_congr (hnodup : (test.configuration.channelConfigurations.map Prod.fst).Nodup)
    {first second : ℕ} (hticks : ∀ tick ∈ outputTicks test, tick ≤ first ↔ tick ≤ second) :
    outputsAt test first = outputsAt test second := by
  refine congrArg (List.foldl _ _) (List.filter_congr fun instruction hinstruction ↦ ?_)
  exact decide_eq_decide.2
    (hticks _ ((mem_outputTicks hnodup).2 (.inl ⟨instruction, hinstruction, rfl⟩)))

/-- A part of a record that a configuration determines. -/
theorem part_configuredPart {α β : Type} {configuration : Configuration} {channel : Channel}
    {record : PeripheralConfiguration → α} {unset : α} {part : PeripheralConfiguration → β}
    {field : α → β} (hfield : ∀ peripheral, field (record peripheral) = part peripheral) :
    field (configuredPart configuration channel record unset) =
      configuredPart configuration channel part (field unset) := by
  unfold configuredPart
  cases configuration.forChannel channel with
  | none => rfl
  | some peripheral => exact hfield peripheral

/-- Before the first emitted tick the initial values are in force. -/
theorem outputs_configurationMessage
    (hanalogue : ∀ entry ∈ test.configuration.channelConfigurations,
      entry.1.kind ≠ .analogueOutput) (testId : TestId) :
    (configurationMessage test testId).outputs = (initialOutputs test.configuration).outputs := by
  refine WireOutputs.ext (funext fun index ↦ ?_) (funext fun index ↦ ?_) (funext fun index ↦ ?_)
  · exact @part_configuredPart _ _ test.configuration (channelOf .digitalOutput index)
      digitalOutputConfig {} initialLevel DigitalOutputConfig.initialHigh
      fun peripheral ↦ by cases peripheral <;> rfl
  · have hnone : test.configuration.forChannel (channelOf .analogueOutput index) = none := by
      refine List.lookup_eq_none_iff.2 fun entry hentry ↦ bne_iff_ne.2 fun heq ↦ ?_
      exact hanalogue entry hentry (congrArg Channel.kind heq).symm
    show 0 = configuredPart _ _ _ _
    rw [configuredPart, hnone]
    rfl
  · have hrecord := @part_configuredPart _ _ test.configuration (channelOf .pwmOutput index)
      pwmOutputConfig {} (fun peripheral ↦ (initialPWM peripheral).value)
      (fun record ↦ ⟨record.initialPeriodNanoseconds, record.initialDutyCyclePermyriad⟩)
      fun peripheral ↦ by cases peripheral <;> rfl
    have hstate := @part_configuredPart _ _ test.configuration (channelOf .pwmOutput index)
      initialPWM {} (fun peripheral ↦ (initialPWM peripheral).value) PWMState.value fun _ ↦ rfl
    exact hrecord.trans hstate.symm

/-- The values in force at a tick are those of the output state after all stimuli up to it. -/
theorem inForce_loweredUpload
    (hnodup : (test.configuration.channelConfigurations.map Prod.fst).Nodup)
    (attempt : UploadAttempt) (tick : ℕ) :
    (loweredUpload test attempt).inForce tick = (outputsAt test tick).outputs := by
  have hfilter : ((loweredUpload test attempt).instructions.filter fun instruction ↦
      instruction.tickNumber ≤ tick) =
        ((outputTicks test).filter (· ≤ tick)).map (tickInstruction test attempt) :=
    List.filter_map
  rw [FixedIOUploadMessages.inForce, hfilter, List.getLast?_map]
  cases hlast : ((outputTicks test).filter (· ≤ tick)).getLast? with
  | none =>
    have hlater : ∀ other ∈ outputTicks test, tick < other := by
      intro other hother
      have := List.filter_eq_nil_iff.1 (List.getLast?_eq_none_iff.1 hlast) other hother
      simpa using this
    have hinitial : outputsAt test tick = initialOutputs test.configuration := by
      rw [outputsAt, List.filter_eq_nil_iff.2 fun instruction hinstruction ↦ ?_]
      · rfl
      · have := hlater _ ((mem_outputTicks hnodup).2 (.inl ⟨instruction, hinstruction, rfl⟩))
        simpa using this
    rw [hinitial]
    refine outputs_configurationMessage (fun entry hentry hkind ↦ ?_) _
    exact absurd (hlater 0 ((mem_outputTicks hnodup).2 (.inr ⟨rfl, entry, hentry, hkind⟩)))
      (Nat.not_lt_zero tick)
  | some last =>
    obtain ⟨earlier, hearlier⟩ := List.getLast?_eq_some_iff.1 hlast
    have hsorted := (pairwise_outputTicks test).filter (· ≤ tick)
    rw [hearlier, List.pairwise_append] at hsorted
    have hle : last ≤ tick := by
      have hmem : last ∈ (outputTicks test).filter (· ≤ tick) := by
        rw [hearlier]
        exact List.mem_append_right _ List.mem_cons_self
      simpa using (List.mem_filter.1 hmem).2
    refine congrArg OutputState.outputs (outputsAt_congr hnodup fun other hother ↦ ?_)
    refine ⟨fun h ↦ h.trans hle, fun h ↦ ?_⟩
    have hmem : other ∈ earlier ++ [last] := by
      rw [← hearlier]
      exact List.mem_filter.2 ⟨hother, by simpa using h⟩
    rcases List.mem_append.1 hmem with hmem | hmem
    · exact (hsorted.2.2 other hmem last List.mem_cons_self).le
    · exact (List.mem_singleton.1 hmem).le

end InForce

/-! ### Exact values -/

section Exact

variable {test : Test} {channel : Channel} {tick : ℕ}

/-- The last value asked for is that of the configuration of the channel or of a stimulus on it. -/
theorem requestOn_eq_some {β : Type} {configuration : Configuration}
    {instructions : List Instruction}
    {configured : PeripheralConfiguration → Option β} {requested : Stimulus → Option β} {value : β}
    (hrequest : requestOn configuration channel configured requested instructions = some value) :
    (∃ peripheral, configuration.forChannel channel = some peripheral ∧
        configured peripheral = some value) ∨
      ∃ instruction ∈ instructions, instruction.channel = channel ∧
        requested instruction.stimulus = some value := by
  rcases lastRequest_eq_some hrequest with hconfigured | hrequested
  · exact .inl (Option.bind_eq_some_iff.1 hconfigured)
  · obtain ⟨stimulus, hstimulus, hvalue⟩ := List.mem_filterMap.1 hrequested
    obtain ⟨instruction, hinstruction, rfl⟩ := List.mem_map.1 hstimulus
    obtain ⟨hmem, hown⟩ := List.mem_filter.1 hinstruction
    exact .inr ⟨instruction, hmem, by simpa using hown, hvalue⟩

/-- The instructions up to a tick are instructions of the test. -/
theorem mem_of_mem_instructionsUpTo {instruction : Instruction}
    (hinstruction : instruction ∈ instructionsUpTo test tick) :
    instruction ∈ test.instructions :=
  (List.mem_insertionSort _).1 (List.mem_of_mem_filter hinstruction)

/-- The configuration of a channel is one of the entries. -/
theorem mem_of_forChannel
    (hnodup : (test.configuration.channelConfigurations.map Prod.fst).Nodup)
    {peripheral : PeripheralConfiguration}
    (hconfigured : test.configuration.forChannel channel = some peripheral) :
    (channel, peripheral) ∈ test.configuration.channelConfigurations :=
  (OrderedDict.lookup_eq_some_iff hnodup).1 hconfigured

/-- A channel of a well-formed test on which a value was asked for is configured for its kind. -/
theorem configured_of_requestAt (hformed : test.WellFormed) {β : Type}
    {configured : PeripheralConfiguration → Option β} {requested : Stimulus → Option β} {value : β}
    (hrequest : requestAt test channel configured requested tick = some value) :
    ∃ peripheral, test.configuration.forChannel channel = some peripheral ∧
      peripheral.kind = channel.kind := by
  rcases requestOn_eq_some hrequest with ⟨peripheral, hfound, -⟩ | ⟨instruction, hmem, rfl, -⟩
  · exact ⟨peripheral, hfound,
      hformed.configurationKind _ (mem_of_forChannel hformed.nodup hfound)⟩
  · exact isConfigured_iff.1 (hformed.stimulus instruction (mem_of_mem_instructionsUpTo hmem)).1

/-- The last quantity asked for is exact in the unit of the protocol. -/
theorem stores_requestAt (hformed : test.WellFormed) (hexact : test.Exact) {measure : Measure}
    {value : PyFloat}
    (hrequest : requestAt test channel measure.configured measure.requested tick = some value) :
    Stores measure.IsExact value := by
  rcases requestOn_eq_some hrequest with ⟨peripheral, hfound, hvalue⟩ |
    ⟨instruction, hmem, -, hvalue⟩
  · exact hexact.configuration _ (mem_of_forChannel hformed.nodup hfound) measure value hvalue
  · exact hexact.stimulus instruction (mem_of_mem_instructionsUpTo hmem) measure value hvalue

end Exact

/-! ### Refinement -/

/-- The decimal of the last quantity asked for, or zero. -/
def requestedDecimal (request : Option PyFloat) : ℚ :=
  (request.map decimalPart).getD 0

/-- The values of all outputs represent the dense state of a test at a tick. -/
structure Represents (test : Test) (tick : ℕ) (outputs : WireOutputs) : Prop where
  digital : ∀ index, outputs.digitalOutputs index = levelAt test index tick
  analogue : ∀ index,
    (outputs.analogOutputs index : ℚ) = 10 ^ 6 * requestedDecimal (voltageAt test index tick)
  period : ∀ index, enabledAt test index tick = true →
    ((outputs.pwmOutputs index).periodNanoseconds : ℚ) *
      requestedDecimal (frequencyAt test index tick) = 10 ^ 9
  duty : ∀ index, enabledAt test index tick = true →
    ((outputs.pwmOutputs index).dutyCyclePermyriad : ℚ) =
      10 ^ 4 * requestedDecimal (dutyAt test index tick)
  disabled : ∀ index, outputs.pwmOutputs index = ⟨0, 0⟩ ↔ enabledAt test index tick = false
  unconfiguredDigital : ∀ index,
    test.configuration.forChannel (channelOf .digitalOutput index) = none →
      outputs.digitalOutputs index = false
  unconfiguredAnalogue : ∀ index,
    test.configuration.forChannel (channelOf .analogueOutput index) = none →
      outputs.analogOutputs index = 0
  unconfiguredPwm : ∀ index,
    test.configuration.forChannel (channelOf .pwmOutput index) = none →
      outputs.pwmOutputs index = ⟨0, 0⟩

section Refinement

variable {test : Test} (hformed : test.WellFormed) (hexact : test.Exact) {tick : ℕ}

include hformed

/-- Nothing is asked for on a channel that is not configured. -/
theorem requestAt_of_unconfigured {channel : Channel}
    (hunconfigured : test.configuration.forChannel channel = none) {β : Type}
    (configured : PeripheralConfiguration → Option β) (requested : Stimulus → Option β) :
    requestAt test channel configured requested tick = none := by
  cases hrequest : requestAt test channel configured requested tick with
  | none => rfl
  | some value =>
    obtain ⟨peripheral, hfound, -⟩ := configured_of_requestAt hformed hrequest
    rw [hunconfigured] at hfound
    cases hfound

/-- There are no stimuli on a channel that is not configured. -/
theorem stimuliOn_of_unconfigured {channel : Channel}
    (hunconfigured : test.configuration.forChannel channel = none) :
    stimuliOn channel (instructionsUpTo test tick) = [] := by
  have hrequest : requestAt test channel (fun _ ↦ none) some tick = none :=
    requestAt_of_unconfigured hformed hunconfigured (fun _ ↦ none) some
  rw [requestAt, requestOn, lastRequest, Option.or_eq_none_iff, List.filterMap_some,
    List.getLast?_eq_none_iff] at hrequest
  exact hrequest.1

/-- An enabled PWM output has an exact frequency and an exact duty cycle. -/
theorem exact_of_enabledAt (hexact : test.Exact) {index : Fin 2}
    (henabled : enabledAt test index tick = true) :
    ∃ frequency duty, frequencyAt test index tick = some frequency ∧
      Stores IsFrequency frequency ∧ dutyAt test index tick = some duty ∧
        Stores IsDutyCycle duty := by
  have hrequest : requestAt test (channelOf .pwmOutput index) configuredEnabled enabledOf tick =
      some true := by
    rw [enabledAt, Option.getD_eq_iff] at henabled
    simpa using henabled
  obtain ⟨peripheral, hfound, hkind⟩ := configured_of_requestAt hformed hrequest
  cases peripheral with
  | pwmOutput voltage initialFrequency initialDuty enabled =>
    obtain ⟨frequency, hfrequency⟩ : ∃ frequency, frequencyAt test index tick = some frequency := by
      rw [frequencyAt, requestAt, requestOn, hfound]
      exact exists_lastRequest initialFrequency _
    obtain ⟨duty, hduty⟩ : ∃ duty, dutyAt test index tick = some duty := by
      rw [dutyAt, requestAt, requestOn, hfound]
      exact exists_lastRequest initialDuty _
    exact ⟨frequency, duty, hfrequency, stores_requestAt hformed hexact hfrequency, hduty,
      stores_requestAt hformed hexact hduty⟩
  | _ => cases hkind

omit hformed in
/-- The wire value of a PWM output after all stimuli up to a tick. -/
theorem pwmOutputs_outputs (index : Fin 2) :
    (outputsAt test tick).outputs.pwmOutputs index =
      if enabledAt test index tick = true then
        ⟨((frequencyAt test index tick).map periodNsOf).getD 0,
          ((dutyAt test index tick).map permyriadOf).getD 0⟩
      else ⟨0, 0⟩ := by
  show ((outputsAt test tick).pwmOutputs index).value = _
  rw [PWMState.value, enabled_outputsAt, periodNanoseconds_outputsAt, dutyCyclePermyriad_outputsAt]
  split <;> rfl

/-- An output state is represented by its values on the wire. -/
theorem represents_outputsAt (hexact : test.Exact) (tick : ℕ) :
    Represents test tick (outputsAt test tick).outputs where
  digital index := digitalOutputs_outputsAt test tick index
  analogue index := by
    show (((outputsAt test tick).analogueOutputs index : ℕ) : ℚ) = _
    rw [analogueOutputs_outputsAt, requestedDecimal]
    cases hrequest : voltageAt test index tick with
    | none => simp
    | some volts => exact (microvoltsOf_spec (stores_requestAt hformed hexact hrequest)).1
  period index henabled := by
    obtain ⟨frequency, duty, hfrequency, hexactly, -, -⟩ :=
      exact_of_enabledAt hformed hexact henabled
    rw [pwmOutputs_outputs, if_pos henabled, requestedDecimal, hfrequency]
    exact (periodNsOf_spec hexactly).1
  duty index henabled := by
    obtain ⟨frequency, duty, -, -, hduty, hexactly⟩ := exact_of_enabledAt hformed hexact henabled
    rw [pwmOutputs_outputs, if_pos henabled, requestedDecimal, hduty]
    exact (permyriadOf_spec hexactly).1
  disabled index := by
    rw [pwmOutputs_outputs]
    by_cases henabled : enabledAt test index tick = true
    · obtain ⟨frequency, duty, hfrequency, hexactly, -, -⟩ :=
        exact_of_enabledAt hformed hexact henabled
      have hpositive := (periodNsOf_spec hexactly).2.1
      rw [if_pos henabled, hfrequency, henabled]
      refine iff_of_false (fun heq ↦ ?_) nofun
      exact hpositive.ne' (congrArg PWMOutputValue.periodNanoseconds heq)
    · rw [if_neg henabled]
      exact iff_of_true rfl (by simpa using henabled)
  unconfiguredDigital index hunconfigured := by
    show (outputsAt test tick).digitalOutputs index = false
    rw [digitalOutputs_outputsAt, levelAt, stimuliOn_of_unconfigured hformed hunconfigured,
      configuredPart, hunconfigured]
    rfl
  unconfiguredAnalogue index hunconfigured := by
    show (outputsAt test tick).analogueOutputs index = 0
    rw [analogueOutputs_outputsAt, voltageAt, requestAt_of_unconfigured hformed hunconfigured]
    rfl
  unconfiguredPwm index hunconfigured := by
    have henabled : enabledAt test index tick = false := by
      rw [enabledAt, requestAt_of_unconfigured hformed hunconfigured]
      rfl
    rw [pwmOutputs_outputs, henabled]
    rfl

end Refinement

/-- The sparse messages of an upload refine the dense states of a test. -/
structure Refines (test : Test) (plan : CompiledTestIR) (upload : FixedIOUploadMessages) :
    Prop where
  ascending : upload.instructions.Pairwise fun first second ↦ first.tickNumber < second.tickNumber
  bounded : ∀ message ∈ upload.instructions, message.tickNumber < plan.expectedTickCount
  ticks : ∀ tick, (∃ message ∈ upload.instructions, message.tickNumber = tick) ↔
    (∃ instruction ∈ plan.instructions,
        instruction.peripheral ∈ fixedOutputPeripherals ∧ instruction.tick = tick) ∨
      tick = 0 ∧ ∃ configuration ∈ plan.configurations,
        configuration.peripheral = "analogue_output"
  represents : ∀ tick, Represents test tick (upload.inForce tick)

/-- The stimuli on the fixed outputs are the compiled instructions of the fixed peripherals. -/
theorem exists_fixedStimuli_iff (test : Test) (tick : ℕ) :
    (∃ instruction ∈ fixedStimuli test.instructions, instruction.timestamp = tick) ↔
      ∃ instruction ∈ test.plan.instructions,
        instruction.peripheral ∈ fixedOutputPeripherals ∧ instruction.tick = tick := by
  constructor
  · rintro ⟨instruction, hinstruction, rfl⟩
    obtain ⟨hmem, hfixed⟩ := List.mem_filter.1 hinstruction
    exact ⟨compiledInstruction instruction, List.mem_map.2 ⟨instruction, hmem, rfl⟩,
      (mem_fixedOutputPeripherals _).2 (by simpa using hfixed), rfl⟩
  · rintro ⟨compiled, hcompiled, hfixed, rfl⟩
    obtain ⟨instruction, hmem, rfl⟩ := List.mem_map.1 hcompiled
    refine ⟨instruction, List.mem_filter.2 ⟨hmem, ?_⟩, rfl⟩
    simpa using (mem_fixedOutputPeripherals _).1 hfixed

/-- The configured analogue outputs are the compiled configurations of their peripheral. -/
theorem exists_analogueOutput_iff (test : Test) :
    (∃ entry ∈ test.configuration.channelConfigurations, entry.1.kind = .analogueOutput) ↔
      ∃ configuration ∈ test.plan.configurations,
        configuration.peripheral = "analogue_output" := by
  have hmem := fun entry ↦ (@List.Perm.mem_iff _ entry _ _
    (sortedConfigurations_perm test.configuration))
  constructor
  · rintro ⟨entry, hentry, hkind⟩
    refine ⟨compiledConfiguration entry, List.mem_map.2 ⟨entry, (hmem entry).2 hentry, rfl⟩, ?_⟩
    show entry.1.kind.value = _
    rw [hkind]
    rfl
  · rintro ⟨compiled, hcompiled, hperipheral⟩
    obtain ⟨entry, hentry, rfl⟩ := List.mem_map.1 hcompiled
    exact ⟨entry, (hmem entry).1 hentry, ChannelKind.value_injective hperipheral⟩

/-- The emitted ticks are ticks of the run. -/
theorem lt_expectedTickCount {test : Test}
    (hnodup : (test.configuration.channelConfigurations.map Prod.fst).Nodup) {tick : ℕ}
    (htick : tick ∈ outputTicks test) : tick < test.plan.expectedTickCount := by
  have hcount : test.plan.expectedTickCount =
      test.latestTick + test.configuration.frequencyMode.hertz + 1 := countExpectedTicks_eq test
  rcases (mem_outputTicks hnodup).1 htick with ⟨instruction, hinstruction, rfl⟩ | ⟨rfl, -⟩
  · have hle : instruction.timestamp ≤ test.latestTick :=
      le_latestOf (List.mem_append_left _
        (List.mem_map.2 ⟨instruction, (mem_fixedStimuli.1 hinstruction).1, rfl⟩))
    omega
  · omega

/-- Every upload built from the plan of a test is the upload of the test for some attempt. -/
theorem eq_loweredUpload {test : Test} (hformed : test.WellFormed) (hexact : test.Exact)
    {uploadAttempt : Option UploadAttempt} {draws : List (Fin (2 ^ 128))}
    {upload : FixedIOUploadMessages}
    (hupload : buildUpload test.plan uploadAttempt draws = .ok upload) :
    ∃ attempt, upload = loweredUpload test attempt := by
  obtain ⟨attempt, hattempt, hbuilt⟩ := bind_eq_ok.1 hupload
  have hdefinition := not_not.1 (ite_error_eq_ok.1 hbuilt).1
  have hlowered := buildUpload_plan hformed hexact hdefinition draws
  rw [buildUpload, hattempt] at hupload
  exact ⟨attempt, Except.ok.inj (hupload.symm.trans hlowered)⟩

/-- Every compilation of a reachable test is lowered for every attempt of it, and every upload built
from it refines the dense states of the test. -/
theorem sparse_refines_dense (test : Test) (hreachable : test.Reachable) (plan : CompiledTestIR)
    (after : Test) (hcompiled : compile test = .ok plan after) :
    (∀ (attempt : UploadAttempt) (draws : List (Fin (2 ^ 128))),
        attempt.definitionTestId = plan.testId →
          ∃ upload, buildUpload plan (some attempt) draws = .ok upload) ∧
      ∀ (uploadAttempt : Option UploadAttempt) (draws : List (Fin (2 ^ 128)))
        (upload : FixedIOUploadMessages),
        buildUpload plan uploadAttempt draws = .ok upload → Refines test plan upload := by
  have hformed := wellFormed_of_reachable hreachable
  have hexact := exact_of_reachable hreachable
  obtain rfl := plan_of_compile hreachable hcompiled
  refine ⟨fun attempt draws hattempt ↦ ⟨_, buildUpload_plan hformed hexact hattempt draws⟩, ?_⟩
  intro uploadAttempt draws upload hupload
  obtain ⟨attempt, rfl⟩ := eq_loweredUpload hformed hexact hupload
  refine ⟨List.pairwise_map.2 (pairwise_outputTicks test), ?_, ?_, ?_⟩
  · intro message hmessage
    obtain ⟨tick, htick, rfl⟩ := List.mem_map.1 hmessage
    exact lt_expectedTickCount hformed.nodup htick
  · intro tick
    rw [← exists_fixedStimuli_iff, ← exists_analogueOutput_iff, ← mem_outputTicks hformed.nodup]
    exact ⟨by rintro ⟨_, hmessage, rfl⟩; obtain ⟨tick, htick, rfl⟩ := List.mem_map.1 hmessage
              exact htick,
      fun htick ↦ ⟨_, List.mem_map.2 ⟨tick, htick, rfl⟩, rfl⟩⟩
  · intro tick
    rw [inForce_loweredUpload hformed.nodup]
    exact represents_outputsAt hformed hexact tick

theorem sparse_refines_dense_fanTest :
    outputTicks fanTest = [0, 5, 7] ∧
    (∀ (attempt : UploadAttempt) (draws : List (Fin (2 ^ 128))),
        attempt.definitionTestId = fanTest.plan.testId →
          ∃ upload, buildUpload fanTest.plan (some attempt) draws = .ok upload) ∧
      ∀ (uploadAttempt : Option UploadAttempt) (draws : List (Fin (2 ^ 128)))
        (upload : FixedIOUploadMessages),
        buildUpload fanTest.plan uploadAttempt draws = .ok upload →
          Refines fanTest fanTest.plan upload :=
  ⟨by decide +kernel,
    sparse_refines_dense fanTest reachable_fanTest fanTest.plan _ compile_fanTest⟩

end HilRig.Protocol
