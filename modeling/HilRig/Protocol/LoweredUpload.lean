import HilRig.Api.Provenance
import HilRig.Protocol.Lowering

/-!
# The upload of a compiled test

A test whose quantities are exact compiles to a definition that `buildUpload` lowers without an
error. The message of an emitted tick holds, on every output, the initial value of the channel after
all stimuli on it up to that tick, in the order of their ticks and identifiers
(`buildUpload_plan`).
-/

set_option autoImplicit false
set_option relaxedAutoImplicit false

namespace HilRig.Protocol

open HilRig.Models HilRig.Foundations HilRig.Api

/-! ### The configured state -/

/-- The part of a channel that a configuration determines, or the part of an unconfigured one. -/
def configuredPart {α : Type} (configuration : Configuration) (channel : Channel)
    (part : PeripheralConfiguration → α) (unconfigured : α) : α :=
  ((configuration.forChannel channel).map part).getD unconfigured

/-- The output state before the first stimulus. -/
def initialOutputs (configuration : Configuration) : OutputState where
  digitalOutputs index :=
    configuredPart configuration (channelOf .digitalOutput index) initialLevel false
  analogueOutputs index :=
    configuredPart configuration (channelOf .analogueOutput index) initialMicrovolts 0
  pwmOutputs index := configuredPart configuration (channelOf .pwmOutput index) initialPWM {}

/-- The channel arrays of the configuration message. -/
def configuredArrays (configuration : Configuration) : ConfigurationArrays where
  digitalIn index :=
    configuredPart configuration (channelOf .digitalInput index) digitalInputConfig {}
  digitalOut index :=
    configuredPart configuration (channelOf .digitalOutput index) digitalOutputConfig {}
  analogIn index :=
    configuredPart configuration (channelOf .analogueInput index) analogInputConfig {}
  analogOut index :=
    configuredPart configuration (channelOf .analogueOutput index) analogOutputConfig {}
  pwmIn index := configuredPart configuration (channelOf .pwmInput index) pwmInputConfig {}
  pwmOut index := configuredPart configuration (channelOf .pwmOutput index) pwmOutputConfig {}

section Configurations

variable {configuration : Configuration}
  (hnodup : (configuration.channelConfigurations.map Prod.fst).Nodup)

theorem sortedConfigurations_perm (configuration : Configuration) :
    (sortedConfigurations configuration).Perm configuration.channelConfigurations :=
  List.perm_insertionSort _ _

include hnodup

theorem nodup_sortedConfigurations :
    ((sortedConfigurations configuration).map Prod.fst).Nodup :=
  ((sortedConfigurations_perm configuration).map Prod.fst).nodup_iff.2 hnodup

/-- The configuration index of a snapshot has one entry for each configured channel. -/
theorem configurationIndex_sortedConfigurations :
    configurationIndex ((sortedConfigurations configuration).map compiledConfiguration) =
      (sortedConfigurations configuration).map fun entry ↦
        (configurationKey entry.1, compiledConfiguration entry) := by
  have hinjective : Function.Injective configurationKey := by
    rintro ⟨kind, index, hindex⟩ ⟨otherKind, otherIndex, hotherIndex⟩ heq
    obtain ⟨hkind, hindices⟩ := Prod.mk.inj heq
    cases ChannelKind.value_injective hkind
    cases hindices
    rfl
  unfold configurationIndex
  rw [List.map_map]
  refine OrderedDict.ofEntries_of_nodup ?_
  rw [List.map_map]
  have hkeys := (nodup_sortedConfigurations hnodup).map hinjective
  rwa [List.map_map] at hkeys

/-- A part of one channel after a fold that enters the configuration of each channel. -/
theorem read_foldl_sortedConfigurations {State Part : Type} {part : PeripheralConfiguration → Part}
    {step : State → Channel × PeripheralConfiguration → State} {read : State → Part}
    {channel : Channel}
    (hread : ∀ state entry, read (step state entry) =
      if entry.1 = channel then part entry.2 else read state) (initial : State) :
    read ((sortedConfigurations configuration).foldl step initial) =
      configuredPart configuration channel part (read initial) := by
  rw [@OrderedDict.read_foldl _ _ _ _ _ step read channel (fun _ value ↦ part value)
    (fun state entry hne ↦ by rw [hread, if_neg hne]) (fun state value ↦ by rw [hread, if_pos rfl])
    _ (nodup_sortedConfigurations hnodup) initial]
  rw [OrderedDict.lookup_perm (nodup_sortedConfigurations hnodup)
    (sortedConfigurations_perm configuration)]
  rfl

theorem foldl_outputsConfigured :
    (sortedConfigurations configuration).foldl outputsConfigured {} =
      initialOutputs configuration := by
  have hread {α : Type} := @read_foldl_sortedConfigurations configuration hnodup OutputState α
  refine OutputState.ext ?_ ?_ ?_
  · exact funext fun index ↦ @hread _ initialLevel outputsConfigured
      (fun state ↦ state.digitalOutputs index) (channelOf .digitalOutput index)
      (fun _ _ ↦ rfl) {}
  · exact funext fun index ↦ @hread _ initialMicrovolts outputsConfigured
      (fun state ↦ state.analogueOutputs index) (channelOf .analogueOutput index)
      (fun _ _ ↦ rfl) {}
  · exact funext fun index ↦ @hread _ initialPWM outputsConfigured
      (fun state ↦ state.pwmOutputs index) (channelOf .pwmOutput index)
      (fun _ _ ↦ rfl) {}

theorem foldl_arraysConfigured :
    (sortedConfigurations configuration).foldl arraysConfigured {} =
      configuredArrays configuration := by
  have hread {α : Type} :=
    @read_foldl_sortedConfigurations configuration hnodup ConfigurationArrays α
  refine ConfigurationArrays.ext ?_ ?_ ?_ ?_ ?_ ?_
  · exact funext fun index ↦ @hread _ digitalInputConfig arraysConfigured
      (fun arrays ↦ arrays.digitalIn index) (channelOf .digitalInput index) (fun _ _ ↦ rfl) {}
  · exact funext fun index ↦ @hread _ digitalOutputConfig arraysConfigured
      (fun arrays ↦ arrays.digitalOut index) (channelOf .digitalOutput index) (fun _ _ ↦ rfl) {}
  · exact funext fun index ↦ @hread _ analogInputConfig arraysConfigured
      (fun arrays ↦ arrays.analogIn index) (channelOf .analogueInput index) (fun _ _ ↦ rfl) {}
  · exact funext fun index ↦ @hread _ analogOutputConfig arraysConfigured
      (fun arrays ↦ arrays.analogOut index) (channelOf .analogueOutput index) (fun _ _ ↦ rfl) {}
  · exact funext fun index ↦ @hread _ pwmInputConfig arraysConfigured
      (fun arrays ↦ arrays.pwmIn index) (channelOf .pwmInput index) (fun _ _ ↦ rfl) {}
  · exact funext fun index ↦ @hread _ pwmOutputConfig arraysConfigured
      (fun arrays ↦ arrays.pwmOut index) (channelOf .pwmOutput index) (fun _ _ ↦ rfl) {}

end Configurations

/-! ### The emitted states -/

/-- The stimuli on the fixed outputs, in the order of their ticks and identifiers. -/
def fixedStimuli (instructions : List Instruction) : List Instruction :=
  (sortedInstructions instructions).filter fun instruction ↦
    instruction.channel.kind ∈ fixedKinds

/-- The output state after all stimuli up to a tick. -/
def outputsAt (test : Test) (tick : ℕ) : OutputState :=
  ((fixedStimuli test.instructions).filter fun instruction ↦
    instruction.timestamp ≤ tick).foldl outputsAfter (initialOutputs test.configuration)

theorem pairwise_fixedStimuli (instructions : List Instruction) :
    (fixedStimuli instructions).Pairwise fun first second ↦
      first.timestamp ≤ second.timestamp :=
  (pairwise_sortedInstructions instructions).filter _

theorem mem_fixedStimuli {instructions : List Instruction} {instruction : Instruction} :
    instruction ∈ fixedStimuli instructions ↔
      instruction ∈ instructions ∧ instruction.channel.kind ∈ fixedKinds := by
  rw [fixedStimuli, List.mem_filter, decide_eq_true_iff, sortedInstructions,
    List.mem_insertionSort]

/-- A compiled instruction is of a fixed output when its channel is. -/
theorem mem_fixedOutputPeripherals (kind : ChannelKind) :
    kind.value ∈ fixedOutputPeripherals ↔ kind ∈ fixedKinds := by
  cases kind <;> decide

theorem fixedInstructions_plan (test : Test) :
    fixedInstructions test.plan = (fixedStimuli test.instructions).map compiledInstruction := by
  show ((sortedInstructions test.instructions).map compiledInstruction).filter _ = _
  rw [List.filter_map]
  refine congrArg (List.map compiledInstruction) (List.filter_congr fun instruction _ ↦ ?_)
  exact decide_eq_decide.2 (mem_fixedOutputPeripherals instruction.channel.kind)

/-- The groups of sorted instructions are the runs of their ticks. -/
theorem groupByTick_of_sorted {instructions : List CompiledInstruction}
    (hsorted : instructions.Pairwise fun first second ↦ first.tick ≤ second.tick) :
    groupByTick instructions = runs CompiledInstruction.tick instructions :=
  OrderedDict.ofEntries_of_nodup ((pairwise_runs hsorted).imp ne_of_lt)

/-- Each emitted tick has the state left by all groups up to it. -/
theorem emitInstructions_eq {testId : TestId} {grouped : List (ℕ × List CompiledInstruction)}
    {group : ℕ → List Instruction}
    (hgroup : ∀ tick state, ((grouped.lookup tick).getD []).foldlM applyInstruction state =
      .ok ((group tick).foldl outputsAfter state))
    {ticks : List ℕ} (hticks : ticks.Pairwise (· < ·)) (state : OutputState) :
    emitInstructions testId grouped ticks state =
      .ok (ticks.map fun tick ↦ testInstruction testId tick
        (((ticks.filter (· ≤ tick)).flatMap group).foldl outputsAfter state)) := by
  induction ticks generalizing state with
  | nil => rfl
  | cons first ticks ih =>
    rw [List.pairwise_cons] at hticks
    rw [emitInstructions, hgroup]
    show (emitInstructions testId grouped ticks _ >>= _) = _
    rw [ih hticks.2]
    have hnone : ticks.filter (· ≤ first) = [] := by
      rw [List.filter_eq_nil_iff]
      exact fun tick htick ↦ by simpa using hticks.1 tick htick
    have hhead : (first :: ticks).filter (· ≤ first) = [first] := by
      rw [List.filter_cons_of_pos (by simp), hnone]
    rw [List.map_cons, hhead, List.flatMap_singleton]
    refine congrArg (fun later ↦ Except.ok (_ :: later)) (List.map_congr_left fun tick htick ↦ ?_)
    have hle : first ≤ tick := (hticks.1 tick htick).le
    rw [List.filter_cons_of_pos (by simpa using hle), List.flatMap_cons, List.foldl_append]

/-! ### The upload -/

/-- The ticks that get a message. -/
def outputTicks (test : Test) : List ℕ :=
  emittedTicks (configurationIndex test.plan.configurations)
    (groupByTick (fixedInstructions test.plan))

/-- The message of every tick of a test. -/
def tickInstruction (test : Test) (attempt : UploadAttempt) (tick : ℕ) : TestInstruction :=
  testInstruction ⟨applicationTestIdToBytes attempt.applicationTestId⟩ tick (outputsAt test tick)

/-- The configuration message of a test. -/
def configurationMessage (test : Test) (testId : TestId) : TestConfiguration :=
  let arrays := configuredArrays test.configuration
  { testId := testId
    tickDurationUs := test.plan.tickPeriodNs / 1000
    expectedTickCount := test.plan.expectedTickCount
    flags := 0
    digitalIn := arrays.digitalIn
    digitalOut := arrays.digitalOut
    analogIn := arrays.analogIn
    analogOut := arrays.analogOut
    pwmIn := arrays.pwmIn
    pwmOut := arrays.pwmOut }

/-- The upload of a test. -/
def loweredUpload (test : Test) (attempt : UploadAttempt) : FixedIOUploadMessages where
  uploadAttempt := attempt
  startMode := test.plan.startMode
  configuration :=
    configurationMessage test ⟨applicationTestIdToBytes attempt.applicationTestId⟩
  instructions := (outputTicks test).map (tickInstruction test attempt)

/-- The compiled stimuli on the fixed outputs are sorted by their ticks. -/
theorem pairwise_map_fixedStimuli (instructions : List Instruction) :
    ((fixedStimuli instructions).map compiledInstruction).Pairwise fun first second ↦
      first.tick ≤ second.tick :=
  List.pairwise_map.2 (pairwise_fixedStimuli instructions)

theorem pairwise_outputTicks (test : Test) : (outputTicks test).Pairwise (· < ·) :=
  pairwise_lt_emittedTicks _ _

/-- A tick gets a message when it has a stimulus on a fixed output, or when it is zero and an
analogue output is configured. -/
theorem mem_outputTicks {test : Test} (hnodup : (test.configuration.channelConfigurations.map
    Prod.fst).Nodup) {tick : ℕ} :
    tick ∈ outputTicks test ↔
      (∃ instruction ∈ fixedStimuli test.instructions, instruction.timestamp = tick) ∨
        tick = 0 ∧ ∃ entry ∈ test.configuration.channelConfigurations,
          entry.1.kind = .analogueOutput := by
  have hgrouped : ∀ tick, tick ∈ (groupByTick (fixedInstructions test.plan)).map Prod.fst ↔
      ∃ instruction ∈ fixedStimuli test.instructions, instruction.timestamp = tick := by
    intro tick
    rw [fixedInstructions_plan, groupByTick_of_sorted (pairwise_map_fixedStimuli _),
      mem_keys_runs]
    simp only [List.mem_map, exists_exists_and_eq_and]
    rfl
  have hanalogue : hasAnalogueOutput (configurationIndex test.plan.configurations) = true ↔
      ∃ entry ∈ test.configuration.channelConfigurations, entry.1.kind = .analogueOutput := by
    have hindex : configurationIndex test.plan.configurations = _ :=
      configurationIndex_sortedConfigurations hnodup
    rw [hindex, hasAnalogueOutput, List.any_map, List.any_eq_true]
    refine exists_congr fun entry ↦ and_congr
      (sortedConfigurations_perm test.configuration).mem_iff ?_
    show decide (entry.1.kind.value = ChannelKind.analogueOutput.value) = true ↔ _
    rw [decide_eq_true_iff, ChannelKind.value_injective.eq_iff]
  rw [outputTicks, emittedTicks, List.mem_insertionSort, ← hgrouped, ← hanalogue]
  split
  · rename_i hzero
    rw [List.mem_cons, or_comm]
    simp [hzero.1]
  · rename_i hzero
    rw [not_and_or, not_not] at hzero
    constructor
    · exact .inl
    · rintro (hmem | ⟨rfl, hconfigured⟩)
      · exact hmem
      · exact hzero.resolve_left (not_not.2 hconfigured)

section Upload

variable {test : Test} (hformed : test.WellFormed) (hexact : test.Exact)

/-- The execution frequencies have periods of whole microseconds. -/
theorem tickPeriodNs_plan (test : Test) : test.plan.tickPeriodNs % 1000 = 0 := by
  show 1000000000 / test.configuration.frequencyMode.hertz % 1000 = 0
  cases test.configuration.frequencyMode <;> rfl

include hformed in
theorem configurationIndex_plan :
    configurationIndex test.plan.configurations =
      (sortedConfigurations test.configuration).map fun entry ↦
        (configurationKey entry.1, compiledConfiguration entry) :=
  configurationIndex_sortedConfigurations hformed.nodup

include hformed hexact

theorem mem_sortedConfigurations {entry : Channel × PeripheralConfiguration}
    (hentry : entry ∈ sortedConfigurations test.configuration) :
    entry.2.kind = entry.1.kind ∧ ExactConfiguration entry.2 := by
  have hmem := (sortedConfigurations_perm test.configuration).mem_iff.1 hentry
  exact ⟨hformed.configurationKind entry hmem, hexact.configuration entry hmem⟩

theorem foldlM_configureArrays :
    (configurationIndex test.plan.configurations).foldlM configureArrays {} =
      .ok (configuredArrays test.configuration) := by
  rw [configurationIndex_plan hformed, ← foldl_arraysConfigured hformed.nodup]
  refine foldlM_of_forall (fun arrays entry hentry ↦ ?_) _
  obtain ⟨hkind, hexactly⟩ := mem_sortedConfigurations hformed hexact hentry
  exact configureArrays_compiledConfiguration arrays hkind hexactly

theorem buildConfiguration_plan (testId : TestId) :
    buildConfiguration test.plan testId (configurationIndex test.plan.configurations) =
      .ok (configurationMessage test testId) := by
  rw [buildConfiguration, foldlM_configureArrays hformed hexact]
  exact if_neg (not_not.2 (tickPeriodNs_plan test))

theorem foldlM_initializeOutput :
    (configurationIndex test.plan.configurations).foldlM initializeOutput {} =
      .ok (initialOutputs test.configuration) := by
  rw [configurationIndex_plan hformed, ← foldl_outputsConfigured hformed.nodup]
  refine foldlM_of_forall (fun state entry hentry ↦ ?_) _
  obtain ⟨hkind, hexactly⟩ := mem_sortedConfigurations hformed hexact hentry
  exact initializeOutput_compiledConfiguration state hkind hexactly

/-- Applying compiled stimuli on the fixed outputs. -/
theorem foldlM_applyInstruction {instructions : List Instruction}
    (hmem : ∀ instruction ∈ instructions, instruction ∈ fixedStimuli test.instructions)
    (state : OutputState) :
    (instructions.map compiledInstruction).foldlM applyInstruction state =
      .ok (instructions.foldl outputsAfter state) := by
  refine foldlM_of_forall (fun state instruction hinstruction ↦ ?_) state
  obtain ⟨hinstruction, hfixed⟩ := mem_fixedStimuli.1 (hmem instruction hinstruction)
  exact applyInstruction_compiledInstruction state hfixed
    (hformed.stimulus instruction hinstruction).2 (hexact.stimulus instruction hinstruction)

theorem buildSparseInstructions_plan (testId : TestId) :
    buildSparseInstructions test.plan testId (configurationIndex test.plan.configurations) =
      .ok ((outputTicks test).map fun tick ↦
        testInstruction testId tick (outputsAt test tick)) := by
  have hsorted := pairwise_fixedStimuli test.instructions
  have hgroup : ∀ tick state, (((groupByTick (fixedInstructions test.plan)).lookup tick).getD
      []).foldlM applyInstruction state = .ok (((fixedStimuli test.instructions).filter
        fun instruction ↦ instruction.timestamp = tick).foldl outputsAfter state) := by
    intro tick state
    rw [fixedInstructions_plan, groupByTick_of_sorted (pairwise_map_fixedStimuli _),
      lookup_runs (pairwise_map_fixedStimuli _), List.filter_map]
    exact foldlM_applyInstruction hformed hexact
      (fun instruction hinstruction ↦ List.mem_of_mem_filter hinstruction) state
  rw [buildSparseInstructions, foldlM_initializeOutput hformed hexact]
  show emitInstructions testId _ (outputTicks test) _ = _
  rw [emitInstructions_eq hgroup (pairwise_outputTicks test)]
  refine congrArg Except.ok (List.map_congr_left fun tick _ ↦ ?_)
  rw [flatMap_filter_key_le hsorted (pairwise_outputTicks test) fun instruction hinstruction ↦
    (mem_outputTicks hformed.nodup).2 (.inl ⟨instruction, hinstruction, rfl⟩)]
  rfl

/-- A test whose quantities are exact is lowered to its upload for every attempt of it. -/
theorem buildUpload_plan {attempt : UploadAttempt}
    (hattempt : attempt.definitionTestId = test.plan.testId) (draws : List (Fin (2 ^ 128))) :
    buildUpload test.plan (some attempt) draws = .ok (loweredUpload test attempt) := by
  show (if attempt.definitionTestId ≠ test.plan.testId then _ else _) = _
  rw [if_neg (not_not.2 hattempt), buildConfiguration_plan hformed hexact]
  show (buildSparseInstructions _ _ _ >>= _) = _
  rw [buildSparseInstructions_plan hformed hexact]
  rfl

end Upload

end HilRig.Protocol
