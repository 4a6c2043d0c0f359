import HilRig.Api.Rearrangement
import HilRig.Protocol.DenseStates

/-!
# Scripts in another order

Tests that differ in the numbering of their records only compile to the same configurations and to
the same number of ticks, and their compilations are lowered to the same upload
(`buildUpload_of_alike`). So the order of the calls of a script matters at each tick of each channel
only (`upload_of_rearranged`).
-/

set_option autoImplicit false
set_option relaxedAutoImplicit false

namespace HilRig.Protocol

open HilRig.Models HilRig.Foundations HilRig.Api

/-! ### Sorting -/

/-- The order of configurations is total. -/
theorem configurationLE_total (first second : Channel × PeripheralConfiguration) :
    configurationLE first second = true ∨ configurationLE second first = true := by
  simp only [configurationLE, decide_eq_true_eq]
  rcases lt_trichotomy first.1.kind.value second.1.kind.value with hlt | heq | hgt
  · exact .inl (.inl hlt)
  · rcases Nat.le_total first.1.index second.1.index with hle | hle
    · exact .inl (.inr ⟨heq, hle⟩)
    · exact .inr (.inr ⟨heq.symm, hle⟩)
  · exact .inr (.inl hgt)

/-- The order of configurations is transitive. -/
theorem configurationLE_trans {first second third : Channel × PeripheralConfiguration}
    (hfirst : configurationLE first second = true)
    (hsecond : configurationLE second third = true) : configurationLE first third = true := by
  simp only [configurationLE, decide_eq_true_eq] at hfirst hsecond ⊢
  rcases hfirst with hfirst | ⟨hfirst, hle⟩
  · rcases hsecond with hsecond | ⟨hsecond, -⟩
    · exact .inl (hfirst.trans hsecond)
    · exact .inl (hsecond ▸ hfirst)
  · rcases hsecond with hsecond | ⟨hsecond, hle'⟩
    · exact .inl (hfirst ▸ hsecond)
    · exact .inr ⟨hfirst.trans hsecond, hle.trans hle'⟩

/-- Only configurations of one channel precede each other. -/
theorem channel_eq_of_configurationLE {first second : Channel × PeripheralConfiguration}
    (hfirst : configurationLE first second = true)
    (hsecond : configurationLE second first = true) : first.1 = second.1 := by
  simp only [configurationLE, decide_eq_true_eq] at hfirst hsecond
  have hkind : first.1.kind.value = second.1.kind.value := by
    rcases hfirst with hlt | ⟨heq, -⟩
    · rcases hsecond with hgt | ⟨heq, -⟩
      · exact absurd hgt hlt.not_gt
      · exact heq.symm
    · exact heq
  have hindex : first.1.index = second.1.index := by
    rcases hfirst with hlt | ⟨-, hle⟩
    · exact absurd hkind hlt.ne
    · rcases hsecond with hgt | ⟨-, hge⟩
      · exact absurd hkind.symm hgt.ne
      · exact le_antisymm hle hge
  obtain ⟨⟨kind, index, hlt⟩, peripheral⟩ := first
  obtain ⟨⟨otherKind, otherIndex, hother⟩, otherPeripheral⟩ := second
  cases ChannelKind.value_injective hkind
  cases hindex
  rfl

/-- The sorted configurations do not depend on the order in which the channels were configured. -/
theorem sortedConfigurations_of_perm {first second : Configuration}
    (hnodup : (first.channelConfigurations.map Prod.fst).Nodup)
    (hperm : first.channelConfigurations.Perm second.channelConfigurations) :
    sortedConfigurations first = sortedConfigurations second := by
  have htotal : Std.Total fun first second : Channel × PeripheralConfiguration ↦
      configurationLE first second = true := ⟨configurationLE_total⟩
  have htransitive : IsTrans (Channel × PeripheralConfiguration) fun first second ↦
      configurationLE first second = true := ⟨fun _ _ _ ↦ configurationLE_trans⟩
  have hsorted (configuration : Configuration) := List.pairwise_insertionSort
    (fun first second : Channel × PeripheralConfiguration ↦ configurationLE first second = true)
    configuration.channelConfigurations
  refine List.Perm.eq_of_pairwise (fun entry other hentry hother hle hge ↦ ?_) (hsorted first)
    (hsorted second) ?_
  · have hmem := (sortedConfigurations_perm first).mem_iff.1 hentry
    have hmem' := hperm.mem_iff.2 ((sortedConfigurations_perm second).mem_iff.1 hother)
    exact List.inj_on_of_nodup_map hnodup hmem hmem' (channel_eq_of_configurationLE hle hge)
  · exact (sortedConfigurations_perm first).trans
      (hperm.trans (sortedConfigurations_perm second).symm)

/-! ### Stimuli of a channel -/

section Stimuli

variable {test : Test} (hsequential : test.Sequential)

include hsequential

/-- Sorting keeps the order of the stimuli at one tick of one channel. -/
theorem filter_sortedInstructions (channel : Channel) (tick : ℕ) :
    ((sortedInstructions test.instructions).filter fun instruction ↦
        instruction.channel = channel ∧ instruction.timestamp = tick) =
      test.instructions.filter fun instruction ↦
        instruction.channel = channel ∧ instruction.timestamp = tick := by
  have hids := hsequential.pairwise_instructionId
  refine List.Perm.eq_of_pairwise (fun first second hfirst hsecond hle hge ↦ ?_)
    ((pairwise_instructionLE test.instructions).filter _) ?_
    ((List.perm_insertionSort _ test.instructions).filter _)
  · have hmem : first ∈ test.instructions :=
      (List.mem_insertionSort _).1 (List.mem_of_mem_filter hfirst)
    have hid : first.instructionId = second.instructionId := by
      simp only [instructionLE, decide_eq_true_eq] at hle hge
      omega
    exact List.inj_on_of_nodup_map (List.pairwise_map.2 (hids.imp ne_of_lt)) hmem
      (List.mem_of_mem_filter hsecond) hid
  · refine (hids.filter _).imp_of_mem fun {first second} hfirst hsecond hlt ↦ ?_
    have htick := (List.mem_filter.1 hfirst).2
    have htick' := (List.mem_filter.1 hsecond).2
    simp only [decide_eq_true_eq] at htick htick'
    simp only [instructionLE, decide_eq_true_eq]
    omega

/-- The stimuli on a channel up to a tick are those at each tick, tick by tick. -/
theorem stimuliOn_instructionsUpTo (channel : Channel) (tick : ℕ) :
    stimuliOn channel (instructionsUpTo test tick) =
      (List.range (tick + 1)).flatMap fun earlier ↦ stimuliAt test channel earlier := by
  have hsorted : ((instructionsUpTo test tick).filter fun instruction ↦
      instruction.channel = channel).Pairwise fun first second ↦
        first.timestamp ≤ second.timestamp :=
    ((pairwise_sortedInstructions test.instructions).filter _).filter _
  have hmem : ∀ instruction ∈ (instructionsUpTo test tick).filter fun instruction ↦
      instruction.channel = channel, instruction.timestamp ∈ List.range (tick + 1) := by
    intro instruction hinstruction
    have hle := (List.mem_filter.1 (List.mem_of_mem_filter hinstruction)).2
    rw [List.mem_range, Nat.lt_succ_iff]
    simpa using hle
  rw [stimuliOn, ← flatMap_filter_key hsorted List.pairwise_lt_range hmem, List.map_flatMap]
  refine List.flatMap_congr fun earlier hearlier ↦ ?_
  have hle : earlier ≤ tick := Nat.lt_succ_iff.1 (List.mem_range.1 hearlier)
  rw [stimuliAt, ← filter_sortedInstructions hsequential, instructionsUpTo, List.filter_filter,
    List.filter_filter]
  refine congrArg (List.map _) (List.filter_congr fun instruction _ ↦ ?_)
  by_cases htick : instruction.timestamp = earlier
  · simp [htick, hle]
  · simp [htick]

end Stimuli

/-! ### Alike tests -/

section Alike

variable {first second : Test} (halike : first.Alike second)

include halike

theorem expectedTickCount_of_alike :
    first.plan.expectedTickCount = second.plan.expectedTickCount := by
  have hticks : (first.instructions.map Instruction.timestamp).Perm
      (second.instructions.map Instruction.timestamp) := by
    have hperm := halike.payloads.map fun scheduled ↦ scheduled.2.1
    rwa [List.map_map, List.map_map] at hperm
  have hends : (first.assertions.map fun assertion ↦ assertion.expectation.ticks.2).Perm
      (second.assertions.map fun assertion ↦ assertion.expectation.ticks.2) := by
    have hperm := halike.targets.map fun target ↦ target.2.ticks.2
    rwa [List.map_map, List.map_map] at hperm
  have hlatest : first.latestTick = second.latestTick := latestOf_perm (hticks.append hends)
  show countExpectedTicks _ _ _ = countExpectedTicks _ _ _
  rw [countExpectedTicks_eq, countExpectedTicks_eq, hlatest, halike.frequencyMode]

theorem configurations_of_alike (hnodup : (first.configuration.channelConfigurations.map
    Prod.fst).Nodup) : first.plan.configurations = second.plan.configurations :=
  congrArg (List.map compiledConfiguration) (sortedConfigurations_of_perm hnodup halike.entries)

theorem forChannel_of_alike (hnodup : (first.configuration.channelConfigurations.map
    Prod.fst).Nodup) (channel : Channel) :
    first.configuration.forChannel channel = second.configuration.forChannel channel :=
  OrderedDict.lookup_perm hnodup halike.entries channel

theorem configuredPart_of_alike (hnodup : (first.configuration.channelConfigurations.map
    Prod.fst).Nodup) {α : Type} (channel : Channel) (part : PeripheralConfiguration → α)
    (unconfigured : α) :
    configuredPart first.configuration channel part unconfigured =
      configuredPart second.configuration channel part unconfigured := by
  rw [configuredPart, configuredPart, forChannel_of_alike halike hnodup]

theorem initialOutputs_of_alike (hnodup : (first.configuration.channelConfigurations.map
    Prod.fst).Nodup) :
    initialOutputs first.configuration = initialOutputs second.configuration := by
  refine OutputState.ext (funext fun index ↦ ?_) (funext fun index ↦ ?_) (funext fun index ↦ ?_)
  · exact configuredPart_of_alike halike hnodup _ _ _
  · exact configuredPart_of_alike halike hnodup _ _ _
  · exact configuredPart_of_alike halike hnodup _ _ _

theorem configurationMessage_of_alike (hnodup : (first.configuration.channelConfigurations.map
    Prod.fst).Nodup) (testId : TestId) :
    configurationMessage first testId = configurationMessage second testId := by
  have harrays : configuredArrays first.configuration = configuredArrays second.configuration := by
    refine ConfigurationArrays.ext (funext fun index ↦ ?_) (funext fun index ↦ ?_)
      (funext fun index ↦ ?_) (funext fun index ↦ ?_) (funext fun index ↦ ?_)
      (funext fun index ↦ ?_)
    all_goals exact configuredPart_of_alike halike hnodup _ _ _
  have hperiod : first.plan.tickPeriodNs = second.plan.tickPeriodNs :=
    congrArg (fun mode ↦ 1000000000 / FrequencyMode.hertz mode) halike.frequencyMode
  unfold configurationMessage
  dsimp only
  rw [harrays, hperiod, expectedTickCount_of_alike halike]

/-- A tick has a stimulus on a fixed output in both tests or in none. -/
theorem exists_fixedStimuli_of_alike (tick : ℕ) :
    (∃ instruction ∈ fixedStimuli first.instructions, instruction.timestamp = tick) ↔
      ∃ instruction ∈ fixedStimuli second.instructions, instruction.timestamp = tick := by
  have hpayload (instructions : List Instruction) :
      (∃ instruction ∈ fixedStimuli instructions, instruction.timestamp = tick) ↔
        ∃ scheduled ∈ instructions.map payload, scheduled.1.kind ∈ fixedKinds ∧
          scheduled.2.1 = tick := by
    constructor
    · rintro ⟨instruction, hinstruction, rfl⟩
      obtain ⟨hmem, hfixed⟩ := mem_fixedStimuli.1 hinstruction
      exact ⟨_, List.mem_map.2 ⟨instruction, hmem, rfl⟩, hfixed, rfl⟩
    · rintro ⟨scheduled, hscheduled, hfixed, rfl⟩
      obtain ⟨instruction, hmem, rfl⟩ := List.mem_map.1 hscheduled
      exact ⟨instruction, mem_fixedStimuli.2 ⟨hmem, hfixed⟩, rfl⟩
  rw [hpayload, hpayload]
  exact exists_congr fun scheduled ↦ and_congr_left' halike.payloads.mem_iff

section Reachable

variable (hfirst : first.Reachable) (hsecond : second.Reachable)

include hfirst hsecond

theorem outputTicks_of_alike : outputTicks first = outputTicks second := by
  have hnodup := (wellFormed_of_reachable hfirst).nodup
  have hnodup' := (wellFormed_of_reachable hsecond).nodup
  have hsorted := pairwise_outputTicks first
  have hsorted' := pairwise_outputTicks second
  refine List.Perm.eq_of_pairwise (fun _ _ _ _ hlt hgt ↦ absurd hgt hlt.not_gt) hsorted hsorted' ?_
  refine (List.perm_ext_iff_of_nodup (hsorted.imp ne_of_lt) (hsorted'.imp ne_of_lt)).2
    fun tick ↦ ?_
  rw [mem_outputTicks hnodup, mem_outputTicks hnodup', exists_fixedStimuli_of_alike halike]
  refine or_congr_right (and_congr_right' (exists_congr fun entry ↦ and_congr_left' ?_))
  exact halike.entries.mem_iff

theorem stimuliOn_of_alike (channel : Channel) (tick : ℕ) :
    stimuliOn channel (instructionsUpTo first tick) =
      stimuliOn channel (instructionsUpTo second tick) := by
  rw [stimuliOn_instructionsUpTo (sequential_of_reachable hfirst),
    stimuliOn_instructionsUpTo (sequential_of_reachable hsecond)]
  exact List.flatMap_congr fun earlier _ ↦ halike.order channel earlier

/-- The output states of both tests are the same at every tick. -/
theorem outputsAt_of_alike (tick : ℕ) : outputsAt first tick = outputsAt second tick := by
  have hinitial := initialOutputs_of_alike halike (wellFormed_of_reachable hfirst).nodup
  have hpart {Part : Type} {read : OutputState → Part} {channel : Channel}
      (hfixed : channel.kind ∈ fixedKinds) {update : Part → Stimulus → Part}
      (hread : ∀ state instruction, read (outputsAfter state instruction) =
        if instruction.channel = channel then update (read state) instruction.stimulus
        else read state) : read (outputsAt first tick) = read (outputsAt second tick) := by
    rw [outputsAt, outputsAt, read_foldl_outputsAfter _ hread, read_foldl_outputsAfter _ hread,
      stimuliOn_fixedStimuli first tick hfixed, stimuliOn_fixedStimuli second tick hfixed,
      stimuliOn_of_alike halike hfirst hsecond, hinitial]
  refine OutputState.ext (funext fun index ↦ ?_) (funext fun index ↦ ?_) (funext fun index ↦ ?_)
  · exact @hpart _ (fun state ↦ state.digitalOutputs index) (channelOf .digitalOutput index)
      (mem_fixedKinds.2 (.inl rfl)) levelAfter fun _ _ ↦ rfl
  · exact @hpart _ (fun state ↦ state.analogueOutputs index) (channelOf .analogueOutput index)
      (mem_fixedKinds.2 (.inr (.inl rfl))) microvoltsAfter fun _ _ ↦ rfl
  · exact @hpart _ (fun state ↦ state.pwmOutputs index) (channelOf .pwmOutput index)
      (mem_fixedKinds.2 (.inr (.inr rfl))) pwmAfter fun _ _ ↦ rfl

theorem loweredUpload_of_alike (attempt : UploadAttempt) :
    loweredUpload first attempt = loweredUpload second attempt := by
  have hstart : first.plan.startMode = second.plan.startMode :=
    congrArg StartMode.name halike.startMode
  have hinstructions : (outputTicks first).map (tickInstruction first attempt) =
      (outputTicks second).map (tickInstruction second attempt) := by
    rw [outputTicks_of_alike halike hfirst hsecond]
    refine List.map_congr_left fun tick _ ↦ ?_
    rw [tickInstruction, tickInstruction, outputsAt_of_alike halike hfirst hsecond]
  rw [loweredUpload, loweredUpload, hstart, hinstructions,
    configurationMessage_of_alike halike (wellFormed_of_reachable hfirst).nodup]

/-- The compilations of alike tests are lowered alike, for every attempt. -/
theorem buildUpload_of_alike (uploadAttempt : Option UploadAttempt)
    (draws : List (Fin (2 ^ 128))) :
    buildUpload first.plan uploadAttempt draws = buildUpload second.plan uploadAttempt draws := by
  have htestId : first.plan.testId = second.plan.testId := congrArg Fin.val halike.testId
  have hresolved : resolveUploadAttempt first.plan uploadAttempt draws =
      resolveUploadAttempt second.plan uploadAttempt draws := by
    cases uploadAttempt with
    | some attempt => rfl
    | none =>
      show UploadAttempt.create first.plan.testId draws =
        UploadAttempt.create second.plan.testId draws
      rw [htestId]
  rw [buildUpload, buildUpload, hresolved]
  cases resolveUploadAttempt second.plan uploadAttempt draws with
  | error error => rfl
  | ok attempt =>
    by_cases hattempt : attempt.definitionTestId = first.plan.testId
    · have hleft := buildUpload_plan (wellFormed_of_reachable hfirst) (exact_of_reachable hfirst)
        hattempt draws
      have hright := buildUpload_plan (wellFormed_of_reachable hsecond)
        (exact_of_reachable hsecond) (hattempt.trans htestId) draws
      rw [← loweredUpload_of_alike halike hfirst hsecond] at hright
      exact hleft.trans hright.symm
    · show (if attempt.definitionTestId ≠ first.plan.testId then _ else _) =
        if attempt.definitionTestId ≠ second.plan.testId then _ else _
      rw [if_pos hattempt, if_pos (htestId ▸ hattempt)]

end Reachable

end Alike

/-- Two rearrangements of a script whose calls all return, with the same order of the stimuli at
each tick of each channel, compile alike, and their compilations are lowered to the same upload. -/
theorem upload_of_rearranged (start : Test) (hreachable : start.Reachable)
    (first second : List Api.Call) (hperm : first.Perm second) (hfirst : start.Succeeds first)
    (hsecond : start.Succeeds second)
    (horder : ∀ channel tick,
      (first.filter fun call ↦ call.request.stimulatedAt
          (start.after first).configuration.frequencyMode = some (channel, tick)) =
        second.filter fun call ↦ call.request.stimulatedAt
          (start.after first).configuration.frequencyMode = some (channel, tick)) :
    ((∃ plan after, compile (start.after first) = .ok plan after) ↔
        ∃ plan after, compile (start.after second) = .ok plan after) ∧
      ∀ plan after other later, compile (start.after first) = .ok plan after →
        compile (start.after second) = .ok other later →
          plan.expectedTickCount = other.expectedTickCount ∧
            plan.configurations = other.configurations ∧
              ∀ (uploadAttempt : Option UploadAttempt) (draws : List (Fin (2 ^ 128))),
                buildUpload plan uploadAttempt draws = buildUpload other uploadAttempt draws := by
  have halike := alike_of_perm hreachable hperm hfirst hsecond horder
  have hleft := hreachable.after first
  have hright := hreachable.after second
  constructor
  · have hcount : (start.after first).latestTick +
        (start.after first).configuration.frequencyMode.hertz + 1 =
          (start.after second).latestTick +
            (start.after second).configuration.frequencyMode.hertz + 1 := by
      rw [← countExpectedTicks_eq, ← countExpectedTicks_eq]
      exact expectedTickCount_of_alike halike
    rw [(compile_of_reachable _ hleft).1, (compile_of_reachable _ hright).1, hcount]
  · intro plan after other later hcompiled hcompiled'
    rw [plan_of_compile hleft hcompiled, plan_of_compile hright hcompiled']
    exact ⟨expectedTickCount_of_alike halike,
      configurations_of_alike halike (wellFormed_of_reachable hleft).nodup,
      buildUpload_of_alike halike hleft hright⟩

/-- The calls of the fan script in another order. -/
def rearrangedScript : List Api.Call :=
  [0, 1, 3, 2, 8, 4, 7, 5, 9, 6].filterMap fun position ↦ fanScript[position]?

theorem perm_rearrangedScript : fanScript.Perm rearrangedScript := by
  have hpositions : (List.range 10).Perm [0, 1, 3, 2, 8, 4, 7, 5, 9, 6] := by decide
  exact hpositions.filterMap fun position ↦ fanScript[position]?

theorem upload_of_rearranged_fanTest :
    ((∃ plan after, compile fanTest = .ok plan after) ↔
        ∃ plan after, compile (blankTest.after rearrangedScript) = .ok plan after) ∧
      ∀ plan after other later, compile fanTest = .ok plan after →
        compile (blankTest.after rearrangedScript) = .ok other later →
          plan.expectedTickCount = other.expectedTickCount ∧
            plan.configurations = other.configurations ∧
              ∀ (uploadAttempt : Option UploadAttempt) (draws : List (Fin (2 ^ 128))),
                buildUpload plan uploadAttempt draws = buildUpload other uploadAttempt draws :=
  upload_of_rearranged blankTest ⟨5, .value "fan", blankTest, [], create_blankTest, rfl⟩
    fanScript rearrangedScript perm_rearrangedScript (by decide +kernel) (by decide +kernel)
    (order_of_nodup (by decide +kernel) perm_rearrangedScript)

end HilRig.Protocol
