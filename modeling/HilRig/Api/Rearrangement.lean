import HilRig.Api.Compilation

/-!
# Rearranging a script

What a call that returns adds to a test is determined by the call alone, given the configuration the
script ends with (`Request.entry`, `Request.scheduled`, `Request.asserted`). So a script whose calls
all return leaves the entries, the stimuli and the assertions of its calls, in their order
(`Test.Follows`), and two rearrangements of it that keep the order of the stimuli at each tick of
each channel leave tests that differ in the numbering of their records only (`alike_of_perm`).
-/

set_option autoImplicit false
set_option relaxedAutoImplicit false

namespace HilRig.Api

open HilRig.Models HilRig.Foundations

/-! ### What a call adds -/

/-- The channel configuration that a request stores. -/
def Request.entry : Request → Option (Channel × PeripheralConfiguration)
  | .configureChannel channel validated =>
    validated.toOption.map fun peripheral ↦ (channel, peripheral)
  | _ => none

/-- The stimulus that a request schedules under a configuration, with its channel and its tick. -/
def Request.scheduled (configuration : Configuration) : Request → Option (Channel × ℕ × Stimulus)
  | .stimulate channel validated time => do
    let stimulus ← (validated configuration).toOption
    let tick ← (resolveTimestamp configuration.frequencyMode time).toOption
    return (channel, tick.value, stimulus)
  | _ => none

/-- The assertion that a request adds, with its channel. -/
def Request.asserted (frequencyMode : FrequencyMode) : Request → Option (Channel × Expectation)
  | .assertAt channel validated time => do
    let expectation ← validated.toOption
    let tick ← (resolveTimestamp frequencyMode time).toOption
    return (channel, expectation tick)
  | .assertOver channel validated range => do
    let expectation ← validated.toOption
    let options ← range.toOption
    let bounds ← (resolveTimeRange frequencyMode options).toOption
    return (channel, expectation bounds.val.1 bounds.val.2)
  | _ => none

/-- The test-level settings of a request. -/
def Request.settings : Request → Option (FrequencyMode × StartMode)
  | .configure (.value frequencyMode) (.value startMode) => some (frequencyMode, startMode)
  | _ => none

/-- The channel and the tick of the stimulus of a request. -/
def Request.stimulatedAt (frequencyMode : FrequencyMode) : Request → Option (Channel × ℕ)
  | .stimulate channel _ time =>
    (resolveTimestamp frequencyMode time).toOption.map fun tick ↦ (channel, tick.value)
  | _ => none

/-- The validation of a stimulus depends on the configuration of its own channel only. -/
def Request.Local : Request → Prop
  | .stimulate channel validated _ => ∀ first second : Configuration,
    first.forChannel channel = second.forChannel channel → validated first = validated second
  | _ => True

/-- Every public call is local. -/
theorem Call.local (call : Call) : call.request.Local := by
  cases call with
  | analogueOutputSetVoltage self voltage time =>
    intro first second hsame
    dsimp only
    rw [hsame]
  | i2cWrite self address data time =>
    intro first second hsame
    dsimp only [I2C.requireRole]
    rw [hsame]
  | i2cRead self address length time =>
    intro first second hsame
    dsimp only [I2C.requireRole]
    rw [hsame]
  | i2cPreloadResponse self data time =>
    intro first second hsame
    dsimp only [I2C.requireRole]
    rw [hsame]
  | spiTransfer self txData rxLength time =>
    intro first second hsame
    dsimp only [SPI.configurationForTransfer]
    rw [hsame]
  | digitalOutputHigh | digitalOutputLow | digitalOutputToggle => exact fun _ _ _ ↦ rfl
  | pwmOutputEnable | pwmOutputDisable | pwmOutputSet => exact fun _ _ _ ↦ rfl
  | pwmOutputSetFrequency | pwmOutputSetDutyCycle => exact fun _ _ _ ↦ rfl
  | uartWrite | uartWriteText => exact fun _ _ _ ↦ rfl
  | _ => trivial

/-! ### Scripts that return -/

/-- Every call of a script returns. -/
def Test.Succeeds (test : Test) : List Call → Prop
  | [] => True
  | call :: calls => (∃ after, execute call test = .ok () after) ∧ (test.called call).Succeeds calls

/-- Whether a call returns can be computed. -/
theorem exists_returned_iff {call : Call} {test : Test} :
    (∃ after, execute call test = .ok () after) ↔
      (match execute call test with
        | .ok _ _ => true
        | .error _ _ => false) = true := by
  cases execute call test with
  | ok value after => exact ⟨fun _ ↦ rfl, fun _ ↦ ⟨after, rfl⟩⟩
  | error error after => exact ⟨nofun, nofun⟩

instance Test.decidableSucceeds : ∀ (test : Test) (calls : List Call),
    Decidable (test.Succeeds calls)
  | _, [] => isTrue trivial
  | test, call :: calls =>
    @instDecidableAnd _ _ (decidable_of_iff _ exists_returned_iff.symm)
      (decidableSucceeds (test.called call) calls)

/-- The channel, the tick and the stimulus of an instruction. -/
def payload (instruction : Instruction) : Channel × ℕ × Stimulus :=
  (instruction.channel, instruction.timestamp, instruction.stimulus)

/-- The channel and the expectation of an assertion. -/
def target (assertion : Assertion) : Channel × Expectation :=
  (assertion.channel, assertion.expectation)

/-- Nothing is scheduled or asserted. -/
def Test.IsBlank (test : Test) : Prop :=
  test.instructions = [] ∧ test.assertions = []

/-- A test holds what it started with and what the calls of a script add, in their order. -/
structure Test.Follows (start : Test) (calls : List Call) (final : Test) : Prop where
  testId : final.testId = start.testId
  name : final.name = start.name
  entries : final.configuration.channelConfigurations =
    start.configuration.channelConfigurations ++ calls.filterMap fun call ↦ call.request.entry
  payloads : final.instructions.map payload = start.instructions.map payload ++
    calls.filterMap fun call ↦ call.request.scheduled final.configuration
  targets : final.assertions.map target = start.assertions.map target ++
    calls.filterMap fun call ↦ call.request.asserted final.configuration.frequencyMode
  settings : (final.configuration.frequencyMode, final.configuration.startMode) =
    ((calls.filterMap fun call ↦ call.request.settings).getLast?).getD
      (start.configuration.frequencyMode, start.configuration.startMode)
  once : (calls.filterMap fun call ↦ call.request.settings).length ≤
    if start.testConfigurationSet then 0 else 1
  settled : ¬start.IsBlank → (calls.filterMap fun call ↦ call.request.settings) = []
  stimulated : ∀ call ∈ calls, call.request.stimulatedAt final.configuration.frequencyMode =
    (call.request.scheduled final.configuration).map fun scheduled ↦ (scheduled.1, scheduled.2.1)

/-! ### One call -/

section Yields

variable {test : Test} {request : Request} {effect : Effect}

/-- The configurations after a request that returns. -/
theorem entries_of_yields (hyields : request.Yields test effect) :
    (effect.apply test).configuration.channelConfigurations =
      test.configuration.channelConfigurations ++ request.entry.toList := by
  cases hyields with
  | channelConfigured hmutable hvalidated hkind hfresh => rw [hvalidated]; rfl
  | _ => exact (List.append_nil _).symm

/-- The identity of the test after a request that returns. -/
theorem identity_of_yields (hyields : request.Yields test effect) :
    (effect.apply test).testId = test.testId ∧ (effect.apply test).name = test.name := by
  cases hyields <;> exact ⟨rfl, rfl⟩

/-- The settings after a request that returns. -/
theorem settings_of_yields (hyields : request.Yields test effect) :
    ((effect.apply test).configuration.frequencyMode,
        (effect.apply test).configuration.startMode) =
      request.settings.getD (test.configuration.frequencyMode, test.configuration.startMode) := by
  cases hyields <;> rfl

/-- A request that stores settings returns once only, and on a blank test. -/
theorem once_of_yields (hyields : request.Yields test effect) :
    (request.settings = none ∧
        (effect.apply test).testConfigurationSet = test.testConfigurationSet) ∨
      test.IsBlank ∧ test.testConfigurationSet = false ∧
        (effect.apply test).testConfigurationSet = true := by
  cases hyields with
  | configured hmutable hunset hinstructions hassertions =>
    exact .inr ⟨⟨hinstructions, hassertions⟩, hunset, rfl⟩
  | _ => exact .inl ⟨rfl, rfl⟩

/-- A test that is not blank stays so. -/
theorem not_isBlank_of_yields (hyields : request.Yields test effect) (hblank : ¬test.IsBlank) :
    ¬(effect.apply test).IsBlank := by
  cases hyields with
  | scheduled => exact fun h ↦ List.append_ne_nil_of_right_ne_nil _ (List.cons_ne_nil _ _) h.1
  | assertedAt => exact fun h ↦ List.append_ne_nil_of_right_ne_nil _ (List.cons_ne_nil _ _) h.2
  | assertedOver => exact fun h ↦ List.append_ne_nil_of_right_ne_nil _ (List.cons_ne_nil _ _) h.2
  | _ => exact hblank

/-- A configuration that a later one extends, with the same execution frequency when something was
scheduled or asserted. -/
structure Extends (effect : Effect) (test : Test) (final : Configuration) : Prop where
  forChannel : ∀ channel peripheral, test.configuration.forChannel channel = some peripheral →
    final.forChannel channel = some peripheral
  frequencyMode : ¬(effect.apply test).IsBlank →
    final.frequencyMode = (effect.apply test).configuration.frequencyMode

variable {final : Configuration}

/-- A stimulus that is scheduled is what its request schedules under the later configuration. -/
theorem scheduled_eq_some {channel : Channel}
    {validated : Configuration → Except HilRigError Stimulus} {time : TimeOptions}
    {stimulus : Stimulus} {tick : Builtin ℕ}
    (hextends : Extends (.scheduled channel tick.value stimulus) test final)
    (hlocal : (Request.stimulate channel validated time).Local)
    (hvalidated : validated test.configuration = .ok stimulus)
    (htick : resolveTimestamp test.configuration.frequencyMode time = .ok tick)
    (hconfigured : isConfigured test.configuration channel = true) :
    (Request.stimulate channel validated time).scheduled final =
        some (channel, tick.value, stimulus) ∧
      (Request.stimulate channel validated time).stimulatedAt final.frequencyMode =
        some (channel, tick.value) := by
  have hmode : final.frequencyMode = test.configuration.frequencyMode :=
    hextends.frequencyMode fun h ↦
      List.append_ne_nil_of_right_ne_nil _ (List.cons_ne_nil _ _) h.1
  obtain ⟨peripheral, hfound, -⟩ := isConfigured_iff.1 hconfigured
  have hsame := hlocal test.configuration final
    (hfound.trans (hextends.forChannel channel peripheral hfound).symm)
  rw [Request.scheduled, Request.stimulatedAt, ← hsame, hvalidated, hmode, htick]
  exact ⟨rfl, rfl⟩

/-- The stimuli after a request that returns. -/
theorem payloads_of_yields (hyields : request.Yields test effect) (hlocal : request.Local)
    (hextends : Extends effect test final) :
    (effect.apply test).instructions.map payload =
        test.instructions.map payload ++ (request.scheduled final).toList := by
  cases hyields with
  | scheduled hmutable hvalidated htick hconfigured =>
    rw [(scheduled_eq_some hextends hlocal hvalidated htick hconfigured).1, Effect.apply,
      List.map_append]
    rfl
  | _ => exact (List.append_nil _).symm

/-- A request that returns schedules its stimulus at its own tick. -/
theorem stimulatedAt_of_yields (hyields : request.Yields test effect) (hlocal : request.Local)
    (hextends : Extends effect test final) :
    request.stimulatedAt final.frequencyMode =
      (request.scheduled final).map fun scheduled ↦ (scheduled.1, scheduled.2.1) := by
  cases hyields with
  | scheduled hmutable hvalidated htick hconfigured =>
    obtain ⟨hscheduled, hstimulated⟩ :=
      scheduled_eq_some hextends hlocal hvalidated htick hconfigured
    rw [hscheduled, hstimulated]
    rfl
  | _ => rfl

/-- The assertions after a request that returns. -/
theorem targets_of_yields (hyields : request.Yields test effect)
    (hextends : Extends effect test final) :
    (effect.apply test).assertions.map target =
        test.assertions.map target ++ (request.asserted final.frequencyMode).toList := by
  cases hyields with
  | @assertedAt channel validated time expectation tick hmutable hvalidated htick hconfigured =>
    have hmode : final.frequencyMode = test.configuration.frequencyMode :=
      hextends.frequencyMode fun h ↦
        List.append_ne_nil_of_right_ne_nil _ (List.cons_ne_nil _ _) h.2
    have hasserted : (Request.assertAt channel validated time).asserted final.frequencyMode =
        some (channel, expectation tick) := by
      rw [Request.asserted, hvalidated, hmode, htick]
      rfl
    rw [hasserted, Effect.apply, List.map_append]
    rfl
  | @assertedOver channel validated range expectation options bounds hmutable hvalidated hrange
      hbounds hconfigured =>
    have hmode : final.frequencyMode = test.configuration.frequencyMode :=
      hextends.frequencyMode fun h ↦
        List.append_ne_nil_of_right_ne_nil _ (List.cons_ne_nil _ _) h.2
    have hasserted : (Request.assertOver channel validated range).asserted final.frequencyMode =
        some (channel, expectation bounds.val.1 bounds.val.2) := by
      rw [Request.asserted, hvalidated, hrange, hmode]
      show ((resolveTimeRange _ options).toOption >>= _) = _
      rw [hbounds]
      rfl
    rw [hasserted, Effect.apply, List.map_append]
    rfl
  | _ => exact (List.append_nil _).symm

end Yields

/-! ### Whole scripts -/

/-- The first of a list of optional contributions. -/
theorem filterMap_cons_toList {α β : Type} (contribution : α → Option β) (first : α)
    (rest : List α) : (first :: rest).filterMap contribution =
      (contribution first).toList ++ rest.filterMap contribution := by
  cases hfirst : contribution first with
  | none => rw [List.filterMap_cons_none hfirst]; rfl
  | some value => rw [List.filterMap_cons_some hfirst]; rfl

/-- A call that returns, before a script whose calls return. -/
theorem Test.Follows.cons {start final : Test} {call : Call} {calls : List Call} {effect : Effect}
    (hyields : call.request.Yields start effect)
    (hlater : (effect.apply start).Follows calls final) : start.Follows (call :: calls) final := by
  have hentries := entries_of_yields hyields
  have hidentity := identity_of_yields hyields
  have hsettings := settings_of_yields hyields
  have honce := once_of_yields hyields
  have hextends : Extends effect start final.configuration := by
    refine ⟨fun channel peripheral hfound ↦ ?_, fun hblank ↦ ?_⟩
    · rw [Configuration.forChannel, hlater.entries, hentries, List.append_assoc,
        List.lookup_append]
      rw [Configuration.forChannel] at hfound
      rw [hfound]
      rfl
    · have hfinal := hlater.settings
      rw [hlater.settled hblank] at hfinal
      exact congrArg Prod.fst hfinal
  refine ⟨hlater.testId.trans hidentity.1, hlater.name.trans hidentity.2, ?_, ?_, ?_, ?_, ?_, ?_,
    ?_⟩
  · rw [filterMap_cons_toList, ← List.append_assoc, ← hentries, hlater.entries]
  · rw [filterMap_cons_toList, ← List.append_assoc,
      ← payloads_of_yields hyields call.local hextends, hlater.payloads]
  · rw [filterMap_cons_toList, ← List.append_assoc, ← targets_of_yields hyields hextends,
      hlater.targets]
  · rw [filterMap_cons_toList, List.getLast?_append, hlater.settings, hsettings]
    cases (calls.filterMap fun call ↦ call.request.settings).getLast? with
    | some later => rfl
    | none => cases call.request.settings <;> rfl
  · rw [filterMap_cons_toList, List.length_append]
    have hlength := hlater.once
    rcases honce with ⟨hnone, hset⟩ | ⟨-, hunset, hset⟩
    · rw [hset] at hlength
      rwa [hnone, Option.toList_none, List.length_nil, Nat.zero_add]
    · rw [hset, if_pos rfl] at hlength
      rw [hunset, if_neg Bool.false_ne_true]
      exact Nat.add_le_add (Option.length_toList_le) hlength
  · intro hblank
    rcases honce with ⟨hnone, -⟩ | ⟨hempty, -⟩
    · rw [filterMap_cons_toList, hnone, hlater.settled (not_isBlank_of_yields hyields hblank)]
      rfl
    · exact absurd hempty hblank
  · intro other hother
    rcases List.mem_cons.1 hother with rfl | hother
    · exact stimulatedAt_of_yields hyields other.local hextends
    · exact hlater.stimulated other hother

/-- A script whose calls all return leaves what its calls add. -/
theorem follows_of_succeeds {start : Test} {calls : List Call} (hsucceeds : start.Succeeds calls) :
    start.Follows calls (start.after calls) := by
  induction calls generalizing start with
  | nil =>
    exact ⟨rfl, rfl, (List.append_nil _).symm, (List.append_nil _).symm, (List.append_nil _).symm,
      rfl, Nat.zero_le _, fun _ ↦ rfl, fun _ hcall ↦ absurd hcall List.not_mem_nil⟩
  | cons call calls ih =>
    obtain ⟨⟨after, hreturned⟩, hlater⟩ := hsucceeds
    obtain ⟨effect, hyields, hafter⟩ := yields_of_returned hreturned
    have hcalled : start.called call = effect.apply start := by
      rw [Test.called, hreturned, hafter]
    rw [hcalled] at hlater
    have hfollows := (ih hlater).cons hyields
    rwa [← hcalled] at hfollows

/-! ### Rearranged scripts -/

/-- The stimuli at one tick of one channel, in the order of their identifiers. -/
def stimuliAt (test : Test) (channel : Channel) (tick : ℕ) : List Stimulus :=
  (test.instructions.filter fun instruction ↦
    instruction.channel = channel ∧ instruction.timestamp = tick).map Instruction.stimulus

/-- Two tests differ in the numbering of their records only. -/
structure Test.Alike (first second : Test) : Prop where
  testId : first.testId = second.testId
  name : first.name = second.name
  frequencyMode : first.configuration.frequencyMode = second.configuration.frequencyMode
  startMode : first.configuration.startMode = second.configuration.startMode
  entries : first.configuration.channelConfigurations.Perm
    second.configuration.channelConfigurations
  payloads : (first.instructions.map payload).Perm (second.instructions.map payload)
  targets : (first.assertions.map target).Perm (second.assertions.map target)
  order : ∀ channel tick, stimuliAt first channel tick = stimuliAt second channel tick

/-- Filtering contributions by a property that can be seen on their sources. -/
theorem filter_filterMap_of_iff {α β : Type} {contribution : α → Option β} {property : β → Bool}
    {visible : α → Bool} {sources : List α}
    (hvisible : ∀ source ∈ sources, ∀ value, contribution source = some value →
      property value = visible source) :
    (sources.filterMap contribution).filter property =
      (sources.filter visible).filterMap contribution := by
  induction sources with
  | nil => rfl
  | cons source sources ih =>
    have hlater := ih fun other hother ↦ hvisible other (List.mem_cons_of_mem _ hother)
    rw [filterMap_cons_toList, List.filter_append, hlater, List.filter_cons]
    cases hsource : contribution source with
    | none =>
      split
      · rw [filterMap_cons_toList, hsource]
        rfl
      · rfl
    | some value =>
      have hvalue := hvisible source List.mem_cons_self value hsource
      cases hproperty : property value with
      | true =>
        rw [if_pos (by rw [← hvalue, hproperty]), filterMap_cons_toList, hsource]
        simp [hproperty]
      | false =>
        rw [if_neg (by rw [← hvalue, hproperty]; exact Bool.false_ne_true)]
        simp [hproperty]

/-- The stimuli at one tick of one channel after a script, in the order of its calls. -/
theorem Test.Follows.stimuliAt_eq {start final : Test} {calls : List Call}
    (hfollows : start.Follows calls final) (channel : Channel) (tick : ℕ) :
    stimuliAt final channel tick = stimuliAt start channel tick ++
      ((calls.filter fun call ↦ call.request.stimulatedAt final.configuration.frequencyMode =
        some (channel, tick)).filterMap fun call ↦
          call.request.scheduled final.configuration).map fun scheduled ↦ scheduled.2.2 := by
  have hpayloads (test : Test) : stimuliAt test channel tick =
      ((test.instructions.map payload).filter fun scheduled ↦
        scheduled.1 = channel ∧ scheduled.2.1 = tick).map fun scheduled ↦ scheduled.2.2 := by
    rw [List.filter_map, List.map_map]
    rfl
  rw [hpayloads final, hpayloads start, hfollows.payloads, List.filter_append, List.map_append]
  refine congrArg (_ ++ List.map _ ·) (filter_filterMap_of_iff fun call hcall scheduled hvalue ↦ ?_)
  rw [hfollows.stimulated call hcall, hvalue]
  simp [Prod.ext_iff]

/-- What a request schedules depends on the execution frequency and on the configurations of the
channels, not on their order. -/
theorem scheduled_congr {request : Request} (hlocal : request.Local) {first second : Configuration}
    (hmode : first.frequencyMode = second.frequencyMode)
    (hchannels : ∀ channel, first.forChannel channel = second.forChannel channel) :
    request.scheduled first = request.scheduled second := by
  cases request with
  | stimulate channel validated time =>
    rw [Request.scheduled, Request.scheduled, hlocal first second (hchannels channel), hmode]
  | _ => rfl

/-- Permuted lists with at most one member are equal. -/
theorem eq_of_perm_of_length_le_one {α : Type} {first second : List α}
    (hperm : first.Perm second) (hlength : first.length ≤ 1) : first = second := by
  match first, hlength with
  | [], _ => exact (List.nil_perm.1 hperm).symm
  | [_], _ => exact (List.perm_singleton.1 hperm.symm).symm

/-- Every rearrangement of a script without two stimuli at one tick of one channel keeps the order
of the stimuli at each tick of each channel. -/
theorem order_of_nodup {frequencyMode : FrequencyMode} {first second : List Call}
    (hnodup : (first.filterMap fun call ↦ call.request.stimulatedAt frequencyMode).Nodup)
    (hperm : first.Perm second) (channel : Channel) (tick : ℕ) :
    (first.filter fun call ↦ call.request.stimulatedAt frequencyMode = some (channel, tick)) =
      second.filter fun call ↦ call.request.stimulatedAt frequencyMode = some (channel, tick) := by
  refine eq_of_perm_of_length_le_one (hperm.filter _) ?_
  have hcount := List.nodup_iff_count_le_one.1 hnodup (channel, tick)
  rw [List.count, List.countP_filterMap, List.countP_eq_length_filter] at hcount
  refine le_trans (le_of_eq (congrArg List.length (List.filter_congr fun call _ ↦ ?_))) hcount
  cases call.request.stimulatedAt frequencyMode with
  | none => simp
  | some value => exact (beq_eq_decide _ _).symm.trans (by simp)

/-- Two rearrangements of a script whose calls all return, with the same order of the stimuli at
each tick of each channel, leave alike tests. -/
theorem alike_of_perm {start : Test} (hreachable : start.Reachable) {first second : List Call}
    (hperm : first.Perm second) (hfirst : start.Succeeds first) (hsecond : start.Succeeds second)
    (horder : ∀ channel tick,
      (first.filter fun call ↦ call.request.stimulatedAt
          (start.after first).configuration.frequencyMode = some (channel, tick)) =
        second.filter fun call ↦ call.request.stimulatedAt
          (start.after first).configuration.frequencyMode = some (channel, tick)) :
    (start.after first).Alike (start.after second) := by
  have hleft := follows_of_succeeds hfirst
  have hright := follows_of_succeeds hsecond
  have hmodes : ((start.after first).configuration.frequencyMode,
      (start.after first).configuration.startMode) =
        ((start.after second).configuration.frequencyMode,
          (start.after second).configuration.startMode) := by
    have hlength : (first.filterMap fun call ↦ call.request.settings).length ≤ 1 := by
      refine hleft.once.trans ?_
      split
      · exact Nat.zero_le 1
      · exact le_rfl
    rw [hleft.settings, hright.settings, eq_of_perm_of_length_le_one (hperm.filterMap _) hlength]
  obtain ⟨hfrequency, hstart⟩ := Prod.mk.inj hmodes
  have hentries : (start.after first).configuration.channelConfigurations.Perm
      (start.after second).configuration.channelConfigurations := by
    rw [hleft.entries, hright.entries]
    exact (hperm.filterMap _).append_left _
  have hnodup := (wellFormed_of_reachable (hreachable.after first)).nodup
  have hscheduled : (fun call : Call ↦ call.request.scheduled (start.after first).configuration) =
      fun call ↦ call.request.scheduled (start.after second).configuration :=
    funext fun call ↦ scheduled_congr call.local hfrequency fun channel ↦
      OrderedDict.lookup_perm hnodup hentries channel
  refine ⟨hleft.testId.trans hright.testId.symm, hleft.name.trans hright.name.symm, hfrequency,
    hstart, hentries, ?_, ?_, fun channel tick ↦ ?_⟩
  · rw [hleft.payloads, hright.payloads, hscheduled]
    exact (hperm.filterMap _).append_left _
  · rw [hleft.targets, hright.targets, hfrequency]
    exact (hperm.filterMap _).append_left _
  · rw [hleft.stimuliAt_eq, hright.stimuliAt_eq, horder, hfrequency, hscheduled]

end HilRig.Api
