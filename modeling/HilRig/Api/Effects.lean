import HilRig.Api.Calls
import HilRig.Foundations.AtomicUpdate
import HilRig.Foundations.Fallible

/-!
# What a call does to the test

A request that returns has one of seven effects (`Effect`), under the conditions that `Yields`
lists, and a request that raises has none (`perform_atomically`). Everything later about reachable
tests is an induction over these effects.
-/

set_option autoImplicit false
set_option relaxedAutoImplicit false

namespace HilRig.Api

open HilRig.Models HilRig.Foundations

/-- A change of the test. -/
inductive Effect
  | unchanged
  | made (channel : Channel)
  | configured (frequencyMode : FrequencyMode) (startMode : StartMode)
  | channelConfigured (channel : Channel) (peripheral : PeripheralConfiguration)
  | scheduled (channel : Channel) (tick : ℕ) (stimulus : Stimulus)
  | asserted (channel : Channel) (expectation : Expectation)
  | frozen (plan : CompiledTestIR)

/-- The test after a change. -/
def Effect.apply (test : Test) : Effect → Test
  | .unchanged => test
  | .made channel => { test with handles := test.handles ++ [channel] }
  | .configured frequencyMode startMode =>
    { test with
      configuration := { test.configuration with
        frequencyMode := frequencyMode, startMode := startMode }
      testConfigurationSet := true }
  | .channelConfigured channel peripheral =>
    { test with configuration := { test.configuration with
      channelConfigurations :=
        test.configuration.channelConfigurations ++ [(channel, peripheral)] } }
  | .scheduled channel tick stimulus =>
    { test with
      instructions :=
        test.instructions ++ [⟨test.nextInstructionId, tick, channel, stimulus⟩]
      nextInstructionId := test.nextInstructionId + 1 }
  | .asserted channel expectation =>
    { test with
      assertions := test.assertions ++ [⟨test.nextAssertionId, channel, expectation⟩]
      nextAssertionId := test.nextAssertionId + 1 }
  | .frozen plan => { test with compiledPlan := some plan }

/-- The effect of a request that returns, with the checks it has passed. -/
inductive Request.Yields (test : Test) : Request → Effect → Prop
  | configured {frequencyMode : FrequencyMode} {startMode : StartMode}
      (hmutable : test.compiledPlan = none) (hunset : test.testConfigurationSet = false)
      (hinstructions : test.instructions = []) (hassertions : test.assertions = []) :
      Yields test (.configure (.value frequencyMode) (.value startMode))
        (.configured frequencyMode startMode)
  | found {kind : ChannelKind} {index : ℤ} {channel : Channel}
      (hindex : validateChannelIndex kind index = .ok channel)
      (hmem : channel ∈ test.handles) :
      Yields test (.handle kind (.value index)) .unchanged
  | made {kind : ChannelKind} {index : ℤ} {channel : Channel}
      (hmutable : test.compiledPlan = none)
      (hindex : validateChannelIndex kind index = .ok channel)
      (hmem : channel ∉ test.handles) :
      Yields test (.handle kind (.value index)) (.made channel)
  | expected {channel : Channel} (hmutable : test.compiledPlan = none)
      (hkind : channel.kind ∈ inputKinds) :
      Yields test (.expect (.handle channel)) .unchanged
  | compiled {plan : CompiledTestIR} (hmutable : test.compiledPlan = none)
      (hplan : compileTest test.testId test.name test.configuration test.instructions
        test.assertions = .ok plan) :
      Yields test .compile (.frozen plan)
  | recompiled {plan : CompiledTestIR} (hfrozen : test.compiledPlan = some plan) :
      Yields test .compile .unchanged
  | channelConfigured {channel : Channel} {validated : Except HilRigError PeripheralConfiguration}
      {peripheral : PeripheralConfiguration} (hmutable : test.compiledPlan = none)
      (hvalidated : validated = .ok peripheral) (hkind : peripheral.kind = channel.kind)
      (hfresh : test.configuration.forChannel channel = none) :
      Yields test (.configureChannel channel validated) (.channelConfigured channel peripheral)
  | scheduled {channel : Channel} {validated : Configuration → Except HilRigError Stimulus}
      {time : TimeOptions} {stimulus : Stimulus} {tick : Builtin ℕ}
      (hmutable : test.compiledPlan = none)
      (hvalidated : validated test.configuration = .ok stimulus)
      (htick : resolveTimestamp test.configuration.frequencyMode time = .ok tick)
      (hconfigured : isConfigured test.configuration channel = true) :
      Yields test (.stimulate channel validated time) (.scheduled channel tick.value stimulus)
  | assertedAt {channel : Channel} {validated : Except HilRigError (Builtin ℕ → Expectation)}
      {time : TimeOptions} {expectation : Builtin ℕ → Expectation} {tick : Builtin ℕ}
      (hmutable : test.compiledPlan = none) (hvalidated : validated = .ok expectation)
      (htick : resolveTimestamp test.configuration.frequencyMode time = .ok tick)
      (hconfigured : isConfigured test.configuration channel = true) :
      Yields test (.assertAt channel validated time) (.asserted channel (expectation tick))
  | assertedOver {channel : Channel}
      {validated : Except HilRigError (Builtin ℕ → Builtin ℕ → Expectation)}
      {range : Except HilRigError RangeOptions} {expectation : Builtin ℕ → Builtin ℕ → Expectation}
      {options : RangeOptions}
      {bounds : {bounds : Builtin ℕ × Builtin ℕ // bounds.1.value ≤ bounds.2.value}}
      (hmutable : test.compiledPlan = none) (hvalidated : validated = .ok expectation)
      (hrange : range = .ok options)
      (hbounds : resolveTimeRange test.configuration.frequencyMode options = .ok bounds)
      (hconfigured : isConfigured test.configuration channel = true) :
      Yields test (.assertOver channel validated range)
        (.asserted channel (expectation bounds.val.1 bounds.val.2))

/-! ### The internal operations -/

section Operations

variable {test : Test} {α : Type}

theorem attempt_atomically (result : Except HilRigError α) :
    Atomically test (attempt result) fun value after ↦ after = test ∧ result = .ok value := by
  cases result with
  | ok value => exact atomically_pure ⟨rfl, rfl⟩
  | error error => exact atomically_throw error

theorem ensureMutable_atomically :
    Atomically test ensureMutable fun _ after ↦ after = test ∧ test.compiledPlan = none := by
  refine Atomically.get_bind ?_
  split
  · exact atomically_throw _
  · rename_i hmutable
    exact atomically_pure ⟨rfl, by simpa using hmutable⟩

theorem timestamp_atomically (time : TimeOptions) :
    Atomically test (timestamp time) fun tick after ↦ after = test ∧
      test.compiledPlan = none ∧
        resolveTimestamp test.configuration.frequencyMode time = .ok tick := by
  refine Atomically.bind ensureMutable_atomically fun _ hmutable ↦ ?_
  refine Atomically.get_bind ?_
  exact (attempt_atomically _).mono fun tick after h ↦ ⟨h.1, hmutable, h.2⟩

theorem timeRange_atomically (range : RangeOptions) :
    Atomically test (timeRange range) fun bounds after ↦ after = test ∧
      test.compiledPlan = none ∧
        resolveTimeRange test.configuration.frequencyMode range = .ok bounds := by
  refine Atomically.bind ensureMutable_atomically fun _ hmutable ↦ ?_
  refine Atomically.get_bind ?_
  exact (attempt_atomically _).mono fun bounds after h ↦ ⟨h.1, hmutable, h.2⟩

theorem requireConfiguredChannel_atomically (channel : Channel) (usage : String) :
    Atomically test (requireConfiguredChannel channel usage) fun _ after ↦
      after = test ∧ isConfigured test.configuration channel = true := by
  refine Atomically.get_bind ?_
  split
  · exact atomically_throw _
  · rename_i hconfigured
    exact atomically_pure ⟨rfl, by simpa using hconfigured⟩

theorem schedule_atomically (tick : ℕ) (channel : Channel) (stimulus : Stimulus) :
    Atomically test (schedule fun instructionId ↦ ⟨instructionId, tick, channel, stimulus⟩)
      fun _ after ↦ isConfigured test.configuration channel = true ∧
        after = (Effect.scheduled channel tick stimulus).apply test := by
  refine Atomically.bind ensureMutable_atomically fun _ _ ↦ ?_
  refine Atomically.get_bind ?_
  refine Atomically.bind (requireConfiguredChannel_atomically channel _) fun _ hconfigured ↦ ?_
  exact ⟨hconfigured, rfl⟩

theorem addAssertion_atomically (channel : Channel) (expectation : Expectation) :
    Atomically test (addAssertion fun assertionId ↦ ⟨assertionId, channel, expectation⟩)
      fun _ after ↦ isConfigured test.configuration channel = true ∧
        after = (Effect.asserted channel expectation).apply test := by
  refine Atomically.bind ensureMutable_atomically fun _ _ ↦ ?_
  refine Atomically.get_bind ?_
  refine Atomically.bind (requireConfiguredChannel_atomically channel _) fun _ hconfigured ↦ ?_
  exact ⟨hconfigured, rfl⟩

/-- A stored channel configuration is of the channel's kind and is the channel's first. -/
theorem storeChannelConfiguration_eq_ok {configuration stored : Configuration}
    {channel : Channel} {peripheral : PeripheralConfiguration}
    (hstored : storeChannelConfiguration configuration channel peripheral = .ok stored) :
    peripheral.kind = channel.kind ∧ configuration.forChannel channel = none ∧
      stored = { configuration with
        channelConfigurations :=
          configuration.channelConfigurations ++ [(channel, peripheral)] } := by
  obtain ⟨_, -, hstored⟩ := bind_eq_ok.1 hstored
  obtain ⟨hkind, hstored⟩ := ite_error_eq_ok.1 hstored
  obtain ⟨hfresh, hstored⟩ := ite_error_eq_ok.1 hstored
  exact ⟨not_not.1 hkind, by simpa using hfresh, (pure_eq_ok.1 hstored).symm⟩

theorem configureChannel_atomically (channel : Channel) (peripheral : PeripheralConfiguration) :
    Atomically test (configureChannel channel peripheral) fun _ after ↦
      test.compiledPlan = none ∧ peripheral.kind = channel.kind ∧
        test.configuration.forChannel channel = none ∧
          after = (Effect.channelConfigured channel peripheral).apply test := by
  refine Atomically.bind ensureMutable_atomically fun _ hmutable ↦ ?_
  refine Atomically.get_bind ?_
  refine Atomically.bind (attempt_atomically _) fun stored hstored ↦ ?_
  obtain ⟨hkind, hfresh, rfl⟩ := storeChannelConfiguration_eq_ok hstored
  exact ⟨hmutable, hkind, hfresh, rfl⟩

end Operations

/-! ### Requests -/

section Requests

variable (test : Test)

/-- A request has returned with one of its effects. -/
def Request.Returned (request : Request) (after : Test) : Prop :=
  ∃ effect, request.Yields test effect ∧ after = effect.apply test

/-- Only a member passes as a member of an enumeration. -/
theorem requireEnum_eq_ok {Member : Type} {value : Passed Member} {name enumeration : String}
    {member : Member} (hmember : requireEnum value name enumeration = .ok member) :
    value = .value member := by
  cases value with
  | value given => rw [requireEnum, Except.ok.injEq] at hmember; rw [hmember]
  | mistyped => cases hmember

theorem configure_atomically (frequencyMode : Passed FrequencyMode)
    (startMode : Passed StartMode) :
    Atomically test (configure frequencyMode startMode) fun _ after ↦
      (Request.configure frequencyMode startMode).Returned test after := by
  refine Atomically.bind ensureMutable_atomically fun _ hmutable ↦ ?_
  refine Atomically.get_bind ?_
  split
  · exact atomically_throw _
  rename_i hunset
  refine Atomically.get_bind (Atomically.get_bind ?_)
  split
  · exact atomically_throw _
  rename_i hempty
  simp only [Bool.or_eq_true, Bool.not_eq_true', List.isEmpty_eq_false_iff, not_or,
    not_not] at hempty
  refine Atomically.bind (attempt_atomically _) fun mode hmode ↦ ?_
  refine Atomically.bind (attempt_atomically _) fun start hstart ↦ ?_
  rw [requireEnum_eq_ok hmode, requireEnum_eq_ok hstart]
  exact ⟨_, .configured hmutable (by simpa using hunset) hempty.1 hempty.2, rfl⟩

theorem handle_atomically (kind : ChannelKind) (passed : Passed ℤ) :
    Atomically test (handle kind passed) fun _ after ↦
      (Request.handle kind passed).Returned test after := by
  cases passed with
  | mistyped => exact Atomically.bind (attempt_atomically _) fun _ h ↦ by cases h
  | value index =>
    refine Atomically.bind (attempt_atomically _) fun channel hindex ↦ ?_
    refine Atomically.get_bind ?_
    split
    · rename_i hmem
      refine Atomically.bind ensureMutable_atomically fun _ hmutable ↦ ?_
      exact ⟨_, .made hmutable hindex hmem, rfl⟩
    · rename_i hmem
      exact ⟨_, .found hindex (not_not.1 hmem), rfl⟩

theorem expect_atomically (target : ExpectTarget) :
    Atomically test (expect target) fun _ after ↦
      (Request.expect target).Returned test after := by
  refine Atomically.bind ensureMutable_atomically fun _ hmutable ↦ ?_
  cases target with
  | other => exact atomically_throw _
  | foreignHandle kind =>
    dsimp only
    split
    · exact atomically_throw _
    · exact atomically_throw _
  | handle channel =>
    dsimp only
    split
    · exact atomically_throw _
    · rename_i hkind
      exact ⟨_, .expected hmutable (not_not.1 hkind), rfl⟩

theorem compile_atomically :
    Atomically test compile fun plan after ↦
      Request.compile.Returned test after ∧ after.compiledPlan = some plan := by
  refine Atomically.get_bind ?_
  split
  · rename_i plan hfrozen
    exact ⟨⟨_, .recompiled hfrozen, rfl⟩, hfrozen⟩
  · rename_i hmutable
    refine Atomically.get_bind ?_
    refine Atomically.bind (attempt_atomically _) fun plan hplan ↦ ?_
    exact ⟨⟨_, .compiled hmutable hplan, rfl⟩, rfl⟩

/-- A request returns with one of its effects, or raises and leaves the test as it was. -/
theorem perform_atomically (request : Request) :
    Atomically test (perform request) fun _ after ↦ request.Returned test after := by
  cases request with
  | configure frequencyMode startMode => exact configure_atomically test frequencyMode startMode
  | handle kind channel => exact (handle_atomically test kind channel).discard
  | expect target => exact (expect_atomically test target).discard
  | compile => exact ((compile_atomically test).mono fun _ _ h ↦ h.1).discard
  | configureChannel channel validated =>
    refine Atomically.bind (attempt_atomically _) fun peripheral hvalidated ↦ ?_
    refine (configureChannel_atomically channel peripheral).mono ?_
    rintro _ after ⟨hmutable, hkind, hfresh, hafter⟩
    exact ⟨_, .channelConfigured hmutable hvalidated hkind hfresh, hafter⟩
  | stimulate channel validated time =>
    refine Atomically.get_bind ?_
    refine Atomically.bind (attempt_atomically _) fun stimulus hvalidated ↦ ?_
    refine Atomically.bind (timestamp_atomically time) fun tick htick ↦ ?_
    refine (schedule_atomically tick.value channel stimulus).mono ?_
    rintro _ after ⟨hconfigured, hafter⟩
    exact ⟨_, .scheduled htick.1 hvalidated htick.2 hconfigured, hafter⟩
  | assertAt channel validated time =>
    refine Atomically.bind (attempt_atomically _) fun expectation hvalidated ↦ ?_
    refine Atomically.bind (timestamp_atomically time) fun tick htick ↦ ?_
    refine (addAssertion_atomically channel (expectation tick)).mono ?_
    rintro _ after ⟨hconfigured, hafter⟩
    exact ⟨_, .assertedAt htick.1 hvalidated htick.2 hconfigured, hafter⟩
  | assertOver channel validated range =>
    refine Atomically.bind (attempt_atomically _) fun expectation hvalidated ↦ ?_
    refine Atomically.bind (attempt_atomically _) fun options hrange ↦ ?_
    refine Atomically.bind (timeRange_atomically options) fun bounds hbounds ↦ ?_
    refine (addAssertion_atomically channel _).mono ?_
    rintro _ after ⟨hconfigured, hafter⟩
    exact ⟨_, .assertedOver hbounds.1 hvalidated hrange hbounds.2 hconfigured, hafter⟩

end Requests

/-! ### Requests whose other checks pass -/

section Accepted

variable {test after : Test} {channel : Channel}

theorem ensureMutable_of_mutable (hmutable : test.compiledPlan = none) :
    ensureMutable test = .ok () test := by
  show (if test.compiledPlan.isSome = true then _ else _ : TestM Unit) test = _
  rw [hmutable]
  rfl

theorem timestamp_of_mutable (hmutable : test.compiledPlan = none) (time : TimeOptions) :
    timestamp time test =
      attempt (resolveTimestamp test.configuration.frequencyMode time) test := by
  rw [timestamp, run_bind_of_ok (ensureMutable_of_mutable hmutable)]
  rfl

theorem timeRange_of_mutable (hmutable : test.compiledPlan = none) (range : RangeOptions) :
    timeRange range test =
      attempt (resolveTimeRange test.configuration.frequencyMode range) test := by
  rw [timeRange, run_bind_of_ok (ensureMutable_of_mutable hmutable)]
  rfl

theorem requireConfiguredChannel_of_configured
    (hconfigured : isConfigured test.configuration channel = true) (usage : String) :
    requireConfiguredChannel channel usage test = .ok () test := by
  show (if (!isConfigured test.configuration channel) = true then _ else _ : TestM Unit) test = _
  rw [hconfigured]
  rfl

theorem schedule_of_configured (hmutable : test.compiledPlan = none)
    (hconfigured : isConfigured test.configuration channel = true) (tick : ℕ)
    (stimulus : Stimulus) :
    schedule (fun instructionId ↦ ⟨instructionId, tick, channel, stimulus⟩) test =
      .ok () ((Effect.scheduled channel tick stimulus).apply test) := by
  rw [schedule, run_bind_of_ok (ensureMutable_of_mutable hmutable)]
  show (requireConfiguredChannel channel "stimuli" >>= _ : TestM Unit) test = _
  rw [run_bind_of_ok (requireConfiguredChannel_of_configured hconfigured _)]
  rfl

theorem addAssertion_of_configured (hmutable : test.compiledPlan = none)
    (hconfigured : isConfigured test.configuration channel = true) (expectation : Expectation) :
    addAssertion (fun assertionId ↦ ⟨assertionId, channel, expectation⟩) test =
      .ok () ((Effect.asserted channel expectation).apply test) := by
  rw [addAssertion, run_bind_of_ok (ensureMutable_of_mutable hmutable)]
  show (requireConfiguredChannel channel "assertions" >>= _ : TestM Unit) test = _
  rw [run_bind_of_ok (requireConfiguredChannel_of_configured hconfigured _)]
  rfl

/-- A stimulus whose other checks pass is scheduled if its time resolves. -/
theorem perform_stimulate_of_accepted {validated : Configuration → Except HilRigError Stimulus}
    {stimulus : Stimulus} (hmutable : test.compiledPlan = none)
    (hvalidated : validated test.configuration = .ok stimulus)
    (hconfigured : isConfigured test.configuration channel = true) (time : TimeOptions) :
    perform (.stimulate channel validated time) test =
      match resolveTimestamp test.configuration.frequencyMode time with
      | .ok tick => .ok () ((Effect.scheduled channel tick.value stimulus).apply test)
      | .error error => .error error test := by
  have htime := timestamp_of_mutable hmutable time
  show (attempt (validated test.configuration) >>= _ : TestM Unit) test = _
  rw [hvalidated]
  show (timestamp time >>= _ : TestM Unit) test = _
  cases hresolved : resolveTimestamp test.configuration.frequencyMode time with
  | ok tick =>
    rw [hresolved] at htime
    rw [run_bind_of_ok htime]
    exact schedule_of_configured hmutable hconfigured tick.value stimulus
  | error error =>
    rw [hresolved] at htime
    rw [run_bind_of_error htime]

/-- An assertion at one tick whose other checks pass is added if its time resolves. -/
theorem perform_assertAt_of_accepted {validated : Except HilRigError (Builtin ℕ → Expectation)}
    {expectation : Builtin ℕ → Expectation} (hmutable : test.compiledPlan = none)
    (hvalidated : validated = .ok expectation)
    (hconfigured : isConfigured test.configuration channel = true) (time : TimeOptions) :
    perform (.assertAt channel validated time) test =
      match resolveTimestamp test.configuration.frequencyMode time with
      | .ok tick => .ok () ((Effect.asserted channel (expectation tick)).apply test)
      | .error error => .error error test := by
  have htime := timestamp_of_mutable hmutable time
  rw [hvalidated]
  show (timestamp time >>= _ : TestM Unit) test = _
  cases hresolved : resolveTimestamp test.configuration.frequencyMode time with
  | ok tick =>
    rw [hresolved] at htime
    rw [run_bind_of_ok htime]
    exact addAssertion_of_configured hmutable hconfigured (expectation tick)
  | error error =>
    rw [hresolved] at htime
    rw [run_bind_of_error htime]

/-- An assertion over a range whose other checks pass is added if its range resolves. -/
theorem perform_assertOver_of_accepted
    {validated : Except HilRigError (Builtin ℕ → Builtin ℕ → Expectation)}
    {expectation : Builtin ℕ → Builtin ℕ → Expectation} (hmutable : test.compiledPlan = none)
    (hvalidated : validated = .ok expectation)
    (hconfigured : isConfigured test.configuration channel = true) (range : RangeOptions) :
    perform (.assertOver channel validated (.ok range)) test =
      match resolveTimeRange test.configuration.frequencyMode range with
      | .ok bounds =>
        .ok () ((Effect.asserted channel (expectation bounds.val.1 bounds.val.2)).apply test)
      | .error error => .error error test := by
  have htime := timeRange_of_mutable hmutable range
  rw [hvalidated]
  show (timeRange range >>= _ : TestM Unit) test = _
  cases hresolved : resolveTimeRange test.configuration.frequencyMode range with
  | ok bounds =>
    rw [hresolved] at htime
    rw [run_bind_of_ok htime]
    exact addAssertion_of_configured hmutable hconfigured _
  | error error =>
    rw [hresolved] at htime
    rw [run_bind_of_error htime]

/-- When an assertion at one tick is added. -/
theorem perform_assertAt_eq_ok {validated : Except HilRigError (Builtin ℕ → Expectation)}
    {time : TimeOptions} :
    perform (.assertAt channel validated time) test = .ok () after ↔
      ∃ expectation tick, validated = .ok expectation ∧
        resolveTimestamp test.configuration.frequencyMode time = .ok tick ∧
        test.compiledPlan = none ∧ isConfigured test.configuration channel = true ∧
          after = (Effect.asserted channel (expectation tick)).apply test := by
  constructor
  · intro hreturned
    obtain ⟨effect, hyields, rfl⟩ := (perform_atomically test _).of_ok hreturned
    cases hyields with
    | assertedAt hmutable hvalidated htick hconfigured =>
      exact ⟨_, _, hvalidated, htick, hmutable, hconfigured, rfl⟩
  · rintro ⟨expectation, tick, hvalidated, htick, hmutable, hconfigured, rfl⟩
    rw [perform_assertAt_of_accepted hmutable hvalidated hconfigured, htick]

/-- When an assertion over a range is added. -/
theorem perform_assertOver_eq_ok
    {validated : Except HilRigError (Builtin ℕ → Builtin ℕ → Expectation)}
    {range : Except HilRigError RangeOptions} :
    perform (.assertOver channel validated range) test = .ok () after ↔
      ∃ expectation bounds, validated = .ok expectation ∧
        range >>= resolveTimeRange test.configuration.frequencyMode = .ok bounds ∧
        test.compiledPlan = none ∧ isConfigured test.configuration channel = true ∧
          after = (Effect.asserted channel (expectation bounds.val.1 bounds.val.2)).apply test := by
  constructor
  · intro hreturned
    obtain ⟨effect, hyields, rfl⟩ := (perform_atomically test _).of_ok hreturned
    cases hyields with
    | assertedOver hmutable hvalidated hrange hbounds hconfigured =>
      exact ⟨_, _, hvalidated, bind_eq_ok.2 ⟨_, hrange, hbounds⟩, hmutable, hconfigured, rfl⟩
  · rintro ⟨expectation, bounds, hvalidated, hrange, hmutable, hconfigured, rfl⟩
    obtain ⟨options, rfl, hbounds⟩ := bind_eq_ok.1 hrange
    rw [perform_assertOver_of_accepted hmutable hvalidated hconfigured, hbounds]

end Accepted

end HilRig.Api
