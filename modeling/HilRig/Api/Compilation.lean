import HilRig.Api.Freezing

/-!
# When a test compiles

The public calls keep every test in a shape that passes the checks of the compiler
(`Test.WellFormed`), so compiling a reachable test fails for one reason only: the run would be too
long for the protocol (`compile_of_reachable`).
-/

set_option autoImplicit false
set_option relaxedAutoImplicit false

namespace HilRig.Api

open HilRig.Models HilRig.Foundations

/-! ### Records made by calls -/

/-- The records a request makes are of its channel's kind, and its expectation has the ticks it is
given. -/
def Request.Typed : Request → Prop
  | .stimulate channel validated _ =>
    ∀ configuration, Guarantees (validated configuration) fun stimulus ↦
      stimulus.kind = channel.kind
  | .assertAt channel validated _ =>
    Guarantees validated fun expectation ↦ ∀ tick,
      (expectation tick).kind = channel.kind ∧ (expectation tick).bounds = (tick, tick)
  | .assertOver channel validated _ =>
    Guarantees validated fun expectation ↦ ∀ fromTick untilTick,
      (expectation fromTick untilTick).kind = channel.kind ∧
        (expectation fromTick untilTick).bounds = (fromTick, untilTick)
  | _ => True

/-- Every public call is typed. -/
theorem Call.typed (call : Call) : call.request.Typed := by
  cases call with
  | digitalOutputHigh self time => exact fun _ ↦ guarantees_ok rfl
  | digitalOutputLow self time => exact fun _ ↦ guarantees_ok rfl
  | digitalOutputToggle self time => exact fun _ ↦ guarantees_ok rfl
  | pwmOutputEnable self time => exact fun _ ↦ guarantees_ok rfl
  | pwmOutputDisable self time => exact fun _ ↦ guarantees_ok rfl
  | pwmOutputSet self frequencyHz duty time =>
    exact fun _ ↦ guarantees_bind fun _ _ ↦ guarantees_bind_pure fun _ ↦ rfl
  | pwmOutputSetFrequency self frequencyHz time => exact fun _ ↦ guarantees_bind_pure fun _ ↦ rfl
  | pwmOutputSetDutyCycle self duty time => exact fun _ ↦ guarantees_bind_pure fun _ ↦ rfl
  | analogueOutputSetVoltage self voltage time =>
    intro configuration
    dsimp only
    split
    · exact guarantees_bind_pure fun _ ↦ rfl
    · exact guarantees_error _
  | i2cWrite self address data time =>
    exact fun _ ↦ guarantees_bind fun _ _ ↦ guarantees_bind fun _ _ ↦
      guarantees_bind_pure fun _ ↦ rfl
  | i2cRead self address length time =>
    exact fun _ ↦ guarantees_bind fun _ _ ↦ guarantees_bind fun _ _ ↦
      guarantees_bind_pure fun _ ↦ rfl
  | i2cPreloadResponse self data time =>
    exact fun _ ↦ guarantees_bind fun _ _ ↦ guarantees_bind_pure fun _ ↦ rfl
  | spiTransfer self txData rxLength time =>
    exact fun _ ↦ guarantees_bind fun _ _ ↦ guarantees_bind fun _ _ ↦ guarantees_bind fun _ _ ↦
      guarantees_guard fun _ ↦ guarantees_guard fun _ ↦ guarantees_guard fun _ ↦
        guarantees_pure rfl
  | uartWrite self data time => exact fun _ ↦ guarantees_bind_pure fun _ ↦ rfl
  | uartWriteText self data encoding encoded time =>
    intro configuration
    cases data with
    | mistyped => exact guarantees_error _
    | value text =>
      cases encoding with
      | mistyped => exact guarantees_error _
      | value encoding =>
        refine guarantees_guard fun _ ↦ ?_
        cases encoded with
        | ok payload => exact guarantees_ok rfl
        | error failure => cases failure <;> exact guarantees_error _
  | expectHigh self time => exact guarantees_ok fun _ ↦ ⟨rfl, rfl⟩
  | expectLow self time => exact guarantees_ok fun _ ↦ ⟨rfl, rfl⟩
  | expectRemainHigh self bounds => exact guarantees_ok fun _ _ ↦ ⟨rfl, rfl⟩
  | expectRemainLow self bounds => exact guarantees_ok fun _ _ ↦ ⟨rfl, rfl⟩
  | expectToTransition self fromState toState between =>
    exact guarantees_bind fun _ _ ↦ guarantees_bind fun _ _ ↦ guarantees_guard fun _ ↦
      guarantees_pure fun _ _ ↦ ⟨rfl, rfl⟩
  | expectPeriodNear self periodNs toleranceNs time =>
    exact guarantees_bind fun _ _ ↦ guarantees_bind_pure fun _ _ ↦ ⟨rfl, rfl⟩
  | expectFrequencyNear self frequencyHz toleranceHz time =>
    exact guarantees_bind fun _ _ ↦ guarantees_bind_pure fun _ _ ↦ ⟨rfl, rfl⟩
  | expectDutyCycleNear self duty dutyCycleTolerance time =>
    exact guarantees_bind fun _ _ ↦ guarantees_bind_pure fun _ _ ↦ ⟨rfl, rfl⟩
  | expectWaveformNear self frequencyHz frequencyToleranceHz duty dutyCycleTolerance time =>
    exact guarantees_bind fun _ _ ↦ guarantees_bind fun _ _ ↦ guarantees_bind fun _ _ ↦
      guarantees_bind_pure fun _ _ ↦ ⟨rfl, rfl⟩
  | expectFrequencyRemainWithin self minimumHz maximumHz bounds =>
    exact guarantees_bind fun _ _ ↦ guarantees_bind fun _ _ ↦
      guarantees_bind_pure fun _ _ _ ↦ ⟨rfl, rfl⟩
  | expectDutyCycleRemainWithin self minimumDutyCycle maximumDutyCycle bounds =>
    exact guarantees_bind fun _ _ ↦ guarantees_bind fun _ _ ↦
      guarantees_bind_pure fun _ _ _ ↦ ⟨rfl, rfl⟩
  | expectNear self targetV toleranceV time =>
    exact guarantees_bind fun _ _ ↦ guarantees_bind_pure fun _ _ ↦ ⟨rfl, rfl⟩
  | expectWithin self minimumV maximumV time => exact guarantees_bind_pure fun _ _ ↦ ⟨rfl, rfl⟩
  | expectRemainWithin self minimumV maximumV bounds =>
    exact guarantees_bind_pure fun _ _ _ ↦ ⟨rfl, rfl⟩
  | expectRemainAbove self thresholdV bounds => exact guarantees_bind_pure fun _ _ _ ↦ ⟨rfl, rfl⟩
  | expectRemainBelow self thresholdV bounds => exact guarantees_bind_pure fun _ _ _ ↦ ⟨rfl, rfl⟩
  | _ => trivial

/-! ### Well-formed tests -/

/-- The shape that every public call keeps: each channel is configured once and for its own kind,
stimuli and assertions are about configured channels and of their kind, ranges are ordered, and a
snapshot is the compilation of the definition it is stored beside. -/
structure Test.WellFormed (test : Test) : Prop where
  configurationKind : ∀ entry ∈ test.configuration.channelConfigurations,
    entry.2.kind = entry.1.kind
  nodup : (test.configuration.channelConfigurations.map Prod.fst).Nodup
  stimulus : ∀ instruction ∈ test.instructions,
    isConfigured test.configuration instruction.channel = true ∧
      instruction.stimulus.kind = instruction.channel.kind
  assertion : ∀ assertion ∈ test.assertions,
    isConfigured test.configuration assertion.channel = true ∧
      assertion.expectation.kind = assertion.channel.kind ∧
        assertion.expectation.ticks.1 ≤ assertion.expectation.ticks.2
  snapshot : ∀ plan, test.compiledPlan = some plan →
    compileTest test.testId test.name test.configuration test.instructions test.assertions =
      .ok plan

/-- A channel is configured when it has a configuration of its kind. -/
theorem isConfigured_iff {configuration : Configuration} {channel : Channel} :
    isConfigured configuration channel = true ↔ ∃ peripheral,
      configuration.forChannel channel = some peripheral ∧ peripheral.kind = channel.kind := by
  simp only [isConfigured, Option.any_eq_true, decide_eq_true_eq]

/-- Configuring another channel keeps a channel configured. -/
theorem isConfigured_append {configuration : Configuration} {channel : Channel}
    (hconfigured : isConfigured configuration channel = true)
    (entry : Channel × PeripheralConfiguration) :
    isConfigured { configuration with
      channelConfigurations := configuration.channelConfigurations ++ [entry] } channel = true := by
  unfold isConfigured Configuration.forChannel at hconfigured ⊢
  rw [List.lookup_append]
  cases hfound : configuration.channelConfigurations.lookup channel with
  | none => rw [hfound] at hconfigured; cases hconfigured
  | some peripheral => rwa [hfound] at hconfigured

/-- A channel without a configuration is not among the keys. -/
theorem notMem_of_forChannel_eq_none {configuration : Configuration} {channel : Channel}
    (hfresh : configuration.forChannel channel = none) :
    channel ∉ configuration.channelConfigurations.map Prod.fst := by
  rw [Configuration.forChannel, List.lookup_eq_none_iff] at hfresh
  intro hmem
  obtain ⟨entry, hentry, rfl⟩ := List.mem_map.1 hmem
  exact bne_iff_ne.1 (hfresh entry hentry) rfl

/-- Every effect of every call keeps a test well formed. -/
theorem Test.WellFormed.apply {test : Test} (hformed : test.WellFormed) {call : Call}
    {effect : Effect} (hyields : call.request.Yields test effect) :
    (effect.apply test).WellFormed := by
  have htyped := call.typed
  obtain ⟨hkind, hnodup, hstimulus, hassertion, hsnapshot⟩ := hformed
  generalize call.request = request at hyields htyped
  have hnever {plan : CompiledTestIR} (hmutable : test.compiledPlan = none)
      (hplan : test.compiledPlan = some plan) {statement : Prop} : statement := by
    rw [hmutable] at hplan
    cases hplan
  cases hyields with
  | found => exact ⟨hkind, hnodup, hstimulus, hassertion, hsnapshot⟩
  | made => exact ⟨hkind, hnodup, hstimulus, hassertion, hsnapshot⟩
  | expected => exact ⟨hkind, hnodup, hstimulus, hassertion, hsnapshot⟩
  | recompiled => exact ⟨hkind, hnodup, hstimulus, hassertion, hsnapshot⟩
  | compiled hmutable hplan =>
    refine ⟨hkind, hnodup, hstimulus, hassertion, ?_⟩
    rintro plan ⟨⟩
    exact hplan
  | configured hmutable hunset hinstructions hassertions =>
    exact ⟨hkind, hnodup, hstimulus, hassertion, fun plan hplan ↦ hnever hmutable hplan⟩
  | channelConfigured hmutable hvalidated hperipheral hfresh =>
    refine ⟨?_, ?_, ?_, ?_, fun plan hplan ↦ ?_⟩
    · intro entry hentry
      rcases List.mem_append.1 hentry with hentry | hentry
      · exact hkind entry hentry
      · rw [List.mem_singleton.1 hentry]
        exact hperipheral
    · show ((test.configuration.channelConfigurations ++ [_]).map Prod.fst).Nodup
      rw [List.map_append, List.nodup_append]
      refine ⟨hnodup, List.nodup_singleton _, ?_⟩
      rintro first hfirst second hsecond rfl
      rw [List.map_singleton, List.mem_singleton] at hsecond
      rw [hsecond] at hfirst
      exact notMem_of_forChannel_eq_none hfresh hfirst
    · exact fun instruction hinstruction ↦
        ⟨isConfigured_append (hstimulus instruction hinstruction).1 _,
          (hstimulus instruction hinstruction).2⟩
    · exact fun assertion hmem ↦
        ⟨isConfigured_append (hassertion assertion hmem).1 _, (hassertion assertion hmem).2⟩
    · exact hnever hmutable hplan
  | scheduled hmutable hvalidated htick hconfigured =>
    refine ⟨hkind, hnodup, ?_, hassertion, fun plan hplan ↦ ?_⟩
    · intro instruction hinstruction
      rcases List.mem_append.1 hinstruction with hinstruction | hinstruction
      · exact hstimulus instruction hinstruction
      · rw [List.mem_singleton.1 hinstruction]
        exact ⟨hconfigured, htyped _ _ hvalidated⟩
    · exact hnever hmutable hplan
  | @assertedAt _ _ _ _ tick hmutable hvalidated htick hconfigured =>
    refine ⟨hkind, hnodup, hstimulus, ?_, fun plan hplan ↦ ?_⟩
    · intro assertion hmem
      rcases List.mem_append.1 hmem with hmem | hmem
      · exact hassertion assertion hmem
      · obtain ⟨hsame, hticks⟩ := htyped _ hvalidated tick
        rw [List.mem_singleton.1 hmem]
        exact ⟨hconfigured, hsame, by rw [Expectation.ticks, hticks]⟩
    · exact hnever hmutable hplan
  | @assertedOver _ _ _ _ _ bounds hmutable hvalidated hrange hbounds hconfigured =>
    refine ⟨hkind, hnodup, hstimulus, ?_, fun plan hplan ↦ ?_⟩
    · intro assertion hmem
      rcases List.mem_append.1 hmem with hmem | hmem
      · exact hassertion assertion hmem
      · obtain ⟨hsame, hticks⟩ := htyped _ hvalidated bounds.val.1 bounds.val.2
        rw [List.mem_singleton.1 hmem]
        exact ⟨hconfigured, hsame, by rw [Expectation.ticks, hticks]; exact bounds.property⟩
    · exact hnever hmutable hplan

/-- Every reachable test is well formed. -/
theorem wellFormed_of_reachable {test : Test} (hreachable : test.Reachable) : test.WellFormed :=
  hreachable.invariant
    (fun _ _ ↦ ⟨by simp, List.nodup_nil, by simp, by simp, by simp⟩)
    fun _ _ _ hformed hyields ↦ hformed.apply hyields

/-! ### Compilation -/

/-- The latest tick of a list, or zero. -/
def latestOf (ticks : List ℕ) : ℕ :=
  ticks.foldr max 0

/-- The latest tick of a list joined with a first one. -/
theorem foldl_max_eq (ticks : List ℕ) (first : ℕ) :
    ticks.foldl max first = max first (latestOf ticks) := by
  induction ticks generalizing first with
  | nil => simp [latestOf]
  | cons tick ticks ih =>
    rw [List.foldl_cons, ih, max_assoc]
    rfl

/-- The order of the ticks does not matter. -/
theorem latestOf_perm {first second : List ℕ} (hperm : first.Perm second) :
    latestOf first = latestOf second :=
  hperm.foldr_eq 0

/-- The latest tick of two lists is the later of their latest ticks. -/
theorem latestOf_append (first second : List ℕ) :
    latestOf (first ++ second) = max (latestOf first) (latestOf second) := by
  induction first with
  | nil => simp [latestOf]
  | cons tick first ih =>
    rw [List.cons_append, latestOf, List.foldr_cons, ← latestOf, ih, ← max_assoc]
    rfl

/-- No tick of a list is after its latest one. -/
theorem le_latestOf {ticks : List ℕ} {tick : ℕ} (htick : tick ∈ ticks) : tick ≤ latestOf ticks := by
  induction ticks with
  | nil => cases htick
  | cons first ticks ih =>
    rw [latestOf, List.foldr_cons, ← latestOf]
    rcases List.mem_cons.1 htick with rfl | htick
    · exact le_max_left _ _
    · exact (ih htick).trans (le_max_right _ _)

/-- The latest tick of a stimulus, of a point assertion or of the end of a range, or zero. -/
def Test.latestTick (test : Test) : ℕ :=
  latestOf (test.instructions.map Instruction.timestamp ++
    test.assertions.map fun assertion ↦ assertion.expectation.ticks.2)

/-- The compiler counts the ticks through the latest one and one second more. -/
theorem countExpectedTicks_eq (test : Test) :
    countExpectedTicks (sortedInstructions test.instructions) test.assertions
        test.configuration.frequencyMode.hertz =
      test.latestTick + test.configuration.frequencyMode.hertz + 1 := by
  have hperm := (List.perm_insertionSort (fun first second ↦ instructionLE first second = true)
    test.instructions).map Instruction.timestamp
  unfold countExpectedTicks sortedInstructions
  dsimp only
  rw [foldl_max_eq, foldl_max_eq, latestOf_perm hperm, Test.latestTick, latestOf_append,
    Nat.zero_max, Nat.mul_one]

/-- A well-formed test with sequential identifiers compiles to its snapshot, or is too long. -/
theorem compileTest_eq {test : Test} (hsequential : test.Sequential)
    (hformed : test.WellFormed) :
    compileTest test.testId test.name test.configuration test.instructions test.assertions =
      if maxExpectedTickCountExclusive ≤
          test.latestTick + test.configuration.frequencyMode.hertz + 1 then .error tickLimitError
      else .ok (snapshot test.testId test.name test.configuration test.instructions
        test.assertions) := by
  rw [← countExpectedTicks_eq]
  refine compileTest_of_valid (validateEach_of_forall fun position hposition ↦ ?_)
    (validateEach_of_forall fun position hposition ↦ ?_)
  · have hid : test.instructions[position].instructionId = 0 + position := by
      have := congrArg (fun ids ↦ ids[position]?) hsequential.instructions
      simpa [hposition] using this
    rw [← hid]
    exact validateInstruction_of_configured
      (hformed.stimulus _ (List.getElem_mem hposition)).1
  · have hid : test.assertions[position].assertionId = 0 + position := by
      have := congrArg (fun ids ↦ ids[position]?) hsequential.assertions
      simpa [hposition] using this
    rw [← hid]
    have hassertion := hformed.assertion _ (List.getElem_mem hposition)
    exact validateAssertion_of_configured hassertion.1 hassertion.2.2

/-- The snapshot of a test. -/
def Test.plan (test : Test) : CompiledTestIR :=
  snapshot test.testId test.name test.configuration test.instructions test.assertions

/-- Compiling a test that is not compiled. -/
theorem compile_of_mutable {test : Test} (hmutable : test.compiledPlan = none) :
    compile test = match compileTest test.testId test.name test.configuration test.instructions
        test.assertions with
      | .ok plan => .ok plan { test with compiledPlan := some plan }
      | .error error => .error error test := by
  unfold compile
  rw [run_get_bind, hmutable]
  show (attempt (compileTest test.testId test.name test.configuration test.instructions
    test.assertions) >>= _ : TestM CompiledTestIR) test = _
  cases compileTest test.testId test.name test.configuration test.instructions test.assertions with
  | ok plan => rfl
  | error error => rfl

/-- Compiling a test again. -/
theorem compile_of_frozen {test : Test} {plan : CompiledTestIR}
    (hfrozen : test.compiledPlan = some plan) : compile test = .ok plan test := by
  unfold compile
  rw [run_get_bind, hfrozen]
  rfl

/-- The compilation of a reachable test is its snapshot. -/
theorem plan_of_compile {test after : Test} (hreachable : test.Reachable) {plan : CompiledTestIR}
    (hcompiled : compile test = .ok plan after) : plan = test.plan := by
  have heq : compileTest test.testId test.name test.configuration test.instructions
      test.assertions = .ok plan := by
    cases hplan : test.compiledPlan with
    | some stored =>
      rw [compile_of_frozen hplan] at hcompiled
      cases hcompiled
      exact (wellFormed_of_reachable hreachable).snapshot _ hplan
    | none =>
      rw [compile_of_mutable hplan] at hcompiled
      cases hresult : compileTest test.testId test.name test.configuration test.instructions
        test.assertions with
      | ok result => rw [hresult] at hcompiled; cases hcompiled; rfl
      | error error => rw [hresult] at hcompiled; cases hcompiled
  rw [compileTest_eq (sequential_of_reachable hreachable) (wellFormed_of_reachable hreachable)]
    at heq
  exact (Except.ok.inj (ite_error_eq_ok.1 heq).2).symm

/-- A reachable test compiles exactly when its run is short enough, and no other error than that of
the tick limit is raised. -/
theorem compile_of_reachable (test : Test) (hreachable : test.Reachable) :
    ((∃ plan after, compile test = .ok plan after) ↔
        test.latestTick + test.configuration.frequencyMode.hertz + 1 < 1000000) ∧
      ∀ error after, compile test = .error error after →
        error = tickLimitError ∧ after = test ∧ test.compiledPlan = none := by
  have hformed := wellFormed_of_reachable hreachable
  have heq := compileTest_eq (sequential_of_reachable hreachable) hformed
  cases hplan : test.compiledPlan with
  | some plan =>
    have hsnapshot := hformed.snapshot plan hplan
    rw [heq] at hsnapshot
    have hshort := (ite_error_eq_ok.1 hsnapshot).1
    rw [compile_of_frozen hplan]
    refine ⟨⟨fun _ ↦ not_le.1 hshort, fun _ ↦ ⟨plan, test, rfl⟩⟩, ?_⟩
    rintro error after ⟨⟩
  | none =>
    rw [compile_of_mutable hplan, heq]
    by_cases hlong : maxExpectedTickCountExclusive ≤
        test.latestTick + test.configuration.frequencyMode.hertz + 1
    · rw [if_pos hlong]
      refine ⟨⟨?_, fun hshort ↦ absurd hshort (not_lt.2 hlong)⟩, ?_⟩
      · rintro ⟨plan, after, ⟨⟩⟩
      · rintro error after ⟨⟩
        exact ⟨rfl, rfl, rfl⟩
    · rw [if_neg hlong]
      refine ⟨⟨fun _ ↦ not_le.1 hlong, fun _ ↦ ⟨_, _, rfl⟩⟩, ?_⟩
      rintro error after ⟨⟩

theorem compile_of_reachable_fanTest :
    fanTest.latestTick = 40 ∧
    ((∃ plan after, compile fanTest = .ok plan after) ↔
        fanTest.latestTick + fanTest.configuration.frequencyMode.hertz + 1 < 1000000) ∧
      ∀ error after, compile fanTest = .error error after →
        error = tickLimitError ∧ after = fanTest ∧ fanTest.compiledPlan = none :=
  ⟨by decide +kernel, compile_of_reachable fanTest reachable_fanTest⟩

/-- The fan test compiles. -/
theorem compile_fanTest :
    compile fanTest = .ok fanTest.plan { fanTest with compiledPlan := some fanTest.plan } := by
  have hmutable : fanTest.compiledPlan = none := by decide +kernel
  have hshort : ¬maxExpectedTickCountExclusive ≤
      fanTest.latestTick + fanTest.configuration.frequencyMode.hertz + 1 := by decide +kernel
  rw [compile_of_mutable hmutable, compileTest_eq (sequential_of_reachable reachable_fanTest)
    (wellFormed_of_reachable reachable_fanTest), if_neg hshort]
  rfl

end HilRig.Api
