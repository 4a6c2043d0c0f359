import HilRig.Evaluation.StoredArguments

/-!
# The handlers decide what assertions demand

`demandOf` says what an assertion of a test demands of the stored results, with the acceptance test
of its class. The handler registered for an assertion reads the arguments that the compiler stored
for it, and its verdict decides this demand (`settles_evaluateAssertion`).
-/

set_option autoImplicit false
set_option relaxedAutoImplicit false

namespace HilRig.Evaluation

open HilRig.Models HilRig.Results HilRig.Foundations

/-! ### Demands of assertions -/

/-- What an assertion about a channel demands of the stored results. -/
def demandOf (results : List TickResult) (channel : ℕ) : Expectation → Demand
  | .digitalPoint tick expectedState =>
    .throughout (acceptedAt (digitalOf channel) results fun level ↦ level = levelOf expectedState)
      tick.value tick.value
  | .digitalRemainHigh fromTick untilTick =>
    .throughout (acceptedAt (digitalOf channel) results fun level ↦ level = true)
      fromTick.value untilTick.value
  | .digitalRemainLow fromTick untilTick =>
    .throughout (acceptedAt (digitalOf channel) results fun level ↦ level = false)
      fromTick.value untilTick.value
  | .digitalTransition fromTick untilTick fromState toState =>
    .change (sampleAt (digitalOf channel) results) (levelOf fromState) (levelOf toState)
      fromTick.value untilTick.value
  | .analogueNear tick targetUv toleranceUv =>
    .throughout (acceptedAt (analogueOf channel) results (isNear targetUv toleranceUv))
      tick.value tick.value
  | .analogueWithin tick minimumUv maximumUv =>
    .throughout (acceptedAt (analogueOf channel) results (isWithin minimumUv maximumUv))
      tick.value tick.value
  | .analogueRemainWithin fromTick untilTick minimumUv maximumUv =>
    .throughout (acceptedAt (analogueOf channel) results (isWithin minimumUv maximumUv))
      fromTick.value untilTick.value
  | .analogueRemainAbove fromTick untilTick thresholdUv =>
    .throughout (acceptedAt (analogueOf channel) results fun value ↦ thresholdUv < value)
      fromTick.value untilTick.value
  | .analogueRemainBelow fromTick untilTick thresholdUv =>
    .throughout (acceptedAt (analogueOf channel) results fun value ↦ value < thresholdUv)
      fromTick.value untilTick.value
  | .pwmPeriodNear tick periodNs toleranceNs =>
    .throughout (acceptedAt (pwmOf channel) results (waveformAccepted fun measurement ↦
      |(measurement.periodNs : ℤ) - periodNs.value| ≤ toleranceNs.value)) tick.value tick.value
  | .pwmFrequencyNear tick frequency toleranceHz =>
    .throughout (acceptedAt (pwmOf channel) results (waveformAccepted fun measurement ↦
      isNearDouble (doubleOf frequency) (doubleOf toleranceHz) (measuredFrequency measurement)))
      tick.value tick.value
  | .pwmDutyCycleNear tick dutyCycle dutyCycleTolerance =>
    .throughout (acceptedAt (pwmOf channel) results (waveformAccepted fun measurement ↦
      isNearDouble (doubleOf dutyCycle) (doubleOf dutyCycleTolerance)
        (measuredDutyCycle measurement))) tick.value tick.value
  | .pwmWaveformNear tick frequency frequencyToleranceHz dutyCycle dutyCycleTolerance =>
    .throughout (acceptedAt (pwmOf channel) results (waveformAccepted fun measurement ↦
      isNearDouble (doubleOf frequency) (doubleOf frequencyToleranceHz)
          (measuredFrequency measurement) &&
        isNearDouble (doubleOf dutyCycle) (doubleOf dutyCycleTolerance)
          (measuredDutyCycle measurement))) tick.value tick.value
  | .pwmFrequencyRemainWithin fromTick untilTick minimumHz maximumHz =>
    .throughout (acceptedAt (pwmOf channel) results (waveformAccepted fun measurement ↦
      isWithinDoubles (doubleOf minimumHz) (doubleOf maximumHz) (measuredFrequency measurement)))
      fromTick.value untilTick.value
  | .pwmDutyCycleRemainWithin fromTick untilTick minimumDutyCycle maximumDutyCycle =>
    .throughout (acceptedAt (pwmOf channel) results (waveformAccepted fun measurement ↦
      isWithinDoubles (doubleOf minimumDutyCycle) (doubleOf maximumDutyCycle)
        (measuredDutyCycle measurement))) fromTick.value untilTick.value

/-! ### Demands that are settled -/

/-- An outcome is a result whose verdict decides a demand, and whose count of missing samples is
zero exactly when every tick of the assertion has a row. -/
def Settles (results : List TickResult) (ticks : ℕ × ℕ)
    (outcome : Except HilRigError AssertionResult) (demand : Demand) : Prop :=
  ∃ result, outcome = .ok result ∧ Decides result.verdict demand ∧
    (result.missingSampleCount = 0 ↔
      ∀ tick, ticks.1 ≤ tick → tick ≤ ticks.2 → tick ∈ results.map TickResult.tick)

section Settled

variable {Value : Type} {value : TickResult → Option Value} {results : List TickResult}
  {fromTick untilTick : ℕ}

/-- Evidence is missing where there is no row. -/
theorem missing_iff {tick : ℕ} : (evidenceOf value results tick).missing = true ↔
    tick ∉ results.map TickResult.tick := by
  rw [evidenceOf_natCast]
  cases hfound : results.find? fun result ↦ result.tick = tick with
  | none =>
    refine iff_of_true rfl fun hmem ↦ ?_
    obtain ⟨result, hresult, htick⟩ := List.mem_map.1 hmem
    simpa [htick] using List.find?_eq_none.1 hfound result hresult
  | some result =>
    refine iff_of_false Bool.false_ne_true (not_not.2 (List.mem_map.2
      ⟨result, List.mem_of_find?_eq_some hfound, by simpa using List.find?_some hfound⟩))

/-- No sample of a range is missing exactly when every tick of it has a row. -/
theorem missingCount_eq_zero_iff {accepts : Value → Bool} :
    (RangeCounts.tally accepts (evidenceOver value results fromTick untilTick)).missingCount = 0 ↔
      ∀ tick, fromTick ≤ tick → tick ≤ untilTick → tick ∈ results.map TickResult.tick := by
  show List.countP _ _ = 0 ↔ _
  rw [List.countP_eq_zero]
  constructor
  · intro hpresent tick hfrom huntil
    by_contra habsent
    exact hpresent _ (mem_evidenceOver.2 ⟨tick, hfrom, huntil, rfl⟩) (missing_iff.2 habsent)
  · intro hpresent item hitem hmissing
    obtain ⟨tick, hfrom, huntil, rfl⟩ := mem_evidenceOver.1 hitem
    exact missing_iff.1 hmissing (hpresent tick hfrom huntil)

/-- A result that reports the tally of a range decides whether its samples are accepted. -/
theorem settles_of_reportsTally {outcome : Except HilRigError AssertionResult}
    {accepts : Value → Bool}
    (hreports : ∃ observed, ReportsTally outcome accepts
      (evidenceOver value results fromTick untilTick) observed) :
    Settles results (fromTick, untilTick) outcome
      (.throughout (acceptedAt value results accepts) fromTick untilTick) := by
  obtain ⟨observed, result, hresult, hverdict, -, hcounts⟩ := hreports
  refine ⟨result, hresult, ?_, ?_⟩
  · rw [hverdict]
    exact decides_rangeVerdict rfl
  · rw [← missingCount_eq_zero_iff, ← hcounts]
    rfl

end Settled

/-- The search for a transition settles the demand of a change. -/
theorem settles_transition {run : CapturedRunIR} {results : List TickResult}
    (hstores : Stores run results) {assertion : CompiledAssertion} {fromTick untilTick : ℕ}
    (hrange : NamesRange assertion fromTick untilTick) (hchannel : assertion.channel < 10)
    {fromState toState : Bool} (hfrom : stateArgument assertion "from_state" = .ok fromState)
    (hto : stateArgument assertion "to_state" = .ok toState) :
    Settles results (fromTick, untilTick) (evaluateTransition assertion ⟨run⟩)
      (.change (sampleAt (digitalOf assertion.channel) results) fromState toState fromTick
        untilTick) := by
  have hcounts := @tally_foldl Bool TransitionSearch
    (fun search item ↦ search.observe fromState toState item) (fun search ↦ search.toRangeCounts)
    (fun _ ↦ true) observe_toRangeCounts
    (evidenceOver (digitalOf assertion.channel) results fromTick untilTick) {} rfl
  obtain ⟨result, hresult, hverdict, -, hreported⟩ :=
    reports_transition hstores hrange hchannel hfrom hto
  refine ⟨result, hresult, ?_, ?_⟩
  · rw [hverdict]
    exact decides_transitionVerdict hrange.ordered
  · rw [← @missingCount_eq_zero_iff _ (digitalOf assertion.channel) _ _ _ fun _ ↦ true, ← hcounts]
    show result.counts.missingCount = 0 ↔ _
    rw [hreported]
    rfl

/-- The handler of each class of assertions. -/
def handlerOf : Expectation → AssertionHandler
  | .digitalPoint .. => evaluateStateAtTick
  | .digitalRemainHigh .. => evaluateRemainHigh
  | .digitalRemainLow .. => evaluateRemainLow
  | .digitalTransition .. => evaluateTransition
  | .pwmPeriodNear .. => evaluatePeriodNear
  | .pwmFrequencyNear .. => evaluateFrequencyNear
  | .pwmDutyCycleNear .. => evaluateDutyCycleNear
  | .pwmWaveformNear .. => evaluateWaveformNear
  | .pwmFrequencyRemainWithin .. => evaluateFrequencyRemainWithin
  | .pwmDutyCycleRemainWithin .. => evaluateDutyCycleRemainWithin
  | .analogueNear .. => evaluateNear
  | .analogueWithin .. => evaluateWithin
  | .analogueRemainWithin .. => evaluateRemainWithin
  | .analogueRemainAbove .. => evaluateRemainAbove
  | .analogueRemainBelow .. => evaluateRemainBelow

/-- Every class of assertions is registered under the names it is compiled to. -/
theorem lookup_evaluatorRegistry (expectation : Expectation) :
    evaluatorRegistry.lookup (expectation.kind.value, assertionOperation expectation) =
      some (handlerOf expectation) := by
  cases expectation <;> rfl

/-- A stored assertion is evaluated by the handler of its class. -/
theorem evaluateAssertion_stored {context : EvaluationContext} {assertion : Assertion}
    (hkind : assertion.expectation.kind = assertion.channel.kind) :
    evaluateAssertion context (stored assertion) =
      handlerOf assertion.expectation (stored assertion) context := by
  have hlookup : evaluatorRegistry.lookup
      ((stored assertion).peripheral, (stored assertion).assertion) =
        some (handlerOf assertion.expectation) := by
    show evaluatorRegistry.lookup (assertion.channel.kind.value, _) = _
    rw [← hkind]
    exact lookup_evaluatorRegistry assertion.expectation
  unfold evaluateAssertion
  rw [hlookup]

/-- The handler registered for a plain assertion whose floats are finite and whose voltages can be
shown settles its demand. -/
theorem settles_of_finite {run : CapturedRunIR} {results : List TickResult}
    (hstores : Stores run results) {assertion : Assertion}
    (hkind : assertion.expectation.kind = assertion.channel.kind)
    (hordered : assertion.expectation.ticks.1 ≤ assertion.expectation.ticks.2)
    (hfits : fitsInteger assertion.expectation.ticks.2 = true)
    (hfinite : ∀ argument ∈ (compiledAssertion assertion).arguments, ∀ value,
      argument.2 = .float value → isPrintable argument.2 = true)
    (hplain : assertion.expectation.isPlain = true)
    (hshown : ∀ microvolts ∈ assertion.expectation.voltages, ShownVolts microvolts) :
    Settles results assertion.expectation.ticks (evaluateAssertion ⟨run⟩ (stored assertion))
      (demandOf results assertion.channel.index assertion.expectation) := by
  have hinteger {name : String} {value : ℤ}
      (hfield : (name, FieldValue.int (.plain value)) ∈ expectationFields assertion.expectation) :
      integerArgument (stored assertion) name = .ok value :=
    (integerArgument_eq_ok (List.mem_append_right _ hfield)).2 rfl
  have hnatural {name : String} {value : Builtin ℕ}
      (hfield : (name, FieldValue.natural value) ∈ expectationFields assertion.expectation) :=
    @naturalArgument_stored assertion name value (List.mem_append_right _ hfield)
  have hstate {name : String} {state : DigitalState}
      (hfield : (name, FieldValue.enum state.name) ∈ expectationFields assertion.expectation) :
      stateArgument (stored assertion) name = .ok (levelOf state) :=
    stateArgument_stored (List.mem_append_right _ hfield)
  have hnumber {name : String} {value : PyFloat}
      (hfield : (name, FieldValue.float value) ∈ expectationFields assertion.expectation) :
      numberArgument (stored assertion) name = .ok (doubleOf value) :=
    numberArgument_stored (List.mem_append_right _ hfield) hfinite
  have hvolts {microvolts : ℤ} (hmem : microvolts ∈ assertion.expectation.voltages) :
      ∃ shown, volts (some microvolts) = .ok shown :=
    volts_some_of_shown (hshown microvolts hmem)
  have htick := fun hpoint ↦ @namesTick_stored assertion hpoint hplain hordered hfits
  have hrange := fun hpoint ↦ @namesRange_stored assertion hpoint hplain hordered hfits
  have hindex : (stored assertion).channel < channelCount assertion.expectation.kind := by
    rw [hkind]
    exact assertion.channel.index_lt
  rw [evaluateAssertion_stored hkind]
  show Settles _ _ _ (demandOf results (stored assertion).channel _)
  generalize assertion.expectation = expectation at *
  cases expectation with
  | digitalPoint tick expectedState =>
    exact settles_of_reportsTally (reports_stateAtTick hstores (htick rfl) hindex
      (hstate (by simp [expectationFields])))
  | digitalRemainHigh fromTick untilTick =>
    exact settles_of_reportsTally (reports_remainState hstores (hrange rfl) hindex true)
  | digitalRemainLow fromTick untilTick =>
    exact settles_of_reportsTally (reports_remainState hstores (hrange rfl) hindex false)
  | digitalTransition fromTick untilTick fromState toState =>
    exact settles_transition hstores (hrange rfl) hindex
      (hstate (by simp [expectationFields])) (hstate (by simp [expectationFields]))
  | analogueNear tick targetUv toleranceUv =>
    have htarget := @hinteger "target_uv" targetUv (by simp [expectationFields])
    have htolerance := @hinteger "tolerance_uv" toleranceUv (by simp [expectationFields])
    obtain ⟨_, htargetVolts⟩ := @hvolts targetUv (by simp [Expectation.voltages])
    obtain ⟨_, htoleranceVolts⟩ := @hvolts toleranceUv (by simp [Expectation.voltages])
    have hsettles := settles_of_reportsTally
      (reports_analoguePoint hstores (htick rfl) hindex (isNear targetUv toleranceUv))
    simp only [handlerOf, evaluateNear, htarget, htolerance, htargetVolts, htoleranceVolts, bind,
      Except.bind]
    exact hsettles
  | analogueWithin tick minimumUv maximumUv =>
    have hminimum := @hinteger "minimum_uv" minimumUv (by simp [expectationFields])
    have hmaximum := @hinteger "maximum_uv" maximumUv (by simp [expectationFields])
    obtain ⟨_, hminimumVolts⟩ := @hvolts minimumUv (by simp [Expectation.voltages])
    obtain ⟨_, hmaximumVolts⟩ := @hvolts maximumUv (by simp [Expectation.voltages])
    have hsettles := settles_of_reportsTally
      (reports_analoguePoint hstores (htick rfl) hindex (isWithin minimumUv maximumUv))
    simp only [handlerOf, evaluateWithin, hminimum, hmaximum, hminimumVolts, hmaximumVolts, bind,
      Except.bind]
    exact hsettles
  | analogueRemainWithin fromTick untilTick minimumUv maximumUv =>
    have hminimum := @hinteger "minimum_uv" minimumUv (by simp [expectationFields])
    have hmaximum := @hinteger "maximum_uv" maximumUv (by simp [expectationFields])
    obtain ⟨_, hminimumVolts⟩ := @hvolts minimumUv (by simp [Expectation.voltages])
    obtain ⟨_, hmaximumVolts⟩ := @hvolts maximumUv (by simp [Expectation.voltages])
    obtain ⟨_, hreports⟩ :=
      reports_analogueRange hstores (hrange rfl) hindex (isWithin minimumUv maximumUv)
    simp only [handlerOf, evaluateRemainWithin, hminimum, hmaximum, hminimumVolts, hmaximumVolts,
      bind, Except.bind]
    exact settles_of_reportsTally ⟨_, hreports⟩
  | analogueRemainAbove fromTick untilTick thresholdUv =>
    have hthreshold := @hinteger "threshold_uv" thresholdUv (by simp [expectationFields])
    obtain ⟨_, hthresholdVolts⟩ := @hvolts thresholdUv (by simp [Expectation.voltages])
    obtain ⟨_, hreports⟩ :=
      reports_analogueRange hstores (hrange rfl) hindex fun value ↦ thresholdUv < value
    simp only [handlerOf, evaluateRemainAbove, hthreshold, hthresholdVolts, bind, Except.bind]
    exact settles_of_reportsTally ⟨_, hreports⟩
  | analogueRemainBelow fromTick untilTick thresholdUv =>
    have hthreshold := @hinteger "threshold_uv" thresholdUv (by simp [expectationFields])
    obtain ⟨_, hthresholdVolts⟩ := @hvolts thresholdUv (by simp [Expectation.voltages])
    obtain ⟨_, hreports⟩ :=
      reports_analogueRange hstores (hrange rfl) hindex fun value ↦ value < thresholdUv
    simp only [handlerOf, evaluateRemainBelow, hthreshold, hthresholdVolts, bind, Except.bind]
    exact settles_of_reportsTally ⟨_, hreports⟩
  | pwmPeriodNear tick periodNs toleranceNs =>
    simp only [Expectation.isPlain, Bool.and_eq_true] at hplain
    have hperiod := @hnatural "period_ns" periodNs (by simp [expectationFields]) hplain.1.2
    have htolerance := @hnatural "tolerance_ns" toleranceNs (by simp [expectationFields]) hplain.2
    simp only [handlerOf, evaluatePeriodNear, hperiod, htolerance, bind, Except.bind]
    exact settles_of_reportsTally
      (reports_pwmPoint hstores (htick rfl) hindex fun measurement _ ↦ rfl)
  | pwmFrequencyNear tick frequency toleranceHz =>
    have hfrequency := @hnumber "frequency_hz" frequency (by simp [expectationFields])
    have htolerance := @hnumber "tolerance_hz" toleranceHz (by simp [expectationFields])
    simp only [handlerOf, evaluateFrequencyNear, hfrequency, htolerance, bind, Except.bind]
    refine settles_of_reportsTally
      (reports_pwmPoint hstores (htick rfl) hindex fun measurement hwaveform ↦ ?_)
    rw [frequencyHz, if_neg hwaveform]
    rfl
  | pwmDutyCycleNear tick dutyCycle dutyCycleTolerance =>
    have hduty := @hnumber "duty_cycle" dutyCycle (by simp [expectationFields])
    have htolerance :=
      @hnumber "duty_cycle_tolerance" dutyCycleTolerance (by simp [expectationFields])
    simp only [handlerOf, evaluateDutyCycleNear, hduty, htolerance, bind, Except.bind]
    exact settles_of_reportsTally
      (reports_pwmPoint hstores (htick rfl) hindex fun measurement _ ↦ rfl)
  | pwmWaveformNear tick frequency frequencyToleranceHz dutyCycle dutyCycleTolerance =>
    have hfrequency := @hnumber "frequency_hz" frequency (by simp [expectationFields])
    have hfrequencyTolerance :=
      @hnumber "frequency_tolerance_hz" frequencyToleranceHz (by simp [expectationFields])
    have hduty := @hnumber "duty_cycle" dutyCycle (by simp [expectationFields])
    have hdutyTolerance :=
      @hnumber "duty_cycle_tolerance" dutyCycleTolerance (by simp [expectationFields])
    simp only [handlerOf, evaluateWaveformNear, hfrequency, hfrequencyTolerance, hduty,
      hdutyTolerance, bind, Except.bind]
    refine settles_of_reportsTally
      (reports_pwmPoint hstores (htick rfl) hindex fun measurement hwaveform ↦ ?_)
    rw [frequencyHz, if_neg hwaveform]
    rfl
  | pwmFrequencyRemainWithin fromTick untilTick minimumHz maximumHz =>
    have hminimum := @hnumber "minimum_hz" minimumHz (by simp [expectationFields])
    have hmaximum := @hnumber "maximum_hz" maximumHz (by simp [expectationFields])
    obtain ⟨_, _, hreports⟩ := reports_metricRange hstores (hrange rfl) hindex
      (fun measurement hwaveform ↦
        show frequencyHz measurement = .ok (measuredFrequency measurement) from if_neg hwaveform)
      "frequency_hz" (isWithinDoubles (doubleOf minimumHz) (doubleOf maximumHz))
    simp only [handlerOf, evaluateFrequencyRemainWithin, hminimum, hmaximum, bind, Except.bind]
    exact settles_of_reportsTally ⟨_, hreports⟩
  | pwmDutyCycleRemainWithin fromTick untilTick minimumDutyCycle maximumDutyCycle =>
    have hminimum := @hnumber "minimum_duty_cycle" minimumDutyCycle (by simp [expectationFields])
    have hmaximum := @hnumber "maximum_duty_cycle" maximumDutyCycle (by simp [expectationFields])
    obtain ⟨_, _, hreports⟩ := reports_metricRange hstores (hrange rfl) hindex
      (fun measurement _ ↦
        show Except.ok (measuredDutyCycle measurement) = .ok (measuredDutyCycle measurement)
          from rfl)
      "duty_cycle" (isWithinDoubles (doubleOf minimumDutyCycle) (doubleOf maximumDutyCycle))
    simp only [handlerOf, evaluateDutyCycleRemainWithin, hminimum, hmaximum, bind, Except.bind]
    exact settles_of_reportsTally ⟨_, hreports⟩

/-- The handler registered for a plain assertion whose voltages can be shown settles its demand,
once the assertion is stored in a capture of some results. -/
theorem settles_evaluateAssertion {run : CapturedRunIR} {results : List TickResult}
    (hstores : Stores run results) {assertion : Assertion}
    (hkind : assertion.expectation.kind = assertion.channel.kind)
    (hordered : assertion.expectation.ticks.1 ≤ assertion.expectation.ticks.2)
    (hfits : fitsInteger assertion.expectation.ticks.2 = true)
    (hprintable : ∀ argument ∈ (compiledAssertion assertion).arguments,
      isPrintable argument.2 = true)
    (hplain : assertion.expectation.isPlain = true)
    (hshown : ∀ microvolts ∈ assertion.expectation.voltages, ShownVolts microvolts) :
    Settles results assertion.expectation.ticks (evaluateAssertion ⟨run⟩ (stored assertion))
      (demandOf results assertion.channel.index assertion.expectation) :=
  settles_of_finite hstores hkind hordered hfits
    (fun argument hargument _ _ ↦ hprintable argument hargument) hplain hshown

/-! ### Handlers that return -/

section Returned

variable {context : EvaluationContext} {assertion : CompiledAssertion} {result : AssertionResult}

/-- A computation that begins with the tick of an assertion has read it if it returns. -/
theorem readsTick {rest : ℤ → Except HilRigError AssertionResult}
    (hreturned : integerArgument assertion "tick" >>= rest = .ok result) :
    ReadsAs assertion "tick" .integer := by
  obtain ⟨tick, htick, -⟩ := bind_eq_ok.1 hreturned
  exact ⟨tick, htick⟩

/-- A computation that begins with the range of an assertion has read it if it returns. -/
theorem readsRange {rest : ℤ → ℤ → Except HilRigError AssertionResult}
    (hreturned : (integerArgument assertion "from_tick" >>= fun fromTick ↦
      integerArgument assertion "until_tick" >>= rest fromTick) = .ok result) :
    ReadsAs assertion "from_tick" .integer ∧ ReadsAs assertion "until_tick" .integer := by
  obtain ⟨fromTick, hfrom, hreturned⟩ := bind_eq_ok.1 hreturned
  obtain ⟨untilTick, huntil, -⟩ := bind_eq_ok.1 hreturned
  exact ⟨⟨fromTick, hfrom⟩, untilTick, huntil⟩

/-- A handler that returns has read its arguments. -/
theorem reads_of_returned {expectation : Expectation}
    (hreturned : handlerOf expectation assertion context = .ok result) :
    ∀ argument ∈ readArguments expectation, ReadsAs assertion argument.1 argument.2 := by
  cases expectation <;>
    simp only [readArguments, List.mem_cons, List.not_mem_nil, or_false, forall_eq_or_imp,
      forall_eq]
  case digitalPoint =>
    obtain ⟨tick, htick, hreturned⟩ := bind_eq_ok.1 hreturned
    obtain ⟨state, hstate, -⟩ := bind_eq_ok.1 hreturned
    exact ⟨⟨tick, htick⟩, state, hstate⟩
  case digitalRemainHigh => exact readsRange hreturned
  case digitalRemainLow => exact readsRange hreturned
  case digitalTransition =>
    obtain ⟨hfrom, huntil⟩ := readsRange hreturned
    obtain ⟨_, _, hreturned⟩ := bind_eq_ok.1 hreturned
    obtain ⟨_, _, hreturned⟩ := bind_eq_ok.1 hreturned
    obtain ⟨fromState, hfromState, hreturned⟩ := bind_eq_ok.1 hreturned
    obtain ⟨toState, htoState, -⟩ := bind_eq_ok.1 hreturned
    exact ⟨hfrom, huntil, ⟨fromState, hfromState⟩, toState, htoState⟩
  case pwmPeriodNear =>
    obtain ⟨period, hperiod, hreturned⟩ := bind_eq_ok.1 hreturned
    obtain ⟨tolerance, htolerance, hreturned⟩ := bind_eq_ok.1 hreturned
    exact ⟨readsTick hreturned, ⟨period, hperiod⟩, tolerance, htolerance⟩
  case pwmFrequencyNear =>
    obtain ⟨frequency, hfrequency, hreturned⟩ := bind_eq_ok.1 hreturned
    obtain ⟨tolerance, htolerance, hreturned⟩ := bind_eq_ok.1 hreturned
    exact ⟨readsTick hreturned, ⟨frequency, hfrequency⟩, tolerance, htolerance⟩
  case pwmDutyCycleNear =>
    obtain ⟨duty, hduty, hreturned⟩ := bind_eq_ok.1 hreturned
    obtain ⟨tolerance, htolerance, hreturned⟩ := bind_eq_ok.1 hreturned
    exact ⟨readsTick hreturned, ⟨duty, hduty⟩, tolerance, htolerance⟩
  case pwmWaveformNear =>
    obtain ⟨frequency, hfrequency, hreturned⟩ := bind_eq_ok.1 hreturned
    obtain ⟨frequencyTolerance, hfrequencyTolerance, hreturned⟩ := bind_eq_ok.1 hreturned
    obtain ⟨duty, hduty, hreturned⟩ := bind_eq_ok.1 hreturned
    obtain ⟨dutyTolerance, hdutyTolerance, hreturned⟩ := bind_eq_ok.1 hreturned
    exact ⟨readsTick hreturned, ⟨frequency, hfrequency⟩, ⟨frequencyTolerance, hfrequencyTolerance⟩,
      ⟨duty, hduty⟩, dutyTolerance, hdutyTolerance⟩
  case pwmFrequencyRemainWithin =>
    obtain ⟨minimum, hminimum, hreturned⟩ := bind_eq_ok.1 hreturned
    obtain ⟨maximum, hmaximum, hreturned⟩ := bind_eq_ok.1 hreturned
    obtain ⟨hfrom, huntil⟩ := readsRange hreturned
    exact ⟨hfrom, huntil, ⟨minimum, hminimum⟩, maximum, hmaximum⟩
  case pwmDutyCycleRemainWithin =>
    obtain ⟨minimum, hminimum, hreturned⟩ := bind_eq_ok.1 hreturned
    obtain ⟨maximum, hmaximum, hreturned⟩ := bind_eq_ok.1 hreturned
    obtain ⟨hfrom, huntil⟩ := readsRange hreturned
    exact ⟨hfrom, huntil, ⟨minimum, hminimum⟩, maximum, hmaximum⟩
  case analogueNear =>
    obtain ⟨target, htarget, hreturned⟩ := bind_eq_ok.1 hreturned
    obtain ⟨tolerance, htolerance, hreturned⟩ := bind_eq_ok.1 hreturned
    obtain ⟨_, _, hreturned⟩ := bind_eq_ok.1 hreturned
    obtain ⟨_, _, hreturned⟩ := bind_eq_ok.1 hreturned
    exact ⟨readsTick hreturned, ⟨target, htarget⟩, tolerance, htolerance⟩
  case analogueWithin =>
    obtain ⟨minimum, hminimum, hreturned⟩ := bind_eq_ok.1 hreturned
    obtain ⟨maximum, hmaximum, hreturned⟩ := bind_eq_ok.1 hreturned
    obtain ⟨_, _, hreturned⟩ := bind_eq_ok.1 hreturned
    obtain ⟨_, _, hreturned⟩ := bind_eq_ok.1 hreturned
    exact ⟨readsTick hreturned, ⟨minimum, hminimum⟩, maximum, hmaximum⟩
  case analogueRemainWithin =>
    obtain ⟨minimum, hminimum, hreturned⟩ := bind_eq_ok.1 hreturned
    obtain ⟨maximum, hmaximum, hreturned⟩ := bind_eq_ok.1 hreturned
    obtain ⟨_, _, hreturned⟩ := bind_eq_ok.1 hreturned
    obtain ⟨_, _, hreturned⟩ := bind_eq_ok.1 hreturned
    obtain ⟨hfrom, huntil⟩ := readsRange hreturned
    exact ⟨hfrom, huntil, ⟨minimum, hminimum⟩, maximum, hmaximum⟩
  case analogueRemainAbove =>
    obtain ⟨threshold, hthreshold, hreturned⟩ := bind_eq_ok.1 hreturned
    obtain ⟨_, _, hreturned⟩ := bind_eq_ok.1 hreturned
    obtain ⟨hfrom, huntil⟩ := readsRange hreturned
    exact ⟨hfrom, huntil, threshold, hthreshold⟩
  case analogueRemainBelow =>
    obtain ⟨threshold, hthreshold, hreturned⟩ := bind_eq_ok.1 hreturned
    obtain ⟨_, _, hreturned⟩ := bind_eq_ok.1 hreturned
    obtain ⟨hfrom, huntil⟩ := readsRange hreturned
    exact ⟨hfrom, huntil, threshold, hthreshold⟩

end Returned

/-! ### Voltages that cannot be shown -/

/-- A computation that begins with two voltages raises unless both can be shown. -/
theorem volts_bind_of_not_shown {first second : ℤ}
    (hshown : ¬(ShownVolts first ∧ ShownVolts second)) (rest : Except HilRigError AssertionResult) :
    (do
      let _ ← volts (some first)
      let _ ← volts (some second)
      rest) = .error voltsOverflow := by
  by_cases hfirst : ShownVolts first
  · obtain ⟨shown, hvolts⟩ := volts_some_of_shown hfirst
    rw [hvolts, ok_bind, volts_of_not_shown fun hsecond ↦ hshown ⟨hfirst, hsecond⟩, error_bind]
  · rw [volts_of_not_shown hfirst, error_bind]

/-- The handler of an assertion raises when one of its voltages cannot be shown. -/
theorem overflows_of_not_shown {context : EvaluationContext} {assertion : Assertion}
    (hkind : assertion.expectation.kind = assertion.channel.kind)
    (hshown : ¬∀ microvolts ∈ assertion.expectation.voltages, ShownVolts microvolts) :
    evaluateAssertion context (stored assertion) = .error voltsOverflow := by
  have hinteger {name : String} {value : ℤ}
      (hfield : (name, FieldValue.int (.plain value)) ∈ expectationFields assertion.expectation) :
      integerArgument (stored assertion) name = .ok value :=
    (integerArgument_eq_ok (List.mem_append_right _ hfield)).2 rfl
  rw [evaluateAssertion_stored hkind]
  generalize assertion.expectation = expectation at hinteger hshown ⊢
  cases expectation with
  | analogueNear tick targetUv toleranceUv =>
    have htarget := @hinteger "target_uv" targetUv (by simp [expectationFields])
    have htolerance := @hinteger "tolerance_uv" toleranceUv (by simp [expectationFields])
    rw [handlerOf, evaluateNear, htarget, ok_bind, htolerance, ok_bind]
    exact volts_bind_of_not_shown (by simpa [Expectation.voltages] using hshown) _
  | analogueWithin tick minimumUv maximumUv =>
    have hminimum := @hinteger "minimum_uv" minimumUv (by simp [expectationFields])
    have hmaximum := @hinteger "maximum_uv" maximumUv (by simp [expectationFields])
    rw [handlerOf, evaluateWithin, hminimum, ok_bind, hmaximum, ok_bind]
    exact volts_bind_of_not_shown (by simpa [Expectation.voltages] using hshown) _
  | analogueRemainWithin fromTick untilTick minimumUv maximumUv =>
    have hminimum := @hinteger "minimum_uv" minimumUv (by simp [expectationFields])
    have hmaximum := @hinteger "maximum_uv" maximumUv (by simp [expectationFields])
    rw [handlerOf, evaluateRemainWithin, hminimum, ok_bind, hmaximum, ok_bind]
    exact volts_bind_of_not_shown (by simpa [Expectation.voltages] using hshown) _
  | analogueRemainAbove fromTick untilTick thresholdUv =>
    have hthreshold := @hinteger "threshold_uv" thresholdUv (by simp [expectationFields])
    rw [handlerOf, evaluateRemainAbove, hthreshold, ok_bind,
      volts_of_not_shown (by simpa [Expectation.voltages] using hshown), error_bind]
  | analogueRemainBelow fromTick untilTick thresholdUv =>
    have hthreshold := @hinteger "threshold_uv" thresholdUv (by simp [expectationFields])
    rw [handlerOf, evaluateRemainBelow, hthreshold, ok_bind,
      volts_of_not_shown (by simpa [Expectation.voltages] using hshown), error_bind]
  | _ => exact absurd (by simp [Expectation.voltages]) hshown

end HilRig.Evaluation
