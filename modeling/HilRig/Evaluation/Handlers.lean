import HilRig.Evaluation.Evaluator
import HilRig.Evaluation.Evidence

/-!
# What the handlers report

Over a capture that stores some results, the queries of a handler are the evidence of these results.
One item of evidence decides a point assertion (`reports_stateAtTick`), and the loop of a range
handler reports the tally of its evidence, with the extremes of what it measured.
-/

set_option autoImplicit false
set_option relaxedAutoImplicit false

namespace HilRig.Evaluation

open HilRig.Models HilRig.Results HilRig.Foundations

/-! ### Queries over stored results -/

/-- The values of a digital input. -/
def digitalOf (channel : ℕ) (result : TickResult) : Option Bool :=
  if h : channel < 10 then result.digitalInputs ⟨channel, h⟩ else none

/-- The values of an analogue input. -/
def analogueOf (channel : ℕ) (result : TickResult) : Option ℤ :=
  if h : channel < 2 then result.analogueInputsUv ⟨channel, h⟩ else none

/-- The measurements of a PWM input. -/
def pwmOf (channel : ℕ) (result : TickResult) : Option PWMMeasurement :=
  if h : channel < 2 then result.pwmInputs ⟨channel, h⟩ else none

/-- The fixed rows of a run are those of some results with distinct ticks, and they fit the
columns. -/
structure Stores (run : CapturedRunIR) (results : List TickResult) : Prop where
  rows : run.file.database.tickResults = results.map tickParameters
  nodup : (results.map TickResult.tick).Nodup
  fits : ∀ result ∈ results, (tickParameters result).fits = true

/-- A query of a channel returns a series of the run, which shows some values of its results. -/
def Reads {Value : Type} (query : Except HilRigError (InputSeries Value)) (run : CapturedRunIR)
    (value : TickResult → Option Value) : Prop :=
  ∃ series : InputSeries Value, query = .ok series ∧ series.run = run ∧
    (fun result : TickResult ↦ series.value result.captured) = value

section Queries

variable {Value : Type} {run : CapturedRunIR} {results : List TickResult} {channel : ℕ}
  {query : Except HilRigError (InputSeries Value)} {value : TickResult → Option Value}

/-- A tick of a channel is read as the evidence of the stored results. -/
theorem Reads.point (hreads : Reads query run value) (hstores : Stores run results) {tick : ℕ}
    (hfits : fitsInteger tick = true) :
    (query >>= fun series ↦ evidencePoint series tick) = .ok (evidenceOf value results tick) := by
  obtain ⟨series, rfl, rfl, rfl⟩ := hreads
  rw [ok_bind]
  exact evidencePoint_eq hstores.rows hfits

/-- A range of a channel is read as the evidence of the stored results. -/
theorem Reads.range (hreads : Reads query run value) (hstores : Stores run results)
    {fromTick untilTick : ℕ} (hle : fromTick ≤ untilTick)
    (hfits : fitsInteger untilTick = true) :
    (query >>= fun series ↦ evidenceRange series fromTick untilTick) =
      .ok (.ofList (evidenceOver value results fromTick untilTick)) := by
  obtain ⟨series, rfl, rfl, rfl⟩ := hreads
  rw [ok_bind]
  exact evidenceRange_eq hstores.rows hstores.nodup hle hfits

theorem reads_digital (hchannel : channel < 10) :
    Reads (run.digitalInput channel) run (digitalOf channel) := by
  refine ⟨⟨run, fun result ↦ result.digitalInputs ⟨channel, hchannel⟩⟩, ?_, rfl,
    funext fun result ↦ by rw [digitalOf, dif_pos hchannel]; rfl⟩
  rw [CapturedRunIR.digitalInput, inputChannel_natCast hchannel]
  rfl

theorem reads_analogue (hchannel : channel < 2) :
    Reads (run.analogueInput channel) run (analogueOf channel) := by
  refine ⟨⟨run, fun result ↦ result.analogueInputsUv ⟨channel, hchannel⟩⟩, ?_, rfl,
    funext fun result ↦ by rw [analogueOf, dif_pos hchannel]; rfl⟩
  rw [CapturedRunIR.analogueInput, inputChannel_natCast hchannel]
  rfl

theorem reads_pwm (hchannel : channel < 2) :
    Reads (run.pwmInput channel) run (pwmOf channel) := by
  refine ⟨⟨run, fun result ↦ result.pwmInputs ⟨channel, hchannel⟩⟩, ?_, rfl,
    funext fun result ↦ by rw [pwmOf, dif_pos hchannel]; rfl⟩
  rw [CapturedRunIR.pwmInput, inputChannel_natCast hchannel]
  rfl

variable (hstores : Stores run results) {tick fromTick untilTick : ℕ}

include hstores

theorem digitalPoint_eq (hchannel : channel < 10) (hfits : fitsInteger tick = true) :
    EvaluationContext.digitalPoint ⟨run⟩ channel tick =
      .ok (evidenceOf (digitalOf channel) results tick) :=
  (reads_digital hchannel).point hstores hfits

theorem digitalRange_eq (hchannel : channel < 10) (hle : fromTick ≤ untilTick)
    (hfits : fitsInteger untilTick = true) :
    EvaluationContext.digitalRange ⟨run⟩ channel fromTick untilTick =
      .ok (.ofList (evidenceOver (digitalOf channel) results fromTick untilTick)) :=
  (reads_digital hchannel).range hstores hle hfits

theorem analoguePoint_eq (hchannel : channel < 2) (hfits : fitsInteger tick = true) :
    EvaluationContext.analoguePoint ⟨run⟩ channel tick =
      .ok (evidenceOf (analogueOf channel) results tick) :=
  (reads_analogue hchannel).point hstores hfits

theorem analogueRange_eq (hchannel : channel < 2) (hle : fromTick ≤ untilTick)
    (hfits : fitsInteger untilTick = true) :
    EvaluationContext.analogueRange ⟨run⟩ channel fromTick untilTick =
      .ok (.ofList (evidenceOver (analogueOf channel) results fromTick untilTick)) :=
  (reads_analogue hchannel).range hstores hle hfits

theorem pwmPoint_eq (hchannel : channel < 2) (hfits : fitsInteger tick = true) :
    EvaluationContext.pwmPoint ⟨run⟩ channel tick =
      .ok (evidenceOf (pwmOf channel) results tick) :=
  (reads_pwm hchannel).point hstores hfits

theorem pwmRange_eq (hchannel : channel < 2) (hle : fromTick ≤ untilTick)
    (hfits : fitsInteger untilTick = true) :
    EvaluationContext.pwmRange ⟨run⟩ channel fromTick untilTick =
      .ok (.ofList (evidenceOver (pwmOf channel) results fromTick untilTick)) :=
  (reads_pwm hchannel).range hstores hle hfits

/-- The analogue values of stored results have 64 bits, so that their volts are shown. -/
theorem shownVolts_evidenceOf {tick : ℤ} :
    ∀ microvolts ∈ (evidenceOf (analogueOf channel) results tick).value, ShownVolts microvolts := by
  intro microvolts hmicrovolts
  obtain ⟨result, hresult, hvalue⟩ := exists_of_value_evidenceOf hmicrovolts
  unfold analogueOf at hvalue
  split at hvalue
  · rename_i hchannel
    have hfits := hstores.fits result hresult
    simp only [TickRow.fits, Bool.and_eq_true, List.all_eq_true] at hfits
    have hcolumn := (hfits.2 ⟨channel, hchannel⟩ (List.mem_finRange _)).1.1
    change fitsColumn (result.analogueInputsUv ⟨channel, hchannel⟩) = true at hcolumn
    rw [hvalue] at hcolumn
    exact shownVolts_of_fits hcolumn
  · cases hvalue

end Queries

/-! ### Ranges -/

/-- An assertion names an inclusive range of ticks. -/
structure NamesRange (assertion : CompiledAssertion) (fromTick untilTick : ℕ) : Prop where
  first : integerArgument assertion "from_tick" = .ok fromTick
  last : integerArgument assertion "until_tick" = .ok untilTick
  reported : ∃ ticks, assertionTicks assertion = .ok ticks
  ordered : fromTick ≤ untilTick
  fits : fitsInteger untilTick = true

/-- An outcome reports the counts of some evidence, with the verdict they give. -/
def ReportsTally {Value : Type} (outcome : Except HilRigError AssertionResult)
    (accepts : Value → Bool) (evidence : List (EvidenceSample Value)) (observed : Fields) : Prop :=
  Reports outcome
    (rangeVerdict (RangeCounts.tally accepts evidence).violationCount
      (RangeCounts.tally accepts evidence).missingCount
      (RangeCounts.tally accepts evidence).invalidCount)
    observed (.tally accepts evidence)

/-- The range evidence that a loop has counted is what its result reports. -/
theorem reportsTally_makeResult {Value : Type} {assertion : CompiledAssertion}
    {fromTick untilTick : ℕ} (hrange : NamesRange assertion fromTick untilTick)
    {accepts : Value → Bool} {evidence : List (EvidenceSample Value)} {counts : RangeCounts}
    (hcounts : counts = .tally accepts evidence) (observed : Fields) :
    ReportsTally (makeResult assertion
      (rangeVerdict counts.violationCount counts.missingCount counts.invalidCount) observed counts)
      accepts evidence observed := by
  obtain ⟨ticks, hticks⟩ := hrange.reported
  rw [hcounts]
  exact reports_makeResult hticks _ _ _

section Ranges

variable {run : CapturedRunIR} {results : List TickResult} {assertion : CompiledAssertion}
  {fromTick untilTick : ℕ}

/-- The counts of a digital range follow its evidence. -/
theorem DigitalCounts.observe_toRangeCounts (expected : Bool) (counts : DigitalCounts)
    (evidence : EvidenceSample Bool) :
    (counts.observe expected evidence).toRangeCounts =
      counts.toRangeCounts.add (fun actual ↦ actual = expected) evidence := by
  obtain ⟨tick, value, condition, problemDetail, missing⟩ := evidence
  cases missing with
  | true => rfl
  | false =>
    cases value with
    | none => rfl
    | some actual =>
      by_cases hactual : actual = expected <;> simp [observe, RangeCounts.add, hactual]

/-- A digital range handler reports its evidence. -/
theorem reports_remainState (hstores : Stores run results)
    (hrange : NamesRange assertion fromTick untilTick) (hchannel : assertion.channel < 10)
    (expected : Bool) :
    ∃ observed, ReportsTally (evaluateRemainState expected assertion ⟨run⟩)
      (fun actual ↦ actual = expected)
      (evidenceOver (digitalOf assertion.channel) results fromTick untilTick) observed := by
  have hcounts := @tally_foldl Bool DigitalCounts
    (fun counts item ↦ counts.observe expected item) (fun counts ↦ counts.toRangeCounts)
    (fun actual ↦ actual = expected) (DigitalCounts.observe_toRangeCounts expected)
    (evidenceOver (digitalOf assertion.channel) results fromTick untilTick) {} rfl
  unfold evaluateRemainState
  simp only [hrange.first, hrange.last, bind, Except.bind,
    digitalRange_eq hstores hchannel hrange.ordered hrange.fits]
  rw [Iteration.loop_ofList fun counts item _ ↦ rfl]
  exact ⟨_, reportsTally_makeResult hrange hcounts _⟩

/-- The counts of an analogue range follow its evidence. -/
theorem Analogue.Counts.observe_toRangeCounts (accepts : ℤ → Bool) (counts : Counts)
    (evidence : EvidenceSample ℤ) :
    (counts.observe accepts evidence).toRangeCounts =
      counts.toRangeCounts.add accepts evidence := by
  obtain ⟨tick, value, condition, problemDetail, missing⟩ := evidence
  cases missing with
  | true => rfl
  | false =>
    cases value with
    | none => rfl
    | some actual =>
      by_cases hactual : accepts actual
      · simp [observe, RangeCounts.add, hactual]
      · cases hfirst : counts.firstFailureTick <;>
          simp [observe, RangeCounts.add, hactual, hfirst]

/-- The value an item of evidence holds when it is valid. -/
def EvidenceSample.measured {Value : Type} (evidence : EvidenceSample Value) : Option Value :=
  if evidence.missing then none else evidence.value

/-- A loop that combines what it has kept with one more value. -/
theorem some_getD_eq_merge {Value : Type} (combine : Value → Value → Value) (kept : Option Value)
    (value : Value) : some ((kept.map fun other ↦ combine other value).getD value) =
      Option.merge combine kept (some value) := by
  cases kept <;> rfl

theorem Analogue.Counts.observe_extremes (accepts : ℤ → Bool) (counts : Counts)
    (evidence : EvidenceSample ℤ) :
    (counts.observe accepts evidence).minimumObservedUv =
        Option.merge min counts.minimumObservedUv evidence.measured ∧
      (counts.observe accepts evidence).maximumObservedUv =
        Option.merge max counts.maximumObservedUv evidence.measured := by
  obtain ⟨tick, value, condition, problemDetail, missing⟩ := evidence
  cases missing with
  | true => simp [observe, EvidenceSample.measured]
  | false =>
    cases value with
    | none => simp [observe, EvidenceSample.measured]
    | some actual =>
      have hmeasured : EvidenceSample.measured
          ⟨tick, some actual, condition, problemDetail, false⟩ = some actual := rfl
      rw [hmeasured, ← some_getD_eq_merge, ← some_getD_eq_merge, observe,
        if_neg Bool.false_ne_true]
      dsimp only
      split_ifs <;> exact ⟨rfl, rfl⟩

/-- The first failure is kept, or it is the value of the item. -/
theorem Analogue.Counts.observe_firstFailureUv (accepts : ℤ → Bool) (counts : Counts)
    (evidence : EvidenceSample ℤ) :
    (counts.observe accepts evidence).firstFailureUv = counts.firstFailureUv ∨
      (counts.observe accepts evidence).firstFailureUv = evidence.value := by
  obtain ⟨tick, value, condition, problemDetail, missing⟩ := evidence
  cases missing with
  | true => exact .inl rfl
  | false =>
    cases value with
    | none => exact .inl rfl
    | some actual =>
      rw [observe, if_neg Bool.false_ne_true]
      dsimp only
      split_ifs
      · exact .inl rfl
      · exact .inr rfl
      · exact .inl rfl

/-- What holds of the values of some evidence holds of the first failure among them. -/
theorem Analogue.Counts.firstFailureUv_foldl {property : ℤ → Prop} (accepts : ℤ → Bool)
    {evidence : List (EvidenceSample ℤ)}
    (hvalues : ∀ item ∈ evidence, ∀ value ∈ item.value, property value) {counts : Counts}
    (hcounts : ∀ value ∈ counts.firstFailureUv, property value) :
    ∀ value ∈ (evidence.foldl (fun counts item ↦ counts.observe accepts item)
      counts).firstFailureUv, property value := by
  induction evidence generalizing counts with
  | nil => exact hcounts
  | cons item evidence ih =>
    rw [List.forall_mem_cons] at hvalues
    refine ih hvalues.2 ?_
    rcases counts.observe_firstFailureUv accepts item with hkept | hfirst
    · rwa [hkept]
    · rw [hfirst]
      exact hvalues.1

/-- An analogue range handler reports its evidence, with the extremes of its valid samples. -/
theorem reports_analogueRange (hstores : Stores run results)
    (hrange : NamesRange assertion fromTick untilTick) (hchannel : assertion.channel < 2)
    (accepts : ℤ → Bool) :
    ∃ firstFailure, ReportsTally (Analogue.evaluateRange accepts assertion ⟨run⟩) accepts
      (evidenceOver (analogueOf assertion.channel) results fromTick untilTick)
      [("minimum_uv", optionalInteger ((evidenceOver (analogueOf assertion.channel) results
          fromTick untilTick).filterMap EvidenceSample.measured).min?),
        ("maximum_uv", optionalInteger ((evidenceOver (analogueOf assertion.channel) results
          fromTick untilTick).filterMap EvidenceSample.measured).max?),
        ("first_failure_uv", firstFailure)] := by
  set evidence := evidenceOver (analogueOf assertion.channel) results fromTick untilTick
  have hcounts := @tally_foldl ℤ Analogue.Counts
    (fun counts item ↦ counts.observe accepts item) (fun counts ↦ counts.toRangeCounts)
    accepts (Analogue.Counts.observe_toRangeCounts accepts) evidence {} rfl
  have hminimum := @least_foldl _ _ _ _
    (fun counts item ↦ Analogue.Counts.observe accepts counts item)
    (fun counts ↦ counts.minimumObservedUv) _
    (fun counts item ↦ (counts.observe_extremes accepts item).1) evidence {}
  have hmaximum := @greatest_foldl _ _ _ _
    (fun counts item ↦ Analogue.Counts.observe accepts counts item)
    (fun counts ↦ counts.maximumObservedUv) _
    (fun counts item ↦ (counts.observe_extremes accepts item).2) evidence {}
  change _ = (evidence.filterMap _).min? at hminimum
  change _ = (evidence.filterMap _).max? at hmaximum
  unfold Analogue.evaluateRange
  simp only [hrange.first, hrange.last, bind, Except.bind,
    analogueRange_eq hstores hchannel hrange.ordered hrange.fits]
  have hshown := @Analogue.Counts.firstFailureUv_foldl ShownVolts accepts evidence
    (fun item hitem ↦ by
      obtain ⟨tick, -, -, rfl⟩ := mem_evidenceOver.1 hitem
      exact shownVolts_evidenceOf hstores) {} fun _ hvalue ↦ absurd hvalue (Option.not_mem_none _)
  obtain ⟨shown, hvolts⟩ := volts_of_shown hshown
  rw [Iteration.loop_ofList fun counts item _ ↦ rfl]
  dsimp only
  rw [hvolts]
  refine ⟨optionalInteger (evidence.foldl (fun counts item ↦ counts.observe accepts item)
    ({} : Analogue.Counts)).firstFailureUv, ?_⟩
  rw [← hminimum, ← hmaximum]
  exact reportsTally_makeResult hrange hcounts _

/-- The value of a metric that an item of evidence measures: it is valid and has a waveform. -/
def metricMeasured (metric : PWMMeasurement → ℚ) (evidence : EvidenceSample PWMMeasurement) :
    Option ℚ :=
  evidence.measured.bind fun measurement ↦
    if measurement.periodNs = 0 then none else some (metric measurement)

/-- The frequency of a measurement with a waveform. -/
def measuredFrequency (measurement : PWMMeasurement) : ℚ :=
  toDouble (1000000000 / measurement.periodNs)

/-- A measurement is accepted when there is a waveform and it passes a test. -/
def waveformAccepted (test : PWMMeasurement → Bool) (measurement : PWMMeasurement) : Bool :=
  measurement.periodNs ≠ 0 && test measurement

section Metric

variable {metric : PWMMeasurement → Except HilRigError ℚ} {value : PWMMeasurement → ℚ}

/-- One more item of PWM evidence is counted without an error, when the metric has a value wherever
there is a waveform. -/
theorem Pwm.Counts.observe_eq_ok
    (hmetric : ∀ measurement, measurement.periodNs ≠ 0 →
      metric measurement = .ok (value measurement))
    (accepts : ℚ → Bool) (counts : Counts) (evidence : EvidenceSample PWMMeasurement) :
    ∃ after, counts.observe metric accepts evidence = .ok after ∧
      after.toRangeCounts = counts.toRangeCounts.add
        (waveformAccepted fun measurement ↦ accepts (value measurement)) evidence ∧
      after.minimumObserved =
        Option.merge min counts.minimumObserved (metricMeasured value evidence) ∧
      after.maximumObserved =
        Option.merge max counts.maximumObserved (metricMeasured value evidence) := by
  obtain ⟨tick, held, condition, problemDetail, missing⟩ := evidence
  cases missing with
  | true => exact ⟨_, rfl, rfl, by simp [metricMeasured, EvidenceSample.measured],
      by simp [metricMeasured, EvidenceSample.measured]⟩
  | false =>
    cases held with
    | none => exact ⟨_, rfl, rfl, by simp [metricMeasured, EvidenceSample.measured],
        by simp [metricMeasured, EvidenceSample.measured]⟩
    | some measurement =>
      by_cases hperiod : measurement.periodNs = 0
      · refine ⟨_, if_pos hperiod, ?_, ?_, ?_⟩ <;>
          simp [RangeCounts.add, waveformAccepted, metricMeasured, EvidenceSample.measured, hperiod]
      · have hvalid : EvidenceSample.measured
            ⟨tick, some measurement, condition, problemDetail, false⟩ = some measurement := rfl
        have hmeasured : metricMeasured value
            ⟨tick, some measurement, condition, problemDetail, false⟩ =
              some (value measurement) := by simp [metricMeasured, hvalid, hperiod]
        rw [hmeasured]
        simp only [observe, hperiod, hmetric measurement hperiod, bind, Except.bind, if_false,
          Bool.false_eq_true]
        have hminimum := some_getD_eq_merge min counts.minimumObserved (value measurement)
        have hmaximum := some_getD_eq_merge max counts.maximumObserved (value measurement)
        by_cases haccepted : accepts (value measurement) = true
        · refine ⟨_, if_pos haccepted, ?_, hminimum, hmaximum⟩
          simp [RangeCounts.add, waveformAccepted, hperiod, haccepted]
        · rw [if_neg haccepted]
          by_cases hfirst : counts.firstFailureTick.isNone = true
          · refine ⟨_, if_pos hfirst, ?_, hminimum, hmaximum⟩
            simp [RangeCounts.add, waveformAccepted, haccepted, Option.isNone_iff_eq_none.1 hfirst]
          · obtain ⟨first, hsome⟩ := Option.ne_none_iff_exists'.1
              (mt Option.isNone_iff_eq_none.2 hfirst)
            refine ⟨_, if_neg hfirst, ?_, hminimum, hmaximum⟩
            simp [RangeCounts.add, waveformAccepted, haccepted, hsome]

/-- A PWM range handler reports its evidence, with the extremes of what it measured. -/
theorem reports_metricRange (hstores : Stores run results)
    (hrange : NamesRange assertion fromTick untilTick) (hchannel : assertion.channel < 2)
    (hmetric : ∀ measurement, measurement.periodNs ≠ 0 →
      metric measurement = .ok (value measurement))
    (metricName : String) (accepts : ℚ → Bool) :
    ∃ firstFailure noWaveform,
      ReportsTally (Pwm.evaluateMetricRange metricName metric accepts assertion ⟨run⟩)
        (waveformAccepted fun measurement ↦ accepts (value measurement))
        (evidenceOver (pwmOf assertion.channel) results fromTick untilTick)
        [(s!"minimum_{metricName}", optionalDouble ((evidenceOver (pwmOf assertion.channel) results
            fromTick untilTick).filterMap (metricMeasured value)).min?),
          (s!"maximum_{metricName}", optionalDouble ((evidenceOver (pwmOf assertion.channel) results
            fromTick untilTick).filterMap (metricMeasured value)).max?),
          (s!"first_failure_{metricName}", firstFailure),
          ("no_waveform_sample_count", noWaveform)] := by
  set evidence := evidenceOver (pwmOf assertion.channel) results fromTick untilTick
  choose next hnext hadd hleast hgreatest using Pwm.Counts.observe_eq_ok hmetric accepts
  have hcounts := @tally_foldl PWMMeasurement Pwm.Counts next (fun counts ↦ counts.toRangeCounts)
    _ hadd evidence {} rfl
  have hminimum := @least_foldl _ _ _ _ next (fun counts ↦ counts.minimumObserved) _ hleast
    evidence {}
  have hmaximum := @greatest_foldl _ _ _ _ next (fun counts ↦ counts.maximumObserved) _ hgreatest
    evidence {}
  change _ = (evidence.filterMap _).min? at hminimum
  change _ = (evidence.filterMap _).max? at hmaximum
  unfold Pwm.evaluateMetricRange
  simp only [hrange.first, hrange.last, bind, Except.bind,
    pwmRange_eq hstores hchannel hrange.ordered hrange.fits]
  rw [Iteration.loop_ofList fun counts item _ ↦ hnext counts item]
  refine ⟨optionalDouble (evidence.foldl next {}).firstFailureValue,
    .int (evidence.foldl next {}).noWaveformCount, ?_⟩
  rw [← hminimum, ← hmaximum]
  exact reportsTally_makeResult hrange hcounts _

end Metric

/-- The search for a transition reports its counts and what it found. -/
theorem reports_transition (hstores : Stores run results)
    (hrange : NamesRange assertion fromTick untilTick) (hchannel : assertion.channel < 10)
    {fromState toState : Bool} (hfrom : stateArgument assertion "from_state" = .ok fromState)
    (hto : stateArgument assertion "to_state" = .ok toState) :
    Reports (evaluateTransition assertion ⟨run⟩)
      (transitionVerdict (searchOver fromState toState
        (evidenceOver (digitalOf assertion.channel) results fromTick untilTick)))
      [("high_sample_count", .int (searchOver fromState toState
          (evidenceOver (digitalOf assertion.channel) results fromTick untilTick)).highCount),
        ("low_sample_count", .int (searchOver fromState toState
          (evidenceOver (digitalOf assertion.channel) results fromTick untilTick)).lowCount),
        ("transition_from_tick", optionalInteger ((searchOver fromState toState
          (evidenceOver (digitalOf assertion.channel) results fromTick
            untilTick)).transition.map Prod.fst)),
        ("transition_to_tick", optionalInteger ((searchOver fromState toState
          (evidenceOver (digitalOf assertion.channel) results fromTick
            untilTick)).transition.map Prod.snd))]
      { (searchOver fromState toState (evidenceOver (digitalOf assertion.channel) results fromTick
          untilTick)).toRangeCounts with
        violationCount := if transitionVerdict (searchOver fromState toState
          (evidenceOver (digitalOf assertion.channel) results fromTick untilTick)) = .fail
            then 1 else 0 } := by
  obtain ⟨ticks, hticks⟩ := hrange.reported
  unfold evaluateTransition
  simp only [hrange.first, hrange.last, hfrom, hto, bind, Except.bind,
    digitalRange_eq hstores hchannel hrange.ordered hrange.fits]
  rw [Iteration.loop_ofList fun search item _ ↦ rfl]
  exact reports_makeResult hticks _ _ _

end Ranges

/-! ### Single ticks -/

/-- An assertion names one tick. -/
structure NamesTick (assertion : CompiledAssertion) (tick : ℕ) : Prop where
  fits : fitsInteger tick = true
  tick : integerArgument assertion "tick" = .ok tick
  reported : ∃ ticks, assertionTicks assertion = .ok ticks

/-- One tick is a range of its own. -/
theorem evidenceOver_self {Value : Type} (value : TickResult → Option Value)
    (results : List TickResult) (tick : ℕ) :
    evidenceOver value results tick tick = [evidenceOf value results tick] := by
  rw [evidenceOver, range_eq_cons (by omega), range_eq_nil le_rfl, List.map_singleton]

section Points

variable {Value : Type} {assertion : CompiledAssertion} {evidence : EvidenceSample Value}
  {tick : ℕ}

/-- Evidence that is missing or invalid is reported as it is, and other evidence has a value. -/
theorem unavailablePointResult_cases (hnames : NamesTick assertion tick)
    (accepts : Value → Bool) :
    (∃ result observed, unavailablePointResult assertion evidence = .ok (some result) ∧
      ReportsTally (.ok result) accepts [evidence] observed) ∨
    ∃ value, unavailablePointResult assertion evidence = .ok none ∧
      evidence.missing = false ∧ evidence.value = some value := by
  obtain ⟨ticks, hticks⟩ := hnames.reported
  obtain ⟨position, value, condition, problemDetail, missing⟩ := evidence
  cases missing with
  | true =>
    obtain ⟨result, hresult, hreports⟩ := reports_makeResult hticks .inconclusive
      [("tick", .int position), ("availability", .str "missing")] { missingCount := 1 }
    refine .inl ⟨result, _, ?_, result, rfl, hreports⟩
    show some <$> makeResult _ _ _ _ = _
    rw [hresult]
    rfl
  | false =>
    cases value with
    | none =>
      obtain ⟨result, hresult, hreports⟩ := reports_makeResult hticks .inconclusive
        [("tick", .int position), ("availability", .str "invalid"),
          ("condition", (condition.map fun condition ↦ IRScalar.str condition.value).getD .none),
          ("problem_detail", optionalInteger (problemDetail.map Int.ofNat))] { invalidCount := 1 }
      refine .inl ⟨result, _, ?_, result, rfl, hreports⟩
      show some <$> makeResult _ _ _ _ = _
      rw [hresult]
      rfl
    | some value => exact .inr ⟨value, rfl, rfl, rfl⟩

/-- The result of a valid sample reports it. -/
theorem reportsTally_pointCounts (hnames : NamesTick assertion tick) {accepts : Value → Bool}
    {value : Value} (htick : evidence.tick = tick) (hmissing : evidence.missing = false)
    (hvalue : evidence.value = some value) {verdict : EvaluationVerdict}
    (hverdict : verdict = if accepts value then .pass else .fail) (observed : Fields) :
    ReportsTally (makeResult assertion verdict observed (pointCounts tick verdict)) accepts
      [evidence] observed := by
  obtain ⟨ticks, hticks⟩ := hnames.reported
  obtain ⟨position, held, condition, problemDetail, missing⟩ := evidence
  dsimp only at htick hmissing hvalue
  subst htick hmissing hvalue hverdict
  by_cases haccepted : accepts value = true
  · have htally : RangeCounts.tally accepts
        [⟨tick, some value, condition, problemDetail, false⟩] = pointCounts tick .pass := by
      simp [RangeCounts.tally, EvidenceSample.valid, EvidenceSample.invalid,
        EvidenceSample.violates, pointCounts, haccepted]
    rw [if_pos haccepted, ReportsTally, htally]
    exact reports_makeResult hticks _ _ _
  · have htally : RangeCounts.tally accepts
        [⟨tick, some value, condition, problemDetail, false⟩] = pointCounts tick .fail := by
      simp [RangeCounts.tally, EvidenceSample.valid, EvidenceSample.invalid,
        EvidenceSample.violates, pointCounts, haccepted]
    rw [if_neg haccepted, ReportsTally, htally]
    exact reports_makeResult hticks _ _ _

variable {run : CapturedRunIR} {results : List TickResult}

/-- The digital point handler reports its evidence. -/
theorem reports_stateAtTick (hstores : Stores run results) (hnames : NamesTick assertion tick)
    (hchannel : assertion.channel < 10) {expected : Bool}
    (hexpected : stateArgument assertion "expected_state" = .ok expected) :
    ∃ observed, ReportsTally (evaluateStateAtTick assertion ⟨run⟩)
      (fun actual ↦ actual = expected)
      (evidenceOver (digitalOf assertion.channel) results tick tick) observed := by
  rw [evidenceOver_self]
  unfold evaluateStateAtTick
  simp only [hnames.tick, hexpected, bind, Except.bind,
    digitalPoint_eq hstores hchannel hnames.fits]
  rcases @unavailablePointResult_cases Bool assertion
    (evidenceOf (digitalOf assertion.channel) results tick) tick hnames
    (fun actual ↦ actual = expected) with
    ⟨result, observed, hresult, hreports⟩ | ⟨value, hnone, hmissing, hvalue⟩
  · rw [hresult]
    exact ⟨observed, hreports⟩
  · rw [hnone]
    refine ⟨_, reportsTally_pointCounts hnames evidenceOf_tick hmissing hvalue ?_ _⟩
    simp [hvalue]

/-- An analogue point handler reports its evidence. -/
theorem reports_analoguePoint (hstores : Stores run results) (hnames : NamesTick assertion tick)
    (hchannel : assertion.channel < 2) (accepts : ℤ → Bool) :
    ∃ observed, ReportsTally (Analogue.evaluatePoint accepts assertion ⟨run⟩) accepts
      (evidenceOver (analogueOf assertion.channel) results tick tick) observed := by
  rw [evidenceOver_self]
  unfold Analogue.evaluatePoint
  simp only [hnames.tick, bind, Except.bind, analoguePoint_eq hstores hchannel hnames.fits]
  rcases @unavailablePointResult_cases ℤ assertion
    (evidenceOf (analogueOf assertion.channel) results tick) tick hnames accepts with
    ⟨result, observed, hresult, hreports⟩ | ⟨value, hnone, hmissing, hvalue⟩
  · rw [hresult]
    exact ⟨observed, hreports⟩
  · have hshown := @shownVolts_evidenceOf run results assertion.channel hstores tick
    obtain ⟨shown, hvolts⟩ := volts_of_shown hshown
    rw [hvalue] at hvolts
    rw [hnone]
    dsimp only
    rw [hvalue, Option.getD_some, hvolts]
    refine ⟨_, reportsTally_pointCounts hnames evidenceOf_tick hmissing hvalue ?_ _⟩
    rfl

/-- A measurement is shown without an error. -/
theorem measurementObserved_eq_ok (measurement : PWMMeasurement) :
    ∃ observed, measurementObserved measurement = .ok observed := by
  unfold measurementObserved frequencyHz
  by_cases hperiod : measurement.periodNs = 0
  · rw [if_pos hperiod]
    exact ⟨_, rfl⟩
  · rw [if_neg hperiod, if_neg hperiod]
    exact ⟨_, rfl⟩

/-- A PWM point handler reports its evidence, when its test returns wherever there is a
waveform. -/
theorem reports_pwmPoint (hstores : Stores run results) (hnames : NamesTick assertion tick)
    (hchannel : assertion.channel < 2) {accepts : PWMMeasurement → Except HilRigError Bool}
    {test : PWMMeasurement → Bool}
    (haccepts : ∀ measurement, measurement.periodNs ≠ 0 →
      accepts measurement = .ok (test measurement)) :
    ∃ observed, ReportsTally (Pwm.evaluatePoint accepts assertion ⟨run⟩) (waveformAccepted test)
      (evidenceOver (pwmOf assertion.channel) results tick tick) observed := by
  rw [evidenceOver_self]
  unfold Pwm.evaluatePoint
  simp only [hnames.tick, bind, Except.bind, pwmPoint_eq hstores hchannel hnames.fits]
  rcases @unavailablePointResult_cases PWMMeasurement assertion
    (evidenceOf (pwmOf assertion.channel) results tick) tick hnames (waveformAccepted test) with
    ⟨result, observed, hresult, hreports⟩ | ⟨measurement, hnone, hmissing, hvalue⟩
  · rw [hresult]
    exact ⟨observed, hreports⟩
  · obtain ⟨fields, hfields⟩ := measurementObserved_eq_ok measurement
    rw [hnone, hvalue]
    dsimp only
    rw [hfields]
    dsimp only
    by_cases hperiod : measurement.periodNs = 0
    · rw [if_pos hperiod]
      refine ⟨_, reportsTally_pointCounts hnames evidenceOf_tick hmissing hvalue ?_ _⟩
      simp [waveformAccepted, hperiod]
    · rw [if_neg hperiod, haccepts measurement hperiod]
      refine ⟨_, reportsTally_pointCounts hnames evidenceOf_tick hmissing hvalue ?_ _⟩
      simp [waveformAccepted, hperiod]

end Points

end HilRig.Evaluation
