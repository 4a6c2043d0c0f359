import HilRig.Evaluation.Demands
import Mathlib.Order.Interval.Finset.Nat

/-!
# Range results in terms of stored rows

`DescribesRange` says what a range result counts, directly in terms of the rows of the capture: the
ticks of the range without a row, those with the row of an execution problem, and those whose sample
is not accepted, with the least of them. The seven range handlers describe their ranges
(`describesRange_handlers`), and the search for a transition finds the first one between adjacent
stored samples (`evaluateTransition_result`).
-/

set_option autoImplicit false
set_option relaxedAutoImplicit false

namespace HilRig.Evaluation

open HilRig.Models HilRig.Results HilRig.Foundations

/-! ### Rows of a range -/

section Rows

variable {Value : Type} {value : TickResult → Option Value} {results : List TickResult}

/-- A tick has a row. -/
def HasRow (results : List TickResult) (tick : ℕ) : Prop :=
  ∃ row ∈ results, row.tick = tick

/-- The row of a tick is that of an execution problem. -/
def HasProblem (results : List TickResult) (tick : ℕ) : Prop :=
  ∃ row ∈ results, row.tick = tick ∧ row.condition = .executionProblem

/-- The row of a tick is valid and holds a sample. -/
def HasSample (value : TickResult → Option Value) (results : List TickResult) (tick : ℕ)
    (sample : Value) : Prop :=
  ∃ row ∈ results, row.tick = tick ∧ row.condition ≠ .executionProblem ∧ value row = some sample

/-- The valid row of a tick holds a sample that is not accepted. -/
def HasViolation (value : TickResult → Option Value) (accepts : Value → Bool)
    (results : List TickResult) (tick : ℕ) : Prop :=
  ∃ sample, HasSample value results tick sample ∧ accepts sample = false

/-- The values of a channel are those of the valid rows. -/
def IsInput (value : TickResult → Option Value) : Prop :=
  ∀ row, value row = none ↔ row.condition = .executionProblem

/-- The only row of a tick is the one that is found. -/
theorem evidenceOf_row (hnodup : (results.map TickResult.tick).Nodup) {row : TickResult}
    (hrow : row ∈ results) :
    evidenceOf value results row.tick =
      ⟨row.tick, value row, some row.condition, row.problemDetail, false⟩ := by
  have hfound : results.find? (fun other ↦ other.tick = row.tick) = some row :=
    find?_of_unique hrow (decide_eq_true rfl) fun other hother htick ↦
      List.inj_on_of_nodup_map hnodup hother hrow (of_decide_eq_true htick)
  rw [evidenceOf_natCast, hfound]

theorem evidenceOf_of_not_hasRow {tick : ℕ} (habsent : ¬HasRow results tick) :
    evidenceOf value results tick = .absent tick := by
  have hnone : results.find? (fun row ↦ row.tick = tick) = none :=
    List.find?_eq_none.2 fun row hrow htick ↦ habsent ⟨row, hrow, of_decide_eq_true htick⟩
  rw [evidenceOf_natCast, hnone]

theorem missing_evidenceOf_iff (hnodup : (results.map TickResult.tick).Nodup) {tick : ℕ} :
    (evidenceOf value results tick).missing = true ↔ ¬HasRow results tick := by
  by_cases hrow : HasRow results tick
  · obtain ⟨row, hmem, rfl⟩ := hrow
    rw [evidenceOf_row hnodup hmem]
    exact iff_of_false Bool.false_ne_true (not_not.2 ⟨row, hmem, rfl⟩)
  · rw [evidenceOf_of_not_hasRow hrow]
    exact iff_of_true rfl hrow

theorem measured_evidenceOf_iff (hnodup : (results.map TickResult.tick).Nodup)
    (hinput : IsInput value) {tick : ℕ} {sample : Value} :
    (evidenceOf value results tick).measured = some sample ↔
      HasSample value results tick sample := by
  by_cases hrow : HasRow results tick
  · obtain ⟨row, hmem, rfl⟩ := hrow
    rw [evidenceOf_row hnodup hmem]
    constructor
    · intro hvalue
      change value row = some sample at hvalue
      refine ⟨row, hmem, rfl, fun hproblem ↦ ?_, hvalue⟩
      rw [(hinput row).2 hproblem] at hvalue
      cases hvalue
    · rintro ⟨other, hother, htick, -, hvalue⟩
      rw [List.inj_on_of_nodup_map hnodup hother hmem htick] at hvalue
      exact hvalue
  · rw [evidenceOf_of_not_hasRow hrow]
    refine iff_of_false (fun habsurd ↦ by cases habsurd) ?_
    rintro ⟨row, hmem, htick, -⟩
    exact hrow ⟨row, hmem, htick⟩

theorem invalid_evidenceOf_iff (hnodup : (results.map TickResult.tick).Nodup)
    (hinput : IsInput value) {tick : ℕ} :
    (evidenceOf value results tick).invalid = true ↔ HasProblem results tick := by
  by_cases hrow : HasRow results tick
  · obtain ⟨row, hmem, rfl⟩ := hrow
    rw [evidenceOf_row hnodup hmem]
    show (value row).isNone = true ↔ _
    rw [Option.isNone_iff_eq_none, hinput row]
    constructor
    · exact fun hproblem ↦ ⟨row, hmem, rfl, hproblem⟩
    · rintro ⟨other, hother, htick, hproblem⟩
      rwa [List.inj_on_of_nodup_map hnodup hother hmem htick] at hproblem
  · rw [evidenceOf_of_not_hasRow hrow]
    refine iff_of_false (fun habsurd ↦ by cases habsurd) ?_
    rintro ⟨row, hmem, htick, -⟩
    exact hrow ⟨row, hmem, htick⟩

theorem violates_evidenceOf_iff (hnodup : (results.map TickResult.tick).Nodup)
    (hinput : IsInput value) {accepts : Value → Bool} {tick : ℕ} :
    (evidenceOf value results tick).violates accepts = true ↔
      HasViolation value accepts results tick := by
  have hmeasured : (evidenceOf value results tick).violates accepts =
      (evidenceOf value results tick).measured.any fun sample ↦ !accepts sample := by
    unfold EvidenceSample.violates EvidenceSample.measured
    cases (evidenceOf value results tick).missing <;> rfl
  rw [hmeasured, Option.any_eq_true]
  constructor
  · rintro ⟨sample, hsample, hrefused⟩
    exact ⟨sample, (measured_evidenceOf_iff hnodup hinput).1 hsample, by simpa using hrefused⟩
  · rintro ⟨sample, hsample, hrefused⟩
    exact ⟨sample, (measured_evidenceOf_iff hnodup hinput).2 hsample, by simpa using hrefused⟩

/-! ### Counting ticks -/

theorem evidenceOver_eq (fromTick untilTick : ℕ) :
    evidenceOver value results fromTick untilTick =
      (List.range' fromTick (untilTick + 1 - fromTick)).map fun tick : ℕ ↦
        evidenceOf value results tick := by
  have hcount : ((untilTick : ℤ) + 1 - fromTick).toNat = untilTick + 1 - fromTick := by omega
  rw [evidenceOver, Int.range, hcount, List.range'_eq_map_range, List.map_map, List.map_map]
  rfl

/-- The evidence of a kind in a range is that of the ticks where it is of that kind. -/
theorem countP_evidenceOver {kind : EvidenceSample Value → Bool} {property : ℕ → Prop}
    [DecidablePred property]
    (hkind : ∀ tick : ℕ, kind (evidenceOf value results tick) = true ↔ property tick)
    (fromTick untilTick : ℕ) :
    (evidenceOver value results fromTick untilTick).countP kind =
      ((Finset.Icc fromTick untilTick).filter property).card := by
  have hfilter : (List.range' fromTick (untilTick + 1 - fromTick)).filter
      (kind ∘ fun tick : ℕ ↦ evidenceOf value results tick) =
        (List.range' fromTick (untilTick + 1 - fromTick)).filter fun tick ↦ property tick :=
    List.filter_congr fun tick _ ↦ Bool.eq_iff_iff.2 ((hkind tick).trans decide_eq_true_iff.symm)
  rw [evidenceOver_eq, List.countP_map, List.countP_eq_length_filter, hfilter]
  rfl

/-- The first evidence of a range that is not accepted is that of the least such tick. -/
theorem firstFailure_evidenceOver (hnodup : (results.map TickResult.tick).Nodup)
    (hinput : IsInput value) {accepts : Value → Bool} {fromTick untilTick : ℕ} {tick : ℤ} :
    (RangeCounts.tally accepts
        (evidenceOver value results fromTick untilTick)).firstFailureTick = some tick ↔
      ∃ first : ℕ, tick = first ∧ IsLeast {failing | fromTick ≤ failing ∧ failing ≤ untilTick ∧
        HasViolation value accepts results failing} first := by
  have hfound : (RangeCounts.tally accepts
      (evidenceOver value results fromTick untilTick)).firstFailureTick =
        ((List.range' fromTick (untilTick + 1 - fromTick)).find? fun failing : ℕ ↦
          (evidenceOf value results failing).violates accepts).map Int.ofNat := by
    show (evidenceOver value results fromTick untilTick).findSome? _ = _
    rw [evidenceOver_eq, List.findSome?_map]
    generalize List.range' fromTick (untilTick + 1 - fromTick) = ticks
    induction ticks with
    | nil => rfl
    | cons tick ticks ih =>
      rw [List.findSome?_cons, List.find?_cons, ih]
      by_cases hviolates : (evidenceOf value results tick).violates accepts = true
      · simp [hviolates]
      · simp [hviolates]
  rw [hfound, Option.map_eq_some_iff]
  constructor
  · rintro ⟨first, hfirst, rfl⟩
    obtain ⟨hviolates, hmem, hbefore⟩ := List.find?_range'_eq_some.1 hfirst
    obtain ⟨hfrom, huntil⟩ := List.mem_range'_1.1 hmem
    refine ⟨first, rfl, ⟨hfrom, by omega, (violates_evidenceOf_iff hnodup hinput).1 hviolates⟩, ?_⟩
    rintro failing ⟨hfailing, -, hviolation⟩
    by_contra hlt
    have haccepted := hbefore failing hfailing (not_le.1 hlt)
    rw [(violates_evidenceOf_iff hnodup hinput).2 hviolation] at haccepted
    cases haccepted
  · rintro ⟨first, rfl, ⟨hfrom, huntil, hviolation⟩, hleast⟩
    refine ⟨first, List.find?_range'_eq_some.2
      ⟨(violates_evidenceOf_iff hnodup hinput).2 hviolation,
        List.mem_range'_1.2 ⟨hfrom, by omega⟩, fun failing hfailing hlt ↦ ?_⟩, rfl⟩
    rw [Bool.not_eq_true', Bool.eq_false_iff]
    intro hviolates
    exact absurd (hleast ⟨hfailing, by omega, (violates_evidenceOf_iff hnodup hinput).1 hviolates⟩)
      (not_le.2 hlt)

/-- The values that the evidence of a range has are those its ticks have. -/
theorem mem_filterMap_evidenceOver {Metric : Type}
    {metric : EvidenceSample Value → Option Metric} {measured : Metric}
    {fromTick untilTick : ℕ} :
    measured ∈ (evidenceOver value results fromTick untilTick).filterMap metric ↔
      ∃ tick, fromTick ≤ tick ∧ tick ≤ untilTick ∧
        metric (evidenceOf value results tick) = some measured := by
  rw [List.mem_filterMap]
  constructor
  · rintro ⟨item, hitem, hmetric⟩
    obtain ⟨tick, hfrom, huntil, rfl⟩ := mem_evidenceOver.1 hitem
    exact ⟨tick, hfrom, huntil, hmetric⟩
  · rintro ⟨tick, hfrom, huntil, hmetric⟩
    exact ⟨_, mem_evidenceOver.2 ⟨tick, hfrom, huntil, rfl⟩, hmetric⟩

end Rows

/-! ### Range results -/

open Classical in
/-- A result says of an inclusive range of ticks what the rows of a capture hold. -/
structure DescribesRange {Value : Type} (result : AssertionResult) (results : List TickResult)
    (value : TickResult → Option Value) (accepts : Value → Bool) (fromTick untilTick : ℕ) :
    Prop where
  total : result.validSampleCount + result.missingSampleCount + result.invalidSampleCount =
    untilTick - fromTick + 1
  missing : result.missingSampleCount =
    ((Finset.Icc fromTick untilTick).filter fun tick ↦ ¬HasRow results tick).card
  invalid : result.invalidSampleCount =
    ((Finset.Icc fromTick untilTick).filter fun tick ↦ HasProblem results tick).card
  violations : result.violationCount =
    ((Finset.Icc fromTick untilTick).filter fun tick ↦
      HasViolation value accepts results tick).card
  firstFailure : ∀ tick, result.firstFailureTick = some tick ↔
    ∃ first : ℕ, tick = first ∧ IsLeast {failing | fromTick ≤ failing ∧ failing ≤ untilTick ∧
      HasViolation value accepts results failing} first
  fail : result.verdict = .fail ↔ 0 < result.violationCount
  inconclusive : result.verdict = .inconclusive ↔ result.violationCount = 0 ∧
    0 < result.missingSampleCount + result.invalidSampleCount
  pass : result.verdict = .pass ↔ result.violationCount = 0 ∧
    result.missingSampleCount + result.invalidSampleCount = 0

/-- The samples of the valid rows of a range. -/
def samplesWithin {Value : Type} (value : TickResult → Option Value) (results : List TickResult)
    (fromTick untilTick : ℕ) : Set Value :=
  {sample | ∃ tick, fromTick ≤ tick ∧ tick ≤ untilTick ∧ HasSample value results tick sample}

/-- The values of a metric over the waveforms of a range. -/
def waveformsWithin (metric : PWMMeasurement → ℚ) (channel : ℕ) (results : List TickResult)
    (fromTick untilTick : ℕ) : Set ℚ :=
  {measured | ∃ tick, fromTick ≤ tick ∧ tick ≤ untilTick ∧ ∃ measurement,
    HasSample (pwmOf channel) results tick measurement ∧ measurement.periodNs ≠ 0 ∧
      metric measurement = measured}

/-- A result observes the least and the greatest of some measured values under two names. -/
def ObservesExtremes {Metric : Type} [LinearOrder Metric] (result : AssertionResult)
    (minimumName maximumName : String) (scalar : Option Metric → IRScalar)
    (measured : Set Metric) : Prop :=
  ∃ minimum maximum, result.observed.lookup minimumName = some (scalar minimum) ∧
    result.observed.lookup maximumName = some (scalar maximum) ∧
    (∀ least, minimum = some least ↔ IsLeast measured least) ∧
    ∀ greatest, maximum = some greatest ↔ IsGreatest measured greatest

section Results

variable {Value : Type} {value : TickResult → Option Value} {results : List TickResult}
  {accepts : Value → Bool} {fromTick untilTick : ℕ}

/-- The evidence of a range is one item for each tick, which is valid, missing or invalid. -/
theorem total_tally :
    (RangeCounts.tally accepts (evidenceOver value results fromTick untilTick)).validCount +
        (RangeCounts.tally accepts
          (evidenceOver value results fromTick untilTick)).missingCount +
        (RangeCounts.tally accepts
          (evidenceOver value results fromTick untilTick)).invalidCount =
      untilTick + 1 - fromTick := by
  have hlength : (evidenceOver value results fromTick untilTick).length =
      untilTick + 1 - fromTick := by
    rw [evidenceOver_eq, List.length_map, List.length_range']
  rw [← hlength]
  show List.countP _ _ + List.countP _ _ + List.countP _ _ = _
  induction evidenceOver value results fromTick untilTick with
  | nil => rfl
  | cons item items ih =>
    have hone : item.valid.toNat + item.missing.toNat + item.invalid.toNat = 1 := by
      unfold EvidenceSample.valid EvidenceSample.invalid
      cases item.missing <;> cases item.value <;> rfl
    have hcount (kind : EvidenceSample Value → Bool) :
        (item :: items).countP kind = items.countP kind + (kind item).toNat := by
      rw [List.countP_cons]
      cases kind item <;> rfl
    rw [hcount, hcount, hcount, List.length_cons]
    omega

/-- A result that reports the tally of a range describes it. -/
theorem describesRange_of_counts (hnodup : (results.map TickResult.tick).Nodup)
    (hinput : IsInput value) (hle : fromTick ≤ untilTick) {result : AssertionResult}
    (hcounts : result.counts = .tally accepts (evidenceOver value results fromTick untilTick))
    (hverdict : result.verdict = rangeVerdict result.violationCount result.missingSampleCount
      result.invalidSampleCount) :
    DescribesRange result results value accepts fromTick untilTick := by
  classical
  have hmissing : result.missingSampleCount = _ := congrArg RangeCounts.missingCount hcounts
  have hinvalid : result.invalidSampleCount = _ := congrArg RangeCounts.invalidCount hcounts
  have hvalid : result.validSampleCount = _ := congrArg RangeCounts.validCount hcounts
  have hviolation : result.violationCount = _ := congrArg RangeCounts.violationCount hcounts
  have hfirst : result.firstFailureTick = _ := congrArg RangeCounts.firstFailureTick hcounts
  refine ⟨?_, ?_, ?_, ?_, ?_, ?_, ?_, ?_⟩
  · rw [hmissing, hinvalid, hvalid, total_tally]
    omega
  · rw [hmissing]
    exact countP_evidenceOver (fun tick ↦ missing_evidenceOf_iff hnodup) fromTick untilTick
  · rw [hinvalid]
    exact countP_evidenceOver (fun tick ↦ invalid_evidenceOf_iff hnodup hinput) fromTick untilTick
  · rw [hviolation]
    exact countP_evidenceOver (fun tick ↦ violates_evidenceOf_iff hnodup hinput) fromTick untilTick
  · intro tick
    rw [hfirst]
    exact firstFailure_evidenceOver hnodup hinput
  · rw [hverdict, rangeVerdict_eq_fail_iff]
    omega
  · rw [hverdict]
    unfold rangeVerdict
    split_ifs <;> simp only [true_iff, false_iff] <;> omega
  · rw [hverdict, rangeVerdict_eq_pass_iff]
    omega

/-- The least and greatest of the values that the evidence of a range has. -/
theorem observesExtremes {Metric : Type} [LinearOrder Metric] {result : AssertionResult}
    {minimumName maximumName : String} {scalar : Option Metric → IRScalar}
    {metric : EvidenceSample Value → Option Metric} {measured : Set Metric}
    (hmeasured : ∀ sample, sample ∈ measured ↔ ∃ tick, fromTick ≤ tick ∧ tick ≤ untilTick ∧
      metric (evidenceOf value results tick) = some sample)
    (hminimum : result.observed.lookup minimumName = some (scalar
      ((evidenceOver value results fromTick untilTick).filterMap metric).min?))
    (hmaximum : result.observed.lookup maximumName = some (scalar
      ((evidenceOver value results fromTick untilTick).filterMap metric).max?)) :
    ObservesExtremes result minimumName maximumName scalar measured := by
  have hmem (sample : Metric) :
      sample ∈ (evidenceOver value results fromTick untilTick).filterMap metric ↔
        sample ∈ measured :=
    mem_filterMap_evidenceOver.trans (hmeasured sample).symm
  refine ⟨_, _, hminimum, hmaximum, fun least ↦ ?_, fun greatest ↦ ?_⟩
  · rw [List.min?_eq_some_iff]
    exact and_congr (hmem least) (forall_congr' fun sample ↦ imp_congr (hmem sample) Iff.rfl)
  · rw [List.max?_eq_some_iff]
    exact and_congr (hmem greatest) (forall_congr' fun sample ↦ imp_congr (hmem sample) Iff.rfl)

end Results

/-! ### The range handlers -/

section Handlers

variable {run : CapturedRunIR} {results : List TickResult} {assertion : CompiledAssertion}
  {fromTick untilTick : ℕ} {channel : ℕ}

/-- A channel of a result has a value exactly when the result is valid. -/
theorem isInput_digitalOf (hchannel : channel < 10) : IsInput (digitalOf channel) := by
  intro row
  rw [digitalOf, dif_pos hchannel]
  constructor
  · intro hnone
    by_contra hvalid
    have hsome := (row.measured hvalid).1 ⟨channel, hchannel⟩
    rw [hnone] at hsome
    cases hsome
  · exact fun hproblem ↦ (row.absent hproblem).1 _

theorem isInput_analogueOf (hchannel : channel < 2) : IsInput (analogueOf channel) := by
  intro row
  rw [analogueOf, dif_pos hchannel]
  constructor
  · intro hnone
    by_contra hvalid
    have hsome := (row.measured hvalid).2.1 ⟨channel, hchannel⟩
    rw [hnone] at hsome
    cases hsome
  · exact fun hproblem ↦ (row.absent hproblem).2.1 _

theorem isInput_pwmOf (hchannel : channel < 2) : IsInput (pwmOf channel) := by
  intro row
  rw [pwmOf, dif_pos hchannel]
  constructor
  · intro hnone
    by_contra hvalid
    have hsome := (row.measured hvalid).2.2 ⟨channel, hchannel⟩
    rw [hnone] at hsome
    cases hsome
  · exact fun hproblem ↦ (row.absent hproblem).2.2 _

/-- The tally an outcome reports describes its range. -/
theorem describesRange_of_reportsTally {Value : Type} {value : TickResult → Option Value}
    (hnodup : (results.map TickResult.tick).Nodup) (hinput : IsInput value)
    (hle : fromTick ≤ untilTick) {outcome : Except HilRigError AssertionResult}
    {accepts : Value → Bool} {observed : Fields}
    (hreports : ReportsTally outcome accepts (evidenceOver value results fromTick untilTick)
      observed) :
    ∃ result, outcome = .ok result ∧
      DescribesRange result results value accepts fromTick untilTick ∧
        result.observed = observed := by
  obtain ⟨result, hresult, hverdict, hobserved, hcounts⟩ := hreports
  refine ⟨result, hresult, describesRange_of_counts hnodup hinput hle hcounts ?_, hobserved⟩
  rw [hverdict, ← hcounts]
  rfl

/-- What an analogue range handler reports. -/
theorem describesRange_analogue (hstores : Stores run results)
    (hrange : NamesRange assertion fromTick untilTick) (hchannel : assertion.channel < 2)
    (accepts : ℤ → Bool) :
    ∃ result, Analogue.evaluateRange accepts assertion ⟨run⟩ = .ok result ∧
      DescribesRange result results (analogueOf assertion.channel) accepts fromTick untilTick ∧
      ObservesExtremes result "minimum_uv" "maximum_uv" optionalInteger
        (samplesWithin (analogueOf assertion.channel) results fromTick untilTick) := by
  obtain ⟨_, hreports⟩ := reports_analogueRange hstores hrange hchannel accepts
  obtain ⟨result, hresult, hdescribes, hobserved⟩ := describesRange_of_reportsTally hstores.nodup
    (isInput_analogueOf hchannel) hrange.ordered hreports
  refine ⟨result, hresult, hdescribes, ?_⟩
  refine @observesExtremes _ (analogueOf assertion.channel) results fromTick untilTick _ _ result
    _ _ _ EvidenceSample.measured _ (fun sample ↦ ?_) ?_ ?_
  · simp only [measured_evidenceOf_iff hstores.nodup (isInput_analogueOf hchannel)]
    exact Iff.rfl
  · rw [hobserved]
    rfl
  · rw [hobserved]
    rfl

/-- What a PWM range handler reports. -/
theorem describesRange_metric (hstores : Stores run results)
    (hrange : NamesRange assertion fromTick untilTick) (hchannel : assertion.channel < 2)
    {metric : PWMMeasurement → Except HilRigError ℚ} {value : PWMMeasurement → ℚ}
    (hmetric : ∀ measurement, measurement.periodNs ≠ 0 →
      metric measurement = .ok (value measurement))
    (metricName : String) (accepts : ℚ → Bool) :
    ∃ result, Pwm.evaluateMetricRange metricName metric accepts assertion ⟨run⟩ = .ok result ∧
      DescribesRange result results (pwmOf assertion.channel)
        (waveformAccepted fun measurement ↦ accepts (value measurement)) fromTick untilTick ∧
      ObservesExtremes result (s!"minimum_{metricName}") (s!"maximum_{metricName}") optionalDouble
        (waveformsWithin value assertion.channel results fromTick untilTick) := by
  obtain ⟨_, _, hreports⟩ :=
    reports_metricRange hstores hrange hchannel hmetric metricName accepts
  obtain ⟨result, hresult, hdescribes, hobserved⟩ := describesRange_of_reportsTally hstores.nodup
    (isInput_pwmOf hchannel) hrange.ordered hreports
  refine ⟨result, hresult, hdescribes, ?_⟩
  refine @observesExtremes _ (pwmOf assertion.channel) results fromTick untilTick _ _ result
    _ _ _ (metricMeasured value) _ (fun sample ↦ ?_) ?_ ?_
  · refine exists_congr fun tick ↦ and_congr Iff.rfl (and_congr Iff.rfl ?_)
    rw [metricMeasured, Option.bind_eq_some_iff]
    refine exists_congr fun measurement ↦
      and_congr (measured_evidenceOf_iff hstores.nodup (isInput_pwmOf hchannel)).symm ?_
    by_cases hperiod : measurement.periodNs = 0 <;> simp [hperiod]
  · rw [hobserved]
    exact List.lookup_cons_self
  · have hne : (s!"maximum_{metricName}" == s!"minimum_{metricName}") = false := by
      refine beq_eq_false_iff_ne.2 fun heq ↦ ?_
      have hcharacters := congrArg String.toList heq
      simp [toString] at hcharacters
    rw [hobserved, List.lookup_cons, hne]
    exact List.lookup_cons_self

/-- Over every stored capture and every inclusive range of integers of sixty-four bits, each of the
seven range handlers returns a result that describes the range in terms of the stored rows, an
analogue one if its thresholds can be shown; those that measure also observe the extremes of their
valid samples. -/
theorem describesRange_handlers (hstores : Stores run results)
    (hrange : NamesRange assertion fromTick untilTick) :
    (assertion.channel < 10 →
      (∃ result, evaluateRemainHigh assertion ⟨run⟩ = .ok result ∧
        DescribesRange result results (digitalOf assertion.channel) (fun level ↦ level = true)
          fromTick untilTick) ∧
      ∃ result, evaluateRemainLow assertion ⟨run⟩ = .ok result ∧
        DescribesRange result results (digitalOf assertion.channel) (fun level ↦ level = false)
          fromTick untilTick) ∧
    (assertion.channel < 2 →
      (∀ minimum maximum, integerArgument assertion "minimum_uv" = .ok minimum →
        integerArgument assertion "maximum_uv" = .ok maximum → ShownVolts minimum →
        ShownVolts maximum →
        ∃ result, evaluateRemainWithin assertion ⟨run⟩ = .ok result ∧
          DescribesRange result results (analogueOf assertion.channel)
            (fun sample ↦ minimum ≤ sample ∧ sample ≤ maximum) fromTick untilTick ∧
          ObservesExtremes result "minimum_uv" "maximum_uv" optionalInteger
            (samplesWithin (analogueOf assertion.channel) results fromTick untilTick)) ∧
      (∀ threshold, integerArgument assertion "threshold_uv" = .ok threshold →
        ShownVolts threshold →
        (∃ result, evaluateRemainAbove assertion ⟨run⟩ = .ok result ∧
          DescribesRange result results (analogueOf assertion.channel)
            (fun sample ↦ threshold < sample) fromTick untilTick ∧
          ObservesExtremes result "minimum_uv" "maximum_uv" optionalInteger
            (samplesWithin (analogueOf assertion.channel) results fromTick untilTick)) ∧
        ∃ result, evaluateRemainBelow assertion ⟨run⟩ = .ok result ∧
          DescribesRange result results (analogueOf assertion.channel)
            (fun sample ↦ sample < threshold) fromTick untilTick ∧
          ObservesExtremes result "minimum_uv" "maximum_uv" optionalInteger
            (samplesWithin (analogueOf assertion.channel) results fromTick untilTick)) ∧
      (∀ minimum maximum, numberArgument assertion "minimum_hz" = .ok minimum →
        numberArgument assertion "maximum_hz" = .ok maximum →
        ∃ result, evaluateFrequencyRemainWithin assertion ⟨run⟩ = .ok result ∧
          DescribesRange result results (pwmOf assertion.channel)
            (fun measurement ↦ measurement.periodNs ≠ 0 ∧
              minimum ≤ measuredFrequency measurement ∧ measuredFrequency measurement ≤ maximum)
            fromTick untilTick ∧
          ObservesExtremes result "minimum_frequency_hz" "maximum_frequency_hz" optionalDouble
            (waveformsWithin measuredFrequency assertion.channel results fromTick untilTick)) ∧
      ∀ minimum maximum, numberArgument assertion "minimum_duty_cycle" = .ok minimum →
        numberArgument assertion "maximum_duty_cycle" = .ok maximum →
        ∃ result, evaluateDutyCycleRemainWithin assertion ⟨run⟩ = .ok result ∧
          DescribesRange result results (pwmOf assertion.channel)
            (fun measurement ↦ measurement.periodNs ≠ 0 ∧
              minimum ≤ measuredDutyCycle measurement ∧ measuredDutyCycle measurement ≤ maximum)
            fromTick untilTick ∧
          ObservesExtremes result "minimum_duty_cycle" "maximum_duty_cycle" optionalDouble
            (waveformsWithin measuredDutyCycle assertion.channel results fromTick untilTick)) := by
  have hdigital (hchannel : assertion.channel < 10) (expected : Bool) :
      ∃ result, evaluateRemainState expected assertion ⟨run⟩ = .ok result ∧
        DescribesRange result results (digitalOf assertion.channel) (fun level ↦ level = expected)
          fromTick untilTick := by
    obtain ⟨_, hreports⟩ := reports_remainState hstores hrange hchannel expected
    obtain ⟨result, hresult, hdescribes, -⟩ := describesRange_of_reportsTally hstores.nodup
      (isInput_digitalOf hchannel) hrange.ordered hreports
    exact ⟨result, hresult, hdescribes⟩
  have haccepted (minimum maximum : ℚ) (metric : PWMMeasurement → ℚ) :
      (waveformAccepted fun measurement ↦ isWithinDoubles minimum maximum (metric measurement)) =
        fun measurement ↦ decide (measurement.periodNs ≠ 0 ∧ minimum ≤ metric measurement ∧
          metric measurement ≤ maximum) := by
    funext measurement
    unfold waveformAccepted isWithinDoubles
    rw [Bool.decide_and]
  refine ⟨fun hchannel ↦ ⟨hdigital hchannel true, hdigital hchannel false⟩, fun hchannel ↦
    ⟨fun minimum maximum hminimum hmaximum hlower hupper ↦ ?_,
      fun threshold hthreshold hshown ↦ ⟨?_, ?_⟩,
      fun minimum maximum hminimum hmaximum ↦ ?_, fun minimum maximum hminimum hmaximum ↦ ?_⟩⟩
  · obtain ⟨_, hminimumVolts⟩ := volts_some_of_shown hlower
    obtain ⟨_, hmaximumVolts⟩ := volts_some_of_shown hupper
    simp only [evaluateRemainWithin, hminimum, hmaximum, hminimumVolts, hmaximumVolts, bind,
      Except.bind]
    exact describesRange_analogue hstores hrange hchannel (isWithin minimum maximum)
  · obtain ⟨_, hvolts⟩ := volts_some_of_shown hshown
    simp only [evaluateRemainAbove, hthreshold, hvolts, bind, Except.bind]
    exact describesRange_analogue hstores hrange hchannel fun value ↦ threshold < value
  · obtain ⟨_, hvolts⟩ := volts_some_of_shown hshown
    simp only [evaluateRemainBelow, hthreshold, hvolts, bind, Except.bind]
    exact describesRange_analogue hstores hrange hchannel fun value ↦ value < threshold
  · simp only [evaluateFrequencyRemainWithin, hminimum, hmaximum, bind, Except.bind,
      ← haccepted minimum maximum measuredFrequency]
    exact describesRange_metric hstores hrange hchannel
      (fun measurement hwaveform ↦ if_neg hwaveform) "frequency_hz"
      (isWithinDoubles minimum maximum)
  · simp only [evaluateDutyCycleRemainWithin, hminimum, hmaximum, bind, Except.bind,
      ← haccepted minimum maximum measuredDutyCycle]
    exact describesRange_metric hstores hrange hchannel
      (fun measurement hwaveform ↦ rfl) "duty_cycle" (isWithinDoubles minimum maximum)

end Handlers

section Example

/-- A valid result whose digital inputs are all at one level. -/
def levelResult (tick : ℕ) (level : Bool) : TickResult where
  tick := tick
  digitalInputs := fun _ ↦ some level
  analogueInputsUv := fun _ ↦ some 0
  pwmInputs := fun _ ↦ some ⟨0, 0, Nat.zero_le _⟩
  condition := .ok
  problemDetail := none
  measured := fun _ ↦ ⟨fun _ ↦ rfl, fun _ ↦ rfl, fun _ ↦ rfl⟩
  absent := fun hproblem ↦ by cases hproblem

/-- Four ticks, of which the third is missing and the first is an execution problem. -/
def gapResults : List TickResult :=
  [.executionProblem 0 none, levelResult 1 false, levelResult 3 false, levelResult 4 true]

/-- A capture of them. -/
def gapRun : CapturedRunIR :=
  millisecondRun { initializeCaptureDatabase 5 (Nat.succ_pos 4) with
    tickResults := gapResults.map tickParameters }

theorem stores_gapRun : Stores gapRun gapResults :=
  ⟨rfl, by decide, by decide⟩

/-- A demand that an input remains high, up to a tick. -/
def remainsHigh (untilTick : ℤ) : CompiledAssertion where
  assertionId := 0
  peripheral := "digital_input"
  channel := 0
  assertion := "remain_high"
  arguments := [("from_tick", .int 0), ("until_tick", .int untilTick)]

/-- A demand that a voltage remains above a threshold. -/
def remainsAbove (thresholdUv : ℤ) : CompiledAssertion where
  assertionId := 0
  peripheral := "analogue_input"
  channel := 0
  assertion := "remain_above"
  arguments := [("from_tick", .int 0), ("threshold_uv", .int thresholdUv), ("until_tick", .int 4)]

/-- The query refuses a tick that is no integer of sixty-four bits, and the message cannot show a
threshold that is too large for a float. -/
theorem describesRange_overflows :
    evaluateRemainHigh (remainsHigh (2 ^ 63)) ⟨gapRun⟩ = .error integerOverflow ∧
      evaluateRemainAbove (remainsAbove (10 ^ 315)) ⟨gapRun⟩ = .error voltsOverflow := by
  refine ⟨by decide +kernel, ?_⟩
  have hthreshold : integerArgument (remainsAbove (10 ^ 315)) "threshold_uv" = .ok (10 ^ 315) := rfl
  have hshown : ¬ShownVolts (10 ^ 315) := by decide +kernel
  rw [evaluateRemainAbove, hthreshold, ok_bind, volts_of_not_shown hshown, error_bind]

theorem describesRange_gapRun :
    (∃ result, evaluateRemainHigh (remainsHigh 4) ⟨gapRun⟩ = .ok result ∧
      DescribesRange result gapResults (digitalOf 0) (fun level ↦ level = true) 0 4) ∧
    ∃ result, evaluateRemainAbove (remainsAbove 0) ⟨gapRun⟩ = .ok result ∧
      DescribesRange result gapResults (analogueOf 0) (fun sample ↦ 0 < sample) 0 4 := by
  have hdigital := (describesRange_handlers stores_gapRun
    (show NamesRange (remainsHigh 4) 0 4 from
      ⟨rfl, rfl, ⟨_, rfl⟩, by decide, by decide⟩)).1 (by decide)
  have hanalogue := (describesRange_handlers stores_gapRun
    (show NamesRange (remainsAbove 0) 0 4 from
      ⟨rfl, rfl, ⟨_, rfl⟩, by decide, by decide⟩)).2 (by decide)
  obtain ⟨⟨result, hresult, hdescribes, -⟩, -⟩ := hanalogue.2.1 0 rfl
    (shownVolts_of_fits (by decide))
  exact ⟨hdigital.1, result, hresult, hdescribes⟩

end Example

/-! ### Transitions -/

section Transitions

variable {run : CapturedRunIR} {results : List TickResult} {assertion : CompiledAssertion}
  {fromTick untilTick channel : ℕ} {fromState toState : Bool}

/-- The row of a tick is stored and valid. -/
def IsValid (results : List TickResult) (tick : ℕ) : Prop :=
  ∃ row ∈ results, row.tick = tick ∧ row.condition ≠ .executionProblem

/-- A transition between the stored and valid samples of adjacent ticks of a range begins at a
tick. -/
def BeginsTransition (results : List TickResult) (channel : ℕ) (fromState toState : Bool)
    (fromTick untilTick tick : ℕ) : Prop :=
  fromTick ≤ tick ∧ tick < untilTick ∧
    HasSample (digitalOf channel) results tick fromState ∧
    HasSample (digitalOf channel) results (tick + 1) toState

/-- The sample of a tick is that of its valid row. -/
theorem sampleAt_eq_some_iff {Value : Type} {value : TickResult → Option Value}
    (hnodup : (results.map TickResult.tick).Nodup) (hinput : IsInput value) {tick : ℕ}
    {sample : Value} :
    sampleAt value results tick = some sample ↔ HasSample value results tick sample := by
  rw [← measured_evidenceOf_iff hnodup hinput, EvidenceSample.measured, evidenceOf_value]
  cases hmissing : (evidenceOf value results tick).missing with
  | true => simp [sampleAt_of_missing hmissing]
  | false => simp

theorem sampleAt_ne_none_iff {Value : Type} {value : TickResult → Option Value}
    (hnodup : (results.map TickResult.tick).Nodup) (hinput : IsInput value) {tick : ℕ} :
    sampleAt value results tick ≠ none ↔ IsValid results tick := by
  rw [Option.ne_none_iff_exists']
  constructor
  · rintro ⟨sample, hsample⟩
    obtain ⟨row, hrow, htick, hvalid, -⟩ := (sampleAt_eq_some_iff hnodup hinput).1 hsample
    exact ⟨row, hrow, htick, hvalid⟩
  · rintro ⟨row, hrow, htick, hvalid⟩
    obtain ⟨sample, hsample⟩ := Option.ne_none_iff_exists'.1 (mt (hinput row).1 hvalid)
    exact ⟨sample, (sampleAt_eq_some_iff hnodup hinput).2 ⟨row, hrow, htick, hvalid, hsample⟩⟩

/-- Two adjacent samples make a change exactly when a transition begins in the range. -/
theorem changes_sampleAt_iff (hnodup : (results.map TickResult.tick).Nodup)
    (hchannel : channel < 10) :
    Changes (sampleAt (digitalOf channel) results) fromState toState fromTick untilTick ↔
      ∃ tick, BeginsTransition results channel fromState toState fromTick untilTick tick := by
  unfold Changes BeginsTransition
  simp only [sampleAt_eq_some_iff hnodup (isInput_digitalOf hchannel)]

/-- A search finds the least tick at which a transition begins. -/
theorem transition_searchOver_eq_some (hnodup : (results.map TickResult.tick).Nodup)
    (hchannel : channel < 10) (hle : fromTick ≤ untilTick) {tick : ℕ}
    (hleast : IsLeast {first | BeginsTransition results channel fromState toState fromTick
      untilTick first} tick) :
    (searchOver fromState toState
      (evidenceOver (digitalOf channel) results fromTick untilTick)).transition =
        some ((tick : ℤ), (tick : ℤ) + 1) := by
  obtain ⟨⟨hfrom, huntil, hbefore, hafter⟩, hleast⟩ := hleast
  have hinput := isInput_digitalOf hchannel
  have hfound : (List.range' fromTick (untilTick - fromTick)).find?
      (changesAt (sampleAt (digitalOf channel) results) fromState toState) = some tick := by
    refine List.find?_range'_eq_some.2 ⟨decide_eq_true
      ⟨(sampleAt_eq_some_iff hnodup hinput).2 hbefore,
        (sampleAt_eq_some_iff hnodup hinput).2 hafter⟩,
      List.mem_range'_1.2 ⟨hfrom, by omega⟩, fun earlier hearlier hlt ↦ ?_⟩
    rw [Bool.not_eq_true', Bool.eq_false_iff]
    intro hchange
    obtain ⟨hfirst, hsecond⟩ := of_decide_eq_true hchange
    have hbegins : BeginsTransition results channel fromState toState fromTick untilTick earlier :=
      ⟨hearlier, hlt.trans huntil, (sampleAt_eq_some_iff hnodup hinput).1 hfirst,
        (sampleAt_eq_some_iff hnodup hinput).1 hsecond⟩
    exact absurd (hleast hbegins) (not_le.2 hlt)
  rw [transition_searchOver hle, hfound]
  rfl

/-- Rows for other ticks leave the verdict of a demand that is proved or violated. -/
theorem violated_of_subset {results' : List TickResult}
    (hnodup : (results.map TickResult.tick).Nodup) (hnodup' : (results'.map TickResult.tick).Nodup)
    (hsubset : results ⊆ results') (hchannel : channel < 10)
    (hviolated : (Demand.change (sampleAt (digitalOf channel) results) fromState toState fromTick
      untilTick).Violated) :
    (Demand.change (sampleAt (digitalOf channel) results') fromState toState fromTick
      untilTick).Violated := by
  have hinput := isInput_digitalOf hchannel
  obtain ⟨hvalid, hnone⟩ := hviolated
  have hrow (tick : ℕ) (hfrom : fromTick ≤ tick) (huntil : tick ≤ untilTick) :
      IsValid results tick :=
    (sampleAt_ne_none_iff hnodup hinput).1 (hvalid tick hfrom huntil)
  have hkept {tick : ℕ} {level : Bool} (hvalid : IsValid results tick)
      (hsample : HasSample (digitalOf channel) results' tick level) :
      HasSample (digitalOf channel) results tick level := by
    obtain ⟨row, hmem, htick, -⟩ := hvalid
    obtain ⟨other, hother, htick', hsound, hvalue⟩ := hsample
    have hsame := List.inj_on_of_nodup_map hnodup' (hsubset hmem) hother (htick.trans htick'.symm)
    subst hsame
    exact ⟨row, hmem, htick, hsound, hvalue⟩
  constructor
  · intro tick hfrom huntil
    obtain ⟨row, hmem, htick, hsound⟩ := hrow tick hfrom huntil
    exact (sampleAt_ne_none_iff hnodup' hinput).2 ⟨row, hsubset hmem, htick, hsound⟩
  · rw [changes_sampleAt_iff hnodup' hchannel]
    rintro ⟨tick, hfrom, huntil, hbefore, hafter⟩
    refine hnone ((changes_sampleAt_iff hnodup hchannel).2 ⟨tick, hfrom, huntil,
      hkept (hrow tick hfrom (by omega)) hbefore,
      hkept (hrow (tick + 1) (by omega) (by omega)) hafter⟩)

theorem proved_of_subset {results' : List TickResult}
    (hnodup : (results.map TickResult.tick).Nodup) (hnodup' : (results'.map TickResult.tick).Nodup)
    (hsubset : results ⊆ results') (hchannel : channel < 10)
    (hproved : (Demand.change (sampleAt (digitalOf channel) results) fromState toState fromTick
      untilTick).Proved) :
    (Demand.change (sampleAt (digitalOf channel) results') fromState toState fromTick
      untilTick).Proved := by
  obtain ⟨tick, hfrom, huntil, ⟨row, hrow, hbefore⟩, other, hother, hafter⟩ :=
    (changes_sampleAt_iff hnodup hchannel).1 hproved
  exact (changes_sampleAt_iff hnodup' hchannel).2
    ⟨tick, hfrom, huntil, ⟨row, hsubset hrow, hbefore⟩, other, hsubset hother, hafter⟩

/-- Over every stored capture, the search for a transition in a range of integers of sixty-four bits
passes exactly when one begins between adjacent stored and valid samples of the range, and then
reports the first; it fails exactly when every tick of the range is stored and valid and none
begins; and more rows never change either. -/
theorem evaluateTransition_result (hstores : Stores run results)
    (hrange : NamesRange assertion fromTick untilTick) (hchannel : assertion.channel < 10)
    (hfrom : stateArgument assertion "from_state" = .ok fromState)
    (hto : stateArgument assertion "to_state" = .ok toState) :
    ∃ result, evaluateTransition assertion ⟨run⟩ = .ok result ∧
      (result.verdict = .pass ↔ ∃ tick, BeginsTransition results assertion.channel fromState
        toState fromTick untilTick tick) ∧
      (∀ tick : ℕ, IsLeast {first | BeginsTransition results assertion.channel fromState toState
          fromTick untilTick first} tick →
        result.observed.lookup "transition_from_tick" = some (.int tick) ∧
          result.observed.lookup "transition_to_tick" = some (.int (tick + 1))) ∧
      (result.verdict = .fail ↔
        (∀ tick, fromTick ≤ tick → tick ≤ untilTick → IsValid results tick) ∧
          ¬∃ tick, BeginsTransition results assertion.channel fromState toState fromTick untilTick
            tick) ∧
      ∀ run' results', Stores run' results' → results ⊆ results' →
        result.verdict ≠ .inconclusive →
        ∃ result', evaluateTransition assertion ⟨run'⟩ = .ok result' ∧
          result'.verdict = result.verdict := by
  obtain ⟨result, hresult, hverdict, hobserved, -⟩ :=
    reports_transition hstores hrange hchannel hfrom hto
  have hdecides : Decides result.verdict (.change
      (sampleAt (digitalOf assertion.channel) results) fromState toState fromTick untilTick) := by
    rw [hverdict]
    exact decides_transitionVerdict hrange.ordered
  refine ⟨result, hresult, ?_, ?_, ?_, ?_⟩
  · rw [hdecides.pass]
    exact changes_sampleAt_iff hstores.nodup hchannel
  · intro tick hleast
    rw [hobserved, transition_searchOver_eq_some hstores.nodup hchannel hrange.ordered hleast]
    exact ⟨rfl, rfl⟩
  · rw [hdecides.fail]
    refine and_congr (forall_congr' fun tick ↦ forall_congr' fun _ ↦ forall_congr' fun _ ↦ ?_)
      (not_congr (changes_sampleAt_iff hstores.nodup hchannel))
    exact sampleAt_ne_none_iff hstores.nodup (isInput_digitalOf hchannel)
  · intro run' results' hstores' hsubset hconclusive
    obtain ⟨result', hresult', hdecides', -⟩ :=
      settles_transition hstores' hrange hchannel hfrom hto
    refine ⟨result', hresult', ?_⟩
    cases hgiven : result.verdict with
    | pass =>
      exact hdecides'.pass.2 (proved_of_subset hstores.nodup hstores'.nodup hsubset hchannel
        (hdecides.pass.1 hgiven))
    | fail =>
      exact hdecides'.fail.2 (violated_of_subset hstores.nodup hstores'.nodup hsubset hchannel
        (hdecides.fail.1 hgiven))
    | inconclusive => exact absurd hgiven hconclusive

end Transitions

section Example

/-- A demand that an input rises, up to a tick. -/
def rises (untilTick : ℤ) : CompiledAssertion where
  assertionId := 0
  peripheral := "digital_input"
  channel := 0
  assertion := "transition"
  arguments := [("from_state", .str "LOW"), ("from_tick", .int 0), ("to_state", .str "HIGH"),
    ("until_tick", .int untilTick)]

/-- The query refuses a tick that is no integer of sixty-four bits. -/
theorem evaluateTransition_overflows :
    evaluateTransition (rises (2 ^ 63)) ⟨gapRun⟩ = .error integerOverflow := by
  decide +kernel

theorem evaluateTransition_gapRun :
    ∃ result, evaluateTransition (rises 4) ⟨gapRun⟩ = .ok result ∧ result.verdict = .pass := by
  obtain ⟨result, hresult, hpass, -⟩ := @evaluateTransition_result gapRun gapResults (rises 4) 0 4
    false true stores_gapRun ⟨rfl, rfl, ⟨_, rfl⟩, by decide, by decide⟩ (by decide) rfl rfl
  refine ⟨result, hresult, hpass.2 ⟨3, by decide, by decide, ?_, ?_⟩⟩
  · exact ⟨levelResult 3 false, by simp [gapResults], rfl, by decide, rfl⟩
  · exact ⟨levelResult 4 true, by simp [gapResults], rfl, by decide, rfl⟩

end Example

end HilRig.Evaluation
