import HilRig.Results.CapturedRun

/-!
# Captured evidence

`EvaluationContext` answers the queries of the assertion handlers with one item of evidence for each
requested tick: the stored sample of a channel, or a marker for a tick without one.
`includeMissingTicks` puts the markers between the samples of a range, and refuses samples that are
not in order; ascending samples inside the range give exactly one item for each of its ticks, and
others the items of the ticks before the first misplaced sample (`includeMissingTicks_yields`). Over
rows with distinct ticks every query is the evidence of the stored results (`evidencePoint_eq`,
`evidenceRange_eq`).
-/

set_option autoImplicit false
set_option relaxedAutoImplicit false

namespace HilRig.Evaluation

open HilRig.Results HilRig.Foundations

/-! ### Evidence -/

/-- One expected tick, including explicit missing or invalid evidence. -/
structure EvidenceSample (Value : Type) where
  tick : ℤ
  value : Option Value
  condition : Option TickCondition
  problemDetail : Option ℕ
  missing : Bool := false

namespace EvidenceSample

variable {Value : Type}

def valid (evidence : EvidenceSample Value) : Bool :=
  !evidence.missing && evidence.value.isSome

def invalid (evidence : EvidenceSample Value) : Bool :=
  !evidence.missing && evidence.value.isNone

/-- The marker of a tick without a stored result. -/
def absent (tick : ℤ) : EvidenceSample Value where
  tick := tick
  value := none
  condition := none
  problemDetail := none
  missing := true

/-- The evidence of a stored sample. -/
def ofSample (sample : InputSample Value) : EvidenceSample Value where
  tick := sample.tick
  value := sample.value
  condition := some sample.condition
  problemDetail := sample.problemDetail

end EvidenceSample

section Filling

variable {Value : Type}

/-- The markers of the ticks from an expected one up to the next. -/
def missingTicks (expectedTick nextTick : ℤ) : List (EvidenceSample Value) :=
  (Int.range expectedTick nextTick).map .absent

/-- The evidence from an expected tick on, for the samples that an iterator still yields. -/
def fillTicks (untilTick : ℤ) (ending : Except HilRigError Unit) (expectedTick : ℤ) :
    List (EvidenceSample Value) → Iteration HilRigError (EvidenceSample Value)
  | [] =>
    match ending with
    | .error error => .raise error
    | .ok () => .ofList (missingTicks expectedTick (untilTick + 1))
  | sample :: samples =>
    if sample.tick < expectedTick then
      .raise ⟨.evaluation, "Captured range results are duplicated or out of order"⟩
    else
      .prepend (missingTicks expectedTick sample.tick)
        (.cons sample (fillTicks untilTick ending (sample.tick + 1) samples))

/-- Yield exactly one evidence item for every requested tick. -/
def includeMissingTicks (samples : Iteration HilRigError (EvidenceSample Value))
    (fromTick untilTick : ℤ) : Iteration HilRigError (EvidenceSample Value) :=
  fillTicks untilTick samples.ending fromTick samples.items

/-- The sample of a tick, or the marker that there is none. -/
def sampleOf (samples : List (EvidenceSample Value)) (tick : ℤ) : EvidenceSample Value :=
  (samples.find? fun sample ↦ sample.tick = tick).getD (.absent tick)

theorem sampleOf_cons_self (sample : EvidenceSample Value)
    (samples : List (EvidenceSample Value)) :
    sampleOf (sample :: samples) sample.tick = sample := by
  simp [sampleOf]

theorem sampleOf_cons_of_ne {sample : EvidenceSample Value}
    {samples : List (EvidenceSample Value)} {tick : ℤ} (hne : sample.tick ≠ tick) :
    sampleOf (sample :: samples) tick = sampleOf samples tick := by
  rw [sampleOf, List.find?_cons_of_neg (by simpa using hne), sampleOf]

theorem sampleOf_of_forall {samples : List (EvidenceSample Value)} {tick : ℤ}
    (hother : ∀ sample ∈ samples, sample.tick ≠ tick) : sampleOf samples tick = .absent tick := by
  rw [sampleOf, List.find?_eq_none.2 fun sample hsample ↦ by simpa using hother sample hsample,
    Option.getD_none]

/-- Strictly ascending samples, none of them before a first tick. -/
def Ascends (fromTick : ℤ) (samples : List (EvidenceSample Value)) : Prop :=
  (samples.Pairwise fun first second ↦ first.tick < second.tick) ∧
    ∀ sample ∈ samples, fromTick ≤ sample.tick

/-- A sample below the first tick, or not above the sample just before it. -/
def Misplaced (fromTick : ℤ) (early : List (EvidenceSample Value))
    (sample : EvidenceSample Value) : Prop :=
  sample.tick < fromTick ∨ ∃ previous ∈ early.getLast?, sample.tick ≤ previous.tick

/-- The tick expected after some samples. -/
def tickAfter (fromTick : ℤ) (early : List (EvidenceSample Value)) : ℤ :=
  (early.getLast?.map fun previous ↦ previous.tick + 1).getD fromTick

section Order

variable {fromTick : ℤ} {samples early later : List (EvidenceSample Value)}
  {sample : EvidenceSample Value}

theorem tickAfter_cons :
    tickAfter fromTick (sample :: samples) = tickAfter (sample.tick + 1) samples := by
  cases samples with
  | nil => rfl
  | cons next samples => rw [tickAfter, tickAfter, List.getLast?_cons_cons, List.getLast?_cons]; rfl

theorem ascends_cons :
    Ascends fromTick (sample :: samples) ↔
      fromTick ≤ sample.tick ∧ Ascends (sample.tick + 1) samples := by
  unfold Ascends
  rw [List.pairwise_cons, List.forall_mem_cons]
  constructor
  · rintro ⟨⟨hlater, hpairwise⟩, hfrom, -⟩
    exact ⟨hfrom, hpairwise, fun other hother ↦ Int.add_one_le_of_lt (hlater other hother)⟩
  · rintro ⟨hfrom, hpairwise, hlater⟩
    refine ⟨⟨fun other hother ↦ ?_, hpairwise⟩, hfrom, fun other hother ↦ ?_⟩
    · exact Int.lt_of_add_one_le (hlater other hother)
    · have := hlater other hother
      omega

theorem le_tickAfter (hascends : Ascends fromTick samples) :
    fromTick ≤ tickAfter fromTick samples := by
  unfold tickAfter
  cases hlast : samples.getLast? with
  | none => exact le_rfl
  | some previous =>
    have hprevious := hascends.2 previous (List.mem_of_getLast? hlast)
    show fromTick ≤ previous.tick + 1
    omega

theorem lt_tickAfter (hascends : Ascends fromTick samples) (hsample : sample ∈ samples) :
    sample.tick < tickAfter fromTick samples := by
  induction samples generalizing fromTick with
  | nil => simp at hsample
  | cons first samples ih =>
    obtain ⟨hfirst, hrest⟩ := ascends_cons.1 hascends
    rw [tickAfter_cons]
    rcases List.mem_cons.1 hsample with rfl | hsample
    · exact Int.lt_of_add_one_le (le_tickAfter hrest)
    · exact ih hrest hsample

/-- After samples in order, the misplaced samples are those below the expected tick. -/
theorem misplaced_iff (hascends : Ascends fromTick early) :
    Misplaced fromTick early sample ↔ sample.tick < tickAfter fromTick early := by
  unfold Misplaced tickAfter
  cases hlast : early.getLast? with
  | none => simp
  | some previous =>
    have hprevious := hascends.2 previous (List.mem_of_getLast? hlast)
    simp only [Option.mem_some_iff, exists_eq_left', Option.map_some, Option.getD_some]
    omega

theorem ascends_concat :
    Ascends fromTick (early ++ [sample]) ↔
      Ascends fromTick early ∧ ¬ Misplaced fromTick early sample := by
  constructor
  · rintro ⟨hpairwise, hfrom⟩
    obtain ⟨hearly, -, hbefore⟩ := List.pairwise_append.1 hpairwise
    have hascends : Ascends fromTick early :=
      ⟨hearly, fun other hother ↦ hfrom other (List.mem_append_left _ hother)⟩
    refine ⟨hascends, ?_⟩
    rintro (hbelow | ⟨previous, hlast, hle⟩)
    · exact absurd (hfrom sample (by simp)) (not_le.2 hbelow)
    · exact absurd (hbefore previous (List.mem_of_getLast? hlast) sample (by simp)) (not_lt.2 hle)
  · rintro ⟨hascends, hplaced⟩
    rw [misplaced_iff hascends, not_lt] at hplaced
    refine ⟨List.pairwise_append.2 ⟨hascends.1, List.pairwise_singleton _ _, ?_⟩, ?_⟩
    · intro other hother last hlast
      obtain rfl := List.mem_singleton.1 hlast
      exact (lt_tickAfter hascends hother).trans_le hplaced
    · intro other hother
      rcases List.mem_append.1 hother with hother | hother
      · exact hascends.2 other hother
      · obtain rfl := List.mem_singleton.1 hother
        exact (le_tickAfter hascends).trans hplaced

/-- Samples are in order up to the first misplaced one, if there is any. -/
theorem ascends_or_exists_misplaced (fromTick : ℤ) (samples : List (EvidenceSample Value)) :
    Ascends fromTick samples ∨ ∃ early sample later, samples = early ++ sample :: later ∧
      Ascends fromTick early ∧ Misplaced fromTick early sample := by
  induction samples using List.reverseRecOn with
  | nil => exact .inl ⟨.nil, by simp⟩
  | append_singleton samples last ih =>
    rcases ih with hascends | ⟨early, sample, later, rfl, hearly, hmisplaced⟩
    · by_cases hmisplaced : Misplaced fromTick samples last
      · exact .inr ⟨samples, last, [], rfl, hascends, hmisplaced⟩
      · exact .inl (ascends_concat.2 ⟨hascends, hmisplaced⟩)
    · exact .inr ⟨early, sample, later ++ [last], by simp, hearly, hmisplaced⟩

theorem not_misplaced_of_ascends (hascends : Ascends fromTick (early ++ sample :: later)) :
    ¬ Misplaced fromTick early sample := by
  obtain ⟨hpairwise, hfrom⟩ := hascends
  rw [List.append_cons] at hpairwise hfrom
  exact (ascends_concat.1 ⟨(List.pairwise_append.1 hpairwise).1,
    fun other hother ↦ hfrom other (List.mem_append_left _ hother)⟩).2

end Order

/-- Samples in order give one item for each tick through the last of them, before those of the
samples that follow. -/
theorem fillTicks_append {untilTick : ℤ} {ending : Except HilRigError Unit} {expectedTick : ℤ}
    {early : List (EvidenceSample Value)} (hascends : Ascends expectedTick early)
    (later : List (EvidenceSample Value)) :
    fillTicks untilTick ending expectedTick (early ++ later) =
      .prepend ((Int.range expectedTick (tickAfter expectedTick early)).map (sampleOf early))
        (fillTicks untilTick ending (tickAfter expectedTick early) later) := by
  induction early generalizing expectedTick with
  | nil =>
    show _ = Iteration.prepend ((Int.range expectedTick expectedTick).map _) _
    rw [range_eq_nil le_rfl]
    rfl
  | cons sample early ih =>
    obtain ⟨hexpected, hearly⟩ := ascends_cons.1 hascends
    have hnext : sample.tick + 1 ≤ tickAfter (sample.tick + 1) early := le_tickAfter hearly
    have hbefore : (missingTicks expectedTick sample.tick : List (EvidenceSample Value)) =
        (Int.range expectedTick sample.tick).map (sampleOf (sample :: early)) := by
      refine List.map_congr_left fun tick htick ↦ ?_
      have htick := (Int.mem_range_iff.1 htick).2
      refine (sampleOf_of_forall fun other hother ↦ ?_).symm
      rcases List.mem_cons.1 hother with rfl | hother
      · exact htick.ne'
      · have := hearly.2 other hother
        omega
    have hafter : (Int.range (sample.tick + 1) (tickAfter (sample.tick + 1) early)).map
          (sampleOf early) =
        (Int.range (sample.tick + 1) (tickAfter (sample.tick + 1) early)).map
          (sampleOf (sample :: early)) := by
      refine List.map_congr_left fun tick htick ↦ (sampleOf_cons_of_ne ?_).symm
      have htick := (Int.mem_range_iff.1 htick).1
      omega
    rw [List.cons_append, fillTicks, if_neg (not_lt.2 hexpected), ih hearly, hbefore, hafter,
      tickAfter_cons,
      ← range_append hexpected (show sample.tick ≤ tickAfter (sample.tick + 1) early by omega),
      range_eq_cons (show sample.tick < tickAfter (sample.tick + 1) early by omega),
      List.map_append, List.map_cons, sampleOf_cons_self]
    simp [Iteration.prepend, Iteration.cons]

/-- Ascending samples from an expected tick on are filled up to one item for each tick. -/
theorem fillTicks_eq {untilTick : ℤ} {samples : List (EvidenceSample Value)} {expectedTick : ℤ}
    (hascending : samples.Pairwise fun first second ↦ first.tick < second.tick)
    (hwithin : ∀ sample ∈ samples, expectedTick ≤ sample.tick ∧ sample.tick ≤ untilTick) :
    fillTicks untilTick (.ok ()) expectedTick samples =
      .ofList ((Int.range expectedTick (untilTick + 1)).map (sampleOf samples)) := by
  cases hlast : samples.getLast? with
  | none =>
    rw [List.getLast?_eq_none_iff] at hlast
    subst hlast
    rfl
  | some last =>
    have hascends : Ascends expectedTick samples :=
      ⟨hascending, fun sample hsample ↦ (hwithin sample hsample).1⟩
    have hafter : tickAfter expectedTick samples = last.tick + 1 := by
      rw [tickAfter, hlast]
      rfl
    have hwithin := hwithin last (List.mem_of_getLast? hlast)
    have htail : (missingTicks (last.tick + 1) (untilTick + 1) : List (EvidenceSample Value)) =
        (Int.range (last.tick + 1) (untilTick + 1)).map (sampleOf samples) := by
      refine List.map_congr_left fun tick htick ↦ (sampleOf_of_forall fun other hother ↦ ?_).symm
      have hother := lt_tickAfter hascends hother
      have htick := (Int.mem_range_iff.1 htick).1
      omega
    have happend := @fillTicks_append _ untilTick (.ok ()) _ _ hascends []
    rw [List.append_nil, fillTicks, hafter, htail] at happend
    rw [happend, ← range_append (show expectedTick ≤ last.tick + 1 by omega)
      (show last.tick + 1 ≤ untilTick + 1 by omega), List.map_append]
    rfl

/-- Ascending samples of a range give one item for each of its ticks: the sample of this tick, or
the marker that there is none. -/
theorem includeMissingTicks_eq {samples : List (EvidenceSample Value)} {fromTick untilTick : ℤ}
    (hascending : samples.Pairwise fun first second ↦ first.tick < second.tick)
    (hwithin : ∀ sample ∈ samples, fromTick ≤ sample.tick ∧ sample.tick ≤ untilTick) :
    includeMissingTicks (.ofList samples) fromTick untilTick =
      .ofList ((Int.range fromTick (untilTick + 1)).map (sampleOf samples)) :=
  fillTicks_eq hascending hwithin

/-- Samples in order are all yielded. -/
theorem ending_includeMissingTicks {samples : List (EvidenceSample Value)} {fromTick : ℤ}
    (hascends : Ascends fromTick samples) (untilTick : ℤ) :
    (includeMissingTicks (.ofList samples) fromTick untilTick).ending = .ok () := by
  show (fillTicks untilTick (.ok ()) fromTick samples).ending = _
  have happend := @fillTicks_append _ untilTick (.ok ()) _ _ hascends []
  rw [List.append_nil] at happend
  rw [happend]
  rfl

/-- The first misplaced sample ends the evidence, after the items of the samples before it. -/
theorem includeMissingTicks_of_misplaced {early later : List (EvidenceSample Value)}
    {sample : EvidenceSample Value} {fromTick : ℤ} (hascends : Ascends fromTick early)
    (hmisplaced : Misplaced fromTick early sample) (untilTick : ℤ) :
    includeMissingTicks (.ofList (early ++ sample :: later)) fromTick untilTick =
      ⟨(Int.range fromTick (tickAfter fromTick early)).map (sampleOf early),
        .error ⟨.evaluation, "Captured range results are duplicated or out of order"⟩⟩ := by
  show fillTicks untilTick (.ok ()) fromTick (early ++ sample :: later) = _
  rw [fillTicks_append hascends, fillTicks, if_pos ((misplaced_iff hascends).1 hmisplaced)]
  simp [Iteration.prepend, Iteration.raise]

/-- Samples of a range that ascend give one item for each of its ticks, in order. Evaluation fails
if and only if some sample is misplaced, and then all items before are those of the samples up to
the first misplaced one. -/
theorem includeMissingTicks_yields (samples : List (EvidenceSample Value))
    (fromTick untilTick : ℤ) :
    ((samples.Pairwise fun first second ↦ first.tick < second.tick) →
      (∀ sample ∈ samples, fromTick ≤ sample.tick ∧ sample.tick ≤ untilTick) →
      includeMissingTicks (.ofList samples) fromTick untilTick =
        .ofList ((Int.range fromTick (untilTick + 1)).map (sampleOf samples))) ∧
    ((∃ error, (includeMissingTicks (.ofList samples) fromTick untilTick).ending = .error error ∧
        error.kind = .evaluation) ↔
      ∃ early sample later, samples = early ++ sample :: later ∧
        Misplaced fromTick early sample) ∧
    ∀ error, (includeMissingTicks (.ofList samples) fromTick untilTick).ending = .error error →
      ∃ early sample later, samples = early ++ sample :: later ∧
        Ascends fromTick early ∧ Misplaced fromTick early sample ∧
        (includeMissingTicks (.ofList samples) fromTick untilTick).items =
          (Int.range fromTick (tickAfter fromTick early)).map (sampleOf early) := by
  refine ⟨fillTicks_eq, ?_, ?_⟩
  · constructor
    · rintro ⟨error, hending, -⟩
      rcases ascends_or_exists_misplaced fromTick samples with hascends | hmisplaced
      · rw [ending_includeMissingTicks hascends] at hending
        exact nomatch hending
      · obtain ⟨early, sample, later, hsplit, -, hmisplaced⟩ := hmisplaced
        exact ⟨early, sample, later, hsplit, hmisplaced⟩
    · rintro ⟨early, sample, later, rfl, hmisplaced⟩
      rcases ascends_or_exists_misplaced fromTick (early ++ sample :: later) with
        hascends | ⟨first, misplaced, rest, hsplit, hascends, hfirst⟩
      · exact absurd hmisplaced (not_misplaced_of_ascends hascends)
      · rw [hsplit, includeMissingTicks_of_misplaced hascends hfirst]
        exact ⟨_, rfl, rfl⟩
  · intro error hending
    rcases ascends_or_exists_misplaced fromTick samples with
      hascends | ⟨early, sample, later, rfl, hascends, hmisplaced⟩
    · rw [ending_includeMissingTicks hascends] at hending
      exact nomatch hending
    · refine ⟨early, sample, later, rfl, hascends, hmisplaced, ?_⟩
      rw [includeMissingTicks_of_misplaced hascends hmisplaced]

/-! ### Queries -/

/-- The evidence of one tick of a channel. -/
def evidencePoint (series : InputSeries Value) (tick : ℤ) :
    Except HilRigError (EvidenceSample Value) := do
  match ← series.sampleAt tick with
  | some sample => return .ofSample sample
  | none => return .absent tick

/-- The evidence of an inclusive range of ticks of a channel. -/
def evidenceRange (series : InputSeries Value) (fromTick untilTick : ℤ) :
    Except HilRigError (Iteration HilRigError (EvidenceSample Value)) := do
  let samples ← series.iterSamples fromTick (some untilTick)
  return includeMissingTicks (samples.map .ofSample) fromTick untilTick

end Filling

/-- Channel-oriented evidence queries shared by all evaluator handlers. -/
structure EvaluationContext where
  capturedRun : CapturedRunIR

namespace EvaluationContext

variable (context : EvaluationContext)

def digitalPoint (channel tick : ℤ) : Except HilRigError (EvidenceSample Bool) := do
  let series ← context.capturedRun.digitalInput channel
  evidencePoint series tick

def digitalRange (channel fromTick untilTick : ℤ) :
    Except HilRigError (Iteration HilRigError (EvidenceSample Bool)) := do
  let series ← context.capturedRun.digitalInput channel
  evidenceRange series fromTick untilTick

def analoguePoint (channel tick : ℤ) : Except HilRigError (EvidenceSample ℤ) := do
  let series ← context.capturedRun.analogueInput channel
  evidencePoint series tick

def analogueRange (channel fromTick untilTick : ℤ) :
    Except HilRigError (Iteration HilRigError (EvidenceSample ℤ)) := do
  let series ← context.capturedRun.analogueInput channel
  evidenceRange series fromTick untilTick

def pwmPoint (channel tick : ℤ) : Except HilRigError (EvidenceSample PWMMeasurement) := do
  let series ← context.capturedRun.pwmInput channel
  evidencePoint series tick

def pwmRange (channel fromTick untilTick : ℤ) :
    Except HilRigError (Iteration HilRigError (EvidenceSample PWMMeasurement)) := do
  let series ← context.capturedRun.pwmInput channel
  evidenceRange series fromTick untilTick

end EvaluationContext

/-! ### The evidence of stored results -/

section Stored

variable {Value : Type} {results : List TickResult}

/-- The value of a channel in the result stored for a tick, as evidence. -/
def evidenceOf (value : TickResult → Option Value) (results : List TickResult) (tick : ℤ) :
    EvidenceSample Value :=
  match results.find? fun result ↦ (result.tick : ℤ) = tick with
  | some result => ⟨tick, value result, some result.condition, result.problemDetail, false⟩
  | none => .absent tick

/-- The value of some evidence is one of a stored result. -/
theorem exists_of_value_evidenceOf {value : TickResult → Option Value} {tick : ℤ} {held : Value}
    (hheld : (evidenceOf value results tick).value = some held) :
    ∃ result ∈ results, value result = some held := by
  unfold evidenceOf at hheld
  split at hheld
  · rename_i result hfound
    exact ⟨result, List.mem_of_find?_eq_some hfound, hheld⟩
  · cases hheld

/-- The evidence of the results read for a range is that of all stored ones. -/
theorem sampleOf_resultsWithin {value : TickResult → Option Value}
    {sample : TickResult → EvidenceSample Value}
    (hsample : ∀ result, sample result =
      ⟨result.tick, value result, some result.condition, result.problemDetail, false⟩)
    (hnodup : (results.map TickResult.tick).Nodup) {fromTick untilTick : ℕ} {tick : ℤ}
    (htick : tick ∈ Int.range fromTick (untilTick + 1)) :
    sampleOf ((resultsWithin results fromTick untilTick).map sample) tick =
      evidenceOf value results tick := by
  obtain ⟨hfrom, huntil⟩ := Int.mem_range_iff.1 htick
  have hsampleTick (result : TickResult) : (sample result).tick = result.tick := by rw [hsample]
  unfold evidenceOf
  cases hfound : results.find? fun result ↦ (result.tick : ℤ) = tick with
  | none =>
    refine sampleOf_of_forall fun other hother ↦ ?_
    obtain ⟨result, hresult, rfl⟩ := List.mem_map.1 hother
    rw [hsampleTick]
    simpa using List.find?_eq_none.1 hfound result (mem_resultsWithin.1 hresult).1
  | some result =>
    have hmem := List.mem_of_find?_eq_some hfound
    have heq : (result.tick : ℤ) = tick := by simpa using List.find?_some hfound
    have hwithin : result ∈ resultsWithin results fromTick untilTick :=
      mem_resultsWithin.2 ⟨hmem, by omega, by omega⟩
    have hfirst : ((resultsWithin results fromTick untilTick).map sample).find?
        (fun other ↦ other.tick = tick) = some (sample result) := by
      refine find?_of_unique (List.mem_map_of_mem hwithin)
        (decide_eq_true ((hsampleTick result).trans heq)) fun other hother hmatched ↦ ?_
      obtain ⟨later, hlater, rfl⟩ := List.mem_map.1 hother
      have hsame : (later.tick : ℤ) = tick :=
        (hsampleTick later).symm.trans (of_decide_eq_true hmatched)
      rw [List.inj_on_of_nodup_map hnodup (mem_resultsWithin.1 hlater).1 hmem (by omega)]
    rw [sampleOf, hfirst, Option.getD_some, hsample, heq]

variable {series : InputSeries Value}

/-- The evidence of a tick is that of the stored results. -/
theorem evidencePoint_eq
    (hrows : series.run.file.database.tickResults = results.map tickParameters) {tick : ℕ}
    (hfits : fitsInteger tick = true) : evidencePoint series tick =
      .ok (evidenceOf (fun result ↦ series.value result.captured) results tick) := by
  unfold evidencePoint InputSeries.sampleAt CapturedRunIR.tickAt
  rw [nonNegativeTick_natCast, ok_bind, readTick_eq hrows hfits, ok_bind, evidenceOf]
  have hcast : (fun result : TickResult ↦ decide ((result.tick : ℤ) = tick)) =
      fun result ↦ decide (result.tick = tick) :=
    funext fun result ↦ decide_eq_decide.2 Int.ofNat_inj
  rw [hcast]
  cases hfound : results.find? fun result ↦ result.tick = tick with
  | none => rfl
  | some result =>
    have htick : result.tick = tick := by simpa using List.find?_some hfound
    show Except.ok (EvidenceSample.mk (result.tick : ℤ) _ _ _ _) = _
    rw [htick]
    rfl

/-- The evidence of a range is that of the stored results, one item for each tick. -/
theorem evidenceRange_eq
    (hrows : series.run.file.database.tickResults = results.map tickParameters)
    (hnodup : (results.map TickResult.tick).Nodup) {fromTick untilTick : ℕ}
    (hle : fromTick ≤ untilTick) (hfits : fitsInteger untilTick = true) :
    evidenceRange series fromTick untilTick =
      .ok (.ofList ((Int.range fromTick (untilTick + 1)).map
        (evidenceOf (fun result ↦ series.value result.captured) results))) := by
  have hrange : validateRange fromTick (some untilTick) = .ok (fromTick, some untilTick) := by
    unfold validateRange
    rw [nonNegativeTick_natCast]
    show (nonNegativeTick (untilTick : ℤ) "until_tick" >>= fun last ↦
      if last < fromTick then Except.error _ else pure (fromTick, some last)) = _
    rw [nonNegativeTick_natCast]
    exact if_neg (not_lt.2 hle)
  unfold evidenceRange InputSeries.iterSamples CapturedRunIR.iterTicks
  rw [hrange]
  show Except.ok (includeMissingTicks (((readTicks series.run.file.database fromTick
    (some untilTick)).map series.sample).map .ofSample) fromTick untilTick) = _
  rw [readTicks_eq hrows (fitsInteger_of_le hle hfits) hfits, Iteration.map_ofList,
    Iteration.map_ofList, List.map_map, List.map_map, includeMissingTicks_eq]
  · refine congrArg (fun items ↦ Except.ok (Iteration.ofList items))
      (List.map_congr_left fun tick htick ↦ ?_)
    exact sampleOf_resultsWithin (fun result ↦ rfl) hnodup htick
  · refine List.pairwise_map.2 ((pairwise_resultsWithin hnodup _ _).imp fun horder ↦ ?_)
    exact Int.ofNat_lt.2 horder
  · intro sample hsample
    obtain ⟨result, hresult, rfl⟩ := List.mem_map.1 hsample
    obtain ⟨-, hfrom, huntil⟩ := mem_resultsWithin.1 hresult
    exact ⟨Int.ofNat_le.2 hfrom, Int.ofNat_le.2 huntil⟩

end Stored

end HilRig.Evaluation
