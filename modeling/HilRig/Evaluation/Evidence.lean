import HilRig.Evaluation.Digital

/-!
# What evidence says about a demand

An assertion demands that the samples of a channel are accepted throughout a range of ticks, or that
two adjacent samples make a change. Evidence is partial: a tick may have no valid sample. A `Demand`
is `Violated` or `Proved` by the samples alone, and never both. `Decides` says that a verdict is
`FAIL` exactly when the samples violate the demand and `PASS` exactly when they prove it. The loops
of the handlers over a range of evidence decide their demands (`decides_rangeVerdict`,
`decides_transitionVerdict`).
-/

set_option autoImplicit false
set_option relaxedAutoImplicit false

namespace HilRig.Evaluation

open HilRig.Results HilRig.Foundations

/-! ### Demands -/

/-- A demand on the samples of a channel: each is accepted throughout a range of ticks, or there is
a change between two states at adjacent ticks of it. A tick without a valid sample has none. -/
inductive Demand
  | throughout (accepted : ℕ → Option Bool) (fromTick untilTick : ℕ)
  | change (level : ℕ → Option Bool) (fromState toState : Bool) (fromTick untilTick : ℕ)

/-- Two adjacent ticks of a range make a change. -/
def Changes (level : ℕ → Option Bool) (fromState toState : Bool) (fromTick untilTick : ℕ) : Prop :=
  ∃ tick, fromTick ≤ tick ∧ tick < untilTick ∧ level tick = some fromState ∧
    level (tick + 1) = some toState

/-- The samples violate a demand: one of them is not accepted, or all of them are there and none of
them makes the change. -/
def Demand.Violated : Demand → Prop
  | throughout accepted fromTick untilTick =>
    ∃ tick, fromTick ≤ tick ∧ tick ≤ untilTick ∧ accepted tick = some false
  | change level fromState toState fromTick untilTick =>
    (∀ tick, fromTick ≤ tick → tick ≤ untilTick → level tick ≠ none) ∧
      ¬Changes level fromState toState fromTick untilTick

/-- The samples prove a demand: all of them are there and accepted, or two of them make the
change. -/
def Demand.Proved : Demand → Prop
  | throughout accepted fromTick untilTick =>
    ∀ tick, fromTick ≤ tick → tick ≤ untilTick → accepted tick = some true
  | change level fromState toState fromTick untilTick =>
    Changes level fromState toState fromTick untilTick

/-- A verdict is the one the samples of a demand give. -/
structure Decides (verdict : EvaluationVerdict) (demand : Demand) : Prop where
  fail : verdict = .fail ↔ demand.Violated
  pass : verdict = .pass ↔ demand.Proved

/-! ### Samples of stored results -/

section Samples

variable {Value : Type} (value : TickResult → Option Value) (results : List TickResult)

/-- The valid sample of a channel at a tick. -/
def sampleAt (tick : ℕ) : Option Value :=
  (results.find? fun result ↦ result.tick = tick).bind value

/-- Whether the valid sample of a channel at a tick is accepted. -/
def acceptedAt (accepts : Value → Bool) (tick : ℕ) : Option Bool :=
  (sampleAt value results tick).map accepts

variable {value results} {tick : ℕ}

theorem evidenceOf_natCast : evidenceOf value results tick =
    match results.find? fun result ↦ result.tick = tick with
    | some result => ⟨tick, value result, some result.condition, result.problemDetail, false⟩
    | none => .absent tick := by
  have hcast : (fun result : TickResult ↦ decide ((result.tick : ℤ) = tick)) =
      fun result ↦ decide (result.tick = tick) :=
    funext fun result ↦ decide_eq_decide.2 Int.ofNat_inj
  show (match results.find? (fun result : TickResult ↦ decide ((result.tick : ℤ) = tick)) with
    | some result => _
    | none => _) = _
  rw [hcast]

@[simp] theorem evidenceOf_tick : (evidenceOf value results tick).tick = tick := by
  rw [evidenceOf_natCast]
  cases results.find? fun result ↦ result.tick = tick <;> rfl

@[simp] theorem evidenceOf_value :
    (evidenceOf value results tick).value = sampleAt value results tick := by
  rw [evidenceOf_natCast, sampleAt]
  cases results.find? fun result ↦ result.tick = tick <;> rfl

/-- Missing evidence has no sample. -/
theorem sampleAt_of_missing (hmissing : (evidenceOf value results tick).missing = true) :
    sampleAt value results tick = none := by
  rw [evidenceOf_natCast] at hmissing
  rw [sampleAt]
  cases hfound : results.find? fun result ↦ result.tick = tick with
  | none => rfl
  | some result => rw [hfound] at hmissing; cases hmissing

/-- Evidence is missing or invalid when there is no valid sample. -/
theorem unusable_iff : (evidenceOf value results tick).missing = true ∨
    (evidenceOf value results tick).invalid = true ↔ sampleAt value results tick = none := by
  unfold EvidenceSample.invalid
  rw [evidenceOf_value]
  cases hmissing : (evidenceOf value results tick).missing with
  | true => simp [sampleAt_of_missing hmissing]
  | false => simp

/-- Evidence violates a demand when there is a valid sample that is not accepted. -/
theorem violates_iff {accepts : Value → Bool} :
    (evidenceOf value results tick).violates accepts = true ↔
      acceptedAt value results accepts tick = some false := by
  unfold EvidenceSample.violates acceptedAt
  rw [evidenceOf_value]
  cases hmissing : (evidenceOf value results tick).missing with
  | true => simp [sampleAt_of_missing hmissing]
  | false => cases sampleAt value results tick <;> simp

/-- The evidence of an inclusive range, one item for each tick. -/
abbrev evidenceOver (value : TickResult → Option Value) (results : List TickResult)
    (fromTick untilTick : ℕ) : List (EvidenceSample Value) :=
  (Int.range fromTick (untilTick + 1)).map (evidenceOf value results)

theorem mem_evidenceOver {fromTick untilTick : ℕ} {item : EvidenceSample Value} :
    item ∈ evidenceOver value results fromTick untilTick ↔
      ∃ tick : ℕ, fromTick ≤ tick ∧ tick ≤ untilTick ∧ evidenceOf value results tick = item := by
  rw [List.mem_map]
  constructor
  · rintro ⟨tick, htick, hitem⟩
    obtain ⟨hfrom, huntil⟩ := Int.mem_range_iff.1 htick
    obtain ⟨tick, rfl⟩ := Int.eq_ofNat_of_zero_le (show 0 ≤ tick by omega)
    exact ⟨tick, by omega, by omega, hitem⟩
  · rintro ⟨tick, hfrom, huntil, hitem⟩
    exact ⟨tick, Int.mem_range_iff.2 ⟨by omega, by omega⟩, hitem⟩

end Samples

/-! ### Ranges -/

section Ranges

variable {Value : Type} {value : TickResult → Option Value} {results : List TickResult}
  {fromTick untilTick : ℕ}

/-- Every tick of a range has a valid sample exactly when none of its evidence is counted as missing
or invalid. -/
theorem usable_iff {accepts : Value → Bool} :
    ((RangeCounts.tally accepts (evidenceOver value results fromTick untilTick)).missingCount = 0 ∧
      (RangeCounts.tally accepts (evidenceOver value results fromTick untilTick)).invalidCount =
        0) ↔
      ∀ tick, fromTick ≤ tick → tick ≤ untilTick → sampleAt value results tick ≠ none := by
  show List.countP _ _ = 0 ∧ List.countP _ _ = 0 ↔ _
  rw [List.countP_eq_zero, List.countP_eq_zero]
  constructor
  · rintro ⟨hmissing, hinvalid⟩ tick hfrom huntil hnone
    have hmem : evidenceOf value results tick ∈ evidenceOver value results fromTick untilTick :=
      mem_evidenceOver.2 ⟨tick, hfrom, huntil, rfl⟩
    rcases unusable_iff.2 hnone with hitem | hitem
    · exact hmissing _ hmem hitem
    · exact hinvalid _ hmem hitem
  · intro husable
    constructor
    · intro item hitem hmissing
      obtain ⟨tick, hfrom, huntil, rfl⟩ := mem_evidenceOver.1 hitem
      exact husable tick hfrom huntil (unusable_iff.1 (.inl hmissing))
    · intro item hitem hinvalid
      obtain ⟨tick, hfrom, huntil, rfl⟩ := mem_evidenceOver.1 hitem
      exact husable tick hfrom huntil (unusable_iff.1 (.inr hinvalid))

/-- A range has a violation exactly when some valid sample is not accepted. -/
theorem violated_iff {accepts : Value → Bool} :
    (RangeCounts.tally accepts (evidenceOver value results fromTick untilTick)).violationCount ≠
      0 ↔ ∃ tick, fromTick ≤ tick ∧ tick ≤ untilTick ∧
        acceptedAt value results accepts tick = some false := by
  show List.countP _ _ ≠ 0 ↔ _
  rw [← Nat.pos_iff_ne_zero, List.countP_pos_iff]
  constructor
  · rintro ⟨item, hitem, hviolates⟩
    obtain ⟨tick, hfrom, huntil, rfl⟩ := mem_evidenceOver.1 hitem
    exact ⟨tick, hfrom, huntil, violates_iff.1 hviolates⟩
  · rintro ⟨tick, hfrom, huntil, hrefused⟩
    exact ⟨_, mem_evidenceOver.2 ⟨tick, hfrom, huntil, rfl⟩, violates_iff.2 hrefused⟩

/-- The counts of a range decide whether its samples are accepted throughout. -/
theorem decides_rangeVerdict {accepts : Value → Bool} {counts : RangeCounts}
    (hcounts : counts = .tally accepts (evidenceOver value results fromTick untilTick)) :
    Decides (rangeVerdict counts.violationCount counts.missingCount counts.invalidCount)
      (.throughout (acceptedAt value results accepts) fromTick untilTick) := by
  subst hcounts
  constructor
  · rw [rangeVerdict_eq_fail_iff, violated_iff]
    rfl
  · rw [rangeVerdict_eq_pass_iff, usable_iff]
    constructor
    · rintro ⟨hviolation, husable⟩ tick hfrom huntil
      cases haccepted : acceptedAt value results accepts tick with
      | none => exact absurd (Option.map_eq_none_iff.1 haccepted) (husable tick hfrom huntil)
      | some accepted =>
        cases accepted with
        | false => exact absurd hviolation (violated_iff.2 ⟨tick, hfrom, huntil, haccepted⟩)
        | true => rfl
    · intro hproved
      constructor
      · by_contra hviolation
        obtain ⟨tick, hfrom, huntil, hrefused⟩ := violated_iff.1 hviolation
        rw [hproved tick hfrom huntil] at hrefused
        cases hrefused
      · intro tick hfrom huntil hnone
        have haccepted := hproved tick hfrom huntil
        rw [acceptedAt, hnone] at haccepted
        cases haccepted

end Ranges

/-! ### Transitions -/

section Transitions

variable {fromState toState : Bool}

/-- The sample an item of evidence leaves for the next one. -/
def heldBy (evidence : EvidenceSample Bool) : Option (ℤ × Bool) :=
  if evidence.missing then none else evidence.value.map fun actual ↦ (evidence.tick, actual)

/-- The ticks of the transition that an item of evidence makes with the sample before it. -/
def madeBy (fromState toState : Bool) (previous : Option (ℤ × Bool))
    (evidence : EvidenceSample Bool) : Option (ℤ × ℤ) :=
  (heldBy evidence).bind fun sample ↦
    if isTransition fromState toState previous sample.1 sample.2 then
      previous.map fun earlier ↦ (earlier.1, sample.1)
    else none

/-- The first transition of some evidence, after a sample before it. -/
def firstTransition (fromState toState : Bool) :
    Option (ℤ × Bool) → List (EvidenceSample Bool) → Option (ℤ × ℤ)
  | _, [] => none
  | previous, item :: items =>
    (madeBy fromState toState previous item).or
      (firstTransition fromState toState (heldBy item) items)

/-- A search counts its evidence as a range does. -/
theorem observe_toRangeCounts (search : TransitionSearch) (evidence : EvidenceSample Bool) :
    (search.observe fromState toState evidence).toRangeCounts =
      search.toRangeCounts.add (fun _ ↦ true) evidence := by
  obtain ⟨tick, value, condition, problemDetail, missing⟩ := evidence
  cases missing with
  | true => rfl
  | false => cases value <;> rfl

theorem observe_previous (search : TransitionSearch) (evidence : EvidenceSample Bool) :
    (search.observe fromState toState evidence).previous = heldBy evidence := by
  obtain ⟨tick, value, condition, problemDetail, missing⟩ := evidence
  cases missing with
  | true => rfl
  | false => cases value <;> rfl

theorem observe_transition (search : TransitionSearch) (evidence : EvidenceSample Bool) :
    (search.observe fromState toState evidence).transition =
      search.transition.or (madeBy fromState toState search.previous evidence) := by
  obtain ⟨tick, value, condition, problemDetail, missing⟩ := evidence
  cases missing with
  | true => exact (Option.or_none).symm
  | false =>
    cases value with
    | none => exact (Option.or_none).symm
    | some actual =>
      show (if _ then _ else _) = _
      cases htransition : search.transition with
      | none => simp [madeBy, heldBy]
      | some pair => simp

/-- A search keeps the first transition of its evidence. -/
theorem transition_foldl (items : List (EvidenceSample Bool)) (search : TransitionSearch) :
    (items.foldl (fun search item ↦ search.observe fromState toState item) search).transition =
      search.transition.or (firstTransition fromState toState search.previous items) := by
  induction items generalizing search with
  | nil => exact (Option.or_none).symm
  | cons item items ih =>
    rw [List.foldl_cons, ih, observe_transition, observe_previous, Option.or_assoc]
    rfl

variable {value : TickResult → Option Bool} {results : List TickResult}

theorem heldBy_evidenceOf (tick : ℕ) : heldBy (evidenceOf value results tick) =
    (sampleAt value results tick).map fun actual ↦ ((tick : ℤ), actual) := by
  unfold heldBy
  rw [evidenceOf_value, evidenceOf_tick]
  cases hmissing : (evidenceOf value results tick).missing with
  | true => simp [sampleAt_of_missing hmissing]
  | false => simp

/-- A sample makes a transition with the one of the tick before exactly when both ticks have valid
samples with its states. -/
theorem madeBy_evidenceOf (tick : ℕ) :
    madeBy fromState toState (heldBy (evidenceOf value results tick))
        (evidenceOf value results (tick + 1 : ℕ)) =
      if sampleAt value results tick = some fromState ∧
          sampleAt value results (tick + 1) = some toState then
        some ((tick : ℤ), (tick : ℤ) + 1)
      else none := by
  unfold madeBy
  rw [heldBy_evidenceOf, heldBy_evidenceOf]
  cases hbefore : sampleAt value results tick with
  | none => cases sampleAt value results (tick + 1) <;> simp [isTransition]
  | some before => cases hafter : sampleAt value results (tick + 1) <;> simp [isTransition]

/-- The ticks of a range at which a change begins. -/
def changesAt (level : ℕ → Option Bool) (fromState toState : Bool) (tick : ℕ) : Bool :=
  level tick = some fromState ∧ level (tick + 1) = some toState

/-- The first transition after the sample of a tick begins at the first tick from it on at which a
change does. -/
theorem firstTransition_evidenceOver {fromTick untilTick count : ℕ}
    (hcount : untilTick = fromTick + count) :
    firstTransition fromState toState (heldBy (evidenceOf value results fromTick))
        (evidenceOver value results (fromTick + 1) untilTick) =
      ((List.range' fromTick count).find? (changesAt (sampleAt value results) fromState
        toState)).map fun tick : ℕ ↦ ((tick : ℤ), (tick : ℤ) + 1) := by
  induction count generalizing fromTick with
  | zero =>
    rw [evidenceOver, range_eq_nil (by omega)]
    rfl
  | succ count ih =>
    have hcons : evidenceOver value results (fromTick + 1) untilTick =
        evidenceOf value results (fromTick + 1 : ℕ) ::
          evidenceOver value results (fromTick + 1 + 1) untilTick := by
      rw [evidenceOver, range_eq_cons (by omega), List.map_cons]
      rfl
    rw [hcons, firstTransition, madeBy_evidenceOf, ih (by omega), List.range'_succ,
      List.find?_cons]
    by_cases hchange : sampleAt value results fromTick = some fromState ∧
        sampleAt value results (fromTick + 1) = some toState
    · rw [if_pos hchange, changesAt, decide_eq_true hchange]
      rfl
    · rw [if_neg hchange, changesAt, decide_eq_false hchange]
      rfl

/-- The first transition of a range of evidence. -/
theorem firstTransition_none {fromTick untilTick : ℕ} (hle : fromTick ≤ untilTick) :
    firstTransition fromState toState none (evidenceOver value results fromTick untilTick) =
      ((List.range' fromTick (untilTick - fromTick)).find? (changesAt (sampleAt value results)
        fromState toState)).map fun tick : ℕ ↦ ((tick : ℤ), (tick : ℤ) + 1) := by
  have hcons : evidenceOver value results fromTick untilTick =
      evidenceOf value results fromTick ::
        evidenceOver value results (fromTick + 1) untilTick := by
    rw [evidenceOver, range_eq_cons (by omega), List.map_cons]
    rfl
  have hfirst : madeBy fromState toState none (evidenceOf value results fromTick) = none := by
    unfold madeBy
    rw [heldBy_evidenceOf]
    cases sampleAt value results fromTick <;> rfl
  rw [hcons, firstTransition, hfirst, Option.none_or,
    firstTransition_evidenceOver (show untilTick = fromTick + (untilTick - fromTick) by omega)]

/-- The search over some evidence. -/
def searchOver (fromState toState : Bool) (items : List (EvidenceSample Bool)) :
    TransitionSearch :=
  items.foldl (fun search item ↦ search.observe fromState toState item) {}

/-- A search finds the first tick of its range at which a change begins. -/
theorem transition_searchOver {fromTick untilTick : ℕ} (hle : fromTick ≤ untilTick) :
    (searchOver fromState toState (evidenceOver value results fromTick untilTick)).transition =
      ((List.range' fromTick (untilTick - fromTick)).find? (changesAt (sampleAt value results)
        fromState toState)).map fun tick : ℕ ↦ ((tick : ℤ), (tick : ℤ) + 1) := by
  rw [searchOver, transition_foldl]
  exact firstTransition_none hle

/-- A search decides whether its range has the change. -/
theorem decides_transitionVerdict {fromTick untilTick : ℕ} (hle : fromTick ≤ untilTick) :
    Decides (transitionVerdict (searchOver fromState toState
        (evidenceOver value results fromTick untilTick)))
      (.change (sampleAt value results) fromState toState fromTick untilTick) := by
  have hcounts := @tally_foldl Bool TransitionSearch
    (fun search item ↦ search.observe fromState toState item) (fun search ↦ search.toRangeCounts)
    (fun _ ↦ true) observe_toRangeCounts (evidenceOver value results fromTick untilTick) {} rfl
  have htransition : (searchOver fromState toState
      (evidenceOver value results fromTick untilTick)).transition.isSome ↔
        Changes (sampleAt value results) fromState toState fromTick untilTick := by
    rw [transition_searchOver hle, Option.isSome_map, List.find?_isSome]
    constructor
    · rintro ⟨tick, htick, hchange⟩
      obtain ⟨hfrom, huntil⟩ := List.mem_range'_1.1 htick
      obtain ⟨hbefore, hafter⟩ := of_decide_eq_true hchange
      exact ⟨tick, hfrom, by omega, hbefore, hafter⟩
    · rintro ⟨tick, hfrom, huntil, hbefore, hafter⟩
      exact ⟨tick, List.mem_range'_1.2 ⟨hfrom, by omega⟩, decide_eq_true ⟨hbefore, hafter⟩⟩
  change (searchOver fromState toState _).toRangeCounts = _ at hcounts
  generalize searchOver fromState toState (evidenceOver value results fromTick untilTick) = search
    at hcounts htransition ⊢
  have husable : (search.missingCount = 0 ∧ search.invalidCount = 0) ↔
      ∀ tick, fromTick ≤ tick → tick ≤ untilTick → sampleAt value results tick ≠ none := by
    rw [hcounts]
    exact usable_iff
  constructor
  · show _ ↔ (_ ∧ ¬Changes _ _ _ _ _)
    rw [← husable, ← htransition]
    unfold transitionVerdict
    split_ifs with hfound hunusable
    · simp [hfound]
    · simp only [false_iff]
      omega
    · simp only [true_iff]
      exact ⟨by omega, hfound⟩
  · show _ ↔ Changes _ _ _ _ _
    rw [← htransition]
    unfold transitionVerdict
    split_ifs with hfound hunusable
    · simp [hfound]
    · simp [hfound]
    · simp [hfound]

end Transitions

end HilRig.Evaluation
