import HilRig.Evaluation.Context
import HilRig.Models.Doubles

/-!
# Common validation and result construction for assertion handlers

A handler reads the arguments of a stored assertion by name and makes one `AssertionResult`, whose
message text is left out. The range handlers all count the same things of their evidence
(`RangeCounts`), which `RangeCounts.tally` reads off a whole range, and give the verdict by
`rangeVerdict`.
-/

set_option autoImplicit false
set_option relaxedAutoImplicit false

namespace HilRig.Evaluation

open HilRig.Models HilRig.Results HilRig.Foundations

/-! ### Results -/

/-- Outcome of an assertion or a complete assertion set. -/
inductive EvaluationVerdict
  | pass
  | fail
  | inconclusive
  deriving DecidableEq, Repr

/-- Outcome and compact evidence summary for one compiled assertion. -/
structure AssertionResult where
  assertionId : ℕ
  verdict : EvaluationVerdict
  peripheral : String
  channel : ℕ
  assertion : String
  evaluatedFromTick : ℤ
  evaluatedUntilTick : ℤ
  expected : Fields
  observed : Fields
  validSampleCount : ℕ
  missingSampleCount : ℕ
  invalidSampleCount : ℕ
  violationCount : ℕ
  firstFailureTick : Option ℤ
  deriving DecidableEq, Repr

/-- One registered handler. -/
abbrev AssertionHandler :=
  CompiledAssertion → EvaluationContext → Except HilRigError AssertionResult

/-! ### Arguments -/

/-- The error of an argument that is not of its kind. -/
def argumentError (assertion : CompiledAssertion) (name requirement : String) : HilRigError :=
  ⟨.evaluation, s!"Assertion {assertion.assertionId} argument '{name}' must be {requirement}"⟩

def integerArgument (assertion : CompiledAssertion) (name : String) : Except HilRigError ℤ :=
  match assertion.arguments.get name with
  | .int value => .ok value
  | _ => .error (argumentError assertion name "an integer")

/-- A finite number, as the double it converts to. -/
def numberArgument (assertion : CompiledAssertion) (name : String) : Except HilRigError ℚ := do
  let converted ←
    match assertion.arguments.get name with
    | .int value => floatOfInt value
    | .float value => .ok value
    | _ => .error (argumentError assertion name "numeric")
  match converted.toDouble? with
  | some double => .ok double
  | none => .error (argumentError assertion name "finite")

def textArgument (assertion : CompiledAssertion) (name : String) : Except HilRigError String :=
  match assertion.arguments.get name with
  | .str value =>
    if value.isEmpty then .error (argumentError assertion name "text") else .ok value
  | _ => .error (argumentError assertion name "text")

/-- The first and last tick of an assertion: its one tick twice, or its range. -/
def assertionTicks (assertion : CompiledAssertion) : Except HilRigError (ℤ × ℤ) := do
  if (assertion.arguments.lookup "tick").isSome then
    let tick ← integerArgument assertion "tick"
    return (tick, tick)
  else
    let fromTick ← integerArgument assertion "from_tick"
    let untilTick ← integerArgument assertion "until_tick"
    return (fromTick, untilTick)

/-- An optional integer as a scalar of a report. -/
def optionalInteger : Option ℤ → IRScalar
  | some value => .int value
  | none => .none

/-- An optional double as a scalar of a report. -/
def optionalDouble : Option ℚ → IRScalar
  | some double => .float (.ofDouble double)
  | none => .none

/-! ### Counts -/

/-- What a result counts of its evidence. -/
@[ext] structure RangeCounts where
  validCount : ℕ := 0
  missingCount : ℕ := 0
  invalidCount : ℕ := 0
  violationCount : ℕ := 0
  firstFailureTick : Option ℤ := none
  deriving DecidableEq, Repr

def makeResult (assertion : CompiledAssertion) (verdict : EvaluationVerdict) (observed : Fields)
    (counts : RangeCounts) : Except HilRigError AssertionResult := do
  let ticks ← assertionTicks assertion
  return {
    assertionId := assertion.assertionId
    verdict := verdict
    peripheral := assertion.peripheral
    channel := assertion.channel
    assertion := assertion.assertion
    evaluatedFromTick := ticks.1
    evaluatedUntilTick := ticks.2
    expected := assertion.arguments
    observed := observed
    validSampleCount := counts.validCount
    missingSampleCount := counts.missingCount
    invalidSampleCount := counts.invalidCount
    violationCount := counts.violationCount
    firstFailureTick := counts.firstFailureTick }

/-- The counts a result carries. -/
def AssertionResult.counts (result : AssertionResult) : RangeCounts where
  validCount := result.validSampleCount
  missingCount := result.missingSampleCount
  invalidCount := result.invalidSampleCount
  violationCount := result.violationCount
  firstFailureTick := result.firstFailureTick

/-- An outcome is a result with a given verdict, observed fields and counts. -/
def Reports (outcome : Except HilRigError AssertionResult) (verdict : EvaluationVerdict)
    (observed : Fields) (counts : RangeCounts) : Prop :=
  ∃ result, outcome = .ok result ∧ result.verdict = verdict ∧ result.observed = observed ∧
    result.counts = counts

/-- A result of an assertion whose ticks are read carries what it is made of. -/
theorem reports_makeResult {assertion : CompiledAssertion} {ticks : ℤ × ℤ}
    (hticks : assertionTicks assertion = .ok ticks) (verdict : EvaluationVerdict)
    (observed : Fields) (counts : RangeCounts) :
    Reports (makeResult assertion verdict observed counts) verdict observed counts := by
  unfold makeResult
  rw [hticks]
  exact ⟨_, rfl, rfl, rfl, rfl⟩

/-- The result of a point assertion without usable evidence. -/
def unavailablePointResult {Value : Type} (assertion : CompiledAssertion)
    (evidence : EvidenceSample Value) : Except HilRigError (Option AssertionResult) :=
  if evidence.missing then
    some <$> makeResult assertion .inconclusive
      [("tick", .int evidence.tick), ("availability", .str "missing")] { missingCount := 1 }
  else if evidence.invalid then
    some <$> makeResult assertion .inconclusive
      [("tick", .int evidence.tick), ("availability", .str "invalid"),
        ("condition", (evidence.condition.map fun condition ↦
          IRScalar.str condition.value).getD .none),
        ("problem_detail", optionalInteger (evidence.problemDetail.map Int.ofNat))]
      { invalidCount := 1 }
  else return none

/-- The counts of one tick with a valid sample, which is accepted or not. -/
def pointCounts (tick : ℤ) (verdict : EvaluationVerdict) : RangeCounts where
  validCount := 1
  violationCount := if verdict = .fail then 1 else 0
  firstFailureTick := if verdict = .fail then some tick else none

def rangeVerdict (violationCount missingSampleCount invalidSampleCount : ℕ) :
    EvaluationVerdict :=
  if violationCount ≠ 0 then .fail
  else if missingSampleCount ≠ 0 ∨ invalidSampleCount ≠ 0 then .inconclusive
  else .pass

/-! ### Counting a range -/

section Counting

variable {Value : Type}

/-- The counts with one more item of evidence, whose value is accepted or not. -/
def RangeCounts.add (accepted : Value → Bool) (counts : RangeCounts)
    (evidence : EvidenceSample Value) : RangeCounts :=
  if evidence.missing then { counts with missingCount := counts.missingCount + 1 }
  else
    match evidence.value with
    | none => { counts with invalidCount := counts.invalidCount + 1 }
    | some value =>
      if accepted value then { counts with validCount := counts.validCount + 1 }
      else { counts with
        validCount := counts.validCount + 1
        violationCount := counts.violationCount + 1
        firstFailureTick := counts.firstFailureTick.or (some evidence.tick) }

/-- Whether an item of evidence is a valid sample that is not accepted. -/
def EvidenceSample.violates (accepted : Value → Bool) (evidence : EvidenceSample Value) : Bool :=
  !evidence.missing && evidence.value.any fun value ↦ !accepted value

/-- The counts of some evidence. -/
def RangeCounts.tally (accepted : Value → Bool) (evidence : List (EvidenceSample Value)) :
    RangeCounts where
  validCount := evidence.countP EvidenceSample.valid
  missingCount := evidence.countP EvidenceSample.missing
  invalidCount := evidence.countP EvidenceSample.invalid
  violationCount := evidence.countP (EvidenceSample.violates accepted)
  firstFailureTick := evidence.findSome? fun item ↦
    if item.violates accepted then some item.tick else none

section Add

variable (accepted : Value → Bool) (counts : RangeCounts) (evidence : EvidenceSample Value)

@[simp] theorem RangeCounts.add_validCount : (counts.add accepted evidence).validCount =
    counts.validCount + evidence.valid.toNat := by
  obtain ⟨tick, value, condition, problemDetail, missing⟩ := evidence
  cases missing with
  | true => simp [add, EvidenceSample.valid]
  | false =>
    cases value with
    | none => simp [add, EvidenceSample.valid]
    | some value =>
      by_cases haccepted : accepted value <;> simp [add, EvidenceSample.valid, haccepted]

@[simp] theorem RangeCounts.add_missingCount : (counts.add accepted evidence).missingCount =
    counts.missingCount + evidence.missing.toNat := by
  obtain ⟨tick, value, condition, problemDetail, missing⟩ := evidence
  cases missing with
  | true => simp [add]
  | false =>
    cases value with
    | none => simp [add]
    | some value => by_cases haccepted : accepted value <;> simp [add, haccepted]

@[simp] theorem RangeCounts.add_invalidCount : (counts.add accepted evidence).invalidCount =
    counts.invalidCount + evidence.invalid.toNat := by
  obtain ⟨tick, value, condition, problemDetail, missing⟩ := evidence
  cases missing with
  | true => simp [add, EvidenceSample.invalid]
  | false =>
    cases value with
    | none => simp [add, EvidenceSample.invalid]
    | some value =>
      by_cases haccepted : accepted value <;> simp [add, EvidenceSample.invalid, haccepted]

@[simp] theorem RangeCounts.add_violationCount : (counts.add accepted evidence).violationCount =
    counts.violationCount + (evidence.violates accepted).toNat := by
  obtain ⟨tick, value, condition, problemDetail, missing⟩ := evidence
  cases missing with
  | true => simp [add, EvidenceSample.violates]
  | false =>
    cases value with
    | none => simp [add, EvidenceSample.violates]
    | some value =>
      by_cases haccepted : accepted value <;> simp [add, EvidenceSample.violates, haccepted]

@[simp] theorem RangeCounts.add_firstFailureTick : (counts.add accepted evidence).firstFailureTick =
    counts.firstFailureTick.or
      (if evidence.violates accepted then some evidence.tick else none) := by
  obtain ⟨tick, value, condition, problemDetail, missing⟩ := evidence
  cases missing with
  | true => simp [add, EvidenceSample.violates]
  | false =>
    cases value with
    | none => simp [add, EvidenceSample.violates]
    | some value =>
      by_cases haccepted : accepted value <;> simp [add, EvidenceSample.violates, haccepted]

end Add

/-- A loop whose counts follow `RangeCounts.add` has the counts of its evidence. -/
theorem tally_foldl {State : Type} {step : State → EvidenceSample Value → State}
    {read : State → RangeCounts} {accepted : Value → Bool}
    (hread : ∀ state evidence, read (step state evidence) = (read state).add accepted evidence)
    (evidence : List (EvidenceSample Value)) {initial : State} (hinitial : read initial = {}) :
    read (evidence.foldl step initial) = .tally accepted evidence := by
  have hvalid := @count_foldl _ _ step (fun state ↦ (read state).validCount) _
    (fun state item ↦ by rw [hread, RangeCounts.add_validCount]) evidence initial
  have hmissing := @count_foldl _ _ step (fun state ↦ (read state).missingCount) _
    (fun state item ↦ by rw [hread, RangeCounts.add_missingCount]) evidence initial
  have hinvalid := @count_foldl _ _ step (fun state ↦ (read state).invalidCount) _
    (fun state item ↦ by rw [hread, RangeCounts.add_invalidCount]) evidence initial
  have hviolation := @count_foldl _ _ step (fun state ↦ (read state).violationCount) _
    (fun state item ↦ by rw [hread, RangeCounts.add_violationCount]) evidence initial
  have hfirst := @first_foldl _ _ _ step (fun state ↦ (read state).firstFailureTick) _
    (fun state item ↦ by rw [hread, RangeCounts.add_firstFailureTick]) evidence initial
  rw [hinitial] at hvalid hmissing hinvalid hviolation hfirst
  ext1
  · exact hvalid.trans (Nat.zero_add _)
  · exact hmissing.trans (Nat.zero_add _)
  · exact hinvalid.trans (Nat.zero_add _)
  · exact hviolation.trans (Nat.zero_add _)
  · exact hfirst

end Counting

/-! ### Verdicts of a range -/

theorem rangeVerdict_eq_fail_iff {violationCount missingSampleCount invalidSampleCount : ℕ} :
    rangeVerdict violationCount missingSampleCount invalidSampleCount = .fail ↔
      violationCount ≠ 0 := by
  unfold rangeVerdict
  split_ifs <;> simp only [true_iff, false_iff] <;> omega

theorem rangeVerdict_eq_pass_iff {violationCount missingSampleCount invalidSampleCount : ℕ} :
    rangeVerdict violationCount missingSampleCount invalidSampleCount = .pass ↔
      violationCount = 0 ∧ missingSampleCount = 0 ∧ invalidSampleCount = 0 := by
  unfold rangeVerdict
  split_ifs <;> simp only [true_iff, false_iff] <;> omega

end HilRig.Evaluation
