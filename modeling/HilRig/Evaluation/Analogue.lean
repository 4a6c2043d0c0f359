import HilRig.Evaluation.Common

/-!
# Evaluation handlers for analogue-input assertions

The text that a message expects is made before a sample is read, and it shows volts as a float: a
handler raises for a threshold whose volts overflow, whatever the samples are.
-/

set_option autoImplicit false
set_option relaxedAutoImplicit false

namespace HilRig.Evaluation

open HilRig.Models HilRig.Results HilRig.Foundations

/-! ### Volts in messages -/

/-- The error of volts that no float holds. -/
def voltsOverflow : HilRigError :=
  ⟨.overflowError, "integer division result too large for a float"⟩

/-- The volts that a message shows, and `none` for unknown ones. -/
def volts (microvolts : Option ℤ) : Except HilRigError (Option ℚ) :=
  match microvolts with
  | none => .ok none
  | some microvolts =>
    let quotient := toDouble (|(microvolts : ℚ)| / 1000000)
    if 2 ^ 1024 ≤ quotient then .error voltsOverflow
    else .ok (some (microvolts.sign * quotient))

/-- Microvolts whose volts do not overflow. -/
def ShownVolts (microvolts : ℤ) : Prop :=
  |microvolts| < 1000000 * (2 ^ 1024 - 2 ^ 970)

instance : DecidablePred ShownVolts := fun _ ↦ Int.decLt _ _

theorem shownVolts_iff {microvolts : ℤ} :
    ShownVolts microvolts ↔ ¬2 ^ 1024 ≤ toDouble (|(microvolts : ℚ)| / 1000000) := by
  have hmicrovolts : (0 : ℚ) ≤ |(microvolts : ℚ)| / 1000000 := by positivity
  rw [le_toDouble_iff hmicrovolts, le_div_iff₀ (by norm_num), not_le, ShownVolts, mul_comm]
  exact_mod_cast Iff.rfl

theorem volts_some_of_shown {microvolts : ℤ} (hshown : ShownVolts microvolts) :
    ∃ shown, volts (some microvolts) = .ok shown :=
  ⟨_, if_neg (shownVolts_iff.1 hshown)⟩

theorem volts_of_shown {microvolts : Option ℤ}
    (hshown : ∀ present ∈ microvolts, ShownVolts present) :
    ∃ shown, volts microvolts = .ok shown := by
  cases microvolts with
  | none => exact ⟨none, rfl⟩
  | some present => exact volts_some_of_shown (hshown present rfl)

theorem volts_of_not_shown {microvolts : ℤ} (hshown : ¬ShownVolts microvolts) :
    volts (some microvolts) = .error voltsOverflow :=
  if_pos (not_not.1 (mt shownVolts_iff.2 hshown))

/-- The volts of an integer of 64 bits are shown. -/
theorem shownVolts_of_fits {microvolts : ℤ} (hfits : fitsInteger microvolts = true) :
    ShownVolts microvolts := by
  rw [fitsInteger_iff] at hfits
  obtain ⟨half, hhalf⟩ : ∃ half : ℤ, (2 : ℤ) ^ 970 = half := ⟨_, rfl⟩
  have hlimit : (2 : ℤ) ^ 1024 = 2 ^ 54 * half := by rw [← hhalf, ← pow_add]
  have hgrows : (2 : ℤ) ^ 63 ≤ half := hhalf ▸ pow_le_pow_right₀ (by norm_num) (by norm_num)
  rw [ShownVolts, hlimit, hhalf, abs_lt]
  omega

/-! ### One tick -/

namespace Analogue

def evaluatePoint (accepts : ℤ → Bool) (assertion : CompiledAssertion)
    (context : EvaluationContext) : Except HilRigError AssertionResult := do
  let tick ← integerArgument assertion "tick"
  let evidence ← context.analoguePoint assertion.channel tick
  match ← unavailablePointResult assertion evidence with
  | some unavailable => return unavailable
  | none =>
    let actualUv := evidence.value.getD 0
    let verdict := if accepts actualUv then EvaluationVerdict.pass else .fail
    let _ ← volts (some actualUv)
    makeResult assertion verdict [("tick", .int tick), ("value_uv", .int actualUv)]
      (pointCounts tick verdict)

/-! ### A range -/

/-- What a range of analogue evidence counts and keeps. -/
structure Counts extends RangeCounts where
  minimumObservedUv : Option ℤ := none
  maximumObservedUv : Option ℤ := none
  firstFailureUv : Option ℤ := none

/-- The counts with one more item of evidence. -/
def Counts.observe (accepts : ℤ → Bool) (counts : Counts) (evidence : EvidenceSample ℤ) :
    Counts :=
  if evidence.missing then { counts with missingCount := counts.missingCount + 1 }
  else
    match evidence.value with
    | none => { counts with invalidCount := counts.invalidCount + 1 }
    | some actualUv =>
      let counted := { counts with
        validCount := counts.validCount + 1
        minimumObservedUv :=
          some ((counts.minimumObservedUv.map fun minimum ↦ min minimum actualUv).getD actualUv)
        maximumObservedUv :=
          some ((counts.maximumObservedUv.map fun maximum ↦ max maximum actualUv).getD actualUv) }
      if accepts actualUv then counted
      else if counted.firstFailureTick.isNone then
        { counted with
          violationCount := counted.violationCount + 1
          firstFailureTick := some evidence.tick
          firstFailureUv := some actualUv }
      else { counted with violationCount := counted.violationCount + 1 }

def evaluateRange (accepts : ℤ → Bool) (assertion : CompiledAssertion)
    (context : EvaluationContext) : Except HilRigError AssertionResult := do
  let fromTick ← integerArgument assertion "from_tick"
  let untilTick ← integerArgument assertion "until_tick"
  let evidence ← context.analogueRange assertion.channel fromTick untilTick
  let counts ← evidence.loop (fun counts item ↦ .ok (counts.observe accepts item)) ({} : Counts)
  let _ ← volts counts.firstFailureUv
  makeResult assertion
    (rangeVerdict counts.violationCount counts.missingCount counts.invalidCount)
    [("minimum_uv", optionalInteger counts.minimumObservedUv),
      ("maximum_uv", optionalInteger counts.maximumObservedUv),
      ("first_failure_uv", optionalInteger counts.firstFailureUv)]
    counts.toRangeCounts

end Analogue

/-! ### Handlers -/

/-- Whether a value is near a target. -/
def isNear (target tolerance value : ℤ) : Bool :=
  |value - target| ≤ tolerance

/-- Whether a value is between two bounds. -/
def isWithin (minimum maximum value : ℤ) : Bool :=
  minimum ≤ value ∧ value ≤ maximum

def evaluateNear (assertion : CompiledAssertion) (context : EvaluationContext) :
    Except HilRigError AssertionResult := do
  let targetUv ← integerArgument assertion "target_uv"
  let toleranceUv ← integerArgument assertion "tolerance_uv"
  let _ ← volts (some targetUv)
  let _ ← volts (some toleranceUv)
  Analogue.evaluatePoint (isNear targetUv toleranceUv) assertion context

def evaluateWithin (assertion : CompiledAssertion) (context : EvaluationContext) :
    Except HilRigError AssertionResult := do
  let minimumUv ← integerArgument assertion "minimum_uv"
  let maximumUv ← integerArgument assertion "maximum_uv"
  let _ ← volts (some minimumUv)
  let _ ← volts (some maximumUv)
  Analogue.evaluatePoint (isWithin minimumUv maximumUv) assertion context

def evaluateRemainWithin (assertion : CompiledAssertion) (context : EvaluationContext) :
    Except HilRigError AssertionResult := do
  let minimumUv ← integerArgument assertion "minimum_uv"
  let maximumUv ← integerArgument assertion "maximum_uv"
  let _ ← volts (some minimumUv)
  let _ ← volts (some maximumUv)
  Analogue.evaluateRange (isWithin minimumUv maximumUv) assertion context

def evaluateRemainAbove (assertion : CompiledAssertion) (context : EvaluationContext) :
    Except HilRigError AssertionResult := do
  let thresholdUv ← integerArgument assertion "threshold_uv"
  let _ ← volts (some thresholdUv)
  Analogue.evaluateRange (fun value ↦ thresholdUv < value) assertion context

def evaluateRemainBelow (assertion : CompiledAssertion) (context : EvaluationContext) :
    Except HilRigError AssertionResult := do
  let thresholdUv ← integerArgument assertion "threshold_uv"
  let _ ← volts (some thresholdUv)
  Analogue.evaluateRange (fun value ↦ value < thresholdUv) assertion context

end HilRig.Evaluation
