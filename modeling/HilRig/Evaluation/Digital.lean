import HilRig.Evaluation.Common

/-!
# Evaluation handlers for digital-input assertions
-/

set_option autoImplicit false
set_option relaxedAutoImplicit false

namespace HilRig.Evaluation

open HilRig.Models HilRig.Results HilRig.Foundations

/-! ### Arguments -/

def stateArgument (assertion : CompiledAssertion) (name : String) : Except HilRigError Bool := do
  let state ← textArgument assertion name
  if state = "HIGH" then return true
  else if state = "LOW" then return false
  else .error (argumentError assertion name "HIGH or LOW")

def stateName (value : Bool) : String :=
  if value then "HIGH" else "LOW"

/-! ### One tick -/

def evaluateStateAtTick (assertion : CompiledAssertion) (context : EvaluationContext) :
    Except HilRigError AssertionResult := do
  let tick ← integerArgument assertion "tick"
  let expected ← stateArgument assertion "expected_state"
  let evidence ← context.digitalPoint assertion.channel tick
  match ← unavailablePointResult assertion evidence with
  | some unavailable => return unavailable
  | none =>
    let actual := evidence.value.getD false
    let verdict := if actual = expected then EvaluationVerdict.pass else .fail
    makeResult assertion verdict [("tick", .int tick), ("state", .str (stateName actual))]
      (pointCounts tick verdict)

/-! ### A state that remains -/

/-- What a range of digital evidence counts. -/
structure DigitalCounts extends RangeCounts where
  highCount : ℕ := 0
  lowCount : ℕ := 0

/-- The counts with one more item of evidence. -/
def DigitalCounts.observe (expected : Bool) (counts : DigitalCounts)
    (evidence : EvidenceSample Bool) : DigitalCounts :=
  if evidence.missing then { counts with missingCount := counts.missingCount + 1 }
  else
    match evidence.value with
    | none => { counts with invalidCount := counts.invalidCount + 1 }
    | some actual =>
      let counted := { counts with
        validCount := counts.validCount + 1
        highCount := counts.highCount + actual.toNat
        lowCount := counts.lowCount + (!actual).toNat }
      if actual = expected then counted
      else { counted with
        violationCount := counted.violationCount + 1
        firstFailureTick := counted.firstFailureTick.or (some evidence.tick) }

def evaluateRemainState (expected : Bool) (assertion : CompiledAssertion)
    (context : EvaluationContext) : Except HilRigError AssertionResult := do
  let fromTick ← integerArgument assertion "from_tick"
  let untilTick ← integerArgument assertion "until_tick"
  let evidence ← context.digitalRange assertion.channel fromTick untilTick
  let counts ← evidence.loop (fun counts item ↦ .ok (counts.observe expected item))
    ({} : DigitalCounts)
  makeResult assertion
    (rangeVerdict counts.violationCount counts.missingCount counts.invalidCount)
    [("high_sample_count", .int counts.highCount), ("low_sample_count", .int counts.lowCount)]
    counts.toRangeCounts

def evaluateRemainHigh : AssertionHandler :=
  evaluateRemainState true

def evaluateRemainLow : AssertionHandler :=
  evaluateRemainState false

/-! ### A transition -/

/-- What the search for a transition keeps: its counts, the valid sample right before, and the
transition that was found first. -/
structure TransitionSearch extends DigitalCounts where
  previous : Option (ℤ × Bool) := none
  transition : Option (ℤ × ℤ) := none

/-- Whether a valid sample and the one before it make the transition. -/
def isTransition (fromState toState : Bool) (previous : Option (ℤ × Bool)) (tick : ℤ)
    (actual : Bool) : Bool :=
  previous.any fun sample ↦ sample.1 + 1 = tick ∧ sample.2 = fromState ∧ actual = toState

/-- The search after one more item of evidence. -/
def TransitionSearch.observe (fromState toState : Bool) (search : TransitionSearch)
    (evidence : EvidenceSample Bool) : TransitionSearch :=
  if evidence.missing then
    { search with missingCount := search.missingCount + 1, previous := none }
  else
    match evidence.value with
    | none => { search with invalidCount := search.invalidCount + 1, previous := none }
    | some actual => { search with
        validCount := search.validCount + 1
        highCount := search.highCount + actual.toNat
        lowCount := search.lowCount + (!actual).toNat
        transition :=
          if search.transition.isNone ∧
              isTransition fromState toState search.previous evidence.tick actual then
            search.previous.map fun sample ↦ (sample.1, evidence.tick)
          else search.transition
        previous := some (evidence.tick, actual) }

/-- The verdict of a search. -/
def transitionVerdict (search : TransitionSearch) : EvaluationVerdict :=
  if search.transition.isSome then .pass
  else if search.missingCount ≠ 0 ∨ search.invalidCount ≠ 0 then .inconclusive
  else .fail

def evaluateTransition (assertion : CompiledAssertion) (context : EvaluationContext) :
    Except HilRigError AssertionResult := do
  let fromTick ← integerArgument assertion "from_tick"
  let untilTick ← integerArgument assertion "until_tick"
  let fromState ← stateArgument assertion "from_state"
  let toState ← stateArgument assertion "to_state"
  let evidence ← context.digitalRange assertion.channel fromTick untilTick
  let search ← evidence.loop (fun search item ↦ .ok (search.observe fromState toState item))
    ({} : TransitionSearch)
  let verdict := transitionVerdict search
  makeResult assertion verdict
    [("high_sample_count", .int search.highCount), ("low_sample_count", .int search.lowCount),
      ("transition_from_tick", optionalInteger (search.transition.map Prod.fst)),
      ("transition_to_tick", optionalInteger (search.transition.map Prod.snd))]
    { search.toRangeCounts with violationCount := if verdict = .fail then 1 else 0 }

end HilRig.Evaluation
