import HilRig.Compiler
import HilRig.Evaluation.Handlers

/-!
# The arguments of stored assertions

An assertion of a test is compiled, stored in the capture and read back (`stored`). The handler of
its class reads its arguments by name (`readArguments`), each of one kind (`ReadsAs`). It can read
all of them exactly when no integer of the assertion was passed as a member of an enumeration, which
is stored as a name (`readsArguments_iff`).
-/

set_option autoImplicit false
set_option relaxedAutoImplicit false

namespace HilRig.Evaluation

open HilRig.Models HilRig.Results HilRig.Foundations

/-- An assertion as the evaluator reads it from the capture. -/
abbrev stored (assertion : Assertion) : CompiledAssertion :=
  restored (compiledAssertion assertion)

/-- The level of a digital state. -/
def levelOf : DigitalState → Bool
  | .high => true
  | .low => false

/-- The double of a finite float. -/
def doubleOf (value : PyFloat) : ℚ :=
  value.toDouble?.getD 0

section Arguments

variable {assertion : Assertion}

/-- The fields that an assertion is compiled from, beside its identifier and its channel. -/
def assertionFields (expectation : Expectation) : List (String × FieldValue) :=
  tickFields expectation ++ expectationFields expectation

/-- The argument names of an assertion are distinct. -/
theorem nodup_argumentNames (expectation : Expectation) :
    ((scalars (assertionFields expectation)).map Prod.fst).Nodup := by
  cases expectation <;> simp [scalars, assertionFields, tickFields, isPoint, expectationFields]

/-- The arguments a stored assertion looks up are those of its fields. -/
theorem lookup_stored (name : String) :
    (stored assertion).arguments.lookup name =
      (scalars (assertionFields assertion.expectation)).lookup name :=
  (OrderedDict.lookup_perm (nodup_argumentNames assertion.expectation)
    (sortedByName_perm _).symm name).symm

/-- A field of an assertion is its argument. -/
theorem get_stored {name : String} {value : FieldValue}
    (hfield : (name, value) ∈ assertionFields assertion.expectation) :
    (stored assertion).arguments.get name = value.scalar := by
  have hmem : (name, value.scalar) ∈ scalars (assertionFields assertion.expectation) :=
    List.mem_map.2 ⟨_, hfield, rfl⟩
  have hlookup :=
    (OrderedDict.lookup_eq_some_iff (nodup_argumentNames assertion.expectation)).2 hmem
  rw [Fields.get, lookup_stored, hlookup, Option.getD_some]

/-- An integer is read exactly when it is no member of an enumeration. -/
theorem integerArgument_eq_ok {name : String} {value : Builtin ℤ} {integer : ℤ}
    (hfield : (name, FieldValue.int value) ∈ assertionFields assertion.expectation) :
    integerArgument (stored assertion) name = .ok integer ↔ value = .plain integer := by
  unfold integerArgument
  rw [get_stored hfield]
  cases value with
  | plain value => simp [FieldValue.scalar]
  | member name value => cases name <;> simp [FieldValue.scalar, memberName]

theorem naturalArgument_stored {name : String} {value : Builtin ℕ}
    (hfield : (name, FieldValue.natural value) ∈ assertionFields assertion.expectation)
    (hplain : value.isPlain = true) :
    integerArgument (stored assertion) name = .ok value.value := by
  rw [integerArgument_eq_ok hfield]
  exact (Builtin.isPlain_iff.1 ((Builtin.isPlain_map Nat.cast value).trans hplain)).trans
    (congrArg Builtin.plain (Builtin.value_map _ _))

theorem stateArgument_stored {name : String} {state : DigitalState}
    (hfield : (name, FieldValue.enum state.name) ∈ assertionFields assertion.expectation) :
    stateArgument (stored assertion) name = .ok (levelOf state) := by
  unfold stateArgument textArgument
  rw [get_stored hfield]
  cases state <;> rfl

/-- A finite field is its double. -/
theorem numberArgument_stored {name : String} {value : PyFloat}
    (hfield : (name, FieldValue.float value) ∈ assertionFields assertion.expectation)
    (hfinite : ∀ argument ∈ (compiledAssertion assertion).arguments, ∀ value,
      argument.2 = .float value → isPrintable argument.2 = true) :
    numberArgument (stored assertion) name = .ok (doubleOf value) := by
  have hfinite : isPrintable (.float value) = true :=
    hfinite (name, .float value) (List.mem_map.2 ⟨_, hfield, rfl⟩) value rfl
  unfold numberArgument
  rw [get_stored hfield]
  cases value with
  | finite value => rfl
  | infinite negative => cases hfinite
  | nan => cases hfinite

/-! ### Arguments that handlers read -/

/-- The kinds of arguments that handlers read. -/
inductive ArgumentKind
  | integer
  | number
  | state

/-- An argument is present with a kind. -/
def ReadsAs (assertion : CompiledAssertion) (name : String) : ArgumentKind → Prop
  | .integer => ∃ value, integerArgument assertion name = .ok value
  | .number => ∃ value, numberArgument assertion name = .ok value
  | .state => ∃ value, stateArgument assertion name = .ok value

/-- The arguments that the handler of each class of assertions reads, with their kinds. -/
def readArguments : Expectation → List (String × ArgumentKind)
  | .digitalPoint .. => [("tick", .integer), ("expected_state", .state)]
  | .digitalRemainHigh .. => [("from_tick", .integer), ("until_tick", .integer)]
  | .digitalRemainLow .. => [("from_tick", .integer), ("until_tick", .integer)]
  | .digitalTransition .. =>
    [("from_tick", .integer), ("until_tick", .integer), ("from_state", .state),
      ("to_state", .state)]
  | .pwmPeriodNear .. =>
    [("tick", .integer), ("period_ns", .integer), ("tolerance_ns", .integer)]
  | .pwmFrequencyNear .. =>
    [("tick", .integer), ("frequency_hz", .number), ("tolerance_hz", .number)]
  | .pwmDutyCycleNear .. =>
    [("tick", .integer), ("duty_cycle", .number), ("duty_cycle_tolerance", .number)]
  | .pwmWaveformNear .. =>
    [("tick", .integer), ("frequency_hz", .number), ("frequency_tolerance_hz", .number),
      ("duty_cycle", .number), ("duty_cycle_tolerance", .number)]
  | .pwmFrequencyRemainWithin .. =>
    [("from_tick", .integer), ("until_tick", .integer), ("minimum_hz", .number),
      ("maximum_hz", .number)]
  | .pwmDutyCycleRemainWithin .. =>
    [("from_tick", .integer), ("until_tick", .integer), ("minimum_duty_cycle", .number),
      ("maximum_duty_cycle", .number)]
  | .analogueNear .. => [("tick", .integer), ("target_uv", .integer), ("tolerance_uv", .integer)]
  | .analogueWithin .. => [("tick", .integer), ("minimum_uv", .integer), ("maximum_uv", .integer)]
  | .analogueRemainWithin .. =>
    [("from_tick", .integer), ("until_tick", .integer), ("minimum_uv", .integer),
      ("maximum_uv", .integer)]
  | .analogueRemainAbove .. =>
    [("from_tick", .integer), ("until_tick", .integer), ("threshold_uv", .integer)]
  | .analogueRemainBelow .. =>
    [("from_tick", .integer), ("until_tick", .integer), ("threshold_uv", .integer)]

/-- The kind of argument that a field is read as. -/
def FieldValue.kind : FieldValue → ArgumentKind
  | .int _ => .integer
  | .float _ => .number
  | _ => .state

/-- The arguments that handlers read are the fields of the assertion, each of its own kind. -/
theorem readArguments_eq (expectation : Expectation) : readArguments expectation =
    (assertionFields expectation).map fun field ↦ (field.1, FieldValue.kind field.2) := by
  cases expectation <;> rfl

/-- A field that is read as a state is the name of one. -/
theorem exists_state_of_kind (expectation : Expectation) :
    ∀ field ∈ assertionFields expectation, FieldValue.kind field.2 = .state →
      ∃ state : DigitalState, field.2 = .enum state.name := by
  cases expectation <;>
    simp [assertionFields, tickFields, isPoint, expectationFields, FieldValue.kind,
      FieldValue.natural]

/-- An assertion is plain when none of its integer fields is a member of an enumeration. -/
theorem isPlain_iff_fields {expectation : Expectation} : expectation.isPlain = true ↔
    ∀ name value, (name, FieldValue.int value) ∈ assertionFields expectation →
      value.isPlain = true := by
  cases expectation <;>
    simp [Expectation.isPlain, Expectation.bounds, assertionFields, tickFields, isPoint,
      expectationFields, FieldValue.natural, or_imp, forall_and, and_assoc]

/-- The handler of a stored assertion can read its arguments exactly when the assertion is plain. -/
theorem readsArguments_iff
    (hfinite : ∀ argument ∈ (compiledAssertion assertion).arguments, ∀ value,
      argument.2 = .float value → isPrintable argument.2 = true) :
    (∀ argument ∈ readArguments assertion.expectation,
        ReadsAs (stored assertion) argument.1 argument.2) ↔
      assertion.expectation.isPlain = true := by
  rw [isPlain_iff_fields, readArguments_eq, List.forall_mem_map]
  constructor
  · intro hreads name value hfield
    obtain ⟨integer, hinteger⟩ := hreads _ hfield
    rw [(integerArgument_eq_ok hfield).1 hinteger, Builtin.isPlain_plain]
  · rintro hplain ⟨name, value⟩ hfield
    cases value with
    | int value =>
      exact ⟨value.value, (integerArgument_eq_ok hfield).2
        (Builtin.isPlain_iff.1 (hplain name value hfield))⟩
    | float value => exact ⟨doubleOf value, numberArgument_stored hfield hfinite⟩
    | _ =>
      obtain ⟨state, hstate⟩ := exists_state_of_kind _ _ hfield rfl
      dsimp only at hstate
      rw [hstate] at hfield
      exact ⟨levelOf state, stateArgument_stored hfield⟩

/-! ### Ticks of stored assertions -/

/-- A plain assertion has plain ticks. -/
theorem isPlain_bounds {expectation : Expectation} (hplain : expectation.isPlain = true) :
    expectation.bounds.1.isPlain = true ∧ expectation.bounds.2.isPlain = true := by
  cases expectation <;>
    simp_all [Expectation.isPlain, Expectation.bounds]

/-- The ticks of a stored assertion. -/
theorem assertionTicks_stored (hplain : assertion.expectation.isPlain = true) :
    assertionTicks (stored assertion) =
      .ok (assertion.expectation.ticks.1, assertion.expectation.ticks.2) := by
  obtain ⟨hfirst, hlast⟩ := isPlain_bounds hplain
  have hpoint (h : isPoint assertion.expectation = true) :
      assertion.expectation.ticks.2 = assertion.expectation.ticks.1 := by
    cases hexpectation : assertion.expectation <;> rw [hexpectation] at h <;> first | rfl | cases h
  have hargument {name : String} {value : Builtin ℕ}
      (hfield : (name, FieldValue.natural value) ∈ tickFields assertion.expectation) :=
    @naturalArgument_stored assertion name value (List.mem_append_left _ hfield)
  unfold assertionTicks
  by_cases hkind : isPoint assertion.expectation = true
  · have hpresent : ((stored assertion).arguments.lookup "tick").isSome = true := by
      rw [lookup_stored, assertionFields, tickFields, if_pos hkind]
      rfl
    have htick := hargument (show ("tick", _) ∈ _ by
      rw [tickFields, if_pos hkind]; exact List.mem_singleton_self _) hfirst
    rw [if_pos hpresent, htick, hpoint hkind]
    rfl
  · have habsent : ((stored assertion).arguments.lookup "tick").isSome = false := by
      rw [lookup_stored]
      cases hexpectation : assertion.expectation <;> rw [hexpectation] at hkind <;>
        first | rfl | exact absurd rfl hkind
    rw [habsent, hargument (show ("from_tick", _) ∈ _ by
        rw [tickFields, if_neg hkind]; exact List.mem_cons_self) hfirst,
      hargument (show ("until_tick", _) ∈ _ by
        rw [tickFields, if_neg hkind]; exact List.mem_cons_of_mem _ List.mem_cons_self) hlast]
    rfl

/-- A stored assertion over a range names it. -/
theorem namesRange_stored (hrange : isPoint assertion.expectation = false)
    (hplain : assertion.expectation.isPlain = true)
    (hordered : assertion.expectation.ticks.1 ≤ assertion.expectation.ticks.2)
    (hfits : fitsInteger assertion.expectation.ticks.2 = true) :
    NamesRange (stored assertion) assertion.expectation.ticks.1 assertion.expectation.ticks.2 where
  first := naturalArgument_stored (List.mem_append_left _ (by
    rw [tickFields, hrange]; exact List.mem_cons_self)) (isPlain_bounds hplain).1
  last := naturalArgument_stored (List.mem_append_left _ (by
    rw [tickFields, hrange]; exact List.mem_cons_of_mem _ List.mem_cons_self))
    (isPlain_bounds hplain).2
  reported := ⟨_, assertionTicks_stored hplain⟩
  ordered := hordered
  fits := hfits

/-- A stored assertion at one tick names it. -/
theorem namesTick_stored (hpoint : isPoint assertion.expectation = true)
    (hplain : assertion.expectation.isPlain = true)
    (hordered : assertion.expectation.ticks.1 ≤ assertion.expectation.ticks.2)
    (hfits : fitsInteger assertion.expectation.ticks.2 = true) :
    NamesTick (stored assertion) assertion.expectation.ticks.1 where
  fits := fitsInteger_of_le hordered hfits
  tick := naturalArgument_stored (List.mem_append_left _ (by
    rw [tickFields, hpoint]; exact List.mem_singleton_self _)) (isPlain_bounds hplain).1
  reported := ⟨_, assertionTicks_stored hplain⟩

end Arguments

end HilRig.Evaluation
