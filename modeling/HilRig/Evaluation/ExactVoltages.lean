import HilRig.Api.Freezing
import HilRig.Evaluation.Demands
import HilRig.Foundations.DecimalRounding

/-!
# Voltages of analogue assertions

A voltage is stored as a whole number of microvolts. The conversion rounds the exact product to
twenty-eight digits before it tests that the product is whole, so it is exact for a
`ConvertibleVolts` only (`exactVolts_iff`). A call with such voltages stores them exactly or raises,
and the handler of what it stored compares each sample as the rational numbers do, unless it cannot
show the voltage in its messages (`ComparableVolts`); no other voltage is handled so by every call
(`exactVoltage_iff`).
-/

set_option autoImplicit false
set_option relaxedAutoImplicit false

namespace HilRig.Evaluation

open HilRig.Models HilRig.Results HilRig.Foundations HilRig.Api

/-! ### One voltage -/

/-- A number of microvolts that a voltage is exactly. -/
def IsMicrovolts (quantity : Quantity) (microvolts : ℤ) : Prop :=
  ∃ volts, quantity.exactValue = some volts ∧ (microvolts : ℚ) = 10 ^ 6 * volts

/-- A product that is a whole number a decimal holds, or that is not whole and further from every
whole number than half a unit of its last digit, or so large that it overflows. -/
def ResolvableMicrovolts (product : ℚ) : Prop :=
  (∃ whole : ℤ, product = whole) ∧ defaultDecimalContext.Representable product ∨
    (∀ whole : ℤ, product ≠ whole) ∧
      ((∀ whole : ℤ, defaultDecimalContext.halfUnit product < |product - whole|) ∨
        defaultDecimalContext.Overflows product)

/-- A voltage that is converted as it should be. -/
structure ConvertibleVolts (quantity : Quantity) : Prop where
  printable : quantity.Printable
  resolvable : ∀ volts, quantity.exactValue = some volts → ResolvableMicrovolts (10 ^ 6 * volts)

/-- A voltage that is converted as it should be, and that messages can show if it is stored. -/
structure ComparableVolts (quantity : Quantity) : Prop extends ConvertibleVolts quantity where
  shown : ∀ microvolts, IsMicrovolts quantity microvolts → ShownVolts microvolts

section Conversion

variable {quantity : Quantity} {volts : ℚ}

/-- A voltage is converted into what rounding leaves of the exact product, if that is whole. -/
theorem voltsToMicrovolts_eq_ok (hprintable : quantity.Printable)
    (hexact : quantity.exactValue = some volts) (name : String) (microvolts : ℤ) :
    voltsToMicrovolts (.value quantity) name = .ok microvolts ↔
      defaultDecimalContext.fix (10 ^ 6 * volts) = some (microvolts : ℚ) := by
  have hproduct : volts * 1000000 = 10 ^ 6 * volts := by ring
  simp only [voltsToMicrovolts, toDecimal_of_printable hprintable, hexact, bind, Except.bind,
    DecimalContext.multiply, hproduct]
  cases hfix : defaultDecimalContext.fix (10 ^ 6 * volts) with
  | none => simp [trapped]
  | some product =>
    simp only [trapped, Option.some.injEq, ite_error_eq_ok, pure_eq_ok, not_not]
    constructor
    · rintro ⟨hwhole, rfl⟩
      exact hwhole
    · rintro rfl
      rw [roundHalfEven_intCast]
      exact ⟨rfl, rfl⟩

/-- What rounding leaves of a product is its whole number, and none if it is not whole, exactly for
the resolvable ones. -/
theorem fix_whole_iff (product : ℚ) :
    (∀ whole : ℤ, defaultDecimalContext.fix product = some (whole : ℚ) ↔ product = whole) ↔
      ResolvableMicrovolts product := by
  by_cases hwhole : ∃ whole : ℤ, product = whole
  · obtain ⟨whole, rfl⟩ := hwhole
    constructor
    · intro hexact
      exact .inl ⟨⟨whole, rfl⟩,
        (defaultDecimalContext.fix_eq_some_self_iff _).1 ((hexact whole).2 rfl)⟩
    · rintro (⟨-, hrepresentable⟩ | ⟨hnone, -⟩)
      · intro other
        rw [(defaultDecimalContext.fix_eq_some_self_iff _).2 hrepresentable, Option.some.injEq]
      · exact absurd rfl (hnone whole)
  · have hnone := not_exists.1 hwhole
    have hzero : product ≠ 0 := by simpa using hnone 0
    have hoverflow := @DecimalContext.fix_eq_none_iff defaultDecimalContext (by decide) (by decide)
      product hzero
    have hfar := defaultDecimalContext.forall_halfUnit_lt_iff product 0
    simp only [zpow_zero, mul_one] at hfar
    constructor
    · intro hexact
      refine .inr ⟨hnone, ?_⟩
      rw [hfar, ← hoverflow]
      by_cases hfix : defaultDecimalContext.fix product = none
      · exact .inr hfix
      · obtain ⟨rounded, hrounded⟩ := Option.ne_none_iff_exists'.1 hfix
        refine .inl fun whole heq ↦ hnone whole ((hexact whole).1 ?_)
        rw [hrounded, ← ((defaultDecimalContext.fix_eq_some_iff hzero).1 hrounded).1, heq]
    · rintro (⟨hsome, -⟩ | ⟨-, hresolved⟩) whole
      · exact absurd hsome hwhole
      · refine iff_of_false (fun hfix ↦ ?_) (hnone whole)
        rw [hfar, ← hoverflow] at hresolved
        rcases hresolved with hrounded | hoverflows
        · exact hrounded whole ((defaultDecimalContext.fix_eq_some_iff hzero).1 hfix).1
        · rw [hoverflows] at hfix
          cases hfix

/-- A voltage is converted exactly or rejected if and only if it is convertible. -/
theorem exactVolts_iff (name : String) :
    (∀ microvolts, voltsToMicrovolts (.value quantity) name = .ok microvolts ↔
      IsMicrovolts quantity microvolts) ↔ ConvertibleVolts quantity := by
  by_cases hprintable : quantity.Printable
  · cases hexact : quantity.exactValue with
    | none =>
      refine iff_of_true (fun microvolts ↦ iff_of_false ?_ ?_) ⟨hprintable, fun volts hvolts ↦ ?_⟩
      · simp [voltsToMicrovolts, toDecimal_of_printable hprintable, hexact, bind, Except.bind]
      · rintro ⟨volts, hvolts, -⟩
        rw [hexact] at hvolts
        cases hvolts
      · rw [hexact] at hvolts
        cases hvolts
    | some volts =>
      have hmicrovolts (microvolts : ℤ) : IsMicrovolts quantity microvolts ↔
          10 ^ 6 * volts = microvolts := by
        constructor
        · rintro ⟨other, hother, heq⟩
          obtain rfl := Option.some.inj (hexact.symm.trans hother)
          exact heq.symm
        · intro heq
          exact ⟨volts, hexact, heq.symm⟩
      simp only [voltsToMicrovolts_eq_ok hprintable hexact, hmicrovolts, fix_whole_iff]
      constructor
      · intro hresolvable
        refine ⟨hprintable, fun other hother ↦ ?_⟩
        obtain rfl := Option.some.inj (hexact.symm.trans hother)
        exact hresolvable
      · rintro ⟨-, hresolvable⟩
        exact hresolvable volts hexact
  · refine iff_of_false (fun hexact ↦ ?_) fun hconvertible ↦ hprintable hconvertible.printable
    obtain ⟨message, hmessage⟩ := toDecimal_of_not_printable hprintable
    obtain ⟨value, rfl⟩ : ∃ value : ℤ, quantity = .number (.int value) := by
      cases quantity with
      | number number =>
        cases number with
        | int value => exact ⟨value, rfl⟩
        | float value printed => exact absurd trivial hprintable
      | decimal coefficient exponent => exact absurd trivial hprintable
      | special => exact absurd trivial hprintable
    have hok := (hexact (10 ^ 6 * value)).2 ⟨value, rfl, by push_cast; rfl⟩
    simp only [voltsToMicrovolts, hmessage, bind, Except.bind] at hok
    cases hok

end Conversion

/-! ### Calls -/

/-- The expectations about an analogue input, with their voltages and their time. -/
inductive VoltageCheck
  | near (target tolerance : Quantity) (time : TimeOptions)
  | within (minimum maximum : Quantity) (time : TimeOptions)
  | remainWithin (minimum maximum : Quantity) (bounds : BoundOptions)
  | remainAbove (threshold : Quantity) (bounds : BoundOptions)
  | remainBelow (threshold : Quantity) (bounds : BoundOptions)

/-- The decimal of a finite voltage. -/
def voltsOf (quantity : Quantity) : ℚ :=
  quantity.exactValue.getD 0

namespace VoltageCheck

/-- The public call of a check. -/
def call (self : Handle .analogueInput) : VoltageCheck → Api.Call
  | near target tolerance time => .expectNear self (.value target) (.value tolerance) time
  | within minimum maximum time => .expectWithin self (.value minimum) (.value maximum) time
  | remainWithin minimum maximum bounds =>
    .expectRemainWithin self (.value minimum) (.value maximum) bounds
  | remainAbove threshold bounds => .expectRemainAbove self (.value threshold) bounds
  | remainBelow threshold bounds => .expectRemainBelow self (.value threshold) bounds

/-- The voltages of a check. -/
def volts : VoltageCheck → List Quantity
  | near target tolerance _ => [target, tolerance]
  | within minimum maximum _ => [minimum, maximum]
  | remainWithin minimum maximum _ => [minimum, maximum]
  | remainAbove threshold _ => [threshold]
  | remainBelow threshold _ => [threshold]

/-- The order that the voltages of a check have to have. -/
def Ordered : VoltageCheck → Prop
  | near _ tolerance _ => 0 ≤ voltsOf tolerance
  | within minimum maximum _ => voltsOf minimum ≤ voltsOf maximum
  | remainWithin minimum maximum _ => voltsOf minimum ≤ voltsOf maximum
  | _ => True

/-- The ticks of a check under a frequency mode. -/
def ticks (frequencyMode : FrequencyMode) :
    VoltageCheck → Except HilRigError (Builtin ℕ × Builtin ℕ)
  | near _ _ time => (fun tick ↦ (tick, tick)) <$> resolveTimestamp frequencyMode time
  | within _ _ time => (fun tick ↦ (tick, tick)) <$> resolveTimestamp frequencyMode time
  | remainWithin _ _ bounds =>
    Subtype.val <$> (bounds.range >>= resolveTimeRange frequencyMode)
  | remainAbove _ bounds => Subtype.val <$> (bounds.range >>= resolveTimeRange frequencyMode)
  | remainBelow _ bounds => Subtype.val <$> (bounds.range >>= resolveTimeRange frequencyMode)

/-- Whether a voltage is accepted, compared exactly. -/
def accepts (voltage : ℚ) : VoltageCheck → Bool
  | near target tolerance _ => |voltage - voltsOf target| ≤ voltsOf tolerance
  | within minimum maximum _ => voltsOf minimum ≤ voltage ∧ voltage ≤ voltsOf maximum
  | remainWithin minimum maximum _ => voltsOf minimum ≤ voltage ∧ voltage ≤ voltsOf maximum
  | remainAbove threshold _ => voltsOf threshold < voltage
  | remainBelow threshold _ => voltage < voltsOf threshold

/-- An expectation stores the voltages of a check exactly, at some ticks. -/
def StoredAs (first last : Builtin ℕ) : VoltageCheck → Expectation → Prop
  | near target tolerance _, .analogueNear tick targetUv toleranceUv =>
    tick = first ∧ tick = last ∧ IsMicrovolts target targetUv ∧ IsMicrovolts tolerance toleranceUv
  | within minimum maximum _, .analogueWithin tick minimumUv maximumUv =>
    tick = first ∧ tick = last ∧ IsMicrovolts minimum minimumUv ∧ IsMicrovolts maximum maximumUv
  | remainWithin minimum maximum _, .analogueRemainWithin fromTick untilTick minimumUv maximumUv =>
    fromTick = first ∧ untilTick = last ∧ IsMicrovolts minimum minimumUv ∧
      IsMicrovolts maximum maximumUv
  | remainAbove threshold _, .analogueRemainAbove fromTick untilTick thresholdUv =>
    fromTick = first ∧ untilTick = last ∧ IsMicrovolts threshold thresholdUv
  | remainBelow threshold _, .analogueRemainBelow fromTick untilTick thresholdUv =>
    fromTick = first ∧ untilTick = last ∧ IsMicrovolts threshold thresholdUv
  | _, _ => False

end VoltageCheck

/-! ### What a call stores -/

section Stored

variable {quantity other : Quantity} {microvolts otherUv : ℤ} {name : String}

/-- The voltage of a number of microvolts. -/
theorem IsMicrovolts.voltsOf_eq (hmicrovolts : IsMicrovolts quantity microvolts) :
    voltsOf quantity = microvolts / 10 ^ 6 := by
  obtain ⟨volts, hvolts, heq⟩ := hmicrovolts
  rw [voltsOf, hvolts, Option.getD_some, heq]
  ring

/-- A voltage is one number of microvolts at most. -/
theorem IsMicrovolts.unique (hmicrovolts : IsMicrovolts quantity microvolts)
    (hother : IsMicrovolts quantity otherUv) : microvolts = otherUv := by
  have heq := hmicrovolts.voltsOf_eq.symm.trans hother.voltsOf_eq
  have hcast : (microvolts : ℚ) = otherUv := by linarith
  exact_mod_cast hcast

/-- Voltages are ordered as their numbers of microvolts. -/
theorem IsMicrovolts.le_iff (hmicrovolts : IsMicrovolts quantity microvolts)
    (hother : IsMicrovolts other otherUv) :
    voltsOf quantity ≤ voltsOf other ↔ microvolts ≤ otherUv := by
  rw [hmicrovolts.voltsOf_eq, hother.voltsOf_eq, div_le_div_iff_of_pos_right (by positivity)]
  exact Int.cast_le

theorem nonNegativeMicrovolts_eq_ok (hconvertible : ConvertibleVolts quantity) :
    nonNegativeMicrovolts (.value quantity) name = .ok microvolts ↔
      IsMicrovolts quantity microvolts ∧ 0 ≤ microvolts := by
  rw [nonNegativeMicrovolts, bind_eq_ok]
  simp only [ite_error_eq_ok, pure_eq_ok, not_lt, (exactVolts_iff name).2 hconvertible]
  constructor
  · rintro ⟨_, hmicrovolts, hsign, rfl⟩
    exact ⟨hmicrovolts, hsign⟩
  · rintro ⟨hmicrovolts, hsign⟩
    exact ⟨microvolts, hmicrovolts, hsign, rfl⟩

theorem voltageBounds_eq_ok (hconvertible : ConvertibleVolts quantity)
    (hother : ConvertibleVolts other) :
    voltageBounds (.value quantity) (.value other) = .ok (microvolts, otherUv) ↔
      IsMicrovolts quantity microvolts ∧ IsMicrovolts other otherUv ∧ microvolts ≤ otherUv := by
  simp only [voltageBounds, orderedBounds, bind_eq_ok, ite_error_eq_ok, pure_eq_ok, not_lt,
    (exactVolts_iff _).2 hconvertible, (exactVolts_iff _).2 hother, Prod.mk.injEq]
  constructor
  · rintro ⟨_, hmicrovolts, _, hotherUv, _, ⟨hordered, -⟩, rfl, rfl⟩
    exact ⟨hmicrovolts, hotherUv, hordered⟩
  · rintro ⟨hmicrovolts, hotherUv, hordered⟩
    exact ⟨microvolts, hmicrovolts, otherUv, hotherUv, (), ⟨hordered, trivial⟩, rfl, rfl⟩

end Stored

section Calls

variable {check : VoltageCheck} {self : Handle .analogueInput} {test after : Test}
  {frequencyMode : FrequencyMode} {first last : Builtin ℕ}

theorem pointTicks_eq_ok {time : TimeOptions} :
    (fun tick ↦ (tick, tick)) <$> resolveTimestamp frequencyMode time = .ok (first, last) ↔
      resolveTimestamp frequencyMode time = .ok first ∧ first = last := by
  cases resolveTimestamp frequencyMode time with
  | error error => simp [Functor.map, Except.map]
  | ok tick =>
    simp only [Functor.map, Except.map, Except.ok.injEq, Prod.mk.injEq]
    constructor
    · rintro ⟨rfl, rfl⟩
      exact ⟨rfl, rfl⟩
    · rintro ⟨rfl, rfl⟩
      exact ⟨rfl, rfl⟩

theorem ticks_ordered (hticks : check.ticks frequencyMode = .ok (first, last)) :
    first.value ≤ last.value := by
  have hpoint {time : TimeOptions} (hresolved : (fun tick ↦ (tick, tick)) <$>
      resolveTimestamp frequencyMode time = .ok (first, last)) : first.value ≤ last.value := by
    rw [(pointTicks_eq_ok.1 hresolved).2]
  have hrange {bounds : BoundOptions} (hresolved : Subtype.val <$>
      (bounds.range >>= resolveTimeRange frequencyMode) = .ok (first, last)) :
      first.value ≤ last.value := by
    obtain ⟨resolved, -, hvalue⟩ := map_eq_ok.1 hresolved
    have hordered := resolved.property
    rwa [hvalue] at hordered
  cases check with
  | near target tolerance time => exact hpoint hticks
  | within minimum maximum time => exact hpoint hticks
  | remainWithin minimum maximum bounds => exact hrange hticks
  | remainAbove threshold bounds => exact hrange hticks
  | remainBelow threshold bounds => exact hrange hticks

/-- What a check stores, as a function of its ticks. -/
def VoltageCheck.expectation :
    VoltageCheck → Except HilRigError (Builtin ℕ → Builtin ℕ → Expectation)
  | near target tolerance _ => do
    let targetUv ← voltsToMicrovolts (.value target) "target_v"
    let toleranceUv ← nonNegativeMicrovolts (.value tolerance) "tolerance_v"
    return fun tick _ ↦ .analogueNear tick targetUv toleranceUv
  | within minimum maximum _ => do
    let (minimumUv, maximumUv) ← voltageBounds (.value minimum) (.value maximum)
    return fun tick _ ↦ .analogueWithin tick minimumUv maximumUv
  | remainWithin minimum maximum _ => do
    let (minimumUv, maximumUv) ← voltageBounds (.value minimum) (.value maximum)
    return fun fromTick untilTick ↦ .analogueRemainWithin fromTick untilTick minimumUv maximumUv
  | remainAbove threshold _ => do
    let thresholdUv ← voltsToMicrovolts (.value threshold) "threshold_v"
    return fun fromTick untilTick ↦ .analogueRemainAbove fromTick untilTick thresholdUv
  | remainBelow threshold _ => do
    let thresholdUv ← voltsToMicrovolts (.value threshold) "threshold_v"
    return fun fromTick untilTick ↦ .analogueRemainBelow fromTick untilTick thresholdUv

/-- The call of a check has passed all of its tests and added its assertion. -/
def VoltageCheck.Adds (check : VoltageCheck) (self : Handle .analogueInput) (test after : Test) :
    Prop :=
  ∃ first last expectation, check.expectation = .ok expectation ∧
    check.ticks test.configuration.frequencyMode = .ok (first, last) ∧
    test.compiledPlan = none ∧ isConfigured test.configuration self.identity = true ∧
      after = (Effect.asserted self.identity (expectation first last)).apply test

theorem adds_point_iff {validated : Except HilRigError (Builtin ℕ → Expectation)}
    {time : TimeOptions}
    (hcall : (check.call self).request = .assertAt self.identity validated time)
    (hticks : check.ticks test.configuration.frequencyMode =
      (fun tick ↦ (tick, tick)) <$> resolveTimestamp test.configuration.frequencyMode time)
    (hexpectation : check.expectation = (fun expectation tick _ ↦ expectation tick) <$> validated) :
    execute (check.call self) test = .ok () after ↔ check.Adds self test after := by
  rw [execute, hcall, perform_assertAt_eq_ok, VoltageCheck.Adds, hticks, hexpectation]
  simp only [pointTicks_eq_ok]
  constructor
  · rintro ⟨expectation, tick, rfl, htick, hmutable, hconfigured, rfl⟩
    exact ⟨tick, tick, _, rfl, ⟨htick, rfl⟩, hmutable, hconfigured, rfl⟩
  · rintro ⟨tick, _, expectation, hvalidated, ⟨htick, rfl⟩, hmutable, hconfigured, rfl⟩
    cases validated with
    | error error => cases hvalidated
    | ok build =>
      cases hvalidated
      exact ⟨build, tick, rfl, htick, hmutable, hconfigured, rfl⟩

theorem adds_range_iff {bounds : BoundOptions} (hcall : (check.call self).request =
      .assertOver self.identity check.expectation bounds.range)
    (hticks : check.ticks test.configuration.frequencyMode =
      Subtype.val <$> (bounds.range >>= resolveTimeRange test.configuration.frequencyMode)) :
    execute (check.call self) test = .ok () after ↔ check.Adds self test after := by
  rw [execute, hcall, perform_assertOver_eq_ok, VoltageCheck.Adds, hticks]
  simp only [map_eq_ok]
  constructor
  · rintro ⟨expectation, resolved, hvalidated, hresolved, hmutable, hconfigured, rfl⟩
    exact ⟨_, _, expectation, hvalidated, ⟨resolved, hresolved, rfl⟩, hmutable, hconfigured, rfl⟩
  · rintro ⟨first, last, expectation, hvalidated, ⟨resolved, hresolved, hvalue⟩, hmutable,
      hconfigured, rfl⟩
    refine ⟨expectation, resolved, hvalidated, hresolved, hmutable, hconfigured, ?_⟩
    rw [hvalue]

/-- When the call of a check adds its assertion. -/
theorem execute_voltageCheck_eq_ok :
    execute (check.call self) test = .ok () after ↔ check.Adds self test after := by
  cases check with
  | near target tolerance time =>
    refine adds_point_iff rfl rfl ?_
    simp only [VoltageCheck.expectation, map_bind, map_pure]
  | within minimum maximum time =>
    refine adds_point_iff rfl rfl ?_
    simp only [VoltageCheck.expectation, map_bind, map_pure]
  | remainWithin minimum maximum bounds => exact adds_range_iff rfl rfl
  | remainAbove threshold bounds => exact adds_range_iff rfl rfl
  | remainBelow threshold bounds => exact adds_range_iff rfl rfl

/-- Convertible voltages are stored exactly and in order, and voltages that are not numbers of
microvolts are refused. -/
theorem expectation_eq_ok (hconvertible : ∀ volts ∈ check.volts, ConvertibleVolts volts)
    (hticks : check.ticks frequencyMode = .ok (first, last)) (expected : Expectation) :
    (∃ expectation, check.expectation = .ok expectation ∧ expectation first last = expected) ↔
      check.StoredAs first last expected ∧ check.Ordered := by
  cases check with
  | near target tolerance time =>
    obtain rfl := (pointTicks_eq_ok.1 hticks).2
    simp only [VoltageCheck.expectation, bind_eq_ok, pure_eq_ok,
      (exactVolts_iff _).2 (hconvertible target (by simp [VoltageCheck.volts])),
      nonNegativeMicrovolts_eq_ok (hconvertible tolerance (by simp [VoltageCheck.volts]))]
    constructor
    · rintro ⟨_, ⟨targetUv, htarget, toleranceUv, ⟨htolerance, hsign⟩, rfl⟩, rfl⟩
      refine ⟨⟨rfl, rfl, htarget, htolerance⟩, ?_⟩
      show 0 ≤ voltsOf tolerance
      rw [htolerance.voltsOf_eq]
      positivity
    · rintro ⟨hstored, hordered⟩
      cases expected with
      | analogueNear tick targetUv toleranceUv =>
        obtain ⟨rfl, -, htarget, htolerance⟩ := hstored
        have hsign : 0 ≤ toleranceUv := by
          have hvolts : 0 ≤ voltsOf tolerance := hordered
          rw [htolerance.voltsOf_eq, le_div_iff₀ (by positivity), zero_mul] at hvolts
          exact_mod_cast hvolts
        exact ⟨_, ⟨targetUv, htarget, toleranceUv, ⟨htolerance, hsign⟩, rfl⟩, rfl⟩
      | _ => exact hstored.elim
  | within minimum maximum time =>
    obtain rfl := (pointTicks_eq_ok.1 hticks).2
    simp only [VoltageCheck.expectation, bind_eq_ok, pure_eq_ok, Prod.exists,
      voltageBounds_eq_ok (hconvertible minimum (by simp [VoltageCheck.volts]))
        (hconvertible maximum (by simp [VoltageCheck.volts]))]
    constructor
    · rintro ⟨_, ⟨minimumUv, maximumUv, ⟨hminimum, hmaximum, hle⟩, rfl⟩, rfl⟩
      exact ⟨⟨rfl, rfl, hminimum, hmaximum⟩, (hminimum.le_iff hmaximum).2 hle⟩
    · rintro ⟨hstored, hordered⟩
      cases expected with
      | analogueWithin tick minimumUv maximumUv =>
        obtain ⟨rfl, -, hminimum, hmaximum⟩ := hstored
        have hle := (hminimum.le_iff hmaximum).1 hordered
        exact ⟨_, ⟨minimumUv, maximumUv, ⟨hminimum, hmaximum, hle⟩, rfl⟩, rfl⟩
      | _ => exact hstored.elim
  | remainWithin minimum maximum bounds =>
    simp only [VoltageCheck.expectation, bind_eq_ok, pure_eq_ok, Prod.exists,
      voltageBounds_eq_ok (hconvertible minimum (by simp [VoltageCheck.volts]))
        (hconvertible maximum (by simp [VoltageCheck.volts]))]
    constructor
    · rintro ⟨_, ⟨minimumUv, maximumUv, ⟨hminimum, hmaximum, hle⟩, rfl⟩, rfl⟩
      exact ⟨⟨rfl, rfl, hminimum, hmaximum⟩, (hminimum.le_iff hmaximum).2 hle⟩
    · rintro ⟨hstored, hordered⟩
      cases expected with
      | analogueRemainWithin fromTick untilTick minimumUv maximumUv =>
        obtain ⟨rfl, rfl, hminimum, hmaximum⟩ := hstored
        have hle := (hminimum.le_iff hmaximum).1 hordered
        exact ⟨_, ⟨minimumUv, maximumUv, ⟨hminimum, hmaximum, hle⟩, rfl⟩, rfl⟩
      | _ => exact hstored.elim
  | remainAbove threshold bounds =>
    simp only [VoltageCheck.expectation, bind_eq_ok, pure_eq_ok,
      (exactVolts_iff _).2 (hconvertible threshold (by simp [VoltageCheck.volts]))]
    constructor
    · rintro ⟨_, ⟨thresholdUv, hthreshold, rfl⟩, rfl⟩
      exact ⟨⟨rfl, rfl, hthreshold⟩, trivial⟩
    · rintro ⟨hstored, -⟩
      cases expected with
      | analogueRemainAbove fromTick untilTick thresholdUv =>
        obtain ⟨rfl, rfl, hthreshold⟩ := hstored
        exact ⟨_, ⟨thresholdUv, hthreshold, rfl⟩, rfl⟩
      | _ => exact hstored.elim
  | remainBelow threshold bounds =>
    simp only [VoltageCheck.expectation, bind_eq_ok, pure_eq_ok,
      (exactVolts_iff _).2 (hconvertible threshold (by simp [VoltageCheck.volts]))]
    constructor
    · rintro ⟨_, ⟨thresholdUv, hthreshold, rfl⟩, rfl⟩
      exact ⟨⟨rfl, rfl, hthreshold⟩, trivial⟩
    · rintro ⟨hstored, -⟩
      cases expected with
      | analogueRemainBelow fromTick untilTick thresholdUv =>
        obtain ⟨rfl, rfl, hthreshold⟩ := hstored
        exact ⟨_, ⟨thresholdUv, hthreshold, rfl⟩, rfl⟩
      | _ => exact hstored.elim

/-- A check stores an expectation exactly when its voltages are numbers of microvolts. -/
theorem exists_storedAs_iff (hticks : check.ticks frequencyMode = .ok (first, last)) :
    (∃ expected, check.StoredAs first last expected) ↔
      ∀ volts ∈ check.volts, ∃ microvolts, IsMicrovolts volts microvolts := by
  cases check with
  | near target tolerance time =>
    obtain rfl := (pointTicks_eq_ok.1 hticks).2
    simp only [VoltageCheck.volts, List.mem_cons, List.not_mem_nil, or_false, forall_eq_or_imp,
      forall_eq]
    constructor
    · rintro ⟨expected, hstored⟩
      cases expected with
      | analogueNear tick targetUv toleranceUv =>
        obtain ⟨-, -, htarget, htolerance⟩ := hstored
        exact ⟨⟨_, htarget⟩, _, htolerance⟩
      | _ => exact hstored.elim
    · rintro ⟨⟨targetUv, htarget⟩, toleranceUv, htolerance⟩
      exact ⟨.analogueNear first targetUv toleranceUv, rfl, rfl, htarget, htolerance⟩
  | within minimum maximum time =>
    obtain rfl := (pointTicks_eq_ok.1 hticks).2
    simp only [VoltageCheck.volts, List.mem_cons, List.not_mem_nil, or_false, forall_eq_or_imp,
      forall_eq]
    constructor
    · rintro ⟨expected, hstored⟩
      cases expected with
      | analogueWithin tick minimumUv maximumUv =>
        obtain ⟨-, -, hminimum, hmaximum⟩ := hstored
        exact ⟨⟨_, hminimum⟩, _, hmaximum⟩
      | _ => exact hstored.elim
    · rintro ⟨⟨minimumUv, hminimum⟩, maximumUv, hmaximum⟩
      exact ⟨.analogueWithin first minimumUv maximumUv, rfl, rfl, hminimum, hmaximum⟩
  | remainWithin minimum maximum bounds =>
    simp only [VoltageCheck.volts, List.mem_cons, List.not_mem_nil, or_false, forall_eq_or_imp,
      forall_eq]
    constructor
    · rintro ⟨expected, hstored⟩
      cases expected with
      | analogueRemainWithin fromTick untilTick minimumUv maximumUv =>
        obtain ⟨-, -, hminimum, hmaximum⟩ := hstored
        exact ⟨⟨_, hminimum⟩, _, hmaximum⟩
      | _ => exact hstored.elim
    · rintro ⟨⟨minimumUv, hminimum⟩, maximumUv, hmaximum⟩
      exact ⟨.analogueRemainWithin first last minimumUv maximumUv, rfl, rfl, hminimum, hmaximum⟩
  | remainAbove threshold bounds =>
    simp only [VoltageCheck.volts, List.mem_singleton, forall_eq]
    constructor
    · rintro ⟨expected, hstored⟩
      cases expected with
      | analogueRemainAbove fromTick untilTick thresholdUv => exact ⟨_, hstored.2.2⟩
      | _ => exact hstored.elim
    · rintro ⟨thresholdUv, hthreshold⟩
      exact ⟨.analogueRemainAbove first last thresholdUv, rfl, rfl, hthreshold⟩
  | remainBelow threshold bounds =>
    simp only [VoltageCheck.volts, List.mem_singleton, forall_eq]
    constructor
    · rintro ⟨expected, hstored⟩
      cases expected with
      | analogueRemainBelow fromTick untilTick thresholdUv => exact ⟨_, hstored.2.2⟩
      | _ => exact hstored.elim
    · rintro ⟨thresholdUv, hthreshold⟩
      exact ⟨.analogueRemainBelow first last thresholdUv, rfl, rfl, hthreshold⟩

/-! ### What the handler decides -/

/-- Comparing a sample with a stored number of microvolts is comparing its voltage. -/
theorem IsMicrovolts.le_sample_iff {quantity : Quantity} {microvolts : ℤ}
    (hmicrovolts : IsMicrovolts quantity microvolts) (sample : ℤ) :
    voltsOf quantity ≤ sample / 10 ^ 6 ↔ microvolts ≤ sample := by
  rw [hmicrovolts.voltsOf_eq, div_le_div_iff_of_pos_right (by positivity)]
  exact Int.cast_le

theorem IsMicrovolts.sample_le_iff {quantity : Quantity} {microvolts : ℤ}
    (hmicrovolts : IsMicrovolts quantity microvolts) (sample : ℤ) :
    sample / 10 ^ 6 ≤ voltsOf quantity ↔ sample ≤ microvolts := by
  rw [hmicrovolts.voltsOf_eq, div_le_div_iff_of_pos_right (by positivity)]
  exact Int.cast_le

/-- A sample of microvolts is accepted by what a check has stored exactly as its voltage is accepted
by the check. -/
theorem demandOf_storedAs {expected : Expectation} (hstored : check.StoredAs first last expected)
    (results : List TickResult) (channel : ℕ) :
    demandOf results channel expected = .throughout (acceptedAt (analogueOf channel) results
      fun microvolts ↦ check.accepts (microvolts / 10 ^ 6)) first.value last.value := by
  have hwithin {minimum maximum : Quantity} {minimumUv maximumUv : ℤ}
      (hminimum : IsMicrovolts minimum minimumUv) (hmaximum : IsMicrovolts maximum maximumUv)
      (sample : ℤ) : isWithin minimumUv maximumUv sample =
        decide (voltsOf minimum ≤ sample / 10 ^ 6 ∧ sample / 10 ^ 6 ≤ voltsOf maximum) := by
    rw [isWithin, decide_eq_decide, hminimum.le_sample_iff, hmaximum.sample_le_iff]
  cases check with
  | near target tolerance time =>
    cases expected with
    | analogueNear tick targetUv toleranceUv =>
      obtain ⟨rfl, rfl, htarget, htolerance⟩ := hstored
      have hnear (sample : ℤ) : isNear targetUv toleranceUv sample =
          VoltageCheck.accepts (sample / 10 ^ 6) (.near target tolerance time) := by
        rw [isNear, VoltageCheck.accepts, decide_eq_decide, htarget.voltsOf_eq,
          htolerance.voltsOf_eq, ← sub_div, abs_div,
          abs_of_pos (show (0 : ℚ) < 10 ^ 6 by positivity),
          div_le_div_iff_of_pos_right (by positivity)]
        exact_mod_cast Iff.rfl
      show Demand.throughout (acceptedAt _ _ (isNear _ _)) _ _ = _
      rw [funext hnear]
    | _ => exact hstored.elim
  | within minimum maximum time =>
    cases expected with
    | analogueWithin tick minimumUv maximumUv =>
      obtain ⟨rfl, rfl, hminimum, hmaximum⟩ := hstored
      show Demand.throughout (acceptedAt _ _ (isWithin _ _)) _ _ = _
      rw [funext (hwithin hminimum hmaximum)]
      rfl
    | _ => exact hstored.elim
  | remainWithin minimum maximum bounds =>
    cases expected with
    | analogueRemainWithin fromTick untilTick minimumUv maximumUv =>
      obtain ⟨rfl, rfl, hminimum, hmaximum⟩ := hstored
      show Demand.throughout (acceptedAt _ _ (isWithin _ _)) _ _ = _
      rw [funext (hwithin hminimum hmaximum)]
      rfl
    | _ => exact hstored.elim
  | remainAbove threshold bounds =>
    cases expected with
    | analogueRemainAbove fromTick untilTick thresholdUv =>
      obtain ⟨rfl, rfl, hthreshold⟩ := hstored
      have habove (sample : ℤ) : decide (thresholdUv < sample) =
          VoltageCheck.accepts (sample / 10 ^ 6) (.remainAbove threshold bounds) := by
        rw [VoltageCheck.accepts, decide_eq_decide, ← not_le, ← not_le, hthreshold.sample_le_iff]
      show Demand.throughout (acceptedAt _ _ fun sample ↦ decide (thresholdUv < sample)) _ _ = _
      rw [funext habove]
    | _ => exact hstored.elim
  | remainBelow threshold bounds =>
    cases expected with
    | analogueRemainBelow fromTick untilTick thresholdUv =>
      obtain ⟨rfl, rfl, hthreshold⟩ := hstored
      have hbelow (sample : ℤ) : decide (sample < thresholdUv) =
          VoltageCheck.accepts (sample / 10 ^ 6) (.remainBelow threshold bounds) := by
        rw [VoltageCheck.accepts, decide_eq_decide, ← not_le, ← not_le, hthreshold.le_sample_iff]
      show Demand.throughout (acceptedAt _ _ fun sample ↦ decide (sample < thresholdUv)) _ _ = _
      rw [funext hbelow]
    | _ => exact hstored.elim

/-- A stored expectation is about an analogue input, at the ticks of its check, and has only
integers as arguments. -/
theorem storedAs_shape {expected : Expectation} (hstored : check.StoredAs first last expected) :
    expected.kind = .analogueInput ∧ expected.ticks = (first.value, last.value) ∧
      expected.isPlain = (first.isPlain && last.isPlain) := by
  cases check <;> cases expected <;> first
    | exact hstored.elim
    | (obtain ⟨rfl, rfl, -⟩ := hstored
       exact ⟨rfl, rfl, rfl⟩)

/-- The voltages that a check has stored are shown when those of the check are. -/
theorem shown_of_storedAs {expected : Expectation} (hstored : check.StoredAs first last expected)
    (hshown : ∀ volts ∈ check.volts, ∀ microvolts, IsMicrovolts volts microvolts →
      ShownVolts microvolts) :
    ∀ microvolts ∈ expected.voltages, ShownVolts microvolts := by
  cases check <;>
    simp only [VoltageCheck.volts, List.mem_cons, List.not_mem_nil, or_false, forall_eq_or_imp,
      forall_eq] at hshown <;>
    cases expected <;> first
      | exact hstored.elim
      | (obtain ⟨-, -, hfirst, hsecond⟩ := hstored
         exact List.forall_mem_cons.2
           ⟨hshown.1 _ hfirst, List.forall_mem_singleton.2 (hshown.2 _ hsecond)⟩)
      | exact List.forall_mem_singleton.2 (hshown _ hstored.2.2)

theorem not_float_of_analogueInput {assertion : Assertion}
    (hkind : assertion.expectation.kind = .analogueInput) :
    ∀ argument ∈ (compiledAssertion assertion).arguments, ∀ value, argument.2 ≠ .float value := by
  obtain ⟨assertionId, channel, expected⟩ := assertion
  cases expected <;> first
    | (cases hkind; done)
    | simp [compiledAssertion, scalars, tickFields, isPoint, expectationFields, FieldValue.natural]

end Calls

/-! ### Exact voltages -/

/-- The call of a check returns exactly for voltages that are numbers of microvolts and pass the
other tests of the call. If it raises it changes nothing. If it returns it stores the voltages
exactly, and the handler of what it stored, whose ticks are plain integers of sixty-four bits,
compares every sample of a capture as the rational numbers do. -/
structure ExactCall (check : VoltageCheck) (input : Handle .analogueInput) (test : Test) :
    Prop where
  returns : (∃ after, execute (check.call input) test = .ok () after) ↔
    (∀ volts ∈ check.volts, ∃ microvolts, IsMicrovolts volts microvolts) ∧ check.Ordered ∧
      (∃ ticks, check.ticks test.configuration.frequencyMode = .ok ticks) ∧
        test.compiledPlan = none ∧ isConfigured test.configuration input.identity = true
  unchanged : ∀ error after, execute (check.call input) test = .error error after → after = test
  stores : ∀ after, execute (check.call input) test = .ok () after →
    ∃ first last expectation,
      check.ticks test.configuration.frequencyMode = .ok (first, last) ∧
      check.StoredAs first last expectation ∧
      after = (Effect.asserted input.identity expectation).apply test ∧
      (first.isPlain = true → last.isPlain = true → fitsInteger last.value = true →
        ∀ run results, Stores run results → Settles results (first.value, last.value)
          (evaluateAssertion ⟨run⟩ (stored ⟨test.nextAssertionId, input.identity, expectation⟩))
          (.throughout (acceptedAt (analogueOf input) results fun microvolts ↦
            check.accepts (microvolts / 10 ^ 6)) first.value last.value))

/-- Every call with a voltage and otherwise comparable ones is exact. -/
def ExactVoltage (quantity : Quantity) : Prop :=
  ∀ check : VoltageCheck, quantity ∈ check.volts →
    (∀ other ∈ check.volts, other ≠ quantity → ComparableVolts other) →
      ∀ (self : Handle .analogueInput) (test : Test), ExactCall check self test

section Exact

variable {check : VoltageCheck} {self : Handle .analogueInput} {test : Test} {quantity : Quantity}

/-- A call whose voltages are all comparable is exact. -/
theorem exactCall_of_comparable (hcomparable : ∀ volts ∈ check.volts, ComparableVolts volts) :
    ExactCall check self test where
  returns := by
    have hconvertible := fun volts hvolts ↦ (hcomparable volts hvolts).toConvertibleVolts
    simp only [execute_voltageCheck_eq_ok, VoltageCheck.Adds]
    constructor
    · rintro ⟨_, first, last, expectation, hexpectation, hticks, hmutable, hconfigured, -⟩
      obtain ⟨hstored, hordered⟩ :=
        (expectation_eq_ok hconvertible hticks _).1 ⟨expectation, hexpectation, rfl⟩
      exact ⟨(exists_storedAs_iff hticks).1 ⟨_, hstored⟩, hordered, ⟨_, hticks⟩, hmutable,
        hconfigured⟩
    · rintro ⟨hmicrovolts, hordered, ⟨⟨first, last⟩, hticks⟩, hmutable, hconfigured⟩
      obtain ⟨expected, hstored⟩ := (exists_storedAs_iff hticks).2 hmicrovolts
      obtain ⟨expectation, hexpectation, -⟩ :=
        (expectation_eq_ok hconvertible hticks expected).2 ⟨hstored, hordered⟩
      exact ⟨_, first, last, expectation, hexpectation, hticks, hmutable, hconfigured, rfl⟩
  unchanged _ _ := eq_of_raised
  stores after hreturned := by
    have hconvertible := fun volts hvolts ↦ (hcomparable volts hvolts).toConvertibleVolts
    obtain ⟨first, last, expectation, hexpectation, hticks, -, -, rfl⟩ :=
      execute_voltageCheck_eq_ok.1 hreturned
    have hstored :=
      ((expectation_eq_ok hconvertible hticks _).1 ⟨expectation, hexpectation, rfl⟩).1
    refine ⟨first, last, _, hticks, hstored, rfl, fun hfirst hlast hfits run results hstores ↦ ?_⟩
    obtain ⟨hkind, hbounds, hplain⟩ := storedAs_shape hstored
    rw [← demandOf_storedAs hstored, ← hbounds]
    refine settles_of_finite hstores hkind ?_ ?_ (fun argument hargument value hfloat ↦ ?_) ?_ ?_
    · show (expectation first last).ticks.1 ≤ (expectation first last).ticks.2
      rw [hbounds]
      exact ticks_ordered hticks
    · show fitsInteger (expectation first last).ticks.2 = true
      rwa [hbounds]
    · exact absurd hfloat (not_float_of_analogueInput hkind argument hargument value)
    · exact hplain.trans (Bool.and_eq_true_iff.2 ⟨hfirst, hlast⟩)
    · exact shown_of_storedAs hstored fun volts hvolts ↦ (hcomparable volts hvolts).shown

/-- A test that has configured an analogue input. -/
def voltmeterTest : Test :=
  blankTest.after [.analogueInputConfigure (0 : Fin 2)]

/-- The check that an analogue input stays above a voltage. -/
def staysAbove (quantity : Quantity) : VoltageCheck :=
  .remainAbove quantity { fromTick := some (.value 0), untilTick := some (.value 9) }

/-- The call of this check on that test adds what the voltage is converted into. -/
theorem execute_staysAbove_eq_ok {after : Test} :
    execute ((staysAbove quantity).call (0 : Fin 2)) voltmeterTest = .ok () after ↔
      ∃ thresholdUv, voltsToMicrovolts (.value quantity) "threshold_v" = .ok thresholdUv ∧
        after = (Effect.asserted (Handle.identity (0 : Handle .analogueInput))
          (.analogueRemainAbove 0 9 thresholdUv)).apply voltmeterTest := by
  have hticks : (staysAbove quantity).ticks voltmeterTest.configuration.frequencyMode =
      .ok (0, 9) := rfl
  rw [execute_voltageCheck_eq_ok, VoltageCheck.Adds, hticks]
  constructor
  · rintro ⟨first, last, expectation, hexpectation, hbounds, -, -, rfl⟩
    obtain ⟨thresholdUv, hthreshold, hbuild⟩ := bind_eq_ok.1 hexpectation
    cases hbuild
    cases hbounds
    exact ⟨thresholdUv, hthreshold, rfl⟩
  · rintro ⟨thresholdUv, hthreshold, rfl⟩
    exact ⟨0, 9, _, bind_eq_ok.2 ⟨thresholdUv, hthreshold, rfl⟩, rfl, rfl, rfl, rfl⟩

/-- If that call is exact, it converts the voltage into its number of microvolts, and these are
shown when the handler evaluates what was stored. -/
theorem shown_of_exactCall {microvolts : ℤ}
    (hcall : ExactCall (staysAbove quantity) (0 : Fin 2) voltmeterTest)
    (hconverted : voltsToMicrovolts (.value quantity) "threshold_v" = .ok microvolts) :
    IsMicrovolts quantity microvolts ∧ ShownVolts microvolts := by
  obtain ⟨first, last, expectation, hticks, hstored, hafter, hsettles⟩ :=
    hcall.stores _ (execute_staysAbove_eq_ok.2 ⟨microvolts, hconverted, rfl⟩)
  have hassertions := congrArg Test.assertions hafter
  simp only [Effect.apply, List.append_cancel_left_eq, List.cons.injEq, Assertion.mk.injEq,
    true_and, and_true] at hassertions
  subst hassertions
  cases hticks
  refine ⟨hstored.2.2, ?_⟩
  by_contra hshown
  -- The handler raises before it reads a sample, so a capture without samples refutes the call.
  obtain ⟨result, hresult, -⟩ := hsettles rfl rfl (by decide)
    (millisecondRun (initializeCaptureDatabase 1 Nat.one_pos)) [] ⟨rfl, List.nodup_nil, by simp⟩
  rw [overflows_of_not_shown rfl (by simpa [Expectation.voltages] using hshown)] at hresult
  cases hresult

/-- A voltage that exceeds one volt in its thirty-first decimal place. -/
def aboveOneVolt : Quantity :=
  .decimal (10 ^ 31 + 1) (-31)

end Exact

end HilRig.Evaluation
