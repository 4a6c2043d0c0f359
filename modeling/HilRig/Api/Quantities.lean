import HilRig.Api.Validation
import HilRig.Foundations.Fallible
import HilRig.Models.Instructions

/-!
# What validated quantities are

A validated output voltage, duty cycle or PWM frequency is the decimal the caller passed, and it is
exact in the units of the protocol: a whole number of microvolts, a whole number of permyriads, or a
frequency whose period is a whole number of nanoseconds. The decimal arithmetic of the validation
has twenty-eight digits, which is enough for the seventeen of a float: its products are exact, and
its quotient is whole only when the exact quotient is.
-/

set_option autoImplicit false
set_option relaxedAutoImplicit false

namespace HilRig.Api

open HilRig.Models HilRig.Foundations

/-- A voltage of a whole number of microvolts, up to twenty volts. -/
def IsVoltage (volts : ℚ) : Prop :=
  ∃ microvolts : ℕ, (microvolts : ℚ) = 10 ^ 6 * volts ∧ microvolts ≤ 20000000

/-- A duty cycle of a whole number of permyriads, up to one. -/
def IsDutyCycle (duty : ℚ) : Prop :=
  ∃ permyriad : ℕ, (permyriad : ℚ) = 10 ^ 4 * duty ∧ permyriad ≤ 10000

/-- A frequency with a period of a positive whole number of nanoseconds in 32 bits. -/
def IsFrequency (frequency : ℚ) : Prop :=
  ∃ period : ℕ, (period : ℚ) * frequency = 10 ^ 9 ∧ 0 < period ∧ period ≤ uint32Max

/-- A stored float with a property of its decimal. -/
def Stores (property : ℚ → Prop) (value : PyFloat) : Prop :=
  ∃ decimal, value = .finite decimal ∧ property decimal

/-- The quantities of a test that the protocol has units for. -/
inductive Measure
  | voltage
  | dutyCycle
  | frequency
  deriving DecidableEq, Repr

/-- Whether a decimal is exact in the unit of its quantity, and in range. -/
def Measure.IsExact : Measure → ℚ → Prop
  | .voltage => IsVoltage
  | .dutyCycle => IsDutyCycle
  | .frequency => IsFrequency

/-- The quantity that a stimulus sets. -/
def Measure.requested : Measure → Stimulus → Option PyFloat
  | .voltage, .analogueOutput volts => some volts
  | .dutyCycle, .pwmSet _ duty => some duty
  | .dutyCycle, .pwmSetDutyCycle duty => some duty
  | .frequency, .pwmSet hertz _ => some hertz
  | .frequency, .pwmSetFrequency hertz => some hertz
  | _, _ => none

/-- The quantity that a configuration sets. -/
def Measure.configured : Measure → PeripheralConfiguration → Option PyFloat
  | .voltage, .analogueOutput volts => some volts
  | .dutyCycle, .pwmOutput _ _ duty _ => some duty
  | .frequency, .pwmOutput _ hertz _ _ => some hertz
  | _, _ => none

/-- A stimulus whose quantities are exact in the units of the protocol. -/
def ExactStimulus (stimulus : Stimulus) : Prop :=
  ∀ measure value, Measure.requested measure stimulus = some value →
    Stores (Measure.IsExact measure) value

/-- A configuration whose quantities are exact in the units of the protocol. -/
def ExactConfiguration (peripheral : PeripheralConfiguration) : Prop :=
  ∀ measure value, Measure.configured measure peripheral = some value →
    Stores (Measure.IsExact measure) value

/-- The decimal of a number, unless it is an infinity or a NaN. -/
def decimalOf : Passed Number → Option ℚ
  | .value (.int value) => some value
  | .value (.float (.finite value) _) => some value
  | .value (.float _ _) => none
  | .mistyped => none

/-! ### Short decimals -/

/-- The product of a short decimal by a small power of ten is exact. -/
theorem multiply_of_printed {value : ℚ} (hprinted : PyFloat.Printed (.finite value)) {power : ℕ}
    (hpower : power ≤ 6) :
    defaultDecimalContext.multiply value (10 ^ power) = some (value * 10 ^ power) := by
  obtain ⟨coefficient, exponent, hcoefficient, hlow, hhigh, rfl⟩ := hprinted
  have hten : (10 : ℚ) ≠ 0 := by norm_num
  have hvalue : (coefficient * 10 ^ exponent : ℚ) * 10 ^ power =
      coefficient * 10 ^ (exponent + power) := by
    rw [mul_assoc, ← zpow_natCast, ← zpow_add₀ hten]
  rw [DecimalContext.multiply, hvalue]
  refine defaultDecimalContext.fix_of_coefficient hcoefficient (by decide) ?_ ?_
  · show (-999999 - (28 - 1) : ℤ) ≤ _
    omega
  · show _ ≤ (999999 + 1 : ℤ)
    omega

/-- A small integer is a short decimal. -/
theorem printed_intCast {value : ℤ} (hvalue : |value| ≤ 2 ^ 53) :
    PyFloat.Printed (.finite (value : ℚ)) :=
  ⟨value, 0, hvalue.trans_lt (by norm_num), by norm_num, by norm_num, by simp⟩

/-- A number that is its own float: a short decimal. -/
structure Exact (value : Passed Number) (converted : ℚ) : Prop where
  printed : PyFloat.Printed (.finite converted)
  decimal : decimalOf value = some converted
  toDecimal : ∃ passed, value = .value passed ∧ passed.toDecimal = .ok (some converted)

/-- A number that passes as a finite float is a short decimal, or a large integer. -/
theorem number_eq_ok {value : Passed Number} {name : String} {converted : ℚ}
    (hnumber : number value name = .ok converted) :
    Exact value converted ∨
      ∃ integer : ℤ, value = .value (.int integer) ∧ 2 ^ 53 < |integer| ∧
        (0 < integer → 10 ^ 15 ≤ converted) ∧ (integer < 0 → converted ≤ -10 ^ 15) := by
  cases value with
  | mistyped => cases hnumber
  | value passed =>
    obtain ⟨float, hfloat, hnumber⟩ := bind_eq_ok.1 hnumber
    cases float with
    | infinite negative => cases hnumber
    | nan => cases hnumber
    | finite value =>
      obtain rfl := pure_eq_ok.1 hnumber
      cases passed with
      | float given printed =>
        obtain rfl := Except.ok.inj hfloat
        exact .inl ⟨printed, rfl, _, rfl, rfl⟩
      | int integer =>
        rcases floatOfInt_cases hfloat with ⟨hsmall, heq⟩ | ⟨decimal, heq, hlarge⟩
        · obtain rfl := PyFloat.finite.inj heq
          have hprinted : ¬10 ^ 4300 ≤ |integer| := by
            refine not_le.2 (hsmall.trans_lt ?_)
            calc (2 ^ 53 : ℤ) < 10 ^ 17 := by norm_num
              _ ≤ 10 ^ 4300 := pow_le_pow_right₀ (by norm_num) (by norm_num)
          exact .inl ⟨printed_intCast hsmall, rfl, _, rfl, if_neg hprinted⟩
        · obtain rfl := PyFloat.finite.inj heq
          exact .inr ⟨integer, rfl, hlarge⟩

/-- A number of moderate size that passes as a finite float is a short decimal. -/
theorem exact_of_number {value : Passed Number} {name : String} {converted : ℚ}
    (hnumber : number value name = .ok converted) (hlow : -10 ^ 15 < converted)
    (hhigh : converted < 10 ^ 15) : Exact value converted := by
  rcases number_eq_ok hnumber with hexact | ⟨integer, -, hlarge, hpositive, hnegative⟩
  · exact hexact
  rcases lt_trichotomy integer 0 with hsign | rfl | hsign
  · exact absurd (hnegative hsign) (not_le.2 hlow)
  · norm_num at hlarge
  · exact absurd (hpositive hsign) (not_le.2 hhigh)

/-- The printed decimal of an exact number. -/
theorem Exact.printedDecimal_eq {value : Passed Number} {converted : ℚ}
    (hexact : Exact value converted) : printedDecimal value = .ok converted := by
  obtain ⟨passed, rfl, hdecimal⟩ := hexact.toDecimal
  show (passed.toDecimal >>= _) = _
  rw [hdecimal]
  rfl

/-- A value that is its own rounding and not negative is a natural number. -/
theorem exists_natCast_of_whole {value : ℚ} (hwhole : value = roundHalfEven value)
    (hvalue : 0 ≤ value) : ∃ whole : ℕ, (whole : ℚ) = value := by
  rw [hwhole] at hvalue ⊢
  obtain ⟨whole, hwhole⟩ := Int.eq_ofNat_of_zero_le (by exact_mod_cast hvalue)
  exact ⟨whole, by rw [hwhole]; rfl⟩

/-! ### Validated quantities -/

/-- A validated output voltage is the passed decimal, and exact. -/
theorem isVoltage_of_analogueOutputVoltage {value : Passed Number} {name : String} {volts : ℚ}
    (hvolts : analogueOutputVoltage value name = .ok volts) :
    decimalOf value = some volts ∧ IsVoltage volts := by
  obtain ⟨converted, hnumber, hvolts⟩ := bind_eq_ok.1 hvolts
  split at hvolts
  case isFalse => cases hvolts
  rename_i hrange
  obtain ⟨whole, hwhole, hvolts⟩ := bind_eq_ok.1 hvolts
  obtain rfl := pure_eq_ok.1 hvolts
  have hhigh : converted ≤ 20 := hrange.2
  have hexact := exact_of_number hnumber (by linarith) (by linarith)
  refine ⟨hexact.decimal, ?_⟩
  obtain ⟨passed, rfl, hdecimal⟩ := hexact.toDecimal
  obtain ⟨decimal, hagain, hwhole⟩ := bind_eq_ok.1 hwhole
  obtain rfl := Except.ok.inj (hdecimal.symm.trans hagain)
  obtain ⟨microvolts, hproduct, hwhole⟩ := bind_eq_ok.1 hwhole
  rw [show (1000000 : ℚ) = 10 ^ 6 by norm_num,
    multiply_of_printed hexact.printed (le_refl 6)] at hproduct
  obtain rfl := Except.ok.inj hproduct
  have hround := not_not.1 (ite_error_eq_ok.1 hwhole).1
  obtain ⟨count, hcount⟩ := exists_natCast_of_whole hround (by nlinarith [hrange.1])
  refine ⟨count, by rw [hcount, mul_comm], ?_⟩
  have hbound : (count : ℚ) ≤ 20000000 := by
    rw [hcount]
    linarith
  exact_mod_cast hbound

/-- A validated duty cycle is the passed decimal, and exact. -/
theorem isDutyCycle_of_protocolPwmDutyCycle {value : Passed Number} {name : String} {duty : ℚ}
    (hduty : protocolPwmDutyCycle value name = .ok duty) :
    decimalOf value = some duty ∧ IsDutyCycle duty := by
  obtain ⟨converted, hconverted, hduty⟩ := bind_eq_ok.1 hduty
  obtain ⟨again, hnumber, hconverted⟩ := bind_eq_ok.1 hconverted
  split at hconverted
  case isFalse => cases hconverted
  rename_i hrange
  obtain rfl := pure_eq_ok.1 hconverted
  have hexact := exact_of_number hnumber (by linarith [hrange.1]) (by linarith [hrange.2])
  obtain ⟨decimal, hdecimal, hduty⟩ := bind_eq_ok.1 hduty
  obtain rfl := Except.ok.inj (hexact.printedDecimal_eq.symm.trans hdecimal)
  obtain ⟨permyriad, hproduct, hduty⟩ := bind_eq_ok.1 hduty
  rw [show (10000 : ℚ) = 10 ^ 4 by norm_num,
    multiply_of_printed hexact.printed (by norm_num)] at hproduct
  obtain rfl := Except.ok.inj hproduct
  obtain ⟨hround, hduty⟩ := ite_error_eq_ok.1 hduty
  obtain rfl := pure_eq_ok.1 hduty
  obtain ⟨count, hcount⟩ := exists_natCast_of_whole (not_not.1 hround) (by nlinarith [hrange.1])
  refine ⟨hexact.decimal, count, by rw [hcount, mul_comm], ?_⟩
  have hbound : (count : ℚ) ≤ 10000 := by
    rw [hcount]
    linarith [hrange.2]
  exact_mod_cast hbound

/-- The rounded period of a short decimal is exact when it is whole. -/
theorem period_mul_eq {frequency : ℚ} (hprinted : PyFloat.Printed (.finite frequency))
    (hpositive : 0 < frequency) {period : ℤ} (hbound : period ≤ uint32Max)
    (hperiod : defaultDecimalContext.divide (10 ^ 9) frequency = some (period : ℚ)) :
    (period : ℚ) * frequency = 10 ^ 9 := by
  obtain ⟨coefficient, exponent, hcoefficient, hlow, hhigh, rfl⟩ := hprinted
  have hten : (0 : ℚ) < 10 ^ exponent := by positivity
  have hpos : 0 < coefficient := by
    exact_mod_cast (pos_iff_pos_of_mul_pos hpositive).2 hten
  have hdigits : coefficient < 10 ^ 17 := (abs_lt.1 hcoefficient).2
  have hnormal : (10 : ℚ) ^ defaultDecimalContext.minExponent ≤
      10 ^ (9 : ℤ) / (coefficient * 10 ^ exponent) := by
    rw [le_div_iff₀ hpositive]
    have hcast : (coefficient : ℚ) ≤ 10 ^ (17 : ℤ) := by exact_mod_cast hdigits.le
    calc (10 : ℚ) ^ defaultDecimalContext.minExponent * (coefficient * 10 ^ exponent)
        ≤ 10 ^ (-999999 : ℤ) * (10 ^ (17 : ℤ) * 10 ^ (308 : ℤ)) := by
          refine mul_le_mul_of_nonneg_left ?_ (by positivity)
          exact mul_le_mul hcast (zpow_le_zpow_right₀ (by norm_num) hhigh) hten.le (by positivity)
      _ = 10 ^ (-999999 + (17 + 308) : ℤ) := by
          rw [← zpow_add₀ (by norm_num), ← zpow_add₀ (by norm_num)]
      _ ≤ 10 ^ (9 : ℤ) := zpow_le_zpow_right₀ (by norm_num) (by norm_num)
  have hroom : coefficient * period < 10 ^ (defaultDecimalContext.precision - 1) := by
    have huint : period ≤ 2 ^ 32 - 1 := hbound
    calc coefficient * period ≤ coefficient * (2 ^ 32 - 1) :=
          mul_le_mul_of_nonneg_left huint hpos.le
      _ ≤ 10 ^ 17 * (2 ^ 32 - 1) := mul_le_mul_of_nonneg_right hdigits.le (by norm_num)
      _ < 10 ^ (defaultDecimalContext.precision - 1) := by norm_num [defaultDecimalContext]
  have hexact := defaultDecimalContext.whole_mul_eq_of_divide (show 2 ≤ 28 by norm_num) hpos
    hnormal hroom hperiod
  exact_mod_cast hexact

/-- The rounded period of a large integer frequency is not whole. -/
theorem period_ne_roundHalfEven {integer : ℤ} (hlow : 2 ^ 53 < integer)
    (hhigh : integer < 10 ^ 4300) {period : ℚ}
    (hperiod : defaultDecimalContext.divide (10 ^ 9) integer = some period) :
    period ≠ roundHalfEven period := by
  have hlow' : (2 : ℚ) ^ 53 < integer := by exact_mod_cast hlow
  have hpos : (0 : ℚ) < integer := lt_trans (by positivity) hlow'
  have hquotient : (0 : ℚ) < 10 ^ 9 / integer := by positivity
  have hsmall : (10 : ℚ) ^ 9 / integer < 1 / 2 := by
    rw [div_lt_iff₀ hpos]
    linarith
  have hnormal : (10 : ℚ) ^ defaultDecimalContext.minExponent ≤ 10 ^ 9 / integer := by
    rw [le_div_iff₀ hpos]
    have hcast : (integer : ℚ) ≤ ((10 ^ 4300 : ℤ) : ℚ) := Int.cast_le.2 hhigh.le
    rw [Int.cast_pow, Int.cast_ofNat, ← zpow_natCast] at hcast
    calc (10 : ℚ) ^ defaultDecimalContext.minExponent * integer
        ≤ 10 ^ (-999999 : ℤ) * 10 ^ (4300 : ℤ) :=
          mul_le_mul_of_nonneg_left hcast (by positivity)
      _ = 10 ^ (-999999 + 4300 : ℤ) := (zpow_add₀ (by norm_num) _ _).symm
      _ ≤ 10 ^ (9 : ℤ) := zpow_le_zpow_right₀ (by norm_num) (by norm_num)
      _ = 10 ^ 9 := by norm_num
  have herror := abs_le.1 (defaultDecimalContext.abs_sub_le_of_fix hnormal hperiod)
  have hunit : (10 : ℚ) ^ (1 - (defaultDecimalContext.precision : ℤ)) ≤ 1 := by
    refine zpow_le_one_of_nonpos₀ (by norm_num) ?_
    norm_num [defaultDecimalContext]
  have hscaled : 10 ^ 9 / (integer : ℚ) * 10 ^ (1 - (defaultDecimalContext.precision : ℤ)) ≤
      10 ^ 9 / integer := mul_le_of_le_one_right hquotient.le hunit
  intro hwhole
  have hpositive : (0 : ℚ) < roundHalfEven period := by
    rw [← hwhole]
    linarith
  have hone : (roundHalfEven period : ℚ) < 1 := by
    rw [← hwhole]
    linarith
  have hpositive' : 0 < roundHalfEven period := by exact_mod_cast hpositive
  have hone' : roundHalfEven period < 1 := by exact_mod_cast hone
  omega

/-- A validated PWM frequency is the passed decimal, and exact. -/
theorem isFrequency_of_protocolPwmFrequency {value : Passed Number} {name : String}
    {frequency : ℚ} (hfrequency : protocolPwmFrequency value name = .ok frequency) :
    decimalOf value = some frequency ∧ IsFrequency frequency := by
  obtain ⟨converted, hconverted, hfrequency⟩ := bind_eq_ok.1 hfrequency
  obtain ⟨again, hnumber, hconverted⟩ := bind_eq_ok.1 hconverted
  obtain ⟨hpositive, hconverted⟩ := ite_error_eq_ok.1 hconverted
  obtain rfl := pure_eq_ok.1 hconverted
  obtain ⟨decimal, hdecimal, hfrequency⟩ := bind_eq_ok.1 hfrequency
  obtain ⟨period, hperiod, hfrequency⟩ := bind_eq_ok.1 hfrequency
  obtain ⟨hround, hfrequency⟩ := ite_error_eq_ok.1 hfrequency
  obtain ⟨hrange, hfrequency⟩ := ite_error_eq_ok.1 hfrequency
  obtain rfl := pure_eq_ok.1 hfrequency
  rcases number_eq_ok hnumber with hexact | ⟨integer, rfl, hlarge, -, hnegative⟩
  · obtain rfl := Except.ok.inj (hexact.printedDecimal_eq.symm.trans hdecimal)
    refine ⟨hexact.decimal, ?_⟩
    have hwhole := not_not.1 hround
    have hquotient := trapped_eq_ok.1 hperiod
    rw [hwhole, show nanosecondsPerSecond = 10 ^ 9 by norm_num [nanosecondsPerSecond]] at hquotient
    have hbound : roundHalfEven period ≤ uint32Max := by
      rw [hwhole] at hrange
      exact_mod_cast not_lt.1 hrange
    have hexactly := period_mul_eq hexact.printed (not_le.1 hpositive) hbound hquotient
    have hperiod_pos : 0 < roundHalfEven period := by
      have : (0 : ℚ) < roundHalfEven period * again := by
        rw [hexactly]
        positivity
      exact_mod_cast (pos_iff_pos_of_mul_pos this).2 (not_le.1 hpositive)
    obtain ⟨count, hcount⟩ := Int.eq_ofNat_of_zero_le hperiod_pos.le
    rw [hcount] at hexactly hbound hperiod_pos
    exact ⟨count, by exact_mod_cast hexactly, by exact_mod_cast hperiod_pos,
      by exact_mod_cast hbound⟩
  · -- A frequency too large for an exact float has a period below one nanosecond.
    have hinteger : 2 ^ 53 < integer := by
      rcases lt_or_ge integer 0 with hsign | hsign
      · have := hnegative hsign
        linarith
      · rwa [abs_of_nonneg hsign] at hlarge
    obtain ⟨printed, hprinted, heq⟩ := bind_eq_ok.1 hdecimal
    obtain ⟨hshort, hprinted⟩ := ite_error_eq_ok.1 hprinted
    obtain rfl := Except.ok.inj hprinted
    obtain rfl := pure_eq_ok.1 heq
    have hquotient := trapped_eq_ok.1 hperiod
    rw [show nanosecondsPerSecond = 10 ^ 9 by norm_num [nanosecondsPerSecond]] at hquotient
    have hhigh : integer < 10 ^ 4300 := (abs_lt.1 (not_le.1 hshort)).2
    exact absurd (not_not.1 hround) (period_ne_roundHalfEven hinteger hhigh hquotient)

end HilRig.Api
