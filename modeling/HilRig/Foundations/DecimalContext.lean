import Mathlib.Algebra.Order.Field.Power
import Mathlib.Data.Int.Log
import Mathlib.Data.Rat.Floor
import Mathlib.Tactic.FieldSimp
import Mathlib.Tactic.GCongr
import Mathlib.Tactic.Linarith
import Mathlib.Tactic.Positivity

/-!
# Decimal arithmetic with a bounded precision

A finite decimal number is represented by the rational it denotes: two decimals that compare equal
are the same rational, and every operation below depends on the value alone. A `DecimalContext`
bounds the number of significant digits and the exponent range. `DecimalContext.fix` rounds a
rational half to even into the context, coarsely below the smallest normal exponent, and signals an
overflow above the largest; the context's product and quotient are the exact ones, fixed.
A decimal of few enough digits is its own rounding (`fix_of_digits`), and a quotient of a power of
ten by a short decimal that is whole after rounding is exact (`whole_mul_eq_of_divide`).
-/

set_option autoImplicit false
set_option relaxedAutoImplicit false

namespace HilRig.Foundations

/-- The nearest integer, ties going to the even one. -/
def roundHalfEven (value : ℚ) : ℤ :=
  if 2 * (value - ⌊value⌋) < 1 then ⌊value⌋
  else if 1 < 2 * (value - ⌊value⌋) then ⌊value⌋ + 1
  else if ⌊value⌋ % 2 = 0 then ⌊value⌋ else ⌊value⌋ + 1

/-- An integer is its own rounding. -/
@[simp] theorem roundHalfEven_intCast (value : ℤ) : roundHalfEven value = value := by
  simp [roundHalfEven]

/-- Rounding moves a value by at most one half. -/
theorem abs_roundHalfEven_sub_le (value : ℚ) : |(roundHalfEven value : ℚ) - value| ≤ 1 / 2 := by
  have hlower := Int.floor_le value
  have hupper := Int.lt_floor_add_one value
  unfold roundHalfEven
  split_ifs <;> push_cast <;> rw [abs_le] <;> constructor <;> linarith

/-- Rounding never falls below the integer part. -/
theorem floor_le_roundHalfEven (value : ℚ) : ⌊value⌋ ≤ roundHalfEven value := by
  unfold roundHalfEven
  split_ifs <;> omega

/-- A decimal context: significant digits, and the largest and smallest adjusted exponents. -/
structure DecimalContext where
  precision : ℕ
  maxExponent : ℤ
  minExponent : ℤ

namespace DecimalContext

variable (context : DecimalContext)

/-- The exponent of the last digit kept when rounding a nonzero value: the precision counted from
its leading digit, or the smallest exponent of a subnormal number when that is larger. -/
def lastExponent (value : ℚ) : ℤ :=
  max (Int.log 10 |value| - (context.precision - 1))
    (context.minExponent - (context.precision - 1))

/-- A value rounded at its last exponent. -/
def roundAt (value : ℚ) : ℚ :=
  roundHalfEven (value / (10 : ℚ) ^ context.lastExponent value) *
    (10 : ℚ) ^ context.lastExponent value

/-- A value rounded into the context, or `none` when the rounded value overflows it. -/
def fix (value : ℚ) : Option ℚ :=
  if value = 0 then some 0
  else if (10 : ℚ) ^ (context.maxExponent + 1) ≤ |context.roundAt value| then none
  else some (context.roundAt value)

/-- The product in the context. -/
def multiply (first second : ℚ) : Option ℚ :=
  context.fix (first * second)

/-- The quotient in the context, by a nonzero divisor. -/
def divide (first second : ℚ) : Option ℚ :=
  context.fix (first / second)

/-- Rounding into the context moves a value by at most half a unit of the last digit kept. -/
theorem abs_roundAt_sub_le (value : ℚ) :
    |context.roundAt value - value| ≤ (10 : ℚ) ^ context.lastExponent value / 2 := by
  have hpos : (0 : ℚ) < 10 ^ context.lastExponent value := by positivity
  have hround := abs_roundHalfEven_sub_le (value / 10 ^ context.lastExponent value)
  have hscale : context.roundAt value - value =
      (roundHalfEven (value / 10 ^ context.lastExponent value) -
        value / 10 ^ context.lastExponent value) * 10 ^ context.lastExponent value := by
    rw [roundAt, sub_mul, div_mul_cancel₀ _ hpos.ne']
  rw [hscale, abs_mul, abs_of_pos hpos]
  calc |(roundHalfEven (value / 10 ^ context.lastExponent value) : ℚ) -
          value / 10 ^ context.lastExponent value| * 10 ^ context.lastExponent value
      ≤ 1 / 2 * 10 ^ context.lastExponent value := mul_le_mul_of_nonneg_right hround hpos.le
    _ = 10 ^ context.lastExponent value / 2 := by ring

/-- An integer multiple of a power of ten at or above the last digit kept is its own rounding. -/
theorem roundAt_of_le {coefficient exponent : ℤ}
    (hexponent : context.lastExponent (coefficient * 10 ^ exponent) ≤ exponent) :
    context.roundAt (coefficient * 10 ^ exponent) = coefficient * 10 ^ exponent := by
  obtain ⟨shift, hshift⟩ := Int.eq_ofNat_of_zero_le (sub_nonneg.2 hexponent)
  have hten : (10 : ℚ) ≠ 0 := by norm_num
  have hquotient : (coefficient * 10 ^ exponent : ℚ) /
      10 ^ context.lastExponent (coefficient * 10 ^ exponent) =
        ((coefficient * 10 ^ shift : ℤ) : ℚ) := by
    rw [mul_div_assoc, ← zpow_sub₀ hten, hshift]
    push_cast
    rfl
  rw [roundAt, hquotient, roundHalfEven_intCast, ← hquotient,
    div_mul_cancel₀ _ (zpow_ne_zero _ hten)]

/-- A decimal of few enough digits in the exponent range of the context is its own rounding. -/
theorem fix_of_digits {coefficient exponent : ℤ}
    (hdigits : |coefficient| < 10 ^ context.precision)
    (hlast : context.minExponent - (context.precision - 1) ≤ exponent)
    (hsize : |(coefficient * 10 ^ exponent : ℚ)| < 10 ^ (context.maxExponent + 1)) :
    context.fix (coefficient * 10 ^ exponent) = some (coefficient * 10 ^ exponent : ℚ) := by
  unfold fix
  by_cases hzero : (coefficient * 10 ^ exponent : ℚ) = 0
  · rw [if_pos hzero, hzero]
  rw [if_neg hzero]
  have hten : (0 : ℚ) < 10 ^ exponent := by positivity
  have hlog : Int.log 10 |(coefficient * 10 ^ exponent : ℚ)| <
      (context.precision : ℤ) + exponent := by
    refine (Int.lt_zpow_iff_log_lt (by norm_num) (abs_pos.2 hzero)).1 ?_
    rw [abs_mul, abs_of_pos hten]
    push_cast
    rw [zpow_add₀ (by norm_num), zpow_natCast]
    refine mul_lt_mul_of_pos_right ?_ hten
    exact_mod_cast hdigits
  have hexact : context.roundAt (coefficient * 10 ^ exponent) = coefficient * 10 ^ exponent :=
    context.roundAt_of_le (max_le (by omega) hlast)
  rw [hexact, if_neg (not_le.2 hsize)]

/-- A coefficient of few enough digits whose digits lie in the exponent range is not rounded. -/
theorem fix_of_coefficient {digits : ℕ} {coefficient exponent : ℤ}
    (hcoefficient : |coefficient| < 10 ^ digits) (hdigits : digits ≤ context.precision)
    (hlast : context.minExponent - (context.precision - 1) ≤ exponent)
    (hfirst : digits + exponent ≤ context.maxExponent + 1) :
    context.fix (coefficient * 10 ^ exponent) = some (coefficient * 10 ^ exponent : ℚ) := by
  refine context.fix_of_digits (hcoefficient.trans_le ?_) hlast ?_
  · exact pow_le_pow_right₀ (by norm_num) hdigits
  · have hcast : |(coefficient : ℚ)| < 10 ^ (digits : ℤ) := by exact_mod_cast hcoefficient
    have hpos : (0 : ℚ) < 10 ^ exponent := by positivity
    rw [abs_mul, abs_of_pos hpos]
    calc |(coefficient : ℚ)| * 10 ^ exponent
        < 10 ^ (digits : ℤ) * 10 ^ exponent := mul_lt_mul_of_pos_right hcast hpos
      _ = 10 ^ (digits + exponent) := (zpow_add₀ (by norm_num) _ _).symm
      _ ≤ 10 ^ (context.maxExponent + 1) := zpow_le_zpow_right₀ (by norm_num) hfirst

/-- Fixing a value of normal size moves it by at most half a unit of the last digit of the
precision, relative to the value. -/
theorem abs_sub_le_of_fix {value result : ℚ} (hnormal : (10 : ℚ) ^ context.minExponent ≤ value)
    (hfix : context.fix value = some result) :
    |result - value| ≤ value * (10 : ℚ) ^ (1 - (context.precision : ℤ)) / 2 := by
  have hvalue : 0 < value := lt_of_lt_of_le (by positivity) hnormal
  have hlog : context.minExponent ≤ Int.log 10 value :=
    (Int.zpow_le_iff_le_log (by norm_num) hvalue).1 (by exact_mod_cast hnormal)
  have hlast : context.lastExponent value = Int.log 10 value + (1 - context.precision) := by
    rw [lastExponent, abs_of_pos hvalue]
    omega
  unfold fix at hfix
  rw [if_neg hvalue.ne'] at hfix
  split at hfix
  · cases hfix
  rw [← Option.some.inj hfix]
  calc |context.roundAt value - value|
      ≤ (10 : ℚ) ^ context.lastExponent value / 2 := context.abs_roundAt_sub_le value
    _ = (10 : ℚ) ^ Int.log 10 value * 10 ^ (1 - (context.precision : ℤ)) / 2 := by
        rw [hlast, zpow_add₀ (by norm_num)]
    _ ≤ value * (10 : ℚ) ^ (1 - (context.precision : ℤ)) / 2 := by
        gcongr
        exact_mod_cast Int.zpow_log_le_self (b := 10) (by norm_num) hvalue

/-- A whole number closer to a quotient than the quotient's denominator resolves is the quotient. -/
theorem eq_of_abs_sub_lt {coefficient numerator whole : ℤ} {quotient : ℚ}
    (hcoefficient : 0 < coefficient) (hquotient : coefficient * quotient = numerator)
    (hclose : coefficient * |(whole : ℚ) - quotient| < 1) : (whole : ℚ) = quotient := by
  have hc : (0 : ℚ) < coefficient := by exact_mod_cast hcoefficient
  have hdifference : |((coefficient * whole - numerator : ℤ) : ℚ)| < 1 := by
    calc |((coefficient * whole - numerator : ℤ) : ℚ)|
        = |(coefficient : ℚ) * (whole - quotient)| := by
          rw [mul_sub, hquotient]
          push_cast
          rfl
      _ = coefficient * |(whole : ℚ) - quotient| := by rw [abs_mul, abs_of_pos hc]
      _ < 1 := hclose
  have hzero : coefficient * whole - numerator = 0 :=
    Int.abs_lt_one_iff.1 (by exact_mod_cast hdifference)
  refine mul_left_cancel₀ hc.ne' ?_
  rw [hquotient]
  exact_mod_cast sub_eq_zero.1 hzero

/-- A quotient of a power of ten by a short decimal is exact when it is whole after rounding: a
quotient that is not whole lies further from every whole number than the rounding moves it. -/
theorem whole_mul_eq_of_divide {coefficient exponent dividend whole : ℤ}
    (hprecision : 2 ≤ context.precision) (hcoefficient : 0 < coefficient)
    (hnormal : (10 : ℚ) ^ context.minExponent ≤ 10 ^ dividend / (coefficient * 10 ^ exponent))
    (hroom : coefficient * whole < 10 ^ (context.precision - 1))
    (hdivide : context.divide (10 ^ dividend) (coefficient * 10 ^ exponent) = some (whole : ℚ)) :
    (whole * (coefficient * 10 ^ exponent) : ℚ) = 10 ^ dividend := by
  have hten : (10 : ℚ) ≠ 0 := by norm_num
  have hc : (1 : ℚ) ≤ coefficient := by exact_mod_cast hcoefficient
  set quotient : ℚ := 10 ^ dividend / (coefficient * 10 ^ exponent) with hquotient
  set unit : ℚ := 10 ^ (1 - (context.precision : ℤ)) with hunit
  have hunit_pos : 0 < unit := by positivity
  have hunit_le : unit ≤ 1 / 10 := by
    calc unit ≤ (10 : ℚ) ^ (-1 : ℤ) := zpow_le_zpow_right₀ (by norm_num) (by omega)
      _ = 1 / 10 := by norm_num
  have hpos : 0 < quotient := by positivity
  have hproduct : (coefficient : ℚ) * quotient = 10 ^ (dividend - exponent) := by
    rw [hquotient, zpow_sub₀ hten]
    field_simp
  -- The rounding error is relative, so the whole number and the quotient bound each other.
  have herror := abs_le.1 (context.abs_sub_le_of_fix hnormal hdivide)
  have hwhole : (0 : ℚ) < whole := by nlinarith
  have hdouble : quotient ≤ 2 * whole := by nlinarith
  have hclose : |(whole : ℚ) - quotient| ≤ whole * unit :=
    abs_le.2 ⟨by nlinarith, by nlinarith⟩
  suffices hexact : (whole : ℚ) = quotient by
    rw [hexact, hquotient]
    field_simp
  rcases le_or_gt exponent dividend with hle | hlt
  · obtain ⟨shift, hshift⟩ := Int.eq_ofNat_of_zero_le (sub_nonneg.2 hle)
    have hnumerator : (coefficient : ℚ) * quotient = ((10 ^ shift : ℤ) : ℚ) := by
      rw [hproduct, hshift]
      push_cast
      rfl
    refine eq_of_abs_sub_lt hcoefficient hnumerator ?_
    have hcast : (coefficient * whole : ℚ) < 10 ^ ((context.precision : ℤ) - 1) := by
      rw [show ((context.precision : ℤ) - 1) = ((context.precision - 1 : ℕ) : ℤ) by omega,
        zpow_natCast]
      exact_mod_cast hroom
    calc (coefficient : ℚ) * |(whole : ℚ) - quotient|
        ≤ coefficient * (whole * unit) := mul_le_mul_of_nonneg_left hclose (by linarith)
      _ = coefficient * whole * unit := (mul_assoc _ _ _).symm
      _ < 10 ^ ((context.precision : ℤ) - 1) * unit := mul_lt_mul_of_pos_right hcast hunit_pos
      _ = 1 := by rw [hunit, ← zpow_add₀ hten]; simp
  · -- The quotient is at most one tenth, and no positive whole number is that close to it.
    have hwhole_pos : 0 < whole := by exact_mod_cast hwhole
    have hone : (1 : ℚ) ≤ whole := by exact_mod_cast hwhole_pos
    have htenth : (coefficient : ℚ) * quotient ≤ 1 / 10 := by
      calc (coefficient : ℚ) * quotient = 10 ^ (dividend - exponent) := hproduct
        _ ≤ (10 : ℚ) ^ (-1 : ℤ) := zpow_le_zpow_right₀ (by norm_num) (by omega)
        _ = 1 / 10 := by norm_num
    nlinarith

end DecimalContext

/-- The default context of the decimal module: twenty-eight digits, overflow trapped. -/
def defaultDecimalContext : DecimalContext where
  precision := 28
  maxExponent := 999999
  minExponent := -999999

end HilRig.Foundations
