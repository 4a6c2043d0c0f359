import HilRig.Foundations.DecimalRounding
import HilRig.Models.Numbers

/-!
# Arithmetic of floats

A float of a record is the decimal its `str` prints. Where a program computes with floats, the value
that counts is the double itself: a rational of fifty-three significant bits, or a multiple of the
smallest positive double. `toDouble` rounds to it, so that a quotient or a difference of floats is
the exact one rounded once. `le_toDouble_iff` says which values overflow.
-/

set_option autoImplicit false
set_option relaxedAutoImplicit false

namespace HilRig.Models

open HilRig.Foundations

/-- The double nearest to a value that does not overflow. -/
def toDouble (value : ℚ) : ℚ :=
  if value = 0 then 0
  else
    let unit := (2 : ℚ) ^ max (Int.log 2 |value| - 52) (-1074)
    roundHalfEven (value / unit) * unit

/-- The double a finite float is. -/
def PyFloat.toDouble? : PyFloat → Option ℚ
  | .finite value => some (toDouble value)
  | _ => none

/-- A double that is zero or of normal size, as a float. -/
def PyFloat.ofDouble (double : ℚ) : PyFloat :=
  .finite (if double < 0 then -shortestDecimal |double| else shortestDecimal |double|)

/-! ### Overflow -/

/-- A value of normal size rounds to fifty-three bits. -/
theorem toDouble_of_normal {value : ℚ} (hvalue : 0 < value) (hnormal : -1022 ≤ Int.log 2 value) :
    toDouble value = nearestDouble value := by
  have hunit : max (Int.log 2 |value| - 52) (-1074) = Int.log 2 value - ((53 : ℕ) - 1) := by
    rw [abs_of_pos hvalue, max_eq_left (by omega)]
    norm_num
  simp only [toDouble, if_neg hvalue.ne', hunit, nearestDouble, roundToDigits, Nat.cast_ofNat]

/-- The rounding of a value reaches beyond the largest double from half a unit below on. -/
theorem le_toDouble_iff {value : ℚ} (hvalue : 0 ≤ value) :
    2 ^ 1024 ≤ toDouble value ↔ 2 ^ 1024 - 2 ^ 970 ≤ value := by
  obtain ⟨half, hhalf⟩ : ∃ half : ℚ, (2 : ℚ) ^ 970 = half := ⟨_, rfl⟩
  have hpositive : 0 < half := hhalf ▸ by positivity
  have hlimit : (2 : ℚ) ^ 1024 = 2 ^ 54 * half := by rw [← hhalf, ← pow_add]
  have hlast : (2 : ℚ) ^ (971 : ℤ) = 2 * half := by
    rw [← hhalf, ← pow_succ', ← zpow_natCast]
    rfl
  rw [hlimit, hhalf]
  rcases hvalue.eq_or_lt with rfl | hpos
  · rw [toDouble, if_pos rfl]
    exact iff_of_false (by linarith only [hpositive]) (by linarith only [hpositive])
  have hlower : (2 : ℚ) ^ Int.log 2 value ≤ value := by
    exact_mod_cast Int.zpow_log_le_self (b := 2) (by norm_num) hpos
  have hupper : value < (2 : ℚ) ^ (Int.log 2 value + 1) := by
    exact_mod_cast Int.lt_zpow_succ_log_self (b := 2) (by norm_num) value
  rcases lt_trichotomy (Int.log 2 value) 1023 with hsmall | hlog | hlarge
  · -- Half a unit does not reach from below a power of two to the next one.
    have hbelow : value < 2 ^ 53 * half := by
      calc value < (2 : ℚ) ^ (Int.log 2 value + 1) := hupper
        _ ≤ 2 ^ (1023 : ℤ) := zpow_le_zpow_right₀ (by norm_num) (by omega)
        _ = 2 ^ (52 : ℤ) * 2 ^ (971 : ℤ) := by rw [← zpow_add₀ (by norm_num)]; rfl
        _ = 2 ^ 53 * half := by rw [hlast]; norm_num; ring
    obtain ⟨unit, hunit⟩ :
        ∃ unit : ℚ, (2 : ℚ) ^ max (Int.log 2 |value| - 52) (-1074) = unit := ⟨_, rfl⟩
    have hunit_pos : 0 < unit := hunit ▸ by positivity
    have hunit_le : unit ≤ 2 * half := by
      rw [← hunit, ← hlast, abs_of_pos hpos]
      exact zpow_le_zpow_right₀ (by norm_num) (by norm_num; omega)
    have hround : (roundHalfEven (value / unit) : ℚ) * unit ≤ value + unit / 2 := by
      have herror := (abs_le.1 (abs_roundHalfEven_sub_le (value / unit))).2
      calc (roundHalfEven (value / unit) : ℚ) * unit ≤ (value / unit + 1 / 2) * unit :=
            mul_le_mul_of_nonneg_right (by linarith) hunit_pos.le
        _ = value + unit / 2 := by field_simp
    rw [toDouble, if_neg hpos.ne', hunit]
    dsimp only
    exact iff_of_false (by linarith only [hbelow, hunit_le, hround, hpositive])
      (by linarith only [hbelow, hpositive])
  · have hunit : (2 : ℚ) ^ (Int.log 2 value - ((53 : ℕ) - 1)) = 2 * half := by
      rw [hlog, ← hlast]
      rfl
    have hscaled : 0 ≤ value / (2 * half) := by positivity
    have hreach := @le_abs_roundHalfEven_iff (value / (2 * half)) (2 ^ 53) (by decide)
    rw [abs_of_nonneg (roundHalfEven_nonneg hscaled), abs_of_nonneg hscaled,
      le_div_iff₀ (by positivity)] at hreach
    have hround : (2 : ℚ) ^ 54 * half ≤ roundHalfEven (value / (2 * half)) * (2 * half) ↔
        2 ^ 53 ≤ roundHalfEven (value / (2 * half)) := by
      rw [show (2 : ℚ) ^ 54 * half = 2 ^ 53 * (2 * half) by ring,
        mul_le_mul_iff_left₀ (by positivity)]
      exact_mod_cast Iff.rfl
    rw [toDouble_of_normal hpos (by omega), nearestDouble, roundToDigits, Nat.cast_ofNat, hunit,
      hround, hreach]
    push_cast
    constructor <;> intro hle <;> linarith only [hle]
  · have hpower : 2 ^ 54 * half ≤ 2 ^ Int.log 2 value := by
      rw [← hlimit, ← zpow_natCast]
      exact zpow_le_zpow_right₀ (by norm_num) (by norm_num; omega)
    have hround : (2 : ℚ) ^ Int.log 2 value ≤ nearestDouble value := by
      exact_mod_cast zpow_log_le_roundToDigits (show 1 < 2 by norm_num) (show 1 ≤ 53 by norm_num)
        hpos
    rw [toDouble_of_normal hpos (by omega)]
    exact iff_of_true (hpower.trans hround) (by linarith only [hpower, hlower, hpositive])
end HilRig.Models
