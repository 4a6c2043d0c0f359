import HilRig.Foundations.DecimalContext

/-!
# When rounding is exact

A value that a context can hold is its own rounding, and no other value is (`fix_eq_some_self_iff`).
The rounding of a value is a multiple of a power of ten exactly when such a multiple lies within
half a unit of the value's last digit (`exists_roundAt_eq_iff`): above it every rounding is one, and
below it ties go to the multiple, which is even in units of the last digit.
-/

set_option autoImplicit false
set_option relaxedAutoImplicit false

namespace HilRig.Foundations

/-- A value rounds to an even integer that is at most one half away. -/
theorem roundHalfEven_of_even {value : ℚ} {whole : ℤ} (heven : whole % 2 = 0)
    (hnear : |value - whole| ≤ 1 / 2) : roundHalfEven value = whole := by
  obtain ⟨hlower, hupper⟩ := abs_le.1 hnear
  by_cases hle : (whole : ℚ) ≤ value
  · have hfloor : ⌊value⌋ = whole := by
      rw [Int.floor_eq_iff]
      constructor <;> linarith
    unfold roundHalfEven
    rw [hfloor, if_pos heven, if_neg (show ¬1 < 2 * (value - whole) by linarith), ite_self]
  · have hfloor : ⌊value⌋ = whole - 1 := by
      rw [Int.floor_eq_iff]
      push_cast
      constructor <;> linarith
    have hodd : ¬(whole - 1) % 2 = 0 := by omega
    unfold roundHalfEven
    rw [hfloor, if_neg hodd, sub_add_cancel, ite_self, if_neg]
    push_cast
    linarith

/-- A non-negative value has a non-negative rounding. -/
theorem roundHalfEven_nonneg {value : ℚ} (hvalue : 0 ≤ value) : 0 ≤ roundHalfEven value :=
  (Int.floor_nonneg.2 hvalue).trans (floor_le_roundHalfEven value)

/-- A rounding reaches an even number exactly when the value comes within one half of it. -/
theorem le_abs_roundHalfEven_iff {value : ℚ} {whole : ℤ} (heven : whole % 2 = 0) :
    whole ≤ |roundHalfEven value| ↔ (whole : ℚ) - 1 / 2 ≤ |value| := by
  have herror := abs_le.1 (abs_roundHalfEven_sub_le value)
  constructor
  · intro hround
    have hcast : (whole : ℚ) ≤ |(roundHalfEven value : ℚ)| := by exact_mod_cast hround
    rcases abs_cases (roundHalfEven value : ℚ) with ⟨habs, -⟩ | ⟨habs, -⟩
    · linarith [le_abs_self value]
    · linarith [neg_le_abs value]
  · intro hvalue
    by_cases habove : |value - whole| ≤ 1 / 2
    · rw [roundHalfEven_of_even heven habove]
      exact le_abs_self whole
    by_cases hbelow : |value - ((-whole : ℤ) : ℚ)| ≤ 1 / 2
    · rw [roundHalfEven_of_even (by omega) hbelow, abs_neg]
      exact le_abs_self whole
    · have hround : (whole : ℚ) < |(roundHalfEven value : ℚ)| := by
        push_cast at hbelow
        rw [abs_le, not_and_or, not_le, not_le] at habove hbelow
        rcases abs_cases value with ⟨habs, -⟩ | ⟨habs, -⟩
        · have hlarge : (whole : ℚ) + 1 / 2 < value := by
            rcases habove with habove | habove
            · linarith
            · linarith
          linarith [le_abs_self (roundHalfEven value : ℚ)]
        · have hlarge : value < -whole - 1 / 2 := by
            rcases hbelow with hbelow | hbelow
            · linarith
            · linarith
          linarith [neg_le_abs (roundHalfEven value : ℚ)]
      exact_mod_cast hround.le

namespace DecimalContext

variable (context : DecimalContext)

/-- Half a unit of the last digit kept when rounding a value. -/
def halfUnit (value : ℚ) : ℚ :=
  (10 : ℚ) ^ context.lastExponent value / 2

/-- A value the context can hold: no digit after the last one kept, and below the overflow. -/
structure Representable (value : ℚ) : Prop where
  digits : ∃ coefficient : ℤ, value = coefficient * (10 : ℚ) ^ context.lastExponent value
  bounded : |value| < (10 : ℚ) ^ (context.maxExponent + 1)

/-- A value is its own rounding when it has no digit after the last one kept. -/
theorem roundAt_eq_self_iff (value : ℚ) : context.roundAt value = value ↔
    ∃ coefficient : ℤ, value = coefficient * (10 : ℚ) ^ context.lastExponent value := by
  constructor
  · intro hexact
    exact ⟨roundHalfEven (value / (10 : ℚ) ^ context.lastExponent value), hexact.symm⟩
  · rintro ⟨coefficient, hvalue⟩
    have hpos : (0 : ℚ) < 10 ^ context.lastExponent value := by positivity
    have hquotient : value / 10 ^ context.lastExponent value = coefficient := by
      rw [div_eq_iff hpos.ne']
      exact hvalue
    rw [roundAt, hquotient, roundHalfEven_intCast, ← hvalue]

/-- Fixing returns the value itself exactly for the representable ones. -/
theorem fix_eq_some_self_iff (value : ℚ) :
    context.fix value = some value ↔ context.Representable value := by
  by_cases hzero : value = 0
  · subst hzero
    have hpos : (0 : ℚ) < 10 ^ (context.maxExponent + 1) := by positivity
    exact ⟨fun _ ↦ ⟨⟨0, by simp⟩, by simpa using hpos⟩, fun _ ↦ if_pos rfl⟩
  · unfold fix
    rw [if_neg hzero]
    constructor
    · intro hfix
      split at hfix
      · cases hfix
      · rename_i hbounded
        have hexact := Option.some.inj hfix
        rw [hexact, not_le] at hbounded
        exact ⟨(context.roundAt_eq_self_iff value).1 hexact, hbounded⟩
    · rintro ⟨hdigits, hbounded⟩
      rw [(context.roundAt_eq_self_iff value).2 hdigits, if_neg (not_le.2 hbounded)]

/-- A fixed value is the rounding, which does not overflow. -/
theorem fix_eq_some_iff {value result : ℚ} (hvalue : value ≠ 0) :
    context.fix value = some result ↔
      context.roundAt value = result ∧ |result| < (10 : ℚ) ^ (context.maxExponent + 1) := by
  unfold fix
  rw [if_neg hvalue]
  constructor
  · intro hfix
    split at hfix
    · cases hfix
    · rename_i hbounded
      obtain rfl := Option.some.inj hfix
      exact ⟨rfl, not_le.1 hbounded⟩
  · rintro ⟨rfl, hbounded⟩
    rw [if_neg (not_le.2 hbounded)]

theorem roundAt_nonneg {value : ℚ} (hvalue : 0 ≤ value) : 0 ≤ context.roundAt value := by
  have hround : (0 : ℚ) ≤ roundHalfEven (value / 10 ^ context.lastExponent value) := by
    exact_mod_cast roundHalfEven_nonneg (by positivity)
  exact mul_nonneg hround (by positivity)

/-- A rounding is a multiple of each power of ten up to its last digit. -/
theorem exists_roundAt_of_le {value : ℚ} {exponent : ℤ}
    (hcoarse : exponent ≤ context.lastExponent value) :
    ∃ whole : ℤ, context.roundAt value = whole * (10 : ℚ) ^ exponent := by
  obtain ⟨shift, hshift⟩ := Int.eq_ofNat_of_zero_le (sub_nonneg.2 hcoarse)
  refine ⟨roundHalfEven (value / 10 ^ context.lastExponent value) * 10 ^ shift, ?_⟩
  have hunit : (10 : ℚ) ^ context.lastExponent value = 10 ^ shift * 10 ^ exponent := by
    rw [← zpow_natCast, ← zpow_add₀ (by norm_num)]
    congr 1
    omega
  rw [roundAt]
  push_cast
  rw [mul_assoc, ← hunit]

/-- Rounding gives a multiple of a power of ten exactly when one lies within half a unit. -/
theorem exists_roundAt_eq_iff (value : ℚ) (exponent : ℤ) :
    (∃ whole : ℤ, context.roundAt value = whole * (10 : ℚ) ^ exponent) ↔
      ∃ whole : ℤ, |value - whole * (10 : ℚ) ^ exponent| ≤ context.halfUnit value := by
  have hten : (10 : ℚ) ≠ 0 := by norm_num
  set last := context.lastExponent value with hlast
  have hpos : (0 : ℚ) < 10 ^ last := by positivity
  constructor
  · rintro ⟨whole, hwhole⟩
    refine ⟨whole, ?_⟩
    rw [← hwhole, abs_sub_comm]
    exact context.abs_roundAt_sub_le value
  · rintro ⟨whole, hnear⟩
    by_cases hcoarse : exponent ≤ last
    · exact context.exists_roundAt_of_le hcoarse
    · -- The multiple is even in units of the last digit, so a tie goes to it.
      obtain ⟨shift, hshift⟩ := Int.eq_ofNat_of_zero_le (show 0 ≤ exponent - last - 1 by omega)
      have hunit : (10 : ℚ) ^ exponent = 10 * 10 ^ shift * 10 ^ last := by
        rw [← zpow_natCast, mul_comm (10 : ℚ), ← zpow_add_one₀ hten, ← zpow_add₀ hten]
        congr 1
        omega
      have hround : roundHalfEven (value / 10 ^ last) = whole * (10 * 10 ^ shift) := by
        refine roundHalfEven_of_even ?_ ?_
        · rw [show whole * (10 * 10 ^ shift) = 2 * (whole * (5 * 10 ^ shift)) by ring]
          exact Int.mul_emod_right 2 _
        · have hquotient : value / 10 ^ last - ((whole * (10 * 10 ^ shift) : ℤ) : ℚ) =
              (value - whole * 10 ^ exponent) / 10 ^ last := by
            rw [hunit]
            push_cast
            field_simp
          rw [hquotient, abs_div, abs_of_pos hpos, div_le_iff₀ hpos]
          calc |value - whole * 10 ^ exponent| ≤ 10 ^ last / 2 := hnear
            _ = 1 / 2 * 10 ^ last := by ring
      refine ⟨whole, ?_⟩
      rw [roundAt, ← hlast, hround, hunit]
      push_cast
      rw [mul_assoc]

/-- A value is far from every multiple of a power of ten exactly when its rounding is none. -/
theorem forall_halfUnit_lt_iff (value : ℚ) (exponent : ℤ) :
    (∀ whole : ℤ, context.halfUnit value < |value - whole * (10 : ℚ) ^ exponent|) ↔
      ∀ whole : ℤ, context.roundAt value ≠ whole * (10 : ℚ) ^ exponent := by
  have hmultiple := not_congr (context.exists_roundAt_eq_iff value exponent)
  simp only [not_exists, not_le] at hmultiple
  exact hmultiple.symm

/-- A value is below the power of ten after its leading digit. -/
theorem abs_lt_zpow_lastExponent (value : ℚ) :
    |value| < (10 : ℚ) ^ (context.lastExponent value + context.precision) := by
  have hupper : |value| < (10 : ℚ) ^ (Int.log 10 |value| + 1) := by
    exact_mod_cast Int.lt_zpow_succ_log_self (b := 10) (by norm_num) |value|
  refine hupper.trans_le (zpow_le_zpow_right₀ (by norm_num) ?_)
  rw [lastExponent]
  omega

/-- A rounded value has at most the digits of the context. -/
theorem exists_digits_roundAt (value : ℚ) (hprecision : 0 < context.precision) :
    ∃ coefficient exponent : ℤ, context.roundAt value = coefficient * (10 : ℚ) ^ exponent ∧
      |coefficient| < 10 ^ context.precision ∧ context.lastExponent value ≤ exponent := by
  have hten : (10 : ℚ) ≠ 0 := by norm_num
  set last := context.lastExponent value with hlast
  have hpos : (0 : ℚ) < 10 ^ last := by positivity
  set quotient := value / 10 ^ last with hquotient
  have hsize : |quotient| < 10 ^ context.precision := by
    rw [hquotient, abs_div, abs_of_pos hpos, div_lt_iff₀ hpos, ← zpow_natCast, ← zpow_add₀ hten,
      add_comm]
    exact context.abs_lt_zpow_lastExponent value
  have hround : |roundHalfEven quotient| ≤ 10 ^ context.precision := by
    obtain ⟨hlower, hupper⟩ := abs_lt.1 hsize
    obtain ⟨hbelow, habove⟩ := abs_le.1 (abs_roundHalfEven_sub_le quotient)
    have hlarge : (roundHalfEven quotient : ℚ) < ((10 ^ context.precision + 1 : ℤ) : ℚ) := by
      push_cast
      linarith
    have hsmall : ((-10 ^ context.precision - 1 : ℤ) : ℚ) < roundHalfEven quotient := by
      push_cast
      linarith
    have hlarge' := Int.cast_lt.1 hlarge
    have hsmall' := Int.cast_lt.1 hsmall
    exact abs_le.2 ⟨by omega, by omega⟩
  rcases hround.lt_or_eq with hdigits | hfull
  · exact ⟨roundHalfEven quotient, last, rfl, hdigits, le_refl last⟩
  · -- The rounding carried into one digit more, and is a power of ten.
    refine ⟨(roundHalfEven quotient).sign, last + context.precision, ?_, ?_, by omega⟩
    · have hsign := Int.sign_mul_abs (roundHalfEven quotient)
      rw [hfull] at hsign
      rw [roundAt, ← hlast, ← hquotient, zpow_add₀ hten, zpow_natCast]
      calc (roundHalfEven quotient : ℚ) * 10 ^ last
          = (((roundHalfEven quotient).sign * 10 ^ context.precision : ℤ) : ℚ) * 10 ^ last := by
            rw [hsign]
        _ = (roundHalfEven quotient).sign * (10 ^ last * 10 ^ context.precision) := by
            push_cast
            ring
    · have hone : (1 : ℤ) < 10 ^ context.precision := one_lt_pow₀ (by norm_num) hprecision.ne'
      refine lt_of_le_of_lt ?_ hone
      rcases Int.lt_trichotomy (roundHalfEven quotient) 0 with hneg | hzero | hpos
      · rw [Int.sign_eq_neg_one_of_neg hneg]
        norm_num
      · rw [hzero]
        norm_num
      · rw [Int.sign_eq_one_of_pos hpos]
        norm_num

/-! ### Small and large values -/

/-- A value whose last digit is far below the overflow can be fixed. -/
theorem fix_of_lastExponent {value : ℚ} (hvalue : value ≠ 0)
    (hlast : context.lastExponent value + context.precision < context.maxExponent) :
    context.fix value = some (context.roundAt value) := by
  refine (context.fix_eq_some_iff hvalue).2 ⟨rfl, ?_⟩
  have hten : (10 : ℚ) ≠ 0 := by norm_num
  have hround := abs_le.1 (context.abs_roundAt_sub_le value)
  have hvalue := abs_lt.1 (context.abs_lt_zpow_lastExponent value)
  have hunit : (10 : ℚ) ^ context.lastExponent value ≤
      10 ^ (context.lastExponent value + context.precision) :=
    zpow_le_zpow_right₀ (by norm_num) (by omega)
  have hroom : (10 : ℚ) ^ (context.lastExponent value + context.precision) * 10 ≤
      10 ^ (context.maxExponent + 1) := by
    rw [← zpow_add_one₀ hten]
    exact zpow_le_zpow_right₀ (by norm_num) (by omega)
  have hpos : (0 : ℚ) < 10 ^ (context.lastExponent value + context.precision) := by positivity
  rw [abs_lt]
  constructor <;> linarith

/-- A value that is above the overflow, or below it by at most half a unit of its last digit. -/
def Overflows (value : ℚ) : Prop :=
  (10 : ℚ) ^ (context.maxExponent + 1) -
    10 ^ (context.maxExponent + 1 - context.precision) / 2 ≤ |value|

theorem fix_eq_none_iff (hprecision : 2 ≤ context.precision)
    (hexponents : context.minExponent ≤ context.maxExponent) {value : ℚ} (hvalue : value ≠ 0) :
    context.fix value = none ↔ context.Overflows value := by
  have hten : (10 : ℚ) ≠ 0 := by norm_num
  have hpositive : 0 < |value| := abs_pos.2 hvalue
  have hfix : context.fix value = none ↔
      (10 : ℚ) ^ (context.maxExponent + 1) ≤ |context.roundAt value| := by
    unfold fix
    rw [if_neg hvalue]
    split <;> simp_all
  rw [hfix, Overflows]
  have hlower : (10 : ℚ) ^ Int.log 10 |value| ≤ |value| := by
    exact_mod_cast Int.zpow_log_le_self (b := 10) (by norm_num) hpositive
  have hupper : |value| < (10 : ℚ) ^ (Int.log 10 |value| + 1) := by
    exact_mod_cast Int.lt_zpow_succ_log_self (b := 10) (by norm_num) |value|
  have hroom : (10 : ℚ) ^ context.maxExponent * 10 = 10 ^ (context.maxExponent + 1) :=
    (zpow_add_one₀ hten _).symm
  have hunit : (10 : ℚ) ^ (context.maxExponent + 1 - context.precision) ≤
      10 ^ context.maxExponent := zpow_le_zpow_right₀ (by norm_num) (by omega)
  have hpos : (0 : ℚ) < 10 ^ context.maxExponent := by positivity
  by_cases hsmall : Int.log 10 |value| < context.maxExponent
  · -- Far below the overflow, rounding does not reach it.
    have hlast : context.lastExponent value ≤ context.maxExponent := by
      rw [lastExponent]
      omega
    have hvalue : |value| ≤ 10 ^ context.maxExponent :=
      hupper.le.trans (zpow_le_zpow_right₀ (by norm_num) (by omega))
    have hstep : (10 : ℚ) ^ context.lastExponent value ≤ 10 ^ context.maxExponent :=
      zpow_le_zpow_right₀ (by norm_num) hlast
    have herror := context.abs_roundAt_sub_le value
    have hround : |context.roundAt value| ≤ |value| + |context.roundAt value - value| := by
      have := abs_add_le value (context.roundAt value - value)
      rwa [add_sub_cancel] at this
    constructor <;> intro hreached <;> linarith
  · have hlarge := not_lt.1 hsmall
    have hlast : context.lastExponent value = Int.log 10 |value| - (context.precision - 1) := by
      rw [lastExponent]
      omega
    set last := context.lastExponent value with hlast_eq
    have hstep : (0 : ℚ) < 10 ^ last := by positivity
    have hquotient : |value / 10 ^ last| = |value| / 10 ^ last := by
      rw [abs_div, abs_of_pos hstep]
    have hrounded (count : ℕ) (hcount : 0 < count) :
        (10 : ℚ) ^ (last + count) ≤ |context.roundAt value| ↔
          (10 : ℚ) ^ (last + count) - 10 ^ last / 2 ≤ |value| := by
      obtain ⟨shift, rfl⟩ := Nat.exists_eq_add_of_lt hcount
      have heven : ((10 : ℤ) ^ (0 + shift + 1)) % 2 = 0 := by
        rw [pow_succ, show (10 : ℤ) ^ (0 + shift) * 10 = 2 * (10 ^ (0 + shift) * 5) by ring]
        exact Int.mul_emod_right 2 _
      have hreach := @le_abs_roundHalfEven_iff (value / 10 ^ last) _ heven
      rw [roundAt, ← hlast_eq, abs_mul, abs_of_pos hstep, zpow_add₀ hten, mul_comm, zpow_natCast,
        mul_le_mul_iff_left₀ hstep]
      rw [hquotient, le_div_iff₀ hstep] at hreach
      have hcast : ((10 : ℚ) ^ (0 + shift + 1) ≤ |(roundHalfEven (value / 10 ^ last) : ℚ)|) ↔
          (10 : ℤ) ^ (0 + shift + 1) ≤ |roundHalfEven (value / 10 ^ last)| := by
        exact_mod_cast Iff.rfl
      rw [hcast, hreach]
      push_cast
      constructor <;> intro hle <;> linarith
    by_cases hequal : Int.log 10 |value| = context.maxExponent
    · have hcount := hrounded context.precision (by omega)
      rw [show last + (context.precision : ℤ) = context.maxExponent + 1 by omega] at hcount
      rw [hcount, show last = context.maxExponent + 1 - context.precision by omega]
    · have hreached : (10 : ℚ) ^ (context.maxExponent + 1) ≤ 10 ^ Int.log 10 |value| :=
        zpow_le_zpow_right₀ (by norm_num) (by omega)
      have hcount := hrounded (context.precision - 1) (by omega)
      rw [show last + ((context.precision - 1 : ℕ) : ℤ) = Int.log 10 |value| by omega] at hcount
      refine iff_of_true (hreached.trans (hcount.2 ?_)) ?_
      · linarith
      · have hhalf : (0 : ℚ) < 10 ^ (context.maxExponent + 1 - context.precision) := by positivity
        linarith

/-- The exponent of the last digit of a subnormal value, the smallest there is. -/
def tinyExponent : ℤ :=
  context.minExponent - (context.precision - 1)

theorem tinyExponent_le_lastExponent (value : ℚ) :
    context.tinyExponent ≤ context.lastExponent value :=
  le_max_right _ _

/-- A value above the subnormal ones is well above half a unit of its last digit. -/
theorem zpow_le_of_tinyExponent_lt {value : ℚ} (hvalue : 0 < value)
    (hnormal : context.tinyExponent < context.lastExponent value) :
    (10 : ℚ) ^ (context.lastExponent value + (context.precision - 1)) ≤ value := by
  have hlast : context.lastExponent value + (context.precision - 1) = Int.log 10 value := by
    rw [tinyExponent, lastExponent, abs_of_pos hvalue] at hnormal
    rw [lastExponent, abs_of_pos hvalue]
    omega
  rw [hlast]
  exact_mod_cast Int.zpow_log_le_self (b := 10) (by norm_num) hvalue

theorem roundAt_eq_zero_iff_halfUnit {value : ℚ} (hvalue : 0 < value) :
    context.roundAt value = 0 ↔ value ≤ context.halfUnit value := by
  have hpos : (0 : ℚ) < 10 ^ context.lastExponent value := by positivity
  constructor
  · intro hzero
    have herror := context.abs_roundAt_sub_le value
    rwa [hzero, zero_sub, abs_neg, abs_of_pos hvalue] at herror
  · intro hsmall
    have hround : roundHalfEven (value / 10 ^ context.lastExponent value) = 0 := by
      refine roundHalfEven_of_even (Int.zero_emod 2) ?_
      rw [Int.cast_zero, sub_zero, abs_of_pos (by positivity), div_le_iff₀ hpos]
      rw [halfUnit] at hsmall
      linarith
    rw [roundAt, hround, Int.cast_zero, zero_mul]

/-- A positive value is rounded to zero when it is at most half of the smallest unit. -/
theorem roundAt_eq_zero_iff (hprecision : 0 < context.precision) {value : ℚ} (hvalue : 0 < value) :
    context.roundAt value = 0 ↔ value ≤ (10 : ℚ) ^ context.tinyExponent / 2 := by
  rw [context.roundAt_eq_zero_iff_halfUnit hvalue, halfUnit]
  rcases (context.tinyExponent_le_lastExponent value).eq_or_lt with hlast | hlast
  · rw [hlast]
  · have hlower := context.zpow_le_of_tinyExponent_lt hvalue hlast
    have hunit : (10 : ℚ) ^ context.lastExponent value ≤
        10 ^ (context.lastExponent value + (context.precision - 1)) :=
      zpow_le_zpow_right₀ (by norm_num) (by omega)
    have htiny : (10 : ℚ) ^ context.tinyExponent ≤ 10 ^ context.lastExponent value :=
      zpow_le_zpow_right₀ (by norm_num) hlast.le
    constructor <;> intro hsmall <;> linarith

end DecimalContext

end HilRig.Foundations
