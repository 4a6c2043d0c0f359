import HilRig.Foundations.DecimalRounding
import HilRig.Foundations.Fallible
import HilRig.Timing

/-!
# When a time is converted exactly

A time of milliseconds or seconds is multiplied by the execution frequency, and for milliseconds
divided by a thousand, in decimals of twenty-eight digits. `finalTicks` is what that leaves of the
exact product. It is the exact number of ticks, or else not whole, exactly when the product is
`Resolvable`: a whole number of ticks that a decimal can hold, or further from every whole number of
ticks than rounding moves it (`finalTicks_of_whole`, `finalTicks_of_not_whole`).
-/

set_option autoImplicit false
set_option relaxedAutoImplicit false

namespace HilRig

open HilRig.Models HilRig.Foundations

/-! ### Exact times -/

/-- A unit of time of the public calls. -/
inductive TimeUnit
  | milliseconds
  | seconds
  deriving DecidableEq, Repr

namespace TimeUnit

/-- How many of a unit are a second. -/
def perSecond : TimeUnit → ℕ
  | .milliseconds => 1000
  | .seconds => 1

/-- One quantity of a unit as the options of a call. -/
def options (quantity : Quantity) : TimeUnit → TimeOptions
  | .milliseconds => { atMs := some (.value quantity) }
  | .seconds => { atS := some (.value quantity) }

/-- Two quantities of a unit as the range options of a call. -/
def range (start finish : Quantity) : TimeUnit → RangeOptions
  | .milliseconds =>
    { milliseconds := some (.value (some (.value start), some (.value finish))) }
  | .seconds => { seconds := some (.value (some (.value start), some (.value finish))) }

/-- Below this product, the number of ticks is rounded to zero after the first rounding. -/
def least : TimeUnit → ℚ
  | .milliseconds => 1001 / 2 * 10 ^ defaultDecimalContext.tinyExponent
  | .seconds => 0

/-- A product of a quantity and a frequency is a whole number of ticks that a decimal holds, or it
is further from every whole number of ticks than half a unit of its last digit. -/
def Resolvable (unit : TimeUnit) (product : ℚ) : Prop :=
  (∃ tick : ℕ, product = tick * unit.perSecond) ∧ defaultDecimalContext.Representable product ∨
    (∀ whole : ℤ, defaultDecimalContext.halfUnit product <
      |product - whole * unit.perSecond|) ∧ unit.least < product

end TimeUnit

/-- A quantity of time that is converted as it should be. -/
structure ConvertibleTime (frequencyMode : FrequencyMode) (unit : TimeUnit)
    (quantity : Quantity) : Prop where
  printable : quantity.Printable
  resolvable : ∀ value, quantity.exactValue = some value → 0 ≤ value →
    unit.Resolvable (value * frequencyMode.hertz)

/-- A number of ticks that a quantity of time is exactly. -/
def IsTick (frequencyMode : FrequencyMode) (unit : TimeUnit) (quantity : Quantity) (tick : ℕ) :
    Prop :=
  ∃ value, quantity.exactValue = some value ∧ 0 ≤ value ∧
    value * frequencyMode.hertz = tick * unit.perSecond

/-- A quantity of time is converted into the tick it is exactly, or it is rejected with a
`TimingError`. -/
structure ExactOrRejected (frequencyMode : FrequencyMode) (unit : TimeUnit) (quantity : Quantity)
    (result : Except HilRigError (Builtin ℕ)) : Prop where
  exact : ∀ tick : ℕ, result = .ok (.plain tick) ↔ IsTick frequencyMode unit quantity tick
  rejected : (∀ tick : ℕ, result ≠ .ok (.plain tick)) →
    ∃ message, result = .error (.timing message)

/-! ### The arithmetic -/

/-- The decimal number of ticks computed from an exact product. -/
def finalTicks (unit : TimeUnit) (product : ℚ) : Option ℚ :=
  match unit with
  | .milliseconds => defaultDecimalContext.fix product >>= fun scaled ↦
      defaultDecimalContext.divide scaled 1000
  | .seconds => defaultDecimalContext.fix product

section Arithmetic

variable {unit : TimeUnit} {product ticks : ℚ}

theorem fix_nonneg (hproduct : 0 ≤ product)
    (hticks : defaultDecimalContext.fix product = some ticks) : 0 ≤ ticks := by
  unfold DecimalContext.fix at hticks
  split at hticks
  · exact (Option.some.inj hticks).le
  · split at hticks
    · cases hticks
    · rw [← Option.some.inj hticks]
      exact defaultDecimalContext.roundAt_nonneg hproduct

theorem finalTicks_nonneg (hproduct : 0 ≤ product) (hticks : finalTicks unit product = some ticks) :
    0 ≤ ticks := by
  cases unit with
  | milliseconds =>
    obtain ⟨scaled, hscaled, hticks⟩ := Option.bind_eq_some_iff.1 hticks
    exact fix_nonneg (div_nonneg (fix_nonneg hproduct hscaled) (by norm_num)) hticks
  | seconds => exact fix_nonneg hproduct hticks

/-- A rounded product of normal size keeps its digits when it is divided by a thousand. -/
theorem divide_of_fix {scaled : ℚ} (hproduct : 1 ≤ product)
    (hscaled : defaultDecimalContext.fix product = some scaled) :
    defaultDecimalContext.divide scaled 1000 = some (scaled / 1000) := by
  have hten : (10 : ℚ) ≠ 0 := by norm_num
  have hpos : 0 < product := by linarith
  obtain ⟨hround, hbounded⟩ := (defaultDecimalContext.fix_eq_some_iff hpos.ne').1 hscaled
  obtain ⟨coefficient, exponent, hvalue, hdigits, hlast⟩ :=
    defaultDecimalContext.exists_digits_roundAt product (by decide)
  have hlog : 0 ≤ Int.log 10 |product| := by
    rw [abs_of_pos hpos]
    refine (Int.zpow_le_iff_le_log (by norm_num) hpos).1 ?_
    simpa using hproduct
  have hexponent : -27 ≤ exponent := by
    refine le_trans ?_ hlast
    rw [DecimalContext.lastExponent]
    refine le_trans ?_ (le_max_left _ _)
    show (-27 : ℤ) ≤ Int.log 10 |product| - (28 - 1)
    omega
  have hquotient : scaled / 1000 = coefficient * 10 ^ (exponent - 3) := by
    rw [← hround, hvalue, zpow_sub₀ hten, mul_div_assoc]
    norm_num
  rw [DecimalContext.divide, hquotient]
  refine defaultDecimalContext.fix_of_digits hdigits ?_ ?_
  · show (-999999 - (28 - 1) : ℤ) ≤ exponent - 3
    omega
  · rw [← hquotient, abs_div]
    refine lt_of_le_of_lt ?_ hbounded
    rw [abs_of_pos (show (0 : ℚ) < 1000 by norm_num)]
    exact div_le_self (abs_nonneg scaled) (by norm_num)

/-- A whole number of ticks is computed exactly when a decimal holds the product. -/
theorem finalTicks_of_whole {tick : ℕ} (hproduct : product = tick * unit.perSecond) :
    finalTicks unit product = some (tick : ℚ) ↔ defaultDecimalContext.Representable product := by
  rw [← defaultDecimalContext.fix_eq_some_self_iff]
  cases unit with
  | seconds =>
    obtain rfl : product = tick := by simpa [TimeUnit.perSecond] using hproduct
    rfl
  | milliseconds =>
    have hproduct : product = tick * 1000 := by simpa [TimeUnit.perSecond] using hproduct
    by_cases hzero : tick = 0
    · subst hzero
      have hfix : defaultDecimalContext.fix 0 = some 0 := if_pos rfl
      have hproduct : product = 0 := by simpa using hproduct
      simp [finalTicks, hproduct, DecimalContext.divide, hfix]
    · have hone : (1 : ℚ) ≤ tick := by exact_mod_cast Nat.one_le_iff_ne_zero.2 hzero
      have hlarge : 1 ≤ product := by linarith
      constructor
      · intro hticks
        obtain ⟨scaled, hscaled, hdivided⟩ := Option.bind_eq_some_iff.1 hticks
        rw [divide_of_fix hlarge hscaled, Option.some.injEq, div_eq_iff (by norm_num),
          ← hproduct] at hdivided
        rw [hscaled, hdivided]
      · intro hfix
        show (defaultDecimalContext.fix product >>= _) = _
        rw [hfix, Option.bind_eq_bind, Option.bind_some, divide_of_fix hlarge hfix, hproduct,
          mul_div_cancel_right₀ _ (by norm_num)]

/-- A non-negative value is a natural number when it is an integer. -/
theorem exists_natCast_iff (hticks : 0 ≤ ticks) :
    (∃ tick : ℕ, ticks = tick) ↔ ∃ whole : ℤ, ticks = whole := by
  constructor
  · rintro ⟨tick, rfl⟩
    exact ⟨tick, (Int.cast_natCast tick).symm⟩
  · rintro ⟨whole, rfl⟩
    obtain ⟨tick, rfl⟩ := Int.eq_ofNat_of_zero_le (Int.cast_nonneg_iff.1 hticks)
    exact ⟨tick, Int.cast_natCast tick⟩

/-- A product is far from every multiple of a small power of ten exactly when it is fixed to a value
that is no such multiple. -/
theorem separated_iff {exponent : ℤ} (hexponent : exponent ≤ 3) (hzero : product ≠ 0) :
    (∀ whole : ℤ, defaultDecimalContext.halfUnit product < |product - whole * 10 ^ exponent|) ↔
      ∃ scaled, defaultDecimalContext.fix product = some scaled ∧
        ∀ whole : ℤ, scaled ≠ whole * 10 ^ exponent := by
  rw [defaultDecimalContext.forall_halfUnit_lt_iff]
  constructor
  · intro hnone
    have hfine : defaultDecimalContext.lastExponent product < exponent := by
      by_contra hcoarse
      obtain ⟨whole, hwhole⟩ := defaultDecimalContext.exists_roundAt_of_le (not_lt.1 hcoarse)
      exact hnone whole hwhole
    refine ⟨_, defaultDecimalContext.fix_of_lastExponent hzero ?_, hnone⟩
    show _ + ((28 : ℕ) : ℤ) < 999999
    omega
  · rintro ⟨scaled, hscaled, hnone⟩
    obtain ⟨rfl, -⟩ := (defaultDecimalContext.fix_eq_some_iff hzero).1 hscaled
    exact hnone

/-- The last digit of a value below one is far behind the point. -/
theorem lastExponent_of_lt_one (hproduct : 0 < product) (hsmall : product < 1) :
    defaultDecimalContext.lastExponent product ≤ -28 := by
  have hlog : Int.log 10 product < 0 := by
    refine (Int.lt_zpow_iff_log_lt (by norm_num) hproduct).1 ?_
    simpa using hsmall
  rw [DecimalContext.lastExponent, abs_of_pos hproduct]
  refine max_le ?_ ?_
  · show Int.log 10 product - (28 - 1) ≤ (-28 : ℤ)
    omega
  · show (-999999 - (28 - 1) : ℤ) ≤ -28
    norm_num

theorem halfUnit_of_lt_one (hproduct : 0 < product) (hsmall : product < 1) :
    defaultDecimalContext.halfUnit product < 1 / 4 := by
  have hunit : (10 : ℚ) ^ defaultDecimalContext.lastExponent product ≤ 10 ^ (-28 : ℤ) :=
    zpow_le_zpow_right₀ (by norm_num) (lastExponent_of_lt_one hproduct hsmall)
  calc defaultDecimalContext.halfUnit product ≤ 10 ^ (-28 : ℤ) / 2 :=
        div_le_div_of_nonneg_right hunit (by norm_num)
    _ < 1 / 4 := by norm_num

/-- A value below one is rounded by less than a quarter. -/
theorem roundAt_of_lt_one (hproduct : 0 < product) (hsmall : product < 1) :
    defaultDecimalContext.fix product = some (defaultDecimalContext.roundAt product) ∧
      |defaultDecimalContext.roundAt product - product| < 1 / 4 := by
  have hlast := lastExponent_of_lt_one hproduct hsmall
  refine ⟨defaultDecimalContext.fix_of_lastExponent hproduct.ne' ?_,
    (defaultDecimalContext.abs_roundAt_sub_le product).trans_lt
      (halfUnit_of_lt_one hproduct hsmall)⟩
  show _ + ((28 : ℕ) : ℤ) < 999999
  omega

/-- A rounded value is at most five hundred of the smallest unit when the value is at most half a
unit more. -/
theorem roundAt_le_iff (hproduct : 0 < product) :
    defaultDecimalContext.roundAt product ≤ 500 * 10 ^ defaultDecimalContext.tinyExponent ↔
      product ≤ 1001 / 2 * 10 ^ defaultDecimalContext.tinyExponent := by
  set tiny := defaultDecimalContext.tinyExponent with htiny
  have hunit : (0 : ℚ) < 10 ^ tiny := by positivity
  have herror := abs_le.1 (defaultDecimalContext.abs_roundAt_sub_le product)
  rcases (defaultDecimalContext.tinyExponent_le_lastExponent product).eq_or_lt with hlast | hlast
  · rw [← hlast, ← htiny] at herror
    constructor
    · intro hround
      linarith
    · intro hle
      rw [DecimalContext.roundAt, ← hlast, ← htiny]
      refine mul_le_mul_of_nonneg_right ?_ hunit.le
      have hquotient : product / 10 ^ tiny ≤ 1001 / 2 := (div_le_iff₀ hunit).2 hle
      by_cases hnear : 999 / 2 ≤ product / 10 ^ tiny
      · have hround : roundHalfEven (product / 10 ^ tiny) = 500 := by
          refine roundHalfEven_of_even (by norm_num) (abs_le.2 ?_)
          push_cast
          constructor <;> linarith
        rw [hround]
        norm_num
      · have habove := (abs_le.1 (abs_roundHalfEven_sub_le (product / 10 ^ tiny))).2
        linarith
  · -- A normal value is far above five hundred units, and so is its rounding.
    have hlower := defaultDecimalContext.zpow_le_of_tinyExponent_lt hproduct hlast
    have hcoarse : (10 : ℚ) ^ defaultDecimalContext.lastExponent product * 10 ^ (27 : ℤ) ≤
        product := by
      rw [← zpow_add₀ (by norm_num)]
      exact hlower
    have hstep : (10 : ℚ) ^ tiny ≤ 10 ^ defaultDecimalContext.lastExponent product :=
      zpow_le_zpow_right₀ (by norm_num) hlast.le
    have hlarge : (1002 : ℚ) < 10 ^ (27 : ℤ) := by norm_num
    constructor <;> intro hle <;> nlinarith

/-- A product of milliseconds below one tick is seen to be no whole tick unless it is tiny. -/
theorem finalTicks_of_lt_one (hproduct : 0 < product) (hsmall : product < 1) :
    (∃ ticks, finalTicks .milliseconds product = some ticks ∧ ∀ tick : ℕ, ticks ≠ tick) ↔
      TimeUnit.milliseconds.least < product := by
  obtain ⟨hfix, hnear⟩ := roundAt_of_lt_one hproduct hsmall
  have hnear := abs_lt.1 hnear
  have hscaled := defaultDecimalContext.roundAt_nonneg hproduct.le
  have hfinal : finalTicks .milliseconds product =
      defaultDecimalContext.fix (defaultDecimalContext.roundAt product / 1000) := by
    rw [finalTicks, hfix]
    rfl
  have hunit : (0 : ℚ) < 10 ^ defaultDecimalContext.tinyExponent := by positivity
  rw [hfinal, TimeUnit.least, ← not_le, ← roundAt_le_iff hproduct]
  rcases hscaled.eq_or_lt with hzero | hpositive
  · rw [← hzero, zero_div, show defaultDecimalContext.fix 0 = some 0 from if_pos rfl]
    constructor
    · rintro ⟨ticks, hticks, hnone⟩
      exact absurd (Option.some.inj hticks).symm (by simpa using hnone 0)
    · intro habove
      exact absurd (by positivity) habove
  · set scaled := defaultDecimalContext.roundAt product with hscaled_eq
    have hquotient : 0 < scaled / 1000 := by positivity
    obtain ⟨hagain, hclose⟩ := roundAt_of_lt_one hquotient (by linarith)
    have hclose := abs_lt.1 hclose
    have hzero := defaultDecimalContext.roundAt_eq_zero_iff (by decide) hquotient
    have hscale : scaled / 1000 ≤ 10 ^ defaultDecimalContext.tinyExponent / 2 ↔
        scaled ≤ 500 * 10 ^ defaultDecimalContext.tinyExponent := by
      rw [div_le_iff₀ (by norm_num)]
      constructor <;> intro hle <;> linarith
    rw [hagain, ← hscale, ← hzero]
    constructor
    · rintro ⟨ticks, hticks, hnone⟩ hrounded
      rw [← Option.some.inj hticks, hrounded] at hnone
      exact hnone 0 Nat.cast_zero.symm
    · intro hrounded
      refine ⟨_, rfl, fun tick htick ↦ ?_⟩
      have hone : tick < 1 := by
        have : (tick : ℚ) < 1 := by
          rw [← htick]
          linarith
        exact_mod_cast this
      obtain rfl : tick = 0 := by omega
      exact hrounded (htick.trans Nat.cast_zero)

/-- A product that is no whole number of ticks is seen to be none exactly when it is far from each,
and not tiny. -/
theorem finalTicks_of_not_whole (hproduct : 0 ≤ product)
    (hnone : ∀ tick : ℕ, product ≠ tick * unit.perSecond) :
    (∃ ticks, finalTicks unit product = some ticks ∧ ∀ tick : ℕ, ticks ≠ tick) ↔
      (∀ whole : ℤ, defaultDecimalContext.halfUnit product <
        |product - whole * unit.perSecond|) ∧ unit.least < product := by
  have hzero : product ≠ 0 := by
    intro hzero
    exact hnone 0 (by rw [hzero, Nat.cast_zero, zero_mul])
  have hpositive : 0 < product := lt_of_le_of_ne hproduct hzero.symm
  cases unit with
  | seconds =>
    have hfar := @separated_iff product 0 (by norm_num) hzero
    simp only [zpow_zero, mul_one] at hfar
    simp only [finalTicks, TimeUnit.perSecond, TimeUnit.least, Nat.cast_one, mul_one, hfar,
      hpositive, and_true]
    refine exists_congr fun ticks ↦ and_congr_right fun hticks ↦ ?_
    rw [← not_exists, ← not_exists, exists_natCast_iff (fix_nonneg hproduct hticks)]
  | milliseconds =>
    have hfar := @separated_iff product 3 (le_refl 3) hzero
    have hthousand : ((10 : ℚ) ^ (3 : ℤ)) = 1000 := by norm_num
    rw [hthousand] at hfar
    rw [show ((TimeUnit.milliseconds.perSecond : ℕ) : ℚ) = 1000 by norm_num [TimeUnit.perSecond]]
    by_cases hsmall : product < 1
    · rw [finalTicks_of_lt_one hpositive hsmall]
      refine ⟨fun hleast ↦ ⟨fun whole ↦ ?_, hleast⟩, fun hfar ↦ hfar.2⟩
      by_cases hwhole : whole = 0
      · have hunit : (0 : ℚ) < 10 ^ defaultDecimalContext.tinyExponent := by positivity
        have hround : defaultDecimalContext.roundAt product ≠ 0 := by
          rw [ne_eq, defaultDecimalContext.roundAt_eq_zero_iff (by decide) hpositive, not_le]
          rw [TimeUnit.least] at hleast
          linarith
        rw [ne_eq, defaultDecimalContext.roundAt_eq_zero_iff_halfUnit hpositive, not_le] at hround
        rw [hwhole, Int.cast_zero, zero_mul, sub_zero, abs_of_pos hpositive]
        exact hround
      · have hdistance : (999 : ℚ) ≤ |product - whole * 1000| := by
          rcases lt_or_gt_of_ne hwhole with hsign | hsign
          · have hle : (whole : ℚ) ≤ -1 := by exact_mod_cast Int.le_sub_one_of_lt hsign
            rw [abs_of_pos] <;> linarith
          · have hge : (1 : ℚ) ≤ whole := by exact_mod_cast hsign
            rw [abs_of_neg] <;> linarith
        have hunit := halfUnit_of_lt_one hpositive hsmall
        linarith
    · have hlarge := not_lt.1 hsmall
      have hleast : TimeUnit.milliseconds.least < product := by
        calc TimeUnit.milliseconds.least ≤ 1001 / 2 * 10 ^ (-28 : ℤ) :=
              mul_le_mul_of_nonneg_left (zpow_le_zpow_right₀ (by norm_num) (by decide))
                (by norm_num)
          _ < 1 := by norm_num
          _ ≤ product := hlarge
      rw [hfar, and_iff_left hleast]
      constructor
      · rintro ⟨ticks, hticks, hnone⟩
        obtain ⟨scaled, hscaled, hdivided⟩ := Option.bind_eq_some_iff.1 hticks
        rw [divide_of_fix hlarge hscaled, Option.some.injEq] at hdivided
        refine ⟨scaled, hscaled, fun whole hwhole ↦ ?_⟩
        have hwhole' : ticks = whole := by
          rw [← hdivided, hwhole, mul_div_cancel_right₀ _ (by norm_num)]
        obtain ⟨tick, htick⟩ := (exists_natCast_iff (finalTicks_nonneg hproduct hticks)).2
          ⟨whole, hwhole'⟩
        exact hnone tick htick
      · rintro ⟨scaled, hscaled, hnone⟩
        refine ⟨scaled / 1000, ?_, fun tick htick ↦ ?_⟩
        · rw [finalTicks, hscaled, Option.bind_eq_bind, Option.bind_some,
            divide_of_fix hlarge hscaled]
        · rw [div_eq_iff (by norm_num)] at htick
          exact hnone tick (by rw [htick, Int.cast_natCast])

end Arithmetic

/-! ### Timestamps -/

section Timestamps

variable {frequencyMode : FrequencyMode} {unit : TimeUnit} {quantity : Quantity} {value : ℚ}

/-- The name of a unit's option. -/
def TimeUnit.name : TimeUnit → String
  | .milliseconds => "at_ms"
  | .seconds => "at_s"

/-- A time given in a unit is its decimal, multiplied and divided. -/
theorem resolveTimestamp_options :
    resolveTimestamp frequencyMode (unit.options quantity) =
      decimalTime (some (.value quantity)) unit.name >>= fun converted ↦
        Builtin.plain <$> (trapped (finalTicks unit (converted * frequencyMode.hertz)) >>=
          fun ticks ↦ exactTick ticks unit.name frequencyMode) := by
  cases unit with
  | seconds =>
    show (decimalTime (some (.value quantity)) "at_s" >>= _) = _
    refine congrArg (decimalTime (some (.value quantity)) "at_s" >>= ·) (funext fun converted ↦ ?_)
    simp only [finalTicks, DecimalContext.multiply]
    cases defaultDecimalContext.fix (converted * frequencyMode.hertz) with
    | none => rfl
    | some ticks => rfl
  | milliseconds =>
    show (decimalTime (some (.value quantity)) "at_ms" >>= _) = _
    refine congrArg (decimalTime (some (.value quantity)) "at_ms" >>= ·) (funext fun converted ↦ ?_)
    simp only [finalTicks, DecimalContext.multiply]
    cases defaultDecimalContext.fix (converted * frequencyMode.hertz) with
    | none => rfl
    | some scaled =>
      show (trapped (defaultDecimalContext.divide scaled 1000) >>= _) =
        Builtin.plain <$> (trapped (defaultDecimalContext.divide scaled 1000) >>= _)
      cases defaultDecimalContext.divide scaled 1000 with
      | none => rfl
      | some ticks => rfl

/-- A whole number of ticks is the tick. -/
theorem exactTick_natCast (tick : ℕ) (name : String) :
    exactTick (tick : ℚ) name frequencyMode = .ok tick := by
  have hround : roundHalfEven (tick : ℚ) = tick := by
    exact_mod_cast roundHalfEven_intCast (tick : ℤ)
  rw [exactTick, hround, if_neg (not_not.2 (Int.cast_natCast tick).symm), Int.toNat_natCast]

/-- A number of ticks that is not whole is rejected. -/
theorem exactTick_of_not_whole {ticks : ℚ} (hticks : 0 ≤ ticks) (hnone : ∀ tick : ℕ, ticks ≠ tick)
    (name : String) :
    ∃ message, exactTick ticks name frequencyMode = .error (.timing message) := by
  refine ⟨_, if_pos fun hwhole ↦ ?_⟩
  obtain ⟨tick, htick⟩ := (exists_natCast_iff hticks).2 ⟨_, hwhole⟩
  exact hnone tick htick

/-- The decimal number of ticks as a tick. -/
def convertTicks (frequencyMode : FrequencyMode) (unit : TimeUnit) (product : ℚ) :
    Except HilRigError ℕ :=
  trapped (finalTicks unit product) >>= fun ticks ↦ exactTick ticks unit.name frequencyMode

/-- A tick is returned exactly when it is what the arithmetic leaves. -/
theorem convertTicks_eq_ok {product : ℚ} (hproduct : 0 ≤ product) (tick : ℕ) :
    convertTicks frequencyMode unit product = .ok tick ↔
      finalTicks unit product = some (tick : ℚ) := by
  constructor
  · intro htick
    obtain ⟨ticks, hticks, hconverted⟩ := bind_eq_ok.1 htick
    rw [trapped_eq_ok] at hticks
    obtain ⟨hround, hconverted⟩ := ite_error_eq_ok.1 hconverted
    have hnat : ((roundHalfEven ticks).toNat : ℤ) = roundHalfEven ticks :=
      Int.toNat_of_nonneg (roundHalfEven_nonneg (finalTicks_nonneg hproduct hticks))
    rw [hticks, ← Except.ok.inj hconverted, ← Int.cast_natCast, hnat, ← not_not.1 hround]
  · intro hticks
    rw [convertTicks, hticks]
    exact exactTick_natCast tick unit.name

/-- A `TimingError` is raised exactly when the arithmetic leaves no whole number. -/
theorem convertTicks_eq_timing {product : ℚ} (hproduct : 0 ≤ product) :
    (∃ message, convertTicks frequencyMode unit product = .error (.timing message)) ↔
      ∃ ticks, finalTicks unit product = some ticks ∧ ∀ tick : ℕ, ticks ≠ tick := by
  constructor
  · rintro ⟨message, hmessage⟩
    cases hticks : finalTicks unit product with
    | none =>
      rw [convertTicks, hticks] at hmessage
      cases hmessage
    | some ticks =>
      refine ⟨ticks, rfl, fun tick htick ↦ ?_⟩
      rw [htick] at hticks
      rw [(convertTicks_eq_ok hproduct tick).2 hticks] at hmessage
      cases hmessage
  · rintro ⟨ticks, hticks, hnone⟩
    rw [convertTicks, hticks]
    exact exactTick_of_not_whole (finalTicks_nonneg hproduct hticks) hnone unit.name

/-- A number of ticks that is converted exactly or rejected. -/
theorem exactOrRejected_plain {result : Except HilRigError ℕ} :
    ExactOrRejected frequencyMode unit quantity (Builtin.plain <$> result) ↔
      (∀ tick, result = .ok tick ↔ IsTick frequencyMode unit quantity tick) ∧
        ((∀ tick, result ≠ .ok tick) → ∃ message, result = .error (.timing message)) := by
  cases result with
  | ok tick =>
    have hplain : (Builtin.plain <$> (.ok tick : Except HilRigError ℕ)) = .ok (.plain tick) := rfl
    rw [hplain]
    constructor
    · rintro ⟨hok, hrejected⟩
      refine ⟨fun other ↦ by simpa using hok other, fun hnone ↦ absurd rfl (hnone tick)⟩
    · rintro ⟨hok, -⟩
      exact ⟨fun other ↦ by simpa using hok other, fun hnone ↦ absurd rfl (hnone tick)⟩
  | error error =>
    have hplain : (Builtin.plain <$> (.error error : Except HilRigError ℕ)) = .error error := rfl
    rw [hplain]
    constructor
    · rintro ⟨hok, hrejected⟩
      exact ⟨fun other ↦ by simpa using hok other, by simpa using hrejected⟩
    · rintro ⟨hok, hrejected⟩
      exact ⟨fun other ↦ by simpa using hok other, by simpa using hrejected⟩

/-- A quantity that is no time is to be rejected. -/
theorem exactOrRejected_iff_of_negative {result : Except HilRigError (Builtin ℕ)}
    (hvalue : ∀ value, quantity.exactValue = some value → value < 0) :
    ExactOrRejected frequencyMode unit quantity result ↔
      ∃ message, result = .error (.timing message) := by
  have hnone (tick : ℕ) : ¬IsTick frequencyMode unit quantity tick := by
    rintro ⟨value, hexact, hnonneg, -⟩
    exact absurd hnonneg (not_le.2 (hvalue value hexact))
  constructor
  · rintro ⟨hok, hrejected⟩
    exact hrejected fun tick htick ↦ hnone tick ((hok tick).1 htick)
  · rintro ⟨message, rfl⟩
    refine ⟨fun tick ↦ ?_, fun _ ↦ ⟨message, rfl⟩⟩
    constructor
    · intro habsurd
      cases habsurd
    · intro habsurd
      exact absurd habsurd (hnone tick)

/-- A value that is not negative is converted as it should be exactly when its product can be
resolved. -/
theorem exactOrRejected_convertTicks (hexact : quantity.exactValue = some value)
    (hvalue : 0 ≤ value) :
    ExactOrRejected frequencyMode unit quantity
        (Builtin.plain <$> convertTicks frequencyMode unit (value * frequencyMode.hertz)) ↔
      unit.Resolvable (value * frequencyMode.hertz) := by
  rw [exactOrRejected_plain]
  set product := value * frequencyMode.hertz with hproduct
  have hnonneg : 0 ≤ product := mul_nonneg hvalue (Nat.cast_nonneg _)
  have hunique (tick : ℕ) : IsTick frequencyMode unit quantity tick ↔
      product = tick * unit.perSecond := by
    constructor
    · rintro ⟨other, hother, -, htick⟩
      obtain rfl := Option.some.inj (hexact.symm.trans hother)
      exact htick
    · intro htick
      exact ⟨value, hexact, hvalue, htick⟩
  by_cases hwhole : ∃ tick : ℕ, product = tick * unit.perSecond
  · obtain ⟨tick, htick⟩ := hwhole
    have hnear : ¬∀ whole : ℤ, defaultDecimalContext.halfUnit product <
        |product - whole * unit.perSecond| := by
      intro hfar
      have hunit : 0 < (10 : ℚ) ^ defaultDecimalContext.lastExponent product := by positivity
      have hdistance := hfar tick
      rw [htick, Int.cast_natCast, sub_self, abs_zero, ← htick, DecimalContext.halfUnit]
        at hdistance
      linarith
    have hresolvable : unit.Resolvable product ↔ convertTicks frequencyMode unit product =
        .ok tick := by
      rw [convertTicks_eq_ok hnonneg, finalTicks_of_whole htick]
      constructor
      · rintro (⟨-, hrepresentable⟩ | ⟨hfar, -⟩)
        · exact hrepresentable
        · exact absurd hfar hnear
      · intro hrepresentable
        exact .inl ⟨⟨tick, htick⟩, hrepresentable⟩
    rw [hresolvable]
    constructor
    · rintro ⟨hok, -⟩
      exact (hok tick).2 ((hunique tick).2 htick)
    · intro hok
      refine ⟨fun other ↦ ?_, fun hnone ↦ absurd hok (hnone tick)⟩
      rw [hok, hunique, Except.ok.injEq, htick]
      constructor
      · rintro rfl
        rfl
      · intro heq
        have hper : (unit.perSecond : ℚ) ≠ 0 := by cases unit <;> norm_num [TimeUnit.perSecond]
        exact_mod_cast mul_right_cancel₀ hper heq
  · have hwhole := not_exists.1 hwhole
    have hresolvable : unit.Resolvable product ↔ ∃ message,
        convertTicks frequencyMode unit product = .error (.timing message) := by
      rw [convertTicks_eq_timing hnonneg, finalTicks_of_not_whole hnonneg hwhole]
      constructor
      · rintro (⟨⟨tick, htick⟩, -⟩ | hfar)
        · exact absurd htick (hwhole tick)
        · exact hfar
      · exact .inr
    rw [hresolvable]
    constructor
    · rintro ⟨hok, hrejected⟩
      exact hrejected fun tick htick ↦ hwhole tick ((hunique tick).1 ((hok tick).1 htick))
    · rintro ⟨message, hmessage⟩
      refine ⟨fun tick ↦ ?_, fun _ ↦ ⟨message, hmessage⟩⟩
      rw [hmessage, hunique]
      constructor
      · intro habsurd
        cases habsurd
      · intro htick
        exact absurd htick (hwhole tick)

/-- A quantity of time is converted exactly or rejected if and only if it is convertible. -/
theorem exactOrRejected_iff :
    ExactOrRejected frequencyMode unit quantity
        (resolveTimestamp frequencyMode (unit.options quantity)) ↔
      ConvertibleTime frequencyMode unit quantity := by
  rw [resolveTimestamp_options, decimalTime]
  by_cases hprintable : quantity.Printable
  · rw [toDecimal_of_printable hprintable]
    cases hexact : quantity.exactValue with
    | none =>
      have hnone (value : ℚ) (hvalue : quantity.exactValue = some value) : value < 0 := by
        rw [hexact] at hvalue
        cases hvalue
      refine (exactOrRejected_iff_of_negative hnone).trans ⟨fun _ ↦ ⟨hprintable, ?_⟩,
        fun _ ↦ ⟨_, rfl⟩⟩
      intro value hvalue hnonneg
      exact absurd hnonneg (not_le.2 (hnone value hvalue))
    | some value =>
      by_cases hnegative : value < 0
      · have hnone (other : ℚ) (hother : quantity.exactValue = some other) : other < 0 := by
          obtain rfl := Option.some.inj (hexact.symm.trans hother)
          exact hnegative
        simp only [bind, Except.bind, if_pos hnegative]
        refine (exactOrRejected_iff_of_negative hnone).trans ⟨fun _ ↦ ⟨hprintable, ?_⟩,
          fun _ ↦ ⟨_, rfl⟩⟩
        intro other hother hnonneg
        exact absurd hnonneg (not_le.2 (hnone other hother))
      · have hvalue := not_lt.1 hnegative
        simp only [bind, Except.bind, if_neg hnegative]
        refine (exactOrRejected_convertTicks hexact hvalue).trans ?_
        constructor
        · intro hresolvable
          refine ⟨hprintable, fun other hother _ ↦ ?_⟩
          obtain rfl := Option.some.inj (hexact.symm.trans hother)
          exact hresolvable
        · rintro ⟨-, hresolvable⟩
          exact hresolvable value hexact hvalue
  · obtain ⟨message, hmessage⟩ := toDecimal_of_not_printable hprintable
    rw [hmessage]
    constructor
    · rintro ⟨-, hrejected⟩
      obtain ⟨other, hother⟩ := hrejected fun tick htick ↦ nomatch htick
      cases hother
    · rintro ⟨habsurd, -⟩
      exact absurd habsurd hprintable

end Timestamps

/-! ### Time ranges -/

section Ranges

variable {frequencyMode : FrequencyMode} {unit : TimeUnit} {start finish : Quantity}

/-- A range of times is converted into its two exact bounds, which are ordered, or it is rejected
with a `TimingError`. -/
structure ExactRange (frequencyMode : FrequencyMode) (unit : TimeUnit) (start finish : Quantity)
    (result : Except HilRigError
      {bounds : Builtin ℕ × Builtin ℕ // bounds.1.value ≤ bounds.2.value}) : Prop where
  exact : ∀ (first last : ℕ) (hordered : first ≤ last),
    result = .ok ⟨(.plain first, .plain last), hordered⟩ ↔
      IsTick frequencyMode unit start first ∧ IsTick frequencyMode unit finish last
  rejected : (∀ (first last : ℕ) (hordered : first ≤ last),
    result ≠ .ok ⟨(.plain first, .plain last), hordered⟩) →
      ∃ message, result = .error (.timing message)

/-- The bounds of a range are the conversions of its ends. -/
theorem resolveTimeRange_range :
    resolveTimeRange frequencyMode (unit.range start finish) =
      resolveTimestamp frequencyMode (unit.options start) >>= fun first ↦
        resolveTimestamp frequencyMode (unit.options finish) >>= fun last ↦
          if h : first.value ≤ last.value then .ok ⟨(first, last), h⟩
          else .error (.timing "The start of a time range must not be after its end") := by
  cases unit <;> rfl

/-- A time given in a unit is resolved to a tick that is no member of an enumeration. -/
theorem exists_plain_of_resolveTimestamp {quantity : Quantity} {tick : Builtin ℕ}
    (hresolved : resolveTimestamp frequencyMode (unit.options quantity) = .ok tick) :
    ∃ plainTick, tick = .plain plainTick := by
  rw [resolveTimestamp_options] at hresolved
  obtain ⟨converted, -, hresolved⟩ := bind_eq_ok.1 hresolved
  rw [map_eq_ok] at hresolved
  obtain ⟨plainTick, -, rfl⟩ := hresolved
  exact ⟨plainTick, rfl⟩

/-- A range is converted exactly when both ends are and the bounds are ordered. -/
theorem resolveTimeRange_eq_ok
    (bounds : {bounds : Builtin ℕ × Builtin ℕ // bounds.1.value ≤ bounds.2.value}) :
    resolveTimeRange frequencyMode (unit.range start finish) = .ok bounds ↔
      resolveTimestamp frequencyMode (unit.options start) = .ok bounds.1.1 ∧
        resolveTimestamp frequencyMode (unit.options finish) = .ok bounds.1.2 := by
  rw [resolveTimeRange_range]
  constructor
  · intro hbounds
    obtain ⟨first, hfirst, hbounds⟩ := bind_eq_ok.1 hbounds
    obtain ⟨last, hlast, hbounds⟩ := bind_eq_ok.1 hbounds
    by_cases horder : first.value ≤ last.value
    · rw [dif_pos horder] at hbounds
      obtain rfl := Except.ok.inj hbounds
      exact ⟨hfirst, hlast⟩
    · rw [dif_neg horder] at hbounds
      cases hbounds
  · rintro ⟨hfirst, hlast⟩
    rw [hfirst, hlast]
    exact dif_pos bounds.2

/-- A range whose ends are both convertible is converted exactly or rejected. -/
theorem exactRange_of_convertible (hstart : ConvertibleTime frequencyMode unit start)
    (hfinish : ConvertibleTime frequencyMode unit finish) :
    ExactRange frequencyMode unit start finish
      (resolveTimeRange frequencyMode (unit.range start finish)) := by
  obtain ⟨hfirst, hfirstRejected⟩ := exactOrRejected_iff.2 hstart
  obtain ⟨hlast, hlastRejected⟩ := exactOrRejected_iff.2 hfinish
  constructor
  · intro first last hordered
    rw [resolveTimeRange_eq_ok, hfirst, hlast]
  · intro hnone
    rw [resolveTimeRange_range] at hnone ⊢
    cases hstarted : resolveTimestamp frequencyMode (unit.options start) with
    | error error =>
      rw [hstarted] at hfirstRejected
      obtain ⟨message, hmessage⟩ := hfirstRejected fun tick htick ↦ nomatch htick
      rw [hmessage]
      exact ⟨message, rfl⟩
    | ok first =>
      cases hfinished : resolveTimestamp frequencyMode (unit.options finish) with
      | error error =>
        rw [hfinished] at hlastRejected
        obtain ⟨message, hmessage⟩ := hlastRejected fun tick htick ↦ nomatch htick
        rw [hmessage]
        exact ⟨message, rfl⟩
      | ok last =>
        rw [hstarted, hfinished] at hnone
        obtain ⟨firstTick, rfl⟩ := exists_plain_of_resolveTimestamp hstarted
        obtain ⟨lastTick, rfl⟩ := exists_plain_of_resolveTimestamp hfinished
        refine ⟨_, dif_neg fun horder ↦ hnone firstTick lastTick horder (dif_pos horder)⟩

/-- A quantity of milliseconds or seconds is converted exactly or rejected if and only if it is
convertible; a range is converted exactly when both ends are and its bounds are ordered, and it is
converted exactly or rejected when both ends are convertible. -/
theorem resolveTime_exact_iff (frequencyMode : FrequencyMode) (unit : TimeUnit)
    (start finish : Quantity) :
    (ExactOrRejected frequencyMode unit start
        (resolveTimestamp frequencyMode (unit.options start)) ↔
      ConvertibleTime frequencyMode unit start) ∧
    (∀ bounds, resolveTimeRange frequencyMode (unit.range start finish) = .ok bounds ↔
      resolveTimestamp frequencyMode (unit.options start) = .ok bounds.1.1 ∧
        resolveTimestamp frequencyMode (unit.options finish) = .ok bounds.1.2) ∧
    (ConvertibleTime frequencyMode unit start → ConvertibleTime frequencyMode unit finish →
      ExactRange frequencyMode unit start finish
        (resolveTimeRange frequencyMode (unit.range start finish))) :=
  ⟨exactOrRejected_iff, resolveTimeRange_eq_ok, exactRange_of_convertible⟩

end Ranges

/-! ### A long decimal -/

section Example

/-- One millisecond and a hair. -/
def longMilliseconds : Quantity :=
  .decimal (10 ^ 31 + 1) (-31)

/-- The hair is lost in the product, so the time is taken for the first tick. -/
theorem not_exactOrRejected_longMilliseconds :
    resolveTimestamp .hz1k (TimeUnit.milliseconds.options longMilliseconds) = .ok (.plain 1) ∧
      ¬ExactOrRejected .hz1k .milliseconds longMilliseconds
        (resolveTimestamp .hz1k (TimeUnit.milliseconds.options longMilliseconds)) := by
  have hresult : resolveTimestamp .hz1k (TimeUnit.milliseconds.options longMilliseconds) =
      .ok (.plain 1) := by decide +kernel
  refine ⟨hresult, fun hexact ↦ ?_⟩
  obtain ⟨value, hvalue, -, hproduct⟩ := (hexact.exact 1).1 hresult
  obtain rfl := Option.some.inj hvalue
  norm_num [FrequencyMode.hertz, TimeUnit.perSecond] at hproduct

end Example

end HilRig
