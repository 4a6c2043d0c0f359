import HilRig.Foundations.DecimalContext
import HilRig.Models.Configuration

/-!
# Arguments and their numeric conversions

A public call takes an object of any type. `Passed` separates the values of the types a parameter
accepts from every other object, a bool passed for a number included. Numbers are `int`, `float` and
`Decimal` values; a float stands for the decimal that its `str` prints, which has at most seventeen
significant digits in the exponent range of a double (`PyFloat.Printed`).

`Quantity.toDecimal` is `Decimal(str(value))`, which is exact, and `Number.toFloat` is
`float(value)`, which rounds an integer of more than fifty-three bits to the nearest double and
prints the shortest decimal that reads back as it.
-/

set_option autoImplicit false
set_option relaxedAutoImplicit false

namespace HilRig.Models

open HilRig.Foundations

/-- An object passed for a parameter: a value of an accepted type, or an object of another type. -/
inductive Passed (α : Type)
  | value (value : α)
  | mistyped
  deriving DecidableEq, Repr

/-- The decimal printed for a float has at most seventeen significant digits, and its last digit
lies in the exponent range of a double. -/
def PyFloat.Printed : PyFloat → Prop
  | .finite value => ∃ coefficient exponent : ℤ, |coefficient| < 10 ^ 17 ∧ -324 ≤ exponent ∧
      exponent ≤ 308 ∧ value = coefficient * 10 ^ exponent
  | .infinite _ => True
  | .nan => True

/-- An `int` or a `float`. -/
inductive Number
  | int (value : ℤ)
  | float (value : PyFloat) (printed : value.Printed)
  deriving DecidableEq

/-- An `int`, a `float` or a `Decimal`, whose infinities and NaNs are `special`. -/
inductive Quantity
  | number (value : Number)
  | decimal (coefficient exponent : ℤ)
  | special
  deriving DecidableEq

/-! ### Conversion to decimals -/

/-- `Decimal(str(value))` of a number, or `none` for a decimal that is not finite. An integer of
more than 4300 digits is not printed. -/
def Number.toDecimal : Number → Except HilRigError (Option ℚ)
  | .int value =>
    if 10 ^ 4300 ≤ |value| then
      .error (.value "Exceeds the limit (4300 digits) for integer string conversion")
    else .ok (some value)
  | .float (.finite value) _ => .ok (some value)
  | .float _ _ => .ok none

/-- `Decimal(str(value))` of a quantity, or `none` for a decimal that is not finite. -/
def Quantity.toDecimal : Quantity → Except HilRigError (Option ℚ)
  | .number value => value.toDecimal
  | .decimal coefficient exponent => .ok (some (coefficient * 10 ^ exponent))
  | .special => .ok none

/-- The number a quantity stands for: the decimal that `str` prints. -/
def Quantity.exactValue : Quantity → Option ℚ
  | .number (.int value) => some value
  | .number (.float (.finite value) _) => some value
  | .number (.float _ _) => none
  | .decimal coefficient exponent => some (coefficient * 10 ^ exponent)
  | .special => none

/-- A quantity that `str` prints: not an integer of more than 4300 digits. -/
def Quantity.Printable : Quantity → Prop
  | .number (.int value) => |value| < 10 ^ 4300
  | _ => True

theorem toDecimal_of_printable {quantity : Quantity} (hprintable : quantity.Printable) :
    quantity.toDecimal = .ok quantity.exactValue := by
  cases quantity with
  | number number =>
    cases number with
    | int value => exact if_neg (not_le.2 hprintable)
    | float value printed => cases value <;> rfl
  | decimal coefficient exponent => rfl
  | special => rfl

theorem toDecimal_of_not_printable {quantity : Quantity} (hprintable : ¬quantity.Printable) :
    ∃ message, quantity.toDecimal = .error (.value message) := by
  cases quantity with
  | number number =>
    cases number with
    | int value => exact ⟨_, if_pos (not_lt.1 hprintable)⟩
    | float value printed => exact absurd trivial hprintable
  | decimal coefficient exponent => exact absurd trivial hprintable
  | special => exact absurd trivial hprintable

/-- The result of a decimal operation, whose overflow is trapped. -/
def trapped (result : Option ℚ) : Except HilRigError ℚ :=
  match result with
  | some value => .ok value
  | none => .error ⟨.native, "decimal.Overflow"⟩

/-- A decimal operation returns a value that does not overflow. -/
theorem trapped_eq_ok {result : Option ℚ} {value : ℚ} :
    trapped result = .ok value ↔ result = some value := by
  cases result <;> simp [trapped]

/-! ### Conversion to floats -/

/-- A positive value rounded to a number of significant digits of a base. -/
def roundToDigits (base digits : ℕ) (value : ℚ) : ℚ :=
  roundHalfEven (value / (base : ℚ) ^ (Int.log base value - (digits - 1))) *
    (base : ℚ) ^ (Int.log base value - (digits - 1))

/-- A positive value of normal size rounded to the nearest double. -/
def nearestDouble (value : ℚ) : ℚ :=
  roundToDigits 2 53 value

/-- The decimals of a number of significant digits next to a positive value: the nearest one, and
then those on its two sides. -/
def adjacentDecimals (digits : ℕ) (value : ℚ) : List ℚ :=
  let unit := (10 : ℚ) ^ (Int.log 10 value - (digits - 1))
  [roundToDigits 10 digits value, ⌊value / unit⌋ * unit, ⌈value / unit⌉ * unit]

/-- The nearest of the shortest decimals that read back as a double; seventeen digits always do. At
a power of two the decimals that read back reach further up than down, so that the nearest decimal
of a length need not be one of them. -/
def shortestDecimal (double : ℚ) : ℚ :=
  (((List.range 16).flatMap fun position ↦ adjacentDecimals (position + 1) double).find? fun text ↦
    nearestDouble text = double).getD (roundToDigits 10 17 double)

/-- `float(value)` of an integer. -/
def floatOfInt (value : ℤ) : Except HilRigError PyFloat :=
  if |value| ≤ 2 ^ 53 then .ok (.finite value)
  else if 2 ^ 1024 ≤ nearestDouble |value| then
    .error ⟨.overflowError, "int too large to convert to float"⟩
  else .ok (.finite (value.sign * shortestDecimal (nearestDouble |value|)))

/-- `float(value)`. -/
def Number.toFloat : Number → Except HilRigError PyFloat
  | .int value => floatOfInt value
  | .float value _ => .ok value

/-- A whole number of units of a last digit that is not below the value's keeps the value's leading
power of the base. -/
theorem zpow_log_le_mul_unit {base digits : ℕ} (hbase : 1 < base) (hdigits : 1 ≤ digits)
    {value : ℚ} (hvalue : 0 < value) {whole : ℤ}
    (hwhole : ⌊value / (base : ℚ) ^ (Int.log base value - (digits - 1))⌋ ≤ whole) :
    (base : ℚ) ^ Int.log base value ≤
      whole * (base : ℚ) ^ (Int.log base value - (digits - 1)) := by
  have hbase_pos : (0 : ℚ) < base := by exact_mod_cast hbase.trans' Nat.zero_lt_one
  have hpos : (0 : ℚ) < (base : ℚ) ^ (Int.log base value - (digits - 1)) := by positivity
  have hsplit : (base : ℚ) ^ Int.log base value =
      (base : ℚ) ^ (digits - 1) * (base : ℚ) ^ (Int.log base value - (digits - 1)) := by
    rw [← zpow_natCast, ← zpow_add₀ hbase_pos.ne']
    congr 1
    push_cast [hdigits]
    omega
  have hfloor : (base ^ (digits - 1) : ℤ) ≤
      ⌊value / (base : ℚ) ^ (Int.log base value - (digits - 1))⌋ := by
    refine Int.le_floor.2 ((le_div_iff₀ hpos).2 ?_)
    rw [Int.cast_pow, Int.cast_natCast, ← hsplit]
    exact Int.zpow_log_le_self hbase hvalue
  rw [hsplit]
  refine mul_le_mul_of_nonneg_right ?_ hpos.le
  exact_mod_cast hfloor.trans hwhole

/-- Rounding to significant digits keeps the leading power of the base. -/
theorem zpow_log_le_roundToDigits {base digits : ℕ} (hbase : 1 < base) (hdigits : 1 ≤ digits)
    {value : ℚ} (hvalue : 0 < value) :
    (base : ℚ) ^ Int.log base value ≤ roundToDigits base digits value :=
  zpow_log_le_mul_unit hbase hdigits hvalue (floor_le_roundHalfEven _)

/-- The decimals next to a positive value keep its leading power of ten. -/
theorem zpow_log_le_of_adjacent {digits : ℕ} (hdigits : 1 ≤ digits) {value text : ℚ}
    (hvalue : 0 < value) (htext : text ∈ adjacentDecimals digits value) :
    (10 : ℚ) ^ Int.log 10 value ≤ text := by
  have hunits {whole : ℤ}
      (hwhole : ⌊value / (10 : ℚ) ^ (Int.log 10 value - (digits - 1))⌋ ≤ whole) :
      (10 : ℚ) ^ Int.log 10 value ≤ whole * (10 : ℚ) ^ (Int.log 10 value - (digits - 1)) :=
    @zpow_log_le_mul_unit 10 digits (by norm_num) hdigits value hvalue whole hwhole
  simp only [adjacentDecimals, List.mem_cons, List.not_mem_nil, or_false] at htext
  rcases htext with rfl | rfl | rfl
  · exact hunits (floor_le_roundHalfEven _)
  · exact hunits le_rfl
  · exact hunits (Int.floor_le_ceil _)

/-- The shortest decimal of a double keeps its leading power of ten. -/
theorem zpow_log_le_shortestDecimal {double : ℚ} (hdouble : 0 < double) :
    (10 : ℚ) ^ Int.log 10 double ≤ shortestDecimal double := by
  unfold shortestDecimal
  cases hfound : ((List.range 16).flatMap fun position ↦
      adjacentDecimals (position + 1) double).find? fun text ↦ nearestDouble text = double with
  | none => exact zpow_log_le_of_adjacent (by norm_num) hdouble List.mem_cons_self
  | some text =>
    obtain ⟨position, -, htext⟩ := List.mem_flatMap.1 (List.mem_of_find?_eq_some hfound)
    exact zpow_log_le_of_adjacent (Nat.le_add_left 1 position) hdouble htext

/-- The nearest decimal of sixteen digits does not read back as two to the power of eighty-nine. -/
example : shortestDecimal (2 ^ 89) = 6189700196426902 * 10 ^ 11 := by
  decide +kernel

/-- An integer is its own float up to fifty-three bits, and a large float beyond. -/
theorem floatOfInt_cases {value : ℤ} {converted : PyFloat}
    (hconverted : floatOfInt value = .ok converted) :
    (|value| ≤ 2 ^ 53 ∧ converted = .finite value) ∨
      ∃ decimal : ℚ, converted = .finite decimal ∧ 2 ^ 53 < |value| ∧
        (0 < value → 10 ^ 15 ≤ decimal) ∧ (value < 0 → decimal ≤ -10 ^ 15) := by
  unfold floatOfInt at hconverted
  by_cases hsmall : |value| ≤ 2 ^ 53
  · rw [if_pos hsmall] at hconverted
    exact .inl ⟨hsmall, (Except.ok.inj hconverted).symm⟩
  rw [if_neg hsmall] at hconverted
  split at hconverted
  · cases hconverted
  have hlarge : 2 ^ 53 < |value| := not_le.1 hsmall
  have hvalue : (2 : ℚ) ^ 53 ≤ |(value : ℚ)| := by exact_mod_cast hlarge.le
  have hpos : (0 : ℚ) < |(value : ℚ)| := lt_of_lt_of_le (by positivity) hvalue
  have hdouble : (10 : ℚ) ^ 15 ≤ nearestDouble |(value : ℚ)| := by
    have hlog : (53 : ℤ) ≤ Int.log 2 |(value : ℚ)| :=
      (Int.zpow_le_iff_le_log (by norm_num) hpos).1 (by exact_mod_cast hvalue)
    have hround : (2 : ℚ) ^ Int.log 2 |(value : ℚ)| ≤ nearestDouble |(value : ℚ)| := by
      exact_mod_cast zpow_log_le_roundToDigits (show 1 < 2 by norm_num) (show 1 ≤ 53 by norm_num)
        hpos
    calc (10 : ℚ) ^ 15 ≤ 2 ^ (53 : ℤ) := by norm_num
      _ ≤ 2 ^ Int.log 2 |(value : ℚ)| := zpow_le_zpow_right₀ (by norm_num) hlog
      _ ≤ nearestDouble |(value : ℚ)| := hround
  have hshortest : (10 : ℚ) ^ 15 ≤ shortestDecimal (nearestDouble |(value : ℚ)|) := by
    have hdouble_pos : (0 : ℚ) < nearestDouble |(value : ℚ)| :=
      lt_of_lt_of_le (by positivity) hdouble
    have hlog : (15 : ℤ) ≤ Int.log 10 (nearestDouble |(value : ℚ)|) :=
      (Int.zpow_le_iff_le_log (by norm_num) hdouble_pos).1 (by exact_mod_cast hdouble)
    calc (10 : ℚ) ^ 15 = 10 ^ (15 : ℤ) := by norm_num
      _ ≤ 10 ^ Int.log 10 (nearestDouble |(value : ℚ)|) :=
        zpow_le_zpow_right₀ (by norm_num) hlog
      _ ≤ shortestDecimal (nearestDouble |(value : ℚ)|) :=
        zpow_log_le_shortestDecimal hdouble_pos
  refine .inr ⟨_, (Except.ok.inj hconverted).symm, hlarge, fun hvalue ↦ ?_, fun hvalue ↦ ?_⟩
  · rw [Int.sign_eq_one_of_pos hvalue, Int.cast_one, one_mul]
    exact hshortest
  · rw [Int.sign_eq_neg_one_of_neg hvalue]
    push_cast
    linarith

end HilRig.Models
