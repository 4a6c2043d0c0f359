import HilRig.ExactTiming

/-!
# Times of few digits

A quantity of time of at most seventeen significant digits is multiplied and divided without any
rounding, unless its digits are at the very ends of the range of a decimal
(`convertibleTime_of_short`). So the tick that it is resolved to, counted in nanoseconds, is the
requested time, and every other such time is rejected with a `TimingError` (`resolves_of_short`).
-/

set_option autoImplicit false
set_option relaxedAutoImplicit false

namespace HilRig

open HilRig.Models HilRig.Foundations

/-! ### Short quantities -/

/-- A quantity that prints as a decimal of at most seventeen significant digits, none of them at the
ends of the range of a decimal. -/
structure ShortQuantity (quantity : Quantity) : Prop where
  printable : quantity.Printable
  digits : ∀ value, quantity.exactValue = some value → ∃ coefficient exponent : ℤ,
    |coefficient| < 10 ^ 17 ∧ -999999 ≤ exponent ∧ exponent ≤ 999979 ∧
      value = coefficient * 10 ^ exponent

section Short

variable {frequencyMode : FrequencyMode} {unit : TimeUnit} {quantity : Quantity}

/-- Every frequency is a small power of ten. -/
theorem hertz_eq_pow (frequencyMode : FrequencyMode) :
    ∃ power : ℕ, 2 ≤ power ∧ power ≤ 4 ∧ (frequencyMode.hertz : ℚ) = 10 ^ power := by
  cases frequencyMode with
  | hz100 => exact ⟨2, by norm_num, by norm_num, by norm_num [FrequencyMode.hertz]⟩
  | hz1k => exact ⟨3, by norm_num, by norm_num, by norm_num [FrequencyMode.hertz]⟩
  | hz10k => exact ⟨4, by norm_num, by norm_num, by norm_num [FrequencyMode.hertz]⟩

/-- A decimal of few digits is not rounded. -/
theorem fix_of_short {coefficient exponent : ℤ} (hcoefficient : |coefficient| < 10 ^ 17)
    (hlow : -1000026 ≤ exponent) (hhigh : exponent ≤ 999983) :
    defaultDecimalContext.fix (coefficient * 10 ^ exponent) =
      some (coefficient * 10 ^ exponent : ℚ) := by
  refine defaultDecimalContext.fix_of_coefficient hcoefficient (by decide) ?_ ?_
  · show (-999999 - (28 - 1) : ℤ) ≤ _
    omega
  · show _ ≤ (999999 + 1 : ℤ)
    omega

/-- The number of ticks of a short quantity is computed exactly. -/
theorem finalTicks_of_short {coefficient exponent : ℤ} (hcoefficient : |coefficient| < 10 ^ 17)
    (hlow : -1000023 ≤ exponent) (hhigh : exponent ≤ 999983) :
    finalTicks unit (coefficient * 10 ^ exponent) =
      some (coefficient * 10 ^ exponent / unit.perSecond : ℚ) := by
  have hfix := fix_of_short hcoefficient (by omega) hhigh
  cases unit with
  | seconds =>
    rw [finalTicks, hfix]
    simp [TimeUnit.perSecond]
  | milliseconds =>
    have hten : (10 : ℚ) ≠ 0 := by norm_num
    have hquotient : (coefficient * 10 ^ exponent / 1000 : ℚ) =
        coefficient * 10 ^ (exponent - 3) := by
      rw [zpow_sub₀ hten, mul_div_assoc]
      norm_num
    rw [finalTicks, hfix, Option.bind_eq_bind, Option.bind_some, DecimalContext.divide, hquotient,
      fix_of_short hcoefficient (by omega) (by omega), ← hquotient]
    norm_num [TimeUnit.perSecond]

/-- A short quantity of time is converted exactly or rejected. -/
theorem convertibleTime_of_short (hshort : ShortQuantity quantity) :
    ConvertibleTime frequencyMode unit quantity := by
  refine ⟨hshort.printable, fun value hvalue hnonneg ↦ ?_⟩
  obtain ⟨coefficient, exponent, hcoefficient, hlow, hhigh, rfl⟩ := hshort.digits value hvalue
  obtain ⟨power, hleast, hmost, hpower⟩ := hertz_eq_pow frequencyMode
  have hproduct : (coefficient * 10 ^ exponent * frequencyMode.hertz : ℚ) =
      coefficient * 10 ^ (exponent + power) := by
    rw [hpower, mul_assoc, ← zpow_natCast, ← zpow_add₀ (by norm_num)]
  rw [hproduct]
  have hticks := @finalTicks_of_short unit coefficient (exponent + power) hcoefficient
    (by omega) (by omega)
  have hper : (0 : ℚ) < unit.perSecond := by cases unit <;> norm_num [TimeUnit.perSecond]
  have hnonneg : (0 : ℚ) ≤ coefficient * 10 ^ (exponent + power) := by
    rw [← hproduct]
    exact mul_nonneg hnonneg (Nat.cast_nonneg _)
  set product : ℚ := coefficient * 10 ^ (exponent + power)
  by_cases hwhole : ∃ tick : ℕ, product = tick * unit.perSecond
  · obtain ⟨tick, htick⟩ := hwhole
    rw [htick, mul_div_cancel_right₀ _ hper.ne', ← htick] at hticks
    exact .inl ⟨⟨tick, htick⟩, (finalTicks_of_whole htick).1 hticks⟩
  · have hnone := not_exists.1 hwhole
    refine .inr ((finalTicks_of_not_whole hnonneg hnone).1 ⟨_, hticks, fun tick htick ↦ ?_⟩)
    exact hnone tick ((div_eq_iff hper.ne').1 htick)

end Short

/-! ### Requested times -/

/-- The time that the options of a call request, in nanoseconds, at a tick period. -/
def TimeOptions.nanoseconds (period : ℕ) (time : TimeOptions) : Option ℚ :=
  match time.atTick, time.atMs, time.atS with
  | some (.value tick), none, none => some (tick.value * period)
  | none, some (.value quantity), none => quantity.exactValue.map fun value ↦ value * 10 ^ 6
  | none, none, some (.value quantity) => quantity.exactValue.map fun value ↦ value * 10 ^ 9
  | _, _, _ => none

/-- Whether a time is given without a member of an enumeration as its tick. -/
def TimeOptions.isPlain (time : TimeOptions) : Bool :=
  match time.atTick with
  | some (.value tick) => tick.isPlain
  | _ => true

/-- The quantities of milliseconds and seconds of a time. -/
def TimeOptions.quantities (time : TimeOptions) : List Quantity :=
  [time.atMs, time.atS].filterMap fun option ↦
    match option with
    | some (.value quantity) => some quantity
    | _ => none

/-- Every quantity of a time is short. -/
def TimeOptions.Short (time : TimeOptions) : Prop :=
  ∀ quantity ∈ time.quantities, ShortQuantity quantity

/-- The duration of one tick in nanoseconds. -/
def periodNs (frequencyMode : FrequencyMode) : ℕ :=
  1000000000 / frequencyMode.hertz

section Requested

variable {frequencyMode : FrequencyMode} {time : TimeOptions}

theorem periodNs_mul_hertz (frequencyMode : FrequencyMode) :
    (periodNs frequencyMode : ℚ) * frequencyMode.hertz = 10 ^ 9 := by
  cases frequencyMode <;> norm_num [periodNs, FrequencyMode.hertz]

theorem periodNs_pos (frequencyMode : FrequencyMode) : (0 : ℚ) < periodNs frequencyMode := by
  cases frequencyMode <;> norm_num [periodNs, FrequencyMode.hertz]

/-- A quantity is a tick exactly when its nanoseconds are those of the tick. -/
theorem isTick_iff {unit : TimeUnit} {quantity : Quantity} {tick : ℕ} :
    IsTick frequencyMode unit quantity tick ↔
      (unit.options quantity).nanoseconds (periodNs frequencyMode) =
        some (tick * periodNs frequencyMode : ℚ) := by
  have hperiod := periodNs_pos frequencyMode
  have hhertz := periodNs_mul_hertz frequencyMode
  have hticks : (0 : ℚ) ≤ tick * periodNs frequencyMode := by positivity
  have hscaled (value scale : ℚ) (hscale : scale * unit.perSecond = 10 ^ 9) :
      (0 ≤ value ∧ value * frequencyMode.hertz = tick * unit.perSecond) ↔
        value * scale = tick * periodNs frequencyMode := by
    have hper : (0 : ℚ) < unit.perSecond := by cases unit <;> norm_num [TimeUnit.perSecond]
    have hpositive : 0 < scale := by
      by_contra hnegative
      nlinarith
    constructor
    · rintro ⟨-, hproduct⟩
      refine mul_right_cancel₀ hper.ne' ?_
      calc value * scale * unit.perSecond =
            value * frequencyMode.hertz * periodNs frequencyMode := by
            rw [mul_assoc, hscale, ← hhertz]
            ring
        _ = tick * periodNs frequencyMode * unit.perSecond := by
            rw [hproduct]
            ring
    · intro hproduct
      refine ⟨by nlinarith, mul_right_cancel₀ hperiod.ne' ?_⟩
      calc value * frequencyMode.hertz * periodNs frequencyMode =
            value * scale * unit.perSecond := by
            rw [mul_assoc, mul_comm (frequencyMode.hertz : ℚ), hhertz, mul_assoc, hscale]
        _ = tick * unit.perSecond * periodNs frequencyMode := by
            rw [hproduct]
            ring
  cases unit with
  | milliseconds =>
    simp only [IsTick, TimeUnit.options, TimeOptions.nanoseconds, Option.map_eq_some_iff,
      hscaled _ (10 ^ 6) (by norm_num [TimeUnit.perSecond])]
  | seconds =>
    simp only [IsTick, TimeUnit.options, TimeOptions.nanoseconds, Option.map_eq_some_iff,
      hscaled _ (10 ^ 9) (by norm_num [TimeUnit.perSecond])]

/-- A result for a time is the tick whose nanoseconds the time requests, or a `TimingError`. -/
structure Resolves (frequencyMode : FrequencyMode) (time : TimeOptions)
    (result : Except HilRigError (Builtin ℕ)) : Prop where
  exact : ∀ tick, Builtin.value <$> result = .ok tick ↔
    time.nanoseconds (periodNs frequencyMode) = some (tick * periodNs frequencyMode : ℚ)
  rejected : ∀ error, result = .error error → ∃ message, error = .timing message

theorem resolves_of_refused {result : Except HilRigError (Builtin ℕ)} {message : String}
    (hresult : result = .error (.timing message))
    (hnone : ∀ tick : ℕ, time.nanoseconds (periodNs frequencyMode) ≠
      some (tick * periodNs frequencyMode : ℚ)) : Resolves frequencyMode time result where
  exact tick := by
    refine iff_of_false (fun hok ↦ ?_) (hnone tick)
    rw [hresult] at hok
    cases hok
  rejected error herror := by
    rw [hresult] at herror
    exact ⟨message, (Except.error.inj herror).symm⟩

/-- A short quantity of a unit resolves. -/
theorem resolves_quantity {unit : TimeUnit} {quantity : Quantity}
    (hshort : ShortQuantity quantity) : Resolves frequencyMode (unit.options quantity)
      (resolveTimestamp frequencyMode (unit.options quantity)) := by
  obtain ⟨hexact, hrejected⟩ := @exactOrRejected_iff frequencyMode unit quantity |>.2
    (convertibleTime_of_short hshort)
  refine ⟨fun tick ↦ Iff.trans ?_ ((hexact tick).trans isTick_iff), fun error herror ↦ ?_⟩
  · rw [map_eq_ok]
    constructor
    · rintro ⟨resolved, hresolved, rfl⟩
      obtain ⟨plainTick, rfl⟩ := exists_plain_of_resolveTimestamp hresolved
      exact hresolved
    · exact fun htick ↦ ⟨_, htick, rfl⟩
  obtain ⟨message, hmessage⟩ := hrejected fun tick htick ↦ by
    rw [htick] at herror
    cases herror
  exact ⟨message, Except.error.inj (herror.symm.trans hmessage)⟩

/-- A tick resolves to itself unless it is negative. -/
theorem resolves_tick (tick : Builtin ℤ) : Resolves frequencyMode { atTick := some (.value tick) }
    (resolveTimestamp frequencyMode { atTick := some (.value tick) }) := by
  have hperiod := periodNs_pos frequencyMode
  by_cases hsign : tick.value < 0
  · refine resolves_of_refused (if_pos hsign) fun natural hnanoseconds ↦ ?_
    have hproduct := Option.some.inj hnanoseconds
    have hnegative : (tick.value : ℚ) < 0 := by exact_mod_cast hsign
    have hnatural : (0 : ℚ) ≤ natural * periodNs frequencyMode := by positivity
    nlinarith
  · have hresult : resolveTimestamp frequencyMode { atTick := some (.value tick) } =
        .ok (tick.map Int.toNat) := if_neg hsign
    obtain ⟨natural, hnatural⟩ := Int.eq_ofNat_of_zero_le (not_lt.1 hsign)
    refine ⟨fun other ↦ ?_, fun error herror ↦ ?_⟩
    · have hvalue : Builtin.value <$> resolveTimestamp frequencyMode
          { atTick := some (.value tick) } = .ok natural := by
        rw [hresult, map_eq_ok]
        exact ⟨_, rfl, by rw [Builtin.value_map, hnatural, Int.toNat_natCast]⟩
      rw [hvalue, Except.ok.injEq]
      show natural = other ↔ some ((tick.value : ℚ) * periodNs frequencyMode) = _
      rw [hnatural, Option.some.injEq, mul_left_inj' hperiod.ne', Int.cast_natCast, Nat.cast_inj]
    · rw [hresult] at herror
      cases herror

/-- A plain time resolves to a plain tick. -/
theorem isPlain_of_resolveTimestamp (hplain : time.isPlain = true) {tick : Builtin ℕ}
    (hresolved : resolveTimestamp frequencyMode time = .ok tick) : tick.isPlain = true := by
  obtain ⟨atTick, atMs, atS⟩ := time
  obtain ⟨-, hresolved⟩ := ite_error_eq_ok.1 hresolved
  cases atTick with
  | some passed =>
    cases passed with
    | mistyped => cases hresolved
    | value passed =>
      obtain ⟨-, hresolved⟩ := ite_error_eq_ok.1 hresolved
      rw [← pure_eq_ok.1 hresolved, Builtin.isPlain_map]
      exact hplain
  | none =>
    change (if atMs.isSome = true then _ else _) = _ at hresolved
    split at hresolved
    · obtain ⟨_, -, hresolved⟩ := bind_eq_ok.1 hresolved
      obtain ⟨_, -, hresolved⟩ := bind_eq_ok.1 hresolved
      obtain ⟨_, -, hresolved⟩ := bind_eq_ok.1 hresolved
      obtain ⟨_, -, hresolved⟩ := bind_eq_ok.1 hresolved
      rw [← pure_eq_ok.1 hresolved, Builtin.isPlain_plain]
    · obtain ⟨_, -, hresolved⟩ := bind_eq_ok.1 hresolved
      obtain ⟨_, -, hresolved⟩ := bind_eq_ok.1 hresolved
      obtain ⟨_, -, hresolved⟩ := bind_eq_ok.1 hresolved
      rw [← pure_eq_ok.1 hresolved, Builtin.isPlain_plain]

/-- Every time of short quantities resolves. -/
theorem resolves_of_short (hshort : time.Short) :
    Resolves frequencyMode time (resolveTimestamp frequencyMode time) := by
  obtain ⟨atTick, atMs, atS⟩ := time
  cases atTick with
  | some tick =>
    cases atMs with
    | some milliseconds =>
      have hnone : TimeOptions.nanoseconds (periodNs frequencyMode)
          ⟨some tick, some milliseconds, atS⟩ = none := by cases tick <;> rfl
      cases atS <;> exact resolves_of_refused rfl (by simp [hnone])
    | none =>
      cases atS with
      | some seconds =>
        have hnone : TimeOptions.nanoseconds (periodNs frequencyMode)
            ⟨some tick, none, some seconds⟩ = none := by cases tick <;> rfl
        exact resolves_of_refused rfl (by simp [hnone])
      | none =>
        cases tick with
        | mistyped => exact resolves_of_refused rfl (by simp [TimeOptions.nanoseconds])
        | value tick => exact resolves_tick tick
  | none =>
    cases atMs with
    | some milliseconds =>
      cases atS with
      | some seconds =>
        have hnone : TimeOptions.nanoseconds (periodNs frequencyMode)
            ⟨none, some milliseconds, some seconds⟩ = none := by cases milliseconds <;> rfl
        exact resolves_of_refused rfl (by simp [hnone])
      | none =>
        cases milliseconds with
        | mistyped => exact resolves_of_refused rfl (by simp [TimeOptions.nanoseconds])
        | value quantity =>
          exact @resolves_quantity frequencyMode .milliseconds _ (hshort _ List.mem_cons_self)
    | none =>
      cases atS with
      | none => exact resolves_of_refused rfl (by simp [TimeOptions.nanoseconds])
      | some seconds =>
        cases seconds with
        | mistyped => exact resolves_of_refused rfl (by simp [TimeOptions.nanoseconds])
        | value quantity =>
          exact @resolves_quantity frequencyMode .seconds _ (hshort _ List.mem_cons_self)

end Requested

/-! ### Requested ranges -/

/-- The two ends that the range options of a call request. -/
def RangeOptions.ends (range : RangeOptions) : Option (TimeOptions × TimeOptions) :=
  match range.ticks, range.milliseconds, range.seconds with
  | some (.value pair), none, none => some ({ atTick := pair.1 }, { atTick := pair.2 })
  | none, some (.value pair), none => some ({ atMs := pair.1 }, { atMs := pair.2 })
  | none, none, some (.value pair) => some ({ atS := pair.1 }, { atS := pair.2 })
  | _, _, _ => none

section Ranges

variable {frequencyMode : FrequencyMode} {range : RangeOptions}

/-- A range resolves its two ends one after the other, and they have to be in order. -/
theorem resolveTimeRange_of_ends {first second : TimeOptions}
    (hends : range.ends = some (first, second)) :
    resolveTimeRange frequencyMode range = (do
      let start ← resolveTimestamp frequencyMode first
      let finish ← resolveTimestamp frequencyMode second
      if h : start.value ≤ finish.value then return ⟨(start, finish), h⟩
      else .error (.timing "The start of a time range must not be after its end")) := by
  obtain ⟨ticks, milliseconds, seconds⟩ := range
  unfold RangeOptions.ends at hends
  split at hends <;> cases hends <;> rename_i hticks hmilliseconds hseconds <;>
    (dsimp only at hticks hmilliseconds hseconds; subst hticks hmilliseconds hseconds; rfl)

/-- A range without two ends is rejected with a `TimingError`. -/
theorem resolveTimeRange_of_no_ends (hends : range.ends = none) :
    ∃ message, resolveTimeRange frequencyMode range = .error (.timing message) := by
  obtain ⟨ticks, milliseconds, seconds⟩ := range
  cases ticks with
  | none =>
    cases milliseconds with
    | none =>
      cases seconds with
      | none => exact ⟨_, rfl⟩
      | some seconds =>
        cases seconds with
        | mistyped => exact ⟨_, rfl⟩
        | value pair => cases hends
    | some milliseconds =>
      cases seconds with
      | some seconds => exact ⟨_, rfl⟩
      | none =>
        cases milliseconds with
        | mistyped => exact ⟨_, rfl⟩
        | value pair => cases hends
  | some ticks =>
    cases milliseconds with
    | some milliseconds => cases seconds <;> exact ⟨_, rfl⟩
    | none =>
      cases seconds with
      | some seconds => exact ⟨_, rfl⟩
      | none =>
        cases ticks with
        | mistyped => exact ⟨_, rfl⟩
        | value pair => cases hends

/-- A range resolves to what its two ends resolve to. -/
theorem ends_of_resolveTimeRange
    {bounds : {bounds : Builtin ℕ × Builtin ℕ // bounds.1.value ≤ bounds.2.value}}
    (hbounds : resolveTimeRange frequencyMode range = .ok bounds) :
    ∃ first second, range.ends = some (first, second) ∧
      resolveTimestamp frequencyMode first = .ok bounds.val.1 ∧
        resolveTimestamp frequencyMode second = .ok bounds.val.2 := by
  cases hends : range.ends with
  | none =>
    obtain ⟨message, hmessage⟩ := @resolveTimeRange_of_no_ends frequencyMode range hends
    rw [hmessage] at hbounds
    cases hbounds
  | some pair =>
    rw [resolveTimeRange_of_ends hends] at hbounds
    obtain ⟨start, hstart, hbounds⟩ := bind_eq_ok.1 hbounds
    obtain ⟨finish, hfinish, hbounds⟩ := bind_eq_ok.1 hbounds
    split at hbounds
    · obtain rfl := pure_eq_ok.1 hbounds
      exact ⟨_, _, rfl, hstart, hfinish⟩
    · cases hbounds

/-- A range whose ends are of short quantities is resolved or rejected with a `TimingError`. -/
theorem timing_of_resolveTimeRange
    (hshort : ∀ first second, range.ends = some (first, second) → first.Short ∧ second.Short)
    {error : HilRigError} (herror : resolveTimeRange frequencyMode range = .error error) :
    ∃ message, error = .timing message := by
  cases hends : range.ends with
  | none =>
    obtain ⟨message, hmessage⟩ := @resolveTimeRange_of_no_ends frequencyMode range hends
    rw [hmessage] at herror
    exact ⟨message, (Except.error.inj herror).symm⟩
  | some pair =>
    obtain ⟨hfirst, hsecond⟩ := hshort _ _ hends
    rw [resolveTimeRange_of_ends hends] at herror
    cases hstart : resolveTimestamp frequencyMode pair.1 with
    | error failure =>
      rw [hstart] at herror
      obtain rfl := Except.error.inj herror
      exact (resolves_of_short hfirst).rejected _ hstart
    | ok start =>
      cases hfinish : resolveTimestamp frequencyMode pair.2 with
      | error failure =>
        rw [hstart, hfinish] at herror
        obtain rfl := Except.error.inj herror
        exact (resolves_of_short hsecond).rejected _ hfinish
      | ok finish =>
        rw [hstart, hfinish] at herror
        change (if h : start.value ≤ finish.value then _ else _) = _ at herror
        split at herror
        · cases herror
        · exact ⟨_, (Except.error.inj herror).symm⟩

end Ranges

end HilRig
