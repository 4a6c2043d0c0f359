import HilRig.Models.Numbers

/-!
# Conversion of user-facing time units into execution ticks

A time is given by exactly one of its options: a tick, or a quantity of milliseconds or of seconds
that is a whole number of ticks. A range of ticks is given by a two-value tuple of such times, or by
a pair of options for its two ends (`optionalPair`).
-/

set_option autoImplicit false
set_option relaxedAutoImplicit false

namespace HilRig

open HilRig.Models HilRig.Foundations

/-- The time options of a call, each absent or an object passed for it. -/
structure TimeOptions where
  atTick : Option (Passed (Builtin ℤ)) := none
  atMs : Option (Passed Quantity) := none
  atS : Option (Passed Quantity) := none

/-- An object passed for a time range: a two-value tuple, or another object. Either value of a
tuple can be `None`. -/
abbrev TimeRange (α : Type) := Passed (Option (Passed α) × Option (Passed α))

/-- The range options of a call. -/
structure RangeOptions where
  ticks : Option (TimeRange (Builtin ℤ)) := none
  milliseconds : Option (TimeRange Quantity) := none
  seconds : Option (TimeRange Quantity) := none

/-- How many of three options are supplied. -/
def supplied {α β γ : Type} (first : Option α) (second : Option β) (third : Option γ) : ℕ :=
  first.isSome.toNat + second.isSome.toNat + third.isSome.toNat

/-- A quantity of time as a finite, non-negative decimal. -/
def decimalTime (value : Option (Passed Quantity)) (name : String) : Except HilRigError ℚ :=
  match value with
  | some (.value quantity) => do
    match ← quantity.toDecimal with
    | none => .error (.timing s!"{name} must be a finite number")
    | some converted =>
      if converted < 0 then .error (.timing "Timestamps must be non-negative")
      else return converted
  | _ => .error (.timing s!"{name} must be a number")

/-- A decimal number of ticks as a tick, which it has to be exactly. -/
def exactTick (ticks : ℚ) (name : String) (frequencyMode : FrequencyMode) :
    Except HilRigError ℕ :=
  if ticks ≠ roundHalfEven ticks then
    .error (.timing
      s!"{name} does not align with a whole tick in {frequencyMode.name} mode")
  else .ok (roundHalfEven ticks).toNat

/-- Resolve exactly one user-facing timestamp to a non-negative tick. -/
def resolveTimestamp (frequencyMode : FrequencyMode) (time : TimeOptions) :
    Except HilRigError (Builtin ℕ) := do
  if supplied time.atTick time.atMs time.atS ≠ 1 then
    .error (.timing "Specify exactly one of at_tick, at_ms, or at_s")
  else
    match time.atTick with
    | some .mistyped => .error (.timing "at_tick must be an integer")
    | some (.value tick) =>
      if tick.value < 0 then .error (.timing "Timestamps must be non-negative")
      else return tick.map Int.toNat
    | none =>
      if time.atMs.isSome then
        let milliseconds ← decimalTime time.atMs "at_ms"
        let scaled ← trapped (defaultDecimalContext.multiply milliseconds frequencyMode.hertz)
        let ticks ← trapped (defaultDecimalContext.divide scaled 1000)
        return .plain (← exactTick ticks "at_ms" frequencyMode)
      else
        let seconds ← decimalTime time.atS "at_s"
        let ticks ← trapped (defaultDecimalContext.multiply seconds frequencyMode.hertz)
        return .plain (← exactTick ticks "at_s" frequencyMode)

/-- The two values of a tuple passed for a time range. -/
def twoValues {α : Type} (values : TimeRange α) :
    Except HilRigError (Option (Passed α) × Option (Passed α)) :=
  match values with
  | .value pair => .ok pair
  | .mistyped => .error (.timing "A time range must be a two-value tuple")

/-- Resolve exactly one two-value time range into inclusive tick bounds. -/
def resolveTimeRange (frequencyMode : FrequencyMode) (range : RangeOptions) :
    Except HilRigError {bounds : Builtin ℕ × Builtin ℕ // bounds.1.value ≤ bounds.2.value} := do
  if supplied range.ticks range.milliseconds range.seconds ≠ 1 then
    .error (.timing "Specify exactly one tick, millisecond, or second range")
  else
    let (first, second) : TimeOptions × TimeOptions ←
      match range.ticks, range.milliseconds, range.seconds with
      | some ticks, _, _ => do
        let pair ← twoValues ticks
        pure ({ atTick := pair.1 }, { atTick := pair.2 })
      | none, some milliseconds, _ => do
        let pair ← twoValues milliseconds
        pure ({ atMs := pair.1 }, { atMs := pair.2 })
      | none, none, some seconds => do
        let pair ← twoValues seconds
        pure ({ atS := pair.1 }, { atS := pair.2 })
      | none, none, none => .error (.timing "A time range must be a two-value tuple")
    let start ← resolveTimestamp frequencyMode first
    let finish ← resolveTimestamp frequencyMode second
    if h : start.value ≤ finish.value then return ⟨(start, finish), h⟩
    else .error (.timing "The start of a time range must not be after its end")

/-- The range given by two options, which have to be given together. -/
def optionalPair {α : Type} (start finish : Option (Passed α)) (names : String) :
    Except HilRigError (Option (TimeRange α)) :=
  if start.isNone ≠ finish.isNone then .error (.timing s!"Specify both {names}")
  else if start.isNone then .ok none
  else .ok (some (.value (start, finish)))

/-- The options of a call for the two ends of a range. -/
structure BoundOptions where
  fromTick : Option (Passed (Builtin ℤ)) := none
  untilTick : Option (Passed (Builtin ℤ)) := none
  fromMs : Option (Passed Quantity) := none
  untilMs : Option (Passed Quantity) := none
  fromS : Option (Passed Quantity) := none
  untilS : Option (Passed Quantity) := none

/-- The range options given by the options for both ends. -/
def BoundOptions.range (bounds : BoundOptions) : Except HilRigError RangeOptions := do
  let ticks ← optionalPair bounds.fromTick bounds.untilTick "from_tick and until_tick"
  let milliseconds ← optionalPair bounds.fromMs bounds.untilMs "from_ms and until_ms"
  let seconds ← optionalPair bounds.fromS bounds.untilS "from_s and until_s"
  return { ticks := ticks, milliseconds := milliseconds, seconds := seconds }

end HilRig
