import HilRig.Results.CapturedRun

/-!
# The columns of a fixed result

A fixed result is stored as the nineteen values that `tickColumns` lists in the order of the table,
and it is read from a row by the positions of its values (`capturedColumns`). `TickRow` names the
same columns: writing and reading by position are writing and reading by name
(`columns_tickParameters`, `capturedColumns_columns`), so that a stored result is read back as it
was (`capturedColumns_tickColumns`).
-/

set_option autoImplicit false
set_option relaxedAutoImplicit false

namespace HilRig.Results

open HilRig.Foundations

/-- A value of a column. -/
inductive ColumnValue
  | null
  | integer (value : ℤ)
  | text (value : String)
  deriving DecidableEq, Repr

namespace ColumnValue

/-- An optional integer, where `None` is stored as `NULL`. -/
def ofOption : Option ℤ → ColumnValue
  | none => .null
  | some value => .integer value

/-- `int(value)`; a text in an integer column is not a numeral, which the column would convert. -/
def toInt : ColumnValue → Except HilRigError ℤ
  | .null => .error (.type
      "int() argument must be a string, a bytes-like object or a real number, not 'NoneType'")
  | .integer value => .ok value
  | .text value => .error (.value s!"invalid literal for int() with base 10: '{value}'")

/-- `str(value)`. -/
def toText : ColumnValue → String
  | .null => "None"
  | .integer value => toString value
  | .text value => value

/-- `None if value is None else bool(value)`. -/
def toBool : ColumnValue → Option Bool
  | .null => none
  | .integer value => some (value != 0)
  | .text value => some (value != "")

/-- The value of an integer column that the writer filled. -/
def toOption : ColumnValue → Option ℤ
  | .integer value => some value
  | _ => none

end ColumnValue

/-- The two columns of a measurement. -/
def measurementColumns : Option PWMMeasurement → List ColumnValue
  | none => [.null, .null]
  | some measurement => [.integer measurement.periodNs, .integer measurement.dutyPermyriad]

/-- The parameters of the insertion of a result, in the order of the columns. -/
def tickColumns (item : TickResult) : List ColumnValue :=
  [.integer item.tick, .text item.condition.value,
      .ofOption (item.problemDetail.map Nat.cast)] ++
    (List.ofFn item.digitalInputs).map (fun value ↦ .ofOption (value.map fun high ↦ high.toNat)) ++
    (List.ofFn item.analogueInputsUv).map .ofOption ++
    (List.ofFn item.pwmInputs).flatMap measurementColumns

/-- The value at a position of a row. -/
def column (row : List ColumnValue) (position : ℕ) : ColumnValue :=
  row[position]?.getD .null

/-- The measurement of two columns, when neither is `NULL`. -/
def measurementAt (periodNs dutyPermyriad : ColumnValue) :
    Except HilRigError (Option PWMMeasurement) :=
  if periodNs = .null ∨ dutyPermyriad = .null then .ok none
  else do
    let period ← periodNs.toInt
    let duty ← dutyPermyriad.toInt
    let period ← nonNegativeTick period "period_ns"
    let duty ← nonNegativeTick duty "duty_permyriad"
    some <$> PWMMeasurement.create period duty

/-- The result that a row holds, read by position; no stored tick or detail is negative. -/
def capturedColumns (row : List ColumnValue) : Except HilRigError CapturedTickResult := do
  let digital := (row.take 13).drop 3
  let analogue := (row.take 15).drop 13
  let first ← measurementAt (column row 15) (column row 16)
  let second ← measurementAt (column row 17) (column row 18)
  let tick ← (column row 0).toInt
  let condition ← TickCondition.ofValue (column row 1).toText
  let problemDetail ←
    if column row 2 = .null then pure none else some <$> (column row 2).toInt
  return {
    tick := tick.toNat
    condition := condition
    problemDetail := problemDetail.map Int.toNat
    digitalInputs := fun channel ↦ (column digital channel).toBool
    analogueInputsUv := fun channel ↦ (column analogue channel).toOption
    pwmInputs := ![first, second] }

/-- The values of a row with named columns, in the order of the table. -/
def TickRow.columns (row : TickRow) : List ColumnValue :=
  [.integer row.tick, .text row.condition, .ofOption (row.problemDetail.map Nat.cast)] ++
    (List.ofFn row.digitalInputs).map (fun value ↦ .ofOption (value.map Nat.cast)) ++
    (List.ofFn row.analogueInputsUv).map .ofOption ++
    (List.ofFn fun channel ↦ (row.pwmPeriodsNs channel, row.pwmDutiesPermyriad channel)).flatMap
      fun entry ↦ [.ofOption (entry.1.map Nat.cast), .ofOption (entry.2.map Nat.cast)]

section Positions

variable (item : TickResult) (row : TickRow)

/-- The parameters of a result are the values of its row. -/
theorem columns_tickParameters : (tickParameters item).columns = tickColumns item := by
  have hmeasurement (measurement : Option PWMMeasurement) : measurementColumns measurement =
      [.ofOption ((measurement.map PWMMeasurement.periodNs).map Nat.cast),
        .ofOption ((measurement.map PWMMeasurement.dutyPermyriad).map Nat.cast)] := by
    cases measurement <;> rfl
  simp [TickRow.columns, tickColumns, tickParameters, hmeasurement, List.ofFn_succ,
    Function.comp_def]

theorem toOption_ofOption (value : Option ℤ) : (ColumnValue.ofOption value).toOption = value := by
  cases value <;> rfl

theorem toBool_ofOption (value : Option ℕ) :
    (ColumnValue.ofOption (value.map Nat.cast)).toBool = value.map fun bit ↦ bit != 0 := by
  cases value with
  | none => rfl
  | some bit => simp [ColumnValue.ofOption, ColumnValue.toBool, bne]

/-- Two columns with optional naturals are read as they were before. -/
theorem measurementAt_ofOption (periodNs dutyPermyriad : Option ℕ) :
    measurementAt (.ofOption (periodNs.map Nat.cast)) (.ofOption (dutyPermyriad.map Nat.cast)) =
      pwmMeasurement periodNs dutyPermyriad := by
  cases periodNs with
  | none => rfl
  | some period =>
    cases dutyPermyriad with
    | none => rfl
    | some duty =>
      show (nonNegativeTick (period : ℤ) "period_ns" >>= fun period ↦
        nonNegativeTick (duty : ℤ) "duty_permyriad" >>= fun duty ↦ _) = _
      rw [nonNegativeTick_natCast, nonNegativeTick_natCast]
      rfl

/-- Reading a row by position is reading it by name. -/
theorem capturedColumns_columns : capturedColumns row.columns = capturedTick row := by
  have hdigital : (fun channel : Fin 10 ↦ (column ((row.columns.take 13).drop 3) channel).toBool) =
      fun channel ↦ (row.digitalInputs channel).map fun bit ↦ bit != 0 := by
    funext channel
    rw [← toBool_ofOption]
    fin_cases channel <;> rfl
  have hanalogue : (fun channel : Fin 2 ↦
      (column ((row.columns.take 15).drop 13) channel).toOption) = row.analogueInputsUv := by
    funext channel
    rw [← toOption_ofOption (row.analogueInputsUv channel)]
    fin_cases channel <;> rfl
  have htick : column row.columns 0 = .integer row.tick := rfl
  have hcondition : column row.columns 1 = .text row.condition := rfl
  have hdetail : column row.columns 2 = .ofOption (row.problemDetail.map Nat.cast) := rfl
  have hfirst : measurementAt (column row.columns 15) (column row.columns 16) =
      pwmMeasurement (row.pwmPeriodsNs 0) (row.pwmDutiesPermyriad 0) :=
    measurementAt_ofOption _ _
  have hsecond : measurementAt (column row.columns 17) (column row.columns 18) =
      pwmMeasurement (row.pwmPeriodsNs 1) (row.pwmDutiesPermyriad 1) :=
    measurementAt_ofOption _ _
  unfold capturedColumns capturedTick
  dsimp only
  rw [hdigital, hanalogue, hfirst, hsecond, htick, hcondition, hdetail]
  cases row.problemDetail <;> rfl

/-- A stored result is read back from its columns as it was. -/
theorem capturedColumns_tickColumns : capturedColumns (tickColumns item) = .ok item.captured := by
  rw [← columns_tickParameters, capturedColumns_columns, capturedTick_tickParameters]

end Positions

end HilRig.Results
