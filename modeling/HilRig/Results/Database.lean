import HilRig.Foundations.Transactions
import HilRig.Results.Records
import Mathlib.Algebra.Ring.Int.Defs
import Mathlib.Data.Fin.VecNotation
import Mathlib.Data.List.MinMax
import Mathlib.Tactic.FinCases

/-!
# The capture database

Its rows hold a result in columns, `tickParameters` and `capturedTick` are the two directions of
that layout, and every table is in insertion order. A statement first binds its integers, which must
fit 64 bits with a sign. The schema's constraints that a record can break are then errors of the
insertion: the primary key of `tick_results`, and the uniqueness and presence of a communication's
ordinal. An `sqlite3.Error` is an exception of a native package.
-/

set_option autoImplicit false
set_option relaxedAutoImplicit false

namespace HilRig.Results

open HilRig.Foundations

/-! ### Columns -/

/-- The stored text of a tick condition. -/
def TickCondition.value : TickCondition → String
  | .ok => "ok"
  | .partialResult => "partial"
  | .executionProblem => "execution_problem"

/-- The condition with a given text. -/
def TickCondition.ofValue (text : String) : Except HilRigError TickCondition :=
  if text = "ok" then .ok .ok
  else if text = "partial" then .ok .partialResult
  else if text = "execution_problem" then .ok .executionProblem
  else .error (.value s!"{text} is not a valid TickCondition")

/-- The stored text of a communication peripheral. -/
def CommunicationPeripheral.value : CommunicationPeripheral → String
  | .i2c => "i2c"
  | .spi => "spi"
  | .uart => "uart"

/-- A row of `tick_results`. -/
structure TickRow where
  tick : ℕ
  condition : String
  problemDetail : Option ℕ
  digitalInputs : Fin 10 → Option ℕ
  analogueInputsUv : Fin 2 → Option ℤ
  pwmPeriodsNs : Fin 2 → Option ℕ
  pwmDutiesPermyriad : Fin 2 → Option ℕ
  deriving DecidableEq

/-- A row of `communication_results`, whose `capture_id` is its position. -/
structure CommunicationRow where
  tick : ℕ
  ordinal : ℕ
  peripheral : String
  channel : ℕ
  payload : List UInt8
  deriving DecidableEq, Repr

/-- A row of `application_errors`, whose `error_id` is its position. -/
structure ErrorRow where
  tick : Option ℕ
  category : String
  recoverable : ℕ
  detail : String
  diagnosticData : List UInt8
  deriving DecidableEq, Repr

/-- One fixed tick row read back from the capture database. -/
structure CapturedTickResult where
  tick : ℕ
  digitalInputs : Fin 10 → Option Bool
  analogueInputsUv : Fin 2 → Option ℤ
  pwmInputs : Fin 2 → Option PWMMeasurement
  condition : TickCondition
  problemDetail : Option ℕ
  deriving DecidableEq

/-- The columns a result is stored in. -/
def tickParameters (item : TickResult) : TickRow where
  tick := item.tick
  condition := item.condition.value
  problemDetail := item.problemDetail
  digitalInputs := fun channel ↦ (item.digitalInputs channel).map Bool.toNat
  analogueInputsUv := item.analogueInputsUv
  pwmPeriodsNs := fun channel ↦ (item.pwmInputs channel).map PWMMeasurement.periodNs
  pwmDutiesPermyriad := fun channel ↦ (item.pwmInputs channel).map PWMMeasurement.dutyPermyriad

/-- The measurement of two columns, when both are present. -/
def pwmMeasurement (periodNs dutyPermyriad : Option ℕ) :
    Except HilRigError (Option PWMMeasurement) :=
  match periodNs, dutyPermyriad with
  | some periodNs, some dutyPermyriad => some <$> PWMMeasurement.create periodNs dutyPermyriad
  | _, _ => .ok none

/-- The result a row holds. -/
def capturedTick (row : TickRow) : Except HilRigError CapturedTickResult := do
  let first ← pwmMeasurement (row.pwmPeriodsNs 0) (row.pwmDutiesPermyriad 0)
  let second ← pwmMeasurement (row.pwmPeriodsNs 1) (row.pwmDutiesPermyriad 1)
  let condition ← TickCondition.ofValue row.condition
  return {
    tick := row.tick
    condition := condition
    problemDetail := row.problemDetail
    digitalInputs := fun channel ↦ (row.digitalInputs channel).map fun value ↦ value != 0
    analogueInputsUv := row.analogueInputsUv
    pwmInputs := ![first, second] }

/-- The captured form of a result. -/
def TickResult.captured (item : TickResult) : CapturedTickResult where
  tick := item.tick
  digitalInputs := item.digitalInputs
  analogueInputsUv := item.analogueInputsUv
  pwmInputs := item.pwmInputs
  condition := item.condition
  problemDetail := item.problemDetail

/-- The columns a communication is stored in, once it has an ordinal. -/
def communicationParameters (item : CommunicationResult) : CommunicationRow where
  tick := item.tick
  ordinal := item.ordinal.getD 0
  peripheral := item.peripheral.value
  channel := item.channel
  payload := item.payload

/-- The columns an error is stored in. -/
def errorParameters (item : ApplicationErrorRecord) : ErrorRow where
  tick := item.tick
  category := item.category
  recoverable := item.recoverable.toNat
  detail := item.detail
  diagnosticData := item.diagnosticData

/-! ### Bound integers -/

/-- Whether an integer can be bound to a column: it has 64 bits, one of them for the sign. -/
def fitsInteger : ℤ → Bool
  | .ofNat value => value < 2 ^ 63
  | .negSucc value => value < 2 ^ 63

theorem fitsInteger_iff {value : ℤ} :
    fitsInteger value = true ↔ -2 ^ 63 ≤ value ∧ value < 2 ^ 63 := by
  cases value with
  | ofNat value =>
    rw [fitsInteger, decide_eq_true_iff, Int.ofNat_eq_natCast]
    omega
  | negSucc value =>
    rw [fitsInteger, decide_eq_true_iff]
    omega

/-- An `OverflowError` of a parameter. -/
def integerOverflow : HilRigError :=
  ⟨.overflowError, "Python int too large to convert to SQLite INTEGER"⟩

/-- Whether an integer that may be absent fits. -/
def fitsColumn (value : Option ℤ) : Bool :=
  value.all fitsInteger

/-- Whether the integers of a row fit. -/
def TickRow.fits (row : TickRow) : Bool :=
  fitsInteger row.tick && fitsColumn (row.problemDetail.map Nat.cast) &&
    (List.finRange 10).all (fun channel ↦ fitsColumn ((row.digitalInputs channel).map Nat.cast)) &&
    (List.finRange 2).all (fun channel ↦ fitsColumn (row.analogueInputsUv channel) &&
      fitsColumn ((row.pwmPeriodsNs channel).map Nat.cast) &&
      fitsColumn ((row.pwmDutiesPermyriad channel).map Nat.cast))

/-- Whether the integers of a row fit. -/
def CommunicationRow.fits (row : CommunicationRow) : Bool :=
  fitsInteger row.tick && fitsInteger row.ordinal && fitsInteger row.channel

/-- Whether the integers of a row fit. -/
def ErrorRow.fits (row : ErrorRow) : Bool :=
  fitsColumn (row.tick.map Nat.cast) && fitsInteger row.recoverable

section RoundTrip

theorem TickCondition.ofValue_value (condition : TickCondition) :
    TickCondition.ofValue condition.value = .ok condition := by
  cases condition <;> decide

theorem pwmMeasurement_columns (measurement : Option PWMMeasurement) :
    pwmMeasurement (measurement.map PWMMeasurement.periodNs)
      (measurement.map PWMMeasurement.dutyPermyriad) = .ok measurement := by
  cases measurement with
  | none => rfl
  | some measurement =>
    simp only [Option.map_some, pwmMeasurement, PWMMeasurement.create,
      dif_pos measurement.dutyPermyriad_le]
    rfl

/-- A stored result is read back as it was. -/
theorem capturedTick_tickParameters (item : TickResult) :
    capturedTick (tickParameters item) = .ok item.captured := by
  have hdigital : (fun channel ↦ ((item.digitalInputs channel).map Bool.toNat).map
      fun value ↦ value != 0) = item.digitalInputs := by
    funext channel
    cases item.digitalInputs channel with
    | none => rfl
    | some value => cases value <;> rfl
  have hpwm : ![item.pwmInputs 0, item.pwmInputs 1] = item.pwmInputs := by
    funext channel
    fin_cases channel <;> rfl
  simp only [capturedTick, tickParameters, pwmMeasurement_columns, TickCondition.ofValue_value,
    hdigital, hpwm, TickResult.captured, bind, Except.bind, pure, Except.pure]

end RoundTrip

/-! ### Tables and metadata -/

/-- The tables of one capture, each in insertion order, and the metadata that writing changes. -/
@[ext] structure CaptureDatabase where
  expectedTickCount : ℕ
  expectedTickCount_pos : 0 < expectedTickCount
  receivedTickCount : ℕ := 0
  firstTick : Option ℕ := none
  lastTick : Option ℕ := none
  status : CaptureStatus := .inProgress
  tickResults : List TickRow := []
  communicationResults : List CommunicationRow := []
  applicationErrors : List ErrorRow := []

instance : DecidableEq CaptureDatabase := fun _ _ ↦
  decidable_of_iff' _ CaptureDatabase.ext_iff

/-- The stored ticks. -/
def CaptureDatabase.ticks (database : CaptureDatabase) : List ℕ :=
  database.tickResults.map TickRow.tick

/-- A change of a capture by one statement. -/
abbrev CaptureStatement := CaptureDatabase → Except HilRigError CaptureDatabase

/-- One row more in `tick_results`. -/
def insertTick (item : TickResult) : CaptureStatement := fun database ↦
  if ¬(tickParameters item).fits then .error integerOverflow
  else if item.tick ∈ database.ticks then
    .error ⟨.native, "UNIQUE constraint failed: tick_results.tick"⟩
  else .ok { database with tickResults := database.tickResults ++ [tickParameters item] }

/-- The metadata after a number of ticks between `first` and `last`. -/
def recordTicks (count first last : ℕ) : CaptureStatement := fun database ↦
  .ok { database with
    receivedTickCount := database.receivedTickCount + count
    firstTick :=
      match database.firstTick with
      | none => some first
      | some tick => if first < tick then some first else some tick
    lastTick :=
      match database.lastTick with
      | none => some last
      | some tick => if tick < last then some last else some tick }

/-- One row more in `communication_results`. -/
def insertCommunication (item : CommunicationResult) : CaptureStatement := fun database ↦
  if ¬(communicationParameters item).fits then .error integerOverflow
  else if item.ordinal = none then
    .error ⟨.native, "NOT NULL constraint failed: communication_results.ordinal"⟩
  else if database.communicationResults.any fun row ↦ row.tick = item.tick ∧
      row.peripheral = item.peripheral.value ∧ row.channel = item.channel ∧
      some row.ordinal = item.ordinal then
    .error ⟨.native, "UNIQUE constraint failed: communication_results.tick, " ++
      "communication_results.peripheral, communication_results.channel, " ++
      "communication_results.ordinal"⟩
  else .ok { database with
    communicationResults := database.communicationResults ++ [communicationParameters item] }

/-- One row more in `application_errors`. -/
def insertError (item : ApplicationErrorRecord) : CaptureStatement := fun database ↦
  if ¬(errorParameters item).fits then .error integerOverflow
  else .ok { database with
    applicationErrors := database.applicationErrors ++ [errorParameters item] }

/-- A capture for a run of some expected ticks, as it is initialized. -/
def initializeCaptureDatabase (expectedTickCount : ℕ) (hpositive : 0 < expectedTickCount) :
    CaptureDatabase where
  expectedTickCount := expectedTickCount
  expectedTickCount_pos := hpositive

end HilRig.Results
