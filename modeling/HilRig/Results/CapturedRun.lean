import HilRig.Foundations.Iteration
import HilRig.Models.Identifiers
import HilRig.Results.Snapshot
import HilRig.Results.Writer

/-!
# Reading a captured run

A capture file is created for one upload attempt of a compiled test, with the snapshot of its
assertions and empty tables. `CapturedRunIR` is the read-only facade over such a file: the run
summary, the assertion sets, the stored errors, and the fixed results by tick and by input channel.
When the rows are those of some results with distinct ticks, one tick reads the result stored for it
(`readTick_eq`), and a range reads the results of its ticks in ascending order (`readTicks_eq`), as
long as the ticks of the query fit a column.
-/

set_option autoImplicit false
set_option relaxedAutoImplicit false

namespace HilRig.Results

open HilRig.Models HilRig.Foundations

/-! ### Capture files -/

/-- The contents of a capture file. -/
structure CaptureFile where
  testId : ℕ
  applicationTestId : ℕ
  runId : ℕ
  testName : String
  tickPeriodNs : ℕ
  applicationProtocolVersion : Option String
  firmwareVersion : Option String
  assertionSets : List AssertionSetRow
  assertionDefinitions : List AssertionRow
  database : CaptureDatabase

/-- Refuse a blank text. -/
def optionalText (value : Option String) (name : String) :
    Except HilRigError (Option String) :=
  if value.any fun text ↦ text.toList.all isSpace then
    .error (.value s!"{name} must not be blank")
  else .ok value

/-- An integer column of the metadata. -/
def metadataInteger (value : ℕ) : Except HilRigError ℕ :=
  if ¬fitsInteger value then .error integerOverflow else .ok value

/-- Create a new capture file, with the compiled assertions as its original set. -/
def createCaptureFile (attempt : UploadAttempt) (runId : Fin (2 ^ 128))
    (compiledTest : CompiledTestIR) (hpositive : 0 < compiledTest.expectedTickCount)
    (applicationProtocolVersion firmwareVersion : Option String) :
    Except HilRigError CaptureFile := do
  let tickPeriodNs ← metadataInteger compiledTest.tickPeriodNs
  let _ ← metadataInteger compiledTest.expectedTickCount
  if !isStorableText compiledTest.schemaVersion then
    .error ⟨.native, "CHECK constraint failed: length(trim(compiled_ir_version)) > 0"⟩
  else
    let definitions ← storeAssertions 0 compiledTest.assertions
    return {
      testId := compiledTest.testId
      applicationTestId := attempt.applicationTestId
      runId := runId
      testName := compiledTest.name
      tickPeriodNs := tickPeriodNs
      applicationProtocolVersion := applicationProtocolVersion
      firmwareVersion := firmwareVersion
      assertionSets := [⟨originalAssertionSetId, "Original compiled assertions",
        compiledTest.schemaVersion⟩]
      assertionDefinitions := definitions
      database := initializeCaptureDatabase compiledTest.expectedTickCount hpositive }

/-- Create the capture of one upload attempt of a compiled test. -/
def CaptureFile.fromCompiledTest (compiledTest : CompiledTestIR)
    (uploadAttempt : Option UploadAttempt) (draws : List (Fin (2 ^ 128)))
    (runId : Fin (2 ^ 128)) (applicationProtocolVersion firmwareVersion : Option String) :
    Except HilRigError CaptureFile := do
  let attempt ← uploadAttempt.elim (compiledTest.newUploadAttempt draws) .ok
  if attempt.definitionTestId ≠ compiledTest.testId then
    .error (.value "upload_attempt belongs to a different compiled test")
  else if compiledTest.name.toList.all isSpace then
    .error (.value "test_name must be a non-empty string")
  else if compiledTest.tickPeriodNs = 0 then
    .error (.value "tick_period_ns must be positive")
  else if hpositive : 0 < compiledTest.expectedTickCount then
    let _ ← optionalText (some compiledTest.schemaVersion) "compiled_ir_version"
    let protocolVersion ← optionalText applicationProtocolVersion "application_protocol_version"
    let firmwareVersion ← optionalText firmwareVersion "firmware_version"
    createCaptureFile attempt runId compiledTest hpositive protocolVersion firmwareVersion
  else .error (.value "expected_tick_count must be positive")

/-! ### The facade -/

/-- A capture file with an original assertion set. -/
structure CapturedRunIR where
  file : CaptureFile
  original : file.assertionSets.any (fun row ↦ row.assertionSetId = originalAssertionSetId) = true

/-- Open and validate a capture file. -/
def CapturedRunIR.ofFile (file : CaptureFile) : Except HilRigError CapturedRunIR :=
  if h : file.assertionSets.any (fun row ↦ row.assertionSetId = originalAssertionSetId) = true then
    .ok ⟨file, h⟩
  else .error ⟨.captureSchema, "Capture database has no original assertion set"⟩

/-- A capture with ticks of a millisecond and no assertions. -/
def millisecondRun (database : CaptureDatabase) : CapturedRunIR where
  file :=
    { testId := 0
      applicationTestId := 0
      runId := 0
      testName := "capture"
      tickPeriodNs := 1000000
      applicationProtocolVersion := none
      firmwareVersion := none
      assertionSets := [⟨originalAssertionSetId, "Original compiled assertions", "1.1"⟩]
      assertionDefinitions := []
      database := database }
  original := rfl

/-- The run summary. -/
structure CapturedRunMetadata where
  testId : ℕ
  applicationTestId : ℕ
  runId : ℕ
  testName : String
  tickPeriodNs : ℕ
  expectedTickCount : ℕ
  receivedTickCount : ℕ
  firstTick : Option ℕ
  lastTick : Option ℕ
  status : CaptureStatus
  applicationProtocolVersion : Option String
  firmwareVersion : Option String
  schemaVersion : String := "1.2"
  deriving DecidableEq, Repr

/-- A stored assertion set. -/
structure CapturedAssertionSet where
  assertionSetId : String
  name : String
  compiledIrVersion : String
  assertions : List CompiledAssertion
  deriving DecidableEq, Repr

/-- One stored application-layer diagnostic. -/
structure CapturedApplicationError where
  errorId : ℕ
  category : String
  detail : String
  recoverable : Bool
  tick : Option ℕ
  diagnosticData : List UInt8
  deriving DecidableEq, Repr

/-- The error a row holds; the rows are numbered from one. -/
def capturedError (row : ErrorRow) (position : ℕ) : CapturedApplicationError where
  errorId := position + 1
  category := row.category
  detail := row.detail
  recoverable := row.recoverable != 0
  tick := row.tick
  diagnosticData := row.diagnosticData

/-- Refuse a negative integer. -/
def nonNegativeTick (value : ℤ) (name : String) : Except HilRigError ℕ :=
  if value < 0 then .error (.value s!"{name} must be non-negative") else .ok value.toNat

/-- A channel below the number of channels of its kind. -/
def inputChannel (value : ℤ) (count : ℕ) (peripheral : String) :
    Except HilRigError (Fin count) := do
  let channel ← nonNegativeTick value "channel"
  if h : channel < count then return ⟨channel, h⟩
  else .error (.value s!"{peripheral} channel must be between 0 and {count - 1}")

/-- One fixed tick row. -/
def readTick (database : CaptureDatabase) (tick : ℕ) :
    Except HilRigError (Option CapturedTickResult) :=
  if ¬fitsInteger tick then .error integerOverflow
  else match database.tickResults.find? fun row ↦ row.tick = tick with
  | some row => some <$> capturedTick row
  | none => .ok none

/-- The fixed tick rows of an inclusive range, in chronological order. The query is executed when
the first row is asked for. -/
def readTicks (database : CaptureDatabase) (fromTick : ℕ) (untilTick : Option ℕ) :
    Iteration HilRigError CapturedTickResult :=
  if ¬(fitsInteger fromTick && fitsColumn (untilTick.map Nat.cast)) then .raise integerOverflow
  else .translate capturedTick ((database.tickResults.filter fun row ↦
    fromTick ≤ row.tick ∧ untilTick.all fun last ↦ row.tick ≤ last).insertionSort
      fun first second ↦ first.tick ≤ second.tick)

/-- The bounds of a range: both are non-negative, and they are ordered. -/
def validateRange (fromTick : ℤ) (untilTick : Option ℤ) :
    Except HilRigError (ℕ × Option ℕ) := do
  let first ← nonNegativeTick fromTick "from_tick"
  match untilTick with
  | none => return (first, none)
  | some untilTick =>
    let last ← nonNegativeTick untilTick "until_tick"
    if last < first then .error (.value "from_tick must not be after until_tick")
    else return (first, some last)

/-- One channel's sample with its validity context. -/
structure InputSample (Value : Type) where
  tick : ℕ
  timeNs : ℕ
  value : Option Value
  condition : TickCondition
  problemDetail : Option ℕ

/-- A read-only query view of one input channel. -/
structure InputSeries (Value : Type) where
  run : CapturedRunIR
  value : CapturedTickResult → Option Value

namespace CapturedRunIR

variable (run : CapturedRunIR)

def metadata : CapturedRunMetadata where
  testId := run.file.testId
  applicationTestId := run.file.applicationTestId
  runId := run.file.runId
  testName := run.file.testName
  tickPeriodNs := run.file.tickPeriodNs
  expectedTickCount := run.file.database.expectedTickCount
  receivedTickCount := run.file.database.receivedTickCount
  firstTick := run.file.database.firstTick
  lastTick := run.file.database.lastTick
  status := run.file.database.status
  applicationProtocolVersion := run.file.applicationProtocolVersion
  firmwareVersion := run.file.firmwareVersion

/-- One stored assertion set by identifier. -/
def assertionSet (assertionSetId : String) : Except HilRigError CapturedAssertionSet := do
  if assertionSetId.toList.all isSpace then
    .error (.value "assertion_set_id must not be blank")
  else
    match run.file.assertionSets.find? fun row ↦ row.assertionSetId = assertionSetId with
    | none => .error ⟨.keyError, s!"Unknown assertion set: {assertionSetId}"⟩
    | some row =>
      let assertions ← readAssertions run.file.assertionDefinitions assertionSetId
      return ⟨row.assertionSetId, row.name, row.compiledIrVersion, assertions⟩

/-- One fixed result, or none when that tick was not received. -/
def tickAt (tick : ℤ) : Except HilRigError (Option CapturedTickResult) := do
  let tick ← nonNegativeTick tick "tick"
  readTick run.file.database tick

/-- The fixed results of an inclusive range. -/
def iterTicks (fromTick : ℤ) (untilTick : Option ℤ) :
    Except HilRigError (Iteration HilRigError CapturedTickResult) := do
  let bounds ← validateRange fromTick untilTick
  return readTicks run.file.database bounds.1 bounds.2

/-- The stored diagnostics in arrival order. -/
def applicationErrors : List CapturedApplicationError :=
  run.file.database.applicationErrors.zipIdx.map fun entry ↦ capturedError entry.1 entry.2

def digitalInput (channel : ℤ) : Except HilRigError (InputSeries Bool) := do
  let channel ← inputChannel channel 10 "digital input"
  return ⟨run, fun result ↦ result.digitalInputs channel⟩

def analogueInput (channel : ℤ) : Except HilRigError (InputSeries ℤ) := do
  let channel ← inputChannel channel 2 "analogue input"
  return ⟨run, fun result ↦ result.analogueInputsUv channel⟩

def pwmInput (channel : ℤ) : Except HilRigError (InputSeries PWMMeasurement) := do
  let channel ← inputChannel channel 2 "PWM input"
  return ⟨run, fun result ↦ result.pwmInputs channel⟩

end CapturedRunIR

namespace InputSeries

variable {Value : Type} (series : InputSeries Value)

/-- The channel's sample in a result. -/
def sample (result : CapturedTickResult) : InputSample Value where
  tick := result.tick
  timeNs := result.tick * series.run.file.tickPeriodNs
  value := series.value result
  condition := result.condition
  problemDetail := result.problemDetail

def sampleAt (tick : ℤ) : Except HilRigError (Option (InputSample Value)) := do
  let result ← series.run.tickAt tick
  return result.map series.sample

def iterSamples (fromTick : ℤ) (untilTick : Option ℤ) :
    Except HilRigError (Iteration HilRigError (InputSample Value)) := do
  let results ← series.run.iterTicks fromTick untilTick
  return results.map series.sample

end InputSeries

/-! ### What a file was created with -/

section Creation

variable {compiledTest : CompiledTestIR} {uploadAttempt : Option UploadAttempt}
  {draws : List (Fin (2 ^ 128))} {runId : Fin (2 ^ 128)}
  {applicationProtocolVersion firmwareVersion : Option String} {file : CaptureFile}

/-- A new file has the stored assertions of its test as its only set, and no rows. -/
theorem fromCompiledTest_eq_ok
    (hfile : CaptureFile.fromCompiledTest compiledTest uploadAttempt draws runId
      applicationProtocolVersion firmwareVersion = .ok file) :
    storeAssertions 0 compiledTest.assertions = .ok file.assertionDefinitions ∧
      file.assertionSets = [⟨originalAssertionSetId, "Original compiled assertions",
        compiledTest.schemaVersion⟩] ∧
      ∃ hpositive, file.database =
        initializeCaptureDatabase compiledTest.expectedTickCount hpositive := by
  obtain ⟨attempt, -, hfile⟩ := bind_eq_ok.1 hfile
  obtain ⟨-, hfile⟩ := ite_error_eq_ok.1 hfile
  obtain ⟨-, hfile⟩ := ite_error_eq_ok.1 hfile
  obtain ⟨-, hfile⟩ := ite_error_eq_ok.1 hfile
  by_cases hpositive : 0 < compiledTest.expectedTickCount
  · rw [dif_pos hpositive] at hfile
    obtain ⟨_, -, hfile⟩ := bind_eq_ok.1 hfile
    obtain ⟨_, -, hfile⟩ := bind_eq_ok.1 hfile
    obtain ⟨_, -, hfile⟩ := bind_eq_ok.1 hfile
    obtain ⟨_, -, hfile⟩ := bind_eq_ok.1 hfile
    obtain ⟨_, -, hfile⟩ := bind_eq_ok.1 hfile
    obtain ⟨-, hfile⟩ := ite_error_eq_ok.1 hfile
    obtain ⟨definitions, hdefinitions, hfile⟩ := bind_eq_ok.1 hfile
    rw [← pure_eq_ok.1 hfile]
    exact ⟨hdefinitions, rfl, hpositive, rfl⟩
  · rw [dif_neg hpositive] at hfile
    cases hfile

end Creation

/-! ### Reading fixed results -/

section Reading

variable {database : CaptureDatabase} {results : List TickResult}

theorem nonNegativeTick_natCast (value : ℕ) (name : String) :
    nonNegativeTick value name = .ok value :=
  if_neg (not_lt.2 (Int.natCast_nonneg value))

theorem inputChannel_natCast {channel count : ℕ} (hchannel : channel < count)
    (peripheral : String) : inputChannel channel count peripheral = .ok ⟨channel, hchannel⟩ := by
  unfold inputChannel
  rw [nonNegativeTick_natCast]
  exact dif_pos hchannel

/-- One tick reads the result that is stored for it. -/
theorem readTick_eq (hrows : database.tickResults = results.map tickParameters) {tick : ℕ}
    (hfits : fitsInteger tick = true) : readTick database tick =
      .ok ((results.find? fun result ↦ result.tick = tick).map TickResult.captured) := by
  rw [readTick, if_neg (not_not.2 hfits), hrows, List.find?_map]
  show (match ((results.find? fun result ↦ result.tick = tick).map tickParameters) with
    | some row => _
    | none => _) = _
  cases results.find? fun result ↦ result.tick = tick with
  | none => rfl
  | some result =>
    show some <$> capturedTick (tickParameters result) = _
    rw [capturedTick_tickParameters]
    rfl

/-- The results of an inclusive range, in chronological order. -/
def resultsWithin (results : List TickResult) (fromTick untilTick : ℕ) : List TickResult :=
  (results.filter fun result ↦ fromTick ≤ result.tick ∧ result.tick ≤ untilTick).insertionSort
    fun first second ↦ first.tick ≤ second.tick

/-- A range reads the results that are stored for its ticks. -/
theorem readTicks_eq (hrows : database.tickResults = results.map tickParameters)
    {fromTick untilTick : ℕ} (hfrom : fitsInteger fromTick = true)
    (huntil : fitsInteger untilTick = true) : readTicks database fromTick (some untilTick) =
      .ofList ((resultsWithin results fromTick untilTick).map TickResult.captured) := by
  have hsorted : ((database.tickResults.filter fun row ↦ fromTick ≤ row.tick ∧
      (some untilTick).all fun last ↦ row.tick ≤ last).insertionSort
        fun first second ↦ first.tick ≤ second.tick) =
      (resultsWithin results fromTick untilTick).map tickParameters := by
    have hfilter : (results.map tickParameters).filter (fun row ↦ fromTick ≤ row.tick ∧
        (some untilTick).all fun last ↦ row.tick ≤ last) =
          (results.filter fun result ↦ fromTick ≤ result.tick ∧ result.tick ≤ untilTick).map
            tickParameters := by
      rw [List.filter_map]
      refine congrArg (List.map tickParameters) (List.filter_congr fun result _ ↦ ?_)
      exact decide_eq_decide.2 (and_congr Iff.rfl decide_eq_true_iff)
    rw [hrows, hfilter, resultsWithin]
    exact (List.map_insertionSort (fun first second : TickResult ↦ first.tick ≤ second.tick)
      (fun first second : TickRow ↦ first.tick ≤ second.tick) tickParameters _
        fun _ _ _ _ ↦ Iff.rfl).symm
  have hfits : (fitsInteger fromTick && fitsColumn ((some untilTick).map Nat.cast)) = true := by
    rw [Option.map_some, fitsColumn, Option.all_some, hfrom, huntil, Bool.and_self]
  rw [readTicks, if_neg (not_not.2 hfits), hsorted]
  exact Iteration.translate_map capturedTick_tickParameters _

theorem mem_resultsWithin {fromTick untilTick : ℕ} {result : TickResult} :
    result ∈ resultsWithin results fromTick untilTick ↔
      result ∈ results ∧ fromTick ≤ result.tick ∧ result.tick ≤ untilTick := by
  rw [resultsWithin, List.mem_insertionSort, List.mem_filter, decide_eq_true_iff]

/-- Results with distinct ticks are read in strictly ascending order. -/
theorem pairwise_resultsWithin (hnodup : (results.map TickResult.tick).Nodup)
    (fromTick untilTick : ℕ) :
    (resultsWithin results fromTick untilTick).Pairwise fun first second ↦
      first.tick < second.tick := by
  have hsorted : (resultsWithin results fromTick untilTick).Pairwise fun first second ↦
      first.tick ≤ second.tick :=
    List.pairwise_insertionSort _ _
  have hdistinct : (resultsWithin results fromTick untilTick).Pairwise fun first second ↦
      first.tick ≠ second.tick := by
    have hkept : ((results.filter fun result ↦ fromTick ≤ result.tick ∧
        result.tick ≤ untilTick).map TickResult.tick).Nodup :=
      hnodup.sublist (List.filter_sublist.map _)
    exact List.pairwise_map.1
      (((List.perm_insertionSort _ _).map TickResult.tick).nodup_iff.2 hkept)
  exact (hsorted.and hdistinct).imp fun horder ↦ lt_of_le_of_ne horder.1 horder.2

end Reading

end HilRig.Results
