import HilRig.Foundations.CsvText
import HilRig.Foundations.Numerals
import HilRig.Results.CommunicationQueries

/-!
# CSV exports

A capture is exported as three CSV texts: a wide table of its fixed results, and the communications
and the application errors one a row. An absent value is an empty field, and bytes are hexadecimal
digits. In every state of a builder, what the exports of its capture say is what is stored
(`csvExports_of_run`), whatever the texts and payloads contain.
-/

set_option autoImplicit false
set_option relaxedAutoImplicit false

namespace HilRig.Results

open HilRig.Foundations Relation

/-! ### Fields -/

/-- The field of an optional integer, empty for `None`. -/
def optionalField (value : Option ℤ) : String :=
  value.elim "" toString

/-- The value of a field that holds no text. -/
def readField (field : String) : Option ColumnValue :=
  if field = "" then some .null else (readInteger field.toList).map .integer

/-- The natural of a field that may be empty. -/
def readOptionalNatural (field : String) : Option (Option ℕ) :=
  if field = "" then some none else some <$> readNatural field.toList

/-- The field of some bytes, as `0x` and their digits. -/
def bytesField (bytes : List UInt8) : String :=
  String.ofList ('0' :: 'x' :: hexOfBytes bytes)

def readBytesField (field : String) : Option (List UInt8) :=
  match field.toList with
  | '0' :: 'x' :: digits => readBytes digits
  | _ => none

section Fields

theorem toString_int_ne (value : ℤ) : toString value ≠ "" := by
  intro hempty
  have hread := readInteger_toString value
  rw [hempty] at hread
  cases hread

theorem toString_nat_ne (value : ℕ) : toString value ≠ "" :=
  toString_int_ne value

theorem readField_optionalField (value : Option ℤ) :
    readField (optionalField value) = some (.ofOption value) := by
  cases value with
  | none => rfl
  | some value =>
    show readField (toString value) = _
    rw [readField, if_neg (toString_int_ne value), readInteger_toString]
    rfl

theorem readField_toString (value : ℕ) :
    readField (toString value) = some (.integer value) :=
  readField_optionalField (some value)

theorem readOptionalNatural_optionalField (value : Option ℕ) :
    readOptionalNatural (optionalField (value.map Nat.cast)) = some value := by
  cases value with
  | none => rfl
  | some value =>
    show readOptionalNatural (toString value) = _
    rw [readOptionalNatural, if_neg (toString_nat_ne value), readNatural_toString]
    rfl

theorem readBytesField_bytesField (bytes : List UInt8) :
    readBytesField (bytesField bytes) = some bytes := by
  rw [readBytesField, bytesField, String.toList_ofList]
  exact readBytes_hexOfBytes bytes

end Fields

/-! ### Fixed results -/

/-- The two fields of a measurement. -/
def measurementFields : Option PWMMeasurement → List String
  | none => ["", ""]
  | some measurement => [toString measurement.periodNs, toString measurement.dutyPermyriad]

def fixedResultHeader : List String :=
  ["tick", "time_ns", "condition", "problem_detail"] ++
    (List.range 10).map (fun index ↦ s!"digital_input_{index}") ++
    (List.range 2).map (fun index ↦ s!"analogue_input_{index}_uv") ++
    (List.range 2).flatMap fun index ↦
      [s!"pwm_input_{index}_period_ns", s!"pwm_input_{index}_duty_permyriad"]

/-- The row of a fixed result. -/
def fixedResultRow (tickPeriodNs : ℕ) (result : CapturedTickResult) : List String :=
  [toString result.tick, toString (result.tick * tickPeriodNs), result.condition.value,
      optionalField (result.problemDetail.map Nat.cast)] ++
    (List.ofFn result.digitalInputs).map (fun value ↦
      optionalField (value.map fun high ↦ high.toNat)) ++
    (List.ofFn result.analogueInputsUv).map optionalField ++
    (List.ofFn result.pwmInputs).flatMap measurementFields

/-- What a row of the wide table says. -/
structure FixedResultLine where
  timeNs : ℕ
  result : CapturedTickResult
  deriving DecidableEq

/-- The line of a row: without its time, its values are the columns of a result. -/
def readFixedResult : List String → Option FixedResultLine
  | tick :: time :: condition :: fields => do
    let tick ← readField tick
    let timeNs ← readNatural time.toList
    let values ← fields.mapM readField
    let result ← (capturedColumns (tick :: .text condition :: values)).toOption
    return ⟨timeNs, result⟩
  | _ => none

/-- The wide table of the fixed results. -/
def CapturedRunIR.fixedResultsCsv (run : CapturedRunIR) : Except HilRigError String := do
  let results ← run.iterTicks 0 none
  results.ending
  return writeTable fixedResultHeader (fixedResultRow run.metadata.tickPeriodNs) results.items

section FixedResults

variable {tickPeriodNs : ℕ} (item : TickResult)

/-- The columns of a result after its condition. -/
def TickResult.laterColumns : List (Option ℤ) :=
  item.problemDetail.map Nat.cast ::
    ((List.ofFn item.digitalInputs).map fun value ↦ value.map fun high ↦ (high.toNat : ℤ)) ++
      List.ofFn item.analogueInputsUv ++
        (List.ofFn item.pwmInputs).flatMap fun measurement ↦
          [measurement.map fun value ↦ (value.periodNs : ℤ),
            measurement.map fun value ↦ (value.dutyPermyriad : ℤ)]

theorem tickColumns_eq : tickColumns item =
    .integer item.tick :: .text item.condition.value ::
      item.laterColumns.map ColumnValue.ofOption := by
  have hmeasurement (measurement : Option PWMMeasurement) : measurementColumns measurement =
      [measurement.map fun value ↦ (value.periodNs : ℤ),
        measurement.map fun value ↦ (value.dutyPermyriad : ℤ)].map ColumnValue.ofOption := by
    cases measurement <;> rfl
  simp only [tickColumns, TickResult.laterColumns, funext hmeasurement, List.map_append,
    List.map_cons, List.map_map, List.map_flatMap, List.cons_append, List.nil_append,
    List.append_assoc, Function.comp_def]

theorem fixedResultRow_eq : fixedResultRow tickPeriodNs item.captured =
    toString item.tick :: toString (item.tick * tickPeriodNs) :: item.condition.value ::
      item.laterColumns.map optionalField := by
  have hmeasurement (measurement : Option PWMMeasurement) : measurementFields measurement =
      [measurement.map fun value ↦ (value.periodNs : ℤ),
        measurement.map fun value ↦ (value.dutyPermyriad : ℤ)].map optionalField := by
    cases measurement <;> rfl
  simp only [fixedResultRow, TickResult.captured, TickResult.laterColumns, funext hmeasurement,
    List.map_append, List.map_cons, List.map_map, List.map_flatMap, List.cons_append,
    List.nil_append, List.append_assoc, Function.comp_def]

/-- The row of a stored result is read back as its line. -/
theorem readFixedResult_fixedResultRow :
    readFixedResult (fixedResultRow tickPeriodNs item.captured) =
      some ⟨item.tick * tickPeriodNs, item.captured⟩ := by
  have hvalues : (item.laterColumns.map optionalField).mapM readField =
      some (item.laterColumns.map .ofOption) :=
    mapM_map_of_forall fun value _ ↦ readField_optionalField value
  rw [fixedResultRow_eq]
  dsimp only [readFixedResult, bind, Option.bind]
  rw [readField_toString, readNatural_toString, hvalues]
  dsimp only
  rw [← tickColumns_eq, capturedColumns_tickColumns]
  rfl

theorem fixedResultRow_ne (result : CapturedTickResult) :
    fixedResultRow tickPeriodNs result ≠ [] :=
  List.cons_ne_nil _ _

end FixedResults

/-! ### Communications -/

def communicationHeader : List String :=
  ["capture_id", "tick", "time_ns", "ordinal", "peripheral", "channel", "payload_size",
    "payload_hex"]

def CommunicationCapture.payloadSize (capture : CommunicationCapture) : ℕ :=
  capture.payload.length

/-- The row of a communication. -/
def communicationFields (capture : CommunicationCapture) : List String :=
  [toString capture.captureId, toString capture.tick, toString capture.timeNs,
    toString capture.ordinal, capture.peripheral.value, toString capture.channel,
    toString capture.payloadSize, bytesField capture.payload]

/-- The capture of a row, whose payload has the size that the row says. -/
def readCommunicationFields : List String → Option CommunicationCapture
  | [captureId, tick, timeNs, ordinal, peripheral, channel, payloadSize, payload] => do
    let captureId ← readNatural captureId.toList
    let tick ← readNatural tick.toList
    let timeNs ← readNatural timeNs.toList
    let ordinal ← readNatural ordinal.toList
    let peripheral ← (CommunicationPeripheral.ofValue peripheral).toOption
    let channel ← readNatural channel.toList
    let payloadSize ← readNatural payloadSize.toList
    let payload ← readBytesField payload
    if payload.length = payloadSize then
      some ⟨captureId, tick, timeNs, ordinal, peripheral, channel, payload⟩
    else none
  | _ => none

/-- The raw payloads as hexadecimal fields. -/
def CapturedRunIR.communicationResultsCsv (run : CapturedRunIR) : Except HilRigError String := do
  let results ← run.iterCommunications none none 0 none
  results.ending
  return writeTable communicationHeader communicationFields results.items

/-- The row of a communication is read back as it was. -/
theorem readCommunicationFields_communicationFields (capture : CommunicationCapture) :
    readCommunicationFields (communicationFields capture) = some capture := by
  dsimp only [readCommunicationFields, communicationFields, bind, Option.bind]
  rw [readNatural_toString, readNatural_toString, readNatural_toString, readNatural_toString,
    CommunicationPeripheral.ofValue_value, readNatural_toString, readNatural_toString,
    readBytesField_bytesField]
  exact if_pos rfl

/-! ### Application errors -/

def errorHeader : List String :=
  ["error_id", "tick", "time_ns", "category", "recoverable", "detail", "diagnostic_data_hex"]

/-- The row of an application error. -/
def errorFields (tickPeriodNs : ℕ) (error : CapturedApplicationError) : List String :=
  [toString error.errorId, optionalField (error.tick.map Nat.cast),
    optionalField (error.tick.map fun tick ↦ ((tick * tickPeriodNs : ℕ) : ℤ)), error.category,
    toString error.recoverable.toNat, error.detail, bytesField error.diagnosticData]

/-- What a row of the errors says. -/
structure ErrorLine where
  timeNs : Option ℕ
  error : CapturedApplicationError
  deriving DecidableEq

def readErrorFields : List String → Option ErrorLine
  | [errorId, tick, timeNs, category, recoverable, detail, diagnosticData] => do
    let errorId ← readNatural errorId.toList
    let tick ← readOptionalNatural tick
    let timeNs ← readOptionalNatural timeNs
    let recoverable ← readNatural recoverable.toList
    let diagnosticData ← readBytesField diagnosticData
    return ⟨timeNs, errorId, category, detail, recoverable != 0, tick, diagnosticData⟩
  | _ => none

/-- The application diagnostics, uninterpreted. -/
def CapturedRunIR.applicationErrorsCsv (run : CapturedRunIR) : String :=
  writeTable errorHeader (errorFields run.metadata.tickPeriodNs) run.applicationErrors

/-- The line of an error. -/
def errorLine (tickPeriodNs : ℕ) (error : CapturedApplicationError) : ErrorLine :=
  ⟨error.tick.map fun tick ↦ tick * tickPeriodNs, error⟩

/-- The row of an error is read back as its line. -/
theorem readErrorFields_errorFields (tickPeriodNs : ℕ) (error : CapturedApplicationError) :
    readErrorFields (errorFields tickPeriodNs error) = some (errorLine tickPeriodNs error) := by
  have htime : (error.tick.map fun tick ↦ ((tick * tickPeriodNs : ℕ) : ℤ)) =
      (error.tick.map fun tick ↦ tick * tickPeriodNs).map Nat.cast := by
    rw [Option.map_map]
    rfl
  have hrecoverable : (error.recoverable.toNat != 0) = error.recoverable := by
    cases error.recoverable <;> rfl
  rw [errorFields, htime]
  dsimp only [readErrorFields, bind, Option.bind]
  rw [readNatural_toString, readOptionalNatural_optionalField, readOptionalNatural_optionalField,
    readNatural_toString, readBytesField_bytesField]
  dsimp only
  rw [hrecoverable]
  rfl

/-! ### Every state of a builder -/

/-- The diagnostic that a stored error is read back as; the rows are numbered from one. -/
def storedError (entry : ApplicationErrorRecord × ℕ) : CapturedApplicationError where
  errorId := entry.2 + 1
  category := entry.1.category
  detail := entry.1.detail
  recoverable := entry.1.recoverable
  tick := entry.1.tick
  diagnosticData := entry.1.diagnosticData

section Runs

variable {settings : BuilderSettings} {faults : ℕ → Option HilRigError} {state : BuilderState}
  {run : CapturedRunIR} {results : List TickResult} {items : List CommunicationResult}
  {errors : List ApplicationErrorRecord}

/-- The wide table says what the stored results are, in chronological order. -/
theorem fixedResultsCsv_of_rows
    (hrows : run.file.database.tickResults = results.map tickParameters)
    (hnodup : (results.map TickResult.tick).Nodup)
    (hticks : ∀ result ∈ results, fitsInteger result.tick = true) :
    ∃ (text : String) (ordered : List TickResult), run.fixedResultsCsv = .ok text ∧
      ordered.Perm results ∧
      ordered.Pairwise (fun first second ↦ first.tick < second.tick) ∧
      readTable fixedResultHeader readFixedResult text = some (ordered.map fun result ↦
        ⟨result.tick * run.file.tickPeriodNs, result.captured⟩) := by
  obtain ⟨limit, hticks, hlimit⟩ := @exists_resultsWithin run results hrows hticks 0 rfl none
    fun _ hlast ↦ absurd hlast (Option.not_mem_none _)
  have hall : results.filter (fun result ↦ 0 ≤ result.tick ∧ result.tick ≤ limit) = results := by
    refine List.filter_eq_self.2 fun result hresult ↦ decide_eq_true ⟨Nat.zero_le _, ?_⟩
    exact (hlimit result hresult).2 fun _ hlast ↦ absurd hlast (Option.not_mem_none _)
  have hperm : (resultsWithin results 0 limit).Perm results := by
    rw [resultsWithin, hall]
    exact List.perm_insertionSort _ _
  have hcsv : run.fixedResultsCsv = .ok (writeTable fixedResultHeader
      (fixedResultRow run.file.tickPeriodNs)
        ((resultsWithin results 0 limit).map TickResult.captured)) := by
    show (run.iterTicks ((0 : ℕ) : ℤ) (Option.map Nat.cast (none : Option ℕ)) >>= _) = _
    rw [hticks]
    rfl
  refine ⟨_, _, hcsv, hperm, pairwise_resultsWithin hnodup 0 limit, ?_⟩
  rw [writeTable_map]
  exact readTable_writeTable (List.cons_ne_nil _ _) (fun result _ ↦ fixedResultRow_ne _)
    fun result _ ↦ readFixedResult_fixedResultRow result

/-- The table of communications says what a query of all of them yields. -/
theorem communicationResultsCsv_of_rows
    (hrows : run.file.database.communicationResults = items.map communicationParameters) :
    ∃ text, run.communicationResultsCsv = .ok text ∧
      readTable communicationHeader readCommunicationFields text =
        some (allCaptures run.file.tickPeriodNs items) := by
  have hquery : run.iterCommunications none none 0 none =
      .ok (.ofList (allCaptures run.file.tickPeriodNs items)) := by
    refine (iterCommunications_eq valid_wide).trans ?_
    rw [readCommunications_eq hrows valid_wide,
      List.filter_eq_self.2 fun capture _ ↦ keeps_of_wide capture]
  have hcsv : run.communicationResultsCsv = .ok (writeTable communicationHeader
      communicationFields (allCaptures run.file.tickPeriodNs items)) := by
    unfold CapturedRunIR.communicationResultsCsv
    rw [hquery]
    rfl
  have hread := @readTable_writeTable _ _ communicationHeader communicationFields
    readCommunicationFields id (allCaptures run.file.tickPeriodNs items) (List.cons_ne_nil _ _)
      (fun capture _ ↦ List.cons_ne_nil _ _)
        fun capture _ ↦ readCommunicationFields_communicationFields capture
  rw [List.map_id] at hread
  exact ⟨_, hcsv, hread⟩

/-- A stored error is read as its diagnostic. -/
theorem applicationErrors_of_rows
    (hrows : run.file.database.applicationErrors = errors.map errorParameters) :
    run.applicationErrors = errors.zipIdx.map storedError := by
  rw [CapturedRunIR.applicationErrors, hrows, List.zipIdx_map, List.map_map]
  refine List.map_congr_left fun entry _ ↦ ?_
  obtain ⟨error, position⟩ := entry
  have hrecoverable : (error.recoverable.toNat != 0) = error.recoverable := by
    cases error.recoverable <;> rfl
  show (⟨position + 1, error.category, error.detail, error.recoverable.toNat != 0, error.tick,
    error.diagnosticData⟩ : CapturedApplicationError) = _
  rw [hrecoverable]
  rfl

/-- In every state of every run of a builder, the three CSV exports of its capture can be read
back, and say what is stored: the fixed results with their times in chronological order, the
communications in the order of a query, and the errors in the order of their arrival. -/
theorem csvExports_of_run
    (hrun : ReflTransGen (BuilderStep settings faults) (.initial settings) state)
    (hfile : run.file.database = state.session.committed) :
    (∃ (text : String) (ordered : List TickResult), run.fixedResultsCsv = .ok text ∧
      ordered.Perm (ticksOf state.trace.stored) ∧
      ordered.Pairwise (fun first second ↦ first.tick < second.tick) ∧
      readTable fixedResultHeader readFixedResult text = some (ordered.map fun result ↦
        ⟨result.tick * run.file.tickPeriodNs, result.captured⟩)) ∧
    (∃ text captures, run.communicationResultsCsv = .ok text ∧
      readTable communicationHeader readCommunicationFields text = some captures ∧
      captures.Perm ((communicationsOf state.trace.stored).1.zipIdx.map
        (storedCommunication run.file.tickPeriodNs)) ∧
      captures.Pairwise CommunicationCapture.Precedes) ∧
    readTable errorHeader readErrorFields run.applicationErrorsCsv =
      some ((errorsOf state.trace.stored).zipIdx.map fun entry ↦
        errorLine run.file.tickPeriodNs (storedError entry)) := by
  have hrecording := recording_run hrun
  obtain ⟨hticks, hcommunications, herrors⟩ := hrecording.holds
  rw [← hfile] at hticks hcommunications herrors
  have hnodup : ((ticksOf state.trace.stored).map TickResult.tick).Nodup := by
    have hstored := hrecording.consistent.nodup
    rw [← hfile, CaptureDatabase.ticks, hticks, List.map_map] at hstored
    exact hstored
  have hconsistent : run.file.database.Consistent := hfile ▸ hrecording.consistent
  have hfits (result : TickResult) (hresult : result ∈ ticksOf state.trace.stored) :
      fitsInteger result.tick = true :=
    fitsInteger_tick_of_fits (fits_of_rows hconsistent hticks result hresult)
  obtain ⟨text, hcsv, hread⟩ := communicationResultsCsv_of_rows hcommunications
  refine ⟨fixedResultsCsv_of_rows hticks hnodup hfits,
    ⟨text, _, hcsv, hread, perm_allCaptures, pairwise_allCaptures⟩, ?_⟩
  have hlines := @readTable_writeTable _ _ errorHeader (errorFields run.file.tickPeriodNs)
    readErrorFields (errorLine run.file.tickPeriodNs) run.applicationErrors (List.cons_ne_nil _ _)
      (fun error _ ↦ List.cons_ne_nil _ _) fun error _ ↦ readErrorFields_errorFields _ error
  rw [applicationErrors_of_rows herrors, List.map_map] at hlines
  rw [CapturedRunIR.applicationErrorsCsv, applicationErrors_of_rows herrors]
  exact hlines

/-- A result of the tick 1 with a voltage below ground. -/
def groundResult : TickResult where
  tick := 1
  digitalInputs := fun channel ↦ some (channel = 3)
  analogueInputsUv := fun _ ↦ some (-5)
  pwmInputs := fun _ ↦ some ⟨1000000, 2500, by decide⟩
  condition := .ok
  problemDetail := none
  measured := fun _ ↦ ⟨fun _ ↦ rfl, fun _ ↦ rfl, fun _ ↦ rfl⟩
  absent := fun hproblem ↦ by cases hproblem

/-- A thread adds a result, a communication, and an error whose detail has a comma, quotation marks
and a line feed. -/
def faultRun : List BuilderLabel :=
  [.start none, .add 0 (.tick groundResult), .recheck 0, .enqueue 0, .process,
    .add 0 (.communication ⟨1, .uart, 2, [7], none⟩), .recheck 0, .enqueue 0, .process,
    .add 0 (.error ⟨"application", "late, \"again\"\n", true, some 1, [255]⟩), .recheck 0,
    .enqueue 0, .process]

/-- All three are read back as they were. -/
theorem csvExports_of_run_faultRun : ∃ state results communications,
    (BuilderState.initial pairSettings).run pairSettings (fun _ ↦ none) faultRun = some state ∧
      (millisecondRun state.session.committed).fixedResultsCsv = .ok results ∧
      readTable fixedResultHeader readFixedResult results =
        some [⟨1000000, groundResult.captured⟩] ∧
      (millisecondRun state.session.committed).communicationResultsCsv = .ok communications ∧
      readTable communicationHeader readCommunicationFields communications =
        some [⟨1, 1, 1000000, 0, .uart, 2, [7]⟩] ∧
      readTable errorHeader readErrorFields
        (millisecondRun state.session.committed).applicationErrorsCsv =
          some [⟨some 1000000, 1, "application", "late, \"again\"\n", true, some 1, [255]⟩] := by
  have hrun : ((BuilderState.initial pairSettings).run pairSettings (fun _ ↦ none) faultRun).map
      (fun state ↦ (ticksOf state.trace.stored, (communicationsOf state.trace.stored).1,
        errorsOf state.trace.stored)) =
        some ([groundResult], [⟨1, .uart, 2, [7], some 0⟩],
          [⟨"application", "late, \"again\"\n", true, some 1, [255]⟩]) := by decide +kernel
  obtain ⟨state, hstate, hstored⟩ := Option.map_eq_some_iff.1 hrun
  obtain ⟨hticks, hstored⟩ := Prod.mk.inj hstored
  obtain ⟨hcommunications, hstoredErrors⟩ := Prod.mk.inj hstored
  obtain ⟨⟨results, ordered, hresults, hordered, -, hlines⟩,
    ⟨communications, captures, hexported, hcaptures, hperm, -⟩, herrors⟩ := @csvExports_of_run _ _ _
      (millisecondRun state.session.committed) (reflTransGen_of_run hstate) rfl
  rw [hticks, List.perm_singleton] at hordered
  have hcaptured : captures = [⟨1, 1, 1000000, 0, .uart, 2, [7]⟩] := by
    simpa [hcommunications, storedCommunication, millisecondRun] using hperm
  rw [hcaptured] at hcaptures
  refine ⟨state, results, communications, hstate, hresults, ?_, hexported, hcaptures, ?_⟩
  · simpa [hordered, groundResult, millisecondRun] using hlines
  · simpa [hstoredErrors, storedError, errorLine, millisecondRun] using herrors

end Runs

end HilRig.Results
