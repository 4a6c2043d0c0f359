import HilRig.Evaluation.Reporting
import HilRig.Results.CsvExports
import HilRig.Results.TickEvidence
import Mathlib.Order.Bounds.Basic

/-!
# Run manifests

The manifest of a captured run is a small JSON document: the identity of the run, its timing with
live counters of the fixed ticks, and its status. `readManifestText` is a reader of the format. In
every state of a builder, the manifest that is read back from the text describes the capture
(`manifest_of_run`): its counters are those of the ticks which can be read, and a manifest says
`COMPLETE` only of a capture in which every expected tick can be read.
-/

set_option autoImplicit false
set_option relaxedAutoImplicit false

namespace HilRig.Exporters

open HilRig.Models HilRig.Results HilRig.Evaluation HilRig.Foundations Relation

/-! ### Writing -/

/-- An optional text, where `None` is `null`. -/
def optionalTextValue (value : Option String) : JsonValue :=
  value.elim (.scalar .none) textValue

/-- How many expected fixed tick rows have not been stored. -/
def missingTickCount (metadata : CapturedRunMetadata) : ℕ :=
  metadata.expectedTickCount - metadata.receivedTickCount

/-- What a manifest says that is not in the model of a capture file: when the file was created and
finalized, and its name. -/
structure ManifestFile where
  createdAt : String
  finalizedAt : Option String
  name : String
  deriving DecidableEq, Repr

section Values

variable (metadata : CapturedRunMetadata) (file : ManifestFile)

def timingValue : JsonValue :=
  .object [("tick_period_ns", numberValue metadata.tickPeriodNs),
    ("expected_tick_count", numberValue metadata.expectedTickCount),
    ("received_tick_count", numberValue metadata.receivedTickCount),
    ("first_tick", optionalValue (metadata.firstTick.map Nat.cast)),
    ("last_tick", optionalValue (metadata.lastTick.map Nat.cast))]

def captureValue : JsonValue :=
  .object [("status", textValue (captureStatusValue metadata.status)),
    ("created_at", textValue file.createdAt), ("finalized_at", optionalTextValue file.finalizedAt)]

def rigValue : JsonValue :=
  .object [("application_protocol_version",
      optionalTextValue metadata.applicationProtocolVersion),
    ("firmware_version", optionalTextValue metadata.firmwareVersion)]

def assertionsValue (assertionSet : CapturedAssertionSet) : JsonValue :=
  .object [("original_set_id", textValue assertionSet.assertionSetId),
    ("compiled_ir_version", textValue assertionSet.compiledIrVersion),
    ("count", numberValue assertionSet.assertions.length)]

/-- The summary of a run and of its original assertion set. -/
def manifestValue (assertionSet : CapturedAssertionSet) : JsonValue :=
  .object [("result_ir_version", textValue metadata.schemaVersion),
    ("test_id", textValue (hexadecimal 32 metadata.testId)),
    ("application_test_id", textValue (hexadecimal 32 metadata.applicationTestId)),
    ("run_id", textValue (hexadecimal 32 metadata.runId)),
    ("test_name", textValue metadata.testName), ("timing", timingValue metadata),
    ("capture", captureValue metadata file), ("rig", rigValue metadata),
    ("assertions", assertionsValue assertionSet), ("authoritative_data", textValue file.name)]

end Values

/-- A small JSON-compatible summary; time-series data stays in the database. -/
def toManifestDict (run : CapturedRunIR) (file : ManifestFile) : Except HilRigError JsonValue := do
  let assertionSet ← run.assertionSet originalAssertionSetId
  return manifestValue run.metadata file assertionSet

/-- The JSON text of the manifest. -/
def dumpsManifest (run : CapturedRunIR) (file : ManifestFile) (indent : Option ℤ) :
    Except HilRigError String := do
  dumpsLine (← toManifestDict run file) indent true

/-! ### Reading -/

/-- What a manifest holds. -/
structure Manifest where
  metadata : CapturedRunMetadata
  file : ManifestFile
  originalSetId : String
  compiledIrVersion : String
  assertionCount : ℕ
  deriving DecidableEq, Repr

def asOptionalText (value : JsonValue) : Option (Option String) :=
  match value with
  | .scalar .none => some none
  | .scalar (.str text) => some (some text)
  | _ => none

/-- An optional natural number. -/
def asOptionalNumber (value : JsonValue) : Option (Option ℕ) :=
  match value with
  | .scalar .none => some none
  | .scalar (.int (.ofNat number)) => some (some number)
  | _ => none

def readManifest (value : JsonValue) : Option Manifest := do
  let timing ← member value "timing"
  let capture ← member value "capture"
  let rig ← member value "rig"
  let assertions ← member value "assertions"
  let metadata : CapturedRunMetadata := {
    testId := ← readIdentifier (← member value "test_id")
    applicationTestId := ← readIdentifier (← member value "application_test_id")
    runId := ← readIdentifier (← member value "run_id")
    testName := ← asText (← member value "test_name")
    tickPeriodNs := ← asNumber (← member timing "tick_period_ns")
    expectedTickCount := ← asNumber (← member timing "expected_tick_count")
    receivedTickCount := ← asNumber (← member timing "received_tick_count")
    firstTick := ← asOptionalNumber (← member timing "first_tick")
    lastTick := ← asOptionalNumber (← member timing "last_tick")
    status := ← readCaptureStatus (← member capture "status")
    applicationProtocolVersion :=
      ← asOptionalText (← member rig "application_protocol_version")
    firmwareVersion := ← asOptionalText (← member rig "firmware_version")
    schemaVersion := ← asText (← member value "result_ir_version") }
  let file : ManifestFile := {
    createdAt := ← asText (← member capture "created_at")
    finalizedAt := ← asOptionalText (← member capture "finalized_at")
    name := ← asText (← member value "authoritative_data") }
  return {
    metadata := metadata
    file := file
    originalSetId := ← asText (← member assertions "original_set_id")
    compiledIrVersion := ← asText (← member assertions "compiled_ir_version")
    assertionCount := ← asNumber (← member assertions "count") }

/-- The manifest that a text holds. -/
def readManifestText (text : String) : Option Manifest :=
  (loads text).bind readManifest

/-! ### Reading what was written -/

section RoundTrip

variable {metadata : CapturedRunMetadata} {file : ManifestFile}
  {assertionSet : CapturedAssertionSet} {run : CapturedRunIR}

/-- The manifest of a run and of its original assertion set. -/
def manifestOf (metadata : CapturedRunMetadata) (file : ManifestFile)
    (assertionSet : CapturedAssertionSet) : Manifest :=
  ⟨metadata, file, assertionSet.assertionSetId, assertionSet.compiledIrVersion,
    assertionSet.assertions.length⟩

theorem asOptionalText_optionalTextValue (value : Option String) :
    asOptionalText (optionalTextValue value) = some value := by
  cases value <;> rfl

theorem asOptionalNumber_optionalValue (value : Option ℕ) :
    asOptionalNumber (optionalValue (value.map Nat.cast)) = some value := by
  cases value <;> rfl

theorem member_manifestValue :
    member (manifestValue metadata file assertionSet) "result_ir_version" =
        some (textValue metadata.schemaVersion) ∧
      member (manifestValue metadata file assertionSet) "test_id" =
        some (textValue (hexadecimal 32 metadata.testId)) ∧
      member (manifestValue metadata file assertionSet) "application_test_id" =
        some (textValue (hexadecimal 32 metadata.applicationTestId)) ∧
      member (manifestValue metadata file assertionSet) "run_id" =
        some (textValue (hexadecimal 32 metadata.runId)) ∧
      member (manifestValue metadata file assertionSet) "test_name" =
        some (textValue metadata.testName) ∧
      member (manifestValue metadata file assertionSet) "timing" = some (timingValue metadata) ∧
      member (manifestValue metadata file assertionSet) "capture" =
        some (captureValue metadata file) ∧
      member (manifestValue metadata file assertionSet) "rig" = some (rigValue metadata) ∧
      member (manifestValue metadata file assertionSet) "assertions" =
        some (assertionsValue assertionSet) ∧
      member (manifestValue metadata file assertionSet) "authoritative_data" =
        some (textValue file.name) :=
  ⟨rfl, rfl, rfl, rfl, rfl, rfl, rfl, rfl, rfl, rfl⟩

theorem member_timingValue :
    member (timingValue metadata) "tick_period_ns" = some (numberValue metadata.tickPeriodNs) ∧
      member (timingValue metadata) "expected_tick_count" =
        some (numberValue metadata.expectedTickCount) ∧
      member (timingValue metadata) "received_tick_count" =
        some (numberValue metadata.receivedTickCount) ∧
      member (timingValue metadata) "first_tick" =
        some (optionalValue (metadata.firstTick.map Nat.cast)) ∧
      member (timingValue metadata) "last_tick" =
        some (optionalValue (metadata.lastTick.map Nat.cast)) :=
  ⟨rfl, rfl, rfl, rfl, rfl⟩

theorem member_captureValue :
    member (captureValue metadata file) "status" =
        some (textValue (captureStatusValue metadata.status)) ∧
      member (captureValue metadata file) "created_at" = some (textValue file.createdAt) ∧
      member (captureValue metadata file) "finalized_at" =
        some (optionalTextValue file.finalizedAt) :=
  ⟨rfl, rfl, rfl⟩

theorem member_rigValue :
    member (rigValue metadata) "application_protocol_version" =
        some (optionalTextValue metadata.applicationProtocolVersion) ∧
      member (rigValue metadata) "firmware_version" =
        some (optionalTextValue metadata.firmwareVersion) :=
  ⟨rfl, rfl⟩

theorem member_assertionsValue :
    member (assertionsValue assertionSet) "original_set_id" =
        some (textValue assertionSet.assertionSetId) ∧
      member (assertionsValue assertionSet) "compiled_ir_version" =
        some (textValue assertionSet.compiledIrVersion) ∧
      member (assertionsValue assertionSet) "count" =
        some (numberValue assertionSet.assertions.length) :=
  ⟨rfl, rfl, rfl⟩

/-- A manifest is read back from its document. -/
theorem readManifest_manifestValue :
    readManifest (manifestValue metadata file assertionSet) =
      some (manifestOf metadata file assertionSet) := by
  obtain ⟨hversion, htestId, happlicationTestId, hrunId, htestName, htiming, hcapture, hrig,
    hassertions, hname⟩ := @member_manifestValue metadata file assertionSet
  obtain ⟨hperiod, hexpected, hreceived, hfirst, hlast⟩ := @member_timingValue metadata
  obtain ⟨hstatus, hcreated, hfinalized⟩ := @member_captureValue metadata file
  obtain ⟨hprotocol, hfirmware⟩ := @member_rigValue metadata
  obtain ⟨hsetId, hcompiled, hcount⟩ := @member_assertionsValue assertionSet
  unfold readManifest
  rw [htiming, hcapture, hrig, hassertions, htestId, happlicationTestId, hrunId, htestName, hname,
    hversion]
  dsimp only [bind, Option.bind]
  rw [readIdentifier_hexadecimal, readIdentifier_hexadecimal, readIdentifier_hexadecimal, hperiod,
    hexpected, hreceived, hfirst, hlast, hstatus, hprotocol, hfirmware, hcreated, hfinalized,
    hsetId, hcompiled, hcount]
  dsimp only
  rw [asOptionalNumber_optionalValue, asOptionalNumber_optionalValue, readCaptureStatus_value,
    asOptionalText_optionalTextValue, asOptionalText_optionalTextValue,
    asOptionalText_optionalTextValue]
  rfl

theorem printed_optionalTextValue (value : Option String) :
    (optionalTextValue value).Printed := by
  cases value with
  | none => exact printed_scalar trivial
  | some text => exact printed_textValue text

theorem printed_manifestValue : (manifestValue metadata file assertionSet).Printed := by
  have htiming : (timingValue metadata).Printed := by
    unfold timingValue
    refine printed_object ?_
    simp only [List.forall_mem_cons, printed_numberValue, printed_optionalValue, true_and]
    exact fun _ hmember ↦ absurd hmember List.not_mem_nil
  have hcapture : (captureValue metadata file).Printed := by
    unfold captureValue
    refine printed_object ?_
    simp only [List.forall_mem_cons, printed_textValue, printed_optionalTextValue, true_and]
    exact fun _ hmember ↦ absurd hmember List.not_mem_nil
  have hrig : (rigValue metadata).Printed := by
    unfold rigValue
    refine printed_object ?_
    simp only [List.forall_mem_cons, printed_optionalTextValue, true_and]
    exact fun _ hmember ↦ absurd hmember List.not_mem_nil
  have hassertions : (assertionsValue assertionSet).Printed := by
    unfold assertionsValue
    refine printed_object ?_
    simp only [List.forall_mem_cons, printed_textValue, printed_numberValue, true_and]
    exact fun _ hmember ↦ absurd hmember List.not_mem_nil
  unfold manifestValue
  refine printed_object ?_
  simp only [List.forall_mem_cons, printed_textValue, htiming, hcapture, hrig, hassertions,
    true_and]
  exact fun _ hmember ↦ absurd hmember List.not_mem_nil

theorem dumpsManifest_eq (hset : run.assertionSet originalAssertionSetId = .ok assertionSet)
    (indent : Option ℤ) : dumpsManifest run file indent =
      dumpsLine (manifestValue run.metadata file assertionSet) indent true := by
  unfold dumpsManifest toManifestDict
  rw [hset]
  dsimp only [bind, Except.bind, pure, Except.pure]

/-- A manifest is read back from its text, whatever its indentation. -/
theorem readManifestText_dumpsManifest {indent : Option ℤ} {text : String}
    (htext : dumpsManifest run file indent = .ok text) :
    ∃ assertionSet, run.assertionSet originalAssertionSetId = .ok assertionSet ∧
      readManifestText text = some (manifestOf run.metadata file assertionSet) := by
  obtain ⟨value, hvalue, htext⟩ := bind_eq_ok.1 htext
  obtain ⟨assertionSet, hset, hvalue⟩ := bind_eq_ok.1 hvalue
  obtain rfl := pure_eq_ok.1 hvalue
  refine ⟨assertionSet, hset, ?_⟩
  rw [readManifestText, loads_dumpsLine printed_manifestValue htext, Option.bind_some,
    readManifest_manifestValue]

end RoundTrip

/-! ### What a manifest says -/

/-- Whether a tick can be read from a capture. -/
def stores (run : CapturedRunIR) (tick : ℕ) : Bool :=
  match run.tickAt tick with
  | .ok (some _) => true
  | _ => false

/-- A manifest describes a capture by the ticks that can be read from it. -/
structure Describes (run : CapturedRunIR) (manifest : Manifest) : Prop where
  testId : manifest.metadata.testId = run.file.testId
  applicationTestId : manifest.metadata.applicationTestId = run.file.applicationTestId
  runId : manifest.metadata.runId = run.file.runId
  status : manifest.metadata.status = run.file.database.status
  expected : ∀ tick, stores run tick = true → tick < manifest.metadata.expectedTickCount
  received : manifest.metadata.receivedTickCount =
    (List.range manifest.metadata.expectedTickCount).countP (stores run)
  missing : missingTickCount manifest.metadata =
    (List.range manifest.metadata.expectedTickCount).countP fun tick ↦ !stores run tick
  first : ∀ tick, manifest.metadata.firstTick = some tick ↔
    IsLeast {tick | stores run tick = true} tick
  last : ∀ tick, manifest.metadata.lastTick = some tick ↔
    IsGreatest {tick | stores run tick = true} tick
  complete : manifest.metadata.status = .complete →
    ∀ tick < manifest.metadata.expectedTickCount, stores run tick = true

section Description

variable {settings : BuilderSettings} {faults : ℕ → Option HilRigError} {state : BuilderState}
  {run : CapturedRunIR} {results : List TickResult}

theorem stores_iff (hrows : run.file.database.tickResults = results.map tickParameters)
    (hticksFit : ∀ result ∈ results, fitsInteger result.tick = true) {tick : ℕ} :
    stores run tick = true ↔ tick ∈ results.map TickResult.tick := by
  rw [List.mem_map]
  by_cases hfits : fitsInteger tick = true
  · unfold stores
    rw [tickAt_eq hrows hfits]
    cases hfound : results.find? fun result ↦ result.tick = tick with
    | some result =>
      have htick := List.find?_some hfound
      exact iff_of_true rfl ⟨result, List.mem_of_find?_eq_some hfound, of_decide_eq_true htick⟩
    | none =>
      refine iff_of_false Bool.false_ne_true ?_
      rintro ⟨result, hresult, htick⟩
      exact List.find?_eq_none.1 hfound result hresult (decide_eq_true htick)
  · -- No stored tick is outside 64 bits, and the query of such a tick raises.
    refine iff_of_false ?_ ?_
    · have hquery : run.tickAt tick = .error integerOverflow := by
        rw [CapturedRunIR.tickAt, nonNegativeTick_natCast, ok_bind]
        exact if_pos hfits
      rw [stores, hquery]
      exact Bool.false_ne_true
    · rintro ⟨result, hresult, rfl⟩
      exact hfits (hticksFit result hresult)

/-- The records in the tables are of expected ticks. -/
theorem inRun_of_stored
    (hrun : ReflTransGen (BuilderStep settings faults) (.initial settings) state)
    {record : Record} (hrecord : record ∈ state.trace.stored) : record.InRun settings := by
  obtain ⟨item, hitem, hvalue⟩ :=
    List.mem_filterMap.1 ((recording_run hrun).stored.subset hrecord)
  cases item with
  | record value =>
    cases hvalue
    exact (sealed_run hrun).arrived record (List.mem_append_left _ hitem)
  | control request => cases hvalue

/-- Distinct numbers below a bound are counted by their membership. -/
theorem countP_range_eq_length {numbers : List ℕ} (hnodup : numbers.Nodup) {count : ℕ}
    (hlt : ∀ number ∈ numbers, number < count) {keep : ℕ → Bool}
    (hkeep : ∀ number, keep number = true ↔ number ∈ numbers) :
    (List.range count).countP keep = numbers.length := by
  rw [List.countP_eq_length_filter]
  refine List.Perm.length_eq ?_
  rw [List.perm_ext_iff_of_nodup (List.nodup_range.filter _) hnodup]
  intro number
  rw [List.mem_filter, List.mem_range, hkeep]
  exact ⟨fun hnumber ↦ hnumber.2, fun hnumber ↦ ⟨hlt number hnumber, hnumber⟩⟩

theorem isLeast_iff {numbers : List ℕ} {number : ℕ} :
    numbers.min? = some number ↔ IsLeast {other | other ∈ numbers} number :=
  List.min?_eq_some_iff

theorem isGreatest_iff {numbers : List ℕ} {number : ℕ} :
    numbers.max? = some number ↔ IsGreatest {other | other ∈ numbers} number :=
  List.max?_eq_some_iff

/-- The ticks of a capture are those of the stored results. -/
theorem ticks_of_run (hrun : ReflTransGen (BuilderStep settings faults) (.initial settings) state)
    (hfile : run.file.database = state.session.committed) :
    run.file.database.ticks = (ticksOf state.trace.stored).map TickResult.tick := by
  rw [CaptureDatabase.ticks, hfile, (recording_run hrun).holds.ticks, List.map_map]
  rfl

/-- A stored tick is one of the run. -/
theorem lt_expected_of_stored
    (hrun : ReflTransGen (BuilderStep settings faults) (.initial settings) state)
    (hfile : run.file.database = state.session.committed) {tick : ℕ}
    (htick : tick ∈ run.file.database.ticks) : tick < run.file.database.expectedTickCount := by
  rw [ticks_of_run hrun hfile] at htick
  obtain ⟨result, hresult, rfl⟩ := List.mem_map.1 htick
  obtain ⟨record, hrecord, hvalue⟩ := List.mem_filterMap.1 hresult
  rw [hfile, (recording_run hrun).expected]
  cases record with
  | tick other =>
    cases hvalue
    exact inRun_of_stored hrun hrecord _ rfl
  | communication _ => cases hvalue
  | error _ => cases hvalue

/-- A capture that says that it is complete has every tick. -/
theorem fixedTicksComplete_of_complete
    (hrun : ReflTransGen (BuilderStep settings faults) (.initial settings) state)
    (hcomplete : state.session.committed.status = .complete) :
    state.session.committed.fixedTicksComplete = true := by
  have hrecording := recording_run hrun
  by_cases hphase : state.phase = .finalized
  · obtain ⟨_, _, _, -, -, -, -, hevery⟩ := hrecording.terminal hphase
    exact hevery hcomplete
  · exact absurd (hcomplete.symm.trans (hrecording.open_status hphase)) (by decide)

/-- In every state of a builder, whatever was stored and whatever failed, the manifest that is read
back from the text of a capture describes the capture: its counters are those of the ticks that can
be read, and it says `COMPLETE` only when all expected ticks can be. -/
theorem manifest_of_run
    (hrun : ReflTransGen (BuilderStep settings faults) (.initial settings) state)
    (hfile : run.file.database = state.session.committed) {file : ManifestFile}
    {indent : Option ℤ} {text : String} (htext : dumpsManifest run file indent = .ok text) :
    ∃ manifest, readManifestText text = some manifest ∧ manifest.file = file ∧
      Describes run manifest := by
  obtain ⟨assertionSet, -, hread⟩ := readManifestText_dumpsManifest htext
  have hconsistent := (recording_run hrun).consistent
  rw [← hfile] at hconsistent
  have hrows := (recording_run hrun).holds.ticks
  rw [← hfile] at hrows
  have hticksFit (result : TickResult) (hresult : result ∈ ticksOf state.trace.stored) :
      fitsInteger result.tick = true :=
    fitsInteger_tick_of_fits (fits_of_rows hconsistent hrows result hresult)
  obtain ⟨hcount, hfirst, hlast, hnodup⟩ := hconsistent
  have hstores (tick : ℕ) : stores run tick = true ↔ tick ∈ run.file.database.ticks := by
    rw [ticks_of_run hrun hfile, stores_iff hrows hticksFit]
  have hset : {tick | stores run tick = true} = {tick | tick ∈ run.file.database.ticks} := by
    ext tick
    exact hstores tick
  have hlt (tick : ℕ) (htick : tick ∈ run.file.database.ticks) :
      tick < run.file.database.expectedTickCount := lt_expected_of_stored hrun hfile htick
  have hreceived : run.file.database.receivedTickCount =
      (List.range run.file.database.expectedTickCount).countP (stores run) := by
    rw [countP_range_eq_length hnodup hlt hstores, hcount, CaptureDatabase.ticks, List.length_map]
  refine ⟨_, hread, rfl, rfl, rfl, rfl, rfl, fun tick htick ↦ hlt tick ((hstores tick).1 htick),
    hreceived, ?_, fun tick ↦ ?_, fun tick ↦ ?_, fun hcomplete tick htick ↦ ?_⟩
  · have htotal := List.length_eq_countP_add_countP (stores run)
      (l := List.range run.file.database.expectedTickCount)
    rw [List.length_range, ← hreceived] at htotal
    show run.file.database.expectedTickCount - run.file.database.receivedTickCount = _
    rw [Nat.sub_eq_iff_eq_add' (by omega), htotal]
    simp only [Bool.not_eq_true, Bool.decide_eq_false]
    rfl
  · rw [hset, ← isLeast_iff, ← hfirst]
    rfl
  · rw [hset, ← isGreatest_iff, ← hlast]
    rfl
  · have hstatus : state.session.committed.status = .complete := by
      rw [← hfile]
      exact hcomplete
    have hevery := fixedTicksComplete_of_complete hrun hstatus
    have hexpected : tick < state.session.committed.expectedTickCount := by
      rw [← hfile]
      exact htick
    rw [hstores, hfile]
    exact ((fixedTicksComplete_iff (recording_run hrun).consistent).1 hevery tick).2 hexpected

/-- The capture of one tick, finalized. -/
def oneTickDatabase : CaptureDatabase where
  expectedTickCount := 1
  expectedTickCount_pos := Nat.one_pos
  receivedTickCount := 1
  firstTick := some 0
  lastTick := some 0
  status := .complete
  tickResults := [tickParameters (.executionProblem 0 none)]

def oneTickFile : ManifestFile :=
  ⟨"2026-01-01T09:00:00+00:00", some "2026-01-01T09:00:01+00:00", "run.sqlite"⟩

theorem manifest_of_run_completeCapture : ∃ state text manifest,
    (BuilderState.initial oneTick).run oneTick (fun _ ↦ none) completeCapture = some state ∧
      dumpsManifest (millisecondRun state.session.committed) oneTickFile (some 2) = .ok text ∧
      readManifestText text = some manifest ∧
      Describes (millisecondRun state.session.committed) manifest := by
  have hrun : ((BuilderState.initial oneTick).run oneTick (fun _ ↦ none) completeCapture).map
      (fun state ↦ state.session.committed) = some oneTickDatabase := by decide +kernel
  obtain ⟨state, hstate, hdatabase⟩ := Option.map_eq_some_iff.1 hrun
  have hdumps : ∃ text, dumpsManifest (millisecondRun state.session.committed) oneTickFile
      (some 2) = .ok text := by
    have hset : (millisecondRun oneTickDatabase).assertionSet originalAssertionSetId =
        .ok ⟨originalAssertionSetId, "Original compiled assertions", "1.1", []⟩ := rfl
    have hscalars : (manifestValue (millisecondRun oneTickDatabase).metadata oneTickFile
        ⟨originalAssertionSetId, "Original compiled assertions", "1.1", []⟩).scalars.all
          hasText = true := by
      unfold manifestValue
      decide +kernel
    rw [hdatabase, dumpsManifest_eq hset]
    exact ⟨_, dumpsLine_of_hasText hscalars (some 2) true⟩
  obtain ⟨text, hdumps⟩ := hdumps
  obtain ⟨manifest, hread, -, hdescribes⟩ :=
    manifest_of_run (reflTransGen_of_run hstate) rfl hdumps
  exact ⟨state, text, manifest, hstate, hdumps, hread, hdescribes⟩

end Description

end HilRig.Exporters
