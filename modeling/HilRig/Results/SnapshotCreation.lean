import HilRig.Foundations.Transactions
import HilRig.Results.CapturedRun
import HilRig.Results.JsonEncoding

/-!
# Creating a capture file

`initialize_capture_database` claims a path with an empty file, runs its statements on a connection
to it, and removes the file again when any of them raises. Its assertions come from callers, and
their arguments may hold any Python value: the writer refuses what has no JSON text, and the reader
refuses what is not a mapping of names to scalars. Any statement can fail by a fault of the
environment; closing the connection and removing the file cannot.

What raises leaves the path as it was (`path_of_raised`), and what returns has stored the assertions
in their own order. They are read back with equal fields when their arguments are named scalars
(`readable_of_plain`), and only then (`plain_of_agrees`).
-/

set_option autoImplicit false
set_option relaxedAutoImplicit false

namespace HilRig.Results.Creation

open HilRig.Models HilRig.Foundations

/-! ### Arguments of the creation -/

/-- A compiled assertion whose arguments hold any values. -/
structure GivenAssertion where
  assertionId : ℤ
  peripheral : String
  channel : ℤ
  assertion : String
  arguments : List (PyKey × PyValue)

/-- The other arguments of `initialize_capture_database`. -/
structure CaptureHeader where
  testId : ℤ
  applicationTestId : ℤ
  runId : ℤ
  testName : String
  tickPeriodNs : ℤ
  expectedTickCount : ℤ
  compiledIrVersion : String
  applicationProtocolVersion : Option String
  firmwareVersion : Option String

/-! ### Tables -/

/-- The row of `run_metadata`, without its columns that are filled in later and its times. -/
structure RunMetadataRow where
  testIdHex : String
  applicationTestIdHex : String
  runIdHex : String
  testName : String
  tickPeriodNs : ℤ
  expectedTickCount : ℤ
  status : CaptureStatus
  applicationProtocolVersion : Option String
  firmwareVersion : Option String
  deriving DecidableEq, Repr

/-- The tables that the creation fills. -/
structure CaptureTables where
  schemaVersion : Option String := none
  runMetadata : Option RunMetadataRow := none
  assertionSets : List AssertionSetRow := []
  assertionDefinitions : List AssertionRow := []

/-- What a path names. -/
inductive StoredFile
  | other (bytes : List UInt8)
  | capture (tables : CaptureTables)

/-- A change of the tables by one statement. -/
abbrev CreationStatement := CaptureTables → Except HilRigError CaptureTables

/-- An integer as thirty-two hexadecimal digits, a sign among them. -/
def hexText (value : ℤ) : String :=
  let digits := Nat.toDigits 16 value.natAbs
  if value < 0 then String.ofList ('-' :: List.replicate (31 - digits.length) '0' ++ digits)
  else String.ofList (List.replicate (32 - digits.length) '0' ++ digits)

/-- A violated constraint. -/
def constraintFailed (constraint : String) : HilRigError :=
  ⟨.native, s!"{constraint} constraint failed"⟩

/-- The tables of the schema, which are empty. -/
def createTables : CreationStatement := fun _ ↦ .ok {}

def insertSchemaVersion : CreationStatement := fun tables ↦
  .ok { tables with schemaVersion := some "1.2" }

/-- The metadata of a run that has not begun. -/
def CaptureHeader.metadata (header : CaptureHeader) : RunMetadataRow where
  testIdHex := hexText header.testId
  applicationTestIdHex := hexText header.applicationTestId
  runIdHex := hexText header.runId
  testName := header.testName
  tickPeriodNs := header.tickPeriodNs
  expectedTickCount := header.expectedTickCount
  status := .inProgress
  applicationProtocolVersion := header.applicationProtocolVersion
  firmwareVersion := header.firmwareVersion

/-- Tables with the rows of a header. -/
def CaptureHeader.tables (header : CaptureHeader) (tables : CaptureTables) : CaptureTables where
  schemaVersion := some "1.2"
  runMetadata := some header.metadata
  assertionSets := tables.assertionSets ++
    [⟨originalAssertionSetId, "Original compiled assertions", header.compiledIrVersion⟩]
  assertionDefinitions := tables.assertionDefinitions

def insertMetadata (header : CaptureHeader) : CreationStatement := fun tables ↦
  if !(fitsInteger header.tickPeriodNs && fitsInteger header.expectedTickCount) then
    .error integerOverflow
  else if (hexText header.testId).length ≠ 32 ∨ (hexText header.applicationTestId).length ≠ 32 ∨
      (hexText header.runId).length ≠ 32 then
    .error (constraintFailed "CHECK")
  else if header.tickPeriodNs ≤ 0 ∨ header.expectedTickCount ≤ 0 then
    .error (constraintFailed "CHECK")
  else .ok { tables with runMetadata := some header.metadata }

def insertAssertionSet (compiledIrVersion : String) : CreationStatement := fun tables ↦
  if !isStorableText compiledIrVersion then .error (constraintFailed "CHECK")
  else .ok { tables with assertionSets := tables.assertionSets ++
    [⟨originalAssertionSetId, "Original compiled assertions", compiledIrVersion⟩] }

/-! ### Definitions -/

/-- The parameters of one row of `assertion_definitions`. -/
structure AssertionParameters where
  assertionSetId : String
  assertionId : ℤ
  peripheral : String
  channel : ℤ
  operation : String
  argumentsJson : JsonValue

/-- Rows after those of `assertion_definitions`. -/
def CaptureTables.addDefinitions (tables : CaptureTables) (rows : List AssertionRow) :
    CaptureTables :=
  { tables with assertionDefinitions := tables.assertionDefinitions ++ rows }

/-- The row of some parameters. -/
def AssertionParameters.row (parameters : AssertionParameters) : AssertionRow where
  assertionSetId := parameters.assertionSetId
  assertionId := parameters.assertionId.toNat
  peripheral := parameters.peripheral
  channel := parameters.channel.toNat
  operation := parameters.operation
  argumentsJson := parameters.argumentsJson

def validatedAssertion (expectedId : ℕ) (assertion : GivenAssertion) :
    Except HilRigError GivenAssertion :=
  if assertion.assertionId ≠ expectedId then
    .error (.value "Stored assertion IDs must be sequential from zero")
  else .ok assertion

def assertionParameters (assertion : GivenAssertion) : Except HilRigError AssertionParameters :=
  match (PyValue.mapping assertion.arguments).dumps with
  | some argumentsJson => .ok {
      assertionSetId := originalAssertionSetId
      assertionId := assertion.assertionId
      peripheral := assertion.peripheral
      channel := assertion.channel
      operation := assertion.assertion
      argumentsJson := argumentsJson }
  | none => .error (.value
      s!"Assertion {assertion.assertionId} arguments are not valid IR scalar values")

/-- The insertion of one row, with the constraints of its table. -/
def AssertionParameters.insert (parameters : AssertionParameters) : CreationStatement :=
  fun tables ↦
    if !(fitsInteger parameters.assertionId && fitsInteger parameters.channel) then
      .error integerOverflow
    else if parameters.assertionId < 0 ∨ parameters.channel < 0 then
      .error (constraintFailed "CHECK")
    else if !(isStorableText parameters.peripheral && isStorableText parameters.operation) then
      .error (constraintFailed "CHECK")
    else if tables.assertionDefinitions.any fun row ↦
        row.assertionSetId = parameters.assertionSetId ∧
          (row.assertionId : ℤ) = parameters.assertionId then
      .error (constraintFailed "UNIQUE")
    else if !tables.assertionSets.any fun row ↦
        row.assertionSetId = parameters.assertionSetId then
      .error (constraintFailed "FOREIGN KEY")
    else .ok (tables.addDefinitions [parameters.row])

/-- One step of the `executemany`, whose parameters are made when they are needed. -/
def insertDefinition (expectedId : ℕ) (assertion : GivenAssertion) : CreationStatement :=
  fun tables ↦ do
    let assertion ← validatedAssertion expectedId assertion
    let parameters ← assertionParameters assertion
    parameters.insert tables

/-- The steps for assertions whose identifiers count from an expected one. -/
def insertDefinitions (expectedId : ℕ) : List GivenAssertion → List CreationStatement
  | [] => []
  | assertion :: assertions =>
    insertDefinition expectedId assertion :: insertDefinitions (expectedId + 1) assertions

/-! ### The file -/

variable (faults : ℕ → Option HilRigError) (header : CaptureHeader)
  (assertions : List GivenAssertion)

/-- Pragmas, which change no table. -/
def runPragmas : List String → Transaction HilRigError CaptureTables Unit
  | [] => return ()
  | _ :: pragmas => do
    query faults fun _ ↦ ()
    runPragmas pragmas

def configureWriteConnection : Transaction HilRigError CaptureTables Unit :=
  runPragmas faults
    ["foreign_keys = ON", "journal_mode = WAL", "synchronous = NORMAL", "busy_timeout = 5000"]

/-- The statements between the script of the schema and the commit. -/
def creationStatements : List CreationStatement :=
  [insertSchemaVersion, insertMetadata header, insertAssertionSet header.compiledIrVersion] ++
    insertDefinitions 0 assertions

/-- What runs on the connection; the script of the schema is committed on its own. -/
def fillCapture : Transaction HilRigError CaptureTables Unit := do
  configureWriteConnection faults
  transact faults [createTables]
  transact faults (creationStatements header assertions)

/-- Create a capture at a path, which is claimed first and freed when the creation raises. -/
def initializeCaptureDatabase : EStateM HilRigError (Option StoredFile) Unit := fun path ↦
  match path with
  | some file =>
    .error ⟨.native, "Capture database already exists"⟩ (some file)
  | none =>
    match fillCapture faults header assertions { committed := {} } with
    | .ok () session => .ok () (some (.capture session.committed))
    | .error error _ => .error error none

/-- One stored assertion set of a file. -/
def readAssertionSet (file : StoredFile) (assertionSetId : String) :
    Except HilRigError CapturedAssertionSet :=
  match file with
  | .other _ => .error ⟨.native, "file is not a database"⟩
  | .capture tables =>
    match tables.assertionSets.find? fun row ↦ row.assertionSetId = assertionSetId with
    | none => .error ⟨.keyError, s!"Unknown assertion set: {assertionSetId}"⟩
    | some row => do
      let assertions ← readAssertions tables.assertionDefinitions assertionSetId
      return ⟨row.assertionSetId, row.name, row.compiledIrVersion, assertions⟩

/-! ### What is accepted -/

/-- A header that passes the constraints of its tables. -/
structure CaptureHeader.Storable (header : CaptureHeader) : Prop where
  integers : (fitsInteger header.tickPeriodNs && fitsInteger header.expectedTickCount) = true
  testId : (hexText header.testId).length = 32
  applicationTestId : (hexText header.applicationTestId).length = 32
  runId : (hexText header.runId).length = 32
  tickPeriodNs : 0 < header.tickPeriodNs
  expectedTickCount : 0 < header.expectedTickCount
  compiledIrVersion : isStorableText header.compiledIrVersion = true

/-- An assertion with a JSON text that passes the constraints of its table. -/
structure GivenAssertion.Storable (assertion : GivenAssertion) : Prop where
  arguments : (PyValue.mapping assertion.arguments).isJson = true
  integers : (fitsInteger assertion.assertionId && fitsInteger assertion.channel) = true
  channel : 0 ≤ assertion.channel
  texts : (isStorableText assertion.peripheral && isStorableText assertion.assertion) = true

/-- Identifiers that count from an expected one. -/
def CountFrom (expectedId : ℕ) (assertions : List GivenAssertion) : Prop :=
  ∀ (position : ℕ) (assertion : GivenAssertion), assertions[position]? = some assertion →
    assertion.assertionId = expectedId + position

/-- What the writer asks of the arguments of a creation. -/
structure Accepted (header : CaptureHeader) (assertions : List GivenAssertion) : Prop where
  header : header.Storable
  sequential : CountFrom 0 assertions
  assertions : ∀ assertion ∈ assertions, assertion.Storable

/-- Every argument is a scalar under a text. -/
def GivenAssertion.Plain (assertion : GivenAssertion) : Prop :=
  ∀ argument ∈ assertion.arguments, ∃ name value, argument = (.str name, .scalar value)

/-- An assertion that was read is equal to the given one. Mappings are equal in any order. -/
structure Same (given : GivenAssertion) (read : CompiledAssertion) : Prop where
  assertionId : (read.assertionId : ℤ) = given.assertionId
  peripheral : read.peripheral = given.peripheral
  channel : (read.channel : ℤ) = given.channel
  assertion : read.assertion = given.assertion
  arguments : (read.arguments.map fieldItem).Perm given.arguments

/-- Writer and reader agree: a creation that returns had no file in its way and is read back with
the same assertions in the same order, and one that raises leaves the path as it was. -/
def Agrees (header : CaptureHeader) (assertions : List GivenAssertion) : Prop :=
  ∀ (faults : ℕ → Option HilRigError) (path : Option StoredFile),
    match initializeCaptureDatabase faults header assertions path with
    | .ok () after => path = none ∧ ∃ file captured, after = some file ∧
        readAssertionSet file originalAssertionSetId = .ok captured ∧
          List.Forall₂ Same assertions captured.assertions
    | .error _ after => after = path

/-! ### Statements -/

section Statements

variable {faults header assertions} {expectedId : ℕ} {assertion : GivenAssertion}
  {tables after : CaptureTables}

/-- The statements before the definitions run exactly for a storable header. -/
theorem applyAll_header :
    applyAll [insertSchemaVersion, insertMetadata header,
      insertAssertionSet header.compiledIrVersion] tables = .ok after ↔
      header.Storable ∧ after = header.tables tables := by
  constructor
  · intro happlied
    obtain ⟨_, hversion, happlied⟩ := bind_eq_ok.1 happlied
    obtain ⟨_, hmetadata, happlied⟩ := bind_eq_ok.1 happlied
    obtain ⟨_, hset, happlied⟩ := bind_eq_ok.1 happlied
    obtain ⟨hintegers, hmetadata⟩ := ite_error_eq_ok.1 hmetadata
    obtain ⟨hidentifiers, hmetadata⟩ := ite_error_eq_ok.1 hmetadata
    obtain ⟨hpositive, hmetadata⟩ := ite_error_eq_ok.1 hmetadata
    obtain ⟨htext, hset⟩ := ite_error_eq_ok.1 hset
    cases hversion
    cases hmetadata
    cases hset
    simp only [not_or, ne_eq, not_not] at hidentifiers
    obtain ⟨htestId, happlicationTestId, hrunId⟩ := hidentifiers
    exact ⟨⟨by simpa using hintegers, htestId, happlicationTestId, hrunId, by omega, by omega,
      by simpa using htext⟩, (Except.ok.inj happlied).symm⟩
  · rintro ⟨hstorable, rfl⟩
    have htick := hstorable.tickPeriodNs
    have hcount := hstorable.expectedTickCount
    have hmetadata (tables : CaptureTables) : insertMetadata header tables =
        .ok { tables with runMetadata := some header.metadata } := by
      rw [insertMetadata, if_neg (by rw [hstorable.integers]; decide), if_neg, if_neg (by omega)]
      rw [hstorable.testId, hstorable.applicationTestId, hstorable.runId]
      omega
    refine bind_eq_ok.2 ⟨_, rfl, bind_eq_ok.2 ⟨_, hmetadata _, bind_eq_ok.2 ⟨_, ?_, rfl⟩⟩⟩
    exact if_neg (by rw [hstorable.compiledIrVersion]; decide)

/-- Tables that can take the definition with an expected identifier: its set exists, and the stored
identifiers are below. -/
structure CaptureTables.Ready (tables : CaptureTables) (expectedId : ℕ) : Prop where
  set : ∃ row ∈ tables.assertionSets, row.assertionSetId = originalAssertionSetId
  stored : ∀ row ∈ tables.assertionDefinitions, row.assertionId < expectedId

/-- The row an assertion is stored as. -/
def definitionRow (expectedId : ℕ) (assertion : GivenAssertion) (document : JsonValue) :
    AssertionRow where
  assertionSetId := originalAssertionSetId
  assertionId := expectedId
  peripheral := assertion.peripheral
  channel := assertion.channel.toNat
  operation := assertion.assertion
  argumentsJson := document

theorem CaptureTables.Ready.addDefinition (hready : tables.Ready expectedId)
    (document : JsonValue) :
    (tables.addDefinitions [definitionRow expectedId assertion document]).Ready
      (expectedId + 1) := by
  refine ⟨hready.set, fun row hrow ↦ ?_⟩
  rcases List.mem_append.1 hrow with hrow | hrow
  · exact (hready.stored row hrow).trans (Nat.lt_succ_self _)
  · rw [List.mem_singleton.1 hrow]
    exact Nat.lt_succ_self _

/-- A row is inserted exactly for a storable assertion with the expected identifier. -/
theorem insertDefinition_eq_ok (hready : tables.Ready expectedId) :
    insertDefinition expectedId assertion tables = .ok after ↔
      assertion.assertionId = expectedId ∧ assertion.Storable ∧
        ∃ document, (PyValue.mapping assertion.arguments).dumps = some document ∧
          after = tables.addDefinitions [definitionRow expectedId assertion document] := by
  have hjson := isSome_dumps (.mapping assertion.arguments)
  constructor
  · intro hinserted
    obtain ⟨validated, hvalidated, hinserted⟩ := bind_eq_ok.1 hinserted
    obtain ⟨hid, hvalidated⟩ := ite_error_eq_ok.1 hvalidated
    obtain ⟨parameters, hparameters, hinserted⟩ := bind_eq_ok.1 hinserted
    cases hvalidated
    rw [not_not] at hid
    unfold assertionParameters at hparameters
    cases hdocument : (PyValue.mapping assertion.arguments).dumps with
    | none =>
      rw [hdocument] at hparameters
      cases hparameters
    | some document =>
      rw [hdocument] at hparameters hjson
      cases hparameters
      obtain ⟨hintegers, hinserted⟩ := ite_error_eq_ok.1 hinserted
      obtain ⟨hnonneg, hinserted⟩ := ite_error_eq_ok.1 hinserted
      obtain ⟨htexts, hinserted⟩ := ite_error_eq_ok.1 hinserted
      obtain ⟨-, hinserted⟩ := ite_error_eq_ok.1 hinserted
      obtain ⟨-, hinserted⟩ := ite_error_eq_ok.1 hinserted
      refine ⟨hid, ⟨hjson.symm, ?_, by simpa using (not_or.1 hnonneg).2, ?_⟩, document, rfl, ?_⟩
      · simpa using hintegers
      · simpa using htexts
      · rw [← Except.ok.inj hinserted]
        simp [AssertionParameters.row, definitionRow, hid]
  · rintro ⟨hid, hstorable, document, hdocument, rfl⟩
    have hchannel := hstorable.channel
    have hintegers := hstorable.integers
    rw [hid] at hintegers
    unfold insertDefinition validatedAssertion assertionParameters
    simp only [hid, hdocument, ne_eq, not_true_eq_false, if_false, bind, Except.bind,
      AssertionParameters.insert, AssertionParameters.row]
    rw [if_neg (by rw [hintegers]; decide), if_neg (by omega),
      if_neg (by rw [hstorable.texts]; decide), if_neg, if_neg]
    · rw [Int.toNat_natCast]
      rfl
    · simpa using hready.set
    · intro hused
      obtain ⟨row, hrow, hkey⟩ := List.any_eq_true.1 hused
      exact (hready.stored row hrow).ne (Int.natCast_inj.1 (of_decide_eq_true hkey).2)

theorem countFrom_cons :
    CountFrom expectedId (assertion :: assertions) ↔
      assertion.assertionId = expectedId ∧ CountFrom (expectedId + 1) assertions := by
  constructor
  · intro hcount
    refine ⟨by simpa using hcount 0 assertion rfl, fun position later hlater ↦ ?_⟩
    have hlater := hcount (position + 1) later hlater
    push_cast at hlater ⊢
    omega
  · rintro ⟨hfirst, hcount⟩ position later hlater
    cases position with
    | zero =>
      cases hlater
      simpa using hfirst
    | succ position =>
      have hlater := hcount position later hlater
      push_cast at hlater ⊢
      omega

/-- The rows of some assertions are inserted exactly when all of them are storable and their
identifiers count from the expected one. -/
theorem applyAll_insertDefinitions (hready : tables.Ready expectedId) :
    (∃ after, applyAll (insertDefinitions expectedId assertions) tables = .ok after) ↔
      CountFrom expectedId assertions ∧ ∀ assertion ∈ assertions, assertion.Storable := by
  induction assertions generalizing expectedId tables with
  | nil =>
    refine ⟨fun _ ↦ ⟨fun position later hlater ↦ ?_, by simp⟩, fun _ ↦ ⟨tables, rfl⟩⟩
    cases hlater
  | cons assertion assertions ih =>
    rw [insertDefinitions, applyAll_cons, countFrom_cons, List.forall_mem_cons]
    constructor
    · rintro ⟨after, happlied⟩
      obtain ⟨middle, hinserted, happlied⟩ := bind_eq_ok.1 happlied
      obtain ⟨hid, hstorable, document, -, rfl⟩ := (insertDefinition_eq_ok hready).1 hinserted
      obtain ⟨hcount, hlater⟩ := (ih (hready.addDefinition document)).1 ⟨after, happlied⟩
      exact ⟨⟨hid, hcount⟩, hstorable, hlater⟩
    · rintro ⟨⟨hid, hcount⟩, hstorable, hlater⟩
      have hjson := hstorable.arguments
      rw [← isSome_dumps, Option.isSome_iff_exists] at hjson
      obtain ⟨document, hdocument⟩ := hjson
      have hinserted :=
        (insertDefinition_eq_ok hready).2 ⟨hid, hstorable, document, hdocument, rfl⟩
      obtain ⟨after, happlied⟩ := (ih (hready.addDefinition document)).2 ⟨hcount, hlater⟩
      exact ⟨after, bind_eq_ok.2 ⟨_, hinserted, happlied⟩⟩

/-- The tables of a header can take the first definition. -/
theorem ready_header : (header.tables {}).Ready 0 where
  set := ⟨_, List.mem_singleton_self _, rfl⟩
  stored := fun _ hrow ↦ absurd hrow List.not_mem_nil

/-- All statements of a creation run exactly when its arguments are accepted. -/
theorem applyAll_creationStatements :
    (∃ after, applyAll (creationStatements header assertions) {} = .ok after) ↔
      Accepted header assertions := by
  have hdefinitions := @applyAll_insertDefinitions assertions 0 _ (@ready_header header)
  rw [creationStatements, applyAll_append]
  constructor
  · rintro ⟨after, happlied⟩
    obtain ⟨middle, hheader, happlied⟩ := bind_eq_ok.1 happlied
    obtain ⟨hstorable, rfl⟩ := applyAll_header.1 hheader
    obtain ⟨hcount, hassertions⟩ := hdefinitions.1 ⟨after, happlied⟩
    exact ⟨hstorable, hcount, hassertions⟩
  · intro haccepted
    obtain ⟨after, happlied⟩ := hdefinitions.2 ⟨haccepted.sequential, haccepted.assertions⟩
    exact ⟨after, bind_eq_ok.2 ⟨_, applyAll_header.2 ⟨haccepted.header, rfl⟩, happlied⟩⟩

end Statements

/-! ### Running the creation -/

section Creation

variable {faults header assertions} {tables : CaptureTables}

/-- Pragmas leave the tables alone. -/
theorem runPragmas_cases (pragmas : List String) {session : Session CaptureTables}
    (hworking : session.working = none) :
    (∃ after, runPragmas faults pragmas session = .ok () after ∧
      after.committed = session.committed ∧ after.working = none) ∨
    ∃ error after, runPragmas faults pragmas session = .error error after := by
  induction pragmas generalizing session with
  | nil => exact .inl ⟨session, rfl, rfl, hworking⟩
  | cons pragma pragmas ih =>
    obtain ⟨middle, hcommitted, hmiddle, hrun | ⟨error, hrun⟩⟩ :=
      @query_cases _ _ faults _ (fun _ ↦ ()) session
    · rw [runPragmas, run_bind_of_ok hrun, ← hcommitted]
      exact ih (hmiddle.trans hworking)
    · rw [runPragmas, run_bind_of_error hrun]
      exact .inr ⟨error, middle, rfl⟩

/-- A connection that is filled has committed all statements of the creation. -/
theorem applied_of_fillCapture {session after : Session CaptureTables}
    (hworking : session.working = none)
    (hfilled : fillCapture faults header assertions session = .ok () after) :
    applyAll (creationStatements header assertions) {} = .ok after.committed := by
  unfold fillCapture configureWriteConnection at hfilled
  rcases @runPragmas_cases faults _ session hworking with
    ⟨configured, hrun, -, hconfigured⟩ | ⟨error, configured, hrun⟩
  · rw [run_bind_of_ok hrun] at hfilled
    rcases @transact_cases _ _ faults [createTables] configured with
      ⟨created, hrun, hcreated, htables⟩ | ⟨error, created, hrun, -⟩
    · rw [run_bind_of_ok hrun] at hfilled
      have hcontents : created.contents = {} := by
        rw [Session.contents, hcreated]
        exact (Except.ok.inj htables).symm
      rcases @transact_cases _ _ faults (creationStatements header assertions) created with
        ⟨last, hrun, -, happlied⟩ | ⟨error, last, hrun, -⟩
      · rw [hrun] at hfilled
        cases hfilled
        rw [← hcontents]
        exact happlied
      · rw [hrun] at hfilled
        cases hfilled
    · rw [run_bind_of_error hrun] at hfilled
      cases hfilled
  · rw [run_bind_of_error hrun] at hfilled
    cases hfilled

/-- Without faults, statements that can all be made are committed. -/
theorem fillCapture_of_applied
    (happlied : applyAll (creationStatements header assertions) {} = .ok tables) :
    ∃ after, fillCapture (fun _ ↦ none) header assertions { committed := {} } = .ok () after ∧
      after.committed = tables := by
  have hconfigured : configureWriteConnection (fun _ ↦ none) { committed := {} } =
      .ok () { committed := {}, executed := 4 } := rfl
  have hcreated : transact (fun _ ↦ none) [createTables]
      ({ committed := {}, executed := 4 } : Session CaptureTables) =
      .ok () { committed := {}, executed := 6 } := rfl
  have hcontents : ({ committed := {}, executed := 6 } : Session CaptureTables).contents = {} := rfl
  rw [← hcontents] at happlied
  obtain ⟨after, hrun, -, hcommitted⟩ := transact_of_applyAll happlied
  refine ⟨after, ?_, hcommitted⟩
  rw [fillCapture, run_bind_of_ok hconfigured, run_bind_of_ok hcreated, hrun]

/-- A creation that raises leaves the path as it was: free, or with the file that was in its way. -/
theorem path_of_raised {path after : Option StoredFile} {error : HilRigError}
    (hraised : initializeCaptureDatabase faults header assertions path = .error error after) :
    after = path := by
  cases path with
  | some file =>
    cases hraised
    rfl
  | none =>
    unfold initializeCaptureDatabase at hraised
    cases hfilled : fillCapture faults header assertions { committed := {} } with
    | ok _ session =>
      simp only [hfilled] at hraised
      cases hraised
    | error error session =>
      simp only [hfilled] at hraised
      cases hraised
      rfl

/-- A creation that returns found the path free and has stored what it was given. -/
theorem stored_of_returned {path after : Option StoredFile}
    (hreturned : initializeCaptureDatabase faults header assertions path = .ok () after) :
    path = none ∧ ∃ tables, after = some (.capture tables) ∧
      applyAll (creationStatements header assertions) {} = .ok tables := by
  cases path with
  | some file => cases hreturned
  | none =>
    unfold initializeCaptureDatabase at hreturned
    cases hfilled : fillCapture faults header assertions { committed := {} } with
    | ok _ session =>
      simp only [hfilled] at hreturned
      cases hreturned
      exact ⟨rfl, _, rfl, applied_of_fillCapture rfl hfilled⟩
    | error error session =>
      simp only [hfilled] at hreturned
      cases hreturned

/-- Statements that can all be made create a file at a free path when nothing fails. -/
theorem returned_of_applied
    (happlied : applyAll (creationStatements header assertions) {} = .ok tables) :
    initializeCaptureDatabase (fun _ ↦ none) header assertions none =
      .ok () (some (.capture tables)) := by
  obtain ⟨session, hfilled, rfl⟩ := fillCapture_of_applied happlied
  simp only [initializeCaptureDatabase, hfilled]

end Creation

/-! ### Reading back -/

section Reading

variable {header : CaptureHeader} {tables after : CaptureTables} {expectedId : ℕ}

/-- An assertion of the compiled form, as it is given to the creation. -/
def given (assertion : CompiledAssertion) : GivenAssertion where
  assertionId := assertion.assertionId
  peripheral := assertion.peripheral
  channel := assertion.channel
  assertion := assertion.assertion
  arguments := assertion.arguments.map fieldItem

/-- The field of a member that is a scalar under a text. -/
def toField : PyKey × PyValue → Option (String × IRScalar)
  | (.str name, .scalar value) => some (name, value)
  | _ => none

/-- The assertion of the compiled form with the named scalars of a given one. -/
def GivenAssertion.compiled (assertion : GivenAssertion) : CompiledAssertion where
  assertionId := assertion.assertionId.toNat
  peripheral := assertion.peripheral
  channel := assertion.channel.toNat
  assertion := assertion.assertion
  arguments := assertion.arguments.filterMap toField

theorem map_filterMap_toField {arguments : List (PyKey × PyValue)}
    (hplain : ∀ argument ∈ arguments, ∃ name value, argument = (.str name, .scalar value)) :
    (arguments.filterMap toField).map fieldItem = arguments := by
  induction arguments with
  | nil => rfl
  | cons argument arguments ih =>
    obtain ⟨⟨name, value, rfl⟩, hlater⟩ := List.forall_mem_cons.1 hplain
    have hfield : toField (.str name, .scalar value) = some (name, value) := rfl
    rw [List.filterMap_cons_some hfield, List.map_cons, ih hlater]
    rfl

/-- A plain assertion is the given form of its compiled form. -/
theorem given_compiled {assertion : GivenAssertion} (hplain : assertion.Plain)
    (hid : 0 ≤ assertion.assertionId) (hchannel : 0 ≤ assertion.channel) :
    given assertion.compiled = assertion := by
  have harguments := map_filterMap_toField hplain
  simp only [given, GivenAssertion.compiled, harguments, Int.toNat_of_nonneg hid,
    Int.toNat_of_nonneg hchannel]

/-- One stored row of the compiled form. -/
theorem parameters_of_inserted {assertion : CompiledAssertion} (hready : tables.Ready expectedId)
    (hinserted : insertDefinition expectedId (given assertion) tables = .ok after) :
    assertion.assertionId = expectedId ∧ ∃ row : AssertionRow, row.assertionId = expectedId ∧
      Results.assertionParameters assertion = .ok row ∧ insertAssertion row = .ok row ∧
        after = tables.addDefinitions [row] := by
  obtain ⟨hid, hstorable, document, hdocument, rfl⟩ := (insertDefinition_eq_ok hready).1 hinserted
  have hid : assertion.assertionId = expectedId := Int.natCast_inj.1 hid
  have hdumps : dumps assertion.arguments = .ok document := by
    have hfields := dumps_fields assertion.arguments
    rw [show (PyValue.mapping (assertion.arguments.map fieldItem)).dumps = some document from
      hdocument] at hfields
    cases hcompiled : dumps assertion.arguments with
    | ok other =>
      rw [hcompiled] at hfields
      cases hfields
      rfl
    | error error =>
      rw [hcompiled] at hfields
      cases hfields
  have hfits : fitsInteger assertion.channel = true := (Bool.and_eq_true_iff.1 hstorable.integers).2
  have hchannel : ¬2 ^ 63 ≤ assertion.channel := not_le.2 (fitsInteger_natCast.1 hfits)
  obtain ⟨hperipheral, hoperation⟩ := Bool.and_eq_true_iff.1 hstorable.texts
  refine ⟨hid, _, rfl, ?_, ?_, rfl⟩
  · rw [Results.assertionParameters, hdumps, ← hid]
    rfl
  · unfold insertAssertion
    have hperipheral : isStorableText assertion.peripheral = true := hperipheral
    have hoperation : isStorableText assertion.assertion = true := hoperation
    show (if 2 ^ 63 ≤ assertion.channel then _ else
      if !isStorableText assertion.peripheral then _ else
        if !isStorableText assertion.assertion then _ else _) = _
    rw [if_neg hchannel, hperipheral, hoperation]
    rfl

/-- Rows of the compiled form are stored as `storeAssertions` stores them. -/
theorem storeAssertions_of_applied {assertions : List CompiledAssertion}
    (hready : tables.Ready expectedId)
    (happlied : applyAll (insertDefinitions expectedId (assertions.map given)) tables =
      .ok after) :
    ∃ rows, storeAssertions expectedId assertions = .ok rows ∧
      after = tables.addDefinitions rows := by
  induction assertions generalizing expectedId tables with
  | nil =>
    cases happlied
    exact ⟨[], rfl, by rw [CaptureTables.addDefinitions, List.append_nil]⟩
  | cons assertion assertions ih =>
    rw [List.map_cons, insertDefinitions, applyAll_cons] at happlied
    obtain ⟨middle, hinserted, happlied⟩ := bind_eq_ok.1 happlied
    obtain ⟨hid, row, -, hparameters, hrow, rfl⟩ := parameters_of_inserted hready hinserted
    obtain ⟨-, -, document, -, hmiddle⟩ := (insertDefinition_eq_ok hready).1 hinserted
    rw [hmiddle] at happlied
    obtain ⟨rows, hrows, rfl⟩ := ih (hready.addDefinition document) happlied
    refine ⟨row :: rows, ?_, ?_⟩
    · rw [storeAssertions, if_neg (not_not.2 hid), hparameters]
      show (insertAssertion row >>= _) = _
      rw [hrow]
      show (storeAssertions (expectedId + 1) assertions >>= _) = _
      rw [hrows]
      rfl
    · rw [← hmiddle]
      simp only [CaptureTables.addDefinitions, List.append_assoc, List.singleton_append]

/-- An assertion that is restored is equal to the given one. -/
theorem same_restored (assertion : CompiledAssertion) : Same (given assertion) (restored assertion)
    where
  assertionId := rfl
  peripheral := rfl
  channel := rfl
  assertion := rfl
  arguments := (sortedByName_perm assertion.arguments).map fieldItem

/-- What was stored of plain assertions is read back with the same fields. -/
theorem readable_of_plain {assertions : List GivenAssertion}
    (hplain : ∀ assertion ∈ assertions, assertion.Plain)
    (happlied : applyAll (creationStatements header assertions) {} = .ok after) :
    ∃ captured, readAssertionSet (.capture after) originalAssertionSetId = .ok captured ∧
      List.Forall₂ Same assertions captured.assertions := by
  have haccepted := applyAll_creationStatements.1 ⟨after, happlied⟩
  have hcompiled : (assertions.map GivenAssertion.compiled).map given = assertions := by
    rw [List.map_map]
    refine (List.map_congr_left fun assertion hassertion ↦ ?_).trans (List.map_id _)
    obtain ⟨position, hposition⟩ := List.getElem?_of_mem hassertion
    have hid := haccepted.sequential position assertion hposition
    exact given_compiled (hplain assertion hassertion) (by omega)
      (haccepted.assertions assertion hassertion).channel
  rw [creationStatements, applyAll_append] at happlied
  obtain ⟨middle, hheader, happlied⟩ := bind_eq_ok.1 happlied
  obtain ⟨-, rfl⟩ := applyAll_header.1 hheader
  rw [← hcompiled] at happlied
  obtain ⟨rows, hrows, rfl⟩ := storeAssertions_of_applied ready_header happlied
  have hread := readAssertions_storeAssertions hrows
  refine ⟨⟨originalAssertionSetId, "Original compiled assertions", header.compiledIrVersion,
    (assertions.map GivenAssertion.compiled).map restored⟩, ?_, ?_⟩
  · show (readAssertions rows originalAssertionSetId >>= _) = _
    rw [hread]
    rfl
  · rw [List.map_map]
    nth_rewrite 1 [← hcompiled]
    rw [List.map_map, List.forall₂_map_left_iff, List.forall₂_map_right_iff, List.forall₂_same]
    exact fun assertion _ ↦ same_restored assertion.compiled

end Reading

/-! ### Agreement -/

section Agreement

variable {header : CaptureHeader} {assertions : List GivenAssertion}

/-- What is read back holds named scalars only. -/
theorem plain_of_same {assertion : GivenAssertion} {read : CompiledAssertion}
    (hsame : Same assertion read) : assertion.Plain := by
  intro argument hargument
  obtain ⟨field, -, hfield⟩ := List.mem_map.1 (hsame.arguments.mem_iff.2 hargument)
  exact ⟨field.1, field.2, hfield.symm⟩

/-- Plain assertions are read back wherever they are stored. -/
theorem agrees_of_plain (hplain : ∀ assertion ∈ assertions, assertion.Plain) :
    Agrees header assertions := by
  intro faults path
  split
  · rename_i after hreturned
    obtain ⟨hfree, tables, rfl, happlied⟩ := stored_of_returned hreturned
    obtain ⟨captured, hread, hsame⟩ := readable_of_plain hplain happlied
    exact ⟨hfree, _, captured, rfl, hread, hsame⟩
  · rename_i error after hraised
    exact path_of_raised hraised

/-- Arguments that are not accepted create nothing. -/
theorem agrees_of_not_accepted (haccepted : ¬Accepted header assertions) :
    Agrees header assertions := by
  intro faults path
  split
  · rename_i after hreturned
    obtain ⟨-, tables, -, happlied⟩ := stored_of_returned hreturned
    exact absurd (applyAll_creationStatements.1 ⟨tables, happlied⟩) haccepted
  · rename_i error after hraised
    exact path_of_raised hraised

/-- Accepted arguments that are read back are plain. -/
theorem plain_of_agrees (haccepted : Accepted header assertions)
    (hagrees : Agrees header assertions) : ∀ assertion ∈ assertions, assertion.Plain := by
  obtain ⟨tables, happlied⟩ := applyAll_creationStatements.2 haccepted
  have hread := hagrees (fun _ ↦ none) none
  rw [returned_of_applied happlied] at hread
  obtain ⟨-, file, captured, -, -, hsame⟩ := hread
  intro assertion hassertion
  obtain ⟨position, hposition, hget⟩ := List.getElem_of_mem hassertion
  have hlength := hsame.length_eq
  have hrelated := (List.forall₂_iff_get.1 hsame).2 position hposition (hlength ▸ hposition)
  rw [List.get_eq_getElem, hget] at hrelated
  exact plain_of_same hrelated

/-- Writer and reader agree exactly when every argument is a scalar under a text, or the writer
refuses the arguments. -/
theorem agrees_iff (header : CaptureHeader) (assertions : List GivenAssertion) :
    Agrees header assertions ↔
      (∀ assertion ∈ assertions, assertion.Plain) ∨ ¬Accepted header assertions := by
  constructor
  · intro hagrees
    by_cases haccepted : Accepted header assertions
    · exact .inl (plain_of_agrees haccepted hagrees)
    · exact .inr haccepted
  · rintro (hplain | haccepted)
    · exact agrees_of_plain hplain
    · exact agrees_of_not_accepted haccepted

end Agreement

/-! ### An assertion with a nested argument -/

def manualHeader : CaptureHeader where
  testId := 1
  applicationTestId := 1
  runId := 2
  testName := "Manual capture"
  tickPeriodNs := 1000000
  expectedTickCount := 1
  compiledIrVersion := "1.1"
  applicationProtocolVersion := none
  firmwareVersion := none

/-- An assertion whose only argument is a list of two texts. -/
def nestedStates : GivenAssertion where
  assertionId := 0
  peripheral := "digital_input"
  channel := 0
  assertion := "change_state"
  arguments := [(.str "states", .list [.scalar (.str "low"), .scalar (.str "high")])]

theorem accepted_nestedStates : Accepted manualHeader [nestedStates] where
  header := ⟨by decide, by decide, by decide, by decide, by decide, by decide, by decide⟩
  sequential := countFrom_cons.2 ⟨rfl, fun _ _ hlater ↦ absurd hlater (by simp)⟩
  assertions := List.forall_mem_singleton.2 ⟨by decide, by decide, by decide, by decide⟩

/-- The list is stored, and the stored snapshot cannot be read. -/
theorem not_agrees_nestedStates : ¬Agrees manualHeader [nestedStates] ∧
    ∃ tables, initializeCaptureDatabase (fun _ ↦ none) manualHeader [nestedStates] none =
        .ok () (some (.capture tables)) ∧
      readAssertionSet (.capture tables) originalAssertionSetId = .error ⟨.captureSchema,
        "Assertion 0 arguments must contain only IR scalar values"⟩ := by
  constructor
  · intro hagrees
    obtain ⟨name, value, hscalar⟩ :=
      plain_of_agrees accepted_nestedStates hagrees nestedStates (List.mem_singleton_self _)
        (.str "states", .list [.scalar (.str "low"), .scalar (.str "high")])
        (List.mem_singleton_self _)
    cases hscalar
  · have hstorable := accepted_nestedStates.assertions nestedStates (List.mem_singleton_self _)
    have hinserted := (insertDefinition_eq_ok (@ready_header manualHeader)).2
      ⟨rfl, hstorable, _, rfl, rfl⟩
    have happlied : applyAll (creationStatements manualHeader [nestedStates]) {} = _ :=
      (applyAll_append _ _ _).trans (bind_eq_ok.2 ⟨_,
        applyAll_header.2 ⟨accepted_nestedStates.header, rfl⟩,
        bind_eq_ok.2 ⟨_, hinserted, rfl⟩⟩)
    exact ⟨_, returned_of_applied happlied, rfl⟩

end HilRig.Results.Creation
