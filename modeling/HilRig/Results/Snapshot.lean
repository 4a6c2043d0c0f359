import HilRig.Foundations.Fallible
import HilRig.Models.Execution
import HilRig.Results.Records
import Mathlib.Data.List.Sort
import Mathlib.Data.String.Basic

/-!
# The stored assertion snapshot

A capture file is created with the compiled assertions of its test, one row each, whose arguments
are a JSON text. A JSON text is modelled by the document it denotes: writing one sorts the members
of an object and refuses a scalar that is not finite, and reading it gives the members back. Every
snapshot that is stored is read back with the same assertions, their arguments sorted by name
(`readAssertions_storeAssertions`).
-/

set_option autoImplicit false
set_option relaxedAutoImplicit false

namespace HilRig.Results

open HilRig.Models HilRig.Foundations

/-! ### JSON documents -/

/-- The document a JSON text denotes. -/
inductive JsonValue
  | scalar (value : IRScalar)
  | array (items : List JsonValue)
  | object (members : List (String × JsonValue))

/-- Whether a scalar has a JSON text: a float must be finite, and an integer is printed. -/
def isPrintable : IRScalar → Bool
  | .float (.finite _) => true
  | .float _ => false
  | .int value => value.natAbs < 10 ^ 4300
  | _ => true

/-- Arguments sorted by their names. -/
def sortedByName (arguments : Fields) : Fields :=
  arguments.insertionSort fun first second ↦ first.1 ≤ second.1

/-- `json.dumps` of a mapping of scalars, with sorted names. -/
def dumps (arguments : Fields) : Except HilRigError JsonValue :=
  if arguments.all fun argument ↦ isPrintable argument.2 then
    .ok (.object ((sortedByName arguments).map fun argument ↦ (argument.1, .scalar argument.2)))
  else .error (.value "Out of range float values are not JSON compliant")

/-- Whether a decoded value is a scalar of the compiled form. -/
def isIrScalar : JsonValue → Bool
  | .scalar (.float (.finite _)) => true
  | .scalar (.float _) => false
  | .scalar _ => true
  | _ => false

/-! ### Rows -/

def originalAssertionSetId : String := "original"

/-- A row of `assertion_sets`. -/
structure AssertionSetRow where
  assertionSetId : String
  name : String
  compiledIrVersion : String
  deriving DecidableEq, Repr

/-- A row of `assertion_definitions`. -/
structure AssertionRow where
  assertionSetId : String
  assertionId : ℕ
  peripheral : String
  channel : ℕ
  operation : String
  argumentsJson : JsonValue

/-- The `CHECK` of a text column: it is not blank. Only spaces are trimmed, and a text ends at its
first null character. -/
def isStorableText (text : String) : Bool :=
  (text.toList.dropWhile fun character ↦ character = ' ').head?.any fun character ↦
    character.toNat ≠ 0

/-- The row of one assertion. -/
def assertionParameters (assertion : CompiledAssertion) : Except HilRigError AssertionRow :=
  match dumps assertion.arguments with
  | .ok argumentsJson => .ok {
      assertionSetId := originalAssertionSetId
      assertionId := assertion.assertionId
      peripheral := assertion.peripheral
      channel := assertion.channel
      operation := assertion.assertion
      argumentsJson := argumentsJson }
  | .error _ => .error (.value
      s!"Assertion {assertion.assertionId} arguments are not valid IR scalar values")

/-- The insertion of a row, whose columns are checked. -/
def insertAssertion (row : AssertionRow) : Except HilRigError AssertionRow :=
  if 2 ^ 63 ≤ row.channel then
    .error ⟨.overflowError, "Python int too large to convert to SQLite INTEGER"⟩
  else if !isStorableText row.peripheral then
    .error ⟨.native, "CHECK constraint failed: length(trim(peripheral)) > 0"⟩
  else if !isStorableText row.operation then
    .error ⟨.native, "CHECK constraint failed: length(trim(operation)) > 0"⟩
  else .ok row

/-- Store the assertions of a test, whose identifiers count from an expected one. -/
def storeAssertions (expectedId : ℕ) :
    List CompiledAssertion → Except HilRigError (List AssertionRow)
  | [] => .ok []
  | assertion :: assertions => do
    if assertion.assertionId ≠ expectedId then
      .error (.value "Stored assertion IDs must be sequential from zero")
    else
      let parameters ← assertionParameters assertion
      let row ← insertAssertion parameters
      let rows ← storeAssertions (expectedId + 1) assertions
      return row :: rows

/-- The arguments a stored document holds. -/
def decodeAssertionArguments (value : JsonValue) (assertionId : ℕ) :
    Except HilRigError Fields :=
  match value with
  | .object members => members.mapM fun member ↦
      match member.2 with
      | .scalar argument =>
        if isIrScalar (.scalar argument) then .ok (member.1, argument)
        else .error ⟨.captureSchema,
          s!"Assertion {assertionId} arguments must contain only IR scalar values"⟩
      | _ => .error ⟨.captureSchema,
          s!"Assertion {assertionId} arguments must contain only IR scalar values"⟩
  | _ => .error ⟨.captureSchema, s!"Assertion {assertionId} arguments must be a JSON object"⟩

/-- The assertions of some rows in the order of their identifiers, which count from an expected
one. -/
def readRows (assertionSetId : String) (expectedId : ℕ) :
    List AssertionRow → Except HilRigError (List CompiledAssertion)
  | [] => .ok []
  | row :: rows => do
    if row.assertionId ≠ expectedId then
      .error ⟨.captureSchema,
        s!"Assertion IDs in set '{assertionSetId}' must be sequential from zero"⟩
    else
      let arguments ← decodeAssertionArguments row.argumentsJson row.assertionId
      let assertions ← readRows assertionSetId (expectedId + 1) rows
      return {
        assertionId := row.assertionId
        peripheral := row.peripheral
        channel := row.channel
        assertion := row.operation
        arguments := arguments } :: assertions

/-- The stored assertions of one set. -/
def readAssertions (definitions : List AssertionRow) (assertionSetId : String) :
    Except HilRigError (List CompiledAssertion) :=
  readRows assertionSetId 0 ((definitions.filter fun row ↦
    row.assertionSetId = assertionSetId).insertionSort fun first second ↦
      first.assertionId ≤ second.assertionId)

/-! ### Reading a stored snapshot -/

/-- An assertion as it is read back. -/
def restored (assertion : CompiledAssertion) : CompiledAssertion :=
  { assertion with arguments := sortedByName assertion.arguments }

section RoundTrip

variable {assertion : CompiledAssertion} {row : AssertionRow}

theorem sortedByName_perm (arguments : Fields) : (sortedByName arguments).Perm arguments :=
  List.perm_insertionSort _ _

/-- A stored assertion has finite arguments, and its row holds them. -/
theorem assertionParameters_eq_ok (hrow : assertionParameters assertion = .ok row) :
    (∀ argument ∈ assertion.arguments, isPrintable argument.2 = true) ∧
      row = ⟨originalAssertionSetId, assertion.assertionId, assertion.peripheral,
        assertion.channel, assertion.assertion,
        .object ((sortedByName assertion.arguments).map fun argument ↦
          (argument.1, .scalar argument.2))⟩ := by
  unfold assertionParameters dumps at hrow
  by_cases hprintable : assertion.arguments.all fun argument ↦ isPrintable argument.2
  · rw [if_pos hprintable] at hrow
    exact ⟨List.all_eq_true.1 hprintable, (Except.ok.inj hrow).symm⟩
  · rw [if_neg hprintable] at hrow
    cases hrow

theorem insertAssertion_eq_ok {inserted : AssertionRow}
    (hinserted : insertAssertion row = .ok inserted) : inserted = row := by
  unfold insertAssertion at hinserted
  obtain ⟨-, hinserted⟩ := ite_error_eq_ok.1 hinserted
  obtain ⟨-, hinserted⟩ := ite_error_eq_ok.1 hinserted
  obtain ⟨-, hinserted⟩ := ite_error_eq_ok.1 hinserted
  exact (Except.ok.inj hinserted).symm

/-- A printable scalar is one of the compiled form. -/
theorem isIrScalar_of_isPrintable {value : IRScalar} (hvalue : isPrintable value = true) :
    isIrScalar (.scalar value) = true := by
  cases value with
  | float value => cases value <;> first | rfl | cases hvalue
  | _ => rfl

/-- Arguments that were written are read back sorted. -/
theorem decode_of_isPrintable {arguments : Fields} (assertionId : ℕ)
    (hprintable : ∀ argument ∈ arguments, isPrintable argument.2 = true) :
    decodeAssertionArguments (.object ((sortedByName arguments).map fun argument ↦
      (argument.1, .scalar argument.2))) assertionId = .ok (sortedByName arguments) := by
  unfold decodeAssertionArguments
  dsimp only
  rw [List.mapM_map]
  have hdecoded := @mapM_of_forall HilRigError (String × IRScalar) (String × IRScalar)
    (fun argument ↦ if isIrScalar (.scalar argument.2) then .ok (argument.1, argument.2)
      else .error ⟨.captureSchema,
        s!"Assertion {assertionId} arguments must contain only IR scalar values"⟩)
    (sortedByName arguments) id ?_
  · rw [List.map_id] at hdecoded
    exact hdecoded
  · intro argument hargument
    have hscalar := isIrScalar_of_isPrintable
      (hprintable argument ((sortedByName_perm arguments).mem_iff.1 hargument))
    exact if_pos hscalar

/-- Rows that were stored belong to the original set, in the order of their identifiers, which count
from the expected one. -/
theorem rows_of_storeAssertions {assertions : List CompiledAssertion} {expectedId : ℕ}
    {rows : List AssertionRow} (hstored : storeAssertions expectedId assertions = .ok rows) :
    (∀ row ∈ rows, row.assertionSetId = originalAssertionSetId ∧ expectedId ≤ row.assertionId) ∧
      rows.Pairwise (fun first second ↦ first.assertionId ≤ second.assertionId) := by
  induction assertions generalizing expectedId rows with
  | nil =>
    cases hstored
    exact ⟨fun row hrow ↦ absurd hrow List.not_mem_nil, List.Pairwise.nil⟩
  | cons assertion assertions ih =>
    obtain ⟨hid, hstored⟩ := ite_error_eq_ok.1 hstored
    obtain ⟨parameters, hparameters, hstored⟩ := bind_eq_ok.1 hstored
    obtain ⟨row, hrow, hstored⟩ := bind_eq_ok.1 hstored
    obtain ⟨later, hlater, hstored⟩ := bind_eq_ok.1 hstored
    obtain ⟨hmembers, hsorted⟩ := ih hlater
    have hfirst : row.assertionSetId = originalAssertionSetId ∧ row.assertionId = expectedId := by
      rw [insertAssertion_eq_ok hrow, (assertionParameters_eq_ok hparameters).2]
      exact ⟨rfl, not_not.1 hid⟩
    rw [← pure_eq_ok.1 hstored]
    constructor
    · intro other hother
      rcases List.mem_cons.1 hother with rfl | hother
      · exact ⟨hfirst.1, hfirst.2.ge⟩
      · exact ⟨(hmembers other hother).1, (Nat.le_succ _).trans (hmembers other hother).2⟩
    · refine List.pairwise_cons.2 ⟨fun other hother ↦ ?_, hsorted⟩
      rw [hfirst.2]
      exact (Nat.le_succ _).trans (hmembers other hother).2

/-- Stored rows are read back as the assertions they were made from. -/
theorem readRows_of_storeAssertions {assertions : List CompiledAssertion} {expectedId : ℕ}
    {rows : List AssertionRow} (hstored : storeAssertions expectedId assertions = .ok rows) :
    readRows originalAssertionSetId expectedId rows = .ok (assertions.map restored) := by
  induction assertions generalizing expectedId rows with
  | nil =>
    cases hstored
    rfl
  | cons assertion assertions ih =>
    obtain ⟨hid, hstored⟩ := ite_error_eq_ok.1 hstored
    obtain ⟨parameters, hparameters, hstored⟩ := bind_eq_ok.1 hstored
    obtain ⟨row, hrow, hstored⟩ := bind_eq_ok.1 hstored
    obtain ⟨later, hlater, hstored⟩ := bind_eq_ok.1 hstored
    obtain ⟨hprintable, hparameters⟩ := assertionParameters_eq_ok hparameters
    rw [← pure_eq_ok.1 hstored, insertAssertion_eq_ok hrow, hparameters]
    refine ite_error_eq_ok.2 ⟨hid, bind_eq_ok.2 ⟨_, decode_of_isPrintable _ hprintable,
      bind_eq_ok.2 ⟨_, ih hlater, rfl⟩⟩⟩

/-- A snapshot that was stored is read back as it was, each assertion with its arguments sorted. -/
theorem readAssertions_storeAssertions {assertions : List CompiledAssertion}
    {rows : List AssertionRow} (hstored : storeAssertions 0 assertions = .ok rows) :
    readAssertions rows originalAssertionSetId = .ok (assertions.map restored) := by
  obtain ⟨hmembers, hsorted⟩ := rows_of_storeAssertions hstored
  have hfilter : (rows.filter fun row ↦ row.assertionSetId = originalAssertionSetId) = rows :=
    List.filter_eq_self.2 fun row hrow ↦ decide_eq_true (hmembers row hrow).1
  rw [readAssertions, hfilter, List.Pairwise.insertionSort_eq hsorted]
  exact readRows_of_storeAssertions hstored

/-- A stored snapshot has only assertions whose arguments are printable. -/
theorem printable_of_storeAssertions {assertions : List CompiledAssertion} {expectedId : ℕ}
    {rows : List AssertionRow} (hstored : storeAssertions expectedId assertions = .ok rows) :
    ∀ assertion ∈ assertions, ∀ argument ∈ assertion.arguments,
      isPrintable argument.2 = true := by
  induction assertions generalizing expectedId rows with
  | nil => exact fun assertion hassertion ↦ absurd hassertion List.not_mem_nil
  | cons assertion assertions ih =>
    obtain ⟨-, hstored⟩ := ite_error_eq_ok.1 hstored
    obtain ⟨parameters, hparameters, hstored⟩ := bind_eq_ok.1 hstored
    obtain ⟨row, -, hstored⟩ := bind_eq_ok.1 hstored
    obtain ⟨later, hlater, -⟩ := bind_eq_ok.1 hstored
    intro other hother
    rcases List.mem_cons.1 hother with rfl | hother
    · exact (assertionParameters_eq_ok hparameters).1
    · exact ih hlater other hother

end RoundTrip

end HilRig.Results
