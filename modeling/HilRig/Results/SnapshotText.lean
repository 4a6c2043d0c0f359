import HilRig.Results.ValueText

/-!
# The stored snapshot, down to its characters

The `arguments_json` column of a stored assertion is a text: compact, with sorted names, and without
escapes outside ASCII. The rows of a snapshot hold the documents that these texts denote. Here the
texts are written and read themselves, and the rows with documents turn out to be an exact account
of them: a snapshot that was stored is read back from its texts as from its documents
(`readSnapshot_storeSnapshot`).
-/

set_option autoImplicit false
set_option relaxedAutoImplicit false

namespace HilRig.Results

open HilRig.Models HilRig.Foundations

/-! ### Texts in rows -/

/-- A row of `assertion_definitions` as it is stored. -/
structure StoredAssertion where
  assertionSetId : String
  assertionId : ℕ
  peripheral : String
  channel : ℕ
  operation : String
  argumentsJson : String
  deriving DecidableEq, Repr

/-- The layout of the stored texts: no space after a separator, and no lines. -/
def compactLayout : JsonLayout where
  itemSpaces := 0
  keySpaces := 0
  indent := none

/-- A row with the text of its document. -/
def AssertionRow.write (row : AssertionRow) : Except HilRigError StoredAssertion := do
  let argumentsJson ← dumpsText compactLayout row.argumentsJson
  return ⟨row.assertionSetId, row.assertionId, row.peripheral, row.channel, row.operation,
    argumentsJson⟩

/-- Store the assertions of a test with their argument texts. -/
def storeSnapshot (assertions : List CompiledAssertion) :
    Except HilRigError (List StoredAssertion) := do
  let rows ← storeAssertions 0 assertions
  rows.mapM AssertionRow.write

/-- The arguments that a stored text holds. -/
def decodeArgumentsText (argumentsJson : String) (assertionId : ℕ) :
    Except HilRigError Fields :=
  match loads argumentsJson with
  | some value => decodeAssertionArguments value assertionId
  | none => .error ⟨.captureSchema, s!"Assertion {assertionId} has invalid arguments JSON"⟩

/-- The assertions of some stored rows, whose identifiers count from an expected one. -/
def readStored (assertionSetId : String) (expectedId : ℕ) :
    List StoredAssertion → Except HilRigError (List CompiledAssertion)
  | [] => .ok []
  | row :: rows => do
    if row.assertionId ≠ expectedId then
      .error ⟨.captureSchema,
        s!"Assertion IDs in set '{assertionSetId}' must be sequential from zero"⟩
    else
      let arguments ← decodeArgumentsText row.argumentsJson row.assertionId
      let assertions ← readStored assertionSetId (expectedId + 1) rows
      return {
        assertionId := row.assertionId
        peripheral := row.peripheral
        channel := row.channel
        assertion := row.operation
        arguments := arguments } :: assertions

/-- The stored assertions of one set, from their texts. -/
def readSnapshot (stored : List StoredAssertion) (assertionSetId : String) :
    Except HilRigError (List CompiledAssertion) :=
  readStored assertionSetId 0 ((stored.filter fun row ↦
    row.assertionSetId = assertionSetId).insertionSort fun first second ↦
      first.assertionId ≤ second.assertionId)

/-! ### Reading what was written -/

section RoundTrip

variable {row : AssertionRow} {rows : List AssertionRow} {stored : List StoredAssertion}

/-- A written row has the columns of its row, and its text denotes the document. -/
def Denotes (row : AssertionRow) (stored : StoredAssertion) : Prop :=
  stored.assertionSetId = row.assertionSetId ∧ stored.assertionId = row.assertionId ∧
    stored.peripheral = row.peripheral ∧ stored.channel = row.channel ∧
      stored.operation = row.operation ∧ loads stored.argumentsJson = some row.argumentsJson

theorem denotes_of_write {written : StoredAssertion} (hprinted : row.argumentsJson.Printed)
    (hwritten : row.write = .ok written) : Denotes row written := by
  obtain ⟨text, htext, hwritten⟩ := bind_eq_ok.1 hwritten
  have hloads := @loads_dumpsText _ _ _ "" hprinted htext (List.all_eq_true.1 (by decide))
  rw [String.append_empty] at hloads
  rw [← pure_eq_ok.1 hwritten]
  exact ⟨rfl, rfl, rfl, rfl, rfl, hloads⟩

/-- Rows whose texts denote their documents are read as the documents are. -/
theorem readStored_eq (hdenotes : List.Forall₂ Denotes rows stored) (assertionSetId : String)
    (expectedId : ℕ) :
    readStored assertionSetId expectedId stored = readRows assertionSetId expectedId rows := by
  induction hdenotes generalizing expectedId with
  | nil => rfl
  | cons hrow _ ih =>
    obtain ⟨-, hid, hperipheral, hchannel, hoperation, hloads⟩ := hrow
    rw [readStored, readRows, hid, hperipheral, hchannel, hoperation, decodeArgumentsText, hloads]
    simp only [ih]

/-- A stored row has the sorted arguments of an assertion. -/
theorem arguments_of_storeAssertions {assertions : List CompiledAssertion} {expectedId : ℕ}
    (hstored : storeAssertions expectedId assertions = .ok rows) :
    ∀ row ∈ rows, ∃ assertion ∈ assertions, row.argumentsJson =
      .object ((sortedByName assertion.arguments).map fun argument ↦
        (argument.1, .scalar argument.2)) := by
  induction assertions generalizing expectedId rows with
  | nil =>
    cases hstored
    exact fun row hrow ↦ absurd hrow List.not_mem_nil
  | cons assertion assertions ih =>
    obtain ⟨-, hstored⟩ := ite_error_eq_ok.1 hstored
    obtain ⟨parameters, hparameters, hstored⟩ := bind_eq_ok.1 hstored
    obtain ⟨first, hfirst, hstored⟩ := bind_eq_ok.1 hstored
    obtain ⟨later, hlater, hstored⟩ := bind_eq_ok.1 hstored
    rw [← pure_eq_ok.1 hstored]
    intro row hrow
    rcases List.mem_cons.1 hrow with rfl | hrow
    · refine ⟨assertion, List.mem_cons_self, ?_⟩
      rw [insertAssertion_eq_ok hfirst, (assertionParameters_eq_ok hparameters).2]
    · obtain ⟨other, hother, hdocument⟩ := ih hlater row hrow
      exact ⟨other, List.mem_cons_of_mem _ hother, hdocument⟩

/-- A snapshot that was stored is read back from its texts as it was, each assertion with its
arguments sorted. -/
theorem readSnapshot_storeSnapshot {assertions : List CompiledAssertion}
    (hprinted : ∀ assertion ∈ assertions, ∀ argument ∈ assertion.arguments, IsPrinted argument.2)
    (hstored : storeSnapshot assertions = .ok stored) :
    readSnapshot stored originalAssertionSetId = .ok (assertions.map restored) := by
  obtain ⟨rows, hrows, hwritten⟩ := bind_eq_ok.1 hstored
  have hdocuments : ∀ row ∈ rows, row.argumentsJson.Printed := by
    intro row hrow
    obtain ⟨assertion, hassertion, hdocument⟩ := arguments_of_storeAssertions hrows row hrow
    rw [hdocument]
    refine printed_object fun member hmember ↦ ?_
    obtain ⟨argument, hargument, rfl⟩ := List.mem_map.1 hmember
    exact printed_scalar (hprinted assertion hassertion argument
      ((sortedByName_perm _).mem_iff.1 hargument))
  have hdenotes : List.Forall₂ Denotes rows stored :=
    ((List.forall₂_and_left _ _).2 ⟨hdocuments, mapM_eq_ok.1 hwritten⟩).imp fun _ _ hrow ↦
      denotes_of_write hrow.1 hrow.2
  obtain ⟨hmembers, hsorted⟩ := rows_of_storeAssertions hrows
  have hids : rows.map AssertionRow.assertionId = stored.map StoredAssertion.assertionId := by
    rw [← List.forall₂_eq_eq_eq, List.forall₂_map_left_iff, List.forall₂_map_right_iff]
    exact hdenotes.imp fun _ _ hrow ↦ hrow.2.1.symm
  have hsets :
      rows.map AssertionRow.assertionSetId = stored.map StoredAssertion.assertionSetId := by
    rw [← List.forall₂_eq_eq_eq, List.forall₂_map_left_iff, List.forall₂_map_right_iff]
    exact hdenotes.imp fun _ _ hrow ↦ hrow.1.symm
  have hset : ∀ row ∈ stored, row.assertionSetId = originalAssertionSetId := by
    intro row hrow
    have hmem := List.mem_map_of_mem (f := StoredAssertion.assertionSetId) hrow
    rw [← hsets] at hmem
    obtain ⟨original, horiginal, hsame⟩ := List.mem_map.1 hmem
    exact hsame.symm.trans (hmembers original horiginal).1
  have hfilter : (stored.filter fun row ↦ row.assertionSetId = originalAssertionSetId) = stored :=
    List.filter_eq_self.2 fun row hrow ↦ decide_eq_true (hset row hrow)
  have hpairwise : stored.Pairwise fun first second ↦ first.assertionId ≤ second.assertionId := by
    rw [← List.pairwise_map (f := StoredAssertion.assertionId) (R := (· ≤ ·)), ← hids,
      List.pairwise_map]
    exact hsorted
  rw [readSnapshot, hfilter, List.Pairwise.insertionSort_eq hpairwise, readStored_eq hdenotes]
  exact readRows_of_storeAssertions hrows

/-- An assertion on an analogue input, whose arguments are not in the order of their names. -/
def nearAssertion : CompiledAssertion where
  assertionId := 0
  peripheral := "analogue_input"
  channel := 1
  assertion := "near"
  arguments := [("tick", .int 5), ("expected_uv", .int (-1500000)), ("note", .str "5 \"V\"")]

theorem readSnapshot_nearAssertion : ∃ stored, storeSnapshot [nearAssertion] = .ok stored ∧
    readSnapshot stored originalAssertionSetId = .ok [restored nearAssertion] := by
  have hstored : storeSnapshot [nearAssertion] = .ok [⟨"original", 0, "analogue_input", 1, "near",
      "\x7b\"expected_uv\":-1500000,\"note\":\"5 \\\"V\\\"\",\"tick\":5\x7d"⟩] := by
    decide +kernel
  refine ⟨_, hstored, readSnapshot_storeSnapshot (fun assertion hassertion ↦ ?_) hstored⟩
  rw [List.mem_singleton.1 hassertion, nearAssertion]
  simp only [List.forall_mem_cons, IsPrinted, true_and]
  exact fun _ hargument ↦ absurd hargument List.not_mem_nil

end RoundTrip

end HilRig.Results
