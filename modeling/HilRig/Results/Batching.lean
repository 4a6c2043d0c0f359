import HilRig.Results.CapturedRun
import HilRig.Results.Recording

/-!
# Batching is invisible

When two batches are written one after the other, the condition on which they are committed and the
database they leave are those of one batch (`cuttable_storeRecords`). So every way to cut a stream
of records leaves the same tables, counters and query results (`batching_invisible`).
-/

set_option autoImplicit false
set_option relaxedAutoImplicit false

namespace HilRig.Results

open HilRig.Foundations Relation

/-! ### Two batches -/

section Batch

variable {database : CaptureDatabase} {ticks laterTicks : List TickResult}
  {communications laterCommunications : List CommunicationResult}
  {errors laterErrors : List ApplicationErrorRecord}

/-- Two batches extend a database as one. -/
theorem extend_extend : (database.extend ticks communications errors).extend laterTicks
    laterCommunications laterErrors =
      database.extend (ticks ++ laterTicks) (communications ++ laterCommunications)
        (errors ++ laterErrors) := by
  simp only [CaptureDatabase.extend, List.map_append, List.length_append, min?_min?_append,
    max?_max?_append, List.append_assoc, Nat.add_assoc]

theorem fits_append :
    Fits (ticks ++ laterTicks) (communications ++ laterCommunications) (errors ++ laterErrors) ↔
      Fits ticks communications errors ∧ Fits laterTicks laterCommunications laterErrors := by
  constructor
  · rintro ⟨hticks, hcommunications, herrors⟩
    rw [List.forall_mem_append] at hticks hcommunications herrors
    exact ⟨⟨hticks.1, hcommunications.1, herrors.1⟩, hticks.2, hcommunications.2, herrors.2⟩
  · rintro ⟨⟨hticks, hcommunications, herrors⟩, hlaterTicks, hlaterCommunications, hlaterErrors⟩
    exact ⟨List.forall_mem_append.2 ⟨hticks, hlaterTicks⟩,
      List.forall_mem_append.2 ⟨hcommunications, hlaterCommunications⟩,
      List.forall_mem_append.2 ⟨herrors, hlaterErrors⟩⟩

/-- Two batches can be stored exactly when they can be stored as one. -/
theorem accepts_append :
    database.Accepts (ticks ++ laterTicks) (communications ++ laterCommunications)
        (errors ++ laterErrors) ↔
      database.Accepts ticks communications errors ∧
        (database.extend ticks communications errors).Accepts laterTicks laterCommunications
          laterErrors := by
  constructor
  · rintro ⟨hfits, hfresh, hordinals, hunique⟩
    obtain ⟨hfirst, hlater⟩ := fits_append.1 hfits
    rw [List.map_append, fresh_append] at hfresh hunique
    rw [List.forall_mem_append] at hordinals
    rw [← @ticks_extend database ticks communications errors] at hfresh
    rw [← @keys_extend database ticks communications errors] at hunique
    exact ⟨⟨hfirst, hfresh.1, hordinals.1, hunique.1⟩, hlater, hfresh.2, hordinals.2, hunique.2⟩
  · rintro ⟨⟨hfirst, hfresh, hordinals, hunique⟩, hlater, hlaterFresh, hlaterOrdinals,
      hlaterUnique⟩
    rw [ticks_extend] at hlaterFresh
    rw [keys_extend] at hlaterUnique
    refine ⟨fits_append.2 ⟨hfirst, hlater⟩, ?_,
      List.forall_mem_append.2 ⟨hordinals, hlaterOrdinals⟩, ?_⟩
    · rw [List.map_append, fresh_append]
      exact ⟨hfresh, hlaterFresh⟩
    · rw [List.map_append, fresh_append]
      exact ⟨hunique, hlaterUnique⟩

end Batch

/-! ### A writer without faults -/

/-- What a computation over the writer's connection leaves committed, when it does not raise. -/
def outcome {α : Type} (result : EStateM.Result HilRigError (Session CaptureDatabase) α) :
    Option CaptureDatabase :=
  match result with
  | .ok _ after => some after.committed
  | .error _ _ => none

section Writer

variable {session : Session CaptureDatabase} {ticks laterTicks : List TickResult}
  {communications laterCommunications : List CommunicationResult}
  {errors laterErrors : List ApplicationErrorRecord}

/-- A batch that can be stored is written. -/
theorem writeBatch_of_accepts (hidle : session.working = none)
    (haccepts : session.committed.Accepts ticks communications errors) :
    ∃ after, writeBatch (fun _ ↦ none) ticks communications errors session = .ok () after ∧
      after.working = none ∧
      after.committed = session.committed.extend ticks communications errors := by
  have hcontents : session.contents = session.committed := by
    rw [Session.contents, hidle, Option.getD_none]
  unfold writeBatch
  split
  · rename_i hempty
    obtain ⟨rfl, rfl, rfl⟩ := hempty
    exact ⟨session, rfl, hidle, extend_nil.symm⟩
  · have happlied : applyAll (.ok :: batchStatements ticks communications errors)
        session.contents = .ok (session.committed.extend ticks communications errors) := by
      rw [applyAll_cons, hcontents]
      exact batch_eq_ok.2 ⟨haccepts, rfl⟩
    obtain ⟨after, hrun, hworking, hcommitted⟩ := transact_of_applyAll happlied
    rw [run_tryCatch_of_ok hrun]
    exact ⟨after, rfl, hworking, hcommitted⟩

/-- A batch that cannot be stored raises. -/
theorem writeBatch_of_not_accepts {faults : ℕ → Option HilRigError}
    (hidle : session.working = none)
    (haccepts : ¬session.committed.Accepts ticks communications errors) :
    ∃ error after, writeBatch faults ticks communications errors session = .error error after := by
  have hcontents : session.contents = session.committed := by
    rw [Session.contents, hidle, Option.getD_none]
  unfold writeBatch
  split
  · rename_i hempty
    obtain ⟨rfl, rfl, rfl⟩ := hempty
    exact absurd accepts_nil haccepts
  · rcases @transact_cases _ _ faults (.ok :: batchStatements ticks communications errors)
      session with ⟨after, -, -, happlied⟩ | ⟨error, middle, hrun, -⟩
    · rw [applyAll_cons, hcontents] at happlied
      exact absurd (batch_eq_ok.1 happlied).1 haccepts
    · rw [run_tryCatch_of_error hrun]
      obtain ⟨raised, after, habandoned, -⟩ := @abandonBatch_cases faults error middle
      exact ⟨raised, after, habandoned⟩

/-- Two batches, one after the other, are written as one. -/
theorem writeBatch_append (hidle : session.working = none) :
    outcome ((writeBatch (fun _ ↦ none) ticks communications errors >>= fun _ ↦
        writeBatch (fun _ ↦ none) laterTicks laterCommunications laterErrors) session) =
      outcome (writeBatch (fun _ ↦ none) (ticks ++ laterTicks)
        (communications ++ laterCommunications) (errors ++ laterErrors) session) := by
  by_cases hfirst : session.committed.Accepts ticks communications errors
  · obtain ⟨middle, hrun, hworking, hcommitted⟩ := writeBatch_of_accepts hidle hfirst
    rw [run_bind_of_ok hrun]
    by_cases hsecond : middle.committed.Accepts laterTicks laterCommunications laterErrors
    · obtain ⟨after, hlater, -, hafter⟩ := writeBatch_of_accepts hworking hsecond
      rw [hcommitted] at hsecond
      obtain ⟨joined, hjoined, -, hboth⟩ :=
        writeBatch_of_accepts hidle (accepts_append.2 ⟨hfirst, hsecond⟩)
      rw [hlater, hjoined, outcome, outcome, hafter, hcommitted, extend_extend, hboth]
    · obtain ⟨error, after, hlater⟩ :=
        @writeBatch_of_not_accepts middle _ _ _ (fun _ ↦ none) hworking hsecond
      rw [hcommitted] at hsecond
      obtain ⟨failure, joined, hjoined⟩ := @writeBatch_of_not_accepts session _ _ _
        (fun _ ↦ none) hidle fun haccepts ↦ hsecond (accepts_append.1 haccepts).2
      rw [hlater, hjoined]
      rfl
  · obtain ⟨error, after, hrun⟩ :=
      @writeBatch_of_not_accepts session _ _ _ (fun _ ↦ none) hidle hfirst
    obtain ⟨failure, joined, hjoined⟩ := @writeBatch_of_not_accepts session _ _ _
      (fun _ ↦ none) hidle fun haccepts ↦ hfirst (accepts_append.1 haccepts).1
    rw [run_bind_of_error hrun, hjoined]
    rfl

end Writer

/-! ### A stream of records -/

/-- Records are stored in one batch, their communications with the next ordinals. -/
def storeRecords (state : CaptureDatabase × OrdinalMap) (records : List Record) :
    Option (CaptureDatabase × OrdinalMap) :=
  let numbered := numberFrom state.2 (records.filterMap Record.communicationResult)
  match applyAll (batchStatements (ticksOf records) numbered.1 (errorsOf records)) state.1 with
  | .ok database => some (database, numbered.2)
  | .error _ => none

/-- Consecutive batches of records, which get their ordinals one after another. -/
def writeBatches (faults : ℕ → Option HilRigError) : OrdinalMap → List (List Record) → Capture Unit
  | _, [] => return ()
  | next, batch :: batches => do
    let numbered := numberFrom next (batch.filterMap Record.communicationResult)
    writeBatch faults (ticksOf batch) numbered.1 (errorsOf batch)
    writeBatches faults numbered.2 batches

/-- No insertion of some records into a new capture fails: their unique columns are distinct and
their integers fit. -/
structure Insertable (records : List Record) : Prop where
  ticks : ((ticksOf records).map TickResult.tick).Nodup
  communications : ((communicationsOf records).1.map fun item ↦
    (communicationParameters item).key).Nodup
  fits : Fits (ticksOf records) (communicationsOf records).1 (errorsOf records)

section Stream

variable {records : List Record} {state after : CaptureDatabase × OrdinalMap} {next : OrdinalMap}

theorem storeRecords_eq_some : storeRecords state records = some after ↔
    state.1.Accepts (ticksOf records)
        (numberFrom state.2 (records.filterMap Record.communicationResult)).1
        (errorsOf records) ∧
      (state.1.extend (ticksOf records)
          (numberFrom state.2 (records.filterMap Record.communicationResult)).1
          (errorsOf records),
        (numberFrom state.2 (records.filterMap Record.communicationResult)).2) = after := by
  unfold storeRecords
  cases hstored : applyAll (batchStatements (ticksOf records)
    (numberFrom state.2 (records.filterMap Record.communicationResult)).1
    (errorsOf records)) state.1 with
  | ok database =>
    obtain ⟨haccepts, rfl⟩ := batch_eq_ok.1 hstored
    simp [haccepts, hstored]
  | error error =>
    simp only [hstored, reduceCtorEq, false_iff, not_and]
    intro haccepts
    rw [batch_eq_ok.2 ⟨haccepts, rfl⟩] at hstored
    cases hstored

/-- Where a stream of records is cut makes no difference. -/
theorem cuttable_storeRecords : Cuttable storeRecords where
  nil state := storeRecords_eq_some.2
    ⟨accepts_nil, Prod.ext extend_nil rfl⟩
  append state first second := by
    ext after
    rw [Option.bind_eq_bind, Option.bind_eq_some_iff, storeRecords_eq_some]
    simp only [ticksOf, errorsOf, List.filterMap_append, numberFrom_append]
    constructor
    · rintro ⟨haccepts, rfl⟩
      obtain ⟨hfirst, hsecond⟩ := accepts_append.1 haccepts
      exact ⟨_, storeRecords_eq_some.2 ⟨hfirst, rfl⟩, storeRecords_eq_some.2
        ⟨hsecond, Prod.ext extend_extend rfl⟩⟩
    · rintro ⟨middle, hmiddle, hafter⟩
      obtain ⟨hfirst, rfl⟩ := storeRecords_eq_some.1 hmiddle
      obtain ⟨hsecond, rfl⟩ := storeRecords_eq_some.1 hafter
      exact ⟨accepts_append.2 ⟨hfirst, hsecond⟩, Prod.ext extend_extend.symm rfl⟩

/-- The writer stores a stream batch by batch. -/
theorem outcome_writeBatches (batches : List (List Record)) {session : Session CaptureDatabase}
    (hidle : session.working = none) :
    outcome (writeBatches (fun _ ↦ none) next batches session) =
      (batches.foldlM storeRecords (session.committed, next)).map Prod.fst := by
  induction batches generalizing session next with
  | nil => rfl
  | cons batch batches ih =>
    rw [writeBatches, List.foldlM_cons]
    by_cases haccepts : session.committed.Accepts (ticksOf batch)
        (numberFrom next (batch.filterMap Record.communicationResult)).1 (errorsOf batch)
    · obtain ⟨after, hrun, hworking, hcommitted⟩ := writeBatch_of_accepts hidle haccepts
      rw [run_bind_of_ok hrun, ih hworking, hcommitted,
        storeRecords_eq_some.2 ⟨haccepts, rfl⟩]
      rfl
    · obtain ⟨error, after, hrun⟩ :=
        @writeBatch_of_not_accepts session _ _ _ (fun _ ↦ none) hidle haccepts
      have hrefused : storeRecords (session.committed, next) batch = none := by
        rw [Option.eq_none_iff_forall_ne_some]
        intro stored hstored
        exact haccepts (storeRecords_eq_some.1 hstored).1
      rw [run_bind_of_error hrun, hrefused]
      rfl

theorem ordinal_numberFrom {items : List CommunicationResult} {item : CommunicationResult}
    (hitem : item ∈ (numberFrom next items).1) : item.ordinal ≠ none := by
  induction items generalizing next with
  | nil => cases hitem
  | cons first items ih =>
    rw [numberFrom, List.mem_cons] at hitem
    rcases hitem with rfl | hitem
    · simp [assignOrdinal]
    · exact ih hitem

/-- A new capture accepts exactly the records that can be inserted into it. -/
theorem accepts_newCapture {expectedTickCount : ℕ} (hpositive : 0 < expectedTickCount) :
    (initializeCaptureDatabase expectedTickCount hpositive).Accepts (ticksOf records)
      (communicationsOf records).1 (errorsOf records) ↔ Insertable records := by
  constructor
  · rintro ⟨hfits, hticks, -, hkeys⟩
    exact ⟨hticks.1, hkeys.1, hfits⟩
  · rintro ⟨hticks, hkeys, hfits⟩
    exact ⟨hfits, ⟨hticks, fun _ _ ↦ List.not_mem_nil⟩, fun _ hitem ↦ ordinal_numberFrom hitem,
      hkeys, fun _ _ ↦ List.not_mem_nil⟩

end Stream

/-! ### Queries -/

/-- One communication payload read back from the capture. -/
structure CommunicationCapture where
  captureId : ℕ
  tick : ℕ
  timeNs : ℕ
  ordinal : ℕ
  peripheral : CommunicationPeripheral
  channel : ℕ
  payload : List UInt8
  deriving DecidableEq, Repr

/-- The peripheral with a given text. -/
def CommunicationPeripheral.ofValue (text : String) :
    Except HilRigError CommunicationPeripheral :=
  if text = "i2c" then .ok .i2c
  else if text = "spi" then .ok .spi
  else if text = "uart" then .ok .uart
  else .error (.value s!"{text} is not a valid CommunicationPeripheral")

/-- The capture a row holds; the rows are numbered from one. -/
def capturedCommunication (tickPeriodNs : ℕ) (entry : CommunicationRow × ℕ) :
    Except HilRigError CommunicationCapture := do
  let peripheral ← CommunicationPeripheral.ofValue entry.1.peripheral
  return {
    captureId := entry.2 + 1
    tick := entry.1.tick
    timeNs := entry.1.tick * tickPeriodNs
    ordinal := entry.1.ordinal
    peripheral := peripheral
    channel := entry.1.channel
    payload := entry.1.payload }

/-- What a query of communications asks for. -/
structure CommunicationFilter where
  peripheral : Option CommunicationPeripheral
  channel : Option ℕ
  fromTick : ℕ
  untilTick : Option ℕ

/-- Whether the integers of a query can be bound. -/
def CommunicationFilter.fits (filter : CommunicationFilter) : Bool :=
  fitsInteger filter.fromTick && fitsColumn (filter.untilTick.map Nat.cast) &&
    fitsColumn (filter.channel.map Nat.cast)

/-- Whether a row matches the supplied filters. -/
def CommunicationFilter.admits (filter : CommunicationFilter) (row : CommunicationRow) : Bool :=
  filter.fromTick ≤ row.tick ∧ (filter.untilTick.all fun last ↦ row.tick ≤ last) ∧
    (filter.peripheral.all fun peripheral ↦ row.peripheral = peripheral.value) ∧
      filter.channel.all fun channel ↦ row.channel = channel

/-- The matching captures, by tick and then in the order of their rows. -/
def readCommunications (database : CaptureDatabase) (tickPeriodNs : ℕ)
    (filter : CommunicationFilter) : Iteration HilRigError CommunicationCapture :=
  if ¬filter.fits then .raise integerOverflow
  else .translate (capturedCommunication tickPeriodNs)
    ((database.communicationResults.zipIdx.filter fun entry ↦ filter.admits entry.1).insertionSort
      fun first second ↦ first.1.tick < second.1.tick ∨
        first.1.tick = second.1.tick ∧ first.2 ≤ second.2)

/-- Two captures hold the same evidence: their tables, their counters, and what is read from
them. -/
structure CaptureDatabase.SameEvidence (first second : CaptureDatabase) : Prop where
  ticks : first.tickResults = second.tickResults
  communications : first.communicationResults = second.communicationResults
  errors : first.applicationErrors = second.applicationErrors
  count : first.receivedTickCount = second.receivedTickCount
  firstTick : first.firstTick = second.firstTick
  lastTick : first.lastTick = second.lastTick
  queries : ∀ tickPeriodNs filter, readCommunications first tickPeriodNs filter =
    readCommunications second tickPeriodNs filter

section Runs

variable {settings : BuilderSettings} {state : BuilderState} {records : List Record}

/-- Captures that hold the same records hold the same evidence. -/
theorem sameEvidence_of_holds {first second : CaptureDatabase} (hfirst : first.Holds records)
    (hsecond : second.Holds records) (hconsistent : first.Consistent)
    (hother : second.Consistent) : first.SameEvidence second := by
  have hticks : first.tickResults = second.tickResults := hfirst.ticks.trans hsecond.ticks.symm
  have hcommunications : first.communicationResults = second.communicationResults :=
    hfirst.communications.trans hsecond.communications.symm
  refine ⟨hticks, hcommunications, hfirst.errors.trans hsecond.errors.symm, ?_, ?_, ?_, ?_⟩
  · rw [hconsistent.count, hother.count, hticks]
  · rw [hconsistent.first, hother.first, CaptureDatabase.ticks, CaptureDatabase.ticks, hticks]
  · rw [hconsistent.last, hother.last, CaptureDatabase.ticks, CaptureDatabase.ticks, hticks]
  · intro tickPeriodNs filter
    rw [readCommunications, readCommunications, hcommunications]

/-- The pending records of a running writer can be committed when all its records can be
inserted. -/
theorem accepts_pending (hrecording : Recording settings state) (hruns : state.phase.runs = true)
    (hinsertable : Insertable (recordsOf state.trace.processed)) :
    state.session.committed.Accepts state.pendingTicks state.pendingCommunications
      state.pendingErrors := by
  obtain ⟨-, pending, hpending⟩ := hrecording.running hruns
  have hticks : state.session.committed.ticks =
      (ticksOf state.trace.stored).map TickResult.tick := by
    rw [CaptureDatabase.ticks, hrecording.holds.ticks, List.map_map]
    rfl
  have hkeys : state.session.committed.keys = (communicationsOf state.trace.stored).1.map
      fun item ↦ (communicationParameters item).key := by
    rw [CaptureDatabase.keys, hrecording.holds.communications, List.map_map]
    rfl
  obtain ⟨hdistinctTicks, hdistinctKeys, hfits⟩ := hinsertable
  have hnumbered (item : CommunicationResult) (hitem : item ∈ state.pendingCommunications) :
      item ∈ (communicationsOf (state.trace.stored ++ pending)).1 := by
    rw [hpending.communications]
    exact List.mem_append_right _ hitem
  rw [hpending.processed] at hdistinctTicks hdistinctKeys hfits
  rw [hpending.communications, ticksOf, errorsOf, List.filterMap_append, List.filterMap_append]
    at hfits
  rw [ticksOf, List.filterMap_append, List.map_append, List.nodup_append'] at hdistinctTicks
  rw [hpending.communications, List.map_append, List.nodup_append'] at hdistinctKeys
  refine ⟨?_, ?_, fun item hitem ↦ ordinal_numberFrom (hnumbered item hitem), ?_⟩
  · rw [hpending.ticks, hpending.errors]
    exact (fits_append.1 hfits).2
  · rw [hticks, hpending.ticks]
    exact ⟨hdistinctTicks.2.1, fun tick hnew hold ↦ hdistinctTicks.2.2 hold hnew⟩
  · rw [hkeys]
    exact ⟨hdistinctKeys.2.1, fun key hnew hold ↦ hdistinctKeys.2.2 hold hnew⟩

/-- Records that can be inserted are stored in a new capture as they are, wherever their batches
end. -/
theorem exists_outcome_writeBatches (hinsertable : Insertable records) {expectedTickCount : ℕ}
    (hpositive : 0 < expectedTickCount) :
    ∃ database, database.Holds records ∧ database.Consistent ∧
      ∀ batches : List (List Record), batches.flatten = records →
        outcome (writeBatches (fun _ ↦ none) (fun _ ↦ 0) batches
          ⟨initializeCaptureDatabase expectedTickCount hpositive, none, 0⟩) = some database := by
  have haccepts := (accepts_newCapture hpositive).2 hinsertable
  have hstored := (@storeRecords_eq_some records
    (initializeCaptureDatabase expectedTickCount hpositive, fun _ ↦ 0) _).2 ⟨haccepts, rfl⟩
  have happends := appends_batch
    (batch_eq_ok.2 ⟨haccepts, rfl⟩)
  have hconsistent := consistent_initialize expectedTickCount hpositive
  refine ⟨_, ⟨happends.tickResults, happends.communicationResults, happends.applicationErrors⟩,
    happends.consistent hconsistent, fun batches hflatten ↦ ?_⟩
  rw [outcome_writeBatches batches rfl, cuttable_storeRecords.foldlM_eq, hflatten, hstored]
  rfl

/-- A finalized capture holds every record that its writer took. -/
theorem Recording.holds_of_finalized (hrecording : Recording settings state)
    (hphase : state.phase = .finalized) :
    state.session.committed.Holds (recordsOf state.trace.processed) := by
  obtain ⟨_, _, _, -, -, hstored, -⟩ := hrecording.terminal hphase
  rw [← hstored]
  exact hrecording.holds

end Runs

/-! ### A mixed stream -/

section Example

/-- Two ticks, two communications of one channel in the first, and an error. -/
def mixedRecords : List Record :=
  [.tick (.executionProblem 0 none), .communication ⟨0, .uart, 1, [1], none⟩,
    .error ⟨"application", "overrun", true, some 0, []⟩,
    .communication ⟨0, .uart, 1, [2], none⟩, .tick (.executionProblem 1 none)]

/-- The detail of the second tick needs more than the 64 bits of a column. -/
def wideRecords : List Record :=
  [.tick (.executionProblem 0 none), .tick (.executionProblem 1 (some (2 ^ 63)))]

/-- What a computation over the writer's connection leaves committed, also when it raises. -/
def leftCommitted {α : Type} (result : EStateM.Result HilRigError (Session CaptureDatabase) α) :
    CaptureDatabase :=
  match result with
  | .ok _ after => after.committed
  | .error _ after => after.committed

end Example

end HilRig.Results
