import HilRig.Foundations.Batches
import HilRig.Results.Database
import Mathlib.Data.Finset.Card
import Mathlib.Data.Finset.Range

/-!
# Writing a capture

`writeBatch` commits one mixed batch of records, and `finalizeCapture` writes the terminal status.
A batch is committed exactly when its integers fit and its ticks and the keys of its communications
are fresh, and then it leaves the database `extend` describes (`batch_eq_ok`). The metadata counts
ticks incrementally; `Consistent` says that its counters are those of the rows, `writeBatch_cases`
that a batch is committed whole, with consistent counters, or not at all, and
`fixedTicksComplete_iff` that the counters decide whether every expected tick is stored.
-/

set_option autoImplicit false
set_option relaxedAutoImplicit false

namespace HilRig.Results

open HilRig.Foundations

/-- Computations over the writer's connection. -/
abbrev Capture := Transaction HilRigError CaptureDatabase

/-! ### Batches -/

/-- The insertions of some ticks and the update of the metadata that follows them. -/
def tickStatements (ticks : List TickResult) : List CaptureStatement :=
  match (ticks.map TickResult.tick).min?, (ticks.map TickResult.tick).max? with
  | some first, some last =>
    ticks.map insertTick ++ [recordTicks ticks.length first last]
  | _, _ => []

/-- The statements of one mixed batch. -/
def batchStatements (ticks : List TickResult) (communications : List CommunicationResult)
    (errors : List ApplicationErrorRecord) : List CaptureStatement :=
  tickStatements ticks ++ communications.map insertCommunication ++ errors.map insertError

section Writer

variable (faults : ℕ → Option HilRigError)

/-- An `sqlite3.Error` rolls the batch back; another exception leaves its transaction open. -/
def abandonBatch (error : HilRigError) : Capture Unit :=
  if error.kind = .native then do
    rollback faults
    throw (.storage s!"Could not commit captured result batch: {error.message}")
  else throw error

/-- Atomically commit one mixed batch of captured records. The first statement is the `BEGIN`. -/
def writeBatch (ticks : List TickResult) (communications : List CommunicationResult)
    (errors : List ApplicationErrorRecord) : Capture Unit :=
  if ticks = [] ∧ communications = [] ∧ errors = [] then return ()
  else
    tryCatch (transact faults (.ok :: batchStatements ticks communications errors))
      (abandonBatch faults)

/-- Whether the counters say that every expected tick is stored. -/
def CaptureDatabase.fixedTicksComplete (database : CaptureDatabase) : Bool :=
  database.receivedTickCount = database.expectedTickCount ∧ database.firstTick = some 0 ∧
    database.lastTick = some (database.expectedTickCount - 1)

/-- The status a finalization writes. -/
def terminalStatus (database : CaptureDatabase) (requestedStatus : Option CaptureStatus) :
    CaptureStatus :=
  requestedStatus.getD (if database.fixedTicksComplete then .complete else .incomplete)

/-- Mark the capture terminal and return the status written to the metadata. -/
def finalizeCapture (requestedStatus : Option CaptureStatus) : Capture CaptureStatus := do
  let database ← query faults id
  let status := terminalStatus database requestedStatus
  if status = .inProgress then
    throw (.value "A finalized capture cannot remain in progress")
  else if status = .complete ∧ ¬database.fixedTicksComplete then
    throw (.storage
      "A capture cannot be marked complete until every expected fixed tick is stored")
  else
    transact faults [fun database ↦ .ok { database with status := status }]
    return status

end Writer

/-! ### Minima and maxima of extended lists -/

section Extremes

variable (first second : List ℕ)

theorem min?_append : (first ++ second).min? = match first.min?, second.min? with
    | some one, some other => some (min one other)
    | some one, none => some one
    | none, other => other := by
  induction first with
  | nil => rfl
  | cons value first ih =>
    rw [List.cons_append, List.min?_cons, List.min?_cons, ih]
    cases first.min? <;> cases second.min? <;> simp [Nat.min_assoc]

theorem max?_append : (first ++ second).max? = match first.max?, second.max? with
    | some one, some other => some (max one other)
    | some one, none => some one
    | none, other => other := by
  induction first with
  | nil => rfl
  | cons value first ih =>
    rw [List.cons_append, List.max?_cons, List.max?_cons, ih]
    cases first.max? <;> cases second.max? <;> simp [Nat.max_assoc]

/-- The least of a list can stand for the list. -/
theorem min?_min?_append : (first.min?.toList ++ second).min? = (first ++ second).min? := by
  rw [min?_append, min?_append]
  cases first.min? <;> simp

/-- The greatest of a list can stand for the list. -/
theorem max?_max?_append : (first.max?.toList ++ second).max? = (first ++ second).max? := by
  rw [max?_append, max?_append]
  cases first.max? <;> simp

end Extremes

/-! ### One batch -/

/-- The columns that are unique among the communications. -/
def CommunicationRow.key (row : CommunicationRow) : ℕ × String × ℕ × ℕ :=
  (row.tick, row.peripheral, row.channel, row.ordinal)

/-- The unique columns of the stored communications. -/
def CaptureDatabase.keys (database : CaptureDatabase) : List (ℕ × String × ℕ × ℕ) :=
  database.communicationResults.map CommunicationRow.key

/-- A database with the rows of one more tick. -/
def CaptureDatabase.addTick (database : CaptureDatabase) (item : TickResult) : CaptureDatabase :=
  { database with tickResults := database.tickResults ++ [tickParameters item] }

/-- A database with the row of one more communication. -/
def CaptureDatabase.addCommunication (database : CaptureDatabase) (item : CommunicationResult) :
    CaptureDatabase :=
  { database with
    communicationResults := database.communicationResults ++ [communicationParameters item] }

/-- A database with the rows of one more batch, and its counters. -/
def CaptureDatabase.extend (database : CaptureDatabase) (ticks : List TickResult)
    (communications : List CommunicationResult) (errors : List ApplicationErrorRecord) :
    CaptureDatabase :=
  { database with
    receivedTickCount := database.receivedTickCount + ticks.length
    firstTick := (database.firstTick.toList ++ ticks.map TickResult.tick).min?
    lastTick := (database.lastTick.toList ++ ticks.map TickResult.tick).max?
    tickResults := database.tickResults ++ ticks.map tickParameters
    communicationResults :=
      database.communicationResults ++ communications.map communicationParameters
    applicationErrors := database.applicationErrors ++ errors.map errorParameters }

/-- The integers of some records can be bound. -/
structure Fits (ticks : List TickResult) (communications : List CommunicationResult)
    (errors : List ApplicationErrorRecord) : Prop where
  ticks : ∀ item ∈ ticks, (tickParameters item).fits = true
  communications : ∀ item ∈ communications, (communicationParameters item).fits = true
  errors : ∀ item ∈ errors, (errorParameters item).fits = true

/-- The integers of a batch can be bound, and none of its rows breaks a constraint of the schema. -/
structure CaptureDatabase.Accepts (database : CaptureDatabase) (ticks : List TickResult)
    (communications : List CommunicationResult) (errors : List ApplicationErrorRecord) :
    Prop where
  fits : Fits ticks communications errors
  ticks : Fresh database.ticks (ticks.map TickResult.tick)
  ordinals : ∀ item ∈ communications, item.ordinal ≠ none
  keys : Fresh database.keys (communications.map fun item ↦ (communicationParameters item).key)

section Batch

variable {database after : CaptureDatabase} {ticks : List TickResult}
  {communications : List CommunicationResult}
  {errors : List ApplicationErrorRecord}

theorem fitsInteger_natCast {value : ℕ} : fitsInteger value = true ↔ value < 2 ^ 63 := by
  rw [fitsInteger_iff]
  omega

theorem fitsInteger_of_le {first last : ℕ} (hle : first ≤ last)
    (hlast : fitsInteger last = true) : fitsInteger first = true :=
  fitsInteger_natCast.2 (hle.trans_lt (fitsInteger_natCast.1 hlast))

theorem fitsColumn_natCast {value : Option ℕ} :
    fitsColumn (value.map Nat.cast) = true ↔ ∀ integer ∈ value, fitsInteger integer = true := by
  cases value with
  | none => exact iff_of_true rfl fun _ hinteger ↦ absurd hinteger (Option.not_mem_none _)
  | some integer =>
    rw [Option.map_some, fitsColumn, Option.all_some]
    exact ⟨fun hfits _ hinteger ↦ Option.mem_some.1 hinteger ▸ hfits,
      fun hall ↦ hall integer (Option.mem_some_self integer)⟩

theorem fitsInteger_tick_of_fits {item : TickResult}
    (hfits : (tickParameters item).fits = true) : fitsInteger item.tick = true := by
  simp only [TickRow.fits, Bool.and_eq_true] at hfits
  exact hfits.1.1.1

theorem fits_nil : Fits [] [] [] where
  ticks _ hitem := absurd hitem List.not_mem_nil
  communications _ hitem := absurd hitem List.not_mem_nil
  errors _ hitem := absurd hitem List.not_mem_nil

theorem accepts_nil : database.Accepts [] [] [] :=
  ⟨fits_nil, fresh_nil, fun _ hitem ↦ absurd hitem List.not_mem_nil, fresh_nil⟩

theorem keyedInsertion_insertTick : KeyedInsertion (fun item ↦ (tickParameters item).fits = true)
    TickResult.tick CaptureDatabase.ticks insertTick CaptureDatabase.addTick where
  insert_eq_ok item database after := by
    rw [insertTick, ite_error_eq_ok, ite_error_eq_ok, not_not, Except.ok.injEq, and_assoc]
    rfl
  keys_add database item := by
    simp [CaptureDatabase.ticks, CaptureDatabase.addTick, tickParameters]

theorem keyedInsertion_insertCommunication :
    KeyedInsertion
      (fun item ↦ (communicationParameters item).fits = true ∧ item.ordinal ≠ none)
      (fun item ↦ (communicationParameters item).key) CaptureDatabase.keys insertCommunication
      CaptureDatabase.addCommunication where
  insert_eq_ok item database after := by
    rw [insertCommunication, ite_error_eq_ok, ite_error_eq_ok, ite_error_eq_ok, not_not,
      Except.ok.injEq, ← and_assoc, ← and_assoc]
    refine and_congr (and_congr_right fun hvalid ↦ not_congr ?_) Iff.rfl
    obtain ⟨ordinal, hordinal⟩ := Option.ne_none_iff_exists'.1 hvalid.2
    simp [CaptureDatabase.keys, CommunicationRow.key, communicationParameters, hordinal]
  keys_add database item := by
    simp [CaptureDatabase.keys, CaptureDatabase.addCommunication]

theorem foldl_addTick : ticks.foldl CaptureDatabase.addTick database =
    { database with tickResults := database.tickResults ++ ticks.map tickParameters } := by
  induction ticks generalizing database with
  | nil => simp
  | cons item ticks ih => simp [ih, CaptureDatabase.addTick]

theorem foldl_addCommunication :
    communications.foldl CaptureDatabase.addCommunication database =
      { database with communicationResults :=
        database.communicationResults ++ communications.map communicationParameters } := by
  induction communications generalizing database with
  | nil => simp
  | cons item communications ih => simp [ih, CaptureDatabase.addCommunication]

/-- Only integers that do not fit keep errors from being inserted. -/
theorem applyAll_insertError : applyAll (errors.map insertError) database = .ok after ↔
    (∀ item ∈ errors, (errorParameters item).fits = true) ∧
      { database with
        applicationErrors := database.applicationErrors ++ errors.map errorParameters } =
          after := by
  induction errors generalizing database with
  | nil => simp [applyAll, pure, Except.pure]
  | cons item errors ih =>
    rw [List.map_cons, applyAll_cons, bind_eq_ok, List.forall_mem_cons]
    simp only [insertError, ite_error_eq_ok, not_not, Except.ok.injEq, ih, List.map_cons]
    constructor
    · rintro ⟨_, ⟨hfits, rfl⟩, hall, rfl⟩
      exact ⟨⟨hfits, hall⟩, by simp⟩
    · rintro ⟨⟨hfits, hall⟩, rfl⟩
      exact ⟨_, ⟨hfits, rfl⟩, hall, by simp⟩

/-- The least of an optional tick and of some more. -/
theorem min?_toList_append (stored : Option ℕ) {added : List ℕ} {first : ℕ}
    (hfirst : added.min? = some first) : (stored.toList ++ added).min? = match stored with
      | none => some first
      | some tick => if first < tick then some first else some tick := by
  cases stored with
  | none => exact hfirst
  | some tick =>
    rw [Option.toList_some, min?_append, hfirst]
    simp only [List.min?_singleton]
    split
    · rw [Nat.min_eq_right (by omega)]
    · rw [Nat.min_eq_left (by omega)]

/-- The greatest of an optional tick and of some more. -/
theorem max?_toList_append (stored : Option ℕ) {added : List ℕ} {last : ℕ}
    (hlast : added.max? = some last) : (stored.toList ++ added).max? = match stored with
      | none => some last
      | some tick => if tick < last then some last else some tick := by
  cases stored with
  | none => exact hlast
  | some tick =>
    rw [Option.toList_some, max?_append, hlast]
    simp only [List.max?_singleton]
    split
    · rw [Nat.max_eq_right (by omega)]
    · rw [Nat.max_eq_left (by omega)]

theorem extend_nil : database.extend [] [] [] = database := by
  have hleast (stored : Option ℕ) : stored.toList.min? = stored := by
    cases stored <;> rfl
  have hgreatest (stored : Option ℕ) : stored.toList.max? = stored := by
    cases stored <;> rfl
  simp [CaptureDatabase.extend, hleast, hgreatest]

/-- The statements of some ticks. -/
theorem tickStatements_eq_ok : applyAll (tickStatements ticks) database = .ok after ↔
    ((∀ item ∈ ticks, (tickParameters item).fits = true) ∧
      Fresh database.ticks (ticks.map TickResult.tick)) ∧
        database.extend ticks [] [] = after := by
  unfold tickStatements
  cases hfirst : (ticks.map TickResult.tick).min? with
  | none =>
    obtain rfl : ticks = [] := by simpa using hfirst
    rw [extend_nil]
    constructor
    · intro hafter
      exact ⟨⟨fits_nil.ticks, fresh_nil⟩, Except.ok.inj hafter⟩
    · rintro ⟨-, rfl⟩
      rfl
  | some first =>
    cases hlast : (ticks.map TickResult.tick).max? with
    | none =>
      obtain rfl : ticks = [] := by simpa using hlast
      cases hfirst
    | some last =>
      have hrecord (middle : CaptureDatabase) :
          applyAll [recordTicks ticks.length first last] middle =
            recordTicks ticks.length first last middle := by
        rw [applyAll_cons]
        rfl
      simp only [applyAll_append, bind_eq_ok, keyedInsertion_insertTick.applyAll_eq_ok,
        foldl_addTick, hrecord, recordTicks, Except.ok.injEq, CaptureDatabase.extend,
        min?_toList_append _ hfirst, max?_toList_append _ hlast, List.map_nil, List.append_nil]
      constructor
      · rintro ⟨middle, ⟨hinserted, rfl⟩, rfl⟩
        exact ⟨hinserted, rfl⟩
      · rintro ⟨hinserted, rfl⟩
        exact ⟨_, ⟨hinserted, rfl⟩, rfl⟩

/-- A batch can be stored exactly when its integers fit and no row breaks a constraint, and then it
extends the database. -/
theorem batch_eq_ok :
    applyAll (batchStatements ticks communications errors) database = .ok after ↔
      database.Accepts ticks communications errors ∧
        database.extend ticks communications errors = after := by
  have hextend : { (database.extend ticks [] []) with
      communicationResults :=
        (database.extend ticks [] []).communicationResults ++
          communications.map communicationParameters
      applicationErrors :=
        (database.extend ticks [] []).applicationErrors ++ errors.map errorParameters } =
      database.extend ticks communications errors := by
    simp [CaptureDatabase.extend]
  have hkeys : (database.extend ticks [] []).keys = database.keys := by
    simp [CaptureDatabase.keys, CaptureDatabase.extend]
  simp only [batchStatements, applyAll_append, bind_eq_ok, tickStatements_eq_ok,
    keyedInsertion_insertCommunication.applyAll_eq_ok, foldl_addCommunication,
    applyAll_insertError]
  constructor
  · rintro ⟨_, ⟨_, ⟨⟨hticks, hfresh⟩, rfl⟩, ⟨hvalid, hunique⟩, rfl⟩, herrors, rfl⟩
    rw [hkeys] at hunique
    exact ⟨⟨⟨hticks, fun item hitem ↦ (hvalid item hitem).1, herrors⟩, hfresh,
      fun item hitem ↦ (hvalid item hitem).2, hunique⟩, hextend.symm⟩
  · rintro ⟨⟨⟨hticks, hcommunications, herrors⟩, hfresh, hordinals, hunique⟩, rfl⟩
    rw [← hkeys] at hunique
    exact ⟨_, ⟨_, ⟨⟨hticks, hfresh⟩, rfl⟩, ⟨fun item hitem ↦
      ⟨hcommunications item hitem, hordinals item hitem⟩, hunique⟩, rfl⟩, herrors, hextend⟩

theorem ticks_extend : (database.extend ticks communications errors).ticks =
    database.ticks ++ ticks.map TickResult.tick := by
  simp [CaptureDatabase.ticks, CaptureDatabase.extend, Function.comp_def, tickParameters]

theorem keys_extend : (database.extend ticks communications errors).keys =
    database.keys ++ communications.map fun item ↦ (communicationParameters item).key := by
  simp [CaptureDatabase.keys, CaptureDatabase.extend, Function.comp_def]

end Batch

/-! ### Counters -/

/-- The counters of the metadata are those of the rows, whose ticks are distinct and whose integers
fit. -/
structure CaptureDatabase.Consistent (database : CaptureDatabase) : Prop where
  count : database.receivedTickCount = database.tickResults.length
  first : database.firstTick = database.ticks.min?
  last : database.lastTick = database.ticks.max?
  nodup : database.ticks.Nodup
  fits : ∀ row ∈ database.tickResults, row.fits = true

theorem consistent_initialize (expectedTickCount : ℕ) (hpositive : 0 < expectedTickCount) :
    (initializeCaptureDatabase expectedTickCount hpositive).Consistent :=
  ⟨rfl, rfl, rfl, List.nodup_nil, fun _ hrow ↦ absurd hrow List.not_mem_nil⟩

/-- Results whose rows are stored consistently fit the columns. -/
theorem fits_of_rows {database : CaptureDatabase} (hconsistent : database.Consistent)
    {results : List TickResult} (hrows : database.tickResults = results.map tickParameters) :
    ∀ result ∈ results, (tickParameters result).fits = true := by
  intro result hresult
  refine hconsistent.fits _ ?_
  rw [hrows]
  exact List.mem_map_of_mem hresult

/-- What a committed batch adds. -/
structure Appends (ticks : List TickResult) (communications : List CommunicationResult)
    (errors : List ApplicationErrorRecord) (before after : CaptureDatabase) : Prop where
  expected : after.expectedTickCount = before.expectedTickCount
  status : after.status = before.status
  tickResults : after.tickResults = before.tickResults ++ ticks.map tickParameters
  communicationResults : after.communicationResults =
    before.communicationResults ++ communications.map communicationParameters
  applicationErrors : after.applicationErrors =
    before.applicationErrors ++ errors.map errorParameters
  consistent : before.Consistent → after.Consistent

section Counters

variable {database after : CaptureDatabase} {ticks : List TickResult}
  {communications : List CommunicationResult} {errors : List ApplicationErrorRecord}

/-- The statements of a batch add its records and keep the counters consistent. -/
theorem appends_batch
    (happlied : applyAll (batchStatements ticks communications errors) database = .ok after) :
    Appends ticks communications errors database after := by
  obtain ⟨⟨hfits, hfresh, -, -⟩, rfl⟩ := batch_eq_ok.1 happlied
  refine ⟨rfl, rfl, rfl, rfl, rfl, fun hbefore ↦ ⟨?_, ?_, ?_, ?_, ?_⟩⟩
  · simp [CaptureDatabase.extend, hbefore.count]
  · rw [ticks_extend, ← min?_min?_append, ← hbefore.first]
    rfl
  · rw [ticks_extend, ← max?_max?_append, ← hbefore.last]
    rfl
  · rw [ticks_extend]
    exact hfresh.nodup_append hbefore.nodup
  · exact List.forall_mem_append.2 ⟨hbefore.fits, List.forall_mem_map.2 hfits.ticks⟩

end Counters

section Writing

variable {faults : ℕ → Option HilRigError} {session : Session CaptureDatabase}

/-- An abandoned batch raises and commits nothing. -/
theorem abandonBatch_cases (error : HilRigError) (session : Session CaptureDatabase) :
    ∃ raised after, abandonBatch faults error session = .error raised after ∧
      after.committed = session.committed := by
  unfold abandonBatch
  split
  · rcases @rollback_cases _ _ faults session with
      ⟨after, hrolled, hafter, -⟩ | ⟨fault, after, hrolled, hafter⟩
    · rw [run_bind_of_ok hrolled]
      exact ⟨.storage s!"Could not commit captured result batch: {error.message}", after, rfl,
        hafter⟩
    · rw [run_bind_of_error hrolled]
      exact ⟨fault, after, rfl, hafter⟩
  · exact ⟨error, session, rfl, rfl⟩

/-- A batch is committed whole, or it raises and leaves the committed rows and metadata as they
were. -/
theorem writeBatch_cases (ticks : List TickResult) (communications : List CommunicationResult)
    (errors : List ApplicationErrorRecord) (hidle : session.working = none) :
    (∃ after, writeBatch faults ticks communications errors session = .ok () after ∧
      after.working = none ∧
      Appends ticks communications errors session.committed after.committed) ∨
    ∃ error after, writeBatch faults ticks communications errors session = .error error after ∧
      after.committed = session.committed := by
  have hcontents : session.contents = session.committed := by
    rw [Session.contents, hidle, Option.getD_none]
  unfold writeBatch
  split
  · rename_i hempty
    obtain ⟨rfl, rfl, rfl⟩ := hempty
    exact .inl ⟨session, rfl, hidle, by constructor <;> simp⟩
  · rcases @transact_cases _ _ faults
      (.ok :: batchStatements ticks communications errors) session with
      ⟨after, hrun, hworking, happlied⟩ | ⟨error, middle, hrun, hcommitted⟩
    · rw [run_tryCatch_of_ok hrun]
      rw [applyAll_cons, hcontents] at happlied
      exact .inl ⟨after, rfl, hworking, appends_batch happlied⟩
    · rw [run_tryCatch_of_error hrun]
      obtain ⟨raised, after, habandoned, hafter⟩ := @abandonBatch_cases faults error middle
      exact .inr ⟨raised, after, habandoned, hafter.trans hcommitted⟩

/-- Finalizing writes the terminal status, which is `COMPLETE` only with complete counters, or it
raises and leaves the capture as it was. -/
theorem finalizeCapture_cases (requestedStatus : Option CaptureStatus)
    (hidle : session.working = none) :
    (∃ after, finalizeCapture faults requestedStatus session =
        .ok (terminalStatus session.committed requestedStatus) after ∧
      after.working = none ∧
      after.committed = { session.committed with
        status := terminalStatus session.committed requestedStatus } ∧
      (terminalStatus session.committed requestedStatus = .complete →
        session.committed.fixedTicksComplete = true)) ∨
    ∃ error after, finalizeCapture faults requestedStatus session = .error error after ∧
      after.committed = session.committed := by
  have hcontents : session.contents = session.committed := by
    rw [Session.contents, hidle, Option.getD_none]
  obtain ⟨middle, hcommitted, hworking, hquery⟩ :=
    @query_cases HilRigError _ faults _ id session
  unfold finalizeCapture
  rcases hquery with hquery | ⟨error, hquery⟩
  · rw [run_bind_of_ok hquery, hcontents, id]
    split
    · exact .inr ⟨_, middle, rfl, hcommitted⟩
    · split
      · exact .inr ⟨_, middle, rfl, hcommitted⟩
      · rename_i hcomplete
        rcases @transact_cases HilRigError _ faults [fun database ↦ .ok { database with
          status := terminalStatus session.committed requestedStatus }] middle with
          ⟨after, hrun, hafter, happlied⟩ | ⟨error, after, hrun, hafter⟩
        · rw [run_bind_of_ok hrun]
          have hwritten : { middle.contents with
              status := terminalStatus session.committed requestedStatus } = after.committed :=
            Except.ok.inj happlied
          refine .inl ⟨after, rfl, hafter, ?_, ?_⟩
          · rw [← hwritten, Session.contents, hworking, hidle, Option.getD_none, hcommitted]
          · simpa using hcomplete
        · rw [run_bind_of_error hrun]
          exact .inr ⟨error, after, rfl, hafter.trans hcommitted⟩
  · rw [run_bind_of_error hquery]
    exact .inr ⟨error, middle, rfl, hcommitted⟩

end Writing

/-! ### Complete captures -/

/-- Distinct ticks are those below a positive count exactly when there are that many, the least is
zero and the greatest is the last. -/
theorem ticks_eq_range_iff {ticks : List ℕ} (hnodup : ticks.Nodup) {count : ℕ}
    (hpositive : 0 < count) :
    (ticks.length = count ∧ ticks.min? = some 0 ∧ ticks.max? = some (count - 1)) ↔
      ∀ tick, tick ∈ ticks ↔ tick < count := by
  constructor
  · rintro ⟨hlength, -, hmax⟩
    obtain ⟨-, hle⟩ := List.max?_eq_some_iff.1 hmax
    have hsubset : ticks.toFinset ⊆ Finset.range count := by
      intro tick htick
      have hbound := hle tick (List.mem_toFinset.1 htick)
      rw [Finset.mem_range]
      omega
    have hequal : ticks.toFinset = Finset.range count := by
      refine Finset.eq_of_subset_of_card_le hsubset ?_
      rw [Finset.card_range, List.toFinset_card_of_nodup hnodup, hlength]
    intro tick
    rw [← List.mem_toFinset, hequal, Finset.mem_range]
  · intro hticks
    have hequal : ticks.toFinset = Finset.range count := by
      ext tick
      rw [List.mem_toFinset, Finset.mem_range, hticks]
    refine ⟨?_, ?_, ?_⟩
    · rw [← List.toFinset_card_of_nodup hnodup, hequal, Finset.card_range]
    · rw [List.min?_eq_some_iff]
      exact ⟨(hticks 0).2 hpositive, fun tick _ ↦ Nat.zero_le tick⟩
    · rw [List.max?_eq_some_iff]
      refine ⟨(hticks _).2 (by omega), fun tick htick ↦ ?_⟩
      have hbound := (hticks tick).1 htick
      omega

/-- The counters say that a consistent capture is complete exactly when it holds every expected
tick. -/
theorem fixedTicksComplete_iff {database : CaptureDatabase} (hconsistent : database.Consistent) :
    database.fixedTicksComplete = true ↔
      ∀ tick, tick ∈ database.ticks ↔ tick < database.expectedTickCount := by
  rw [← ticks_eq_range_iff hconsistent.nodup database.expectedTickCount_pos,
    ← hconsistent.first, ← hconsistent.last, CaptureDatabase.ticks, List.length_map,
    ← hconsistent.count, CaptureDatabase.fixedTicksComplete, decide_eq_true_iff]

end HilRig.Results
