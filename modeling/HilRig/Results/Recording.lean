import HilRig.Foundations.EffectReachability
import HilRig.Results.Builder

/-!
# What a builder records

`Recording` says that the capture holds exactly the records of the committed batches, in order of
arrival, and that the writer's pending lists are those of the records it took since. It holds in
every state of every run, and `writerSound_run` draws from it what the counters, the failed batches
and the terminal status of a capture are.
-/

set_option autoImplicit false
set_option relaxedAutoImplicit false

namespace HilRig.Results

open HilRig.Foundations Relation

/-! ### Records in tables -/

/-- Communications with their ordinals, from given next ones. -/
def numberFrom (next : OrdinalMap) : List CommunicationResult →
    List CommunicationResult × OrdinalMap
  | [] => ([], next)
  | item :: items =>
    let later := numberFrom (assignOrdinal next item).2 items
    ((assignOrdinal next item).1 :: later.1, later.2)

theorem numberFrom_append (next : OrdinalMap) (first second : List CommunicationResult) :
    numberFrom next (first ++ second) =
      ((numberFrom next first).1 ++ (numberFrom (numberFrom next first).2 second).1,
        (numberFrom (numberFrom next first).2 second).2) := by
  induction first generalizing next with
  | nil => rfl
  | cons item first ih => simp only [List.cons_append, numberFrom, ih]

def ticksOf (records : List Record) : List TickResult :=
  records.filterMap Record.tickResult

theorem ticksOf_map_tick (results : List TickResult) : ticksOf (results.map .tick) = results := by
  rw [ticksOf, List.filterMap_map]
  exact List.filterMap_some

def errorsOf (records : List Record) : List ApplicationErrorRecord :=
  records.filterMap Record.applicationError

theorem errorsOf_map_tick (results : List TickResult) : errorsOf (results.map .tick) = [] := by
  rw [errorsOf, List.filterMap_map]
  exact List.filterMap_none results

/-- The communications among some records, with their ordinals and the ordinals that follow. -/
def communicationsOf (records : List Record) : List CommunicationResult × OrdinalMap :=
  numberFrom (fun _ ↦ 0) (records.filterMap Record.communicationResult)

/-- Each table holds the records that belong to it, each once and in order. -/
structure CaptureDatabase.Holds (database : CaptureDatabase) (records : List Record) : Prop where
  ticks : database.tickResults = (ticksOf records).map tickParameters
  communications : database.communicationResults =
    (communicationsOf records).1.map communicationParameters
  errors : database.applicationErrors = (errorsOf records).map errorParameters

/-- The pending lists are those of the records after the stored ones. -/
structure BuilderState.Pending (state : BuilderState) (pending : List Record) : Prop where
  processed : recordsOf state.trace.processed = state.trace.stored ++ pending
  ticks : state.pendingTicks = ticksOf pending
  communications : (communicationsOf (state.trace.stored ++ pending)).1 =
    (communicationsOf state.trace.stored).1 ++ state.pendingCommunications
  ordinals : state.nextOrdinal = (communicationsOf (state.trace.stored ++ pending)).2
  errors : state.pendingErrors = errorsOf pending

/-- The records of the `add_*` calls that returned, oldest first. -/
def recordsAdded (history : List BuilderEvent) : List Record :=
  (history.filterMap fun event ↦ match event with
    | .added record => some record
    | _ => none).reverse

/-- The writer has neither failed nor finished. -/
def WriterPhase.runs : WriterPhase → Bool
  | .starting | .looping => true
  | _ => false

/-- The writer has not failed. -/
def WriterPhase.sound : WriterPhase → Bool
  | .starting | .looping | .finalized => true
  | _ => false

/-- The writer ended with a finalize request and wrote its terminal status. -/
def BuilderState.Terminal (state : BuilderState) : Prop :=
  ∃ older request requested, state.trace.processed = older ++ [.control request] ∧
    request.action = .finalize requested ∧
    state.trace.stored = recordsOf state.trace.processed ∧
    state.session.committed.status = terminalStatus state.session.committed requested ∧
    (state.session.committed.status = .complete →
      state.session.committed.fixedTicksComplete = true)

/-- What a capture is in every state of its writer. -/
structure Recording (settings : BuilderSettings) (state : BuilderState) : Prop where
  holds : state.session.committed.Holds state.trace.stored
  consistent : state.session.committed.Consistent
  expected : state.session.committed.expectedTickCount = settings.expectedTickCount
  stored : state.trace.stored <+: recordsOf state.trace.processed
  running : state.phase.runs = true →
    state.session.working = none ∧ ∃ pending, state.Pending pending
  open_status : state.phase ≠ .finalized → state.session.committed.status = .inProgress
  terminal : state.phase = .finalized → state.Terminal
  worker : state.workerError = none ↔ state.phase.sound = true
  added : recordsAdded state.trace.history = recordsOf state.arrivals

section Lists

variable {first second : List QueueItem}

theorem recordsOf_append : recordsOf (first ++ second) = recordsOf first ++ recordsOf second :=
  List.filterMap_append

theorem recordsOf_record (record : Record) : recordsOf [.record record] = [record] :=
  rfl

theorem recordsOf_control (request : ControlRequest) : recordsOf [.control request] = [] :=
  rfl

theorem recordsAdded_added (record : Record) (history : List BuilderEvent) :
    recordsAdded (.added record :: history) = recordsAdded history ++ [record] := by
  simp [recordsAdded]

end Lists

/-! ### Frames -/

/-- A step of a caller that puts nothing into the queue. -/
def CallerStep (before after : BuilderState) : Prop :=
  ∃ calls accepting nextIdentifier history,
    after = { before with
      calls := calls
      accepting := accepting
      nextIdentifier := nextIdentifier
      trace := { before.trace with history := history } } ∧
    recordsAdded history = recordsAdded before.trace.history

section Frames

variable {settings : BuilderSettings} {faults : ℕ → Option HilRigError}
  {before after : BuilderState}

theorem CallerStep.refl (state : BuilderState) : CallerStep state state :=
  ⟨_, _, _, _, rfl, rfl⟩

theorem CallerStep.enter (state : BuilderState) (thread : ℕ) (call : CallState) :
    CallerStep state (state.enter thread call) :=
  ⟨_, _, _, _, rfl, rfl⟩

theorem callerStep_add {thread : ℕ} {record : Record} :
    CallerStep before (before.add settings thread record) := by
  unfold BuilderState.add
  split
  · exact .refl before
  · split
    · exact .refl before
    · exact .enter before thread _

theorem callerStep_flush {thread : ℕ} : CallerStep before (before.flush thread) := by
  unfold BuilderState.flush
  split
  · exact .refl before
  · exact ⟨_, _, _, _, rfl, rfl⟩

theorem callerStep_finalize {thread : ℕ} {status : Option CaptureStatus} :
    CallerStep before (before.finalize thread status) := by
  unfold BuilderState.finalize
  split
  · exact .refl before
  · exact ⟨_, _, _, _, rfl, rfl⟩

theorem callerStep_recheck {thread : ℕ} (hstep : before.recheck thread = some after) :
    CallerStep before after := by
  unfold BuilderState.recheck at hstep
  split at hstep
  · split at hstep <;> cases hstep <;> exact .enter before thread _
  · cases hstep

theorem callerStep_full {thread : ℕ} (hstep : before.full settings thread = some after) :
    CallerStep before after := by
  unfold BuilderState.full at hstep
  split at hstep
  · split at hstep
    · cases hstep
      exact .enter before thread _
    · cases hstep
  · cases hstep

theorem callerStep_poll {thread : ℕ} (hstep : before.poll thread = some after) :
    CallerStep before after := by
  unfold BuilderState.poll at hstep
  repeat' split at hstep
  all_goals cases hstep
  all_goals exact ⟨_, _, _, _, rfl, rfl⟩

theorem callerStep_join {thread : ℕ} {opened : Bool}
    (hstep : before.join thread opened = some after) : CallerStep before after := by
  unfold BuilderState.join at hstep
  repeat' split at hstep
  all_goals cases hstep
  all_goals exact ⟨_, _, _, _, rfl, rfl⟩

/-- Steps of a caller that put nothing into the queue. -/
def BuilderLabel.putsNothing : BuilderLabel → Bool
  | .add .. | .flush _ | .finalize .. | .recheck _ | .full _ | .poll _ | .join .. => true
  | _ => false

theorem callerStep_of_step {label : BuilderLabel} (hlabel : label.putsNothing = true)
    (hstep : before.step settings faults label = some after) : CallerStep before after := by
  have hthread {thread : ℕ} {result : BuilderState} (hcaller : CallerStep before result)
      (henabled : (if before.calls thread = .idle then some result else none) = some after) :
      CallerStep before after := by
    split at henabled
    · rwa [← Option.some.inj henabled]
    · cases henabled
  cases label with
  | add thread record => exact hthread callerStep_add hstep
  | flush thread => exact hthread callerStep_flush hstep
  | finalize thread status => exact hthread callerStep_finalize hstep
  | recheck thread => exact callerStep_recheck hstep
  | full thread => exact callerStep_full hstep
  | poll thread => exact callerStep_poll hstep
  | join thread opened => exact callerStep_join hstep
  | _ => cases hlabel

end Frames

/-! ### The writer -/

section Writer

variable {settings : BuilderSettings} {faults : ℕ → Option HilRigError}
  {state before after : BuilderState} {record : Record} {pending stored : List Record}

/-- A flush commits the pending lists and goes on, or fails the writer and commits nothing. -/
theorem flushPending_cases (active : Option ControlRequest) (next : BuilderState → BuilderState)
    (hidle : state.session.working = none) :
    (∃ session, session.working = none ∧
      Appends state.pendingTicks state.pendingCommunications state.pendingErrors
        state.session.committed session.committed ∧
      state.flushPending faults active next = next (state.flushed session)) ∨
    ∃ error session, session.committed = state.session.committed ∧
      state.flushPending faults active next =
        { state.fail error active with session := session } := by
  unfold BuilderState.flushPending
  rcases @writeBatch_cases faults _ state.pendingTicks state.pendingCommunications
    state.pendingErrors hidle with
    ⟨session, hrun, hworking, happends⟩ | ⟨error, session, hrun, hcommitted⟩
  · rw [hrun]
    exact .inl ⟨session, hworking, happends, rfl⟩
  · rw [hrun]
    exact .inr ⟨error, session, hcommitted, rfl⟩

/-- Committing the pending records of a capture. -/
theorem holds_of_appends (hholds : before.session.committed.Holds before.trace.stored)
    (hpending : before.Pending pending) {database : CaptureDatabase}
    (happends : Appends before.pendingTicks before.pendingCommunications before.pendingErrors
      before.session.committed database) :
    database.Holds (recordsOf before.trace.processed) := by
  rw [hpending.processed]
  constructor
  · rw [happends.tickResults, hholds.ticks, hpending.ticks, ← List.map_append, ticksOf, ticksOf,
      ticksOf, List.filterMap_append]
  · rw [happends.communicationResults, hholds.communications, hpending.communications,
      List.map_append]
  · rw [happends.applicationErrors, hholds.errors, hpending.errors, ← List.map_append, errorsOf,
      errorsOf, errorsOf, List.filterMap_append]

/-- With nothing pending, the stored records are the processed ones. -/
theorem pending_nil (hnothing : state.pendingTicks = [] ∧ state.pendingCommunications = [] ∧
      state.pendingErrors = [])
    (hstored : state.trace.stored = recordsOf state.trace.processed)
    (hordinals : state.nextOrdinal = (communicationsOf (recordsOf state.trace.processed)).2) :
    state.Pending [] where
  processed := by rw [List.append_nil, hstored]
  ticks := hnothing.1
  communications := by rw [hnothing.2.1, List.append_nil, List.append_nil]
  ordinals := by rw [List.append_nil, hstored, hordinals]
  errors := hnothing.2.2

theorem communicationsOf_append (first second : List Record) :
    communicationsOf (first ++ second) =
      ((communicationsOf first).1 ++ (numberFrom (communicationsOf first).2
        (second.filterMap Record.communicationResult)).1,
        (numberFrom (communicationsOf first).2
          (second.filterMap Record.communicationResult)).2) := by
  rw [communicationsOf, List.filterMap_append, numberFrom_append]
  rfl

/-- A record taken from the queue joins the pending ones. -/
theorem pending_pend (hpending : state.Pending pending) (rest : List QueueItem) :
    ((state.take (.record record) rest).pend record).Pending (pending ++ [record]) := by
  have hprocessed : recordsOf (state.trace.processed ++ [.record record]) =
      state.trace.stored ++ (pending ++ [record]) := by
    rw [recordsOf_append, hpending.processed, recordsOf_record, List.append_assoc]
  have hnumbered := communicationsOf_append (state.trace.stored ++ pending) [record]
  rw [← hpending.ordinals, hpending.communications, List.append_assoc] at hnumbered
  cases record with
  | tick result =>
    refine ⟨hprocessed, ?_, ?_, ?_, ?_⟩
    · simp [BuilderState.pend, BuilderState.take, hpending.ticks, ticksOf, Record.tickResult]
    · simp only [BuilderState.pend, BuilderState.take]
      rw [hnumbered]
      exact List.append_nil _
    · simp only [BuilderState.pend, BuilderState.take]
      rw [hnumbered]
      rfl
    · simp [BuilderState.pend, BuilderState.take, hpending.errors, errorsOf,
        Record.applicationError]
  | communication result =>
    refine ⟨hprocessed, ?_, ?_, ?_, ?_⟩
    · simp [BuilderState.pend, BuilderState.take, hpending.ticks, ticksOf, Record.tickResult]
    · simp only [BuilderState.pend, BuilderState.take]
      rw [hnumbered]
      simp [numberFrom, Record.communicationResult]
    · simp only [BuilderState.pend, BuilderState.take]
      rw [hnumbered]
      rfl
    · simp [BuilderState.pend, BuilderState.take, hpending.errors, errorsOf,
        Record.applicationError]
  | error record =>
    refine ⟨hprocessed, ?_, ?_, ?_, ?_⟩
    · simp [BuilderState.pend, BuilderState.take, hpending.ticks, ticksOf, Record.tickResult]
    · simp only [BuilderState.pend, BuilderState.take]
      rw [hnumbered]
      exact List.append_nil _
    · simp only [BuilderState.pend, BuilderState.take]
      rw [hnumbered]
      rfl
    · simp [BuilderState.pend, BuilderState.take, hpending.errors, errorsOf,
        Record.applicationError]

end Writer

/-! ### One step -/

section Step

variable {settings : BuilderSettings} {faults : ℕ → Option HilRigError}
  {state before after : BuilderState} {record : Record} {request : ControlRequest}
  {session : Session CaptureDatabase}

theorem Recording.initial : Recording settings (.initial settings) where
  holds := ⟨rfl, rfl, rfl⟩
  consistent := consistent_initialize _ settings.expectedTickCount_pos
  expected := rfl
  stored := List.prefix_refl []
  running _ := ⟨rfl, [], pending_nil ⟨rfl, rfl, rfl⟩ rfl rfl⟩
  open_status _ := rfl
  terminal hphase := by cases hphase
  worker := ⟨fun _ ↦ rfl, fun _ ↦ rfl⟩
  added := rfl

theorem CallerStep.recording (hcaller : CallerStep before after)
    (hrecording : Recording settings before) : Recording settings after := by
  obtain ⟨calls, accepting, nextIdentifier, history, rfl, hadded⟩ := hcaller
  obtain ⟨hholds, hconsistent, hexpected, hstored, hrunning, hopen, hterminal, hworker, hrecords⟩ :=
    hrecording
  refine ⟨hholds, hconsistent, hexpected, hstored, fun hruns ↦ ?_, hopen, hterminal, hworker,
    hadded.trans hrecords⟩
  obtain ⟨hidle, pending, hprocessed, hticks, hcommunications, hordinals, herrors⟩ := hrunning hruns
  exact ⟨hidle, pending, hprocessed, hticks, hcommunications, hordinals, herrors⟩

/-- A step of the writer that neither takes a record nor commits one, and leaves its loop. -/
theorem Recording.leave (hrecording : Recording settings before)
    (hcommitted : after.session.committed = before.session.committed)
    (hstored : after.trace.stored = before.trace.stored)
    (hprocessed : recordsOf before.trace.processed <+: recordsOf after.trace.processed)
    (hadded : recordsAdded after.trace.history = recordsOf after.arrivals)
    (hbefore : before.phase ≠ .finalized) (hafter : after.phase.sound = false)
    (hworker : after.workerError ≠ none) : Recording settings after where
  holds := by
    rw [hcommitted, hstored]
    exact hrecording.holds
  consistent := by
    rw [hcommitted]
    exact hrecording.consistent
  expected := by rw [hcommitted, hrecording.expected]
  stored := by
    rw [hstored]
    exact hrecording.stored.trans hprocessed
  running hruns := by
    cases hphase : after.phase <;>
      simp [hphase, WriterPhase.runs, WriterPhase.sound] at hruns hafter
  open_status _ := by rw [hcommitted, hrecording.open_status hbefore]
  terminal hphase := by simp [hphase, WriterPhase.sound] at hafter
  worker := by simp [hworker, hafter]
  added := hadded

theorem Recording.fail (hrecording : Recording settings state)
    (hcommitted : session.committed = state.session.committed) (hphase : state.phase ≠ .finalized)
    (error : HilRigError) (active : Option ControlRequest) :
    Recording settings { state.fail error active with session := session } :=
  hrecording.leave hcommitted rfl (List.prefix_refl _) hrecording.added hphase rfl (by simp
    [BuilderState.fail])

/-- Committing what is pending. -/
theorem Recording.flushed (hrecording : Recording settings state) (hruns : state.phase.runs = true)
    (hworking : session.working = none)
    (happends : Appends state.pendingTicks state.pendingCommunications state.pendingErrors
      state.session.committed session.committed) :
    Recording settings (state.flushed session) := by
  obtain ⟨-, pending, hpending⟩ := hrecording.running hruns
  have hopen : state.phase ≠ .finalized := by
    intro hphase
    simp [hphase, WriterPhase.runs] at hruns
  constructor
  · exact holds_of_appends hrecording.holds hpending happends
  · exact happends.consistent hrecording.consistent
  · exact happends.expected.trans hrecording.expected
  · exact List.prefix_refl _
  · intro _
    refine ⟨hworking, [], pending_nil ⟨rfl, rfl, rfl⟩ rfl ?_⟩
    simp only [BuilderState.flushed]
    rw [hpending.ordinals, hpending.processed]
  · intro _
    exact happends.status.trans (hrecording.open_status hopen)
  · intro hphase
    exact absurd hphase hopen
  · exact hrecording.worker
  · exact hrecording.added

/-- Flushing and going on with `next`. -/
theorem Recording.flushPending (hrecording : Recording settings state)
    (hruns : state.phase.runs = true) (active : Option ControlRequest)
    (next : BuilderState → BuilderState)
    (hnext : ∀ session, Recording settings (state.flushed session) →
      Recording settings (next (state.flushed session))) :
    Recording settings (state.flushPending faults active next) := by
  rcases flushPending_cases active next (hrecording.running hruns).1 with
    ⟨session, hworking, happends, hflushed⟩ | ⟨error, session, hcommitted, hfailed⟩
  · rw [hflushed]
    exact hnext session (hrecording.flushed hruns hworking happends)
  · rw [hfailed]
    refine hrecording.fail hcommitted ?_ error active
    intro hphase
    simp [hphase, WriterPhase.runs] at hruns

theorem arrivals_take {item : QueueItem} {rest : List QueueItem}
    (hqueue : state.queue = item :: rest) : (state.take item rest).arrivals = state.arrivals := by
  simp [BuilderState.take, BuilderState.arrivals, hqueue]

/-- A record is taken from the queue and joins the pending ones. -/
theorem Recording.pend {rest : List QueueItem} (hrecording : Recording settings state)
    (hphase : state.phase = .looping) (hqueue : state.queue = .record record :: rest) :
    Recording settings ((state.take (.record record) rest).pend record) := by
  have hframe : ((state.take (.record record) rest).pend record).session = state.session ∧
      ((state.take (.record record) rest).pend record).trace =
        (state.take (.record record) rest).trace ∧
      ((state.take (.record record) rest).pend record).queue = rest ∧
      ((state.take (.record record) rest).pend record).phase = state.phase ∧
      ((state.take (.record record) rest).pend record).workerError = state.workerError := by
    cases record <;> exact ⟨rfl, rfl, rfl, rfl, rfl⟩
  obtain ⟨hsession, htrace, hrest, hstays, herror⟩ := hframe
  have hopen : state.phase ≠ .finalized := by simp [hphase]
  obtain ⟨hidle, pending, hpending⟩ := hrecording.running (by simp [hphase, WriterPhase.runs])
  constructor
  · rw [hsession, htrace]
    exact hrecording.holds
  · rw [hsession]
    exact hrecording.consistent
  · rw [hsession]
    exact hrecording.expected
  · rw [htrace]
    refine hrecording.stored.trans ?_
    simp only [BuilderState.take, recordsOf_append]
    exact List.prefix_append _ _
  · intro _
    rw [hsession]
    exact ⟨hidle, pending ++ [record], pending_pend hpending rest⟩
  · intro _
    rw [hsession]
    exact hrecording.open_status hopen
  · intro hfinal
    exact absurd (hstays.symm.trans hfinal) hopen
  · rw [herror, hstays]
    exact hrecording.worker
  · rw [BuilderState.arrivals, htrace, hrest]
    exact hrecording.added.trans (congrArg recordsOf (arrivals_take hqueue).symm)

/-- A control request is taken from the queue, and nothing else changes. -/
theorem Recording.takeControl {rest : List QueueItem} (hrecording : Recording settings state)
    (hphase : state.phase = .looping) (hqueue : state.queue = .control request :: rest) :
    Recording settings (state.take (.control request) rest) := by
  have hsame : recordsOf (state.trace.processed ++ [.control request]) =
      recordsOf state.trace.processed := by
    rw [recordsOf_append, recordsOf_control, List.append_nil]
  obtain ⟨hidle, pending, hpending⟩ := hrecording.running (by simp [hphase, WriterPhase.runs])
  constructor
  · exact hrecording.holds
  · exact hrecording.consistent
  · exact hrecording.expected
  · refine hrecording.stored.trans ?_
    simp only [BuilderState.take, hsame, List.prefix_refl]
  · intro _
    exact ⟨hidle, pending, hsame.trans hpending.processed, hpending.ticks, hpending.communications,
      hpending.ordinals, hpending.errors⟩
  · exact hrecording.open_status
  · intro hfinal
    rw [show (state.take (.control request) rest).phase = state.phase from rfl, hphase] at hfinal
    cases hfinal
  · exact hrecording.worker
  · exact hrecording.added.trans (congrArg recordsOf (arrivals_take hqueue).symm)

/-- A control request is served after the flush that preceded it. -/
theorem Recording.serve {older : List QueueItem} (hrecording : Recording settings state)
    (hphase : state.phase = .looping)
    (hprocessed : state.trace.processed = older ++ [.control request])
    (hstored : state.trace.stored = recordsOf state.trace.processed) :
    Recording settings (state.serve faults request) := by
  have hruns : state.phase.runs = true := by simp [hphase, WriterPhase.runs]
  unfold BuilderState.serve
  cases haction : request.action with
  | flush =>
    obtain ⟨hholds, hconsistent, hexpected, hprefix, hrunning, hopen, hterminal, hworker, hadded⟩ :=
      hrecording
    refine ⟨hholds, hconsistent, hexpected, hprefix, fun _ ↦ ?_, hopen, hterminal, hworker, hadded⟩
    obtain ⟨hidle, pending, hrecords, hticks, hcommunications, hordinals, herrors⟩ := hrunning hruns
    exact ⟨hidle, pending, hrecords, hticks, hcommunications, hordinals, herrors⟩
  | finalize requested =>
    rcases @finalizeCapture_cases faults _ requested (hrecording.running hruns).1 with
      ⟨session, hrun, hworking, hcommitted, hcomplete⟩ | ⟨error, session, hrun, hcommitted⟩
    · simp only [hrun]
      constructor
      · simp only [Session.close, hcommitted]
        exact ⟨hrecording.holds.ticks, hrecording.holds.communications, hrecording.holds.errors⟩
      · simp only [Session.close, hcommitted]
        obtain ⟨hcount, hfirst, hlast, hnodup, hfits⟩ := hrecording.consistent
        exact ⟨hcount, hfirst, hlast, hnodup, hfits⟩
      · simp only [Session.close, hcommitted]
        exact hrecording.expected
      · exact hrecording.stored
      · intro hruns
        simp [WriterPhase.runs] at hruns
      · simp
      · intro _
        refine ⟨older, request, requested, hprocessed, haction, hstored, ?_, ?_⟩
        · simp only [Session.close, hcommitted]
          rfl
        · simp only [Session.close, hcommitted]
          exact hcomplete
      · simp only [BuilderState.answer, WriterPhase.sound, iff_true]
        rw [hrecording.worker, hphase]
        rfl
      · exact hrecording.added
    · simp only [hrun]
      exact hrecording.fail hcommitted (by simp [hphase]) error (some request)

theorem Recording.process (hrecording : Recording settings before)
    (hstep : before.process settings faults = some after) : Recording settings after := by
  unfold BuilderState.process at hstep
  split at hstep
  · rename_i record rest hphase hqueue
    have hpended := hrecording.pend hphase hqueue
    have hruns : ((before.take (.record record) rest).pend record).phase.runs = true := by
      cases record <;> simp [BuilderState.pend, BuilderState.take, hphase, WriterPhase.runs]
    simp only at hstep
    split at hstep
    · rw [← Option.some.inj hstep]
      exact hpended.flushPending hruns none id fun session hflushed ↦ hflushed
    · rw [← Option.some.inj hstep]
      exact hpended
  · rename_i request rest hphase hqueue
    rw [← Option.some.inj hstep]
    refine (hrecording.takeControl hphase hqueue).flushPending ?_ _ _ fun session hflushed ↦ ?_
    · simp [BuilderState.take, hphase, WriterPhase.runs]
    · exact hflushed.serve hphase rfl rfl
  · cases hstep

theorem Recording.timeout (hrecording : Recording settings before)
    (hstep : before.timeout faults = some after) : Recording settings after := by
  unfold BuilderState.timeout at hstep
  split at hstep
  · rename_i hphase hqueue hstarted
    rw [← Option.some.inj hstep]
    refine hrecording.flushPending ?_ none id fun session hflushed ↦ hflushed
    simp [hphase, WriterPhase.runs]
  · cases hstep

theorem Recording.start {failure : Option HilRigError} (hrecording : Recording settings before)
    (hstep : before.start failure = some after) : Recording settings after := by
  unfold BuilderState.start at hstep
  split at hstep
  · rename_i hphase
    split at hstep
    · rw [← Option.some.inj hstep]
      obtain ⟨hholds, hconsistent, hexpected, hstored, hrunning, hopen, -, hworker, hadded⟩ :=
        hrecording
      refine ⟨hholds, hconsistent, hexpected, hstored, fun _ ↦ ?_, fun _ ↦ ?_, ?_, ?_, hadded⟩
      · obtain ⟨hidle, pending, hpending⟩ := hrunning (by simp [hphase, WriterPhase.runs])
        obtain ⟨hrecords, hticks, hcommunications, hordinals, herrors⟩ := hpending
        exact ⟨hidle, pending, hrecords, hticks, hcommunications, hordinals, herrors⟩
      · exact hopen (by simp [hphase])
      · simp
      · exact hworker.trans (by simp [hphase, WriterPhase.sound])
    · rw [← Option.some.inj hstep]
      exact hrecording.fail rfl (by simp [hphase]) _ none
  · cases hstep

/-- After an error the writer answers what is left and commits nothing. -/
theorem Recording.wind (hrecording : Recording settings before)
    (hstep : before.answerActive = some after ∨ before.drain = some after ∨
      before.close = some after) :
    Recording settings after := by
  have herror (hsound : before.phase.sound = false) : before.workerError ≠ none := by
    simp [hrecording.worker, hsound]
  rcases hstep with hstep | hstep | hstep
  · unfold BuilderState.answerActive at hstep
    split at hstep
    · rename_i hphase
      rw [← Option.some.inj hstep]
      exact hrecording.leave rfl rfl (List.prefix_refl _) hrecording.added (by simp [hphase]) rfl
        (herror (by simp [hphase, WriterPhase.sound]))
    · rename_i request hphase
      rw [← Option.some.inj hstep]
      exact hrecording.leave rfl rfl (List.prefix_refl _) hrecording.added (by simp [hphase]) rfl
        (herror (by simp [hphase, WriterPhase.sound]))
    · cases hstep
  · unfold BuilderState.drain at hstep
    split at hstep
    · rename_i record rest hphase hqueue
      rw [← Option.some.inj hstep]
      refine hrecording.leave rfl rfl ?_ ?_ (by simp [hphase]) ?_ (herror ?_)
      · simp only [BuilderState.take, recordsOf_append]
        exact List.prefix_append _ _
      · exact hrecording.added.trans (congrArg recordsOf (arrivals_take hqueue).symm)
      · simp [BuilderState.take, hphase, WriterPhase.sound]
      · simp [hphase, WriterPhase.sound]
    · rename_i request rest hphase hqueue
      rw [← Option.some.inj hstep]
      refine hrecording.leave rfl rfl ?_ ?_ (by simp [hphase]) ?_ (herror ?_)
      · simp only [BuilderState.answer, BuilderState.take, recordsOf_append]
        exact List.prefix_append _ _
      · exact hrecording.added.trans (congrArg recordsOf (arrivals_take hqueue).symm)
      · simp [BuilderState.answer, BuilderState.take, hphase, WriterPhase.sound]
      · simp [hphase, WriterPhase.sound]
    · cases hstep
  · unfold BuilderState.close at hstep
    split at hstep
    · rename_i hphase hqueue
      rw [← Option.some.inj hstep]
      exact hrecording.leave rfl rfl (List.prefix_refl _) hrecording.added (by simp [hphase]) rfl
        (herror (by simp [hphase, WriterPhase.sound]))
    · cases hstep

/-- An item joins the queue: a record is then added, and a request is waited for. -/
theorem Recording.enqueue {thread : ℕ} (hrecording : Recording settings before)
    (hstep : before.enqueue settings thread = some after) : Recording settings after := by
  obtain ⟨hholds, hconsistent, hexpected, hstored, hrunning, hopen, hterminal, hworker, hadded⟩ :=
    hrecording
  unfold BuilderState.enqueue at hstep
  repeat' split at hstep
  · rw [← Option.some.inj hstep]
    refine ⟨hholds, hconsistent, hexpected, hstored, fun hruns ↦ ?_, hopen, hterminal, hworker, ?_⟩
    · obtain ⟨hidle, pending, hrecords, hticks, hcommunications, hordinals, herrors⟩ :=
        hrunning hruns
      exact ⟨hidle, pending, hrecords, hticks, hcommunications, hordinals, herrors⟩
    · simp only [BuilderState.observe, BuilderState.enter, BuilderState.arrivals,
        recordsAdded_added, recordsOf_append, recordsOf_record] at hadded ⊢
      rw [hadded, List.append_assoc]
  · rw [← Option.some.inj hstep]
    refine ⟨hholds, hconsistent, hexpected, hstored, fun hruns ↦ ?_, hopen, hterminal, hworker, ?_⟩
    · obtain ⟨hidle, pending, hrecords, hticks, hcommunications, hordinals, herrors⟩ :=
        hrunning hruns
      exact ⟨hidle, pending, hrecords, hticks, hcommunications, hordinals, herrors⟩
    · simp only [BuilderState.enter, BuilderState.arrivals, recordsOf_append, recordsOf_control,
        List.append_nil] at hadded ⊢
      exact hadded
  · cases hstep
  · cases hstep

/-- Every step of a thread or of the writer keeps the records of the capture. -/
theorem Recording.step {label : BuilderLabel} (hrecording : Recording settings before)
    (hstep : before.step settings faults label = some after) : Recording settings after := by
  cases label with
  | enqueue thread => exact hrecording.enqueue hstep
  | start failure => exact hrecording.start hstep
  | process => exact hrecording.process hstep
  | timeout => exact hrecording.timeout hstep
  | answerActive => exact hrecording.wind (.inl hstep)
  | drain => exact hrecording.wind (.inr (.inl hstep))
  | close => exact hrecording.wind (.inr (.inr hstep))
  | _ => exact (callerStep_of_step rfl hstep).recording hrecording

end Step

/-! ### Runs -/

section Runs

variable {settings : BuilderSettings} {faults : ℕ → Option HilRigError}
  {state before after : BuilderState}

/-- An executable run is a run of the step relation. -/
theorem reflTransGen_of_run {labels : List BuilderLabel}
    (hrun : before.run settings faults labels = some after) :
    ReflTransGen (BuilderStep settings faults) before after :=
  reflTransGen_of_foldlM hrun

theorem recording_run
    (hrun : ReflTransGen (BuilderStep settings faults) (.initial settings) state) :
    Recording settings state := by
  induction hrun with
  | refl => exact .initial
  | tail _ hstep ih =>
    obtain ⟨label, hstep⟩ := hstep
    exact ih.step hstep

/-- The steps that follow an error of the writer commit nothing. -/
theorem committed_eq_of_workerError {label : BuilderLabel} (hrecording : Recording settings before)
    (hfailed : before.workerError ≠ none) (hstep : before.step settings faults label = some after) :
    after.session.committed = before.session.committed := by
  have hphase : before.phase.sound = false := by
    rw [ne_eq, hrecording.worker, Bool.not_eq_true] at hfailed
    exact hfailed
  cases label with
  | enqueue thread =>
    simp only [BuilderState.step, BuilderState.enqueue] at hstep
    repeat' split at hstep
    all_goals cases hstep
    all_goals rfl
  | start failure =>
    simp only [BuilderState.step, BuilderState.start] at hstep
    split at hstep
    · rename_i hstarting
      simp [hstarting, WriterPhase.sound] at hphase
    · cases hstep
  | process =>
    simp only [BuilderState.step, BuilderState.process] at hstep
    split at hstep
    · rename_i hlooping _
      simp [hlooping, WriterPhase.sound] at hphase
    · rename_i hlooping _
      simp [hlooping, WriterPhase.sound] at hphase
    · cases hstep
  | timeout =>
    simp only [BuilderState.step, BuilderState.timeout] at hstep
    split at hstep
    · rename_i hlooping _ _
      simp [hlooping, WriterPhase.sound] at hphase
    · cases hstep
  | answerActive =>
    simp only [BuilderState.step, BuilderState.answerActive] at hstep
    split at hstep <;> cases hstep <;> rfl
  | drain =>
    simp only [BuilderState.step, BuilderState.drain] at hstep
    split at hstep <;> cases hstep <;> rfl
  | close =>
    simp only [BuilderState.step, BuilderState.close] at hstep
    split at hstep
    · rw [← Option.some.inj hstep]
      rfl
    · cases hstep
  | _ =>
    obtain ⟨_, _, _, _, rfl, -⟩ := callerStep_of_step rfl hstep
    rfl

/-- A batch that is written over a connection keeps the counters, and one that raises leaves the
committed rows and metadata as they were. -/
def SoundBatch (faults : ℕ → Option HilRigError) (session : Session CaptureDatabase) : Prop :=
  ∀ ticks communications errors,
    match writeBatch faults ticks communications errors session with
    | .ok _ written => written.committed.Consistent
    | .error _ failed => failed.committed = session.committed

theorem soundBatch {session : Session CaptureDatabase} (hidle : session.working = none)
    (hconsistent : session.committed.Consistent) : SoundBatch faults session := by
  intro ticks communications errors
  rcases @writeBatch_cases faults _ ticks communications errors hidle with
    ⟨written, hrun, -, happends⟩ | ⟨error, failed, hrun, hcommitted⟩
  · rw [hrun]
    exact happends.consistent hconsistent
  · rw [hrun]
    exact hcommitted

/-- The capture stores exactly the expected ticks. -/
def CaptureDatabase.EveryTick (database : CaptureDatabase) : Prop :=
  ∀ tick, tick ∈ database.ticks ↔ tick < database.expectedTickCount

/-- What the status of a finalized capture says about its ticks. -/
theorem Recording.status_eq {requested : Option CaptureStatus}
    (hrecording : Recording settings state)
    (hstatus : state.session.committed.status = terminalStatus state.session.committed requested) :
    (requested = none → state.session.committed.EveryTick →
      state.session.committed.status = .complete) ∧
    (requested = none → ¬state.session.committed.EveryTick →
      state.session.committed.status = .incomplete) ∧
    ∀ status, requested = some status → state.session.committed.status = status := by
  refine ⟨?_, ?_, ?_⟩
  · rintro rfl hticks
    rw [hstatus, terminalStatus, Option.getD_none,
      if_pos ((fixedTicksComplete_iff hrecording.consistent).2 hticks)]
  · rintro rfl hticks
    rw [hstatus, terminalStatus, Option.getD_none,
      if_neg fun hcomplete ↦ hticks ((fixedTicksComplete_iff hrecording.consistent).1 hcomplete)]
  · rintro status rfl
    rw [hstatus, terminalStatus, Option.getD_some]

/-- In every run of a builder, whatever its records, its batches and its faults: the counters of the
committed metadata are those of the rows; a batch that raises leaves rows and metadata as they were,
and so does everything after it; and the status is `COMPLETE` only with exactly the expected ticks.
A finalization without a requested status writes `COMPLETE` or `INCOMPLETE` by just that test, and
one with a requested status writes this one. -/
theorem writerSound_run
    (hrun : ReflTransGen (BuilderStep settings faults) (.initial settings) state) :
    (state.session.committed.receivedTickCount = state.session.committed.tickResults.length ∧
      state.session.committed.firstTick = state.session.committed.ticks.min? ∧
      state.session.committed.lastTick = state.session.committed.ticks.max?) ∧
    (state.phase.runs = true → SoundBatch faults state.session) ∧
    (state.workerError ≠ none → ∀ label after, state.step settings faults label = some after →
      after.session.committed = state.session.committed) ∧
    state.session.committed.expectedTickCount = settings.expectedTickCount ∧
    (state.session.committed.status = .complete → state.session.committed.EveryTick) ∧
    (state.phase ≠ .finalized → state.session.committed.status = .inProgress) ∧
    (state.phase = .finalized → ∃ older request requested,
      state.trace.processed = older ++ [.control request] ∧ request.action = .finalize requested ∧
      (requested = none → state.session.committed.EveryTick →
        state.session.committed.status = .complete) ∧
      (requested = none → ¬state.session.committed.EveryTick →
        state.session.committed.status = .incomplete) ∧
      ∀ status, requested = some status → state.session.committed.status = status) := by
  have hrecording := recording_run hrun
  have hconsistent := hrecording.consistent
  refine ⟨⟨hconsistent.count, hconsistent.first, hconsistent.last⟩, fun hruns ↦ ?_,
    fun hfailed label after hstep ↦ committed_eq_of_workerError hrecording hfailed hstep,
    hrecording.expected, fun hcomplete ↦ ?_, hrecording.open_status, fun hphase ↦ ?_⟩
  · exact soundBatch (hrecording.running hruns).1 hconsistent
  · by_cases hphase : state.phase = .finalized
    · obtain ⟨_, _, _, -, -, -, -, hticks⟩ := hrecording.terminal hphase
      exact (fixedTicksComplete_iff hconsistent).1 (hticks hcomplete)
    · rw [hrecording.open_status hphase] at hcomplete
      cases hcomplete
  · obtain ⟨older, request, requested, hprocessed, haction, -, hstatus, -⟩ :=
      hrecording.terminal hphase
    exact ⟨older, request, requested, hprocessed, haction, hrecording.status_eq hstatus⟩

end Runs

/-! ### A complete capture -/

section Example

/-- A capture of one tick, with batches of one record. -/
def oneTick : BuilderSettings :=
  ⟨1, Nat.one_pos, 1, Nat.one_pos, 2, Nat.two_pos⟩

/-- One thread adds the tick and finalizes. -/
def completeCapture : List BuilderLabel :=
  [.start none, .add 0 (.tick (.executionProblem 0 none)), .recheck 0, .enqueue 0, .process,
    .finalize 0 none, .recheck 0, .enqueue 0, .process]

theorem writerSound_run_completeCapture :
    ∃ state,
      (BuilderState.initial oneTick).run oneTick (fun _ ↦ none) completeCapture = some state ∧
      state.session.committed.status = .complete ∧ state.session.committed.EveryTick := by
  have hrun : ((BuilderState.initial oneTick).run oneTick (fun _ ↦ none) completeCapture).map
      (fun state ↦ state.session.committed.status) = some .complete := by decide +kernel
  obtain ⟨state, hstate, hstatus⟩ := Option.map_eq_some_iff.1 hrun
  obtain ⟨-, -, -, -, hticks, -⟩ := writerSound_run (reflTransGen_of_run hstate)
  exact ⟨state, hstate, hstatus, hticks hstatus⟩

end Example

end HilRig.Results
