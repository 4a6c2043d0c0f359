import HilRig.Results.Writer

/-!
# The captured-run builder

Producers, flush callers and the finalize caller are threads, each in some call; the writer loop is
one more. `step` takes one atomic step of one of them: the check of `_submit`, the recheck of
`_put`, its `queue.put`, one look of `_wait_for`, the locked block of `finalize`, and one dequeue of
the writer loop with the processing of its item. After an error the loop answers its active request
and the queued ones item by item. `BuilderTrace` is what no code reads: the items the writer took,
the records it committed, and the history of the calls.
-/

set_option autoImplicit false
set_option relaxedAutoImplicit false

namespace HilRig.Results

open HilRig.Foundations

/-! ### Items of the queue -/

/-- What a producer hands over. -/
inductive Record
  | tick (result : TickResult)
  | communication (result : CommunicationResult)
  | error (record : ApplicationErrorRecord)
  deriving DecidableEq

/-- What a control request asks of the writer. -/
inductive ControlAction
  | flush
  | finalize (status : Option CaptureStatus)
  deriving DecidableEq, Repr

/-- A barrier sent through the queue. `admitted` are the records handed over before the request was
made, which no code reads. -/
structure ControlRequest where
  identifier : ℕ
  action : ControlAction
  admitted : List Record
  deriving DecidableEq

inductive QueueItem
  | record (record : Record)
  | control (request : ControlRequest)
  deriving DecidableEq

def Record.tickResult : Record → Option TickResult
  | .tick result => some result
  | _ => none

def Record.communicationResult : Record → Option CommunicationResult
  | .communication result => some result
  | _ => none

def Record.applicationError : Record → Option ApplicationErrorRecord
  | .error record => some record
  | _ => none

/-- The tick of a record, which an error may lack. -/
def Record.tickNumber : Record → Option ℕ
  | .tick result => some result.tick
  | .communication result => some result.tick
  | .error record => record.tick

def QueueItem.toRecord : QueueItem → Option Record
  | .record value => some value
  | .control _ => none

/-- The records among some items, in order. -/
def recordsOf (items : List QueueItem) : List Record :=
  items.filterMap QueueItem.toRecord

/-! ### Ordinals -/

/-- The next ordinal of every tick, peripheral and channel. -/
abbrev OrdinalMap := ℕ × CommunicationPeripheral × ℕ → ℕ

/-- A communication with its ordinal, the given one or the next, and the ordinals that follow. -/
def assignOrdinal (next : OrdinalMap) (item : CommunicationResult) :
    CommunicationResult × OrdinalMap :=
  let key := (item.tick, item.peripheral, item.channel)
  let ordinal := item.ordinal.getD (next key)
  ({ item with ordinal := some ordinal },
    Function.update next key (max (next key) (ordinal + 1)))

/-! ### State -/

/-- Where a thread is in its call. -/
inductive CallState
  | idle
  | submitting (item : QueueItem) (allowClosing : Bool)
  | putting (item : QueueItem) (allowClosing : Bool)
  | waiting (request : ControlRequest)
  | joining (request : ControlRequest)
  deriving DecidableEq

/-- Where the writer loop is. -/
inductive WriterPhase
  | starting
  | looping
  | failing (active : Option ControlRequest)
  | draining
  | failed
  | finalized
  deriving DecidableEq

/-- What the callers see: an `add_*` call that returned, a flush or a finalization that was
accepted, and one that returned, with the capture committed at that moment. -/
inductive BuilderEvent
  | added (record : Record)
  | invoked (request : ControlRequest)
  | completed (request : ControlRequest) (database : CaptureDatabase)
  deriving DecidableEq

/-- What no code reads: the items the writer took, oldest first, the records it committed, and the
events, newest first. -/
structure BuilderTrace where
  processed : List QueueItem := []
  stored : List Record := []
  history : List BuilderEvent := []

structure BuilderSettings where
  expectedTickCount : ℕ
  expectedTickCount_pos : 0 < expectedTickCount
  batchSize : ℕ
  batchSize_pos : 0 < batchSize
  queueCapacity : ℕ
  queueCapacity_pos : 0 < queueCapacity

structure BuilderState where
  queue : List QueueItem := []
  accepting : Bool := true
  workerError : Option HilRigError := none
  answers : ControlRequest → Option (Option HilRigError) := fun _ ↦ none
  nextIdentifier : ℕ := 0
  calls : ℕ → CallState := fun _ ↦ .idle
  phase : WriterPhase := .starting
  session : Session CaptureDatabase
  pendingTicks : List TickResult := []
  pendingCommunications : List CommunicationResult := []
  pendingErrors : List ApplicationErrorRecord := []
  nextOrdinal : OrdinalMap := fun _ ↦ 0
  batchStarted : Bool := false
  trace : BuilderTrace := {}

/-- A builder with a new capture and its writer thread started. -/
def BuilderState.initial (settings : BuilderSettings) : BuilderState where
  session :=
    { committed := initializeCaptureDatabase settings.expectedTickCount
        settings.expectedTickCount_pos }

namespace BuilderState

variable (state : BuilderState)

/-- Every item that was put into the queue, oldest first. -/
def arrivals : List QueueItem :=
  state.trace.processed ++ state.queue

def enter (thread : ℕ) (call : CallState) : BuilderState :=
  { state with calls := Function.update state.calls thread call }

def observe (event : BuilderEvent) : BuilderState :=
  { state with trace := { state.trace with history := event :: state.trace.history } }

/-- The event of a request is set, with its error if it has one. -/
def answer (request : ControlRequest) (error : Option HilRigError) : BuilderState :=
  { state with answers := Function.update state.answers request (some error) }

/-- The writer loop leaves with an error while it serves a request, or none. -/
def fail (error : HilRigError) (active : Option ControlRequest) : BuilderState :=
  { state with workerError := some error, phase := .failing active }

/-! ### Callers -/

/-- A new control request. -/
def request (action : ControlAction) : ControlRequest :=
  ⟨state.nextIdentifier, action, recordsOf state.arrivals⟩

/-- An accepted call hands its item to `_put`. -/
def submit (thread : ℕ) (item : QueueItem) (allowClosing : Bool) : BuilderState :=
  state.enter thread (.submitting item allowClosing)

/-- `_submit` and the locked block of `finalize` refuse in a failed or closing builder. -/
def refuses : Bool :=
  state.workerError.isSome || !state.accepting

/-- An `add_*` call up to the check of `_submit`. -/
def add (settings : BuilderSettings) (thread : ℕ) (record : Record) : BuilderState :=
  if record.tickNumber.any fun tick ↦ settings.expectedTickCount ≤ tick then state
  else if state.refuses then state
  else state.submit thread (.record record) false

/-- A control request that was accepted. -/
def invoke (thread : ℕ) (action : ControlAction) (allowClosing : Bool) : BuilderState :=
  { (state.observe (.invoked (state.request action))).submit thread
      (.control (state.request action)) allowClosing with
    nextIdentifier := state.nextIdentifier + 1 }

/-- `flush` up to the check of `_submit`. -/
def flush (thread : ℕ) : BuilderState :=
  if state.refuses then state else state.invoke thread .flush false

/-- `finalize` up to the end of its locked block. -/
def finalize (thread : ℕ) (status : Option CaptureStatus) : BuilderState :=
  if state.refuses then state
  else { state.invoke thread (.finalize status) true with accepting := false }

/-- The checks of `_put` before it puts. -/
def recheck (thread : ℕ) : Option BuilderState :=
  match state.calls thread with
  | .submitting item allowClosing =>
    if state.workerError.isSome || (!allowClosing && !state.accepting) then
      some (state.enter thread .idle)
    else some (state.enter thread (.putting item allowClosing))
  | _ => none

/-- `queue.put` succeeds: an `add_*` call returns, and a control request is waited for. -/
def enqueue (settings : BuilderSettings) (thread : ℕ) : Option BuilderState :=
  match state.calls thread with
  | .putting item _ =>
    if state.queue.length < settings.queueCapacity then
      let put := { state with queue := state.queue ++ [item] }
      match item with
      | .record record => some ((put.observe (.added record)).enter thread .idle)
      | .control request => some (put.enter thread (.waiting request))
    else none
  | _ => none

/-- `queue.put` finds the queue full until its timeout. -/
def full (settings : BuilderSettings) (thread : ℕ) : Option BuilderState :=
  match state.calls thread with
  | .putting item allowClosing =>
    if settings.queueCapacity ≤ state.queue.length then
      some (state.enter thread (.submitting item allowClosing))
    else none
  | _ => none

/-- One look of `_wait_for` at the request's event, and at the worker's error. -/
def poll (thread : ℕ) : Option BuilderState :=
  match state.calls thread with
  | .waiting request =>
    match state.answers request with
    | some (some _) => some (state.enter thread .idle)
    | some none =>
      if state.workerError.isSome then some (state.enter thread .idle)
      else
        match request.action with
        | .flush =>
          some ((state.observe (.completed request state.session.committed)).enter thread .idle)
        | .finalize _ => some (state.enter thread (.joining request))
    | none =>
      if state.workerError.isSome then some (state.enter thread .idle) else some state
  | _ => none

/-- `finalize` after the writer thread ended: it opens the capture and returns. -/
def join (thread : ℕ) (opened : Bool) : Option BuilderState :=
  match state.calls thread with
  | .joining request =>
    if state.phase = .finalized ∨ state.phase = .failed then
      if opened then
        some ((state.observe (.completed request state.session.committed)).enter thread .idle)
      else some (state.enter thread .idle)
    else none
  | _ => none

/-! ### The writer loop -/

/-- The writer opens its connection, or it cannot. -/
def start (failure : Option HilRigError) : Option BuilderState :=
  if state.phase = .starting then
    match failure with
    | none => some { state with phase := .looping }
    | some error => some (state.fail error none)
  else none

/-- Number of records that wait for their batch. -/
def recordCount : ℕ :=
  state.pendingTicks.length + state.pendingCommunications.length + state.pendingErrors.length

/-- A record joins the pending ones; its batch has started. -/
def pend (record : Record) : BuilderState :=
  match record with
  | .tick result =>
    { state with pendingTicks := state.pendingTicks ++ [result], batchStarted := true }
  | .communication result =>
    { state with
      pendingCommunications :=
        state.pendingCommunications ++ [(assignOrdinal state.nextOrdinal result).1]
      nextOrdinal := (assignOrdinal state.nextOrdinal result).2
      batchStarted := true }
  | .error record =>
    { state with pendingErrors := state.pendingErrors ++ [record], batchStarted := true }

/-- The state after the pending records were committed over a connection. -/
def flushed (session : Session CaptureDatabase) : BuilderState :=
  { state with
    session := session
    pendingTicks := []
    pendingCommunications := []
    pendingErrors := []
    batchStarted := false
    trace := { state.trace with stored := recordsOf state.trace.processed } }

/-- `flush_pending`, and what follows it when it does not raise. -/
def flushPending (faults : ℕ → Option HilRigError) (active : Option ControlRequest)
    (next : BuilderState → BuilderState) : BuilderState :=
  match writeBatch faults state.pendingTicks state.pendingCommunications state.pendingErrors
      state.session with
  | .ok _ session => next (state.flushed session)
  | .error error session => { state.fail error active with session := session }

/-- What follows the flush of a control request. -/
def serve (faults : ℕ → Option HilRigError) (request : ControlRequest) : BuilderState :=
  match request.action with
  | .flush => state.answer request none
  | .finalize status =>
    match finalizeCapture faults status state.session with
    | .ok _ session =>
      { state.answer request none with session := session.close, phase := .finalized }
    | .error error session => { state.fail error (some request) with session := session }

/-- The writer took an item from the queue. -/
def take (item : QueueItem) (rest : List QueueItem) : BuilderState :=
  { state with
    queue := rest
    trace := { state.trace with processed := state.trace.processed ++ [item] } }

/-- One dequeue of the writer loop and the processing of its item. -/
def process (settings : BuilderSettings) (faults : ℕ → Option HilRigError) :
    Option BuilderState :=
  match state.phase, state.queue with
  | .looping, .record record :: rest =>
    let pended := (state.take (.record record) rest).pend record
    if settings.batchSize ≤ pended.recordCount then some (pended.flushPending faults none id)
    else some pended
  | .looping, .control request :: rest =>
    some ((state.take (.control request) rest).flushPending faults (some request) fun flushed ↦
      flushed.serve faults request)
  | _, _ => none

/-- `queue.get` finds the queue empty until the batch's flush interval ends. -/
def timeout (faults : ℕ → Option HilRigError) : Option BuilderState :=
  match state.phase, state.queue, state.batchStarted with
  | .looping, [], true => some (state.flushPending faults none id)
  | _, _, _ => none

/-- After its error the writer answers the request it served. -/
def answerActive : Option BuilderState :=
  match state.phase with
  | .failing none => some { state with phase := .draining }
  | .failing (some request) =>
    some { state.answer request state.workerError with phase := .draining }
  | _ => none

/-- One item of `_fail_queued_control_requests`. -/
def drain : Option BuilderState :=
  match state.phase, state.queue with
  | .draining, .record record :: rest => some (state.take (.record record) rest)
  | .draining, .control request :: rest =>
    some ((state.take (.control request) rest).answer request state.workerError)
  | _, _ => none

/-- The writer closes its connection and its thread ends. -/
def close : Option BuilderState :=
  match state.phase, state.queue with
  | .draining, [] => some { state with session := state.session.close, phase := .failed }
  | _, _ => none

end BuilderState

/-! ### Steps -/

/-- The steps of the threads and of the writer. -/
inductive BuilderLabel
  | add (thread : ℕ) (record : Record)
  | flush (thread : ℕ)
  | finalize (thread : ℕ) (status : Option CaptureStatus)
  | recheck (thread : ℕ)
  | enqueue (thread : ℕ)
  | full (thread : ℕ)
  | poll (thread : ℕ)
  | join (thread : ℕ) (opened : Bool)
  | start (failure : Option HilRigError)
  | process
  | timeout
  | answerActive
  | drain
  | close

section Steps

variable (settings : BuilderSettings) (faults : ℕ → Option HilRigError)

/-- One step of a builder, if it is enabled. -/
def BuilderState.step (state : BuilderState) : BuilderLabel → Option BuilderState
  | .add thread record =>
    if state.calls thread = .idle then some (state.add settings thread record) else none
  | .flush thread => if state.calls thread = .idle then some (state.flush thread) else none
  | .finalize thread status =>
    if state.calls thread = .idle then some (state.finalize thread status) else none
  | .recheck thread => state.recheck thread
  | .enqueue thread => state.enqueue settings thread
  | .full thread => state.full settings thread
  | .poll thread => state.poll thread
  | .join thread opened => state.join thread opened
  | .start failure => state.start failure
  | .process => state.process settings faults
  | .timeout => state.timeout faults
  | .answerActive => state.answerActive
  | .drain => state.drain
  | .close => state.close

/-- Some thread or the writer takes a step. -/
def BuilderStep (before after : BuilderState) : Prop :=
  ∃ label, before.step settings faults label = some after

/-- A run of labelled steps, if they are all enabled. -/
def BuilderState.run (state : BuilderState) (labels : List BuilderLabel) : Option BuilderState :=
  labels.foldlM (fun state label ↦ state.step settings faults label) state

end Steps

end HilRig.Results
