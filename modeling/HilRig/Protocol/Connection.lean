import HilRig.Protocol.ConnectionState

/-!
# The Application workflow of a connection

The handlers of one connection, as its service loop and its caller's requests run them. A queued
upload waits in `uploadOperations`; `advanceWorkflow` activates discovery or the next upload
operation when nothing is pending, `submitNextApplicationMessage` hands the pending operation's next
message to the Transport, and `finishPendingOperationIfReady` completes it after its delivery and
its response. A failure drops the queued operations and the pending one, and keeps the active
upload.
-/

set_option autoImplicit false
set_option relaxedAutoImplicit false

namespace HilRig.Protocol

open HilRig.Models HilRig.Results HilRig.Foundations

variable {Wire : Type}

/-! ### Guards and activation -/

/-- Fail the workflow and raise a session error. -/
def failWith {α : Type} (text : String) : Action Wire α := do
  update Connection.failWorkflow
  throw (.session text)

def requireOpen : Action Wire Unit := do
  if (← current).closed then throw (.session "The fixed-I/O protocol connection is closed")
  else return ()

def requireNoPendingOperation : Action Wire Unit := do
  let connection ← current
  if connection.pendingOperation.isSome ∨ connection.transportDeliveryPending then
    throw (.session "Another response-requiring operation is already pending")
  else return ()

def activateOperation (operation : ApplicationOperation Wire) : Action Wire Unit := do
  if (← current).pendingOperation.isSome then
    throw (.session "Cannot activate two Application operations at once")
  else
    observe (.activated operation)
    update fun connection ↦ connection.activate operation

/-! ### The operations -/

def discoveryOperation (encoded : Wire) : ApplicationOperation Wire where
  kind := .discovery
  encodedMessages := [encoded]

def configurationOperation (applicationTestId : ℕ) (encoded : Wire) :
    ApplicationOperation Wire where
  kind := .configuration
  encodedMessages := [encoded]
  applicationTestId := some applicationTestId

def tickOperation (applicationTestId tick : ℕ) (encoded : Wire) : ApplicationOperation Wire where
  kind := .tick
  encodedMessages := [encoded]
  applicationTestId := some applicationTestId
  tick := some tick

def completeTestOperation (applicationTestId : Option ℕ) (deadline : ℕ) :
    ApplicationOperation Wire where
  kind := .completeTest
  encodedMessages := []
  applicationTestId := applicationTestId
  responseDeadline := some deadline

def startOperation (applicationTestId : ℕ) (encoded : Wire) : ApplicationOperation Wire where
  kind := .start
  encodedMessages := [encoded]
  applicationTestId := some applicationTestId
  controlCommand := some .start

def abortOperation (applicationTestId : ℕ) (encoded : Wire) (previous : WorkflowState) :
    ApplicationOperation Wire where
  kind := .abort
  encodedMessages := [encoded]
  applicationTestId := some applicationTestId
  controlCommand := some .abort
  previousWorkflowState := some previous

def resetOperation (encoded : Wire) (previous : WorkflowState) : ApplicationOperation Wire where
  kind := .reset
  encodedMessages := [encoded]
  globalControlCommand := some .resetApplication
  previousWorkflowState := some previous

/-- The queued operations of an upload: its configuration, then one for each sparse state. -/
def uploadOperationsOf (upload : FixedIOUploadMessages) (encoded : List Wire) :
    List (ApplicationOperation Wire) :=
  let applicationTestId := upload.uploadAttempt.applicationTestId
  (encoded.take 1).map (configurationOperation applicationTestId) ++
    List.zipWith (fun message wire ↦ tickOperation applicationTestId message.tickNumber wire)
      upload.instructions (encoded.drop 1)

/-! ### Finishing an operation -/

/-- The connection after a negative response, by the protocol's recovery of each scope. -/
def Connection.handleNegativeResponse (connection : Connection Wire)
    (operation : ApplicationOperation Wire) : Connection Wire :=
  match operation.kind with
  | .configuration | .tick | .completeTest =>
    { connection.retireActiveUpload with workflowState := .failed }
  | .start =>
    if operation.responseOutcome = some .rejected then
      { connection with
        executionStarted := false, uploadAccepted := true, workflowState := .readyToStart }
    else connection.failWorkflow
  | .abort | .reset =>
    if operation.responseOutcome = some .rejected then
      { connection with workflowState := operation.previousWorkflowState.getD .failed }
    else connection.failWorkflow
  | .discovery => connection.failWorkflow

section Codec

variable (protocol : NativeProtocol Wire)

def queueStart : Action Wire Unit := do
  match (← current).activeUpload with
  | none => throw (.session "There is no accepted upload to start")
  | some upload =>
    let encoded ← obtainResult (protocol.encode (buildStart upload.uploadAttempt))
    activateOperation (startOperation upload.uploadAttempt.applicationTestId encoded)

/-- What follows the acceptance of an upload message: the next one, or validation of the whole. -/
def continueUpload (operation : ApplicationOperation Wire) : Action Wire Unit := do
  let connection ← current
  match connection.uploadOperations with
  | next :: rest =>
    update fun connection ↦ { connection with uploadOperations := rest }
    activateOperation next
  | [] =>
    let now ← monotonic
    activateOperation
      (completeTestOperation operation.applicationTestId
        (now + connection.applicationResponseTimeout))

/-- What follows the acceptance of the whole upload: START, when the test starts immediately. -/
def acceptUpload : Action Wire Unit := do
  update fun connection ↦
    { connection with uploadAccepted := true, workflowState := .readyToStart }
  match (← current).activeUpload with
  | some upload => if upload.startMode = "IMMEDIATE" then queueStart protocol else return ()
  | none => return ()

/-- What follows a response without error. -/
def completeOperation (operation : ApplicationOperation Wire) : Action Wire Unit :=
  match operation.kind with
  | .discovery =>
    update fun connection ↦ { connection with sessionConfirmed := true, workflowState := .ready }
  | .configuration | .tick => continueUpload operation
  | .completeTest => acceptUpload protocol
  | .start =>
    update fun connection ↦ { connection with executionStarted := true, workflowState := .running }
  | .abort =>
    update fun connection ↦ { connection.retireActiveUpload with workflowState := .aborted }
  | .reset =>
    update fun connection ↦ { connection.retireActiveUpload with workflowState := .ready }

/-- Whether an operation's response was received and all its messages delivered. -/
def Connection.readyToFinish (connection : Connection Wire)
    (operation : ApplicationOperation Wire) : Bool :=
  operation.responseReceived && !connection.transportDeliveryPending &&
    operation.everyMessageSubmitted

def finishPendingOperationIfReady : Action Wire Unit := do
  let connection ← current
  match connection.pendingOperation with
  | none => return ()
  | some operation =>
    if connection.readyToFinish operation then
      update fun connection ↦ { connection with pendingOperation := none }
      match operation.responseError with
      | some error =>
        update fun connection ↦ connection.handleNegativeResponse operation
        throw (.session error)
      | none => completeOperation protocol operation
    else return ()

/-! ### Transport events -/

def handleDeliveryConfirmed : Action Wire Unit := do
  let connection ← current
  match connection.pendingOperation, connection.transportDeliveryPending with
  | some operation, true =>
    update fun connection ↦
      { connection with
        transportDeliveryPending := false
        uploadMessagesDelivered :=
          if operation.kind.isUpload then connection.uploadMessagesDelivered + 1
          else connection.uploadMessagesDelivered }
    if operation.everyMessageSubmitted then
      let now ← monotonic
      update fun connection ↦
        { connection with
          pendingOperation := some { operation with
            responseDeadline := some (now + connection.applicationResponseTimeout) } }
      finishPendingOperationIfReady protocol
    else finishPendingOperationIfReady protocol
  | _, _ =>
    failWith "Transport confirmed delivery without a pending Application message"

def handleEvent (type : EventType) : Action Wire Unit := do
  observe (.event type)
  match type with
  | .deliveryConfirmed => handleDeliveryConfirmed protocol
  | .deliveryFailed => failWith "Transport delivery failed"
  | .protocolError => failWith "Transport reported a protocol error"
  | .sessionReset =>
    update Connection.invalidateSession
    throw (.session "Transport session reset; the Application transaction was abandoned")
  | .sessionEstablished =>
    update fun connection ↦
      { connection with
        sessionConfirmed := false, sessionInfo := none, workflowState := .connecting }
  | .other _ => return ()

/-! ### Inbound messages -/

def versionText (version : ProtocolVersion) : String :=
  s!"{version.major}.{version.minor}.{version.patch}"

def handleSystemInfoResponse (message : SystemInfoResponse) : Action Wire Unit := do
  match (← current).pendingOperation with
  | some operation =>
    if operation.kind = .discovery then
      match protocol.checkProtocolVersion message.protocolVersion with
      | .error _ =>
        failWith "The RIG Application protocol version is incompatible with this host"
      | .ok () =>
        update fun connection ↦
          { connection with
            sessionInfo := some {
              protocolVersion := versionText message.protocolVersion
              firmwareVersion := versionText message.firmwareVersion
              diagnosticData := message.diagnosticData
              firmwareGitHash := message.firmwareGitHash }
            pendingOperation := some { operation with responseReceived := true } }
        finishPendingOperationIfReady protocol
    else failWith "Received an unexpected System Information response"
  | none => failWith "Received an unexpected System Information response"

/-- The text of an optional number. -/
def optionText (value : Option ℕ) : String :=
  match value with
  | some value => toString value
  | none => "None"

/-- How a response fails to answer an operation of a given scope: the first mismatch found. -/
def responseMismatch (operation : ApplicationOperation Wire) (scope : ResponseScope)
    (message : ApplicationResponse) : Except HilRigError (Option String) := do
  if message.scope ≠ scope then
    return some s!"expected scope {scope.name}, received {message.scope.name}"
  else
    let receivedTestId ← message.testId.mapM fun testId ↦ applicationTestIdFromBytes testId.bytes
    if receivedTestId ≠ operation.applicationTestId then
      return some "Application Test ID does not match the pending operation"
    else if operation.kind = .tick ∧ some message.tickNumber ≠ operation.tick then
      return some
        s!"expected tick {optionText operation.tick}, received tick {message.tickNumber}"
    else if (operation.kind = .start ∨ operation.kind = .abort) ∧
        some message.controlCommand ≠ operation.controlCommand then
      return some "Execution Control command does not match the request"
    else if operation.kind = .reset ∧
        some message.globalControlCommand ≠ operation.globalControlCommand then
      return some "Global Control command does not match the request"
    else return none

/-- An operation with the response that answers it. -/
def ApplicationOperation.answeredBy (operation : ApplicationOperation Wire)
    (message : ApplicationResponse) : ApplicationOperation Wire :=
  if message.outcome = operation.kind.successfulOutcome then
    { operation with responseReceived := true }
  else
    { operation with
      responseReceived := true
      responseError := some
        (s!"{operation.kind.name} was {message.outcome.nameLower}: " ++
          s!"{message.reason.name} (detail {message.detail})")
      responseOutcome := some message.outcome }

def handleApplicationResponse (message : ApplicationResponse) : Action Wire Unit := do
  match (← current).pendingOperation with
  | none => failWith "Received an Application Response with no matching request"
  | some operation =>
    match operation.kind.expectedScope with
    | none => failWith "Received an Application Response with no matching request"
    | some scope =>
      match ← obtainResult (responseMismatch operation scope message) with
      | some detail => failWith s!"Application Response correlation failed: {detail}"
      | none =>
        update fun connection ↦
          { connection with
            lastApplicationResponse := some message
            pendingOperation := some (operation.answeredBy message) }
        finishPendingOperationIfReady protocol

/-- Whether an error message belongs to the active upload. -/
def Connection.errorBelongsToActiveUpload (connection : Connection Wire)
    (message : ApplicationErrorMessage) : Except HilRigError Bool :=
  match connection.activeUpload, message.testId with
  | none, _ => return false
  | some _, none => return true
  | some upload, some testId => do
    return (← applicationTestIdFromBytes testId.bytes) == upload.uploadAttempt.applicationTestId

/-- Store an error message when a builder is bound and the message belongs to its upload. -/
def handleApplicationError (message : ApplicationErrorMessage)
    (submission : Except HilRigError Unit) : Action Wire (Option ApplicationErrorRecord) := do
  let connection ← current
  match connection.resultAdapter with
  | none => return none
  | some builder =>
    if ← obtainResult (connection.errorBelongsToActiveUpload message) then
      let record ← obtainResult (ingestApplicationError builder message submission)
      observe (.errorStored builder record)
      return some record
    else return none

def validateResultSequence (message : TestResult) : Action Wire Unit := do
  let connection ← current
  match connection.activeUpload, connection.executionStarted with
  | some upload, true =>
    let receivedTestId ← obtainResult (applicationTestIdFromBytes message.testId.bytes)
    if receivedTestId ≠ upload.uploadAttempt.applicationTestId then
      failWith "Received TestResult for a different Application Test ID"
    else if message.tickNumber ≠ connection.nextResultTick then
      failWith (s!"Expected TestResult tick {connection.nextResultTick}, " ++
        s!"received {message.tickNumber}")
    else return ()
  | _, _ => failWith "Received a TestResult before START completed"

/-- The connection after one more result was taken. -/
def Connection.countResult (connection : Connection Wire) : Connection Wire :=
  { connection with
    nextResultTick := connection.nextResultTick + 1
    workflowState :=
      match connection.activeUpload with
      | some upload =>
        if connection.nextResultTick + 1 = upload.configuration.expectedTickCount then
          .resultsComplete
        else connection.workflowState
      | none => connection.workflowState }

/-- Validate, store and count one result; without a builder it is only counted. -/
def handleTestResult (message : TestResult) (submission : Except HilRigError Unit) :
    Action Wire (Option TickResult) := do
  validateResultSequence message
  match (← current).resultAdapter with
  | none =>
    observe (.resultCounted message)
    update Connection.countResult
    return none
  | some builder =>
    let result ← obtainResult (ingestApplicationMessage builder message submission)
    observe (.tickStored builder result)
    observe (.resultCounted message)
    update Connection.countResult
    return some result

/-! ### Advancing, submitting, waiting -/

/-- The states of a Transport session that the host tells apart. -/
inductive SessionState
  | established
  | other
  deriving DecidableEq, Repr

def advanceWorkflow (session : SessionState) : Action Wire Unit := do
  let connection ← current
  if connection.pendingOperation.isSome ∨ session ≠ .established then return ()
  else if ¬connection.sessionConfirmed then
    let encoded ← obtainResult (protocol.encode buildSystemInfoRequest)
    activateOperation (discoveryOperation encoded)
  else
    match connection.uploadOperations with
    | next :: rest =>
      update fun connection ↦ { connection with uploadOperations := rest }
      activateOperation next
    | [] => return ()

end Codec

/-- Hand the pending operation's next message to the Transport; `status` is its answer. -/
def submitNextApplicationMessage (session : SessionState)
    (status : Except HilRigError TransportStatus) : Action Wire Bool := do
  let connection ← current
  match connection.pendingOperation with
  | none => return false
  | some operation =>
    match operation.encodedMessages[operation.nextMessageIndex]? with
    | none => return false
    | some encoded =>
      if connection.transportDeliveryPending ∨ session ≠ .established ∨
          (operation.kind ≠ .discovery ∧ ¬connection.sessionConfirmed) then
        return false
      else
        let status ← obtainResult status
        observe (.submitted encoded status)
        match status with
        | .ok =>
          update fun connection ↦
            { connection with
              transportDeliveryPending := true
              pendingOperation := some
                { operation with nextMessageIndex := operation.nextMessageIndex + 1 } }
          return true
        | .notReady => return false
        | .capacityExhausted => return false
        | status =>
          failWith s!"Could not submit Application message: Transport returned {status.name}"

def checkResponseTimeout : Action Wire Unit := do
  match (← current).pendingOperation with
  | none => return ()
  | some operation =>
    match operation.responseReceived, operation.responseDeadline with
    | false, some deadline =>
      let now ← monotonic
      if now < deadline then return ()
      else failWith s!"Timed out waiting for the {operation.kind.name} Application response"
    | _, _ => return ()

end HilRig.Protocol
