import HilRig.Protocol.Connection

/-!
# Service passes, requests and runs

`service` is one bounded pass: read the serial port, offer the bytes to the Transport, process it,
drain its events and messages, advance, submit at most one message, and write output. What the
serial port, the Transport and the builder answer in one pass is a `ServicePass`; the answers are
arbitrary. A `Call` is one method call with everything its environment answers, and `run` is the
host after a list of calls, each of which may have raised.
-/

set_option autoImplicit false
set_option relaxedAutoImplicit false

namespace HilRig.Protocol

open HilRig.Models HilRig.Results HilRig.Foundations

/-! ### What the environment answers -/

/-- The answer to one offer of received bytes. -/
structure ReceiveResult where
  bytesConsumed : ℕ
  status : TransportStatus

/-- One inbound frame, with the answer of the bound builder should its content be stored. -/
structure Frame (Wire : Type) where
  encoded : Wire
  submission : Except HilRigError Unit := .ok ()

/-- The events and frames one drain finds. -/
structure DrainScript (Wire : Type) where
  events : List EventType := []
  frames : List (Frame Wire) := []

/-- The answers one service pass receives, in the order it asks for them. -/
structure ServicePass (Wire : Type) where
  operatingMode : Option OperatingMode := none
  inWaiting : Except HilRigError ℤ := .ok 0
  received : Except HilRigError (List UInt8) := .ok []
  offers : List (Except HilRigError ReceiveResult) := [.ok ⟨0, .ok⟩]
  firstProcess : Except HilRigError TransportStatus := .ok .ok
  firstDrain : DrainScript Wire := {}
  firstSession : SessionState := .established
  submitSession : SessionState := .established
  submitStatus : Except HilRigError TransportStatus := .ok .notReady
  secondProcess : Except HilRigError TransportStatus := .ok .ok
  output : Except HilRigError (Option (List UInt8)) := .ok none
  written : Except HilRigError ℤ := .ok 0
  commitStatus : Except HilRigError TransportStatus := .ok .ok
  secondDrain : DrainScript Wire := {}
  secondSession : SessionState := .established

/-- What one drain returns. -/
structure Drained where
  events : List EventType := []
  applicationMessages : List InboundMessage := []
  storedTickResults : List TickResult := []
  storedApplicationErrors : List ApplicationErrorRecord := []

/-- Work completed by one service pass. -/
structure ProtocolServiceReport where
  events : List EventType
  applicationMessages : List InboundMessage
  storedTickResults : List TickResult
  storedApplicationErrors : List ApplicationErrorRecord
  serialBytesRead : ℕ
  serialBytesWritten : ℕ
  applicationMessageSubmitted : Bool
  workflowState : WorkflowState

section Service

variable {Wire : Type}

/-! ### Serial input -/

def readSerial (inWaiting : Except HilRigError ℤ) (received : Except HilRigError (List UInt8)) :
    Action Wire ℕ := do
  let waiting ← obtainResult inWaiting
  if waiting < 0 then throw (.session "Serial in_waiting returned an invalid byte count")
  else if waiting = 0 then return 0
  else
    match received with
    | .error _ => throw (.session "Could not read from the HIL-RIG serial port")
    | .ok data =>
      update fun connection ↦ { connection with incoming := connection.incoming ++ data }
      return data.length

/-- Offer the received bytes until the Transport wants no more, or all of them are consumed. -/
def offerReceived : List (Except HilRigError ReceiveResult) → Action Wire Unit
  | [] => throw .stalled
  | answer :: answers => do
    let result ← obtainResult answer
    update fun connection ↦
      { connection with incoming := connection.incoming.drop result.bytesConsumed }
    match result.status with
    | .notReady => return ()
    | .capacityExhausted => return ()
    | .ok => if (← current).incoming = [] then return () else offerReceived answers
    | status =>
      throw (.session s!"Transport receive returned unexpected status {status.name}")

/-! ### Transport passes and output -/

def processTransport (mode : OperatingMode) (answer : Except HilRigError TransportStatus) :
    Action Wire Unit := do
  let status ← obtainResult answer
  observe (.processed mode status)
  match status with
  | .deliveryFailed => failWith "Transport reported reliable delivery failure"
  | _ => return ()

/-- The mode a pass without a requested mode runs in. -/
def Connection.defaultOperatingMode (connection : Connection Wire) : OperatingMode :=
  if connection.uploadOperations ≠ [] ∨ connection.transportDeliveryPending ∨
      connection.pendingOperation.any fun operation ↦ operation.kind.isUpload then
    .bulkTransfer
  else .normal

def clearPendingOutput : Action Wire Unit :=
  update fun connection ↦ { connection with pendingOutput := none, pendingOutputOffset := 0 }

/-- Refill the pending output from the Transport when there is none. -/
def peekOutput (output : Except HilRigError (Option (List UInt8))) : Action Wire Unit := do
  if (← current).pendingOutput.isNone then
    let frame ← obtainResult output
    update fun connection ↦
      { connection with pendingOutput := frame, pendingOutputOffset := 0 }
  else return ()

def serviceOutput (output : Except HilRigError (Option (List UInt8)))
    (written : Except HilRigError ℤ) (commitStatus : Except HilRigError TransportStatus) :
    Action Wire ℕ := do
  peekOutput output
  let connection ← current
  match connection.pendingOutput with
  | none => return 0
  | some frame =>
    match written with
    | .error _ => throw (.session "Could not write to the HIL-RIG serial port")
    | .ok accepted =>
      if accepted < 0 ∨ frame.length - connection.pendingOutputOffset < accepted then
        throw (.session "Serial write accepted an invalid byte count")
      else
        update fun connection ↦
          { connection with
            pendingOutputOffset := connection.pendingOutputOffset + accepted.toNat }
        if connection.pendingOutputOffset + accepted.toNat = frame.length then
          clearPendingOutput
          let status ← obtainResult commitStatus
          if status ≠ .ok ∧ status ≠ .notReady then
            throw (.session s!"Transport output commit returned {status.name}")
          else return accepted.toNat
        else return accepted.toNat

section Codec

variable (protocol : NativeProtocol Wire)

/-! ### Draining -/

/-- The part of a drain's result that one message contributes. -/
def handleMessage (message : InboundMessage) (submission : Except HilRigError Unit) :
    Action Wire Drained := do
  observe (.message message)
  match message with
  | .systemInfoResponse response =>
    handleSystemInfoResponse protocol response
    return { applicationMessages := [message] }
  | .applicationResponse response =>
    handleApplicationResponse protocol response
    return { applicationMessages := [message] }
  | .applicationErrorMessage error =>
    let record ← handleApplicationError error submission
    return { applicationMessages := [message], storedApplicationErrors := record.toList }
  | .testResult result =>
    let stored ← handleTestResult result submission
    return { applicationMessages := [message], storedTickResults := stored.toList }
  | .other typeName =>
    failWith s!"Unexpected inbound Application message: {typeName}"

def Drained.append (first second : Drained) : Drained where
  events := first.events ++ second.events
  applicationMessages := first.applicationMessages ++ second.applicationMessages
  storedTickResults := first.storedTickResults ++ second.storedTickResults
  storedApplicationErrors := first.storedApplicationErrors ++ second.storedApplicationErrors

def drainEvents : List EventType → Action Wire Unit
  | [] => return ()
  | type :: types => do
    handleEvent protocol type
    drainEvents types

def drainFrames : List (Frame Wire) → Action Wire Drained
  | [] => return {}
  | frame :: frames => do
    let message ← obtainResult (protocol.decode frame.encoded)
    let drained ← handleMessage protocol message frame.submission
    let later ← drainFrames frames
    return drained.append later

def drain (script : DrainScript Wire) : Action Wire Drained := do
  drainEvents protocol script.events
  let drained ← drainFrames protocol script.frames
  return { drained with events := script.events }

/-! ### One service pass -/

/-- The end of a pass, from its output on: what was read, drained and submitted before is only
reported. -/
def completePass (pass : ServicePass Wire) (bytesRead : ℕ) (drained : Drained)
    (submitted : Bool) : Action Wire ProtocolServiceReport := do
  let bytesWritten ← serviceOutput pass.output pass.written pass.commitStatus
  let more ← drain protocol pass.secondDrain
  advanceWorkflow protocol pass.secondSession
  checkResponseTimeout
  let connection ← current
  return {
    events := drained.events ++ more.events
    applicationMessages := drained.applicationMessages ++ more.applicationMessages
    storedTickResults := drained.storedTickResults ++ more.storedTickResults
    storedApplicationErrors := drained.storedApplicationErrors ++ more.storedApplicationErrors
    serialBytesRead := bytesRead
    serialBytesWritten := bytesWritten
    applicationMessageSubmitted := submitted
    workflowState := connection.workflowState }

def service (pass : ServicePass Wire) : Action Wire ProtocolServiceReport := do
  requireOpen
  let bytesRead ← readSerial pass.inWaiting pass.received
  offerReceived pass.offers
  let mode := pass.operatingMode.getD (← current).defaultOperatingMode
  processTransport mode pass.firstProcess
  let drained ← drain protocol pass.firstDrain
  advanceWorkflow protocol pass.firstSession
  checkResponseTimeout
  let submitted ← submitNextApplicationMessage pass.submitSession pass.submitStatus
  if submitted then
    processTransport mode pass.secondProcess
    completePass protocol pass bytesRead drained submitted
  else completePass protocol pass bytesRead drained submitted

/-! ### Requests of the caller -/

/-- Bind result storage, optionally replacing an abandoned attempt. -/
def bindResultBuilder (builder : BuilderHandle) (replace : Bool) : Action Wire Unit := do
  requireOpen
  let connection ← current
  if connection.resultAdapter.isSome ∧ ¬replace then
    throw (.session ("A captured-run builder is already bound; pass replace=True after " ++
      "finalizing an abandoned attempt"))
  else if connection.resultAdapter.isSome ∧ connection.activeUpload.isSome then
    throw (.session "Cannot replace the captured-run builder while an upload is active")
  else if connection.activeUpload.isSome ∧
      some builder.applicationTestId ≠ connection.activeId then
    throw (.value "builder Application Test ID does not match the active upload")
  else
    update fun connection ↦ { connection with resultAdapter := some builder }

/-- The attempt an upload is queued with: the caller's, or one for the bound builder. -/
def chooseUploadAttempt (compiledTest : CompiledTestIR) (uploadAttempt : Option UploadAttempt)
    (builder : Option BuilderHandle) : Except HilRigError (Option UploadAttempt) :=
  match uploadAttempt, builder with
  | none, some builder =>
    some <$> UploadAttempt.ofIds compiledTest.testId builder.applicationTestId
  | attempt, _ => .ok attempt

/-- Whether a bound builder was made for other identifiers. -/
def builderMismatch (compiledTest : CompiledTestIR) (upload : FixedIOUploadMessages)
    (builder : Option BuilderHandle) : Bool :=
  builder.any fun builder ↦
    upload.uploadAttempt.applicationTestId ≠ builder.applicationTestId ∨
      compiledTest.testId ≠ builder.testId

/-- The connection with an encoded upload queued. -/
def Connection.enqueueUpload (connection : Connection Wire) (upload : FixedIOUploadMessages)
    (encoded : List Wire) : Connection Wire :=
  { connection with
    uploadOperations := connection.uploadOperations ++ uploadOperationsOf upload encoded
    activeUpload := some upload
    uploadMessageCount := encoded.length
    uploadMessagesDelivered := 0
    uploadAccepted := false
    executionStarted := false
    nextResultTick := 0 }

def queueUpload (compiledTest : CompiledTestIR) (uploadAttempt : Option UploadAttempt)
    (draws : List (Fin (2 ^ 128))) (session : SessionState) : Action Wire UploadAttempt := do
  requireOpen
  let connection ← current
  if connection.activeUpload.isSome ∨ connection.uploadOperations ≠ [] then
    throw (.session "An Application upload is already active")
  else if connection.pendingOperation.any fun operation ↦ operation.kind ≠ .discovery then
    throw (.session "Another Application operation is already in progress")
  else
    let attempt ← obtainResult
      (chooseUploadAttempt compiledTest uploadAttempt connection.resultAdapter)
    let upload ← obtainResult (buildUpload compiledTest attempt draws)
    if upload.uploadAttempt.applicationTestId ∈ connection.retiredApplicationTestIds then
      throw (.value ("upload_attempt reuses an abandoned Application Test ID; restart the " ++
        "UploadAttempt and bind a builder for the fresh ID"))
    else if builderMismatch compiledTest upload connection.resultAdapter then
      throw (.value ("upload attempt does not match the captured-run builder's definition " ++
        "and Application Test IDs"))
    else
      let encoded ← obtainResult (encodeUpload protocol upload)
      observe (.uploadQueued compiledTest upload encoded)
      update fun connection ↦ connection.enqueueUpload upload encoded
      advanceWorkflow protocol session
      return upload.uploadAttempt

/-- Queue START after a complete test was accepted. -/
def start : Action Wire Unit := do
  requireOpen
  observe .startRequested
  let connection ← current
  match connection.activeUpload with
  | none => throw (.session "No accepted upload is ready to start")
  | some upload =>
    if ¬connection.uploadAccepted ∨ connection.workflowState ≠ .readyToStart then
      throw (.session "No accepted upload is ready to start")
    else if upload.startMode = "EXTERNAL_TRIGGER" then
      throw (.session "EXTERNAL_TRIGGER has no protocol implementation")
    else
      requireNoPendingOperation
      queueStart protocol

/-- Queue a test-scoped ABORT request for the active upload attempt. -/
def abort : Action Wire Unit := do
  requireOpen
  observe .abortRequested
  let connection ← current
  match connection.activeUpload with
  | none => throw (.session "There is no active upload to abort")
  | some upload =>
    requireNoPendingOperation
    let encoded ← obtainResult (protocol.encode (buildAbort upload.uploadAttempt))
    activateOperation
      (abortOperation upload.uploadAttempt.applicationTestId encoded connection.workflowState)

/-- Queue a test-independent Application reset without resetting the Transport. -/
def resetApplication : Action Wire Unit := do
  requireOpen
  observe .resetRequested
  let connection ← current
  if ¬connection.sessionConfirmed then
    throw (.session "Application compatibility has not been confirmed")
  else
    requireNoPendingOperation
    let encoded ← obtainResult (protocol.encode buildResetApplication)
    activateOperation (resetOperation encoded connection.workflowState)

/-- The connection after everything it holds was dropped. -/
def Connection.quiesce (connection : Connection Wire) : Connection Wire :=
  { connection with
    incoming := []
    pendingOutput := none
    pendingOutputOffset := 0
    uploadOperations := []
    pendingOperation := none
    transportDeliveryPending := false }

/-- Quiesce serial state and release the Transport; `answer` is its answer to being closed. -/
def close (answer : Except HilRigError Unit) : Action Wire Unit := do
  if (← current).closed then return ()
  else
    observe (.closing answer)
    update Connection.quiesce
    obtainResult answer
    update fun connection ↦ { connection with closed := true }

end Codec

end Service

/-! ### Runs -/

/-- One method call with the answers of its environment. -/
inductive Call (Wire : Type)
  | bindResultBuilder (builder : BuilderHandle) (replace : Bool)
  | queueUpload (compiledTest : CompiledTestIR) (uploadAttempt : Option UploadAttempt)
      (draws : List (Fin (2 ^ 128))) (session : SessionState)
  | start
  | abort
  | resetApplication
  | service (pass : ServicePass Wire)
  | close (answer : Except HilRigError Unit)

section Runs

variable {Wire : Type} (protocol : NativeProtocol Wire)

/-- The host after one call, whether it returned or raised. -/
def Call.after (call : Call Wire) (host : Host Wire) : Host Wire :=
  match call with
  | .bindResultBuilder builder replace =>
    finalState (Protocol.bindResultBuilder builder replace) host
  | .queueUpload compiledTest uploadAttempt draws session =>
    finalState (Protocol.queueUpload protocol compiledTest uploadAttempt draws session) host
  | .start => finalState (Protocol.start protocol) host
  | .abort => finalState (Protocol.abort protocol) host
  | .resetApplication => finalState (Protocol.resetApplication protocol) host
  | .service pass => finalState (Protocol.service protocol pass) host
  | .close answer => finalState (Protocol.close answer) host

/-- The host after a list of calls. -/
def run (host : Host Wire) (calls : List (Call Wire)) : Host Wire :=
  calls.foldl (fun host call ↦ call.after protocol host) host

/-- A new connection, with its response timeout, its clock and the builder it is made with. -/
def Host.create (timeout : ℕ) (clock : ℕ → ℕ) (builder : Option BuilderHandle) : Host Wire where
  connection := { resultAdapter := builder, applicationResponseTimeout := timeout }
  clock := clock

end Runs

/-! ### A concrete codec and test -/

/-- A codec whose wire messages are the values themselves. -/
def directCodec : NativeProtocol (OutboundMessage ⊕ InboundMessage) where
  encode message := .ok (.inl message)
  decode
    | .inr message => .ok message
    | .inl _ => .error (.value "The message is not an inbound one")
  checkProtocolVersion _ := .ok ()

/-- A two-tick test of one digital input. -/
def digitalInputTest (startMode : StartMode) : CompiledTestIR where
  testId := 1
  name := "Digital input"
  frequencyMode := "HZ_1K"
  frequencyHz := 1000
  expectedTickCount := 2
  startMode := startMode.name
  configurations := [⟨"digital_input", 0, [("voltage", .str "V3_3")]⟩]
  instructions := []
  assertions := []
  timeSlots := []
  frequencyHz_pos := by decide

/-- Information about a rig. -/
def rigInformation : SystemInfoResponse where
  protocolVersion := ⟨1, 0, 0⟩
  firmwareVersion := ⟨1, 0, 0⟩
  diagnosticData := []
  firmwareGitHash := []

/-- Discovery, and an upload whose configuration is submitted. -/
def connectedCalls (startMode : StartMode) : List (Call (OutboundMessage ⊕ InboundMessage)) :=
  [.service { submitStatus := .ok .ok },
    .service { firstDrain :=
      ⟨[.deliveryConfirmed], [⟨.inr (.systemInfoResponse rigInformation), .ok ()⟩]⟩ },
    .queueUpload (digitalInputTest startMode) none [7] .established,
    .service { submitStatus := .ok .ok }]

def attemptTestId : TestId := ⟨List.replicate 15 0 ++ [7]⟩

/-- A response for the test of the concrete runs. -/
def responseFrame (scope : ResponseScope) (outcome : ResponseOutcome) (command : ControlCommand) :
    Frame (OutboundMessage ⊕ InboundMessage) :=
  ⟨.inr (.applicationResponse
    { testId := some attemptTestId, scope := scope, outcome := outcome,
      controlCommand := command }),
    .ok ()⟩

end HilRig.Protocol
