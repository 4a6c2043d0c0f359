import HilRig.Protocol.Service

/-!
# What one step can do to a connection

`Move` says once what the connection can do: every constructor is one atomic step of the handlers,
with everything its guards establish, the interaction it records and the connection it leaves.
`Finishes` does the same for finishing the pending operation, which three handlers end with. Every
method call is a finite path of moves (`Call.path`), so an invariant of runs is a property that each
move keeps (`run_preserves`).
-/

set_option autoImplicit false
set_option relaxedAutoImplicit false

namespace HilRig.Protocol

open HilRig.Models HilRig.Results HilRig.Foundations Relation

variable {Wire : Type}

/-! ### Guards -/

/-- Whether a result does not continue the active upload's results. -/
def Connection.refusesResult (connection : Connection Wire) (message : TestResult) : Bool :=
  match connection.activeUpload, connection.executionStarted with
  | some upload, true =>
    match applicationTestIdFromBytes message.testId.bytes with
    | .ok id =>
      id != upload.uploadAttempt.applicationTestId ||
        message.tickNumber != connection.nextResultTick
    | .error _ => false
  | _, _ => true

/-- Whether a response does not answer the pending operation. -/
def Connection.refusesResponse (connection : Connection Wire) (message : ApplicationResponse) :
    Bool :=
  match connection.pendingOperation with
  | none => true
  | some operation =>
    match operation.kind.expectedScope with
    | none => true
    | some scope =>
      match responseMismatch operation scope message with
      | .ok mismatch => mismatch.isSome
      | .error _ => false

/-- Whether system information is unexpected or of an incompatible version. -/
def Connection.refusesSystemInfo (protocol : NativeProtocol Wire) (connection : Connection Wire)
    (message : SystemInfoResponse) : Bool :=
  match connection.pendingOperation with
  | none => true
  | some operation =>
    if operation.kind = .discovery then
      match protocol.checkProtocolVersion message.protocolVersion with
      | .ok _ => false
      | .error _ => true
    else true

/-- Whether handling an inbound message fails the workflow by itself. -/
def Connection.refuses (protocol : NativeProtocol Wire) (connection : Connection Wire) :
    InboundMessage → Bool
  | .systemInfoResponse message => connection.refusesSystemInfo protocol message
  | .applicationResponse message => connection.refusesResponse message
  | .applicationErrorMessage _ => false
  | .testResult message => connection.refusesResult message
  | .other _ => true

/-- Statuses of a submission after which it is tried again later. -/
def TransportStatus.isRetry : TransportStatus → Bool
  | .notReady | .capacityExhausted => true
  | _ => false

/-- The operation a submission takes its message from, and that message. -/
def Connection.nextMessage (connection : Connection Wire) :
    Option (ApplicationOperation Wire × Wire) :=
  connection.pendingOperation.bind fun operation ↦
    operation.encodedMessages[operation.nextMessageIndex]?.map fun message ↦ (operation, message)

/-- Whether the pending operation may be submitted as far as the connection is concerned. -/
def Connection.maySubmit (connection : Connection Wire) (operation : ApplicationOperation Wire) :
    Prop :=
  connection.transportDeliveryPending = false ∧
    (operation.kind = .discovery ∨ connection.sessionConfirmed = true)

/-- An interaction that fails the workflow of a connection. -/
inductive Fails (protocol : NativeProtocol Wire) (connection : Connection Wire) :
    Interaction Wire → Prop
  | deliveryFailed : Fails protocol connection (.event .deliveryFailed)
  | protocolError : Fails protocol connection (.event .protocolError)
  | strayConfirmation
      (hstray : connection.pendingOperation = none ∨ connection.transportDeliveryPending = false) :
      Fails protocol connection (.event .deliveryConfirmed)
  | refused (message : InboundMessage) (hrefused : connection.refuses protocol message = true) :
      Fails protocol connection (.message message)
  | submission (operation : ApplicationOperation Wire) (message : Wire) (status : TransportStatus)
      (hnext : connection.nextMessage = some (operation, message))
      (hmay : connection.maySubmit operation) (hok : status ≠ .ok)
      (hretry : status.isRetry = false) :
      Fails protocol connection (.submitted message status)
  | processing (mode : OperatingMode) :
      Fails protocol connection (.processed mode .deliveryFailed)

/-- An interaction that a connection only records. -/
inductive Ignores (connection : Connection Wire) : Interaction Wire → Prop
  | startRequested : Ignores connection .startRequested
  | abortRequested : Ignores connection .abortRequested
  | resetRequested : Ignores connection .resetRequested
  | submission (operation : ApplicationOperation Wire) (message : Wire) (status : TransportStatus)
      (hnext : connection.nextMessage = some (operation, message))
      (hmay : connection.maySubmit operation) (hretry : status.isRetry = true) :
      Ignores connection (.submitted message status)
  | processing (mode : OperatingMode) (status : TransportStatus)
      (hstatus : status ≠ .deliveryFailed) : Ignores connection (.processed mode status)
  | event (name : String) : Ignores connection (.event (.other name))
  | message (message : InboundMessage) : Ignores connection (.message message)
  | errorStored (builder : BuilderHandle) (record : ApplicationErrorRecord) :
      Ignores connection (.errorStored builder record)

/-! ### Finishing the pending operation -/

/-- The connection after an operation whose success activates no other operation. -/
def Connection.complete (connection : Connection Wire) (operation : ApplicationOperation Wire) :
    Connection Wire :=
  match operation.kind with
  | .discovery => { connection with sessionConfirmed := true, workflowState := .ready }
  | .completeTest => { connection with uploadAccepted := true, workflowState := .readyToStart }
  | .start => { connection with executionStarted := true, workflowState := .running }
  | .abort => { connection.retireActiveUpload with workflowState := .aborted }
  | .reset => { connection.retireActiveUpload with workflowState := .ready }
  | .configuration | .tick => connection

/-- The connection without its pending operation. -/
def Connection.release (connection : Connection Wire) : Connection Wire :=
  { connection with pendingOperation := none }

/-- What finishing the pending operation can do. -/
inductive Finishes (protocol : NativeProtocol Wire) (ledger : Ledger Wire) : Ledger Wire → Prop
  | waiting
      (hwaiting : ∀ operation, ledger.connection.pendingOperation = some operation →
        ledger.connection.readyToFinish operation = false) :
      Finishes protocol ledger ledger
  | refused (operation : ApplicationOperation Wire)
      (hpending : ledger.connection.pendingOperation = some operation)
      (hready : ledger.connection.readyToFinish operation = true)
      (herror : operation.responseError.isSome) :
      Finishes protocol ledger
        (ledger.become (ledger.connection.release.handleNegativeResponse operation))
  | completed (operation : ApplicationOperation Wire)
      (hpending : ledger.connection.pendingOperation = some operation)
      (hready : ledger.connection.readyToFinish operation = true)
      (herror : operation.responseError = none) (hkind : operation.kind.isUpload = false) :
      Finishes protocol ledger (ledger.become (ledger.connection.release.complete operation))
  | continued (operation next : ApplicationOperation Wire)
      (rest : List (ApplicationOperation Wire))
      (hpending : ledger.connection.pendingOperation = some operation)
      (hready : ledger.connection.readyToFinish operation = true)
      (herror : operation.responseError = none) (hkind : operation.kind.isUpload = true)
      (hqueue : ledger.connection.uploadOperations = next :: rest) :
      Finishes protocol ledger
        ((ledger.become { ledger.connection.release with uploadOperations := rest }).activate next)
  | uploaded (operation : ApplicationOperation Wire) (deadline : ℕ)
      (hpending : ledger.connection.pendingOperation = some operation)
      (hready : ledger.connection.readyToFinish operation = true)
      (herror : operation.responseError = none) (hkind : operation.kind.isUpload = true)
      (hqueue : ledger.connection.uploadOperations = []) :
      Finishes protocol ledger
        ((ledger.become ledger.connection.release).activate
          (completeTestOperation operation.applicationTestId deadline))
  | startsImmediately (operation : ApplicationOperation Wire) (upload : FixedIOUploadMessages)
      (encoded : Wire)
      (hpending : ledger.connection.pendingOperation = some operation)
      (hready : ledger.connection.readyToFinish operation = true)
      (herror : operation.responseError = none) (hkind : operation.kind = .completeTest)
      (hactive : ledger.connection.activeUpload = some upload)
      (himmediate : upload.startMode = "IMMEDIATE")
      (hencoded : protocol.encode (buildStart upload.uploadAttempt) = .ok encoded) :
      Finishes protocol ledger
        ((ledger.become (ledger.connection.release.complete operation)).activate
          (startOperation upload.uploadAttempt.applicationTestId encoded))

/-! ### Moves -/

/-- The connection after the delivery of the pending operation's message was confirmed. -/
def Connection.confirmDelivery (connection : Connection Wire)
    (operation : ApplicationOperation Wire) (deadline : ℕ) : Connection Wire :=
  { connection with
    transportDeliveryPending := false
    uploadMessagesDelivered :=
      if operation.kind.isUpload then connection.uploadMessagesDelivered + 1
      else connection.uploadMessagesDelivered
    pendingOperation := some
      (if operation.everyMessageSubmitted then
        { operation with responseDeadline := some deadline } else operation) }

/-- What `handleSystemInfoResponse` stores of a response. -/
def informationOf (message : SystemInfoResponse) : RigSystemInfo where
  protocolVersion := versionText message.protocolVersion
  firmwareVersion := versionText message.firmwareVersion
  diagnosticData := message.diagnosticData
  firmwareGitHash := message.firmwareGitHash

/-- What a confirmation or a response of the pending operation does before it is finished. -/
inductive Handles (protocol : NativeProtocol Wire) (ledger : Ledger Wire) : Ledger Wire → Prop
  | confirmed (operation : ApplicationOperation Wire) (deadline : ℕ)
      (hpending : ledger.connection.pendingOperation = some operation)
      (hdelivery : ledger.connection.transportDeliveryPending = true) :
      Handles protocol ledger
        ((ledger.note (.event .deliveryConfirmed)).become
          (ledger.connection.confirmDelivery operation deadline))
  | described (operation : ApplicationOperation Wire) (message : SystemInfoResponse)
      (information : RigSystemInfo)
      (hpending : ledger.connection.pendingOperation = some operation)
      (hkind : operation.kind = .discovery)
      (hversion : protocol.checkProtocolVersion message.protocolVersion = .ok ())
      (hinformation : information = informationOf message) :
      Handles protocol ledger
        ((ledger.note (.message (.systemInfoResponse message))).become { ledger.connection with
          sessionInfo := some information
          pendingOperation := some { operation with responseReceived := true } })
  | answered (operation : ApplicationOperation Wire) (scope : ResponseScope)
      (message : ApplicationResponse)
      (hpending : ledger.connection.pendingOperation = some operation)
      (hscope : operation.kind.expectedScope = some scope)
      (hmatch : responseMismatch operation scope message = .ok none) :
      Handles protocol ledger
        ((ledger.note (.message (.applicationResponse message))).become { ledger.connection with
          lastApplicationResponse := some message
          pendingOperation := some (operation.answeredBy message) })

/-- One atomic step of a connection. -/
inductive Move (protocol : NativeProtocol Wire) (ledger : Ledger Wire) : Ledger Wire → Prop
  | serial (incoming : List UInt8) (output : Option (List UInt8)) (offset : ℕ) :
      Move protocol ledger (ledger.become { ledger.connection with
        incoming := incoming, pendingOutput := output, pendingOutputOffset := offset })
  | ignored (interaction : Interaction Wire)
      (hignored : Ignores ledger.connection interaction) :
      Move protocol ledger (ledger.note interaction)
  | failed (interaction : Interaction Wire)
      (hfails : Fails protocol ledger.connection interaction) :
      Move protocol ledger
        ((ledger.note interaction).become ledger.connection.failWorkflow)
  | timedOut (operation : ApplicationOperation Wire) (deadline : ℕ)
      (hpending : ledger.connection.pendingOperation = some operation)
      (hresponse : operation.responseReceived = false)
      (hdeadline : operation.responseDeadline = some deadline) :
      Move protocol ledger (ledger.become ledger.connection.failWorkflow)
  | bound (builder : BuilderHandle)
      (hfree : ledger.connection.resultAdapter = none ∨ ledger.connection.activeUpload = none)
      (hid : ∀ upload, ledger.connection.activeUpload = some upload →
        builder.applicationTestId = upload.uploadAttempt.applicationTestId) :
      Move protocol ledger
        (ledger.become { ledger.connection with resultAdapter := some builder })
  | queued (compiledTest : CompiledTestIR) (attempt : Option UploadAttempt)
      (draws : List (Fin (2 ^ 128))) (upload : FixedIOUploadMessages) (encoded : List Wire)
      (hactive : ledger.connection.activeUpload = none)
      (hqueue : ledger.connection.uploadOperations = [])
      (hpending : ∀ operation, ledger.connection.pendingOperation = some operation →
        operation.kind = .discovery)
      (hupload : buildUpload compiledTest attempt draws = .ok upload)
      (hfresh : upload.uploadAttempt.applicationTestId ∉
        ledger.connection.retiredApplicationTestIds)
      (hbuilder : ∀ builder, ledger.connection.resultAdapter = some builder →
        builder.applicationTestId = upload.uploadAttempt.applicationTestId ∧
          builder.testId = compiledTest.testId)
      (hencoded : encodeUpload protocol upload = .ok encoded) :
      Move protocol ledger
        ((ledger.note (.uploadQueued compiledTest upload encoded)).become
          (ledger.connection.enqueueUpload upload encoded))
  | starting (upload : FixedIOUploadMessages) (encoded : Wire)
      (hactive : ledger.connection.activeUpload = some upload)
      (haccepted : ledger.connection.uploadAccepted = true)
      (hstate : ledger.connection.workflowState = .readyToStart)
      (hpending : ledger.connection.pendingOperation = none)
      (hdelivery : ledger.connection.transportDeliveryPending = false)
      (hencoded : protocol.encode (buildStart upload.uploadAttempt) = .ok encoded)
      (htrigger : upload.startMode ≠ "EXTERNAL_TRIGGER") :
      Move protocol ledger
        ((ledger.note .startRequested).activate
          (startOperation upload.uploadAttempt.applicationTestId encoded))
  | aborting (upload : FixedIOUploadMessages) (encoded : Wire)
      (hactive : ledger.connection.activeUpload = some upload)
      (hpending : ledger.connection.pendingOperation = none)
      (hdelivery : ledger.connection.transportDeliveryPending = false)
      (hencoded : protocol.encode (buildAbort upload.uploadAttempt) = .ok encoded) :
      Move protocol ledger
        ((ledger.note .abortRequested).activate
          (abortOperation upload.uploadAttempt.applicationTestId encoded
            ledger.connection.workflowState))
  | resetting (encoded : Wire)
      (hconfirmed : ledger.connection.sessionConfirmed = true)
      (hpending : ledger.connection.pendingOperation = none)
      (hdelivery : ledger.connection.transportDeliveryPending = false)
      (hencoded : protocol.encode buildResetApplication = .ok encoded) :
      Move protocol ledger
        ((ledger.note .resetRequested).activate
          (resetOperation encoded ledger.connection.workflowState))
  | discovering (encoded : Wire)
      (hpending : ledger.connection.pendingOperation = none)
      (hconfirmed : ledger.connection.sessionConfirmed = false)
      (hencoded : protocol.encode buildSystemInfoRequest = .ok encoded) :
      Move protocol ledger (ledger.activate (discoveryOperation encoded))
  | advancing (next : ApplicationOperation Wire) (rest : List (ApplicationOperation Wire))
      (hpending : ledger.connection.pendingOperation = none)
      (hconfirmed : ledger.connection.sessionConfirmed = true)
      (hqueue : ledger.connection.uploadOperations = next :: rest) :
      Move protocol ledger
        ((ledger.become { ledger.connection with uploadOperations := rest }).activate next)
  | submitted (operation : ApplicationOperation Wire) (message : Wire)
      (hnext : ledger.connection.nextMessage = some (operation, message))
      (hmay : ledger.connection.maySubmit operation) :
      Move protocol ledger
        ((ledger.note (.submitted message .ok)).become { ledger.connection with
          transportDeliveryPending := true
          pendingOperation := some
            { operation with nextMessageIndex := operation.nextMessageIndex + 1 } })
  | handled (middle after : Ledger Wire) (hhandles : Handles protocol ledger middle)
      (hfinishes : Finishes protocol middle after) :
      Move protocol ledger after
  | counted (message : TestResult)
      (hexpected : ledger.connection.refusesResult message = false)
      (hid : ∃ id, applicationTestIdFromBytes message.testId.bytes = .ok id)
      (hunbound : ledger.connection.resultAdapter = none) :
      Move protocol ledger
        (((ledger.note (.message (.testResult message))).note (.resultCounted message)).become
          ledger.connection.countResult)
  | stored (message : TestResult) (builder : BuilderHandle) (submission : Except HilRigError Unit)
      (result : TickResult)
      (hexpected : ledger.connection.refusesResult message = false)
      (hid : ∃ id, applicationTestIdFromBytes message.testId.bytes = .ok id)
      (hbound : ledger.connection.resultAdapter = some builder)
      (hingested : ingestApplicationMessage builder message submission = .ok result) :
      Move protocol ledger
        ((((ledger.note (.message (.testResult message))).note
          (.tickStored builder result)).note (.resultCounted message)).become
            ledger.connection.countResult)
  | invalidated :
      Move protocol ledger
        ((ledger.note (.event .sessionReset)).become ledger.connection.invalidateSession)
  | established :
      Move protocol ledger
        ((ledger.note (.event .sessionEstablished)).become { ledger.connection with
          sessionConfirmed := false, sessionInfo := none, workflowState := .connecting })

/-! ### Steps -/

/-- The connection after `close`, by the Transport's answer to being closed. -/
def Connection.closeWith (connection : Connection Wire) (answer : Except HilRigError Unit) :
    Connection Wire :=
  { connection.quiesce with closed := answer.isOk }

/-- One step of an open connection: a move, or closing it. -/
inductive Step (protocol : NativeProtocol Wire) (ledger : Ledger Wire) : Ledger Wire → Prop
  | moved (after : Ledger Wire) (hopen : ledger.connection.closed = false)
      (hmove : Move protocol ledger after) : Step protocol ledger after
  | closing (answer : Except HilRigError Unit) (hopen : ledger.connection.closed = false) :
      Step protocol ledger
        ((ledger.note (.closing answer)).become (ledger.connection.closeWith answer))

theorem Step.isOpen {protocol : NativeProtocol Wire} {before after : Ledger Wire}
    (hstep : Step protocol before after) : before.connection.closed = false := by
  cases hstep with
  | moved after hopen hmove => exact hopen
  | closing answer hopen => exact hopen

/-! ### Moves leave a connection open -/

theorem closed_of_finishes {protocol : NativeProtocol Wire} {before after : Ledger Wire}
    (hfinishes : Finishes protocol before after) :
    after.connection.closed = before.connection.closed := by
  cases hfinishes with
  | refused operation hpending hready herror =>
    simp only [Ledger.become_connection, Connection.handleNegativeResponse]
    cases operation.kind <;> simp only <;> first | rfl | (split <;> rfl)
  | completed operation hpending hready herror hkind =>
    simp only [Ledger.become_connection, Connection.complete]
    cases operation.kind <;> rfl
  | startsImmediately operation upload encoded hpending hready herror hkind hactive himmediate
      hencoded =>
    simp only [Ledger.activate_connection, Ledger.become_connection, Connection.complete, hkind]
    rfl
  | _ => rfl

/-- A move neither closes a connection nor opens it. -/
theorem closed_of_move {protocol : NativeProtocol Wire} {before after : Ledger Wire}
    (hmove : Move protocol before after) :
    after.connection.closed = before.connection.closed := by
  cases hmove with
  | handled middle after hhandles hfinishes =>
    have hmiddle : middle.connection.closed = before.connection.closed := by
      cases hhandles <;> rfl
    exact (closed_of_finishes hfinishes).trans hmiddle
  | _ => rfl

end HilRig.Protocol
