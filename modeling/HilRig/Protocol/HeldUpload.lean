import HilRig.Foundations.Tracing
import HilRig.Protocol.UploadContract

/-!
# What a service pass holds on to

A service pass may drop the active upload, and puts no other one in its place; it may read the
clock, and does not turn it back. `Holding clock start upload` says so of a host, and every handler
of a pass maintains it (`Maintains.service`). The handlers are followed one by one, as for the moves
they make.
-/

set_option autoImplicit false
set_option relaxedAutoImplicit false

namespace HilRig.Protocol

open HilRig.Models HilRig.Results HilRig.Foundations

variable {Wire : Type} {α β : Type}

/-- The clock is the given one, it was read at least so often, and no other upload is active. -/
structure Holding (clock : ℕ → ℕ) (start : ℕ) (upload : FixedIOUploadMessages)
    (host : Host Wire) : Prop where
  clock_eq : host.clock = clock
  start_le : start ≤ host.readings
  active_eq : ∀ active, host.connection.activeUpload = some active → active = upload

/-- A change of a connection that puts no upload in the place of the active one. -/
def KeepsUpload (change : Connection Wire → Connection Wire) : Prop :=
  ∀ connection : Connection Wire, (change connection).activeUpload = connection.activeUpload ∨
    (change connection).activeUpload = none

theorem KeepsUpload.of_eq {change : Connection Wire → Connection Wire}
    (hchange : ∀ connection, (change connection).activeUpload = connection.activeUpload) :
    KeepsUpload change :=
  fun connection ↦ .inl (hchange connection)

theorem KeepsUpload.handleNegativeResponse (operation : ApplicationOperation Wire) :
    KeepsUpload fun connection ↦ connection.handleNegativeResponse operation := by
  intro connection
  by_cases hrejected : operation.responseOutcome = some .rejected
  · cases hkind : operation.kind <;>
      simp [Connection.handleNegativeResponse, hkind, hrejected, Connection.retireActiveUpload,
        Connection.clearActiveTransaction, Connection.failWorkflow]
  · cases hkind : operation.kind <;>
      simp [Connection.handleNegativeResponse, hkind, hrejected, Connection.retireActiveUpload,
        Connection.clearActiveTransaction, Connection.failWorkflow]

section Handlers

variable {clock : ℕ → ℕ} {start : ℕ} {upload : FixedIOUploadMessages}

/-- Every outcome of a computation of the host holds on to what the host holds on to. -/
def Holds (clock : ℕ → ℕ) (start : ℕ) (upload : FixedIOUploadMessages)
    (action : Action Wire α) : Prop :=
  Maintains (Holding clock start upload) action

theorem Holds.pure (value : α) : Holds clock start upload (pure value : Action Wire α) :=
  Maintains.pure value

theorem Holds.throw (error : HilRigError) :
    Holds clock start upload (throw error : Action Wire α) :=
  Maintains.throw error

theorem Holds.bind {first : Action Wire α} {rest : α → Action Wire β}
    (hfirst : Holds clock start upload first)
    (hrest : ∀ value, Holds clock start upload (rest value)) :
    Holds clock start upload (first >>= rest) :=
  Maintains.bind hfirst hrest

theorem Holds.ite {condition : Prop} [Decidable condition] {first second : Action Wire α}
    (hfirst : Holds clock start upload first) (hsecond : Holds clock start upload second) :
    Holds clock start upload (if condition then first else second) :=
  Maintains.ite hfirst hsecond

/-- What a computation that returned still holds on to. -/
theorem Holds.of_ok {action : Action Wire α} {host after : Host Wire} {value : α}
    (hholds : Holds clock start upload action) (hrun : action host = .ok value after)
    (hholding : Holding clock start upload host) : Holding clock start upload after := by
  have hfinal := hholds host hholding
  rwa [finalState_of_ok hrun] at hfinal

/-! ### Primitive effects -/

theorem Holds.current : Holds clock start upload (current : Action Wire (Connection Wire)) :=
  fun _ hhost ↦ hhost

theorem Holds.update {change : Connection Wire → Connection Wire} (hchange : KeepsUpload change) :
    Holds clock start upload (update change) := by
  rintro host ⟨hclock, hstart, hactive⟩
  refine ⟨hclock, hstart, fun active hchanged ↦ ?_⟩
  rw [finalState_update, Host.change_connection] at hchanged
  rcases hchange host.connection with hkept | hdropped
  · exact hactive active (hkept ▸ hchanged)
  · rw [hdropped] at hchanged
    cases hchanged

/-- A change that does not touch the active upload. -/
theorem Holds.update_of_eq {change : Connection Wire → Connection Wire}
    (hchange : ∀ connection, (change connection).activeUpload = connection.activeUpload) :
    Holds clock start upload (Protocol.update change) :=
  .update (.of_eq hchange)

theorem Holds.observe (interaction : Interaction Wire) :
    Holds clock start upload (observe interaction) :=
  fun _ hhost ↦ ⟨hhost.clock_eq, hhost.start_le, hhost.active_eq⟩

theorem Holds.monotonic : Holds clock start upload (monotonic : Action Wire ℕ) :=
  fun _ hhost ↦ ⟨hhost.clock_eq, Nat.le_succ_of_le hhost.start_le, hhost.active_eq⟩

theorem Holds.obtainResult (result : Except HilRigError α) :
    Holds clock start upload (obtainResult result : Action Wire α) := by
  cases result with
  | ok value => exact .pure value
  | error error => exact .throw error

theorem Holds.failWith (text : String) : Holds clock start upload (failWith text : Action Wire α) :=
  .bind (.update_of_eq fun _ ↦ rfl) fun _ ↦ .throw _

theorem Holds.requireOpen : Holds clock start upload (requireOpen : Action Wire Unit) :=
  .bind .current fun _ ↦ .ite (.throw _) (.pure ())

/-! ### Finishing -/

theorem Holds.activateOperation (operation : ApplicationOperation Wire) :
    Holds clock start upload (activateOperation operation) :=
  .bind .current fun _ ↦ .ite (.throw _)
    (.bind (.observe _) fun _ ↦ .update_of_eq fun _ ↦ rfl)

variable (protocol : NativeProtocol Wire)

theorem Holds.queueStart : Holds clock start upload (queueStart protocol) := by
  refine .bind .current fun connection ↦ ?_
  cases connection.activeUpload with
  | none => exact .throw _
  | some active => exact .bind (.obtainResult _) fun _ ↦ .activateOperation _

theorem Holds.continueUpload (operation : ApplicationOperation Wire) :
    Holds clock start upload (continueUpload operation) := by
  refine .bind .current fun connection ↦ ?_
  cases connection.uploadOperations with
  | nil => exact .bind .monotonic fun _ ↦ .activateOperation _
  | cons next rest => exact .bind (.update_of_eq fun _ ↦ rfl) fun _ ↦ .activateOperation _

theorem Holds.acceptUpload : Holds clock start upload (acceptUpload protocol) := by
  refine .bind (.update_of_eq fun _ ↦ rfl) fun _ ↦ .bind .current fun connection ↦ ?_
  cases connection.activeUpload with
  | none => exact .pure ()
  | some active => exact .ite (.queueStart protocol) (.pure ())

theorem Holds.completeOperation (operation : ApplicationOperation Wire) :
    Holds clock start upload (completeOperation protocol operation) := by
  unfold Protocol.completeOperation
  cases operation.kind with
  | discovery => exact .update_of_eq fun _ ↦ rfl
  | configuration => exact .continueUpload operation
  | tick => exact .continueUpload operation
  | completeTest => exact .acceptUpload protocol
  | start => exact .update_of_eq fun _ ↦ rfl
  | abort => exact .update fun _ ↦ .inr rfl
  | reset => exact .update fun _ ↦ .inr rfl

theorem Holds.finishPendingOperationIfReady :
    Holds clock start upload (finishPendingOperationIfReady protocol) := by
  refine .bind .current fun connection ↦ ?_
  cases connection.pendingOperation with
  | none => exact .pure ()
  | some operation =>
    refine .ite (.bind (.update_of_eq fun _ ↦ rfl) fun _ ↦ ?_) (.pure ())
    cases operation.responseError with
    | none => exact .completeOperation protocol operation
    | some error => exact .bind (.update (.handleNegativeResponse operation)) fun _ ↦ .throw _

/-! ### Transport events -/

theorem Holds.handleDeliveryConfirmed :
    Holds clock start upload (handleDeliveryConfirmed protocol) := by
  refine .bind .current fun connection ↦ ?_
  split
  · refine .bind (.update_of_eq fun _ ↦ rfl) fun _ ↦ .ite ?_ (.finishPendingOperationIfReady _)
    exact .bind .monotonic fun _ ↦ .bind (.update_of_eq fun _ ↦ rfl) fun _ ↦
      .finishPendingOperationIfReady protocol
  · exact .failWith _

theorem Holds.handleEvent (type : EventType) :
    Holds clock start upload (handleEvent protocol type) := by
  refine .bind (.observe _) fun _ ↦ ?_
  cases type with
  | deliveryConfirmed => exact .handleDeliveryConfirmed protocol
  | deliveryFailed => exact .failWith _
  | protocolError => exact .failWith _
  | sessionReset => exact .bind (.update_of_eq fun _ ↦ rfl) fun _ ↦ .throw _
  | sessionEstablished => exact .update_of_eq fun _ ↦ rfl
  | other name => exact .pure ()

/-! ### Inbound messages -/

theorem Holds.handleSystemInfoResponse (message : SystemInfoResponse) :
    Holds clock start upload (handleSystemInfoResponse protocol message) := by
  refine .bind .current fun connection ↦ ?_
  cases connection.pendingOperation with
  | none => exact .failWith _
  | some operation =>
    refine .ite ?_ (.failWith _)
    cases protocol.checkProtocolVersion message.protocolVersion with
    | error error => exact .failWith _
    | ok value =>
      exact .bind (.update_of_eq fun _ ↦ rfl) fun _ ↦ .finishPendingOperationIfReady protocol

theorem Holds.handleApplicationResponse (message : ApplicationResponse) :
    Holds clock start upload (handleApplicationResponse protocol message) := by
  refine .bind .current fun connection ↦ ?_
  cases connection.pendingOperation with
  | none => exact .failWith _
  | some operation =>
    dsimp only
    cases operation.kind.expectedScope with
    | none => exact .failWith _
    | some scope =>
      refine .bind (.obtainResult _) fun mismatch ↦ ?_
      cases mismatch with
      | some detail => exact .failWith _
      | none =>
        exact .bind (.update_of_eq fun _ ↦ rfl) fun _ ↦ .finishPendingOperationIfReady protocol

theorem Holds.handleApplicationError (message : ApplicationErrorMessage)
    (submission : Except HilRigError Unit) :
    Holds clock start upload (handleApplicationError message submission :
      Action Wire (Option ApplicationErrorRecord)) := by
  refine .bind .current fun connection ↦ ?_
  cases connection.resultAdapter with
  | none => exact .pure none
  | some builder =>
    refine .bind (.obtainResult _) fun _ ↦ .ite ?_ (.pure none)
    exact .bind (.obtainResult _) fun _ ↦ .bind (.observe _) fun _ ↦ .pure _

theorem Holds.validateResultSequence (message : TestResult) :
    Holds clock start upload (validateResultSequence message : Action Wire Unit) := by
  refine .bind .current fun connection ↦ ?_
  split
  · exact .bind (.obtainResult _) fun _ ↦
      .ite (.failWith _) (.ite (.failWith _) (.pure ()))
  · exact .failWith _

theorem Holds.handleTestResult (message : TestResult) (submission : Except HilRigError Unit) :
    Holds clock start upload
      (handleTestResult message submission : Action Wire (Option TickResult)) := by
  refine .bind (.validateResultSequence message) fun _ ↦ .bind .current fun connection ↦ ?_
  cases connection.resultAdapter with
  | none =>
    exact .bind (.observe _) fun _ ↦ .bind (.update_of_eq fun _ ↦ rfl) fun _ ↦ .pure _
  | some builder =>
    exact .bind (.obtainResult _) fun _ ↦ .bind (.observe _) fun _ ↦ .bind (.observe _) fun _ ↦
      .bind (.update_of_eq fun _ ↦ rfl) fun _ ↦ .pure _

theorem Holds.handleMessage (message : InboundMessage) (submission : Except HilRigError Unit) :
    Holds clock start upload (handleMessage protocol message submission) := by
  refine .bind (.observe _) fun _ ↦ ?_
  cases message with
  | systemInfoResponse response =>
    exact .bind (.handleSystemInfoResponse protocol response) fun _ ↦ .pure _
  | applicationResponse response =>
    exact .bind (.handleApplicationResponse protocol response) fun _ ↦ .pure _
  | applicationErrorMessage error =>
    exact .bind (.handleApplicationError error submission) fun _ ↦ .pure _
  | testResult result => exact .bind (.handleTestResult result submission) fun _ ↦ .pure _
  | other typeName => exact .failWith _

/-! ### One pass -/

theorem Holds.drainEvents (types : List EventType) :
    Holds clock start upload (drainEvents protocol types) := by
  induction types with
  | nil => exact .pure ()
  | cons type types ih => exact .bind (.handleEvent protocol type) fun _ ↦ ih

theorem Holds.drainFrames (frames : List (Frame Wire)) :
    Holds clock start upload (drainFrames protocol frames) := by
  induction frames with
  | nil => exact .pure _
  | cons frame frames ih =>
    exact .bind (.obtainResult _) fun message ↦ .bind (.handleMessage protocol message _) fun _ ↦
      .bind ih fun _ ↦ .pure _

theorem Holds.drain (script : DrainScript Wire) :
    Holds clock start upload (drain protocol script) :=
  .bind (.drainEvents protocol _) fun _ ↦ .bind (.drainFrames protocol _) fun _ ↦ .pure _

theorem Holds.readSerial (inWaiting : Except HilRigError ℤ)
    (received : Except HilRigError (List UInt8)) :
    Holds clock start upload (readSerial inWaiting received : Action Wire ℕ) := by
  refine .bind (.obtainResult _) fun _ ↦ .ite (.throw _) (.ite (.pure _) ?_)
  cases received with
  | error error => exact .throw _
  | ok data => exact .bind (.update_of_eq fun _ ↦ rfl) fun _ ↦ .pure _

theorem Holds.offerReceived (answers : List (Except HilRigError ReceiveResult)) :
    Holds clock start upload (offerReceived answers : Action Wire Unit) := by
  induction answers with
  | nil => exact .throw _
  | cons answer answers ih =>
    refine .bind (.obtainResult _) fun result ↦ .bind (.update_of_eq fun _ ↦ rfl) fun _ ↦ ?_
    split
    · exact .pure ()
    · exact .pure ()
    · exact .bind .current fun _ ↦ .ite (.pure ()) ih
    · exact .throw _

theorem Holds.processTransport (mode : OperatingMode)
    (answer : Except HilRigError TransportStatus) :
    Holds clock start upload (processTransport mode answer : Action Wire Unit) := by
  refine .bind (.obtainResult _) fun status ↦ .bind (.observe _) fun _ ↦ ?_
  split
  · exact .failWith _
  · exact .pure ()

theorem Holds.advanceWorkflow (session : SessionState) :
    Holds clock start upload (advanceWorkflow protocol session) := by
  refine .bind .current fun connection ↦ .ite (.pure ()) (.ite ?_ ?_)
  · exact .bind (.obtainResult _) fun _ ↦ .activateOperation _
  · cases connection.uploadOperations with
    | nil => exact .pure ()
    | cons next rest => exact .bind (.update_of_eq fun _ ↦ rfl) fun _ ↦ .activateOperation _

theorem Holds.checkResponseTimeout :
    Holds clock start upload (checkResponseTimeout : Action Wire Unit) := by
  refine .bind .current fun connection ↦ ?_
  cases connection.pendingOperation with
  | none => exact .pure ()
  | some operation =>
    dsimp only
    split
    · exact .bind .monotonic fun _ ↦ .ite (.pure ()) (.failWith _)
    · exact .pure ()

theorem Holds.submitNextApplicationMessage (session : SessionState)
    (status : Except HilRigError TransportStatus) :
    Holds clock start upload (submitNextApplicationMessage session status : Action Wire Bool) := by
  refine .bind .current fun connection ↦ ?_
  cases connection.pendingOperation with
  | none => exact .pure _
  | some operation =>
    dsimp only
    cases operation.encodedMessages[operation.nextMessageIndex]? with
    | none => exact .pure _
    | some encoded =>
      refine .ite (.pure _) (.bind (.obtainResult _) fun status ↦ .bind (.observe _) fun _ ↦ ?_)
      split
      · exact .bind (.update_of_eq fun _ ↦ rfl) fun _ ↦ .pure _
      · exact .pure _
      · exact .pure _
      · exact .failWith _

theorem Holds.serviceOutput (output : Except HilRigError (Option (List UInt8)))
    (written : Except HilRigError ℤ) (commitStatus : Except HilRigError TransportStatus) :
    Holds clock start upload (serviceOutput output written commitStatus : Action Wire ℕ) := by
  have hpeek : Holds clock start upload (peekOutput output : Action Wire Unit) :=
    .bind .current fun _ ↦ .ite
      (.bind (.obtainResult _) fun _ ↦ .update_of_eq fun _ ↦ rfl) (.pure ())
  refine .bind hpeek fun _ ↦ .bind .current fun connection ↦ ?_
  cases connection.pendingOutput with
  | none => exact .pure _
  | some frame =>
    cases written with
    | error error => exact .throw _
    | ok accepted =>
      refine .ite (.throw _) (.bind (.update_of_eq fun _ ↦ rfl) fun _ ↦ .ite ?_ (.pure _))
      exact .bind (.update_of_eq fun _ ↦ rfl) fun _ ↦ .bind (.obtainResult _) fun _ ↦
        .ite (.throw _) (.pure _)

/-- A service pass holds on to the clock and to the upload. -/
theorem Holds.service (pass : ServicePass Wire) :
    Holds clock start upload (service protocol pass) := by
  have hcomplete (bytesRead : ℕ) (drained : Drained) (submitted : Bool) :
      Holds clock start upload (completePass protocol pass bytesRead drained submitted) :=
    .bind (.serviceOutput _ _ _) fun _ ↦ .bind (.drain protocol _) fun _ ↦
      .bind (.advanceWorkflow protocol _) fun _ ↦ .bind .checkResponseTimeout fun _ ↦
        .bind .current fun _ ↦ .pure _
  refine .bind .requireOpen fun _ ↦ .bind (.readSerial _ _) fun bytesRead ↦
    .bind (.offerReceived _) fun _ ↦ .bind .current fun connection ↦ ?_
  refine .bind (.processTransport _ _) fun _ ↦ .bind (.drain protocol _) fun drained ↦
    .bind (.advanceWorkflow protocol _) fun _ ↦ .bind .checkResponseTimeout fun _ ↦
      .bind (.submitNextApplicationMessage _ _) fun submitted ↦ ?_
  exact .ite (.bind (.processTransport _ _) fun _ ↦ hcomplete _ _ _) (hcomplete _ _ _)

end Handlers

end HilRig.Protocol
