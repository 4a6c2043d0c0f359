import HilRig.Foundations.Tracing
import HilRig.Protocol.Service

/-!
# Who touches the serial buffers

A connection keeps received bytes the Transport did not consume yet in `incoming`, and the frame it
is writing, with the number of its bytes the port accepted, in `pendingOutput` and
`pendingOutputOffset`. Only the reading, offering and writing of a service pass assign to them:
every handler and every request leaves all three alone, with one exception (`drain_unchanged`). A
session reset drops the pending output, and even it leaves the received bytes alone
(`drain_keeps_incoming`).
-/

set_option autoImplicit false
set_option relaxedAutoImplicit false

namespace HilRig.Protocol

open HilRig.Models HilRig.Results HilRig.Foundations

/-- The serial buffers of a connection. -/
structure SerialBuffers where
  incoming : List UInt8 := []
  pendingOutput : Option (List UInt8) := none
  pendingOutputOffset : ℕ := 0

variable {Wire : Type}

def Connection.serial (connection : Connection Wire) : SerialBuffers :=
  ⟨connection.incoming, connection.pendingOutput, connection.pendingOutputOffset⟩

def Host.serial (host : Host Wire) : SerialBuffers :=
  host.connection.serial

section Unchanged

variable {Seen α β : Type} {view : Host Wire → Seen}

/-! ### The basic computations -/

theorem unchanged_current_bind {rest : Connection Wire → Action Wire β}
    (hrest : ∀ connection, Unchanged view (rest connection)) :
    Unchanged view (current >>= rest) :=
  fun host ↦ hrest host.connection host

theorem unchanged_obtainResult (result : Except HilRigError α) :
    Unchanged view (obtainResult result) := by
  cases result with
  | ok value => exact Unchanged.pure value
  | error error => exact Unchanged.throw error

theorem unchanged_update {change : Connection Wire → Connection Wire}
    (hchange : ∀ connection, (change connection).serial = connection.serial) :
    Unchanged Host.serial (update change) :=
  fun host ↦ hchange host.connection

theorem unchanged_update_bind {change : Connection Wire → Connection Wire}
    {rest : Unit → Action Wire β}
    (hchange : ∀ connection, (change connection).serial = connection.serial)
    (hrest : ∀ value, Unchanged Host.serial (rest value)) :
    Unchanged Host.serial (update change >>= rest) :=
  (unchanged_update hchange).bind hrest

theorem unchanged_observe (interaction : Interaction Wire) :
    Unchanged Host.serial (observe interaction) :=
  fun _ ↦ rfl

theorem unchanged_monotonic : Unchanged Host.serial (monotonic : Action Wire ℕ) :=
  fun _ ↦ rfl

theorem unchanged_failWith (text : String) :
    Unchanged Host.serial (failWith text : Action Wire α) :=
  unchanged_update_bind (fun _ ↦ rfl) fun _ ↦ Unchanged.throw _

theorem unchanged_requireOpen : Unchanged Host.serial (requireOpen : Action Wire Unit) :=
  unchanged_current_bind fun _ ↦ (Unchanged.throw _).ite (Unchanged.pure _)

theorem unchanged_requireNoPendingOperation :
    Unchanged Host.serial (requireNoPendingOperation : Action Wire Unit) :=
  unchanged_current_bind fun _ ↦ (Unchanged.throw _).ite (Unchanged.pure _)

theorem unchanged_activateOperation (operation : ApplicationOperation Wire) :
    Unchanged Host.serial (activateOperation operation) :=
  unchanged_current_bind fun _ ↦ (Unchanged.throw _).ite
    ((unchanged_observe _).bind fun _ ↦ unchanged_update fun _ ↦ rfl)

end Unchanged

section Codec

variable (protocol : NativeProtocol Wire)

/-! ### Operations -/

theorem unchanged_queueStart : Unchanged Host.serial (queueStart protocol) := by
  refine unchanged_current_bind fun connection ↦ ?_
  split
  · exact Unchanged.throw _
  · exact (unchanged_obtainResult _).bind fun _ ↦ unchanged_activateOperation _

theorem unchanged_continueUpload (operation : ApplicationOperation Wire) :
    Unchanged Host.serial (continueUpload operation) := by
  refine unchanged_current_bind fun connection ↦ ?_
  split
  · exact unchanged_update_bind (fun _ ↦ rfl) fun _ ↦ unchanged_activateOperation _
  · exact unchanged_monotonic.bind fun _ ↦ unchanged_activateOperation _

theorem unchanged_acceptUpload : Unchanged Host.serial (acceptUpload protocol) := by
  refine unchanged_update_bind (fun _ ↦ rfl) fun _ ↦ unchanged_current_bind fun connection ↦ ?_
  split
  · exact (unchanged_queueStart protocol).ite (Unchanged.pure _)
  · exact Unchanged.pure _

theorem unchanged_completeOperation (operation : ApplicationOperation Wire) :
    Unchanged Host.serial (completeOperation protocol operation) := by
  unfold completeOperation
  cases operation.kind with
  | discovery => exact unchanged_update fun _ ↦ rfl
  | configuration => exact unchanged_continueUpload operation
  | tick => exact unchanged_continueUpload operation
  | completeTest => exact unchanged_acceptUpload protocol
  | start => exact unchanged_update fun _ ↦ rfl
  | abort => exact unchanged_update fun _ ↦ rfl
  | reset => exact unchanged_update fun _ ↦ rfl

theorem serial_handleNegativeResponse (connection : Connection Wire)
    (operation : ApplicationOperation Wire) :
    (connection.handleNegativeResponse operation).serial = connection.serial := by
  unfold Connection.handleNegativeResponse
  split
  all_goals first | rfl | (split_ifs <;> rfl)

theorem unchanged_finishPendingOperationIfReady :
    Unchanged Host.serial (finishPendingOperationIfReady protocol) := by
  refine unchanged_current_bind fun connection ↦ ?_
  split
  · exact Unchanged.pure _
  · rename_i operation _
    refine Unchanged.ite (unchanged_update_bind (fun _ ↦ rfl) fun _ ↦ ?_) (Unchanged.pure _)
    split
    · exact unchanged_update_bind (serial_handleNegativeResponse · operation) fun _ ↦
        Unchanged.throw _
    · exact unchanged_completeOperation protocol operation

/-! ### Events and messages -/

theorem unchanged_handleDeliveryConfirmed :
    Unchanged Host.serial (handleDeliveryConfirmed protocol) := by
  refine unchanged_current_bind fun connection ↦ ?_
  have hfinish := unchanged_finishPendingOperationIfReady protocol
  split
  · refine unchanged_update_bind (fun _ ↦ rfl) fun _ ↦ Unchanged.ite ?_ hfinish
    exact unchanged_monotonic.bind fun _ ↦ unchanged_update_bind (fun _ ↦ rfl) fun _ ↦ hfinish
  · exact unchanged_failWith _

theorem unchanged_handleEvent {type : EventType} (htype : type ≠ .sessionReset) :
    Unchanged Host.serial (handleEvent protocol type) := by
  refine (unchanged_observe _).bind fun _ ↦ ?_
  cases type with
  | deliveryConfirmed => exact unchanged_handleDeliveryConfirmed protocol
  | deliveryFailed => exact unchanged_failWith _
  | protocolError => exact unchanged_failWith _
  | sessionReset => exact absurd rfl htype
  | sessionEstablished => exact unchanged_update fun _ ↦ rfl
  | other _ => exact Unchanged.pure _

/-- Even a session reset leaves the received bytes alone. -/
theorem handleEvent_keeps_incoming (type : EventType) :
    Unchanged (fun host : Host Wire ↦ host.serial.incoming) (handleEvent protocol type) := by
  by_cases htype : type = .sessionReset
  · subst htype
    exact fun _ ↦ rfl
  · exact (unchanged_handleEvent protocol htype).comp SerialBuffers.incoming

theorem unchanged_handleSystemInfoResponse (message : SystemInfoResponse) :
    Unchanged Host.serial (handleSystemInfoResponse protocol message) := by
  refine unchanged_current_bind fun connection ↦ ?_
  split
  · refine Unchanged.ite ?_ (unchanged_failWith _)
    split
    · exact unchanged_failWith _
    · exact unchanged_update_bind (fun _ ↦ rfl) fun _ ↦
        unchanged_finishPendingOperationIfReady protocol
  · exact unchanged_failWith _

theorem unchanged_handleApplicationResponse (message : ApplicationResponse) :
    Unchanged Host.serial (handleApplicationResponse protocol message) := by
  refine unchanged_current_bind fun connection ↦ ?_
  split
  · exact unchanged_failWith _
  · split
    · exact unchanged_failWith _
    · refine (unchanged_obtainResult _).bind fun mismatch ↦ ?_
      split
      · exact unchanged_failWith _
      · exact unchanged_update_bind (fun _ ↦ rfl) fun _ ↦
          unchanged_finishPendingOperationIfReady protocol

theorem unchanged_handleApplicationError (message : ApplicationErrorMessage)
    (submission : Except HilRigError Unit) :
    Unchanged Host.serial
      (handleApplicationError message submission : Action Wire (Option _)) := by
  refine unchanged_current_bind fun connection ↦ ?_
  split
  · exact Unchanged.pure _
  · refine (unchanged_obtainResult _).bind fun _ ↦ Unchanged.ite ?_ (Unchanged.pure _)
    exact (unchanged_obtainResult _).bind fun _ ↦ (unchanged_observe _).bind fun _ ↦
      Unchanged.pure _

theorem unchanged_validateResultSequence (message : TestResult) :
    Unchanged Host.serial (validateResultSequence message : Action Wire Unit) := by
  refine unchanged_current_bind fun connection ↦ ?_
  split
  · exact (unchanged_obtainResult _).bind fun _ ↦
      (unchanged_failWith _).ite ((unchanged_failWith _).ite (Unchanged.pure _))
  · exact unchanged_failWith _

theorem unchanged_handleTestResult (message : TestResult) (submission : Except HilRigError Unit) :
    Unchanged Host.serial (handleTestResult message submission : Action Wire (Option _)) := by
  refine (unchanged_validateResultSequence message).bind fun _ ↦
    unchanged_current_bind fun connection ↦ ?_
  have hcount : Unchanged Host.serial (update Connection.countResult : Action Wire Unit) :=
    unchanged_update fun _ ↦ rfl
  split
  · exact (unchanged_observe _).bind fun _ ↦ hcount.bind fun _ ↦ Unchanged.pure _
  · exact (unchanged_obtainResult _).bind fun _ ↦ (unchanged_observe _).bind fun _ ↦
      (unchanged_observe _).bind fun _ ↦ hcount.bind fun _ ↦ Unchanged.pure _

theorem unchanged_handleMessage (message : InboundMessage) (submission : Except HilRigError Unit) :
    Unchanged Host.serial (handleMessage protocol message submission) := by
  refine (unchanged_observe _).bind fun _ ↦ ?_
  cases message with
  | systemInfoResponse response =>
    exact (unchanged_handleSystemInfoResponse protocol response).bind fun _ ↦ Unchanged.pure _
  | applicationResponse response =>
    exact (unchanged_handleApplicationResponse protocol response).bind fun _ ↦ Unchanged.pure _
  | applicationErrorMessage error =>
    exact (unchanged_handleApplicationError error submission).bind fun _ ↦ Unchanged.pure _
  | testResult result =>
    exact (unchanged_handleTestResult result submission).bind fun _ ↦ Unchanged.pure _
  | other typeName => exact unchanged_failWith _

/-! ### Draining -/

section Drain

variable {Seen : Type} {part : SerialBuffers → Seen}

theorem unchanged_drainEvents (types : List EventType)
    (hevents : ∀ type ∈ types,
      Unchanged (fun host : Host Wire ↦ part host.serial) (handleEvent protocol type)) :
    Unchanged (fun host : Host Wire ↦ part host.serial) (drainEvents protocol types) := by
  induction types with
  | nil => exact Unchanged.pure _
  | cons type types ih =>
    rw [List.forall_mem_cons] at hevents
    exact hevents.1.bind fun _ ↦ ih hevents.2

theorem unchanged_drainFrames (frames : List (Frame Wire)) :
    Unchanged Host.serial (drainFrames protocol frames) := by
  induction frames with
  | nil => exact Unchanged.pure _
  | cons frame frames ih =>
    exact (unchanged_obtainResult _).bind fun message ↦
      (unchanged_handleMessage protocol message _).bind fun _ ↦ ih.bind fun _ ↦ Unchanged.pure _

/-- A drain leaves alone what the handling of each of its events leaves alone. -/
theorem unchanged_drain_of_events (script : DrainScript Wire)
    (hevents : ∀ type ∈ script.events,
      Unchanged (fun host : Host Wire ↦ part host.serial) (handleEvent protocol type)) :
    Unchanged (fun host : Host Wire ↦ part host.serial) (drain protocol script) :=
  (unchanged_drainEvents protocol script.events hevents).bind fun _ ↦
    ((unchanged_drainFrames protocol script.frames).comp part).bind fun _ ↦ Unchanged.pure _

end Drain

theorem drain_unchanged {script : DrainScript Wire}
    (hevents : EventType.sessionReset ∉ script.events) :
    Unchanged Host.serial (drain protocol script) := by
  show Unchanged (fun host : Host Wire ↦ id host.serial) (drain protocol script)
  refine unchanged_drain_of_events protocol script fun type htype ↦ ?_
  exact unchanged_handleEvent protocol fun heq ↦ hevents (heq ▸ htype)

theorem drain_keeps_incoming (script : DrainScript Wire) :
    Unchanged (fun host : Host Wire ↦ host.serial.incoming) (drain protocol script) :=
  unchanged_drain_of_events protocol script fun type _ ↦ handleEvent_keeps_incoming protocol type

/-! ### Advancing, submitting and waiting -/

theorem unchanged_advanceWorkflow (session : SessionState) :
    Unchanged Host.serial (advanceWorkflow protocol session) := by
  refine unchanged_current_bind fun connection ↦ (Unchanged.pure _).ite (Unchanged.ite ?_ ?_)
  · exact (unchanged_obtainResult _).bind fun _ ↦ unchanged_activateOperation _
  · split
    · exact unchanged_update_bind (fun _ ↦ rfl) fun _ ↦ unchanged_activateOperation _
    · exact Unchanged.pure _

theorem unchanged_submitNextApplicationMessage (session : SessionState)
    (status : Except HilRigError TransportStatus) :
    Unchanged Host.serial (submitNextApplicationMessage session status : Action Wire Bool) := by
  refine unchanged_current_bind fun connection ↦ ?_
  split
  · exact Unchanged.pure _
  · split
    · exact Unchanged.pure _
    · refine (Unchanged.pure _).ite ((unchanged_obtainResult _).bind fun answer ↦
        (unchanged_observe _).bind fun _ ↦ ?_)
      split
      · exact unchanged_update_bind (fun _ ↦ rfl) fun _ ↦ Unchanged.pure _
      · exact Unchanged.pure _
      · exact Unchanged.pure _
      · exact unchanged_failWith _

theorem unchanged_checkResponseTimeout :
    Unchanged Host.serial (checkResponseTimeout : Action Wire Unit) := by
  refine unchanged_current_bind fun connection ↦ ?_
  split
  · exact Unchanged.pure _
  · split
    · exact unchanged_monotonic.bind fun _ ↦ (Unchanged.pure _).ite (unchanged_failWith _)
    · exact Unchanged.pure _

theorem unchanged_processTransport (mode : OperatingMode)
    (answer : Except HilRigError TransportStatus) :
    Unchanged Host.serial (processTransport mode answer : Action Wire Unit) := by
  refine (unchanged_obtainResult _).bind fun status ↦ (unchanged_observe _).bind fun _ ↦ ?_
  split
  · exact unchanged_failWith _
  · exact Unchanged.pure _

/-! ### Requests of the caller -/

theorem unchanged_bindResultBuilder (builder : BuilderHandle) (replace : Bool) :
    Unchanged Host.serial (bindResultBuilder builder replace : Action Wire Unit) := by
  refine unchanged_requireOpen.bind fun _ ↦ unchanged_current_bind fun connection ↦ ?_
  exact (Unchanged.throw _).ite ((Unchanged.throw _).ite ((Unchanged.throw _).ite
    (unchanged_update fun _ ↦ rfl)))

theorem unchanged_queueUpload (compiledTest : CompiledTestIR)
    (uploadAttempt : Option UploadAttempt) (draws : List (Fin (2 ^ 128)))
    (session : SessionState) :
    Unchanged Host.serial (queueUpload protocol compiledTest uploadAttempt draws session) := by
  refine unchanged_requireOpen.bind fun _ ↦ unchanged_current_bind fun connection ↦ ?_
  refine (Unchanged.throw _).ite ((Unchanged.throw _).ite ?_)
  refine (unchanged_obtainResult _).bind fun _ ↦ (unchanged_obtainResult _).bind fun upload ↦ ?_
  refine (Unchanged.throw _).ite ((Unchanged.throw _).ite ?_)
  refine (unchanged_obtainResult _).bind fun encoded ↦ (unchanged_observe _).bind fun _ ↦ ?_
  exact unchanged_update_bind (fun _ ↦ rfl) fun _ ↦
    (unchanged_advanceWorkflow protocol session).bind fun _ ↦ Unchanged.pure _

theorem unchanged_start : Unchanged Host.serial (start protocol) := by
  refine unchanged_requireOpen.bind fun _ ↦ (unchanged_observe _).bind fun _ ↦
    unchanged_current_bind fun connection ↦ ?_
  split
  · exact Unchanged.throw _
  · exact (Unchanged.throw _).ite ((Unchanged.throw _).ite
      (unchanged_requireNoPendingOperation.bind fun _ ↦ unchanged_queueStart protocol))

theorem unchanged_abort : Unchanged Host.serial (abort protocol) := by
  refine unchanged_requireOpen.bind fun _ ↦ (unchanged_observe _).bind fun _ ↦
    unchanged_current_bind fun connection ↦ ?_
  split
  · exact Unchanged.throw _
  · exact unchanged_requireNoPendingOperation.bind fun _ ↦
      (unchanged_obtainResult _).bind fun _ ↦ unchanged_activateOperation _

theorem unchanged_resetApplication : Unchanged Host.serial (resetApplication protocol) := by
  refine unchanged_requireOpen.bind fun _ ↦ (unchanged_observe _).bind fun _ ↦
    unchanged_current_bind fun connection ↦ (Unchanged.throw _).ite ?_
  exact unchanged_requireNoPendingOperation.bind fun _ ↦
    (unchanged_obtainResult _).bind fun _ ↦ unchanged_activateOperation _

end Codec

end HilRig.Protocol
