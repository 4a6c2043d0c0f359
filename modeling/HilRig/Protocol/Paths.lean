import HilRig.Protocol.Transition

/-!
# Every call is a path of moves

The handlers are related to the transition relation one by one: `finishes` inverts finishing the
pending operation, each handler then makes the one move its guards select, and the rules of
reachability compose the handlers of a service pass. `Serves` says besides that a handler binds no
builder, which only `bindResultBuilder` does. `run_preserves` is the induction over whole runs.
-/

set_option autoImplicit false
set_option relaxedAutoImplicit false

namespace HilRig.Protocol

open HilRig.Models HilRig.Results HilRig.Foundations Relation

variable {Wire : Type} (protocol : NativeProtocol Wire)

/-- A computation makes only moves of the connection. -/
abbrev Moves {α : Type} (action : Action Wire α) : Prop :=
  Follows (Move protocol) Host.toLedger action

/-- A move that binds no builder. -/
structure Unbinding (before after : Ledger Wire) : Prop where
  move : Move protocol before after
  adapter : after.connection.resultAdapter = before.connection.resultAdapter

/-- A computation makes only moves of the connection, and binds no builder. -/
abbrev Serves {α : Type} (action : Action Wire α) : Prop :=
  Follows (Unbinding protocol) Host.toLedger action

variable {protocol}

theorem Serves.moves {α : Type} {action : Action Wire α} (hserves : Serves protocol action) :
    Moves protocol action :=
  fun host ↦ (hserves host).lift id fun _ _ hstep ↦ hstep.move

theorem adapter_of_finishes {before after : Ledger Wire}
    (hfinishes : Finishes protocol before after) :
    after.connection.resultAdapter = before.connection.resultAdapter := by
  cases hfinishes with
  | refused operation hpending hready herror =>
    simp only [Ledger.become_connection, Connection.handleNegativeResponse]
    cases operation.kind <;> simp only <;> first | rfl | (split <;> rfl)
  | completed operation hpending hready herror hkind =>
    simp only [Ledger.become_connection, Connection.complete]
    cases operation.kind <;> rfl
  | startsImmediately operation upload encoded hpending hready herror hkind hactive himmediate
      hencoded =>
    simp only [Ledger.activate_connection, Ledger.become_connection, Connection.complete, hkind]
    rfl
  | _ => rfl

theorem Unbinding.of_handled {before middle after : Ledger Wire}
    (hhandles : Handles protocol before middle) (hfinishes : Finishes protocol middle after) :
    Unbinding protocol before after := by
  refine ⟨.handled middle after hhandles hfinishes, (adapter_of_finishes hfinishes).trans ?_⟩
  cases hhandles <;> rfl

/-! ### Primitive effects -/

theorem Serves.current : Serves protocol (current : Action Wire (Connection Wire)) :=
  .of_view_eq fun _ ↦ rfl

theorem Serves.obtainResult {α : Type} (result : Except HilRigError α) :
    Serves protocol (obtainResult result : Action Wire α) := by
  cases result with
  | ok value => exact .pure value
  | error error => exact .throw error

theorem Serves.requireOpen : Serves protocol (requireOpen : Action Wire Unit) := by
  refine .of_view_eq fun host ↦ ?_
  simp only [Protocol.requireOpen, finalState_current_bind]
  split <;> rfl

/-- A change of the serial fields alone. -/
theorem Serves.serial (change : Connection Wire → Connection Wire)
    (hserial : ∀ connection, ∃ incoming output offset, change connection = { connection with
      incoming := incoming, pendingOutput := output, pendingOutputOffset := offset }) :
    Serves protocol (update change) := by
  intro host
  obtain ⟨incoming, output, offset, heq⟩ := hserial host.connection
  rw [finalState_update, Host.change_toLedger, heq]
  exact .single ⟨.serial incoming output offset, rfl⟩

/-- Recording an interaction that has no effect. -/
theorem Serves.ignored (interaction : Interaction Wire)
    (hignored : ∀ connection : Connection Wire, Ignores connection interaction) :
    Serves protocol (observe interaction) :=
  fun host ↦ .single ⟨.ignored interaction (hignored host.connection), rfl⟩

/-! ### Finishing -/

/-- Activating an operation when none is pending. -/
theorem finalState_activateOperation {operation : ApplicationOperation Wire} {host : Host Wire}
    (hpending : host.connection.pendingOperation = none) :
    (finalState (activateOperation operation) host).toLedger =
      host.toLedger.activate operation := by
  simp only [activateOperation, finalState_current_bind, hpending, Option.isSome_none,
    Bool.false_eq_true, if_false, finalState_observe_bind, finalState_update]
  rfl

/-- Queueing START with an active upload activates it, or leaves the host as it is when the
request cannot be encoded. -/
theorem finalState_queueStart (protocol : NativeProtocol Wire) {upload : FixedIOUploadMessages}
    (host : Host Wire)
    (hactive : host.connection.activeUpload = some upload)
    (hpending : host.connection.pendingOperation = none) :
    (finalState (queueStart protocol) host).toLedger = host.toLedger ∨
      ∃ encoded, protocol.encode (buildStart upload.uploadAttempt) = .ok encoded ∧
        (finalState (queueStart protocol) host).toLedger =
          host.toLedger.activate
            (startOperation upload.uploadAttempt.applicationTestId encoded) := by
  simp only [queueStart, finalState_current_bind, hactive, finalState_obtainResult_bind]
  cases hencoded : protocol.encode (buildStart upload.uploadAttempt) with
  | ok encoded => exact .inr ⟨encoded, rfl, finalState_activateOperation hpending⟩
  | error error => exact .inl rfl

section Completion

variable {operation : ApplicationOperation Wire} {before : Ledger Wire}

/-- The pending operation is ready to finish and was answered without error. -/
structure Succeeds (before : Ledger Wire) (operation : ApplicationOperation Wire) : Prop where
  pending : before.connection.pendingOperation = some operation
  ready : before.connection.readyToFinish operation = true
  noError : operation.responseError = none

/-- The host of a ledger whose pending operation was released. -/
def Released (before : Ledger Wire) (host : Host Wire) : Prop :=
  host.toLedger = before.become before.connection.release

theorem Released.connection {host : Host Wire} (hhost : Released before host) :
    host.connection = before.connection.release :=
  congrArg Ledger.connection hhost

theorem Released.change {host : Host Wire} (hhost : Released before host)
    (change : Connection Wire → Connection Wire) :
    (host.change change).toLedger = before.become (change before.connection.release) := by
  rw [Host.change_toLedger, hhost]
  rfl

/-- A completion that only changes the connection. -/
theorem finishes_completed {host : Host Wire} (hsucceeds : Succeeds before operation)
    (hhost : Released before host) (hkind : operation.kind.isUpload = false)
    {change : Connection Wire → Connection Wire}
    (hchange : change before.connection.release =
      before.connection.release.complete operation) :
    Finishes protocol before (finalState (update change) host).toLedger := by
  rw [finalState_update, hhost.change, hchange]
  exact .completed operation hsucceeds.pending hsucceeds.ready hsucceeds.noError hkind

theorem finishes_continueUpload {host : Host Wire} (hsucceeds : Succeeds before operation)
    (hhost : Released before host) (hkind : operation.kind.isUpload = true) :
    Finishes protocol before (finalState (continueUpload operation) host).toLedger := by
  simp only [continueUpload, finalState_current_bind, hhost.connection]
  cases hqueue : before.connection.uploadOperations with
  | nil =>
    have hempty : before.connection.release.uploadOperations = [] := hqueue
    simp only [hempty, finalState_monotonic_bind]
    rw [finalState_activateOperation (by rw [Host.read_connection, hhost.connection]; rfl),
      Host.read_toLedger, hhost]
    exact .uploaded operation _ hsucceeds.pending hsucceeds.ready hsucceeds.noError hkind hqueue
  | cons next rest =>
    have hnext : before.connection.release.uploadOperations = next :: rest := hqueue
    simp only [hnext, finalState_update_bind]
    rw [finalState_activateOperation (by rw [Host.change_connection, hhost.connection]; rfl),
      hhost.change]
    exact .continued operation next rest hsucceeds.pending hsucceeds.ready hsucceeds.noError
      hkind hqueue

theorem finishes_acceptUpload {host : Host Wire} (hsucceeds : Succeeds before operation)
    (hhost : Released before host) (hkind : operation.kind = .completeTest) :
    Finishes protocol before (finalState (acceptUpload protocol) host).toLedger := by
  have hupload : operation.kind.isUpload = false := by rw [hkind]; rfl
  have hchanged := hhost.change fun connection ↦
    { connection with uploadAccepted := true, workflowState := .readyToStart }
  have hcomplete : { before.connection.release with
      uploadAccepted := true, workflowState := .readyToStart } =
        before.connection.release.complete operation := by
    rw [Connection.complete, hkind]
  have hplain : Finishes protocol before
      (host.change fun connection ↦
        { connection with uploadAccepted := true, workflowState := .readyToStart }).toLedger := by
    rw [hchanged, hcomplete]
    exact .completed operation hsucceeds.pending hsucceeds.ready hsucceeds.noError hupload
  simp only [acceptUpload, finalState_update_bind, finalState_current_bind,
    Host.change_connection, hhost.connection]
  cases hactive : before.connection.activeUpload with
  | none =>
    have hnone : before.connection.release.activeUpload = none := hactive
    simp only [hnone]
    exact hplain
  | some upload =>
    have hsome : before.connection.release.activeUpload = some upload := hactive
    simp only [hsome]
    by_cases himmediate : upload.startMode = "IMMEDIATE"
    · rw [if_pos himmediate]
      obtain hkept | ⟨encoded, hencoded, hstarted⟩ :=
        finalState_queueStart protocol
          (host.change fun connection ↦
            { connection with uploadAccepted := true, workflowState := .readyToStart })
          (by rw [Host.change_connection, hhost.connection]; exact hactive)
          (by rw [Host.change_connection, hhost.connection]; rfl)
      · rw [hkept]
        exact hplain
      · rw [hstarted, hchanged, hcomplete]
        exact .startsImmediately operation upload encoded hsucceeds.pending hsucceeds.ready
          hsucceeds.noError hkind hactive himmediate hencoded
    · rw [if_neg himmediate]
      exact hplain

/-- Completing an operation that was answered without error. -/
theorem finishes_completeOperation {host : Host Wire} (hsucceeds : Succeeds before operation)
    (hhost : Released before host) :
    Finishes protocol before (finalState (completeOperation protocol operation) host).toLedger := by
  rw [completeOperation]
  cases hkind : operation.kind with
  | discovery =>
    exact finishes_completed hsucceeds hhost (by rw [hkind]; rfl)
      (by rw [Connection.complete, hkind])
  | configuration => exact finishes_continueUpload hsucceeds hhost (by rw [hkind]; rfl)
  | tick => exact finishes_continueUpload hsucceeds hhost (by rw [hkind]; rfl)
  | completeTest => exact finishes_acceptUpload hsucceeds hhost hkind
  | start =>
    exact finishes_completed hsucceeds hhost (by rw [hkind]; rfl)
      (by rw [Connection.complete, hkind])
  | abort =>
    exact finishes_completed hsucceeds hhost (by rw [hkind]; rfl)
      (by rw [Connection.complete, hkind])
  | reset =>
    exact finishes_completed hsucceeds hhost (by rw [hkind]; rfl)
      (by rw [Connection.complete, hkind])

end Completion

/-- Finishing the pending operation. -/
theorem finishes (host : Host Wire) :
    Finishes protocol host.toLedger
      (finalState (finishPendingOperationIfReady protocol) host).toLedger := by
  simp only [finishPendingOperationIfReady, finalState_current_bind]
  cases hpending : host.connection.pendingOperation with
  | none =>
    exact .waiting fun operation hoperation ↦ by rw [hpending] at hoperation; cases hoperation
  | some operation =>
    by_cases hready : host.connection.readyToFinish operation = true
    · simp only [hready, if_true, finalState_update_bind]
      cases herror : operation.responseError with
      | some error =>
        exact .refused operation hpending hready (by rw [herror]; rfl)
      | none =>
        exact finishes_completeOperation ⟨hpending, hready, herror⟩ rfl
    · simp only [hready]
      refine .waiting fun other hother ↦ ?_
      rw [hpending] at hother
      cases hother
      exact Bool.eq_false_iff.2 hready

/-- Finishing right after one interaction changed the connection. -/
theorem finishes_after (interaction : Interaction Wire)
    (change : Connection Wire → Connection Wire) (host : Host Wire) :
    Finishes protocol ((host.toLedger.note interaction).become (change host.connection))
      (finalState (update change >>= fun _ ↦ finishPendingOperationIfReady protocol)
        (host.note interaction)).toLedger :=
  finishes ((host.note interaction).change change)

/-! ### Transport events -/

/-- A confirmation with a pending operation and a pending delivery. -/
theorem move_confirmed {operation : ApplicationOperation Wire} {host : Host Wire}
    (hpending : host.connection.pendingOperation = some operation)
    (hdelivery : host.connection.transportDeliveryPending = true) :
    Unbinding protocol host.toLedger
      (finalState (handleDeliveryConfirmed protocol)
        (host.note (.event .deliveryConfirmed))).toLedger := by
  simp only [handleDeliveryConfirmed, finalState_current_bind, Host.note_connection, hpending,
    hdelivery, finalState_update_bind]
  by_cases hsubmitted : operation.everyMessageSubmitted = true
  · simp only [hsubmitted, if_true, finalState_monotonic_bind, finalState_update_bind]
    refine .of_handled (.confirmed operation
      (host.clock host.readings + host.connection.applicationResponseTimeout)
      hpending hdelivery) ?_
    have hfinishes := @finishes Wire protocol
      (((host.note (.event .deliveryConfirmed)).change fun connection ↦ { connection with
        transportDeliveryPending := false
        uploadMessagesDelivered :=
          if operation.kind.isUpload then connection.uploadMessagesDelivered + 1
          else connection.uploadMessagesDelivered }).read.change fun connection ↦ { connection with
        pendingOperation := some { operation with
          responseDeadline :=
            some (host.clock host.readings + connection.applicationResponseTimeout) } })
    simp only [Host.change_toLedger, Host.read_toLedger, Host.note_toLedger] at hfinishes
    simp only [Connection.confirmDelivery, hsubmitted, if_true]
    exact hfinishes
  · have hdelivered : host.connection.confirmDelivery operation 0 = { host.connection with
        transportDeliveryPending := false
        uploadMessagesDelivered :=
          if operation.kind.isUpload then host.connection.uploadMessagesDelivered + 1
          else host.connection.uploadMessagesDelivered } := by
      rw [Connection.confirmDelivery, if_neg hsubmitted, ← hpending]
    rw [if_neg hsubmitted]
    refine .of_handled (.confirmed operation 0 hpending hdelivery) ?_
    rw [hdelivered]
    exact finishes_after _ (fun connection ↦ { connection with
      transportDeliveryPending := false
      uploadMessagesDelivered :=
        if operation.kind.isUpload then connection.uploadMessagesDelivered + 1
        else connection.uploadMessagesDelivered }) host

theorem Serves.handleEvent (type : EventType) : Serves protocol (handleEvent protocol type) := by
  intro host
  unfold Protocol.handleEvent
  rw [finalState_observe_bind]
  cases type with
  | deliveryConfirmed =>
    by_cases hexpected : ∃ operation,
        host.connection.pendingOperation = some operation ∧
          host.connection.transportDeliveryPending = true
    · obtain ⟨operation, hpending, hdelivery⟩ := hexpected
      exact .single (move_confirmed hpending hdelivery)
    · have hstray : host.connection.pendingOperation = none ∨
          host.connection.transportDeliveryPending = false := by
        by_contra hboth
        rw [not_or, Bool.not_eq_false] at hboth
        exact hexpected ⟨_, (Option.ne_none_iff_exists'.1 hboth.1).choose_spec, hboth.2⟩
      have hfailed : Unbinding protocol host.toLedger
          ((host.toLedger.note (.event .deliveryConfirmed)).become
            host.connection.failWorkflow) :=
        ⟨.failed _ (.strayConfirmation hstray), rfl⟩
      simp only [handleDeliveryConfirmed, finalState_current_bind, Host.note_connection]
      split
      · rename_i operation hpending hdelivery
        exact absurd ⟨operation, hpending, hdelivery⟩ hexpected
      · exact .single hfailed
  | deliveryFailed => exact .single ⟨.failed _ .deliveryFailed, rfl⟩
  | protocolError => exact .single ⟨.failed _ .protocolError, rfl⟩
  | sessionReset => exact .single ⟨.invalidated, rfl⟩
  | sessionEstablished => exact .single ⟨.established, rfl⟩
  | other name => exact .single ⟨.ignored _ (.event name), rfl⟩

/-! ### Inbound messages -/

theorem path_handleSystemInfoResponse (message : SystemInfoResponse) (host : Host Wire) :
    ReflTransGen (Unbinding protocol) host.toLedger
      (finalState (handleSystemInfoResponse protocol message)
        (host.note (.message (.systemInfoResponse message)))).toLedger := by
  have hfailed : host.connection.refusesSystemInfo protocol message = true →
      ReflTransGen (Unbinding protocol) host.toLedger
        ((host.toLedger.note (.message (.systemInfoResponse message))).become
          host.connection.failWorkflow) := by
    intro hrefused
    exact .single ⟨.failed _ (.refused _ hrefused), rfl⟩
  simp only [Connection.refusesSystemInfo] at hfailed
  simp only [handleSystemInfoResponse, finalState_current_bind, Host.note_connection]
  cases hpending : host.connection.pendingOperation with
  | none =>
    rw [hpending] at hfailed
    exact hfailed rfl
  | some operation =>
    simp only [hpending] at hfailed ⊢
    by_cases hkind : operation.kind = .discovery
    · rw [if_pos hkind] at hfailed ⊢
      cases hversion : protocol.checkProtocolVersion message.protocolVersion with
      | error error =>
        rw [hversion] at hfailed
        exact hfailed rfl
      | ok _ =>
        exact .single (.of_handled (.described operation message _ hpending hkind hversion rfl)
          (finishes_after _ (fun connection ↦ { connection with
            sessionInfo := some (informationOf message)
            pendingOperation := some { operation with responseReceived := true } }) host))
    · rw [if_neg hkind] at hfailed ⊢
      exact hfailed rfl

theorem path_handleApplicationResponse (message : ApplicationResponse) (host : Host Wire) :
    ReflTransGen (Unbinding protocol) host.toLedger
      (finalState (handleApplicationResponse protocol message)
        (host.note (.message (.applicationResponse message)))).toLedger := by
  have hfailed : host.connection.refusesResponse message = true →
      ReflTransGen (Unbinding protocol) host.toLedger
        ((host.toLedger.note (.message (.applicationResponse message))).become
          host.connection.failWorkflow) := by
    intro hrefused
    exact .single ⟨.failed _ (.refused _ hrefused), rfl⟩
  simp only [Connection.refusesResponse] at hfailed
  simp only [handleApplicationResponse, finalState_current_bind, Host.note_connection]
  cases hpending : host.connection.pendingOperation with
  | none =>
    rw [hpending] at hfailed
    exact hfailed rfl
  | some operation =>
    simp only [hpending] at hfailed ⊢
    cases hscope : operation.kind.expectedScope with
    | none =>
      rw [hscope] at hfailed
      exact hfailed rfl
    | some scope =>
      simp only [hscope, finalState_obtainResult_bind] at hfailed ⊢
      cases hmatch : responseMismatch operation scope message with
      | error error => exact .single ⟨.ignored _ (.message _), rfl⟩
      | ok mismatch =>
        rw [hmatch] at hfailed
        cases mismatch with
        | some detail => exact hfailed rfl
        | none =>
          exact .single (.of_handled (.answered operation scope message hpending hscope hmatch)
            (finishes_after _ (fun connection ↦ { connection with
              lastApplicationResponse := some message
              pendingOperation := some (operation.answeredBy message) }) host))

theorem Serves.handleApplicationError (message : ApplicationErrorMessage)
    (submission : Except HilRigError Unit) :
    Serves protocol (handleApplicationError message submission) := by
  refine Serves.current.bind fun connection ↦ ?_
  cases connection.resultAdapter with
  | none => exact .pure none
  | some builder =>
    refine (Serves.obtainResult _).bind fun belongs ↦ ?_
    refine .ite ?_ (.pure none)
    refine (Serves.obtainResult _).bind fun record ↦ ?_
    exact (Serves.ignored _ fun _ ↦ .errorStored builder record).bind fun _ ↦ .pure _

/-- Validating a result fails the workflow exactly for a refused one; otherwise it leaves the host
as it is, and it returns only when the result's identifier can be read. -/
theorem validateResultSequence_cases (message : TestResult) (host : Host Wire) :
    (host.connection.refusesResult message = true ∧
      ∃ error, validateResultSequence message host =
        .error error (host.change Connection.failWorkflow)) ∨
    (host.connection.refusesResult message = false ∧
      (∃ id, applicationTestIdFromBytes message.testId.bytes = .ok id) ∧
        validateResultSequence message host = .ok () host) ∨
    ∃ error, validateResultSequence message host = .error error host := by
  unfold validateResultSequence
  rw [run_current_bind]
  simp only [Connection.refusesResult]
  cases hactive : host.connection.activeUpload with
  | none => exact .inl ⟨rfl, _, rfl⟩
  | some upload =>
    cases hstarted : host.connection.executionStarted with
    | false => exact .inl ⟨rfl, _, rfl⟩
    | true =>
      cases hid : applicationTestIdFromBytes message.testId.bytes with
      | error error => exact .inr (.inr ⟨error, rfl⟩)
      | ok id =>
        by_cases hsame : id = upload.uploadAttempt.applicationTestId
        · by_cases htick : message.tickNumber = host.connection.nextResultTick
          · refine .inr (.inl ⟨by simp [hsame, htick], ⟨id, rfl⟩, ?_⟩)
            simp only [obtainResult, hsame, htick, pure_bind, ne_eq, not_true_eq_false, if_false]
            rfl
          · refine .inl ⟨by simp [htick], ?_⟩
            simp only [obtainResult, hsame, htick, pure_bind, ne_eq, not_true_eq_false, if_false,
              not_false_eq_true, if_true]
            exact ⟨_, rfl⟩
        · refine .inl ⟨by simp [hsame], ?_⟩
          simp only [obtainResult, hsame, pure_bind, ne_eq, not_false_eq_true, if_true]
          exact ⟨_, rfl⟩

theorem path_handleTestResult (message : TestResult) (submission : Except HilRigError Unit)
    (host : Host Wire) :
    ReflTransGen (Unbinding protocol) host.toLedger
      (finalState (handleTestResult message submission)
        (host.note (.message (.testResult message)))).toLedger := by
  unfold handleTestResult
  rcases validateResultSequence_cases message (host.note (.message (.testResult message))) with
    ⟨hrefused, error, hrun⟩ | ⟨hexpected, hid, hrun⟩ | ⟨error, hrun⟩
  · rw [finalState_bind_of_error hrun]
    exact .single ⟨.failed _ (.refused (.testResult message) hrefused), rfl⟩
  · rw [finalState_bind_of_ok hrun, finalState_current_bind, Host.note_connection]
    cases hbound : host.connection.resultAdapter with
    | none => exact .single ⟨.counted message hexpected hid hbound, rfl⟩
    | some builder =>
      simp only [finalState_obtainResult_bind]
      cases hingested : ingestApplicationMessage builder message submission with
      | ok result => exact .single ⟨.stored message builder submission result hexpected hid hbound
          hingested, rfl⟩
      | error error => exact .single ⟨.ignored _ (.message _), rfl⟩
  · rw [finalState_bind_of_error hrun]
    exact .single ⟨.ignored _ (.message _), rfl⟩

/-- A computation that begins by recording a message. -/
theorem Serves.of_path {α : Type} {interaction : Interaction Wire} {action : Action Wire α}
    (hpath : ∀ host : Host Wire, ReflTransGen (Unbinding protocol) host.toLedger
      (finalState action (host.note interaction)).toLedger) :
    Serves protocol (observe interaction >>= fun _ ↦ action) :=
  hpath

theorem Serves.handleMessage (message : InboundMessage) (submission : Except HilRigError Unit) :
    Serves protocol (handleMessage protocol message submission) := by
  have hthen : ∀ {α : Type} {action : Action Wire α} (drained : α → Drained),
      (∀ host : Host Wire, ReflTransGen (Unbinding protocol) host.toLedger
        (finalState action (host.note (.message message))).toLedger) →
      Serves protocol (observe (.message message) >>= fun _ ↦
        action >>= fun value ↦ pure (drained value)) := by
    intro α action drained hpath
    have hmoves := (Serves.of_path hpath).bind fun value ↦ Follows.pure (drained value)
    simpa only [bind_assoc] using hmoves
  unfold Protocol.handleMessage
  cases message with
  | systemInfoResponse response =>
    exact hthen _ (path_handleSystemInfoResponse response)
  | applicationResponse response =>
    exact hthen _ (path_handleApplicationResponse response)
  | applicationErrorMessage error =>
    refine (Serves.ignored _ fun _ ↦ .message _).bind fun _ ↦ ?_
    exact (Serves.handleApplicationError error submission).bind fun _ ↦ .pure _
  | testResult result => exact hthen _ (fun host ↦ path_handleTestResult result submission host)
  | other typeName =>
    intro host
    exact .single ⟨.failed _ (.refused (.other typeName) rfl), rfl⟩

/-! ### Advancing, submitting, waiting -/

theorem Serves.advanceWorkflow (session : SessionState) :
    Serves protocol (advanceWorkflow protocol session) := by
  intro host
  simp only [Protocol.advanceWorkflow, finalState_current_bind]
  by_cases hidle : host.connection.pendingOperation.isSome ∨ session ≠ .established
  · rw [if_pos hidle]
    exact .refl
  · rw [if_neg hidle]
    have hpending : host.connection.pendingOperation = none :=
      Option.not_isSome_iff_eq_none.1 (not_or.1 hidle).1
    by_cases hconfirmed : host.connection.sessionConfirmed = true
    · rw [if_neg (not_not.2 hconfirmed)]
      cases hqueue : host.connection.uploadOperations with
      | nil => exact .refl
      | cons next rest =>
        simp only [finalState_update_bind]
        rw [finalState_activateOperation (by exact hpending)]
        exact .single ⟨.advancing next rest hpending hconfirmed hqueue, rfl⟩
    · rw [if_pos hconfirmed, finalState_obtainResult_bind]
      cases hencoded : protocol.encode buildSystemInfoRequest with
      | error error => exact .refl
      | ok encoded =>
        simp only
        rw [finalState_activateOperation hpending]
        exact .single
          ⟨.discovering encoded hpending (Bool.eq_false_iff.2 hconfirmed) hencoded, rfl⟩

theorem Serves.checkResponseTimeout :
    Serves protocol (checkResponseTimeout : Action Wire Unit) := by
  intro host
  simp only [Protocol.checkResponseTimeout, finalState_current_bind]
  cases hpending : host.connection.pendingOperation with
  | none => exact .refl
  | some operation =>
    cases hresponse : operation.responseReceived with
    | true => simp only [hresponse]; exact .refl
    | false =>
      cases hdeadline : operation.responseDeadline with
      | none => simp only [hresponse, hdeadline]; exact .refl
      | some deadline =>
        simp only [hresponse, hdeadline, finalState_monotonic_bind]
        split
        · exact .refl
        · exact .single ⟨.timedOut operation deadline hpending hresponse hdeadline, rfl⟩

theorem Serves.submitNextApplicationMessage (session : SessionState)
    (status : Except HilRigError TransportStatus) :
    Serves protocol (submitNextApplicationMessage session status : Action Wire Bool) := by
  intro host
  simp only [Protocol.submitNextApplicationMessage, finalState_current_bind]
  cases hpending : host.connection.pendingOperation with
  | none => exact .refl
  | some operation =>
    cases hmessage : operation.encodedMessages[operation.nextMessageIndex]? with
    | none => simp only [hmessage]; exact .refl
    | some encoded =>
      simp only [hmessage]
      split
      · exact .refl
      · rename_i hgate
        have hnext : host.connection.nextMessage = some (operation, encoded) := by
          rw [Connection.nextMessage, hpending, Option.bind_some, hmessage, Option.map_some]
        have hmay : host.connection.maySubmit operation := by
          simp only [not_or, Bool.not_eq_true, not_and_or, not_not] at hgate
          rw [Bool.not_eq_false] at hgate
          exact ⟨hgate.1, hgate.2.2⟩
        rw [finalState_obtainResult_bind]
        cases status with
        | error error => exact .refl
        | ok status =>
          simp only [finalState_observe_bind]
          cases status with
          | ok => exact .single ⟨.submitted operation encoded hnext hmay, rfl⟩
          | notReady =>
            exact .single ⟨.ignored _ (.submission operation encoded _ hnext hmay rfl), rfl⟩
          | capacityExhausted =>
            exact .single ⟨.ignored _ (.submission operation encoded _ hnext hmay rfl), rfl⟩
          | deliveryFailed =>
            exact .single ⟨.failed _
              (.submission operation encoded _ hnext hmay (fun h ↦ by cases h) rfl), rfl⟩
          | messageTooLarge =>
            exact .single ⟨.failed _
              (.submission operation encoded _ hnext hmay (fun h ↦ by cases h) rfl), rfl⟩
          | other name =>
            exact .single ⟨.failed _
              (.submission operation encoded _ hnext hmay (fun h ↦ by cases h) rfl), rfl⟩

/-! ### A service pass -/

theorem Serves.readSerial (inWaiting : Except HilRigError ℤ)
    (received : Except HilRigError (List UInt8)) :
    Serves protocol (readSerial inWaiting received : Action Wire ℕ) := by
  refine (Serves.obtainResult inWaiting).bind fun waiting ↦ ?_
  refine .ite (.throw _) (.ite (.pure _) ?_)
  cases received with
  | error error => exact .throw _
  | ok data =>
    exact (Serves.serial _ fun connection ↦ ⟨connection.incoming ++ data,
      connection.pendingOutput, connection.pendingOutputOffset, rfl⟩).bind fun _ ↦ .pure _

theorem Serves.offerReceived (answers : List (Except HilRigError ReceiveResult)) :
    Serves protocol (offerReceived answers : Action Wire Unit) := by
  induction answers with
  | nil => exact .throw _
  | cons answer answers ih =>
    refine (Serves.obtainResult answer).bind fun result ↦ ?_
    refine (Serves.serial _ fun connection ↦ ⟨connection.incoming.drop result.bytesConsumed,
      connection.pendingOutput, connection.pendingOutputOffset, rfl⟩).bind fun _ ↦ ?_
    cases result.status with
    | ok => exact Serves.current.bind fun connection ↦ .ite (.pure _) ih
    | notReady => exact .pure _
    | capacityExhausted => exact .pure _
    | deliveryFailed => exact .throw _
    | messageTooLarge => exact .throw _
    | other name => exact .throw _

theorem Serves.processTransport (mode : OperatingMode)
    (answer : Except HilRigError TransportStatus) :
    Serves protocol (processTransport mode answer : Action Wire Unit) := by
  refine (Serves.obtainResult answer).bind fun status ↦ ?_
  intro host
  rw [finalState_observe_bind]
  have hignored : status ≠ .deliveryFailed → ReflTransGen (Unbinding protocol) host.toLedger
      (host.note (.processed mode status)).toLedger :=
    fun hstatus ↦ .single ⟨.ignored _ (.processing mode status hstatus), rfl⟩
  cases status with
  | deliveryFailed => exact .single ⟨.failed _ (.processing mode), rfl⟩
  | ok => exact hignored fun h ↦ by cases h
  | notReady => exact hignored fun h ↦ by cases h
  | capacityExhausted => exact hignored fun h ↦ by cases h
  | messageTooLarge => exact hignored fun h ↦ by cases h
  | other name => exact hignored fun h ↦ by cases h

theorem Serves.serviceOutput (output : Except HilRigError (Option (List UInt8)))
    (written : Except HilRigError ℤ) (commitStatus : Except HilRigError TransportStatus) :
    Serves protocol (serviceOutput output written commitStatus : Action Wire ℕ) := by
  have hpeek : Serves protocol (peekOutput output : Action Wire Unit) := by
    refine Serves.current.bind fun connection ↦ .ite ?_ (.pure _)
    refine (Serves.obtainResult output).bind fun frame ↦ ?_
    exact Serves.serial _ fun connection ↦ ⟨connection.incoming, frame, 0, rfl⟩
  refine hpeek.bind fun _ ↦ Serves.current.bind fun connection ↦ ?_
  cases connection.pendingOutput with
  | none => exact .pure _
  | some frame =>
    cases written with
    | error error => exact .throw _
    | ok accepted =>
      refine .ite (.throw _) ?_
      refine (Serves.serial _ fun connection ↦ ⟨connection.incoming, connection.pendingOutput,
        connection.pendingOutputOffset + accepted.toNat, rfl⟩).bind fun _ ↦ ?_
      refine .ite ?_ (.pure _)
      refine (Serves.serial _ fun connection ↦ ⟨connection.incoming, none, 0, rfl⟩).bind fun _ ↦ ?_
      exact (Serves.obtainResult commitStatus).bind fun status ↦ .ite (.throw _) (.pure _)

theorem Serves.drainEvents (types : List EventType) :
    Serves protocol (drainEvents protocol types) := by
  induction types with
  | nil => exact .pure _
  | cons type types ih => exact (Serves.handleEvent type).bind fun _ ↦ ih

theorem Serves.drainFrames (frames : List (Frame Wire)) :
    Serves protocol (drainFrames protocol frames) := by
  induction frames with
  | nil => exact .pure _
  | cons frame frames ih =>
    refine (Serves.obtainResult _).bind fun message ↦ ?_
    refine (Serves.handleMessage message frame.submission).bind fun drained ↦ ?_
    exact ih.bind fun later ↦ .pure _

theorem Serves.drain (script : DrainScript Wire) : Serves protocol (drain protocol script) := by
  refine (Serves.drainEvents script.events).bind fun _ ↦ ?_
  exact (Serves.drainFrames script.frames).bind fun drained ↦ .pure _

theorem Serves.completePass (pass : ServicePass Wire) (bytesRead : ℕ) (drained : Drained)
    (submitted : Bool) :
    Serves protocol (completePass protocol pass bytesRead drained submitted) := by
  refine (Serves.serviceOutput _ _ _).bind fun bytesWritten ↦ ?_
  refine (Serves.drain pass.secondDrain).bind fun more ↦ ?_
  refine (Serves.advanceWorkflow pass.secondSession).bind fun _ ↦ ?_
  exact Serves.checkResponseTimeout.bind fun _ ↦ Serves.current.bind fun connection ↦ .pure _

theorem Serves.service (pass : ServicePass Wire) : Serves protocol (service protocol pass) := by
  refine Serves.requireOpen.bind fun _ ↦ ?_
  refine (Serves.readSerial pass.inWaiting pass.received).bind fun bytesRead ↦ ?_
  refine (Serves.offerReceived pass.offers).bind fun _ ↦ Serves.current.bind fun connection ↦ ?_
  refine (Serves.processTransport _ pass.firstProcess).bind fun _ ↦ ?_
  refine (Serves.drain pass.firstDrain).bind fun drained ↦ ?_
  refine (Serves.advanceWorkflow pass.firstSession).bind fun _ ↦ ?_
  refine Serves.checkResponseTimeout.bind fun _ ↦ ?_
  refine (Serves.submitNextApplicationMessage pass.submitSession pass.submitStatus).bind
    fun submitted ↦ ?_
  refine .ite ?_ (Serves.completePass pass bytesRead drained submitted)
  exact (Serves.processTransport _ pass.secondProcess).bind fun _ ↦
    Serves.completePass pass bytesRead drained submitted

/-! ### Requests of the caller -/

theorem finalState_requireOpen_bind {β : Type} (rest : Unit → Action Wire β) (host : Host Wire) :
    finalState (requireOpen >>= rest) host =
      if host.connection.closed = true then host else finalState (rest ()) host := by
  simp only [requireOpen, finalState_bind_assoc, finalState_current_bind]
  split <;> rfl

theorem finalState_requireNoPendingOperation_bind {β : Type} (rest : Unit → Action Wire β)
    (host : Host Wire) :
    finalState (requireNoPendingOperation >>= rest) host =
      if host.connection.pendingOperation.isSome ∨ host.connection.transportDeliveryPending then
        host
      else finalState (rest ()) host := by
  simp only [requireNoPendingOperation, finalState_bind_assoc, finalState_current_bind]
  split <;> rfl

/-- A request that only records itself when it is refused. -/
theorem path_requestOperation {interaction : Interaction Wire} {host : Host Wire}
    {message : OutboundMessage} {operation : Wire → ApplicationOperation Wire}
    (hignored : Ignores host.connection interaction)
    (hmove : ∀ encoded, host.connection.pendingOperation = none →
      host.connection.transportDeliveryPending = false →
      protocol.encode message = .ok encoded →
      Move protocol host.toLedger ((host.toLedger.note interaction).activate (operation encoded))) :
    ReflTransGen (Unbinding protocol) host.toLedger
      (finalState (do
        requireNoPendingOperation
        let encoded ← obtainResult (protocol.encode message)
        activateOperation (operation encoded)) (host.note interaction)).toLedger := by
  rw [finalState_requireNoPendingOperation_bind, Host.note_connection]
  by_cases hbusy : host.connection.pendingOperation.isSome ∨
      host.connection.transportDeliveryPending
  · rw [if_pos hbusy]
    exact .single ⟨.ignored _ hignored, rfl⟩
  · rw [if_neg hbusy, finalState_obtainResult_bind]
    rw [not_or, Option.not_isSome_iff_eq_none, Bool.not_eq_true] at hbusy
    cases hencoded : protocol.encode message with
    | error error => exact .single ⟨.ignored _ hignored, rfl⟩
    | ok encoded =>
      simp only
      rw [finalState_activateOperation (by exact hbusy.1)]
      exact .single ⟨hmove encoded hbusy.1 hbusy.2 hencoded, rfl⟩

theorem Serves.start : Serves protocol (start protocol) := by
  intro host
  rw [Protocol.start, finalState_requireOpen_bind]
  split
  · exact .refl
  · rw [finalState_observe_bind, finalState_current_bind, Host.note_connection]
    have hignored : Ignores host.connection .startRequested := .startRequested
    cases hactive : host.connection.activeUpload with
    | none => exact .single ⟨.ignored _ hignored, rfl⟩
    | some upload =>
      simp only
      by_cases hready : ¬host.connection.uploadAccepted = true ∨
          host.connection.workflowState ≠ .readyToStart
      · rw [if_pos hready]
        exact .single ⟨.ignored _ hignored, rfl⟩
      · rw [if_neg hready]
        by_cases htrigger : upload.startMode = "EXTERNAL_TRIGGER"
        · rw [if_pos htrigger]
          exact .single ⟨.ignored _ hignored, rfl⟩
        · rw [if_neg htrigger, finalState_requireNoPendingOperation_bind, Host.note_connection]
          by_cases hbusy : host.connection.pendingOperation.isSome ∨
              host.connection.transportDeliveryPending
          · rw [if_pos hbusy]
            exact .single ⟨.ignored _ hignored, rfl⟩
          · rw [if_neg hbusy]
            simp only [not_or, not_not] at hready
            rw [not_or, Option.not_isSome_iff_eq_none, Bool.not_eq_true] at hbusy
            obtain hkept | ⟨encoded, hencoded, hstarted⟩ :=
              finalState_queueStart protocol (host.note .startRequested) hactive hbusy.1
            · rw [hkept]
              exact .single ⟨.ignored _ hignored, rfl⟩
            · rw [hstarted]
              exact .single ⟨.starting upload encoded hactive hready.1 hready.2 hbusy.1 hbusy.2
                hencoded htrigger, rfl⟩

theorem Serves.abort : Serves protocol (abort protocol) := by
  intro host
  rw [Protocol.abort, finalState_requireOpen_bind]
  split
  · exact .refl
  · rw [finalState_observe_bind, finalState_current_bind, Host.note_connection]
    cases hactive : host.connection.activeUpload with
    | none => exact .single ⟨.ignored _ .abortRequested, rfl⟩
    | some upload =>
      exact path_requestOperation .abortRequested fun encoded hpending hdelivery hencoded ↦
        .aborting upload encoded hactive hpending hdelivery hencoded

theorem Serves.resetApplication : Serves protocol (resetApplication protocol) := by
  intro host
  rw [Protocol.resetApplication, finalState_requireOpen_bind]
  split
  · exact .refl
  · rw [finalState_observe_bind, finalState_current_bind, Host.note_connection]
    by_cases hconfirmed : host.connection.sessionConfirmed = true
    · rw [if_neg (not_not.2 hconfirmed)]
      exact path_requestOperation .resetRequested fun encoded hpending hdelivery hencoded ↦
        .resetting encoded hconfirmed hpending hdelivery hencoded
    · rw [if_pos hconfirmed]
      exact .single ⟨.ignored _ .resetRequested, rfl⟩

theorem Moves.bindResultBuilder (builder : BuilderHandle) (replace : Bool) :
    Moves protocol (bindResultBuilder builder replace : Action Wire Unit) := by
  refine Serves.requireOpen.moves.bind fun _ ↦ fun host ↦ ?_
  rw [finalState_current_bind]
  by_cases hbound : host.connection.resultAdapter.isSome ∧ ¬replace
  · rw [if_pos hbound]
    exact .refl
  · rw [if_neg hbound]
    by_cases hactive : host.connection.resultAdapter.isSome ∧ host.connection.activeUpload.isSome
    · rw [if_pos hactive]
      exact .refl
    · rw [if_neg hactive]
      by_cases hother : host.connection.activeUpload.isSome ∧
          some builder.applicationTestId ≠ host.connection.activeId
      · rw [if_pos hother]
        exact .refl
      · rw [if_neg hother]
        refine .single (.bound builder ?_ ?_)
        · rw [not_and_or, Option.not_isSome_iff_eq_none, Option.not_isSome_iff_eq_none] at hactive
          exact hactive
        · intro upload hupload
          rw [not_and_or, not_not, Connection.activeId, hupload] at hother
          simpa using hother

theorem Serves.queueUpload (compiledTest : CompiledTestIR) (uploadAttempt : Option UploadAttempt)
    (draws : List (Fin (2 ^ 128))) (session : SessionState) :
    Serves protocol (queueUpload protocol compiledTest uploadAttempt draws session) := by
  refine Serves.requireOpen.bind fun _ ↦ fun host ↦ ?_
  rw [finalState_current_bind]
  by_cases hbusy : host.connection.activeUpload.isSome ∨ host.connection.uploadOperations ≠ []
  · rw [if_pos hbusy]
    exact .refl
  rw [if_neg hbusy]
  by_cases hpending :
      host.connection.pendingOperation.any fun operation ↦ operation.kind ≠ .discovery
  · rw [if_pos hpending]
    exact .refl
  rw [if_neg hpending, finalState_obtainResult_bind]
  cases chooseUploadAttempt compiledTest uploadAttempt host.connection.resultAdapter with
  | error error => exact .refl
  | ok attempt =>
    simp only [finalState_obtainResult_bind]
    cases hupload : buildUpload compiledTest attempt draws with
    | error error => exact .refl
    | ok upload =>
      simp only
      by_cases hretired : upload.uploadAttempt.applicationTestId ∈
          host.connection.retiredApplicationTestIds
      · rw [if_pos hretired]
        exact .refl
      rw [if_neg hretired]
      by_cases hbuilder : builderMismatch compiledTest upload host.connection.resultAdapter
      · rw [if_pos hbuilder]
        exact .refl
      rw [if_neg hbuilder, finalState_obtainResult_bind]
      cases hencoded : encodeUpload protocol upload with
      | error error => exact .refl
      | ok encoded =>
        simp only [finalState_observe_bind, finalState_update_bind]
        have hqueued : Unbinding protocol host.toLedger
            ((host.note (.uploadQueued compiledTest upload encoded)).change
              fun connection ↦ connection.enqueueUpload upload encoded).toLedger := by
          refine ⟨.queued compiledTest attempt draws upload encoded ?_ ?_ ?_ hupload hretired ?_
            hencoded, rfl⟩
          · exact Option.not_isSome_iff_eq_none.1 (not_or.1 hbusy).1
          · exact not_not.1 (not_or.1 hbusy).2
          · intro operation hoperation
            rw [hoperation] at hpending
            simpa using hpending
          · intro builder hbound
            simp only [builderMismatch, hbound, Option.any_some, decide_eq_true_eq, not_or,
              not_not] at hbuilder
            exact ⟨hbuilder.1.symm, hbuilder.2.symm⟩
        exact (ReflTransGen.single hqueued).trans
          ((Serves.advanceWorkflow session).bind (fun _ ↦ Follows.pure upload.uploadAttempt) _)

/-! ### Runs -/

/-- A path of moves of an open connection is a path of its steps, and leaves it open. -/
theorem steps_of_moves {before after : Ledger Wire} (hopen : before.connection.closed = false)
    (hpath : ReflTransGen (Move protocol) before after) :
    ReflTransGen (Step protocol) before after ∧ after.connection.closed = false := by
  induction hpath with
  | refl => exact ⟨.refl, hopen⟩
  | tail _ hmove ih =>
    exact ⟨ih.1.tail (.moved _ ih.2 hmove), (closed_of_move hmove).trans ih.2⟩

/-- A call on a closed connection changes nothing. -/
theorem Call.after_of_closed (call : Call Wire) {host : Host Wire}
    (hclosed : host.connection.closed = true) : call.after protocol host = host := by
  cases call with
  | bindResultBuilder builder replace =>
    rw [Call.after, Protocol.bindResultBuilder, finalState_requireOpen_bind, if_pos hclosed]
  | queueUpload compiledTest uploadAttempt draws session =>
    rw [Call.after, Protocol.queueUpload, finalState_requireOpen_bind, if_pos hclosed]
  | start => rw [Call.after, Protocol.start, finalState_requireOpen_bind, if_pos hclosed]
  | abort => rw [Call.after, Protocol.abort, finalState_requireOpen_bind, if_pos hclosed]
  | resetApplication =>
    rw [Call.after, Protocol.resetApplication, finalState_requireOpen_bind, if_pos hclosed]
  | service pass => rw [Call.after, Protocol.service, finalState_requireOpen_bind, if_pos hclosed]
  | close answer =>
    rw [Call.after, Protocol.close, finalState_current_bind, if_pos hclosed, finalState_pure]

theorem step_close {host : Host Wire} (hopen : host.connection.closed = false)
    (answer : Except HilRigError Unit) :
    Step protocol host.toLedger (finalState (close answer) host).toLedger := by
  have hclose : (finalState (close answer) host).toLedger =
      (host.toLedger.note (.closing answer)).become (host.connection.closeWith answer) := by
    rw [Protocol.close, finalState_current_bind, if_neg (Bool.eq_false_iff.1 hopen),
      finalState_observe_bind, finalState_update_bind, finalState_obtainResult_bind]
    cases answer with
    | ok _ => rfl
    | error error =>
      have hsame : host.connection.closeWith (.error error) = host.connection.quiesce := by
        rw [Connection.closeWith, Except.isOk, Except.toBool, ← hopen]
        rfl
      rw [hsame]
      rfl
  rw [hclose]
  exact .closing answer hopen

/-- Every call makes only steps of the connection. -/
theorem Call.path (call : Call Wire) (host : Host Wire) :
    ReflTransGen (Step protocol) host.toLedger (call.after protocol host).toLedger := by
  cases hclosed : host.connection.closed with
  | true =>
    rw [call.after_of_closed hclosed]
  | false =>
    cases call with
    | bindResultBuilder builder replace =>
      exact (steps_of_moves hclosed (Moves.bindResultBuilder builder replace host)).1
    | queueUpload compiledTest uploadAttempt draws session =>
      exact (steps_of_moves hclosed
        ((Serves.queueUpload compiledTest uploadAttempt draws session).moves host)).1
    | start => exact (steps_of_moves hclosed (Serves.start.moves host)).1
    | abort => exact (steps_of_moves hclosed (Serves.abort.moves host)).1
    | resetApplication => exact (steps_of_moves hclosed (Serves.resetApplication.moves host)).1
    | service pass => exact (steps_of_moves hclosed ((Serves.service pass).moves host)).1
    | close answer => exact .single (step_close hclosed answer)

theorem run_append (host : Host Wire) (first second : List (Call Wire)) :
    run protocol host (first ++ second) = run protocol (run protocol host first) second :=
  List.foldl_append

/-- Every run makes only steps of the connection. -/
theorem run_path (host : Host Wire) (calls : List (Call Wire)) :
    ReflTransGen (Step protocol) host.toLedger (run protocol host calls).toLedger := by
  induction calls generalizing host with
  | nil => exact .refl
  | cons call calls ih => exact (call.path host).trans (ih (call.after protocol host))

/-- A property that every step keeps holds after every run of a host it holds of. -/
theorem run_preserves {property : Ledger Wire → Prop} {host : Host Wire}
    (hstep : ∀ before after, property before → Step protocol before after → property after)
    (hhost : property host.toLedger) (calls : List (Call Wire)) :
    property (run protocol host calls).toLedger :=
  preserved_of_reflTransGen hstep (run_path host calls) hhost

/-! ### Moments of a run -/

/-- Interactions that a step records after the one it begins with. -/
def Interaction.follows : Interaction Wire → Bool
  | .activated _ | .tickStored _ _ | .resultCounted _ => true
  | _ => false

/-- What a connection has checked when an interaction begins a step: a submission takes the next
message of the pending operation, which may be submitted. -/
def Connection.Begins (connection : Connection Wire) : Interaction Wire → Prop
  | .submitted message _ => ∃ operation,
      connection.nextMessage = some (operation, message) ∧ connection.maySubmit operation
  | _ => True

/-- The moments of one step: at most one that it begins with, at the connection it starts from, and
those that follow. -/
structure Records (before : Ledger Wire) (history : List (Moment Wire))
    (followers first : List (Moment Wire)) : Prop where
  history_eq : history = followers ++ (first ++ before.history)
  follows : ∀ moment ∈ followers, moment.interaction.follows = true
  first_eq : first = [] ∨ ∃ interaction, first = [⟨before.connection, interaction⟩] ∧
    before.connection.Begins interaction

theorem Records.nothing (before : Ledger Wire) : Records before before.history [] [] :=
  ⟨rfl, (fun _ h ↦ by cases h), .inl rfl⟩

theorem Records.one (before : Ledger Wire) (interaction : Interaction Wire)
    (hbegins : before.connection.Begins interaction) :
    Records before (before.note interaction).history [] [⟨before.connection, interaction⟩] :=
  ⟨rfl, (fun _ h ↦ by cases h), .inr ⟨interaction, rfl, hbegins⟩⟩

theorem Records.follow {before : Ledger Wire} {history followers first : List (Moment Wire)}
    (hrecords : Records before history followers first) {moment : Moment Wire}
    (hfollows : moment.interaction.follows = true) :
    Records before (moment :: history) (moment :: followers) first where
  history_eq := by rw [hrecords.history_eq, List.cons_append]
  follows := by
    intro other hother
    rcases List.mem_cons.1 hother with rfl | hother
    · exact hfollows
    · exact hrecords.follows other hother
  first_eq := hrecords.first_eq

theorem Finishes.records {ledger before after : Ledger Wire}
    {followers first : List (Moment Wire)}
    (hrecords : Records ledger before.history followers first)
    (hfinishes : Finishes protocol before after) :
    ∃ followers, Records ledger after.history followers first := by
  cases hfinishes with
  | waiting hwaiting => exact ⟨followers, hrecords⟩
  | refused operation hpending hready herror => exact ⟨followers, hrecords⟩
  | completed operation hpending hready herror hkind => exact ⟨followers, hrecords⟩
  | continued operation next rest hpending hready herror hkind hqueue =>
    exact ⟨_, hrecords.follow rfl⟩
  | uploaded operation deadline hpending hready herror hkind hqueue =>
    exact ⟨_, hrecords.follow rfl⟩
  | startsImmediately operation upload encoded hpending hready herror hkind hactive himmediate
      hencoded => exact ⟨_, hrecords.follow rfl⟩

theorem Ignores.begins {connection : Connection Wire} {interaction : Interaction Wire}
    (hignored : Ignores connection interaction) : connection.Begins interaction := by
  cases hignored with
  | submission operation message status hnext hmay hretry => exact ⟨operation, hnext, hmay⟩
  | _ => trivial

theorem Fails.begins {connection : Connection Wire} {interaction : Interaction Wire}
    (hfails : Fails protocol connection interaction) : connection.Begins interaction := by
  cases hfails with
  | submission operation message status hnext hmay hok hretry => exact ⟨operation, hnext, hmay⟩
  | _ => trivial

theorem Move.records {before after : Ledger Wire} (hmove : Move protocol before after) :
    ∃ followers first, Records before after.history followers first := by
  cases hmove with
  | serial incoming output offset => exact ⟨_, _, .nothing before⟩
  | ignored interaction hignored => exact ⟨_, _, .one before _ hignored.begins⟩
  | failed interaction hfails => exact ⟨_, _, .one before _ hfails.begins⟩
  | timedOut operation deadline hpending hresponse hdeadline => exact ⟨_, _, .nothing before⟩
  | bound builder hfree hid => exact ⟨_, _, .nothing before⟩
  | queued compiledTest attempt draws upload encoded hactive hqueue hpending hupload hfresh
      hbuilder hencoded => exact ⟨_, _, .one before _ trivial⟩
  | starting upload encoded hactive haccepted hstate hpending hdelivery hencoded htrigger =>
    exact ⟨_, _, (Records.one before .startRequested trivial).follow rfl⟩
  | aborting upload encoded hactive hpending hdelivery hencoded =>
    exact ⟨_, _, (Records.one before .abortRequested trivial).follow rfl⟩
  | resetting encoded hconfirmed hpending hdelivery hencoded =>
    exact ⟨_, _, (Records.one before .resetRequested trivial).follow rfl⟩
  | discovering encoded hpending hconfirmed hencoded =>
    exact ⟨_, _, (Records.nothing before).follow rfl⟩
  | advancing next rest hpending hconfirmed hqueue =>
    exact ⟨_, _, (Records.nothing before).follow rfl⟩
  | submitted operation message hnext hmay =>
    exact ⟨_, _, .one before _ ⟨operation, hnext, hmay⟩⟩
  | handled middle after hhandles hfinishes =>
    have hfirst : ∃ interaction, middle.history = (before.note interaction).history ∧
        before.connection.Begins interaction := by
      cases hhandles <;> exact ⟨_, rfl, trivial⟩
    obtain ⟨interaction, hhistory, hbegins⟩ := hfirst
    obtain ⟨followers, hrecords⟩ :=
      hfinishes.records (hhistory ▸ Records.one before interaction hbegins)
    exact ⟨_, _, hrecords⟩
  | counted message hexpected hid hunbound =>
    exact ⟨_, _, (Records.one before (.message (.testResult message)) trivial).follow rfl⟩
  | stored message builder submission result hexpected hid hbound hingested =>
    exact ⟨_, _, ((Records.one before (.message (.testResult message)) trivial).follow rfl).follow
      rfl⟩
  | invalidated => exact ⟨_, _, .one before _ trivial⟩
  | established => exact ⟨_, _, .one before _ trivial⟩

theorem Step.records {before after : Ledger Wire} (hstep : Step protocol before after) :
    ∃ followers first, Records before after.history followers first := by
  cases hstep with
  | moved after hopen hmove => exact hmove.records
  | closing answer hopen => exact ⟨_, _, .one before _ trivial⟩

/-- Finishing an operation forgets no moment. -/
theorem suffix_of_finishes {before after : Ledger Wire}
    (hfinishes : Finishes protocol before after) :
    before.history <:+ after.history := by
  cases hfinishes with
  | continued operation next rest hpending hready herror hkind hqueue => exact List.suffix_cons _ _
  | uploaded operation deadline hpending hready herror hkind hqueue => exact List.suffix_cons _ _
  | startsImmediately operation upload encoded hpending hready herror hkind hactive himmediate
      hencoded => exact List.suffix_cons _ _
  | _ => exact List.suffix_refl _

/-- Every step extends the history. -/
theorem Step.suffix {before after : Ledger Wire} (hstep : Step protocol before after) :
    before.history <:+ after.history := by
  obtain ⟨followers, first, hrecords⟩ := hstep.records
  exact ⟨followers ++ first, by rw [hrecords.history_eq, List.append_assoc]⟩

/-- A path only extends the history. -/
theorem suffix_of_path {before after : Ledger Wire}
    (hpath : ReflTransGen (Step protocol) before after) : before.history <:+ after.history := by
  induction hpath with
  | refl => exact List.suffix_refl _
  | tail hpath hstep ih => exact ih.trans hstep.suffix

/-- A moment that begins a step is recorded at the ledger of that step, or was recorded before. -/
theorem Records.split {before : Ledger Wire} {history followers first : List (Moment Wire)}
    (hrecords : Records before history followers first) {newer older : List (Moment Wire)}
    {moment : Moment Wire} (hsplit : history = newer ++ moment :: older)
    (hfirst : moment.interaction.follows = false) :
    (first = [moment] ∧ before = ⟨moment.before, older⟩) ∨
      ∃ newer, before.history = newer ++ moment :: older := by
  have hrest : ∃ newer, first ++ before.history = newer ++ moment :: older := by
    rw [hrecords.history_eq, List.append_eq_append_iff] at hsplit
    rcases hsplit with ⟨middle, -, hmiddle⟩ | ⟨middle, hmiddle, hsame⟩
    · exact ⟨middle, hmiddle⟩
    · cases middle with
      | nil => exact ⟨[], hsame.symm⟩
      | cons other middle =>
        rw [List.cons_append, List.cons.injEq] at hsame
        have hfollows := hrecords.follows other (by rw [hmiddle]; simp)
        rw [← hsame.1, hfirst] at hfollows
        cases hfollows
  obtain ⟨newer, hrest⟩ := hrest
  rcases hrecords.first_eq with rfl | ⟨interaction, rfl, -⟩
  · exact .inr ⟨newer, hrest⟩
  · cases newer with
    | nil =>
      rw [List.nil_append, List.singleton_append, List.cons.injEq] at hrest
      exact .inl ⟨by rw [hrest.1], by rw [← hrest.1, ← hrest.2]⟩
    | cons other newer =>
      rw [List.cons_append, List.cons_append, List.nil_append, List.cons.injEq] at hrest
      exact .inr ⟨newer, hrest.2⟩

/-- Every moment of a path that begins a step was recorded by a step from a ledger on the path. -/
theorem step_of_split {start final : Ledger Wire}
    (hpath : ReflTransGen (Step protocol) start final) (hstart : start.history = [])
    {newer older : List (Moment Wire)} {moment : Moment Wire}
    (hsplit : final.history = newer ++ moment :: older)
    (hfirst : moment.interaction.follows = false) :
    ∃ next followers, ReflTransGen (Step protocol) start ⟨moment.before, older⟩ ∧
      Step protocol ⟨moment.before, older⟩ next ∧
      Records ⟨moment.before, older⟩ next.history followers [moment] ∧
      ReflTransGen (Step protocol) next final := by
  induction hpath generalizing newer with
  | refl =>
    rw [hstart] at hsplit
    exact absurd hsplit.symm (List.append_ne_nil_of_right_ne_nil _ (List.cons_ne_nil _ _))
  | @tail middle final hpath hstep ih =>
    obtain ⟨followers, first, hrecords⟩ := hstep.records
    rcases hrecords.split hsplit hfirst with ⟨rfl, rfl⟩ | ⟨earlier, hearlier⟩
    · exact ⟨final, followers, hpath, hstep, hrecords, .refl⟩
    · obtain ⟨next, followers, hto, hnext, hrecorded, hfrom⟩ := ih hearlier
      exact ⟨next, followers, hto, hnext, hrecorded, hfrom.tail hstep⟩

end HilRig.Protocol
