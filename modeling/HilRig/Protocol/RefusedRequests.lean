import HilRig.Foundations.AtomicUpdate
import HilRig.Protocol.Service

/-!
# Refused requests

A request of the caller checks the connection, then builds and encodes its messages, and only then
assigns. `start`, `abort`, `resetApplication` and `bindResultBuilder` raise before their first
assignment or not at all (`connection_of_start_error` and its siblings); what they leave of a
refused request is its record in the history. `queueUpload` is split at its first assignment:
`prepareUpload` is everything before it, a value that depends on the connection alone
(`queueUpload_eq`). After it, the only thing that can still raise is the discovery request of a
session that is not confirmed, which is not a message of the upload
(`encode_of_advanceWorkflow_error`).
-/

set_option autoImplicit false
set_option relaxedAutoImplicit false

namespace HilRig.Protocol

open HilRig.Models HilRig.Results HilRig.Foundations

section Requests

variable {Wire α : Type} {host : Host Wire}

/-! ### Checks and encodings change nothing -/

theorem obtainResult_atomically (result : Except HilRigError α) :
    Atomically host (obtainResult result) fun value after ↦ after = host ∧ result = .ok value := by
  cases result with
  | ok value => exact atomically_pure ⟨rfl, rfl⟩
  | error error => exact atomically_throw error

theorem atomically_current_bind {rest : Connection Wire → Action Wire α}
    {post : α → Host Wire → Prop} (hrest : Atomically host (rest host.connection) post) :
    Atomically host (current >>= rest) post :=
  hrest

theorem requireOpen_atomically :
    Atomically host requireOpen fun _ after ↦ after = host ∧ host.connection.closed = false := by
  refine atomically_current_bind ?_
  by_cases hclosed : host.connection.closed = true
  · rw [if_pos hclosed]
    exact atomically_throw _
  · rw [if_neg hclosed]
    exact atomically_pure ⟨rfl, by simpa using hclosed⟩

theorem requireNoPendingOperation_atomically :
    Atomically host requireNoPendingOperation fun _ after ↦
      after = host ∧ host.connection.pendingOperation = none := by
  refine atomically_current_bind ?_
  by_cases hpending : host.connection.pendingOperation.isSome ∨
      host.connection.transportDeliveryPending
  · rw [if_pos hpending]
    exact atomically_throw _
  · rw [if_neg hpending]
    exact atomically_pure ⟨rfl, by simpa using (not_or.1 hpending).1⟩

/-- The check comes before the assignment, and nothing after the assignment raises. -/
theorem activateOperation_atomically (operation : ApplicationOperation Wire) :
    Atomically host (activateOperation operation) fun _ after ↦
      after.connection = host.connection.activate operation := by
  refine atomically_current_bind ?_
  by_cases hpending : host.connection.pendingOperation.isSome
  · rw [if_pos hpending]
    exact atomically_throw _
  · rw [if_neg hpending]
    rfl

/-- A request recorded in the history that then changes all or nothing leaves the connection alone
when it raises. -/
theorem connection_of_observe {interaction : Interaction Wire} {rest : Action Wire α}
    (hrest : Atomically (host.note interaction) rest fun _ _ ↦ True) {error : HilRigError}
    {after : Host Wire}
    (hrun : (requireOpen >>= fun _ ↦ observe interaction >>= fun _ ↦ rest) host =
      .error error after) :
    after.connection = host.connection := by
  cases hopen : requireOpen host with
  | error refusal unchanged =>
    rw [run_bind_of_error hopen, EStateM.Result.error.injEq] at hrun
    rw [← hrun.2, requireOpen_atomically.of_error hopen]
  | ok _ opened =>
    rw [run_bind_of_ok hopen, (requireOpen_atomically.of_ok hopen).1] at hrun
    rw [hrest.of_error hrun, Host.note_connection]

/-! ### Requests of one message -/

section Codec

variable (protocol : NativeProtocol Wire)

theorem queueStart_atomically :
    Atomically host (queueStart protocol) fun _ _ ↦ True := by
  refine atomically_current_bind ?_
  cases host.connection.activeUpload with
  | none => exact atomically_throw _
  | some upload =>
    refine (obtainResult_atomically _).bind fun encoded _ ↦ ?_
    exact (activateOperation_atomically _).mono fun _ _ _ ↦ trivial

/-- One message is checked for, encoded and activated, in that order. -/
theorem requestOperation_atomically (message : OutboundMessage)
    (operation : Wire → ApplicationOperation Wire) :
    Atomically host (do
      requireNoPendingOperation
      let encoded ← obtainResult (protocol.encode message)
      activateOperation (operation encoded)) fun _ _ ↦ True := by
  refine requireNoPendingOperation_atomically.bind fun _ _ ↦ ?_
  refine (obtainResult_atomically _).bind fun encoded _ ↦ ?_
  exact (activateOperation_atomically _).mono fun _ _ _ ↦ trivial

variable {error : HilRigError} {after : Host Wire}

theorem connection_of_bindResultBuilder_error {builder : BuilderHandle} {replace : Bool}
    (hrun : Protocol.bindResultBuilder builder replace host = .error error after) :
    after.connection = host.connection := by
  have hatomic : Atomically host (Protocol.bindResultBuilder builder replace)
      fun _ _ ↦ True := by
    refine requireOpen_atomically.bind fun _ _ ↦ ?_
    refine atomically_current_bind ?_
    split_ifs
    · exact atomically_throw _
    · exact atomically_throw _
    · exact atomically_throw _
    · trivial
  rw [hatomic.of_error hrun]

theorem connection_of_start_error (hrun : start protocol host = .error error after) :
    after.connection = host.connection := by
  refine connection_of_observe ?_ hrun
  refine atomically_current_bind ?_
  rw [Host.note_connection]
  cases host.connection.activeUpload with
  | none => exact atomically_throw _
  | some upload =>
    simp only
    split_ifs
    · exact atomically_throw _
    · exact atomically_throw _
    · exact requireNoPendingOperation_atomically.bind fun _ _ ↦ queueStart_atomically protocol

theorem connection_of_abort_error (hrun : abort protocol host = .error error after) :
    after.connection = host.connection := by
  refine connection_of_observe ?_ hrun
  refine atomically_current_bind ?_
  rw [Host.note_connection]
  cases host.connection.activeUpload with
  | none => exact atomically_throw _
  | some upload => exact requestOperation_atomically protocol _ _

theorem connection_of_resetApplication_error
    (hrun : resetApplication protocol host = .error error after) :
    after.connection = host.connection := by
  refine connection_of_observe ?_ hrun
  refine atomically_current_bind ?_
  split_ifs
  · exact requestOperation_atomically protocol _ _
  · exact atomically_throw _

/-! ### Queueing an upload -/

/-- Everything `queueUpload` does before its first assignment: its checks, the choice of the
attempt, and the building and encoding of every message of the upload. -/
def prepareUpload (connection : Connection Wire) (compiledTest : CompiledTestIR)
    (uploadAttempt : Option UploadAttempt) (draws : List (Fin (2 ^ 128))) :
    Except HilRigError (FixedIOUploadMessages × List Wire) := do
  if connection.closed then
    throw (.session "The fixed-I/O protocol connection is closed")
  else if connection.activeUpload.isSome ∨ connection.uploadOperations ≠ [] then
    throw (.session "An Application upload is already active")
  else if connection.pendingOperation.any fun operation ↦ operation.kind ≠ .discovery then
    throw (.session "Another Application operation is already in progress")
  else
    let attempt ← chooseUploadAttempt compiledTest uploadAttempt connection.resultAdapter
    let upload ← buildUpload compiledTest attempt draws
    if upload.uploadAttempt.applicationTestId ∈ connection.retiredApplicationTestIds then
      throw (.value ("upload_attempt reuses an abandoned Application Test ID; restart the " ++
        "UploadAttempt and bind a builder for the fresh ID"))
    else if builderMismatch compiledTest upload connection.resultAdapter then
      throw (.value ("upload attempt does not match the captured-run builder's definition " ++
        "and Application Test IDs"))
    else
      let encoded ← encodeUpload protocol upload
      return (upload, encoded)

/-- Everything `queueUpload` does with a prepared upload. -/
def admitUpload (compiledTest : CompiledTestIR) (session : SessionState)
    (prepared : FixedIOUploadMessages × List Wire) : Action Wire UploadAttempt := do
  observe (.uploadQueued compiledTest prepared.1 prepared.2)
  update fun connection ↦ connection.enqueueUpload prepared.1 prepared.2
  advanceWorkflow protocol session
  return prepared.1.uploadAttempt

variable {compiledTest : CompiledTestIR} {uploadAttempt : Option UploadAttempt}
  {draws : List (Fin (2 ^ 128))} {session : SessionState}

/-! A fallible computation is obtained step by step. -/

section Obtain

variable {β : Type} {condition : Prop} [Decidable condition]

theorem obtainResult_bind (result : Except HilRigError α) (rest : α → Except HilRigError β) :
    (obtainResult (result >>= rest) : Action Wire β) =
      obtainResult result >>= fun value ↦ obtainResult (rest value) := by
  cases result <;> rfl

theorem obtainResult_ite (first second : Except HilRigError α) :
    (obtainResult (if condition then first else second) : Action Wire α) =
      if condition then obtainResult first else obtainResult second :=
  apply_ite obtainResult condition first second

theorem obtainResult_throw (error : HilRigError) :
    (obtainResult (throw error : Except HilRigError α) : Action Wire α) = throw error :=
  rfl

theorem obtainResult_pure (value : α) :
    (obtainResult (pure value : Except HilRigError α) : Action Wire α) = pure value :=
  rfl

theorem throw_bind (error : HilRigError) (rest : α → Action Wire β) :
    (throw error : Action Wire α) >>= rest = throw error :=
  rfl

theorem ite_bind (first second : Action Wire α) (rest : α → Action Wire β) :
    (if condition then first else second) >>= rest =
      if condition then first >>= rest else second >>= rest :=
  apply_ite (· >>= rest) condition first second

end Obtain

theorem run_requireOpen_bind (rest : Unit → Action Wire α) :
    (requireOpen >>= rest) host =
      if host.connection.closed = true then
        .error (.session "The fixed-I/O protocol connection is closed") host
      else rest () host := by
  show ((if host.connection.closed then throw _ else pure () : Action Wire Unit) >>= rest) host = _
  rw [ite_bind, throw_bind, pure_bind]
  split_ifs
  · rfl
  · rfl

/-- The upload is prepared before anything is assigned. -/
theorem queueUpload_eq :
    queueUpload protocol compiledTest uploadAttempt draws session host =
      (obtainResult (prepareUpload protocol host.connection compiledTest uploadAttempt draws) >>=
        admitUpload protocol compiledTest session) host := by
  unfold queueUpload prepareUpload
  simp only [obtainResult_ite, obtainResult_throw, obtainResult_bind, obtainResult_pure,
    ite_bind, throw_bind, bind_assoc, pure_bind, run_requireOpen_bind]
  by_cases hclosed : host.connection.closed = true
  · rw [if_pos hclosed, if_pos hclosed]
    rfl
  · rw [if_neg hclosed, if_neg hclosed]
    rfl

/-- Nothing refuses an operation while none is pending. -/
theorem run_activateOperation {operation : ApplicationOperation Wire}
    (hpending : host.connection.pendingOperation = none) :
    activateOperation operation host =
      .ok () ((host.note (.activated operation)).change (·.activate operation)) := by
  unfold activateOperation
  rw [run_current_bind, if_neg (by simp [hpending])]
  rfl

/-- Advancing the workflow raises only when a discovery request cannot be encoded. -/
theorem encode_of_advanceWorkflow_error
    (hrun : advanceWorkflow protocol session host = .error error after) :
    protocol.encode buildSystemInfoRequest = .error error := by
  unfold advanceWorkflow at hrun
  rw [run_current_bind] at hrun
  by_cases hidle : host.connection.pendingOperation.isSome ∨ session ≠ .established
  · rw [if_pos hidle] at hrun
    cases hrun
  · rw [if_neg hidle] at hrun
    have hpending : host.connection.pendingOperation = none := by simpa using (not_or.1 hidle).1
    by_cases hconfirmed : host.connection.sessionConfirmed = true
    · rw [if_neg (not_not_intro hconfirmed)] at hrun
      cases hoperations : host.connection.uploadOperations with
      | nil =>
        rw [hoperations] at hrun
        cases hrun
      | cons next rest =>
        rw [hoperations] at hrun
        simp only at hrun
        rw [run_bind_of_ok (rfl : update _ host = .ok () _),
          run_activateOperation (by exact hpending)] at hrun
        cases hrun
    · rw [if_pos hconfirmed] at hrun
      cases hencoded : protocol.encode buildSystemInfoRequest with
      | ok encoded =>
        rw [hencoded, run_bind_of_ok (rfl : obtainResult (.ok encoded) host = .ok encoded host),
          run_activateOperation hpending] at hrun
        cases hrun
      | error refusal =>
        rw [hencoded, run_bind_of_error (rfl : obtainResult (.error refusal) host = _),
          EStateM.Result.error.injEq] at hrun
        rw [hrun.1]

/-- An admitted upload raises only with its advance of the workflow. -/
theorem encode_of_admitUpload_error {prepared : FixedIOUploadMessages × List Wire}
    (hrun : admitUpload protocol compiledTest session prepared host = .error error after) :
    protocol.encode buildSystemInfoRequest = .error error := by
  change (advanceWorkflow protocol session >>= fun _ ↦ pure prepared.1.uploadAttempt)
    ((host.note (.uploadQueued compiledTest prepared.1 prepared.2)).change
      (·.enqueueUpload prepared.1 prepared.2)) = _ at hrun
  cases hadvanced : advanceWorkflow protocol session
      ((host.note (.uploadQueued compiledTest prepared.1 prepared.2)).change
        (·.enqueueUpload prepared.1 prepared.2)) with
  | ok value advanced =>
    rw [run_bind_of_ok hadvanced] at hrun
    cases hrun
  | error refusal failed =>
    rw [run_bind_of_error hadvanced, EStateM.Result.error.injEq] at hrun
    rw [encode_of_advanceWorkflow_error protocol hadvanced, hrun.1]

/-! ### The refused requests -/

/-- A request that raises because of a failed check, of a message it cannot build or of one it
cannot encode leaves the connection as it was. The error of `queueUpload` is either that of
`prepareUpload`, and nothing has changed, or that of the discovery request which advancing the
workflow encodes once the upload is queued. -/
theorem connection_of_refused (host : Host Wire) (error : HilRigError) (after : Host Wire) :
    (∀ builder replace, Protocol.bindResultBuilder builder replace host = .error error after →
      after.connection = host.connection) ∧
    (∀ compiledTest uploadAttempt draws session,
      queueUpload protocol compiledTest uploadAttempt draws session host = .error error after →
        prepareUpload protocol host.connection compiledTest uploadAttempt draws = .error error ∧
            after.connection = host.connection ∨
          (∃ prepared, prepareUpload protocol host.connection compiledTest uploadAttempt draws =
              .ok prepared) ∧
            protocol.encode buildSystemInfoRequest = .error error) ∧
    (start protocol host = .error error after → after.connection = host.connection) ∧
    (abort protocol host = .error error after → after.connection = host.connection) ∧
    (resetApplication protocol host = .error error after →
      after.connection = host.connection) := by
  refine ⟨fun _ _ ↦ connection_of_bindResultBuilder_error, ?_,
    connection_of_start_error protocol, connection_of_abort_error protocol,
    connection_of_resetApplication_error protocol⟩
  intro compiledTest uploadAttempt draws session hrun
  rw [queueUpload_eq] at hrun
  cases hprepared : prepareUpload protocol host.connection compiledTest uploadAttempt draws with
  | error refusal =>
    rw [hprepared, run_bind_of_error (rfl : obtainResult (.error refusal) host = _),
      EStateM.Result.error.injEq] at hrun
    exact .inl ⟨by rw [hrun.1], by rw [hrun.2]⟩
  | ok prepared =>
    rw [hprepared, run_bind_of_ok (rfl : obtainResult (.ok prepared) host = .ok prepared host)]
      at hrun
    exact .inr ⟨⟨prepared, rfl⟩, encode_of_admitUpload_error protocol hrun⟩

end Codec

end Requests

end HilRig.Protocol
