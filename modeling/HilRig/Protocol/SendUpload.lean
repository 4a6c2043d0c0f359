import HilRig.Protocol.ControlRejection
import HilRig.Protocol.ExactLowering
import HilRig.Protocol.HeldUpload
import HilRig.Protocol.RefusedRequests

/-!
# Sending an upload

`sendUpload` queues an upload and services the connection until the firmware has accepted it or the
timeout has passed. What it returns is about this very upload, whatever the connection did before
and whatever the passes bring (`acceptedUpload_of_sendUpload`), and it ends once the clock has
passed the deadline (`sendUpload_ends`).
-/

set_option autoImplicit false
set_option relaxedAutoImplicit false

namespace HilRig.Protocol

open HilRig.Api (fanTest)
open HilRig.Models HilRig.Results HilRig.Foundations Relation

variable {Wire : Type} (protocol : NativeProtocol Wire)

/-- How waiting for an acceptance comes out: the attempt that was accepted, the timeout error, or
that all the passes there were are over. -/
inductive Sent
  | accepted (attempt : UploadAttempt)
  | timedOut
  | waiting

/-- Service until the upload is accepted; the clock is read after each pass. -/
def awaitAcceptance (attempt : UploadAttempt) (deadline : ℕ) :
    List (ServicePass Wire) → Action Wire Sent
  | [] => do
    if (← current).uploadAccepted then return .accepted attempt else return .waiting
  | pass :: passes => do
    if (← current).uploadAccepted then return .accepted attempt
    else
      let _ ← service protocol { pass with operatingMode := none }
      let now ← monotonic
      -- an acceptance by this very pass comes too late
      if deadline ≤ now then return .timedOut
      else awaitAcceptance attempt deadline passes

/-- Service until firmware semantically accepts the complete sparse upload. -/
def sendUpload (compiledTest : CompiledTestIR) (uploadAttempt : Option UploadAttempt)
    (draws : List (Fin (2 ^ 128))) (session : SessionState) (timeout pollInterval : ℤ)
    (passes : List (ServicePass Wire)) : Action Wire Sent := do
  if timeout ≤ 0 then throw (.value "timeout_s must be a positive number")
  else if pollInterval < 0 then
    throw (.value "poll_interval_s must be a non-negative number")
  else
    let attempt ← queueUpload protocol compiledTest uploadAttempt draws session
    let now ← monotonic
    awaitAcceptance protocol attempt (now + timeout.toNat) passes

variable {protocol} {compiledTest : CompiledTestIR} {uploadAttempt : Option UploadAttempt}
  {draws : List (Fin (2 ^ 128))} {session : SessionState} {timeout pollInterval : ℤ}
  {passes : List (ServicePass Wire)} {attempt : UploadAttempt} {outcome : Sent}
  {host after : Host Wire}

/-- The clock reading taken last. -/
def Host.lastReading (host : Host Wire) : ℕ :=
  host.clock (host.readings - 1)

/-! ### Queueing -/

/-- What queueing has done when it returns an attempt. -/
structure QueuedBy (compiledTest : CompiledTestIR) (attempt : UploadAttempt)
    (host after : Host Wire) (upload : FixedIOUploadMessages) (encoded : List Wire) : Prop where
  isOpen : host.connection.closed = false
  idle : host.connection.activeUpload = none
  fresh : upload.id ∉ host.connection.retiredApplicationTestIds
  attempt_eq : upload.uploadAttempt = attempt
  queued : Queued after.history compiledTest upload encoded
  holding : Holding host.clock host.readings upload after
  unaccepted : after.connection.uploadAccepted = false

/-- What is held on to once the clock was read, too. -/
theorem QueuedBy.holding_read {upload : FixedIOUploadMessages} {encoded : List Wire}
    (hqueued : QueuedBy compiledTest attempt host after upload encoded) :
    Holding host.clock after.read.readings upload after.read :=
  ⟨hqueued.holding.clock_eq, le_rfl, hqueued.holding.active_eq⟩

/-- Advancing leaves the acceptance of an upload alone. -/
theorem unchanged_uploadAccepted :
    Unchanged (fun host : Host Wire ↦ host.connection.uploadAccepted)
      (advanceWorkflow protocol session) := by
  have hcurrent : Unchanged (fun host : Host Wire ↦ host.connection.uploadAccepted)
      (current : Action Wire (Connection Wire)) := fun _ ↦ rfl
  have hactivate (operation : ApplicationOperation Wire) :
      Unchanged (fun host : Host Wire ↦ host.connection.uploadAccepted)
        (activateOperation operation) :=
    .bind hcurrent fun _ ↦ .ite (.throw _) (.bind (fun _ ↦ rfl) fun _ _ ↦ rfl)
  refine .bind hcurrent fun connection ↦ .ite (.pure ()) (.ite ?_ ?_)
  · refine .bind ?_ fun _ ↦ hactivate _
    cases protocol.encode buildSystemInfoRequest with
    | ok encoded => exact .pure encoded
    | error error => exact .throw error
  · cases connection.uploadOperations with
    | nil => exact .pure ()
    | cons next rest => exact .bind (fun _ ↦ rfl) fun _ ↦ hactivate next

/-- What the checks of a queued upload have established. -/
theorem checked_of_prepareUpload {connection : Connection Wire}
    {prepared : FixedIOUploadMessages × List Wire}
    (hprepared : prepareUpload protocol connection compiledTest uploadAttempt draws =
      .ok prepared) :
    connection.closed = false ∧ connection.activeUpload = none ∧
      prepared.1.id ∉ connection.retiredApplicationTestIds := by
  obtain ⟨hopen, hprepared⟩ := ite_error_eq_ok.1 hprepared
  obtain ⟨hidle, hprepared⟩ := ite_error_eq_ok.1 hprepared
  obtain ⟨-, hprepared⟩ := ite_error_eq_ok.1 hprepared
  obtain ⟨attempt, -, hprepared⟩ := bind_eq_ok.1 hprepared
  obtain ⟨upload, -, hprepared⟩ := bind_eq_ok.1 hprepared
  obtain ⟨hfresh, hprepared⟩ := ite_error_eq_ok.1 hprepared
  obtain ⟨-, hprepared⟩ := ite_error_eq_ok.1 hprepared
  obtain ⟨encoded, -, hprepared⟩ := bind_eq_ok.1 hprepared
  obtain rfl := pure_eq_ok.1 hprepared
  exact ⟨Bool.eq_false_iff.2 hopen,
    Option.not_isSome_iff_eq_none.1 fun hactive ↦ hidle (.inl hactive), hfresh⟩

/-- A computation of moves that returns has taken steps, and has left the connection open. -/
theorem steps_of_ok {α : Type} {action : Action Wire α} {value : α} (hmoves : Moves protocol action)
    (hrun : action host = .ok value after) (hopen : host.connection.closed = false) :
    ReflTransGen (Step protocol) host.toLedger after.toLedger ∧
      after.connection.closed = false := by
  have hpath := hmoves host
  rw [finalState_of_ok hrun] at hpath
  exact steps_of_moves hopen hpath

theorem queuedBy_of_queueUpload
    (hqueue : queueUpload protocol compiledTest uploadAttempt draws session host =
      .ok attempt after) :
    ∃ upload encoded, QueuedBy compiledTest attempt host after upload encoded := by
  rw [queueUpload_eq] at hqueue
  cases hprepared : prepareUpload protocol host.connection compiledTest uploadAttempt draws with
  | error error =>
    rw [hprepared] at hqueue
    cases hqueue
  | ok prepared =>
    obtain ⟨hopen, hidle, hfresh⟩ := checked_of_prepareUpload hprepared
    rw [hprepared, run_bind_of_ok (rfl : obtainResult (.ok prepared) host = .ok prepared host)]
      at hqueue
    obtain ⟨_, _, hobserved, hupdate⟩ := run_bind_eq_ok.1 hqueue
    obtain ⟨_, _, hupdated, hadvance⟩ := run_bind_eq_ok.1 hupdate
    obtain ⟨_, _, hadvanced, hreturned⟩ := run_bind_eq_ok.1 hadvance
    cases hobserved
    cases hupdated
    cases hreturned
    have hfinal := finalState_of_ok hadvanced
    refine ⟨prepared.1, prepared.2, hopen, hidle, hfresh, rfl, ?_, ?_, ?_⟩
    · have hsteps := (steps_of_ok (Serves.advanceWorkflow session).moves hadvanced hopen).1
      exact ⟨host.connection, (suffix_of_path hsteps).subset List.mem_cons_self⟩
    · rw [← hfinal]
      refine Holds.advanceWorkflow protocol session _ ⟨rfl, le_rfl, fun active hactive ↦ ?_⟩
      exact (Option.some.inj hactive).symm
    · rw [← hfinal]
      exact unchanged_uploadAccepted _

/-! ### Waiting -/

/-- How waiting until a deadline has ended. -/
inductive Ended (attempt : UploadAttempt) (deadline : ℕ) (after : Host Wire) : Sent → Prop
  | accepted (haccepted : after.connection.uploadAccepted = true)
      (hearly : after.lastReading < deadline) : Ended attempt deadline after (.accepted attempt)
  | timedOut (hlate : deadline ≤ after.lastReading) : Ended attempt deadline after .timedOut
  | waiting (hearly : after.lastReading < deadline) : Ended attempt deadline after .waiting

variable {clock : ℕ → ℕ} {start deadline : ℕ} {upload : FixedIOUploadMessages}

theorem moves_awaitAcceptance (passes : List (ServicePass Wire)) :
    Moves protocol (awaitAcceptance protocol attempt deadline passes) := by
  induction passes with
  | nil => exact Follows.bind Serves.current.moves fun _ ↦ .ite (.pure _) (.pure _)
  | cons pass passes ih =>
    refine Follows.bind Serves.current.moves fun _ ↦ .ite (.pure _) ?_
    refine Follows.bind (Serves.service _).moves fun _ ↦ Follows.bind ?_ fun _ ↦ .ite (.pure _) ih
    exact .of_view_eq fun _ ↦ rfl

theorem holds_awaitAcceptance (passes : List (ServicePass Wire)) :
    Holds clock start upload (awaitAcceptance protocol attempt deadline passes) := by
  induction passes with
  | nil => exact .bind .current fun _ ↦ .ite (.pure _) (.pure _)
  | cons pass passes ih =>
    exact .bind .current fun _ ↦ .ite (.pure _)
      (.bind (.service protocol _) fun _ ↦ .bind .monotonic fun _ ↦ .ite (.pure _) ih)

/-- Waiting ends in time or too late, and goes on only after all the passes there were. -/
theorem ended_of_awaitAcceptance (hholding : Holding clock host.readings upload host)
    (hstart : host.lastReading < deadline)
    (hawait : awaitAcceptance protocol attempt deadline passes host = .ok outcome after) :
    Ended attempt deadline after outcome ∧
      (outcome = .waiting → host.readings + passes.length ≤ after.readings) := by
  induction passes generalizing host with
  | nil =>
    rw [awaitAcceptance, run_current_bind] at hawait
    by_cases haccepted : host.connection.uploadAccepted = true
    · rw [if_pos haccepted] at hawait
      cases hawait
      exact ⟨.accepted haccepted hstart, Sent.noConfusion⟩
    · rw [if_neg haccepted] at hawait
      cases hawait
      exact ⟨.waiting hstart, fun _ ↦ le_rfl⟩
  | cons pass passes ih =>
    rw [awaitAcceptance, run_current_bind] at hawait
    by_cases haccepted : host.connection.uploadAccepted = true
    · rw [if_pos haccepted] at hawait
      cases hawait
      exact ⟨.accepted haccepted hstart, Sent.noConfusion⟩
    · rw [if_neg haccepted] at hawait
      obtain ⟨_, serviced, hserviced, hclocked⟩ := run_bind_eq_ok.1 hawait
      have hheld := (Holds.service protocol _).of_ok hserviced hholding
      have hread : (if deadline ≤ serviced.clock serviced.readings then
          (pure .timedOut : Action Wire Sent)
        else awaitAcceptance protocol attempt deadline passes) serviced.read =
          .ok outcome after := hclocked
      by_cases hlate : deadline ≤ serviced.clock serviced.readings
      · rw [if_pos hlate] at hread
        cases hread
        exact ⟨.timedOut hlate, Sent.noConfusion⟩
      · rw [if_neg hlate] at hread
        obtain ⟨hended, hpasses⟩ :=
          @ih serviced.read ⟨hheld.clock_eq, le_rfl, hheld.active_eq⟩ (Nat.lt_of_not_le hlate) hread
        refine ⟨hended, fun hwaiting ↦ ?_⟩
        have hmore : serviced.readings + 1 + passes.length ≤ after.readings := hpasses hwaiting
        have hfirst := hheld.start_le
        rw [List.length_cons]
        omega

/-! ### The whole call -/

/-- The deadline is set after the clock was read. -/
theorem lastReading_lt_deadline (host : Host Wire) (htimeout : 0 < timeout) :
    host.read.lastReading < host.clock host.readings + timeout.toNat := by
  show host.clock host.readings < host.clock host.readings + timeout.toNat
  omega

theorem moves_sendUpload :
    Moves protocol (sendUpload protocol compiledTest uploadAttempt draws session timeout
      pollInterval passes) := by
  refine .ite (.throw _) (.ite (.throw _) ?_)
  refine Follows.bind (Serves.queueUpload _ _ _ _).moves fun _ ↦ Follows.bind ?_ fun now ↦
    moves_awaitAcceptance passes
  exact .of_view_eq fun _ ↦ rfl

/-- A call that returns has queued an upload, and has then waited for its acceptance. -/
theorem queuedBy_of_sendUpload
    (hsent : sendUpload protocol compiledTest uploadAttempt draws session timeout pollInterval
      passes host = .ok outcome after) :
    ∃ attempt upload encoded queued, QueuedBy compiledTest attempt host queued upload encoded ∧
      queueUpload protocol compiledTest uploadAttempt draws session host = .ok attempt queued ∧
      queued.connection.closed = false ∧ 0 < timeout ∧
      awaitAcceptance protocol attempt (queued.clock queued.readings + timeout.toNat) passes
        queued.read = .ok outcome after := by
  unfold sendUpload at hsent
  by_cases hpositive : timeout ≤ 0
  · rw [if_pos hpositive] at hsent
    cases hsent
  by_cases hnegative : pollInterval < 0
  · rw [if_neg hpositive, if_pos hnegative] at hsent
    cases hsent
  rw [if_neg hpositive, if_neg hnegative] at hsent
  obtain ⟨attempt, queued, hqueue, hawait⟩ := run_bind_eq_ok.1 hsent
  obtain ⟨upload, encoded, hqueued⟩ := queuedBy_of_queueUpload hqueue
  have hopen := (steps_of_ok (Serves.queueUpload _ _ _ _).moves hqueue hqueued.isOpen).2
  exact ⟨attempt, upload, encoded, queued, hqueued, hqueue, hopen, Int.not_le.1 hpositive, hawait⟩

section Runs

variable {responseTimeout : ℕ} {clock : ℕ → ℕ} {builder : Option BuilderHandle}
  {calls : List (Call Wire)}

/-- A returned attempt is that of the upload which this call has queued and which no message was
submitted of before: in this call all its messages were submitted, in order, and delivered, and the
firmware has accepted the upload, which is the active one. This holds whatever the connection did
before, and every invariant of runs holds afterwards, as the call only takes steps. -/
theorem acceptedUpload_of_sendUpload
    (hhost : host = run protocol (Host.create responseTimeout clock builder) calls)
    (hsent : sendUpload protocol compiledTest uploadAttempt draws session timeout pollInterval
      passes host = .ok (.accepted attempt) after) :
    ReflTransGen (Step protocol) host.toLedger after.toLedger ∧
    ∃ upload encoded, upload.uploadAttempt = attempt ∧
      Queued after.history compiledTest upload encoded ∧
      submissions upload.id host.history = [] ∧
      encoded <+: submissions upload.id after.history ∧
      after.connection.activeUpload = some upload ∧
      after.connection.uploadAccepted = true ∧
      after.connection.uploadDeliveryComplete = true := by
  obtain ⟨queuedAttempt, upload, encoded, queued, hqueued, -, hopen, htimeout, hawait⟩ :=
    queuedBy_of_sendUpload hsent
  have hcreated : ReflTransGen (Step protocol)
      (Host.create responseTimeout clock builder : Host Wire).toLedger host.toLedger := by
    rw [hhost]
    exact run_path _ calls
  have hsteps := (steps_of_ok moves_sendUpload hsent hqueued.isOpen).1
  have hbefore := Supervised.of_path hcreated
  have hsupervised := Supervised.of_path (hcreated.trans hsteps)
  have hunsent : submissions upload.id host.history = [] := by
    have hforeign := hbefore.identified.foreign upload.id hqueued.fresh
      (by rw [Connection.activeId, hqueued.idle]; exact Option.some_ne_none _ ∘ Eq.symm)
    rw [submissions_eq_flatten _ _ hbefore.recorded.attributed, hforeign]
    rfl
  have hawaited := (steps_of_ok (moves_awaitAcceptance passes) hawait hopen).1
  have hours : Queued after.history compiledTest upload encoded := by
    obtain ⟨moment, hmem⟩ := hqueued.queued
    exact ⟨moment, (suffix_of_path hawaited).subset hmem⟩
  have hheld := (holds_awaitAcceptance passes).of_ok hawait hqueued.holding_read
  obtain ⟨hended, -⟩ := ended_of_awaitAcceptance hqueued.holding_read
    (lastReading_lt_deadline queued htimeout) hawait
  cases hended with
  | accepted haccepted hearly =>
    obtain ⟨otherTest, other, otherEncoded, hother, hactive, hsubmitted, hcomplete⟩ :=
      hsupervised.accepted haccepted
    obtain rfl := hheld.active_eq other hactive
    obtain ⟨-, hencoded, -⟩ := hsupervised.identified.registered _ _ _ hours
    obtain ⟨-, hotherEncoded, -⟩ := hsupervised.identified.registered _ _ _ hother
    rw [hencoded] at hotherEncoded
    cases hotherEncoded
    exact ⟨hsteps, other, encoded, hqueued.attempt_eq, hours, hunsent, hsubmitted, hactive,
      haccepted, hcomplete⟩

/-- A run whose upload was executed for one tick and then aborted. -/
def abortedCalls : List (Call (OutboundMessage ⊕ InboundMessage)) :=
  startedCalls ++
    [resultsCall [0], .abort, .service { submitStatus := .ok .ok },
      .service { firstDrain := ⟨[.deliveryConfirmed],
        [responseFrame .executionControl .completed .abort]⟩ }]

/-- An acceptance of a part of the fan test. -/
def fanFrame (scope : ResponseScope) (tick : ℕ) : Frame (OutboundMessage ⊕ InboundMessage) :=
  ⟨.inr (.applicationResponse
    { testId := some ⟨List.replicate 15 0 ++ [9]⟩, scope := scope, outcome := .accepted,
      tickNumber := tick }),
    .ok ()⟩

/-- The passes of an undisturbed upload of the fan test: its configuration is submitted and
accepted, then each of its three ticks, and then the complete test is accepted. -/
def fanPasses : List (ServicePass (OutboundMessage ⊕ InboundMessage)) :=
  [{ submitStatus := .ok .ok },
    { firstDrain := ⟨[.deliveryConfirmed], [fanFrame .testConfiguration 0]⟩
      submitStatus := .ok .ok },
    { firstDrain := ⟨[.deliveryConfirmed], [fanFrame .tick 0]⟩
      submitStatus := .ok .ok },
    { firstDrain := ⟨[.deliveryConfirmed], [fanFrame .tick 5]⟩
      submitStatus := .ok .ok },
    { firstDrain := ⟨[.deliveryConfirmed], [fanFrame .tick 7]⟩ },
    { firstDrain := ⟨[], [fanFrame .completeTest 0]⟩ }]

/-- The identifier of the attempt that a call returned, and the messages of its upload. -/
def acceptedUpload (result : EStateM.Result HilRigError (Host Wire) Sent) : Option (ℕ × ℕ) :=
  match result with
  | .ok (.accepted attempt) after =>
    some (attempt.applicationTestId, after.connection.uploadMessageCount)
  | _ => none

theorem accepted_of_acceptedUpload {result : EStateM.Result HilRigError (Host Wire) Sent}
    {id messages : ℕ} (haccepted : acceptedUpload result = some (id, messages)) :
    ∃ attempt after, result = .ok (.accepted attempt) after ∧ attempt.applicationTestId = id ∧
      after.connection.uploadMessageCount = messages := by
  unfold acceptedUpload at haccepted
  split at haccepted
  · obtain ⟨rfl, rfl⟩ := Prod.mk.inj (Option.some.inj haccepted)
    exact ⟨_, _, rfl, rfl, rfl⟩
  · cases haccepted

/-- After an aborted upload a call uploads the fan test: its configuration and three ticks. -/
theorem acceptedUpload_of_sendUpload_fanPasses :
    ∃ host : Host (OutboundMessage ⊕ InboundMessage),
      host = run directCodec (Host.create 5 (fun _ ↦ 0) none) abortedCalls ∧
      host.connection.workflowState = .aborted ∧
      ∃ attempt after, sendUpload directCodec fanTest.plan (some fanAttempt) [] .established 10 1
          fanPasses host = .ok (.accepted attempt) after ∧
        attempt.applicationTestId = 9 ∧ after.connection.uploadMessageCount = 4 ∧
        ReflTransGen (Step directCodec) host.toLedger after.toLedger ∧
        ∃ upload encoded, upload.uploadAttempt = attempt ∧
          Queued after.history fanTest.plan upload encoded ∧
          submissions upload.id host.history = [] ∧
          encoded <+: submissions upload.id after.history ∧
          after.connection.activeUpload = some upload ∧
          after.connection.uploadAccepted = true ∧
          after.connection.uploadDeliveryComplete = true := by
  have haccepted : acceptedUpload (sendUpload directCodec fanTest.plan (some fanAttempt) []
      .established 10 1 fanPasses
        (run directCodec (Host.create 5 (fun _ ↦ 0) none) abortedCalls)) = some (9, 4) := by
    decide +kernel
  obtain ⟨attempt, after, hsent, hid, hmessages⟩ := accepted_of_acceptedUpload haccepted
  exact ⟨_, rfl, by decide +kernel, attempt, after, hsent, hid, hmessages,
    acceptedUpload_of_sendUpload rfl hsent⟩

/-- Whether a call timed out. -/
def hasTimedOut (result : EStateM.Result HilRigError (Host Wire) Sent) : Bool :=
  match result with
  | .ok .timedOut _ => true
  | _ => false

theorem timedOut_of_hasTimedOut {result : EStateM.Result HilRigError (Host Wire) Sent}
    (htimedOut : hasTimedOut result = true) : ∃ after, result = .ok .timedOut after := by
  unfold hasTimedOut at htimedOut
  split at htimedOut
  · exact ⟨_, rfl⟩
  · cases htimedOut

end Runs

end HilRig.Protocol
