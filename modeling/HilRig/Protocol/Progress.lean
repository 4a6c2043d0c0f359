import HilRig.Protocol.UploadContract

/-!
# A pending operation can still move

Discovery is activated only when nothing is pending, and another operation's messages are submitted
only in a confirmed session, so an operation that becomes pending with an unsent message while the
session is unconfirmed blocks both. `Connection.Movable` excludes such a state. `Strands` lists the
steps that reach one: neither `abort` nor `start` asks whether the session is confirmed, a session
may be established while a message is unsent, and an upload goes on to its next message whatever
the session. `movable_run` says that these are all.
-/

set_option autoImplicit false
set_option relaxedAutoImplicit false

namespace HilRig.Protocol

open HilRig.Models HilRig.Results HilRig.Foundations

variable {Wire : Type} {protocol : NativeProtocol Wire}

/-- Some step can still move the pending operation: a message left to send may be submitted once the
Transport session is established, and a missing response has a deadline. -/
structure Connection.Movable (connection : Connection Wire) : Prop where
  submittable : ∀ operation, connection.pendingOperation = some operation →
    operation.everyMessageSubmitted = false → connection.transportDeliveryPending = false →
      operation.kind = .discovery ∨ connection.sessionConfirmed = true
  deadline : ∀ operation, connection.pendingOperation = some operation →
    operation.everyMessageSubmitted = true → connection.transportDeliveryPending = false →
      operation.responseReceived = false → operation.responseDeadline.isSome

/-! ### Steps that strand an operation -/

/-- A confirmation or a response that completes the pending operation. -/
inductive Completes (connection : Connection Wire) (operation : ApplicationOperation Wire) :
    Interaction Wire → Prop
  | confirmed (hpending : connection.pendingOperation = some operation)
      (hdelivery : connection.transportDeliveryPending = true)
      (hsubmitted : operation.everyMessageSubmitted = true)
      (herror : operation.responseError = none) (hreceived : operation.responseReceived = true) :
      Completes connection operation (.event .deliveryConfirmed)
  | answered (scope : ResponseScope) (message : ApplicationResponse)
      (hpending : connection.pendingOperation = some operation)
      (hdelivery : connection.transportDeliveryPending = false)
      (hsubmitted : operation.everyMessageSubmitted = true)
      (herror : operation.responseError = none)
      (hscope : operation.kind.expectedScope = some scope)
      (hmatch : responseMismatch operation scope message = .ok none)
      (hsuccess : message.outcome = operation.kind.successfulOutcome) :
      Completes connection operation (.message (.applicationResponse message))

/-- The steps after which an operation other than discovery has a message to send and the session is
not confirmed. -/
inductive Strands (protocol : NativeProtocol Wire) (connection : Connection Wire) :
    Interaction Wire → Prop
  | aborting (upload : FixedIOUploadMessages) (encoded : Wire)
      (hunconfirmed : connection.sessionConfirmed = false)
      (hactive : connection.activeUpload = some upload)
      (hpending : connection.pendingOperation = none)
      (hdelivery : connection.transportDeliveryPending = false)
      (hencoded : protocol.encode (buildAbort upload.uploadAttempt) = .ok encoded) :
      Strands protocol connection .abortRequested
  | starting (upload : FixedIOUploadMessages) (encoded : Wire)
      (hunconfirmed : connection.sessionConfirmed = false)
      (hactive : connection.activeUpload = some upload)
      (haccepted : connection.uploadAccepted = true)
      (hstate : connection.workflowState = .readyToStart)
      (hpending : connection.pendingOperation = none)
      (hdelivery : connection.transportDeliveryPending = false)
      (hencoded : protocol.encode (buildStart upload.uploadAttempt) = .ok encoded)
      (htrigger : upload.startMode ≠ "EXTERNAL_TRIGGER") :
      Strands protocol connection .startRequested
  | established (operation : ApplicationOperation Wire)
      (hpending : connection.pendingOperation = some operation)
      (hkind : operation.kind ≠ .discovery)
      (hunsent : operation.everyMessageSubmitted = false) :
      Strands protocol connection (.event .sessionEstablished)
  | continuing (operation next : ApplicationOperation Wire)
      (rest : List (ApplicationOperation Wire)) (interaction : Interaction Wire)
      (hunconfirmed : connection.sessionConfirmed = false)
      (hcompletes : Completes connection operation interaction)
      (hkind : operation.kind.isUpload = true)
      (hqueue : connection.uploadOperations = next :: rest) :
      Strands protocol connection interaction
  | startingImmediately (operation : ApplicationOperation Wire) (upload : FixedIOUploadMessages)
      (encoded : Wire) (interaction : Interaction Wire)
      (hunconfirmed : connection.sessionConfirmed = false)
      (hcompletes : Completes connection operation interaction)
      (hkind : operation.kind = .completeTest)
      (hactive : connection.activeUpload = some upload)
      (himmediate : upload.startMode = "IMMEDIATE")
      (hencoded : protocol.encode (buildStart upload.uploadAttempt) = .ok encoded) :
      Strands protocol connection interaction

/-! ### Deadlines -/

/-- Queued operations have a message to send and no deadline, and the pending operation has a
deadline exactly when its messages were all submitted and delivered. -/
structure Connection.Timed (connection : Connection Wire) : Prop where
  queued : ∀ operation ∈ connection.uploadOperations,
    operation.everyMessageSubmitted = false ∧ operation.responseDeadline = none
  pending : ∀ operation, connection.pendingOperation = some operation →
    (operation.responseDeadline.isSome ↔
      operation.everyMessageSubmitted = true ∧ connection.transportDeliveryPending = false)

namespace Connection.Timed

variable {before after : Connection Wire}

/-- Nothing is pending, and the queue is dropped or kept. -/
theorem of_idle (htimed : before.Timed) (hpending : after.pendingOperation = none)
    (hqueue : ∀ operation ∈ after.uploadOperations, operation ∈ before.uploadOperations) :
    after.Timed where
  queued := fun operation hoperation ↦ htimed.queued operation (hqueue operation hoperation)
  pending := by
    intro operation hoperation
    rw [hpending] at hoperation
    cases hoperation

/-- The same operations and delivery. -/
theorem of_same (htimed : before.Timed)
    (hpending : after.pendingOperation = before.pendingOperation)
    (hdelivery : after.transportDeliveryPending = before.transportDeliveryPending)
    (hqueue : after.uploadOperations = before.uploadOperations) : after.Timed where
  queued := by
    rw [hqueue]
    exact htimed.queued
  pending := by
    rw [hpending, hdelivery]
    exact htimed.pending

/-- Activating an operation that has a message to send and no deadline. -/
theorem activate (htimed : before.Timed) {operation : ApplicationOperation Wire}
    (hunsent : operation.everyMessageSubmitted = false)
    (hdeadline : operation.responseDeadline = none) : (before.activate operation).Timed where
  queued := htimed.queued
  pending := by
    intro other hother
    cases hother
    simp [hunsent, hdeadline]

/-- Activating the validation of an upload. -/
theorem activateValidation (htimed : before.Timed)
    (hdelivery : before.transportDeliveryPending = false) (id : Option ℕ) (deadline : ℕ) :
    (before.activate (completeTestOperation id deadline)).Timed where
  queued := htimed.queued
  pending := by
    intro other hother
    cases hother
    exact ⟨fun _ ↦ ⟨rfl, hdelivery⟩, fun _ ↦ rfl⟩

/-- Activating the first queued operation. -/
theorem activateNext (htimed : before.Timed) {next : ApplicationOperation Wire}
    {rest : List (ApplicationOperation Wire)} (hqueue : before.uploadOperations = next :: rest)
    (hpending : after.pendingOperation = none) (hrest : after.uploadOperations = rest) :
    (after.activate next).Timed := by
  have hnext := htimed.queued next (by rw [hqueue]; exact List.mem_cons_self)
  have hafter : after.Timed := htimed.of_idle hpending fun other hother ↦ by
    rw [hqueue]
    exact List.mem_cons_of_mem _ (hrest ▸ hother)
  exact hafter.activate hnext.1 hnext.2

theorem finishes {before after : Ledger Wire} (htimed : before.connection.Timed)
    (hfinishes : Finishes protocol before after) : after.connection.Timed := by
  cases hfinishes with
  | waiting hwaiting => exact htimed
  | refused operation hpending hready herror =>
    have hidle := handleNegativeResponse_idle before.connection.release operation rfl
      (delivered_of_readyToFinish hready).2.1
    exact htimed.of_idle hidle.1 hidle.2.2
  | completed operation hpending hready herror hkind =>
    have hidle := complete_idle before.connection.release operation rfl
      (delivered_of_readyToFinish hready).2.1
    exact htimed.of_idle hidle.1 hidle.2.2
  | continued operation next rest hpending hready herror hkind hqueue =>
    exact htimed.activateNext hqueue rfl rfl
  | uploaded operation deadline hpending hready herror hkind hqueue =>
    have hreleased : before.connection.release.Timed := htimed.of_idle rfl fun _ h ↦ h
    exact hreleased.activateValidation (delivered_of_readyToFinish hready).2.1 _ _
  | startsImmediately operation upload encoded hpending hready herror hkind hactive himmediate
      hencoded =>
    have hidle := complete_idle before.connection.release operation rfl
      (delivered_of_readyToFinish hready).2.1
    exact (htimed.of_idle hidle.1 hidle.2.2).activate rfl rfl

/-- The response of an operation leaves its deadline as it was. -/
theorem responseDeadline_answeredBy (operation : ApplicationOperation Wire)
    (message : ApplicationResponse) :
    (operation.answeredBy message).responseDeadline = operation.responseDeadline := by
  unfold ApplicationOperation.answeredBy
  split <;> rfl

theorem handles {before after : Ledger Wire} (htimed : before.connection.Timed)
    (hhandles : Handles protocol before after) : after.connection.Timed := by
  cases hhandles with
  | confirmed operation deadline hpending hdelivery =>
    refine ⟨htimed.queued, fun other hother ↦ ?_⟩
    have hsame : other = if operation.everyMessageSubmitted then
        { operation with responseDeadline := some deadline } else operation :=
      (Option.some.inj hother).symm
    by_cases hall : operation.everyMessageSubmitted = true
    · rw [hsame, if_pos hall]
      exact ⟨fun _ ↦ ⟨hall, rfl⟩, fun _ ↦ rfl⟩
    · rw [hsame, if_neg hall]
      have hnone := (htimed.pending operation hpending).not.2 fun h ↦ hall h.1
      exact ⟨fun h ↦ absurd h hnone, fun h ↦ absurd h.1 hall⟩
  | described operation message information hpending hkind =>
    refine ⟨htimed.queued, fun other hother ↦ ?_⟩
    cases hother
    exact htimed.pending operation hpending
  | answered operation scope message hpending hscope hmatch =>
    refine ⟨htimed.queued, fun other hother ↦ ?_⟩
    cases hother
    rw [everyMessageSubmitted_answeredBy, responseDeadline_answeredBy]
    exact htimed.pending operation hpending

/-- One move keeps the deadlines. -/
theorem move {before after : Ledger Wire} (htimed : before.connection.Timed)
    (hmove : Move protocol before after) : after.connection.Timed := by
  cases hmove with
  | failed interaction hfails => exact htimed.of_idle rfl fun _ h ↦ by cases h
  | timedOut operation deadline hpending hresponse hdeadline =>
    exact htimed.of_idle rfl fun _ h ↦ by cases h
  | queued compiledTest attempt draws upload encoded hactive hqueue hpending hupload hfresh
      hbuilder hencoded =>
    refine ⟨fun operation hoperation ↦ ?_, htimed.pending⟩
    simp only [Ledger.become_connection, Connection.enqueueUpload, hqueue, List.nil_append]
      at hoperation
    have hunstarted := unstarted_uploadOperationsOf upload encoded operation hoperation
    refine ⟨?_, ?_⟩
    · simp [ApplicationOperation.everyMessageSubmitted, hunstarted.nextMessageIndex,
        length_encodedMessages_of_mem hoperation]
    · rw [← request_of_mem_uploadOperationsOf hoperation]
      rfl
  | starting upload encoded hactive haccepted hstate hpending hdelivery hencoded htrigger =>
    exact htimed.activate rfl rfl
  | aborting upload encoded hactive hpending hdelivery hencoded => exact htimed.activate rfl rfl
  | resetting encoded hconfirmed hpending hdelivery hencoded => exact htimed.activate rfl rfl
  | discovering encoded hpending hconfirmed hencoded => exact htimed.activate rfl rfl
  | advancing next rest hpending hconfirmed hqueue => exact htimed.activateNext hqueue hpending rfl
  | submitted operation message hnext hmay =>
    obtain ⟨hpending, hmessage⟩ := nextMessage_eq_some hnext
    have hindex := (List.getElem?_eq_some_iff.1 hmessage).1
    refine ⟨htimed.queued, fun other hother ↦ ?_⟩
    cases hother
    have hnone := (htimed.pending operation hpending).not.2 fun h ↦ by
      have hall := h.1
      rw [ApplicationOperation.everyMessageSubmitted, beq_iff_eq] at hall
      omega
    exact ⟨fun h ↦ absurd h hnone, fun h ↦ by cases h.2⟩
  | handled middle after hhandles hfinishes => exact (htimed.handles hhandles).finishes hfinishes
  | invalidated => exact htimed.of_idle rfl fun _ h ↦ by cases h
  | _ => exact htimed.of_same rfl rfl rfl

/-- One step keeps the deadlines. -/
theorem step {before after : Ledger Wire} (htimed : before.connection.Timed)
    (hstep : Step protocol before after) : after.connection.Timed := by
  cases hstep with
  | moved after hopen hmove => exact htimed.move hmove
  | closing answer hopen => exact htimed.of_idle rfl fun _ h ↦ by cases h

/-- The deadlines of a new connection. -/
theorem create (timeout : ℕ) (clock : ℕ → ℕ) (builder : Option BuilderHandle) :
    (Host.create timeout clock builder : Host Wire).connection.Timed where
  queued := by
    intro operation hoperation
    cases hoperation
  pending := by
    intro operation hoperation
    cases hoperation

end Connection.Timed

/-! ### Submittable operations -/

/-- A pending operation with a message to send is discovery, or the session is confirmed. -/
def Connection.Submittable (connection : Connection Wire) : Prop :=
  ∀ operation, connection.pendingOperation = some operation →
    operation.everyMessageSubmitted = false →
      operation.kind = .discovery ∨ connection.sessionConfirmed = true

namespace Connection.Submittable

variable {before after : Ledger Wire}

theorem of_none {connection : Connection Wire} (hpending : connection.pendingOperation = none) :
    connection.Submittable := by
  intro operation hoperation
  rw [hpending] at hoperation
  cases hoperation

theorem of_confirmed {connection : Connection Wire}
    (hconfirmed : connection.sessionConfirmed = true) :
    connection.Submittable :=
  fun _ _ _ ↦ .inr hconfirmed

/-- The operation that a confirmation or a response has made ready was completed by it. -/
theorem completes_of_handles (hhandles : Handles protocol before after)
    {operation : ApplicationOperation Wire}
    (hpending : after.connection.pendingOperation = some operation)
    (hready : after.connection.readyToFinish operation = true)
    (herror : operation.responseError = none) (hkind : operation.kind ≠ .discovery) :
    ∃ interaction original, after.history = (before.note interaction).history ∧
      after.connection.sessionConfirmed = before.connection.sessionConfirmed ∧
      original.kind = operation.kind ∧ Completes before.connection original interaction := by
  obtain ⟨hreceived, hdelivered, hsubmitted⟩ := delivered_of_readyToFinish hready
  cases hhandles with
  | confirmed original deadline horiginal hdelivery =>
    have hsame : operation = if original.everyMessageSubmitted then
        { original with responseDeadline := some deadline } else original :=
      (Option.some.inj hpending).symm
    by_cases hall : original.everyMessageSubmitted = true
    · rw [if_pos hall] at hsame
      rw [hsame] at hreceived herror
      exact ⟨_, original, rfl, rfl, by rw [hsame],
        .confirmed horiginal hdelivery hall herror hreceived⟩
    · rw [if_neg hall] at hsame
      exact absurd (hsame ▸ hsubmitted) hall
  | described original message information horiginal hdiscovery =>
    cases hpending
    exact absurd hdiscovery hkind
  | answered original scope message horiginal hscope hmatch =>
    cases hpending
    rw [everyMessageSubmitted_answeredBy] at hsubmitted
    have hrequest := kind_of_request_eq (request_answeredBy original message)
    by_cases hsuccess : message.outcome = original.kind.successfulOutcome
    · rw [ApplicationOperation.answeredBy, if_pos hsuccess] at herror
      exact ⟨_, original, rfl, rfl, hrequest.symm, .answered scope message horiginal hdelivered
        hsubmitted herror hscope hmatch hsuccess⟩
    · rw [ApplicationOperation.answeredBy, if_neg hsuccess] at herror
      cases herror

/-- A confirmation or a response leaves a submittable operation submittable. -/
theorem handles (hsubmittable : before.connection.Submittable)
    (hhandles : Handles protocol before after) : after.connection.Submittable := by
  intro other hother hunsent
  cases hhandles with
  | confirmed operation deadline hpending hdelivery =>
    have hsame : other = if operation.everyMessageSubmitted then
        { operation with responseDeadline := some deadline } else operation :=
      (Option.some.inj hother).symm
    by_cases hall : operation.everyMessageSubmitted = true
    · rw [hsame, if_pos hall] at hunsent
      exact absurd hall (Bool.eq_false_iff.1 hunsent)
    · rw [hsame, if_neg hall]
      exact hsubmittable operation hpending (Bool.eq_false_iff.2 hall)
  | described operation message information hpending hkind =>
    cases hother
    exact .inl hkind
  | answered operation scope message hpending hscope hmatch =>
    cases hother
    rw [everyMessageSubmitted_answeredBy] at hunsent
    rw [kind_of_request_eq (request_answeredBy operation message)]
    exact hsubmittable operation hpending hunsent

/-- Finishing what a confirmation or a response has made ready strands nothing when its moment does
not. -/
theorem finishes {middle : Ledger Wire} (hsubmittable : before.connection.Submittable)
    (hhandles : Handles protocol before middle) (hfinishes : Finishes protocol middle after)
    (hsafe : ∀ moment ∈ after.history, ¬Strands protocol moment.before moment.interaction) :
    after.connection.Submittable := by
  obtain ⟨hactive, -, hqueue, -, -, -⟩ := Identified.same_of_handles hhandles
  cases hfinishes with
  | waiting hwaiting => exact handles hsubmittable hhandles
  | refused operation hpending hready herror =>
    exact of_none (handleNegativeResponse_idle middle.connection.release operation rfl
      (delivered_of_readyToFinish hready).2.1).1
  | completed operation hpending hready herror hkind =>
    exact of_none (complete_idle middle.connection.release operation rfl
      (delivered_of_readyToFinish hready).2.1).1
  | continued operation next rest hpending hready herror hkind hnext =>
    obtain ⟨interaction, original, hhistory, hsession, hsame, hcompletes⟩ :=
      completes_of_handles hhandles hpending hready herror (ne_of_isUpload hkind).1
    refine of_confirmed (hsession.trans (Bool.not_eq_false _ ▸ fun hunconfirmed ↦ ?_))
    refine hsafe ⟨before.connection, interaction⟩ ?_ (.continuing original next rest interaction
      hunconfirmed hcompletes (hsame ▸ hkind) (hqueue ▸ hnext))
    exact List.mem_cons_of_mem _ (hhistory ▸ List.mem_cons_self)
  | uploaded operation deadline hpending hready herror hkind hnext =>
    intro other hother hunsent
    cases hother
    cases hunsent
  | startsImmediately operation upload encoded hpending hready herror hkind hupload himmediate
      hencoded =>
    obtain ⟨interaction, original, hhistory, hsession, hsame, hcompletes⟩ :=
      completes_of_handles hhandles hpending hready herror (by rw [hkind]; decide)
    have hcomplete : (middle.connection.release.complete operation).sessionConfirmed =
        middle.connection.sessionConfirmed := by
      rw [Connection.complete, hkind]
      rfl
    refine of_confirmed ((hcomplete.trans hsession).trans
      (Bool.not_eq_false _ ▸ fun hunconfirmed ↦ ?_))
    refine hsafe ⟨before.connection, interaction⟩ ?_ (.startingImmediately original upload encoded
      interaction hunconfirmed hcompletes (hsame.trans hkind) (hactive ▸ hupload) himmediate
      hencoded)
    exact List.mem_cons_of_mem _ (hhistory ▸ List.mem_cons_self)

/-- One move that strands nothing keeps the pending operation submittable. -/
theorem move (hsubmittable : before.connection.Submittable) (hmove : Move protocol before after)
    (hsafe : ∀ moment ∈ after.history, ¬Strands protocol moment.before moment.interaction) :
    after.connection.Submittable := by
  cases hmove with
  | failed interaction hfails => exact of_none rfl
  | timedOut operation deadline hpending hresponse hdeadline => exact of_none rfl
  | starting upload encoded hactive haccepted hstate hpending hdelivery hencoded htrigger =>
    refine of_confirmed (Bool.not_eq_false _ ▸ fun hunconfirmed ↦ ?_)
    exact hsafe ⟨before.connection, .startRequested⟩ (List.mem_cons_of_mem _ List.mem_cons_self)
      (.starting upload encoded hunconfirmed hactive haccepted hstate hpending hdelivery hencoded
        htrigger)
  | aborting upload encoded hactive hpending hdelivery hencoded =>
    refine of_confirmed (Bool.not_eq_false _ ▸ fun hunconfirmed ↦ ?_)
    exact hsafe ⟨before.connection, .abortRequested⟩ (List.mem_cons_of_mem _ List.mem_cons_self)
      (.aborting upload encoded hunconfirmed hactive hpending hdelivery hencoded)
  | resetting encoded hconfirmed hpending hdelivery hencoded => exact of_confirmed hconfirmed
  | discovering encoded hpending hconfirmed hencoded =>
    intro other hother _
    cases hother
    exact .inl rfl
  | advancing next rest hpending hconfirmed hqueue => exact of_confirmed hconfirmed
  | submitted operation message hnext hmay =>
    intro other hother _
    cases hother
    exact hmay.2
  | handled middle after hhandles hfinishes => exact finishes hsubmittable hhandles hfinishes hsafe
  | invalidated => exact of_none rfl
  | established =>
    intro operation hpending hunsent
    by_cases hkind : operation.kind = .discovery
    · exact .inl hkind
    · exact absurd (.established operation hpending hkind hunsent)
        (hsafe ⟨before.connection, .event .sessionEstablished⟩ List.mem_cons_self)
  | _ => exact hsubmittable

/-- One step that strands nothing keeps the pending operation submittable. -/
theorem step (hsubmittable : before.connection.Submittable) (hstep : Step protocol before after)
    (hsafe : ∀ moment ∈ after.history, ¬Strands protocol moment.before moment.interaction) :
    after.connection.Submittable := by
  cases hstep with
  | moved after hopen hmove => exact hsubmittable.move hmove hsafe
  | closing answer hopen => exact of_none rfl

end Connection.Submittable

/-! ### Runs that strand nothing -/

/-- In every run none of whose steps strands an operation, a pending operation can still move. -/
theorem movable_run (timeout : ℕ) (clock : ℕ → ℕ) (builder : Option BuilderHandle)
    (calls : List (Call Wire))
    (hsafe : ∀ moment ∈ (run protocol (Host.create timeout clock builder) calls).history,
      ¬Strands protocol moment.before moment.interaction) :
    (run protocol (Host.create timeout clock builder) calls).connection.Movable := by
  have htimed : (run protocol (Host.create timeout clock builder) calls).connection.Timed :=
    run_preserves (fun _ _ hbefore hstep ↦ Connection.Timed.step hbefore hstep)
      (.create timeout clock builder) calls
  have hsubmittable : (∀ moment ∈ (run protocol (Host.create timeout clock builder) calls).history,
      ¬Strands protocol moment.before moment.interaction) →
        (run protocol (Host.create timeout clock builder) calls).connection.Submittable := by
    refine @run_preserves _ protocol (fun ledger ↦ (∀ moment ∈ ledger.history,
      ¬Strands protocol moment.before moment.interaction) → ledger.connection.Submittable) _
      (fun before after hbefore hstep hafter ↦ ?_) (fun _ _ h ↦ by cases h) calls
    obtain ⟨followers, first, hrecords⟩ := hstep.records
    refine (hbefore fun moment hmoment ↦ hafter moment ?_).step hstep hafter
    rw [hrecords.history_eq]
    exact List.mem_append_right _ (List.mem_append_right _ hmoment)
  exact ⟨fun operation hpending hunsent _ ↦ hsubmittable hsafe operation hpending hunsent,
    fun operation hpending hsubmitted hdelivered _ ↦
      (htimed.pending operation hpending).2 ⟨hsubmitted, hdelivered⟩⟩

/-- Whether a moment can strand an operation: a session is established, or the session is not
confirmed and an operation is requested or another than discovery is completed. -/
def Moment.mayStrand (moment : Moment Wire) : Bool :=
  match moment.interaction with
  | .event .sessionEstablished => true
  | .abortRequested | .startRequested => !moment.before.sessionConfirmed
  | .event .deliveryConfirmed | .message (.applicationResponse _) =>
    !moment.before.sessionConfirmed &&
      moment.before.pendingOperation.any fun operation ↦ operation.kind ≠ .discovery
  | _ => false

theorem mayStrand_of_completes {moment : Moment Wire} {operation : ApplicationOperation Wire}
    (hunconfirmed : moment.before.sessionConfirmed = false) (hkind : operation.kind ≠ .discovery)
    (hcompletes : Completes moment.before operation moment.interaction) :
    moment.mayStrand = true := by
  obtain ⟨before, interaction⟩ := moment
  cases hcompletes with
  | confirmed hpending => simp_all [Moment.mayStrand]
  | answered scope message hpending => simp_all [Moment.mayStrand]

theorem mayStrand_of_strands {moment : Moment Wire}
    (hstrands : Strands protocol moment.before moment.interaction) : moment.mayStrand = true := by
  obtain ⟨before, interaction⟩ := moment
  cases hstrands with
  | aborting upload encoded hunconfirmed => simpa [Moment.mayStrand] using hunconfirmed
  | starting upload encoded hunconfirmed => simpa [Moment.mayStrand] using hunconfirmed
  | established operation hpending hkind hunsent => rfl
  | continuing operation next rest interaction hunconfirmed hcompletes hkind hqueue =>
    refine mayStrand_of_completes hunconfirmed (fun hdiscovery ↦ ?_) hcompletes
    rw [hdiscovery] at hkind
    cases hkind
  | startingImmediately operation upload encoded interaction hunconfirmed hcompletes hkind hactive
      himmediate hencoded =>
    refine mayStrand_of_completes hunconfirmed (fun hdiscovery ↦ ?_) hcompletes
    rw [hdiscovery] at hkind
    cases hkind

/-- A run that discovers the rig, uploads a test and then aborts it. -/
def confirmedAbortCalls : List (Call (OutboundMessage ⊕ InboundMessage)) :=
  connectedCalls .hostCommand ++
    [.service { firstDrain := ⟨[.deliveryConfirmed],
      [responseFrame .testConfiguration .accepted .invalid]⟩ },
    .service { firstDrain := ⟨[], [responseFrame .completeTest .accepted .invalid]⟩ },
    .abort]

/-- In a confirmed session the unsent message of an ABORT can be submitted. -/
theorem movable_confirmedAbortCalls :
    (run directCodec (Host.create 5 id none) confirmedAbortCalls).connection.Movable ∧
      (∃ operation, (run directCodec (Host.create 5 id none)
          confirmedAbortCalls).connection.pendingOperation = some operation ∧
        operation.kind = .abort ∧ operation.everyMessageSubmitted = false) ∧
      (run directCodec (Host.create 5 id none)
        confirmedAbortCalls).connection.transportDeliveryPending = false := by
  have hnever : ((run directCodec (Host.create 5 id none) confirmedAbortCalls).history.all
      fun moment ↦ !moment.mayStrand) = true := by decide +kernel
  have hpending : ((run directCodec (Host.create 5 id none)
      confirmedAbortCalls).connection.pendingOperation.map fun operation ↦
        (operation.kind, operation.everyMessageSubmitted)) = some (.abort, false) := by
    decide +kernel
  obtain ⟨operation, hoperation, hunsent⟩ := Option.map_eq_some_iff.1 hpending
  obtain ⟨hkind, hunsent⟩ := Prod.mk.inj hunsent
  refine ⟨movable_run 5 id none confirmedAbortCalls fun moment hmoment hstrands ↦ ?_,
    ⟨operation, hoperation, hkind, hunsent⟩, by decide +kernel⟩
  have hsafe := List.all_eq_true.1 hnever moment hmoment
  rw [mayStrand_of_strands hstrands] at hsafe
  cases hsafe

/-- An upload queued and aborted before the session is confirmed. -/
def earlyAbortCalls : List (Call (OutboundMessage ⊕ InboundMessage)) :=
  [.queueUpload (digitalInputTest .hostCommand) none [7] .other, .abort]

/-- An early ABORT stays pending: it can neither be submitted nor give way to discovery. -/
theorem not_movable_earlyAbortCalls :
    (run directCodec (Host.create 5 id none) earlyAbortCalls).connection.closed = false ∧
      ¬(run directCodec (Host.create 5 id none) earlyAbortCalls).connection.Movable := by
  refine ⟨by decide, fun hmovable ↦ ?_⟩
  have hpending : ∃ operation,
      (run directCodec (Host.create 5 id none) earlyAbortCalls).connection.pendingOperation =
        some operation ∧ operation.everyMessageSubmitted = false ∧ operation.kind = .abort :=
    ⟨_, rfl, by decide, by decide⟩
  obtain ⟨operation, hoperation, hunsent, hkind⟩ := hpending
  rcases hmovable.submittable operation hoperation hunsent (by decide) with hdiscovery | hconfirmed
  · rw [hkind] at hdiscovery
    cases hdiscovery
  · exact absurd hconfirmed (by decide)

end HilRig.Protocol
