import HilRig.Protocol.History

/-!
# The chapter in progress describes the pending operation

`Attended` is the invariant behind every property of a run: the pending operation is the one the
present chapter was opened for, its submitted messages are those the chapter accepted, the delivery
flag tells whether the newest of them is unconfirmed, and its response was processed in the chapter.
A new connection has it (`attended_create`), and every step keeps it (`Attended.step`).
-/

set_option autoImplicit false
set_option relaxedAutoImplicit false

namespace HilRig.Protocol

open HilRig.Models HilRig.Results HilRig.Foundations

variable {Wire : Type} {protocol : NativeProtocol Wire}

/-! ### Requests -/

/-- An operation that nothing has happened to yet. -/
structure ApplicationOperation.Unstarted (operation : ApplicationOperation Wire) : Prop where
  nextMessageIndex : operation.nextMessageIndex = 0
  responseReceived : operation.responseReceived = false
  responseError : operation.responseError = none
  responseOutcome : operation.responseOutcome = none

section Request

variable {first second : ApplicationOperation Wire}

theorem kind_of_request_eq (hrequest : first.request = second.request) :
    first.kind = second.kind := by
  change first.request.kind = second.request.kind
  rw [hrequest]

theorem applicationTestId_of_request_eq (hrequest : first.request = second.request) :
    first.applicationTestId = second.applicationTestId := by
  change first.request.applicationTestId = second.request.applicationTestId
  rw [hrequest]

theorem encodedMessages_of_request_eq (hrequest : first.request = second.request) :
    first.encodedMessages = second.encodedMessages := by
  change first.request.encodedMessages = second.request.encodedMessages
  rw [hrequest]

/-- Recording a response changes only the progress of an operation. -/
theorem request_answeredBy (operation : ApplicationOperation Wire)
    (message : ApplicationResponse) :
    (operation.answeredBy message).request = operation.request := by
  unfold ApplicationOperation.answeredBy
  split <;> rfl

/-- A response answers a request, whatever the progress of its operation. -/
theorem Answers.of_request_eq {message : ApplicationResponse} (hanswers : Answers first message)
    (hrequest : first.request = second.request) : Answers second message := by
  have hkind := kind_of_request_eq hrequest
  have htick : first.tick = second.tick := by
    change first.request.tick = second.request.tick
    rw [hrequest]
  have hcontrol : first.controlCommand = second.controlCommand := by
    change first.request.controlCommand = second.request.controlCommand
    rw [hrequest]
  have hglobal : first.globalControlCommand = second.globalControlCommand := by
    change first.request.globalControlCommand = second.request.globalControlCommand
    rw [hrequest]
  constructor
  · rw [← hkind]
    exact hanswers.scope
  · rw [← applicationTestId_of_request_eq hrequest]
    exact hanswers.testId
  · rw [← hkind, ← htick]
    exact hanswers.tick
  · rw [← hkind, ← hcontrol]
    exact hanswers.controlCommand
  · rw [← hkind, ← hglobal]
    exact hanswers.globalControlCommand

theorem Chapter.Received.of_request_eq {chapter : Chapter Wire} {outcome : ResponseOutcome}
    (hreceived : chapter.Received first outcome) (hrequest : first.request = second.request) :
    chapter.Received second outcome := by
  obtain ⟨moment, hmoment, pending, message, hpending, hsame, hmessage, hanswers, houtcome⟩ :=
    hreceived
  exact ⟨moment, hmoment, pending, message, hpending, hsame.trans hrequest, hmessage,
    hanswers.of_request_eq hrequest, houtcome⟩

end Request

/-! ### The invariant -/

/-- What a chapter says about the pending operation. -/
structure Describes (chapter : Chapter Wire) (deliveryPending : Bool)
    (operation : ApplicationOperation Wire) : Prop where
  origin : ∃ start, chapter.operation = some start ∧ start.request = operation.request
  sent : chapter.sent = operation.encodedMessages.take operation.nextMessageIndex
  index_le : operation.nextMessageIndex ≤ operation.encodedMessages.length
  delivery : unconfirmed chapter.moments = deliveryPending
  accepted : operation.responseReceived = true → operation.responseError = none →
    operation.kind ≠ .discovery → chapter.Received operation operation.kind.successfulOutcome
  refused : ∀ outcome, operation.responseOutcome = some outcome →
    chapter.Received operation outcome

/-- The pending operation is the one of the present chapter, and queued ones have not begun. -/
structure Attended (ledger : Ledger Wire) : Prop where
  pending : ∀ operation, ledger.connection.pendingOperation = some operation →
    Describes (present ledger.history) ledger.connection.transportDeliveryPending operation
  idle : ledger.connection.pendingOperation = none →
    ledger.connection.transportDeliveryPending = false
  queued : ∀ operation ∈ ledger.connection.uploadOperations, operation.Unstarted

/-- A moment that is neither an activation, an accepted submission nor a confirmation. -/
structure Moment.Plain (moment : Moment Wire) : Prop where
  stays : moment.interaction.staysInChapter = true
  accepted : moment.accepted = none
  confirmed : moment.interaction ≠ .event .deliveryConfirmed

theorem Describes.push {chapter : Chapter Wire} {deliveryPending : Bool}
    {operation : ApplicationOperation Wire}
    (hdescribes : Describes chapter deliveryPending operation) (moment : Moment Wire)
    (hplain : moment.Plain) :
    Describes (chapter.push moment) deliveryPending operation where
  origin := hdescribes.origin
  sent := (chapter.sent_push_of_not_accepted hplain.accepted).trans hdescribes.sent
  index_le := hdescribes.index_le
  delivery :=
    (unconfirmed_cons_of_other _ hplain.accepted hplain.confirmed).trans hdescribes.delivery
  accepted := fun hreceived herror hkind ↦ (hdescribes.accepted hreceived herror hkind).push moment
  refused := fun outcome houtcome ↦ (hdescribes.refused outcome houtcome).push moment

namespace Attended

variable {ledger : Ledger Wire}

/-- Recording a plain moment keeps the invariant. -/
theorem note (hattended : Attended ledger) (interaction : Interaction Wire)
    (hplain : (⟨ledger.connection, interaction⟩ : Moment Wire).Plain) :
    Attended (ledger.note interaction) where
  pending := by
    intro operation hoperation
    rw [Ledger.note_history, present_cons hplain.stays]
    exact (hattended.pending operation hoperation).push _ hplain
  idle := hattended.idle
  queued := hattended.queued

/-- A connection that agrees on the operations and the delivery keeps the invariant. -/
theorem become (hattended : Attended ledger) {connection : Connection Wire}
    (hpending : connection.pendingOperation = ledger.connection.pendingOperation)
    (hdelivery : connection.transportDeliveryPending =
      ledger.connection.transportDeliveryPending)
    (hqueue : connection.uploadOperations = ledger.connection.uploadOperations) :
    Attended (ledger.become connection) where
  pending := by
    intro operation hoperation
    rw [Ledger.become_connection, hdelivery]
    exact hattended.pending operation (hpending ▸ hoperation)
  idle := by
    intro hnone
    rw [Ledger.become_connection, hdelivery]
    exact hattended.idle (hpending ▸ hnone)
  queued := by
    intro operation hoperation
    exact hattended.queued operation (hqueue ▸ hoperation)

/-- Without a pending operation the history does not matter. -/
theorem of_idle {after : Ledger Wire} (hpending : after.connection.pendingOperation = none)
    (hdelivery : after.connection.transportDeliveryPending = false)
    (hqueue : ∀ operation ∈ after.connection.uploadOperations, operation.Unstarted) :
    Attended after where
  pending := by
    intro operation hoperation
    rw [hpending] at hoperation
    cases hoperation
  idle := fun _ ↦ hdelivery
  queued := hqueue

/-- Activating an operation opens the chapter that describes it. -/
theorem activate {operation : ApplicationOperation Wire} (hunstarted : operation.Unstarted)
    (hdelivery : ledger.connection.transportDeliveryPending = false)
    (hqueue : ∀ other ∈ ledger.connection.uploadOperations, other.Unstarted) :
    Attended (ledger.activate operation) where
  pending := by
    intro other hother
    cases hother
    rw [Ledger.activate_history, present_activated]
    refine ⟨⟨operation, rfl, rfl⟩, ?_, ?_, hdelivery.symm, ?_, ?_⟩
    · rw [hunstarted.nextMessageIndex, List.take_zero]
      rfl
    · rw [hunstarted.nextMessageIndex]
      exact Nat.zero_le _
    · intro hreceived
      rw [hunstarted.responseReceived] at hreceived
      cases hreceived
    · intro outcome houtcome
      rw [hunstarted.responseOutcome] at houtcome
      cases houtcome
  idle := by
    intro hnone
    cases hnone
  queued := hqueue

end Attended

theorem unstarted_completeTestOperation (applicationTestId : Option ℕ) (deadline : ℕ) :
    (completeTestOperation applicationTestId deadline : ApplicationOperation Wire).Unstarted :=
  ⟨rfl, rfl, rfl, rfl⟩

/-- A queued operation is that of the configuration or that of a tick. -/
theorem operation_of_mem_uploadOperationsOf {upload : FixedIOUploadMessages}
    {encoded : List Wire} {operation : ApplicationOperation Wire}
    (hoperation : operation ∈ uploadOperationsOf upload encoded) :
    ∃ wire, operation = configurationOperation upload.uploadAttempt.applicationTestId wire ∨
      ∃ tick, operation = tickOperation upload.uploadAttempt.applicationTestId tick wire := by
  simp only [uploadOperationsOf, List.mem_append, List.mem_map] at hoperation
  rcases hoperation with ⟨wire, -, rfl⟩ | hoperation
  · exact ⟨wire, .inl rfl⟩
  · rw [← List.map_uncurry_zip_eq_zipWith, List.mem_map] at hoperation
    obtain ⟨pair, -, rfl⟩ := hoperation
    exact ⟨pair.2, .inr ⟨_, rfl⟩⟩

/-- The operations of an upload have not begun when they are queued. -/
theorem unstarted_uploadOperationsOf (upload : FixedIOUploadMessages) (encoded : List Wire) :
    ∀ operation ∈ uploadOperationsOf upload encoded, operation.Unstarted := by
  intro operation hoperation
  obtain ⟨wire, rfl | ⟨tick, rfl⟩⟩ := operation_of_mem_uploadOperationsOf hoperation
  · exact ⟨rfl, rfl, rfl, rfl⟩
  · exact ⟨rfl, rfl, rfl, rfl⟩

/-! ### The invariant along moves -/

/-- The flag is down when an operation is ready to finish. -/
theorem delivered_of_readyToFinish {connection : Connection Wire}
    {operation : ApplicationOperation Wire}
    (hready : connection.readyToFinish operation = true) :
    operation.responseReceived = true ∧ connection.transportDeliveryPending = false ∧
      operation.everyMessageSubmitted = true := by
  simp only [Connection.readyToFinish, Bool.and_eq_true, Bool.not_eq_true'] at hready
  exact ⟨hready.1.1, hready.1.2, hready.2⟩

/-- A negative response leaves nothing pending and drops or keeps the queue. -/
theorem handleNegativeResponse_idle (connection : Connection Wire)
    (operation : ApplicationOperation Wire) (hpending : connection.pendingOperation = none)
    (hdelivery : connection.transportDeliveryPending = false) :
    (connection.handleNegativeResponse operation).pendingOperation = none ∧
      (connection.handleNegativeResponse operation).transportDeliveryPending = false ∧
        ∀ other ∈ (connection.handleNegativeResponse operation).uploadOperations,
          other ∈ connection.uploadOperations := by
  unfold Connection.handleNegativeResponse
  cases operation.kind with
  | discovery => exact ⟨rfl, rfl, fun _ h ↦ by cases h⟩
  | configuration => exact ⟨hpending, hdelivery, fun _ h ↦ by cases h⟩
  | tick => exact ⟨hpending, hdelivery, fun _ h ↦ by cases h⟩
  | completeTest => exact ⟨hpending, hdelivery, fun _ h ↦ by cases h⟩
  | start =>
    simp only
    split
    · exact ⟨hpending, hdelivery, fun _ h ↦ h⟩
    · exact ⟨rfl, rfl, fun _ h ↦ by cases h⟩
  | abort =>
    simp only
    split
    · exact ⟨hpending, hdelivery, fun _ h ↦ h⟩
    · exact ⟨rfl, rfl, fun _ h ↦ by cases h⟩
  | reset =>
    simp only
    split
    · exact ⟨hpending, hdelivery, fun _ h ↦ h⟩
    · exact ⟨rfl, rfl, fun _ h ↦ by cases h⟩

/-- A completion leaves nothing pending and drops or keeps the queue. -/
theorem complete_idle (connection : Connection Wire) (operation : ApplicationOperation Wire)
    (hpending : connection.pendingOperation = none)
    (hdelivery : connection.transportDeliveryPending = false) :
    (connection.complete operation).pendingOperation = none ∧
      (connection.complete operation).transportDeliveryPending = false ∧
        ∀ other ∈ (connection.complete operation).uploadOperations,
          other ∈ connection.uploadOperations := by
  unfold Connection.complete
  cases operation.kind with
  | abort => exact ⟨hpending, hdelivery, fun _ h ↦ by cases h⟩
  | reset => exact ⟨hpending, hdelivery, fun _ h ↦ by cases h⟩
  | _ => exact ⟨hpending, hdelivery, fun _ h ↦ h⟩

/-- Finishing the pending operation keeps the invariant. -/
theorem Attended.finishes {before after : Ledger Wire} (hattended : Attended before)
    (hfinishes : Finishes protocol before after) : Attended after := by
  cases hfinishes with
  | waiting hwaiting => exact hattended
  | refused operation hpending hready herror =>
    have hidle := handleNegativeResponse_idle before.connection.release operation
      rfl (delivered_of_readyToFinish hready).2.1
    exact .of_idle hidle.1 hidle.2.1 fun other hother ↦
      hattended.queued other (hidle.2.2 other hother)
  | completed operation hpending hready herror hkind =>
    have hidle := complete_idle before.connection.release operation
      rfl (delivered_of_readyToFinish hready).2.1
    exact .of_idle hidle.1 hidle.2.1 fun other hother ↦
      hattended.queued other (hidle.2.2 other hother)
  | continued operation next rest hpending hready herror hkind hqueue =>
    have hunstarted : ∀ other ∈ next :: rest, other.Unstarted := fun other hother ↦
      hattended.queued other (hqueue ▸ hother)
    exact .activate (hunstarted next List.mem_cons_self) (delivered_of_readyToFinish hready).2.1
      fun other hother ↦ hunstarted other (List.mem_cons_of_mem _ hother)
  | uploaded operation deadline hpending hready herror hkind hqueue =>
    exact .activate (unstarted_completeTestOperation _ _) (delivered_of_readyToFinish hready).2.1
      hattended.queued
  | startsImmediately operation upload encoded hpending hready herror hkind hactive himmediate
      hencoded =>
    have hidle := complete_idle before.connection.release operation
      rfl (delivered_of_readyToFinish hready).2.1
    exact .activate ⟨rfl, rfl, rfl, rfl⟩ hidle.2.1 fun other hother ↦
      hattended.queued other (hidle.2.2 other hother)

/-- Interactions that fail the workflow or are ignored are not accepted submissions. -/
theorem Ignores.plain {connection : Connection Wire} {interaction : Interaction Wire}
    (hignored : Ignores connection interaction) :
    (⟨connection, interaction⟩ : Moment Wire).Plain := by
  cases hignored with
  | submission operation message status hnext hmay hretry =>
    cases status with
    | ok => cases hretry
    | _ => exact ⟨rfl, rfl, fun h ↦ by cases h⟩
  | _ => exact ⟨rfl, rfl, fun h ↦ by cases h⟩

/-- Submitting the next message extends what the chapter accepted. -/
theorem Describes.submit {chapter : Chapter Wire} {deliveryPending : Bool}
    {operation : ApplicationOperation Wire} {message : Wire} {before : Connection Wire}
    (hdescribes : Describes chapter deliveryPending operation)
    (hmessage : operation.encodedMessages[operation.nextMessageIndex]? = some message) :
    Describes (chapter.push ⟨before, .submitted message .ok⟩) true
      { operation with nextMessageIndex := operation.nextMessageIndex + 1 } where
  origin := hdescribes.origin
  sent := by
    rw [chapter.sent_push_of_accepted rfl, hdescribes.sent, List.take_add_one, hmessage]
    rfl
  index_le := (List.getElem?_eq_some_iff.1 hmessage).1
  delivery := rfl
  accepted := fun hreceived herror hkind ↦
    ((hdescribes.accepted hreceived herror hkind).push _).of_request_eq rfl
  refused := fun outcome houtcome ↦
    ((hdescribes.refused outcome houtcome).push _).of_request_eq rfl

/-- Confirming a delivery lowers the flag and changes no message. -/
theorem Describes.confirm {chapter : Chapter Wire} {deliveryPending : Bool}
    {operation other : ApplicationOperation Wire} {before : Connection Wire}
    (hdescribes : Describes chapter deliveryPending operation)
    (hother : other = operation ∨
      ∃ deadline, other = { operation with responseDeadline := deadline }) :
    Describes (chapter.push ⟨before, .event .deliveryConfirmed⟩) false other := by
  have hpushed : Describes (chapter.push ⟨before, .event .deliveryConfirmed⟩) false operation :=
    ⟨hdescribes.origin, (chapter.sent_push_of_not_accepted rfl).trans hdescribes.sent,
      hdescribes.index_le, rfl,
      fun hreceived herror hkind ↦ (hdescribes.accepted hreceived herror hkind).push _,
      fun outcome houtcome ↦ (hdescribes.refused outcome houtcome).push _⟩
  rcases hother with rfl | ⟨deadline, rfl⟩
  · exact hpushed
  · exact ⟨hpushed.origin, hpushed.sent, hpushed.index_le, hpushed.delivery,
      fun hreceived herror hkind ↦ (hpushed.accepted hreceived herror hkind).of_request_eq rfl,
      fun outcome houtcome ↦ (hpushed.refused outcome houtcome).of_request_eq rfl⟩

/-- A response that answers the operation is what its progress says. -/
theorem Describes.answer {chapter : Chapter Wire} {deliveryPending : Bool}
    {operation : ApplicationOperation Wire} {message : ApplicationResponse}
    {before : Connection Wire} (hdescribes : Describes chapter deliveryPending operation)
    (hpending : before.pendingOperation = some operation) (hanswers : Answers operation message) :
    Describes (chapter.push ⟨before, .message (.applicationResponse message)⟩) deliveryPending
      (operation.answeredBy message) := by
  have hreceived : (chapter.push ⟨before, .message (.applicationResponse message)⟩).Received
      operation message.outcome :=
    ⟨_, List.mem_cons_self, operation, message, hpending, rfl, rfl, hanswers, rfl⟩
  have hplain : (⟨before, .message (.applicationResponse message)⟩ : Moment Wire).Plain :=
    ⟨rfl, rfl, fun h ↦ by cases h⟩
  have hpushed := hdescribes.push _ hplain
  unfold ApplicationOperation.answeredBy
  by_cases hsuccess : message.outcome = operation.kind.successfulOutcome
  · rw [if_pos hsuccess]
    refine ⟨hpushed.origin, hpushed.sent, hpushed.index_le, hpushed.delivery, ?_, ?_⟩
    · intro _ _ _
      rw [hsuccess] at hreceived
      exact hreceived.of_request_eq rfl
    · exact fun outcome houtcome ↦ (hpushed.refused outcome houtcome).of_request_eq rfl
  · rw [if_neg hsuccess]
    refine ⟨hpushed.origin, hpushed.sent, hpushed.index_le, hpushed.delivery, ?_, ?_⟩
    · intro _ herror
      cases herror
    · intro outcome houtcome
      cases houtcome
      exact hreceived.of_request_eq rfl

/-- The next message is one of the pending operation. -/
theorem nextMessage_eq_some {connection : Connection Wire} {operation : ApplicationOperation Wire}
    {message : Wire} (hnext : connection.nextMessage = some (operation, message)) :
    connection.pendingOperation = some operation ∧
      operation.encodedMessages[operation.nextMessageIndex]? = some message := by
  obtain ⟨found, hfound, hmessage⟩ := Option.bind_eq_some_iff.1 hnext
  obtain ⟨encoded, hencoded, heq⟩ := Option.map_eq_some_iff.1 hmessage
  cases heq
  exact ⟨hfound, hencoded⟩

/-- Replacing the pending operation by one that the present chapter describes. -/
theorem Attended.of_describes {after : Ledger Wire} {operation : ApplicationOperation Wire}
    (hpending : after.connection.pendingOperation = some operation)
    (hdescribes : Describes (present after.history) after.connection.transportDeliveryPending
      operation)
    (hqueue : ∀ other ∈ after.connection.uploadOperations, other.Unstarted) :
    Attended after where
  pending := by
    intro other hother
    rw [hpending] at hother
    cases hother
    exact hdescribes
  idle := by
    intro hnone
    rw [hpending] at hnone
    cases hnone
  queued := hqueue

/-- A confirmation or a response of the pending operation keeps the invariant. -/
theorem Attended.handles {before after : Ledger Wire} (hattended : Attended before)
    (hhandles : Handles protocol before after) : Attended after := by
  cases hhandles with
  | confirmed operation deadline hpending hdelivery =>
    refine .of_describes rfl ?_ hattended.queued
    rw [Ledger.become_history, Ledger.note_history, present_cons rfl]
    refine (hattended.pending operation hpending).confirm ?_
    split
    · exact .inr ⟨some deadline, rfl⟩
    · exact .inl rfl
  | described operation message information hpending hkind =>
    refine .of_describes rfl ?_ hattended.queued
    rw [Ledger.become_history, Ledger.note_history, present_cons rfl]
    have hpushed := (hattended.pending operation hpending).push
      ⟨before.connection, .message (.systemInfoResponse message)⟩
      ⟨rfl, rfl, fun h ↦ by cases h⟩
    exact ⟨hpushed.origin, hpushed.sent, hpushed.index_le, hpushed.delivery,
      fun _ _ hother ↦ absurd hkind hother,
      fun outcome houtcome ↦ (hpushed.refused outcome houtcome).of_request_eq rfl⟩
  | answered operation scope message hpending hscope hmatch =>
    refine .of_describes rfl ?_ hattended.queued
    rw [Ledger.become_history, Ledger.note_history, present_cons rfl]
    exact (hattended.pending operation hpending).answer hpending
      (answers_of_responseMismatch hscope hmatch)

/-- One move keeps the invariant. -/
theorem Attended.move {before after : Ledger Wire} (hattended : Attended before)
    (hmove : Move protocol before after) : Attended after := by
  cases hmove with
  | serial incoming output offset => exact hattended.become rfl rfl rfl
  | ignored interaction hignored => exact hattended.note _ hignored.plain
  | failed interaction hfails => exact .of_idle rfl rfl fun _ h ↦ by cases h
  | timedOut operation deadline hpending hresponse hdeadline =>
    exact .of_idle rfl rfl fun _ h ↦ by cases h
  | bound builder hfree hid => exact hattended.become rfl rfl rfl
  | queued compiledTest attempt draws upload encoded hactive hqueue hpending hupload hfresh
      hbuilder hencoded =>
    have hnoted := hattended.note (.uploadQueued compiledTest upload encoded)
      ⟨rfl, rfl, fun h ↦ by cases h⟩
    refine ⟨hnoted.pending, hnoted.idle, fun operation hoperation ↦ ?_⟩
    simp only [Ledger.become_connection, Connection.enqueueUpload, hqueue, List.nil_append]
      at hoperation
    exact unstarted_uploadOperationsOf upload encoded operation hoperation
  | starting upload encoded hactive haccepted hstate hpending hdelivery hencoded htrigger =>
    exact .activate ⟨rfl, rfl, rfl, rfl⟩ hdelivery hattended.queued
  | aborting upload encoded hactive hpending hdelivery hencoded =>
    exact .activate ⟨rfl, rfl, rfl, rfl⟩ hdelivery hattended.queued
  | resetting encoded hconfirmed hpending hdelivery hencoded =>
    exact .activate ⟨rfl, rfl, rfl, rfl⟩ hdelivery hattended.queued
  | discovering encoded hpending hconfirmed hencoded =>
    exact .activate ⟨rfl, rfl, rfl, rfl⟩ (hattended.idle hpending) hattended.queued
  | advancing next rest hpending hconfirmed hqueue =>
    have hunstarted : ∀ other ∈ next :: rest, other.Unstarted := fun other hother ↦
      hattended.queued other (hqueue ▸ hother)
    exact .activate (hunstarted next List.mem_cons_self) (hattended.idle hpending)
      fun other hother ↦ hunstarted other (List.mem_cons_of_mem _ hother)
  | submitted operation message hnext hmay =>
    obtain ⟨hpending, hmessage⟩ := nextMessage_eq_some hnext
    refine .of_describes rfl ?_ hattended.queued
    rw [Ledger.become_history, Ledger.note_history, present_cons rfl]
    exact (hattended.pending operation hpending).submit hmessage
  | handled middle after hhandles hfinishes => exact (hattended.handles hhandles).finishes hfinishes
  | counted message hexpected hid hunbound =>
    have hnoted := (hattended.note (.message (.testResult message))
      ⟨rfl, rfl, fun h ↦ by cases h⟩).note (.resultCounted message)
        ⟨rfl, rfl, fun h ↦ by cases h⟩
    exact hnoted.become rfl rfl rfl
  | stored message builder submission result hexpected hid hbound hingested =>
    have hnoted := ((hattended.note (.message (.testResult message))
      ⟨rfl, rfl, fun h ↦ by cases h⟩).note (.tickStored builder result)
        ⟨rfl, rfl, fun h ↦ by cases h⟩).note (.resultCounted message)
          ⟨rfl, rfl, fun h ↦ by cases h⟩
    exact hnoted.become rfl rfl rfl
  | invalidated => exact .of_idle rfl rfl fun _ h ↦ by cases h
  | established =>
    have hnoted := hattended.note (.event .sessionEstablished)
      ⟨rfl, rfl, fun h ↦ by cases h⟩
    exact hnoted.become rfl rfl rfl

/-- One step keeps the invariant. -/
theorem Attended.step {before after : Ledger Wire} (hattended : Attended before)
    (hstep : Step protocol before after) : Attended after := by
  cases hstep with
  | moved after hopen hmove => exact hattended.move hmove
  | closing answer hopen => exact .of_idle rfl rfl fun _ h ↦ by cases h

/-- The invariant holds for a new connection. -/
theorem attended_create (timeout : ℕ) (clock : ℕ → ℕ) (builder : Option BuilderHandle) :
    Attended (Host.create timeout clock builder : Host Wire).toLedger :=
  .of_idle rfl rfl fun _ h ↦ by cases h

end HilRig.Protocol
