import HilRig.Protocol.DeliveryAttribution

/-!
# Responses follow their requests

The handlers correlate a response with the pending operation by its kind, identifiers and commands,
and never ask whether the operation's message was submitted. A response that is handled before that
is early: it is taken for the operation's own. `answeredAfterSubmission_run` shows that this is the
only way an operation completes on a response that is older than its request: in a run without early
responses every operation that completes was answered after all its messages were accepted.
-/

set_option autoImplicit false
set_option relaxedAutoImplicit false

namespace HilRig.Protocol

open HilRig.Models HilRig.Results HilRig.Foundations Relation

variable {Wire : Type} {protocol : NativeProtocol Wire}

/-! ### Responses of an operation -/

/-- A moment in which a response to an operation is handled. -/
def Moment.Responds (operation : ApplicationOperation Wire) (moment : Moment Wire) : Prop :=
  match moment.interaction with
  | .message (.systemInfoResponse _) => operation.kind = .discovery
  | .message (.applicationResponse message) => Answers operation message
  | _ => False

/-- A response to an operation was handled after all its messages were accepted. -/
def Chapter.AnsweredAfterSubmission (chapter : Chapter Wire)
    (operation : ApplicationOperation Wire) : Prop :=
  ∃ newer response older, chapter.moments = newer ++ response :: older ∧
    response.Responds operation ∧
      (⟨chapter.operation, older⟩ : Chapter Wire).sent = operation.encodedMessages

/-- Whether a response is taken for the pending operation's before its message was submitted. -/
def Moment.answersEarly (protocol : NativeProtocol Wire) (moment : Moment Wire) : Bool :=
  match moment.before.pendingOperation with
  | none => false
  | some operation =>
    !operation.everyMessageSubmitted &&
      match moment.interaction with
      | .message (.systemInfoResponse message) =>
        operation.kind == .discovery &&
          (protocol.checkProtocolVersion message.protocolVersion).isOk
      | .message (.applicationResponse message) =>
        match operation.kind.expectedScope with
        | none => false
        | some scope =>
          match responseMismatch operation scope message with
          | .ok none => true
          | _ => false
      | _ => false

namespace Chapter.AnsweredAfterSubmission

variable {chapter : Chapter Wire} {operation other : ApplicationOperation Wire}

/-- Later moments of the chapter change nothing. -/
theorem push (hanswered : chapter.AnsweredAfterSubmission operation) (moment : Moment Wire) :
    (chapter.push moment).AnsweredAfterSubmission operation := by
  obtain ⟨newer, response, older, hmoments, hrest⟩ := hanswered
  refine ⟨moment :: newer, response, older, ?_, hrest⟩
  rw [Chapter.push, hmoments, List.cons_append]

/-- Only the request of the operation matters. -/
theorem of_request_eq (hanswered : chapter.AnsweredAfterSubmission operation)
    (hrequest : operation.request = other.request) : chapter.AnsweredAfterSubmission other := by
  obtain ⟨newer, response, older, hmoments, hresponds, hsent⟩ := hanswered
  refine ⟨newer, response, older, hmoments, ?_,
    hsent.trans (encodedMessages_of_request_eq hrequest)⟩
  unfold Moment.Responds at hresponds ⊢
  split at hresponds
  · exact (kind_of_request_eq hrequest).symm.trans hresponds
  · exact hresponds.of_request_eq hrequest
  · exact hresponds

/-- A response handled now, when all messages were accepted. -/
theorem now {deliveryPending : Bool} {moment : Moment Wire}
    (hdescribes : Describes chapter deliveryPending operation)
    (hall : operation.everyMessageSubmitted = true) (hresponds : moment.Responds operation) :
    (chapter.push moment).AnsweredAfterSubmission operation := by
  refine ⟨[], moment, chapter.moments, rfl, hresponds, ?_⟩
  rw [ApplicationOperation.everyMessageSubmitted, beq_iff_eq] at hall
  have hsent := hdescribes.sent
  rw [hall, List.take_length] at hsent
  exact hsent

end Chapter.AnsweredAfterSubmission

/-! ### The invariant -/

/-- A response that the pending operation has received was handled after its submission. -/
def Solicited (ledger : Ledger Wire) : Prop :=
  ∀ operation, ledger.connection.pendingOperation = some operation →
    operation.responseReceived = true →
      (present ledger.history).AnsweredAfterSubmission operation

namespace Solicited

variable {before after : Ledger Wire}

theorem of_idle (hpending : after.connection.pendingOperation = none) : Solicited after := by
  intro operation hoperation
  rw [hpending] at hoperation
  cases hoperation

/-- The pending operation has not been answered yet. -/
theorem of_unanswered {operation : ApplicationOperation Wire}
    (hpending : after.connection.pendingOperation = some operation)
    (hreceived : operation.responseReceived = false) : Solicited after := by
  intro other hother hanswered
  rw [hpending] at hother
  rw [← Option.some.inj hother, hreceived] at hanswered
  cases hanswered

/-- One more moment of the chapter, which answers nothing. -/
theorem of_noted (hsolicited : Solicited before) {moment : Moment Wire}
    (hhistory : after.history = moment :: before.history)
    (hstays : moment.interaction.staysInChapter = true)
    (hpending : ∀ operation, after.connection.pendingOperation = some operation →
      ∃ earlier, before.connection.pendingOperation = some earlier ∧
        earlier.request = operation.request ∧
        earlier.responseReceived = operation.responseReceived) : Solicited after := by
  intro operation hoperation hreceived
  obtain ⟨earlier, hearlier, hrequest, hsame⟩ := hpending operation hoperation
  rw [hhistory, present_cons hstays]
  exact ((hsolicited earlier hearlier (hsame.trans hreceived)).push moment).of_request_eq hrequest

theorem of_same (hsolicited : Solicited before)
    (hpending : after.connection.pendingOperation = before.connection.pendingOperation)
    (hhistory : after.history = before.history) : Solicited after := by
  intro operation hoperation hreceived
  rw [hhistory]
  exact hsolicited operation (hpending ▸ hoperation) hreceived

/-- An interaction that leaves the pending operation as it is. -/
theorem note (hsolicited : Solicited before) (interaction : Interaction Wire)
    (hstays : interaction.staysInChapter = true) : Solicited (before.note interaction) :=
  hsolicited.of_noted rfl hstays fun operation hoperation ↦ ⟨operation, hoperation, rfl, rfl⟩

/-- A confirmation or a punctual response keeps the invariant. -/
theorem handles (hsolicited : Solicited before) (hattended : Attended before)
    (hhandles : Handles protocol before after)
    (hpunctual : ∀ moment ∈ after.history, moment.answersEarly protocol = false) :
    Solicited after := by
  have hnewest := fun interaction ↦ hpunctual ⟨before.connection, interaction⟩
  cases hhandles with
  | confirmed operation deadline hpending hdelivery =>
    refine hsolicited.of_noted rfl rfl fun other hother ↦ ?_
    refine ⟨operation, hpending, ?_⟩
    rw [← Option.some.inj hother]
    split <;> exact ⟨rfl, rfl⟩
  | described operation message information hpending hkind hversion hinformation =>
    have hearly := hnewest _ List.mem_cons_self
    have hall : operation.everyMessageSubmitted = true := by
      simpa [Moment.answersEarly, hpending, hkind, hversion, Except.isOk, Except.toBool]
        using hearly
    have hresponds : (⟨before.connection, .message (.systemInfoResponse message)⟩ :
        Moment Wire).Responds operation := hkind
    intro other hother _
    rw [← Option.some.inj hother, Ledger.become_history, Ledger.note_history, present_cons rfl]
    exact (Chapter.AnsweredAfterSubmission.now (hattended.pending operation hpending) hall
      hresponds).of_request_eq rfl
  | answered operation scope message hpending hscope hmatch =>
    have hearly := hnewest _ List.mem_cons_self
    have hall : operation.everyMessageSubmitted = true := by
      simpa [Moment.answersEarly, hpending, hscope, hmatch] using hearly
    have hresponds : (⟨before.connection, .message (.applicationResponse message)⟩ :
        Moment Wire).Responds operation := answers_of_responseMismatch hscope hmatch
    intro other hother _
    rw [← Option.some.inj hother, Ledger.become_history, Ledger.note_history, present_cons rfl]
    exact (Chapter.AnsweredAfterSubmission.now (hattended.pending operation hpending) hall
      hresponds).of_request_eq (request_answeredBy operation message).symm

theorem finishes (hsolicited : Solicited before) (hattended : Attended before)
    (hfinishes : Finishes protocol before after) : Solicited after := by
  cases hfinishes with
  | waiting hwaiting => exact hsolicited
  | refused operation hpending hready herror =>
    exact .of_idle (handleNegativeResponse_idle before.connection.release operation rfl
      (delivered_of_readyToFinish hready).2.1).1
  | completed operation hpending hready herror hkind =>
    exact .of_idle (complete_idle before.connection.release operation rfl
      (delivered_of_readyToFinish hready).2.1).1
  | continued operation next rest hpending hready herror hkind hqueue =>
    exact .of_unanswered rfl
      (hattended.queued next (by rw [hqueue]; exact List.mem_cons_self)).responseReceived
  | uploaded operation deadline hpending hready herror hkind hqueue => exact .of_unanswered rfl rfl
  | startsImmediately operation upload encoded hpending hready herror hkind hactive himmediate
      hencoded => exact .of_unanswered rfl rfl

/-- One move keeps the invariant, unless it handles an early response. -/
theorem move (hsolicited : Solicited before) (hattended : Attended before)
    (hmove : Move protocol before after)
    (hpunctual : ∀ moment ∈ after.history, moment.answersEarly protocol = false) :
    Solicited after := by
  cases hmove with
  | serial incoming output offset => exact hsolicited.of_same rfl rfl
  | ignored interaction hignored => exact hsolicited.note _ hignored.plain.stays
  | failed interaction hfails => exact .of_idle rfl
  | timedOut operation deadline hpending hresponse hdeadline => exact .of_idle rfl
  | bound builder hfree hid => exact hsolicited.of_same rfl rfl
  | queued compiledTest attempt draws upload encoded hactive hqueue hpending hupload hfresh
      hbuilder hencoded =>
    exact hsolicited.of_noted rfl rfl fun operation hoperation ↦ ⟨operation, hoperation, rfl, rfl⟩
  | starting upload encoded hactive haccepted hstate hpending hdelivery hencoded htrigger =>
    exact .of_unanswered rfl rfl
  | aborting upload encoded hactive hpending hdelivery hencoded => exact .of_unanswered rfl rfl
  | resetting encoded hconfirmed hpending hdelivery hencoded => exact .of_unanswered rfl rfl
  | discovering encoded hpending hconfirmed hencoded => exact .of_unanswered rfl rfl
  | advancing next rest hpending hconfirmed hqueue =>
    exact .of_unanswered rfl
      (hattended.queued next (by rw [hqueue]; exact List.mem_cons_self)).responseReceived
  | submitted operation message hnext hmay =>
    refine hsolicited.of_noted rfl rfl fun other hother ↦ ?_
    rw [← Option.some.inj hother]
    exact ⟨operation, (nextMessage_eq_some hnext).1, rfl, rfl⟩
  | handled middle after hhandles hfinishes =>
    have hmiddle : Solicited middle := hsolicited.handles hattended hhandles fun moment hmoment ↦
      hpunctual moment ((suffix_of_finishes hfinishes).mem hmoment)
    exact hmiddle.finishes (hattended.handles hhandles) hfinishes
  | counted message hexpected hid hunbound =>
    have hnoted := (hsolicited.note (.message (.testResult message)) rfl).note
      (.resultCounted message) rfl
    exact hnoted.of_same rfl rfl
  | stored message builder submission result hexpected hid hbound hingested =>
    have hnoted := ((hsolicited.note (.message (.testResult message)) rfl).note
      (.tickStored builder result) rfl).note (.resultCounted message) rfl
    exact hnoted.of_same rfl rfl
  | invalidated => exact .of_idle rfl
  | established =>
    exact hsolicited.of_noted rfl rfl fun operation hoperation ↦ ⟨operation, hoperation, rfl, rfl⟩

theorem step (hsolicited : Solicited before) (hattended : Attended before)
    (hstep : Step protocol before after)
    (hpunctual : ∀ moment ∈ after.history, moment.answersEarly protocol = false) :
    Solicited after := by
  cases hstep with
  | moved after hopen hmove => exact hsolicited.move hattended hmove hpunctual
  | closing answer hopen => exact .of_idle rfl

/-- Along a path without early responses every response was handled after its request. -/
theorem of_path {timeout : ℕ} {clock : ℕ → ℕ} {builder : Option BuilderHandle}
    {ledger : Ledger Wire}
    (hpath : ReflTransGen (Step protocol)
      (Host.create timeout clock builder : Host Wire).toLedger ledger)
    (hpunctual : ∀ moment ∈ ledger.history, moment.answersEarly protocol = false) :
    Solicited ledger := by
  induction hpath with
  | refl => exact .of_idle rfl
  | tail hpath hstep ih =>
    have hsolicited := ih fun moment hmoment ↦ hpunctual moment (hstep.suffix.mem hmoment)
    exact hsolicited.step (Supervised.of_path hpath).attended hstep hpunctual

end Solicited

/-- In every run without early responses, whatever the pending operation was answered by, and every
operation that completes anywhere in the run was answered by a response that was handled after all
its messages were accepted. -/
theorem answeredAfterSubmission_run (timeout : ℕ) (clock : ℕ → ℕ)
    (builder : Option BuilderHandle) (calls : List (Call Wire))
    (hpunctual : ∀ moment ∈ (run protocol (Host.create timeout clock builder) calls).history,
      moment.answersEarly protocol = false) :
    Solicited (run protocol (Host.create timeout clock builder) calls).toLedger ∧
    ∀ before middle after operation,
      ReflTransGen (Step protocol) (Host.create timeout clock builder).toLedger before →
      Handles protocol before middle → Finishes protocol middle after →
      middle.connection.pendingOperation = some operation →
      middle.connection.readyToFinish operation = true →
      ReflTransGen (Step protocol) after
        (run protocol (Host.create timeout clock builder) calls).toLedger →
      (present middle.history).AnsweredAfterSubmission operation := by
  constructor
  · exact .of_path (run_path _ calls) hpunctual
  · intro before middle after operation hto hhandles hfinishes hpending hready hfrom
    have hbefore : before.history <:+ middle.history := by
      cases hhandles <;> exact List.suffix_cons _ _
    have hafter : middle.history <:+
        (run protocol (Host.create timeout clock builder) calls).history :=
      (suffix_of_finishes hfinishes).trans (suffix_of_path hfrom)
    have hmiddle : ∀ moment ∈ middle.history, moment.answersEarly protocol = false :=
      fun moment hmoment ↦ hpunctual moment (hafter.mem hmoment)
    have hsolicited : Solicited before := .of_path hto fun moment hmoment ↦
      hmiddle moment (hbefore.mem hmoment)
    have hattended := (Supervised.of_path hto).attended
    exact (hsolicited.handles hattended hhandles hmiddle) operation hpending
      (delivered_of_readyToFinish hready).1

/-- Discovery is submitted and delivered. -/
def discoveredCalls : List (Call (OutboundMessage ⊕ InboundMessage)) :=
  [.service { submitStatus := .ok .ok },
    .service { firstDrain := ⟨[.deliveryConfirmed], []⟩ }]

/-- The rig describes itself. -/
def descriptionCall : Call (OutboundMessage ⊕ InboundMessage) :=
  .service { firstDrain := ⟨[], [⟨.inr (.systemInfoResponse rigInformation), .ok ()⟩]⟩ }

/-- The delivered request of discovery. -/
def deliveredDiscovery : ApplicationOperation (OutboundMessage ⊕ InboundMessage) :=
  { discoveryOperation (.inl buildSystemInfoRequest) with
    nextMessageIndex := 1
    responseDeadline := some 5 }

/-- Discovery completes when the rig describes itself, after its request was accepted. -/
theorem answeredAfterSubmission_run_discoveredCalls :
    Solicited (run directCodec (Host.create 5 id none)
      (discoveredCalls ++ [descriptionCall])).toLedger ∧
    (run directCodec (Host.create 5 id none)
      (discoveredCalls ++ [descriptionCall])).connection.sessionConfirmed = true ∧
    ∃ middle : Ledger (OutboundMessage ⊕ InboundMessage),
      middle.history = (run directCodec (Host.create 5 id none)
        (discoveredCalls ++ [descriptionCall])).history ∧
      (present middle.history).AnsweredAfterSubmission
        { deliveredDiscovery with responseReceived := true } := by
  obtain ⟨hsolicited, hanswered⟩ := @answeredAfterSubmission_run _ directCodec 5 id none
    (discoveredCalls ++ [descriptionCall]) (by decide)
  have hdelivered := (@run_path _ directCodec (Host.create 5 id none) discoveredCalls).tail
    (.moved _ (by decide) (.ignored (.processed .normal .ok) (.processing _ _ (by decide))))
  refine ⟨hsolicited, by decide, _, ?_, hanswered _ _ _ _ hdelivered
    (.described deliveredDiscovery rigInformation _ rfl rfl rfl rfl)
    (.completed _ rfl (by decide) rfl (by decide)) rfl (by decide) ?_⟩
  · rfl
  · exact .refl

/-! ### A stale response -/

/-- Whether system information is received. -/
def Moment.informs (moment : Moment Wire) : Bool :=
  match moment.interaction with
  | .message (.systemInfoResponse _) => true
  | _ => false

/-- Discovery is activated; system information arrives before its request is submitted, and none
after it. -/
def staleCalls : List (Call (OutboundMessage ⊕ InboundMessage)) :=
  [.queueUpload (digitalInputTest .hostCommand) none [7] .established,
    .service { firstDrain := ⟨[], [⟨.inr (.systemInfoResponse rigInformation), .ok ()⟩]⟩ },
    .service { submitStatus := .ok .ok },
    .service { firstDrain := ⟨[.deliveryConfirmed], []⟩ }]

/-- The early system information is taken for the answer, and completes discovery once its request
is delivered. -/
theorem not_solicited_staleCalls :
    ¬Solicited (run directCodec (Host.create 5 id none) (staleCalls.take 2)).toLedger ∧
      (run directCodec (Host.create 5 id none) staleCalls).connection.sessionConfirmed = true ∧
      (run directCodec (Host.create 5 id none) staleCalls).history.countP Moment.informs = 1 := by
  refine ⟨fun hsolicited ↦ ?_, by decide, by decide⟩
  have hpending : ∃ operation, (run directCodec (Host.create 5 id none)
      (staleCalls.take 2)).connection.pendingOperation = some operation ∧
      operation.responseReceived = true ∧ operation.encodedMessages ≠ [] :=
    ⟨_, rfl, by decide, by decide⟩
  obtain ⟨operation, hpending, hreceived, hmessages⟩ := hpending
  have hunsent : (present (run directCodec (Host.create 5 id none)
      (staleCalls.take 2)).history).moments.filterMap Moment.accepted = [] := by decide
  obtain ⟨newer, response, older, hmoments, -, hsent⟩ := hsolicited operation hpending hreceived
  apply hmessages
  rw [← hsent, Chapter.sent, List.reverse_eq_nil_iff, List.filterMap_eq_nil_iff]
  intro moment hmoment
  refine List.filterMap_eq_nil_iff.1 hunsent moment ?_
  rw [hmoments]
  exact List.mem_append_right _ (List.mem_cons_of_mem _ hmoment)

end HilRig.Protocol
