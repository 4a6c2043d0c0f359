import HilRig.Protocol.Progress

/-!
# Which message a delivery confirmation confirms

A Transport that confirms every accepted message once and in order confirms with its `k`-th
confirmation the `k`-th accepted message. The connection takes every confirmation for the newest
message of its pending operation, and it remembers only whether a delivery is pending. That agrees
as long as no message is abandoned: `Abandons` lists the steps that drop the pending operation while
its message is undelivered, and `deliveriesAttributed_run` holds for the runs without such a step.
-/

set_option autoImplicit false
set_option relaxedAutoImplicit false

namespace HilRig.Protocol

open HilRig.Models HilRig.Results HilRig.Foundations Relation

variable {Wire : Type} {protocol : NativeProtocol Wire}

/-! ### Acceptances and confirmations -/

/-- Whether a moment is a delivery confirmation. -/
def Moment.confirms (moment : Moment Wire) : Bool :=
  match moment.interaction with
  | .event .deliveryConfirmed => true
  | _ => false

/-- The accepted submissions of a history, newest first. -/
def acceptances (history : List (Moment Wire)) : List (Moment Wire) :=
  history.filter fun moment ↦ moment.accepted.isSome

/-- The number of delivery confirmations in a history. -/
def confirmations (history : List (Moment Wire)) : ℕ :=
  history.countP Moment.confirms

/-- Every confirmation confirms a message that was accepted and not confirmed before. -/
def ConfirmsInOrder : List (Moment Wire) → Prop
  | [] => True
  | moment :: older =>
    (moment.confirms = true → confirmations older < (acceptances older).length) ∧
      ConfirmsInOrder older

/-- A session reset or a delivery failure. -/
def Moment.losesMessages (moment : Moment Wire) : Bool :=
  match moment.interaction with
  | .event .sessionReset | .event .deliveryFailed | .processed _ .deliveryFailed => true
  | _ => false

/-- The Transport confirms each accepted message once, in order, and neither resets the session nor
fails to deliver. -/
structure FaithfulTransport (history : List (Moment Wire)) : Prop where
  inOrder : ConfirmsInOrder history
  lossless : ∀ moment ∈ history, moment.losesMessages = false

/-- A confirmation is taken for the message it confirms: that message, the one accepted after as
many others as were confirmed before, is of the operation that is pending, and its delivery is
awaited. -/
def ConfirmsPending (moment : Moment Wire) (older : List (Moment Wire)) : Prop :=
  moment.before.transportDeliveryPending = true ∧
    ∃ submission operation pending,
      (acceptances older).reverse[confirmations older]? = some submission ∧
      submission ∈ (present older).moments ∧
      submission.before.pendingOperation = some operation ∧
      moment.before.pendingOperation = some pending ∧ operation.request = pending.request

/-- Every confirmation of a history is taken for the message it confirms. -/
def DeliveriesAttributed (history : List (Moment Wire)) : Prop :=
  ∀ newer moment older, history = newer ++ moment :: older → moment.confirms = true →
    ConfirmsPending moment older

/-- A step that drops the pending operation while the delivery of its message is awaited: an inbound
message the connection refuses, a protocol error of the Transport, or a `close` whose release of the
Transport raises. -/
def Moment.abandons (protocol : NativeProtocol Wire) (moment : Moment Wire) : Bool :=
  moment.before.transportDeliveryPending &&
    match moment.interaction with
    | .message message => moment.before.refuses protocol message
    | .event .protocolError => true
    | .closing (.error _) => true
    | _ => false

/-! ### The account of messages -/

theorem confirms_of_other {moment : Moment Wire}
    (hother : moment.interaction ≠ .event .deliveryConfirmed) : moment.confirms = false := by
  unfold Moment.confirms
  split
  · rename_i heq
    exact absurd heq hother
  · rfl

/-- All accepted messages but the one whose delivery is awaited were confirmed. -/
def Balanced (deliveryPending : Bool) (history : List (Moment Wire)) : Prop :=
  (acceptances history).length = confirmations history + deliveryPending.toNat

namespace Balanced

variable {deliveryPending : Bool} {history : List (Moment Wire)} {moment : Moment Wire}

/-- A moment that is neither an acceptance nor a confirmation. -/
theorem plain (hbalanced : Balanced deliveryPending history) (haccepted : moment.accepted = none)
    (hconfirmed : moment.interaction ≠ .event .deliveryConfirmed) :
    Balanced deliveryPending (moment :: history) := by
  have hconfirms := confirms_of_other hconfirmed
  simpa [Balanced, acceptances, confirmations, haccepted, hconfirms] using hbalanced

theorem accept (hbalanced : Balanced false history) {message : Wire}
    (haccepted : moment.accepted = some message)
    (hconfirmed : moment.interaction ≠ .event .deliveryConfirmed) :
    Balanced true (moment :: history) := by
  have hconfirms := confirms_of_other hconfirmed
  simpa [Balanced, acceptances, confirmations, haccepted, hconfirms] using hbalanced

theorem confirm (hbalanced : Balanced true history) (haccepted : moment.accepted = none)
    (hconfirms : moment.confirms = true) : Balanced false (moment :: history) := by
  simpa [Balanced, acceptances, confirmations, haccepted, hconfirms] using hbalanced

end Balanced

/-! ### The account along steps -/

/-- A closed connection handles no more confirmations; an open one keeps its account. -/
def Accounted (ledger : Ledger Wire) : Prop :=
  ledger.connection.closed = true ∨
    Balanced ledger.connection.transportDeliveryPending ledger.history

section Steps

variable {before after : Ledger Wire}

/-- Finishing the pending operation leaves the account as it was. -/
theorem balanced_finishes
    (hbalanced : Balanced before.connection.transportDeliveryPending before.history)
    (hfinishes : Finishes protocol before after) :
    Balanced after.connection.transportDeliveryPending after.history := by
  cases hfinishes with
  | waiting hwaiting => exact hbalanced
  | refused operation hpending hready herror =>
    have hdelivery := (delivered_of_readyToFinish hready).2.1
    rw [hdelivery] at hbalanced
    have hidle := handleNegativeResponse_idle before.connection.release operation rfl hdelivery
    rw [Ledger.become_connection, hidle.2.1]
    exact hbalanced
  | completed operation hpending hready herror hkind =>
    have hdelivery := (delivered_of_readyToFinish hready).2.1
    rw [hdelivery] at hbalanced
    have hidle := complete_idle before.connection.release operation rfl hdelivery
    rw [Ledger.become_connection, hidle.2.1]
    exact hbalanced
  | continued operation next rest hpending hready herror hkind hqueue =>
    exact hbalanced.plain rfl fun h ↦ by cases h
  | uploaded operation deadline hpending hready herror hkind hqueue =>
    exact hbalanced.plain rfl fun h ↦ by cases h
  | startsImmediately operation upload encoded hpending hready herror hkind hactive himmediate
      hencoded =>
    have hdelivery := (delivered_of_readyToFinish hready).2.1
    rw [hdelivery] at hbalanced
    have hidle := complete_idle before.connection.release operation rfl hdelivery
    have hdelivered : ((before.become (before.connection.release.complete operation)).activate
        (startOperation upload.uploadAttempt.applicationTestId
          encoded)).connection.transportDeliveryPending = false := hidle.2.1
    rw [hdelivered]
    exact hbalanced.plain rfl fun h ↦ by cases h

/-- A confirmation or a response keeps the account. -/
theorem balanced_handles
    (hbalanced : Balanced before.connection.transportDeliveryPending before.history)
    (hhandles : Handles protocol before after) :
    Balanced after.connection.transportDeliveryPending after.history := by
  cases hhandles with
  | confirmed operation deadline hpending hdelivery =>
    rw [hdelivery] at hbalanced
    exact hbalanced.confirm rfl rfl
  | described operation message information hpending hkind =>
    exact hbalanced.plain rfl fun h ↦ by cases h
  | answered operation scope message hpending hscope hmatch =>
    exact hbalanced.plain rfl fun h ↦ by cases h

/-- A confirmation of a faithful Transport finds a pending operation whose delivery is awaited. -/
theorem delivery_of_confirmation
    (hbalanced : Balanced before.connection.transportDeliveryPending before.history)
    (hattended : Attended before)
    (horder : confirmations before.history < (acceptances before.history).length) :
    before.connection.transportDeliveryPending = true ∧
      ∃ pending, before.connection.pendingOperation = some pending := by
  have hdelivery : before.connection.transportDeliveryPending = true := by
    cases hdelivery : before.connection.transportDeliveryPending with
    | true => rfl
    | false =>
      rw [Balanced, hdelivery, Bool.toNat_false] at hbalanced
      omega
  refine ⟨hdelivery, ?_⟩
  cases hpending : before.connection.pendingOperation with
  | some pending => exact ⟨pending, rfl⟩
  | none =>
    rw [hattended.idle hpending] at hdelivery
    cases hdelivery

/-- A failing step abandons no message when it is not among those that do. -/
theorem balanced_fails
    (hbalanced : Balanced before.connection.transportDeliveryPending before.history)
    (hattended : Attended before) {interaction : Interaction Wire}
    (hfails : Fails protocol before.connection interaction)
    (hfaithful : FaithfulTransport (before.note interaction).history)
    (hkept : (⟨before.connection, interaction⟩ : Moment Wire).abandons protocol = false) :
    Balanced false (before.note interaction).history := by
  have hlossless := hfaithful.lossless _ List.mem_cons_self
  have hdropped : before.connection.transportDeliveryPending = false →
      (⟨before.connection, interaction⟩ : Moment Wire).accepted = none →
      interaction ≠ .event .deliveryConfirmed →
        Balanced false (before.note interaction).history := by
    intro hdelivery haccepted hconfirmed
    rw [hdelivery] at hbalanced
    exact hbalanced.plain haccepted hconfirmed
  cases hfails with
  | deliveryFailed => cases hlossless
  | protocolError =>
    refine hdropped ?_ rfl fun h ↦ by cases h
    simpa [Moment.abandons] using hkept
  | strayConfirmation hstray =>
    obtain ⟨hdelivery, pending, hpending⟩ :=
      delivery_of_confirmation hbalanced hattended (hfaithful.inOrder.1 rfl)
    rcases hstray with hnone | hnone
    · rw [hpending] at hnone
      cases hnone
    · rw [hdelivery] at hnone
      cases hnone
  | refused message hrefused =>
    refine hdropped ?_ rfl fun h ↦ by cases h
    simpa [Moment.abandons, hrefused] using hkept
  | submission operation message status hnext hmay hok hretry =>
    refine hdropped hmay.1 ?_ fun h ↦ by cases h
    cases status with
    | ok => exact absurd rfl hok
    | _ => rfl
  | processing mode => cases hlossless

/-- One move of a faithful Transport that abandons no message keeps the account. -/
theorem balanced_move
    (hbalanced : Balanced before.connection.transportDeliveryPending before.history)
    (hattended : Attended before) (htimed : before.connection.Timed)
    (hmove : Move protocol before after) (hfaithful : FaithfulTransport after.history)
    (hkept : ∀ moment ∈ after.history, moment.abandons protocol = false) :
    Balanced after.connection.transportDeliveryPending after.history := by
  cases hmove with
  | serial incoming output offset => exact hbalanced
  | ignored interaction hignored =>
    exact hbalanced.plain hignored.plain.accepted hignored.plain.confirmed
  | failed interaction hfails =>
    exact balanced_fails hbalanced hattended hfails hfaithful (hkept _ List.mem_cons_self)
  | timedOut operation deadline hpending hresponse hdeadline =>
    have hdelivery := ((htimed.pending operation hpending).1 (by rw [hdeadline]; rfl)).2
    rw [hdelivery] at hbalanced
    exact hbalanced
  | bound builder hfree hid => exact hbalanced
  | queued compiledTest attempt draws upload encoded hactive hqueue hpending hupload hfresh
      hbuilder hencoded => exact hbalanced.plain rfl fun h ↦ by cases h
  | starting upload encoded hactive haccepted hstate hpending hdelivery hencoded htrigger =>
    exact (hbalanced.plain rfl fun h ↦ by cases h).plain rfl fun h ↦ by cases h
  | aborting upload encoded hactive hpending hdelivery hencoded =>
    exact (hbalanced.plain rfl fun h ↦ by cases h).plain rfl fun h ↦ by cases h
  | resetting encoded hconfirmed hpending hdelivery hencoded =>
    exact (hbalanced.plain rfl fun h ↦ by cases h).plain rfl fun h ↦ by cases h
  | discovering encoded hpending hconfirmed hencoded =>
    exact hbalanced.plain rfl fun h ↦ by cases h
  | advancing next rest hpending hconfirmed hqueue => exact hbalanced.plain rfl fun h ↦ by cases h
  | submitted operation message hnext hmay =>
    rw [hmay.1] at hbalanced
    exact hbalanced.accept rfl fun h ↦ by cases h
  | handled middle after hhandles hfinishes =>
    exact balanced_finishes (balanced_handles hbalanced hhandles) hfinishes
  | counted message hexpected hid hunbound =>
    exact (hbalanced.plain rfl fun h ↦ by cases h).plain rfl fun h ↦ by cases h
  | stored message builder submission result hexpected hid hbound hingested =>
    exact ((hbalanced.plain rfl fun h ↦ by cases h).plain rfl fun h ↦ by cases h).plain rfl
      fun h ↦ by cases h
  | invalidated =>
    have hlossless := hfaithful.lossless _ List.mem_cons_self
    cases hlossless
  | established => exact hbalanced.plain rfl fun h ↦ by cases h

/-- One step of a faithful Transport that abandons no message keeps the account. -/
theorem accounted_step (haccounted : Accounted before) (hattended : Attended before)
    (htimed : before.connection.Timed) (hstep : Step protocol before after)
    (hfaithful : FaithfulTransport after.history)
    (hkept : ∀ moment ∈ after.history, moment.abandons protocol = false) : Accounted after := by
  have hopen := hstep.isOpen
  have hbalanced := haccounted.resolve_left (Bool.eq_false_iff.1 hopen)
  cases hstep with
  | moved after _ hmove =>
    exact .inr (balanced_move hbalanced hattended htimed hmove hfaithful hkept)
  | closing answer _ =>
    cases answer with
    | ok _ => exact .inl rfl
    | error error =>
      have habandons := hkept _ List.mem_cons_self
      have hdelivery : before.connection.transportDeliveryPending = false := by
        simpa [Moment.abandons] using habandons
      rw [hdelivery] at hbalanced
      exact .inr (hbalanced.plain rfl fun h ↦ by cases h)

end Steps

/-! ### Attribution in runs -/

theorem FaithfulTransport.tail {moment : Moment Wire} {older : List (Moment Wire)}
    (hfaithful : FaithfulTransport (moment :: older)) : FaithfulTransport older where
  inOrder := hfaithful.inOrder.2
  lossless := fun other hother ↦ hfaithful.lossless other (List.mem_cons_of_mem _ hother)

/-- What is assumed of a history holds of its beginnings. -/
theorem FaithfulTransport.of_append {newer older : List (Moment Wire)}
    (hfaithful : FaithfulTransport (newer ++ older)) : FaithfulTransport older := by
  induction newer with
  | nil => exact hfaithful
  | cons moment newer ih => exact ih hfaithful.tail

/-- The account holds along every path of a faithful Transport that abandons no message. -/
theorem accounted_path {start ledger : Ledger Wire} (hattended : Attended start)
    (htimed : start.connection.Timed) (haccounted : Accounted start)
    (hpath : ReflTransGen (Step protocol) start ledger) :
    Attended ledger ∧ ledger.connection.Timed ∧
      (FaithfulTransport ledger.history →
        (∀ moment ∈ ledger.history, moment.abandons protocol = false) → Accounted ledger) := by
  induction hpath with
  | refl => exact ⟨hattended, htimed, fun _ _ ↦ haccounted⟩
  | tail _ hstep ih =>
    obtain ⟨hattended, htimed, haccounted⟩ := ih
    refine ⟨hattended.step hstep, htimed.step hstep, fun hfaithful hkept ↦ ?_⟩
    obtain ⟨followers, first, hrecords⟩ := hstep.records
    have hhistory := hrecords.history_eq
    rw [← List.append_assoc] at hhistory
    refine accounted_step (haccounted ?_ fun moment hmoment ↦ ?_) hattended htimed hstep hfaithful
      hkept
    · rw [hhistory] at hfaithful
      exact hfaithful.of_append
    · refine hkept moment ?_
      rw [hhistory]
      exact List.mem_append_right _ hmoment

/-- When the delivery of a message of the present chapter is awaited, the newest accepted message is
of that chapter. -/
theorem newest_acceptance {history : List (Moment Wire)}
    (hunconfirmed : unconfirmed (present history).moments = true) :
    ∃ submission ∈ (present history).moments, submission.accepted.isSome ∧
      (acceptances history).head? = some submission := by
  induction history with
  | nil => cases hunconfirmed
  | cons moment older ih =>
    by_cases hwithin : moment.Within
    · rw [present_cons hwithin] at hunconfirmed ⊢
      cases haccepted : moment.accepted with
      | some message =>
        refine ⟨moment, List.mem_cons_self, by rw [haccepted]; rfl, ?_⟩
        simp [acceptances, haccepted]
      | none =>
        have hconfirmed : moment.interaction ≠ .event .deliveryConfirmed := by
          intro hconfirmed
          simp only [unconfirmed, hconfirmed] at hunconfirmed
          cases hunconfirmed
        rw [unconfirmed_cons_of_other _ haccepted hconfirmed] at hunconfirmed
        obtain ⟨submission, hmem, hsome, hhead⟩ := ih hunconfirmed
        refine ⟨submission, List.mem_cons_of_mem _ hmem, hsome, ?_⟩
        simpa [acceptances, haccepted] using hhead
    · cases moment with
      | mk before interaction =>
        cases interaction with
        | activated operation => cases hunconfirmed
        | _ => exact absurd rfl hwithin

/-- A confirmation that finds the account balanced confirms the pending operation's message. -/
theorem confirmsPending_of_balanced {ledger : Ledger Wire} (hattended : Attended ledger)
    (hrecorded : Recorded ledger.history)
    (hbalanced : Balanced ledger.connection.transportDeliveryPending ledger.history)
    (horder : confirmations ledger.history < (acceptances ledger.history).length)
    (interaction : Interaction Wire) :
    ConfirmsPending ⟨ledger.connection, interaction⟩ ledger.history := by
  obtain ⟨hdelivery, pending, hpending⟩ := delivery_of_confirmation hbalanced hattended horder
  have hdescribes := hattended.pending pending hpending
  obtain ⟨start, hstart, hrequest⟩ := hdescribes.origin
  obtain ⟨submission, hmem, hsome, hhead⟩ :=
    newest_acceptance (hdescribes.delivery.trans hdelivery)
  obtain ⟨message, haccepted⟩ := Option.isSome_iff_exists.1 hsome
  obtain ⟨operation, opened, hoperation, hopened, hsame⟩ :=
    hrecorded.attributed _ List.mem_cons_self submission hmem message haccepted
  refine ⟨hdelivery, submission, operation, pending, ?_, hmem, hoperation, hpending, ?_⟩
  · rw [Balanced, hdelivery, Bool.toNat_true] at hbalanced
    have hindex : (acceptances ledger.history).length - 1 - confirmations ledger.history = 0 := by
      omega
    rw [List.getElem?_reverse horder, hindex, ← List.head?_eq_getElem?]
    exact hhead
  · rw [hstart] at hopened
    rw [← hsame, ← hrequest, Option.some.inj hopened]

/-- In every run with a faithful Transport and no step that abandons a message, every confirmation
is taken for the message it confirms. -/
theorem deliveriesAttributed_run (timeout : ℕ) (clock : ℕ → ℕ) (builder : Option BuilderHandle)
    (calls : List (Call Wire))
    (hfaithful :
      FaithfulTransport (run protocol (Host.create timeout clock builder) calls).history)
    (hkept : ∀ moment ∈ (run protocol (Host.create timeout clock builder) calls).history,
      moment.abandons protocol = false) :
    DeliveriesAttributed (run protocol (Host.create timeout clock builder) calls).history := by
  intro newer moment older hsplit hconfirms
  have hfirst : moment.interaction.follows = false := by
    unfold Moment.confirms at hconfirms
    split at hconfirms
    · rename_i heq
      rw [heq]
      rfl
    · cases hconfirms
  obtain ⟨next, followers, hpath, hstep, hrecords, -⟩ :=
    step_of_split (run_path _ calls) rfl hsplit hfirst
  obtain ⟨hattended, htimed, haccounted⟩ :=
    accounted_path (attended_create timeout clock builder) (.create timeout clock builder)
      (.inr rfl) hpath
  rw [hsplit] at hfaithful hkept
  have hsuffix := hfaithful.of_append
  have hbalanced := (haccounted hsuffix.tail fun other hother ↦ hkept other
    (List.mem_append_right _ (List.mem_cons_of_mem _ hother))).resolve_left
      (Bool.eq_false_iff.1 hstep.isOpen)
  exact confirmsPending_of_balanced hattended (Supervised.of_path hpath).recorded hbalanced
    (hsuffix.inOrder.1 hconfirms) moment.interaction

/-! ### Confirmations of fixed runs -/

/-- `ConfirmsInOrder` can be decided along the history. -/
def decideConfirmsInOrder : (history : List (Moment Wire)) → Decidable (ConfirmsInOrder history)
  | [] => isTrue trivial
  | moment :: older =>
    have := decideConfirmsInOrder older
    inferInstanceAs (Decidable
      ((moment.confirms = true → confirmations older < (acceptances older).length) ∧
        ConfirmsInOrder older))

instance (history : List (Moment Wire)) : Decidable (ConfirmsInOrder history) :=
  decideConfirmsInOrder history

/-- The configuration is confirmed for the operation it was submitted for. -/
theorem deliveriesAttributed_connectedCalls : DeliveriesAttributed
    (run directCodec (Host.create 5 id none) (connectedCalls .hostCommand ++
      [.service { firstDrain := ⟨[.deliveryConfirmed], []⟩ }])).history :=
  deliveriesAttributed_run 5 id none _ ⟨by decide, by decide⟩ (by decide)

/-- An unexpected message fails the workflow while the configuration is undelivered, the caller
requests an ABORT, and then the configuration is confirmed. -/
def abandonedCalls : List (Call (OutboundMessage ⊕ InboundMessage)) :=
  connectedCalls .hostCommand ++
    [.service { firstDrain := ⟨[], [⟨.inr (.other "TestConfiguration"), .ok ()⟩]⟩ },
      .abort,
      .service { firstDrain := ⟨[.deliveryConfirmed], []⟩ }]

/-- The late confirmation finds the ABORT pending, whose message was not submitted, and fails the
workflow. -/
theorem not_deliveriesAttributed_abandonedCalls :
    FaithfulTransport (run directCodec (Host.create 5 id none) abandonedCalls).history ∧
      ¬DeliveriesAttributed (run directCodec (Host.create 5 id none) abandonedCalls).history ∧
      ((run directCodec (Host.create 5 id none) abandonedCalls).history.head?.bind fun moment ↦
        moment.before.pendingOperation.map ApplicationOperation.kind) = some .abort ∧
      (run directCodec (Host.create 5 id none) abandonedCalls).connection.pendingOperation =
        none ∧
      (run directCodec (Host.create 5 id none) abandonedCalls).connection.workflowState =
        .failed := by
  refine ⟨⟨by decide, by decide⟩, fun hattributed ↦ ?_, by decide, by decide, by decide⟩
  have hlast : ∃ moment older,
      (run directCodec (Host.create 5 id none) abandonedCalls).history = moment :: older ∧
        moment.confirms = true ∧ moment.before.transportDeliveryPending = false :=
    ⟨_, _, rfl, by decide, by decide⟩
  obtain ⟨moment, older, hhistory, hconfirms, hdelivery⟩ := hlast
  have hpending := (hattributed [] moment older hhistory hconfirms).1
  rw [hdelivery] at hpending
  cases hpending

end HilRig.Protocol
