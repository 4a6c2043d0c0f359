import HilRig.Protocol.ResponseOrder

/-!
# Every session is confirmed by its own discovery

A Transport session begins with the event that establishes it or resets the one before. Establishing
a session takes the confirmation back, but it keeps the pending operation; a discovery that was
submitted before then still completes, and confirms the new session with what the old one was asked.
`sessionsConfirmed_run` shows that nothing else does: in a run in which no session is established
while a submitted discovery is pending, and no system information is early, whatever the connection
submits but System Information requests follows a discovery that was requested, delivered and
answered within the session, and the stored information is that of its answer.
-/

set_option autoImplicit false
set_option relaxedAutoImplicit false

namespace HilRig.Protocol

open HilRig.Models HilRig.Results HilRig.Foundations Relation

variable {Wire : Type} {protocol : NativeProtocol Wire}

/-! ### Sessions of a history -/

/-- Whether a Transport session begins or ends. -/
def Moment.opensSession (moment : Moment Wire) : Bool :=
  match moment.interaction with
  | .event .sessionEstablished | .event .sessionReset => true
  | _ => false

/-- The moments since the newest event of a Transport session, newest first. -/
def sinceSession (history : List (Moment Wire)) : List (Moment Wire) :=
  history.takeWhile fun moment ↦ !moment.opensSession

theorem sinceSession_cons {moment : Moment Wire} (hopens : moment.opensSession = false)
    (history : List (Moment Wire)) :
    sinceSession (moment :: history) = moment :: sinceSession history := by
  simp [sinceSession, hopens]

theorem sinceSession_append {notes : List (Moment Wire)}
    (hnotes : ∀ moment ∈ notes, moment.opensSession = false) (history : List (Moment Wire)) :
    sinceSession (notes ++ history) = notes ++ sinceSession history := by
  induction notes with
  | nil => rfl
  | cons moment notes ih =>
    rw [List.cons_append, sinceSession_cons (hnotes moment List.mem_cons_self),
      ih fun other hother ↦ hnotes other (List.mem_cons_of_mem _ hother), List.cons_append]

/-! ### Discoveries -/

/-- The Transport accepts the request of a pending discovery. -/
def Moment.RequestsInformation (protocol : NativeProtocol Wire) (moment : Moment Wire) : Prop :=
  (∃ operation, moment.before.pendingOperation = some operation ∧ operation.kind = .discovery) ∧
    ∃ encoded, protocol.encode buildSystemInfoRequest = .ok encoded ∧
      moment.accepted = some encoded

/-- System information of a compatible version arrives. -/
def Moment.Provides (protocol : NativeProtocol Wire) (information : RigSystemInfo)
    (moment : Moment Wire) : Prop :=
  ∃ message, moment.interaction = .message (.systemInfoResponse message) ∧
    protocol.checkProtocolVersion message.protocolVersion = .ok () ∧
      information = informationOf message

/-- Since a message was accepted, a delivery was confirmed before any other was accepted. -/
def Delivered (newer : List (Moment Wire)) : Prop :=
  ∃ later confirmation between, newer = later ++ confirmation :: between ∧
    confirmation.confirms = true ∧ ∀ moment ∈ between, moment.accepted = none

/-- The moments contain a request for system information, its delivery, and an answer to it. -/
def Discovered (protocol : NativeProtocol Wire) (moments : List (Moment Wire))
    (information : RigSystemInfo) : Prop :=
  ∃ newer request older, moments = newer ++ request :: older ∧
    request.RequestsInformation protocol ∧ Delivered newer ∧
      ∃ response ∈ newer, response.Provides protocol information

theorem Delivered.append {newer : List (Moment Wire)} (hdelivered : Delivered newer)
    (notes : List (Moment Wire)) : Delivered (notes ++ newer) := by
  obtain ⟨later, confirmation, between, rfl, hrest⟩ := hdelivered
  exact ⟨notes ++ later, confirmation, between, by simp, hrest⟩

theorem Discovered.append {moments : List (Moment Wire)} {information : RigSystemInfo}
    (hdiscovered : Discovered protocol moments information) (notes : List (Moment Wire)) :
    Discovered protocol (notes ++ moments) information := by
  obtain ⟨newer, request, older, rfl, hrequest, hdelivered, response, hresponse, hprovides⟩ :=
    hdiscovered
  exact ⟨notes ++ newer, request, older, by simp, hrequest, hdelivered.append notes, response,
    List.mem_append_right _ hresponse, hprovides⟩

/-! ### The invariant -/

/-- How far a submitted discovery has come since the newest session event. -/
def Underway (protocol : NativeProtocol Wire) (connection : Connection Wire)
    (moments : List (Moment Wire)) (responseReceived : Bool) : Prop :=
  ∃ newer request older, moments = newer ++ request :: older ∧
    request.RequestsInformation protocol ∧
    (connection.transportDeliveryPending = true → ∀ moment ∈ newer, moment.accepted = none) ∧
    (connection.transportDeliveryPending = false → Delivered newer) ∧
    (responseReceived = true → ∃ information, connection.sessionInfo = some information ∧
      ∃ response ∈ newer, response.Provides protocol information)

/-- A pending discovery: the session is not confirmed, its message is the request, and it has been
answered only if it was submitted. -/
structure Explores (protocol : NativeProtocol Wire) (ledger : Ledger Wire)
    (operation : ApplicationOperation Wire) : Prop where
  unconfirmed : ledger.connection.sessionConfirmed = false
  request : ∃ encoded, protocol.encode buildSystemInfoRequest = .ok encoded ∧
    operation.encodedMessages = [encoded]
  unanswered : operation.everyMessageSubmitted = false → operation.responseReceived = false
  underway : operation.everyMessageSubmitted = true →
    Underway protocol ledger.connection (sinceSession ledger.history) operation.responseReceived

/-- A confirmed session was discovered, and a pending discovery belongs to the present session. -/
structure Explored (protocol : NativeProtocol Wire) (ledger : Ledger Wire) : Prop where
  confirmed : ledger.connection.sessionConfirmed = true →
    ∃ information, ledger.connection.sessionInfo = some information ∧
      Discovered protocol (sinceSession ledger.history) information
  pending : ∀ operation, ledger.connection.pendingOperation = some operation →
    operation.kind = .discovery → Explores protocol ledger operation

/-- A session is established while a submitted discovery is pending. -/
def Moment.interruptsDiscovery (moment : Moment Wire) : Bool :=
  match moment.interaction with
  | .event .sessionEstablished =>
    moment.before.pendingOperation.any fun operation ↦
      operation.kind == .discovery && operation.everyMessageSubmitted
  | _ => false

/-- A discovery is taken from one session into another, or answered before its request. -/
def Moment.confusesSessions (protocol : NativeProtocol Wire) (moment : Moment Wire) : Bool :=
  moment.interruptsDiscovery || moment.informs && moment.answersEarly protocol

namespace Explored

variable {before after : Ledger Wire}

/-- Moments that neither open a session nor submit anything, with the session as it was; a discovery
that is pending was so before. -/
theorem of_extends (hexplored : Explored protocol before) (notes : List (Moment Wire))
    (hhistory : after.history = notes ++ before.history)
    (hopens : ∀ moment ∈ notes, moment.opensSession = false)
    (hconfirmed : after.connection.sessionConfirmed = before.connection.sessionConfirmed)
    (hinformation : after.connection.sessionInfo = before.connection.sessionInfo)
    (hpending : ∀ operation, after.connection.pendingOperation = some operation →
      operation.kind = .discovery → before.connection.pendingOperation = some operation ∧
        after.connection.transportDeliveryPending = before.connection.transportDeliveryPending ∧
        ∀ moment ∈ notes, moment.accepted = none) :
    Explored protocol after where
  confirmed := by
    intro hsession
    rw [hconfirmed] at hsession
    obtain ⟨information, hstored, hdiscovered⟩ := hexplored.confirmed hsession
    refine ⟨information, hinformation.trans hstored, ?_⟩
    rw [hhistory, sinceSession_append hopens]
    exact hdiscovered.append notes
  pending := by
    intro operation hoperation hkind
    obtain ⟨hsame, hdelivery, haccepted⟩ := hpending operation hoperation hkind
    have hexplores := hexplored.pending operation hsame hkind
    refine ⟨hconfirmed.trans hexplores.unconfirmed, hexplores.request, hexplores.unanswered,
      fun hall ↦ ?_⟩
    obtain ⟨newer, request, older, hsplit, hrequest, hwaiting, hdelivered, hreceived⟩ :=
      hexplores.underway hall
    refine ⟨notes ++ newer, request, older, ?_, hrequest, ?_, ?_, ?_⟩
    · rw [hhistory, sinceSession_append hopens, hsplit, List.append_assoc]
    · intro hpendingDelivery moment hmoment
      rcases List.mem_append.1 hmoment with hnote | hmoment
      · exact haccepted moment hnote
      · exact hwaiting (hdelivery ▸ hpendingDelivery) moment hmoment
    · exact fun hnone ↦ (hdelivered (hdelivery ▸ hnone)).append notes
    · intro hresponse
      obtain ⟨information, hstored, response, hmem, hprovides⟩ := hreceived hresponse
      exact ⟨information, hinformation.trans hstored, response, List.mem_append_right _ hmem,
        hprovides⟩

/-- Nothing is recorded. -/
theorem of_same (hexplored : Explored protocol before) (hhistory : after.history = before.history)
    (hconfirmed : after.connection.sessionConfirmed = before.connection.sessionConfirmed)
    (hinformation : after.connection.sessionInfo = before.connection.sessionInfo)
    (hpending : ∀ operation, after.connection.pendingOperation = some operation →
      operation.kind = .discovery → before.connection.pendingOperation = some operation ∧
        after.connection.transportDeliveryPending = before.connection.transportDeliveryPending) :
    Explored protocol after := by
  refine hexplored.of_extends [] hhistory (fun moment hmoment ↦ by cases hmoment) hconfirmed
    hinformation fun operation hoperation hkind ↦ ?_
  obtain ⟨hsame, hdelivery⟩ := hpending operation hoperation hkind
  exact ⟨hsame, hdelivery, fun moment hmoment ↦ by cases hmoment⟩

/-- One moment is recorded, and the operations stay as they are. -/
theorem note (hexplored : Explored protocol before) (interaction : Interaction Wire)
    (hopens : (⟨before.connection, interaction⟩ : Moment Wire).opensSession = false)
    (haccepted : (⟨before.connection, interaction⟩ : Moment Wire).accepted = none) :
    Explored protocol (before.note interaction) := by
  refine hexplored.of_extends [⟨before.connection, interaction⟩] rfl (fun moment hmoment ↦ ?_) rfl
    rfl fun operation hoperation hkind ↦ ⟨hoperation, rfl, fun moment hmoment ↦ ?_⟩
  · rw [List.mem_singleton.1 hmoment]
    exact hopens
  · rw [List.mem_singleton.1 hmoment]
    exact haccepted

/-- An operation other than discovery becomes the pending one. -/
theorem activate (hexplored : Explored protocol before) {operation : ApplicationOperation Wire}
    (hkind : operation.kind ≠ .discovery) : Explored protocol (before.activate operation) := by
  refine hexplored.of_extends [⟨before.connection, .activated operation⟩] rfl
    (fun moment hmoment ↦ ?_) rfl rfl fun other hother hdiscovery ↦ ?_
  · rw [List.mem_singleton.1 hmoment]
    rfl
  · rw [← Option.some.inj hother] at hdiscovery
    exact absurd hdiscovery hkind

/-- The connection with nothing pending and the session as it was. -/
theorem of_idle (hexplored : Explored protocol before) (hhistory : after.history = before.history)
    (hconfirmed : after.connection.sessionConfirmed = before.connection.sessionConfirmed)
    (hinformation : after.connection.sessionInfo = before.connection.sessionInfo)
    (hpending : after.connection.pendingOperation = none) : Explored protocol after := by
  refine hexplored.of_same hhistory hconfirmed hinformation fun operation hoperation _ ↦ ?_
  rw [hpending] at hoperation
  cases hoperation

/-- No session is confirmed, and nothing is pending. -/
theorem of_disconnected (hconfirmed : after.connection.sessionConfirmed = false)
    (hpending : after.connection.pendingOperation = none) : Explored protocol after where
  confirmed := by
    intro hsession
    rw [hconfirmed] at hsession
    cases hsession
  pending := by
    intro operation hoperation
    rw [hpending] at hoperation
    cases hoperation

/-- A delivery is confirmed. -/
theorem confirm (hexplored : Explored protocol before) {operation : ApplicationOperation Wire}
    (deadline : ℕ) (hpending : before.connection.pendingOperation = some operation)
    (hdelivery : before.connection.transportDeliveryPending = true) :
    Explored protocol ((before.note (.event .deliveryConfirmed)).become
      (before.connection.confirmDelivery operation deadline)) where
  confirmed := by
    intro hsession
    obtain ⟨information, hstored, hdiscovered⟩ := hexplored.confirmed hsession
    refine ⟨information, hstored, ?_⟩
    rw [Ledger.become_history, Ledger.note_history, sinceSession_cons rfl]
    exact hdiscovered.append [_]
  pending := by
    intro other hother hkind
    have hsame : other.kind = operation.kind ∧ other.encodedMessages = operation.encodedMessages ∧
        other.everyMessageSubmitted = operation.everyMessageSubmitted ∧
        other.responseReceived = operation.responseReceived := by
      rw [← Option.some.inj hother]
      split <;> exact ⟨rfl, rfl, rfl, rfl⟩
    obtain ⟨hkinds, hmessages, hall, hreceived⟩ := hsame
    have hexplores := hexplored.pending operation hpending (hkinds ▸ hkind)
    refine ⟨hexplores.unconfirmed, hmessages ▸ hexplores.request, hall ▸ hreceived ▸
      hexplores.unanswered, fun hsubmitted ↦ ?_⟩
    obtain ⟨newer, request, older, hsplit, hrequest, hwaiting, -, hanswer⟩ :=
      hexplores.underway (hall ▸ hsubmitted)
    refine ⟨⟨before.connection, .event .deliveryConfirmed⟩ :: newer, request, older, ?_, hrequest,
      fun h ↦ (by cases h), fun _ ↦ ?_, fun hresponse ↦ ?_⟩
    · rw [Ledger.become_history, Ledger.note_history, sinceSession_cons rfl, hsplit,
        List.cons_append]
    · exact ⟨[], _, newer, rfl, rfl, hwaiting hdelivery⟩
    · obtain ⟨information, hstored, response, hmem, hprovides⟩ := hanswer (hreceived ▸ hresponse)
      exact ⟨information, hstored, response, List.mem_cons_of_mem _ hmem, hprovides⟩

/-- System information answers a submitted discovery. -/
theorem describe (hexplored : Explored protocol before) {operation : ApplicationOperation Wire}
    {message : SystemInfoResponse} (hpending : before.connection.pendingOperation = some operation)
    (hkind : operation.kind = .discovery)
    (hversion : protocol.checkProtocolVersion message.protocolVersion = .ok ())
    (hall : operation.everyMessageSubmitted = true) :
    Explored protocol ((before.note (.message (.systemInfoResponse message))).become
      { before.connection with
        sessionInfo := some (informationOf message)
        pendingOperation := some { operation with responseReceived := true } }) := by
  have hexplores := hexplored.pending operation hpending hkind
  constructor
  · intro hsession
    have hunconfirmed : before.connection.sessionConfirmed = true := hsession
    rw [hexplores.unconfirmed] at hunconfirmed
    cases hunconfirmed
  · intro other hother _
    rw [← Option.some.inj hother]
    refine ⟨hexplores.unconfirmed, hexplores.request, fun hnone ↦ ?_, fun _ ↦ ?_⟩
    · have hunsent : operation.everyMessageSubmitted = false := hnone
      rw [hall] at hunsent
      cases hunsent
    · obtain ⟨newer, request, older, hsplit, hrequest, hwaiting, hdelivered, -⟩ :=
        hexplores.underway hall
      refine ⟨⟨before.connection, .message (.systemInfoResponse message)⟩ :: newer, request, older,
        ?_, hrequest, fun hdelivery moment hmoment ↦ ?_, fun hdelivery ↦ ?_, fun _ ↦ ?_⟩
      · rw [Ledger.become_history, Ledger.note_history, sinceSession_cons rfl, hsplit,
          List.cons_append]
      · rcases List.mem_cons.1 hmoment with rfl | hmoment
        · rfl
        · exact hwaiting hdelivery moment hmoment
      · exact (hdelivered hdelivery).append [_]
      · exact ⟨_, rfl, _, List.mem_cons_self, message, rfl, hversion, rfl⟩

/-- A confirmation or a response keeps the invariant, unless it confuses sessions. -/
theorem handles (hexplored : Explored protocol before) (hhandles : Handles protocol before after)
    (hclear : ∀ moment ∈ after.history, moment.confusesSessions protocol = false) :
    Explored protocol after := by
  cases hhandles with
  | confirmed operation deadline hpending hdelivery =>
    exact hexplored.confirm deadline hpending hdelivery
  | described operation message information hpending hkind hversion hinformation =>
    have hearly := hclear ⟨before.connection, .message (.systemInfoResponse message)⟩
      List.mem_cons_self
    have hall : operation.everyMessageSubmitted = true := by
      simpa [Moment.confusesSessions, Moment.interruptsDiscovery, Moment.informs,
        Moment.answersEarly, hpending, hkind, hversion, Except.isOk, Except.toBool] using hearly
    rw [hinformation]
    exact hexplored.describe hpending hkind hversion hall
  | answered operation scope message hpending hscope hmatch =>
    refine (hexplored.note (.message (.applicationResponse message)) rfl rfl).of_same rfl rfl rfl
      fun other hother hkind ↦ ?_
    have hrequest := kind_of_request_eq (request_answeredBy operation message)
    rw [Option.some.inj hother, hkind] at hrequest
    rw [← hrequest] at hscope
    cases hscope

/-- A negative response leaves the session as it is. -/
theorem session_handleNegativeResponse (connection : Connection Wire)
    (operation : ApplicationOperation Wire) :
    (connection.handleNegativeResponse operation).sessionConfirmed = connection.sessionConfirmed ∧
      (connection.handleNegativeResponse operation).sessionInfo = connection.sessionInfo := by
  unfold Connection.handleNegativeResponse
  cases operation.kind with
  | start =>
    simp only
    split <;> exact ⟨rfl, rfl⟩
  | abort =>
    simp only
    split <;> exact ⟨rfl, rfl⟩
  | reset =>
    simp only
    split <;> exact ⟨rfl, rfl⟩
  | _ => exact ⟨rfl, rfl⟩

/-- A completion other than that of discovery leaves the session as it is. -/
theorem session_complete (connection : Connection Wire) {operation : ApplicationOperation Wire}
    (hkind : operation.kind ≠ .discovery) :
    (connection.complete operation).sessionConfirmed = connection.sessionConfirmed ∧
      (connection.complete operation).sessionInfo = connection.sessionInfo := by
  unfold Connection.complete
  cases hoperation : operation.kind with
  | discovery => exact absurd hoperation hkind
  | _ => exact ⟨rfl, rfl⟩

/-- The completion of a discovery confirms the session it was discovered in. -/
theorem completeDiscovery (hexplored : Explored protocol before)
    {operation : ApplicationOperation Wire}
    (hpending : before.connection.pendingOperation = some operation)
    (hkind : operation.kind = .discovery)
    (hready : before.connection.readyToFinish operation = true) :
    Explored protocol (before.become (before.connection.release.complete operation)) := by
  obtain ⟨hreceived, hdelivery, hall⟩ := delivered_of_readyToFinish hready
  obtain ⟨newer, request, older, hsplit, hrequest, -, hdelivered, hanswer⟩ :=
    (hexplored.pending operation hpending hkind).underway hall
  obtain ⟨information, hstored, hresponse⟩ := hanswer hreceived
  rw [Connection.complete, hkind]
  refine ⟨fun _ ↦ ⟨information, hstored, ?_⟩, fun other hother ↦ by cases hother⟩
  exact ⟨newer, request, older, hsplit, hrequest, hdelivered hdelivery, hresponse⟩

theorem finishes (hexplored : Explored protocol before) (hidentified : Identified protocol before)
    (hfinishes : Finishes protocol before after) : Explored protocol after := by
  have hreleased : Explored protocol (before.become before.connection.release) :=
    hexplored.of_idle rfl rfl rfl rfl
  cases hfinishes with
  | waiting hwaiting => exact hexplored
  | refused operation hpending hready herror =>
    have hsession := session_handleNegativeResponse before.connection.release operation
    exact hexplored.of_idle rfl hsession.1 hsession.2
      (handleNegativeResponse_idle before.connection.release operation rfl
        (delivered_of_readyToFinish hready).2.1).1
  | completed operation hpending hready herror hkind =>
    by_cases hdiscovery : operation.kind = .discovery
    · exact hexplored.completeDiscovery hpending hdiscovery hready
    · have hsession := session_complete before.connection.release hdiscovery
      exact hexplored.of_idle rfl hsession.1 hsession.2
        (complete_idle before.connection.release operation rfl
          (delivered_of_readyToFinish hready).2.1).1
  | continued operation next rest hpending hready herror hkind hqueue =>
    have hnext := (hidentified.queue next (by rw [hqueue]; exact List.mem_cons_self)).1
    have hrest : Explored protocol
        (before.become { before.connection.release with uploadOperations := rest }) :=
      hexplored.of_idle rfl rfl rfl rfl
    exact hrest.activate fun hdiscovery ↦ by rw [hdiscovery] at hnext; cases hnext
  | uploaded operation deadline hpending hready herror hkind hqueue =>
    exact hreleased.activate fun h ↦ by cases h
  | startsImmediately operation upload encoded hpending hready herror hkind hactive himmediate
      hencoded =>
    have hother : operation.kind ≠ .discovery := by
      rw [hkind]
      exact fun h ↦ by cases h
    have hsession := session_complete before.connection.release hother
    have hcompleted : Explored protocol
        (before.become (before.connection.release.complete operation)) :=
      hexplored.of_idle rfl hsession.1 hsession.2
        (complete_idle before.connection.release operation rfl
          (delivered_of_readyToFinish hready).2.1).1
    exact hcompleted.activate fun h ↦ by cases h

/-- The next message of the pending operation is submitted. -/
theorem submit (hexplored : Explored protocol before) {operation : ApplicationOperation Wire}
    {message : Wire} (hnext : before.connection.nextMessage = some (operation, message)) :
    Explored protocol ((before.note (.submitted message .ok)).become { before.connection with
      transportDeliveryPending := true
      pendingOperation := some
        { operation with nextMessageIndex := operation.nextMessageIndex + 1 } }) where
  confirmed := by
    intro hsession
    obtain ⟨information, hstored, hdiscovered⟩ := hexplored.confirmed hsession
    refine ⟨information, hstored, ?_⟩
    rw [Ledger.become_history, Ledger.note_history, sinceSession_cons rfl]
    exact hdiscovered.append [_]
  pending := by
    obtain ⟨hpending, hmessage⟩ := nextMessage_eq_some hnext
    intro other hother hkind
    rw [← Option.some.inj hother] at hkind ⊢
    have hexplores := hexplored.pending operation hpending hkind
    obtain ⟨encoded, hencoded, hmessages⟩ := hexplores.request
    -- the only message of a discovery is the first one, so it was unanswered
    have hindex := (List.getElem?_eq_some_iff.1 hmessage).1
    have hsame : message = encoded := by
      rw [hmessages, List.length_singleton] at hindex
      have hfirst : operation.nextMessageIndex = 0 := by omega
      rw [hmessages, hfirst] at hmessage
      exact (Option.some.inj hmessage).symm
    have hunanswered : operation.responseReceived = false := hexplores.unanswered (by
      rw [ApplicationOperation.everyMessageSubmitted, beq_eq_false_iff_ne]
      omega)
    refine ⟨hexplores.unconfirmed, hexplores.request, fun _ ↦ hunanswered, fun _ ↦ ?_⟩
    refine ⟨[], ⟨before.connection, .submitted message .ok⟩, sinceSession before.history, ?_,
      ⟨⟨operation, hpending, hkind⟩, encoded, hencoded, ?_⟩, fun _ moment hmoment ↦ ?_,
      fun h ↦ (by cases h), fun hreceived ↦ ?_⟩
    · rw [Ledger.become_history, Ledger.note_history, sinceSession_cons rfl, List.nil_append]
    · rw [← hsame]
      rfl
    · cases hmoment
    · have hanswered : operation.responseReceived = true := hreceived
      rw [hunanswered] at hanswered
      cases hanswered

/-- A session is established while no submitted discovery is pending. -/
theorem establish (hexplored : Explored protocol before)
    (hclear : (⟨before.connection, .event .sessionEstablished⟩ :
      Moment Wire).interruptsDiscovery = false) :
    Explored protocol ((before.note (.event .sessionEstablished)).become { before.connection with
      sessionConfirmed := false, sessionInfo := none, workflowState := .connecting }) where
  confirmed hsession := by cases hsession
  pending := by
    intro operation hoperation hkind
    have hpending : before.connection.pendingOperation = some operation := hoperation
    have hexplores := hexplored.pending operation hpending hkind
    have hunsent : operation.everyMessageSubmitted = false := by
      simpa [Moment.interruptsDiscovery, hpending, hkind] using hclear
    refine ⟨rfl, hexplores.request, hexplores.unanswered, fun hall ↦ ?_⟩
    rw [hunsent] at hall
    cases hall

/-- One move keeps the invariant, unless it confuses sessions. -/
theorem move (hexplored : Explored protocol before) (hidentified : Identified protocol before)
    (hmove : Move protocol before after)
    (hclear : ∀ moment ∈ after.history, moment.confusesSessions protocol = false) :
    Explored protocol after := by
  cases hmove with
  | serial incoming output offset =>
    exact hexplored.of_same rfl rfl rfl fun operation hoperation _ ↦ ⟨hoperation, rfl⟩
  | ignored interaction hignored =>
    refine hexplored.note interaction ?_ hignored.plain.accepted
    cases hignored <;> rfl
  | failed interaction hfails =>
    refine hexplored.of_extends [⟨before.connection, interaction⟩] rfl (fun moment hmoment ↦ ?_)
      rfl rfl fun operation hoperation _ ↦ by cases hoperation
    rw [List.mem_singleton.1 hmoment]
    cases hfails <;> rfl
  | timedOut operation deadline hpending hresponse hdeadline =>
    exact hexplored.of_idle rfl rfl rfl rfl
  | bound builder hfree hid =>
    exact hexplored.of_same rfl rfl rfl fun operation hoperation _ ↦ ⟨hoperation, rfl⟩
  | queued compiledTest attempt draws upload encoded hactive hqueue hpending hupload hfresh
      hbuilder hencoded =>
    exact (hexplored.note (.uploadQueued compiledTest upload encoded) rfl rfl).of_same rfl rfl rfl
      fun operation hoperation _ ↦ ⟨hoperation, rfl⟩
  | starting upload encoded hactive haccepted hstate hpending hdelivery hencoded htrigger =>
    exact (hexplored.note .startRequested rfl rfl).activate fun h ↦ by cases h
  | aborting upload encoded hactive hpending hdelivery hencoded =>
    exact (hexplored.note .abortRequested rfl rfl).activate fun h ↦ by cases h
  | resetting encoded hconfirmed hpending hdelivery hencoded =>
    exact (hexplored.note .resetRequested rfl rfl).activate fun h ↦ by cases h
  | discovering encoded hpending hconfirmed hencoded =>
    refine ⟨fun hsession ↦ ?_, fun operation hoperation _ ↦ ?_⟩
    · have hunconfirmed : before.connection.sessionConfirmed = true := hsession
      rw [hconfirmed] at hunconfirmed
      cases hunconfirmed
    · rw [← Option.some.inj hoperation]
      exact ⟨hconfirmed, ⟨encoded, hencoded, rfl⟩, fun _ ↦ rfl, fun hall ↦ by cases hall⟩
  | advancing next rest hpending hconfirmed hqueue =>
    have hnext := (hidentified.queue next (by rw [hqueue]; exact List.mem_cons_self)).1
    have hrest : Explored protocol
        (before.become { before.connection with uploadOperations := rest }) :=
      hexplored.of_idle rfl rfl rfl hpending
    exact hrest.activate fun hdiscovery ↦ by rw [hdiscovery] at hnext; cases hnext
  | submitted operation message hnext hmay => exact hexplored.submit hnext
  | handled middle after hhandles hfinishes =>
    have hmiddle : Explored protocol middle := hexplored.handles hhandles fun moment hmoment ↦
      hclear moment ((suffix_of_finishes hfinishes).mem hmoment)
    exact hmiddle.finishes (hidentified.handles hhandles) hfinishes
  | counted message hexpected hid hunbound =>
    have hnoted := (hexplored.note (.message (.testResult message)) rfl rfl).note
      (.resultCounted message) rfl rfl
    exact hnoted.of_same rfl rfl rfl fun operation hoperation _ ↦ ⟨hoperation, rfl⟩
  | stored message builder submission result hexpected hid hbound hingested =>
    have hnoted := ((hexplored.note (.message (.testResult message)) rfl rfl).note
      (.tickStored builder result) rfl rfl).note (.resultCounted message) rfl rfl
    exact hnoted.of_same rfl rfl rfl fun operation hoperation _ ↦ ⟨hoperation, rfl⟩
  | invalidated => exact .of_disconnected rfl rfl
  | established =>
    have hestablished := hclear _ List.mem_cons_self
    rw [Moment.confusesSessions, Bool.or_eq_false_iff] at hestablished
    exact hexplored.establish hestablished.1

theorem step (hexplored : Explored protocol before) (hidentified : Identified protocol before)
    (hstep : Step protocol before after)
    (hclear : ∀ moment ∈ after.history, moment.confusesSessions protocol = false) :
    Explored protocol after := by
  cases hstep with
  | moved after hopen hmove => exact hexplored.move hidentified hmove hclear
  | closing answer hopen =>
    exact (hexplored.note (.closing answer) rfl rfl).of_idle rfl rfl rfl rfl

/-- The invariant holds along every path that confuses no sessions. -/
theorem of_path {timeout : ℕ} {clock : ℕ → ℕ} {builder : Option BuilderHandle}
    {ledger : Ledger Wire}
    (hpath : ReflTransGen (Step protocol)
      (Host.create timeout clock builder : Host Wire).toLedger ledger)
    (hclear : ∀ moment ∈ ledger.history, moment.confusesSessions protocol = false) :
    Explored protocol ledger := by
  induction hpath with
  | refl => exact .of_disconnected rfl rfl
  | tail hpath hstep ih =>
    have hexplored := ih fun moment hmoment ↦ hclear moment (hstep.suffix.mem hmoment)
    exact hexplored.step (Supervised.of_path hpath).identified hstep hclear

end Explored

/-! ### Runs -/

/-- A submission is of a System Information request, or the session it is made in was discovered
before. -/
def SubmitsDiscovered (protocol : NativeProtocol Wire) (moment : Moment Wire)
    (older : List (Moment Wire)) : Prop :=
  ∀ message status, moment.interaction = .submitted message status →
    protocol.encode buildSystemInfoRequest = .ok message ∨
      ∃ information, Discovered protocol (sinceSession older) information

/-- In every run that confuses no sessions, nothing but System Information requests is submitted in
a session before its discovery, and a confirmed session has the information of its own discovery. -/
theorem sessionsConfirmed_run (timeout : ℕ) (clock : ℕ → ℕ) (builder : Option BuilderHandle)
    (calls : List (Call Wire))
    (hclear : ∀ moment ∈ (run protocol (Host.create timeout clock builder) calls).history,
      moment.confusesSessions protocol = false) :
    (∀ newer moment older,
      (run protocol (Host.create timeout clock builder) calls).history =
        newer ++ moment :: older → SubmitsDiscovered protocol moment older) ∧
    ((run protocol (Host.create timeout clock builder) calls).connection.sessionConfirmed = true →
      ∃ information,
        (run protocol (Host.create timeout clock builder) calls).connection.sessionInfo =
          some information ∧
        Discovered protocol
          (sinceSession (run protocol (Host.create timeout clock builder) calls).history)
          information) := by
  constructor
  · intro newer moment older hsplit message status hsubmitted
    obtain ⟨next, followers, hpath, hstep, hrecords, -⟩ :=
      step_of_split (run_path _ calls) rfl hsplit (by rw [hsubmitted]; rfl)
    have hexplored : Explored protocol ⟨moment.before, older⟩ := .of_path hpath fun other hother ↦
      hclear other (by
        rw [hsplit]
        exact List.mem_append_right _ (List.mem_cons_of_mem _ hother))
    obtain ⟨interaction, hfirst, hbegins⟩ := hrecords.first_eq.resolve_left (List.cons_ne_nil _ _)
    have hsame : moment.interaction = interaction := by
      rw [List.singleton_inj] at hfirst
      rw [hfirst]
    rw [← hsame, hsubmitted] at hbegins
    obtain ⟨operation, hnext, hmay⟩ := hbegins
    obtain ⟨hpending, hmessage⟩ := nextMessage_eq_some hnext
    by_cases hkind : operation.kind = .discovery
    · left
      obtain ⟨encoded, hencoded, hmessages⟩ :=
        (hexplored.pending operation hpending hkind).request
      rw [hmessages] at hmessage
      rw [List.mem_singleton.1 (List.mem_of_getElem? hmessage)]
      exact hencoded
    · right
      obtain ⟨information, -, hdiscovered⟩ := hexplored.confirmed (hmay.2.resolve_left hkind)
      exact ⟨information, hdiscovered⟩
  · exact (Explored.of_path (run_path _ calls) hclear).confirmed

/-- A session is confirmed and an upload configured. -/
theorem sessionsConfirmed_run_connectedCalls : ∃ information,
    (run directCodec (Host.create 5 id none)
      (connectedCalls .hostCommand)).connection.sessionInfo = some information ∧
    Discovered directCodec
      (sinceSession (run directCodec (Host.create 5 id none)
        (connectedCalls .hostCommand)).history) information :=
  (sessionsConfirmed_run 5 id none (connectedCalls .hostCommand) (by decide)).2 (by decide)

/-- Discovery is submitted and answered in one session, and its delivery is confirmed after the next
one was established. -/
def reestablishedCalls : List (Call (OutboundMessage ⊕ InboundMessage)) :=
  [.service { submitStatus := .ok .ok },
    .service { firstDrain := ⟨[], [⟨.inr (.systemInfoResponse rigInformation), .ok ()⟩]⟩ },
    .service { firstDrain := ⟨[.sessionEstablished, .deliveryConfirmed], []⟩ }]

/-- The new session is confirmed without information, and nothing was submitted in it. -/
theorem not_sessionsConfirmed_reestablishedCalls :
    (run directCodec (Host.create 5 id none) reestablishedCalls).connection.sessionConfirmed =
        true ∧
      (run directCodec (Host.create 5 id none) reestablishedCalls).connection.sessionInfo = none ∧
      (sinceSession (run directCodec (Host.create 5 id none)
        reestablishedCalls).history).filterMap Moment.accepted = [] := by
  decide

end HilRig.Protocol
