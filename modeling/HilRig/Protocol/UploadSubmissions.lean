import HilRig.Protocol.UploadOrder

/-!
# The messages of an upload as the Transport sees them

`Recorded` says of every chapter that what the Transport was offered in it are the messages of the
chapter's own operation, accepted in order and each at most once, and that the submissions of an
upload are those of its chapters. `Counted` ties the count of delivered upload messages to the
performed operations. Together with the plan they give the order of an upload's messages on the
wire.
-/

set_option autoImplicit false
set_option relaxedAutoImplicit false

namespace HilRig.Protocol

open HilRig.Models HilRig.Results HilRig.Foundations

variable {Wire : Type} {protocol : NativeProtocol Wire}

/-! ### Submissions -/

/-- The accepted message of a submission that served an upload, ABORT aside. -/
def Moment.submittedFor (id : ℕ) (moment : Moment Wire) : Option Wire :=
  if moment.before.pendingOperation.any (ApplicationOperation.serves id) then moment.accepted
  else none

/-- The messages of an upload the Transport accepted, oldest first, ABORT aside. -/
def submissions (id : ℕ) (history : List (Moment Wire)) : List Wire :=
  (history.filterMap (Moment.submittedFor id)).reverse

/-- Everything offered to the Transport in a chapter is a message of the chapter's operation. -/
structure Chapter.Sound (chapter : Chapter Wire) : Prop where
  sent : ∀ operation, chapter.operation = some operation →
    chapter.sent <+: operation.encodedMessages
  offered : ∀ moment ∈ chapter.moments, ∀ encoded status,
    moment.interaction = .submitted encoded status →
      ∃ pending operation, moment.before.pendingOperation = some pending ∧
        chapter.operation = some operation ∧ operation.request = pending.request ∧
        encoded ∈ operation.encodedMessages

def Recorded (history : List (Moment Wire)) : Prop :=
  ∀ chapter ∈ present history :: past history, chapter.Sound

/-- A submission takes the next message of the pending operation. -/
def Ledger.Offers (ledger : Ledger Wire) (interaction : Interaction Wire) : Prop :=
  ∀ encoded status, interaction = .submitted encoded status →
    ∃ operation, ledger.connection.nextMessage = some (operation, encoded)

namespace Recorded

variable {ledger : Ledger Wire}

/-- A new chapter has offered nothing. -/
theorem activate (hrecorded : Recorded ledger.history)
    (operation : ApplicationOperation Wire) :
    Recorded (ledger.activate operation).history := by
  intro chapter hchapter
  rw [Ledger.activate_history, present_activated, past_activated] at hchapter
  rcases List.mem_cons.1 hchapter with rfl | hchapter
  · refine ⟨fun other _ ↦ List.nil_prefix, fun moment hmoment ↦ ?_⟩
    cases hmoment
  · exact hrecorded chapter hchapter

/-- The chapter in progress stays sound when one more moment is recorded in it. -/
theorem sound_push (hattended : Attended ledger) (hsound : (present ledger.history).Sound)
    {interaction : Interaction Wire} (hoffers : ledger.Offers interaction) :
    ((present ledger.history).push ⟨ledger.connection, interaction⟩).Sound := by
  constructor
  · intro operation hoperation
    cases haccepted : (⟨ledger.connection, interaction⟩ : Moment Wire).accepted with
    | none =>
      rw [Chapter.sent_push_of_not_accepted _ haccepted]
      exact hsound.sent operation hoperation
    | some encoded =>
      rw [Chapter.sent_push_of_accepted _ haccepted]
      have hsubmitted : interaction = .submitted encoded .ok := by
        cases interaction with
        | submitted message status =>
          cases status with
          | ok =>
            cases haccepted
            rfl
          | _ => cases haccepted
        | _ => cases haccepted
      obtain ⟨pending, hnext⟩ := hoffers encoded .ok hsubmitted
      obtain ⟨hpending, hmessage⟩ := nextMessage_eq_some hnext
      have hdescribes := hattended.pending pending hpending
      obtain ⟨start, hstart, hrequest⟩ := hdescribes.origin
      have hsame : operation = start := Option.some.inj (hoperation.symm.trans hstart)
      rw [hdescribes.sent, hsame, encodedMessages_of_request_eq hrequest]
      have htake : pending.encodedMessages.take (pending.nextMessageIndex + 1) =
          pending.encodedMessages.take pending.nextMessageIndex ++ [encoded] := by
        rw [List.take_add_one, hmessage]
        rfl
      rw [← htake]
      exact List.take_prefix _ _
  · intro moment hmoment encoded status hsubmitted
    rcases List.mem_cons.1 hmoment with rfl | hmoment
    · obtain ⟨pending, hnext⟩ := hoffers encoded status hsubmitted
      obtain ⟨hpending, hmessage⟩ := nextMessage_eq_some hnext
      obtain ⟨start, hstart, hrequest⟩ := (hattended.pending pending hpending).origin
      refine ⟨pending, start, hpending, hstart, hrequest, ?_⟩
      rw [encodedMessages_of_request_eq hrequest]
      exact List.mem_of_getElem? hmessage
    · exact hsound.offered moment hmoment encoded status hsubmitted

/-- Recording a moment of the chapter in progress. -/
theorem note (hrecorded : Recorded ledger.history) (hattended : Attended ledger)
    {interaction : Interaction Wire} (hstays : interaction.staysInChapter = true)
    (hoffers : ledger.Offers interaction) : Recorded (ledger.note interaction).history := by
  have hcons : present (ledger.note interaction).history =
      (present ledger.history).push ⟨ledger.connection, interaction⟩ := by
    rw [Ledger.note_history, present_cons hstays]
    rfl
  intro chapter hchapter
  rw [hcons, Ledger.note_history, past_cons hstays] at hchapter
  rcases List.mem_cons.1 hchapter with rfl | hchapter
  · exact sound_push hattended (hrecorded _ List.mem_cons_self) hoffers
  · exact hrecorded chapter (List.mem_cons_of_mem _ hchapter)

/-- Finishing the pending operation records at most an activation. -/
theorem finishes {before after : Ledger Wire} (hrecorded : Recorded before.history)
    (hfinishes : Finishes protocol before after) : Recorded after.history := by
  cases hfinishes with
  | waiting hwaiting => exact hrecorded
  | refused operation hpending hready herror => exact hrecorded
  | completed operation hpending hready herror hkind => exact hrecorded
  | continued operation next rest hpending hready herror hkind hqueue =>
    exact Recorded.activate hrecorded next
  | uploaded operation deadline hpending hready herror hkind hqueue =>
    exact Recorded.activate hrecorded _
  | startsImmediately operation upload encoded hpending hready herror hkind hactive himmediate
      hencoded => exact Recorded.activate hrecorded _

/-- One move keeps the invariant. -/
theorem move {before after : Ledger Wire} (hrecorded : Recorded before.history)
    (hattended : Attended before) (hmove : Move protocol before after) :
    Recorded after.history := by
  cases hmove with
  | serial incoming output offset => exact hrecorded
  | ignored interaction hignored =>
    refine hrecorded.note hattended (Identified.stays_of_ignores hignored).stays ?_
    rintro encoded status rfl
    cases hignored with
    | submission operation message status hnext hmay hretry => exact ⟨operation, hnext⟩
  | failed interaction hfails =>
    refine hrecorded.note hattended (Identified.stays_of_fails hfails).stays ?_
    rintro encoded status rfl
    cases hfails with
    | submission operation message status hnext hmay hok hretry => exact ⟨operation, hnext⟩
  | timedOut operation deadline hpending hresponse hdeadline => exact hrecorded
  | bound builder hfree hid => exact hrecorded
  | queued compiledTest attempt draws upload encoded hactive hqueue hpending hupload hfresh
      hbuilder hencoded => exact hrecorded.note hattended rfl fun _ _ h ↦ by cases h
  | starting upload encoded hactive haccepted hstate hpending hdelivery hencoded htrigger =>
    exact Recorded.activate (hrecorded.note hattended rfl fun _ _ h ↦ by cases h) _
  | aborting upload encoded hactive hpending hdelivery hencoded =>
    exact Recorded.activate (hrecorded.note hattended rfl fun _ _ h ↦ by cases h) _
  | resetting encoded hconfirmed hpending hdelivery hencoded =>
    exact Recorded.activate (hrecorded.note hattended rfl fun _ _ h ↦ by cases h) _
  | discovering encoded hpending hconfirmed hencoded => exact Recorded.activate hrecorded _
  | advancing next rest hpending hconfirmed hqueue => exact Recorded.activate hrecorded next
  | submitted operation message hnext hmay =>
    refine hrecorded.note hattended rfl ?_
    rintro encoded status ⟨rfl, rfl⟩
    exact ⟨operation, hnext⟩
  | handled middle after hhandles hfinishes =>
    refine Recorded.finishes ?_ hfinishes
    cases hhandles <;> exact hrecorded.note hattended rfl fun _ _ h ↦ by cases h
  | counted message hexpected hid hunbound =>
    have hnoted := hattended.note (.message (.testResult message))
      ⟨rfl, rfl, fun h ↦ by cases h⟩
    exact (hrecorded.note hattended rfl fun _ _ h ↦ by cases h).note hnoted rfl
      fun _ _ h ↦ by cases h
  | stored message builder submission result hexpected hid hbound hingested =>
    have hnoted := hattended.note (.message (.testResult message))
      ⟨rfl, rfl, fun h ↦ by cases h⟩
    have hstored := hnoted.note (.tickStored builder result) ⟨rfl, rfl, fun h ↦ by cases h⟩
    exact ((hrecorded.note hattended rfl fun _ _ h ↦ by cases h).note hnoted rfl
      fun _ _ h ↦ by cases h).note hstored rfl fun _ _ h ↦ by cases h
  | invalidated => exact hrecorded.note hattended rfl fun _ _ h ↦ by cases h
  | established => exact hrecorded.note hattended rfl fun _ _ h ↦ by cases h

/-- One step keeps the invariant. -/
theorem step {before after : Ledger Wire} (hrecorded : Recorded before.history)
    (hattended : Attended before) (hstep : Step protocol before after) :
    Recorded after.history := by
  cases hstep with
  | moved after hopen hmove => exact hrecorded.move hattended hmove
  | closing answer hopen => exact hrecorded.note hattended rfl fun _ _ h ↦ by cases h

end Recorded

/-- Every accepted submission took a message of the operation its chapter was opened for. -/
def Attributed (history : List (Moment Wire)) : Prop :=
  ∀ chapter ∈ present history :: past history, ∀ moment ∈ chapter.moments, ∀ encoded,
    moment.accepted = some encoded →
      ∃ pending operation, moment.before.pendingOperation = some pending ∧
        chapter.operation = some operation ∧ operation.request = pending.request

theorem Recorded.attributed {history : List (Moment Wire)} (hrecorded : Recorded history) :
    Attributed history := by
  intro chapter hchapter moment hmoment encoded haccepted
  have hsubmitted : ∃ status, moment.interaction = .submitted encoded status := by
    cases moment with
    | mk before interaction =>
      cases interaction with
      | submitted message status =>
        cases status with
        | ok =>
          cases haccepted
          exact ⟨_, rfl⟩
        | _ => cases haccepted
      | _ => cases haccepted
  obtain ⟨status, hsubmitted⟩ := hsubmitted
  obtain ⟨pending, operation, hpending, hoperation, hrequest, -⟩ :=
    (hrecorded chapter hchapter).offered moment hmoment encoded status hsubmitted
  exact ⟨pending, operation, hpending, hoperation, hrequest⟩

/-- Attribution of a longer history attributes the shorter one. -/
theorem Attributed.tail {moment : Moment Wire} {older : List (Moment Wire)}
    (hattributed : Attributed (moment :: older)) : Attributed older := by
  by_cases hwithin : moment.Within
  · intro chapter hchapter other hother encoded haccepted
    rcases List.mem_cons.1 hchapter with rfl | hchapter
    · refine hattributed (present (moment :: older)) List.mem_cons_self other ?_ encoded
        haccepted |>.imp fun pending h ↦ h.imp fun operation h ↦ ⟨h.1, ?_, h.2.2⟩
      · rw [present_cons hwithin]
        exact List.mem_cons_of_mem _ hother
      · rw [← h.2.1, present_cons hwithin]
    · refine hattributed chapter (List.mem_cons_of_mem _ ?_) other hother encoded haccepted
      rw [past_cons hwithin]
      exact hchapter
  · cases moment with
    | mk before interaction =>
      cases interaction with
      | activated operation =>
        intro chapter hchapter
        exact hattributed chapter (List.mem_cons_of_mem _ hchapter)
      | _ => exact absurd rfl hwithin

/-- The submissions of an upload are what its chapters sent, in order. -/
theorem submissions_eq_flatten (id : ℕ) (history : List (Moment Wire))
    (hattributed : Attributed history) :
    submissions id history = ((uploadChapters id history).reverse.map Chapter.sent).flatten := by
  induction history with
  | nil => rfl
  | cons moment older ih =>
    have holder := ih hattributed.tail
    by_cases hwithin : moment.Within
    · have hextends : Extends Moment.Within older (moment :: older) := .cons hwithin (.refl _)
      have hpresent : present (moment :: older) = (present older).push moment :=
        present_cons hwithin older
      rw [uploadChapters_extends id (.refl older)] at holder
      rw [uploadChapters_extends id hextends, hpresent]
      cases haccepted : moment.accepted with
      | none =>
        have hskip : Moment.submittedFor id moment = none := by
          rw [Moment.submittedFor, haccepted]
          split <;> rfl
        rw [submissions, List.filterMap_cons_none hskip, ← submissions, holder]
        split
        · rw [List.reverse_cons, List.reverse_cons, List.map_append, List.map_append,
            List.map_singleton, List.map_singleton, Chapter.sent_push_of_not_accepted _ haccepted]
        · rfl
      | some encoded =>
        obtain ⟨pending, operation, hpending, hoperation, hrequest⟩ :=
          hattributed _ List.mem_cons_self moment
            (by rw [hpresent]; exact List.mem_cons_self) encoded haccepted
        rw [hpresent, Chapter.push_operation] at hoperation
        have hserves : moment.before.pendingOperation.any (ApplicationOperation.serves id) =
            (present older).serves id := by
          rw [hpending, Chapter.serves, hoperation, Option.any_some, Option.any_some,
            serves_of_request_eq id hrequest]
        by_cases hserved : (present older).serves id = true
        · have htaken : Moment.submittedFor id moment = some encoded := by
            rw [Moment.submittedFor, hserves, if_pos hserved, haccepted]
          rw [if_pos hserved] at holder
          rw [if_pos hserved, submissions, List.filterMap_cons_some htaken, List.reverse_cons,
            ← submissions, holder, List.reverse_cons, List.reverse_cons, List.map_append,
            List.map_append, List.map_singleton, List.map_singleton,
            Chapter.sent_push_of_accepted _ haccepted, List.flatten_append, List.flatten_append,
            List.flatten_singleton, List.flatten_singleton, List.append_assoc]
        · have hskip : Moment.submittedFor id moment = none := by
            rw [Moment.submittedFor, hserves, if_neg hserved]
          rw [if_neg hserved] at holder
          rw [if_neg hserved, submissions, List.filterMap_cons_none hskip, ← submissions, holder]
    · cases moment with
      | mk before interaction =>
        cases interaction with
        | activated operation =>
          have hskip : Moment.submittedFor id ⟨before, .activated operation⟩ = none := by
            rw [Moment.submittedFor]
            split <;> rfl
          rw [submissions, List.filterMap_cons_none hskip, ← submissions, holder,
            uploadChapters_activated]
          split
          · rw [List.reverse_cons, List.map_append, List.flatten_append]
            exact (List.append_nil _).symm
          · rfl
        | _ => exact absurd rfl hwithin

/-! ### The order on the wire -/

/-- A passed chapter sent all messages of its operation. -/
theorem sent_of_passed {chapter : Chapter Wire} {operation : ApplicationOperation Wire}
    (hoperation : chapter.operation = some operation) (hpassed : chapter.Passed) :
    chapter.sent = operation.request.encodedMessages := by
  obtain ⟨other, hconcluded⟩ := hpassed
  have hsame : operation = other :=
    Option.some.inj (hoperation.symm.trans hconcluded.operation_eq)
  rw [hconcluded.sent, ← hsame]
  rfl

/-- What the chapters sent begins what their operations submit. -/
theorem flatten_sent_begins {chapters : List (Chapter Wire)}
    (hsound : ∀ chapter ∈ chapters, chapter.Sound)
    (hserved : ∀ chapter ∈ chapters, chapter.operation.isSome)
    (hpassed : ∀ chapter ∈ chapters.dropLast, chapter.Passed) :
    (chapters.map Chapter.sent).flatten <+:
      ((chapters.filterMap Chapter.request).map
        ApplicationOperation.encodedMessages).flatten := by
  induction chapters with
  | nil => exact List.prefix_rfl
  | cons chapter rest ih =>
    obtain ⟨operation, hoperation⟩ := Option.isSome_iff_exists.1 (hserved _ List.mem_cons_self)
    have hrequest : chapter.request = some operation.request := by
      rw [Chapter.request, hoperation, Option.map_some]
    rw [List.map_cons, List.flatten_cons, List.filterMap_cons_some hrequest, List.map_cons,
      List.flatten_cons]
    cases rest with
    | nil =>
      have hsent : chapter.sent <+: operation.request.encodedMessages :=
        (hsound _ List.mem_cons_self).sent operation hoperation
      simpa using hsent
    | cons second rest =>
      rw [List.dropLast_cons_cons] at hpassed
      rw [sent_of_passed hoperation (hpassed _ List.mem_cons_self)]
      refine (List.prefix_append_right_inj _).2 (ih ?_ ?_ ?_)
      · exact fun other hother ↦ hsound other (List.mem_cons_of_mem _ hother)
      · exact fun other hother ↦ hserved other (List.mem_cons_of_mem _ hother)
      · exact fun other hother ↦ hpassed other (List.mem_cons_of_mem _ hother)

/-- What the chapters sent begins with what their operations but the last submit. -/
theorem flatten_dropLast_begins {chapters : List (Chapter Wire)}
    (hserved : ∀ chapter ∈ chapters, chapter.operation.isSome)
    (hpassed : ∀ chapter ∈ chapters.dropLast, chapter.Passed) :
    ((chapters.filterMap Chapter.request).dropLast.map
        ApplicationOperation.encodedMessages).flatten <+:
      (chapters.map Chapter.sent).flatten := by
  induction chapters with
  | nil => exact List.prefix_rfl
  | cons chapter rest ih =>
    obtain ⟨operation, hoperation⟩ := Option.isSome_iff_exists.1 (hserved _ List.mem_cons_self)
    have hrequest : chapter.request = some operation.request := by
      rw [Chapter.request, hoperation, Option.map_some]
    rw [List.map_cons, List.flatten_cons, List.filterMap_cons_some hrequest]
    cases rest with
    | nil => exact List.nil_prefix
    | cons second rest =>
      obtain ⟨next, hnext⟩ := Option.isSome_iff_exists.1
        (hserved second (List.mem_cons_of_mem _ List.mem_cons_self))
      have hne : (second :: rest).filterMap Chapter.request ≠ [] := by
        rw [List.filterMap_cons_some (by rw [Chapter.request, hnext, Option.map_some])]
        exact List.cons_ne_nil _ _
      rw [List.dropLast_cons_of_ne_nil hne, List.map_cons, List.flatten_cons]
      rw [List.dropLast_cons_cons] at hpassed
      rw [sent_of_passed hoperation (hpassed _ List.mem_cons_self)]
      refine (List.prefix_append_right_inj _).2 (ih ?_ ?_)
      · exact fun other hother ↦ hserved other (List.mem_cons_of_mem _ hother)
      · exact fun other hother ↦ hpassed other (List.mem_cons_of_mem _ hother)

/-- The tick operations submit one message each, in order. -/
theorem flatten_tickOperations (id : ℕ) (instructions : List TestInstruction)
    (encoded : List Wire) (hlength : encoded.length = instructions.length) :
    ((List.zipWith (fun message wire ↦ tickOperation id message.tickNumber wire)
      instructions encoded).map ApplicationOperation.encodedMessages).flatten = encoded := by
  induction instructions generalizing encoded with
  | nil =>
    rw [List.length_nil, List.length_eq_zero_iff] at hlength
    rw [hlength]
    rfl
  | cons instruction instructions ih =>
    cases encoded with
    | nil => cases hlength
    | cons wire encoded =>
      rw [List.length_cons, List.length_cons, Nat.add_right_cancel_iff] at hlength
      rw [List.zipWith_cons_cons, List.map_cons, List.flatten_cons, ih encoded hlength]
      rfl

/-- The operations of an upload submit its encoded messages. -/
theorem flatten_uploadOperationsOf {upload : FixedIOUploadMessages} {encoded : List Wire}
    (hencoded : encodeUpload protocol upload = .ok encoded) :
    ((uploadOperationsOf upload encoded).map ApplicationOperation.encodedMessages).flatten =
      encoded := by
  have hlength := length_of_encodeUpload hencoded
  cases encoded with
  | nil => cases hlength
  | cons first rest =>
    rw [List.length_cons, Nat.add_right_cancel_iff] at hlength
    rw [uploadOperationsOf, List.take_succ_cons, List.take_zero, List.drop_succ_cons,
      List.drop_zero, List.map_append, List.flatten_append, flatten_tickOperations _ _ _ hlength]
    rfl

/-- An upload has one operation for each encoded message. -/
theorem length_uploadOperationsOf {upload : FixedIOUploadMessages} {encoded : List Wire}
    (hencoded : encodeUpload protocol upload = .ok encoded) :
    (uploadOperationsOf upload encoded).length = encoded.length := by
  have hlength := length_of_encodeUpload hencoded
  rw [uploadOperationsOf, List.length_append, List.length_map, List.length_zipWith,
    List.length_take, List.length_drop]
  omega

/-- Each queued operation submits one message. -/
theorem length_encodedMessages_of_mem {upload : FixedIOUploadMessages} {encoded : List Wire}
    {operation : ApplicationOperation Wire}
    (hoperation : operation ∈ uploadOperationsOf upload encoded) :
    operation.encodedMessages.length = 1 := by
  obtain ⟨wire, rfl | ⟨tick, rfl⟩⟩ := operation_of_mem_uploadOperationsOf hoperation
  · rfl
  · rfl

/-! ### Delivered messages -/

theorem ne_of_isUpload {kind : OperationKind} (hkind : kind.isUpload = true) :
    kind ≠ .discovery ∧ kind ≠ .reset ∧ kind ≠ .abort := by
  refine ⟨?_, ?_, ?_⟩ <;> rintro rfl <;> cases hkind

/-- The upload messages of the pending operation that are still to be delivered: one, until its
message was submitted and confirmed. -/
def Connection.awaited (connection : Connection Wire) : ℕ :=
  if connection.pendingOperation.any fun operation ↦ operation.everyMessageSubmitted &&
    !connection.transportDeliveryPending then 0 else 1

/-- How the count of delivered upload messages relates to the plan of the active upload. -/
structure Tally (upload : FixedIOUploadMessages) (encoded : List Wire) (ledger : Ledger Wire) :
    Prop where
  count : ledger.connection.uploadMessageCount = encoded.length
  uploading : ∀ operation, ledger.connection.pendingOperation = some operation →
    operation.kind.isUpload = true →
      ledger.connection.uploadMessagesDelivered + ledger.connection.awaited =
        (performed upload.id ledger.history).length
  validating : ∀ operation, ledger.connection.pendingOperation = some operation →
    operation.kind = .completeTest →
      ledger.connection.uploadMessagesDelivered = encoded.length
  accepted : ledger.connection.uploadAccepted = true →
    ledger.connection.uploadMessagesDelivered = encoded.length
  waiting : ledger.connection.uploadOperations ≠ [] →
    (∃ operation, ledger.connection.pendingOperation = some operation ∧
      operation.kind.isUpload = true) ∨ ledger.connection.uploadMessagesDelivered = 0

def Counted (ledger : Ledger Wire) : Prop :=
  ∀ compiledTest upload encoded, Queued ledger.history compiledTest upload encoded →
    ledger.connection.activeUpload = some upload → Tally upload encoded ledger

/-- A response changes nothing about what was submitted. -/
theorem everyMessageSubmitted_answeredBy (operation : ApplicationOperation Wire)
    (message : ApplicationResponse) :
    (operation.answeredBy message).everyMessageSubmitted = operation.everyMessageSubmitted := by
  unfold ApplicationOperation.answeredBy
  split <;> rfl

namespace Counted

variable {before after : Ledger Wire}

/-- Nothing stays pending or queued. -/
theorem of_dropped (hcounted : Counted before) (hgrows : Grows before.history after.history)
    (hactive : after.connection.activeUpload = none ∨
      after.connection.activeUpload = before.connection.activeUpload)
    (hcount : after.connection.activeUpload = none ∨
      after.connection.uploadMessageCount = before.connection.uploadMessageCount ∧
      after.connection.uploadMessagesDelivered = before.connection.uploadMessagesDelivered)
    (hpending : after.connection.pendingOperation = none)
    (haccepted : after.connection.uploadAccepted = true →
      before.connection.uploadAccepted = true)
    (hqueue : after.connection.uploadOperations = []) : Counted after := by
  intro compiledTest upload encoded hqueued hupload
  rcases hactive with hnone | hactive
  · rw [hnone] at hupload
    cases hupload
  rcases hcount with hnone | ⟨hcount, hdelivered⟩
  · rw [hnone] at hupload
    cases hupload
  have htally := hcounted _ _ _ (hgrows.queued _ _ _ hqueued) (hactive ▸ hupload)
  refine ⟨hcount.trans htally.count, ?_, ?_, ?_, fun hne ↦ absurd hqueue hne⟩
  · intro operation hoperation
    rw [hpending] at hoperation
    cases hoperation
  · intro operation hoperation
    rw [hpending] at hoperation
    cases hoperation
  · exact fun h ↦ hdelivered.trans (htally.accepted (haccepted h))

/-- The same operations and counts. -/
theorem of_same (hcounted : Counted before) (hgrows : Grows before.history after.history)
    (hactive : after.connection.activeUpload = before.connection.activeUpload)
    (hcount : after.connection.uploadMessageCount = before.connection.uploadMessageCount)
    (hdelivered : after.connection.uploadMessagesDelivered =
      before.connection.uploadMessagesDelivered)
    (hpending : after.connection.pendingOperation = before.connection.pendingOperation)
    (hdelivery : after.connection.transportDeliveryPending =
      before.connection.transportDeliveryPending)
    (haccepted : after.connection.uploadAccepted = before.connection.uploadAccepted)
    (hqueue : after.connection.uploadOperations = before.connection.uploadOperations) :
    Counted after := by
  intro compiledTest upload encoded hqueued hupload
  have htally := hcounted _ _ _ (hgrows.queued _ _ _ hqueued) (hactive ▸ hupload)
  have hawaited : after.connection.awaited = before.connection.awaited := by
    rw [Connection.awaited, Connection.awaited, hpending, hdelivery]
  refine ⟨hcount.trans htally.count, ?_, ?_, ?_, ?_⟩
  · rw [hpending, hdelivered, hawaited, performed_extends _ hgrows.within]
    exact htally.uploading
  · rw [hpending, hdelivered]
    exact htally.validating
  · rw [haccepted, hdelivered]
    exact htally.accepted
  · rw [hqueue, hpending, hdelivered]
    exact htally.waiting

/-- Releasing a pending operation that is not an upload message. -/
theorem of_released (hcounted : Counted before) (hgrows : Grows before.history after.history)
    (hactive : after.connection.activeUpload = before.connection.activeUpload)
    (hcount : after.connection.uploadMessageCount = before.connection.uploadMessageCount)
    (hdelivered : after.connection.uploadMessagesDelivered =
      before.connection.uploadMessagesDelivered)
    (hpending : after.connection.pendingOperation = none)
    (hother : ∀ operation, before.connection.pendingOperation = some operation →
      operation.kind.isUpload = false)
    (haccepted : after.connection.uploadAccepted = true →
      before.connection.uploadAccepted = true ∨
        ∃ operation, before.connection.pendingOperation = some operation ∧
          operation.kind = .completeTest)
    (hqueue : after.connection.uploadOperations = before.connection.uploadOperations) :
    Counted after := by
  intro compiledTest upload encoded hqueued hupload
  have htally := hcounted _ _ _ (hgrows.queued _ _ _ hqueued) (hactive ▸ hupload)
  refine ⟨hcount.trans htally.count, ?_, ?_, ?_, ?_⟩
  · intro operation hoperation
    rw [hpending] at hoperation
    cases hoperation
  · intro operation hoperation
    rw [hpending] at hoperation
    cases hoperation
  · intro h
    rw [hdelivered]
    rcases haccepted h with haccepted | ⟨operation, hoperation, hkind⟩
    · exact htally.accepted haccepted
    · exact htally.validating operation hoperation hkind
  · intro hne
    rw [hqueue] at hne
    rcases htally.waiting hne with ⟨operation, hoperation, hkind⟩ | hnone
    · rw [hother operation hoperation] at hkind
      cases hkind
    · exact .inr (hdelivered.trans hnone)

/-- Activating an operation that is neither an upload message nor the validation. -/
theorem activateOther (hcounted : Counted before) {operation : ApplicationOperation Wire}
    (hpending : before.connection.pendingOperation = none)
    (hkind : operation.kind.isUpload = false ∧ operation.kind ≠ .completeTest) :
    Counted (before.activate operation) := by
  intro compiledTest upload encoded hqueued hupload
  have htally := hcounted _ _ _ (Ordered.queued_activate _ hqueued) hupload
  refine ⟨htally.count, ?_, ?_, htally.accepted, ?_⟩
  · intro other hother hupload
    cases hother
    rw [hkind.1] at hupload
    cases hupload
  · intro other hother hcomplete
    cases hother
    exact absurd hcomplete hkind.2
  · intro hne
    rcases htally.waiting hne with ⟨other, hother, -⟩ | hnone
    · rw [hpending] at hother
      cases hother
    · exact .inr hnone

/-- Activating the next upload operation, whose message awaits its delivery. -/
theorem activateUpload (hcounted : Counted before) {connection : Connection Wire}
    {next : ApplicationOperation Wire}
    {active : FixedIOUploadMessages}
    (hactive : before.connection.activeUpload = some active)
    (hactive' : connection.activeUpload = some active)
    (hid : next.applicationTestId = some active.id) (hkind : next.kind.isUpload = true)
    (hunstarted : next.Unstarted)
    (hcount : connection.uploadMessageCount = before.connection.uploadMessageCount)
    (haccepted : connection.uploadAccepted = false)
    (hdelivered : ∀ compiledTest encoded, Queued before.history compiledTest active encoded →
      connection.uploadMessagesDelivered = (performed active.id before.history).length ∧
        next ∈ uploadOperationsOf active encoded) :
    Counted ((before.become connection).activate next) := by
  intro compiledTest upload encoded hqueued hupload
  have hbefore : Queued before.history compiledTest upload encoded :=
    Ordered.queued_activate (before.become connection) hqueued
  have hsame : upload = active := by
    rw [Ledger.activate_connection] at hupload
    exact (Option.some.inj (hactive'.symm.trans hupload)).symm
  subst hsame
  obtain ⟨hperformed, hmem⟩ := hdelivered _ _ hbefore
  have hsubmitted : next.everyMessageSubmitted = false := by
    rw [ApplicationOperation.everyMessageSubmitted, hunstarted.nextMessageIndex,
      length_encodedMessages_of_mem hmem]
    rfl
  refine ⟨hcount.trans (hcounted _ _ _ hbefore hactive).count, ?_, ?_, ?_, ?_⟩
  · intro operation hoperation _
    cases hoperation
    rw [Ordered.performed_activate hid (ne_of_isUpload hkind).2.2,
      List.length_append, Ledger.become_history, ← hperformed]
    simp only [Ledger.activate_connection, Ledger.become_connection, Connection.activate,
      Connection.awaited, Option.any_some, hsubmitted, Bool.false_and, Bool.false_eq_true,
      if_false, List.length_singleton]
  · intro operation hoperation hcomplete
    cases hoperation
    rw [hcomplete] at hkind
    cases hkind
  · intro h
    rw [Ledger.activate_connection] at h
    exact absurd h (Bool.eq_false_iff.1 haccepted)
  · exact fun _ ↦ .inl ⟨next, rfl, hkind⟩

/-- Nothing is awaited of an operation that is ready to finish. -/
theorem awaited_of_ready {connection : Connection Wire} {operation : ApplicationOperation Wire}
    (hpending : connection.pendingOperation = some operation)
    (hready : connection.readyToFinish operation = true) : connection.awaited = 0 := by
  obtain ⟨-, hdelivery, hsubmitted⟩ := delivered_of_readyToFinish hready
  rw [Connection.awaited, hpending, Option.any_some, hsubmitted, hdelivery]
  rfl

/-- A negative response keeps the counts. -/
theorem refuse (hcounted : Counted before) (hordered : Ordered protocol before)
    (hidentified : Identified protocol before) {operation : ApplicationOperation Wire}
    (hpending : before.connection.pendingOperation = some operation) :
    Counted (before.become (before.connection.release.handleNegativeResponse operation)) := by
  have hretired : ∀ state, Counted (before.become
      { before.connection.release.retireActiveUpload with workflowState := state }) :=
    fun state ↦ hcounted.of_dropped (.refl _) (.inl rfl) (.inl rfl) rfl (fun h ↦ by cases h) rfl
  have hfailed : Counted (before.become before.connection.release.failWorkflow) :=
    hcounted.of_dropped (.refl _) (.inr rfl) (.inr ⟨rfl, rfl⟩) rfl (fun h ↦ by cases h) rfl
  have hcontrol : operation.kind.isUpload = false → ∀ state, Counted (before.become
      { before.connection.release with workflowState := state }) := by
    intro hkind state
    refine hcounted.of_released (.refl _) rfl rfl rfl rfl (fun other hother ↦ ?_) .inl rfl
    rw [hpending] at hother
    cases hother
    exact hkind
  unfold Connection.handleNegativeResponse
  cases hkind : operation.kind with
  | discovery => exact hfailed
  | configuration => exact hretired _
  | tick => exact hretired _
  | completeTest => exact hretired _
  | start =>
    by_cases houtcome : operation.responseOutcome = some .rejected
    · simp only [if_pos houtcome]
      refine hcounted.of_released (.refl _) rfl rfl rfl rfl (fun other hother ↦ ?_)
        (fun _ ↦ .inl ?_) rfl
      · rw [hpending] at hother
        cases hother
        rw [hkind]
        rfl
      · obtain ⟨active, hactive, -⟩ := Ordered.serves_of_pending hidentified hpending
          ⟨by rw [hkind]; decide, by rw [hkind]; decide⟩
        obtain ⟨compiledTest, encoded, hqueued⟩ := hidentified.known active hactive
        exact (hordered.stage _ _ _ hqueued hactive).starting operation hpending hkind
    · simp only [if_neg houtcome]
      exact hfailed
  | abort =>
    by_cases houtcome : operation.responseOutcome = some .rejected
    · simp only [if_pos houtcome]
      exact hcontrol (by rw [hkind]; rfl) _
    · simp only [if_neg houtcome]
      exact hfailed
  | reset =>
    by_cases houtcome : operation.responseOutcome = some .rejected
    · simp only [if_pos houtcome]
      exact hcontrol (by rw [hkind]; rfl) _
    · simp only [if_neg houtcome]
      exact hfailed

/-- A completion that activates nothing keeps the counts. -/
theorem complete (hcounted : Counted before) {operation : ApplicationOperation Wire}
    (hpending : before.connection.pendingOperation = some operation)
    (hupload : operation.kind.isUpload = false) :
    Counted (before.become (before.connection.release.complete operation)) := by
  have hother : ∀ other, before.connection.pendingOperation = some other →
      other.kind.isUpload = false := by
    intro other hother
    rw [hpending] at hother
    cases hother
    exact hupload
  unfold Connection.complete
  cases hkind : operation.kind with
  | discovery => exact hcounted.of_released (.refl _) rfl rfl rfl rfl hother .inl rfl
  | configuration =>
    rw [hkind] at hupload
    cases hupload
  | tick =>
    rw [hkind] at hupload
    cases hupload
  | completeTest =>
    exact hcounted.of_released (.refl _) rfl rfl rfl rfl hother
      (fun _ ↦ .inr ⟨operation, hpending, hkind⟩) rfl
  | start => exact hcounted.of_released (.refl _) rfl rfl rfl rfl hother .inl rfl
  | abort =>
    exact hcounted.of_dropped (.refl _) (.inl rfl) (.inl rfl) rfl (fun h ↦ by cases h) rfl
  | reset =>
    exact hcounted.of_dropped (.refl _) (.inl rfl) (.inl rfl) rfl (fun h ↦ by cases h) rfl

/-- The active upload whose message is pending and ready to finish: it is fresh, its plan is split
between the performed and the queued operations, and all performed ones were delivered. -/
theorem uploading_of_ready (hcounted : Counted before) (hordered : Ordered protocol before)
    (hidentified : Identified protocol before) {operation : ApplicationOperation Wire}
    (hpending : before.connection.pendingOperation = some operation)
    (hready : before.connection.readyToFinish operation = true)
    (hkind : operation.kind.isUpload = true) :
    ∃ active, before.connection.activeUpload = some active ∧
      operation.applicationTestId = some active.id ∧
      before.connection.uploadAccepted = false ∧
      ∀ compiledTest encoded, Queued before.history compiledTest active encoded →
        before.connection.uploadMessagesDelivered =
            (performed active.id before.history).length ∧
          performed active.id before.history ++ before.connection.uploadOperations =
            uploadOperationsOf active encoded := by
  obtain ⟨active, hactive, hid⟩ := Ordered.serves_of_pending hidentified hpending
    ⟨(ne_of_isUpload hkind).1, (ne_of_isUpload hkind).2.1⟩
  obtain ⟨compiledTest, encoded, hqueued⟩ := hidentified.known active hactive
  refine ⟨active, hactive, hid,
    ((hordered.stage _ _ _ hqueued hactive).uploading operation hpending hkind).1.1, ?_⟩
  intro compiledTest encoded hqueued
  have htally := (hcounted _ _ _ hqueued hactive).uploading operation hpending hkind
  rw [awaited_of_ready hpending hready, Nat.add_zero] at htally
  exact ⟨htally,
    ((hordered.stage _ _ _ hqueued hactive).uploading operation hpending hkind).2⟩

/-- Finishing the pending operation keeps the counts. -/
theorem finishes (hcounted : Counted before) (hattended : Attended before)
    (hordered : Ordered protocol before) (hidentified : Identified protocol before)
    (hfinishes : Finishes protocol before after) : Counted after := by
  cases hfinishes with
  | waiting hwaiting => exact hcounted
  | refused operation hpending hready herror =>
    exact hcounted.refuse hordered hidentified hpending
  | completed operation hpending hready herror hkind => exact hcounted.complete hpending hkind
  | continued operation next rest hpending hready herror hkind hqueue =>
    obtain ⟨active, hactive, -, hnot, hplan⟩ :=
      hcounted.uploading_of_ready hordered hidentified hpending hready hkind
    obtain ⟨hnextKind, other, hother, hid⟩ :=
      hidentified.queue next (by rw [hqueue]; exact List.mem_cons_self)
    have hsame : other = active := Option.some.inj (hother.symm.trans hactive)
    subst hsame
    refine hcounted.activateUpload hactive hactive hid hnextKind
      (hattended.queued next (by rw [hqueue]; exact List.mem_cons_self)) rfl hnot ?_
    intro compiledTest encoded hqueued
    obtain ⟨hdelivered, hsplit⟩ := hplan _ _ hqueued
    refine ⟨hdelivered, ?_⟩
    rw [← hsplit, hqueue]
    exact List.mem_append_right _ List.mem_cons_self
  | uploaded operation deadline hpending hready herror hkind hqueue =>
    obtain ⟨active, hactive, -, hnot, hplan⟩ :=
      hcounted.uploading_of_ready hordered hidentified hpending hready hkind
    intro compiledTest upload encoded hqueued hupload
    have hsame : upload = active := Option.some.inj (hupload.symm.trans hactive)
    subst hsame
    have hbefore : Queued before.history compiledTest upload encoded :=
      Ordered.queued_activate (before.become before.connection.release) hqueued
    obtain ⟨hdelivered, hsplit⟩ := hplan _ _ hbefore
    rw [hqueue, List.append_nil] at hsplit
    have hall : before.connection.uploadMessagesDelivered = encoded.length := by
      rw [hdelivered, hsplit,
        length_uploadOperationsOf (hidentified.registered _ _ _ hbefore).2.1]
    refine ⟨(hcounted _ _ _ hbefore hactive).count, ?_, fun _ _ _ ↦ hall, fun _ ↦ hall,
      fun hne ↦ absurd hqueue hne⟩
    intro other hother hother'
    cases hother
    cases hother'
  | startsImmediately operation upload encoded hpending hready herror hkind hactive himmediate
      hencoded =>
    have hupload : operation.kind.isUpload = false := by
      rw [hkind]
      rfl
    refine (hcounted.complete hpending hupload).activateOther ?_ ⟨rfl, fun h ↦ by cases h⟩
    exact (complete_idle before.connection.release operation rfl
      (delivered_of_readyToFinish hready).2.1).1

/-- The request of a pending upload operation is one of the plan. -/
theorem length_of_pending (hattended : Attended before) (hordered : Ordered protocol before)
    (hidentified : Identified protocol before) {operation : ApplicationOperation Wire}
    (hpending : before.connection.pendingOperation = some operation)
    (hkind : operation.kind.isUpload = true) : operation.encodedMessages.length = 1 := by
  obtain ⟨hdiscovery, hreset, habort⟩ := ne_of_isUpload hkind
  obtain ⟨active, hactive, hid⟩ :=
    Ordered.serves_of_pending hidentified hpending ⟨hdiscovery, hreset⟩
  obtain ⟨compiledTest, encoded, hqueued⟩ := hidentified.known active hactive
  obtain ⟨start, hstart, hrequest⟩ := (hattended.pending operation hpending).origin
  have hpresent : present before.history ∈ uploadChapters active.id before.history := by
    rw [Ordered.uploadChapters_of_pending hattended hpending (serves_eq_true.2 ⟨hid, habort⟩)]
    exact List.mem_cons_self
  have hperformed : start.request ∈ performed active.id before.history := by
    rw [performed, List.mem_filterMap]
    refine ⟨_, List.mem_reverse.2 hpresent, ?_⟩
    rw [Chapter.request, hstart, Option.map_some]
  have hplan := ((hordered.stage _ _ _ hqueued hactive).uploading operation hpending hkind).2
  have hmem : start.request ∈ uploadOperationsOf active encoded := by
    rw [← hplan]
    exact List.mem_append_left _ hperformed
  have hlength : start.request.encodedMessages.length = 1 := length_encodedMessages_of_mem hmem
  rw [hrequest] at hlength
  exact hlength

/-- Moments whose newest submission is unconfirmed contain an accepted one. -/
theorem sent_ne_nil_of_unconfirmed {chapter : Chapter Wire}
    (hunconfirmed : unconfirmed chapter.moments = true) : chapter.sent ≠ [] := by
  obtain ⟨operation, moments⟩ := chapter
  rw [Chapter.sent, Ne, List.reverse_eq_nil_iff]
  induction moments with
  | nil => cases hunconfirmed
  | cons moment older ih =>
    cases haccepted : moment.accepted with
    | some encoded =>
      rw [List.filterMap_cons_some haccepted]
      exact List.cons_ne_nil _ _
    | none =>
      rw [List.filterMap_cons_none haccepted]
      refine ih ?_
      by_cases hconfirmed : moment.interaction = .event .deliveryConfirmed
      · simp only [unconfirmed, hconfirmed] at hunconfirmed
        cases hunconfirmed
      · rwa [unconfirmed_cons_of_other older haccepted hconfirmed] at hunconfirmed

/-- A pending upload operation with a pending delivery has submitted its message. -/
theorem submitted_of_delivery (hattended : Attended before) (hordered : Ordered protocol before)
    (hidentified : Identified protocol before) {operation : ApplicationOperation Wire}
    (hpending : before.connection.pendingOperation = some operation)
    (hdelivery : before.connection.transportDeliveryPending = true)
    (hkind : operation.kind.isUpload = true) : operation.everyMessageSubmitted = true := by
  have hlength := length_of_pending hattended hordered hidentified hpending hkind
  have hdescribes := hattended.pending operation hpending
  have hsent := sent_ne_nil_of_unconfirmed (hdescribes.delivery.trans hdelivery)
  rw [hdescribes.sent, Ne, List.take_eq_nil_iff, not_or] at hsent
  have hindex := hdescribes.index_le
  rw [ApplicationOperation.everyMessageSubmitted, beq_iff_eq]
  omega

/-- Progress of a pending operation that leaves what is awaited of an upload as it was. -/
theorem of_progress (hcounted : Counted before) (hgrows : Grows before.history after.history)
    {operation progressed : ApplicationOperation Wire}
    (hactive : after.connection.activeUpload = before.connection.activeUpload)
    (hcount : after.connection.uploadMessageCount = before.connection.uploadMessageCount)
    (haccepted : after.connection.uploadAccepted = before.connection.uploadAccepted)
    (hqueue : after.connection.uploadOperations = before.connection.uploadOperations)
    (hoperation : before.connection.pendingOperation = some operation)
    (hprogressed : after.connection.pendingOperation = some progressed)
    (hrequest : operation.request = progressed.request)
    (hdelivered : operation.kind.isUpload = true →
      after.connection.uploadMessagesDelivered + after.connection.awaited =
        before.connection.uploadMessagesDelivered + before.connection.awaited)
    (hother : operation.kind.isUpload = false → after.connection.uploadMessagesDelivered =
      before.connection.uploadMessagesDelivered) (hfresh : operation.kind.isUpload = true →
        before.connection.uploadAccepted = false) : Counted after := by
  intro compiledTest upload encoded hqueued hupload
  have htally := hcounted _ _ _ (hgrows.queued _ _ _ hqueued) (hactive ▸ hupload)
  have hkind := kind_of_request_eq hrequest
  refine ⟨hcount.trans htally.count, ?_, ?_, ?_, ?_⟩
  · intro other hother hother'
    rw [hprogressed] at hother
    cases hother
    rw [← hkind] at hother'
    rw [performed_extends _ hgrows.within, hdelivered hother']
    exact htally.uploading operation hoperation hother'
  · intro other hpend hcomplete
    rw [hprogressed] at hpend
    cases hpend
    rw [← hkind] at hcomplete
    rw [hother (by rw [hcomplete]; rfl)]
    exact htally.validating operation hoperation hcomplete
  · intro h
    rw [haccepted] at h
    cases hupload' : operation.kind.isUpload with
    | true =>
      rw [hfresh hupload'] at h
      cases h
    | false =>
      rw [hother hupload']
      exact htally.accepted h
  · intro hne
    rw [hqueue] at hne
    cases hupload' : operation.kind.isUpload with
    | true => exact .inl ⟨progressed, hprogressed, hkind ▸ hupload'⟩
    | false =>
      rcases htally.waiting hne with ⟨other, hpend, hother'⟩ | hnone
      · rw [hoperation] at hpend
        cases hpend
        rw [hupload'] at hother'
        cases hother'
      · exact .inr ((hother hupload').trans hnone)

/-- An upload with a pending upload operation is not accepted. -/
theorem not_accepted_of_pending (hordered : Ordered protocol before)
    (hidentified : Identified protocol before) {operation : ApplicationOperation Wire}
    (hpending : before.connection.pendingOperation = some operation)
    (hkind : operation.kind.isUpload = true) : before.connection.uploadAccepted = false := by
  obtain ⟨active, hactive, -⟩ := Ordered.serves_of_pending hidentified hpending
    ⟨(ne_of_isUpload hkind).1, (ne_of_isUpload hkind).2.1⟩
  obtain ⟨compiledTest, encoded, hqueued⟩ := hidentified.known active hactive
  exact ((hordered.stage _ _ _ hqueued hactive).uploading operation hpending hkind).1.1

/-- A confirmation or a response of the pending operation keeps the counts. -/
theorem handles (hcounted : Counted before) (hattended : Attended before)
    (hordered : Ordered protocol before) (hidentified : Identified protocol before)
    (hhandles : Handles protocol before after) : Counted after := by
  cases hhandles with
  | confirmed operation deadline hpending hdelivery =>
    have hgrows := Ordered.grows_note before (.event .deliveryConfirmed)
      ⟨⟨rfl, fun _ _ _ h ↦ by cases h⟩, rfl⟩
    refine hcounted.of_progress hgrows rfl rfl rfl rfl hpending rfl ?_ ?_ ?_
      (not_accepted_of_pending hordered hidentified hpending)
    · split <;> rfl
    · intro hkind
      have hsubmitted :=
        submitted_of_delivery hattended hordered hidentified hpending hdelivery hkind
      have hbefore : before.connection.awaited = 1 := by
        rw [Connection.awaited, hpending, Option.any_some, hdelivery, hsubmitted]
        rfl
      have hafter : (before.connection.confirmDelivery operation deadline).awaited = 0 := by
        simp only [Connection.awaited, Connection.confirmDelivery, if_pos hsubmitted,
          Option.any_some, Bool.not_false, Bool.and_true]
        exact if_pos hsubmitted
      simp only [Ledger.become_connection, hbefore, hafter]
      rw [Connection.confirmDelivery, if_pos hkind]
    · intro hkind
      have hnot : ¬operation.kind.isUpload = true := Bool.eq_false_iff.1 hkind
      rw [Ledger.become_connection, Connection.confirmDelivery]
      exact if_neg hnot
  | described operation message information hpending hkind =>
    have hgrows := Ordered.grows_note before (.message (.systemInfoResponse message))
      ⟨⟨rfl, fun _ _ _ h ↦ by cases h⟩, rfl⟩
    refine hcounted.of_progress hgrows rfl rfl rfl rfl hpending rfl rfl (fun hupload ↦ ?_)
      (fun _ ↦ rfl) (not_accepted_of_pending hordered hidentified hpending)
    rw [hkind] at hupload
    cases hupload
  | answered operation scope message hpending hscope hmatch =>
    have hgrows := Ordered.grows_note before (.message (.applicationResponse message))
      ⟨⟨rfl, fun _ _ _ h ↦ by cases h⟩, rfl⟩
    refine hcounted.of_progress hgrows rfl rfl rfl rfl hpending rfl
      (request_answeredBy operation message).symm (fun _ ↦ ?_) (fun _ ↦ rfl)
      (not_accepted_of_pending hordered hidentified hpending)
    have hsubmitted := everyMessageSubmitted_answeredBy operation message
    simp only [Ledger.become_connection, Connection.awaited, hpending, Option.any_some, hsubmitted]

/-- A submission leaves the submitted message awaited. -/
theorem submit (hcounted : Counted before) (hattended : Attended before)
    (hordered : Ordered protocol before) (hidentified : Identified protocol before)
    {operation : ApplicationOperation Wire} {message : Wire}
    (hnext : before.connection.nextMessage = some (operation, message)) :
    Counted ((before.note (.submitted message .ok)).become { before.connection with
      transportDeliveryPending := true
      pendingOperation := some
        { operation with nextMessageIndex := operation.nextMessageIndex + 1 } }) := by
  obtain ⟨hpending, hmessage⟩ := nextMessage_eq_some hnext
  have hindex := (List.getElem?_eq_some_iff.1 hmessage).1
  have hunsent : operation.everyMessageSubmitted = false := by
    rw [ApplicationOperation.everyMessageSubmitted, beq_eq_false_iff_ne]
    omega
  refine hcounted.of_progress (grows_submitted hattended hnext) rfl rfl rfl rfl hpending rfl rfl
    (fun _ ↦ ?_) (fun _ ↦ rfl) (not_accepted_of_pending hordered hidentified hpending)
  have hbefore : before.connection.awaited = 1 := by
    rw [Connection.awaited, hpending, Option.any_some, hunsent]
    rfl
  rw [hbefore]
  simp only [Ledger.become_connection, Connection.awaited, Option.any_some, Bool.not_true,
    Bool.and_false, Bool.false_eq_true, if_false]

/-- Queueing an upload starts its count. -/
theorem enqueue (hidentified : Identified protocol before)
    {compiledTest : CompiledTestIR} {upload : FixedIOUploadMessages} {encoded : List Wire}
    (hencoded : encodeUpload protocol upload = .ok encoded)
    (hpending : ∀ operation, before.connection.pendingOperation = some operation →
      operation.kind = .discovery) :
    Counted ((before.note (.uploadQueued compiledTest upload encoded)).become
      (before.connection.enqueueUpload upload encoded)) := by
  rintro otherTest other otherEncoded ⟨moment, hmem⟩ hother
  cases hother
  have hsame : otherEncoded = encoded := by
    rcases List.mem_cons.1 hmem with heq | hmem
    · cases heq
      rfl
    · have hregistered := (hidentified.registered _ _ _ ⟨moment, hmem⟩).2.1
      rw [hencoded] at hregistered
      exact (Except.ok.inj hregistered).symm
  subst hsame
  refine ⟨rfl, ?_, ?_, (fun h ↦ by cases h), fun _ ↦ .inr rfl⟩
  · intro operation hoperation hkind
    rw [hpending operation hoperation] at hkind
    cases hkind
  · intro operation hoperation hkind
    rw [hpending operation hoperation] at hkind
    cases hkind

/-- Advancing to the first operation of an upload. -/
theorem advance (hcounted : Counted before) (hattended : Attended before)
    (hordered : Ordered protocol before) (hidentified : Identified protocol before)
    {next : ApplicationOperation Wire} {rest : List (ApplicationOperation Wire)}
    (hpending : before.connection.pendingOperation = none)
    (hqueue : before.connection.uploadOperations = next :: rest) :
    Counted
      ((before.become { before.connection with uploadOperations := rest }).activate next) := by
  have hmem : next ∈ before.connection.uploadOperations := by
    rw [hqueue]
    exact List.mem_cons_self
  have hne : before.connection.uploadOperations ≠ [] := List.ne_nil_of_mem hmem
  obtain ⟨hkind, active, hactive, hid⟩ := hidentified.queue next hmem
  have hwaiting : ∀ compiledTest encoded, Queued before.history compiledTest active encoded →
      before.connection.Fresh ∧ performed active.id before.history = [] ∧
        before.connection.uploadOperations = uploadOperationsOf active encoded := by
    intro compiledTest encoded hqueued
    rcases (hordered.stage _ _ _ hqueued hactive).waiting hne with
      ⟨operation, hoperation, -⟩ | hwaiting
    · rw [hpending] at hoperation
      cases hoperation
    · exact hwaiting
  obtain ⟨compiledTest, encoded, hqueued⟩ := hidentified.known active hactive
  refine hcounted.activateUpload hactive hactive hid hkind (hattended.queued next hmem) rfl
    (hwaiting _ _ hqueued).1.1 fun compiledTest encoded hqueued ↦ ?_
  obtain ⟨-, hnothing, hplan⟩ := hwaiting _ _ hqueued
  refine ⟨?_, hplan ▸ hmem⟩
  rcases (hcounted _ _ _ hqueued hactive).waiting hne with ⟨operation, hoperation, -⟩ | hnone
  · rw [hpending] at hoperation
    cases hoperation
  · rw [hnothing]
    exact hnone

/-- A request that is no upload message and not the validation. -/
theorem request (hcounted : Counted before) {interaction : Interaction Wire}
    {operation : ApplicationOperation Wire}
    (hquiet : (⟨before.connection, interaction⟩ : Moment Wire).Quiet)
    (hpending : before.connection.pendingOperation = none)
    (hkind : operation.kind.isUpload = false ∧ operation.kind ≠ .completeTest) :
    Counted ((before.note interaction).activate operation) :=
  (hcounted.of_same (Ordered.grows_note before _ hquiet) rfl rfl rfl rfl rfl rfl rfl).activateOther
    hpending hkind

/-- One move keeps the counts. -/
theorem move (hcounted : Counted before) (hattended : Attended before)
    (hordered : Ordered protocol before) (hidentified : Identified protocol before)
    (hmove : Move protocol before after) : Counted after := by
  cases hmove with
  | serial incoming output offset =>
    exact hcounted.of_same (.refl _) rfl rfl rfl rfl rfl rfl rfl
  | ignored interaction hignored =>
    exact hcounted.of_same (Ordered.grows_note before _ (Ordered.quiet_of_ignores hignored))
      rfl rfl rfl rfl rfl rfl rfl
  | failed interaction hfails =>
    exact hcounted.of_dropped (Ordered.grows_note before _ (Ordered.quiet_of_fails hfails))
      (.inr rfl) (.inr ⟨rfl, rfl⟩) rfl (fun h ↦ by cases h) rfl
  | timedOut operation deadline hpending hresponse hdeadline =>
    exact hcounted.of_dropped (.refl _) (.inr rfl) (.inr ⟨rfl, rfl⟩) rfl (fun h ↦ by cases h) rfl
  | bound builder hfree hid => exact hcounted.of_same (.refl _) rfl rfl rfl rfl rfl rfl rfl
  | queued compiledTest attempt draws upload encoded hactive hqueue hpending hupload hfresh
      hbuilder hencoded => exact enqueue hidentified hencoded hpending
  | starting upload encoded hactive haccepted hstate hpending hdelivery hencoded htrigger =>
    exact hcounted.request ⟨⟨rfl, fun _ _ _ h ↦ by cases h⟩, rfl⟩ hpending
      ⟨rfl, fun h ↦ by cases h⟩
  | aborting upload encoded hactive hpending hdelivery hencoded =>
    exact hcounted.request ⟨⟨rfl, fun _ _ _ h ↦ by cases h⟩, rfl⟩ hpending
      ⟨rfl, fun h ↦ by cases h⟩
  | resetting encoded hconfirmed hpending hdelivery hencoded =>
    exact hcounted.request ⟨⟨rfl, fun _ _ _ h ↦ by cases h⟩, rfl⟩ hpending
      ⟨rfl, fun h ↦ by cases h⟩
  | discovering encoded hpending hconfirmed hencoded =>
    exact hcounted.activateOther hpending ⟨rfl, fun h ↦ by cases h⟩
  | advancing next rest hpending hconfirmed hqueue =>
    exact hcounted.advance hattended hordered hidentified hpending hqueue
  | submitted operation message hnext hmay =>
    exact hcounted.submit hattended hordered hidentified hnext
  | handled middle after hhandles hfinishes =>
    exact (hcounted.handles hattended hordered hidentified hhandles).finishes
      (hattended.handles hhandles) (hordered.handles hhandles) (hidentified.handles hhandles)
      hfinishes
  | counted message hexpected hid hunbound =>
    exact hcounted.of_same (.of_quiet (.cons ⟨⟨rfl, fun _ _ _ h ↦ by cases h⟩, rfl⟩
      (.cons ⟨⟨rfl, fun _ _ _ h ↦ by cases h⟩, rfl⟩ (.refl _)))) rfl rfl rfl rfl rfl rfl rfl
  | stored message builder submission result hexpected hid hbound hingested =>
    exact hcounted.of_same (.of_quiet (.cons ⟨⟨rfl, fun _ _ _ h ↦ by cases h⟩, rfl⟩
      (.cons ⟨⟨rfl, fun _ _ _ h ↦ by cases h⟩, rfl⟩
        (.cons ⟨⟨rfl, fun _ _ _ h ↦ by cases h⟩, rfl⟩ (.refl _)))))
      rfl rfl rfl rfl rfl rfl rfl
  | invalidated =>
    exact hcounted.of_dropped
      (Ordered.grows_note before _ ⟨⟨rfl, fun _ _ _ h ↦ by cases h⟩, rfl⟩)
      (.inr rfl) (.inr ⟨rfl, rfl⟩) rfl (fun h ↦ by cases h) rfl
  | established =>
    exact hcounted.of_same
      (Ordered.grows_note before _ ⟨⟨rfl, fun _ _ _ h ↦ by cases h⟩, rfl⟩)
      rfl rfl rfl rfl rfl rfl rfl

/-- One step keeps the counts. -/
theorem step (hcounted : Counted before) (hattended : Attended before)
    (hordered : Ordered protocol before) (hidentified : Identified protocol before)
    (hstep : Step protocol before after) : Counted after := by
  cases hstep with
  | moved after hopen hmove => exact hcounted.move hattended hordered hidentified hmove
  | closing answer hopen =>
    exact hcounted.of_dropped
      (Ordered.grows_note before _ ⟨⟨rfl, fun _ _ _ h ↦ by cases h⟩, rfl⟩)
      (.inr rfl) (.inr ⟨rfl, rfl⟩) rfl id rfl

end Counted

end HilRig.Protocol
