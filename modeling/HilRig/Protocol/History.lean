import HilRig.Protocol.Paths

/-!
# Chapters of a history

Every activation of an operation opens a chapter of the history, so what happened while one
operation was pending is one chapter. `present` is the chapter in progress and `past` the finished
ones, newest first. A chapter is `Concluded` when all messages of its operation were accepted by the
Transport, a delivery was confirmed since the last of them, and a matching response of a given
outcome was processed in it.
-/

set_option autoImplicit false
set_option relaxedAutoImplicit false

namespace HilRig.Protocol

open HilRig.Models HilRig.Results HilRig.Foundations

variable {Wire : Type}

/-- The moments since one activation, newest first; the first chapter has no operation. -/
structure Chapter (Wire : Type) where
  operation : Option (ApplicationOperation Wire)
  moments : List (Moment Wire)

/-- The chapter in progress. -/
def present : List (Moment Wire) → Chapter Wire
  | [] => ⟨none, []⟩
  | moment :: older =>
    match moment.interaction with
    | .activated operation => ⟨some operation, []⟩
    | _ => ⟨(present older).operation, moment :: (present older).moments⟩

/-- The finished chapters, newest first. -/
def past : List (Moment Wire) → List (Chapter Wire)
  | [] => []
  | moment :: older =>
    match moment.interaction with
    | .activated _ => present older :: past older
    | _ => past older

/-- An interaction that activates no operation. -/
def Interaction.staysInChapter : Interaction Wire → Bool
  | .activated _ => false
  | _ => true

@[simp] theorem present_activated (before : Connection Wire)
    (operation : ApplicationOperation Wire) (older : List (Moment Wire)) :
    present (⟨before, .activated operation⟩ :: older) = ⟨some operation, []⟩ :=
  rfl

@[simp] theorem past_activated (before : Connection Wire)
    (operation : ApplicationOperation Wire) (older : List (Moment Wire)) :
    past (⟨before, .activated operation⟩ :: older) = present older :: past older :=
  rfl

theorem present_cons {moment : Moment Wire} (hstays : moment.interaction.staysInChapter = true)
    (older : List (Moment Wire)) :
    present (moment :: older) =
      ⟨(present older).operation, moment :: (present older).moments⟩ := by
  cases moment with
  | mk before interaction =>
    cases interaction with
    | activated operation => cases hstays
    | _ => rfl

theorem past_cons {moment : Moment Wire} (hstays : moment.interaction.staysInChapter = true)
    (older : List (Moment Wire)) : past (moment :: older) = past older := by
  cases moment with
  | mk before interaction =>
    cases interaction with
    | activated operation => cases hstays
    | _ => rfl

/-! ### What a chapter contains -/

/-- The message of a submission the Transport accepted. -/
def Moment.accepted (moment : Moment Wire) : Option Wire :=
  match moment.interaction with
  | .submitted encoded .ok => some encoded
  | _ => none

/-- The messages the Transport accepted in a chapter, oldest first. -/
def Chapter.sent (chapter : Chapter Wire) : List Wire :=
  (chapter.moments.filterMap Moment.accepted).reverse

/-- Whether the newest accepted message of some moments has had no delivery confirmation since. -/
def unconfirmed : List (Moment Wire) → Bool
  | [] => false
  | moment :: older =>
    match moment.interaction with
    | .submitted _ .ok => true
    | .event .deliveryConfirmed => false
    | _ => unconfirmed older

/-- A response that answers an operation: its scope, its Application Test ID, and the tick or the
command of the operations that have one. -/
structure Answers (operation : ApplicationOperation Wire) (message : ApplicationResponse) :
    Prop where
  scope : operation.kind.expectedScope = some message.scope
  testId : message.testId.mapM (fun testId ↦ applicationTestIdFromBytes testId.bytes) =
    .ok operation.applicationTestId
  tick : operation.kind = .tick → operation.tick = some message.tickNumber
  controlCommand : operation.kind = .start ∨ operation.kind = .abort →
    operation.controlCommand = some message.controlCommand
  globalControlCommand : operation.kind = .reset →
    operation.globalControlCommand = some message.globalControlCommand

/-- An operation without its progress. -/
def ApplicationOperation.request (operation : ApplicationOperation Wire) :
    ApplicationOperation Wire :=
  { operation with
    nextMessageIndex := 0
    responseReceived := false
    responseDeadline := none
    responseError := none
    responseOutcome := none }

/-- A chapter in which a response answering an operation was processed while it was pending. -/
def Chapter.Received (chapter : Chapter Wire) (operation : ApplicationOperation Wire)
    (outcome : ResponseOutcome) : Prop :=
  ∃ moment ∈ chapter.moments, ∃ pending message,
    moment.before.pendingOperation = some pending ∧ pending.request = operation.request ∧
      moment.interaction = .message (.applicationResponse message) ∧
      Answers operation message ∧ message.outcome = outcome

/-- A chapter whose operation was submitted in full, delivered and answered. -/
structure Chapter.Concluded (chapter : Chapter Wire) (operation : ApplicationOperation Wire)
    (outcome : ResponseOutcome) : Prop where
  operation_eq : chapter.operation = some operation
  sent : chapter.sent = operation.encodedMessages
  delivered : unconfirmed chapter.moments = false
  received : chapter.Received operation outcome

/-! ### Growing chapters -/

/-- A chapter with one more moment. -/
def Chapter.push (chapter : Chapter Wire) (moment : Moment Wire) : Chapter Wire :=
  ⟨chapter.operation, moment :: chapter.moments⟩

@[simp] theorem Chapter.push_operation (chapter : Chapter Wire) (moment : Moment Wire) :
    (chapter.push moment).operation = chapter.operation :=
  rfl

theorem Chapter.sent_push_of_not_accepted (chapter : Chapter Wire) {moment : Moment Wire}
    (haccepted : moment.accepted = none) :
    (chapter.push moment).sent = chapter.sent := by
  simp only [Chapter.sent, Chapter.push, List.filterMap_cons_none haccepted]

theorem Chapter.sent_push_of_accepted (chapter : Chapter Wire) {moment : Moment Wire}
    {message : Wire} (haccepted : moment.accepted = some message) :
    (chapter.push moment).sent = chapter.sent ++ [message] := by
  simp only [Chapter.sent, Chapter.push, List.filterMap_cons_some haccepted, List.reverse_cons]

theorem Chapter.Received.push {chapter : Chapter Wire} {operation : ApplicationOperation Wire}
    {outcome : ResponseOutcome} (hreceived : chapter.Received operation outcome)
    (moment : Moment Wire) : (chapter.push moment).Received operation outcome := by
  obtain ⟨found, hfound, hrest⟩ := hreceived
  exact ⟨found, List.mem_cons_of_mem _ hfound, hrest⟩

/-- A moment that neither is an accepted submission nor a confirmation leaves the delivery of the
newest message as it was. -/
theorem unconfirmed_cons_of_other {moment : Moment Wire} (older : List (Moment Wire))
    (haccepted : moment.accepted = none)
    (hconfirmed : moment.interaction ≠ .event .deliveryConfirmed) :
    unconfirmed (moment :: older) = unconfirmed older := by
  cases moment with
  | mk before interaction =>
    cases interaction with
    | submitted message status =>
      cases status with
      | ok => cases haccepted
      | _ => rfl
    | event type =>
      cases type with
      | deliveryConfirmed => exact absurd rfl hconfirmed
      | _ => rfl
    | _ => rfl

/-- Moments after the conclusion of a chapter that submit nothing keep it concluded. -/
theorem Chapter.Concluded.push {chapter : Chapter Wire} {operation : ApplicationOperation Wire}
    {outcome : ResponseOutcome} (hconcluded : chapter.Concluded operation outcome)
    {moment : Moment Wire} (haccepted : moment.accepted = none) :
    (chapter.push moment).Concluded operation outcome := by
  refine ⟨hconcluded.operation_eq, ?_, ?_, hconcluded.received.push moment⟩
  · rw [chapter.sent_push_of_not_accepted haccepted, hconcluded.sent]
  · by_cases hconfirmed : moment.interaction = .event .deliveryConfirmed
    · simp only [Chapter.push, unconfirmed, hconfirmed]
    · exact (unconfirmed_cons_of_other _ haccepted hconfirmed).trans hconcluded.delivered

/-- A response that passes the correlation check answers the operation. -/
theorem answers_of_responseMismatch {operation : ApplicationOperation Wire}
    {scope : ResponseScope} {message : ApplicationResponse}
    (hscope : operation.kind.expectedScope = some scope)
    (hmatch : responseMismatch operation scope message = .ok none) :
    Answers operation message := by
  unfold responseMismatch at hmatch
  by_cases hsame : message.scope = scope
  · rw [if_neg (not_not.2 hsame)] at hmatch
    obtain ⟨receivedTestId, htestId, hmatch⟩ := bind_eq_ok.1 hmatch
    by_cases hid : receivedTestId = operation.applicationTestId
    · rw [if_neg (not_not.2 hid)] at hmatch
      by_cases htick : operation.kind = .tick ∧ some message.tickNumber ≠ operation.tick
      · rw [if_pos htick] at hmatch
        cases hmatch
      rw [if_neg htick] at hmatch
      by_cases hcontrol : (operation.kind = .start ∨ operation.kind = .abort) ∧
          some message.controlCommand ≠ operation.controlCommand
      · rw [if_pos hcontrol] at hmatch
        cases hmatch
      rw [if_neg hcontrol] at hmatch
      by_cases hglobal : operation.kind = .reset ∧
          some message.globalControlCommand ≠ operation.globalControlCommand
      · rw [if_pos hglobal] at hmatch
        cases hmatch
      refine ⟨hsame ▸ hscope, hid ▸ htestId, fun hkind ↦ ?_, fun hkind ↦ ?_, fun hkind ↦ ?_⟩
      · exact (not_not.1 fun hother ↦ htick ⟨hkind, hother⟩).symm
      · exact (not_not.1 fun hother ↦ hcontrol ⟨hkind, hother⟩).symm
      · exact (not_not.1 fun hother ↦ hglobal ⟨hkind, hother⟩).symm
    · rw [if_pos hid] at hmatch
      cases hmatch
  · rw [if_pos hsame] at hmatch
    cases hmatch

/-! ### Extending a history -/

/-- A history extended by moments that all have a property. -/
def Extends (property : Moment Wire → Prop) (older newer : List (Moment Wire)) : Prop :=
  ∃ notes, newer = notes ++ older ∧ ∀ moment ∈ notes, property moment

namespace Extends

variable {property : Moment Wire → Prop} {older newer : List (Moment Wire)}

theorem refl (history : List (Moment Wire)) : Extends property history history :=
  ⟨[], rfl, fun _ h ↦ by cases h⟩

theorem cons {moment : Moment Wire} (hmoment : property moment)
    (hextends : Extends property older newer) : Extends property older (moment :: newer) := by
  obtain ⟨notes, rfl, hnotes⟩ := hextends
  refine ⟨moment :: notes, rfl, fun other hother ↦ ?_⟩
  rcases List.mem_cons.1 hother with rfl | hother
  · exact hmoment
  · exact hnotes other hother

theorem mono {weaker : Moment Wire → Prop} (hextends : Extends property older newer)
    (hweaker : ∀ moment, property moment → weaker moment) : Extends weaker older newer := by
  obtain ⟨notes, rfl, hnotes⟩ := hextends
  exact ⟨notes, rfl, fun moment hmoment ↦ hweaker moment (hnotes moment hmoment)⟩

/-- What holds of a history and is kept by each moment holds of the extended one. -/
theorem preserves (invariant : List (Moment Wire) → Prop)
    (hcons : ∀ moment history, property moment → invariant history →
      invariant (moment :: history))
    (hextends : Extends property older newer) (holder : invariant older) : invariant newer := by
  obtain ⟨notes, rfl, hnotes⟩ := hextends
  induction notes with
  | nil => exact holder
  | cons moment notes ih =>
    refine hcons moment _ (hnotes moment List.mem_cons_self) (ih fun other hother ↦ ?_)
    exact hnotes other (List.mem_cons_of_mem _ hother)

end Extends

/-- A moment that activates no operation. -/
def Moment.Within (moment : Moment Wire) : Prop :=
  moment.interaction.staysInChapter = true

/-- A moment that neither activates an operation nor queues an upload. -/
structure Moment.Stays (moment : Moment Wire) : Prop where
  stays : moment.Within
  notQueued : ∀ compiledTest upload encoded,
    moment.interaction ≠ .uploadQueued compiledTest upload encoded

/-- A moment that stays in its chapter and submits nothing. -/
structure Moment.Quiet (moment : Moment Wire) : Prop extends Moment.Stays moment where
  accepted : moment.accepted = none

/-- Moments within a chapter leave its operation and the finished chapters as they are. -/
theorem Extends.chapters {older newer : List (Moment Wire)}
    (hextends : Extends Moment.Within older newer) :
    (present newer).operation = (present older).operation ∧ past newer = past older := by
  refine hextends.preserves
    (fun history ↦ (present history).operation = (present older).operation ∧
      past history = past older) ?_ ⟨rfl, rfl⟩
  intro moment history hmoment hhistory
  rw [present_cons hmoment, past_cons hmoment]
  exact hhistory

/-- Quiet moments keep a concluded chapter in progress concluded. -/
theorem Extends.concluded {older newer : List (Moment Wire)}
    (hextends : Extends Moment.Quiet older newer) {operation : ApplicationOperation Wire}
    {outcome : ResponseOutcome} (hconcluded : (present older).Concluded operation outcome) :
    (present newer).Concluded operation outcome := by
  refine hextends.preserves
    (fun history ↦ (present history).Concluded operation outcome) ?_ hconcluded
  intro moment history hmoment hhistory
  rw [present_cons hmoment.stays]
  exact hhistory.push hmoment.accepted

/-- Quiet moments leave what the chapter in progress sent as it is. -/
theorem Extends.sent {older newer : List (Moment Wire)}
    (hextends : Extends Moment.Quiet older newer) :
    (present newer).sent = (present older).sent := by
  refine hextends.preserves
    (fun history ↦ (present history).sent = (present older).sent) ?_ rfl
  intro moment history hmoment hhistory
  rw [present_cons hmoment.stays]
  exact ((present history).sent_push_of_not_accepted hmoment.accepted).trans hhistory

end HilRig.Protocol
