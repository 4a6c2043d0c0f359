import HilRig.Protocol.PendingOperation

/-!
# One Application Test ID, one upload

`Identified` is the discipline of identifiers: a queued upload is the active one or its identifier
is retired, the active upload's identifier is not retired, an identifier that is neither has no
chapter, and a pending or queued operation carries the active upload's identifier or, for discovery
and reset, none. Every step keeps it, and `supervised_run` carries it over every run of a new
connection.
-/

set_option autoImplicit false
set_option relaxedAutoImplicit false

namespace HilRig.Protocol

open HilRig.Models HilRig.Results HilRig.Foundations

variable {Wire : Type} {protocol : NativeProtocol Wire}

/-! ### Chapters of an upload -/

def FixedIOUploadMessages.id (upload : FixedIOUploadMessages) : ℕ :=
  upload.uploadAttempt.applicationTestId

/-- Whether an operation submits messages of an upload, ABORT aside. -/
def ApplicationOperation.serves (id : ℕ) (operation : ApplicationOperation Wire) : Bool :=
  operation.applicationTestId == some id && operation.kind != .abort

def Chapter.serves (id : ℕ) (chapter : Chapter Wire) : Bool :=
  chapter.operation.any fun operation ↦ operation.serves id

/-- The chapters of the operations of an upload, newest first. -/
def uploadChapters (id : ℕ) (history : List (Moment Wire)) : List (Chapter Wire) :=
  (present history :: past history).filter (Chapter.serves id)

/-- An upload was queued in a history. -/
def Queued (history : List (Moment Wire)) (compiledTest : CompiledTestIR)
    (upload : FixedIOUploadMessages) (encoded : List Wire) : Prop :=
  ∃ before, ⟨before, .uploadQueued compiledTest upload encoded⟩ ∈ history

theorem serves_eq_true {id : ℕ} {operation : ApplicationOperation Wire} :
    operation.serves id = true ↔
      operation.applicationTestId = some id ∧ operation.kind ≠ .abort := by
  simp [ApplicationOperation.serves]

theorem serves_of_request_eq {first second : ApplicationOperation Wire} (id : ℕ)
    (hrequest : first.request = second.request) : first.serves id = second.serves id := by
  rw [ApplicationOperation.serves, ApplicationOperation.serves, kind_of_request_eq hrequest,
    applicationTestId_of_request_eq hrequest]

theorem uploadChapters_activated (id : ℕ) (before : Connection Wire)
    (operation : ApplicationOperation Wire) (older : List (Moment Wire)) :
    uploadChapters id (⟨before, .activated operation⟩ :: older) =
      if operation.serves id then ⟨some operation, []⟩ :: uploadChapters id older
      else uploadChapters id older := by
  rw [uploadChapters, present_activated, past_activated, List.filter_cons]
  rfl

/-- Moments within a chapter change at most the moments of the chapter in progress. -/
theorem uploadChapters_extends (id : ℕ) {older newer : List (Moment Wire)}
    (hextends : Extends Moment.Within older newer) :
    uploadChapters id newer =
      if (present older).serves id then present newer :: (past older).filter (Chapter.serves id)
      else (past older).filter (Chapter.serves id) := by
  obtain ⟨hoperation, hpast⟩ := hextends.chapters
  have hserves : (present newer).serves id = (present older).serves id := by
    rw [Chapter.serves, Chapter.serves, hoperation]
  rw [uploadChapters, List.filter_cons, hpast, hserves]

/-- Moments within a chapter queue no upload. -/
theorem queued_extends {older newer : List (Moment Wire)}
    (hextends : Extends Moment.Stays older newer) (compiledTest : CompiledTestIR)
    (upload : FixedIOUploadMessages) (encoded : List Wire) :
    Queued newer compiledTest upload encoded ↔ Queued older compiledTest upload encoded := by
  refine hextends.preserves (fun history ↦
    Queued history compiledTest upload encoded ↔ Queued older compiledTest upload encoded)
    ?_ Iff.rfl
  intro moment history hmoment hhistory
  rw [← hhistory]
  constructor
  · rintro ⟨before, hmem⟩
    rcases List.mem_cons.1 hmem with rfl | hmem
    · exact absurd rfl (hmoment.notQueued compiledTest upload encoded)
    · exact ⟨before, hmem⟩
  · rintro ⟨before, hmem⟩
    exact ⟨before, List.mem_cons_of_mem _ hmem⟩

/-- Every queued operation is an upload operation with the upload's identifier. -/
theorem mem_uploadOperationsOf {upload : FixedIOUploadMessages} {encoded : List Wire}
    {operation : ApplicationOperation Wire}
    (hoperation : operation ∈ uploadOperationsOf upload encoded) :
    operation.kind.isUpload = true ∧ operation.applicationTestId = some upload.id := by
  obtain ⟨wire, rfl | ⟨tick, rfl⟩⟩ := operation_of_mem_uploadOperationsOf hoperation
  · exact ⟨rfl, rfl⟩
  · exact ⟨rfl, rfl⟩

/-! ### The invariant -/

/-- An operation that a connection may have pending: one of the active upload, or one that is not
about an upload. -/
def Connection.Admits (connection : Connection Wire) (operation : ApplicationOperation Wire) :
    Prop :=
  (operation.applicationTestId = none ∧
    (operation.kind = .discovery ∨ operation.kind = .reset)) ∨
  ∃ upload, connection.activeUpload = some upload ∧
    operation.applicationTestId = some upload.id

structure Identified (protocol : NativeProtocol Wire) (ledger : Ledger Wire) : Prop where
  registered : ∀ compiledTest upload encoded,
    Queued ledger.history compiledTest upload encoded →
      (∃ attempt draws, buildUpload compiledTest attempt draws = .ok upload) ∧
      encodeUpload protocol upload = .ok encoded ∧
      (upload.id ∈ ledger.connection.retiredApplicationTestIds ∨
        ledger.connection.activeUpload = some upload)
  known : ∀ upload, ledger.connection.activeUpload = some upload →
    ∃ compiledTest encoded, Queued ledger.history compiledTest upload encoded
  fresh : ∀ upload, ledger.connection.activeUpload = some upload →
    upload.id ∉ ledger.connection.retiredApplicationTestIds
  foreign : ∀ id, id ∉ ledger.connection.retiredApplicationTestIds →
    ledger.connection.activeId ≠ some id → uploadChapters id ledger.history = []
  pending : ∀ operation, ledger.connection.pendingOperation = some operation →
    ledger.connection.Admits operation
  queue : ∀ operation ∈ ledger.connection.uploadOperations,
    operation.kind.isUpload = true ∧ ∃ upload, ledger.connection.activeUpload = some upload ∧
      operation.applicationTestId = some upload.id

namespace Identified

variable {before after : Ledger Wire}

/-- The connection admits an operation exactly when it admits its request. -/
theorem admits_of_request_eq {connection : Connection Wire}
    {first second : ApplicationOperation Wire} (hadmits : connection.Admits first)
    (hrequest : first.request = second.request) : connection.Admits second := by
  rw [Connection.Admits, ← kind_of_request_eq hrequest,
    ← applicationTestId_of_request_eq hrequest]
  exact hadmits

/-- An admitted operation of an upload belongs to the active one. -/
theorem active_of_serves {connection : Connection Wire} {operation : ApplicationOperation Wire}
    (hadmits : connection.Admits operation) {id : ℕ} (hserves : operation.serves id = true) :
    connection.activeId = some id := by
  obtain ⟨hid, -⟩ := serves_eq_true.1 hserves
  rcases hadmits with ⟨hnone, -⟩ | ⟨upload, hactive, hupload⟩
  · rw [hnone] at hid
    cases hid
  · rw [Connection.activeId, hactive, Option.map_some]
    exact hupload ▸ hid

/-- Moments within a chapter with the same active upload and no new operation. -/
theorem of_extends (hidentified : Identified protocol before)
    (hextends : Extends Moment.Stays before.history after.history)
    (hactive : after.connection.activeUpload = before.connection.activeUpload)
    (hretired : after.connection.retiredApplicationTestIds =
      before.connection.retiredApplicationTestIds)
    (hpending : ∀ operation, after.connection.pendingOperation = some operation →
      before.connection.Admits operation)
    (hqueue : ∀ operation ∈ after.connection.uploadOperations,
      operation ∈ before.connection.uploadOperations) :
    Identified protocol after where
  registered := by
    intro compiledTest upload encoded hqueued
    rw [hactive, hretired]
    exact hidentified.registered _ _ _ ((queued_extends hextends _ _ _).1 hqueued)
  known := by
    intro upload hupload
    obtain ⟨compiledTest, encoded, hqueued⟩ := hidentified.known upload (hactive ▸ hupload)
    exact ⟨compiledTest, encoded, (queued_extends hextends _ _ _).2 hqueued⟩
  fresh := by
    intro upload hupload
    rw [hretired]
    exact hidentified.fresh upload (hactive ▸ hupload)
  foreign := by
    intro id hid hother
    rw [hretired] at hid
    rw [Connection.activeId, hactive] at hother
    have hnone := hidentified.foreign id hid hother
    rw [uploadChapters, List.filter_eq_nil_iff] at hnone
    rw [uploadChapters_extends id (hextends.mono fun _ h ↦ h.stays),
      if_neg (hnone _ List.mem_cons_self), List.filter_eq_nil_iff]
    exact fun chapter hchapter ↦ hnone chapter (List.mem_cons_of_mem _ hchapter)
  pending := by
    intro operation hoperation
    rw [Connection.Admits, hactive]
    exact hpending operation hoperation
  queue := by
    intro operation hoperation
    rw [hactive]
    exact hidentified.queue operation (hqueue operation hoperation)

/-- Retiring the active upload: nothing stays pending or queued. -/
theorem of_retired (hidentified : Identified protocol before)
    (hextends : Extends Moment.Stays before.history after.history)
    (hactive : after.connection.activeUpload = none)
    (hretired : after.connection.retiredApplicationTestIds = before.connection.retiredIds)
    (hpending : after.connection.pendingOperation = none)
    (hqueue : after.connection.uploadOperations = []) :
    Identified protocol after where
  registered := by
    intro compiledTest upload encoded hqueued
    obtain ⟨hbuilt, hencoded, hwhere⟩ :=
      hidentified.registered _ _ _ ((queued_extends hextends _ _ _).1 hqueued)
    refine ⟨hbuilt, hencoded, .inl ?_⟩
    rw [hretired, Connection.retiredIds, Connection.activeId]
    rcases hwhere with hwhere | hwhere
    · cases hbefore : before.connection.activeUpload with
      | none => exact hwhere
      | some other => exact Finset.mem_insert_of_mem hwhere
    · rw [hwhere]
      exact Finset.mem_insert_self _ _
  known := by
    intro upload hupload
    rw [hactive] at hupload
    cases hupload
  fresh := by
    intro upload hupload
    rw [hactive] at hupload
    cases hupload
  foreign := by
    intro id hid _
    rw [hretired, Connection.retiredIds] at hid
    have hnone : uploadChapters id before.history = [] := by
      cases hbefore : before.connection.activeId with
      | none =>
        rw [hbefore] at hid
        exact hidentified.foreign id hid fun h ↦ by rw [hbefore] at h; cases h
      | some other =>
        simp only [hbefore, Finset.mem_insert, not_or] at hid
        refine hidentified.foreign id hid.2 fun h ↦ ?_
        rw [hbefore] at h
        exact hid.1 (Option.some.inj h).symm
    rw [uploadChapters, List.filter_eq_nil_iff] at hnone
    rw [uploadChapters_extends id (hextends.mono fun _ h ↦ h.stays),
      if_neg (hnone _ List.mem_cons_self), List.filter_eq_nil_iff]
    exact fun chapter hchapter ↦ hnone chapter (List.mem_cons_of_mem _ hchapter)
  pending := by
    intro operation hoperation
    rw [hpending] at hoperation
    cases hoperation
  queue := by
    intro operation hoperation
    rw [hqueue] at hoperation
    cases hoperation

/-- Activating an admitted operation. -/
theorem activate (hidentified : Identified protocol before)
    {operation : ApplicationOperation Wire} (hadmits : before.connection.Admits operation) :
    Identified protocol (before.activate operation) where
  registered := by
    rintro compiledTest upload encoded ⟨moment, hmem⟩
    rcases List.mem_cons.1 hmem with heq | hmem
    · cases heq
    · exact hidentified.registered _ _ _ ⟨moment, hmem⟩
  known := by
    intro upload hupload
    obtain ⟨compiledTest, encoded, moment, hmem⟩ := hidentified.known upload hupload
    exact ⟨compiledTest, encoded, moment, List.mem_cons_of_mem _ hmem⟩
  fresh := hidentified.fresh
  foreign := by
    intro id hid hother
    rw [Ledger.activate_history, uploadChapters_activated, if_neg]
    · exact hidentified.foreign id hid hother
    · exact fun hserves ↦ hother (active_of_serves hadmits hserves)
  pending := by
    intro other hother
    cases hother
    exact hadmits
  queue := hidentified.queue

/-- Queueing a fresh upload. -/
theorem enqueue (hidentified : Identified protocol before) {compiledTest : CompiledTestIR}
    {upload : FixedIOUploadMessages} {encoded : List Wire}
    (hactive : before.connection.activeUpload = none)
    (hqueue : before.connection.uploadOperations = [])
    (hbuilt : ∃ attempt draws, buildUpload compiledTest attempt draws = .ok upload)
    (hencoded : encodeUpload protocol upload = .ok encoded)
    (hfresh : upload.id ∉ before.connection.retiredApplicationTestIds)
    (hpending : ∀ operation, before.connection.pendingOperation = some operation →
      operation.applicationTestId = none ∧ operation.kind = .discovery) :
    Identified protocol ((before.note (.uploadQueued compiledTest upload encoded)).become
      (before.connection.enqueueUpload upload encoded)) where
  registered := by
    rintro otherTest other otherEncoded ⟨moment, hmem⟩
    rcases List.mem_cons.1 hmem with heq | hmem
    · cases heq
      exact ⟨hbuilt, hencoded, .inr rfl⟩
    · obtain ⟨hbuilt', hencoded', hwhere⟩ := hidentified.registered _ _ _ ⟨moment, hmem⟩
      rw [hactive] at hwhere
      exact ⟨hbuilt', hencoded', .inl (hwhere.resolve_right fun h ↦ by cases h)⟩
  known := by
    intro other hother
    cases hother
    exact ⟨compiledTest, encoded, before.connection, List.mem_cons_self⟩
  fresh := by
    intro other hother
    cases hother
    exact hfresh
  foreign := by
    intro id hid _
    have hnone := hidentified.foreign id hid
      (by rw [Connection.activeId, hactive]; exact fun h ↦ by cases h)
    rw [Ledger.become_history, Ledger.note_history, uploadChapters, present_cons rfl,
      past_cons rfl, List.filter_eq_nil_iff]
    rw [uploadChapters, List.filter_eq_nil_iff] at hnone
    intro chapter hchapter
    rcases List.mem_cons.1 hchapter with rfl | hchapter
    · exact hnone (present before.history) List.mem_cons_self
    · exact hnone chapter (List.mem_cons_of_mem _ hchapter)
  pending := by
    intro operation hoperation
    obtain ⟨hid, hkind⟩ := hpending operation hoperation
    exact .inl ⟨hid, .inl hkind⟩
  queue := by
    intro operation hoperation
    simp only [Ledger.become_connection, Connection.enqueueUpload, hqueue, List.nil_append]
      at hoperation
    obtain ⟨hkind, hid⟩ := mem_uploadOperationsOf hoperation
    exact ⟨hkind, upload, rfl, hid⟩

end Identified

/-! ### The invariant along moves -/

namespace Identified

variable {before after : Ledger Wire}

/-- Dropping everything that is pending or queued, with the upload kept. -/
theorem of_dropped (hidentified : Identified protocol before)
    (hextends : Extends Moment.Stays before.history after.history)
    (hactive : after.connection.activeUpload = before.connection.activeUpload)
    (hretired : after.connection.retiredApplicationTestIds =
      before.connection.retiredApplicationTestIds)
    (hpending : after.connection.pendingOperation = none)
    (hqueue : ∀ operation ∈ after.connection.uploadOperations,
      operation ∈ before.connection.uploadOperations) :
    Identified protocol after := by
  refine hidentified.of_extends hextends hactive hretired (fun operation hoperation ↦ ?_) hqueue
  rw [hpending] at hoperation
  cases hoperation

/-- A connection that differs in nothing the identifiers depend on. -/
theorem of_same (hidentified : Identified protocol before)
    (hextends : Extends Moment.Stays before.history after.history)
    (hactive : after.connection.activeUpload = before.connection.activeUpload)
    (hretired : after.connection.retiredApplicationTestIds =
      before.connection.retiredApplicationTestIds)
    (hpending : after.connection.pendingOperation = before.connection.pendingOperation)
    (hqueue : after.connection.uploadOperations = before.connection.uploadOperations) :
    Identified protocol after := by
  refine hidentified.of_extends hextends hactive hretired (fun operation hoperation ↦ ?_)
    fun operation hoperation ↦ hqueue ▸ hoperation
  exact hidentified.pending operation (hpending ▸ hoperation)

/-- Progress of the pending operation. -/
theorem of_progress (hidentified : Identified protocol before)
    {operation progressed : ApplicationOperation Wire}
    (hextends : Extends Moment.Stays before.history after.history)
    (hactive : after.connection.activeUpload = before.connection.activeUpload)
    (hretired : after.connection.retiredApplicationTestIds =
      before.connection.retiredApplicationTestIds)
    (hoperation : before.connection.pendingOperation = some operation)
    (hprogressed : after.connection.pendingOperation = some progressed)
    (hrequest : operation.request = progressed.request)
    (hqueue : after.connection.uploadOperations = before.connection.uploadOperations) :
    Identified protocol after := by
  refine hidentified.of_extends hextends hactive hretired (fun other hother ↦ ?_)
    fun other hother ↦ hqueue ▸ hother
  rw [hprogressed] at hother
  cases hother
  exact admits_of_request_eq (hidentified.pending operation hoperation) hrequest

/-- A negative response retires the upload, or keeps it. -/
theorem handleNegativeResponse (hidentified : Identified protocol before)
    (operation : ApplicationOperation Wire) :
    Identified protocol
      (before.become (before.connection.release.handleNegativeResponse operation)) := by
  unfold Connection.handleNegativeResponse
  cases operation.kind with
  | discovery => exact hidentified.of_dropped (.refl _) rfl rfl rfl fun _ h ↦ by cases h
  | configuration => exact hidentified.of_retired (.refl _) rfl rfl rfl rfl
  | tick => exact hidentified.of_retired (.refl _) rfl rfl rfl rfl
  | completeTest => exact hidentified.of_retired (.refl _) rfl rfl rfl rfl
  | start =>
    simp only
    split
    · exact hidentified.of_dropped (.refl _) rfl rfl rfl fun _ h ↦ h
    · exact hidentified.of_dropped (.refl _) rfl rfl rfl fun _ h ↦ by cases h
  | abort =>
    simp only
    split
    · exact hidentified.of_dropped (.refl _) rfl rfl rfl fun _ h ↦ h
    · exact hidentified.of_dropped (.refl _) rfl rfl rfl fun _ h ↦ by cases h
  | reset =>
    simp only
    split
    · exact hidentified.of_dropped (.refl _) rfl rfl rfl fun _ h ↦ h
    · exact hidentified.of_dropped (.refl _) rfl rfl rfl fun _ h ↦ by cases h

/-- A completion retires the upload, or keeps it. -/
theorem complete (hidentified : Identified protocol before)
    (operation : ApplicationOperation Wire) :
    Identified protocol (before.become (before.connection.release.complete operation)) := by
  unfold Connection.complete
  cases operation.kind with
  | abort => exact hidentified.of_retired (.refl _) rfl rfl rfl rfl
  | reset => exact hidentified.of_retired (.refl _) rfl rfl rfl rfl
  | _ => exact hidentified.of_dropped (.refl _) rfl rfl rfl fun _ h ↦ h

/-- Activating the first queued operation. -/
theorem activateNext (hidentified : Identified protocol before)
    {next : ApplicationOperation Wire} {rest : List (ApplicationOperation Wire)}
    {connection : Connection Wire} (hqueue : before.connection.uploadOperations = next :: rest)
    (hactive : connection.activeUpload = before.connection.activeUpload)
    (hretired : connection.retiredApplicationTestIds =
      before.connection.retiredApplicationTestIds)
    (hpending : connection.pendingOperation = none)
    (hrest : connection.uploadOperations = rest) :
    Identified protocol ((before.become connection).activate next) := by
  have hbecome : Identified protocol (before.become connection) :=
    hidentified.of_dropped (.refl _) hactive hretired hpending fun operation hoperation ↦ by
      rw [Ledger.become_connection, hrest] at hoperation
      rw [hqueue]
      exact List.mem_cons_of_mem _ hoperation
  refine hbecome.activate (.inr ?_)
  obtain ⟨-, upload, hupload, hid⟩ :=
    hidentified.queue next (by rw [hqueue]; exact List.mem_cons_self)
  exact ⟨upload, hactive.trans hupload, hid⟩

/-- Finishing the pending operation keeps the invariant. -/
theorem finishes (hidentified : Identified protocol before)
    (hfinishes : Finishes protocol before after) : Identified protocol after := by
  cases hfinishes with
  | waiting hwaiting => exact hidentified
  | refused operation hpending hready herror => exact hidentified.handleNegativeResponse operation
  | completed operation hpending hready herror hkind => exact hidentified.complete operation
  | continued operation next rest hpending hready herror hkind hqueue =>
    exact hidentified.activateNext hqueue rfl rfl rfl rfl
  | uploaded operation deadline hpending hready herror hkind hqueue =>
    have hreleased : Identified protocol (before.become before.connection.release) :=
      hidentified.of_dropped (.refl _) rfl rfl rfl fun _ h ↦ h
    refine hreleased.activate (.inr ?_)
    rcases hidentified.pending operation hpending with ⟨-, hother⟩ | hupload
    · rcases hother with hother | hother <;> rw [hother] at hkind <;> cases hkind
    · exact hupload
  | startsImmediately operation upload encoded hpending hready herror hkind hactive himmediate
      hencoded =>
    refine (hidentified.complete operation).activate (.inr ⟨upload, ?_, rfl⟩)
    rw [Ledger.become_connection, Connection.complete, hkind]
    exact hactive

/-- An ignored or failing interaction stays in its chapter. -/
theorem stays_of_ignores {connection : Connection Wire} {interaction : Interaction Wire}
    (hignored : Ignores connection interaction) :
    (⟨connection, interaction⟩ : Moment Wire).Stays := by
  cases hignored <;> exact ⟨rfl, fun _ _ _ h ↦ by cases h⟩

theorem stays_of_fails {connection : Connection Wire} {interaction : Interaction Wire}
    (hfails : Fails protocol connection interaction) :
    (⟨connection, interaction⟩ : Moment Wire).Stays := by
  cases hfails <;> exact ⟨rfl, fun _ _ _ h ↦ by cases h⟩

/-- One more moment of a chapter. -/
theorem extends_note {interaction : Interaction Wire} (ledger : Ledger Wire)
    (hstays : (⟨ledger.connection, interaction⟩ : Moment Wire).Stays) :
    Extends Moment.Stays ledger.history (ledger.note interaction).history :=
  .cons hstays (.refl _)

/-- A request records itself and activates its operation. -/
theorem request (hidentified : Identified protocol before) {interaction : Interaction Wire}
    {operation : ApplicationOperation Wire}
    (hstays : (⟨before.connection, interaction⟩ : Moment Wire).Stays)
    (hadmits : before.connection.Admits operation) :
    Identified protocol ((before.note interaction).activate operation) :=
  (hidentified.of_same (extends_note before hstays) rfl rfl rfl rfl).activate hadmits

/-- A confirmation or a response only makes progress of the pending operation. -/
theorem progress_of_handles (hhandles : Handles protocol before after) :
    ∃ interaction operation progressed, after.history = (before.note interaction).history ∧
      (⟨before.connection, interaction⟩ : Moment Wire).Quiet ∧
      before.connection.pendingOperation = some operation ∧
      after.connection.pendingOperation = some progressed ∧
      operation.request = progressed.request := by
  cases hhandles with
  | confirmed operation deadline hpending hdelivery =>
    refine ⟨_, operation, _, rfl, ⟨⟨rfl, fun _ _ _ h ↦ by cases h⟩, rfl⟩, hpending, rfl, ?_⟩
    split <;> rfl
  | described operation message information hpending hkind =>
    exact ⟨_, operation, _, rfl, ⟨⟨rfl, fun _ _ _ h ↦ by cases h⟩, rfl⟩, hpending, rfl, rfl⟩
  | answered operation scope message hpending hscope hmatch =>
    exact ⟨_, operation, _, rfl, ⟨⟨rfl, fun _ _ _ h ↦ by cases h⟩, rfl⟩, hpending, rfl,
      (request_answeredBy operation message).symm⟩

/-- What a confirmation or a response leaves as it was. -/
theorem same_of_handles (hhandles : Handles protocol before after) :
    after.connection.activeUpload = before.connection.activeUpload ∧
      after.connection.retiredApplicationTestIds =
        before.connection.retiredApplicationTestIds ∧
      after.connection.uploadOperations = before.connection.uploadOperations ∧
      after.connection.uploadAccepted = before.connection.uploadAccepted ∧
      after.connection.executionStarted = before.connection.executionStarted ∧
      after.connection.workflowState = before.connection.workflowState := by
  cases hhandles <;> exact ⟨rfl, rfl, rfl, rfl, rfl, rfl⟩

/-- A confirmation or a response of the pending operation keeps the invariant. -/
theorem handles (hidentified : Identified protocol before)
    (hhandles : Handles protocol before after) : Identified protocol after := by
  obtain ⟨interaction, operation, progressed, hhistory, hquiet, hpending, hprogressed, hrequest⟩ :=
    progress_of_handles hhandles
  obtain ⟨hactive, hretired, hqueue, -⟩ := same_of_handles hhandles
  refine hidentified.of_progress ?_ hactive hretired hpending hprogressed hrequest hqueue
  rw [hhistory]
  exact extends_note before hquiet.toStays

/-- One move keeps the invariant. -/
theorem move (hidentified : Identified protocol before) (hmove : Move protocol before after) :
    Identified protocol after := by
  cases hmove with
  | serial incoming output offset => exact hidentified.of_same (.refl _) rfl rfl rfl rfl
  | ignored interaction hignored =>
    exact hidentified.of_same (extends_note before (stays_of_ignores hignored)) rfl rfl rfl rfl
  | failed interaction hfails =>
    exact hidentified.of_dropped (extends_note before (stays_of_fails hfails)) rfl rfl rfl
      fun _ h ↦ by cases h
  | timedOut operation deadline hpending hresponse hdeadline =>
    exact hidentified.of_dropped (.refl _) rfl rfl rfl fun _ h ↦ by cases h
  | bound builder hfree hid => exact hidentified.of_same (.refl _) rfl rfl rfl rfl
  | queued compiledTest attempt draws upload encoded hactive hqueue hpending hupload hfresh
      hbuilder hencoded =>
    refine hidentified.enqueue hactive hqueue ⟨attempt, draws, hupload⟩ hencoded hfresh ?_
    intro operation hoperation
    have hkind := hpending operation hoperation
    rcases hidentified.pending operation hoperation with ⟨hid, -⟩ | ⟨other, hother, -⟩
    · exact ⟨hid, hkind⟩
    · rw [hactive] at hother
      cases hother
  | starting upload encoded hactive haccepted hstate hpending hdelivery hencoded htrigger =>
    exact hidentified.request ⟨rfl, fun _ _ _ h ↦ by cases h⟩ (.inr ⟨upload, hactive, rfl⟩)
  | aborting upload encoded hactive hpending hdelivery hencoded =>
    exact hidentified.request ⟨rfl, fun _ _ _ h ↦ by cases h⟩ (.inr ⟨upload, hactive, rfl⟩)
  | resetting encoded hconfirmed hpending hdelivery hencoded =>
    exact hidentified.request ⟨rfl, fun _ _ _ h ↦ by cases h⟩ (.inl ⟨rfl, .inr rfl⟩)
  | discovering encoded hpending hconfirmed hencoded =>
    exact hidentified.activate (.inl ⟨rfl, .inl rfl⟩)
  | advancing next rest hpending hconfirmed hqueue =>
    exact hidentified.activateNext hqueue rfl rfl hpending rfl
  | submitted operation message hnext hmay =>
    exact hidentified.of_progress
      (extends_note before ⟨rfl, fun _ _ _ h ↦ by cases h⟩) rfl rfl
      (nextMessage_eq_some hnext).1 rfl rfl rfl
  | handled middle after hhandles hfinishes =>
    exact (hidentified.handles hhandles).finishes hfinishes
  | counted message hexpected hid hunbound =>
    exact hidentified.of_same (.cons ⟨rfl, fun _ _ _ h ↦ by cases h⟩
      (extends_note before ⟨rfl, fun _ _ _ h ↦ by cases h⟩)) rfl rfl rfl rfl
  | stored message builder submission result hexpected hid hbound hingested =>
    exact hidentified.of_same (.cons ⟨rfl, fun _ _ _ h ↦ by cases h⟩
      (.cons ⟨rfl, fun _ _ _ h ↦ by cases h⟩
        (extends_note before ⟨rfl, fun _ _ _ h ↦ by cases h⟩))) rfl rfl rfl rfl
  | invalidated =>
    exact hidentified.of_dropped (extends_note before ⟨rfl, fun _ _ _ h ↦ by cases h⟩)
      rfl rfl rfl fun _ h ↦ by cases h
  | established =>
    exact hidentified.of_same (extends_note before ⟨rfl, fun _ _ _ h ↦ by cases h⟩)
      rfl rfl rfl rfl

/-- One step keeps the invariant. -/
theorem step (hidentified : Identified protocol before) (hstep : Step protocol before after) :
    Identified protocol after := by
  cases hstep with
  | moved after hopen hmove => exact hidentified.move hmove
  | closing answer hopen =>
    exact hidentified.of_dropped (extends_note before ⟨rfl, fun _ _ _ h ↦ by cases h⟩)
      rfl rfl rfl fun _ h ↦ by cases h

end Identified

/-- The invariant holds for a new connection. -/
theorem identified_create (timeout : ℕ) (clock : ℕ → ℕ) (builder : Option BuilderHandle) :
    Identified protocol (Host.create timeout clock builder : Host Wire).toLedger where
  registered := by
    rintro compiledTest upload encoded ⟨moment, hmem⟩
    cases hmem
  known := by
    intro upload hupload
    cases hupload
  fresh := by
    intro upload hupload
    cases hupload
  foreign := fun _ _ _ ↦ rfl
  pending := by
    intro operation hoperation
    cases hoperation
  queue := by
    intro operation hoperation
    cases hoperation

end HilRig.Protocol
