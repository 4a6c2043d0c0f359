import HilRig.Protocol.UploadIdentity

/-!
# The operations of an upload follow its plan

The plan of an upload is its configuration, its ticks in order, the validation of the whole, and
then any number of STARTs. `Ordered` says that the operations activated for every queued upload are
a beginning of its plan and that all of them but the newest are `Passed`: submitted, delivered, and
accepted, or for a START rejected. For the active upload `Stage` ties the plan to the queue, the
pending operation and the progress flags. Every step keeps it, and `supervised_run` carries it over
every run of a new connection.
-/

set_option autoImplicit false
set_option relaxedAutoImplicit false

namespace HilRig.Protocol

open HilRig.Models HilRig.Results HilRig.Foundations

variable {Wire : Type} {protocol : NativeProtocol Wire}

/-! ### Performed operations -/

/-- The request a chapter was opened for. -/
def Chapter.request (chapter : Chapter Wire) : Option (ApplicationOperation Wire) :=
  chapter.operation.map ApplicationOperation.request

/-- The requests activated for an upload, oldest first. -/
def performed (id : ℕ) (history : List (Moment Wire)) : List (ApplicationOperation Wire) :=
  (uploadChapters id history).reverse.filterMap Chapter.request

theorem performed_activated (id : ℕ) (before : Connection Wire)
    (operation : ApplicationOperation Wire) (older : List (Moment Wire)) :
    performed id (⟨before, .activated operation⟩ :: older) =
      performed id older ++ if operation.serves id then [operation.request] else [] := by
  rw [performed, uploadChapters_activated]
  split
  · rw [List.reverse_cons, List.filterMap_append]
    rfl
  · rw [List.append_nil]
    rfl

theorem performed_extends (id : ℕ) {older newer : List (Moment Wire)}
    (hextends : Extends Moment.Within older newer) : performed id newer = performed id older := by
  have hrefl := uploadChapters_extends id (.refl older)
  rw [performed, performed, uploadChapters_extends id hextends, hrefl]
  split
  · rw [List.reverse_cons, List.reverse_cons, List.filterMap_append, List.filterMap_append,
      List.filterMap_cons, List.filterMap_cons, Chapter.request, Chapter.request,
      hextends.chapters.1]
  · rfl

/-- An upload without performed operations has no chapter. -/
theorem uploadChapters_eq_nil {id : ℕ} {history : List (Moment Wire)}
    (hperformed : performed id history = []) : uploadChapters id history = [] := by
  rw [List.eq_nil_iff_forall_not_mem]
  intro chapter hchapter
  have hserves : chapter.serves id = true := (List.mem_filter.1 hchapter).2
  rw [performed, List.filterMap_eq_nil_iff] at hperformed
  have hnone := hperformed chapter (List.mem_reverse.2 hchapter)
  cases hoperation : chapter.operation with
  | none =>
    rw [Chapter.serves, hoperation] at hserves
    cases hserves
  | some operation =>
    rw [Chapter.request, hoperation] at hnone
    cases hnone

/-! ### The plan -/

section Plan

variable (protocol)

/-- The request that an upload is validated with. -/
def validationRequest (upload : FixedIOUploadMessages) : ApplicationOperation Wire :=
  (completeTestOperation (some upload.id) 0).request

/-- A START request of an upload. -/
def IsStart (upload : FixedIOUploadMessages) (operation : ApplicationOperation Wire) : Prop :=
  ∃ encoded, protocol.encode (buildStart upload.uploadAttempt) = .ok encoded ∧
    operation = startOperation upload.id encoded

/-- The whole plan of an upload, with some number of STARTs. -/
def WholePlan (upload : FixedIOUploadMessages) (encoded : List Wire)
    (requests : List (ApplicationOperation Wire)) : Prop :=
  ∃ starts : List (ApplicationOperation Wire), (∀ start ∈ starts, IsStart protocol upload start) ∧
    requests = uploadOperationsOf upload encoded ++ validationRequest upload :: starts

/-- A beginning of the plan of an upload. -/
def InPlan (upload : FixedIOUploadMessages) (encoded : List Wire)
    (requests : List (ApplicationOperation Wire)) : Prop :=
  ∃ whole, WholePlan protocol upload encoded whole ∧ requests <+: whole

end Plan

/-- The outcome after which the plan continues: a START is repeated after a rejection. -/
def OperationKind.continuingOutcome : OperationKind → ResponseOutcome
  | .start => .rejected
  | _ => .accepted

/-- A chapter after which the plan continues. -/
def Chapter.Passed (chapter : Chapter Wire) : Prop :=
  ∃ operation, chapter.Concluded operation operation.kind.continuingOutcome

/-- Queued upload operations are their own requests. -/
theorem request_of_mem_uploadOperationsOf {upload : FixedIOUploadMessages} {encoded : List Wire}
    {operation : ApplicationOperation Wire}
    (hoperation : operation ∈ uploadOperationsOf upload encoded) :
    operation.request = operation := by
  obtain ⟨wire, rfl | ⟨tick, rfl⟩⟩ := operation_of_mem_uploadOperationsOf hoperation
  · rfl
  · rfl

/-! ### Growing histories -/

/-- A history extended within its chapter in progress, which stays concluded if it was. -/
structure Lengthens (older newer : List (Moment Wire)) : Prop where
  within : Extends Moment.Within older newer
  keeps : ∀ operation outcome, (present older).Concluded operation outcome →
    (present newer).Concluded operation outcome

/-- A lengthened history in which no upload was queued. -/
structure Grows (older newer : List (Moment Wire)) : Prop extends Lengthens older newer where
  queued : ∀ compiledTest upload encoded, Queued newer compiledTest upload encoded →
    Queued older compiledTest upload encoded

theorem Grows.refl (history : List (Moment Wire)) : Grows history history :=
  ⟨⟨.refl _, fun _ _ h ↦ h⟩, fun _ _ _ h ↦ h⟩

theorem Grows.of_quiet {older newer : List (Moment Wire)}
    (hextends : Extends Moment.Quiet older newer) : Grows older newer :=
  ⟨⟨hextends.mono fun _ h ↦ h.stays, fun _ _ h ↦ hextends.concluded h⟩,
    fun _ _ _ ↦ (queued_extends (hextends.mono fun _ h ↦ h.toStays) _ _ _).1⟩

namespace Lengthens

variable {older newer : List (Moment Wire)}

/-- Every chapter of an upload that was concluded still is one of its concluded chapters. -/
theorem concluded (hgrows : Lengthens older newer) {id : ℕ} {chapter : Chapter Wire}
    (hchapter : chapter ∈ uploadChapters id older) {operation : ApplicationOperation Wire}
    {outcome : ResponseOutcome} (hconcluded : chapter.Concluded operation outcome) :
    ∃ grown ∈ uploadChapters id newer, grown.Concluded operation outcome := by
  rw [uploadChapters_extends id (.refl older)] at hchapter
  rw [uploadChapters_extends id hgrows.within]
  split at hchapter
  · rename_i hserves
    rw [if_pos hserves]
    rcases List.mem_cons.1 hchapter with rfl | hchapter
    · exact ⟨_, List.mem_cons_self, hgrows.keeps _ _ hconcluded⟩
    · exact ⟨chapter, List.mem_cons_of_mem _ hchapter, hconcluded⟩
  · rename_i hserves
    rw [if_neg hserves]
    exact ⟨chapter, hchapter, hconcluded⟩

/-- The chapters of an upload before the newest one are as they were. -/
theorem tail (hgrows : Lengthens older newer) (id : ℕ) :
    (uploadChapters id newer).tail = (uploadChapters id older).tail ∨
      uploadChapters id newer = uploadChapters id older := by
  rw [uploadChapters_extends id hgrows.within, uploadChapters_extends id (.refl older)]
  split
  · exact .inl rfl
  · exact .inr rfl

/-- When all chapters of an upload were passed, they all are. -/
theorem passed (hgrows : Lengthens older newer) {id : ℕ}
    (hpassed : ∀ chapter ∈ uploadChapters id older, chapter.Passed) :
    ∀ chapter ∈ uploadChapters id newer, chapter.Passed := by
  rw [uploadChapters_extends id (.refl older)] at hpassed
  rw [uploadChapters_extends id hgrows.within]
  split
  · rename_i hserves
    rw [if_pos hserves] at hpassed
    intro chapter hchapter
    rcases List.mem_cons.1 hchapter with rfl | hchapter
    · obtain ⟨operation, hconcluded⟩ := hpassed _ List.mem_cons_self
      exact ⟨operation, hgrows.keeps _ _ hconcluded⟩
    · exact hpassed chapter (List.mem_cons_of_mem _ hchapter)
  · rename_i hserves
    rw [if_neg hserves] at hpassed
    exact hpassed

/-- When all but the newest chapter of an upload were passed, they all are. -/
theorem passed_tail (hgrows : Lengthens older newer) {id : ℕ}
    (hpassed : ∀ chapter ∈ (uploadChapters id older).tail, chapter.Passed) :
    ∀ chapter ∈ (uploadChapters id newer).tail, chapter.Passed := by
  rcases hgrows.tail id with htail | hsame
  · rwa [htail]
  · rwa [hsame]

end Lengthens

/-- A pending operation with a message left has not concluded its chapter. -/
theorem grows_submitted {ledger : Ledger Wire} (hattended : Attended ledger)
    {operation : ApplicationOperation Wire} {message : Wire}
    (hnext : ledger.connection.nextMessage = some (operation, message)) :
    Grows ledger.history (ledger.note (.submitted message .ok)).history := by
  have hstays : (⟨ledger.connection, .submitted message .ok⟩ : Moment Wire).Stays :=
    ⟨rfl, fun _ _ _ h ↦ by cases h⟩
  refine ⟨⟨.cons hstays.stays (.refl _), fun other outcome hconcluded ↦ ?_⟩,
    fun _ _ _ ↦ (queued_extends (.cons hstays (.refl _)) _ _ _).1⟩
  obtain ⟨hpending, hmessage⟩ := nextMessage_eq_some hnext
  have hdescribes := hattended.pending operation hpending
  obtain ⟨start, hstart, hrequest⟩ := hdescribes.origin
  have hsame : start = other := by
    have heq := hconcluded.operation_eq
    rw [hstart] at heq
    exact Option.some.inj heq
  have hsent := hconcluded.sent
  rw [hdescribes.sent, ← hsame, encodedMessages_of_request_eq hrequest] at hsent
  have hlength := congrArg List.length hsent
  have hindex := (List.getElem?_eq_some_iff.1 hmessage).1
  rw [List.length_take] at hlength
  omega

/-- The chapter of an operation that is ready to finish is concluded by a response it received. -/
theorem concluded_of_ready {ledger : Ledger Wire} (hattended : Attended ledger)
    {operation : ApplicationOperation Wire} {outcome : ResponseOutcome}
    (hpending : ledger.connection.pendingOperation = some operation)
    (hready : ledger.connection.readyToFinish operation = true)
    (hreceived : (present ledger.history).Received operation outcome) :
    ∃ start, start.request = operation.request ∧
      (present ledger.history).Concluded start outcome := by
  obtain ⟨-, hdelivery, hsubmitted⟩ := delivered_of_readyToFinish hready
  have hdescribes := hattended.pending operation hpending
  obtain ⟨start, hstart, hrequest⟩ := hdescribes.origin
  refine ⟨start, hrequest, hstart, ?_, hdescribes.delivery.trans hdelivery,
    hreceived.of_request_eq hrequest.symm⟩
  rw [ApplicationOperation.everyMessageSubmitted, beq_iff_eq] at hsubmitted
  rw [hdescribes.sent, hsubmitted, List.take_length, encodedMessages_of_request_eq hrequest]

/-! ### The invariant -/

/-- A connection that is ready to start, or becomes so again when its request is rejected. -/
def Connection.StartsNext (connection : Connection Wire) : Prop :=
  connection.workflowState = .readyToStart ∨
    ∃ operation, connection.pendingOperation = some operation ∧
      operation.previousWorkflowState = some .readyToStart

/-- Neither accepted nor started. -/
def Connection.Fresh (connection : Connection Wire) : Prop :=
  connection.uploadAccepted = false ∧ connection.executionStarted = false

/-- How far the active upload has come. -/
structure Stage (protocol : NativeProtocol Wire) (upload : FixedIOUploadMessages)
    (encoded : List Wire) (ledger : Ledger Wire) : Prop where
  accepted : ledger.connection.uploadAccepted = true →
    ledger.connection.uploadOperations = [] ∧
      WholePlan protocol upload encoded (performed upload.id ledger.history)
  uploading : ∀ operation, ledger.connection.pendingOperation = some operation →
    operation.kind.isUpload = true → ledger.connection.Fresh ∧
      performed upload.id ledger.history ++ ledger.connection.uploadOperations =
        uploadOperationsOf upload encoded
  validating : ∀ operation, ledger.connection.pendingOperation = some operation →
    operation.kind = .completeTest → ledger.connection.Fresh ∧
      ledger.connection.uploadOperations = [] ∧
      performed upload.id ledger.history =
        uploadOperationsOf upload encoded ++ [validationRequest upload]
  starting : ∀ operation, ledger.connection.pendingOperation = some operation →
    operation.kind = .start → ledger.connection.uploadAccepted = true
  waiting : ledger.connection.uploadOperations ≠ [] →
    (∃ operation, ledger.connection.pendingOperation = some operation ∧
      operation.kind.isUpload = true) ∨
    ledger.connection.Fresh ∧ performed upload.id ledger.history = [] ∧
      ledger.connection.uploadOperations = uploadOperationsOf upload encoded
  ready : ledger.connection.uploadAccepted = true → ledger.connection.StartsNext →
    ledger.connection.executionStarted = false ∧
      ∀ chapter ∈ uploadChapters upload.id ledger.history, chapter.Passed
  started : ledger.connection.executionStarted = true →
    ledger.connection.uploadAccepted = true ∧
      ∃ chapter ∈ uploadChapters upload.id ledger.history, ∃ operation,
        operation.kind = .start ∧ chapter.Concluded operation .completed

/-- The operations of an upload follow its plan, and all but the newest were passed. -/
structure Settled (protocol : NativeProtocol Wire) (upload : FixedIOUploadMessages)
    (encoded : List Wire) (history : List (Moment Wire)) : Prop where
  inPlan : InPlan protocol upload encoded (performed upload.id history)
  passed : ∀ chapter ∈ (uploadChapters upload.id history).tail, chapter.Passed

structure Ordered (protocol : NativeProtocol Wire) (ledger : Ledger Wire) : Prop where
  settled : ∀ compiledTest upload encoded,
    Queued ledger.history compiledTest upload encoded →
      Settled protocol upload encoded ledger.history
  stage : ∀ compiledTest upload encoded,
    Queued ledger.history compiledTest upload encoded →
      ledger.connection.activeUpload = some upload → Stage protocol upload encoded ledger

namespace Ordered

variable {before after : Ledger Wire}

theorem settled_grows {upload : FixedIOUploadMessages} {encoded : List Wire}
    {older newer : List (Moment Wire)} (hsettled : Settled protocol upload encoded older)
    (hgrows : Lengthens older newer) : Settled protocol upload encoded newer where
  inPlan := by
    rw [performed_extends _ hgrows.within]
    exact hsettled.inPlan
  passed := hgrows.passed_tail hsettled.passed

/-- The settled part of the invariant along a growing history. -/
theorem settled_of_grows (hordered : Ordered protocol before)
    (hgrows : Grows before.history after.history) :
    ∀ compiledTest upload encoded, Queued after.history compiledTest upload encoded →
      Settled protocol upload encoded after.history := by
  intro compiledTest upload encoded hqueued
  exact settled_grows (hordered.settled _ _ _ (hgrows.queued _ _ _ hqueued)) hgrows.toLengthens

/-- No upload stays active. -/
theorem of_retired (hordered : Ordered protocol before)
    (hgrows : Grows before.history after.history)
    (hactive : after.connection.activeUpload = none) : Ordered protocol after where
  settled := hordered.settled_of_grows hgrows
  stage := by
    intro compiledTest upload encoded _ hupload
    rw [hactive] at hupload
    cases hupload

/-- Nothing stays pending or queued, and the upload is no longer accepted or started. -/
theorem of_failed (hordered : Ordered protocol before)
    (hgrows : Grows before.history after.history)
    (hpending : after.connection.pendingOperation = none)
    (hqueue : after.connection.uploadOperations = [])
    (hfresh : after.connection.Fresh) : Ordered protocol after where
  settled := hordered.settled_of_grows hgrows
  stage := by
    intro compiledTest upload encoded hqueued hactive
    refine ⟨?_, ?_, ?_, ?_, ?_, ?_, ?_⟩
    · intro haccepted
      rw [hfresh.1] at haccepted
      cases haccepted
    · intro operation hoperation
      rw [hpending] at hoperation
      cases hoperation
    · intro operation hoperation
      rw [hpending] at hoperation
      cases hoperation
    · intro operation hoperation
      rw [hpending] at hoperation
      cases hoperation
    · intro hne
      exact absurd hqueue hne
    · intro haccepted
      rw [hfresh.1] at haccepted
      cases haccepted
    · intro hstarted
      rw [hfresh.2] at hstarted
      cases hstarted

/-- The connection differs at most in what its pending operation has made of its request, or has
dropped what was pending and queued, and it is ready to start only if it was. -/
theorem of_kept (hordered : Ordered protocol before)
    (hgrows : Grows before.history after.history)
    (hactive : after.connection.activeUpload = before.connection.activeUpload)
    (haccepted : after.connection.uploadAccepted = before.connection.uploadAccepted)
    (hstarted : after.connection.executionStarted = before.connection.executionStarted)
    (hpending : ∀ operation, after.connection.pendingOperation = some operation →
      ∃ earlier, before.connection.pendingOperation = some earlier ∧
        earlier.request = operation.request)
    (hqueue : after.connection.uploadOperations = before.connection.uploadOperations ∧
        (∀ operation, before.connection.pendingOperation = some operation →
          operation.kind.isUpload = true → after.connection.pendingOperation.isSome) ∨
      after.connection.uploadOperations = [] ∧ after.connection.pendingOperation = none)
    (hready : after.connection.StartsNext → before.connection.StartsNext) :
    Ordered protocol after where
  settled := hordered.settled_of_grows hgrows
  stage := by
    intro compiledTest upload encoded hqueued hupload
    have hstage := hordered.stage _ _ _ (hgrows.queued _ _ _ hqueued)
      (hactive ▸ hupload)
    have hfresh : before.connection.Fresh → after.connection.Fresh := by
      rintro ⟨hnotAccepted, hnotStarted⟩
      exact ⟨haccepted.trans hnotAccepted, hstarted.trans hnotStarted⟩
    have hempty : before.connection.uploadOperations = [] →
        after.connection.uploadOperations = [] := by
      intro hnil
      rcases hqueue with ⟨hsame, -⟩ | ⟨hnone, -⟩
      · rw [hsame, hnil]
      · exact hnone
    have hkept : after.connection.pendingOperation.isSome →
        after.connection.uploadOperations = before.connection.uploadOperations := by
      intro hsome
      rcases hqueue with ⟨hsame, -⟩ | ⟨-, hnone⟩
      · exact hsame
      · rw [hnone] at hsome
        cases hsome
    refine ⟨?_, ?_, ?_, ?_, ?_, ?_, ?_⟩
    · intro h
      rw [performed_extends _ hgrows.within]
      obtain ⟨hnil, hwhole⟩ := hstage.accepted (haccepted ▸ h)
      exact ⟨hempty hnil, hwhole⟩
    · intro operation hoperation hkind
      obtain ⟨earlier, hearlier, hrequest⟩ := hpending operation hoperation
      rw [performed_extends _ hgrows.within, hkept (by rw [hoperation]; rfl)]
      obtain ⟨hfresh', hplan⟩ := hstage.uploading earlier hearlier
        (by rw [kind_of_request_eq hrequest]; exact hkind)
      exact ⟨hfresh hfresh', hplan⟩
    · intro operation hoperation hkind
      obtain ⟨earlier, hearlier, hrequest⟩ := hpending operation hoperation
      rw [performed_extends _ hgrows.within]
      obtain ⟨hfresh', hnil, hplan⟩ := hstage.validating earlier hearlier
        (by rw [kind_of_request_eq hrequest]; exact hkind)
      exact ⟨hfresh hfresh', hempty hnil, hplan⟩
    · intro operation hoperation hkind
      obtain ⟨earlier, hearlier, hrequest⟩ := hpending operation hoperation
      rw [haccepted]
      exact hstage.starting earlier hearlier (by rw [kind_of_request_eq hrequest]; exact hkind)
    · intro hne
      rcases hqueue with ⟨hsame, hstill⟩ | ⟨hnone, -⟩
      · rw [hsame] at hne ⊢
        rcases hstage.waiting hne with ⟨operation, hoperation, hkind⟩ | ⟨hfresh', hplan⟩
        · obtain ⟨later, hlater⟩ := Option.isSome_iff_exists.1 (hstill operation hoperation hkind)
          obtain ⟨earlier, hearlier, hrequest⟩ := hpending later hlater
          rw [hoperation] at hearlier
          cases hearlier
          exact .inl ⟨later, hlater, by rw [← kind_of_request_eq hrequest]; exact hkind⟩
        · rw [performed_extends _ hgrows.within]
          exact .inr ⟨hfresh hfresh', hplan⟩
      · exact absurd hnone hne
    · intro h hnext
      obtain ⟨hnotStarted, hpassed⟩ := hstage.ready (haccepted ▸ h) (hready hnext)
      exact ⟨hstarted.trans hnotStarted, hgrows.passed hpassed⟩
    · intro h
      obtain ⟨haccepted', chapter, hchapter, operation, hkind, hconcluded⟩ :=
        hstage.started (hstarted ▸ h)
      obtain ⟨grown, hgrown, hcompleted⟩ := hgrows.concluded hchapter hconcluded
      exact ⟨haccepted.trans haccepted', grown, hgrown, operation, hkind, hcompleted⟩

/-- A queued upload with the active upload's identifier is the active one. -/
theorem eq_of_id_eq {ledger : Ledger Wire} (hidentified : Identified protocol ledger)
    {compiledTest : CompiledTestIR} {upload active : FixedIOUploadMessages} {encoded : List Wire}
    (hqueued : Queued ledger.history compiledTest upload encoded)
    (hactive : ledger.connection.activeUpload = some active) (hid : upload.id = active.id) :
    upload = active := by
  rcases (hidentified.registered _ _ _ hqueued).2.2 with hretired | hsame
  · exact absurd (hid ▸ hretired) (hidentified.fresh active hactive)
  · rw [hactive] at hsame
    exact (Option.some.inj hsame).symm

/-- An activation queues no upload. -/
theorem queued_activate (ledger : Ledger Wire) {operation : ApplicationOperation Wire}
    {compiledTest : CompiledTestIR} {upload : FixedIOUploadMessages} {encoded : List Wire}
    (hqueued : Queued (ledger.activate operation).history compiledTest upload encoded) :
    Queued ledger.history compiledTest upload encoded := by
  obtain ⟨moment, hmem⟩ := hqueued
  rcases List.mem_cons.1 hmem with heq | hmem
  · cases heq
  · exact ⟨moment, hmem⟩

/-- Activating an operation that serves no upload. -/
theorem activateAside (hordered : Ordered protocol before)
    {operation : ApplicationOperation Wire} (hserves : ∀ id, operation.serves id = false)
    (hpending : before.connection.pendingOperation = none)
    (hkind : operation.kind = .discovery ∨ operation.kind = .abort ∨ operation.kind = .reset)
    (hprevious : operation.previousWorkflowState = some .readyToStart →
      before.connection.workflowState = .readyToStart) :
    Ordered protocol (before.activate operation) := by
  have hperformed : ∀ id, performed id (before.activate operation).history =
      performed id before.history := by
    intro id
    rw [Ledger.activate_history, performed_activated, hserves id]
    exact List.append_nil _
  have hchapters : ∀ id, uploadChapters id (before.activate operation).history =
      uploadChapters id before.history := by
    intro id
    rw [Ledger.activate_history, uploadChapters_activated, hserves id]
    rfl
  have hother : ∀ other, (before.activate operation).connection.pendingOperation = some other →
      other.kind.isUpload = false ∧ other.kind ≠ .completeTest ∧ other.kind ≠ .start := by
    intro other hpend
    cases hpend
    rcases hkind with hkind | hkind | hkind <;> rw [hkind] <;>
      exact ⟨rfl, by decide, by decide⟩
  constructor
  · intro compiledTest upload encoded hqueued
    have hsettled := hordered.settled _ _ _ (queued_activate _ hqueued)
    refine ⟨?_, ?_⟩
    · rw [hperformed]
      exact hsettled.inPlan
    · rw [hchapters]
      exact hsettled.passed
  · intro compiledTest upload encoded hqueued hactive
    have hstage := hordered.stage _ _ _ (queued_activate _ hqueued) hactive
    refine ⟨?_, ?_, ?_, ?_, ?_, ?_, ?_⟩
    · rw [hperformed]
      exact hstage.accepted
    · intro other hpend hupload
      rw [(hother other hpend).1] at hupload
      cases hupload
    · exact fun other hpend hcomplete ↦ absurd hcomplete (hother other hpend).2.1
    · exact fun other hpend hstart ↦ absurd hstart (hother other hpend).2.2
    · intro hne
      rw [hperformed]
      rcases hstage.waiting hne with ⟨other, hpend, -⟩ | hwaiting
      · rw [hpending] at hpend
        cases hpend
      · exact .inr hwaiting
    · intro haccepted hnext
      rw [hchapters]
      refine hstage.ready haccepted (.inl ?_)
      rcases hnext with hstate | ⟨other, hpend, hstate⟩
      · have hne : operation.kind.activeState ≠ .readyToStart := by
          rcases hkind with hkind | hkind | hkind <;> rw [hkind] <;> decide
        exact absurd hstate hne
      · cases hpend
        exact hprevious hstate
    · rw [hchapters]
      exact hstage.started

/-- Activating the next planned operation of the active upload when all earlier ones were passed. -/
theorem settled_activate (hordered : Ordered protocol before)
    (hidentified : Identified protocol before) (connection : Connection Wire)
    {operation : ApplicationOperation Wire} {active : FixedIOUploadMessages}
    (hactive : before.connection.activeUpload = some active)
    (hid : operation.applicationTestId = some active.id) (hkind : operation.kind ≠ .abort)
    (hpassed : ∀ chapter ∈ uploadChapters active.id before.history, chapter.Passed)
    (hplan : ∀ compiledTest encoded, Queued before.history compiledTest active encoded →
      InPlan protocol active encoded (performed active.id before.history ++ [operation.request])) :
    ∀ compiledTest upload encoded,
      Queued ((before.become connection).activate operation).history compiledTest upload encoded →
        Settled protocol upload encoded
          ((before.become connection).activate operation).history := by
  intro compiledTest upload encoded hqueued
  have hbefore : Queued before.history compiledTest upload encoded :=
    queued_activate (before.become connection) hqueued
  have hserves : operation.serves active.id = true := serves_eq_true.2 ⟨hid, hkind⟩
  by_cases hsame : upload.id = active.id
  · obtain rfl := eq_of_id_eq hidentified hbefore hactive hsame
    refine ⟨?_, ?_⟩
    · rw [Ledger.activate_history, performed_activated, if_pos hserves]
      exact hplan _ _ hbefore
    · rw [Ledger.activate_history, uploadChapters_activated, if_pos hserves]
      exact hpassed
  · have hnot : ¬operation.serves upload.id = true := by
      intro hother
      obtain ⟨hotherId, -⟩ := serves_eq_true.1 hother
      rw [hid] at hotherId
      exact hsame (Option.some.inj hotherId).symm
    have hsettled := hordered.settled _ _ _ hbefore
    refine ⟨?_, ?_⟩
    · rw [Ledger.activate_history, performed_activated, if_neg hnot, List.append_nil]
      exact hsettled.inPlan
    · rw [Ledger.activate_history, uploadChapters_activated, if_neg hnot]
      exact hsettled.passed

/-- The performed requests after activating an operation of the active upload. -/
theorem performed_activate {ledger : Ledger Wire} {operation : ApplicationOperation Wire} {id : ℕ}
    (hid : operation.applicationTestId = some id) (hkind : operation.kind ≠ .abort) :
    performed id (ledger.activate operation).history =
      performed id ledger.history ++ [operation.request] := by
  rw [Ledger.activate_history, performed_activated, if_pos (serves_eq_true.2 ⟨hid, hkind⟩)]

/-- Activating the next upload operation. -/
theorem activateUpload (hordered : Ordered protocol before)
    (hidentified : Identified protocol before) {connection : Connection Wire}
    {next : ApplicationOperation Wire} {active : FixedIOUploadMessages}
    (hactive : before.connection.activeUpload = some active)
    (hactive' : connection.activeUpload = some active)
    (hid : next.applicationTestId = some active.id) (hkind : next.kind.isUpload = true)
    (hfresh : connection.Fresh)
    (hpassed : ∀ chapter ∈ uploadChapters active.id before.history, chapter.Passed)
    (hplan : ∀ compiledTest encoded, Queued before.history compiledTest active encoded →
      performed active.id before.history ++ next :: connection.uploadOperations =
        uploadOperationsOf active encoded) :
    Ordered protocol ((before.become connection).activate next) := by
  have habort : next.kind ≠ .abort := by
    intro h
    rw [h] at hkind
    cases hkind
  have hrequest : ∀ compiledTest encoded, Queued before.history compiledTest active encoded →
      performed active.id before.history ++ [next.request] ++ connection.uploadOperations =
        uploadOperationsOf active encoded := by
    intro compiledTest encoded hqueued
    have heq := hplan _ _ hqueued
    have hmem : next ∈ uploadOperationsOf active encoded := by
      rw [← heq]
      exact List.mem_append_right _ List.mem_cons_self
    rw [request_of_mem_uploadOperationsOf hmem, List.append_assoc, List.singleton_append, heq]
  constructor
  · refine settled_activate hordered hidentified connection hactive hid habort hpassed ?_
    intro compiledTest encoded hqueued
    refine ⟨uploadOperationsOf active encoded ++ [validationRequest active], ⟨[], ?_, rfl⟩, ?_⟩
    · intro start hstart
      cases hstart
    · rw [← hrequest _ _ hqueued, List.append_assoc]
      exact List.prefix_append _ _
  · intro compiledTest upload encoded hqueued hupload
    have hsame : upload = active := by
      rw [Ledger.activate_connection] at hupload
      exact (Option.some.inj (hactive'.symm.trans hupload)).symm
    subst hsame
    refine ⟨?_, ?_, ?_, ?_, ?_, ?_, ?_⟩
    · intro haccepted
      exact absurd haccepted (Bool.eq_false_iff.1 hfresh.1)
    · intro operation hoperation _
      cases hoperation
      refine ⟨hfresh, ?_⟩
      rw [performed_activate hid habort]
      exact hrequest _ _ (queued_activate (before.become connection) hqueued)
    · intro operation hoperation hcomplete
      cases hoperation
      rw [hcomplete] at hkind
      cases hkind
    · intro operation hoperation hstart
      cases hoperation
      rw [hstart] at hkind
      cases hkind
    · exact fun _ ↦ .inl ⟨next, rfl, hkind⟩
    · intro haccepted
      exact absurd haccepted (Bool.eq_false_iff.1 hfresh.1)
    · intro hstarted
      exact absurd hstarted (Bool.eq_false_iff.1 hfresh.2)

/-- Activating the validation of the whole upload. -/
theorem activateValidation (hordered : Ordered protocol before)
    (hidentified : Identified protocol before) {active : FixedIOUploadMessages} (deadline : ℕ)
    (hactive : before.connection.activeUpload = some active) (hfresh : before.connection.Fresh)
    (hqueue : before.connection.uploadOperations = [])
    (hpassed : ∀ chapter ∈ uploadChapters active.id before.history, chapter.Passed)
    (hplan : ∀ compiledTest encoded, Queued before.history compiledTest active encoded →
      performed active.id before.history = uploadOperationsOf active encoded) :
    Ordered protocol (before.activate (completeTestOperation (some active.id) deadline)) := by
  have habort : (completeTestOperation (some active.id) deadline :
      ApplicationOperation Wire).kind ≠ .abort := fun h ↦ by cases h
  constructor
  · refine settled_activate hordered hidentified before.connection hactive rfl habort hpassed ?_
    intro compiledTest encoded hqueued
    refine ⟨uploadOperationsOf active encoded ++ [validationRequest active], ⟨[], ?_, rfl⟩, ?_⟩
    · intro start hstart
      cases hstart
    · rw [hplan _ _ hqueued]
      exact List.prefix_rfl
  · intro compiledTest upload encoded hqueued hupload
    have hsame : upload = active := by
      rw [Ledger.activate_connection] at hupload
      exact (Option.some.inj (hactive.symm.trans hupload)).symm
    subst hsame
    refine ⟨?_, ?_, ?_, ?_, ?_, ?_, ?_⟩
    · intro haccepted
      exact absurd haccepted (Bool.eq_false_iff.1 hfresh.1)
    · intro operation hoperation hkind
      cases hoperation
      cases hkind
    · intro operation hoperation _
      cases hoperation
      refine ⟨hfresh, hqueue, ?_⟩
      rw [performed_activate rfl habort, hplan _ _ (queued_activate _ hqueued)]
      rfl
    · intro operation hoperation hstart
      cases hoperation
      cases hstart
    · exact fun hne ↦ absurd hqueue hne
    · intro haccepted
      exact absurd haccepted (Bool.eq_false_iff.1 hfresh.1)
    · intro hstarted
      exact absurd hstarted (Bool.eq_false_iff.1 hfresh.2)

/-- Activating a START of an accepted upload that is ready to start. -/
theorem activateStart (hordered : Ordered protocol before)
    (hidentified : Identified protocol before) {active : FixedIOUploadMessages} {wire : Wire}
    (hactive : before.connection.activeUpload = some active)
    (haccepted : before.connection.uploadAccepted = true)
    (hstate : before.connection.workflowState = .readyToStart)
    (hencoded : protocol.encode (buildStart active.uploadAttempt) = .ok wire) :
    Ordered protocol (before.activate (startOperation active.id wire)) := by
  have habort : (startOperation active.id wire).kind ≠ .abort := fun h ↦ by cases h
  have hstage : ∀ compiledTest encoded, Queued before.history compiledTest active encoded →
      Stage protocol active encoded before :=
    fun compiledTest encoded hqueued ↦ hordered.stage _ _ _ hqueued hactive
  have hready : before.connection.executionStarted = false ∧
      ∀ chapter ∈ uploadChapters active.id before.history, chapter.Passed := by
    obtain ⟨compiledTest, encoded, hqueued⟩ := hidentified.known active hactive
    exact (hstage _ _ hqueued).ready haccepted (.inl hstate)
  have hwhole : ∀ compiledTest encoded, Queued before.history compiledTest active encoded →
      WholePlan protocol active encoded
        (performed active.id before.history ++ [(startOperation active.id wire).request]) := by
    intro compiledTest encoded hqueued
    obtain ⟨-, starts, hstarts, heq⟩ := (hstage _ _ hqueued).accepted haccepted
    refine ⟨starts ++ [startOperation active.id wire], ?_, ?_⟩
    · intro start hstart
      rcases List.mem_append.1 hstart with hstart | hstart
      · exact hstarts start hstart
      · exact ⟨wire, hencoded, List.mem_singleton.1 hstart⟩
    · rw [heq, List.append_assoc, List.cons_append]
      rfl
  constructor
  · refine settled_activate hordered hidentified before.connection hactive rfl habort hready.2 ?_
    intro compiledTest encoded hqueued
    exact ⟨_, hwhole _ _ hqueued, List.prefix_rfl⟩
  · intro compiledTest upload encoded hqueued hupload
    have hsame : upload = active := by
      rw [Ledger.activate_connection] at hupload
      exact (Option.some.inj (hactive.symm.trans hupload)).symm
    subst hsame
    have hbefore := queued_activate _ hqueued
    refine ⟨?_, ?_, ?_, ?_, ?_, ?_, ?_⟩
    · intro _
      rw [performed_activate rfl habort]
      exact ⟨((hstage _ _ hbefore).accepted haccepted).1, hwhole _ _ hbefore⟩
    · intro operation hoperation hkind
      cases hoperation
      cases hkind
    · intro operation hoperation hkind
      cases hoperation
      cases hkind
    · exact fun _ _ _ ↦ haccepted
    · exact fun hne ↦ absurd ((hstage _ _ hbefore).accepted haccepted).1 hne
    · rintro - (hstate' | ⟨operation, hoperation, hprevious⟩)
      · cases hstate'
      · cases hoperation
        cases hprevious
    · intro hstarted
      exact absurd hstarted (Bool.eq_false_iff.1 hready.1)

/-! ### The invariant along moves -/

/-- The chapter in progress is the newest one of the upload that the pending operation serves. -/
theorem uploadChapters_of_pending {ledger : Ledger Wire} (hattended : Attended ledger)
    {operation : ApplicationOperation Wire} {id : ℕ}
    (hpending : ledger.connection.pendingOperation = some operation)
    (hserves : operation.serves id = true) :
    uploadChapters id ledger.history =
      present ledger.history :: (uploadChapters id ledger.history).tail := by
  obtain ⟨start, hstart, hrequest⟩ := (hattended.pending operation hpending).origin
  have hpresent : (present ledger.history).serves id = true := by
    rw [Chapter.serves, hstart, Option.any_some, serves_of_request_eq id hrequest]
    exact hserves
  rw [uploadChapters, List.filter_cons, if_pos hpresent, List.tail_cons]

/-- When the pending operation is ready to finish with the outcome that continues the plan, all
chapters of its upload were passed. -/
theorem passed_of_ready {ledger : Ledger Wire} (hattended : Attended ledger)
    {operation : ApplicationOperation Wire} {id : ℕ}
    (hpending : ledger.connection.pendingOperation = some operation)
    (hready : ledger.connection.readyToFinish operation = true)
    (hserves : operation.serves id = true)
    (hreceived :
      (present ledger.history).Received operation operation.kind.continuingOutcome)
    (htail : ∀ chapter ∈ (uploadChapters id ledger.history).tail, chapter.Passed) :
    ∀ chapter ∈ uploadChapters id ledger.history, chapter.Passed := by
  obtain ⟨start, hrequest, hconcluded⟩ :=
    concluded_of_ready hattended hpending hready hreceived
  rw [uploadChapters_of_pending hattended hpending hserves]
  intro chapter hchapter
  rcases List.mem_cons.1 hchapter with rfl | hchapter
  · refine ⟨start, ?_⟩
    rw [kind_of_request_eq hrequest]
    exact hconcluded
  · exact htail chapter hchapter

/-- The pending operation of an upload serves the active one. -/
theorem serves_of_pending {ledger : Ledger Wire} (hidentified : Identified protocol ledger)
    {operation : ApplicationOperation Wire}
    (hpending : ledger.connection.pendingOperation = some operation)
    (hkind : operation.kind ≠ .discovery ∧ operation.kind ≠ .reset) :
    ∃ active, ledger.connection.activeUpload = some active ∧
      operation.applicationTestId = some active.id := by
  rcases hidentified.pending operation hpending with ⟨-, hdiscovery | hreset⟩ | hactive
  · exact absurd hdiscovery hkind.1
  · exact absurd hreset hkind.2
  · exact hactive

/-- All chapters of the active upload were passed when an accepted upload operation, or the accepted
validation, is ready to finish. -/
theorem passed_of_accepted (hordered : Ordered protocol before) (hattended : Attended before)
    (hidentified : Identified protocol before) {operation : ApplicationOperation Wire}
    (hpending : before.connection.pendingOperation = some operation)
    (hready : before.connection.readyToFinish operation = true)
    (herror : operation.responseError = none)
    (hkind : operation.kind.isUpload = true ∨ operation.kind = .completeTest) :
    ∃ active, before.connection.activeUpload = some active ∧
      operation.applicationTestId = some active.id ∧
      ∀ chapter ∈ uploadChapters active.id before.history, chapter.Passed := by
  have hother : operation.kind ≠ .discovery ∧ operation.kind ≠ .reset ∧ operation.kind ≠ .abort ∧
      operation.kind.successfulOutcome = operation.kind.continuingOutcome := by
    cases hoperation : operation.kind <;> rw [hoperation] at hkind <;>
      first
        | exact ⟨by decide, by decide, by decide, rfl⟩
        | exact absurd hkind (by decide)
  obtain ⟨active, hactive, hid⟩ := serves_of_pending hidentified hpending ⟨hother.1, hother.2.1⟩
  obtain ⟨compiledTest, encoded, hqueued⟩ := hidentified.known active hactive
  refine ⟨active, hactive, hid, ?_⟩
  refine passed_of_ready hattended hpending hready (serves_eq_true.2 ⟨hid, hother.2.2.1⟩) ?_
    (hordered.settled _ _ _ hqueued).passed
  rw [← hother.2.2.2]
  exact (hattended.pending operation hpending).accepted
    (delivered_of_readyToFinish hready).1 herror hother.1

/-- A rejected START leaves the upload accepted and ready to start. -/
theorem rejectStart (hordered : Ordered protocol before) (hattended : Attended before)
    (hidentified : Identified protocol before) {operation : ApplicationOperation Wire}
    (hpending : before.connection.pendingOperation = some operation)
    (hready : before.connection.readyToFinish operation = true)
    (hkind : operation.kind = .start) (houtcome : operation.responseOutcome = some .rejected) :
    Ordered protocol (before.become { before.connection.release with
      executionStarted := false, uploadAccepted := true, workflowState := .readyToStart }) where
  settled := hordered.settled
  stage := by
    intro compiledTest upload encoded hqueued hactive
    have hstage := hordered.stage _ _ _ hqueued hactive
    obtain ⟨hnil, hwhole⟩ := hstage.accepted (hstage.starting operation hpending hkind)
    obtain ⟨active, hactive', hid⟩ := serves_of_pending hidentified hpending
      ⟨by rw [hkind]; decide, by rw [hkind]; decide⟩
    have hsame : upload = active := Option.some.inj (hactive.symm.trans hactive')
    subst hsame
    have hpassed := passed_of_ready hattended hpending hready
      (serves_eq_true.2 ⟨hid, by rw [hkind]; decide⟩)
      (by
        rw [hkind]
        exact (hattended.pending operation hpending).refused _ houtcome)
      (hordered.settled _ _ _ hqueued).passed
    refine ⟨fun _ ↦ ⟨hnil, hwhole⟩, ?_, ?_, ?_, fun hne ↦ absurd hnil hne,
      fun _ _ ↦ ⟨rfl, hpassed⟩, fun hstarted ↦ by cases hstarted⟩
    · intro other hother
      cases hother
    · intro other hother
      cases hother
    · intro other hother
      cases hother

/-- A negative response keeps the invariant. -/
theorem refuse (hordered : Ordered protocol before) (hattended : Attended before)
    (hidentified : Identified protocol before) {operation : ApplicationOperation Wire}
    (hpending : before.connection.pendingOperation = some operation)
    (hready : before.connection.readyToFinish operation = true) :
    Ordered protocol
      (before.become (before.connection.release.handleNegativeResponse operation)) := by
  have hcontrol : operation.kind.isUpload = false →
      Ordered protocol (before.become { before.connection.release with
        workflowState := operation.previousWorkflowState.getD .failed }) := by
    intro hkind
    refine hordered.of_kept (.refl _) rfl rfl rfl (fun _ h ↦ by cases h) (.inl ⟨rfl, ?_⟩) ?_
    · intro other hother hupload
      rw [hpending] at hother
      cases hother
      rw [hkind] at hupload
      cases hupload
    · rintro (hstate | ⟨other, hother, -⟩)
      · refine .inr ⟨operation, hpending, ?_⟩
        rw [Ledger.become_connection] at hstate
        cases hprevious : operation.previousWorkflowState with
        | none =>
          rw [hprevious] at hstate
          cases hstate
        | some previous =>
          rw [hprevious] at hstate
          exact congrArg some hstate
      · cases hother
  have hfailed : Ordered protocol
      (before.become before.connection.release.failWorkflow) :=
    hordered.of_failed (.refl _) rfl rfl ⟨rfl, rfl⟩
  unfold Connection.handleNegativeResponse
  cases hkind : operation.kind with
  | discovery => exact hfailed
  | configuration => exact hordered.of_retired (.refl _) rfl
  | tick => exact hordered.of_retired (.refl _) rfl
  | completeTest => exact hordered.of_retired (.refl _) rfl
  | start =>
    by_cases houtcome : operation.responseOutcome = some .rejected
    · simp only [if_pos houtcome]
      exact hordered.rejectStart hattended hidentified hpending hready hkind houtcome
    · simp only [if_neg houtcome]
      exact hfailed
  | abort =>
    by_cases houtcome : operation.responseOutcome = some .rejected
    · simp only [if_pos houtcome]
      exact hcontrol (by rw [hkind]; rfl)
    · simp only [if_neg houtcome]
      exact hfailed
  | reset =>
    by_cases houtcome : operation.responseOutcome = some .rejected
    · simp only [if_pos houtcome]
      exact hcontrol (by rw [hkind]; rfl)
    · simp only [if_neg houtcome]
      exact hfailed

/-- The accepted validation makes the upload accepted and ready to start. -/
theorem acceptUpload (hordered : Ordered protocol before) (hattended : Attended before)
    (hidentified : Identified protocol before) {operation : ApplicationOperation Wire}
    (hpending : before.connection.pendingOperation = some operation)
    (hready : before.connection.readyToFinish operation = true)
    (herror : operation.responseError = none) (hkind : operation.kind = .completeTest) :
    Ordered protocol (before.become { before.connection.release with
      uploadAccepted := true, workflowState := .readyToStart }) where
  settled := hordered.settled
  stage := by
    intro compiledTest upload encoded hqueued hactive
    obtain ⟨hfresh, hnil, hplan⟩ :=
      (hordered.stage _ _ _ hqueued hactive).validating operation hpending hkind
    obtain ⟨active, hactive', -, hpassed⟩ :=
      passed_of_accepted hordered hattended hidentified hpending hready herror (.inr hkind)
    have hsame : upload = active := Option.some.inj (hactive.symm.trans hactive')
    subst hsame
    refine ⟨fun _ ↦ ⟨hnil, [], (fun _ h ↦ by cases h), hplan⟩, ?_, ?_, ?_,
      fun hne ↦ absurd hnil hne, fun _ _ ↦ ⟨hfresh.2, hpassed⟩,
      fun hstarted ↦ absurd hstarted (Bool.eq_false_iff.1 hfresh.2)⟩
    · intro other hother
      cases hother
    · intro other hother
      cases hother
    · intro other hother
      cases hother

/-- The completed START starts the execution. -/
theorem startExecution (hordered : Ordered protocol before) (hattended : Attended before)
    (hidentified : Identified protocol before) {operation : ApplicationOperation Wire}
    (hpending : before.connection.pendingOperation = some operation)
    (hready : before.connection.readyToFinish operation = true)
    (herror : operation.responseError = none) (hkind : operation.kind = .start) :
    Ordered protocol (before.become { before.connection.release with
      executionStarted := true, workflowState := .running }) where
  settled := hordered.settled
  stage := by
    intro compiledTest upload encoded hqueued hactive
    have hstage := hordered.stage _ _ _ hqueued hactive
    have haccepted := hstage.starting operation hpending hkind
    obtain ⟨hnil, hwhole⟩ := hstage.accepted haccepted
    obtain ⟨active, hactive', hid⟩ := serves_of_pending hidentified hpending
      ⟨by rw [hkind]; decide, by rw [hkind]; decide⟩
    have hsame : upload = active := Option.some.inj (hactive.symm.trans hactive')
    subst hsame
    have hreceived := (hattended.pending operation hpending).accepted
      (delivered_of_readyToFinish hready).1 herror (by rw [hkind]; decide)
    rw [hkind] at hreceived
    obtain ⟨start, hrequest, hconcluded⟩ :=
      concluded_of_ready hattended hpending hready hreceived
    have hpresent : present before.history ∈ uploadChapters upload.id before.history := by
      rw [uploadChapters_of_pending hattended hpending
        (serves_eq_true.2 ⟨hid, by rw [hkind]; decide⟩)]
      exact List.mem_cons_self
    refine ⟨fun _ ↦ ⟨hnil, hwhole⟩, ?_, ?_, ?_, fun hne ↦ absurd hnil hne, ?_, fun _ ↦
      ⟨haccepted, _, hpresent, start, (kind_of_request_eq hrequest).trans hkind, hconcluded⟩⟩
    · intro other hother
      cases hother
    · intro other hother
      cases hother
    · intro other hother
      cases hother
    · rintro - (hstate | ⟨other, hother, -⟩)
      · cases hstate
      · cases hother

/-- A completion that activates nothing keeps the invariant. -/
theorem complete (hordered : Ordered protocol before) (hattended : Attended before)
    (hidentified : Identified protocol before) {operation : ApplicationOperation Wire}
    (hpending : before.connection.pendingOperation = some operation)
    (hready : before.connection.readyToFinish operation = true)
    (herror : operation.responseError = none) (hupload : operation.kind.isUpload = false) :
    Ordered protocol (before.become (before.connection.release.complete operation)) := by
  unfold Connection.complete
  cases hkind : operation.kind with
  | discovery =>
    refine hordered.of_kept (.refl _) rfl rfl rfl (fun _ h ↦ by cases h) (.inl ⟨rfl, ?_⟩) ?_
    · intro other hother hother'
      rw [hpending] at hother
      cases hother
      rw [hupload] at hother'
      cases hother'
    · rintro (hstate | ⟨other, hother, -⟩)
      · cases hstate
      · cases hother
  | configuration =>
    rw [hkind] at hupload
    cases hupload
  | tick =>
    rw [hkind] at hupload
    cases hupload
  | completeTest =>
    exact hordered.acceptUpload hattended hidentified hpending hready herror hkind
  | start => exact hordered.startExecution hattended hidentified hpending hready herror hkind
  | abort => exact hordered.of_retired (.refl _) rfl
  | reset => exact hordered.of_retired (.refl _) rfl

/-- Finishing the pending operation keeps the invariant. -/
theorem finishes (hordered : Ordered protocol before) (hattended : Attended before)
    (hidentified : Identified protocol before) (hfinishes : Finishes protocol before after) :
    Ordered protocol after := by
  cases hfinishes with
  | waiting hwaiting => exact hordered
  | refused operation hpending hready herror =>
    exact hordered.refuse hattended hidentified hpending hready
  | completed operation hpending hready herror hkind =>
    exact hordered.complete hattended hidentified hpending hready herror hkind
  | continued operation next rest hpending hready herror hkind hqueue =>
    obtain ⟨active, hactive, -, hpassed⟩ :=
      passed_of_accepted hordered hattended hidentified hpending hready herror (.inl hkind)
    obtain ⟨hnextKind, other, hother, hid⟩ :=
      hidentified.queue next (by rw [hqueue]; exact List.mem_cons_self)
    have hsame : other = active := Option.some.inj (hother.symm.trans hactive)
    subst hsame
    obtain ⟨compiledTest, encoded, hqueued⟩ := hidentified.known other hactive
    have hfresh := ((hordered.stage _ _ _ hqueued hactive).uploading operation hpending hkind).1
    refine hordered.activateUpload hidentified hactive hactive hid hnextKind hfresh hpassed ?_
    intro compiledTest encoded hqueued
    have hplan := ((hordered.stage _ _ _ hqueued hactive).uploading operation hpending hkind).2
    rw [hqueue] at hplan
    exact hplan
  | uploaded operation deadline hpending hready herror hkind hqueue =>
    obtain ⟨active, hactive, hid, hpassed⟩ :=
      passed_of_accepted hordered hattended hidentified hpending hready herror (.inl hkind)
    obtain ⟨compiledTest, encoded, hqueued⟩ := hidentified.known active hactive
    have hfresh := ((hordered.stage _ _ _ hqueued hactive).uploading operation hpending hkind).1
    have hreleased : Ordered protocol (before.become before.connection.release) := by
      refine hordered.of_kept (.refl _) rfl rfl rfl (fun _ h ↦ by cases h)
        (.inr ⟨hqueue, rfl⟩) ?_
      rintro (hstate | ⟨other, hother, -⟩)
      · exact .inl hstate
      · cases hother
    rw [hid]
    refine hreleased.activateValidation
      (hidentified.of_dropped (.refl _) rfl rfl rfl fun _ h ↦ h) deadline hactive hfresh hqueue
      hpassed ?_
    intro compiledTest encoded hqueued
    have hplan := ((hordered.stage _ _ _ hqueued hactive).uploading operation hpending hkind).2
    rw [hqueue, List.append_nil] at hplan
    exact hplan
  | startsImmediately operation upload encoded hpending hready herror hkind hactive himmediate
      hencoded =>
    have hupload : operation.kind.isUpload = false := by
      rw [hkind]
      rfl
    have haccepted : before.connection.release.complete operation = { before.connection.release with
        uploadAccepted := true, workflowState := .readyToStart } := by
      rw [Connection.complete, hkind]
    have hordered' := hordered.complete hattended hidentified hpending hready herror hupload
    have hidentified' := hidentified.complete operation
    rw [haccepted] at hordered' hidentified' ⊢
    exact hordered'.activateStart hidentified' hactive rfl rfl hencoded

/-- An ignored interaction is quiet. -/
theorem quiet_of_ignores {connection : Connection Wire} {interaction : Interaction Wire}
    (hignored : Ignores connection interaction) :
    (⟨connection, interaction⟩ : Moment Wire).Quiet :=
  ⟨Identified.stays_of_ignores hignored, hignored.plain.accepted⟩

/-- A failing interaction is quiet. -/
theorem quiet_of_fails {connection : Connection Wire} {interaction : Interaction Wire}
    (hfails : Fails protocol connection interaction) :
    (⟨connection, interaction⟩ : Moment Wire).Quiet := by
  refine ⟨Identified.stays_of_fails hfails, ?_⟩
  cases hfails with
  | submission operation message status hnext hmay hok hretry =>
    cases status with
    | ok => exact absurd rfl hok
    | _ => rfl
  | _ => rfl

/-- A quiet moment grows the history. -/
theorem grows_note (ledger : Ledger Wire) (interaction : Interaction Wire)
    (hquiet : (⟨ledger.connection, interaction⟩ : Moment Wire).Quiet) :
    Grows ledger.history (ledger.note interaction).history :=
  .of_quiet (.cons hquiet (.refl _))

/-- A connection with the same operations, flags and active upload, ready to start only if it was.
-/
theorem of_same (hordered : Ordered protocol before)
    (hgrows : Grows before.history after.history)
    (hactive : after.connection.activeUpload = before.connection.activeUpload)
    (haccepted : after.connection.uploadAccepted = before.connection.uploadAccepted)
    (hstarted : after.connection.executionStarted = before.connection.executionStarted)
    (hpending : after.connection.pendingOperation = before.connection.pendingOperation)
    (hqueue : after.connection.uploadOperations = before.connection.uploadOperations)
    (hstate : after.connection.workflowState = .readyToStart →
      before.connection.workflowState = .readyToStart) :
    Ordered protocol after := by
  refine hordered.of_kept hgrows hactive haccepted hstarted ?_ (.inl ⟨hqueue, ?_⟩) ?_
  · intro operation hoperation
    exact ⟨operation, hpending ▸ hoperation, rfl⟩
  · intro operation hoperation _
    rw [hpending, hoperation]
    rfl
  · rintro (hready | ⟨operation, hoperation, hprevious⟩)
    · exact .inl (hstate hready)
    · exact .inr ⟨operation, hpending ▸ hoperation, hprevious⟩

/-- Progress of the pending operation. -/
theorem of_progress (hordered : Ordered protocol before)
    (hgrows : Grows before.history after.history)
    {operation progressed : ApplicationOperation Wire}
    (hactive : after.connection.activeUpload = before.connection.activeUpload)
    (haccepted : after.connection.uploadAccepted = before.connection.uploadAccepted)
    (hstarted : after.connection.executionStarted = before.connection.executionStarted)
    (hoperation : before.connection.pendingOperation = some operation)
    (hprogressed : after.connection.pendingOperation = some progressed)
    (hrequest : operation.request = progressed.request)
    (hqueue : after.connection.uploadOperations = before.connection.uploadOperations)
    (hstate : after.connection.workflowState = before.connection.workflowState) :
    Ordered protocol after := by
  refine hordered.of_kept hgrows hactive haccepted hstarted ?_ (.inl ⟨hqueue, ?_⟩) ?_
  · intro other hother
    rw [hprogressed] at hother
    cases hother
    exact ⟨operation, hoperation, hrequest⟩
  · intro _ _ _
    rw [hprogressed]
    rfl
  · rintro (hready | ⟨other, hother, hprevious⟩)
    · exact .inl (hstate ▸ hready)
    · rw [hprogressed] at hother
      cases hother
      refine .inr ⟨operation, hoperation, ?_⟩
      have hsame : operation.request.previousWorkflowState =
          progressed.request.previousWorkflowState := by rw [hrequest]
      exact hsame.trans hprevious

/-- A request that serves no upload records itself and activates its operation. -/
theorem requestAside (hordered : Ordered protocol before) {interaction : Interaction Wire}
    {operation : ApplicationOperation Wire}
    (hquiet : (⟨before.connection, interaction⟩ : Moment Wire).Quiet)
    (hserves : ∀ id, operation.serves id = false)
    (hpending : before.connection.pendingOperation = none)
    (hkind : operation.kind = .discovery ∨ operation.kind = .abort ∨ operation.kind = .reset)
    (hprevious : operation.previousWorkflowState = some .readyToStart →
      before.connection.workflowState = .readyToStart) :
    Ordered protocol ((before.note interaction).activate operation) :=
  (hordered.of_same (grows_note before _ hquiet) rfl rfl rfl rfl rfl id).activateAside hserves
    hpending hkind hprevious

/-- Queueing an upload starts its plan. -/
theorem enqueue (hordered : Ordered protocol before) (hidentified : Identified protocol before)
    {compiledTest : CompiledTestIR} {upload : FixedIOUploadMessages} {encoded : List Wire}
    (hactive : before.connection.activeUpload = none)
    (hqueue : before.connection.uploadOperations = [])
    (hencoded : encodeUpload protocol upload = .ok encoded)
    (hfresh : upload.id ∉ before.connection.retiredApplicationTestIds)
    (hpending : ∀ operation, before.connection.pendingOperation = some operation →
      operation.kind = .discovery) :
    Ordered protocol ((before.note (.uploadQueued compiledTest upload encoded)).become
      (before.connection.enqueueUpload upload encoded)) := by
  have hnone : uploadChapters upload.id before.history = [] :=
    hidentified.foreign _ hfresh (by rw [Connection.activeId, hactive]; exact fun h ↦ by cases h)
  have hlengthens : Lengthens before.history
      (before.note (.uploadQueued compiledTest upload encoded)).history :=
    ⟨.cons rfl (.refl _), fun other outcome hconcluded ↦ hconcluded.push rfl⟩
  have hnothing : performed upload.id
      (before.note (.uploadQueued compiledTest upload encoded)).history = [] := by
    rw [performed_extends upload.id hlengthens.within, performed, hnone]
    rfl
  have hchapters := uploadChapters_eq_nil hnothing
  have hkinds : ∀ operation, before.connection.pendingOperation = some operation →
      operation.kind.isUpload = false ∧ operation.kind ≠ .completeTest ∧
        operation.kind ≠ .start := by
    intro operation hoperation
    rw [hpending operation hoperation]
    exact ⟨rfl, by decide, by decide⟩
  constructor
  · rintro otherTest other otherEncoded ⟨moment, hmem⟩
    rcases List.mem_cons.1 hmem with heq | hmem
    · cases heq
      refine ⟨⟨uploadOperationsOf upload encoded ++ [validationRequest upload], ⟨[], ?_, rfl⟩, ?_⟩,
        ?_⟩
      · intro start hstart
        cases hstart
      · rw [Ledger.become_history, hnothing]
        exact List.nil_prefix
      · rw [Ledger.become_history, hchapters]
        intro chapter hchapter
        cases hchapter
    · exact settled_grows (hordered.settled _ _ _ ⟨moment, hmem⟩) hlengthens
  · rintro otherTest other otherEncoded ⟨moment, hmem⟩ hother
    cases hother
    have hsame : otherEncoded = encoded := by
      rcases List.mem_cons.1 hmem with heq | hmem
      · cases heq
        rfl
      · have hregistered := (hidentified.registered _ _ _ ⟨moment, hmem⟩).2.1
        rw [hencoded] at hregistered
        exact (Except.ok.inj hregistered).symm
    subst hsame
    constructor
    · intro haccepted
      cases haccepted
    · intro operation hoperation hkind
      rw [(hkinds operation hoperation).1] at hkind
      cases hkind
    · exact fun operation hoperation hkind ↦ absurd hkind (hkinds operation hoperation).2.1
    · exact fun operation hoperation hkind ↦ absurd hkind (hkinds operation hoperation).2.2
    · refine fun _ ↦ .inr ⟨⟨rfl, rfl⟩, hnothing, ?_⟩
      simp only [Ledger.become_connection, Connection.enqueueUpload, hqueue, List.nil_append]
    · intro haccepted
      cases haccepted
    · intro hstarted
      cases hstarted

/-- Counting a result never makes a connection ready to start. -/
theorem countResult_readyToStart (connection : Connection Wire)
    (hstate : connection.countResult.workflowState = .readyToStart) :
    connection.workflowState = .readyToStart := by
  simp only [Connection.countResult] at hstate
  cases hactive : connection.activeUpload with
  | none =>
    rw [hactive] at hstate
    exact hstate
  | some upload =>
    simp only [hactive] at hstate
    split at hstate
    · cases hstate
    · exact hstate

/-- A confirmation or a response of the pending operation keeps the invariant. -/
theorem handles (hordered : Ordered protocol before) (hhandles : Handles protocol before after) :
    Ordered protocol after := by
  obtain ⟨interaction, operation, progressed, hhistory, hquiet, hpending, hprogressed, hrequest⟩ :=
    Identified.progress_of_handles hhandles
  obtain ⟨hactive, -, hqueue, haccepted, hstarted, hstate⟩ := Identified.same_of_handles hhandles
  refine hordered.of_progress ?_ hactive haccepted hstarted hpending hprogressed hrequest hqueue
    hstate
  rw [hhistory]
  exact grows_note before _ hquiet

/-- One move keeps the invariant. -/
theorem move (hordered : Ordered protocol before) (hattended : Attended before)
    (hidentified : Identified protocol before) (hmove : Move protocol before after) :
    Ordered protocol after := by
  cases hmove with
  | serial incoming output offset => exact hordered.of_same (.refl _) rfl rfl rfl rfl rfl id
  | ignored interaction hignored =>
    exact hordered.of_same (grows_note before _ (quiet_of_ignores hignored)) rfl rfl rfl rfl rfl id
  | failed interaction hfails =>
    exact hordered.of_failed (grows_note before _ (quiet_of_fails hfails)) rfl rfl ⟨rfl, rfl⟩
  | timedOut operation deadline hpending hresponse hdeadline =>
    exact hordered.of_failed (.refl _) rfl rfl ⟨rfl, rfl⟩
  | bound builder hfree hid => exact hordered.of_same (.refl _) rfl rfl rfl rfl rfl id
  | queued compiledTest attempt draws upload encoded hactive hqueue hpending hupload hfresh
      hbuilder hencoded =>
    exact hordered.enqueue hidentified hactive hqueue hencoded hfresh hpending
  | starting upload encoded hactive haccepted hstate hpending hdelivery hencoded htrigger =>
    have hquiet : (⟨before.connection, .startRequested⟩ : Moment Wire).Quiet :=
      ⟨⟨rfl, fun _ _ _ h ↦ by cases h⟩, rfl⟩
    have hnoted := hordered.of_same (grows_note before _ hquiet) rfl rfl rfl rfl rfl id
    exact hnoted.activateStart
      (hidentified.of_same (Identified.extends_note before hquiet.toStays) rfl rfl rfl rfl)
      hactive haccepted hstate hencoded
  | aborting upload encoded hactive hpending hdelivery hencoded =>
    refine hordered.requestAside ⟨⟨rfl, fun _ _ _ h ↦ by cases h⟩, rfl⟩ (fun id ↦ ?_) hpending
      (.inr (.inl rfl)) Option.some.inj
    rw [ApplicationOperation.serves]
    exact Bool.and_false _
  | resetting encoded hconfirmed hpending hdelivery hencoded =>
    exact hordered.requestAside ⟨⟨rfl, fun _ _ _ h ↦ by cases h⟩, rfl⟩ (fun id ↦ rfl) hpending
      (.inr (.inr rfl)) Option.some.inj
  | discovering encoded hpending hconfirmed hencoded =>
    exact hordered.activateAside (fun id ↦ rfl) hpending (.inl rfl) fun h ↦ by cases h
  | advancing next rest hpending hconfirmed hqueue =>
    obtain ⟨hnextKind, active, hactive, hid⟩ :=
      hidentified.queue next (by rw [hqueue]; exact List.mem_cons_self)
    have hwaiting : ∀ compiledTest encoded, Queued before.history compiledTest active encoded →
        before.connection.Fresh ∧ performed active.id before.history = [] ∧
          before.connection.uploadOperations = uploadOperationsOf active encoded := by
      intro compiledTest encoded hqueued
      have hstage := hordered.stage _ _ _ hqueued hactive
      rcases hstage.waiting (by rw [hqueue]; exact List.cons_ne_nil _ _) with
        ⟨operation, hoperation, -⟩ | hwaiting
      · rw [hpending] at hoperation
        cases hoperation
      · exact hwaiting
    obtain ⟨compiledTest, encoded, hqueued⟩ := hidentified.known active hactive
    refine hordered.activateUpload hidentified hactive hactive hid hnextKind
      (hwaiting _ _ hqueued).1 ?_ ?_
    · rw [uploadChapters_eq_nil (hwaiting _ _ hqueued).2.1]
      intro chapter hchapter
      cases hchapter
    · intro compiledTest encoded hqueued
      rw [(hwaiting _ _ hqueued).2.1, List.nil_append, ← (hwaiting _ _ hqueued).2.2, hqueue]
  | submitted operation message hnext hmay =>
    exact hordered.of_progress (grows_submitted hattended hnext) rfl rfl rfl
      (nextMessage_eq_some hnext).1 rfl rfl rfl rfl
  | handled middle after hhandles hfinishes =>
    exact (hordered.handles hhandles).finishes (hattended.handles hhandles)
      (hidentified.handles hhandles) hfinishes
  | counted message hexpected hid hunbound =>
    exact hordered.of_same (.of_quiet (.cons ⟨⟨rfl, fun _ _ _ h ↦ by cases h⟩, rfl⟩
      (.cons ⟨⟨rfl, fun _ _ _ h ↦ by cases h⟩, rfl⟩ (.refl _)))) rfl rfl rfl rfl rfl
      (countResult_readyToStart before.connection)
  | stored message builder submission result hexpected hid hbound hingested =>
    exact hordered.of_same (.of_quiet (.cons ⟨⟨rfl, fun _ _ _ h ↦ by cases h⟩, rfl⟩
      (.cons ⟨⟨rfl, fun _ _ _ h ↦ by cases h⟩, rfl⟩
        (.cons ⟨⟨rfl, fun _ _ _ h ↦ by cases h⟩, rfl⟩ (.refl _))))) rfl rfl rfl rfl rfl
      (countResult_readyToStart before.connection)
  | invalidated =>
    exact hordered.of_failed (grows_note before _ ⟨⟨rfl, fun _ _ _ h ↦ by cases h⟩, rfl⟩)
      rfl rfl ⟨rfl, rfl⟩
  | established =>
    exact hordered.of_same (grows_note before _ ⟨⟨rfl, fun _ _ _ h ↦ by cases h⟩, rfl⟩)
      rfl rfl rfl rfl rfl fun h ↦ by cases h

/-- One step keeps the invariant. -/
theorem step (hordered : Ordered protocol before) (hattended : Attended before)
    (hidentified : Identified protocol before) (hstep : Step protocol before after) :
    Ordered protocol after := by
  cases hstep with
  | moved after hopen hmove => exact hordered.move hattended hidentified hmove
  | closing answer hopen =>
    refine hordered.of_kept (grows_note before _ ⟨⟨rfl, fun _ _ _ h ↦ by cases h⟩, rfl⟩)
      rfl rfl rfl (fun _ h ↦ by cases h) (.inr ⟨rfl, rfl⟩) ?_
    rintro (hstate | ⟨operation, hoperation, -⟩)
    · exact .inl hstate
    · cases hoperation

end Ordered

end HilRig.Protocol
