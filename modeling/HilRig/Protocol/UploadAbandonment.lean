import HilRig.Protocol.DeliveryAttribution

/-!
# Failed uploads are abandoned

A failure drops the queued operations and the pending one and takes the upload's acceptance back; it
may keep the upload active or retire its identifier. Either way the upload is `Abandoned`: what the
connection still has pending is discovery, ABORT or RESET, and nothing can queue or accept the
upload again. `neverReplayed_run` says of every run that no identifier is queued twice and that
nothing is submitted for an upload after it failed.
-/

set_option autoImplicit false
set_option relaxedAutoImplicit false

namespace HilRig.Protocol

open HilRig.Models HilRig.Results HilRig.Foundations Relation

variable {Wire : Type} {protocol : NativeProtocol Wire}

/-! ### Queued identifiers -/

/-- The identifier of the upload an interaction queues. -/
def Interaction.queuedId : Interaction Wire → Option ℕ
  | .uploadQueued _ upload _ => some upload.id
  | _ => none

/-- The Application Test IDs of the uploads queued in a history, newest first. -/
def queuedIds (history : List (Moment Wire)) : List ℕ :=
  history.filterMap fun moment ↦ moment.interaction.queuedId

/-- Every queued identifier is that of a queued upload. -/
theorem queued_of_mem_queuedIds {history : List (Moment Wire)} {id : ℕ}
    (hid : id ∈ queuedIds history) :
    ∃ compiledTest upload encoded, Queued history compiledTest upload encoded ∧ upload.id = id := by
  obtain ⟨⟨before, interaction⟩, hmem, hqueued⟩ := List.mem_filterMap.1 hid
  cases interaction with
  | uploadQueued compiledTest upload encoded =>
    exact ⟨compiledTest, upload, encoded, ⟨before, hmem⟩, Option.some.inj hqueued⟩
  | _ => cases hqueued

/-- A move queues nothing, or one upload on a connection that has none active, with an identifier
that is not retired. -/
theorem queuedIds_of_move {before after : Ledger Wire} (hmove : Move protocol before after) :
    queuedIds after.history = queuedIds before.history ∨
      before.connection.activeUpload = none ∧ ∃ id,
        id ∉ before.connection.retiredApplicationTestIds ∧
          queuedIds after.history = id :: queuedIds before.history := by
  cases hmove with
  | ignored interaction hignored =>
    left
    cases hignored <;> rfl
  | failed interaction hfails =>
    left
    cases hfails <;> rfl
  | queued compiledTest attempt draws upload encoded hactive hqueue hpending hupload hfresh
      hbuilder hencoded => exact .inr ⟨hactive, upload.id, hfresh, rfl⟩
  | handled middle after hhandles hfinishes =>
    left
    have hmiddle : queuedIds middle.history = queuedIds before.history := by
      cases hhandles <;> rfl
    rw [← hmiddle]
    cases hfinishes <;> rfl
  | _ => exact .inl rfl

/-- No identifier is queued twice. -/
theorem nodup_queuedIds_step {before after : Ledger Wire} (hidentified : Identified protocol before)
    (hstep : Step protocol before after) (hnodup : (queuedIds before.history).Nodup) :
    (queuedIds after.history).Nodup := by
  cases hstep with
  | closing answer hopen => exact hnodup
  | moved after hopen hmove =>
    rcases queuedIds_of_move hmove with hsame | ⟨hactive, id, hfresh, hqueued⟩
    · rwa [hsame]
    · rw [hqueued, List.nodup_cons]
      refine ⟨fun hid ↦ hfresh ?_, hnodup⟩
      obtain ⟨compiledTest, upload, encoded, hupload, rfl⟩ := queued_of_mem_queuedIds hid
      obtain ⟨-, -, hwhere⟩ := hidentified.registered compiledTest upload encoded hupload
      rw [hactive] at hwhere
      exact hwhere.resolve_right fun h ↦ by cases h

/-! ### Failures -/

/-- Whether a negative response to an operation fails the upload: every one, except the rejection of
a control, which leaves the upload as it was. -/
def ApplicationOperation.failsUpload (operation : ApplicationOperation Wire) : Bool :=
  match operation.kind with
  | .start | .abort | .reset => operation.responseOutcome != some .rejected
  | _ => true

/-- A step that fails the active upload: a broken Transport, an unexpected or mismatching message, a
response that does not come, a session that is reset, or a response that refuses an operation. -/
inductive FailsUpload (protocol : NativeProtocol Wire) (before : Ledger Wire) : Ledger Wire → Prop
  | broken (interaction : Interaction Wire)
      (hfails : Fails protocol before.connection interaction) :
      FailsUpload protocol before
        ((before.note interaction).become before.connection.failWorkflow)
  | timedOut (operation : ApplicationOperation Wire) (deadline : ℕ)
      (hpending : before.connection.pendingOperation = some operation)
      (hresponse : operation.responseReceived = false)
      (hdeadline : operation.responseDeadline = some deadline) :
      FailsUpload protocol before (before.become before.connection.failWorkflow)
  | sessionReset :
      FailsUpload protocol before
        ((before.note (.event .sessionReset)).become before.connection.invalidateSession)
  | refused (middle : Ledger Wire) (operation : ApplicationOperation Wire)
      (hhandles : Handles protocol before middle)
      (hpending : middle.connection.pendingOperation = some operation)
      (hready : middle.connection.readyToFinish operation = true)
      (herror : operation.responseError.isSome) (hfatal : operation.failsUpload = true) :
      FailsUpload protocol before
        (middle.become (middle.connection.release.handleNegativeResponse operation))

/-- A failure is a move of the connection. -/
theorem FailsUpload.move {before after : Ledger Wire} (hfails : FailsUpload protocol before after) :
    Move protocol before after := by
  cases hfails with
  | broken interaction hfails => exact .failed interaction hfails
  | timedOut operation deadline hpending hresponse hdeadline =>
    exact .timedOut operation deadline hpending hresponse hdeadline
  | sessionReset => exact .invalidated
  | refused middle operation hhandles hpending hready herror hfatal =>
    exact .handled middle _ hhandles (.refused operation hpending hready herror)

/-! ### Abandoned uploads -/

/-- An active upload that has nothing queued or pending and is not accepted. -/
structure Connection.Dormant (connection : Connection Wire) (id : ℕ) : Prop where
  active : connection.activeId = some id
  queue : connection.uploadOperations = []
  accepted : connection.uploadAccepted = false
  pending : ∀ operation, connection.pendingOperation = some operation →
    operation.serves id = false

/-- An upload that was retired, or that is still active but dormant. -/
def Connection.Abandoned (connection : Connection Wire) (id : ℕ) : Prop :=
  id ∈ connection.retiredApplicationTestIds ∨ connection.Dormant id

namespace Connection.Dormant

variable {before after : Connection Wire} {id : ℕ}

theorem of_idle (hactive : after.activeId = some id) (hqueue : after.uploadOperations = [])
    (haccepted : after.uploadAccepted = false) (hpending : after.pendingOperation = none) :
    after.Dormant id where
  active := hactive
  queue := hqueue
  accepted := haccepted
  pending := by
    intro operation hoperation
    rw [hpending] at hoperation
    cases hoperation

theorem of_same (hdormant : before.Dormant id) (hactive : after.activeUpload = before.activeUpload)
    (hqueue : after.uploadOperations = before.uploadOperations)
    (haccepted : after.uploadAccepted = before.uploadAccepted)
    (hpending : after.pendingOperation = before.pendingOperation) : after.Dormant id where
  active := by
    rw [activeId, hactive]
    exact hdormant.active
  queue := hqueue.trans hdormant.queue
  accepted := haccepted.trans hdormant.accepted
  pending := fun operation hoperation ↦ hdormant.pending operation (hpending ▸ hoperation)

/-- An operation that serves no upload becomes the pending one. -/
theorem activate (hdormant : before.Dormant id) {operation : ApplicationOperation Wire}
    (hserves : operation.serves id = false) : (before.activate operation).Dormant id where
  active := hdormant.active
  queue := hdormant.queue
  accepted := hdormant.accepted
  pending := by
    intro other hother
    rw [← Option.some.inj hother]
    exact hserves

/-- The pending operation of a dormant upload's connection is discovery or a control. -/
theorem kind_of_pending (hdormant : before.Dormant id) {operation : ApplicationOperation Wire}
    (hpending : before.pendingOperation = some operation) (hadmits : before.Admits operation) :
    operation.kind = .discovery ∨ operation.kind = .abort ∨ operation.kind = .reset := by
  rcases hadmits with ⟨-, hkind | hkind⟩ | ⟨upload, hactive, hid⟩
  · exact .inl hkind
  · exact .inr (.inr hkind)
  · by_cases habort : operation.kind = .abort
    · exact .inr (.inl habort)
    · have hsame : some upload.id = some id := by
        rw [← hdormant.active, activeId, hactive]
        rfl
      have hserves := hdormant.pending operation hpending
      rw [serves_eq_true.2 ⟨hid.trans hsame, habort⟩] at hserves
      cases hserves

end Connection.Dormant

section Retired

variable {before after : Ledger Wire}

theorem retired_subset_retiredIds (connection : Connection Wire) :
    connection.retiredApplicationTestIds ⊆ connection.retiredIds := by
  unfold Connection.retiredIds
  split
  · exact Finset.subset_insert _ _
  · exact Finset.Subset.refl _

/-- Finishing an operation forgets no retired identifier. -/
theorem retired_subset_of_finishes (hfinishes : Finishes protocol before after) :
    before.connection.retiredApplicationTestIds ⊆ after.connection.retiredApplicationTestIds := by
  cases hfinishes with
  | refused operation hpending hready herror =>
    simp only [Ledger.become_connection, Connection.handleNegativeResponse]
    cases operation.kind with
    | configuration => exact retired_subset_retiredIds _
    | tick => exact retired_subset_retiredIds _
    | completeTest => exact retired_subset_retiredIds _
    | discovery => exact Finset.Subset.refl _
    | _ =>
      simp only
      split
      · exact Finset.Subset.refl _
      · exact Finset.Subset.refl _
  | completed operation hpending hready herror hkind =>
    simp only [Ledger.become_connection, Connection.complete]
    cases operation.kind with
    | abort => exact retired_subset_retiredIds _
    | reset => exact retired_subset_retiredIds _
    | _ => exact Finset.Subset.refl _
  | startsImmediately operation upload encoded hpending hready herror hkind hactive himmediate
      hencoded =>
    simp only [Ledger.activate_connection, Ledger.become_connection, Connection.complete, hkind]
    exact Finset.Subset.refl _
  | _ => exact Finset.Subset.refl _

/-- A move forgets no retired identifier. -/
theorem retired_subset_of_move (hmove : Move protocol before after) :
    before.connection.retiredApplicationTestIds ⊆ after.connection.retiredApplicationTestIds := by
  cases hmove with
  | handled middle after hhandles hfinishes =>
    have hmiddle : middle.connection.retiredApplicationTestIds =
        before.connection.retiredApplicationTestIds := by
      cases hhandles <;> rfl
    rw [← hmiddle]
    exact retired_subset_of_finishes hfinishes
  | _ => exact Finset.Subset.refl _

end Retired

namespace Connection.Abandoned

variable {before after : Ledger Wire} {id : ℕ}

/-- A failure abandons the active upload. -/
theorem of_failsUpload {upload : FixedIOUploadMessages}
    (hactive : before.connection.activeUpload = some upload)
    (hfails : FailsUpload protocol before after) : after.connection.Abandoned upload.id := by
  have hid : before.connection.activeId = some upload.id := by
    rw [activeId, hactive]
    rfl
  cases hfails with
  | broken interaction hfails => exact .inr (.of_idle hid rfl rfl rfl)
  | timedOut operation deadline hpending hresponse hdeadline =>
    exact .inr (.of_idle hid rfl rfl rfl)
  | sessionReset => exact .inr (.of_idle hid rfl rfl rfl)
  | refused middle operation hhandles hpending hready herror hfatal =>
    have hmiddle : middle.connection.release.activeId = some upload.id := by
      have hsame := (Identified.same_of_handles hhandles).1
      rw [activeId, release, hsame, hactive]
      rfl
    have hretired : upload.id ∈ middle.connection.release.retiredIds := by
      rw [retiredIds, hmiddle]
      exact Finset.mem_insert_self _ _
    have hfailed : middle.connection.release.failWorkflow.Dormant upload.id :=
      .of_idle hmiddle rfl rfl rfl
    rw [Ledger.become_connection, handleNegativeResponse]
    rw [ApplicationOperation.failsUpload] at hfatal
    cases hkind : operation.kind with
    | discovery => exact .inr hfailed
    | configuration => exact .inl hretired
    | tick => exact .inl hretired
    | completeTest => exact .inl hretired
    | _ =>
      rw [hkind] at hfatal
      simp only [bne_iff_ne, ne_eq] at hfatal
      simp only [if_neg hfatal]
      exact .inr hfailed

/-- An abandoned upload has no operation pending. -/
theorem not_serves (habandoned : before.connection.Abandoned id)
    (hidentified : Identified protocol before) {operation : ApplicationOperation Wire}
    (hpending : before.connection.pendingOperation = some operation) :
    operation.serves id = false := by
  rcases habandoned with hretired | hdormant
  · by_contra hserves
    rw [Bool.not_eq_false] at hserves
    have hid := Identified.active_of_serves (hidentified.pending operation hpending) hserves
    obtain ⟨upload, hactive, hsame⟩ := Option.map_eq_some_iff.1 hid
    apply hidentified.fresh upload hactive
    rw [FixedIOUploadMessages.id, hsame]
    exact hretired
  · exact hdormant.pending operation hpending

/-- Finishing an operation revives no upload. -/
theorem finishes (hdormant : before.connection.Dormant id)
    (hidentified : Identified protocol before) (hfinishes : Finishes protocol before after) :
    after.connection.Abandoned id := by
  have hreleased : before.connection.release.Dormant id :=
    .of_idle hdormant.active hdormant.queue hdormant.accepted rfl
  have hretired : id ∈ before.connection.release.retiredIds := by
    rw [retiredIds, hreleased.active]
    exact Finset.mem_insert_self _ _
  have hfailed : before.connection.release.failWorkflow.Dormant id :=
    .of_idle hreleased.active rfl rfl rfl
  have hkinds : ∀ {operation : ApplicationOperation Wire},
      before.connection.pendingOperation = some operation →
        operation.kind = .discovery ∨ operation.kind = .abort ∨ operation.kind = .reset :=
    fun hpending ↦ hdormant.kind_of_pending hpending (hidentified.pending _ hpending)
  cases hfinishes with
  | waiting hwaiting => exact .inr hdormant
  | refused operation hpending hready herror =>
    have hrestored : ∀ state,
        ({ before.connection.release with workflowState := state } : Connection Wire).Dormant id :=
      fun state ↦ hreleased.of_same rfl rfl rfl rfl
    rw [Ledger.become_connection, handleNegativeResponse]
    rcases hkinds hpending with hkind | hkind | hkind <;> simp only [hkind]
    · exact .inr hfailed
    · split
      · exact .inr (hrestored _)
      · exact .inr hfailed
    · split
      · exact .inr (hrestored _)
      · exact .inr hfailed
  | completed operation hpending hready herror hkind =>
    rw [Ledger.become_connection, complete]
    rcases hkinds hpending with hkind | hkind | hkind <;> simp only [hkind]
    · exact .inr (hreleased.of_same rfl rfl rfl rfl)
    · exact .inl hretired
    · exact .inl hretired
  | continued operation next rest hpending hready herror hkind hqueue =>
    rw [hdormant.queue] at hqueue
    cases hqueue
  | uploaded operation deadline hpending hready herror hkind hqueue =>
    rcases hkinds hpending with hother | hother | hother <;> rw [hother] at hkind <;> cases hkind
  | startsImmediately operation upload encoded hpending hready herror hkind hactive himmediate
      hencoded =>
    rcases hkinds hpending with hother | hother | hother <;> rw [hother] at hkind <;> cases hkind

/-- A move revives no upload. -/
theorem move (habandoned : before.connection.Abandoned id)
    (hidentified : Identified protocol before) (hmove : Move protocol before after) :
    after.connection.Abandoned id := by
  rcases habandoned with hretired | hdormant
  · exact .inl (retired_subset_of_move hmove hretired)
  have hfailed : before.connection.failWorkflow.Dormant id := .of_idle hdormant.active rfl rfl rfl
  cases hmove with
  | failed interaction hfails => exact .inr hfailed
  | timedOut operation deadline hpending hresponse hdeadline => exact .inr hfailed
  | queued compiledTest attempt draws upload encoded hactive hqueue hpending hupload hfresh
      hbuilder hencoded =>
    have hid := hdormant.active
    rw [activeId, hactive] at hid
    cases hid
  | starting upload encoded hactive haccepted hstate hpending hdelivery hencoded htrigger =>
    rw [hdormant.accepted] at haccepted
    cases haccepted
  | aborting upload encoded hactive hpending hdelivery hencoded =>
    exact .inr (hdormant.activate (by simp [ApplicationOperation.serves, abortOperation]))
  | resetting encoded hconfirmed hpending hdelivery hencoded =>
    exact .inr (hdormant.activate rfl)
  | discovering encoded hpending hconfirmed hencoded => exact .inr (hdormant.activate rfl)
  | advancing next rest hpending hconfirmed hqueue =>
    rw [hdormant.queue] at hqueue
    cases hqueue
  | submitted operation message hnext hmay =>
    refine .inr ⟨hdormant.active, hdormant.queue, hdormant.accepted, fun other hother ↦ ?_⟩
    rw [← Option.some.inj hother]
    exact hdormant.pending operation (nextMessage_eq_some hnext).1
  | handled middle after hhandles hfinishes =>
    obtain ⟨hactive, -, hqueue, haccepted, -⟩ := Identified.same_of_handles hhandles
    obtain ⟨interaction, operation, progressed, -, -, hpending, hprogressed, hrequest⟩ :=
      Identified.progress_of_handles hhandles
    refine finishes ⟨?_, hqueue.trans hdormant.queue, haccepted.trans hdormant.accepted, ?_⟩
      (hidentified.handles hhandles) hfinishes
    · rw [activeId, hactive]
      exact hdormant.active
    · intro other hother
      rw [hprogressed, Option.some.injEq] at hother
      rw [← hother, ← serves_of_request_eq id hrequest]
      exact hdormant.pending operation hpending
  | invalidated => exact .inr (.of_idle hdormant.active rfl rfl rfl)
  | _ => exact .inr (hdormant.of_same rfl rfl rfl rfl)

/-- A step revives no upload. -/
theorem step (habandoned : before.connection.Abandoned id)
    (hidentified : Identified protocol before) (hstep : Step protocol before after) :
    after.connection.Abandoned id := by
  cases hstep with
  | moved after hopen hmove => exact habandoned.move hidentified hmove
  | closing answer hopen =>
    exact habandoned.imp_right fun hdormant ↦
      .of_idle hdormant.active rfl hdormant.accepted rfl

end Connection.Abandoned

/-! ### Submissions after a failure -/

/-- A message of an upload is handed to the Transport, whatever it answers; ABORT aside. -/
def Moment.Offers (id : ℕ) (moment : Moment Wire) : Prop :=
  (∃ message status, moment.interaction = .submitted message status) ∧
    ∃ operation, moment.before.pendingOperation = some operation ∧ operation.serves id = true

/-- A history extended by moments that offer nothing of an upload. -/
def OffersNothing (id : ℕ) : List (Moment Wire) → List (Moment Wire) → Prop :=
  Extends fun moment ↦ ¬moment.Offers id

section Submissions

variable {before after : Ledger Wire} {id : ℕ}

/-- A step offers nothing of an upload that no pending operation serves. -/
theorem offersNothing_step (hstep : Step protocol before after)
    (hserves : ∀ operation, before.connection.pendingOperation = some operation →
      operation.serves id = false) : OffersNothing id before.history after.history := by
  obtain ⟨followers, first, hrecords⟩ := hstep.records
  refine ⟨followers ++ first, by rw [hrecords.history_eq, List.append_assoc], ?_⟩
  rintro moment hmoment ⟨⟨message, status, hsubmitted⟩, operation, hpending, hoperation⟩
  rcases List.mem_append.1 hmoment with hfollower | hfirst
  · have hfollows := hrecords.follows moment hfollower
    rw [hsubmitted] at hfollows
    cases hfollows
  · rcases hrecords.first_eq with hnone | ⟨interaction, hone, -⟩
    · rw [hnone] at hfirst
      cases hfirst
    · rw [hone, List.mem_singleton] at hfirst
      rw [hfirst] at hpending
      rw [hserves operation hpending] at hoperation
      cases hoperation

theorem OffersNothing.trans {older middle newer : List (Moment Wire)}
    (hfirst : OffersNothing id older middle) (hsecond : OffersNothing id middle newer) :
    OffersNothing id older newer := by
  obtain ⟨earlier, rfl, hearlier⟩ := hfirst
  obtain ⟨later, rfl, hlater⟩ := hsecond
  refine ⟨later ++ earlier, (List.append_assoc _ _ _).symm, fun moment hmoment ↦ ?_⟩
  rcases List.mem_append.1 hmoment with hmem | hmem
  · exact hlater moment hmem
  · exact hearlier moment hmem

/-- Nothing is offered of an abandoned upload, on any path. -/
theorem offersNothing_path (hpath : ReflTransGen (Step protocol) before after)
    (hsupervised : Supervised protocol before) (habandoned : before.connection.Abandoned id) :
    OffersNothing id before.history after.history := by
  have hinvariant : Supervised protocol after ∧ after.connection.Abandoned id ∧
      OffersNothing id before.history after.history := by
    induction hpath with
    | refl => exact ⟨hsupervised, habandoned, .refl _⟩
    | tail hpath hstep ih =>
      obtain ⟨hsupervised, habandoned, hoffers⟩ := ih
      refine ⟨hsupervised.step hstep, habandoned.step hsupervised.identified hstep,
        hoffers.trans (offersNothing_step hstep fun operation hpending ↦ ?_)⟩
      exact habandoned.not_serves hsupervised.identified hpending
  exact hinvariant.2.2

end Submissions

/-- In every run the identifiers of the queued uploads are pairwise distinct, and after a failure of
an upload, wherever it happens in the run, no message of its configuration, its instructions or its
STARTs is handed to the Transport again; nor is one after a call that left the upload abandoned. -/
theorem neverReplayed_run (timeout : ℕ) (clock : ℕ → ℕ) (builder : Option BuilderHandle)
    (calls : List (Call Wire)) :
    (queuedIds (run protocol (Host.create timeout clock builder) calls).history).Nodup ∧
    (∀ before after upload,
      ReflTransGen (Step protocol) (Host.create timeout clock builder).toLedger before →
      before.connection.closed = false → before.connection.activeUpload = some upload →
      FailsUpload protocol before after →
      ReflTransGen (Step protocol) after
        (run protocol (Host.create timeout clock builder) calls).toLedger →
      OffersNothing upload.id after.history
        (run protocol (Host.create timeout clock builder) calls).history) ∧
    ∀ earlier later id, calls = earlier ++ later →
      (run protocol (Host.create timeout clock builder) earlier).connection.Abandoned id →
      OffersNothing id (run protocol (Host.create timeout clock builder) earlier).history
        (run protocol (Host.create timeout clock builder) calls).history := by
  refine ⟨?_, ?_, ?_⟩
  · have hrun := @run_preserves _ protocol (fun ledger ↦
      Supervised protocol ledger ∧ (queuedIds ledger.history).Nodup)
      (Host.create timeout clock builder) (fun before after hbefore hstep ↦
        ⟨hbefore.1.step hstep, nodup_queuedIds_step hbefore.1.identified hstep hbefore.2⟩)
      ⟨.create timeout clock builder, List.nodup_nil⟩ calls
    exact hrun.2
  · intro before after upload hto hopen hactive hfails hfrom
    have hsupervised : Supervised protocol after :=
      (Supervised.of_path hto).step (.moved after hopen hfails.move)
    exact offersNothing_path hfrom hsupervised (.of_failsUpload hactive hfails)
  · intro earlier later id hcalls habandoned
    rw [hcalls, run_append]
    exact offersNothing_path (run_path _ later) (supervised_run timeout clock builder earlier)
      habandoned

/-- The delivery of a submitted configuration fails. -/
def undeliveredCalls : List (Call (OutboundMessage ⊕ InboundMessage)) :=
  connectedCalls .hostCommand ++ [.service { firstDrain := ⟨[.deliveryFailed], []⟩ }]

/-- A service pass that finds a failed delivery processes the Transport and fails the workflow. -/
theorem after_deliveryFailed {host : Host Wire} (hopen : host.connection.closed = false)
    (hempty : host.connection.incoming = []) :
    ((Call.service { firstDrain := ⟨[.deliveryFailed], []⟩ }).after protocol host).toLedger =
      ((host.toLedger.note (.processed host.connection.defaultOperatingMode .ok)).note
        (.event .deliveryFailed)).become host.connection.failWorkflow := by
  obtain ⟨⟨connection, history⟩, clock, readings⟩ := host
  obtain ⟨⟩ := connection
  simp only at hopen hempty
  subst hopen hempty
  rfl

/-- After the failed delivery an ABORT is requested and submitted, but nothing of the upload. -/
theorem neverReplayed_run_undeliveredCalls : OffersNothing 7
    (run directCodec (Host.create 5 id none) undeliveredCalls).history
    (run directCodec (Host.create 5 id none)
      (undeliveredCalls ++ [.abort, .service { submitStatus := .ok .ok }])).history := by
  have hactive : ∃ upload, (run directCodec (Host.create 5 id none)
      (connectedCalls .hostCommand)).connection.activeUpload = some upload ∧ upload.id = 7 :=
    ⟨_, rfl, rfl⟩
  have hopen : (run directCodec (Host.create 5 id none)
      (connectedCalls .hostCommand)).connection.closed = false := by decide
  have hempty : (run directCodec (Host.create 5 id none)
      (connectedCalls .hostCommand)).connection.incoming = [] := by decide
  obtain ⟨upload, hactive, hid⟩ := hactive
  have hafter := @after_deliveryFailed _ directCodec _ hopen hempty
  have hrun : run directCodec (Host.create 5 id none) undeliveredCalls =
      (Call.service { firstDrain := ⟨[.deliveryFailed], []⟩ }).after directCodec
        (run directCodec (Host.create 5 id none) (connectedCalls .hostCommand)) :=
    run_append _ _ _
  rw [← hrun] at hafter
  have hprocessed : Step directCodec
      (run directCodec (Host.create 5 id none) (connectedCalls .hostCommand)).toLedger _ :=
    .moved _ hopen (.ignored (.processed
      (run directCodec (Host.create 5 id none)
        (connectedCalls .hostCommand)).connection.defaultOperatingMode .ok)
      (.processing _ _ fun h ↦ by cases h))
  have hreplayed := (neverReplayed_run 5 id none
    (undeliveredCalls ++ [.abort, .service { submitStatus := .ok .ok }])).2.1 _ _ upload
      ((run_path _ _).tail hprocessed) hopen hactive
      (.broken (.event .deliveryFailed) .deliveryFailed)
  rw [Ledger.note_connection, ← hafter, hid, run_append] at hreplayed
  rw [run_append]
  exact hreplayed (run_path _ _)

end HilRig.Protocol
