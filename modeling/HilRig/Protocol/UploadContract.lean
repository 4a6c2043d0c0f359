import HilRig.Protocol.UploadSubmissions

/-!
# The contract of an upload

`Supervised` collects the invariants of a run, and `supervised_run` holds for every run of a new
connection. `uploadsInOrder_run` draws from it what the Transport sees of every queued upload: the
configuration, the ticks in ascending order, and then STARTs, where each message follows the
delivery of the one before and the response that lets the plan continue.
-/

set_option autoImplicit false
set_option relaxedAutoImplicit false

namespace HilRig.Protocol

open HilRig.Models HilRig.Results HilRig.Foundations Relation

variable {Wire : Type} {protocol : NativeProtocol Wire}

/-! ### Flags need an upload -/

/-- Only an active upload is accepted or started. -/
def Connection.Backed (connection : Connection Wire) : Prop :=
  connection.uploadAccepted = true ∨ connection.executionStarted = true →
    ∃ upload, connection.activeUpload = some upload

namespace Connection.Backed

variable {before after : Connection Wire}

theorem of_fresh (hfresh : after.Fresh) : after.Backed := by
  rintro (haccepted | hstarted)
  · rw [hfresh.1] at haccepted
    cases haccepted
  · rw [hfresh.2] at hstarted
    cases hstarted

theorem of_active {upload : FixedIOUploadMessages} (hactive : after.activeUpload = some upload) :
    after.Backed :=
  fun _ ↦ ⟨upload, hactive⟩

/-- The active upload of the pending operation. -/
theorem of_pending {ledger : Ledger Wire} (hidentified : Identified protocol ledger)
    {operation : ApplicationOperation Wire}
    (hpending : ledger.connection.pendingOperation = some operation)
    (hkind : operation.kind ≠ .discovery ∧ operation.kind ≠ .reset)
    (hactive : after.activeUpload = ledger.connection.activeUpload) : after.Backed := by
  obtain ⟨active, hupload, -⟩ := Ordered.serves_of_pending hidentified hpending hkind
  exact of_active (hactive.trans hupload)

theorem refuse {ledger : Ledger Wire} (hbacked : ledger.connection.Backed)
    (hidentified : Identified protocol ledger) {operation : ApplicationOperation Wire}
    (hpending : ledger.connection.pendingOperation = some operation) :
    (ledger.connection.release.handleNegativeResponse operation).Backed := by
  unfold Connection.handleNegativeResponse
  cases hkind : operation.kind with
  | discovery => exact of_fresh ⟨rfl, rfl⟩
  | configuration => exact of_fresh ⟨rfl, rfl⟩
  | tick => exact of_fresh ⟨rfl, rfl⟩
  | completeTest => exact of_fresh ⟨rfl, rfl⟩
  | start =>
    simp only
    split
    · exact of_pending hidentified hpending (by rw [hkind]; exact ⟨by decide, by decide⟩) rfl
    · exact of_fresh ⟨rfl, rfl⟩
  | abort =>
    simp only
    split
    · exact hbacked
    · exact of_fresh ⟨rfl, rfl⟩
  | reset =>
    simp only
    split
    · exact hbacked
    · exact of_fresh ⟨rfl, rfl⟩

theorem complete {ledger : Ledger Wire} (hbacked : ledger.connection.Backed)
    (hidentified : Identified protocol ledger) {operation : ApplicationOperation Wire}
    (hpending : ledger.connection.pendingOperation = some operation) :
    (ledger.connection.release.complete operation).Backed := by
  unfold Connection.complete
  cases hkind : operation.kind with
  | completeTest =>
    exact of_pending hidentified hpending (by rw [hkind]; exact ⟨by decide, by decide⟩) rfl
  | start =>
    exact of_pending hidentified hpending (by rw [hkind]; exact ⟨by decide, by decide⟩) rfl
  | abort => exact of_fresh ⟨rfl, rfl⟩
  | reset => exact of_fresh ⟨rfl, rfl⟩
  | _ => exact hbacked

theorem finishes {before after : Ledger Wire} (hbacked : before.connection.Backed)
    (hidentified : Identified protocol before) (hfinishes : Finishes protocol before after) :
    after.connection.Backed := by
  cases hfinishes with
  | refused operation hpending hready herror => exact hbacked.refuse hidentified hpending
  | completed operation hpending hready herror hkind =>
    exact hbacked.complete hidentified hpending
  | startsImmediately operation upload encoded hpending hready herror hkind hactive himmediate
      hencoded => exact hbacked.complete hidentified hpending
  | _ => exact hbacked

/-- One move keeps the flags backed. -/
theorem move {before after : Ledger Wire} (hbacked : before.connection.Backed)
    (hidentified : Identified protocol before) (hmove : Move protocol before after) :
    after.connection.Backed := by
  cases hmove with
  | handled middle after hhandles hfinishes =>
    obtain ⟨hactive, -, -, haccepted, hstarted, -⟩ := Identified.same_of_handles hhandles
    refine finishes ?_ (hidentified.handles hhandles) hfinishes
    rw [Connection.Backed, hactive, haccepted, hstarted]
    exact hbacked
  | failed interaction hfails => exact of_fresh ⟨rfl, rfl⟩
  | timedOut operation deadline hpending hresponse hdeadline => exact of_fresh ⟨rfl, rfl⟩
  | queued compiledTest attempt draws upload encoded hactive hqueue hpending hupload hfresh
      hbuilder hencoded => exact of_fresh ⟨rfl, rfl⟩
  | invalidated => exact of_fresh ⟨rfl, rfl⟩
  | _ => exact hbacked

/-- One step keeps the flags backed. -/
theorem step {before after : Ledger Wire} (hbacked : before.connection.Backed)
    (hidentified : Identified protocol before) (hstep : Step protocol before after) :
    after.connection.Backed := by
  cases hstep with
  | moved after hopen hmove => exact hbacked.move hidentified hmove
  | closing answer hopen => exact hbacked

end Connection.Backed

/-! ### All invariants of a run -/

section Supervised

variable (protocol)

structure Supervised (ledger : Ledger Wire) : Prop where
  attended : Attended ledger
  identified : Identified protocol ledger
  ordered : Ordered protocol ledger
  recorded : Recorded ledger.history
  counted : Counted ledger
  backed : ledger.connection.Backed

end Supervised

namespace Supervised

variable {before after ledger : Ledger Wire}

/-- One step keeps the invariants. -/
theorem step (hsupervised : Supervised protocol before) (hstep : Step protocol before after) :
    Supervised protocol after where
  attended := hsupervised.attended.step hstep
  identified := hsupervised.identified.step hstep
  ordered := hsupervised.ordered.step hsupervised.attended hsupervised.identified hstep
  recorded := hsupervised.recorded.step hsupervised.attended hstep
  counted := hsupervised.counted.step hsupervised.attended hsupervised.ordered
    hsupervised.identified hstep
  backed := hsupervised.backed.step hsupervised.identified hstep

/-- The invariants hold for a new connection. -/
theorem create (timeout : ℕ) (clock : ℕ → ℕ) (builder : Option BuilderHandle) :
    Supervised protocol (Host.create timeout clock builder : Host Wire).toLedger where
  attended := attended_create timeout clock builder
  identified := identified_create timeout clock builder
  ordered := by
    constructor <;> rintro compiledTest upload encoded ⟨moment, hmem⟩ <;> cases hmem
  recorded := by
    intro chapter hchapter
    rcases List.mem_singleton.1 hchapter with rfl
    refine ⟨fun operation hoperation ↦ ?_, fun moment hmoment ↦ ?_⟩
    · cases hoperation
    · cases hmoment
  counted := by
    rintro compiledTest upload encoded ⟨moment, hmem⟩
    cases hmem
  backed := .of_fresh ⟨rfl, rfl⟩

/-- The invariants hold along every path from a new connection. -/
theorem of_path {timeout : ℕ} {clock : ℕ → ℕ} {builder : Option BuilderHandle}
    (hpath : ReflTransGen (Step protocol)
      (Host.create timeout clock builder : Host Wire).toLedger ledger) :
    Supervised protocol ledger :=
  preserved_of_reflTransGen (fun _ _ hbefore hstep ↦ hbefore.step hstep) hpath
    (create timeout clock builder)

end Supervised

/-- The invariants hold after every run of a new connection. -/
theorem supervised_run (timeout : ℕ) (clock : ℕ → ℕ) (builder : Option BuilderHandle)
    (calls : List (Call Wire)) :
    Supervised protocol (run protocol (Host.create timeout clock builder) calls).toLedger :=
  .of_path (run_path _ calls)

/-! ### The order on the wire -/

section Contract

variable (protocol)

/-- A beginning of the messages of an upload followed by STARTs. -/
def OnTheWire (upload : FixedIOUploadMessages) (encoded wires : List Wire) : Prop :=
  ∃ starts, (∀ start ∈ starts, protocol.encode (buildStart upload.uploadAttempt) = .ok start) ∧
    wires <+: encoded ++ starts

/-- When a message of an operation may be handed to the Transport: it is the upload's next one, the
requests so far begin the upload's plan and end with the operation's, and the plan continued after
each of the earlier ones. -/
structure Permitted (upload : FixedIOUploadMessages) (encoded : List Wire)
    (history : List (Moment Wire)) (operation : ApplicationOperation Wire) (message : Wire) :
    Prop where
  wire : OnTheWire protocol upload encoded (submissions upload.id history ++ [message])
  inPlan : InPlan protocol upload encoded (performed upload.id history)
  newest : (performed upload.id history).getLast? = some operation.request
  passed : ∀ chapter ∈ (uploadChapters upload.id history).tail, chapter.Passed

/-- What the history of a connection shows of its uploads. -/
structure UploadsInOrder (ledger : Ledger Wire) : Prop where
  /-- The messages are those of the configuration and of the ticks, and they were accepted in order,
  each at most once, before any START. -/
  upload : ∀ compiledTest upload encoded, Queued ledger.history compiledTest upload encoded →
    upload.instructions.Pairwise (fun first second ↦ first.tickNumber < second.tickNumber) ∧
      encodeUpload protocol upload = .ok encoded ∧
      OnTheWire protocol upload encoded (submissions upload.id ledger.history)
  /-- Every message handed to the Transport, whether it was accepted or not, is one of discovery, of
  a reset, of an ABORT, or a permitted one of a queued upload. -/
  attempt : ∀ newer moment older message status,
    ledger.history = newer ++ moment :: older → moment.interaction = .submitted message status →
      ∃ operation, moment.before.pendingOperation = some operation ∧
        (operation.kind = .discovery ∨ operation.kind = .reset ∨ operation.kind = .abort ∨
          ∃ compiledTest upload encoded, Queued older compiledTest upload encoded ∧
            operation.applicationTestId = some upload.id ∧
            Permitted protocol upload encoded older operation message)
  accepted : ledger.connection.uploadAccepted = true →
    ∃ compiledTest upload encoded, Queued ledger.history compiledTest upload encoded ∧
      ledger.connection.activeUpload = some upload ∧
      encoded <+: submissions upload.id ledger.history ∧
      ledger.connection.uploadDeliveryComplete = true
  started : ledger.connection.executionStarted = true →
    ledger.connection.uploadAccepted = true ∧
      ∃ upload, ledger.connection.activeUpload = some upload ∧
        ∃ chapter ∈ uploadChapters upload.id ledger.history, ∃ operation,
          operation.kind = .start ∧ chapter.Concluded operation .completed

end Contract

/-- The messages of a whole plan are those of the upload and its STARTs. -/
theorem flatten_wholePlan {upload : FixedIOUploadMessages} {encoded : List Wire}
    {whole : List (ApplicationOperation Wire)}
    (hencoded : encodeUpload protocol upload = .ok encoded)
    (hwhole : WholePlan protocol upload encoded whole) :
    ∃ starts, (∀ start ∈ starts,
        protocol.encode (buildStart upload.uploadAttempt) = .ok start) ∧
      (whole.map ApplicationOperation.encodedMessages).flatten = encoded ++ starts := by
  obtain ⟨requests, hrequests, rfl⟩ := hwhole
  refine ⟨(requests.map ApplicationOperation.encodedMessages).flatten, ?_, ?_⟩
  · intro start hstart
    obtain ⟨messages, hmessages, hmem⟩ := List.mem_flatten.1 hstart
    obtain ⟨request, hrequest, rfl⟩ := List.mem_map.1 hmessages
    obtain ⟨wire, hwire, rfl⟩ := hrequests request hrequest
    rw [List.mem_singleton.1 hmem]
    exact hwire
  · rw [List.map_append, List.flatten_append, flatten_uploadOperationsOf hencoded]
    rfl

namespace Supervised

variable {ledger : Ledger Wire}

/-- The chapters of an upload, oldest first, are sound and have an operation, and all but the last
were passed. -/
theorem chapters (hsupervised : Supervised protocol ledger) {compiledTest : CompiledTestIR}
    {upload : FixedIOUploadMessages} {encoded : List Wire}
    (hqueued : Queued ledger.history compiledTest upload encoded) :
    (∀ chapter ∈ (uploadChapters upload.id ledger.history).reverse, chapter.Sound) ∧
      (∀ chapter ∈ (uploadChapters upload.id ledger.history).reverse,
        chapter.operation.isSome) ∧
      ∀ chapter ∈ (uploadChapters upload.id ledger.history).reverse.dropLast,
        chapter.Passed := by
  refine ⟨fun chapter hchapter ↦ ?_, fun chapter hchapter ↦ ?_, fun chapter hchapter ↦ ?_⟩
  · exact hsupervised.recorded chapter (List.mem_of_mem_filter (List.mem_reverse.1 hchapter))
  · have hserves := (List.mem_filter.1 (List.mem_reverse.1 hchapter)).2
    cases hoperation : chapter.operation with
    | none =>
      rw [Chapter.serves, hoperation] at hserves
      cases hserves
    | some operation => rfl
  · rw [List.dropLast_reverse] at hchapter
    exact (hsupervised.ordered.settled _ _ _ hqueued).passed chapter (List.mem_reverse.1 hchapter)

/-- The accepted messages of an upload are in order. -/
theorem onTheWire (hsupervised : Supervised protocol ledger) {compiledTest : CompiledTestIR}
    {upload : FixedIOUploadMessages} {encoded : List Wire}
    (hqueued : Queued ledger.history compiledTest upload encoded) :
    OnTheWire protocol upload encoded (submissions upload.id ledger.history) := by
  obtain ⟨hsound, hserved, hpassed⟩ := hsupervised.chapters hqueued
  obtain ⟨-, hencoded, -⟩ := hsupervised.identified.registered _ _ _ hqueued
  obtain ⟨whole, hwhole, hbeginning⟩ := (hsupervised.ordered.settled _ _ _ hqueued).inPlan
  obtain ⟨starts, hstarts, hflatten⟩ := flatten_wholePlan hencoded hwhole
  refine ⟨starts, hstarts, ?_⟩
  rw [submissions_eq_flatten _ _ hsupervised.recorded.attributed, ← hflatten]
  refine (flatten_sent_begins hsound hserved hpassed).trans ?_
  exact (hbeginning.map ApplicationOperation.encodedMessages).flatten

/-- A message that may be submitted is a permitted one of the active upload. -/
theorem permitted (hsupervised : Supervised protocol ledger)
    {operation : ApplicationOperation Wire} {message : Wire}
    (hnext : ledger.connection.nextMessage = some (operation, message))
    (hmay : ledger.connection.maySubmit operation) (hopen : ledger.connection.closed = false)
    (hkind : operation.kind ≠ .discovery ∧ operation.kind ≠ .reset ∧ operation.kind ≠ .abort) :
    ∃ compiledTest upload encoded, Queued ledger.history compiledTest upload encoded ∧
      operation.applicationTestId = some upload.id ∧
      Permitted protocol upload encoded ledger.history operation message := by
  obtain ⟨hpending, -⟩ := nextMessage_eq_some hnext
  obtain ⟨active, hactive, hid⟩ :=
    Ordered.serves_of_pending hsupervised.identified hpending ⟨hkind.1, hkind.2.1⟩
  obtain ⟨compiledTest, encoded, hqueued⟩ := hsupervised.identified.known active hactive
  have hserves : operation.serves active.id = true := serves_eq_true.2 ⟨hid, hkind.2.2⟩
  have hsettled := hsupervised.ordered.settled _ _ _ hqueued
  refine ⟨compiledTest, active, encoded, hqueued, hid, ?_, hsettled.inPlan, ?_, hsettled.passed⟩
  · have haccepted := hsupervised.step (.moved _ hopen (.submitted operation message hnext hmay))
    have hwire := haccepted.onTheWire (((queued_extends (.cons
      (⟨rfl, fun _ _ _ h ↦ by cases h⟩ :
        (⟨ledger.connection, .submitted message .ok⟩ : Moment Wire).Stays)
      (.refl ledger.history)) _ _ _)).2 hqueued)
    have htaken : Moment.submittedFor active.id
        (⟨ledger.connection, .submitted message .ok⟩ : Moment Wire) = some message := by
      rw [Moment.submittedFor, hpending, Option.any_some, if_pos hserves]
      rfl
    rw [Ledger.become_history, Ledger.note_history, submissions,
      List.filterMap_cons_some htaken, List.reverse_cons] at hwire
    exact hwire
  · obtain ⟨start, hstart, hrequest⟩ :=
      (hsupervised.attended.pending operation hpending).origin
    have hpresent : (present ledger.history).request = some operation.request := by
      rw [Chapter.request, hstart, Option.map_some, hrequest]
    rw [performed, Ordered.uploadChapters_of_pending hsupervised.attended hpending hserves,
      List.reverse_cons, List.filterMap_append, List.filterMap_cons_some hpresent]
    exact List.getLast?_concat

/-- What the operations before the newest one submit was all accepted. -/
theorem prefix_of_performed (hsupervised : Supervised protocol ledger)
    {compiledTest : CompiledTestIR} {upload : FixedIOUploadMessages} {encoded : List Wire}
    (hqueued : Queued ledger.history compiledTest upload encoded)
    {requests : List (ApplicationOperation Wire)}
    (hbeginning : requests <+: (performed upload.id ledger.history).dropLast) :
    (requests.map ApplicationOperation.encodedMessages).flatten <+:
      submissions upload.id ledger.history := by
  obtain ⟨-, hserved, hpassed⟩ := hsupervised.chapters hqueued
  rw [submissions_eq_flatten _ _ hsupervised.recorded.attributed]
  refine ((hbeginning.map ApplicationOperation.encodedMessages).flatten).trans ?_
  exact flatten_dropLast_begins hserved hpassed

/-- An accepted upload was submitted and delivered in full. -/
theorem accepted (hsupervised : Supervised protocol ledger)
    (haccepted : ledger.connection.uploadAccepted = true) :
    ∃ compiledTest upload encoded, Queued ledger.history compiledTest upload encoded ∧
      ledger.connection.activeUpload = some upload ∧
      encoded <+: submissions upload.id ledger.history ∧
      ledger.connection.uploadDeliveryComplete = true := by
  obtain ⟨upload, hactive⟩ := hsupervised.backed (.inl haccepted)
  obtain ⟨compiledTest, encoded, hqueued⟩ := hsupervised.identified.known upload hactive
  obtain ⟨-, hencoded, -⟩ := hsupervised.identified.registered _ _ _ hqueued
  refine ⟨compiledTest, upload, encoded, hqueued, hactive, ?_, ?_⟩
  · obtain ⟨-, starts, -, hwhole⟩ :=
      (hsupervised.ordered.stage _ _ _ hqueued hactive).accepted haccepted
    rw [← flatten_uploadOperationsOf hencoded]
    refine hsupervised.prefix_of_performed hqueued ?_
    rw [hwhole, List.dropLast_append_of_ne_nil (List.cons_ne_nil _ _)]
    exact List.prefix_append _ _
  · have htally := hsupervised.counted _ _ _ hqueued hactive
    have hlength := length_of_encodeUpload hencoded
    rw [Connection.uploadDeliveryComplete, hactive, htally.count, htally.accepted haccepted,
      hlength]
    simp

/-- A started execution has an accepted upload whose START completed. -/
theorem started (hsupervised : Supervised protocol ledger)
    (hstarted : ledger.connection.executionStarted = true) :
    ledger.connection.uploadAccepted = true ∧
      ∃ upload, ledger.connection.activeUpload = some upload ∧
        ∃ chapter ∈ uploadChapters upload.id ledger.history, ∃ operation,
          operation.kind = .start ∧ chapter.Concluded operation .completed := by
  obtain ⟨upload, hactive⟩ := hsupervised.backed (.inr hstarted)
  obtain ⟨compiledTest, encoded, hqueued⟩ := hsupervised.identified.known upload hactive
  obtain ⟨haccepted, hchapter⟩ :=
    (hsupervised.ordered.stage _ _ _ hqueued hactive).started hstarted
  exact ⟨haccepted, upload, hactive, hchapter⟩

end Supervised

/-- In every run of a new connection the messages of every upload are submitted in order, each after
the delivery and the acceptance of the one before. -/
theorem uploadsInOrder_run (timeout : ℕ) (clock : ℕ → ℕ) (builder : Option BuilderHandle)
    (calls : List (Call Wire)) :
    UploadsInOrder protocol
      (run protocol (Host.create timeout clock builder) calls).toLedger where
  upload := by
    intro compiledTest upload encoded hqueued
    have hsupervised := @supervised_run _ protocol timeout clock builder calls
    obtain ⟨⟨attempt, draws, hbuilt⟩, hencoded, -⟩ :=
      hsupervised.identified.registered _ _ _ hqueued
    exact ⟨pairwise_of_buildUpload hbuilt, hencoded, hsupervised.onTheWire hqueued⟩
  attempt := by
    intro newer moment older message status hsplit hsubmitted
    obtain ⟨next, followers, hpath, hstep, hrecords, -⟩ :=
      step_of_split (run_path _ calls) rfl hsplit (by rw [hsubmitted]; rfl)
    have hbegins : moment.before.Begins moment.interaction := by
      rcases hrecords.first_eq with hnone | ⟨interaction, hfirst, hbegins⟩
      · cases hnone
      · rw [(List.cons.inj hfirst).1]
        exact hbegins
    rw [hsubmitted] at hbegins
    obtain ⟨operation, hnext, hmay⟩ := hbegins
    refine ⟨operation, (nextMessage_eq_some hnext).1, ?_⟩
    by_cases hdiscovery : operation.kind = .discovery
    · exact .inl hdiscovery
    by_cases hreset : operation.kind = .reset
    · exact .inr (.inl hreset)
    by_cases habort : operation.kind = .abort
    · exact .inr (.inr (.inl habort))
    exact .inr (.inr (.inr
      ((Supervised.of_path hpath).permitted hnext hmay hstep.isOpen ⟨hdiscovery, hreset, habort⟩)))
  accepted := (supervised_run timeout clock builder calls).accepted
  started := (supervised_run timeout clock builder calls).started

end HilRig.Protocol
