import HilRig.Protocol.ControlRejection

/-!
# The sequence of stored results

Results are counted where they are drained and stored by the builder bound at that moment, and the
completion of the results is set from the count, overwritten by requests and failures, and restored
by rejections. `Sequenced` links the count with what was stored, and `resultsInSequence_run` is what
follows when every upload has its builder bound before its first `TestResult`.
-/

set_option autoImplicit false
set_option relaxedAutoImplicit false

namespace HilRig.Protocol

open HilRig.Models HilRig.Results HilRig.Foundations Relation

variable {Wire : Type} {protocol : NativeProtocol Wire}

/-! ### Suffixes of a history -/

section Suffixes

variable {α : Type} {value : α} {older newer values : List α}

/-- A suffix of an extended list starts in the extension or is a suffix of the list. -/
theorem mem_or_suffix_of_append (hsuffix : value :: older <:+ newer ++ values) :
    value ∈ newer ∨ value :: older <:+ values := by
  induction newer with
  | nil => exact .inr hsuffix
  | cons first newer ih =>
    rw [List.cons_append, List.suffix_cons_iff] at hsuffix
    rcases hsuffix with heq | hsuffix
    · left
      rw [(List.cons.inj heq).1]
      exact List.mem_cons_self
    · exact (ih hsuffix).imp_left (List.mem_cons_of_mem first)

/-- The oldest member with a property. -/
theorem exists_oldest {property : α → Prop} (hmem : ∃ value ∈ values, property value) :
    ∃ value older, value :: older <:+ values ∧ property value ∧
      ∀ earlier ∈ older, ¬property earlier := by
  induction values with
  | nil => simp at hmem
  | cons first values ih =>
    by_cases hearlier : ∃ value ∈ values, property value
    · obtain ⟨value, older, hsuffix, hvalue, hnone⟩ := ih hearlier
      exact ⟨value, older, hsuffix.trans (List.suffix_cons first values), hvalue, hnone⟩
    · push Not at hearlier
      obtain ⟨value, hvalue, hproperty⟩ := hmem
      rcases List.mem_cons.1 hvalue with rfl | hvalue
      · exact ⟨value, values, List.suffix_rfl, hproperty, hearlier⟩
      · exact absurd hproperty (hearlier value hvalue)

end Suffixes

/-! ### What a history shows of the results -/

/-- The tick that a moment stores in one of the selected builders. -/
def Moment.storedTick (selected : BuilderHandle → Bool) (moment : Moment Wire) : Option ℕ :=
  match moment.interaction with
  | .tickStored builder result => if selected builder then some result.tick else none
  | _ => none

/-- The ticks stored in the selected builders, oldest first. -/
def storedTicks (selected : BuilderHandle → Bool) (history : List (Moment Wire)) : List ℕ :=
  (history.filterMap (Moment.storedTick selected)).reverse

/-- The upload for which a moment receives a `TestResult`. -/
def Moment.resultFor (moment : Moment Wire) : Option FixedIOUploadMessages :=
  match moment.interaction with
  | .message (.testResult _) => moment.before.activeUpload
  | _ => none

/-- A builder made from the compiled test of a queued upload, for its attempt. -/
def BuilderFor (history : List (Moment Wire)) (upload : FixedIOUploadMessages)
    (builder : BuilderHandle) : Prop :=
  ∃ compiledTest encoded identity, Queued history compiledTest upload encoded ∧
    BuilderHandle.fromCompiledTest identity compiledTest upload.uploadAttempt = .ok builder

/-- The first `TestResult` of every upload finds a builder of that upload bound. -/
def BoundBeforeResults (history : List (Moment Wire)) : Prop :=
  ∀ moment older upload, moment :: older <:+ history → moment.resultFor = some upload →
    (∀ earlier ∈ older, earlier.resultFor ≠ some upload) →
      ∃ builder, moment.before.resultAdapter = some builder ∧ BuilderFor older upload builder

section History

variable {selected other : BuilderHandle → Bool} {history notes : List (Moment Wire)}

theorem storedTicks_cons (selected : BuilderHandle → Bool) (moment : Moment Wire)
    (history : List (Moment Wire)) :
    storedTicks selected (moment :: history) =
      storedTicks selected history ++ (moment.storedTick selected).toList := by
  unfold storedTicks
  cases htick : moment.storedTick selected with
  | none => simp [htick]
  | some tick => simp [htick]

/-- Moments that store nothing add no ticks. -/
theorem storedTicks_append
    (hnotes : ∀ moment ∈ notes, ∀ builder result, moment.interaction ≠ .tickStored builder result) :
    storedTicks selected (notes ++ history) = storedTicks selected history := by
  induction notes with
  | nil => rfl
  | cons moment notes ih =>
    rw [List.forall_mem_cons] at hnotes
    have hnone : moment.storedTick selected = none := by
      unfold Moment.storedTick
      split
      · rename_i builder result hstored
        exact absurd hstored (hnotes.1 builder result)
      · rfl
    rw [List.cons_append, storedTicks_cons, hnone, Option.toList_none, List.append_nil,
      ih hnotes.2]

/-- Selections that agree on the builders of a history select the same ticks. -/
theorem storedTicks_congr (hagree : ∀ moment ∈ history, ∀ builder result,
    moment.interaction = .tickStored builder result → selected builder = other builder) :
    storedTicks selected history = storedTicks other history := by
  unfold storedTicks
  congr 1
  apply List.filterMap_congr
  intro moment hmoment
  unfold Moment.storedTick
  split
  · rename_i builder result hstored
    rw [hagree moment hmoment builder result hstored]
  · rfl

/-- A history in which a selected builder stored something. -/
theorem mem_of_storedTicks_ne_nil (hstored : storedTicks selected history ≠ []) :
    ∃ moment ∈ history, ∃ builder result,
      moment.interaction = .tickStored builder result ∧ selected builder = true := by
  unfold storedTicks at hstored
  rw [Ne, List.reverse_eq_nil_iff] at hstored
  obtain ⟨tick, htick⟩ := List.exists_mem_of_ne_nil _ hstored
  obtain ⟨moment, hmoment, hselects⟩ := List.mem_filterMap.1 htick
  unfold Moment.storedTick at hselects
  split at hselects
  · rename_i builder result hinteraction
    refine ⟨moment, hmoment, builder, result, hinteraction, ?_⟩
    by_contra hother
    simp [hother] at hselects
  · cases hselects

theorem BuilderFor.mono {older : List (Moment Wire)} {upload : FixedIOUploadMessages}
    {builder : BuilderHandle} (hbuilder : BuilderFor older upload builder)
    (hsuffix : older <:+ history) : BuilderFor history upload builder := by
  obtain ⟨compiledTest, encoded, identity, ⟨before, hmem⟩, hmade⟩ := hbuilder
  exact ⟨compiledTest, encoded, identity, ⟨before, hsuffix.mem hmem⟩, hmade⟩

theorem BuilderFor.queued {upload : FixedIOUploadMessages} {builder : BuilderHandle}
    (hbuilder : BuilderFor history upload builder) :
    ∃ compiledTest encoded, Queued history compiledTest upload encoded := by
  obtain ⟨compiledTest, encoded, -, hqueued, -⟩ := hbuilder
  exact ⟨compiledTest, encoded, hqueued⟩

theorem BoundBeforeResults.mono {older : List (Moment Wire)} (hbound : BoundBeforeResults history)
    (hsuffix : older <:+ history) : BoundBeforeResults older :=
  fun moment earlier upload hearlier ↦ hbound moment earlier upload (hearlier.trans hsuffix)

/-- Where an upload received a result, its first one found its builder bound. -/
theorem BoundBeforeResults.first (hbound : BoundBeforeResults history)
    {upload : FixedIOUploadMessages}
    (hreceived : ∃ moment ∈ history, moment.resultFor = some upload) :
    ∃ moment older builder, moment :: older <:+ history ∧ moment.resultFor = some upload ∧
      moment.before.resultAdapter = some builder ∧ BuilderFor older upload builder := by
  obtain ⟨moment, older, hsuffix, hmoment, hearlier⟩ := exists_oldest hreceived
  obtain ⟨builder, hadapter, hbuilder⟩ := hbound moment older upload hsuffix hmoment hearlier
  exact ⟨moment, older, builder, hsuffix, hmoment, hadapter, hbuilder⟩

end History

/-- The identity of a builder made for an attempt of a compiled test. -/
theorem of_fromCompiledTest {identity : ℕ} {compiledTest : CompiledTestIR} {attempt : UploadAttempt}
    {builder : BuilderHandle}
    (hmade : BuilderHandle.fromCompiledTest identity compiledTest attempt = .ok builder) :
    builder.applicationTestId = attempt.applicationTestId ∧
      builder.expectedTickCount = compiledTest.expectedTickCount := by
  unfold BuilderHandle.fromCompiledTest at hmade
  obtain ⟨-, hmade⟩ := ite_error_eq_ok.1 hmade
  rw [← Except.ok.inj hmade]
  exact ⟨rfl, rfl⟩

theorem expectedTickCount_of_buildConfiguration {compiledTest : CompiledTestIR} {testId : TestId}
    {configurations : List ((String × ℕ) × CompiledConfiguration)}
    {configuration : TestConfiguration}
    (hbuilt : buildConfiguration compiledTest testId configurations = .ok configuration) :
    configuration.expectedTickCount = compiledTest.expectedTickCount := by
  obtain ⟨arrays, -, hbuilt⟩ := bind_eq_ok.1 hbuilt
  obtain ⟨-, hbuilt⟩ := ite_error_eq_ok.1 hbuilt
  rw [← pure_eq_ok.1 hbuilt]

/-- An upload expects as many results as its compiled test. -/
theorem expectedTickCount_of_buildUpload {compiledTest : CompiledTestIR}
    {attempt : Option UploadAttempt} {draws : List (Fin (2 ^ 128))}
    {upload : FixedIOUploadMessages}
    (hupload : buildUpload compiledTest attempt draws = .ok upload) :
    upload.configuration.expectedTickCount = compiledTest.expectedTickCount := by
  obtain ⟨chosen, -, hupload⟩ := bind_eq_ok.1 hupload
  obtain ⟨-, hupload⟩ := ite_error_eq_ok.1 hupload
  obtain ⟨configuration, hconfiguration, hupload⟩ := bind_eq_ok.1 hupload
  obtain ⟨instructions, -, hupload⟩ := bind_eq_ok.1 hupload
  rw [← pure_eq_ok.1 hupload]
  exact expectedTickCount_of_buildConfiguration hconfiguration

/-- The builder of an upload has its Application Test ID and expects as many results. -/
theorem BuilderFor.matches {ledger : Ledger Wire} {upload : FixedIOUploadMessages}
    {builder : BuilderHandle} (hbuilder : BuilderFor ledger.history upload builder)
    (hidentified : Identified protocol ledger) :
    builder.applicationTestId = upload.id ∧
      builder.expectedTickCount = upload.configuration.expectedTickCount := by
  obtain ⟨compiledTest, encoded, identity, hqueued, hmade⟩ := hbuilder
  obtain ⟨⟨attempt, draws, hbuilt⟩, -⟩ := hidentified.registered _ _ _ hqueued
  obtain ⟨hid, hexpected⟩ := of_fromCompiledTest hmade
  exact ⟨hid, hexpected.trans (expectedTickCount_of_buildUpload hbuilt).symm⟩

/-! ### The invariant -/

/-- A result stored in sequence for a `TestResult` of the active upload, whose START completed
before: the bound builder is one of that upload, and it has stored every earlier tick. -/
structure InSequence (upload : FixedIOUploadMessages) (connection : Connection Wire)
    (builder : BuilderHandle) (result : TickResult) (message : TestResult)
    (older : List (Moment Wire)) : Prop where
  active : connection.activeUpload = some upload
  started : connection.executionStarted = true
  completed : ∃ chapter ∈ uploadChapters upload.id older, ∃ operation,
    operation.kind = .start ∧ chapter.Concluded operation .completed
  bound : connection.resultAdapter = some builder
  made : BuilderFor older upload builder
  id : applicationTestIdFromBytes message.testId.bytes = .ok upload.id
  tick : message.tickNumber = result.tick
  earlier : storedTicks (· == builder) older = List.range result.tick

/-- Every stored result was stored in sequence. -/
def StoresInSequence (history : List (Moment Wire)) : Prop :=
  ∀ moment older builder result, moment :: older <:+ history →
    moment.interaction = .tickStored builder result →
      ∃ upload message rest, older = ⟨moment.before, .message (.testResult message)⟩ :: rest ∧
        InSequence upload moment.before builder result message rest

/-- What is stored and bound while an upload is active. -/
structure Receiving (ledger : Ledger Wire) (upload : FixedIOUploadMessages) : Prop where
  ticks : storedTicks (·.applicationTestId == upload.id) ledger.history =
    List.range ledger.connection.nextResultTick
  bound : ∀ moment ∈ ledger.history, moment.resultFor = some upload →
    ∃ builder, ledger.connection.resultAdapter = some builder ∧
      BuilderFor ledger.history upload builder
  builder : ∀ moment ∈ ledger.history, ∀ builder result,
    moment.interaction = .tickStored builder result → builder.applicationTestId = upload.id →
      ledger.connection.resultAdapter = some builder
  limit : ledger.connection.nextResultTick ≤ upload.configuration.expectedTickCount

/-- The ticks of an active upload were all stored by its bound builder. -/
theorem Receiving.storedBy {ledger : Ledger Wire} {upload : FixedIOUploadMessages}
    {builder : BuilderHandle} (hreceiving : Receiving ledger upload)
    (hadapter : ledger.connection.resultAdapter = some builder)
    (hid : builder.applicationTestId = upload.id) :
    storedTicks (· == builder) ledger.history = List.range ledger.connection.nextResultTick := by
  rw [← hreceiving.ticks]
  refine storedTicks_congr fun moment hmoment other result hstored ↦ ?_
  rw [Bool.eq_iff_iff, beq_iff_eq, beq_iff_eq]
  constructor
  · rintro rfl
    exact hid
  · intro hotherId
    have hother := hreceiving.builder moment hmoment other result hstored hotherId
    rw [hadapter] at hother
    exact (Option.some.inj hother).symm

/-- A connection whose results are complete, or become so by the rejection of an operation. -/
def Connection.Saves (connection : Connection Wire) : Prop :=
  connection.workflowState = .resultsComplete ∨
    ∃ operation, (connection.pendingOperation = some operation ∨
      operation ∈ connection.uploadOperations) ∧
        operation.previousWorkflowState = some .resultsComplete

/-- A connection that has counted every result of its active upload. -/
def Connection.Exhausted (connection : Connection Wire) : Prop :=
  ∃ upload, connection.activeUpload = some upload ∧
    connection.nextResultTick = upload.configuration.expectedTickCount ∧
    0 < connection.nextResultTick

/-- A connection that keeps its upload, builder and count, or drops the upload, and completes no
results. -/
def Connection.Keeps (before after : Connection Wire) : Prop :=
  (after.activeUpload = before.activeUpload ∧ after.resultAdapter = before.resultAdapter ∧
    after.nextResultTick = before.nextResultTick ∧ (after.Saves → before.Saves)) ∨
  (after.activeUpload = none ∧ ¬after.Saves)

structure Sequenced (ledger : Ledger Wire) : Prop where
  stored : StoresInSequence ledger.history
  answered : ∀ moment ∈ ledger.history, ∀ upload, moment.resultFor = some upload →
    ∃ compiledTest encoded, Queued ledger.history compiledTest upload encoded
  receiving : ∀ upload, ledger.connection.activeUpload = some upload → Receiving ledger upload
  exhausted : ledger.connection.Saves → ledger.connection.Exhausted

/-- A builder with stored results is one of a queued upload. -/
theorem StoresInSequence.builderFor {history : List (Moment Wire)}
    (hstores : StoresInSequence history)
    {moment : Moment Wire} (hmoment : moment ∈ history) {builder : BuilderHandle}
    {result : TickResult} (hstored : moment.interaction = .tickStored builder result) :
    ∃ upload, BuilderFor history upload builder := by
  obtain ⟨newer, older, hsplit⟩ := List.append_of_mem hmoment
  have hsuffix : moment :: older <:+ history := ⟨newer, hsplit.symm⟩
  obtain ⟨upload, message, rest, rfl, hin⟩ := hstores _ _ _ _ hsuffix hstored
  have hrest : rest <:+ history :=
    ((List.suffix_cons _ rest).trans (List.suffix_cons moment _)).trans hsuffix
  exact ⟨upload, hin.made.mono hrest⟩

/-- A moment that stores nothing, and receives results at most at a given connection. -/
structure Moment.PlainAt (connection : Connection Wire) (moment : Moment Wire) : Prop where
  notStored : ∀ builder result, moment.interaction ≠ .tickStored builder result
  receives : ∀ upload, moment.resultFor = some upload → moment.before = connection

theorem plainAt_note {connection : Connection Wire} {interaction : Interaction Wire}
    (hplain : ∀ builder result, interaction ≠ .tickStored builder result) :
    (⟨connection, interaction⟩ : Moment Wire).PlainAt connection :=
  ⟨hplain, fun _ _ ↦ rfl⟩

theorem plainAt_activated (connection before : Connection Wire)
    (operation : ApplicationOperation Wire) :
    (⟨before, .activated operation⟩ : Moment Wire).PlainAt connection := by
  constructor
  · simp
  · intro upload hupload
    cases hupload

/-- A moment that receives a result has its upload active. -/
theorem activeUpload_of_resultFor {moment : Moment Wire} {upload : FixedIOUploadMessages}
    (hupload : moment.resultFor = some upload) : moment.before.activeUpload = some upload := by
  unfold Moment.resultFor at hupload
  split at hupload
  · exact hupload
  · cases hupload

namespace Sequenced

variable {before after : Ledger Wire} {notes : List (Moment Wire)}
  {upload : FixedIOUploadMessages} {builder : BuilderHandle}

section Plain

variable (hsequenced : Sequenced before) (hidentified : Identified protocol before)
  (hnotes : after.history = notes ++ before.history)
  (hplain : ∀ moment ∈ notes, moment.PlainAt before.connection)

include hnotes hplain

theorem storedTicks_eq (selected : BuilderHandle → Bool) :
    storedTicks selected after.history = storedTicks selected before.history := by
  rw [hnotes]
  exact storedTicks_append fun moment hmoment ↦ (hplain moment hmoment).notStored

theorem suffix_of_stored {moment : Moment Wire} {older : List (Moment Wire)} {result : TickResult}
    (hsuffix : moment :: older <:+ after.history)
    (hstored : moment.interaction = .tickStored builder result) :
    moment :: older <:+ before.history := by
  rw [hnotes] at hsuffix
  refine (mem_or_suffix_of_append hsuffix).resolve_left fun hmem ↦ ?_
  exact (hplain moment hmem).notStored builder result hstored

include hsequenced

theorem stored_of_plain : StoresInSequence after.history :=
  fun _ _ _ _ hsuffix hstored ↦
    hsequenced.stored _ _ _ _ (suffix_of_stored hnotes hplain hsuffix hstored) hstored

include hidentified

theorem answered_of_plain {moment : Moment Wire} (hmoment : moment ∈ after.history)
    (hupload : moment.resultFor = some upload) :
    ∃ compiledTest encoded, Queued after.history compiledTest upload encoded := by
  have hqueued : ∃ compiledTest encoded, Queued before.history compiledTest upload encoded := by
    rw [hnotes, List.mem_append] at hmoment
    rcases hmoment with hmoment | hmoment
    · have hactive := activeUpload_of_resultFor hupload
      rw [(hplain moment hmoment).receives upload hupload] at hactive
      exact hidentified.known upload hactive
    · exact hsequenced.answered moment hmoment upload hupload
  obtain ⟨compiledTest, encoded, connection, hmem⟩ := hqueued
  refine ⟨compiledTest, encoded, connection, ?_⟩
  rw [hnotes]
  exact List.mem_append_right notes hmem

/-- A step that stores and counts nothing. -/
theorem plain (hbound : BoundBeforeResults after.history)
    (hkeeps : before.connection.Keeps after.connection) : Sequenced after where
  stored := hsequenced.stored_of_plain hnotes hplain
  answered _ hmoment _ hupload :=
    hsequenced.answered_of_plain hidentified hnotes hplain hmoment hupload
  receiving upload hupload := by
    obtain ⟨hactive, hadapter, hnext, -⟩ | ⟨hnone, -⟩ := hkeeps
    · rw [hactive] at hupload
      have hreceiving := hsequenced.receiving upload hupload
      constructor
      · rw [storedTicks_eq hnotes hplain, hnext]
        exact hreceiving.ticks
      · intro moment hmoment hfor
        obtain ⟨first, older, builder, hsuffix, hfirst, hfirstBound, hmade⟩ :=
          hbound.first ⟨moment, hmoment, hfor⟩
        rw [hadapter]
        have hfound := hsuffix
        rw [hnotes] at hfound
        rcases mem_or_suffix_of_append hfound with hmem | hearlier
        · rw [(hplain first hmem).receives upload hfirst] at hfirstBound
          exact ⟨builder, hfirstBound, hmade.mono ((List.suffix_cons first older).trans hsuffix)⟩
        · obtain ⟨other, hother, hmade⟩ :=
            hreceiving.bound first (hearlier.mem List.mem_cons_self) hfirst
          refine ⟨other, hother, hmade.mono ?_⟩
          rw [hnotes]
          exact List.suffix_append notes before.history
      · intro moment hmoment builder result hstored
        rw [hadapter]
        rw [hnotes, List.mem_append] at hmoment
        rcases hmoment with hmoment | hmoment
        · exact absurd hstored ((hplain moment hmoment).notStored builder result)
        · exact hreceiving.builder moment hmoment builder result hstored
      · rw [hnext]
        exact hreceiving.limit
    · rw [hnone] at hupload
      cases hupload
  exhausted hafter := by
    obtain ⟨hactive, -, hnext, hsaves⟩ | ⟨-, hsaves⟩ := hkeeps
    · unfold Connection.Exhausted
      rw [hactive, hnext]
      exact hsequenced.exhausted (hsaves hafter)
    · exact absurd hafter hsaves

end Plain

section Keeps

variable {connection next : Connection Wire} {operation : ApplicationOperation Wire}

/-- What a step must not do to save no completion by itself. -/
theorem saves_of_saves (hstate : next.workflowState = .resultsComplete → connection.Saves)
    (hpending : ∀ operation, next.pendingOperation = some operation →
      operation.previousWorkflowState = some .resultsComplete → connection.Saves)
    (hqueue : ∀ operation ∈ next.uploadOperations, operation ∈ connection.uploadOperations)
    (hsaves : next.Saves) : connection.Saves := by
  rcases hsaves with hcomplete | ⟨operation, hoperation | hoperation, hprevious⟩
  · exact hstate hcomplete
  · exact hpending operation hoperation hprevious
  · exact .inr ⟨operation, .inr (hqueue operation hoperation), hprevious⟩

/-- A connection that another operation than a request becomes the pending one of. -/
theorem saves_of_activate (hqueue : ∀ other ∈ next.uploadOperations,
      other ∈ connection.uploadOperations)
    (hprevious : operation.previousWorkflowState = some .resultsComplete → connection.Saves)
    (hsaves : (next.activate operation).Saves) : connection.Saves := by
  refine @saves_of_saves _ connection (next.activate operation) (fun hstate ↦ ?_)
    (fun other hother ↦ ?_) hqueue hsaves
  · cases hkind : operation.kind <;>
      simp [Connection.activate, hkind, OperationKind.activeState] at hstate
  · cases hother
    exact hprevious

theorem not_saves_of_idle (hstate : next.workflowState ≠ .resultsComplete)
    (hpending : next.pendingOperation = none) (hqueue : next.uploadOperations = []) :
    ¬next.Saves := by
  rintro (hcomplete | ⟨operation, hoperation | hoperation, -⟩)
  · exact hstate hcomplete
  · rw [hpending] at hoperation
    cases hoperation
  · rw [hqueue] at hoperation
    cases hoperation

/-- A connection that released its pending operation in another state. -/
theorem saves_of_released (hstate : next.workflowState ≠ .resultsComplete)
    (hpending : next.pendingOperation = none)
    (hqueue : next.uploadOperations = connection.uploadOperations) (hsaves : next.Saves) :
    connection.Saves := by
  refine saves_of_saves (fun hcomplete ↦ absurd hcomplete hstate) (fun other hother ↦ ?_) ?_ hsaves
  · rw [hpending] at hother
    cases hother
  · rw [hqueue]
    exact fun _ ↦ id

theorem keeps_failWorkflow : connection.Keeps connection.failWorkflow := by
  refine .inl ⟨rfl, rfl, rfl, fun hsaves ↦ ?_⟩
  exact absurd hsaves (not_saves_of_idle (fun h ↦ by cases h) rfl rfl)

/-- A refusal restores at most the state the request saved. -/
theorem keeps_handleNegativeResponse (hpending : connection.pendingOperation = some operation) :
    connection.Keeps (connection.release.handleNegativeResponse operation) := by
  have hfailed : connection.Keeps connection.release.failWorkflow := keeps_failWorkflow
  have hretired : connection.Keeps
      { connection.release.retireActiveUpload with workflowState := .failed } :=
    .inr ⟨rfl, not_saves_of_idle (fun h ↦ by cases h) rfl rfl⟩
  have hrestored : connection.Keeps { connection.release with
      workflowState := operation.previousWorkflowState.getD .failed } := by
    refine .inl ⟨rfl, rfl, rfl, saves_of_saves (fun hcomplete ↦ .inr ⟨operation, .inl hpending, ?_⟩)
      (fun other hother ↦ by cases hother) fun _ ↦ id⟩
    cases hprevious : operation.previousWorkflowState with
    | none => simp [hprevious] at hcomplete
    | some state =>
      simp only [hprevious, Option.getD_some] at hcomplete
      rw [hcomplete]
  unfold Connection.handleNegativeResponse
  split
  · exact hretired
  · exact hretired
  · exact hretired
  · split
    · exact .inl ⟨rfl, rfl, rfl, saves_of_released (fun h ↦ by cases h) rfl rfl⟩
    · exact hfailed
  · split
    · exact hrestored
    · exact hfailed
  · split
    · exact hrestored
    · exact hfailed
  · exact hfailed

theorem keeps_complete : connection.Keeps (connection.release.complete operation) := by
  unfold Connection.complete
  split
  · exact .inl ⟨rfl, rfl, rfl, saves_of_released (fun h ↦ by cases h) rfl rfl⟩
  · exact .inl ⟨rfl, rfl, rfl, saves_of_released (fun h ↦ by cases h) rfl rfl⟩
  · exact .inl ⟨rfl, rfl, rfl, saves_of_released (fun h ↦ by cases h) rfl rfl⟩
  · exact .inr ⟨rfl, not_saves_of_idle (fun h ↦ by cases h) rfl rfl⟩
  · exact .inr ⟨rfl, not_saves_of_idle (fun h ↦ by cases h) rfl rfl⟩
  all_goals exact .inl ⟨rfl, rfl, rfl, saves_of_saves .inl (fun _ h ↦ by cases h) fun _ ↦ id⟩

end Keeps

section Steps

variable (hsequenced : Sequenced before) (hidentified : Identified protocol before)
  (hbound : BoundBeforeResults after.history)

include hsequenced hidentified hbound

/-- A step without moments. -/
theorem unnoted (hnotes : after.history = before.history)
    (hkeeps : before.connection.Keeps after.connection) : Sequenced after :=
  @plain _ protocol before after [] hsequenced hidentified hnotes (by simp) hbound hkeeps

/-- A step with one moment. -/
theorem noted {interaction : Interaction Wire}
    (hnotes : after.history = ⟨before.connection, interaction⟩ :: before.history)
    (hplain : ∀ builder result, interaction ≠ .tickStored builder result)
    (hkeeps : before.connection.Keeps after.connection) : Sequenced after := by
  refine @plain _ protocol before after [_] hsequenced hidentified hnotes ?_ hbound hkeeps
  simpa using plainAt_note hplain

/-- A step that activates an operation. -/
theorem activated {connection : Connection Wire} {operation : ApplicationOperation Wire}
    (hnotes : after.history = ⟨connection, .activated operation⟩ :: before.history)
    (hkeeps : before.connection.Keeps after.connection) : Sequenced after := by
  refine @plain _ protocol before after [_] hsequenced hidentified hnotes ?_ hbound hkeeps
  simpa using plainAt_activated before.connection connection operation

/-- A step that activates an operation at a request. -/
theorem requested {connection : Connection Wire} {interaction : Interaction Wire}
    {operation : ApplicationOperation Wire}
    (hnotes : after.history =
      ⟨connection, .activated operation⟩ :: ⟨before.connection, interaction⟩ :: before.history)
    (hplain : ∀ builder result, interaction ≠ .tickStored builder result)
    (hkeeps : before.connection.Keeps after.connection) : Sequenced after := by
  refine @plain _ protocol before after [_, _] hsequenced hidentified hnotes ?_ hbound hkeeps
  simpa using ⟨plainAt_activated before.connection connection operation, plainAt_note hplain⟩

/-- A confirmation or a response of the pending operation keeps the invariant. -/
theorem handles (hhandles : Handles protocol before after) : Sequenced after := by
  obtain ⟨hactive, -, hqueue, -, -, hstate⟩ := Identified.same_of_handles hhandles
  have hsaves : after.connection.Saves → before.connection.Saves := by
    obtain ⟨-, operation, progressed, -, -, hpending, hprogressed, hrequest⟩ :=
      Identified.progress_of_handles hhandles
    refine saves_of_saves (fun hcomplete ↦ .inl (hstate ▸ hcomplete))
      (fun other hother hprevious ↦ ?_) (fun other hother ↦ hqueue ▸ hother)
    rw [hprogressed] at hother
    cases hother
    refine .inr ⟨operation, .inl hpending, ?_⟩
    exact (congrArg (·.previousWorkflowState) hrequest).trans hprevious
  have hsame : after.connection.resultAdapter = before.connection.resultAdapter ∧
      after.connection.nextResultTick = before.connection.nextResultTick := by
    cases hhandles <;> exact ⟨rfl, rfl⟩
  have hnoted : ∃ interaction, after.history = ⟨before.connection, interaction⟩ :: before.history ∧
      ∀ builder result, interaction ≠ .tickStored builder result := by
    cases hhandles <;> exact ⟨_, rfl, by simp⟩
  obtain ⟨interaction, hnotes, hplain⟩ := hnoted
  exact hsequenced.noted hidentified hbound hnotes hplain
    (.inl ⟨hactive, hsame.1, hsame.2, hsaves⟩)

/-- Finishing the pending operation keeps the invariant. -/
theorem finishes (hfinishes : Finishes protocol before after) : Sequenced after := by
  cases hfinishes with
  | waiting hwaiting => exact hsequenced
  | refused operation hpending hready herror =>
    exact hsequenced.unnoted hidentified hbound rfl (keeps_handleNegativeResponse hpending)
  | completed operation hpending hready herror hkind =>
    exact hsequenced.unnoted hidentified hbound rfl keeps_complete
  | continued operation next rest hpending hready herror hkind hqueue =>
    refine hsequenced.activated hidentified hbound rfl (.inl ⟨rfl, rfl, rfl, ?_⟩)
    refine saves_of_activate (fun other hother ↦ ?_) fun hprevious ↦ .inr ⟨next, .inr ?_, hprevious⟩
    · rw [hqueue]
      exact List.mem_cons_of_mem next hother
    · rw [hqueue]
      exact List.mem_cons_self
  | uploaded operation deadline hpending hready herror hkind hqueue =>
    refine hsequenced.activated hidentified hbound rfl (.inl ⟨rfl, rfl, rfl, ?_⟩)
    exact saves_of_activate (fun _ ↦ id) fun hprevious ↦ by cases hprevious
  | startsImmediately operation upload encoded hpending hready herror hkind hactive himmediate
      hencoded =>
    refine hsequenced.activated hidentified hbound rfl ?_
    simp only [Ledger.activate_connection, Ledger.become_connection, Connection.complete, hkind]
    refine .inl ⟨rfl, rfl, rfl, ?_⟩
    exact saves_of_activate (fun _ ↦ id) fun hprevious ↦ by cases hprevious

end Steps

section Results

variable (hsequenced : Sequenced before) (hidentified : Identified protocol before)

include hsequenced

/-- A connection without a builder, or without an upload, is bound to one. -/
theorem bind (hfree : before.connection.resultAdapter = none ∨
      before.connection.activeUpload = none) (builder : BuilderHandle) :
    Sequenced (before.become { before.connection with resultAdapter := some builder }) where
  stored := hsequenced.stored
  answered := hsequenced.answered
  receiving upload hupload := by
    have hreceiving := hsequenced.receiving upload hupload
    have hunbound : ∀ other, before.connection.resultAdapter ≠ some other := by
      intro other hother
      rcases hfree with hnone | hnone
      · rw [hnone] at hother
        cases hother
      · rw [Ledger.become_connection, hnone] at hupload
        cases hupload
    constructor
    · exact hreceiving.ticks
    · intro moment hmoment hfor
      obtain ⟨other, hother, -⟩ := hreceiving.bound moment hmoment hfor
      exact absurd hother (hunbound other)
    · intro moment hmoment other result hstored hid
      exact absurd (hreceiving.builder moment hmoment other result hstored hid) (hunbound other)
    · exact hreceiving.limit
  exhausted := hsequenced.exhausted

include hidentified

/-- Without an active upload, results were stored for retired attempts only. -/
theorem retired_of_stored (hactive : before.connection.activeUpload = none)
    {moment : Moment Wire} (hmoment : moment ∈ before.history) {result : TickResult}
    (hstored : moment.interaction = .tickStored builder result) :
    builder.applicationTestId ∈ before.connection.retiredApplicationTestIds := by
  obtain ⟨upload, hmade⟩ := hsequenced.stored.builderFor hmoment hstored
  obtain ⟨compiledTest, encoded, hqueued⟩ := hmade.queued
  obtain ⟨-, -, hwhere⟩ := hidentified.registered _ _ _ hqueued
  rw [hactive] at hwhere
  rw [(hmade.matches hidentified).1]
  exact hwhere.resolve_right fun h ↦ by cases h

/-- Nothing was stored or received for an upload that is queued. -/
theorem enqueue {compiledTest : CompiledTestIR} {encoded : List Wire}
    (hactive : before.connection.activeUpload = none)
    (hqueue : before.connection.uploadOperations = [])
    (hfresh : upload.id ∉ before.connection.retiredApplicationTestIds) :
    Sequenced ((before.note (.uploadQueued compiledTest upload encoded)).become
      (before.connection.enqueueUpload upload encoded)) where
  stored := by
    intro moment older builder result hsuffix hstored
    rw [Ledger.become_history, Ledger.note_history, List.suffix_cons_iff] at hsuffix
    rcases hsuffix with heq | hsuffix
    · rw [(List.cons.inj heq).1] at hstored
      cases hstored
    · exact hsequenced.stored moment older builder result hsuffix hstored
  answered := by
    intro moment hmoment other hfor
    rcases List.mem_cons.1 hmoment with rfl | hmoment
    · cases hfor
    · obtain ⟨otherTest, otherEncoded, connection, hmem⟩ :=
        hsequenced.answered moment hmoment other hfor
      exact ⟨otherTest, otherEncoded, connection, List.mem_cons_of_mem _ hmem⟩
  receiving := by
    intro other hother
    cases hother
    have hforeign : ∀ moment ∈ before.history, ∀ builder result,
        moment.interaction = .tickStored builder result →
          builder.applicationTestId ≠ upload.id := by
      intro moment hmoment builder result hstored hid
      refine hfresh ?_
      rw [← hid]
      exact hsequenced.retired_of_stored hidentified hactive hmoment hstored
    have hnone : storedTicks (·.applicationTestId == upload.id) before.history = [] := by
      by_contra hstored
      obtain ⟨moment, hmoment, builder, result, hinteraction, hid⟩ :=
        mem_of_storedTicks_ne_nil hstored
      exact hforeign moment hmoment builder result hinteraction (by simpa using hid)
    constructor
    · rw [Ledger.become_history, Ledger.note_history, storedTicks_cons, hnone]
      rfl
    · intro moment hmoment hfor
      rcases List.mem_cons.1 hmoment with rfl | hmoment
      · cases hfor
      · obtain ⟨otherTest, otherEncoded, hqueued⟩ := hsequenced.answered moment hmoment _ hfor
        obtain ⟨-, -, hwhere⟩ := hidentified.registered _ _ _ hqueued
        rw [hactive] at hwhere
        exact absurd (hwhere.resolve_right fun h ↦ by cases h) hfresh
    · intro moment hmoment builder result hstored hid
      rcases List.mem_cons.1 hmoment with rfl | hmoment
      · cases hstored
      · exact absurd hid (hforeign moment hmoment builder result hstored)
    · exact Nat.zero_le _
  exhausted := by
    intro hsaves
    have hbefore : before.connection.Saves := by
      rcases hsaves with hcomplete | ⟨operation, hpending | hmem, hprevious⟩
      · exact .inl hcomplete
      · exact .inr ⟨operation, .inl hpending, hprevious⟩
      · rw [Ledger.become_connection, Connection.enqueueUpload, hqueue, List.nil_append] at hmem
        obtain ⟨wire, rfl | ⟨tick, rfl⟩⟩ := operation_of_mem_uploadOperationsOf hmem
        · cases hprevious
        · cases hprevious
    obtain ⟨other, hother, -⟩ := hsequenced.exhausted hbefore
    rw [hactive] at hother
    cases hother

end Results

/-! ### Results in sequence -/

section Storing

variable {message : TestResult} {result : TickResult}

/-- A result that the connection expects. -/
theorem of_refusesResult {connection : Connection Wire}
    (hexpected : connection.refusesResult message = false)
    (hid : ∃ id, applicationTestIdFromBytes message.testId.bytes = .ok id) :
    ∃ upload, connection.activeUpload = some upload ∧ connection.executionStarted = true ∧
      applicationTestIdFromBytes message.testId.bytes = .ok upload.id ∧
      message.tickNumber = connection.nextResultTick := by
  obtain ⟨id, hid⟩ := hid
  unfold Connection.refusesResult at hexpected
  cases hactive : connection.activeUpload with
  | none => simp [hactive] at hexpected
  | some upload =>
    cases hstarted : connection.executionStarted with
    | false => simp [hactive, hstarted] at hexpected
    | true =>
      simp only [hactive, hstarted, hid, Bool.or_eq_false_iff, bne_eq_false_iff_eq] at hexpected
      refine ⟨upload, rfl, rfl, ?_, hexpected.2⟩
      rw [hid, hexpected.1]
      rfl

/-- An expected result finds the builder of its upload bound. -/
theorem bound_of_result (hsequenced : Sequenced before)
    (hbound : BoundBeforeResults
      (⟨before.connection, .message (.testResult message)⟩ :: before.history))
    (hactive : before.connection.activeUpload = some upload) :
    ∃ builder, before.connection.resultAdapter = some builder ∧
      BuilderFor before.history upload builder := by
  obtain ⟨first, older, builder, hsuffix, hfirst, hadapter, hmade⟩ :=
    hbound.first ⟨_, List.mem_cons_self, hactive⟩
  rw [List.suffix_cons_iff] at hsuffix
  rcases hsuffix with heq | hsuffix
  · obtain ⟨rfl, rfl⟩ := List.cons.inj heq
    exact ⟨builder, hadapter, hmade⟩
  · exact (hsequenced.receiving upload hactive).bound first (hsuffix.mem List.mem_cons_self) hfirst

/-- The ledger after a result was stored and counted. -/
def storedLedger (before : Ledger Wire) (builder : BuilderHandle) (result : TickResult)
    (message : TestResult) : Ledger Wire :=
  (((before.note (.message (.testResult message))).note (.tickStored builder result)).note
    (.resultCounted message)).become before.connection.countResult

/-- The moments of a stored result, oldest last. -/
theorem mem_storedLedger {moment : Moment Wire}
    (hmoment : moment ∈ (storedLedger before builder result message).history) :
    moment.interaction = .resultCounted message ∨
      moment.interaction = .tickStored builder result ∨
      moment = ⟨before.connection, .message (.testResult message)⟩ ∨ moment ∈ before.history := by
  simp only [storedLedger, Ledger.become_history, Ledger.note_history, Ledger.note_connection,
    List.mem_cons] at hmoment
  rcases hmoment with rfl | rfl | rfl | hmoment
  · exact .inl rfl
  · exact .inr (.inl rfl)
  · exact .inr (.inr (.inl rfl))
  · exact .inr (.inr (.inr hmoment))

theorem storedTicks_storedLedger (selected : BuilderHandle → Bool) :
    storedTicks selected (storedLedger before builder result message).history =
      storedTicks selected before.history ++ if selected builder then [result.tick] else [] := by
  simp only [storedLedger, Ledger.become_history, Ledger.note_history, storedTicks_cons,
    Moment.storedTick, Option.toList_none, List.append_nil]
  split <;> rfl

theorem suffix_storedLedger :
    before.history <:+ (storedLedger before builder result message).history :=
  ⟨[_, _, _], rfl⟩

/-- A result stored in sequence joins results stored in sequence. -/
theorem stored_storedLedger (hsequenced : Sequenced before)
    (hin : InSequence upload before.connection builder result message before.history) :
    StoresInSequence (storedLedger before builder result message).history := by
  intro moment older other otherResult hsuffix hstored
  simp only [storedLedger, Ledger.become_history, Ledger.note_history, Ledger.note_connection,
    List.suffix_cons_iff] at hsuffix
  rcases hsuffix with heq | heq | heq | hsuffix
  · rw [(List.cons.inj heq).1] at hstored
    cases hstored
  · obtain ⟨rfl, rfl⟩ := List.cons.inj heq
    cases hstored
    exact ⟨upload, message, before.history, rfl, hin⟩
  · rw [(List.cons.inj heq).1] at hstored
    cases hstored
  · exact hsequenced.stored moment older other otherResult hsuffix hstored

/-- A stored result keeps the invariant. -/
theorem store (hsequenced : Sequenced before) (hsupervised : Supervised protocol before)
    (hbound : BoundBeforeResults (storedLedger before builder result message).history)
    (hexpected : before.connection.refusesResult message = false)
    (hid : ∃ id, applicationTestIdFromBytes message.testId.bytes = .ok id)
    (hadapter : before.connection.resultAdapter = some builder)
    (htick : result.tick = message.tickNumber) (hlimit : result.tick < builder.expectedTickCount) :
    Sequenced (storedLedger before builder result message) := by
  obtain ⟨upload, hactive, hstarted, hid, hnext⟩ := of_refusesResult hexpected hid
  obtain ⟨other, hother, hmade⟩ := hsequenced.bound_of_result
    (hbound.mono ((List.suffix_cons _ _).trans (List.suffix_cons _ _))) hactive
  rw [hadapter] at hother
  cases hother
  obtain ⟨hbuilderId, hexpectedCount⟩ := hmade.matches hsupervised.identified
  have hreceiving := hsequenced.receiving upload hactive
  have hin : InSequence upload before.connection builder result message before.history := by
    constructor
    · exact hactive
    · exact hstarted
    · obtain ⟨-, active, hsameUpload, hchapter⟩ := hsupervised.started hstarted
      rw [hactive] at hsameUpload
      cases hsameUpload
      exact hchapter
    · exact hadapter
    · exact hmade
    · exact hid
    · exact htick.symm
    · rw [hreceiving.storedBy hadapter hbuilderId, htick, hnext]
  have hlast : before.connection.nextResultTick < upload.configuration.expectedTickCount := by
    omega
  refine ⟨stored_storedLedger hsequenced hin, ?_, ?_, ?_⟩
  · intro moment hmoment other hfor
    have hqueued : ∃ compiledTest encoded, Queued before.history compiledTest other encoded := by
      rcases mem_storedLedger hmoment with hcounted | hstored | rfl | hmoment
      · simp [Moment.resultFor, hcounted] at hfor
      · simp [Moment.resultFor, hstored] at hfor
      · exact hsupervised.identified.known other hfor
      · exact hsequenced.answered moment hmoment other hfor
    obtain ⟨compiledTest, encoded, connection, hmem⟩ := hqueued
    exact ⟨compiledTest, encoded, connection, (suffix_storedLedger).mem hmem⟩
  · intro other hactiveOther
    have hsameUpload : other = upload := by
      rw [storedLedger, Ledger.become_connection, Connection.countResult, hactive] at hactiveOther
      exact (Option.some.inj hactiveOther).symm
    subst hsameUpload
    constructor
    · rw [storedTicks_storedLedger, if_pos (by simpa using hbuilderId), hreceiving.ticks, htick,
        hnext, ← List.range_succ]
      rfl
    · intro moment hmoment hfor
      exact ⟨builder, hadapter, hmade.mono suffix_storedLedger⟩
    · intro moment hmoment other result' hstored hotherId
      rcases mem_storedLedger hmoment with hcounted | hsame' | rfl | hmoment
      · simp [hcounted] at hstored
      · rw [hsame'] at hstored
        cases hstored
        exact hadapter
      · cases hstored
      · exact hreceiving.builder moment hmoment other result' hstored hotherId
    · exact hlast
  · intro hsaves
    by_cases hfinal : before.connection.nextResultTick + 1 = upload.configuration.expectedTickCount
    · exact ⟨upload, hactive, hfinal, Nat.succ_pos _⟩
    · have hbefore : before.connection.Saves := by
        rcases hsaves with hcomplete | hsaved
        · left
          simpa [storedLedger, Connection.countResult, hactive, hfinal] using hcomplete
        · exact .inr hsaved
      obtain ⟨other, hother, hall, -⟩ := hsequenced.exhausted hbefore
      rw [hactive] at hother
      cases hother
      omega

end Storing

/-! ### The invariant along steps -/

/-- One move keeps the invariant. -/
theorem move (hsequenced : Sequenced before) (hsupervised : Supervised protocol before)
    (hbound : BoundBeforeResults after.history) (hmove : Move protocol before after) :
    Sequenced after := by
  have hidentified := hsupervised.identified
  have hsame : before.connection.Keeps before.connection := .inl ⟨rfl, rfl, rfl, id⟩
  cases hmove with
  | serial incoming output offset => exact hsequenced.unnoted hidentified hbound rfl hsame
  | ignored interaction hignored =>
    refine hsequenced.noted hidentified hbound rfl (fun builder result hstored ↦ ?_) hsame
    rw [hstored] at hignored
    cases hignored
  | failed interaction hfails =>
    refine hsequenced.noted hidentified hbound rfl (fun builder result hstored ↦ ?_)
      keeps_failWorkflow
    rw [hstored] at hfails
    cases hfails
  | timedOut operation deadline hpending hresponse hdeadline =>
    exact hsequenced.unnoted hidentified hbound rfl keeps_failWorkflow
  | bound builder hfree hid => exact hsequenced.bind hfree builder
  | queued compiledTest attempt draws upload encoded hactive hqueue hpending hupload hfresh
      hbuilder hencoded => exact hsequenced.enqueue hidentified hactive hqueue hfresh
  | starting upload encoded hactive haccepted hstate hpending hdelivery hencoded htrigger =>
    refine hsequenced.requested hidentified hbound rfl (by simp) (.inl ⟨rfl, rfl, rfl, ?_⟩)
    exact saves_of_activate (fun _ ↦ id) fun hprevious ↦ by cases hprevious
  | aborting upload encoded hactive hpending hdelivery hencoded =>
    refine hsequenced.requested hidentified hbound rfl (by simp) (.inl ⟨rfl, rfl, rfl, ?_⟩)
    exact saves_of_activate (fun _ ↦ id) fun hprevious ↦ .inl (Option.some.inj hprevious)
  | resetting encoded hconfirmed hpending hdelivery hencoded =>
    refine hsequenced.requested hidentified hbound rfl (by simp) (.inl ⟨rfl, rfl, rfl, ?_⟩)
    exact saves_of_activate (fun _ ↦ id) fun hprevious ↦ .inl (Option.some.inj hprevious)
  | discovering encoded hpending hconfirmed hencoded =>
    refine hsequenced.activated hidentified hbound rfl (.inl ⟨rfl, rfl, rfl, ?_⟩)
    exact saves_of_activate (fun _ ↦ id) fun hprevious ↦ by cases hprevious
  | advancing next rest hpending hconfirmed hqueue =>
    refine hsequenced.activated hidentified hbound rfl (.inl ⟨rfl, rfl, rfl, ?_⟩)
    refine saves_of_activate (fun other hother ↦ ?_) fun hprevious ↦ .inr ⟨next, .inr ?_, hprevious⟩
    · rw [hqueue]
      exact List.mem_cons_of_mem next hother
    · rw [hqueue]
      exact List.mem_cons_self
  | submitted operation message hnext hmay =>
    refine hsequenced.noted hidentified hbound rfl (by simp) (.inl ⟨rfl, rfl, rfl, ?_⟩)
    refine saves_of_saves .inl (fun other hother hprevious ↦ ?_) (fun _ ↦ id)
    cases hother
    exact .inr ⟨operation, .inl (nextMessage_eq_some hnext).1, hprevious⟩
  | handled middle after hhandles hfinishes =>
    have hmiddle : middle.history <:+ after.history := by
      cases hfinishes with
      | waiting => exact List.suffix_rfl
      | refused => exact List.suffix_rfl
      | completed => exact List.suffix_rfl
      | continued => exact List.suffix_cons _ _
      | uploaded => exact List.suffix_cons _ _
      | startsImmediately => exact List.suffix_cons _ _
    exact (hsequenced.handles hidentified (hbound.mono hmiddle) hhandles).finishes
      (hidentified.handles hhandles) hbound hfinishes
  | counted message hexpected hid hunbound =>
    obtain ⟨upload, hactive, -⟩ := of_refusesResult hexpected hid
    obtain ⟨builder, hbuilder, -⟩ :=
      hsequenced.bound_of_result (hbound.mono (List.suffix_cons _ _)) hactive
    rw [hunbound] at hbuilder
    cases hbuilder
  | stored message builder submission result hexpected hid hadapter hingested =>
    obtain ⟨htick, hlimit, -⟩ := ok_of_ingestApplicationMessage hingested
    exact hsequenced.store hsupervised hbound hexpected hid hadapter htick hlimit
  | invalidated =>
    refine hsequenced.noted hidentified hbound rfl (by simp) (.inl ⟨rfl, rfl, rfl, fun hsaves ↦ ?_⟩)
    exact absurd hsaves (not_saves_of_idle (fun h ↦ by cases h) rfl rfl)
  | established =>
    refine hsequenced.noted hidentified hbound rfl (by simp) (.inl ⟨rfl, rfl, rfl, ?_⟩)
    exact saves_of_saves (fun h ↦ by cases h)
      (fun other hother hprevious ↦ .inr ⟨other, .inl hother, hprevious⟩) (fun _ ↦ id)

/-- One step keeps the invariant. -/
theorem step (hsequenced : Sequenced before) (hsupervised : Supervised protocol before)
    (hbound : BoundBeforeResults after.history) (hstep : Step protocol before after) :
    Sequenced after := by
  cases hstep with
  | moved after hopen hmove => exact hsequenced.move hsupervised hbound hmove
  | closing answer hopen =>
    refine hsequenced.noted hsupervised.identified hbound rfl (by simp)
      (.inl ⟨rfl, rfl, rfl, ?_⟩)
    exact saves_of_saves .inl (fun _ h ↦ by cases h) (fun _ h ↦ by cases h)

/-- The invariant holds for a new connection. -/
theorem create (timeout : ℕ) (clock : ℕ → ℕ) (builder : Option BuilderHandle) :
    Sequenced (Host.create timeout clock builder : Host Wire).toLedger where
  stored := by
    intro moment older builder result hsuffix
    exact absurd (List.suffix_nil.1 hsuffix) (List.cons_ne_nil moment older)
  answered := by
    intro moment hmoment
    cases hmoment
  receiving := by
    intro upload hupload
    cases hupload
  exhausted hsaves := absurd hsaves (not_saves_of_idle (fun h ↦ by cases h) rfl rfl)

end Sequenced

/-! ### Runs -/

/-- The invariants hold along every path from a new connection whose uploads find their builders
bound. -/
theorem sequenced_of_path {timeout : ℕ} {clock : ℕ → ℕ} {builder : Option BuilderHandle}
    {ledger : Ledger Wire}
    (hpath : ReflTransGen (Step protocol)
      (Host.create timeout clock builder : Host Wire).toLedger ledger)
    (hbound : BoundBeforeResults ledger.history) : Sequenced ledger := by
  induction hpath with
  | refl => exact .create timeout clock builder
  | tail hpath hstep ih =>
    exact (ih (hbound.mono hstep.suffix)).step (.of_path hpath) hbound hstep

/-- Complete results are those of every tick, stored by the builder of the upload in order, and
every result was stored in sequence. -/
structure ResultsInSequence (ledger : Ledger Wire) : Prop where
  complete : ledger.connection.workflowState = .resultsComplete →
    ∃ upload builder, ledger.connection.activeUpload = some upload ∧
      ledger.connection.resultAdapter = some builder ∧
      BuilderFor ledger.history upload builder ∧
      storedTicks (· == builder) ledger.history =
        List.range upload.configuration.expectedTickCount
  stored : StoresInSequence ledger.history

/-- What the invariant says when the results are complete. -/
theorem Sequenced.complete {ledger : Ledger Wire} (hsequenced : Sequenced ledger)
    (hidentified : Identified protocol ledger)
    (hcomplete : ledger.connection.workflowState = .resultsComplete) :
    ∃ upload builder, ledger.connection.activeUpload = some upload ∧
      ledger.connection.resultAdapter = some builder ∧
      BuilderFor ledger.history upload builder ∧
      storedTicks (· == builder) ledger.history =
        List.range upload.configuration.expectedTickCount := by
  obtain ⟨upload, hactive, hall, hpositive⟩ := hsequenced.exhausted (.inl hcomplete)
  have hreceiving := hsequenced.receiving upload hactive
  have hsome : storedTicks (·.applicationTestId == upload.id) ledger.history ≠ [] := by
    rw [hreceiving.ticks, Ne, List.range_eq_nil]
    omega
  obtain ⟨moment, hmoment, builder, result, hstored, hid⟩ := mem_of_storedTicks_ne_nil hsome
  rw [beq_iff_eq] at hid
  have hadapter := hreceiving.builder moment hmoment builder result hstored hid
  refine ⟨upload, builder, hactive, hadapter, ?_, ?_⟩
  · obtain ⟨other, hmade⟩ := hsequenced.stored.builderFor hmoment hstored
    obtain ⟨compiledTest, encoded, hqueued⟩ := hmade.queued
    obtain ⟨-, -, hwhere⟩ := hidentified.registered _ _ _ hqueued
    have hsameId : other.id = upload.id := (hmade.matches hidentified).1.symm.trans hid
    rw [hsameId] at hwhere
    have hsame := hwhere.resolve_left (hidentified.fresh upload hactive)
    rw [hactive] at hsame
    cases hsame
    exact hmade
  · rw [hreceiving.storedBy hadapter hid, hall]

/-- In every run in which the first `TestResult` of every upload finds a builder of that upload
bound, complete results are the builder's, each tick once and in order, and no result is stored out
of sequence. -/
theorem resultsInSequence_run (timeout : ℕ) (clock : ℕ → ℕ) (builder : Option BuilderHandle)
    (calls : List (Call Wire))
    (hbound : BoundBeforeResults
      (run protocol (Host.create timeout clock builder) calls).history) :
    ResultsInSequence (run protocol (Host.create timeout clock builder) calls).toLedger := by
  have hsequenced := sequenced_of_path (run_path _ calls) hbound
  have hidentified := (@supervised_run _ protocol timeout clock builder calls).identified
  exact ⟨hsequenced.complete hidentified, hsequenced.stored⟩

/-! ### A run with one builder -/

/-- Whether a moment receives a result only with a builder bound, and queues an upload only for it.
-/
def Moment.boundTo (builder : BuilderHandle) (moment : Moment Wire) : Bool :=
  match moment.interaction with
  | .uploadQueued compiledTest upload _ =>
    match BuilderHandle.fromCompiledTest builder.identity compiledTest upload.uploadAttempt with
    | .ok made => made == builder
    | .error _ => false
  | .message (.testResult _) => moment.before.resultAdapter == some builder
  | _ => true

/-- A run with one builder that is bound at every `TestResult` and made for every upload. -/
theorem boundBeforeResults_of_boundTo {timeout : ℕ} {clock : ℕ → ℕ} {bound : Option BuilderHandle}
    {calls : List (Call Wire)} (builder : BuilderHandle)
    (hmoments : ∀ moment ∈ (run protocol (Host.create timeout clock bound) calls).history,
      moment.boundTo builder = true) :
    BoundBeforeResults (run protocol (Host.create timeout clock bound) calls).history := by
  intro moment older upload hsuffix hfor hearlier
  obtain ⟨newer, hsplit⟩ := hsuffix
  have hmoment := hmoments moment (by rw [← hsplit]; simp)
  unfold Moment.resultFor at hfor
  split at hfor
  · rename_i message hmessage
    obtain ⟨-, -, hpath, -⟩ := step_of_split (run_path _ calls) rfl hsplit.symm
      (by rw [hmessage]; rfl)
    obtain ⟨compiledTest, encoded, before, hmem⟩ :=
      (Supervised.of_path hpath).identified.known upload hfor
    have hqueued := hmoments _ (show _ ∈ _ by
      rw [← hsplit]
      exact List.mem_append_right newer (List.mem_cons_of_mem moment hmem))
    simp only [Moment.boundTo, hmessage, beq_iff_eq] at hmoment
    refine ⟨builder, hmoment, compiledTest, encoded, builder.identity, ⟨before, hmem⟩, ?_⟩
    unfold Moment.boundTo at hqueued
    simp only at hqueued
    split at hqueued
    · rename_i made hmade
      rw [hmade, eq_of_beq hqueued]
    · cases hqueued
  · cases hfor

/-- The builder of the two-tick test. -/
def digitalInputBuilder : BuilderHandle := ⟨0, 1, 7, 2⟩

/-- Both results of a two-tick test are stored, and complete it. -/
theorem resultsInSequence_undisturbedCalls :
    (run directCodec (Host.create 5 id (some digitalInputBuilder))
        undisturbedCalls).connection.workflowState = .resultsComplete ∧
      ResultsInSequence (run directCodec (Host.create 5 id (some digitalInputBuilder))
        undisturbedCalls).toLedger := by
  refine ⟨by decide +kernel, resultsInSequence_run 5 id _ undisturbedCalls ?_⟩
  exact boundBeforeResults_of_boundTo digitalInputBuilder (by decide +kernel)

end HilRig.Protocol
