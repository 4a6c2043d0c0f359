import HilRig.Evaluation.Verdicts
import HilRig.Protocol.BuilderBinding
import HilRig.Results.AddCalls

/-!
# Errors that the rig reports during a run

An error message that belongs to the active upload passes the connection's ownership check, the
adapter's identifier check and the builder's tick check before it is queued. `stored_of_handled`
says that a builder that accepts records queues each such message once unless its tick is outside
the run, and that no capture made after a non-recoverable one passes. A message with a tick outside
the run makes the service pass raise, and nothing is queued.
-/

set_option autoImplicit false
set_option relaxedAutoImplicit false

namespace HilRig.Evaluation

open HilRig.Models HilRig.Results HilRig.Protocol HilRig.Foundations Relation

/-! ### The ownership checks -/

/-- An error message carries no Test ID, or that of an upload. -/
def BelongsTo (message : ApplicationErrorMessage) (upload : FixedIOUploadMessages) : Prop :=
  ∀ testId, message.testId = some testId →
    applicationTestIdFromBytes testId.bytes = .ok upload.uploadAttempt.applicationTestId

section Ownership

variable {Wire : Type} {connection : Connection Wire} {upload : FixedIOUploadMessages}
  {builder : BuilderHandle} {message : ApplicationErrorMessage}

theorem errorBelongsToActiveUpload_eq_true (hactive : connection.activeUpload = some upload)
    (hbelongs : BelongsTo message upload) :
    connection.errorBelongsToActiveUpload message = .ok true := by
  unfold Connection.errorBelongsToActiveUpload
  cases htestId : message.testId with
  | none =>
    rw [hactive]
    rfl
  | some testId =>
    rw [hactive]
    show (applicationTestIdFromBytes testId.bytes >>= _) = _
    rw [hbelongs testId htestId]
    simp [bind, Except.bind, pure, Except.pure]

/-- Only the builder's own checks decide about a message that belongs to its upload. -/
theorem ingestApplicationError_of_belongs
    (hid : builder.applicationTestId = upload.uploadAttempt.applicationTestId)
    (hbelongs : BelongsTo message upload) (submission : Except HilRigError Unit) :
    ingestApplicationError builder message submission = do
      requireTickInRun builder message.tickNumber
      submission
      return errorRecordOf message := by
  unfold ingestApplicationError
  cases htestId : message.testId with
  | none => rfl
  | some testId =>
    have hsame (text : String) : requireBuilderTestId builder testId text = .ok () := by
      unfold requireBuilderTestId
      rw [hbelongs testId htestId]
      exact if_neg (not_not.2 hid.symm)
    simp only [hsame]
    rfl

/-- The builder's tick check lets exactly the records of its run through. -/
theorem requireTickInRun_cases {settings : BuilderSettings}
    (hexpected : builder.expectedTickCount = settings.expectedTickCount) :
    ((Record.error (errorRecordOf message)).InRun settings ∧
        requireTickInRun builder message.tickNumber = .ok ()) ∨
      ¬(Record.error (errorRecordOf message)).InRun settings ∧
        ∃ error, requireTickInRun builder message.tickNumber = .error error := by
  have hinRun : (Record.error (errorRecordOf message)).InRun settings ↔
      ∀ tick, message.tickNumber = some tick → tick < settings.expectedTickCount := Iff.rfl
  rw [hinRun]
  cases message.tickNumber with
  | none => exact .inl ⟨by simp, rfl⟩
  | some tick =>
    simp only [requireTickInRun, BuilderHandle.validateTickInRun, hexpected]
    by_cases hlate : settings.expectedTickCount ≤ tick
    · refine .inr ⟨fun hall ↦ ?_, _, if_pos hlate⟩
      exact absurd (hall tick rfl) (Nat.not_lt.2 hlate)
    · refine .inl ⟨fun other hother ↦ ?_, if_neg hlate⟩
      rw [← Option.some.inj hother]
      exact Nat.lt_of_not_le hlate

/-- A message that belongs to the active upload is stored, or its handling raises, as the bound
builder's checks answer. -/
theorem handleApplicationError_of_belongs {host : Host Wire}
    (hbound : host.connection.resultAdapter = some builder)
    (hactive : host.connection.activeUpload = some upload) (hbelongs : BelongsTo message upload)
    (submission : Except HilRigError Unit) :
    handleApplicationError message submission host =
      match ingestApplicationError builder message submission with
      | .ok record => .ok (some record) (host.note (.errorStored builder record))
      | .error raised => .error raised host := by
  have hcurrent : (current : Action Wire _) host = .ok host.connection host := rfl
  unfold handleApplicationError
  rw [run_bind_of_ok hcurrent, hbound]
  simp only [errorBelongsToActiveUpload_eq_true hactive hbelongs]
  cases ingestApplicationError builder message submission with
  | ok record => rfl
  | error raised => rfl

end Ownership

/-! ### Verdicts of captures with an error -/

theorem verdict_of_evaluate {capturedRun : CapturedRunIR} {assertionSetId : String}
    {report : EvaluationReport}
    (hreport : AssertionEvaluator.evaluate capturedRun assertionSetId = .ok report) :
    report.verdict = overallVerdict (report.assertionResults.map AssertionResult.verdict)
      capturedRun.metadata.status
        (capturedRun.applicationErrors.countP fun error ↦ !error.recoverable) := by
  obtain ⟨-, hreport⟩ := ite_error_eq_ok.1 hreport
  obtain ⟨assertionSet, -, hreport⟩ := bind_eq_ok.1 hreport
  obtain ⟨results, -, hreport⟩ := bind_eq_ok.1 hreport
  rw [← pure_eq_ok.1 hreport]

/-- No assertion set passes on a capture that was finalized after a non-recoverable error was added.
-/
theorem verdict_ne_pass_of_added {plan : CompiledTestIR} {capture : BuiltCapture plan}
    {record : ApplicationErrorRecord} (hadded : .error record ∈ recordsAdded capture.earlier)
    (hrecoverable : record.recoverable = false) {assertionSetId : String}
    {report : EvaluationReport}
    (hreport : AssertionEvaluator.evaluate capture.run assertionSetId = .ok report) :
    report.verdict ≠ .pass := by
  obtain ⟨stored, hearlier, -, hholds, -⟩ := capture.exists_stored
  have hstored : record ∈ errorsOf stored :=
    List.mem_filterMap.2 ⟨_, hearlier.subset hadded, rfl⟩
  rw [verdict_of_evaluate hreport]
  intro hpass
  obtain ⟨-, -, hzero, -⟩ := overallVerdict_eq_pass_iff.1 hpass
  have hall := (nonRecoverable_eq_zero_iff hholds).1 hzero record hstored
  rw [hrecoverable] at hall
  cases hall

/-! ### Handled messages -/

/-- An error message that the connection handles in some state it reaches, within a service pass or
between two: it belongs to the active upload, and the call that adds it to the bound builder ends
while the builder accepts records. -/
structure HandledError {Wire : Type} (protocol : NativeProtocol Wire) (settings : BuilderSettings)
    (faults : ℕ → Option HilRigError) where
  timeout : ℕ
  clock : ℕ → ℕ
  initialBuilder : Option BuilderHandle
  host : Host Wire
  reached : ReflTransGen (Step protocol) (Host.create timeout clock initialBuilder).toLedger
    host.toLedger
  builder : BuilderHandle
  bound : host.connection.resultAdapter = some builder
  expected : builder.expectedTickCount = settings.expectedTickCount
  upload : FixedIOUploadMessages
  active : host.connection.activeUpload = some upload
  message : ApplicationErrorMessage
  belongs : BelongsTo message upload
  thread : ℕ
  before : BuilderState
  begun : ReflTransGen (BuilderStep settings faults) (.initial settings) before
  answer : Except HilRigError Unit
  after : BuilderState
  call : AddCall settings faults thread (.error (errorRecordOf message)) before answer after
  accepting : after.refuses = false

namespace HandledError

variable {Wire : Type} {protocol : NativeProtocol Wire} {settings : BuilderSettings}
  {faults : ℕ → Option HilRigError} (error : HandledError protocol settings faults)

/-- The record the message becomes. -/
def record : Record :=
  .error (errorRecordOf error.message)

/-- Handling the message, with the answer of the builder's call. -/
def handle : EStateM.Result HilRigError (Host Wire) Drained :=
  handleMessage protocol (.applicationErrorMessage error.message) error.answer error.host

/-- A capture of the builder that was finalized after the message was handled. -/
def Precedes {plan : CompiledTestIR} (capture : BuiltCapture plan) : Prop :=
  capture.settings = settings ∧ capture.faults = faults ∧
    ReflTransGen (BuilderStep settings faults) error.after capture.state

/-- The connection has noted that it took the message. -/
def noted : Host Wire :=
  error.host.note (.message (.applicationErrorMessage error.message))

/-- The drain's result and the host when the message is stored. -/
def stored : EStateM.Result HilRigError (Host Wire) Drained :=
  .ok
    { applicationMessages := [.applicationErrorMessage error.message]
      storedApplicationErrors := [errorRecordOf error.message] }
    (error.noted.note (.errorStored error.builder (errorRecordOf error.message)))

/-- A message is stored, or its handling raises, as the builder's two checks answer. -/
theorem handle_eq : error.handle =
    match requireTickInRun error.builder error.message.tickNumber, error.answer with
    | .error raised, _ => .error raised error.noted
    | .ok (), .error raised => .error raised error.noted
    | .ok (), .ok () => error.stored := by
  have hid := identifiersAgree_of_reached error.reached error.upload error.builder error.active
    error.bound
  have hhandled := @handleApplicationError_of_belongs _ _ _ _ error.noted error.bound error.active
    error.belongs error.answer
  rw [ingestApplicationError_of_belongs hid error.belongs] at hhandled
  have hhandle : error.handle = (handleApplicationError error.message error.answer >>= fun record ↦
      pure { applicationMessages := [.applicationErrorMessage error.message]
             storedApplicationErrors := record.toList }) error.noted := rfl
  rw [hhandle]
  cases htick : requireTickInRun error.builder error.message.tickNumber with
  | error raised =>
    rw [htick] at hhandled
    exact run_bind_of_error hhandled _
  | ok passed =>
    rw [htick] at hhandled
    cases hanswer : error.answer with
    | error raised =>
      rw [hanswer] at hhandled
      exact run_bind_of_error hhandled _
    | ok added =>
      rw [hanswer] at hhandled
      exact run_bind_of_ok hhandled _

/-- The call puts the record of the message once and returns, the handling returns with that record,
and no capture that follows a non-recoverable one passes. -/
def IsStored : Prop :=
  error.answer = .ok () ∧
    PutsOnce settings faults error.thread error.record error.before error.after ∧
    error.handle = error.stored ∧
    (error.message.recoverable = false →
      ∀ (plan : CompiledTestIR) (capture : BuiltCapture plan), error.Precedes capture →
        ∀ assertionSetId report,
          AssertionEvaluator.evaluate capture.run assertionSetId = .ok report →
            report.verdict ≠ .pass)

/-- The call puts nothing, and the handling raises. -/
def IsRefused : Prop :=
  PutsNothing settings faults error.thread error.before error.after ∧
    ∃ raised, error.handle = .error raised error.noted

/-- A record that was put while the builder accepted records keeps its captures from passing. -/
theorem verdict_ne_pass_of_precedes
    (hput : PutsOnce settings faults error.thread error.record error.before error.after)
    (hrecoverable : error.message.recoverable = false) {plan : CompiledTestIR}
    {capture : BuiltCapture plan} (hprecedes : error.Precedes capture) {assertionSetId : String}
    {report : EvaluationReport}
    (hreport : AssertionEvaluator.evaluate capture.run assertionSetId = .ok report) :
    report.verdict ≠ .pass := by
  obtain ⟨rfl, rfl, hrest⟩ := hprecedes
  obtain ⟨middle, -, -, -, hhistory⟩ := hput
  have hadded : .added error.record ∈ error.after.trace.history := by
    rw [hhistory]
    exact List.mem_cons_self
  have hfinalize : (QueueItem.control capture.request).isFinalize = true := by
    simp [QueueItem.isFinalize, capture.action]
  have hinvoked : .invoked capture.request :: capture.earlier <:+ capture.state.trace.history :=
    capture.invoked.trans ((List.suffix_cons _ _).trans capture.completed)
  have hearlier := added_of_accepting (error.begun.trans (error.call.spec error.begun).1)
    error.accepting hadded hrest hfinalize hinvoked
  exact verdict_ne_pass_of_added hearlier hrecoverable hreport

theorem isStored_of_inRun (hinRun : error.record.InRun settings) : error.IsStored := by
  obtain ⟨-, ⟨hanswer, -, hput⟩ | ⟨-, -, hrefuses⟩⟩ := error.call.spec error.begun
  · refine ⟨hanswer, hput, ?_, fun hrecoverable plan capture hprecedes assertionSetId report ↦
      error.verdict_ne_pass_of_precedes hput hrecoverable hprecedes⟩
    rcases requireTickInRun_cases error.expected with ⟨-, htick⟩ | ⟨hlate, -⟩
    · rw [error.handle_eq, htick, hanswer]
    · exact absurd hinRun hlate
  · have hrefused := hrefuses hinRun
    rw [error.accepting] at hrefused
    cases hrefused

theorem isRefused_of_late (hlate : ¬error.record.InRun settings) : error.IsRefused := by
  obtain ⟨-, ⟨-, hinRun, -⟩ | ⟨-, hnothing, -⟩⟩ := error.call.spec error.begun
  · exact absurd hinRun hlate
  · refine ⟨hnothing, ?_⟩
    rcases requireTickInRun_cases error.expected with ⟨hinRun, -⟩ | ⟨-, raised, htick⟩
    · exact absurd hinRun hlate
    · rw [error.handle_eq, htick]
      exact ⟨raised, rfl⟩

/-- Every error message that belongs to the active upload and is handled while its builder accepts
records is stored once, provided that it has no tick or one of the run, and after a non-recoverable
one no capture of the builder passes. A message with a later tick makes the handling raise and is
not stored. -/
theorem stored_of_handled :
    ((∀ tick, error.message.tickNumber = some tick → tick < settings.expectedTickCount) →
      error.IsStored) ∧
    ((∃ tick, error.message.tickNumber = some tick ∧ settings.expectedTickCount ≤ tick) →
      error.IsRefused) := by
  refine ⟨error.isStored_of_inRun, ?_⟩
  rintro ⟨tick, htick, hpast⟩
  exact error.isRefused_of_late fun hinRun ↦ absurd (hinRun tick htick) (Nat.not_lt.2 hpast)

end HandledError

/-! ### A door that overheats -/

section Example

/-- A builder made for an upload of the test. -/
def doorBuilder : BuilderHandle :=
  ⟨0, 5, 7, 1001⟩

/-- The connection that queued that upload. -/
def doorHost : Host (OutboundMessage ⊕ InboundMessage) :=
  Protocol.run directCodec (Host.create 5 id (some doorBuilder))
    [.queueUpload doorTest.plan none [] .other]

theorem uploads_doorHost : doorHost.connection.resultAdapter = some doorBuilder ∧
    ∃ upload, doorHost.connection.activeUpload = some upload ∧
      upload.uploadAttempt.applicationTestId = 7 := by
  have hid : (doorHost.connection.activeUpload.map fun upload ↦
      upload.uploadAttempt.applicationTestId) = some 7 := by decide +kernel
  obtain ⟨upload, hupload, hid⟩ := Option.map_eq_some_iff.1 hid
  exact ⟨by decide +kernel, upload, hupload, hid⟩

/-- The builder's state when its writer has started. -/
def doorState : BuilderState :=
  { BuilderState.initial doorSettings with phase := .looping }

/-- A non-recoverable error of that upload. -/
def overheated (tick : ℕ) : ApplicationErrorMessage where
  testId := some ⟨[0, 0, 0, 0, 0, 0, 0, 0, 0, 0, 0, 0, 0, 0, 0, 7]⟩
  category := .hardware
  recoverable := false
  tickNumber := some tick

/-- Handling that error, with a call that starts when the writer has started. -/
theorem exists_overheated (tick : ℕ) {answer : Except HilRigError Unit} {after : BuilderState}
    (hcall : AddCall doorSettings (fun _ ↦ none) 0 (.error (errorRecordOf (overheated tick)))
      doorState answer after) (haccepting : after.refuses = false) :
    ∃ error : HandledError directCodec doorSettings (fun _ ↦ none),
      error.message = overheated tick ∧ error.before = doorState ∧ error.after = after := by
  obtain ⟨hbound, upload, hactive, hid⟩ := uploads_doorHost
  have hbelongs : BelongsTo (overheated tick) upload := by
    intro testId htestId
    rw [← Option.some.inj htestId, hid]
    rfl
  have hbegun : (BuilderState.initial doorSettings).run doorSettings (fun _ ↦ none) [.start none] =
      some doorState := rfl
  exact ⟨⟨5, id, some doorBuilder, doorHost, run_path _ _, doorBuilder, hbound, rfl, upload,
    hactive, overheated tick, hbelongs, 0, doorState, reflTransGen_of_run hbegun, answer, after,
    hcall, haccepting⟩, rfl, rfl, rfl⟩

/-- The finalize request after that error. -/
def overheatedRequest : ControlRequest :=
  ⟨0, .finalize none, [.error (errorRecordOf (overheated 1000))]⟩

/-- The capture with that error. -/
def overheatedDatabase : CaptureDatabase where
  expectedTickCount := 1001
  expectedTickCount_pos := doorSettings.expectedTickCount_pos
  status := .incomplete
  applicationErrors := [errorParameters (errorRecordOf (overheated 1000))]

/-- An error of the last tick is stored, and the capture that follows does not pass. -/
theorem stored_of_handled_overheated :
    ∃ (error : HandledError directCodec doorSettings (fun _ ↦ none))
      (capture : BuiltCapture doorTest.plan), error.message = overheated 1000 ∧
        error.Precedes capture ∧ error.IsStored := by
  have hrun : ((doorState.run doorSettings (fun _ ↦ none)
      [.add 0 (.error (errorRecordOf (overheated 1000))), .recheck 0, .enqueue 0]).bind fun after ↦
        if after.refuses then none else
          (after.run doorSettings (fun _ ↦ none) [.process, .finalize 0 none, .recheck 0,
            .enqueue 0, .process, .poll 0, .join 0 true]).map fun state ↦ state.trace.history) =
      some [.completed overheatedRequest overheatedDatabase, .invoked overheatedRequest,
        .added (.error (errorRecordOf (overheated 1000)))] := by decide +kernel
  obtain ⟨after, hadded, hrun⟩ := Option.bind_eq_some_iff.1 hrun
  obtain ⟨haccepting, hrun⟩ := Option.ite_none_left_eq_some.1 hrun
  obtain ⟨state, hstate, hhistory⟩ := Option.map_eq_some_iff.1 hrun
  obtain ⟨error, hmessage, hbefore, hafter⟩ := exists_overheated 1000 (addCall_of_run hadded)
    (Bool.eq_false_of_not_eq_true haccepting)
  have hsteps : ReflTransGen (BuilderStep doorSettings fun _ ↦ none) error.after state := by
    rw [hafter]
    exact reflTransGen_of_run hstate
  have hcompleted : .completed overheatedRequest overheatedDatabase :: [.invoked overheatedRequest,
      .added (.error (errorRecordOf (overheated 1000)))] <:+ state.trace.history := by
    rw [hhistory]
  have hbegun := (error.begun.trans (error.call.spec error.begun).1).trans hsteps
  obtain ⟨capture, -, -, -, hsettings, hfaults, hcaptured⟩ := @exists_capture doorTest.plan
    doorSettings (by decide +kernel) (by decide +kernel) state hbegun _ _ _ _ hcompleted rfl
      (List.suffix_refl _)
  refine ⟨error, capture, hmessage, ⟨hsettings, hfaults, hcaptured ▸ hsteps⟩,
    error.stored_of_handled.1 fun tick htick ↦ ?_⟩
  rw [hmessage] at htick
  rw [← Option.some.inj htick]
  decide

/-- An error past the last tick is not stored, although its builder accepts records. -/
theorem not_stored_overheated :
    ∃ error : HandledError directCodec doorSettings (fun _ ↦ none),
      error.message = overheated 1001 ∧ error.after = error.before ∧ ¬error.IsStored := by
  have hcall : AddCall doorSettings (fun _ ↦ none) 0 (.error (errorRecordOf (overheated 1001)))
      doorState (.error (.value "tick 1001 is outside expected range 0..1000")) doorState :=
    .refused _ rfl rfl
  obtain ⟨error, hmessage, hbefore, hafter⟩ := exists_overheated 1001 hcall rfl
  refine ⟨error, hmessage, hafter.trans hbefore.symm, fun hstored ↦ ?_⟩
  have hlate : ¬error.record.InRun doorSettings := by
    intro hinRun
    exact absurd (hinRun 1001 (by rw [HandledError.record, hmessage]; rfl)) (by decide)
  obtain ⟨-, raised, hraised⟩ := error.isRefused_of_late hlate
  rw [hstored.2.2.1] at hraised
  cases hraised

end Example

end HilRig.Evaluation
