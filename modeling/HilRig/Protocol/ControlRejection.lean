import HilRig.Protocol.DeliveryAttribution

/-!
# A rejected control request

`abort` and `reset_application` save the workflow state, and a rejection writes it back. Meanwhile
the connection handles results, and the last expected one completes them. `Workflow` is the part of
the connection both write, as a machine over its inputs, and every step of a connection that keeps
its pending request, or has none, is a run of that machine. `workflow_rejected_iff` compares a
rejected request with the same inputs and no request: they agree exactly when no input overtakes the
saved state.
-/

set_option autoImplicit false
set_option relaxedAutoImplicit false

namespace HilRig.Protocol

open HilRig.Models HilRig.Results HilRig.Foundations

variable {Wire : Type} {protocol : NativeProtocol Wire}

/-! ### The workflow machine -/

/-- What the host sees of the workflow. -/
structure Workflow where
  state : WorkflowState
  uploadAccepted : Bool
  executionStarted : Bool
  nextResultTick : ℕ
  deriving DecidableEq

/-- What moves the workflow when no request does: a result in sequence, or a new session. -/
inductive WorkflowInput
  | result (message : TestResult)
  | established
  deriving DecidableEq

def WorkflowInput.isResult : WorkflowInput → Bool
  | .result _ => true
  | .established => false

/-- The workflow after one input, for a given number of expected results. -/
def Workflow.handle (expected : Option ℕ) (workflow : Workflow) : WorkflowInput → Workflow
  | .result _ =>
    { workflow with
      nextResultTick := workflow.nextResultTick + 1
      state :=
        if expected = some (workflow.nextResultTick + 1) then .resultsComplete
        else workflow.state }
  | .established => { workflow with state := .connecting }

/-- The number of results among some inputs. -/
def resultCount (inputs : List WorkflowInput) : ℕ :=
  inputs.countP WorkflowInput.isResult

/-- Some input changes the state of a running workflow: a new session, or the last result. -/
def Overtaken (expected : Option ℕ) (next : ℕ) (inputs : List WorkflowInput) : Prop :=
  .established ∈ inputs ∨
    ∃ count, expected = some count ∧ next < count ∧ count ≤ next + resultCount inputs

section Machine

variable (expected : Option ℕ) (workflow : Workflow) (inputs : List WorkflowInput)

/-- Inputs change nothing but the state and the next tick. -/
theorem foldl_handle :
    (inputs.foldl (Workflow.handle expected) workflow).uploadAccepted =
        workflow.uploadAccepted ∧
      (inputs.foldl (Workflow.handle expected) workflow).executionStarted =
        workflow.executionStarted ∧
      (inputs.foldl (Workflow.handle expected) workflow).nextResultTick =
        workflow.nextResultTick + resultCount inputs := by
  induction inputs generalizing workflow with
  | nil => exact ⟨rfl, rfl, rfl⟩
  | cons input inputs ih =>
    obtain ⟨haccepted, hstarted, hnext⟩ := ih (workflow.handle expected input)
    cases input with
    | result message =>
      refine ⟨haccepted, hstarted, ?_⟩
      have hcount : resultCount (.result message :: inputs) = resultCount inputs + 1 := by
        simp [resultCount, List.countP_cons, WorkflowInput.isResult]
      rw [List.foldl_cons, hnext, hcount]
      simp only [Workflow.handle]
      omega
    | established =>
      refine ⟨haccepted, hstarted, ?_⟩
      have hcount : resultCount (.established :: inputs) = resultCount inputs := by
        simp [resultCount, WorkflowInput.isResult]
      rw [List.foldl_cons, hnext, hcount]
      rfl

/-- A running workflow keeps running exactly when no input overtakes it. -/
theorem state_foldl_handle (hrunning : workflow.state = .running) :
    (inputs.foldl (Workflow.handle expected) workflow).state = .running ↔
      ¬Overtaken expected workflow.nextResultTick inputs := by
  induction inputs using List.reverseRecOn with
  | nil =>
    refine ⟨fun _ ↦ ?_, fun _ ↦ hrunning⟩
    rintro (hmem | ⟨count, -, hbefore, hafter⟩)
    · cases hmem
    · exact absurd hafter (Nat.not_le.2 hbefore)
  | append_singleton inputs input ih =>
    obtain ⟨-, -, hnext⟩ := foldl_handle expected workflow inputs
    rw [List.foldl_append, List.foldl_cons, List.foldl_nil]
    cases input with
    | result message =>
      have hcount : resultCount (inputs ++ [.result message]) = resultCount inputs + 1 := by
        simp [resultCount, List.countP_cons, WorkflowInput.isResult]
      have hmem : WorkflowInput.established ∈ inputs ++ [.result message] ↔
          .established ∈ inputs := by simp
      have hstep : ((inputs.foldl (Workflow.handle expected) workflow).handle expected
          (.result message)).state = .running ↔
            expected ≠ some (workflow.nextResultTick + resultCount inputs + 1) ∧
              (inputs.foldl (Workflow.handle expected) workflow).state = .running := by
        rw [Workflow.handle, hnext]
        by_cases hlast : expected = some (workflow.nextResultTick + resultCount inputs + 1)
        · simp [hlast]
        · simp [hlast]
      rw [hstep, ih, Overtaken, Overtaken, hcount, hmem, not_or, not_or]
      constructor
      · rintro ⟨hlast, hsession, hnone⟩
        refine ⟨hsession, ?_⟩
        rintro ⟨count, rfl, hbefore, hafter⟩
        refine hnone ⟨count, rfl, hbefore, ?_⟩
        by_contra hlate
        exact hlast (congrArg some (by omega))
      · rintro ⟨hsession, hnone⟩
        refine ⟨fun hlast ↦ hnone ⟨_, hlast, by omega, by omega⟩, hsession, ?_⟩
        rintro ⟨count, hcount, hbefore, hafter⟩
        exact hnone ⟨count, hcount, hbefore, by omega⟩
    | established =>
      have hmem : WorkflowInput.established ∈ inputs ++ [.established] := by simp
      refine ⟨fun hstate ↦ ?_, fun hnot ↦ absurd (.inl hmem) hnot⟩
      cases hstate

end Machine

/-! ### The workflow of a connection -/

def Connection.workflow (connection : Connection Wire) : Workflow where
  state := connection.workflowState
  uploadAccepted := connection.uploadAccepted
  executionStarted := connection.executionStarted
  nextResultTick := connection.nextResultTick

/-- The number of results the active upload expects. -/
def Connection.expectedTickCount (connection : Connection Wire) : Option ℕ :=
  connection.activeUpload.map fun upload ↦ upload.configuration.expectedTickCount

def Moment.workflowInput (moment : Moment Wire) : Option WorkflowInput :=
  match moment.interaction with
  | .resultCounted message => some (.result message)
  | .event .sessionEstablished => some .established
  | _ => none

/-- The inputs among some moments, oldest first. -/
def workflowInputs (moments : List (Moment Wire)) : List WorkflowInput :=
  (moments.filterMap Moment.workflowInput).reverse

theorem workflow_countResult (connection : Connection Wire) (message : TestResult) :
    connection.countResult.workflow =
      connection.workflow.handle connection.expectedTickCount (.result message) := by
  cases hactive : connection.activeUpload with
  | none =>
    simp [Connection.workflow, Connection.countResult, Connection.expectedTickCount,
      Workflow.handle, hactive]
  | some upload =>
    simp only [Connection.workflow, Connection.countResult, Connection.expectedTickCount,
      Workflow.handle, hactive, Option.map_some, Option.some.injEq]
    simp only [eq_comm]

/-- A control request: an ABORT or a reset that a given state is saved in. -/
structure ApplicationOperation.Controls (operation : ApplicationOperation Wire)
    (previous : WorkflowState) : Prop where
  kind : operation.kind = .abort ∨ operation.kind = .reset
  previous : operation.previousWorkflowState = some previous

/-- A connection without a pending operation, or with a control request pending. -/
def Connection.Controlled (connection : Connection Wire) (previous : Option WorkflowState) : Prop :=
  match previous with
  | none => connection.pendingOperation = none
  | some state => ∃ operation, connection.pendingOperation = some operation ∧
      operation.Controls state

/-- What a step makes of a connection that keeps its request or makes none: nothing the workflow
depends on, another builder, or one input. -/
inductive Effect (previous : Option WorkflowState) (before : Connection Wire) :
    Connection Wire → List WorkflowInput → Prop
  | neutral (after : Connection Wire) (hcontrolled : after.Controlled previous)
      (hactive : after.activeUpload = before.activeUpload)
      (hadapter : after.resultAdapter = before.resultAdapter)
      (hworkflow : after.workflow = before.workflow) : Effect previous before after []
  | bound (builder : BuilderHandle)
      (hfree : before.resultAdapter = none ∨ before.activeUpload = none)
      (hid : ∀ upload, before.activeUpload = some upload →
        builder.applicationTestId = upload.uploadAttempt.applicationTestId) :
      Effect previous before { before with resultAdapter := some builder } []
  | counted (message : TestResult) (hexpected : before.refusesResult message = false)
      (hid : ∃ id, applicationTestIdFromBytes message.testId.bytes = .ok id)
      (hunbound : before.resultAdapter = none) :
      Effect previous before before.countResult [.result message]
  | stored (message : TestResult) (builder : BuilderHandle)
      (submission : Except HilRigError Unit) (result : TickResult)
      (hexpected : before.refusesResult message = false)
      (hid : ∃ id, applicationTestIdFromBytes message.testId.bytes = .ok id)
      (hbound : before.resultAdapter = some builder)
      (hingested : ingestApplicationMessage builder message submission = .ok result) :
      Effect previous before before.countResult [.result message]
  | established :
      Effect previous before
        { before with sessionConfirmed := false, sessionInfo := none, workflowState := .connecting }
        [.established]

/-- An effect is a run of the workflow machine. -/
theorem Effect.workflow {previous : Option WorkflowState} {before after : Connection Wire}
    {inputs : List WorkflowInput} (heffect : Effect previous before after inputs)
    (hcontrolled : before.Controlled previous) :
    after.Controlled previous ∧ after.expectedTickCount = before.expectedTickCount ∧
      after.workflow =
        inputs.foldl (Workflow.handle before.expectedTickCount) before.workflow := by
  cases heffect with
  | neutral _ hafter hactive hadapter hworkflow =>
    refine ⟨hafter, ?_, hworkflow⟩
    rw [Connection.expectedTickCount, Connection.expectedTickCount, hactive]
  | bound builder hfree hid => exact ⟨hcontrolled, rfl, rfl⟩
  | counted message hexpected hid hunbound =>
    exact ⟨hcontrolled, rfl, workflow_countResult before message⟩
  | stored message builder submission result hexpected hid hbound hingested =>
    exact ⟨hcontrolled, rfl, workflow_countResult before message⟩
  | established => exact ⟨hcontrolled, rfl, rfl⟩

section Steps

variable {before after : Ledger Wire} {previous : Option WorkflowState}

/-- The moments a step adds are determined by its histories. -/
theorem notes_eq {notes older newer : List (Moment Wire)} (added : List (Moment Wire))
    (hnotes : newer = notes ++ older) (hadded : newer = added ++ older) : notes = added :=
  List.append_cancel_right (hnotes.symm.trans hadded)

theorem controls_of_request_eq {first second : ApplicationOperation Wire} {state : WorkflowState}
    (hcontrols : first.Controls state) (hrequest : first.request = second.request) :
    second.Controls state := by
  have hprevious : first.request.previousWorkflowState = second.request.previousWorkflowState := by
    rw [hrequest]
  refine ⟨?_, hprevious.symm.trans hcontrols.previous⟩
  rw [← kind_of_request_eq hrequest]
  exact hcontrols.kind

/-- The operation that is pending is the control request that is kept. -/
theorem Connection.Controlled.controls {connection : Connection Wire}
    {operation : ApplicationOperation Wire} (hcontrolled : connection.Controlled previous)
    (hpending : connection.pendingOperation = some operation) :
    ∃ state, previous = some state ∧ operation.Controls state := by
  cases previous with
  | none =>
    rw [Connection.Controlled, hpending] at hcontrolled
    cases hcontrolled
  | some state =>
    obtain ⟨other, hother, hcontrols⟩ := hcontrolled
    rw [hpending] at hother
    cases hother
    exact ⟨state, rfl, hcontrols⟩

/-- A confirmation or a response that does not finish a control request leaves the workflow as it
was. -/
theorem effect_of_handled {middle : Ledger Wire} {notes : List (Moment Wire)}
    (hcontrolled : before.connection.Controlled previous)
    (hhandles : Handles protocol before middle) (hfinishes : Finishes protocol middle after)
    (hnotes : after.history = notes ++ before.history)
    (hkept : after.connection.pendingOperation.isSome) :
    Effect previous before.connection after.connection (workflowInputs notes) := by
  obtain ⟨interaction, operation, progressed, hhistory, hquiet, hpending, hprogressed, hrequest⟩ :=
    Identified.progress_of_handles hhandles
  obtain ⟨state, rfl, hcontrols⟩ := hcontrolled.controls hpending
  have hprogress := controls_of_request_eq hcontrols hrequest
  have hother : progressed.kind.isUpload = false ∧ progressed.kind ≠ .completeTest := by
    rcases hprogress.kind with hkind | hkind <;> rw [hkind] <;> exact ⟨rfl, by decide⟩
  have hsame : ∀ operation, middle.connection.pendingOperation = some operation →
      operation = progressed := by
    intro operation hoperation
    rw [hprogressed] at hoperation
    exact (Option.some.inj hoperation).symm
  have hidle : ∀ {connection : Connection Wire}, connection.pendingOperation = none →
      connection.pendingOperation.isSome → False := by
    intro connection hnone hsome
    rw [hnone] at hsome
    cases hsome
  cases hfinishes with
  | waiting hwaiting =>
    obtain ⟨hactive, -, -, haccepted, hstarted, hstate⟩ := Identified.same_of_handles hhandles
    have hnext : after.connection.nextResultTick = before.connection.nextResultTick := by
      cases hhandles <;> rfl
    have hinput : workflowInputs notes = [] := by
      rw [notes_eq [⟨before.connection, interaction⟩] hnotes hhistory]
      cases hhandles <;> cases hhistory <;> rfl
    have hadapter : after.connection.resultAdapter = before.connection.resultAdapter := by
      cases hhandles <;> rfl
    rw [hinput]
    refine .neutral _ ⟨progressed, hprogressed, hprogress⟩ hactive hadapter ?_
    rw [Connection.workflow, Connection.workflow, hstate, haccepted, hstarted, hnext]
  | refused operation hoperation hready herror =>
    exact (hidle (handleNegativeResponse_idle middle.connection.release operation rfl
      (delivered_of_readyToFinish hready).2.1).1 hkept).elim
  | completed operation hoperation hready herror hkind =>
    exact (hidle (complete_idle middle.connection.release operation rfl
      (delivered_of_readyToFinish hready).2.1).1 hkept).elim
  | continued operation next rest hoperation hready herror hkind hqueue =>
    rw [hsame operation hoperation, hother.1] at hkind
    cases hkind
  | uploaded operation deadline hoperation hready herror hkind hqueue =>
    rw [hsame operation hoperation, hother.1] at hkind
    cases hkind
  | startsImmediately operation upload encoded hoperation hready herror hkind hactive himmediate
      hencoded =>
    rw [hsame operation hoperation] at hkind
    exact absurd hkind hother.2

/-- A step that keeps its control request pending, or that without one makes no request and does not
fail. -/
def KeptBy (previous : Option WorkflowState) (notes : List (Moment Wire))
    (after : Connection Wire) : Prop :=
  match previous with
  | none => (∀ moment ∈ notes, moment.Stays) ∧ after.workflowState ≠ .failed
  | some _ => (∀ moment ∈ notes, moment.Within) ∧ after.pendingOperation.isSome

theorem within_of_keptBy {notes : List (Moment Wire)} {connection : Connection Wire}
    (hkept : KeptBy previous notes connection) : ∀ moment ∈ notes, moment.Within := by
  cases previous with
  | none => exact fun moment hmoment ↦ (hkept.1 moment hmoment).stays
  | some state => exact hkept.1

/-- A step that drops the pending operation and fails the workflow keeps nothing. -/
theorem not_keptBy_of_failed {notes : List (Moment Wire)} {connection : Connection Wire}
    (hstate : connection.workflowState = .failed) (hpending : connection.pendingOperation = none) :
    ¬KeptBy previous notes connection := by
  cases previous with
  | none => exact fun hkept ↦ hkept.2 hstate
  | some state =>
    intro hkept
    have hsome := hkept.2
    rw [hpending] at hsome
    cases hsome

/-- The effect of a step that keeps its request or makes none. -/
theorem effect_of_step {notes : List (Moment Wire)}
    (hcontrolled : before.connection.Controlled previous) (hstep : Step protocol before after)
    (hnotes : after.history = notes ++ before.history)
    (hkept : KeptBy previous notes after.connection) :
    Effect previous before.connection after.connection (workflowInputs notes) := by
  have hwithin := within_of_keptBy hkept
  have hactivated : ∀ {connection : Connection Wire} {operation : ApplicationOperation Wire}
      {rest : List (Moment Wire)}, notes = ⟨connection, .activated operation⟩ :: rest → False := by
    intro connection operation rest hnotes
    have hfirst := hwithin ⟨connection, .activated operation⟩
      (by rw [hnotes]; exact List.mem_cons_self)
    cases hfirst
  have hsame : ∀ added, after.history = added ++ before.history →
      workflowInputs added = [] → after.connection.Controlled previous →
      after.connection.activeUpload = before.connection.activeUpload →
      after.connection.resultAdapter = before.connection.resultAdapter →
      after.connection.workflow = before.connection.workflow →
        Effect previous before.connection after.connection (workflowInputs notes) := by
    intro added hadded hinputs hafter hactive hadapter hworkflow
    rw [notes_eq added hnotes hadded, hinputs]
    exact .neutral _ hafter hactive hadapter hworkflow
  cases hstep with
  | closing answer hopen =>
    cases previous with
    | none => exact hsame [_] rfl rfl rfl rfl rfl rfl
    | some state =>
      have hsome := hkept.2
      cases hsome
  | moved after hopen hmove =>
    cases hmove with
    | serial incoming output offset => exact hsame [] rfl rfl hcontrolled rfl rfl rfl
    | ignored interaction hignored =>
      refine hsame [_] rfl ?_ hcontrolled rfl rfl rfl
      cases hignored <;> rfl
    | failed interaction hfails => exact absurd hkept (not_keptBy_of_failed rfl rfl)
    | timedOut operation deadline hpending hresponse hdeadline =>
      exact absurd hkept (not_keptBy_of_failed rfl rfl)
    | bound builder hfree hid =>
      rw [notes_eq [] hnotes rfl]
      exact .bound builder hfree hid
    | queued compiledTest attempt draws upload encoded hactive hqueue hpending hupload hfresh
        hbuilder hencoded =>
      have hadded := notes_eq [⟨before.connection, .uploadQueued compiledTest upload encoded⟩]
        hnotes rfl
      cases previous with
      | none =>
        have hstays := hkept.1 _ (by rw [hadded]; exact List.mem_cons_self)
        exact absurd rfl (hstays.notQueued compiledTest upload encoded)
      | some state =>
        obtain ⟨operation, hoperation, hcontrols⟩ := hcontrolled
        have hkind := hcontrols.kind
        rw [hpending operation hoperation] at hkind
        rcases hkind with hkind | hkind <;> cases hkind
    | starting upload encoded hactive haccepted hstate hpending hdelivery hencoded htrigger =>
      exact (hactivated (notes_eq [_, _] hnotes rfl)).elim
    | aborting upload encoded hactive hpending hdelivery hencoded =>
      exact (hactivated (notes_eq [_, _] hnotes rfl)).elim
    | resetting encoded hconfirmed hpending hdelivery hencoded =>
      exact (hactivated (notes_eq [_, _] hnotes rfl)).elim
    | discovering encoded hpending hconfirmed hencoded =>
      exact (hactivated (notes_eq [_] hnotes rfl)).elim
    | advancing next rest hpending hconfirmed hqueue =>
      exact (hactivated (notes_eq [_] hnotes rfl)).elim
    | submitted operation message hnext hmay =>
      refine hsame [_] rfl rfl ?_ rfl rfl rfl
      obtain ⟨state, rfl, hcontrols⟩ := hcontrolled.controls (nextMessage_eq_some hnext).1
      exact ⟨_, rfl, hcontrols.kind, hcontrols.previous⟩
    | handled middle after hhandles hfinishes =>
      obtain ⟨-, operation, -, -, -, hpending, -⟩ := Identified.progress_of_handles hhandles
      obtain ⟨state, rfl, -⟩ := hcontrolled.controls hpending
      exact effect_of_handled hcontrolled hhandles hfinishes hnotes hkept.2
    | counted message hexpected hid hunbound =>
      rw [notes_eq [_, _] hnotes rfl]
      exact .counted message hexpected hid hunbound
    | stored message builder submission result hexpected hid hbound hingested =>
      rw [notes_eq [_, _, _] hnotes rfl]
      exact .stored message builder submission result hexpected hid hbound hingested
    | invalidated => exact absurd hkept (not_keptBy_of_failed rfl rfl)
    | established =>
      rw [notes_eq [_] hnotes rfl]
      exact .established

end Steps

/-! ### Courses -/

section Courses

variable (protocol)

/-- Steps that keep a control request pending, or make no request and do not fail, with the inputs
they handle. -/
inductive Course (previous : Option WorkflowState) (start : Ledger Wire) :
    List WorkflowInput → Ledger Wire → Prop
  | refl : Course previous start [] start
  | step (inputs : List WorkflowInput) (before after : Ledger Wire) (notes : List (Moment Wire))
      (hcourse : Course previous start inputs before) (hstep : Step protocol before after)
      (hnotes : after.history = notes ++ before.history)
      (hkept : KeptBy previous notes after.connection) :
      Course previous start (inputs ++ workflowInputs notes) after

/-- An accepted `abort` or `reset_application` request. -/
inductive Requests (ledger : Ledger Wire) : Ledger Wire → Prop
  | abort (upload : FixedIOUploadMessages) (encoded : Wire)
      (hopen : ledger.connection.closed = false)
      (hactive : ledger.connection.activeUpload = some upload)
      (hpending : ledger.connection.pendingOperation = none)
      (hdelivery : ledger.connection.transportDeliveryPending = false)
      (hencoded : protocol.encode (buildAbort upload.uploadAttempt) = .ok encoded) :
      Requests ledger
        ((ledger.note .abortRequested).activate
          (abortOperation upload.uploadAttempt.applicationTestId encoded
            ledger.connection.workflowState))
  | reset (encoded : Wire) (hopen : ledger.connection.closed = false)
      (hconfirmed : ledger.connection.sessionConfirmed = true)
      (hpending : ledger.connection.pendingOperation = none)
      (hdelivery : ledger.connection.transportDeliveryPending = false)
      (hencoded : protocol.encode buildResetApplication = .ok encoded) :
      Requests ledger
        ((ledger.note .resetRequested).activate
          (resetOperation encoded ledger.connection.workflowState))

/-- The step that finishes the pending operation with a REJECTED response. -/
inductive Rejects (ledger : Ledger Wire) : Ledger Wire → Prop
  | rejected (middle : Ledger Wire) (operation : ApplicationOperation Wire)
      (hhandles : Handles protocol ledger middle)
      (hpending : middle.connection.pendingOperation = some operation)
      (hready : middle.connection.readyToFinish operation = true)
      (herror : operation.responseError.isSome)
      (houtcome : operation.responseOutcome = some .rejected) :
      Rejects ledger (middle.become (middle.connection.release.handleNegativeResponse operation))

end Courses

variable {start requested pending final other : Ledger Wire} {inputs : List WorkflowInput}
  {previous : Option WorkflowState}

/-- A course is a run of the workflow machine. -/
theorem Course.workflow (hcourse : Course protocol previous start inputs final)
    (hcontrolled : start.connection.Controlled previous) :
    final.connection.Controlled previous ∧
      final.connection.expectedTickCount = start.connection.expectedTickCount ∧
      final.connection.workflow = inputs.foldl
        (Workflow.handle start.connection.expectedTickCount) start.connection.workflow := by
  induction hcourse with
  | refl => exact ⟨hcontrolled, rfl, rfl⟩
  | step inputs before after notes hcourse hstep hnotes hkept ih =>
    obtain ⟨hbefore, hexpected, hworkflow⟩ := ih
    obtain ⟨hafter, hsame, hhandled⟩ :=
      (effect_of_step hbefore hstep hnotes hkept).workflow hbefore
    refine ⟨hafter, hsame.trans hexpected, ?_⟩
    rw [hhandled, hexpected, hworkflow, List.foldl_append]

/-- An accepted request saves the workflow state. -/
theorem Requests.controlled (hrequests : Requests protocol start requested) :
    start.connection.Controlled none ∧
      requested.connection.Controlled (some start.connection.workflowState) ∧
      requested.connection.expectedTickCount = start.connection.expectedTickCount ∧
      requested.connection.uploadAccepted = start.connection.uploadAccepted ∧
      requested.connection.executionStarted = start.connection.executionStarted ∧
      requested.connection.nextResultTick = start.connection.nextResultTick := by
  cases hrequests with
  | abort upload encoded hopen hactive hpending hdelivery hencoded =>
    exact ⟨hpending, ⟨_, rfl, .inl rfl, rfl⟩, rfl, rfl, rfl, rfl⟩
  | reset encoded hopen hconfirmed hpending hdelivery hencoded =>
    exact ⟨hpending, ⟨_, rfl, .inr rfl, rfl⟩, rfl, rfl, rfl, rfl⟩

/-- A rejection writes the saved state back and changes nothing else of the workflow. -/
theorem Rejects.workflow {state : WorkflowState} (hrejects : Rejects protocol pending final)
    (hcontrolled : pending.connection.Controlled (some state)) :
    final.connection.workflow = { pending.connection.workflow with state := state } := by
  cases hrejects with
  | rejected middle operation hhandles hoperation hready herror houtcome =>
    obtain ⟨-, first, progressed, -, -, hfirst, hprogressed, hrequest⟩ :=
      Identified.progress_of_handles hhandles
    obtain ⟨-, -, -, haccepted, hstarted, -⟩ := Identified.same_of_handles hhandles
    have hnext : middle.connection.nextResultTick = pending.connection.nextResultTick := by
      cases hhandles <;> rfl
    obtain ⟨_, hsaved, hcontrols⟩ := hcontrolled.controls hfirst
    cases hsaved
    rw [hprogressed] at hoperation
    cases hoperation
    have hprogress := controls_of_request_eq hcontrols hrequest
    have hrestored : middle.connection.release.handleNegativeResponse operation =
        { middle.connection.release with workflowState := state } := by
      rcases hprogress.kind with hkind | hkind <;>
        simp only [Connection.handleNegativeResponse, hkind, if_pos houtcome,
          hprogress.previous, Option.getD_some]
    rw [Ledger.become_connection, hrestored]
    simp only [Connection.workflow, Connection.release, haccepted, hstarted, hnext]

/-! ### The same inputs without the request -/

/-- An open connection without a request, in step with one whose request is pending. -/
structure Accompanies (pending other : Connection Wire) : Prop where
  isOpen : other.closed = false
  controlled : other.Controlled none
  active : other.activeUpload = pending.activeUpload
  adapter : other.resultAdapter = pending.resultAdapter
  started : other.executionStarted = pending.executionStarted
  next : other.nextResultTick = pending.nextResultTick
  state : other.workflowState ≠ .failed

section Accompany

variable {connection : Connection Wire} {message : TestResult}

theorem refusesResult_of_accompanies {other : Connection Wire}
    (haccompanies : Accompanies connection other) :
    other.refusesResult message = connection.refusesResult message := by
  rw [Connection.refusesResult, Connection.refusesResult, haccompanies.active,
    haccompanies.started, haccompanies.next]

theorem accompanies_countResult {other : Connection Wire}
    (haccompanies : Accompanies connection other) :
    Accompanies connection.countResult other.countResult := by
  refine ⟨haccompanies.isOpen, haccompanies.controlled, haccompanies.active,
    haccompanies.adapter, haccompanies.started, congrArg (· + 1) haccompanies.next, ?_⟩
  have hstate := haccompanies.state
  simp only [Connection.countResult]
  split
  · split
    · decide
    · exact hstate
  · exact hstate

/-- The moments of a result are no request. -/
theorem stays_of_records {notes : List (Moment Wire)}
    (hnotes : ∀ moment ∈ notes, (∃ message, moment.interaction = .message message) ∨
      (∃ builder result, moment.interaction = .tickStored builder result) ∨
      (∃ message, moment.interaction = .resultCounted message) ∨
      moment.interaction = .event .sessionEstablished) :
    ∀ moment ∈ notes, moment.Stays := by
  intro moment hmoment
  have hkind := hnotes moment hmoment
  obtain ⟨connection, interaction⟩ := moment
  obtain ⟨message, rfl⟩ | ⟨builder, result, rfl⟩ | ⟨message, rfl⟩ | rfl := hkind <;>
    exact ⟨rfl, fun _ _ _ h ↦ by cases h⟩

/-- A connection in step with another takes the other's effect as a step of its own. -/
theorem step_of_effect (protocol : NativeProtocol Wire) {state : WorkflowState}
    {after : Connection Wire}
    {handled : List WorkflowInput} {other : Ledger Wire}
    (haccompanies : Accompanies connection other.connection)
    (heffect : Effect (some state) connection after handled) :
    Accompanies after other.connection ∧ handled = [] ∨
      ∃ ledger notes, Step protocol other ledger ∧ ledger.history = notes ++ other.history ∧
        KeptBy none notes ledger.connection ∧ workflowInputs notes = handled ∧
        Accompanies after ledger.connection := by
  cases heffect with
  | neutral _ hcontrolled hactive hadapter hworkflow =>
    have hstarted : after.executionStarted = connection.executionStarted :=
      congrArg Workflow.executionStarted hworkflow
    have hnext : after.nextResultTick = connection.nextResultTick :=
      congrArg Workflow.nextResultTick hworkflow
    refine .inl ⟨⟨haccompanies.isOpen, haccompanies.controlled, ?_, ?_, ?_, ?_,
      haccompanies.state⟩, rfl⟩
    · rw [haccompanies.active, hactive]
    · rw [haccompanies.adapter, hadapter]
    · rw [haccompanies.started, hstarted]
    · rw [haccompanies.next, hnext]
  | bound builder hfree hid =>
    rw [← haccompanies.adapter, ← haccompanies.active] at hfree
    rw [← haccompanies.active] at hid
    refine .inr ⟨_, [], .moved _ haccompanies.isOpen (.bound builder hfree hid), rfl, ⟨?_, ?_⟩,
      rfl, ?_⟩
    · intro moment hmoment
      cases hmoment
    · exact haccompanies.state
    · exact ⟨haccompanies.isOpen, haccompanies.controlled, haccompanies.active, rfl,
        haccompanies.started, haccompanies.next, haccompanies.state⟩
  | counted message hexpected hid hunbound =>
    rw [← refusesResult_of_accompanies haccompanies] at hexpected
    rw [← haccompanies.adapter] at hunbound
    have hafter := accompanies_countResult haccompanies
    refine .inr ⟨_, [_, _], .moved _ haccompanies.isOpen (.counted message hexpected hid hunbound),
      rfl, ⟨stays_of_records ?_, hafter.state⟩, rfl, hafter⟩
    simp [Ledger.note]
  | stored message builder submission result hexpected hid hbound hingested =>
    rw [← refusesResult_of_accompanies haccompanies] at hexpected
    rw [← haccompanies.adapter] at hbound
    have hafter := accompanies_countResult haccompanies
    refine .inr ⟨_, [_, _, _],
      .moved _ haccompanies.isOpen
        (.stored message builder submission result hexpected hid hbound hingested),
      rfl, ⟨stays_of_records ?_, hafter.state⟩, rfl, hafter⟩
    simp [Ledger.note]
  | established =>
    refine .inr ⟨_, [_], .moved _ haccompanies.isOpen .established, rfl,
      ⟨stays_of_records ?_, (fun h ↦ by cases h)⟩, rfl, ?_⟩
    · simp
    · exact ⟨haccompanies.isOpen, haccompanies.controlled, haccompanies.active,
        haccompanies.adapter, haccompanies.started, haccompanies.next, (fun h ↦ by cases h)⟩

end Accompany

/-- The inputs handled while a request is pending can be handled without it. -/
theorem Course.accompanied {state : WorkflowState}
    (hcourse : Course protocol (some state) requested inputs pending)
    (hcontrolled : requested.connection.Controlled (some state))
    (hstart : Accompanies requested.connection start.connection) :
    ∃ other, Course protocol none start inputs other ∧
      Accompanies pending.connection other.connection := by
  induction hcourse with
  | refl => exact ⟨start, .refl, hstart⟩
  | step inputs before after notes hcourse hstep hnotes hkept ih =>
    obtain ⟨other, hother, haccompanies⟩ := ih
    have heffect := effect_of_step (hcourse.workflow hcontrolled).1 hstep hnotes hkept
    obtain ⟨hafter, hnone⟩ | ⟨ledger, moments, hmoved, hhistory, hkeeps, hsame, hafter⟩ :=
      step_of_effect protocol haccompanies heffect
    · rw [hnone, List.append_nil]
      exact ⟨other, hother, hafter⟩
    · rw [← hsame]
      exact ⟨ledger, hother.step _ _ _ moments hmoved hhistory hkeeps, hafter⟩

theorem Requests.accompanies (hrequests : Requests protocol start requested)
    (hstate : start.connection.workflowState ≠ .failed) :
    Accompanies requested.connection start.connection := by
  cases hrequests with
  | abort upload encoded hopen hactive hpending hdelivery hencoded =>
    exact ⟨hopen, hpending, rfl, rfl, rfl, rfl, hstate⟩
  | reset encoded hopen hconfirmed hpending hdelivery hencoded =>
    exact ⟨hopen, hpending, rfl, rfl, rfl, rfl, hstate⟩

/-! ### The rejected request -/

/-- A request made while results are received, and rejected, leaves the workflow as the same inputs
without it do exactly when none of them overtakes the saved state. -/
theorem workflow_rejected_iff (hrunning : start.connection.workflowState = .running)
    (hrequests : Requests protocol start requested)
    (hcourse : Course protocol (some .running) requested inputs pending)
    (hrejects : Rejects protocol pending final) :
    (∃ other, Course protocol none start inputs other) ∧
      ∀ other, Course protocol none start inputs other →
        (final.connection.workflow = other.connection.workflow ↔
          ¬Overtaken start.connection.expectedTickCount start.connection.nextResultTick
            inputs) := by
  obtain ⟨hidle, hcontrolled, hexpected, haccepted, hstarted, hnext⟩ := hrequests.controlled
  rw [hrunning] at hcontrolled
  have hlive : start.connection.workflowState ≠ .failed := by
    rw [hrunning]
    decide
  obtain ⟨other, hother, -⟩ := hcourse.accompanied hcontrolled (hrequests.accompanies hlive)
  refine ⟨⟨other, hother⟩, fun other hother ↦ ?_⟩
  obtain ⟨hpending, -, hdrained⟩ := hcourse.workflow hcontrolled
  obtain ⟨-, -, hworkflow⟩ := hother.workflow hidle
  obtain ⟨hfoldAccepted, hfoldStarted, hfoldNext⟩ :=
    foldl_handle requested.connection.expectedTickCount requested.connection.workflow inputs
  obtain ⟨hsameAccepted, hsameStarted, hsameNext⟩ :=
    foldl_handle start.connection.expectedTickCount start.connection.workflow inputs
  have hkeeps := state_foldl_handle start.connection.expectedTickCount start.connection.workflow
    inputs hrunning
  have hfinal : final.connection.workflow =
      { other.connection.workflow with state := .running } := by
    rw [hrejects.workflow hpending, hdrained, hworkflow]
    simp only [Workflow.mk.injEq, true_and]
    refine ⟨?_, ?_, ?_⟩
    · rw [hfoldAccepted, hsameAccepted]
      exact haccepted
    · rw [hfoldStarted, hsameStarted]
      exact hstarted
    · rw [hfoldNext, hsameNext]
      exact congrArg (· + resultCount inputs) hnext
  rw [hfinal, ← hworkflow] at *
  refine Iff.trans ⟨fun hsame ↦ ?_, fun hstate ↦ ?_⟩ hkeeps
  · exact (congrArg Workflow.state hsame).symm
  · rw [← hstate]

/-! ### Concrete runs -/

/-- An ABORT of a running test can be requested, submitted, followed by a result, confirmed and
rejected. -/
theorem exists_rejects (protocol : NativeProtocol Wire) {start : Ledger Wire}
    {upload : FixedIOUploadMessages} {encoded : Wire} {message : TestResult}
    (hopen : start.connection.closed = false)
    (hactive : start.connection.activeUpload = some upload)
    (hpending : start.connection.pendingOperation = none)
    (hdelivery : start.connection.transportDeliveryPending = false)
    (hconfirmed : start.connection.sessionConfirmed = true)
    (hunbound : start.connection.resultAdapter = none)
    (hencoded : protocol.encode (buildAbort upload.uploadAttempt) = .ok encoded)
    (hexpected : start.connection.refusesResult message = false)
    (hid : applicationTestIdFromBytes message.testId.bytes =
      .ok upload.uploadAttempt.applicationTestId) :
    ∃ requested pending final, Requests protocol start requested ∧
      Course protocol (some start.connection.workflowState) requested [.result message] pending ∧
      Rejects protocol pending final := by
  let operation : ApplicationOperation Wire :=
    abortOperation upload.uploadAttempt.applicationTestId encoded start.connection.workflowState
  let response : ApplicationResponse :=
    { testId := some message.testId, scope := .executionControl, outcome := .rejected,
      controlCommand := .abort }
  have hmatch : ∀ index deadline, responseMismatch
      { operation with nextMessageIndex := index, responseDeadline := deadline }
      .executionControl response = .ok none := by
    intro index deadline
    simp [responseMismatch, response, operation, abortOperation, hid, bind, Except.bind, pure,
      Except.pure]
  have hquiet : ∀ {moment : Moment Wire}, moment.Within → ∀ other ∈ [moment], other.Within := by
    intro moment hwithin other hother
    rw [List.mem_singleton.1 hother]
    exact hwithin
  let submitted : ApplicationOperation Wire := { operation with nextMessageIndex := 1 }
  let delivered : ApplicationOperation Wire := { submitted with responseDeadline := some 0 }
  let requested : Ledger Wire := (start.note .abortRequested).activate operation
  let waiting : Ledger Wire := (requested.note (.submitted encoded .ok)).become
    { requested.connection with
      transportDeliveryPending := true
      pendingOperation := some submitted }
  let counted : Ledger Wire := ((waiting.note (.message (.testResult message))).note
    (.resultCounted message)).become waiting.connection.countResult
  let confirmed : Ledger Wire := (counted.note (.event .deliveryConfirmed)).become
    (counted.connection.confirmDelivery submitted 0)
  have hsubmitted : Move protocol requested waiting :=
    .submitted operation encoded rfl ⟨hdelivery, .inr hconfirmed⟩
  have hcounted : Move protocol waiting counted :=
    .counted message hexpected ⟨_, hid⟩ hunbound
  have hconfirmed : Move protocol counted confirmed :=
    .handled _ _ (.confirmed submitted 0 rfl rfl) (.waiting fun other hother ↦ by cases hother; rfl)
  have hwaits : Course protocol (some start.connection.workflowState) requested [] waiting :=
    .step [] requested waiting [_] .refl (.moved _ hopen hsubmitted) rfl ⟨hquiet rfl, rfl⟩
  have hcounts : Course protocol (some start.connection.workflowState) requested
      [.result message] counted := by
    refine hwaits.step [] waiting counted [_, _] (.moved _ hopen hcounted) rfl ⟨?_, rfl⟩
    intro moment hmoment
    simp only [List.mem_cons, List.not_mem_nil, or_false] at hmoment
    rcases hmoment with rfl | rfl <;> rfl
  have hconfirms : Course protocol (some start.connection.workflowState) requested
      [.result message] confirmed :=
    hcounts.step [.result message] counted confirmed [_] (.moved _ hopen hconfirmed) rfl
      ⟨hquiet rfl, rfl⟩
  obtain ⟨final, hrejects⟩ : ∃ final, Rejects protocol confirmed final :=
    ⟨_, .rejected _ _ (.answered delivered .executionControl response rfl rfl (hmatch 1 (some 0)))
      rfl rfl rfl rfl⟩
  exact ⟨requested, confirmed, final,
    .abort upload encoded hopen hactive hpending hdelivery hencoded, hconfirms, hrejects⟩

def resultMessage (tick : ℕ) : TestResult where
  testId := attemptTestId
  tickNumber := tick
  digitalInputs := List.replicate 10 false
  analogInputs := [0, 0]
  pwmInputs := [⟨0, 0⟩, ⟨0, 0⟩]
  condition := .ok
  problemDetail := 0

/-- A test of two ticks that starts by itself, up to its START. -/
def startedCalls : List (Call (OutboundMessage ⊕ InboundMessage)) :=
  connectedCalls .immediate ++
    [.service { firstDrain := ⟨[.deliveryConfirmed],
      [responseFrame .testConfiguration .accepted .invalid]⟩ },
    .service {
      firstDrain := ⟨[], [responseFrame .completeTest .accepted .invalid]⟩
      submitStatus := .ok .ok },
    .service { firstDrain := ⟨[.deliveryConfirmed],
      [responseFrame .executionControl .completed .start]⟩ }]

/-- A pass that handles the results of some ticks. -/
def resultsCall (ticks : List ℕ) : Call (OutboundMessage ⊕ InboundMessage) :=
  .service { firstDrain :=
    ⟨[], ticks.map fun tick ↦ ⟨.inr (.testResult (resultMessage tick)), .ok ()⟩⟩ }

/-- The first of two results arrives while an ABORT is pending, and overtakes nothing. -/
theorem workflow_rejected_iff_firstResult :
    ∃ start requested pending final : Ledger (OutboundMessage ⊕ InboundMessage),
      start = (run directCodec (Host.create 5 id none) startedCalls).toLedger ∧
      Requests directCodec start requested ∧
      Course directCodec (some .running) requested [.result (resultMessage 0)] pending ∧
      Rejects directCodec pending final ∧
      ∀ other, Course directCodec none start [.result (resultMessage 0)] other →
        (final.connection.workflow = other.connection.workflow ↔
          ¬Overtaken start.connection.expectedTickCount start.connection.nextResultTick
            [.result (resultMessage 0)]) := by
  generalize hstart : (run directCodec (Host.create 5 id none) startedCalls).toLedger = start
  have hopen : start.connection.closed = false := by
    rw [← hstart]
    decide +kernel
  have hrunning : start.connection.workflowState = .running := by
    rw [← hstart]
    decide +kernel
  have hpending : start.connection.pendingOperation = none := by
    rw [← hstart, ← Option.isNone_iff_eq_none]
    decide +kernel
  have hdelivery : start.connection.transportDeliveryPending = false := by
    rw [← hstart]
    decide +kernel
  have hconfirmed : start.connection.sessionConfirmed = true := by
    rw [← hstart]
    decide +kernel
  have hunbound : start.connection.resultAdapter = none := by
    rw [← hstart]
    decide +kernel
  have hexpected : start.connection.refusesResult (resultMessage 0) = false := by
    rw [← hstart]
    decide +kernel
  have hid : (start.connection.activeUpload.map fun upload ↦
      upload.uploadAttempt.applicationTestId) = some 7 := by
    rw [← hstart]
    decide +kernel
  obtain ⟨upload, hactive, hid⟩ := Option.map_eq_some_iff.1 hid
  have hdecoded : applicationTestIdFromBytes (resultMessage 0).testId.bytes =
      .ok upload.uploadAttempt.applicationTestId := by
    rw [hid]
    decide
  obtain ⟨requested, pending, final, hrequests, hcourse, hrejects⟩ :=
    exists_rejects directCodec hopen hactive hpending hdelivery hconfirmed hunbound
      rfl hexpected hdecoded
  rw [hrunning] at hcourse
  exact ⟨start, requested, pending, final, rfl, hrequests, hcourse, hrejects,
    (workflow_rejected_iff hrunning hrequests hcourse hrejects).2⟩

/-- An ABORT is requested after the first of two results, and rejected after the second. -/
def rejectedCalls : List (Call (OutboundMessage ⊕ InboundMessage)) :=
  startedCalls ++
    [resultsCall [0], .abort, .service { submitStatus := .ok .ok }, resultsCall [1],
      .service { firstDrain := ⟨[.deliveryConfirmed],
        [responseFrame .executionControl .rejected .abort]⟩ }]

/-- The same results without the ABORT. -/
def undisturbedCalls : List (Call (OutboundMessage ⊕ InboundMessage)) :=
  startedCalls ++ [resultsCall [0], resultsCall [1]]

/-- The rejected ABORT takes the completion of the results back. -/
theorem workflow_rejectedCalls_ne :
    (run directCodec (Host.create 5 id none) rejectedCalls).connection.workflow ≠
        (run directCodec (Host.create 5 id none) undisturbedCalls).connection.workflow ∧
      ((run directCodec (Host.create 5 id none)
        rejectedCalls).connection.lastApplicationResponse.map ApplicationResponse.outcome) =
          some .rejected ∧
      (run directCodec (Host.create 5 id none) rejectedCalls).connection.nextResultTick = 2 ∧
      (run directCodec (Host.create 5 id none) rejectedCalls).connection.workflowState =
        .running ∧
      (run directCodec (Host.create 5 id none) undisturbedCalls).connection.workflowState =
        .resultsComplete := by
  decide +kernel

end HilRig.Protocol
