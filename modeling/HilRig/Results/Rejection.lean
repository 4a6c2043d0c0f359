import HilRig.Results.Finalization

/-!
# A finalization refused for its status

The status of a finalize request is checked by the writer, after the builder stopped accepting
calls, and an error of the writer is final. So a finalization that is refused only because of its
status commits every record before it, but leaves the capture in progress for good: no later
finalization is accepted (`not_recoverable_of_refused`).
-/

set_option autoImplicit false
set_option relaxedAutoImplicit false

namespace HilRig.Results

open HilRig.Foundations Relation

/-- A status that `finalize` refuses: that of a running capture, or `COMPLETE` while an expected
tick is missing. -/
def CaptureStatus.RefusedFor (status : CaptureStatus) (database : CaptureDatabase) : Prop :=
  status = .inProgress ∨ status = .complete ∧ ¬database.fixedTicksComplete = true

/-- The writer serves a finalize request: its pending records are committed, and then the requested
status is refused. -/
structure RefusedForStatus (settings : BuilderSettings) (faults : ℕ → Option HilRigError)
    (before : BuilderState) (request : ControlRequest) (after : BuilderState) : Prop where
  looping : before.phase = .looping
  queued : ∃ rest, before.queue = .control request :: rest
  refused : ∃ status flushed, request.action = .finalize (some status) ∧
    writeBatch faults before.pendingTicks before.pendingCommunications before.pendingErrors
      before.session = .ok () flushed ∧ status.RefusedFor flushed.committed
  step : before.process settings faults = some after

/-- What a refused finalization is to leave: the records before it are committed, and some later
finalization writes a terminal status. -/
structure Recoverable (settings : BuilderSettings) (faults : ℕ → Option HilRigError)
    (request : ControlRequest) (after : BuilderState) : Prop where
  committed : ∃ stored, request.admitted <+: stored ∧ after.session.committed.Holds stored
  finalizable : ∃ later, ReflTransGen (BuilderStep settings faults) after later ∧
    later.session.committed.status ≠ .inProgress

section Failures

variable {settings : BuilderSettings} {faults : ℕ → Option HilRigError}
  {before after state : BuilderState}

/-- The error of a writer stays. -/
theorem workerError_of_step {label : BuilderLabel} (hrecording : Recording settings before)
    (hfailed : before.workerError ≠ none)
    (hstep : before.step settings faults label = some after) : after.workerError ≠ none := by
  have hwriter (hwriter : WriterStep before after) : after.workerError ≠ none := by
    intro hnone
    exact hfailed (hrecording.worker.2
      (hwriter.sound ((hrecording.step hstep).worker.1 hnone)))
  cases label with
  | enqueue thread =>
    simp only [BuilderState.step, BuilderState.enqueue] at hstep
    repeat' split at hstep
    all_goals cases hstep
    all_goals exact hfailed
  | start | process | timeout | answerActive | drain | close =>
    exact hwriter (writerStep_step rfl hrecording hstep)
  | _ =>
    obtain ⟨_, _, _, _, rfl, -⟩ := callerStep_of_step rfl hstep
    exact hfailed

/-- Once its writer failed, a builder refuses every call, and its capture stays as it is, in
progress. -/
theorem stuck_of_workerError (hrecording : Recording settings state)
    (hfailed : state.workerError ≠ none) {later : BuilderState}
    (hlater : ReflTransGen (BuilderStep settings faults) state later) :
    later.refuses = true ∧ later.session.committed = state.session.committed ∧
      later.session.committed.status = .inProgress := by
  have hrest : Recording settings later ∧ later.workerError ≠ none ∧
      later.session.committed = state.session.committed := by
    induction hlater with
    | refl => exact ⟨hrecording, hfailed, rfl⟩
    | tail _ hstep ih =>
      obtain ⟨label, hstep⟩ := hstep
      obtain ⟨hrecording, hfailed, hcommitted⟩ := ih
      exact ⟨hrecording.step hstep, workerError_of_step hrecording hfailed hstep,
        (committed_eq_of_workerError hrecording hfailed hstep).trans hcommitted⟩
  obtain ⟨hrecording, hfailed, hcommitted⟩ := hrest
  refine ⟨?_, hcommitted, hrecording.open_status fun hphase ↦ hfailed (hrecording.worker.2 ?_)⟩
  · rw [BuilderState.refuses, Option.isSome_iff_ne_none.2 hfailed, Bool.true_or]
  · rw [hphase]
    rfl

/-- A refused finalization fails the writer, after it committed the records before the request. -/
theorem failed_of_refused {request : ControlRequest} (hrecording : Recording settings before)
    (hrefused : RefusedForStatus settings faults before request after) :
    after.workerError ≠ none ∧
      after.session.committed.Holds (recordsOf before.trace.processed) := by
  obtain ⟨rest, hqueue⟩ := hrefused.queued
  obtain ⟨status, flushed, haction, hwrite, hstatus⟩ := hrefused.refused
  have hlooping := hrefused.looping
  have htaken := hrecording.takeControl hlooping hqueue
  have hruns : (before.take (.control request) rest).phase.runs = true := by
    simp [BuilderState.take, hlooping, WriterPhase.runs]
  obtain ⟨hworking, happends⟩ : flushed.working = none ∧ Appends before.pendingTicks
      before.pendingCommunications before.pendingErrors before.session.committed
        flushed.committed := by
    rcases @writeBatch_cases faults _ before.pendingTicks before.pendingCommunications
      before.pendingErrors (htaken.running hruns).1 with
      ⟨written, hwritten, hworking, happends⟩ | ⟨error, written, hwritten, -⟩
    · rw [show writeBatch faults before.pendingTicks before.pendingCommunications
        before.pendingErrors before.session = _ from hwritten] at hwrite
      cases hwrite
      exact ⟨hworking, happends⟩
    · rw [show writeBatch faults before.pendingTicks before.pendingCommunications
        before.pendingErrors before.session = _ from hwritten] at hwrite
      cases hwrite
  have hholds : flushed.committed.Holds (recordsOf before.trace.processed) := by
    have hflushed := (htaken.flushed hruns hworking happends).holds
    simp only [BuilderState.flushed, BuilderState.take, recordsOf_append, recordsOf_control,
      List.append_nil] at hflushed
    exact hflushed
  obtain ⟨error, finished, hfinish, hcommitted⟩ : ∃ error finished,
      finalizeCapture faults (some status) flushed = .error error finished ∧
        finished.committed = flushed.committed := by
    rcases @finalizeCapture_cases faults flushed (some status) hworking with
      ⟨finished, hfinish, -, -, hcomplete⟩ | hfailure
    · rcases hstatus with hprogress | ⟨hcompleted, hmissing⟩
      · exact absurd hprogress (finalizeCapture_ne_inProgress hfinish)
      · exact absurd (hcomplete hcompleted) hmissing
    · exact hfailure
  have hstep := hrefused.step
  unfold BuilderState.process at hstep
  rw [hlooping, hqueue] at hstep
  have hserved : some ((before.take (.control request) rest).flushPending faults (some request)
      fun flushed ↦ flushed.serve faults request) = some after := hstep
  unfold BuilderState.flushPending at hserved
  rw [show writeBatch faults (before.take (.control request) rest).pendingTicks
    (before.take (.control request) rest).pendingCommunications
    (before.take (.control request) rest).pendingErrors
    (before.take (.control request) rest).session = .ok () flushed from hwrite] at hserved
  simp only [BuilderState.serve, haction] at hserved
  rw [show finalizeCapture faults (some status)
    ((before.take (.control request) rest).flushed flushed).session = .error error finished
    from hfinish] at hserved
  rw [← Option.some.inj hserved]
  refine ⟨by simp [BuilderState.fail], ?_⟩
  show finished.committed.Holds _
  rw [hcommitted]
  exact hholds

/-- A finalization refused for its status commits every record before it, and then it is never what
it is to be: the capture stays in progress in every later state, and every later call is refused. -/
theorem not_recoverable_of_refused {request : ControlRequest}
    (hrun : ReflTransGen (BuilderStep settings faults) (.initial settings) before)
    (hrefused : RefusedForStatus settings faults before request after) :
    (∃ stored, request.admitted <+: stored ∧ after.session.committed.Holds stored) ∧
      (∀ later, ReflTransGen (BuilderStep settings faults) after later →
        later.refuses = true ∧ later.session.committed = after.session.committed ∧
          later.session.committed.status = .inProgress) ∧
      ¬Recoverable settings faults request after := by
  have hrecording := recording_run hrun
  obtain ⟨hfailed, hholds⟩ := failed_of_refused hrecording hrefused
  have hstuck (later : BuilderState)
      (hlater : ReflTransGen (BuilderStep settings faults) after later) :=
    stuck_of_workerError (hrecording.step (show before.step settings faults .process = some after
      from hrefused.step)) hfailed hlater
  refine ⟨⟨_, ?_, hholds⟩, hstuck, ?_⟩
  · obtain ⟨rest, hqueue⟩ := hrefused.queued
    exact (barrier_run hrun).queued before.trace.processed request rest
      (by rw [BuilderState.arrivals, hqueue])
  · rintro ⟨-, later, hlater, hterminal⟩
    exact hterminal (hstuck later hlater).2.2

end Failures

/-! ### A finalization that asks for too much -/

section Example

/-- A capture of two ticks. -/
def twoTicks : BuilderSettings :=
  ⟨2, by decide, 10, by decide, 10, by decide⟩

/-- One of the two ticks is added, and then the capture is finalized as complete. -/
def prematureRun : List BuilderLabel :=
  [.start none, .add 0 (.tick (.executionProblem 0 none)), .recheck 0, .enqueue 0, .process,
    .finalize 0 (some .complete), .recheck 0, .enqueue 0]

/-- The finalize request of that run. -/
def prematureRequest : ControlRequest :=
  ⟨0, .finalize (some .complete), [.tick (.executionProblem 0 none)]⟩

/-- The capture at the request, with the added tick committed. -/
def prematureDatabase : CaptureDatabase where
  expectedTickCount := 2
  expectedTickCount_pos := by decide
  receivedTickCount := 1
  firstTick := some 0
  lastTick := some 0
  tickResults := [tickParameters (.executionProblem 0 none)]

/-- What a write has committed when it returns. -/
def committedBy (result : EStateM.Result HilRigError (Session CaptureDatabase) Unit) :
    Option CaptureDatabase :=
  match result with
  | .ok _ flushed => some flushed.committed
  | .error _ _ => none

theorem refusedForStatus_prematureRun : ∃ before after,
    (BuilderState.initial twoTicks).run twoTicks (fun _ ↦ none) prematureRun = some before ∧
      RefusedForStatus twoTicks (fun _ ↦ none) before prematureRequest after := by
  have hrun : ((BuilderState.initial twoTicks).run twoTicks (fun _ ↦ none) prematureRun).map
      (fun state ↦ (state.phase, state.queue, (state.process twoTicks fun _ ↦ none).isSome,
        committedBy (writeBatch (fun _ ↦ none) state.pendingTicks state.pendingCommunications
          state.pendingErrors state.session))) =
      some (.looping, [.control prematureRequest], true, some prematureDatabase) := by
    decide +kernel
  obtain ⟨before, hbefore, hresult⟩ := Option.map_eq_some_iff.1 hrun
  simp only [Prod.mk.injEq] at hresult
  obtain ⟨hphase, hqueue, hprocess, hwrite⟩ := hresult
  obtain ⟨after, hafter⟩ := Option.isSome_iff_exists.1 hprocess
  refine ⟨before, after, hbefore, hphase, ⟨[], hqueue⟩, ?_, hafter⟩
  unfold committedBy at hwrite
  split at hwrite
  · rename_i flushed hflushed
    refine ⟨.complete, flushed, rfl, hflushed, .inr ⟨rfl, ?_⟩⟩
    rw [Option.some.inj hwrite]
    decide
  · cases hwrite

/-- The added tick is committed, and the capture stays in progress. -/
theorem not_recoverable_prematureRun : ∃ before after,
    RefusedForStatus twoTicks (fun _ ↦ none) before prematureRequest after ∧
      ¬Recoverable twoTicks (fun _ ↦ none) prematureRequest after := by
  obtain ⟨before, after, hrun, hrefused⟩ := refusedForStatus_prematureRun
  exact ⟨before, after, hrefused,
    (not_recoverable_of_refused (reflTransGen_of_run hrun) hrefused).2.2⟩

/-- So a refused finalization is not always recoverable. -/
theorem not_recoverable_always : ¬∀ (settings : BuilderSettings)
    (faults : ℕ → Option HilRigError) (before after : BuilderState) (request : ControlRequest),
    ReflTransGen (BuilderStep settings faults) (.initial settings) before →
      RefusedForStatus settings faults before request after →
        Recoverable settings faults request after := by
  intro halways
  obtain ⟨before, after, hrun, hrefused⟩ := refusedForStatus_prematureRun
  obtain ⟨-, later, hlater, hterminal⟩ :=
    halways twoTicks _ before after prematureRequest (reflTransGen_of_run hrun) hrefused
  have hrecording := recording_run (reflTransGen_of_run hrun)
  have hfailed := (failed_of_refused hrecording hrefused).1
  exact hterminal (stuck_of_workerError (hrecording.step (show before.step twoTicks _ .process =
    some after from hrefused.step)) hfailed hlater).2.2

end Example

end HilRig.Results
