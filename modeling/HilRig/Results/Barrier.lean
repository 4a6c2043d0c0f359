import HilRig.Results.Recording

/-!
# Flushes and finalizations as barriers

A request carries the records that were handed over before it was made. `Barrier` says that they
precede it in the queue, that they are committed once the request is answered without an error, and
that they are in the capture its caller reads. `WriterStep` is what every step of the writer does to
the queue, the answers and the committed records. `completed_run` is the result: a call that returns
reports only what is committed, and it reports all that was added before it.
-/

set_option autoImplicit false
set_option relaxedAutoImplicit false

namespace HilRig.Results

open HilRig.Foundations Relation

/-! ### Steps of the writer -/

/-- A step of the writer loop, or of what follows it. -/
def BuilderLabel.byWriter : BuilderLabel → Bool
  | .start _ | .process | .timeout | .answerActive | .drain | .close => true
  | _ => false

/-- What the writer changes: it takes items in order, commits more records, and answers requests,
without an error only the last one it took, when all it took is committed. -/
structure WriterStep (before after : BuilderState) : Prop where
  calls : after.calls = before.calls
  accepting : after.accepting = before.accepting
  nextIdentifier : after.nextIdentifier = before.nextIdentifier
  history : after.trace.history = before.trace.history
  arrivals : after.arrivals = before.arrivals
  processed : before.trace.processed <+: after.trace.processed
  stored : before.trace.stored <+: after.trace.stored
  unfinished : before.phase ≠ .finalized
  sound : after.phase.sound = true → before.phase.sound = true
  answered : ∀ request, before.answers request ≠ none → after.answers request ≠ none
  succeeded : ∀ request, after.answers request = some none → before.answers request = some none ∨
    (∃ older, after.trace.processed = older ++ [.control request]) ∧
      after.trace.stored = recordsOf after.trace.processed ∧
      (request.action = .flush ∨ after.phase = .finalized)
  served : after.phase.sound = true → ∀ request, .control request ∈ after.trace.processed →
    .control request ∈ before.trace.processed ∨ after.answers request ≠ none

section WriterSteps

variable {settings : BuilderSettings} {faults : ℕ → Option HilRigError}
  {before after state : BuilderState} {request : ControlRequest} {record : Record}
  {rest : List QueueItem} {session : Session CaptureDatabase}

theorem answer_answers (error : Option HilRigError) (other : ControlRequest) :
    (state.answer request error).answers other =
      if other = request then some error else state.answers other := by
  simp only [BuilderState.answer, Function.update_apply]

theorem answered_answer (error : Option HilRigError) (other : ControlRequest)
    (hanswered : state.answers other ≠ none) :
    (state.answer request error).answers other ≠ none := by
  rw [answer_answers]
  split
  · simp
  · exact hanswered

/-- Nothing is taken and nothing is answered. -/
theorem writerStep_still (hunfinished : before.phase ≠ .finalized)
    (hsound : after.phase.sound = true → before.phase.sound = true)
    (hcalls : after.calls = before.calls) (haccepting : after.accepting = before.accepting)
    (hidentifier : after.nextIdentifier = before.nextIdentifier)
    (hhistory : after.trace.history = before.trace.history)
    (hqueue : after.queue = before.queue)
    (hprocessed : after.trace.processed = before.trace.processed)
    (hstored : before.trace.stored <+: after.trace.stored)
    (hanswers : after.answers = before.answers) : WriterStep before after where
  calls := hcalls
  accepting := haccepting
  nextIdentifier := hidentifier
  history := hhistory
  arrivals := by rw [BuilderState.arrivals, hqueue, hprocessed, BuilderState.arrivals]
  processed := by rw [hprocessed]
  stored := hstored
  unfinished := hunfinished
  sound := hsound
  answered request hanswered := by rwa [hanswers]
  succeeded request hanswer := by
    rw [hanswers] at hanswer
    exact .inl hanswer
  served _ request hrequest := by
    rw [hprocessed] at hrequest
    exact .inl hrequest

theorem pend_frame : (state.pend record).calls = state.calls ∧
    (state.pend record).accepting = state.accepting ∧
    (state.pend record).nextIdentifier = state.nextIdentifier ∧
    (state.pend record).trace = state.trace ∧ (state.pend record).queue = state.queue ∧
    (state.pend record).answers = state.answers ∧ (state.pend record).phase = state.phase := by
  cases record <;> exact ⟨rfl, rfl, rfl, rfl, rfl, rfl, rfl⟩

/-- A record is taken, and perhaps more records are committed. -/
theorem writerStep_record (hunfinished : before.phase ≠ .finalized)
    (hsound : after.phase.sound = true → before.phase.sound = true)
    (hqueue : before.queue = .record record :: rest)
    (hcalls : after.calls = before.calls) (haccepting : after.accepting = before.accepting)
    (hidentifier : after.nextIdentifier = before.nextIdentifier)
    (hhistory : after.trace.history = before.trace.history) (hrest : after.queue = rest)
    (hprocessed : after.trace.processed = before.trace.processed ++ [.record record])
    (hstored : before.trace.stored <+: after.trace.stored)
    (hanswers : after.answers = before.answers) : WriterStep before after where
  calls := hcalls
  accepting := haccepting
  nextIdentifier := hidentifier
  history := hhistory
  arrivals := by simp [BuilderState.arrivals, hqueue, hprocessed, hrest]
  processed := by
    rw [hprocessed]
    exact List.prefix_append _ _
  stored := hstored
  unfinished := hunfinished
  sound := hsound
  answered request hanswered := by rwa [hanswers]
  succeeded request hanswer := by
    rw [hanswers] at hanswer
    exact .inl hanswer
  served _ request hrequest := .inl (by simpa [hprocessed] using hrequest)

/-- A request is taken and, unless the writer fails, it is answered. -/
theorem writerStep_control (hunfinished : before.phase ≠ .finalized)
    (hsound : after.phase.sound = true → before.phase.sound = true)
    (hqueue : before.queue = .control request :: rest)
    (hcalls : after.calls = before.calls) (haccepting : after.accepting = before.accepting)
    (hidentifier : after.nextIdentifier = before.nextIdentifier)
    (hhistory : after.trace.history = before.trace.history) (hrest : after.queue = rest)
    (hprocessed : after.trace.processed = before.trace.processed ++ [.control request])
    (hstored : before.trace.stored <+: after.trace.stored)
    (hanswers : after.answers = before.answers ∧ after.phase.sound = false ∨
      ∃ error, after.answers = (before.answer request error).answers ∧
        (error = none → after.trace.stored = recordsOf after.trace.processed ∧
          (request.action = .flush ∨ after.phase = .finalized))) : WriterStep before after where
  calls := hcalls
  accepting := haccepting
  nextIdentifier := hidentifier
  history := hhistory
  arrivals := by simp [BuilderState.arrivals, hqueue, hprocessed, hrest]
  processed := by
    rw [hprocessed]
    exact List.prefix_append _ _
  stored := hstored
  unfinished := hunfinished
  sound := hsound
  answered other hanswered := by
    rcases hanswers with ⟨hanswers, -⟩ | ⟨error, hanswers, -⟩
    · rwa [hanswers]
    · rw [hanswers]
      exact answered_answer error other hanswered
  succeeded other hanswer := by
    rcases hanswers with ⟨hanswers, -⟩ | ⟨error, hanswers, hnone⟩
    · rw [hanswers] at hanswer
      exact .inl hanswer
    · rw [hanswers, answer_answers] at hanswer
      split at hanswer
      · rename_i hsame
        subst hsame
        exact .inr ⟨⟨_, hprocessed⟩, hnone (Option.some.inj hanswer)⟩
      · exact .inl hanswer
  served hsound other hother := by
    rw [hprocessed, List.mem_append] at hother
    rcases hother with hother | hother
    · exact .inl hother
    · rw [List.mem_singleton, QueueItem.control.injEq] at hother
      subst hother
      rcases hanswers with ⟨-, hfailed⟩ | ⟨error, hanswers, -⟩
      · rw [hsound] at hfailed
        cases hfailed
      · right
        rw [hanswers, answer_answers, if_pos rfl]
        simp

theorem writerStep_start {failure : Option HilRigError}
    (hstep : before.start failure = some after) : WriterStep before after := by
  unfold BuilderState.start at hstep
  split at hstep
  · rename_i hphase
    have hunfinished : before.phase ≠ .finalized := by simp [hphase]
    have hbefore : before.phase.sound = true := by simp [hphase, WriterPhase.sound]
    split at hstep
    · rw [← Option.some.inj hstep]
      exact writerStep_still hunfinished (fun _ ↦ hbefore) rfl rfl rfl rfl rfl rfl
        (List.prefix_refl _) rfl
    · rw [← Option.some.inj hstep]
      exact writerStep_still hunfinished (fun _ ↦ hbefore) rfl rfl rfl rfl rfl rfl
        (List.prefix_refl _) rfl
  · cases hstep

theorem writerStep_timeout (hrecording : Recording settings before)
    (hstep : before.timeout faults = some after) : WriterStep before after := by
  unfold BuilderState.timeout at hstep
  split at hstep
  · rename_i hphase hqueue hstarted
    have hunfinished : before.phase ≠ .finalized := by simp [hphase]
    have hbefore : before.phase.sound = true := by simp [hphase, WriterPhase.sound]
    obtain ⟨hidle, -⟩ := hrecording.running (by simp [hphase, WriterPhase.runs])
    rw [← Option.some.inj hstep]
    rcases @flushPending_cases faults _ none id hidle with
      ⟨session, -, -, hflushed⟩ | ⟨error, session, -, hfailed⟩
    · rw [hflushed]
      exact writerStep_still hunfinished (fun _ ↦ hbefore) rfl rfl rfl rfl rfl rfl
        hrecording.stored rfl
    · rw [hfailed]
      exact writerStep_still hunfinished (fun _ ↦ hbefore) rfl rfl rfl rfl rfl rfl
        (List.prefix_refl _) rfl
  · cases hstep

/-- The answer that a served request gets, or the failure of its finalization. -/
theorem serve_cases (faults : ℕ → Option HilRigError) (request : ControlRequest)
    (state : BuilderState) :
    (request.action = .flush ∧ state.serve faults request = state.answer request none) ∨
    (∃ session, state.serve faults request =
      { state.answer request none with session := session, phase := .finalized }) ∨
    ∃ error session, state.serve faults request =
      { state.fail error (some request) with session := session } := by
  unfold BuilderState.serve
  cases haction : request.action with
  | flush => exact .inl ⟨rfl, rfl⟩
  | finalize status =>
    cases hrun : finalizeCapture faults status state.session with
    | ok written session => exact .inr (.inl ⟨session.close, by simp only [hrun]⟩)
    | error error session => exact .inr (.inr ⟨error, session, by simp only [hrun]⟩)

theorem writerStep_process (hrecording : Recording settings before)
    (hstep : before.process settings faults = some after) : WriterStep before after := by
  unfold BuilderState.process at hstep
  split at hstep
  · rename_i record rest hphase hqueue
    have hunfinished : before.phase ≠ .finalized := by simp [hphase]
    have hbefore : before.phase.sound = true := by simp [hphase, WriterPhase.sound]
    have hpended := hrecording.pend hphase hqueue
    obtain ⟨hcalls, haccepting, hidentifier, htrace, hrest, hanswers, hstays⟩ :=
      @pend_frame (before.take (.record record) rest) record
    generalize (before.take (.record record) rest).pend record = pended at *
    have hstored : before.trace.stored <+: recordsOf pended.trace.processed := by
      rw [htrace]
      simp only [BuilderState.take, recordsOf_append]
      exact hrecording.stored.trans (List.prefix_append _ _)
    have hsame : before.trace.stored <+: pended.trace.stored := by
      rw [htrace]
      exact List.prefix_refl _
    have hhistory : pended.trace.history = before.trace.history := by
      rw [htrace]
      rfl
    have hprocessed : pended.trace.processed = before.trace.processed ++ [.record record] := by
      rw [htrace]
      rfl
    simp only at hstep
    split at hstep
    · obtain ⟨hidle, -⟩ := hpended.running (by
        rw [hstays]
        simp [BuilderState.take, hphase, WriterPhase.runs])
      rw [← Option.some.inj hstep]
      rcases @flushPending_cases faults _ none id hidle with
        ⟨session, -, -, hflushed⟩ | ⟨error, session, -, hfailed⟩
      · rw [hflushed]
        exact writerStep_record hunfinished (fun _ ↦ hbefore) hqueue hcalls haccepting hidentifier
          hhistory hrest hprocessed hstored hanswers
      · rw [hfailed]
        exact writerStep_record hunfinished (fun _ ↦ hbefore) hqueue hcalls haccepting hidentifier
          hhistory hrest hprocessed hsame hanswers
    · rw [← Option.some.inj hstep]
      exact writerStep_record hunfinished (fun _ ↦ hbefore) hqueue hcalls haccepting hidentifier
        hhistory hrest hprocessed hsame hanswers
  · rename_i request rest hphase hqueue
    have hunfinished : before.phase ≠ .finalized := by simp [hphase]
    have hbefore : before.phase.sound = true := by simp [hphase, WriterPhase.sound]
    have htaken := hrecording.takeControl hphase hqueue
    obtain ⟨hidle, -⟩ := htaken.running (by simp [BuilderState.take, hphase, WriterPhase.runs])
    have hstored : before.trace.stored <+:
        recordsOf (before.trace.processed ++ [.control request]) := by
      rw [recordsOf_append]
      exact hrecording.stored.trans (List.prefix_append _ _)
    rw [← Option.some.inj hstep]
    rcases flushPending_cases (some request)
      (fun flushed ↦ flushed.serve faults request) hidle with
      ⟨session, -, -, hflushed⟩ | ⟨error, session, -, hfailed⟩
    · rw [hflushed]
      rcases serve_cases faults request ((before.take (.control request) rest).flushed session) with
        ⟨hflush, hserved⟩ | ⟨written, hserved⟩ | ⟨error, failed, hserved⟩
      · rw [hserved]
        exact writerStep_control hunfinished (fun _ ↦ hbefore) hqueue rfl rfl rfl rfl rfl rfl
          hstored (.inr ⟨none, rfl, fun _ ↦ ⟨rfl, .inl hflush⟩⟩)
      · rw [hserved]
        exact writerStep_control hunfinished (fun _ ↦ hbefore) hqueue rfl rfl rfl rfl rfl rfl
          hstored (.inr ⟨none, rfl, fun _ ↦ ⟨rfl, .inr rfl⟩⟩)
      · rw [hserved]
        exact writerStep_control hunfinished (fun _ ↦ hbefore) hqueue rfl rfl rfl rfl rfl rfl
          hstored (.inl ⟨rfl, rfl⟩)
    · rw [hfailed]
      exact writerStep_control hunfinished (fun _ ↦ hbefore) hqueue rfl rfl rfl rfl rfl rfl
        (List.prefix_refl _) (.inl ⟨rfl, rfl⟩)
  · cases hstep

/-- The writer answers the request it served when it failed. -/
theorem writerStep_answerActive (hrecording : Recording settings before)
    (hstep : before.answerActive = some after) : WriterStep before after := by
  unfold BuilderState.answerActive at hstep
  split at hstep
  · rename_i hphase
    rw [← Option.some.inj hstep]
    exact writerStep_still (by simp [hphase]) (by simp [WriterPhase.sound]) rfl rfl rfl rfl rfl rfl
      (List.prefix_refl _) rfl
  · rename_i request hphase
    have herror : before.workerError ≠ none := by
      simp [hrecording.worker, hphase, WriterPhase.sound]
    rw [← Option.some.inj hstep]
    refine ⟨rfl, rfl, rfl, rfl, rfl, List.prefix_refl _, List.prefix_refl _, by simp [hphase],
      by simp [WriterPhase.sound], fun other ↦ answered_answer _ other, fun other hanswer ↦ ?_,
      fun _ other hother ↦ .inl hother⟩
    have hanswer : (before.answer request before.workerError).answers other = some none := hanswer
    rw [answer_answers] at hanswer
    split at hanswer
    · exact absurd (Option.some.inj hanswer) herror
    · exact .inl hanswer
  · cases hstep

theorem writerStep_drain (hrecording : Recording settings before)
    (hstep : before.drain = some after) : WriterStep before after := by
  unfold BuilderState.drain at hstep
  split at hstep
  · rename_i record rest hphase hqueue
    rw [← Option.some.inj hstep]
    exact writerStep_record (by simp [hphase])
      (by simp [BuilderState.take, hphase, WriterPhase.sound]) hqueue rfl rfl rfl rfl rfl rfl
      (List.prefix_refl _) rfl
  · rename_i request rest hphase hqueue
    have herror : before.workerError ≠ none := by
      simp [hrecording.worker, hphase, WriterPhase.sound]
    rw [← Option.some.inj hstep]
    exact writerStep_control (by simp [hphase])
      (by simp [BuilderState.answer, BuilderState.take, hphase, WriterPhase.sound]) hqueue
      rfl rfl rfl rfl rfl rfl (List.prefix_refl _)
      (.inr ⟨before.workerError, rfl, fun hnone ↦ absurd hnone herror⟩)
  · cases hstep

theorem writerStep_close (hstep : before.close = some after) : WriterStep before after := by
  unfold BuilderState.close at hstep
  split at hstep
  · rename_i hphase hqueue
    rw [← Option.some.inj hstep]
    exact writerStep_still (by simp [hphase]) (by simp [WriterPhase.sound]) rfl rfl rfl rfl rfl rfl
      (List.prefix_refl _) rfl
  · cases hstep

theorem writerStep_step {label : BuilderLabel} (hwriter : label.byWriter = true)
    (hrecording : Recording settings before)
    (hstep : before.step settings faults label = some after) : WriterStep before after := by
  cases label with
  | start failure => exact writerStep_start hstep
  | process => exact writerStep_process hrecording hstep
  | timeout => exact writerStep_timeout hrecording hstep
  | answerActive => exact writerStep_answerActive hrecording hstep
  | drain => exact writerStep_drain hrecording hstep
  | close => exact writerStep_close hstep
  | _ => cases hwriter

end WriterSteps

/-! ### The invariant -/

/-- The request that a thread's call is about. -/
def CallState.request : CallState → Option ControlRequest
  | .submitting (.control request) _ | .putting (.control request) _ | .waiting request
  | .joining request => some request
  | _ => none

/-- What the requests of a builder stand behind. -/
structure Barrier (state : BuilderState) : Prop where
  invoked : ∀ request earlier, .invoked request :: earlier <:+ state.trace.history →
    request.admitted = recordsAdded earlier
  held : ∀ thread request, (state.calls thread).request = some request →
    request.admitted <+: recordsOf state.arrivals ∧ .invoked request ∈ state.trace.history
  queued : ∀ older request newer, state.arrivals = older ++ .control request :: newer →
    request.admitted <+: recordsOf older
  succeeded : ∀ request, state.answers request = some none →
    request.admitted <+: state.trace.stored
  joining : ∀ thread request, state.calls thread = .joining request →
    state.phase = .finalized ∧ request.admitted <+: state.trace.stored
  finalized : ∀ request status, state.answers request = some none →
    request.action = .finalize status → state.phase = .finalized
  completed : ∀ request database older,
    .completed request database :: older <:+ state.trace.history →
    .invoked request ∈ older ∧ ∃ stored, request.admitted <+: stored ∧
      stored <+: recordsAdded older ∧ database.Holds stored

section Invariant

variable {settings : BuilderSettings} {faults : ℕ → Option HilRigError}
  {before after state : BuilderState} {request : ControlRequest}

theorem Barrier.initial : Barrier (.initial settings) where
  invoked request earlier hsuffix := by simp [BuilderState.initial] at hsuffix
  held thread request hheld := by simp [BuilderState.initial, CallState.request] at hheld
  queued older request newer harrivals := by
    simp [BuilderState.initial, BuilderState.arrivals] at harrivals
  succeeded request hanswer := by cases hanswer
  joining thread request hjoining := by cases hjoining
  finalized request status hanswer := by cases hanswer
  completed request database older hsuffix := by simp [BuilderState.initial] at hsuffix

/-- A thread enters a call about a request it may stand behind. -/
theorem Barrier.enter (hbarrier : Barrier state) (thread : ℕ) (call : CallState)
    (hrequest : ∀ request, call.request = some request →
      request.admitted <+: recordsOf state.arrivals ∧ .invoked request ∈ state.trace.history)
    (hjoining : ∀ request, call = .joining request →
      state.phase = .finalized ∧ request.admitted <+: state.trace.stored) :
    Barrier (state.enter thread call) where
  invoked := hbarrier.invoked
  held other request hheld := by
    simp only [BuilderState.enter, Function.update_apply] at hheld
    split at hheld
    · exact hrequest request hheld
    · exact hbarrier.held other request hheld
  queued := hbarrier.queued
  succeeded := hbarrier.succeeded
  joining other request hother := by
    simp only [BuilderState.enter, Function.update_apply] at hother
    split at hother
    · exact hjoining request hother
    · exact hbarrier.joining other request hother
  finalized := hbarrier.finalized
  completed := hbarrier.completed

theorem Barrier.idle (hbarrier : Barrier state) (thread : ℕ) :
    Barrier (state.enter thread .idle) := by
  refine hbarrier.enter thread .idle ?_ ?_
  · intro request hrequest
    cases hrequest
  · intro request hjoining
    cases hjoining

/-- A thread goes on with the request of its call. -/
theorem Barrier.goOn {thread : ℕ} {call : CallState} (hbarrier : Barrier state)
    (hsame : call.request = (state.calls thread).request)
    (hcall : ∀ request, call ≠ .joining request) : Barrier (state.enter thread call) := by
  refine hbarrier.enter thread call ?_ ?_
  · intro request hrequest
    exact hbarrier.held thread request (hsame ▸ hrequest)
  · intro request hjoining
    exact absurd hjoining (hcall request)

/-- A request is invoked: it stands behind all that arrived, which is all that was added. -/
theorem Barrier.invoke (hbarrier : Barrier state) (hrecording : Recording settings state)
    (thread : ℕ) (action : ControlAction) (allowClosing : Bool) :
    Barrier (state.invoke thread action allowClosing) := by
  have hobserved : Barrier (state.observe (.invoked (state.request action))) := by
    refine ⟨?_, ?_, hbarrier.queued, hbarrier.succeeded, hbarrier.joining, hbarrier.finalized, ?_⟩
    · intro request earlier hsuffix
      rcases List.suffix_cons_iff.1 hsuffix with hhead | hsuffix
      · rw [List.cons.injEq, BuilderEvent.invoked.injEq] at hhead
        obtain ⟨rfl, rfl⟩ := hhead
        exact hrecording.added.symm
      · exact hbarrier.invoked request earlier hsuffix
    · intro other request hheld
      obtain ⟨hadmitted, hinvoked⟩ := hbarrier.held other request hheld
      exact ⟨hadmitted, List.mem_cons_of_mem _ hinvoked⟩
    · intro request database older hsuffix
      rcases List.suffix_cons_iff.1 hsuffix with hhead | hsuffix
      · cases hhead
      · exact hbarrier.completed request database older hsuffix
  obtain ⟨hinvoked, hheld, hqueued, hsucceeded, hjoining, hfinalized, hcompleted⟩ :=
    hobserved.enter thread (.submitting (.control (state.request action)) allowClosing) (by
      intro request hrequest
      cases hrequest
      exact ⟨List.prefix_refl _, List.mem_cons_self⟩) (by
      intro request hjoining
      cases hjoining)
  exact ⟨hinvoked, hheld, hqueued, hsucceeded, hjoining, hfinalized, hcompleted⟩

/-- A call that returns reports a capture that holds what its request stands behind. -/
theorem Barrier.complete (hbarrier : Barrier state) (hrecording : Recording settings state)
    (hinvoked : .invoked request ∈ state.trace.history)
    (hadmitted : request.admitted <+: state.trace.stored) :
    Barrier (state.observe (.completed request state.session.committed)) := by
  refine ⟨?_, ?_, hbarrier.queued, hbarrier.succeeded, hbarrier.joining, hbarrier.finalized, ?_⟩
  · intro other earlier hsuffix
    rcases List.suffix_cons_iff.1 hsuffix with hhead | hsuffix
    · cases hhead
    · exact hbarrier.invoked other earlier hsuffix
  · intro thread other hheld
    obtain ⟨hother, hevent⟩ := hbarrier.held thread other hheld
    exact ⟨hother, List.mem_cons_of_mem _ hevent⟩
  · intro other database older hsuffix
    rcases List.suffix_cons_iff.1 hsuffix with hhead | hsuffix
    · rw [List.cons.injEq, BuilderEvent.completed.injEq] at hhead
      obtain ⟨⟨rfl, rfl⟩, rfl⟩ := hhead
      refine ⟨hinvoked, state.trace.stored, hadmitted, ?_, hrecording.holds⟩
      rw [hrecording.added, BuilderState.arrivals, recordsOf_append]
      exact hrecording.stored.trans (List.prefix_append _ _)
    · exact hbarrier.completed other database older hsuffix

/-- An item joins the queue; a request has all it stands behind before it. -/
theorem Barrier.put (hbarrier : Barrier state) (item : QueueItem)
    (hitem : ∀ request, item = .control request →
      request.admitted <+: recordsOf state.arrivals) :
    Barrier { state with queue := state.queue ++ [item] } := by
  refine ⟨hbarrier.invoked, ?_, ?_, hbarrier.succeeded, hbarrier.joining, hbarrier.finalized,
    hbarrier.completed⟩
  · intro thread request hheld
    obtain ⟨hadmitted, hinvoked⟩ := hbarrier.held thread request hheld
    refine ⟨hadmitted.trans ?_, hinvoked⟩
    simp only [BuilderState.arrivals, ← List.append_assoc]
    rw [@recordsOf_append _ [item]]
    exact List.prefix_append _ _
  · intro older request newer harrivals
    simp only [BuilderState.arrivals, ← List.append_assoc] at harrivals
    rcases List.eq_nil_or_concat newer with rfl | ⟨newer, last, rfl⟩
    · obtain ⟨hqueued, hlast⟩ := List.append_inj' harrivals rfl
      rw [← hqueued]
      exact hitem request (List.singleton_inj.1 hlast)
    · rw [List.concat_eq_append, ← List.cons_append, ← List.append_assoc] at harrivals
      obtain ⟨hqueued, -⟩ := List.append_inj' harrivals rfl
      exact hbarrier.queued older request newer hqueued

theorem Barrier.observeAdded (hbarrier : Barrier state) (record : Record) :
    Barrier (state.observe (.added record)) := by
  refine ⟨?_, ?_, hbarrier.queued, hbarrier.succeeded, hbarrier.joining, hbarrier.finalized, ?_⟩
  · intro request earlier hsuffix
    rcases List.suffix_cons_iff.1 hsuffix with hhead | hsuffix
    · cases hhead
    · exact hbarrier.invoked request earlier hsuffix
  · intro thread request hheld
    obtain ⟨hadmitted, hinvoked⟩ := hbarrier.held thread request hheld
    exact ⟨hadmitted, List.mem_cons_of_mem _ hinvoked⟩
  · intro request database older hsuffix
    rcases List.suffix_cons_iff.1 hsuffix with hhead | hsuffix
    · cases hhead
    · exact hbarrier.completed request database older hsuffix

theorem Barrier.enqueue {thread : ℕ} (hbarrier : Barrier before)
    (hstep : before.enqueue settings thread = some after) : Barrier after := by
  unfold BuilderState.enqueue at hstep
  split at hstep
  · rename_i item allowClosing hputting
    have hheld (request : ControlRequest) (hitem : item = .control request) :
        request.admitted <+: recordsOf before.arrivals ∧
          .invoked request ∈ before.trace.history :=
      hbarrier.held thread request (by rw [hputting, hitem]; rfl)
    have hput := hbarrier.put item fun request hitem ↦ (hheld request hitem).1
    split at hstep
    · cases item with
      | record record =>
        rw [← Option.some.inj hstep]
        exact (hput.observeAdded record).idle thread
      | control request =>
        rw [← Option.some.inj hstep]
        refine hput.enter thread (.waiting request) ?_ ?_
        · intro other hother
          obtain rfl := Option.some.inj hother
          exact hput.held thread request (by rw [hputting]; rfl)
        · intro other hjoining
          cases hjoining
    · cases hstep
  · cases hstep

theorem Barrier.recheck {thread : ℕ} (hbarrier : Barrier before)
    (hstep : before.recheck thread = some after) : Barrier after := by
  unfold BuilderState.recheck at hstep
  split at hstep
  · rename_i item allowClosing hsubmitting
    split at hstep
    · rw [← Option.some.inj hstep]
      exact hbarrier.idle thread
    · rw [← Option.some.inj hstep]
      refine hbarrier.goOn ?_ (by simp)
      rw [hsubmitting]
      cases item <;> rfl
  · cases hstep

theorem Barrier.full {thread : ℕ} (hbarrier : Barrier before)
    (hstep : before.full settings thread = some after) : Barrier after := by
  unfold BuilderState.full at hstep
  split at hstep
  · rename_i item allowClosing hputting
    split at hstep
    · rw [← Option.some.inj hstep]
      refine hbarrier.goOn ?_ (by simp)
      rw [hputting]
      cases item <;> rfl
    · cases hstep
  · cases hstep

theorem Barrier.poll {thread : ℕ} (hbarrier : Barrier before)
    (hrecording : Recording settings before) (hstep : before.poll thread = some after) :
    Barrier after := by
  unfold BuilderState.poll at hstep
  split at hstep
  · rename_i request hwaiting
    obtain ⟨hadmitted, hinvoked⟩ := hbarrier.held thread request (by rw [hwaiting]; rfl)
    split at hstep
    · rw [← Option.some.inj hstep]
      exact hbarrier.idle thread
    · rename_i hanswer
      have hstored := hbarrier.succeeded request hanswer
      split at hstep
      · rw [← Option.some.inj hstep]
        exact hbarrier.idle thread
      · split at hstep
        · rw [← Option.some.inj hstep]
          exact (hbarrier.complete hrecording hinvoked hstored).idle thread
        · rename_i status haction
          rw [← Option.some.inj hstep]
          refine hbarrier.enter thread (.joining request) ?_ ?_
          · intro other hother
            obtain rfl := Option.some.inj hother
            exact ⟨hadmitted, hinvoked⟩
          · intro other hjoining
            rw [CallState.joining.injEq] at hjoining
            subst hjoining
            exact ⟨hbarrier.finalized request status hanswer haction, hstored⟩
    · split at hstep
      · rw [← Option.some.inj hstep]
        exact hbarrier.idle thread
      · rw [← Option.some.inj hstep]
        exact hbarrier
  · cases hstep

theorem Barrier.join {thread : ℕ} {opened : Bool} (hbarrier : Barrier before)
    (hrecording : Recording settings before) (hstep : before.join thread opened = some after) :
    Barrier after := by
  unfold BuilderState.join at hstep
  split at hstep
  · rename_i request hjoining
    obtain ⟨-, hinvoked⟩ := hbarrier.held thread request (by rw [hjoining]; rfl)
    obtain ⟨-, hstored⟩ := hbarrier.joining thread request hjoining
    split at hstep
    · split at hstep
      · rw [← Option.some.inj hstep]
        exact (hbarrier.complete hrecording hinvoked hstored).idle thread
      · rw [← Option.some.inj hstep]
        exact hbarrier.idle thread
    · cases hstep
  · cases hstep

/-- The writer answers a request only when all it stands behind is committed. -/
theorem WriterStep.barrier (hwriter : WriterStep before after) (hbarrier : Barrier before) :
    Barrier after := by
  have hqueued (older : List QueueItem) (request : ControlRequest) (newer : List QueueItem)
      (harrivals : after.arrivals = older ++ .control request :: newer) :
      request.admitted <+: recordsOf older :=
    hbarrier.queued older request newer (hwriter.arrivals ▸ harrivals)
  constructor
  · rw [hwriter.history]
    exact hbarrier.invoked
  · rw [hwriter.history, hwriter.arrivals, hwriter.calls]
    exact hbarrier.held
  · exact hqueued
  · intro request hanswer
    rcases hwriter.succeeded request hanswer with hbefore | ⟨⟨older, hprocessed⟩, hstored, -⟩
    · exact (hbarrier.succeeded request hbefore).trans hwriter.stored
    · have hadmitted := hqueued older request after.queue
        (by rw [BuilderState.arrivals, hprocessed, List.append_assoc, List.singleton_append])
      rw [hstored, hprocessed, recordsOf_append]
      exact hadmitted.trans (List.prefix_append _ _)
  · intro thread request hjoining
    rw [hwriter.calls] at hjoining
    exact absurd (hbarrier.joining thread request hjoining).1 hwriter.unfinished
  · intro request status hanswer haction
    rcases hwriter.succeeded request hanswer with hbefore | ⟨-, -, hflush | hphase⟩
    · exact absurd (hbarrier.finalized request status hbefore haction) hwriter.unfinished
    · rw [haction] at hflush
      cases hflush
    · exact hphase
  · rw [hwriter.history]
    exact hbarrier.completed

/-- Every step of a thread or of the writer keeps what the requests stand behind. -/
theorem Barrier.step {label : BuilderLabel} (hbarrier : Barrier before)
    (hrecording : Recording settings before)
    (hstep : before.step settings faults label = some after) : Barrier after := by
  cases label with
  | add thread record =>
    simp only [BuilderState.step, BuilderState.add] at hstep
    repeat' split at hstep
    · rw [← Option.some.inj hstep]
      exact hbarrier
    · rw [← Option.some.inj hstep]
      exact hbarrier
    · rw [← Option.some.inj hstep]
      refine hbarrier.enter thread _ ?_ ?_
      · intro request hrequest
        cases hrequest
      · intro request hjoining
        cases hjoining
    · cases hstep
  | flush thread =>
    simp only [BuilderState.step, BuilderState.flush] at hstep
    repeat' split at hstep
    · rw [← Option.some.inj hstep]
      exact hbarrier
    · rw [← Option.some.inj hstep]
      exact hbarrier.invoke hrecording thread .flush false
    · cases hstep
  | finalize thread status =>
    simp only [BuilderState.step, BuilderState.finalize] at hstep
    repeat' split at hstep
    · rw [← Option.some.inj hstep]
      exact hbarrier
    · rw [← Option.some.inj hstep]
      obtain ⟨hinvoked, hheld, hqueued, hsucceeded, hjoining, hfinalized, hcompleted⟩ :=
        hbarrier.invoke hrecording thread (.finalize status) true
      exact ⟨hinvoked, hheld, hqueued, hsucceeded, hjoining, hfinalized, hcompleted⟩
    · cases hstep
  | recheck thread => exact hbarrier.recheck hstep
  | enqueue thread => exact hbarrier.enqueue hstep
  | full thread => exact hbarrier.full hstep
  | poll thread => exact hbarrier.poll hrecording hstep
  | join thread opened => exact hbarrier.join hrecording hstep
  | _ => exact (writerStep_step rfl hrecording hstep).barrier hbarrier

end Invariant

/-! ### Runs -/

section Runs

variable {settings : BuilderSettings} {faults : ℕ → Option HilRigError}
  {before after state : BuilderState}

theorem barrier_run (hrun : ReflTransGen (BuilderStep settings faults) (.initial settings) state) :
    Barrier state := by
  induction hrun with
  | refl => exact .initial
  | tail hbefore hstep ih =>
    obtain ⟨label, hstep⟩ := hstep
    exact ih.step (recording_run hbefore) hstep

/-- No call returns normally after the writer failed. -/
theorem not_completed_of_workerError {label : BuilderLabel} (hrecording : Recording settings before)
    (hbarrier : Barrier before) (hfailed : before.workerError ≠ none)
    (hstep : before.step settings faults label = some after) (request : ControlRequest)
    (database : CaptureDatabase) :
    after.trace.history ≠ .completed request database :: before.trace.history := by
  have hself (event : BuilderEvent) : before.trace.history ≠ event :: before.trace.history :=
    (List.cons_ne_self _ _).symm
  have hsome : before.workerError.isSome = true := Option.isSome_iff_ne_none.2 hfailed
  cases label with
  | add thread record =>
    simp only [BuilderState.step, BuilderState.add] at hstep
    repeat' split at hstep
    all_goals cases hstep
    all_goals exact hself _
  | flush thread =>
    simp only [BuilderState.step, BuilderState.flush, BuilderState.refuses, hsome,
      Bool.true_or, if_true] at hstep
    split at hstep <;> cases hstep
    exact hself _
  | finalize thread status =>
    simp only [BuilderState.step, BuilderState.finalize, BuilderState.refuses, hsome,
      Bool.true_or, if_true] at hstep
    split at hstep <;> cases hstep
    exact hself _
  | recheck thread =>
    simp only [BuilderState.step, BuilderState.recheck] at hstep
    repeat' split at hstep
    all_goals cases hstep
    all_goals exact hself _
  | enqueue thread =>
    simp only [BuilderState.step, BuilderState.enqueue] at hstep
    repeat' split at hstep
    all_goals cases hstep
    · simp [BuilderState.observe, BuilderState.enter]
    · exact hself _
  | full thread =>
    simp only [BuilderState.step, BuilderState.full] at hstep
    repeat' split at hstep
    all_goals cases hstep
    exact hself _
  | poll thread =>
    simp only [BuilderState.step, BuilderState.poll, hsome, if_true] at hstep
    repeat' split at hstep
    all_goals cases hstep
    all_goals exact hself _
  | join thread opened =>
    simp only [BuilderState.step, BuilderState.join] at hstep
    split at hstep
    · rename_i other hjoining
      obtain ⟨hphase, -⟩ := hbarrier.joining thread other hjoining
      rw [ne_eq, hrecording.worker, hphase] at hfailed
      exact absurd rfl hfailed
    · cases hstep
  | _ =>
    rw [(writerStep_step rfl hrecording hstep).history]
    exact hself _

/-- In every run of a builder, a flush or a finalization that returns reports a capture whose tables
hold, each once and in order of arrival, the records of some calls that returned before it, all
those among them that returned before it was invoked; and none returns after a batch failed. -/
theorem completed_run
    (hrun : ReflTransGen (BuilderStep settings faults) (.initial settings) state) :
    (∀ request database older, .completed request database :: older <:+ state.trace.history →
      .invoked request ∈ older ∧
      ∀ earlier, .invoked request :: earlier <:+ older →
        ∃ stored, recordsAdded earlier <+: stored ∧ stored <+: recordsAdded older ∧
          database.Holds stored) ∧
    (state.workerError ≠ none → ∀ label after, state.step settings faults label = some after →
      ∀ request database,
        after.trace.history ≠ .completed request database :: state.trace.history) := by
  have hbarrier := barrier_run hrun
  constructor
  · intro request database older hcompleted
    obtain ⟨hinvoked, stored, hadmitted, hstored, hholds⟩ :=
      hbarrier.completed request database older hcompleted
    refine ⟨hinvoked, fun earlier hearlier ↦ ⟨stored, ?_, hstored, hholds⟩⟩
    rw [← hbarrier.invoked request earlier
      (hearlier.trans ((List.suffix_cons _ _).trans hcompleted))]
    exact hadmitted
  · intro hfailed label after hstep
    exact not_completed_of_workerError (recording_run hrun) hbarrier hfailed hstep

end Runs

/-! ### A flush that returns -/

section Example

/-- One thread adds a tick and flushes. -/
def flushedTick : List BuilderLabel :=
  [.start none, .add 0 (.tick (.executionProblem 0 none)), .recheck 0, .enqueue 0, .flush 0,
    .recheck 0, .enqueue 0, .process, .process, .poll 0]

/-- The capture it reads. -/
def tickCapture : CaptureDatabase where
  expectedTickCount := 1
  expectedTickCount_pos := Nat.one_pos
  receivedTickCount := 1
  firstTick := some 0
  lastTick := some 0
  tickResults := [tickParameters (.executionProblem 0 none)]

theorem completed_run_flushedTick : ∃ state request older,
    (BuilderState.initial oneTick).run oneTick (fun _ ↦ none) flushedTick = some state ∧
      state.trace.history = .completed request tickCapture :: older ∧
      tickCapture.Holds [.tick (.executionProblem 0 none)] := by
  have hrun : ((BuilderState.initial oneTick).run oneTick (fun _ ↦ none) flushedTick).map
      (fun state ↦ state.trace.history) =
      some [.completed ⟨0, .flush, [.tick (.executionProblem 0 none)]⟩ tickCapture,
        .invoked ⟨0, .flush, [.tick (.executionProblem 0 none)]⟩,
        .added (.tick (.executionProblem 0 none))] := by decide +kernel
  obtain ⟨state, hstate, hhistory⟩ := Option.map_eq_some_iff.1 hrun
  obtain ⟨hcompleted, -⟩ := completed_run (reflTransGen_of_run hstate)
  refine ⟨state, _, _, hstate, hhistory, ?_⟩
  rw [hhistory] at hcompleted
  obtain ⟨-, hheld⟩ := hcompleted _ _ _ (List.suffix_refl _)
  obtain ⟨stored, hadmitted, hstored, hholds⟩ := hheld _ (List.suffix_refl _)
  rw [hstored.eq_of_length_le hadmitted.length_le] at hholds
  exact hholds

end Example

end HilRig.Results
