import HilRig.Results.Shutdown

/-!
# What a finalization returns

At most one finalize request of a builder is accepted, and only records of expected ticks are put.
So a finalization that returns reports the capture that the writer made terminal for its own request
(`finalized_run`): its status is the requested one, or `COMPLETE` exactly when every expected tick
is stored.
-/

set_option autoImplicit false
set_option relaxedAutoImplicit false

namespace HilRig.Results

open HilRig.Foundations Relation

/-- The tick of a record, if it has one, is an expected one. -/
def Record.InRun (settings : BuilderSettings) (record : Record) : Prop :=
  ∀ tick, record.tickNumber = some tick → tick < settings.expectedTickCount

/-- A capture that a finalization left: its status is terminal, and the one that was requested or
the one its rows give. -/
structure CaptureDatabase.Finalized (settings : BuilderSettings) (database : CaptureDatabase)
    (requested : Option CaptureStatus) : Prop where
  consistent : database.Consistent
  expected : database.expectedTickCount = settings.expectedTickCount
  status : database.status = terminalStatus database requested
  terminal : database.status ≠ .inProgress
  complete : database.status = .complete → database.fixedTicksComplete = true

/-- What a builder keeps about its finalize request. -/
structure Sealed (settings : BuilderSettings) (state : BuilderState) : Prop where
  known : ∀ request, .control request ∈ state.arrivals → .invoked request ∈ state.trace.history
  unique : ∀ first second, .invoked first ∈ state.trace.history →
    .invoked second ∈ state.trace.history → (QueueItem.control first).isFinalize = true →
      (QueueItem.control second).isFinalize = true → first = second
  accepting : state.accepting = true → ∀ request, .invoked request ∈ state.trace.history →
    (QueueItem.control request).isFinalize = false
  arrived : ∀ record, .record record ∈ state.arrivals → record.InRun settings
  submitted : ∀ thread record, (state.calls thread).item = some (.record record) →
    record.InRun settings
  finished : ∀ request database requested, .completed request database ∈ state.trace.history →
    request.action = .finalize requested → database.Finalized settings requested

/-! ### A terminal status -/

/-- A writer that finished wrote a terminal status. -/
def BuilderState.Ended (state : BuilderState) : Prop :=
  state.phase = .finalized → state.session.committed.status ≠ .inProgress

section Ending

variable {settings : BuilderSettings} {faults : ℕ → Option HilRigError}
  {before after state : BuilderState}

/-- A finalization does not write that the capture is in progress. -/
theorem finalizeCapture_ne_inProgress {requested : Option CaptureStatus}
    {session finished : Session CaptureDatabase} {status : CaptureStatus}
    (hrun : finalizeCapture faults requested session = .ok status finished) :
    status ≠ .inProgress := by
  obtain ⟨middle, -, -, hquery⟩ := @query_cases HilRigError _ faults _ id session
  unfold finalizeCapture at hrun
  rcases hquery with hquery | ⟨error, hquery⟩
  · rw [run_bind_of_ok hquery] at hrun
    split at hrun
    · cases hrun
    · rename_i hterminal
      split at hrun
      · cases hrun
      · cases htransact : transact faults [fun database ↦ .ok { database with
          status := terminalStatus (id session.contents) requested }] middle with
        | ok done written =>
          rw [run_bind_of_ok htransact] at hrun
          cases hrun
          exact hterminal
        | error error written =>
          rw [run_bind_of_error htransact] at hrun
          cases hrun
  · rw [run_bind_of_error hquery] at hrun
    cases hrun

/-- A served request ends the writer with a terminal status, or does not end it. -/
theorem BuilderState.Ended.serve (hidle : state.session.working = none)
    (hphase : state.phase = .looping)
    (request : ControlRequest) : (state.serve faults request).Ended := by
  unfold BuilderState.serve
  cases haction : request.action with
  | flush =>
    intro hfinalized
    rw [show (state.answer request none).phase = state.phase from rfl, hphase] at hfinalized
    cases hfinalized
  | finalize requested =>
    rcases @finalizeCapture_cases faults _ requested hidle with
      ⟨session, hrun, -, hcommitted, -⟩ | ⟨error, session, hrun, -⟩
    · have hterminal := finalizeCapture_ne_inProgress hrun
      simp only [hrun]
      intro _
      simp only [Session.close, hcommitted]
      exact hterminal
    · simp only [hrun]
      intro hfinalized
      cases hfinalized

/-- A flush goes on to a state that ended, or fails the writer. -/
theorem BuilderState.Ended.flushPending (hidle : state.session.working = none)
    {active : Option ControlRequest}
    {next : BuilderState → BuilderState}
    (hnext : ∀ session : Session CaptureDatabase, session.working = none →
      (next (state.flushed session)).Ended) :
    (state.flushPending faults active next).Ended := by
  rcases @flushPending_cases faults state active next hidle with
    ⟨session, hworking, -, hflushed⟩ | ⟨error, session, -, hfailed⟩
  · rw [hflushed]
    exact hnext session hworking
  · rw [hfailed]
    intro hfinalized
    cases hfinalized

theorem BuilderState.Ended.process (hrecording : Recording settings before)
    (hstep : before.process settings faults = some after) : after.Ended := by
  unfold BuilderState.process at hstep
  split at hstep
  · rename_i record rest hphase hqueue
    have hpended := hrecording.pend hphase hqueue
    have hlooping : ((before.take (.record record) rest).pend record).phase = .looping := by
      cases record <;> exact hphase
    have hidle := (hpended.running (by rw [hlooping]; rfl)).1
    simp only at hstep
    split at hstep
    · rw [← Option.some.inj hstep]
      refine BuilderState.Ended.flushPending hidle fun session _ hfinalized ↦ ?_
      exact absurd (hlooping.symm.trans hfinalized) (by decide)
    · rw [← Option.some.inj hstep]
      intro hfinalized
      rw [hlooping] at hfinalized
      cases hfinalized
  · rename_i request rest hphase hqueue
    have htaken := hrecording.takeControl hphase hqueue
    have hidle := (htaken.running (by simp [BuilderState.take, hphase, WriterPhase.runs])).1
    rw [← Option.some.inj hstep]
    refine BuilderState.Ended.flushPending hidle fun session hworking ↦ ?_
    exact @BuilderState.Ended.serve faults ((before.take (.control request) rest).flushed session)
      hworking hphase request
  · cases hstep

theorem BuilderState.Ended.timeout (hrecording : Recording settings before)
    (hstep : before.timeout faults = some after) : after.Ended := by
  unfold BuilderState.timeout at hstep
  split at hstep
  · rename_i hphase _ _
    rw [← Option.some.inj hstep]
    refine BuilderState.Ended.flushPending (hrecording.running (by rw [hphase]; rfl)).1
      fun session _ hfinalized ↦ ?_
    exact absurd (hphase.symm.trans hfinalized) (by decide)
  · cases hstep

theorem BuilderState.Ended.enqueue {thread : ℕ} (hended : before.Ended)
    (hstep : before.enqueue settings thread = some after) : after.Ended := by
  unfold BuilderState.enqueue at hstep
  split at hstep
  · rename_i item allowClosing hputting
    split at hstep
    · cases item with
      | record record =>
        rw [← Option.some.inj hstep]
        exact hended
      | control request =>
        rw [← Option.some.inj hstep]
        exact hended
    · cases hstep
  · cases hstep

theorem CallerStep.ended (hcaller : CallerStep before after) (hended : before.Ended) :
    after.Ended := by
  obtain ⟨calls, accepting, nextIdentifier, history, rfl, -⟩ := hcaller
  exact hended

theorem BuilderState.Ended.step {label : BuilderLabel} (hended : before.Ended)
    (hrecording : Recording settings before)
    (hstep : before.step settings faults label = some after) : after.Ended := by
  cases label with
  | enqueue thread => exact hended.enqueue hstep
  | process => exact .process hrecording hstep
  | timeout => exact .timeout hrecording hstep
  | start failure =>
    simp only [BuilderState.step, BuilderState.start] at hstep
    repeat' split at hstep
    all_goals cases hstep
    all_goals intro hfinalized
    all_goals cases hfinalized
  | answerActive =>
    simp only [BuilderState.step, BuilderState.answerActive] at hstep
    repeat' split at hstep
    all_goals cases hstep
    all_goals intro hfinalized
    all_goals cases hfinalized
  | drain =>
    simp only [BuilderState.step, BuilderState.drain] at hstep
    split at hstep
    · rename_i hphase _
      cases hstep
      exact fun hfinalized ↦ by cases hphase.symm.trans hfinalized
    · rename_i hphase _
      cases hstep
      exact fun hfinalized ↦ by cases hphase.symm.trans hfinalized
    · cases hstep
  | close =>
    simp only [BuilderState.step, BuilderState.close] at hstep
    split at hstep
    all_goals cases hstep
    intro hfinalized
    cases hfinalized
  | _ => exact (callerStep_of_step rfl hstep).ended hended

theorem ended_run (hrun : ReflTransGen (BuilderStep settings faults) (.initial settings) state) :
    state.Ended := by
  induction hrun with
  | refl =>
    intro hfinalized
    cases hfinalized
  | tail hbefore hstep ih =>
    obtain ⟨label, hstep⟩ := hstep
    exact ih.step (recording_run hbefore) hstep

end Ending

/-! ### One finalize request -/

section Invariant

variable {settings : BuilderSettings} {faults : ℕ → Option HilRigError}
  {before after state : BuilderState}

theorem Sealed.initial : Sealed settings (.initial settings) where
  known request hrequest := by cases hrequest
  unique first second hfirst := by cases hfirst
  accepting _ request hrequest := by cases hrequest
  arrived record hrecord := by cases hrecord
  submitted thread record hrecord := by cases hrecord
  finished request database requested hcompleted := by cases hcompleted

/-- A thread enters a call with the record it had, with none, or with one of an expected tick. -/
theorem Sealed.enter {thread : ℕ} {call : CallState} (hsealed : Sealed settings state)
    (hcall : ∀ record, call.item = some (.record record) →
      (state.calls thread).item = some (.record record) ∨ record.InRun settings) :
    Sealed settings (state.enter thread call) := by
  refine ⟨hsealed.known, hsealed.unique, hsealed.accepting, hsealed.arrived, ?_, hsealed.finished⟩
  intro other record hrecord
  simp only [BuilderState.enter, Function.update_apply] at hrecord
  split at hrecord
  · rcases hcall record hrecord with hhad | hinRun
    · exact hsealed.submitted thread record hhad
    · exact hinRun
  · exact hsealed.submitted other record hrecord

theorem Sealed.idle (hsealed : Sealed settings state) (thread : ℕ) :
    Sealed settings (state.enter thread .idle) := by
  refine hsealed.enter fun record hrecord ↦ ?_
  cases hrecord

/-- An event that is no new request is observed. -/
theorem Sealed.observe {event : BuilderEvent} (hsealed : Sealed settings state)
    (hrequest : ∀ request, event ≠ .invoked request)
    (hfinished : ∀ request database requested, event = .completed request database →
      request.action = .finalize requested → database.Finalized settings requested) :
    Sealed settings (state.observe event) := by
  have hinvoked {request : ControlRequest}
      (hmem : .invoked request ∈ (state.observe event).trace.history) :
      .invoked request ∈ state.trace.history := by
    rcases List.mem_cons.1 hmem with heq | hmem
    · exact absurd heq.symm (hrequest request)
    · exact hmem
  refine ⟨fun request hmem ↦ List.mem_cons_of_mem _ (hsealed.known request hmem), ?_, ?_,
    hsealed.arrived, hsealed.submitted, ?_⟩
  · exact fun first second hfirst hsecond ↦
      hsealed.unique first second (hinvoked hfirst) (hinvoked hsecond)
  · exact fun haccepting request hmem ↦ hsealed.accepting haccepting request (hinvoked hmem)
  · intro request database requested hmem haction
    rcases List.mem_cons.1 hmem with heq | hmem
    · exact hfinished request database requested heq.symm haction
    · exact hsealed.finished request database requested hmem haction

/-- A new request is accepted while the builder accepts; a finalize request closes it. -/
theorem Sealed.invoke (hsealed : Sealed settings state) (haccepting : state.accepting = true)
    (thread : ℕ) (action : ControlAction) (allowClosing accepting : Bool)
    (hclosed : accepting = true → action = .flush) :
    Sealed settings { state.invoke thread action allowClosing with accepting := accepting } := by
  have hnone := hsealed.accepting haccepting
  have hinvoked {request : ControlRequest}
      (hmem : .invoked request ∈ (state.invoke thread action allowClosing).trace.history) :
      request = state.request action ∨ .invoked request ∈ state.trace.history := by
    rcases List.mem_cons.1 hmem with heq | hmem
    · exact .inl (BuilderEvent.invoked.inj heq)
    · exact .inr hmem
  refine ⟨fun request hmem ↦ List.mem_cons_of_mem _ (hsealed.known request hmem), ?_, ?_,
    hsealed.arrived, ?_, ?_⟩
  · intro first second hfirst hsecond hfinalize hfinalize'
    rcases hinvoked hfirst with hfirst | hfirst
    · rcases hinvoked hsecond with hsecond | hsecond
      · exact hfirst.trans hsecond.symm
      · rw [hnone second hsecond] at hfinalize'
        cases hfinalize'
    · rw [hnone first hfirst] at hfinalize
      cases hfinalize
  · intro hopen request hmem
    rcases hinvoked hmem with heq | hmem
    · rw [heq, hclosed hopen]
      rfl
    · exact hnone request hmem
  · intro other record hrecord
    simp only [BuilderState.invoke, BuilderState.submit, BuilderState.enter,
      Function.update_apply] at hrecord
    split at hrecord
    · cases hrecord
    · exact hsealed.submitted other record hrecord
  · intro request database requested hmem haction
    rcases List.mem_cons.1 hmem with heq | hmem
    · cases heq
    · exact hsealed.finished request database requested hmem haction

/-- An item is put into the queue. -/
theorem Sealed.put {item : QueueItem} (hsealed : Sealed settings state)
    (hrecord : ∀ record, item = .record record → record.InRun settings)
    (hrequest : ∀ request, item = .control request → .invoked request ∈ state.trace.history) :
    Sealed settings { state with queue := state.queue ++ [item] } := by
  have harrivals {other : QueueItem} (hmem : other ∈
      ({ state with queue := state.queue ++ [item] } : BuilderState).arrivals) :
      other ∈ state.arrivals ∨ other = item := by
    rw [BuilderState.arrivals, ← List.append_assoc, List.mem_append, List.mem_singleton] at hmem
    exact hmem
  refine ⟨?_, hsealed.unique, hsealed.accepting, ?_, hsealed.submitted, hsealed.finished⟩
  · intro request hmem
    rcases harrivals hmem with hmem | heq
    · exact hsealed.known request hmem
    · exact hrequest request heq.symm
  · intro record hmem
    rcases harrivals hmem with hmem | heq
    · exact hsealed.arrived record hmem
    · exact hrecord record heq.symm

/-- A thread goes on with the item it had. -/
theorem Sealed.goOn {thread : ℕ} {call : CallState} (hsealed : Sealed settings state)
    (hitem : call.item = (state.calls thread).item ∨ call.item = none) :
    Sealed settings (state.enter thread call) := by
  refine hsealed.enter fun record hrecord ↦ .inl ?_
  rcases hitem with hsame | hnone
  · rwa [← hsame]
  · rw [hnone] at hrecord
    cases hrecord

theorem Sealed.recheck {thread : ℕ} (hsealed : Sealed settings before)
    (hstep : before.recheck thread = some after) : Sealed settings after := by
  unfold BuilderState.recheck at hstep
  split at hstep
  · rename_i item allowClosing hsubmitting
    split at hstep
    · rw [← Option.some.inj hstep]
      exact hsealed.idle thread
    · rw [← Option.some.inj hstep]
      exact hsealed.goOn (.inl (by rw [hsubmitting]; rfl))
  · cases hstep

theorem Sealed.full {thread : ℕ} (hsealed : Sealed settings before)
    (hstep : before.full settings thread = some after) : Sealed settings after := by
  unfold BuilderState.full at hstep
  split at hstep
  · rename_i item allowClosing hputting
    split at hstep
    · rw [← Option.some.inj hstep]
      exact hsealed.goOn (.inl (by rw [hputting]; rfl))
    · cases hstep
  · cases hstep

theorem Sealed.enqueue {thread : ℕ} (hsealed : Sealed settings before) (hbarrier : Barrier before)
    (hstep : before.enqueue settings thread = some after) : Sealed settings after := by
  unfold BuilderState.enqueue at hstep
  split at hstep
  · rename_i item allowClosing hputting
    have hput : Sealed settings { before with queue := before.queue ++ [item] } := by
      refine hsealed.put (fun record hrecord ↦ ?_) fun request hrequest ↦ ?_
      · exact hsealed.submitted thread record (by rw [hputting, hrecord]; rfl)
      · exact (hbarrier.held thread request (by rw [hputting, hrequest]; rfl)).2
    split at hstep
    · cases item with
      | record record =>
        rw [← Option.some.inj hstep]
        refine Sealed.idle (hput.observe (fun request heq ↦ ?_) ?_) thread
        · cases heq
        · intro request database requested heq
          cases heq
      | control request =>
        rw [← Option.some.inj hstep]
        exact hput.goOn (.inr rfl)
    · cases hstep
  · cases hstep

theorem Sealed.poll {thread : ℕ} (hsealed : Sealed settings before)
    (hstep : before.poll thread = some after) : Sealed settings after := by
  unfold BuilderState.poll at hstep
  split at hstep
  · rename_i request hwaiting
    split at hstep
    · rw [← Option.some.inj hstep]
      exact hsealed.idle thread
    · split at hstep
      · rw [← Option.some.inj hstep]
        exact hsealed.idle thread
      · split at hstep
        · rename_i haction
          rw [← Option.some.inj hstep]
          refine Sealed.idle (hsealed.observe (fun other heq ↦ ?_) ?_) thread
          · cases heq
          · rintro other database requested ⟨⟩ hfinalize
            rw [haction] at hfinalize
            cases hfinalize
        · rw [← Option.some.inj hstep]
          exact hsealed.goOn (.inr rfl)
    · split at hstep
      · rw [← Option.some.inj hstep]
        exact hsealed.idle thread
      · rw [← Option.some.inj hstep]
        exact hsealed
  · cases hstep

/-- A finalization returns after the writer made the capture terminal for its request. -/
theorem Sealed.join {thread : ℕ} {opened : Bool} (hsealed : Sealed settings before)
    (hrecording : Recording settings before) (hbarrier : Barrier before) (hended : before.Ended)
    (hstep : before.join thread opened = some after) : Sealed settings after := by
  unfold BuilderState.join at hstep
  split at hstep
  · rename_i request hjoining
    obtain ⟨-, hinvoked⟩ := hbarrier.held thread request (by rw [hjoining]; rfl)
    obtain ⟨hphase, -⟩ := hbarrier.joining thread request hjoining
    obtain ⟨older, served, requested, hprocessed, haction, -, hstatus, hcomplete⟩ :=
      hrecording.terminal hphase
    have hserved : .invoked served ∈ before.trace.history :=
      hsealed.known served (by rw [BuilderState.arrivals, hprocessed]; simp)
    split at hstep
    · split at hstep
      · rw [← Option.some.inj hstep]
        refine Sealed.idle (hsealed.observe (fun other heq ↦ ?_) ?_) thread
        · cases heq
        · rintro other database status ⟨⟩ hfinalize
          have hsame : served = request := hsealed.unique served request hserved hinvoked
            (by simp [QueueItem.isFinalize, haction]) (by simp [QueueItem.isFinalize, hfinalize])
          subst hsame
          rw [haction] at hfinalize
          cases hfinalize
          exact ⟨hrecording.consistent, hrecording.expected, hstatus, hended hphase, hcomplete⟩
      · rw [← Option.some.inj hstep]
        exact hsealed.idle thread
    · cases hstep
  · cases hstep

/-- The writer neither observes an event nor puts an item. -/
theorem WriterStep.sealed (hwriter : WriterStep before after) (hsealed : Sealed settings before) :
    Sealed settings after := by
  constructor
  · rw [hwriter.arrivals, hwriter.history]
    exact hsealed.known
  · rw [hwriter.history]
    exact hsealed.unique
  · rw [hwriter.accepting, hwriter.history]
    exact hsealed.accepting
  · rw [hwriter.arrivals]
    exact hsealed.arrived
  · rw [hwriter.calls]
    exact hsealed.submitted
  · rw [hwriter.history]
    exact hsealed.finished

theorem Sealed.step {label : BuilderLabel} (hsealed : Sealed settings before)
    (hrecording : Recording settings before) (hbarrier : Barrier before) (hended : before.Ended)
    (hstep : before.step settings faults label = some after) : Sealed settings after := by
  have hopen (hrefuses : ¬before.refuses = true) : before.accepting = true := by
    unfold BuilderState.refuses at hrefuses
    simpa using (Bool.or_eq_false_iff.1 (Bool.eq_false_iff.2 hrefuses)).2
  cases label with
  | add thread record =>
    simp only [BuilderState.step, BuilderState.add] at hstep
    repeat' split at hstep
    · rw [← Option.some.inj hstep]
      exact hsealed
    · rw [← Option.some.inj hstep]
      exact hsealed
    · rename_i hinRun hrefuses
      rw [← Option.some.inj hstep]
      refine hsealed.enter fun other hother ↦ .inr fun tick htick ↦ ?_
      cases hother
      rw [htick] at hinRun
      simpa using hinRun
    · cases hstep
  | flush thread =>
    simp only [BuilderState.step, BuilderState.flush] at hstep
    repeat' split at hstep
    · rw [← Option.some.inj hstep]
      exact hsealed
    · rename_i hrefuses
      rw [← Option.some.inj hstep]
      have hinvoke := hsealed.invoke (hopen hrefuses) thread .flush false before.accepting
        fun _ ↦ rfl
      exact hinvoke
    · cases hstep
  | finalize thread status =>
    simp only [BuilderState.step, BuilderState.finalize] at hstep
    repeat' split at hstep
    · rw [← Option.some.inj hstep]
      exact hsealed
    · rename_i hrefuses
      rw [← Option.some.inj hstep]
      exact hsealed.invoke (hopen hrefuses) thread (.finalize status) true false
        fun habsurd ↦ by cases habsurd
    · cases hstep
  | recheck thread => exact hsealed.recheck hstep
  | enqueue thread => exact hsealed.enqueue hbarrier hstep
  | full thread => exact hsealed.full hstep
  | poll thread => exact hsealed.poll hstep
  | join thread opened => exact hsealed.join hrecording hbarrier hended hstep
  | _ => exact (writerStep_step rfl hrecording hstep).sealed hsealed

theorem sealed_run (hrun : ReflTransGen (BuilderStep settings faults) (.initial settings) state) :
    Sealed settings state := by
  induction hrun with
  | refl => exact .initial
  | tail hbefore hstep ih =>
    obtain ⟨label, hstep⟩ := hstep
    exact ih.step (recording_run hbefore) (barrier_run hbefore) (ended_run hbefore) hstep

end Invariant

/-! ### Runs -/

section Runs

variable {settings : BuilderSettings} {faults : ℕ → Option HilRigError} {state : BuilderState}

/-- In every run of a builder, a finalization that returns reports a capture that holds the records
of calls that returned before it, all those among them that returned before it was invoked; all of
them are records of expected ticks with one row a tick, and the status is the requested one, or
`COMPLETE` exactly when every expected tick has a row. -/
theorem finalized_run
    (hrun : ReflTransGen (BuilderStep settings faults) (.initial settings) state)
    {request : ControlRequest} {database : CaptureDatabase} {older earlier : List BuilderEvent}
    {requested : Option CaptureStatus}
    (hcompleted : .completed request database :: older <:+ state.trace.history)
    (haction : request.action = .finalize requested)
    (hinvoked : .invoked request :: earlier <:+ older) :
    ∃ stored, recordsAdded earlier <+: stored ∧ stored <+: recordsAdded older ∧
      database.Holds stored ∧ database.Finalized settings requested ∧
      ∀ record ∈ stored, record.InRun settings := by
  obtain ⟨hreturned, -⟩ := completed_run hrun
  obtain ⟨-, hrecords⟩ := hreturned request database older hcompleted
  obtain ⟨stored, hadmitted, hstored, hholds⟩ := hrecords earlier hinvoked
  have hsealed := sealed_run hrun
  refine ⟨stored, hadmitted, hstored, hholds, hsealed.finished request database requested
    (hcompleted.mem List.mem_cons_self) haction, fun record hrecord ↦ ?_⟩
  have hadded : recordsAdded older <+: recordsAdded state.trace.history := by
    obtain ⟨newer, hhistory⟩ := (List.suffix_cons _ _).trans hcompleted
    rw [← hhistory]
    unfold recordsAdded
    rw [List.filterMap_append, List.reverse_append]
    exact List.prefix_append _ _
  have harrived : record ∈ recordsOf state.arrivals := by
    rw [← (recording_run hrun).added]
    exact hadded.subset (hstored.subset hrecord)
  obtain ⟨item, hitem, hrecord⟩ := List.mem_filterMap.1 harrived
  cases item with
  | record value =>
    cases hrecord
    exact hsealed.arrived record hitem
  | control request => cases hrecord

end Runs

end HilRig.Results
