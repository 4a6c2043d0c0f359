import HilRig.Results.Barrier

/-!
# What a finalization leaves behind

The writer loop stops after it processed the finalize request. The check of `_put` and its
`queue.put` are two steps, so a producer or a flush caller can put its item behind that request:
`not_nothingLeft_lateRecord` is such a run, in which a record is added and never committed and a
flush request is never answered. `late` names these steps, and `nothingLeft_run` says that a run
without them leaves nothing behind.
-/

set_option autoImplicit false
set_option relaxedAutoImplicit false

namespace HilRig.Results

open HilRig.Foundations Relation

/-! ### Late steps -/

def QueueItem.isFinalize : QueueItem → Bool
  | .record _ => false
  | .control request =>
    match request.action with
    | .flush => false
    | .finalize _ => true

/-- A record or a flush request is put into the queue when the finalize request was put before. -/
def BuilderState.late (state : BuilderState) : BuilderLabel → Bool
  | .enqueue thread =>
    match state.calls thread with
    | .putting item _ => !item.isFinalize && state.arrivals.any QueueItem.isFinalize
    | _ => false
  | _ => false

section Steps

variable (settings : BuilderSettings) (faults : ℕ → Option HilRigError)

/-- One step that is not late. -/
def BuilderState.timely (state : BuilderState) (label : BuilderLabel) : Option BuilderState :=
  if state.late label then none else state.step settings faults label

/-- Some thread or the writer takes a step that is not late. -/
def TimelyStep (before after : BuilderState) : Prop :=
  ∃ label, before.timely settings faults label = some after

end Steps

/-- Every record that was added is committed, and every request that was put is answered. -/
structure NothingLeft (state : BuilderState) : Prop where
  committed : state.session.committed.Holds (recordsAdded state.trace.history)
  answered : ∀ request, .control request ∈ state.arrivals → state.answers request ≠ none

/-! ### The invariant -/

/-- The item that a thread is about to put. -/
def CallState.item : CallState → Option QueueItem
  | .submitting item _ | .putting item _ => some item
  | _ => none

/-- No finalize request is among these items. -/
def Unsealed (items : List QueueItem) : Prop :=
  ∀ item ∈ items, item.isFinalize = false

/-- The finalize request of a builder, of which there is at most one, is the last item put. -/
structure Closing (state : BuilderState) : Prop where
  accepting : state.accepting = true → Unsealed state.arrivals ∧
    ∀ thread item, (state.calls thread).item = some item → item.isFinalize = false
  held : ∀ thread item, (state.calls thread).item = some item → item.isFinalize = true →
    Unsealed state.arrivals ∧ ∀ other value, (state.calls other).item = some value →
      value.isFinalize = true → other = thread
  last : ∀ older item newer, state.arrivals = older ++ item :: newer → item.isFinalize = true →
    newer = []
  answered : state.phase.sound = true → ∀ request, .control request ∈ state.trace.processed →
    state.answers request ≠ none

section Invariant

variable {settings : BuilderSettings} {faults : ℕ → Option HilRigError}
  {before after state : BuilderState}

theorem Closing.initial : Closing (.initial settings) where
  accepting _ := by
    constructor
    · intro item hitem
      cases hitem
    · intro thread item hitem
      cases hitem
  held thread item hitem := by cases hitem
  last older item newer harrivals := by
    simp [BuilderState.initial, BuilderState.arrivals] at harrivals
  answered _ request hrequest := by cases hrequest

/-- A thread enters a call with the item it had, with none, or with one that does not finalize. -/
theorem Closing.enter {thread : ℕ} {call : CallState} (hclosing : Closing state)
    (hcall : ∀ item, call.item = some item →
      (state.calls thread).item = some item ∨ item.isFinalize = false) :
    Closing (state.enter thread call) := by
  have hbefore (other : ℕ) (item : QueueItem)
      (hitem : ((state.enter thread call).calls other).item = some item)
      (hfinalize : item.isFinalize = true) : (state.calls other).item = some item := by
    simp only [BuilderState.enter, Function.update_apply] at hitem
    split at hitem
    · rename_i hsame
      rw [hsame]
      rcases hcall item hitem with hhad | hnot
      · exact hhad
      · rw [hfinalize] at hnot
        cases hnot
    · exact hitem
  refine ⟨?_, ?_, hclosing.last, hclosing.answered⟩
  · intro haccepting
    obtain ⟨hunsealed, hnone⟩ := hclosing.accepting haccepting
    refine ⟨hunsealed, fun other item hitem ↦ ?_⟩
    by_contra hfinalize
    rw [Bool.not_eq_false] at hfinalize
    rw [hnone other item (hbefore other item hitem hfinalize)] at hfinalize
    cases hfinalize
  · intro other item hitem hfinalize
    obtain ⟨hunsealed, honly⟩ := hclosing.held other item (hbefore other item hitem hfinalize)
      hfinalize
    exact ⟨hunsealed, fun third value hvalue hthird ↦
      honly third value (hbefore third value hvalue hthird) hthird⟩

theorem Closing.idle (hclosing : Closing state) (thread : ℕ) :
    Closing (state.enter thread .idle) := by
  refine hclosing.enter fun item hitem ↦ ?_
  cases hitem

/-- The history and the identifiers of requests do not matter here. -/
theorem Closing.congr (hclosing : Closing before) (hcalls : after.calls = before.calls)
    (haccepting : after.accepting = before.accepting) (hqueue : after.queue = before.queue)
    (hprocessed : after.trace.processed = before.trace.processed)
    (hphase : after.phase = before.phase) (hanswers : after.answers = before.answers) :
    Closing after := by
  have harrivals : after.arrivals = before.arrivals := by
    rw [BuilderState.arrivals, hqueue, hprocessed, BuilderState.arrivals]
  obtain ⟨hopen, hheld, hlast, hanswered⟩ := hclosing
  constructor
  · rwa [harrivals, hcalls, haccepting]
  · rwa [harrivals, hcalls]
  · rwa [harrivals]
  · rwa [hprocessed, hphase, hanswers]

/-- An accepted finalization is the only one. -/
theorem Closing.close (hclosing : Closing state) (haccepting : state.accepting = true)
    (thread : ℕ) (item : QueueItem) (allowClosing : Bool) :
    Closing { state.enter thread (.submitting item allowClosing) with accepting := false } := by
  obtain ⟨hunsealed, hnone⟩ := hclosing.accepting haccepting
  have honly (other : ℕ) (value : QueueItem)
      (hvalue :
        ((state.enter thread (.submitting item allowClosing)).calls other).item = some value)
      (hfinalize : value.isFinalize = true) : other = thread := by
    simp only [BuilderState.enter, Function.update_apply] at hvalue
    split at hvalue
    · assumption
    · rw [hnone other value hvalue] at hfinalize
      cases hfinalize
  refine ⟨fun hopen ↦ (by cases hopen), ?_, hclosing.last, hclosing.answered⟩
  intro other value hvalue hfinalize
  refine ⟨hunsealed, fun third last hlast hthird ↦ ?_⟩
  rw [honly other value hvalue hfinalize, honly third last hlast hthird]

/-- An item is put that is not late. -/
theorem Closing.put {thread : ℕ} {call : CallState} {item : QueueItem} (hclosing : Closing state)
    (hitem : (state.calls thread).item = some item) (hcall : call.item = none)
    (htimely : item.isFinalize = true ∨ Unsealed state.arrivals) :
    Closing { state.enter thread call with queue := state.queue ++ [item] } := by
  have hunsealed : Unsealed state.arrivals := by
    rcases htimely with hfinalize | hunsealed
    · exact (hclosing.held thread item hitem hfinalize).1
    · exact hunsealed
  have harrivals : ({ state.enter thread call with
      queue := state.queue ++ [item] } : BuilderState).arrivals = state.arrivals ++ [item] :=
    (List.append_assoc _ _ _).symm
  have hother (other : ℕ) (value : QueueItem)
      (hvalue : ((state.enter thread call).calls other).item = some value) :
      other ≠ thread ∧ (state.calls other).item = some value := by
    simp only [BuilderState.enter, Function.update_apply] at hvalue
    split at hvalue
    · rw [hcall] at hvalue
      cases hvalue
    · exact ⟨‹_›, hvalue⟩
  constructor
  · intro haccepting
    obtain ⟨-, hnone⟩ := hclosing.accepting haccepting
    constructor
    · rw [harrivals]
      intro value hvalue
      rcases List.mem_append.1 hvalue with hvalue | hvalue
      · exact hunsealed value hvalue
      · rw [List.mem_singleton.1 hvalue]
        exact hnone thread item hitem
    · intro other value hvalue
      exact hnone other value (hother other value hvalue).2
  · intro other value hvalue hfinalize
    obtain ⟨hne, hbefore⟩ := hother other value hvalue
    obtain ⟨-, honly⟩ := hclosing.held other value hbefore hfinalize
    have hnot : item.isFinalize = false := by
      by_contra hseals
      rw [Bool.not_eq_false] at hseals
      exact hne (honly thread item hitem hseals).symm
    constructor
    · rw [harrivals]
      intro last hlast
      rcases List.mem_append.1 hlast with hlast | hlast
      · exact hunsealed last hlast
      · rw [List.mem_singleton.1 hlast]
        exact hnot
    · intro third last hlast hthird
      exact honly third last (hother third last hlast).2 hthird
  · intro older value newer hsplit hfinalize
    rw [harrivals] at hsplit
    rcases List.eq_nil_or_concat newer with hnil | ⟨newer, last, rfl⟩
    · exact hnil
    · rw [List.concat_eq_append, ← List.cons_append, ← List.append_assoc] at hsplit
      obtain ⟨hbefore, -⟩ := List.append_inj' hsplit rfl
      have hmem : value ∈ state.arrivals := by
        rw [hbefore]
        exact List.mem_append_right _ List.mem_cons_self
      rw [hunsealed value hmem] at hfinalize
      cases hfinalize
  · exact hclosing.answered

theorem Closing.enqueue {thread : ℕ} (hclosing : Closing before)
    (htimely : before.late (.enqueue thread) = false)
    (hstep : before.enqueue settings thread = some after) : Closing after := by
  unfold BuilderState.enqueue at hstep
  split at hstep
  · rename_i item allowClosing hputting
    have hitem : (before.calls thread).item = some item := by
      rw [hputting]
      rfl
    have hput : item.isFinalize = true ∨ Unsealed before.arrivals := by
      simp only [BuilderState.late, hputting, Bool.and_eq_false_iff, Bool.not_eq_false',
        List.any_eq_false, Bool.not_eq_true] at htimely
      exact htimely
    split at hstep
    · cases item with
      | record record =>
        rw [← Option.some.inj hstep]
        exact (@Closing.put _ _ .idle _ hclosing hitem rfl hput).congr rfl rfl rfl rfl rfl rfl
      | control request =>
        rw [← Option.some.inj hstep]
        exact @Closing.put _ _ (.waiting request) _ hclosing hitem rfl hput
    · cases hstep
  · cases hstep

theorem Closing.recheck {thread : ℕ} (hclosing : Closing before)
    (hstep : before.recheck thread = some after) : Closing after := by
  unfold BuilderState.recheck at hstep
  split at hstep
  · rename_i item allowClosing hsubmitting
    split at hstep
    · rw [← Option.some.inj hstep]
      exact hclosing.idle thread
    · rw [← Option.some.inj hstep]
      refine hclosing.enter fun value hvalue ↦ .inl ?_
      rw [hsubmitting]
      exact hvalue
  · cases hstep

theorem Closing.full {thread : ℕ} (hclosing : Closing before)
    (hstep : before.full settings thread = some after) : Closing after := by
  unfold BuilderState.full at hstep
  split at hstep
  · rename_i item allowClosing hputting
    split at hstep
    · rw [← Option.some.inj hstep]
      refine hclosing.enter fun value hvalue ↦ .inl ?_
      rw [hputting]
      exact hvalue
    · cases hstep
  · cases hstep

theorem Closing.poll {thread : ℕ} (hclosing : Closing before)
    (hstep : before.poll thread = some after) : Closing after := by
  unfold BuilderState.poll at hstep
  repeat' split at hstep
  · rw [← Option.some.inj hstep]
    exact hclosing.idle thread
  · rw [← Option.some.inj hstep]
    exact hclosing.idle thread
  · rw [← Option.some.inj hstep]
    exact (hclosing.idle thread).congr rfl rfl rfl rfl rfl rfl
  · rw [← Option.some.inj hstep]
    refine hclosing.enter fun value hvalue ↦ ?_
    cases hvalue
  · rw [← Option.some.inj hstep]
    exact hclosing.idle thread
  · rw [← Option.some.inj hstep]
    exact hclosing
  · cases hstep

theorem Closing.join {thread : ℕ} {opened : Bool} (hclosing : Closing before)
    (hstep : before.join thread opened = some after) : Closing after := by
  unfold BuilderState.join at hstep
  repeat' split at hstep
  · rw [← Option.some.inj hstep]
    exact (hclosing.idle thread).congr rfl rfl rfl rfl rfl rfl
  · rw [← Option.some.inj hstep]
    exact hclosing.idle thread
  · cases hstep
  · cases hstep

/-- The writer puts nothing into the queue, and while it is sound it answers what it takes. -/
theorem WriterStep.closing (hwriter : WriterStep before after) (hclosing : Closing before) :
    Closing after where
  accepting := by
    rw [hwriter.accepting, hwriter.arrivals, hwriter.calls]
    exact hclosing.accepting
  held := by
    rw [hwriter.arrivals, hwriter.calls]
    exact hclosing.held
  last := by
    rw [hwriter.arrivals]
    exact hclosing.last
  answered hsound request hrequest := by
    rcases hwriter.served hsound request hrequest with hbefore | hanswered
    · exact hwriter.answered request
        (hclosing.answered (hwriter.sound hsound) request hbefore)
    · exact hanswered

/-- Every step that is not late keeps the finalize request the last item. -/
theorem Closing.step {label : BuilderLabel} (hclosing : Closing before)
    (hrecording : Recording settings before) (htimely : before.late label = false)
    (hstep : before.step settings faults label = some after) : Closing after := by
  cases label with
  | add thread record =>
    simp only [BuilderState.step, BuilderState.add] at hstep
    repeat' split at hstep
    · rw [← Option.some.inj hstep]
      exact hclosing
    · rw [← Option.some.inj hstep]
      exact hclosing
    · rw [← Option.some.inj hstep]
      refine hclosing.enter fun item hitem ↦ .inr ?_
      rw [← Option.some.inj hitem]
      rfl
    · cases hstep
  | flush thread =>
    simp only [BuilderState.step, BuilderState.flush] at hstep
    repeat' split at hstep
    · rw [← Option.some.inj hstep]
      exact hclosing
    · rw [← Option.some.inj hstep]
      have hentered : Closing (before.enter thread
          (.submitting (.control (before.request .flush)) false)) := by
        refine hclosing.enter fun item hitem ↦ .inr ?_
        rw [← Option.some.inj hitem]
        rfl
      exact hentered.congr rfl rfl rfl rfl rfl rfl
    · cases hstep
  | finalize thread status =>
    simp only [BuilderState.step, BuilderState.finalize] at hstep
    repeat' split at hstep
    · rw [← Option.some.inj hstep]
      exact hclosing
    · rename_i hrefuses
      have haccepting : before.accepting = true := by
        simp only [BuilderState.refuses, Bool.or_eq_true, not_or, Bool.not_eq_true,
          Bool.not_eq_false'] at hrefuses
        exact hrefuses.2
      rw [← Option.some.inj hstep]
      exact (hclosing.close haccepting thread (.control (before.request (.finalize status)))
        true).congr rfl rfl rfl rfl rfl rfl
    · cases hstep
  | recheck thread => exact hclosing.recheck hstep
  | enqueue thread => exact hclosing.enqueue htimely hstep
  | full thread => exact hclosing.full hstep
  | poll thread => exact hclosing.poll hstep
  | join thread opened => exact hclosing.join hstep
  | _ => exact (writerStep_step rfl hrecording hstep).closing hclosing

end Invariant

/-! ### Runs -/

section Runs

variable {settings : BuilderSettings} {faults : ℕ → Option HilRigError}
  {before after state : BuilderState}

theorem TimelyStep.builderStep (hstep : TimelyStep settings faults before after) :
    ∃ label, before.late label = false ∧ before.step settings faults label = some after := by
  obtain ⟨label, hstep⟩ := hstep
  unfold BuilderState.timely at hstep
  split at hstep
  · cases hstep
  · rename_i htimely
    exact ⟨label, Bool.not_eq_true _ ▸ htimely, hstep⟩

theorem closing_run (hrun : ReflTransGen (TimelyStep settings faults) (.initial settings) state) :
    Recording settings state ∧ Closing state := by
  induction hrun with
  | refl => exact ⟨.initial, .initial⟩
  | tail _ hstep ih =>
    obtain ⟨hrecording, hclosing⟩ := ih
    obtain ⟨label, htimely, hstep⟩ := hstep.builderStep
    exact ⟨hrecording.step hstep, hclosing.step hrecording htimely hstep⟩

/-- In every run in which no record and no flush request is put behind the finalize request, the
writer that stops after it leaves nothing behind. -/
theorem nothingLeft_run
    (hrun : ReflTransGen (TimelyStep settings faults) (.initial settings) state)
    (hfinalized : state.phase = .finalized) : NothingLeft state := by
  obtain ⟨hrecording, hclosing⟩ := closing_run hrun
  obtain ⟨older, request, status, hprocessed, haction, hstored, -, -⟩ :=
    hrecording.terminal hfinalized
  have hqueue : state.queue = [] := by
    refine hclosing.last older (.control request) state.queue ?_ ?_
    · rw [BuilderState.arrivals, hprocessed, List.append_assoc, List.singleton_append]
    · simp [QueueItem.isFinalize, haction]
  have harrivals : state.arrivals = state.trace.processed := by
    rw [BuilderState.arrivals, hqueue, List.append_nil]
  constructor
  · rw [hrecording.added, harrivals, ← hstored]
    exact hrecording.holds
  · rw [harrivals]
    refine hclosing.answered ?_
    rw [hfinalized]
    rfl

end Runs

/-! ### Two runs -/

section Examples

/-- One thread adds a tick and finalizes after that. -/
theorem nothingLeft_run_completeCapture : ∃ state,
    completeCapture.foldlM ((BuilderState.timely oneTick fun _ ↦ none)) (.initial oneTick) =
      some state ∧ state.phase = .finalized ∧ NothingLeft state := by
  have hrun : (completeCapture.foldlM ((BuilderState.timely oneTick fun _ ↦ none))
      (.initial oneTick)).map BuilderState.phase = some .finalized := by decide +kernel
  obtain ⟨state, hstate, hphase⟩ := Option.map_eq_some_iff.1 hrun
  exact ⟨state, hstate, hphase, nothingLeft_run (reflTransGen_of_foldlM hstate) hphase⟩

/-- A producer and a flush caller pass the checks of `_put`, a third thread finalizes, the writer
processes its request and stops, and then the two put their items. -/
def lateRecord : List BuilderLabel :=
  [.start none, .add 0 (.tick (.executionProblem 0 none)), .flush 1, .recheck 0, .recheck 1,
    .finalize 2 none, .recheck 2, .enqueue 2, .process, .enqueue 0, .enqueue 1]

/-- The record is lost, and the flush request is never answered. -/
theorem not_nothingLeft_lateRecord : ∃ state,
    ReflTransGen (BuilderStep oneTick fun _ ↦ none) (.initial oneTick) state ∧
      state.phase = .finalized ∧
      ¬state.session.committed.Holds (recordsAdded state.trace.history) ∧
      ∃ request, .control request ∈ state.arrivals ∧ request.action = .flush ∧
        state.answers request = none := by
  have hrun : ((BuilderState.initial oneTick).run oneTick (fun _ ↦ none) lateRecord).map
      (fun state ↦ (state.phase, state.session.committed.tickResults,
        (ticksOf (recordsAdded state.trace.history)).length,
        decide (.control ⟨0, .flush, []⟩ ∈ state.arrivals),
        (state.answers ⟨0, .flush, []⟩).isNone)) = some (.finalized, [], 1, true, true) := by
    decide +kernel
  obtain ⟨state, hstate, hresult⟩ := Option.map_eq_some_iff.1 hrun
  simp only [Prod.mk.injEq, decide_eq_true_eq, Option.isNone_iff_eq_none] at hresult
  obtain ⟨hphase, hrows, hadded, hput, hanswer⟩ := hresult
  refine ⟨state, reflTransGen_of_run hstate, hphase, fun hholds ↦ ?_, _, hput, rfl, hanswer⟩
  have hticks := hholds.ticks
  rw [hrows] at hticks
  rw [List.map_eq_nil_iff.1 hticks.symm] at hadded
  cases hadded

end Examples

end HilRig.Results
