import HilRig.Results.Finalization

/-!
# One call that adds a record

An `add_*` call takes several steps of its thread, with steps of other threads and of the writer in
between. `AddCall` is one whole call, from its start to its return or its exception. A call that
returns has put its record into the queue once; one that raises has put nothing, because the
builder refused it or its tick is outside the run (`AddCall.spec`). What was added while the builder
accepted records was added before its finalization (`added_of_accepting`).
-/

set_option autoImplicit false
set_option relaxedAutoImplicit false

namespace HilRig.Results

open HilRig.Foundations Relation

/-! ### Calls -/

/-- The thread that takes a step, unless the writer takes it. -/
def BuilderLabel.thread : BuilderLabel → Option ℕ
  | .add thread _ | .flush thread | .finalize thread _ | .recheck thread | .enqueue thread
  | .full thread | .poll thread | .join thread _ => some thread
  | _ => none

section Calls

variable (settings : BuilderSettings) (faults : ℕ → Option HilRigError) (thread : ℕ)
  (record : Record)

/-- A step that is no put of a thread. -/
def NoPut (before after : BuilderState) : Prop :=
  ∃ label : BuilderLabel, label ≠ .enqueue thread ∧ before.step settings faults label = some after

/-- The rest of a call whose item is not in the queue yet, with its answer. -/
inductive Submits : BuilderState → Except HilRigError Unit → BuilderState → Prop
  | waits {before middle after : BuilderState} {answer : Except HilRigError Unit}
      (label : BuilderLabel) (hother : label.thread ≠ some thread)
      (hstep : before.step settings faults label = some middle)
      (hrest : Submits middle answer after) : Submits before answer after
  | rechecks {before middle after : BuilderState} {answer : Except HilRigError Unit}
      (hrecheck : before.recheck thread = some middle) (hgoes : middle.calls thread ≠ .idle)
      (hrest : Submits middle answer after) : Submits before answer after
  | retries {before middle after : BuilderState} {answer : Except HilRigError Unit}
      (hfull : before.full settings thread = some middle)
      (hrest : Submits middle answer after) : Submits before answer after
  | refused {before after : BuilderState} (error : HilRigError)
      (hrecheck : before.recheck thread = some after) (hidle : after.calls thread = .idle) :
      Submits before (.error error) after
  | puts {before after : BuilderState} (hput : before.enqueue settings thread = some after) :
      Submits before (.ok ()) after

/-- One whole `add_*` call, with its answer. -/
inductive AddCall : BuilderState → Except HilRigError Unit → BuilderState → Prop
  | refused {before : BuilderState} (error : HilRigError) (hidle : before.calls thread = .idle)
      (hraised : (before.add settings thread record).calls thread = .idle) :
      AddCall before (.error error) (before.add settings thread record)
  | submitted {before after : BuilderState} {answer : Except HilRigError Unit}
      (hidle : before.calls thread = .idle)
      (hgoes : (before.add settings thread record).calls thread ≠ .idle)
      (hrest : Submits settings faults thread (before.add settings thread record) answer after) :
      AddCall before answer after

/-- A thread puts nothing between two states. -/
def PutsNothing (before after : BuilderState) : Prop :=
  ReflTransGen (NoPut settings faults thread) before after

/-- A thread puts one record between two states, and nothing else. -/
def PutsOnce (before after : BuilderState) : Prop :=
  ∃ middle, PutsNothing settings faults thread before middle ∧
    middle.step settings faults (.enqueue thread) = some after ∧
    after.queue = middle.queue ++ [.record record] ∧
    after.trace.history = .added record :: middle.trace.history

end Calls

/-! ### What a call does -/

section Specification

variable {settings : BuilderSettings} {faults : ℕ → Option HilRigError} {thread : ℕ}
  {record : Record} {before after : BuilderState} {answer : Except HilRigError Unit}

/-- A step of another thread or of the writer leaves a thread where it is in its call. -/
theorem calls_of_other {label : BuilderLabel} (hother : label.thread ≠ some thread)
    (hrecording : Recording settings before)
    (hstep : before.step settings faults label = some after) :
    after.calls thread = before.calls thread := by
  have hupdate {calls : ℕ → CallState} {other : ℕ} (call : CallState)
      (hlabel : some other ≠ some thread) :
      Function.update calls other call thread = calls thread :=
    Function.update_of_ne (fun hsame ↦ hlabel (congrArg some hsame.symm)) _ _
  cases label with
  | add | flush | finalize | recheck | enqueue | full | poll | join =>
    simp only [BuilderState.step, BuilderState.add, BuilderState.flush, BuilderState.finalize,
      BuilderState.recheck, BuilderState.enqueue, BuilderState.full, BuilderState.poll,
      BuilderState.join] at hstep
    repeat' split at hstep
    all_goals cases hstep
    all_goals first | rfl | exact hupdate _ hother
  | _ => exact congrFun (writerStep_step rfl hrecording hstep).calls thread

/-- A call of a thread is under way and its record is not put yet. -/
def BuilderState.Hands (state : BuilderState) (thread : ℕ) (record : Record) : Prop :=
  state.calls thread = .submitting (.record record) false ∨
    state.calls thread = .putting (.record record) false

/-- The checks of `_put` go on with the same record, or they raise in a builder that refuses it. -/
theorem recheck_of_hands (hhands : before.Hands thread record)
    (hrecheck : before.recheck thread = some after) :
    (after.calls thread = .putting (.record record) false) ∨
      after.calls thread = .idle ∧ after.refuses = true := by
  unfold BuilderState.recheck at hrecheck
  rcases hhands with hcall | hcall
  · simp only [hcall] at hrecheck
    split at hrecheck
    · rename_i hrefuses
      cases hrecheck
      refine .inr ⟨Function.update_self _ _ _, ?_⟩
      show before.refuses = true
      simpa [BuilderState.refuses] using hrefuses
    · cases hrecheck
      exact .inl (Function.update_self _ _ _)
  · simp only [hcall] at hrecheck
    cases hrecheck

/-- A put that succeeds appends the record, and the call has returned. -/
theorem enqueue_of_hands (hhands : before.Hands thread record)
    (hput : before.enqueue settings thread = some after) :
    after.queue = before.queue ++ [.record record] ∧
      after.trace.history = .added record :: before.trace.history := by
  unfold BuilderState.enqueue at hput
  rcases hhands with hcall | hcall
  · simp only [hcall] at hput
    cases hput
  · simp only [hcall] at hput
    split at hput
    · cases hput
      exact ⟨rfl, rfl⟩
    · cases hput

/-- A full queue sends the call back to the checks. -/
theorem full_of_hands (hhands : before.Hands thread record)
    (hfull : before.full settings thread = some after) : after.Hands thread record := by
  unfold BuilderState.full at hfull
  rcases hhands with hcall | hcall
  · simp only [hcall] at hfull
    cases hfull
  · simp only [hcall] at hfull
    split at hfull
    · cases hfull
      exact .inl (Function.update_self _ _ _)
    · cases hfull

/-- The rest of a call is a part of the builder's run. It puts the record once and returns, or puts
nothing and raises in a builder that refuses it. -/
theorem Submits.spec (hsubmits : Submits settings faults thread before answer after)
    (hrun : ReflTransGen (BuilderStep settings faults) (.initial settings) before)
    (hhands : before.Hands thread record) :
    ReflTransGen (BuilderStep settings faults) before after ∧
      (answer = .ok () ∧ PutsOnce settings faults thread record before after ∨
        (∃ error, answer = .error error) ∧ PutsNothing settings faults thread before after ∧
          after.refuses = true) := by
  -- One more step that is no put keeps whichever of the two the rest of the call is.
  have hprepend {before middle after : BuilderState} {answer : Except HilRigError Unit}
      (label : BuilderLabel) (hput : label ≠ .enqueue thread)
      (hstep : before.step settings faults label = some middle)
      (hrest : ReflTransGen (BuilderStep settings faults) middle after ∧
        (answer = .ok () ∧ PutsOnce settings faults thread record middle after ∨
          (∃ error, answer = .error error) ∧ PutsNothing settings faults thread middle after ∧
            after.refuses = true)) :
      ReflTransGen (BuilderStep settings faults) before after ∧
        (answer = .ok () ∧ PutsOnce settings faults thread record before after ∨
          (∃ error, answer = .error error) ∧ PutsNothing settings faults thread before after ∧
            after.refuses = true) := by
    obtain ⟨hsteps, hrest⟩ := hrest
    refine ⟨.head ⟨label, hstep⟩ hsteps, hrest.imp ?_ ?_⟩
    · rintro ⟨hanswer, last, hnothing, hlast⟩
      exact ⟨hanswer, last, .head ⟨label, hput, hstep⟩ hnothing, hlast⟩
    · rintro ⟨herror, hnothing, hrefuses⟩
      exact ⟨herror, .head ⟨label, hput, hstep⟩ hnothing, hrefuses⟩
  induction hsubmits with
  | waits label hother hstep hrest ih =>
    have hput : label ≠ .enqueue thread := by
      rintro rfl
      exact hother rfl
    have hsame := calls_of_other hother (recording_run hrun) hstep
    refine hprepend label hput hstep (ih (hrun.tail ⟨label, hstep⟩) ?_)
    rwa [BuilderState.Hands, hsame]
  | rechecks hrecheck hgoes hrest ih =>
    have hcall := (recheck_of_hands hhands hrecheck).resolve_right fun hidle ↦ hgoes hidle.1
    exact hprepend (.recheck thread) (by simp) hrecheck
      (ih (hrun.tail ⟨.recheck thread, hrecheck⟩) (.inr hcall))
  | retries hfull hrest ih =>
    exact hprepend (.full thread) (by simp) hfull
      (ih (hrun.tail ⟨.full thread, hfull⟩) (full_of_hands hhands hfull))
  | refused error hrecheck hidle =>
    rcases recheck_of_hands hhands hrecheck with hcall | ⟨-, hrefuses⟩
    · rw [hidle] at hcall
      cases hcall
    · exact ⟨.single ⟨.recheck thread, hrecheck⟩, .inr ⟨⟨error, rfl⟩,
        .single ⟨.recheck thread, by simp, hrecheck⟩, hrefuses⟩⟩
  | puts hput =>
    obtain ⟨hqueue, hhistory⟩ := enqueue_of_hands hhands hput
    exact ⟨.single ⟨.enqueue thread, hput⟩, .inl ⟨rfl, _, .refl, hput, hqueue, hhistory⟩⟩

/-- `_validate_tick_in_run` of an `add_*` call lets exactly the records of the run through. -/
theorem inRun_iff : record.InRun settings ↔
    (record.tickNumber.any fun tick ↦ settings.expectedTickCount ≤ tick) = false := by
  unfold Record.InRun
  cases record.tickNumber <;> simp

/-- An `add_*` call is refused because its tick is outside the run or because the builder refuses
records. Else it goes on to put its record, whose tick is in the run. -/
theorem add_cases : (before.add settings thread record = before ∧
      (record.InRun settings → before.refuses = true)) ∨
    (before.add settings thread record).calls thread =
      .submitting (.record record) false ∧ record.InRun settings := by
  rw [inRun_iff]
  unfold BuilderState.add
  by_cases hlate : record.tickNumber.any fun tick ↦ settings.expectedTickCount ≤ tick
  · exact .inl ⟨if_pos hlate, fun hinRun ↦ absurd hlate (by simp [hinRun])⟩
  · rw [if_neg hlate]
    by_cases hrefuses : before.refuses = true
    · exact .inl ⟨if_pos hrefuses, fun _ ↦ hrefuses⟩
    · rw [if_neg hrefuses]
      exact .inr ⟨Function.update_self _ _ _, Bool.eq_false_of_not_eq_true hlate⟩

/-- A call with a tick in the run puts its record once and returns, or puts nothing and raises in a
builder that refuses it. A call with a later tick puts nothing and raises. -/
theorem AddCall.spec (hcall : AddCall settings faults thread record before answer after)
    (hrun : ReflTransGen (BuilderStep settings faults) (.initial settings) before) :
    ReflTransGen (BuilderStep settings faults) before after ∧
      (answer = .ok () ∧ record.InRun settings ∧
          PutsOnce settings faults thread record before after ∨
        (∃ error, answer = .error error) ∧ PutsNothing settings faults thread before after ∧
          (record.InRun settings → after.refuses = true)) := by
  have hstep (hidle : before.calls thread = .idle) :
      before.step settings faults (.add thread record) =
        some (before.add settings thread record) := if_pos hidle
  cases hcall with
  | refused error hidle hraised =>
    refine ⟨.single ⟨_, hstep hidle⟩, .inr ⟨⟨error, rfl⟩,
      .single ⟨_, by simp, hstep hidle⟩, fun hinRun ↦ ?_⟩⟩
    rcases add_cases with ⟨hsame, hrefuses⟩ | ⟨hgoes, -⟩
    · rw [hsame]
      exact hrefuses hinRun
    · rw [hraised] at hgoes
      cases hgoes
  | submitted hidle hgoes hrest =>
    rcases add_cases with ⟨hsame, -⟩ | ⟨hsubmitting, hinRun⟩
    · rw [hsame] at hgoes
      exact absurd hidle hgoes
    obtain ⟨hsteps, hrest⟩ := hrest.spec (hrun.tail ⟨_, hstep hidle⟩) (.inl hsubmitting)
    refine ⟨.head ⟨_, hstep hidle⟩ hsteps, hrest.imp ?_ ?_⟩
    · rintro ⟨hanswer, last, hnothing, hlast⟩
      exact ⟨hanswer, hinRun, last, .head ⟨_, by simp, hstep hidle⟩ hnothing, hlast⟩
    · rintro ⟨herror, hnothing, hrefuses⟩
      exact ⟨herror, .head ⟨_, by simp, hstep hidle⟩ hnothing, fun _ ↦ hrefuses⟩

/-- The three steps of a call that finds room in the queue are a whole call. -/
theorem addCall_of_run (hrun : before.run settings faults
      [.add thread record, .recheck thread, .enqueue thread] = some after) :
    AddCall settings faults thread record before (.ok ()) after := by
  obtain ⟨added, hadd, hrun⟩ := Option.bind_eq_some_iff.1 hrun
  obtain ⟨checked, hrecheck, hrun⟩ := Option.bind_eq_some_iff.1 hrun
  obtain ⟨put, hput, hrun⟩ := Option.bind_eq_some_iff.1 hrun
  obtain rfl := Option.some.inj hrun
  obtain ⟨hidle, hadd⟩ := Option.ite_none_right_eq_some.1 hadd
  obtain rfl := Option.some.inj hadd
  refine .submitted hidle (fun hreturned ↦ ?_)
    (.rechecks hrecheck (fun hreturned ↦ ?_) (.puts hput))
  · have hstuck : (before.add settings thread record).recheck thread = some checked := hrecheck
    rw [BuilderState.recheck, hreturned] at hstuck
    cases hstuck
  · have hstuck : checked.enqueue settings thread = some put := hput
    rw [BuilderState.enqueue, hreturned] at hstuck
    cases hstuck

/-! ### What a run keeps -/

/-- A step only adds to what the callers saw. -/
theorem history_of_step {label : BuilderLabel} (hrecording : Recording settings before)
    (hstep : before.step settings faults label = some after) :
    before.trace.history <:+ after.trace.history := by
  have hkept {state : BuilderState} : state.trace.history <:+ state.trace.history :=
    List.suffix_refl _
  cases label with
  | add thread record =>
    obtain ⟨-, hstep⟩ := Option.ite_none_right_eq_some.1 hstep
    cases hstep
    unfold BuilderState.add
    split_ifs <;> exact hkept
  | flush thread =>
    obtain ⟨-, hstep⟩ := Option.ite_none_right_eq_some.1 hstep
    cases hstep
    unfold BuilderState.flush
    split_ifs
    · exact hkept
    · exact List.suffix_cons _ _
  | finalize thread status =>
    obtain ⟨-, hstep⟩ := Option.ite_none_right_eq_some.1 hstep
    cases hstep
    unfold BuilderState.finalize
    split_ifs
    · exact hkept
    · exact List.suffix_cons _ _
  | recheck | enqueue | full | poll | join =>
    simp only [BuilderState.step, BuilderState.recheck, BuilderState.enqueue, BuilderState.full,
      BuilderState.poll, BuilderState.join] at hstep
    repeat' split at hstep
    all_goals cases hstep
    all_goals first | exact hkept | exact List.suffix_cons _ _
  | _ => exact (writerStep_step rfl hrecording hstep).history ▸ hkept

theorem history_of_run
    (hrun : ReflTransGen (BuilderStep settings faults) (.initial settings) before)
    (hrest : ReflTransGen (BuilderStep settings faults) before after) :
    before.trace.history <:+ after.trace.history := by
  induction hrest with
  | refl => exact List.suffix_refl _
  | tail hmiddle hstep ih =>
    obtain ⟨label, hstep⟩ := hstep
    exact ih.trans (history_of_step (recording_run (hrun.trans hmiddle)) hstep)

/-- What was added while the builder accepted records was added before its finalization. -/
theorem added_of_accepting
    (hrun : ReflTransGen (BuilderStep settings faults) (.initial settings) before)
    (haccepting : before.refuses = false) (hadded : .added record ∈ before.trace.history)
    (hrest : ReflTransGen (BuilderStep settings faults) before after) {request : ControlRequest}
    {earlier : List BuilderEvent} (hfinalize : (QueueItem.control request).isFinalize = true)
    (hinvoked : .invoked request :: earlier <:+ after.trace.history) :
    record ∈ recordsAdded earlier := by
  have hopen : before.accepting = true := by
    simp only [BuilderState.refuses, Bool.or_eq_false_iff, Bool.not_eq_false'] at haccepting
    exact haccepting.2
  have hlater : .invoked request ∉ before.trace.history := by
    intro hmem
    have hother := (sealed_run hrun).accepting hopen request hmem
    rw [hfinalize] at hother
    cases hother
  have hearlier : before.trace.history <:+ earlier := by
    rcases List.suffix_or_suffix_of_suffix (history_of_run hrun hrest) hinvoked with
      hbefore | hafter
    · refine (List.suffix_cons_iff.1 hbefore).resolve_left fun hsame ↦ ?_
      exact hlater (hsame ▸ List.mem_cons_self)
    · exact absurd (hafter.mem List.mem_cons_self) hlater
  unfold recordsAdded
  rw [List.mem_reverse, List.mem_filterMap]
  exact ⟨_, hearlier.mem hadded, rfl⟩

end Specification

end HilRig.Results
