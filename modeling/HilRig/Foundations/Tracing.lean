import HilRig.Foundations.EffectReachability

/-!
# Computations with a log

What a computation exchanges with its environment is not always in the state it leaves. A `Logged`
state carries the exchanged events, oldest first; `lift` runs a computation on the state alone and
`record` appends an event. `Erases logged plain` says that forgetting the log of one computation
gives the other, and its rules follow the text of a program, so that a property proved with the log
is one of the program itself. `Unchanged` is what a computation leaves alone, `Maintains` is an
invariant of states that every outcome keeps, be it a value or an exception, and `EachMoment` is a
property of every event together with those before it. Nothing here depends on what the states or
the events are.
-/

set_option autoImplicit false
set_option relaxedAutoImplicit false

namespace HilRig.Foundations

variable {ε σ Event Seen : Type} {α β : Type}

/-! ### What a computation leaves alone -/

section Unchanged

variable {view : σ → Seen}

/-- Whatever `action` does, the view of the state stays as it was. -/
def Unchanged (view : σ → Seen) (action : EStateM ε σ α) : Prop :=
  ∀ state, view (finalState action state) = view state

theorem Unchanged.pure (value : α) : Unchanged view (pure value : EStateM ε σ α) :=
  fun _ ↦ rfl

theorem Unchanged.throw (error : ε) : Unchanged view (throw error : EStateM ε σ α) :=
  fun _ ↦ rfl

theorem Unchanged.bind {first : EStateM ε σ α} {rest : α → EStateM ε σ β}
    (hfirst : Unchanged view first) (hrest : ∀ value, Unchanged view (rest value)) :
    Unchanged view (first >>= rest) := by
  intro state
  have hview := hfirst state
  cases hrun : first state with
  | ok value after =>
    rw [finalState_bind_of_ok hrun, hrest value after]
    simpa only [finalState, hrun] using hview
  | error error after =>
    rw [finalState_bind_of_error hrun]
    simpa only [finalState, hrun] using hview

theorem Unchanged.ite {condition : Prop} [Decidable condition] {first second : EStateM ε σ α}
    (hfirst : Unchanged view first) (hsecond : Unchanged view second) :
    Unchanged view (if condition then first else second) := by
  by_cases hcondition : condition
  · rwa [if_pos hcondition]
  · rwa [if_neg hcondition]

/-- What determines a view determines that it is unchanged. -/
theorem Unchanged.comp {Part : Type} {action : EStateM ε σ α} (hview : Unchanged view action)
    (part : Seen → Part) : Unchanged (fun state ↦ part (view state)) action :=
  fun state ↦ congrArg part (hview state)

end Unchanged

/-! ### What a computation maintains -/

section Maintains

variable {invariant : σ → Prop}

/-- Every outcome of `action` keeps the invariant. -/
def Maintains (invariant : σ → Prop) (action : EStateM ε σ α) : Prop :=
  ∀ state, invariant state → invariant (finalState action state)

theorem Maintains.pure (value : α) : Maintains invariant (pure value : EStateM ε σ α) :=
  fun _ hstate ↦ hstate

theorem Maintains.throw (error : ε) : Maintains invariant (throw error : EStateM ε σ α) :=
  fun _ hstate ↦ hstate

theorem Maintains.bind {first : EStateM ε σ α} {rest : α → EStateM ε σ β}
    (hfirst : Maintains invariant first) (hrest : ∀ value, Maintains invariant (rest value)) :
    Maintains invariant (first >>= rest) := by
  intro state hstate
  have hmiddle := hfirst state hstate
  cases hrun : first state with
  | ok value after =>
    rw [finalState_bind_of_ok hrun]
    simp only [finalState, hrun] at hmiddle
    exact hrest value after hmiddle
  | error error after =>
    rw [finalState_bind_of_error hrun]
    simpa only [finalState, hrun] using hmiddle

theorem Maintains.ite {condition : Prop} [Decidable condition] {first second : EStateM ε σ α}
    (hfirst : Maintains invariant first) (hsecond : Maintains invariant second) :
    Maintains invariant (if condition then first else second) := by
  by_cases hcondition : condition
  · rwa [if_pos hcondition]
  · rwa [if_neg hcondition]

end Maintains

/-! ### The log -/

/-- A state with the events exchanged so far, oldest first. -/
structure Logged (σ Event : Type) where
  state : σ
  log : List Event := []

/-- Run a computation on the state alone. -/
def lift (action : EStateM ε σ α) : EStateM ε (Logged σ Event) α := fun world ↦
  match action world.state with
  | .ok value after => .ok value { world with state := after }
  | .error error after => .error error { world with state := after }

/-- Append an event to the log. -/
def record (event : Event) : EStateM ε (Logged σ Event) Unit := fun world ↦
  .ok () { world with log := world.log ++ [event] }

@[simp] theorem finalState_lift (action : EStateM ε σ α) (world : Logged σ Event) :
    finalState (lift action) world = { world with state := finalState action world.state } := by
  unfold finalState lift
  cases action world.state <;> rfl

theorem finalState_record_bind (event : Event) (rest : Unit → EStateM ε (Logged σ Event) β)
    (world : Logged σ Event) :
    finalState (record event >>= rest) world =
      finalState (rest ()) { world with log := world.log ++ [event] } :=
  rfl

/-- Lifting keeps an invariant that sees the state only where the computation leaves it alone. -/
theorem Maintains.lift_of_unchanged {view : σ → Seen} {action : EStateM ε σ α}
    {invariant : Seen → List Event → Prop} (hview : Unchanged view action) :
    Maintains (fun world : Logged σ Event ↦ invariant (view world.state) world.log)
      (lift action) := by
  intro world hworld
  rw [finalState_lift]
  simpa only [hview world.state] using hworld

/-! ### Moments of a log -/

section EachMoment

variable {happens : List Event → Event → Prop} {log : List Event}

/-- Every event of the log stands in a relation to the events before it. -/
def EachMoment (happens : List Event → Event → Prop) (log : List Event) : Prop :=
  ∀ before event after, log = before ++ event :: after → happens before event

theorem eachMoment_nil : EachMoment happens [] := by
  intro before event after hlog
  simp at hlog

/-- One more event is one more moment. -/
theorem eachMoment_concat {last : Event} :
    EachMoment happens (log ++ [last]) ↔ EachMoment happens log ∧ happens log last := by
  constructor
  · intro hlog
    refine ⟨fun before event after hsplit ↦ hlog before event (after ++ [last]) ?_,
      hlog log last [] rfl⟩
    rw [hsplit, List.append_assoc, List.cons_append]
  · rintro ⟨hlog, hlast⟩ before event after hsplit
    rcases List.eq_nil_or_concat after with hafter | ⟨middle, final, hafter⟩
    · rw [hafter] at hsplit
      obtain ⟨rfl, hevent⟩ := List.append_inj' hsplit rfl
      rwa [← List.singleton_inj.1 hevent]
    · rw [hafter, List.concat_eq_append, ← List.cons_append, ← List.append_assoc] at hsplit
      exact hlog before event middle (List.append_inj' hsplit rfl).1

end EachMoment

/-! ### Forgetting the log -/

/-- Without its log, the one computation is the other. -/
def Erases (logged : EStateM ε (Logged σ Event) α) (plain : EStateM ε σ α) : Prop :=
  ∀ world, plain world.state =
    match logged world with
    | .ok value after => .ok value after.state
    | .error error after => .error error after.state

theorem Erases.pure (value : α) :
    Erases (pure value : EStateM ε (Logged σ Event) α) (pure value) :=
  fun _ ↦ rfl

theorem Erases.throw (error : ε) :
    Erases (throw error : EStateM ε (Logged σ Event) α) (throw error) :=
  fun _ ↦ rfl

theorem Erases.lift (action : EStateM ε σ α) :
    Erases (lift action : EStateM ε (Logged σ Event) α) action := by
  intro world
  unfold HilRig.Foundations.lift
  cases action world.state <;> rfl

theorem Erases.bind {first : EStateM ε (Logged σ Event) α} {plainFirst : EStateM ε σ α}
    {rest : α → EStateM ε (Logged σ Event) β} {plainRest : α → EStateM ε σ β}
    (hfirst : Erases first plainFirst) (hrest : ∀ value, Erases (rest value) (plainRest value)) :
    Erases (first >>= rest) (plainFirst >>= plainRest) := by
  intro world
  have hrun := hfirst world
  show EStateM.bind plainFirst plainRest world.state = match EStateM.bind first rest world with
    | .ok value after => .ok value after.state
    | .error error after => .error error after.state
  unfold EStateM.bind
  rw [hrun]
  cases first world with
  | ok value after => exact hrest value after
  | error error after => rfl

/-- A recorded event leaves nothing behind without the log. -/
theorem Erases.record_bind {event : Event} {rest : Unit → EStateM ε (Logged σ Event) β}
    {plain : EStateM ε σ β} (hrest : Erases (rest ()) plain) :
    Erases (record event >>= rest) plain :=
  fun world ↦ hrest { world with log := world.log ++ [event] }

theorem Erases.ite {condition : Prop} [Decidable condition]
    {first second : EStateM ε (Logged σ Event) α} {plainFirst plainSecond : EStateM ε σ α}
    (hfirst : Erases first plainFirst) (hsecond : Erases second plainSecond) :
    Erases (if condition then first else second)
      (if condition then plainFirst else plainSecond) := by
  by_cases hcondition : condition
  · rwa [if_pos hcondition, if_pos hcondition]
  · rwa [if_neg hcondition, if_neg hcondition]

/-- The state that is left behind is the same with and without the log. -/
theorem Erases.finalState_state {logged : EStateM ε (Logged σ Event) α} {plain : EStateM ε σ α}
    (herases : Erases logged plain) (world : Logged σ Event) :
    (finalState logged world).state = finalState plain world.state := by
  have hrun := herases world
  unfold finalState
  rw [hrun]
  cases logged world <;> rfl

end HilRig.Foundations
