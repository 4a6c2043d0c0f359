import Mathlib.Logic.Relation

/-!
# Reachability through effectful computations

A computation of `EStateM` leaves a state behind whether it returns or raises. `finalState` is
that state, and `Follows step view action` says that every execution of `action` is, seen through
`view`, a finite path of the transition relation `step`. The rules `Follows.pure`, `Follows.throw`,
`Follows.bind` and `Follows.read` compose paths along the text of a program, and
`preserved_of_reflTransGen` turns a property kept by one step into a property kept by every path;
`reflTransGen_of_foldlM` makes a path of an executable run. Nothing here depends on what the states
or the steps are.
-/

set_option autoImplicit false
set_option relaxedAutoImplicit false

namespace HilRig.Foundations

open Relation

/-- A property kept by one step is kept along every path. -/
theorem preserved_of_reflTransGen {State : Type*} {step : State → State → Prop}
    {property : State → Prop}
    (hstep : ∀ first second, property first → step first second → property second)
    {first last : State} (hpath : ReflTransGen step first last) (hfirst : property first) :
    property last := by
  induction hpath with
  | refl => exact hfirst
  | tail _ hlast ih => exact hstep _ _ ih hlast

/-- An executable run is a path of the relation of its steps. -/
theorem reflTransGen_of_foldlM {State Label : Type*} {next : State → Label → Option State}
    {labels : List Label} {first last : State} (hrun : labels.foldlM next first = some last) :
    ReflTransGen (fun before after ↦ ∃ label, next before label = some after) first last := by
  induction labels generalizing first with
  | nil => rw [Option.some.inj hrun]
  | cons label labels ih =>
    obtain ⟨middle, hstep, hrest⟩ := Option.bind_eq_some_iff.1 hrun
    exact (ReflTransGen.single ⟨label, hstep⟩).trans (ih hrest)

section FinalState

variable {ε σ : Type} {α β : Type}

/-- The state a computation leaves behind, whether it returns a value or raises. -/
def finalState (action : EStateM ε σ α) (state : σ) : σ :=
  match action state with
  | .ok _ after => after
  | .error _ after => after

theorem finalState_of_ok {action : EStateM ε σ α} {state after : σ} {value : α}
    (hok : action state = .ok value after) : finalState action state = after := by
  simp only [finalState, hok]

@[simp] theorem finalState_pure (value : α) (state : σ) :
    finalState (pure value : EStateM ε σ α) state = state :=
  rfl

@[simp] theorem finalState_bind_assoc {γ : Type} (first : EStateM ε σ α)
    (second : α → EStateM ε σ β) (third : β → EStateM ε σ γ) (state : σ) :
    finalState (first >>= second >>= third) state =
      finalState (first >>= fun value ↦ second value >>= third) state := by
  simp only [finalState, bind, EStateM.bind]
  cases first state <;> rfl

/-- After a computation that returns, the rest runs from the state it left. -/
theorem finalState_bind_of_ok {action : EStateM ε σ α} {state after : σ} {value : α}
    (hok : action state = .ok value after) (rest : α → EStateM ε σ β) :
    finalState (action >>= rest) state = finalState (rest value) after := by
  simp only [finalState, bind, EStateM.bind, hok]

/-- After a computation that raises, its state is final. -/
theorem finalState_bind_of_error {action : EStateM ε σ α} {state after : σ} {error : ε}
    (herror : action state = .error error after) (rest : α → EStateM ε σ β) :
    finalState (action >>= rest) state = after := by
  simp only [finalState, bind, EStateM.bind, herror]

end FinalState

section Follows

variable {ε σ Seen : Type} {α β : Type} {step : Seen → Seen → Prop} {view : σ → Seen}

/-- Every execution of `action` is, seen through `view`, a path of `step`. -/
def Follows (step : Seen → Seen → Prop) (view : σ → Seen) (action : EStateM ε σ α) : Prop :=
  ∀ state, ReflTransGen step (view state) (view (finalState action state))

theorem Follows.pure (value : α) : Follows step view (pure value : EStateM ε σ α) :=
  fun _ ↦ .refl

theorem Follows.throw (error : ε) : Follows step view (throw error : EStateM ε σ α) :=
  fun _ ↦ .refl

/-- A computation that leaves the view unchanged takes no step. -/
theorem Follows.of_view_eq {action : EStateM ε σ α}
    (hview : ∀ state, view (finalState action state) = view state) :
    Follows step view action := by
  intro state
  rw [hview state]

/-- Sequencing follows the path of the first computation and then that of the second. -/
theorem Follows.bind {first : EStateM ε σ α} {rest : α → EStateM ε σ β}
    (hfirst : Follows step view first) (hrest : ∀ value, Follows step view (rest value)) :
    Follows step view (first >>= rest) := by
  intro state
  have hpath := hfirst state
  cases hrun : first state with
  | ok value after =>
    rw [finalState_bind_of_ok hrun]
    simp only [finalState, hrun] at hpath
    exact hpath.trans (hrest value after)
  | error error after =>
    rw [finalState_bind_of_error hrun]
    simpa only [finalState, hrun] using hpath

/-- A computation that first reads the state may be followed for each state apart. -/
theorem Follows.read {rest : σ → EStateM ε σ β}
    (hrest : ∀ state, ReflTransGen step (view state) (view (finalState (rest state) state))) :
    Follows step view ((get : EStateM ε σ σ) >>= rest) :=
  hrest

theorem Follows.ite {condition : Prop} [Decidable condition] {first second : EStateM ε σ α}
    (hfirst : Follows step view first) (hsecond : Follows step view second) :
    Follows step view (if condition then first else second) := by
  split
  · exact hfirst
  · exact hsecond

end Follows

end HilRig.Foundations
