import Mathlib.Logic.Basic

/-!
# Computations that change the state only when they return

`Atomically state action post` says that from `state` the computation `action` either returns with a
value and a state that satisfy `post`, or raises and leaves the state exactly as it was. A sequence
keeps this as long as every step before the last leaves the state alone (`Atomically.bind`), or
nothing after the first change can raise (`Atomically.bind_returns`).
-/

set_option autoImplicit false
set_option relaxedAutoImplicit false

namespace HilRig.Foundations

/-! ### Running one computation after another -/

section Bind

variable {Error State α β : Type} {action : EStateM Error State α} {state after : State}

theorem run_bind_of_ok {value : α} (hok : action state = .ok value after)
    (rest : α → EStateM Error State β) : (action >>= rest) state = rest value after := by
  simp only [bind, EStateM.bind, hok]

theorem run_bind_of_error {error : Error} (herror : action state = .error error after)
    (rest : α → EStateM Error State β) : (action >>= rest) state = .error error after := by
  simp only [bind, EStateM.bind, herror]

/-- A sequence that returns has returned at its first computation. -/
theorem run_bind_eq_ok {rest : α → EStateM Error State β} {result : β} {last : State} :
    (action >>= rest) state = .ok result last ↔
      ∃ value middle, action state = .ok value middle ∧ rest value middle = .ok result last := by
  constructor
  · intro hrun
    cases haction : action state with
    | ok value middle =>
      rw [run_bind_of_ok haction] at hrun
      exact ⟨value, middle, rfl, hrun⟩
    | error error middle =>
      rw [run_bind_of_error haction] at hrun
      cases hrun
  · rintro ⟨value, middle, haction, hrest⟩
    rw [run_bind_of_ok haction, hrest]

theorem run_get_bind (rest : State → EStateM Error State β) :
    (get >>= rest) state = rest state state :=
  rfl

theorem run_tryCatch_of_ok {value : α} (hok : action state = .ok value after)
    (handler : Error → EStateM Error State α) :
    tryCatch action handler state = .ok value after := by
  show EStateM.tryCatch action handler state = .ok value after
  delta EStateM.tryCatch
  simp only [hok]

theorem run_tryCatch_of_error {error : Error} (herror : action state = .error error after)
    (handler : Error → EStateM Error State α) :
    tryCatch action handler state = handler error after := by
  show EStateM.tryCatch action handler state = handler error after
  delta EStateM.tryCatch
  simp only [herror]
  rfl

end Bind

/-! ### All or nothing -/

variable {Error State α β : Type} {state after : State}

/-- A computation that satisfies a postcondition when it returns and changes nothing when it
raises. -/
def Atomically (state : State) (action : EStateM Error State α)
    (post : α → State → Prop) : Prop :=
  match action state with
  | .ok value after => post value after
  | .error _ after => after = state

variable {action : EStateM Error State α} {post : α → State → Prop}

/-- What a returned computation satisfies. -/
theorem Atomically.of_ok (hatomic : Atomically state action post) {value : α}
    (hrun : action state = .ok value after) : post value after := by
  rwa [Atomically, hrun] at hatomic

/-- A raised computation has changed nothing. -/
theorem Atomically.of_error (hatomic : Atomically state action post) {error : Error}
    (hrun : action state = .error error after) : after = state := by
  rwa [Atomically, hrun] at hatomic

/-- A postcondition can be weakened. -/
theorem Atomically.mono {weaker : α → State → Prop} (hatomic : Atomically state action post)
    (hweaker : ∀ value after, post value after → weaker value after) :
    Atomically state action weaker := by
  unfold Atomically at hatomic ⊢
  split at hatomic
  · exact hweaker _ _ hatomic
  · exact hatomic

theorem atomically_pure {value : α} (hpost : post value state) :
    Atomically state (pure value : EStateM Error State α) post :=
  hpost

theorem atomically_throw (error : Error) :
    Atomically state (throw error : EStateM Error State α) post := by
  show state = state
  rfl

/-- A step that leaves the state alone can come before an atomic one. -/
theorem Atomically.bind {rest : α → EStateM Error State β} {middle : α → Prop}
    {final : β → State → Prop}
    (hatomic : Atomically state action fun value after ↦ after = state ∧ middle value)
    (hrest : ∀ value, middle value → Atomically state (rest value) final) :
    Atomically state (action >>= rest) final := by
  show match EStateM.bind action rest state with
    | .ok value after => final value after
    | .error _ after => after = state
  unfold Atomically at hatomic
  unfold EStateM.bind
  cases hrun : action state with
  | ok value after =>
    rw [hrun] at hatomic
    obtain ⟨rfl, hmiddle⟩ := hatomic
    exact hrest value hmiddle
  | error error after =>
    rw [hrun] at hatomic
    exact hatomic

/-- Reading the state first. -/
theorem Atomically.get_bind {rest : State → EStateM Error State β} {final : β → State → Prop}
    (hrest : Atomically state (rest state) final) :
    Atomically state (get >>= rest) final :=
  hrest

/-- Steps that always return can come after an atomic one. -/
theorem Atomically.bind_returns {rest : α → EStateM Error State β} {final : β → State → Prop}
    (hatomic : Atomically state action post)
    (hrest : ∀ value after, post value after →
      ∃ result last, rest value after = .ok result last ∧ final result last) :
    Atomically state (action >>= rest) final := by
  show match EStateM.bind action rest state with
    | .ok value after => final value after
    | .error _ after => after = state
  unfold Atomically at hatomic
  unfold EStateM.bind
  cases hrun : action state with
  | ok value after =>
    rw [hrun] at hatomic
    obtain ⟨result, last, hlast, hfinal⟩ := hrest value after hatomic
    simp only [hlast]
    exact hfinal
  | error error after =>
    rw [hrun] at hatomic
    exact hatomic

/-- The value of a computation can be dropped. -/
theorem Atomically.discard {final : Unit → State → Prop}
    (hatomic : Atomically state action fun _ after ↦ final () after) :
    Atomically state (discard action) final :=
  hatomic.bind_returns fun _ after hfinal ↦ ⟨(), after, rfl, hfinal⟩

end HilRig.Foundations
