import Mathlib.Data.List.Forall2
import Mathlib.Logic.Basic

/-!
# Inversion of fallible computations

A computation of `Except` that returns a value has run each of its steps to a value. `bind_eq_ok`
peels one step off the front, so that what a long validation guarantees is read off step by step
instead of by unfolding it.
-/

set_option autoImplicit false
set_option relaxedAutoImplicit false

namespace HilRig.Foundations

variable {ε α β : Type}

/-- A sequence returns a value exactly when both of its parts do. -/
theorem bind_eq_ok {first : Except ε α} {rest : α → Except ε β} {result : β} :
    (first >>= rest) = .ok result ↔ ∃ value, first = .ok value ∧ rest value = .ok result := by
  cases first with
  | ok value =>
    constructor
    · intro hresult
      exact ⟨value, rfl, hresult⟩
    · rintro ⟨other, hvalue, hresult⟩
      cases hvalue
      exact hresult
  | error error =>
    constructor
    · intro hresult
      cases hresult
    · rintro ⟨_, habsurd, _⟩
      cases habsurd

theorem ok_bind (value : α) (rest : α → Except ε β) :
    ((.ok value : Except ε α) >>= rest) = rest value :=
  rfl

theorem error_bind (error : ε) (rest : α → Except ε β) :
    ((.error error : Except ε α) >>= rest) = .error error :=
  rfl

/-- A guard returns a value exactly when its condition for an error fails. -/
theorem ite_error_eq_ok {condition : Prop} [Decidable condition] {error : ε}
    {rest : Except ε α} {result : α} :
    (if condition then .error error else rest) = .ok result ↔
      ¬condition ∧ rest = .ok result := by
  by_cases hcondition : condition
  · simp [hcondition]
  · simp [hcondition]

/-- Only the returned value is the result of a `pure`. -/
theorem pure_eq_ok {value result : α} :
    (pure value : Except ε α) = .ok result ↔ value = result := by
  simp only [pure, Except.pure, Except.ok.injEq]

/-- A changed result is the change of a result. -/
theorem map_eq_ok {change : α → β} {outcome : Except ε α} {result : β} :
    change <$> outcome = .ok result ↔ ∃ value, outcome = .ok value ∧ change value = result := by
  cases outcome with
  | ok value => simp [Functor.map, Except.map]
  | error error => simp [Functor.map, Except.map]

/-- A translation of a list returns exactly the translations of its members, in order. -/
theorem mapM_eq_ok {translate : α → Except ε β} {values : List α} {results : List β} :
    values.mapM translate = .ok results ↔
      List.Forall₂ (fun value result ↦ translate value = .ok result) values results := by
  induction values generalizing results with
  | nil =>
    rw [List.mapM_nil, pure_eq_ok, List.forall₂_nil_left_iff, eq_comm]
  | cons value values ih =>
    rw [List.mapM_cons, bind_eq_ok, List.forall₂_cons_left_iff]
    constructor
    · rintro ⟨result, hresult, hrest⟩
      obtain ⟨later, hlater, heq⟩ := bind_eq_ok.1 hrest
      exact ⟨result, later, hresult, ih.1 hlater, (pure_eq_ok.1 heq).symm⟩
    · rintro ⟨result, later, hresult, hlater, rfl⟩
      exact ⟨result, hresult, bind_eq_ok.2 ⟨later, ih.2 hlater, rfl⟩⟩

/-- A translation of a list whose members all translate. -/
theorem mapM_of_forall {translate : α → Except ε β} {values : List α} {result : α → β}
    (htranslate : ∀ value ∈ values, translate value = .ok (result value)) :
    values.mapM translate = .ok (values.map result) := by
  refine mapM_eq_ok.2 ?_
  rw [List.forall₂_map_right_iff, List.forall₂_same]
  exact htranslate

/-- A translation of a list raises nothing but what it raises for some member. -/
theorem mapM_eq_error {translate : α → Except ε β} {values : List α} {error : ε}
    (hraised : values.mapM translate = .error error) :
    ∃ value ∈ values, translate value = .error error := by
  induction values with
  | nil => cases hraised
  | cons value values ih =>
    rw [List.mapM_cons] at hraised
    cases hvalue : translate value with
    | error other =>
      rw [hvalue, error_bind] at hraised
      cases hraised
      exact ⟨value, List.mem_cons_self, hvalue⟩
    | ok result =>
      rw [hvalue, ok_bind] at hraised
      cases hvalues : values.mapM translate with
      | error other =>
        rw [hvalues, error_bind] at hraised
        cases hraised
        obtain ⟨later, hlater, hother⟩ := ih hvalues
        exact ⟨later, List.mem_cons_of_mem value hlater, hother⟩
      | ok results =>
        rw [hvalues] at hraised
        cases hraised

/-- Members that are read after they were written are read together. -/
theorem mapM_map_of_forall {γ : Type} {write : α → β} {read : β → Option γ} {value : α → γ}
    {items : List α} (hread : ∀ item ∈ items, read (write item) = some (value item)) :
    (items.map write).mapM read = some (items.map value) := by
  induction items with
  | nil => rfl
  | cons item items ih =>
    obtain ⟨hitem, hitems⟩ := List.forall_mem_cons.1 hread
    rw [List.map_cons, List.mapM_cons, hitem, ih hitems]
    rfl

/-- A translation of a list returns when it returns for every member, and its results have what
each of them has. -/
theorem exists_mapM {translate : α → Except ε β} {property : β → Prop} {values : List α}
    (htranslate : ∀ value ∈ values, ∃ result, translate value = .ok result ∧ property result) :
    ∃ results, values.mapM translate = .ok results ∧ ∀ result ∈ results, property result := by
  induction values with
  | nil => exact ⟨[], rfl, fun _ hmem ↦ absurd hmem List.not_mem_nil⟩
  | cons value values ih =>
    obtain ⟨hvalue, hvalues⟩ := List.forall_mem_cons.1 htranslate
    obtain ⟨result, hresult, hproperty⟩ := hvalue
    obtain ⟨results, hresults, hproperties⟩ := ih hvalues
    refine ⟨result :: results, ?_, List.forall_mem_cons.2 ⟨hproperty, hproperties⟩⟩
    rw [List.mapM_cons, hresult, hresults]
    rfl

/-- Some member of a list has a property exactly when the related member of another one has. -/
theorem exists_mem_iff_of_forall₂ {related : α → β → Prop} {values : List α} {results : List β}
    {property : β → Prop} {origin : α → Prop} (hrelated : List.Forall₂ related values results)
    (hproperty : ∀ value ∈ values, ∀ result, related value result →
      (property result ↔ origin value)) :
    (∃ result ∈ results, property result) ↔ ∃ value ∈ values, origin value := by
  induction hrelated with
  | nil => simp
  | cons hfirst hlater ih =>
    have hhead := hproperty _ List.mem_cons_self _ hfirst
    have htail := ih fun value hvalue ↦ hproperty value (List.mem_cons_of_mem _ hvalue)
    simp only [List.mem_cons, exists_eq_or_imp, hhead, htail]

/-- A member of a list has a related member in a related list. -/
theorem exists_related {related : α → β → Prop} {values : List α} {results : List β}
    (hrelated : List.Forall₂ related values results) {value : α} (hvalue : value ∈ values) :
    ∃ result ∈ results, related value result := by
  induction hrelated with
  | nil => cases hvalue
  | cons hfirst hlater ih =>
    rcases List.mem_cons.1 hvalue with rfl | hvalue
    · exact ⟨_, List.mem_cons_self, hfirst⟩
    · obtain ⟨result, hresult, hrelated⟩ := ih hvalue
      exact ⟨result, List.mem_cons_of_mem _ hresult, hrelated⟩

/-- Two lists that are related to a common one are related to each other. -/
theorem forall₂_of_common {γ : Type} {first : α → β → Prop} {second : α → γ → Prop}
    {related : β → γ → Prop} {values : List α} {firsts : List β} {seconds : List γ}
    (hfirst : List.Forall₂ first values firsts) (hsecond : List.Forall₂ second values seconds)
    (hrelated : ∀ value ∈ values, ∀ left right, first value left → second value right →
      related left right) : List.Forall₂ related firsts seconds := by
  induction hfirst generalizing seconds with
  | nil =>
    cases hsecond
    exact .nil
  | cons hleft _ ih =>
    cases hsecond with
    | cons hright hlater =>
      exact .cons (hrelated _ List.mem_cons_self _ _ hleft hright) (ih hlater fun value hvalue ↦
        hrelated value (List.mem_cons_of_mem _ hvalue))

/-- A fold of a list whose steps all return. -/
theorem foldlM_of_forall {σ : Type} {step : σ → β → Except ε σ} {next : σ → α → σ}
    {translate : α → β} {values : List α}
    (hstep : ∀ state, ∀ value ∈ values, step state (translate value) = .ok (next state value))
    (state : σ) : (values.map translate).foldlM step state = .ok (values.foldl next state) := by
  induction values generalizing state with
  | nil => rfl
  | cons value values ih =>
    rw [List.map_cons, List.foldlM_cons, hstep state value List.mem_cons_self, List.foldl_cons]
    exact ih (fun state later hlater ↦ hstep state later (List.mem_cons_of_mem _ hlater)) _

/-! ### What a computation guarantees of its value -/

/-- Every value a computation returns has a property. -/
def Guarantees (result : Except ε α) (property : α → Prop) : Prop :=
  ∀ value, result = .ok value → property value

section Guarantees

variable {property : β → Prop}

theorem guarantees_pure {value : β} (hvalue : property value) :
    Guarantees (pure value : Except ε β) property :=
  fun _ heq ↦ pure_eq_ok.1 heq ▸ hvalue

theorem guarantees_ok {value : β} (hvalue : property value) :
    Guarantees (.ok value : Except ε β) property :=
  fun _ heq ↦ Except.ok.inj heq ▸ hvalue

theorem guarantees_error (error : ε) : Guarantees (.error error : Except ε β) property := by
  intro _ heq
  cases heq

/-- A sequence guarantees what its last part guarantees for every value of its first. -/
theorem guarantees_bind {first : Except ε α} {rest : α → Except ε β}
    (hrest : ∀ value, first = .ok value → Guarantees (rest value) property) :
    Guarantees (first >>= rest) property := by
  intro result hresult
  obtain ⟨value, hvalue, hresult⟩ := bind_eq_ok.1 hresult
  exact hrest value hvalue result hresult

/-- A sequence that ends in a `pure` guarantees what all of its values have. -/
theorem guarantees_bind_pure {first : Except ε α} {result : α → β}
    (hresult : ∀ value, property (result value)) :
    Guarantees (first >>= fun value ↦ pure (result value)) property :=
  guarantees_bind fun value _ ↦ guarantees_pure (hresult value)

theorem guarantees_ite {condition : Prop} [Decidable condition] {first second : Except ε β}
    (hfirst : condition → Guarantees first property)
    (hsecond : ¬condition → Guarantees second property) :
    Guarantees (if condition then first else second) property := by
  split
  · rename_i hcondition
    exact hfirst hcondition
  · rename_i hcondition
    exact hsecond hcondition

/-- A guard guarantees what the rest does when its condition for an error fails. -/
theorem guarantees_guard {condition : Prop} [Decidable condition] {error : ε}
    {rest : Except ε β} (hrest : ¬condition → Guarantees rest property) :
    Guarantees (if condition then .error error else rest) property :=
  guarantees_ite (fun _ ↦ guarantees_error error) hrest

end Guarantees

end HilRig.Foundations
