import Mathlib.Data.List.Basic

/-!
# Last writes

A fold over writes keeps, in each part of its state, the last value written there. `read_foldl_own`
reduces a part of a fold to the items that are its own, and `foldl_eq_lastRequest` reduces a fold of
overwriting items to the last of them.
-/

set_option autoImplicit false
set_option relaxedAutoImplicit false

namespace HilRig.Foundations

variable {α β State Part : Type*}

/-- A part of a fold in which only the part's own items change it. -/
theorem read_foldl_own {step : State → α → State} {read : State → Part} {own : α → Prop}
    [DecidablePred own] {update : Part → α → Part}
    (hread : ∀ state item, read (step state item) =
      if own item then update (read state) item else read state)
    (items : List α) (initial : State) :
    read (items.foldl step initial) =
      (items.filter fun item ↦ own item).foldl update (read initial) := by
  induction items generalizing initial with
  | nil => rfl
  | cons item items ih =>
    rw [List.foldl_cons, ih, hread]
    by_cases hown : own item
    · rw [if_pos hown, List.filter_cons_of_pos (by simpa using hown), List.foldl_cons]
    · rw [if_neg hown, List.filter_cons_of_neg (by simpa using hown)]

/-- The last request, or the one before all of them. -/
def lastRequest (initial : Option β) (requests : List β) : Option β :=
  requests.getLast?.or initial

theorem lastRequest_append (initial : Option β) (first second : List β) :
    lastRequest initial (first ++ second) = lastRequest (lastRequest initial first) second := by
  rw [lastRequest, lastRequest, lastRequest, List.getLast?_append, Option.or_assoc]

theorem lastRequest_cons (initial : Option β) (request : β) (requests : List β) :
    lastRequest initial (request :: requests) = lastRequest (some request) requests :=
  lastRequest_append initial [request] requests

/-- The last request is the initial one or one of the later ones. -/
theorem lastRequest_eq_some {initial : Option β} {requests : List β} {request : β}
    (hlast : lastRequest initial requests = some request) :
    initial = some request ∨ request ∈ requests := by
  unfold lastRequest at hlast
  cases hfound : requests.getLast? with
  | none => rw [hfound] at hlast; exact .inl hlast
  | some later => rw [hfound] at hlast; cases hlast; exact .inr (List.mem_of_getLast? hfound)

/-- There is a last request after an initial one. -/
theorem exists_lastRequest (initial : β) (requests : List β) :
    ∃ request, lastRequest (some initial) requests = some request := by
  unfold lastRequest
  cases requests.getLast? with
  | none => exact ⟨initial, rfl⟩
  | some later => exact ⟨later, rfl⟩

/-- A fold whose items overwrite a value with what they request, or leave it, ends with the last
request. -/
theorem foldl_eq_lastRequest {γ : Type*} {step : γ → α → γ} {request : α → Option β} {value : β → γ}
    (hstep : ∀ current item, step current item = ((request item).map value).getD current)
    (items : List α) (initial : Option β) (unset : γ) :
    items.foldl step ((initial.map value).getD unset) =
      ((lastRequest initial (items.filterMap request)).map value).getD unset := by
  induction items generalizing initial with
  | nil => rfl
  | cons item items ih =>
    rw [List.foldl_cons, hstep]
    cases hrequest : request item with
    | none =>
      rw [List.filterMap_cons_none hrequest, ← ih initial, Option.map_none, Option.getD_none]
    | some requested =>
      rw [List.filterMap_cons_some hrequest, lastRequest_cons, ← ih (some requested)]
      rfl

end HilRig.Foundations
