import HilRig.Foundations.Fallible
import Mathlib.Data.Int.Range
import Mathlib.Data.List.Basic

/-!
# Iterators

What a consumer meets of an iterator is the items it yields, in order, and how it ends: it is
exhausted, or it raises after its last item. A `for` loop over an iterator is a fold of its body
that ends as the iterator does (`Iteration.loop`). The parts of a loop's state that count items or
keep the first match are read off by `count_foldl` and `first_foldl`.
-/

set_option autoImplicit false
set_option relaxedAutoImplicit false

namespace HilRig.Foundations

/-- The items an iterator yields, and how it ends. -/
structure Iteration (ε α : Type) where
  items : List α
  ending : Except ε Unit

namespace Iteration

variable {ε α β σ : Type}

/-- An iterator over a list. -/
def ofList (items : List α) : Iteration ε α :=
  ⟨items, .ok ()⟩

/-- An iterator that raises at once. -/
def raise (error : ε) : Iteration ε α :=
  ⟨[], .error error⟩

/-- An iterator with an item in front. -/
def cons (item : α) (later : Iteration ε α) : Iteration ε α :=
  ⟨item :: later.items, later.ending⟩

/-- An iterator with a list in front. -/
def prepend (items : List α) (later : Iteration ε α) : Iteration ε α :=
  ⟨items ++ later.items, later.ending⟩

/-- The items of an iterator, each mapped. -/
def map (value : α → β) (iteration : Iteration ε α) : Iteration ε β :=
  ⟨iteration.items.map value, iteration.ending⟩

/-- The translations of a list, up to the first member that has none. -/
def translate (translation : α → Except ε β) : List α → Iteration ε β
  | [] => ofList []
  | item :: items =>
    match translation item with
    | .ok value => cons value (translate translation items)
    | .error error => raise error

/-- A `for` loop whose body may raise. -/
def loop (body : σ → α → Except ε σ) (initial : σ) (iteration : Iteration ε α) : Except ε σ := do
  let final ← iteration.items.foldlM body initial
  iteration.ending
  return final

/-- A list whose members all have translations. -/
theorem translate_map {γ : Type} {translation : β → Except ε γ} {entry : α → β} {value : α → γ}
    (htranslation : ∀ item, translation (entry item) = .ok (value item)) (items : List α) :
    translate translation (items.map entry) = ofList (items.map value) := by
  induction items with
  | nil => rfl
  | cons item items ih =>
    rw [List.map_cons, translate, htranslation]
    dsimp only
    rw [ih]
    rfl

@[simp] theorem map_ofList (value : α → β) (items : List α) :
    (ofList items : Iteration ε α).map value = ofList (items.map value) :=
  rfl

/-- A loop over a list whose body returns for each of its members. -/
theorem loop_ofList {body : σ → α → Except ε σ} {next : σ → α → σ} {items : List α}
    (hbody : ∀ state, ∀ item ∈ items, body state item = .ok (next state item)) (initial : σ) :
    loop body initial (ofList items) = .ok (items.foldl next initial) := by
  have hfold := foldlM_of_forall hbody initial
  rw [List.map_id'] at hfold
  show (items.foldlM body initial >>= _) = _
  rw [hfold]
  rfl

end Iteration

/-! ### Ranges of integers -/

section Ranges

variable {first middle last : ℤ}

theorem range_eq_nil (hle : last ≤ first) : Int.range first last = [] := by
  rw [Int.range, Int.toNat_of_nonpos (by omega), List.range_zero, List.map_nil]

theorem range_eq_cons (hlt : first < last) :
    Int.range first last = first :: Int.range (first + 1) last := by
  have hcount : (last - first).toNat = (last - (first + 1)).toNat + 1 := by omega
  rw [Int.range, hcount, List.range_succ_eq_map, List.map_cons, List.map_map, Int.range]
  congr 1
  · exact Int.add_zero first
  · refine List.map_congr_left fun position _ ↦ ?_
    show first + ((position + 1 : ℕ) : ℤ) = first + 1 + position
    omega

/-- A range is cut at any of its members. -/
theorem range_append (hfirst : first ≤ middle) (hlast : middle ≤ last) :
    Int.range first middle ++ Int.range middle last = Int.range first last := by
  obtain ⟨count, rfl⟩ : ∃ count : ℕ, middle = first + count := ⟨(middle - first).toNat, by omega⟩
  induction count generalizing first with
  | zero =>
    have hnone : first + ((0 : ℕ) : ℤ) = first := by omega
    rw [hnone, range_eq_nil le_rfl, List.nil_append]
  | succ count ih =>
    have hshift : first + ((count + 1 : ℕ) : ℤ) = first + 1 + count := by omega
    rw [hshift] at hlast ⊢
    rw [range_eq_cons (show first < first + 1 + count by omega),
      range_eq_cons (show first < last by omega), List.cons_append, ih (by omega) hlast]

end Ranges

/-! ### Parts of a loop's state -/

section Parts

variable {α β σ : Type}

/-- A part that counts some of the items. -/
theorem count_foldl {step : σ → α → σ} {read : σ → ℕ} {counted : α → Bool}
    (hread : ∀ state item, read (step state item) = read state + (counted item).toNat)
    (items : List α) (initial : σ) :
    read (items.foldl step initial) = read initial + items.countP counted := by
  induction items generalizing initial with
  | nil => rfl
  | cons item items ih =>
    rw [List.foldl_cons, ih, hread, List.countP_cons, Nat.add_assoc, Nat.add_comm (items.countP _)]
    cases counted item <;> rfl

/-- A part that keeps the first value some item has. -/
theorem first_foldl {step : σ → α → σ} {read : σ → Option β} {value : α → Option β}
    (hread : ∀ state item, read (step state item) = (read state).or (value item))
    (items : List α) (initial : σ) :
    read (items.foldl step initial) = (read initial).or (items.findSome? value) := by
  induction items generalizing initial with
  | nil => rw [List.findSome?_nil, Option.or_none, List.foldl_nil]
  | cons item items ih =>
    rw [List.foldl_cons, ih, hread, Option.or_assoc, List.findSome?_cons]
    cases value item <;> rfl

/-- A part that keeps the least value of the items that have one. -/
theorem least_foldl [LinearOrder β] {step : σ → α → σ} {read : σ → Option β} {value : α → Option β}
    (hread : ∀ state item, read (step state item) = Option.merge min (read state) (value item))
    (items : List α) (initial : σ) :
    read (items.foldl step initial) = ((read initial).toList ++ items.filterMap value).min? := by
  induction items generalizing initial with
  | nil => cases hinitial : read initial <;> simp [hinitial]
  | cons item items ih =>
    rw [List.foldl_cons, ih, hread, List.filterMap_cons]
    cases read initial with
    | none => cases value item <;> simp
    | some kept =>
      cases value item with
      | none => simp
      | some found =>
        cases hrest : (items.filterMap value).min? <;>
          simp [List.min?_cons, hrest, min_assoc]

/-- A part that keeps the greatest value of the items that have one. -/
theorem greatest_foldl [LinearOrder β] {step : σ → α → σ} {read : σ → Option β}
    {value : α → Option β}
    (hread : ∀ state item, read (step state item) = Option.merge max (read state) (value item))
    (items : List α) (initial : σ) :
    read (items.foldl step initial) = ((read initial).toList ++ items.filterMap value).max? :=
  @least_foldl α βᵒᵈ σ _ step read value hread items initial

/-- The only match in a list is the first one. -/
theorem find?_of_unique {items : List α} {matched : α → Bool} {item : α} (hmem : item ∈ items)
    (hmatched : matched item = true)
    (hunique : ∀ other ∈ items, matched other = true → other = item) :
    items.find? matched = some item := by
  obtain ⟨first, hfirst⟩ : ∃ first, items.find? matched = some first :=
    Option.isSome_iff_exists.1 (List.find?_isSome.2 ⟨item, hmem, hmatched⟩)
  rw [hfirst, hunique first (List.mem_of_find?_eq_some hfirst) (List.find?_some hfirst)]

end Parts

end HilRig.Foundations
