import HilRig.Foundations.Fallible
import HilRig.Foundations.Transactions

/-!
# Batches

Processing a stream of items in batches. `Cuttable` says that it makes no difference whether two
consecutive batches are processed one after the other or as one; `Cuttable.foldlM_eq` draws from it
that every way to cut a stream has the same result. `KeyedInsertion` is the usual case of rows with
a unique key: a sequence of insertions returns exactly when its keys are `Fresh`, which can again be
decided batch by batch (`fresh_append`).
-/

set_option autoImplicit false
set_option relaxedAutoImplicit false

namespace HilRig.Foundations

/-! ### Cutting a stream -/

section Cuttable

variable {State Item : Type} {process : State → List Item → Option State}

/-- Two consecutive batches are processed as one. -/
structure Cuttable (process : State → List Item → Option State) : Prop where
  nil : ∀ state, process state [] = some state
  append : ∀ state first second, process state (first ++ second) =
    process state first >>= fun middle ↦ process middle second

/-- A stream processed in batches is processed as one batch. -/
theorem Cuttable.foldlM_eq (hcuttable : Cuttable process) (batches : List (List Item))
    (state : State) : batches.foldlM process state = process state batches.flatten := by
  induction batches generalizing state with
  | nil => exact (hcuttable.nil state).symm
  | cons batch batches ih =>
    rw [List.foldlM_cons, List.flatten_cons, hcuttable.append]
    exact congrArg (process state batch >>= ·) (funext ih)

end Cuttable

/-! ### Fresh keys -/

section Fresh

variable {Key : Type} {old : List Key}

/-- Keys that are distinct, and not among the old ones. -/
def Fresh (old new : List Key) : Prop :=
  new.Nodup ∧ ∀ key ∈ new, key ∉ old

theorem fresh_nil : Fresh old [] :=
  ⟨List.nodup_nil, fun _ hkey ↦ absurd hkey List.not_mem_nil⟩

/-- A key that is fresh becomes an old one for the keys after it. -/
theorem fresh_cons {key : Key} {new : List Key} :
    Fresh old (key :: new) ↔ key ∉ old ∧ Fresh (old ++ [key]) new := by
  simp only [Fresh, List.nodup_cons, List.forall_mem_cons, List.mem_append, List.mem_singleton,
    not_or]
  constructor
  · rintro ⟨⟨hkey, hnew⟩, hold, hlater⟩
    exact ⟨hold, hnew, fun other hother ↦ ⟨hlater other hother, fun heq ↦ hkey (heq ▸ hother)⟩⟩
  · rintro ⟨hold, hnew, hlater⟩
    exact ⟨⟨fun hkey ↦ (hlater key hkey).2 rfl, hnew⟩, hold, fun other hother ↦
      (hlater other hother).1⟩

theorem fresh_append {first second : List Key} :
    Fresh old (first ++ second) ↔ Fresh old first ∧ Fresh (old ++ first) second := by
  induction first generalizing old with
  | nil => simp [fresh_nil]
  | cons key first ih =>
    rw [List.cons_append, fresh_cons, fresh_cons, ih, and_assoc, List.append_assoc,
      List.singleton_append]

theorem Fresh.nodup_append {new : List Key} (hfresh : Fresh old new) (hold : old.Nodup) :
    (old ++ new).Nodup := by
  refine List.nodup_append.2 ⟨hold, hfresh.1, fun key hkey other hother hsame ↦ ?_⟩
  exact hfresh.2 other hother (hsame ▸ hkey)

end Fresh

/-! ### Rows with a unique key -/

section Keyed

variable {Error Database Item Key : Type} {valid : Item → Prop} {key : Item → Key}
  {keys : Database → List Key} {insert : Item → Database → Except Error Database}
  {add : Database → Item → Database}

/-- An insertion returns exactly when its item is valid and its key is new. -/
structure KeyedInsertion (valid : Item → Prop) (key : Item → Key) (keys : Database → List Key)
    (insert : Item → Database → Except Error Database) (add : Database → Item → Database) :
    Prop where
  insert_eq_ok : ∀ item database after, insert item database = .ok after ↔
    (valid item ∧ key item ∉ keys database) ∧ add database item = after
  keys_add : ∀ database item, keys (add database item) = keys database ++ [key item]

/-- A sequence of insertions returns exactly when its items are valid and its keys fresh. -/
theorem KeyedInsertion.applyAll_eq_ok (hkeyed : KeyedInsertion valid key keys insert add)
    {items : List Item} {database after : Database} :
    applyAll (items.map insert) database = .ok after ↔
      ((∀ item ∈ items, valid item) ∧ Fresh (keys database) (items.map key)) ∧
        items.foldl add database = after := by
  induction items generalizing database with
  | nil =>
    rw [List.map_nil, List.map_nil, List.foldl_nil]
    constructor
    · intro hafter
      exact ⟨⟨fun _ hitem ↦ absurd hitem List.not_mem_nil, fresh_nil⟩, Except.ok.inj hafter⟩
    · rintro ⟨-, rfl⟩
      rfl
  | cons item items ih =>
    rw [List.map_cons, List.map_cons, applyAll_cons, bind_eq_ok, List.foldl_cons, fresh_cons,
      List.forall_mem_cons]
    constructor
    · rintro ⟨middle, hmiddle, hafter⟩
      obtain ⟨⟨hvalid, hnew⟩, rfl⟩ := (hkeyed.insert_eq_ok item database middle).1 hmiddle
      obtain ⟨⟨hvalids, hfresh⟩, hafter⟩ := ih.1 hafter
      rw [hkeyed.keys_add] at hfresh
      exact ⟨⟨⟨hvalid, hvalids⟩, hnew, hfresh⟩, hafter⟩
    · rintro ⟨⟨⟨hvalid, hvalids⟩, hnew, hfresh⟩, hafter⟩
      refine ⟨add database item, (hkeyed.insert_eq_ok _ _ _).2 ⟨⟨hvalid, hnew⟩, rfl⟩, ih.2 ?_⟩
      rw [hkeyed.keys_add]
      exact ⟨⟨hvalids, hfresh⟩, hafter⟩

end Keyed

end HilRig.Foundations
