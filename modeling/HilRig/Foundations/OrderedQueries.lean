import Mathlib.Data.List.Sort

/-!
# Ordered queries

The rows of a table are numbered as they are inserted. A query keeps some of them and yields them by
a rank and then by number (`select`). It yields each kept row once, in strict order
(`perm_select`, `pairwise_select`); a narrower query yields what a wider one does, filtered
(`select_eq_filter`); and rows of one rank come in the order of their insertion
(`select_of_rank`).
-/

set_option autoImplicit false
set_option relaxedAutoImplicit false

namespace HilRig.Foundations

section Queries

variable {α : Type} (rank : α → ℕ)

/-- A numbered row comes before another, or is it. -/
def RowLE (first second : α × ℕ) : Prop :=
  rank first.1 < rank second.1 ∨ rank first.1 = rank second.1 ∧ first.2 ≤ second.2

/-- A numbered row comes strictly before another. -/
def RowLT (first second : α × ℕ) : Prop :=
  rank first.1 < rank second.1 ∨ rank first.1 = rank second.1 ∧ first.2 < second.2

instance : DecidableRel (RowLE rank) := fun _ _ ↦ inferInstanceAs (Decidable (_ ∨ _))

instance : IsTrans (α × ℕ) (RowLE rank) where
  trans first second third hfirst hsecond := by
    unfold RowLE at *
    omega

instance : Std.Total (RowLE rank) where
  total first second := by
    unfold RowLE
    omega

/-- The numbered rows that a query keeps, in its order. -/
def select (keep : α → Bool) (rows : List α) : List (α × ℕ) :=
  (rows.zipIdx.filter fun entry ↦ keep entry.1).insertionSort (RowLE rank)

variable {rank} {keep : α → Bool} {rows : List α}

theorem perm_select :
    (select rank keep rows).Perm (rows.zipIdx.filter fun entry ↦ keep entry.1) :=
  List.perm_insertionSort _ _

/-- The numbers of the rows are distinct. -/
theorem nodup_numbers (keep : α × ℕ → Bool) (rows : List α) :
    ((rows.zipIdx.filter keep).map Prod.snd).Nodup := by
  have hnumbers : (rows.zipIdx.map Prod.snd).Nodup := by
    rw [List.zipIdx_map_snd]
    exact List.nodup_range'
  exact hnumbers.sublist (List.filter_sublist.map _)

/-- A query is strictly ordered. -/
theorem pairwise_select : (select rank keep rows).Pairwise (RowLT rank) := by
  have hsorted : (select rank keep rows).Pairwise (RowLE rank) :=
    List.pairwise_insertionSort _ _
  have hdistinct : (select rank keep rows).Pairwise fun first second ↦ first.2 ≠ second.2 :=
    List.pairwise_map.1 ((perm_select.map Prod.snd).nodup_iff.2 (nodup_numbers _ rows))
  refine (hsorted.and hdistinct).imp fun {first second} horder ↦ ?_
  obtain ⟨hle, hne⟩ := horder
  unfold RowLE at hle
  unfold RowLT
  omega

/-- Strictly ordered rows with the same members are the same. -/
theorem eq_of_rowLT {first second : List (α × ℕ)} (hfirst : first.Pairwise (RowLT rank))
    (hsecond : second.Pairwise (RowLT rank)) (hperm : first.Perm second) : first = second := by
  refine List.Perm.eq_of_pairwise ?_ hfirst hsecond hperm
  intro one other _ _ hlt hgt
  unfold RowLT at hlt hgt
  omega

/-- A query yields what one without its condition does, filtered. -/
theorem select_eq_filter :
    select rank keep rows =
      (select rank (fun _ ↦ true) rows).filter fun entry ↦ keep entry.1 := by
  have hall : (select rank (fun _ ↦ true) rows).Perm rows.zipIdx := by
    simpa using (perm_select : (select rank (fun _ ↦ true) rows).Perm _)
  exact eq_of_rowLT pairwise_select (pairwise_select.filter _)
    (perm_select.trans (hall.symm.filter _))

/-- Rows of one rank come in the order of their insertion. -/
theorem select_of_rank {value : ℕ} (hrank : ∀ row ∈ rows, keep row = true → rank row = value) :
    select rank keep rows = rows.zipIdx.filter fun entry ↦ keep entry.1 := by
  have hnumbers : rows.zipIdx.Pairwise fun first second ↦ first.2 < second.2 := by
    refine List.pairwise_map.1 ?_
    rw [List.zipIdx_map_snd]
    exact List.pairwise_lt_range'
  refine eq_of_rowLT pairwise_select ?_ perm_select
  refine (hnumbers.filter _).imp_of_mem fun {first second} hfirst hsecond hlt ↦ ?_
  have hvalue (entry : α × ℕ) (hentry : entry ∈ rows.zipIdx.filter fun entry ↦ keep entry.1) :
      rank entry.1 = value := by
    obtain ⟨hmem, hkeep⟩ := List.mem_filter.1 hentry
    exact hrank _ (List.mem_of_getElem? (List.mem_zipIdx_iff_getElem?.1 hmem)) hkeep
  exact .inr ⟨(hvalue _ hfirst).trans (hvalue _ hsecond).symm, hlt⟩

/-- The query of mapped rows. -/
theorem select_map {β : Type} (row : β → α) (items : List β) :
    select rank keep (items.map row) =
      (select (fun item ↦ rank (row item)) (fun item ↦ keep (row item)) items).map
        (Prod.map row id) := by
  rw [select, select, List.zipIdx_map, List.filter_map]
  exact (List.map_insertionSort (RowLE fun item ↦ rank (row item)) (RowLE rank) (Prod.map row id) _
    fun _ _ _ _ ↦ Iff.rfl).symm

end Queries

end HilRig.Foundations
