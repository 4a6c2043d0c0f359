import HilRig.Foundations.OrderedDict
import Mathlib.Data.List.Sort
import Mathlib.Data.List.SplitBy
import Mathlib.Order.Defs.LinearOrder

/-!
# Grouping a sorted list by its keys

`runs key items` cuts a list into its maximal runs of equal consecutive keys, each with its key. On
a list that is sorted by the keys, the keys of the runs ascend strictly (`pairwise_runs`) and the
run of a key is the filtered list (`lookup_runs`). Pushing the items of a sorted list one by one
into a dictionary of lists groups them likewise (`grouped_foldl_push`). A stable sort by one order
is a sort by any other order that agrees with it on each earlier and later item
(`insertionSort_congr`).
-/

set_option autoImplicit false
set_option relaxedAutoImplicit false

namespace HilRig.Foundations

variable {α κ : Type*} (key : α → κ)

/-- Groups with the keys of their first items. -/
def keyed (groups : List (List α)) : List (κ × List α) :=
  groups.filterMap fun group ↦ group.head?.map fun first ↦ (key first, group)

/-- The maximal runs of equal consecutive keys, each with its key. -/
def runs [BEq κ] (items : List α) : List (κ × List α) :=
  keyed key (items.splitBy fun first second ↦ key first == key second)

variable {key} {items : List α}

@[simp] theorem keyed_cons_cons (first : α) (group : List α) (groups : List (List α)) :
    keyed key ((first :: group) :: groups) = (key first, first :: group) :: keyed key groups :=
  rfl

/-- A keyed group is one of the groups, with the key of its first item. -/
theorem mem_keyed {groups : List (List α)} {entry : κ × List α}
    (hentry : entry ∈ keyed key groups) :
    ∃ first rest, first :: rest ∈ groups ∧ entry = (key first, first :: rest) := by
  obtain ⟨group, hgroup, hhead⟩ := List.mem_filterMap.1 hentry
  cases group with
  | nil => cases hhead
  | cons first rest => exact ⟨first, rest, hgroup, (Option.some.inj hhead).symm⟩

/-- The groups in order, when none is empty. -/
theorem flatMap_keyed {groups : List (List α)} (hnonempty : [] ∉ groups) :
    (keyed key groups).flatMap Prod.snd = groups.flatten := by
  induction groups with
  | nil => rfl
  | cons group groups ih =>
    rw [List.mem_cons, not_or] at hnonempty
    cases group with
    | nil => exact absurd rfl hnonempty.1
    | cons first rest =>
      rw [keyed_cons_cons, List.flatMap_cons, ih hnonempty.2, List.flatten_cons]

variable [LinearOrder κ]

/-- Groups of a sorted list that differ where they meet have strictly ascending keys. -/
theorem pairwise_keyed {groups : List (List α)}
    (hsorted : groups.flatten.Pairwise fun first second ↦ key first ≤ key second)
    (hmeet : groups.IsChain fun first second ↦ ∃ hfirst hsecond,
      (key (first.getLast hfirst) == key (second.head hsecond)) = false) :
    ((keyed key groups).map Prod.fst).Pairwise (· < ·) := by
  induction groups with
  | nil => exact List.Pairwise.nil
  | cons group groups ih =>
    rw [List.flatten_cons, List.pairwise_append] at hsorted
    obtain ⟨hgroup, hgroups, hcross⟩ := hsorted
    have hlater := ih hgroups hmeet.tail
    cases group with
    | nil => exact hlater
    | cons first rest =>
      rw [keyed_cons_cons, List.map_cons, List.pairwise_cons]
      refine ⟨fun later hmem ↦ ?_, hlater⟩
      obtain ⟨entry, hentry, rfl⟩ := List.mem_map.1 hmem
      obtain ⟨item, others, hitem, rfl⟩ := mem_keyed hentry
      cases groups with
      | nil => cases hitem
      | cons next groups =>
        obtain ⟨hlast, hhead, hdifferent⟩ := (List.isChain_cons_cons.1 hmeet).1
        have hfirst : key first ≤ key ((first :: rest).getLast hlast) := by
          rcases List.mem_cons.1 (List.getLast_mem hlast) with heq | hmem
          · rw [heq]
          · exact (List.pairwise_cons.1 hgroup).1 _ hmem
        have hnext : key ((first :: rest).getLast hlast) < key (next.head hhead) := by
          refine lt_of_le_of_ne (hcross _ (List.getLast_mem hlast) _ ?_) (by simpa using hdifferent)
          exact List.mem_append_left _ (List.head_mem hhead)
        have hlatest : key (next.head hhead) ≤ key item := by
          rcases List.mem_cons.1 hitem with rfl | hitem
          · exact le_rfl
          · rw [List.flatten_cons, List.pairwise_append] at hgroups
            exact hgroups.2.2 _ (List.head_mem hhead) _
              (List.mem_flatten.2 ⟨_, hitem, List.mem_cons_self⟩)
        exact lt_of_le_of_lt hfirst (lt_of_lt_of_le hnext hlatest)

/-! ### Runs of a list -/

/-- The runs in order are the list. -/
theorem flatMap_runs (key : α → κ) (items : List α) :
    (runs key items).flatMap Prod.snd = items := by
  rw [runs, flatMap_keyed (List.nil_notMem_splitBy _ _), List.flatten_splitBy]

/-- All items of a run have its key. -/
theorem key_of_mem_run {run : κ × List α} (hrun : run ∈ runs key items) {item : α}
    (hitem : item ∈ run.2) : key item = run.1 := by
  obtain ⟨first, rest, hgroup, rfl⟩ := mem_keyed hrun
  have hchain : (first :: rest).IsChain fun first second ↦ key first = key second :=
    (List.isChain_of_mem_splitBy hgroup).imp fun _ _ h ↦ by simpa using h
  have htransitive : IsTrans α fun first second ↦ key first = key second :=
    ⟨fun _ _ _ ↦ Eq.trans⟩
  rcases List.mem_cons.1 hitem with rfl | hitem
  · rfl
  · exact ((List.pairwise_cons.1 (List.isChain_iff_pairwise.1 hchain)).1 item hitem).symm

/-- The keys of the runs of a sorted list ascend strictly. -/
theorem pairwise_runs (hsorted : items.Pairwise fun first second ↦ key first ≤ key second) :
    ((runs key items).map Prod.fst).Pairwise (· < ·) := by
  refine pairwise_keyed ?_ (List.isChain_getLast_head_splitBy
    (fun first second ↦ key first == key second) items)
  rwa [List.flatten_splitBy]

/-- The keys of the runs are the keys of the items. -/
theorem mem_keys_runs {value : κ} :
    value ∈ (runs key items).map Prod.fst ↔ ∃ item ∈ items, key item = value := by
  constructor
  · intro hmem
    obtain ⟨run, hrun, rfl⟩ := List.mem_map.1 hmem
    obtain ⟨first, rest, hgroup, rfl⟩ := mem_keyed hrun
    refine ⟨first, ?_, rfl⟩
    rw [← flatMap_runs key items]
    exact List.mem_flatMap.2 ⟨_, hrun, List.mem_cons_self⟩
  · rintro ⟨item, hitem, rfl⟩
    rw [← flatMap_runs key items] at hitem
    obtain ⟨run, hrun, hmem⟩ := List.mem_flatMap.1 hitem
    exact List.mem_map.2 ⟨run, hrun, (key_of_mem_run hrun hmem).symm⟩

/-- Looking up a key in groups with distinct keys filters their items. -/
theorem lookup_groups {groups : List (κ × List α)} (hnodup : (groups.map Prod.fst).Nodup)
    (hkeys : ∀ group ∈ groups, ∀ item ∈ group.2, key item = group.1) (value : κ) :
    (groups.lookup value).getD [] =
      (groups.flatMap Prod.snd).filter fun item ↦ key item = value := by
  induction groups with
  | nil => rfl
  | cons group groups ih =>
    rw [List.map_cons, List.nodup_cons] at hnodup
    have hlater := ih hnodup.2 fun other hother ↦ hkeys other (List.mem_cons_of_mem _ hother)
    have hgroup := hkeys group List.mem_cons_self
    rw [List.flatMap_cons, List.filter_append, ← hlater, List.lookup_cons]
    by_cases hvalue : value = group.1
    · have hnone : groups.lookup value = none := by
        rw [List.lookup_eq_none_iff]
        intro other hother
        rw [hvalue, bne_iff_ne]
        exact fun heq ↦ hnodup.1 (List.mem_map.2 ⟨other, hother, heq.symm⟩)
      have hall : group.2.filter (fun item ↦ key item = value) = group.2 := by
        rw [List.filter_eq_self]
        intro item hitem
        rw [hgroup item hitem, hvalue, decide_eq_true rfl]
      rw [hnone, hall, hvalue, beq_self_eq_true, Option.getD_none, List.append_nil]
      rfl
    · have hnone : group.2.filter (fun item ↦ key item = value) = [] := by
        rw [List.filter_eq_nil_iff]
        intro item hitem
        rw [hgroup item hitem, decide_eq_true_iff]
        exact fun heq ↦ hvalue heq.symm
      rw [hnone, List.nil_append, beq_eq_false_iff_ne.2 hvalue]

/-- The run of a key in a sorted list is the filtered list. -/
theorem lookup_runs (hsorted : items.Pairwise fun first second ↦ key first ≤ key second)
    (value : κ) :
    ((runs key items).lookup value).getD [] = items.filter fun item ↦ key item = value := by
  rw [lookup_groups ((pairwise_runs hsorted).imp ne_of_lt) (fun _ hrun _ ↦ key_of_mem_run hrun),
    flatMap_runs]

/-- The items of a least key come first in a sorted list. -/
theorem filter_append_filter_of_least
    (hsorted : items.Pairwise fun first second ↦ key first ≤ key second) {least : κ}
    (hleast : ∀ item ∈ items, least ≤ key item) :
    (items.filter fun item ↦ key item = least) ++ items.filter (fun item ↦ key item ≠ least) =
      items := by
  induction items with
  | nil => rfl
  | cons item items ih =>
    rw [List.pairwise_cons] at hsorted
    have hlater := ih hsorted.2 fun other hother ↦ hleast other (List.mem_cons_of_mem _ hother)
    by_cases hkey : key item = least
    · simp only [List.filter_cons, hkey, ne_eq, not_true_eq_false, decide_true, decide_false,
        if_true, List.cons_append]
      exact congrArg (item :: ·) hlater
    · have hgreater : ∀ other ∈ items, key other ≠ least := fun other hother ↦
        (lt_of_lt_of_le (lt_of_le_of_ne (hleast item List.mem_cons_self) (Ne.symm hkey))
          (hsorted.1 other hother)).ne'
      have hnone : items.filter (fun other ↦ key other = least) = [] := by
        rw [List.filter_eq_nil_iff]
        exact fun other hother ↦ by simpa using hgreater other hother
      have hall : items.filter (fun other ↦ key other ≠ least) = items := by
        rw [List.filter_eq_self]
        exact fun other hother ↦ by simpa using hgreater other hother
      rw [List.filter_cons_of_neg (by simpa using hkey),
        List.filter_cons_of_pos (by simpa using hkey), hnone, hall, List.nil_append]

/-- The items of ascending keys, key by key, are the sorted list. -/
theorem flatMap_filter_key (hsorted : items.Pairwise fun first second ↦ key first ≤ key second)
    {keys : List κ} (hkeys : keys.Pairwise (· < ·)) (hmem : ∀ item ∈ items, key item ∈ keys) :
    keys.flatMap (fun value ↦ items.filter fun item ↦ key item = value) = items := by
  induction keys generalizing items with
  | nil =>
    rw [List.eq_nil_iff_forall_not_mem.2 fun item hitem ↦ List.not_mem_nil (hmem item hitem)]
    rfl
  | cons first keys ih =>
    rw [List.pairwise_cons] at hkeys
    have hleast : ∀ item ∈ items, first ≤ key item := by
      intro item hitem
      rcases List.mem_cons.1 (hmem item hitem) with heq | hlater
      · exact heq.ge
      · exact (hkeys.1 _ hlater).le
    have hmem' : ∀ item ∈ items.filter (fun item ↦ key item ≠ first), key item ∈ keys := by
      intro item hitem
      obtain ⟨hitem, hne⟩ := List.mem_filter.1 hitem
      exact (List.mem_cons.1 (hmem item hitem)).resolve_left (by simpa using hne)
    have hrest : keys.flatMap (fun value ↦ items.filter fun item ↦ key item = value) =
        items.filter fun item ↦ key item ≠ first := by
      rw [← ih (hsorted.filter fun item ↦ decide (key item ≠ first)) hkeys.2 hmem']
      refine List.flatMap_congr fun value hvalue ↦ ?_
      rw [List.filter_filter]
      refine List.filter_congr fun item _ ↦ ?_
      have hne : value ≠ first := (hkeys.1 value hvalue).ne'
      by_cases heq : key item = value
      · simp [heq, hne]
      · simp [heq]
    rw [List.flatMap_cons, hrest, filter_append_filter_of_least hsorted hleast]

/-- The items of ascending keys up to a limit, key by key, are the sorted list up to it. -/
theorem flatMap_filter_key_le
    (hsorted : items.Pairwise fun first second ↦ key first ≤ key second)
    {keys : List κ} (hkeys : keys.Pairwise (· < ·)) (hmem : ∀ item ∈ items, key item ∈ keys)
    (limit : κ) :
    (keys.filter (· ≤ limit)).flatMap (fun value ↦ items.filter fun item ↦ key item = value) =
      items.filter fun item ↦ key item ≤ limit := by
  rw [← flatMap_filter_key (hsorted.filter fun item ↦ decide (key item ≤ limit))
    (hkeys.filter fun value ↦ decide (value ≤ limit))]
  · refine List.flatMap_congr fun value hvalue ↦ ?_
    have hle : value ≤ limit := by simpa using (List.mem_filter.1 hvalue).2
    rw [List.filter_filter]
    refine List.filter_congr fun item _ ↦ ?_
    by_cases heq : key item = value
    · simp [heq, hle]
    · simp [heq]
  · intro item hitem
    obtain ⟨hitem, hle⟩ := List.mem_filter.1 hitem
    exact List.mem_filter.2 ⟨hmem item hitem, hle⟩

/-- The items of a sorted list up to a limit are its first ones. -/
theorem filter_le_eq_take
    (hsorted : items.Pairwise fun first second ↦ key first ≤ key second) (limit : κ) :
    items.filter (fun item ↦ key item ≤ limit) =
      items.take (items.countP fun item ↦ key item ≤ limit) := by
  induction items with
  | nil => rfl
  | cons item items ih =>
    rw [List.pairwise_cons] at hsorted
    by_cases hle : key item ≤ limit
    · rw [List.filter_cons_of_pos (by simpa using hle),
        List.countP_cons_of_pos (by simpa using hle), List.take_succ_cons, ih hsorted.2]
    · have hgreater : ∀ other ∈ item :: items, ¬key other ≤ limit := by
        intro other hother
        rcases List.mem_cons.1 hother with rfl | hother
        · exact hle
        · exact fun h ↦ hle ((hsorted.1 other hother).trans h)
      rw [List.filter_eq_nil_iff.2 fun other hother ↦ by simpa using hgreater other hother,
        List.countP_eq_zero.2 fun other hother ↦ by simpa using hgreater other hother,
        List.take_zero]

/-! ### Groups built one item at a time -/

/-- A list cut into nonempty groups of items with one key, with strictly ascending keys. -/
structure Grouped (key : α → κ) (items : List α) (groups : List (κ × List α)) : Prop where
  concat : groups.flatMap Prod.snd = items
  ascending : (groups.map Prod.fst).Pairwise (· < ·)
  nonempty : ∀ group ∈ groups, group.2 ≠ []
  keys : ∀ group ∈ groups, ∀ item ∈ group.2, key item = group.1

namespace Grouped

variable {groups : List (κ × List α)} {next : α}

/-- The key of a group is that of one of the items. -/
theorem exists_key (hgrouped : Grouped key items groups) {value : κ}
    (hvalue : value ∈ groups.map Prod.fst) : ∃ item ∈ items, key item = value := by
  obtain ⟨group, hgroup, rfl⟩ := List.mem_map.1 hvalue
  obtain ⟨item, hitem⟩ := List.exists_mem_of_ne_nil _ (hgrouped.nonempty group hgroup)
  refine ⟨item, ?_, hgrouped.keys group hgroup item hitem⟩
  rw [← hgrouped.concat]
  exact List.mem_flatMap.2 ⟨group, hgroup, hitem⟩

/-- An item with a new greatest key starts a group. -/
theorem concat_new (hgrouped : Grouped key items groups)
    (hlt : ∀ value ∈ groups.map Prod.fst, value < key next) :
    Grouped key (items ++ [next]) (groups ++ [(key next, [next])]) where
  concat := by rw [List.flatMap_append, hgrouped.concat]; rfl
  ascending := by
    rw [List.map_append, List.pairwise_append]
    refine ⟨hgrouped.ascending, List.pairwise_singleton _ _, fun value hvalue last hlast ↦ ?_⟩
    rw [List.map_singleton, List.mem_singleton] at hlast
    rw [hlast]
    exact hlt value hvalue
  nonempty group hgroup := by
    rcases List.mem_append.1 hgroup with hgroup | hgroup
    · exact hgrouped.nonempty group hgroup
    · rw [List.mem_singleton.1 hgroup]
      exact List.cons_ne_nil _ _
  keys group hgroup item hitem := by
    rcases List.mem_append.1 hgroup with hgroup | hgroup
    · exact hgrouped.keys group hgroup item hitem
    · rw [List.mem_singleton.1 hgroup] at hitem ⊢
      rw [List.mem_singleton.1 hitem]

/-- An item with the greatest key joins the last group. -/
theorem concat_last {group : List α}
    (hgrouped : Grouped key items (groups ++ [(key next, group)])) :
    Grouped key (items ++ [next]) (groups ++ [(key next, group ++ [next])]) where
  concat := by rw [← hgrouped.concat]; simp
  ascending := by simpa using hgrouped.ascending
  nonempty other hother := by
    rcases List.mem_append.1 hother with hother | hother
    · exact hgrouped.nonempty other (List.mem_append_left _ hother)
    · rw [List.mem_singleton.1 hother]
      exact List.concat_ne_nil next group
  keys other hother item hitem := by
    rcases List.mem_append.1 hother with hother | hother
    · exact hgrouped.keys other (List.mem_append_left _ hother) item hitem
    · rw [List.mem_singleton.1 hother] at hitem ⊢
      rcases List.mem_append.1 hitem with hitem | hitem
      · exact hgrouped.keys (key next, group) (by simp) item hitem
      · rw [List.mem_singleton.1 hitem]

/-- Pushing an item with a key no smaller than all others keeps the groups. -/
theorem push (hgrouped : Grouped key items groups)
    (hle : ∀ item ∈ items, key item ≤ key next) :
    Grouped key (items ++ [next]) (OrderedDict.push (key next) next groups) := by
  have hbound : ∀ value ∈ groups.map Prod.fst, value ≤ key next := by
    intro value hvalue
    obtain ⟨item, hitem, rfl⟩ := hgrouped.exists_key hvalue
    exact hle item hitem
  by_cases hkey : key next ∈ groups.map Prod.fst
  · -- The key of the item is the greatest, so it is the last.
    cases groups using List.reverseRecOn with
    | nil => simp at hkey
    | append_singleton early last _ =>
      have hascending := hgrouped.ascending
      rw [List.map_append, List.pairwise_append, List.map_singleton] at hascending
      have hearly : ∀ value ∈ early.map Prod.fst, value < last.1 :=
        fun value hvalue ↦ hascending.2.2 value hvalue _ (List.mem_singleton_self _)
      have hlast : last.1 = key next := by
        refine le_antisymm (hbound _ (by simp)) ?_
        rw [List.map_append, List.mem_append, List.map_singleton, List.mem_singleton] at hkey
        rcases hkey with hkey | hkey
        · exact (hearly _ hkey).le
        · exact hkey.le
      obtain ⟨value, group⟩ := last
      subst hlast
      rw [OrderedDict.push_concat fun hmem ↦ lt_irrefl _ (hearly _ hmem)]
      exact hgrouped.concat_last
  · rw [OrderedDict.push_of_notMem hkey]
    exact hgrouped.concat_new fun value hvalue ↦
      lt_of_le_of_ne (hbound value hvalue) fun heq ↦ hkey (heq ▸ hvalue)

end Grouped

/-- The items of a sorted list, pushed one by one, are grouped by their keys. -/
theorem grouped_foldl_push
    (hsorted : items.Pairwise fun first second ↦ key first ≤ key second) :
    Grouped key items
      (items.foldl (fun groups item ↦ OrderedDict.push (key item) item groups) []) := by
  induction items using List.reverseRecOn with
  | nil => exact ⟨rfl, .nil, by simp, by simp⟩
  | append_singleton items next ih =>
    obtain ⟨hitems, -, hle⟩ := List.pairwise_append.1 hsorted
    rw [List.foldl_concat]
    exact (ih hitems).push fun item hitem ↦ hle item hitem next (List.mem_singleton_self _)

/-! ### Stable sorting -/

section Sorting

variable {Item : Type*} {first second : Item → Item → Prop} [DecidableRel first]
  [DecidableRel second]

theorem orderedInsert_congr {item : Item} {sorted : List Item}
    (hagree : ∀ other ∈ sorted, (first item other ↔ second item other)) :
    sorted.orderedInsert first item = sorted.orderedInsert second item := by
  induction sorted with
  | nil => rfl
  | cons other sorted ih =>
    have hother := hagree other List.mem_cons_self
    have hrest := ih fun later hlater ↦ hagree later (List.mem_cons_of_mem _ hlater)
    rw [List.orderedInsert_cons, List.orderedInsert_cons, hrest, if_congr hother rfl rfl]

/-- Orders that agree on each item with those after it sort a list alike. -/
theorem insertionSort_congr {list : List Item}
    (hagree : list.Pairwise fun earlier later ↦ (first earlier later ↔ second earlier later)) :
    list.insertionSort first = list.insertionSort second := by
  induction list with
  | nil => rfl
  | cons item list ih =>
    obtain ⟨hitem, hlist⟩ := List.pairwise_cons.1 hagree
    rw [List.insertionSort_cons, List.insertionSort_cons, ih hlist]
    exact orderedInsert_congr fun other hother ↦
      hitem other ((List.mem_insertionSort second).1 hother)

end Sorting

end HilRig.Foundations
