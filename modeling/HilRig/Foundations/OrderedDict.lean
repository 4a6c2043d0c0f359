import Mathlib.Data.List.Nodup

/-!
# Insertion-ordered dictionaries

An insertion-ordered dictionary is a list of entries with distinct keys. Assigning to a key that is
present replaces its value in place, and assigning to a new key appends an entry. `ofEntries` builds
one from a list of assignments, so a later assignment to the same key wins. Dictionaries built from
entries whose keys are already distinct are those entries (`ofEntries_of_nodup`).
-/

set_option autoImplicit false
set_option relaxedAutoImplicit false

namespace HilRig.Foundations.OrderedDict

variable {Key Value : Type*} [DecidableEq Key]

/-- Assign a value to a key, in place when the key is present and at the end otherwise. -/
def assign (key : Key) (value : Value) : List (Key × Value) → List (Key × Value)
  | [] => [(key, value)]
  | entry :: rest =>
    if entry.1 = key then (key, value) :: rest else entry :: assign key value rest

/-- The dictionary left by a list of assignments. -/
def ofEntries (entries : List (Key × Value)) : List (Key × Value) :=
  entries.foldl (fun dictionary entry ↦ assign entry.1 entry.2 dictionary) []

/-- Append a value to the list at a key, which starts empty at the end of the dictionary. -/
def push {Item : Type*} (key : Key) (item : Item) : List (Key × List Item) → List (Key × List Item)
  | [] => [(key, [item])]
  | entry :: rest =>
    if entry.1 = key then (key, entry.2 ++ [item]) :: rest else entry :: push key item rest

/-- A key that is absent is appended with its value. -/
theorem assign_of_notMem {key : Key} {value : Value} {dictionary : List (Key × Value)}
    (hkey : key ∉ dictionary.map Prod.fst) :
    assign key value dictionary = dictionary ++ [(key, value)] := by
  induction dictionary with
  | nil => rfl
  | cons entry rest ih =>
    simp only [List.map_cons, List.mem_cons, not_or] at hkey
    rw [assign, if_neg (Ne.symm hkey.1), ih hkey.2, List.cons_append]

/-- A key that is absent starts a list at the end. -/
theorem push_of_notMem {Item : Type*} {key : Key} {item : Item}
    {dictionary : List (Key × List Item)} (hkey : key ∉ dictionary.map Prod.fst) :
    push key item dictionary = dictionary ++ [(key, [item])] := by
  induction dictionary with
  | nil => rfl
  | cons entry rest ih =>
    simp only [List.map_cons, List.mem_cons, not_or] at hkey
    rw [push, if_neg (Ne.symm hkey.1), ih hkey.2, List.cons_append]

/-- The list at the last key is extended in place. -/
theorem push_concat {Item : Type*} {key : Key} {item : Item} {group : List Item}
    {dictionary : List (Key × List Item)} (hkey : key ∉ dictionary.map Prod.fst) :
    push key item (dictionary ++ [(key, group)]) =
      dictionary ++ [(key, group ++ [item])] := by
  induction dictionary with
  | nil => exact if_pos rfl
  | cons entry rest ih =>
    simp only [List.map_cons, List.mem_cons, not_or] at hkey
    rw [List.cons_append, push, if_neg (Ne.symm hkey.1), ih hkey.2, List.cons_append]

/-- Assignments to fresh distinct keys extend a dictionary by those entries, in order. -/
theorem foldl_assign_of_nodup (entries : List (Key × Value)) :
    ∀ dictionary : List (Key × Value), ((dictionary ++ entries).map Prod.fst).Nodup →
      entries.foldl (fun dictionary entry ↦ assign entry.1 entry.2 dictionary) dictionary =
        dictionary ++ entries := by
  induction entries with
  | nil => intro dictionary _; simp
  | cons entry rest ih =>
    intro dictionary hnodup
    have hfresh : entry.1 ∉ dictionary.map Prod.fst := by
      rw [List.map_append, List.map_cons] at hnodup
      intro hmem
      exact List.disjoint_of_nodup_append hnodup hmem List.mem_cons_self
    rw [List.foldl_cons, assign_of_notMem hfresh, ih, List.append_assoc, List.singleton_append]
    rwa [List.append_assoc, List.singleton_append]

/-- Entries with distinct keys are already a dictionary. -/
theorem ofEntries_of_nodup {entries : List (Key × Value)}
    (hnodup : (entries.map Prod.fst).Nodup) : ofEntries entries = entries := by
  rw [ofEntries, foldl_assign_of_nodup entries [] (by simpa using hnodup), List.nil_append]

/-- Assigning to a present key keeps the keys, and assigning to an absent one appends it. -/
theorem keys_assign (key : Key) (value : Value) (dictionary : List (Key × Value)) :
    (assign key value dictionary).map Prod.fst =
      if key ∈ dictionary.map Prod.fst then dictionary.map Prod.fst
      else dictionary.map Prod.fst ++ [key] := by
  induction dictionary with
  | nil => rfl
  | cons entry rest ih =>
    rw [assign]
    by_cases hkey : entry.1 = key
    · rw [if_pos hkey, List.map_cons, List.map_cons,
        if_pos (by rw [hkey]; exact List.mem_cons_self), hkey]
    · rw [if_neg hkey, List.map_cons, List.map_cons, ih]
      by_cases hmem : key ∈ rest.map Prod.fst
      · rw [if_pos hmem, if_pos (List.mem_cons_of_mem _ hmem)]
      · rw [if_neg hmem, if_neg, List.cons_append]
        exact fun h ↦ (List.mem_cons.1 h).elim (fun heq ↦ hkey heq.symm) hmem

/-- A dictionary built from assignments has distinct keys. -/
theorem nodup_keys_ofEntries (entries : List (Key × Value)) :
    ((ofEntries entries).map Prod.fst).Nodup := by
  suffices h : ∀ dictionary : List (Key × Value), (dictionary.map Prod.fst).Nodup →
      ((entries.foldl (fun dictionary entry ↦ assign entry.1 entry.2 dictionary)
        dictionary).map Prod.fst).Nodup from h [] List.nodup_nil
  induction entries with
  | nil => exact fun _ hnodup ↦ hnodup
  | cons entry rest ih =>
    intro dictionary hnodup
    refine ih _ ?_
    rw [keys_assign]
    split
    · exact hnodup
    · rename_i hfresh
      exact List.nodup_append.2 ⟨hnodup, List.nodup_singleton _,
        fun first hfirst second hsecond ↦ by
        rw [List.mem_singleton.1 hsecond]
        exact fun heq ↦ hfresh (heq ▸ hfirst)⟩

/-- An entry of a dictionary with distinct keys is what its key looks up. -/
theorem lookup_eq_some_iff {dictionary : List (Key × Value)}
    (hnodup : (dictionary.map Prod.fst).Nodup) {key : Key} {value : Value} :
    dictionary.lookup key = some value ↔ (key, value) ∈ dictionary := by
  induction dictionary with
  | nil => simp
  | cons entry rest ih =>
    rw [List.map_cons, List.nodup_cons] at hnodup
    rw [List.lookup_cons, List.mem_cons]
    by_cases hkey : key = entry.1
    · have habsent : (key, value) ∉ rest := fun hmem ↦
        hnodup.1 (hkey ▸ List.mem_map.2 ⟨_, hmem, rfl⟩)
      simp [hkey, Prod.ext_iff, eq_comm, hkey ▸ habsent]
    · rw [beq_eq_false_iff_ne.2 hkey, ih hnodup.2]
      simp [Prod.ext_iff, hkey]

/-- Looking a key up does not depend on the order of a dictionary. -/
theorem lookup_perm {first second : List (Key × Value)}
    (hnodup : (first.map Prod.fst).Nodup) (hperm : first.Perm second) (key : Key) :
    first.lookup key = second.lookup key := by
  have hnodup' : (second.map Prod.fst).Nodup := (hperm.map Prod.fst).nodup_iff.1 hnodup
  refine Option.ext fun value ↦ ?_
  rw [lookup_eq_some_iff hnodup, lookup_eq_some_iff hnodup', hperm.mem_iff]

/-- Folding updates of the entries' own parts over a dictionary with distinct keys leaves in each
part the update of its entry. -/
theorem read_foldl {State Part : Type*} {step : State → Key × Value → State}
    {read : State → Part} {key : Key} {update : Part → Value → Part}
    (hother : ∀ state entry, entry.1 ≠ key → read (step state entry) = read state)
    (hsame : ∀ state value, read (step state (key, value)) = update (read state) value)
    {dictionary : List (Key × Value)} (hnodup : (dictionary.map Prod.fst).Nodup)
    (initial : State) :
    read (dictionary.foldl step initial) =
      ((dictionary.lookup key).map (update (read initial))).getD (read initial) := by
  induction dictionary generalizing initial with
  | nil => rfl
  | cons entry rest ih =>
    rw [List.map_cons, List.nodup_cons] at hnodup
    rw [List.foldl_cons, ih hnodup.2, List.lookup_cons]
    by_cases hkey : key = entry.1
    · subst hkey
      have hnone : rest.lookup entry.1 = none := by
        rw [List.lookup_eq_none_iff]
        intro other hother
        rw [bne_iff_ne]
        exact fun heq ↦ hnodup.1 (List.mem_map.2 ⟨other, hother, heq.symm⟩)
      rw [hnone, beq_self_eq_true]
      exact hsame initial entry.2
    · rw [beq_eq_false_iff_ne.2 hkey, hother initial entry fun heq ↦ hkey heq.symm]

end HilRig.Foundations.OrderedDict
