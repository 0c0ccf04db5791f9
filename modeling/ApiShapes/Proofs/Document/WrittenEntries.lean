import ApiShapes.Entries
import Mathlib.Tactic

/-!
# Written entries

What is found under a key after entries were written one after the other is the last value written
under it.  Entries with distinct keys are written one behind the other, and nothing but what is
written is among them.
-/

namespace ApiShapes

namespace Entries

variable {α : Type}

theorem get?_foldl_put {key : String} {pairs : List (String × α)}
    (hkey : key ∉ pairs.map (·.1)) (entries : Entries α) :
    (pairs.foldl (fun entries (k, v) => entries.put k v) entries).get? key = entries.get? key := by
  induction pairs generalizing entries with
  | nil => rfl
  | cons pair pairs ih =>
      obtain ⟨k, v⟩ := pair
      rw [List.map_cons, List.mem_cons, not_or] at hkey
      rw [List.foldl_cons, ih hkey.2, get?_put, if_neg hkey.1]

theorem get?_ofList_of_last {key : String} (before : List (String × α)) (value : α)
    {after : List (String × α)} (hafter : key ∉ after.map (·.1)) :
    (ofList (before ++ (key, value) :: after)).get? key = some value := by
  unfold ofList
  rw [List.foldl_append, List.foldl_cons, get?_foldl_put hafter, get?_put, if_pos rfl]

/-- The value under a key is that of the last of the values with its name. -/
theorem get?_ofList_map {β : Type} (name : β → String) (f : β → α) (values : List β)
    (key : String) :
    (ofList (values.map fun b => (name b, f b))).get? key =
      (values.reverse.find? (name · = key)).map f := by
  unfold ofList
  induction values using List.reverseRecOn with
  | nil => rfl
  | append_singleton values last ih =>
      rw [List.map_append, List.foldl_append, List.map_singleton, List.foldl_cons, List.foldl_nil,
        get?_put, ih, List.reverse_append, List.reverse_singleton, List.singleton_append,
        List.find?_cons]
      by_cases hkey : name last = key
      · simp [hkey]
      · simp [hkey, Ne.symm hkey]

theorem mem_of_get? {key : String} {value : α} {entries : Entries α}
    (h : entries.get? key = some value) : (key, value) ∈ entries := by
  obtain ⟨before, after, rfl, -⟩ := List.lookup_eq_some_iff.1 h
  simp

theorem mem_put {key : String} {value : α} {entries : Entries α} {entry : String × α}
    (h : entry ∈ entries.put key value) : entry = (key, value) ∨ entry ∈ entries := by
  induction entries with
  | nil => exact Or.inl (List.mem_singleton.1 h)
  | cons first rest ih =>
      obtain ⟨k, v⟩ := first
      rw [put] at h
      split at h
      · exact (List.mem_cons.1 h).imp_right (List.mem_cons_of_mem _)
      · rcases List.mem_cons.1 h with rfl | h
        · exact Or.inr List.mem_cons_self
        · exact (ih h).imp_right (List.mem_cons_of_mem _)

theorem mem_ofList {pairs : List (String × α)} {entry : String × α} (h : entry ∈ ofList pairs) :
    entry ∈ pairs := by
  revert h
  unfold ofList
  apply List.foldlRecOn (motive := fun entries => entry ∈ entries → entry ∈ pairs)
  · exact nofun
  · intro entries hentries pair hpair hentry
    rcases mem_put hentry with rfl | hentry
    · exact hpair
    · exact hentries hentry

theorem put_of_new {key : String} {entries : Entries α} (hkey : key ∉ entries.keys) (value : α) :
    entries.put key value = entries ++ [(key, value)] := by
  induction entries with
  | nil => rfl
  | cons entry rest ih =>
      obtain ⟨k, v⟩ := entry
      rw [keys, List.map_cons, List.mem_cons, not_or] at hkey
      rw [put, if_neg (Ne.symm hkey.1), ih hkey.2, List.cons_append]

/-- Pairs with new and distinct keys are written one behind the other. -/
theorem foldl_put_of_nodup {pairs : List (String × α)} (entries : Entries α)
    (hnames : (entries.keys ++ pairs.map (·.1)).Nodup) :
    pairs.foldl (fun entries (k, v) => entries.put k v) entries = entries ++ pairs := by
  induction pairs generalizing entries with
  | nil => simp
  | cons pair pairs ih =>
      obtain ⟨k, v⟩ := pair
      have hnew : k ∉ entries.keys := by
        intro hmem
        exact (List.nodup_append.1 hnames).2.2 k hmem k List.mem_cons_self rfl
      have hnext : ((entries ++ [(k, v)]).keys ++ pairs.map (·.1)).Nodup := by
        simpa [keys] using hnames
      simp only [List.foldl_cons, put_of_new hnew, ih _ hnext, List.append_assoc,
        List.singleton_append]

theorem ofList_of_nodup {pairs : List (String × α)} (hnames : (pairs.map (·.1)).Nodup) :
    ofList pairs = pairs :=
  foldl_put_of_nodup [] (by simpa [keys] using hnames)

theorem get?_ofList_of_nodup {key : String} {value : α} {pairs : List (String × α)}
    (hnames : (pairs.map (·.1)).Nodup) (hmem : (key, value) ∈ pairs) :
    (ofList pairs).get? key = some value := by
  obtain ⟨before, after, rfl⟩ := List.append_of_mem hmem
  rw [List.map_append, List.map_cons, List.nodup_middle, List.nodup_cons, List.mem_append,
    not_or] at hnames
  exact get?_ofList_of_last before value hnames.1.2

theorem mem_keys_put (key k : String) (value : α) (entries : Entries α) :
    key ∈ (entries.put k value).keys ↔ key ∈ entries.keys ∨ key = k := by
  rw [keys_put]
  by_cases hk : k ∈ entries.keys
  · rw [if_pos hk]
    constructor
    · exact Or.inl
    · rintro (h | rfl)
      · exact h
      · exact hk
  · rw [if_neg hk, List.mem_append, List.mem_singleton]

theorem mem_keys_foldl_put (key : String) (pairs : List (String × α)) (entries : Entries α) :
    key ∈ (pairs.foldl (fun entries (k, v) => entries.put k v) entries).keys ↔
      key ∈ entries.keys ∨ key ∈ pairs.map (·.1) := by
  induction pairs generalizing entries with
  | nil => simp
  | cons pair pairs ih =>
      rw [List.foldl_cons, ih, mem_keys_put, List.map_cons, List.mem_cons, or_assoc]

theorem mem_keys_ofList (key : String) (pairs : List (String × α)) :
    key ∈ (ofList pairs).keys ↔ key ∈ pairs.map (·.1) := by
  rw [ofList, mem_keys_foldl_put]
  exact or_iff_right List.not_mem_nil

/-- An entry is kept if its value is; no other one stands under its key. -/
theorem get?_filter_of_nodup {entries : Entries α} (hkeys : entries.keys.Nodup)
    {key : String} {v : α} (hv : entries.get? key = some v) (keep : α → Bool) :
    get? key (entries.filter fun (_, w) => keep w) = if keep v = true then some v else none := by
  induction entries with
  | nil => cases hv
  | cons entry rest ih =>
      obtain ⟨k, w⟩ := entry
      obtain ⟨habsent, hrest⟩ := List.nodup_cons.1 hkeys
      rw [get?_cons] at hv
      rw [List.filter_cons]
      change get? key (if keep w = true then _ else _) = _
      by_cases hk : key = k
      · subst hk
        obtain rfl : w = v := by simpa using hv
        split
        · rw [get?_cons, if_pos rfl]
        · rw [get?, List.lookup_eq_none_iff]
          intro other hother
          rw [bne_iff_ne]
          rintro rfl
          have hmem := (List.mem_filter.1 hother).1
          exact habsent (List.mem_map.2 ⟨other, hmem, rfl⟩)
      · rw [if_neg hk] at hv
        split
        · rw [get?_cons, if_neg hk, ih hrest hv]
        · exact ih hrest hv

end Entries

end ApiShapes
