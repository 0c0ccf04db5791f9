import ApiShapes.Value
import Mathlib.Tactic

/-!
# Looking up fields

The first entry under a key counts.  So a field is found in the first of two parts of a record that
has it, and leaving out entries does not change the fields that are kept.
-/

namespace ApiShapes

namespace Value

/-- Only a record has fields. -/
theorem exists_record_of_get? {v w : Value} {key : String} (h : v.get? key = some w) :
    ∃ entries, v = .record entries := by
  cases v with
  | record entries => exact ⟨entries, rfl⟩
  | _ => cases h

theorem lookup_cons_self (key : String) (v : Value) (rest : List (Value × Value)) :
    lookup key ((.text key, v) :: rest) = some v := by
  rw [lookup, if_pos (beq_self_eq_true key)]

theorem lookup_cons_of_ne {key : String} {k : Value} (h : k ≠ .text key) (v : Value)
    (rest : List (Value × Value)) : lookup key ((k, v) :: rest) = lookup key rest := by
  cases k with
  | text t =>
      have ht : ¬ (t == key) = true := by
        rw [beq_iff_eq]
        rintro rfl
        exact h rfl
      rw [lookup, if_neg ht]
  | _ => rw [lookup]; simp

theorem lookup_append (key : String) (a b : List (Value × Value)) :
    lookup key (a ++ b) = (lookup key a).or (lookup key b) := by
  induction a with
  | nil => rfl
  | cons entry a ih =>
      obtain ⟨k, v⟩ := entry
      rw [List.cons_append]
      by_cases hk : k = .text key
      · rw [hk, lookup_cons_self, lookup_cons_self]
        rfl
      · rw [lookup_cons_of_ne hk, lookup_cons_of_ne hk, ih]

section

variable {key : String} {p : Value × Value → Bool} (entries : List (Value × Value))

theorem lookup_filter_of_keep (hkeep : ∀ v, p (.text key, v) = true) :
    lookup key (entries.filter p) = lookup key entries := by
  induction entries with
  | nil => rfl
  | cons entry rest ih =>
      obtain ⟨k, v⟩ := entry
      by_cases hk : k = .text key
      · rw [hk, List.filter_cons_of_pos (hkeep v), lookup_cons_self, lookup_cons_self]
      · rw [lookup_cons_of_ne hk, ← ih, List.filter_cons]
        split
        · exact lookup_cons_of_ne hk v _
        · rfl

theorem lookup_filter_of_drop (hdrop : ∀ v, p (.text key, v) = false) :
    lookup key (entries.filter p) = none := by
  induction entries with
  | nil => rfl
  | cons entry rest ih =>
      obtain ⟨k, v⟩ := entry
      rw [List.filter_cons]
      split
      · next hkept =>
        have hk : k ≠ .text key := by
          rintro rfl
          rw [hdrop v] at hkept
          cases hkept
        rw [lookup_cons_of_ne hk, ih]
      · exact ih

end

/-- Setting a key's value leaves the other keys as they are. -/
theorem isSome_lookup_insertEntry (key : String) (k v : Value) (entries : List (Value × Value)) :
    (lookup key (insertEntry k v entries)).isSome = true ↔
      k = .text key ∨ (lookup key entries).isSome = true := by
  induction entries with
  | nil =>
      rw [insertEntry]
      by_cases hk : k = .text key
      · simp [hk, lookup_cons_self]
      · simp [hk, lookup_cons_of_ne hk, lookup]
  | cons entry entries ih =>
      obtain ⟨k', v'⟩ := entry
      rw [insertEntry]
      by_cases hk' : k' = .text key
      · split_ifs <;> simp [hk', lookup_cons_self]
      · split_ifs with hsame
        · have hk : k ≠ .text key := by
            rintro rfl
            cases k' with
            | text t =>
                have ht : t = key := by simpa [sameKey] using hsame
                exact hk' (congrArg Value.text ht)
            | _ => simp [sameKey, wholeNumber?] at hsame
          simp [hk, lookup_cons_of_ne hk']
        · simp only [lookup_cons_of_ne hk', ih]

theorem isSome_lookup_foldl_insertEntry (key : String) (entries done : List (Value × Value)) :
    (lookup key (entries.foldl (fun done e => insertEntry e.1 e.2 done) done)).isSome = true ↔
      .text key ∈ entries.map (·.1) ∨ (lookup key done).isSome = true := by
  induction entries generalizing done with
  | nil => simp
  | cons entry entries ih =>
      obtain ⟨k, v⟩ := entry
      rw [List.foldl_cons, ih, isSome_lookup_insertEntry, List.map_cons, List.mem_cons]
      rw [or_left_comm, or_assoc, eq_comm]

/-- A record has the keys that occur among its entries. -/
theorem isSome_get?_recordOf (key : String) (entries : List (Value × Value)) :
    ((recordOf entries).get? key).isSome = true ↔ .text key ∈ entries.map (·.1) := by
  rw [recordOf, get?, isSome_lookup_foldl_insertEntry]
  simp [lookup]

end Value

end ApiShapes
