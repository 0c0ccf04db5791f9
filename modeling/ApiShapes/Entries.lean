/-!
# Ordered entries

Entries under texts, in the order in which the keys were first written.  Writing a key again
replaces its value and keeps its place.
-/

namespace ApiShapes

abbrev Entries (α : Type) := List (String × α)

namespace Entries

variable {α : Type}

def put (key : String) (value : α) : Entries α → Entries α
  | [] => [(key, value)]
  | (k, v) :: rest => if k = key then (key, value) :: rest else (k, v) :: put key value rest

def get? (key : String) (entries : Entries α) : Option α :=
  List.lookup key entries

/-- Entries written one after the other. -/
def ofList (pairs : List (String × α)) : Entries α :=
  pairs.foldl (fun entries (k, v) => entries.put k v) []

def keys (entries : Entries α) : List String :=
  entries.map (·.1)

/-- Changes the value under a key, which is `default` if the key is new. -/
def update (key : String) (default : α) (f : α → α) (entries : Entries α) : Entries α :=
  entries.put key (f ((entries.get? key).getD default))

theorem keys_put (key : String) (value : α) (entries : Entries α) :
    (entries.put key value).keys =
      if key ∈ entries.keys then entries.keys else entries.keys ++ [key] := by
  induction entries with
  | nil => simp [put, keys]
  | cons entry rest ih =>
    obtain ⟨k, v⟩ := entry
    by_cases h : k = key
    · simp [put, keys, h]
    · have hkey : key ≠ k := fun e => h e.symm
      simp only [put, h, if_false]
      simp only [keys, List.map_cons, List.mem_cons, hkey, false_or] at ih ⊢
      rw [ih]
      grind

theorem get?_cons (k key : String) (v : α) (rest : Entries α) :
    get? key ((k, v) :: rest) = if key = k then some v else get? key rest := by
  unfold get?
  rw [List.lookup_cons]
  by_cases h : key = k
  · simp [h]
  · simp [h, beq_eq_false_iff_ne.2 h]

theorem get?_put (key other : String) (value : α) (entries : Entries α) :
    (entries.put key value).get? other =
      if other = key then some value else entries.get? other := by
  induction entries with
  | nil =>
    rw [put, get?_cons]
  | cons entry rest ih =>
    obtain ⟨k, v⟩ := entry
    rw [put, get?_cons]
    by_cases hk : k = key
    · subst hk
      rw [if_pos rfl, get?_cons]
      by_cases h : other = k
      · simp [h]
      · simp [h]
    · rw [if_neg hk, get?_cons, ih]
      by_cases h : other = k
      · have hkey : ¬ other = key := fun e => hk (h.symm.trans e)
        simp [h, hk]
      · simp [h]

end Entries

end ApiShapes
