import ApiShapes.Proofs.Document.ShapeReading
import Mathlib.Tactic

/-!
# Plain data

The values that a JSON document can hold: records have texts as keys, and there are no bytes, dates,
moments, sets and pairs.  On plain data a shape reads only what it names: a text is read from a text
and a list from a list.
-/

namespace ApiShapes

inductive Value.IsPlain : Value → Prop where
  | null : IsPlain .null
  | bool (b : Bool) : IsPlain (.bool b)
  | int (n : Int) : IsPlain (.int n)
  | float (x : Binary64) : IsPlain (.float x)
  | text (s : String) : IsPlain (.text s)
  | list {items : List Value} (h : ∀ v ∈ items, IsPlain v) : IsPlain (.list items)
  | record {entries : List (Value × Value)} (hkeys : ∀ e ∈ entries, ∃ k, e.1 = .text k)
      (h : ∀ e ∈ entries, IsPlain e.2) : IsPlain (.record entries)

namespace Value

@[simp] theorem isPlain_text (s : String) : (text s).IsPlain :=
  .text s

@[simp] theorem isPlain_int (n : Int) : (int n).IsPlain :=
  .int n

@[simp] theorem isPlain_list_iff {items : List Value} :
    (list items).IsPlain ↔ ∀ v ∈ items, v.IsPlain := by
  constructor
  · rintro ⟨⟩
    assumption
  · exact .list

@[simp] theorem isPlain_ofFields_iff {fields : List (String × Value)} :
    (ofFields fields).IsPlain ↔ ∀ f ∈ fields, f.2.IsPlain := by
  constructor
  · intro h f hf
    cases h with
    | record hkeys hvalues => exact hvalues (.text f.1, f.2) (List.mem_map_of_mem hf)
  · intro h
    constructor
    · intro entry hentry
      obtain ⟨f, -, rfl⟩ := List.mem_map.mp hentry
      exact ⟨f.1, rfl⟩
    · intro entry hentry
      obtain ⟨f, hf, rfl⟩ := List.mem_map.mp hentry
      exact h f hf

theorem mem_of_lookup {key : String} {entries : List (Value × Value)} {v : Value}
    (h : lookup key entries = some v) : (Value.text key, v) ∈ entries := by
  fun_induction lookup key entries with
  | case1 => simp at h
  | case2 k w rest hk =>
      obtain rfl : w = v := Option.some.inj h
      rw [beq_iff_eq] at hk
      simp [hk]
  | case3 k w rest hk ih => exact List.mem_cons_of_mem _ (ih h)
  | case4 entry rest hne ih => exact List.mem_cons_of_mem _ (ih h)

theorem IsPlain.get? {m v : Value} (h : m.IsPlain) {key : String} (hv : m.get? key = some v) :
    v.IsPlain := by
  cases h with
  | record hkeys hvalues => exact hvalues _ (mem_of_lookup hv)
  | _ => simp [Value.get?] at hv

theorem IsPlain.items {items : List Value} (h : (Value.list items).IsPlain) :
    ∀ v ∈ items, v.IsPlain := by
  cases h with
  | list hitems => exact hitems

end Value

namespace Shape

variable {α : Type}

theorem text_eq_valid_iff {v : Value} (h : v.IsPlain) (s : String) :
    text v = .valid s ↔ v = .text s := by
  cases h with
  | text t => simp [text]
  | _ => simp [text]

theorem list_eq_valid_iff {v : Value} (h : v.IsPlain) (shape : Shape α) (as : List α) :
    list shape v = .valid as ↔
      ∃ items, v = .list items ∧ List.Forall₂ (fun v a => shape v = .valid a) items as := by
  cases h with
  | list hitems => simp [list, itemsFrom_eq_valid_iff]
  | _ => simp [list]

end Shape

end ApiShapes
