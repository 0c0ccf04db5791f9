import ApiShapes.Proofs.Document.FaultPaths
import ApiShapes.Proofs.Document.PlainData
import Mathlib.Tactic

/-!
# Faults of structure

A value is refused for its structure if a field is missing in it, a part is no record where one is
needed, or a rule of the whole is broken.  Such faults come from required fields, from models and
from rules only; the simple shapes have none.
-/

namespace ApiShapes

def Problem.isStructural : Problem → Bool
  | .missing | .notModel _ | .broken _ => true
  | _ => false

namespace Checked

variable {α β : Type}

/-- No fault concerns the structure of the value. -/
def Structured (c : Checked α) : Prop :=
  ∀ f ∈ c.faults, f.problem.isStructural = false

@[simp] theorem structured_valid (a : α) : (valid a).Structured := by
  simp [Structured]

@[simp] theorem structured_refuse (problem : Problem) (input : Value) :
    (refuse problem input : Checked α).Structured ↔ problem.isStructural = false := by
  simp [Structured]

@[simp] theorem structured_map (f : α → β) (c : Checked α) :
    (f <$> c).Structured ↔ c.Structured := by
  simp [Structured]

@[simp] theorem structured_seq (f : Checked (α → β)) (c : Checked α) :
    (f <*> c).Structured ↔ f.Structured ∧ c.Structured := by
  simp only [Structured, faults_seq, List.forall_mem_append]

@[simp] theorem structured_under (step : Step) (c : Checked α) :
    (c.under step).Structured ↔ c.Structured := by
  simp [Structured, Fault.under]

theorem Structured.andThen {c : Checked α} {f : α → Checked β} (h : c.Structured)
    (hf : ∀ a, c = valid a → (f a).Structured) : (c.andThen f).Structured := by
  cases c with
  | valid a => exact hf a rfl
  | invalid faults => exact h

end Checked

namespace Shape

variable {α : Type}

@[simp] theorem structured_text (v : Value) : (text v).Structured := by
  unfold text
  split
  · simp
  · split
    · simp
    · simp [Problem.isStructural]
  · simp [Problem.isStructural]

@[simp] theorem structured_bool (v : Value) : (bool v).Structured := by
  unfold bool
  repeat' split
  all_goals simp [Problem.isStructural]

@[simp] theorem structured_choice (choices : List (String × α)) (v : Value) :
    (choice choices v).Structured := by
  unfold choice
  repeat' split
  all_goals simp [Problem.isStructural]

@[simp] theorem structured_entries (v : Value) : (entries v).Structured := by
  unfold entries
  split
  · simp
  · simp [Problem.isStructural]

theorem structured_itemsFrom {shape : Shape α} {items : List Value}
    (h : ∀ item ∈ items, (shape item).Structured) (index : Nat) :
    (itemsFrom shape index items).Structured := by
  induction items generalizing index with
  | nil => simp [itemsFrom]
  | cons item rest ih =>
      rw [List.forall_mem_cons] at h
      simp only [itemsFrom, Checked.structured_seq, Checked.structured_map,
        Checked.structured_under]
      exact ⟨h.1, ih h.2 (index + 1)⟩

theorem structured_list {shape : Shape α} {v : Value} (hplain : v.IsPlain)
    (h : ∀ items, v = .list items → ∀ item ∈ items, (shape item).Structured) :
    (list shape v).Structured := by
  cases hplain with
  | list => exact structured_itemsFrom (h _ rfl) 0
  | _ => simp [list, Problem.isStructural]

section

variable {key : String} {shape : Shape α} {record : Value}
  (h : ∀ v, record.get? key = some v → (shape v).Structured)

include h

theorem structured_required (hfield : record.get? key ≠ none) :
    (required key shape record).Structured := by
  unfold required
  split
  · next v hv => exact (Checked.structured_under ..).mpr (h v hv)
  · contradiction

theorem structured_withDefault (default : α) :
    (withDefault key default shape record).Structured := by
  unfold withDefault
  split
  · next v hv => exact (Checked.structured_under ..).mpr (h v hv)
  · simp

theorem structured_maybe : (maybe key shape record).Structured := by
  apply structured_withDefault
  intro v hv
  have hshape : (shape v).Structured := h v hv
  unfold optional
  split
  · simp
  · simpa using hshape

end

end Shape

end ApiShapes
