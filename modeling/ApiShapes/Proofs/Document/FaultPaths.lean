import ApiShapes.Proofs.Document.ShapeReading
import Mathlib.Tactic

/-!
# Where faults lie

A refused value has the faults of its parts one after the other, and the faults of a field lie under
its name.  A part is accepted exactly if it has no faults, so the faults of a record tell which of
its fields were accepted.
-/

namespace ApiShapes

namespace Checked

variable {α β : Type}

/-- The faults for which a value was refused. -/
def faults : Checked α → List Fault
  | valid _ => []
  | invalid faults => faults.toList

@[simp] theorem faults_valid (a : α) : (valid a).faults = [] := rfl

@[simp] theorem faults_invalid (faults : Faults) :
    (invalid faults : Checked α).faults = faults.toList := rfl

theorem faults_eq_nil_iff (c : Checked α) : c.faults = [] ↔ ∃ a, c = valid a := by
  cases c with
  | valid a => simp
  | invalid faults => simp [Faults.toList]

@[simp] theorem faults_map (f : α → β) (c : Checked α) : (f <$> c).faults = c.faults := by
  cases c with
  | valid a => rfl
  | invalid faults => rfl

@[simp] theorem faults_seq (f : Checked (α → β)) (c : Checked α) :
    (f <*> c).faults = f.faults ++ c.faults := by
  change (apply f c).faults = _
  cases f with
  | valid g =>
      cases c with
      | valid a => rfl
      | invalid more => rfl
  | invalid faults =>
      cases c with
      | valid a => simp [apply]
      | invalid more => simp [apply, Faults.append, Faults.toList]

@[simp] theorem faults_under (step : Step) (c : Checked α) :
    (c.under step).faults = c.faults.map (·.under step) := by
  cases c with
  | valid a => rfl
  | invalid faults => rfl

@[simp] theorem faults_refuse (problem : Problem) (input : Value) :
    (refuse problem input : Checked α).faults = [⟨problem, [], input⟩] := rfl

theorem path_of_mem_faults_under {step : Step} {c : Checked α} {f : Fault}
    (hf : f ∈ (c.under step).faults) : ∃ rest, f.path = step :: rest := by
  rw [faults_under, List.mem_map] at hf
  obtain ⟨g, -, rfl⟩ := hf
  exact ⟨g.path, rfl⟩

end Checked

namespace Shape

variable {α : Type} {key : String} {shape : Shape α} {record : Value} {f : Fault}

theorem path_of_mem_faults_required (hf : f ∈ (required key shape record).faults) :
    ∃ rest, f.path = .field key :: rest := by
  unfold required at hf
  split at hf
  · exact Checked.path_of_mem_faults_under hf
  · exact Checked.path_of_mem_faults_under hf

theorem path_of_mem_faults_maybe (hf : f ∈ (maybe key shape record).faults) :
    ∃ rest, f.path = .field key :: rest := by
  unfold maybe withDefault at hf
  split at hf
  · exact Checked.path_of_mem_faults_under hf
  · simp at hf

end Shape

end ApiShapes
