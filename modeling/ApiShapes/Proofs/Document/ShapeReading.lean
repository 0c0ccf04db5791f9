import ApiShapes.Shape
import Mathlib.Tactic

/-!
# When a shape is read

Reading a shape with parts succeeds exactly if its parts are there and can be read: a field that is
required, defaulted or optional, the items of a list, the fields of a model.
-/

namespace ApiShapes

namespace Checked

variable {α β : Type}

@[simp] theorem map_eq_valid_iff (f : α → β) (c : Checked α) (b : β) :
    f <$> c = valid b ↔ ∃ a, c = valid a ∧ f a = b := by
  cases c with
  | valid a => simp
  | invalid faults =>
      constructor
      · intro h
        cases h
      · rintro ⟨a, h, -⟩
        cases h

@[simp] theorem under_eq_valid_iff (step : Step) (c : Checked α) (a : α) :
    under step c = valid a ↔ c = valid a := by
  cases c <;> simp [under]

@[simp] theorem andThen_eq_valid_iff (c : Checked α) (f : α → Checked β) (b : β) :
    c.andThen f = valid b ↔ ∃ a, c = valid a ∧ f a = valid b := by
  cases c <;> simp [andThen]

/-- The value, if it was not refused. -/
def accepted? : Checked α → Option α
  | valid a => some a
  | invalid _ => none

theorem accepted?_eq_some_iff (c : Checked α) (a : α) : c.accepted? = some a ↔ c = valid a := by
  cases c with
  | valid b => simp [accepted?]
  | invalid faults => simp [accepted?]

theorem accepted?_eq_none_iff (c : Checked α) : c.accepted? = none ↔ ∀ a, c ≠ valid a := by
  cases c with
  | valid b => simp [accepted?]
  | invalid faults => simp [accepted?]

@[simp] theorem refuse_ne_valid (problem : Problem) (input : Value) (a : α) :
    refuse problem input ≠ valid a :=
  fun h => nomatch h

end Checked

namespace Shape

variable {α : Type}

theorem required_eq_valid_iff (key : String) (shape : Shape α) (record : Value) (a : α) :
    required key shape record = .valid a ↔
      ∃ v, record.get? key = some v ∧ shape v = .valid a := by
  rw [required]
  cases record.get? key with
  | none => simp
  | some v => simp

theorem withDefault_eq_valid_iff (key : String) (default : α) (shape : Shape α) (record : Value)
    (a : α) :
    withDefault key default shape record = .valid a ↔
      (record.get? key = none ∧ a = default) ∨
        ∃ v, record.get? key = some v ∧ shape v = .valid a := by
  rw [withDefault]
  cases record.get? key with
  | none => simp [eq_comm]
  | some v => simp

theorem optional_eq_valid_iff (shape : Shape α) (v : Value) (a : Option α) :
    optional shape v = .valid a ↔
      (v = .null ∧ a = none) ∨ (v ≠ .null ∧ ∃ b, shape v = .valid b ∧ a = some b) := by
  have hsome : some <$> shape v = .valid a ↔ ∃ b, shape v = .valid b ∧ a = some b := by
    rw [Checked.map_eq_valid_iff]
    exact exists_congr fun b => and_congr_right fun _ => eq_comm
  cases v with
  | null => simp [optional, eq_comm]
  | _ => simpa [optional] using hsome

/-- An optional field is absent or null, or has the shape. -/
theorem maybe_eq_valid_iff (key : String) (shape : Shape α) (record : Value) (a : Option α) :
    maybe key shape record = .valid a ↔
      ((record.get? key).getD .null = .null ∧ a = none) ∨
        ∃ v, record.get? key = some v ∧ v ≠ .null ∧ ∃ b, shape v = .valid b ∧ a = some b := by
  rw [maybe, withDefault_eq_valid_iff]
  cases record.get? key with
  | none => simp
  | some v => simp [optional_eq_valid_iff]

/-- An optional field is all that its reading depends on. -/
theorem maybe_congr {key : String} {v w : Value} (h : v.get? key = w.get? key) (shape : Shape α) :
    maybe key shape v = maybe key shape w := by
  unfold maybe withDefault
  rw [h]

theorem model_eq_valid_iff (name : String) (fields : Value → Checked α) (v : Value) (a : α) :
    model name fields v = .valid a ↔ (∃ es, v = .record es) ∧ fields v = .valid a := by
  cases v with
  | record es => simp [model]
  | _ => simp [model]

theorem itemsFrom_eq_valid_iff (shape : Shape α) (index : Nat) (vs : List Value) (as : List α) :
    itemsFrom shape index vs = .valid as ↔ List.Forall₂ (fun v a => shape v = .valid a) vs as := by
  induction vs generalizing index as with
  | nil =>
      rw [itemsFrom, List.forall₂_nil_left_iff]
      exact ⟨fun h => (Checked.valid.inj h).symm, fun h => by rw [h]⟩
  | cons v vs ih =>
      rw [itemsFrom, Checked.seq_eq_valid_iff, List.forall₂_cons_left_iff]
      simp only [Checked.map_eq_valid_iff, Checked.under_eq_valid_iff, ih]
      constructor
      · rintro ⟨g, rest, ⟨a, ha, rfl⟩, hrest, rfl⟩
        exact ⟨a, rest, ha, hrest, rfl⟩
      · rintro ⟨a, rest, ha, hrest, rfl⟩
        exact ⟨_, rest, ⟨a, ha, rfl⟩, hrest, rfl⟩

end Shape

/-- What is read from a list is read from one of its items each. -/
theorem exists_mem_of_forall₂ {α β : Type} {R : α → β → Prop} {as : List α} {bs : List β}
    (h : List.Forall₂ R as bs) {b : β} (hb : b ∈ bs) : ∃ a ∈ as, R a b := by
  induction h with
  | nil => simp at hb
  | @cons a c as bs hac hrest ih =>
      rcases List.mem_cons.1 hb with rfl | hb
      · exact ⟨a, by simp, hac⟩
      · obtain ⟨a', ha', hR⟩ := ih hb
        exact ⟨a', List.mem_cons_of_mem _ ha', hR⟩

theorem exists_forall₂ {α β : Type} {R : α → β → Prop} {as : List α} (h : ∀ a ∈ as, ∃ b, R a b) :
    ∃ bs, List.Forall₂ R as bs := by
  induction as with
  | nil => exact ⟨[], .nil⟩
  | cons a as ih =>
      obtain ⟨b, hb⟩ := h a (by simp)
      obtain ⟨bs, hbs⟩ := ih fun a' ha' => h a' (List.mem_cons_of_mem _ ha')
      exact ⟨b :: bs, .cons hb hbs⟩

end ApiShapes
