import ApiShapes.Value
import ApiShapes.Proofs.Document.FieldLookup
import ApiShapes.Proofs.Document.ShapeReading
import ApiShapes.Proofs.Document.WrittenEntries
import Mathlib.Tactic

/-!
# Fields of a dump

A dumped model has each of its fields under its key, unless the field is null and such fields are
left out.  A field that may be absent is read alike in both cases, so a shape reads the fields of a
dump whatever becomes of those that are not set.
-/

namespace ApiShapes

namespace Value

theorem lookup_fields (key : String) (fields : Entries Value) :
    lookup key (fields.map fun (k, v) => (.text k, v)) = fields.get? key := by
  induction fields with
  | nil => rfl
  | cons field rest ih =>
      obtain ⟨k, v⟩ := field
      rw [List.map_cons, Entries.get?_cons]
      by_cases hk : key = k
      · rw [← hk, lookup_cons_self, if_pos rfl]
      · have hne : Value.text k ≠ .text key := fun h => hk (Value.text.inj h).symm
        rw [lookup_cons_of_ne hne, if_neg hk, ih]

theorem get?_ofFields (key : String) (fields : Entries Value) :
    (ofFields fields).get? key = fields.get? key :=
  lookup_fields key fields

end Value

section

variable {fields : Entries Value} (hkeys : fields.keys.Nodup) {key : String} {v : Value}
  (hv : fields.get? key = some v) {unset : Unset}

include hkeys hv

theorem get?_dumpFields :
    (dumpFields unset fields).get? key =
      if unset = .hidden ∧ v.isNull = true then none else some v := by
  unfold dumpFields
  rw [Value.get?_ofFields]
  cases unset with
  | shown => simp [hv]
  | hidden =>
      rw [Entries.get?_filter_of_nodup hkeys hv (!·.isNull)]
      cases v.isNull <;> rfl

theorem get?_dumpFields_of_set (hset : v.isNull = false) :
    (dumpFields unset fields).get? key = some v := by
  rw [get?_dumpFields hkeys hv, hset]
  simp

namespace Shape

variable {α : Type} {shape : Shape α} {a : α}

theorem required_dumpFields (hshape : shape v = .valid a) (hset : v.isNull = false) :
    required key shape (dumpFields unset fields) = .valid a :=
  (required_eq_valid_iff ..).2 ⟨v, get?_dumpFields_of_set hkeys hv hset, hshape⟩

theorem withDefault_dumpFields {default : α} (hshape : shape v = .valid a)
    (hset : v.isNull = false) :
    withDefault key default shape (dumpFields unset fields) = .valid a :=
  (withDefault_eq_valid_iff ..).2 (Or.inr ⟨v, get?_dumpFields_of_set hkeys hv hset, hshape⟩)

theorem maybe_dumpFields {given : Option α} (hshape : optional shape v = .valid given) :
    maybe key shape (dumpFields unset fields) = .valid given := by
  cases hnull : v.isNull with
  | false => exact withDefault_dumpFields hkeys hv hshape hnull
  | true =>
      obtain rfl : v = .null := by
        cases v with
        | null => rfl
        | _ => cases hnull
      obtain rfl : none = given := Checked.valid.inj hshape
      rw [maybe, withDefault_eq_valid_iff, get?_dumpFields hkeys hv]
      cases unset with
      | shown => exact Or.inr ⟨.null, rfl, rfl⟩
      | hidden => exact Or.inl ⟨rfl, rfl⟩

end Shape

end

end ApiShapes
