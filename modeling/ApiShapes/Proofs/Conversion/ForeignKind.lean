import ApiShapes.Conversion.Salvage
import ApiShapes.Proofs.Document.FaultPaths
import ApiShapes.Proofs.Document.FieldLookup
import ApiShapes.Proofs.JsonApi.StrictReading
import Mathlib.Tactic

/-!
# Attributes of a foreign kind

An attribute is salvaged exactly if it can be read with any texts for its kinds.  Its strict reading
has faults in the kind fields alone then, so the second reading, with the kinds left aside, has
nothing to refuse.
-/

namespace ApiShapes.Conversion

open JsonApi Shape

/-! ## Kinds -/

theorem kind_eq_valid_iff (v : Value) (k : AttributeKind) :
    choice attributeKinds v = .valid k ↔ v = .text k.name := by
  have hlookup : ∀ s, attributeKinds.lookup s = some k ↔ s = k.name := by
    intro s
    constructor
    · intro h
      obtain ⟨before, after, hsplit, -⟩ := List.lookup_eq_some_iff.1 h
      have hmem : (s, k) ∈ attributeKinds := by
        rw [hsplit]
        simp
      obtain ⟨kind, -, hkind⟩ := List.mem_map.1 hmem
      cases hkind
      rfl
    · rintro rfl
      cases k <;> decide
  cases v with
  | text s =>
      rw [Value.text.injEq, ← hlookup, choice]
      split
      · next kind hkind => simp [hkind]
      · next hnone => simp [hnone]
  | _ => simp [choice]

/-- A kind named by any text. -/
def anyKind : Shape String
  | .text s => .valid s
  | v => .refuse .notText v

theorem anyKind_eq_valid_iff (v : Value) (s : String) : anyKind v = .valid s ↔ v = .text s := by
  cases v with
  | text t => simp [anyKind]
  | _ => simp [anyKind]

/-- An attribute with any texts for its kinds. -/
def looseAttributeShape : Shape LooseAttribute :=
  attributeShape anyKind

theorem isForeignKind_iff (f : Fault) :
    isForeignKind f = true ↔
      ∃ key rest s, f.path = .field key :: rest ∧ f.input = .text s ∧ key ∈ kindFields := by
  unfold isForeignKind
  split
  · next key rest s hpath hinput =>
    rw [List.contains_iff_mem]
    constructor
    · intro hkey
      exact ⟨key, rest, s, hpath, hinput, hkey⟩
    · rintro ⟨key', rest', s', hpath', -, hkey⟩
      rw [hpath] at hpath'
      cases hpath'
      exact hkey
  · next hother =>
    constructor
    · intro h
      cases h
    · rintro ⟨key, rest, s, hpath, hinput, -⟩
      exact absurd hinput (hother key rest s hpath)

/-! ## Leaving the kinds aside -/

section

variable (raw : Value)

theorem get?_withPlainKind {key : String} (h : key ∉ kindFields) :
    (withPlainKind raw).get? key = raw.get? key := by
  have hkeep : (!kindFields.any fun f => Value.sameKey (.text f) (.text key)) = true := by
    rw [Bool.not_eq_true', ← Bool.not_eq_true, List.any_eq_true]
    rintro ⟨f, hf, hsame⟩
    obtain rfl : f = key := beq_iff_eq.1 hsame
    exact h hf
  have hkind : Value.text "type" ≠ .text key := by
    rintro ⟨⟩
    exact h (by decide)
  cases raw with
  | record entries =>
      rw [withPlainKind, Value.get?, Value.lookup_append, Value.lookup_cons_of_ne hkind,
        Value.lookup_filter_of_keep entries fun _ => hkeep]
      exact Option.or_none
  | _ => rfl

theorem get?_type_withPlainKind (entries : List (Value × Value)) :
    (withPlainKind (.record entries)).get? "type" = some (.text "string") := by
  rw [withPlainKind, Value.get?, Value.lookup_append,
    Value.lookup_filter_of_drop entries fun _ => rfl, Value.lookup_cons_self]
  rfl

theorem get?_items_withPlainKind : (withPlainKind raw).get? "items" = none := by
  cases raw with
  | record entries =>
      rw [withPlainKind, Value.get?, Value.lookup_append,
        Value.lookup_filter_of_drop entries fun _ => rfl,
        Value.lookup_cons_of_ne (by simp)]
      rfl
  | _ => rfl

end

/-! ## Salvaged attributes -/

section

variable {raw : Value} {a : LooseAttribute}

theorem faults_shape_record (entries : List (Value × Value)) :
    (Attribute.shape (.record entries)).faults =
      (required "name" text (.record entries)).faults ++
        ((required "type" (choice attributeKinds) (.record entries)).faults ++
          ((maybe "nullable" bool (.record entries)).faults ++
            ((maybe "description" text (.record entries)).faults ++
              ((maybe "format" text (.record entries)).faults ++
                ((maybe "enum" (list text) (.record entries)).faults ++
                  (maybe "items" (choice attributeKinds) (.record entries)).faults))))) := by
  simp [Attribute.shape, attributeShape, model]

/-- A field with no faults but foreign kinds is accepted, unless it holds a kind. -/
theorem exists_valid_of_foreign {α : Type} {c : Checked α} {key : String} (hkey : key ∉ kindFields)
    (hpath : ∀ f ∈ c.faults, ∃ rest, f.path = .field key :: rest)
    (hforeign : ∀ f ∈ c.faults, isForeignKind f = true) : ∃ a, c = .valid a := by
  rw [← Checked.faults_eq_nil_iff, List.eq_nil_iff_forall_not_mem]
  intro f hf
  obtain ⟨key', rest, s, hpath', -, hmem⟩ := (isForeignKind_iff f).1 (hforeign f hf)
  obtain ⟨rest', hrest⟩ := hpath f hf
  rw [hpath'] at hrest
  cases hrest
  exact hkey hmem

/-- In a kind field, the faults are those of a foreign kind exactly if it holds a text. -/
theorem foreign_under_iff (key : String) (hkey : key ∈ kindFields) (v : Value) :
    (∀ f ∈ ((choice attributeKinds v).under (.field key)).faults, isForeignKind f = true) ↔
      ∃ s, anyKind v = .valid s := by
  cases v with
  | text s =>
      refine ⟨fun _ => ⟨s, rfl⟩, fun _ f hf => ?_⟩
      rw [choice] at hf
      split at hf
      · simp at hf
      · rw [Checked.faults_under, Checked.faults_refuse, List.map_singleton,
          List.mem_singleton] at hf
        subst hf
        exact (isForeignKind_iff _).2 ⟨key, [], s, rfl, rfl, hkey⟩
  | _ => simp [choice, anyKind, Fault.under, isForeignKind]

theorem foreign_required_iff (entries : List (Value × Value)) :
    (∀ f ∈ (required "type" (choice attributeKinds) (.record entries)).faults,
        isForeignKind f = true) ↔ ∃ s, required "type" anyKind (.record entries) = .valid s := by
  unfold required
  cases (Value.record entries).get? "type" with
  | none => simp [Fault.under, isForeignKind]
  | some v => simpa using foreign_under_iff "type" (by decide) v

theorem foreign_maybe_iff (v : Value) :
    (∀ f ∈ (maybe "items" (choice attributeKinds) v).faults, isForeignKind f = true) ↔
      ∃ s, maybe "items" anyKind v = .valid s := by
  unfold maybe withDefault
  cases v.get? "items" with
  | none => simp
  | some w =>
      have hitems := foreign_under_iff "items" (by decide) w
      cases w with
      | null => simp [Shape.optional]
      | _ => simpa [Shape.optional] using hitems

/-- The strict reading of an attribute has no faults but foreign kinds exactly if the attribute can
be read with any texts for its kinds. -/
theorem foreign_shape_iff (raw : Value) :
    (∀ f ∈ (Attribute.shape raw).faults, isForeignKind f = true) ↔
      ∃ a, looseAttributeShape raw = .valid a := by
  cases raw with
  | record entries =>
      rw [faults_shape_record]
      simp only [List.forall_mem_append, foreign_required_iff, foreign_maybe_iff]
      constructor
      · rintro ⟨hname, ⟨kind, hkind⟩, hnullable, hdescription, hformat, henum, items, hitems⟩
        obtain ⟨name, hname⟩ := exists_valid_of_foreign (by decide)
          (fun _ => path_of_mem_faults_required) hname
        obtain ⟨nullable, hnullable⟩ := exists_valid_of_foreign (by decide)
          (fun _ => path_of_mem_faults_maybe) hnullable
        obtain ⟨description, hdescription⟩ := exists_valid_of_foreign (by decide)
          (fun _ => path_of_mem_faults_maybe) hdescription
        obtain ⟨format, hformat⟩ := exists_valid_of_foreign (by decide)
          (fun _ => path_of_mem_faults_maybe) hformat
        obtain ⟨enum, henum⟩ := exists_valid_of_foreign (by decide)
          (fun _ => path_of_mem_faults_maybe) henum
        exact ⟨⟨name, kind, nullable, description, format, enum, items⟩,
          (attributeShape_eq_valid_iff ..).2 ⟨⟨entries, rfl⟩, hname, hkind, hnullable, hdescription,
            hformat, henum, hitems⟩⟩
      · rintro ⟨a, ha⟩
        obtain ⟨-, hname, hkind, hnullable, hdescription, hformat, henum, hitems⟩ :=
          (attributeShape_eq_valid_iff ..).1 ha
        rw [hname, hnullable, hdescription, hformat, henum]
        simp only [Checked.faults_valid, List.not_mem_nil, false_implies, implies_true, true_and]
        exact ⟨⟨_, hkind⟩, _, hitems⟩
  | _ => simp [Attribute.shape, looseAttributeShape, attributeShape, model, isForeignKind]

/-- A strictly read attribute is also read with any texts for its kinds. -/
theorem loose_of_strict {b : Attribute} (h : Attribute.shape raw = .valid b) :
    looseAttributeShape raw = .valid (b.mapKind AttributeKind.name) := by
  obtain ⟨hrecord, hname, hkind, hnullable, hdescription, hformat, henum, hitems⟩ :=
    (attributeShape_eq_valid_iff ..).1 h
  refine (attributeShape_eq_valid_iff ..).2
    ⟨hrecord, hname, ?_, hnullable, hdescription, hformat, henum, ?_⟩
  · obtain ⟨v, hv, hkind⟩ := (required_eq_valid_iff ..).1 hkind
    rw [kind_eq_valid_iff] at hkind
    exact (required_eq_valid_iff ..).2 ⟨v, hv, (anyKind_eq_valid_iff ..).2 hkind⟩
  · rw [maybe_eq_valid_iff] at hitems ⊢
    rcases hitems with ⟨hnull, hnone⟩ | ⟨v, hv, hne, k, hk, hsome⟩
    · refine Or.inl ⟨hnull, ?_⟩
      simp [AttributeOf.mapKind, hnone]
    · rw [kind_eq_valid_iff] at hk
      refine Or.inr ⟨v, hv, hne, k.name, (anyKind_eq_valid_iff ..).2 hk, ?_⟩
      simp [AttributeOf.mapKind, hsome]

/-- With its kinds left aside, an attribute of a foreign kind is read strictly. -/
theorem strict_withPlainKind (h : looseAttributeShape raw = .valid a) :
    Attribute.shape (withPlainKind raw) =
      .valid ⟨a.name, .string, a.nullable, a.description, a.format, a.enum, none⟩ := by
  obtain ⟨⟨entries, rfl⟩, hname, -, hnullable, hdescription, hformat, henum, -⟩ :=
    (attributeShape_eq_valid_iff ..).1 h
  refine (attributeShape_eq_valid_iff ..).2 ⟨⟨_, rfl⟩, ?_, ?_, ?_, ?_, ?_, ?_, ?_⟩
  · rw [required_eq_valid_iff] at hname ⊢
    rw [get?_withPlainKind _ (by decide)]
    exact hname
  · exact (required_eq_valid_iff ..).2 ⟨_, get?_type_withPlainKind entries, rfl⟩
  · rw [maybe_congr (get?_withPlainKind _ (by decide))]
    exact hnullable
  · rw [maybe_congr (get?_withPlainKind _ (by decide))]
    exact hdescription
  · rw [maybe_congr (get?_withPlainKind _ (by decide))]
    exact hformat
  · rw [maybe_congr (get?_withPlainKind _ (by decide))]
    exact henum
  · refine (maybe_eq_valid_iff ..).2 (Or.inl ⟨?_, rfl⟩)
    rw [get?_items_withPlainKind]
    rfl

theorem attributeWithForeignKind_of_loose (h : looseAttributeShape raw = .valid a) :
    attributeWithForeignKind raw = .valid a := by
  obtain ⟨-, -, hkind, -, -, -, -, hitems⟩ := (attributeShape_eq_valid_iff ..).1 h
  have htype : ((raw.get? "type").bind Value.text?).getD "" = a.kind := by
    obtain ⟨v, hv, hv'⟩ := (required_eq_valid_iff ..).1 hkind
    rw [anyKind_eq_valid_iff] at hv'
    rw [hv, hv']
    rfl
  have helement : (raw.get? "items").bind Value.text? = a.items := by
    rcases (maybe_eq_valid_iff ..).1 hitems with ⟨hnull, hnone⟩ | ⟨v, hv, -, s, hs, hsome⟩
    · rw [hnone]
      cases hget : raw.get? "items" with
      | none => rfl
      | some v =>
          obtain rfl : v = .null := by simpa [hget] using hnull
          rfl
    · rw [anyKind_eq_valid_iff] at hs
      rw [hv, hs, hsome]
      rfl
  rw [attributeWithForeignKind, strict_withPlainKind h, Checked.map_valid, htype, helement]
  rfl

end

/-! ## Salvaging -/

/-- Members are salvaged by keeping what the shape reads and leaving out the rest. -/
def Salvages {α : Type} (shape : Shape α) (salvage : Value → Checked (Outcome α)) : Prop :=
  ∀ raw, (∃ a, shape raw = .valid a ∧ salvage raw = .valid (.kept a)) ∨
    ((∀ a, shape raw ≠ .valid a) ∧ ∃ fault, salvage raw = .valid (.skipped fault))

theorem salvages_attribute : Salvages looseAttributeShape salvageAttribute := by
  intro raw
  unfold salvageAttribute
  cases hstrict : Attribute.shape raw with
  | valid b => exact Or.inl ⟨_, loose_of_strict hstrict, rfl⟩
  | invalid faults =>
      have hforeign : faults.toList.all isForeignKind = true ↔
          ∃ a, looseAttributeShape raw = .valid a := by
        rw [← foreign_shape_iff, hstrict, List.all_eq_true]
        rfl
      by_cases hloose : ∃ a, looseAttributeShape raw = .valid a
      · obtain ⟨a, ha⟩ := hloose
        refine Or.inl ⟨a, ha, ?_⟩
        simp only [hforeign.2 ⟨a, ha⟩, if_true]
        rw [attributeWithForeignKind_of_loose ha, Checked.map_valid]
      · refine Or.inr ⟨fun a ha => hloose ⟨a, ha⟩, faults.first, ?_⟩
        exact if_neg (mt hforeign.1 hloose)

theorem salvages_relationship : Salvages Relationship.shape salvageRelationship := by
  intro raw
  unfold salvageRelationship
  cases hshape : Relationship.shape raw with
  | valid r => exact Or.inl ⟨r, rfl, rfl⟩
  | invalid faults =>
      refine Or.inr ⟨?_, faults.first, rfl⟩
      intro r h
      cases h

end ApiShapes.Conversion
