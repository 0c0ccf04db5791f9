import ApiShapes.Conversion.Definition
import ApiShapes.Proofs.Document.PlainData
import ApiShapes.Proofs.JsonApi.StrictReading
import Mathlib.Tactic

/-!
# Tolerant reading of valid documents

A document that the strict reader accepts is salvaged without loss.  The tolerant reader takes empty
texts for absent ones, so the two readings differ in those, and in the name that it makes up for a
serializer without one; neither shows in the converted definition as long as no resource is without
a type and no description is empty.
-/

namespace ApiShapes.Conversion

open JsonApi Shape TypeSpec

/-! ## Fields -/

/-- A text field is read tolerantly as what is given of its strict reading. -/
theorem textField_of_maybe {v : Value} (hplain : v.IsPlain) {key : String} {s : Option String}
    (h : maybe key text v = .valid s) : textField key v = given? s := by
  rw [maybe_eq_valid_iff] at h
  rw [textField]
  rcases h with ⟨hnull, rfl⟩ | ⟨w, hw, -, t, ht, rfl⟩
  · cases hget : v.get? key with
    | none => rfl
    | some w =>
        obtain rfl : w = .null := by simpa [hget] using hnull
        rfl
  · rw [text_eq_valid_iff (hplain.get? hw)] at ht
    rw [hw, ht]
    rfl

theorem textField_of_required {v : Value} (hplain : v.IsPlain) {key s : String}
    (h : required key text v = .valid s) : textField key v = given? (some s) := by
  obtain ⟨w, hw, hs⟩ := (required_eq_valid_iff ..).1 h
  rw [text_eq_valid_iff (hplain.get? hw)] at hs
  rw [textField, hw, hs]
  rfl

theorem metadataField_of_maybe {v : Value} {metadata : Option Metadata}
    (h : maybe "meta" entries v = .valid metadata) : metadataField v = metadata := by
  rw [maybe_eq_valid_iff] at h
  rw [metadataField]
  rcases h with ⟨hnull, rfl⟩ | ⟨w, hw, -, es, hes, rfl⟩
  · cases hget : v.get? "meta" with
    | none => rfl
    | some w =>
        obtain rfl : w = .null := by simpa [hget] using hnull
        rfl
  · rw [hw]
    cases w with
    | record es' =>
        obtain rfl : es' = es := by simpa [entries] using hes
        rfl
    | _ => simp [entries] at hes

/-! ## Members -/

theorem salvageAttribute_of_shape {v : Value} {a : Attribute} (h : Attribute.shape v = .valid a) :
    salvageAttribute v = .valid (.kept (a.mapKind AttributeKind.name)) := by
  rw [salvageAttribute, h]

theorem salvageRelationship_of_shape {v : Value} {r : Relationship}
    (h : Relationship.shape v = .valid r) : salvageRelationship v = .valid (.kept r) := by
  rw [salvageRelationship, h]

section

variable {α β : Type} (group : MemberGroup) (serializer : String)
  {salvage : Value → Checked (Outcome α)} {nameOf : α → String}

/-- Members with new and distinct names are all kept. -/
theorem salvageFrom_of_kept {vs : List Value} {as : List α}
    (h : List.Forall₂ (fun v a => salvage v = .valid (.kept a)) vs as) (index : Nat)
    {seen : List String} (hnew : firstRepeated seen (as.map nameOf) = none) :
    salvageFrom group serializer salvage nameOf index seen vs =
      .valid ⟨as, (as.map nameOf).reverse ++ seen, []⟩ := by
  induction h generalizing index seen with
  | nil => rfl
  | @cons v a vs as ha hrest ih =>
      rw [List.map_cons, firstRepeated] at hnew
      by_cases hseen : seen.contains (nameOf a) = true
      · rw [if_pos hseen] at hnew
        cases hnew
      · rw [if_neg hseen] at hnew
        rw [salvageFrom, ha, Checked.andThen_valid]
        simp only [hseen, Bool.false_eq_true, if_false]
        rw [ih (index + 1) hnew, Checked.map_valid]
        simp

/-- A group that is read strictly is salvaged as it is; only attributes that are absent are
missed. -/
theorem salvageGroup_of_list {shape : Shape β} {f : β → α}
    (hsalvage : ∀ v b, shape v = .valid b → salvage v = .valid (.kept (f b))) {resource : Value}
    (hplain : resource.IsPlain) {bs : List β}
    (hread : withDefault group.name [] (list shape) resource = .valid bs) {seen : List String}
    (hnew : firstRepeated seen ((bs.map f).map nameOf) = none) :
    salvageGroup group serializer salvage nameOf seen resource =
      .valid ⟨bs.map f, ((bs.map f).map nameOf).reverse ++ seen,
        if resource.get? group.name = none ∧ group = .attributes then
          [.groupMissing serializer group] else []⟩ := by
  rw [withDefault_eq_valid_iff] at hread
  rw [salvageGroup]
  rcases hread with ⟨hnone, rfl⟩ | ⟨v, hv, hlist⟩
  · rw [hnone]
    simp
  · obtain ⟨items, rfl, hitems⟩ := (list_eq_valid_iff (hplain.get? hv) shape bs).1 hlist
    have hkept : List.Forall₂ (fun v a => salvage v = .valid (.kept a)) items (bs.map f) :=
      List.forall₂_map_right_iff.2 (hitems.imp hsalvage)
    rw [hv, Option.getD_some]
    simpa using salvageFrom_of_kept group serializer hkept 0 hnew

end

/-! ## Serializers -/

/-- What the tolerant reader makes of a valid serializer. -/
def tolerated (s : Serializer) : LooseSerializer :=
  { name := (given? (some s.name)).getD (serializerName (pascalCase s.resource.type))
    resource :=
      { s.resource.mapKind AttributeKind.name with description := given? s.resource.description }
    version := given? s.version
    ofNamespace := given? s.ofNamespace
    description := given? s.description
    metadata := s.metadata }

/-- What the tolerant reader misses in a valid serializer: its name and its attributes. -/
def missing (index : Nat) (resource : Value) (s : Serializer) : List Warning :=
  (if s.name = "" then [.serializerWithoutName index] else []) ++
    if resource.get? "attributes" = none then [.groupMissing (tolerated s).name .attributes] else []

theorem salvageMembers_of_shape {raw resource : Value} {s : Serializer} (hraw : raw.IsPlain)
    (hresource : resource.IsPlain) (hs : Serializer.ReadFrom raw s)
    (hr : Resource.ReadFrom resource s.resource) :
    salvageMembers (tolerated s).name s.resource.type raw resource =
      .valid (tolerated s,
        if resource.get? "attributes" = none then
          [.groupMissing (tolerated s).name .attributes] else []) := by
  obtain ⟨hattributeNames, hrelationshipNames, hdistinct⟩ := List.nodup_append.1 hr.names
  have hnames : (s.resource.attributes.map fun a => a.mapKind AttributeKind.name).map (·.name) =
      s.resource.attributes.map (·.name) := by
    rw [List.map_map]
    rfl
  have hattributes : salvageGroup .attributes (tolerated s).name salvageAttribute (·.name) []
      resource = .valid ⟨s.resource.attributes.map (·.mapKind AttributeKind.name),
        (s.resource.attributes.map (·.name)).reverse,
        if resource.get? "attributes" = none then
          [.groupMissing (tolerated s).name .attributes] else []⟩ := by
    have hnew : firstRepeated [] (s.resource.attributes.map (·.name)) = none :=
      (firstRepeated_eq_none_iff ..).2 ⟨hattributeNames, by simp⟩
    rw [salvageGroup_of_list .attributes _ (fun _ _ h => salvageAttribute_of_shape h) hresource
      hr.attributes (by rw [hnames]; exact hnew), hnames, List.append_nil]
    simp [MemberGroup.name]
  have hrelationships : salvageGroup .relationships (tolerated s).name salvageRelationship (·.name)
      (s.resource.attributes.map (·.name)).reverse resource = .valid ⟨s.resource.relationships,
        (s.resource.relationships.map (·.name)).reverse ++
          (s.resource.attributes.map (·.name)).reverse, []⟩ := by
    have hnew : firstRepeated (s.resource.attributes.map (·.name)).reverse
        (s.resource.relationships.map (·.name)) = none := by
      refine (firstRepeated_eq_none_iff ..).2 ⟨hrelationshipNames, fun name hname hmem => ?_⟩
      exact hdistinct name (List.mem_reverse.1 hmem) name hname rfl
    rw [salvageGroup_of_list .relationships _ (f := id)
      (fun _ _ h => salvageRelationship_of_shape h) hresource hr.relationships
      (by rw [List.map_id]; exact hnew), List.map_id]
    simp
  have hchecked : (tolerated s).resource.checkMembers resource = .valid (tolerated s).resource := by
    refine (ResourceOf.checkMembers_eq_valid_iff ..).2 ⟨?_, rfl⟩
    have hall := hr.names
    rw [ResourceOf.memberNames, ← hnames] at hall
    exact hall
  have hr' : (⟨s.resource.type, s.resource.attributes.map (·.mapKind AttributeKind.name),
      s.resource.relationships, given? s.resource.description, s.resource.metadata⟩ :
        LooseResource) = (tolerated s).resource := rfl
  rw [salvageMembers, hattributes, Checked.andThen_valid, hrelationships, Checked.andThen_valid,
    textField_of_maybe hresource hr.description, metadataField_of_maybe hr.metadata]
  simp only [hr', hchecked, Checked.map_valid, textField_of_maybe hraw hs.version,
    textField_of_maybe hraw hs.ofNamespace, textField_of_maybe hraw hs.description,
    metadataField_of_maybe hs.metadata, List.append_nil]
  rfl

/-- A valid serializer with a resource type is salvaged whole. -/
theorem salvageSerializer_of_shape {raw : Value} {s : Serializer} (hraw : raw.IsPlain)
    (hs : Serializer.shape raw = .valid s) (htype : s.resource.type ≠ "") (index : Nat) :
    ∃ resource, raw.get? "resource" = some resource ∧
      salvageSerializer index raw = .valid (some (tolerated s), missing index resource s) := by
  rw [Serializer.shape_eq_valid_iff] at hs
  obtain ⟨resource, hget, hr⟩ := (required_eq_valid_iff ..).1 hs.resource
  rw [Resource.shape_eq_valid_iff] at hr
  have hresource : resource.IsPlain := hraw.get? hget
  have hrecord : isRecord raw = true := by
    obtain ⟨es, rfl⟩ := hs.isRecord
    rfl
  have hresourceRecord : resourceRecord? raw = some resource := by
    obtain ⟨es, rfl⟩ := hr.isRecord
    rw [resourceRecord?, hget]
    rfl
  have htypeField : textField "type" resource = some s.resource.type := by
    rw [textField_of_required hresource hr.type]
    simp [given?, htype]
  have hname : textField "name" raw = given? (some s.name) := textField_of_required hraw hs.name
  have hunnamed : (if (given? (some s.name)).isNone then [Warning.serializerWithoutName index]
      else []) = if s.name = "" then [.serializerWithoutName index] else [] := by
    by_cases h : s.name = "" <;> simp [given?, h]
  refine ⟨resource, hget, ?_⟩
  rw [salvageSerializer, hrecord]
  simp only [Bool.not_true, Bool.false_eq_true, if_false, hresourceRecord, htypeField, hname,
    hunnamed]
  have hmembers := salvageMembers_of_shape hraw hresource hs hr
  rw [tolerated] at hmembers
  rw [hmembers]
  rfl

theorem salvageSerializersFrom_of_shape {raws : List Value} {ss : List Serializer}
    (h : List.Forall₂ (fun raw s => Serializer.shape raw = .valid s) raws ss)
    (hplain : ∀ raw ∈ raws, raw.IsPlain) (htypes : ∀ s ∈ ss, s.resource.type ≠ "") (index : Nat) :
    ∃ results, salvageSerializersFrom index raws = .valid results ∧
      results.map (·.1) = ss.map (fun s => some (tolerated s)) ∧
      ((∀ s ∈ ss, s.name ≠ "") →
        (∀ raw ∈ raws, ∀ resource ∈ raw.get? "resource", resource.get? "attributes" ≠ none) →
          results = ss.map fun s => (some (tolerated s), [])) := by
  induction h generalizing index with
  | nil => exact ⟨[], rfl, rfl, fun _ _ => rfl⟩
  | @cons raw s raws ss hs hrest ih =>
      obtain ⟨results, hresults, hserializers, hsilent⟩ := ih
        (fun r hr => hplain r (List.mem_cons_of_mem _ hr))
        (fun t ht => htypes t (List.mem_cons_of_mem _ ht)) (index + 1)
      obtain ⟨resource, hget, hfirst⟩ := salvageSerializer_of_shape (hplain raw (by simp)) hs
        (htypes s (by simp)) index
      refine ⟨(some (tolerated s), missing index resource s) :: results, ?_, ?_, ?_⟩
      · rw [salvageSerializersFrom, hfirst, Checked.andThen_valid, hresults, Checked.map_valid]
      · rw [List.map_cons, List.map_cons, hserializers]
      · intro hnames hattributes
        have hnone : missing index resource s = [] := by
          simp [missing, hnames s (by simp), hattributes raw (by simp) resource hget]
        rw [hnone, List.map_cons, hsilent (fun t ht => hnames t (List.mem_cons_of_mem _ ht))
          fun r hr => hattributes r (List.mem_cons_of_mem _ hr)]

end ApiShapes.Conversion
