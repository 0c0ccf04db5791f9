import ApiShapes.OpenApi.Lowering
import ApiShapes.Proofs.Conversion.SchemaRoundTrip
import Mathlib.Tactic

/-!
# Lowered types of members

The types that attributes and relationships become are lowered to schemas whose flag says whether
null is allowed.  A model name becomes a reference, as it holds no blanks and is no primitive; the
other types refer to nothing.  The only type that loses its null is one that consists of nothing
else: a relationship to one resource whose type names no model.
-/

namespace ApiShapes.OpenApi

open Conversion Name Text TypeExpr

/-- What a type is lowered to is decided by its text without null. -/
theorem lowerExpr_of_splitNull {t base : List Char} {nullable : Bool}
    (h : splitNull t = (base, nullable)) :
    lowerExpr t =
      if isUnion base then
        { Schema.any with
          type := some "string"
          enum := some ((members base).map String.ofList)
          nullable }
      else
        match element? base with
        | some element =>
          { Schema.any with type := some "array", items := some (lowerExpr element), nullable }
        | none => { lowerName base with nullable } := by
  rw [lowerExpr]
  simp only [h]
  split
  · rfl
  · split
    · next element helement =>
      rw [h] at helement
      simp only [helement]
    · next hnone =>
      rw [h] at hnone
      simp only [hnone]

theorem lowerType_withNull {type : String} (h : Plain type.toList) {nullable : Bool}
    (hfilled : nullable = true → type ≠ "") :
    lowerType (withNull nullable type) = { lowerType type with nullable } := by
  have hsplit : splitNull (withNull nullable type).toList = (type.toList, nullable) := by
    cases nullable with
    | false => exact splitNull_of_plain h
    | true => exact splitNull_makeNullable h (hfilled rfl)
  unfold lowerType
  rw [lowerExpr_of_splitNull hsplit, lowerExpr_of_splitNull (splitNull_of_plain h)]
  split
  · rfl
  · split
    · rfl
    · rfl

/-- A schema of a name allows null only if the type says so. -/
theorem lowerName_nullable (name : List Char) :
    { lowerName name with nullable := false } = lowerName name := by
  unfold lowerName
  split
  · rfl
  · split <;> rfl

theorem lowerType_name {t : String} (h : Plain t.toList) (hunion : isUnion t.toList = false)
    (harray : element? t.toList = none) : lowerType t = lowerPrimitive t := by
  unfold lowerType
  rw [lowerExpr_of_splitNull (splitNull_of_plain h), hunion, if_neg Bool.false_ne_true]
  simp only [harray]
  exact lowerName_nullable t.toList

theorem lowerType_array {t : String} (h : Plain (t ++ "[]").toList)
    (hunion : isUnion (t ++ "[]").toList = false) :
    lowerType (t ++ "[]") =
      { Schema.any with type := some "array", items := some (lowerType t) } := by
  have htext : (t ++ "[]").toList = t.toList ++ arraySuffix := String.toList_append
  unfold lowerType
  rw [lowerExpr_of_splitNull (splitNull_of_plain h), hunion, if_neg Bool.false_ne_true, htext,
    element?_array]
  rfl

/-! ## Model names -/

/-- A name that no brackets end and that does not start like a record. -/
@[mk_iff]
structure BareName (name : String) : Prop where
  notRecord : ¬ recordPrefix <+: name.toList
  notArray : ¬ arraySuffix <:+ name.toList

instance (name : String) : Decidable (BareName name) :=
  decidable_of_iff' _ (bareName_iff name)

theorem lookup_pascalCase (t : String) : primitives.lookup (pascalCase t) = none := by
  -- Primitives start with a small letter, and no name of a model does.
  have hsmall : ∀ p ∈ primitives, p.1.toList.head?.any isAsciiSmall = true := by decide
  rw [List.lookup_eq_none_iff]
  intro p hp
  rw [bne_iff_ne]
  intro hname
  obtain ⟨c, hc, hletter⟩ := (Option.any_eq_true ..).1 (hsmall p hp)
  rw [← hname] at hc
  rw [not_small_of_head?_pascalCase hc] at hletter
  cases hletter

theorem lowerType_pascalCase {t : String} (h : BareName (pascalCase t)) :
    lowerType (pascalCase t) =
      { Schema.any with ref := some (reference (pascalCase t)) } := by
  have hblank := pascalCase_no_blank t
  have hrecord : isRecord (pascalCase t).toList = false :=
    (startsWith_eq_false_iff ..).2 h.notRecord
  have harray : element? (pascalCase t).toList = none := beforeSuffix?_eq_none_iff.2 h.notArray
  rw [lowerType_name (plain_of_no_blank hblank) (not_union_of_no_blank hblank) harray]
  unfold lowerPrimitive lowerName
  rw [String.ofList_toList, lookup_pascalCase, hrecord]
  rfl

theorem lowerType_pascalCase_array (t : String) :
    lowerType (pascalCase t ++ "[]") =
      { Schema.any with type := some "array", items := some (lowerType (pascalCase t)) } := by
  have htext : (pascalCase t ++ "[]").toList = (pascalCase t).toList ++ arraySuffix :=
    String.toList_append
  have hblank := no_blank_append_array (pascalCase_no_blank t)
  rw [← htext] at hblank
  exact lowerType_array (plain_of_no_blank hblank) (not_union_of_no_blank hblank)

/-! ## The types of members -/

theorem attributeType_eq (a : LooseAttribute) :
    (∃ values, a.enum = some values ∧ values ≠ [] ∧ attributeType a = literalUnion values) ∨
      attributeType a ∈ simpleTypes ++ simpleTypes.map (· ++ "[]") := by
  unfold attributeType
  split
  · next v vs henum => exact Or.inl ⟨v :: vs, henum, by simp, rfl⟩
  · exact Or.inr (typeOfKind_mem ..)

theorem plain_attributeType (a : LooseAttribute) :
    attributeType a ≠ "" ∧ Plain (attributeType a).toList := by
  rcases attributeType_eq a with ⟨values, -, hne, htype⟩ | hmem
  · rw [htype]
    exact ⟨literalUnion_ne_empty hne, plain_literalUnion hne⟩
  · have htable : ∀ type ∈ simpleTypes ++ simpleTypes.map (· ++ "[]"),
        type ≠ "" ∧ trim type.toList = type.toList ∧ ¬ nullSuffix <:+ type.toList := by
      decide
    obtain ⟨hfilled, htrim, hnull⟩ := htable _ hmem
    exact ⟨hfilled, htrim, hnull⟩

/-- The type of a relationship apart from null. -/
def relationshipType (r : JsonApi.Relationship) : String :=
  if r.kind = .hasMany then pascalCase r.resource ++ "[]" else pascalCase r.resource

theorem plain_relationshipType (r : JsonApi.Relationship) : Plain (relationshipType r).toList := by
  have hblank := pascalCase_no_blank r.resource
  unfold relationshipType
  split
  · rw [String.toList_append]
    exact plain_of_no_blank (no_blank_append_array hblank)
  · exact plain_of_no_blank hblank

theorem relationshipType_eq_empty_iff (r : JsonApi.Relationship) :
    relationshipType r = "" ↔ r.kind ≠ .hasMany ∧ pascalCase r.resource = "" := by
  unfold relationshipType
  split
  · next hmany =>
    refine iff_of_false (fun h => ?_) fun h => h.1 hmany
    have hchars := congrArg String.toList h
    simp at hchars
  · next hone => exact ⟨fun h => ⟨hone, h⟩, fun h => h.2⟩

/-- A nullable relationship to one resource whose type names no model. -/
@[mk_iff]
structure LosesNull (r : JsonApi.Relationship) : Prop where
  nullable : r.nullable = some true
  toOne : r.kind ≠ .hasMany
  nameless : pascalCase r.resource = ""

instance (r : JsonApi.Relationship) : Decidable (LosesNull r) :=
  decidable_of_iff' _ (losesNull_iff r)

theorem lowerType_attributeProperty (a : LooseAttribute) :
    lowerType (attributeProperty a).type =
      { lowerType (attributeType a) with nullable := a.nullable.getD false } :=
  lowerType_withNull (plain_attributeType a).2 fun _ => (plain_attributeType a).1

theorem lowerType_relationshipProperty {r : JsonApi.Relationship} (h : ¬ LosesNull r) :
    lowerType (relationshipProperty r).type =
      { lowerType (relationshipType r) with nullable := r.nullable.getD false } := by
  apply lowerType_withNull (plain_relationshipType r)
  intro hnullable hempty
  obtain ⟨hone, hnameless⟩ := (relationshipType_eq_empty_iff r).1 hempty
  apply h
  exact ⟨by simpa [Option.getD_eq_iff] using hnullable, hone, hnameless⟩

/-- Nothing stands before the null, so the whole type is taken for a name. -/
theorem lowerType_of_losesNull {r : JsonApi.Relationship} (h : LosesNull r) :
    lowerType (relationshipProperty r).type =
      { Schema.any with ref := some (reference "| null") } := by
  have htype : (relationshipProperty r).type = " | null" := by
    simp [relationshipProperty, withNull, makeNullable, h.nullable, h.toOne, h.nameless]
  have hsplit : splitNull " | null".toList = ("| null".toList, false) := by decide
  rw [htype]
  unfold lowerType
  rw [lowerExpr_of_splitNull hsplit]
  rfl

end ApiShapes.OpenApi
