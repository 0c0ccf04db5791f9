import ApiShapes.Conversion.Definition
import ApiShapes.Proofs.Conversion.PropertyAccount
import ApiShapes.Proofs.Name.ModelName
import Mathlib.Tactic

/-!
# Schemas converted back

A schema that is converted to a definition comes back from it in a normal form: enumerated values
make the kind a text, element kinds are kept for arrays only, and every relationship that is not to
many is to one.  Attributes come back as attributes and relationships as relationships, because the
type of an attribute never names a model and that of a relationship always does.
-/

namespace ApiShapes.Conversion

open JsonApi Name Text TypeExpr TypeSpec

/-! ## What comes back -/

/-- The element kind of an array that comes back: a text if there was none, none for an array. -/
def restoredItems (kind : AttributeKind) (items : Option AttributeKind) : Option AttributeKind :=
  if kind = .array then
    match items with
    | none => some .string
    | some .array => none
    | some element => some element
  else none

def restoredAttribute (a : Attribute) : Attribute :=
  let nullable := some (a.nullable.getD false)
  match a.enum with
  | some (v :: vs) => ⟨a.name, .string, nullable, a.description, a.format, some (v :: vs), none⟩
  | _ => ⟨a.name, a.kind, nullable, a.description, a.format, none, restoredItems a.kind a.items⟩

def restoredRelationship (r : Relationship) : Relationship :=
  { r with
    kind := if r.kind = .hasMany then .hasMany else .hasOne
    nullable := some (r.nullable.getD false)
    inverse := none }

def restoredSerializer (s : Serializer) : Serializer :=
  let description := firstGiven [s.description, s.resource.description]
  { name := serializerName (pascalCase s.resource.type)
    resource :=
      { type := s.resource.type
        attributes := s.resource.attributes.map restoredAttribute
        relationships := s.resource.relationships.map restoredRelationship
        description
        metadata := none }
    version := none
    ofNamespace := none
    description
    metadata := none }

/-! ## Which schemas come back -/

/-- A resource type that its model name gives back. -/
@[mk_iff]
structure ReversibleType (type : String) : Prop where
  words : IsTypeName type
  back : snakeCase (pascalCase type) = type

instance (type : String) : Decidable (ReversibleType type) :=
  decidable_of_iff' _ (reversibleType_iff type)

/-- An attribute whose enumerated values, if there are any, can be told apart in a union, and that
is no array of records. -/
@[mk_iff]
structure ReversibleAttribute (a : Attribute) : Prop where
  enum : ∀ values ∈ a.enum, values ≠ [] → 2 ≤ values.length ∧ ∀ v ∈ values, Member v
  items : a.enum.getD [] = [] → a.kind = .array → a.items ≠ some .object

instance (a : Attribute) : Decidable (ReversibleAttribute a) :=
  decidable_of_iff' _ (reversibleAttribute_iff a)

@[mk_iff]
structure ReversibleSerializer (s : Serializer) : Prop where
  names : s.resource.memberNames.Nodup
  type : ReversibleType s.resource.type
  targets : ∀ r ∈ s.resource.relationships, ReversibleType r.resource
  attributes : ∀ a ∈ s.resource.attributes, ReversibleAttribute a

instance (s : Serializer) : Decidable (ReversibleSerializer s) :=
  decidable_of_iff' _ (reversibleSerializer_iff s)

/-! ## Types -/

theorem splitNull_withNull {type : String} (h : Plain type.toList) (hne : type ≠ "")
    (nullable : Bool) :
    splitNull (withNull nullable type).toList = (type.toList, nullable) := by
  cases nullable with
  | false => exact splitNull_of_plain h
  | true => exact splitNull_makeNullable h hne

/-- What comes back of a type under any nullability: no model name, but an attribute. -/
structure ReadsAs (type : String) (enum : Option (List String)) (kind : AttributeKind)
    (items : Option AttributeKind) : Prop where
  filled : type ≠ ""
  plain : Plain type.toList
  noModel : ∀ nullable, isModelReference (withNull nullable type) = false
  reading : ∀ model property, ∃ warnings,
    readType model property type.toList = ⟨enum, kind, items, warnings⟩

theorem readsAs_simpleType (kind : AttributeKind) (h : kind ≠ .array) :
    ReadsAs (simpleType kind.name) none kind none := by
  cases kind with
  | array => exact absurd rfl h
  | _ => exact ⟨by decide, ⟨by decide, by decide⟩, by decide, fun _ _ => ⟨_, rfl⟩⟩

theorem readsAs_array (items : Option AttributeKind) (h : items ≠ some .object) :
    ReadsAs (typeOfKind "array" (items.map AttributeKind.name)) none .array
      (restoredItems .array items) := by
  cases items with
  | none => exact ⟨by decide, ⟨by decide, by decide⟩, by decide, fun _ _ => ⟨_, rfl⟩⟩
  | some element =>
      cases element with
      | object => exact absurd rfl h
      | _ => exact ⟨by decide, ⟨by decide, by decide⟩, by decide, fun _ _ => ⟨_, rfl⟩⟩

theorem readsAs_typeOfKind (kind : AttributeKind) (items : Option AttributeKind)
    (h : kind = .array → items ≠ some .object) :
    ReadsAs (typeOfKind kind.name (items.map AttributeKind.name)) none kind
      (restoredItems kind items) := by
  by_cases harray : kind = .array
  · subst harray
    exact readsAs_array items (h rfl)
  · have hname : kind.name ≠ "array" := by
      cases kind with
      | array => exact absurd rfl harray
      | _ => decide
    have hitems : restoredItems kind items = none := if_neg harray
    rw [typeOfKind, if_neg hname, hitems]
    exact readsAs_simpleType kind harray

theorem readsAs_literalUnion {values : List String} (htwo : 2 ≤ values.length)
    (hmembers : ∀ v ∈ values, Member v) :
    ReadsAs (literalUnion values) (some values) .string none := by
  have hne : values ≠ [] := by
    rintro rfl
    simp at htwo
  have hunion := isUnion_literalUnion htwo
  have hplain := plain_literalUnion hne
  have hfilled := literalUnion_ne_empty hne
  have harray : element? (literalUnion values).toList = none := by
    rw [element?, beforeSuffix?_eq_none_iff]
    rintro ⟨pre, hpre⟩
    obtain ⟨mid, -, hlast⟩ := literalUnion_ends hne
    rw [← hpre] at hlast
    simp [arraySuffix] at hlast
  refine ⟨hfilled, hplain, fun nullable => ?_, fun model property => ⟨[], ?_⟩⟩
  · rw [isModelReference, referenceBase, splitNull_withNull hplain hfilled, harray]
    simp [hunion]
  · rw [readType, if_pos hunion, members_literalUnion hne hmembers]

/-! ## Members -/

theorem attributeProperty_back {a : Attribute} (h : ReversibleAttribute a) (model : String) :
    let p := attributeProperty (a.mapKind AttributeKind.name)
    isModelReference p.type = false ∧ (attributeOf model p).1 = restoredAttribute a := by
  obtain ⟨enum, kind, items, hreads, hrestored⟩ : ∃ enum kind items,
      ReadsAs (attributeType (a.mapKind AttributeKind.name)) enum kind items ∧
        restoredAttribute a =
          ⟨a.name, kind, some (a.nullable.getD false), a.description, a.format, enum, items⟩ := by
    obtain ⟨name, kind, nullable, description, format, enum, items⟩ := a
    match enum with
    | none => exact ⟨_, _, _, readsAs_typeOfKind kind items (h.items rfl), rfl⟩
    | some [] => exact ⟨_, _, _, readsAs_typeOfKind kind items (h.items rfl), rfl⟩
    | some (v :: vs) =>
        obtain ⟨htwo, hmembers⟩ := h.enum (v :: vs) rfl (by simp)
        exact ⟨_, _, _, readsAs_literalUnion htwo hmembers, rfl⟩
  obtain ⟨warnings, hreading⟩ := hreads.reading model a.name
  have htype : (attributeProperty (a.mapKind AttributeKind.name)).type =
      withNull (a.nullable.getD false) (attributeType (a.mapKind AttributeKind.name)) := rfl
  refine ⟨?_, ?_⟩
  · rw [htype]
    exact hreads.noModel _
  · rw [attributeOf, htype, splitNull_withNull hreads.plain hreads.filled, hrestored]
    simp only [attributeProperty, AttributeOf.mapKind, Bool.or_self] at hreading ⊢
    rw [hreading]

theorem relationshipProperty_back {r : Relationship} (h : ReversibleType r.resource) :
    isModelReference (relationshipProperty r).type = true ∧
      relationshipOf (relationshipProperty r) = restoredRelationship r := by
  have href := isReference_pascalCase h.words
  obtain ⟨c, rest, hhead, -⟩ := href.head
  obtain ⟨type, harray, htype⟩ : ∃ type, (type.toList = (pascalCase r.resource).toList ∧
        r.kind ≠ .hasMany ∨ type.toList = (pascalCase r.resource).toList ++ arraySuffix ∧
          r.kind = .hasMany) ∧
      (relationshipProperty r).type = withNull (r.nullable.getD false) type := by
    by_cases hmany : r.kind = .hasMany
    · refine ⟨pascalCase r.resource ++ "[]", Or.inr ⟨String.toList_append, hmany⟩, ?_⟩
      simp [relationshipProperty, hmany]
    · exact ⟨pascalCase r.resource, Or.inl ⟨rfl, hmany⟩, by simp [relationshipProperty, hmany]⟩
  have hfilled : type ≠ "" := by
    rintro rfl
    rcases harray with ⟨h, -⟩ | ⟨h, -⟩ <;> simp [hhead] at h
  have hplain : Plain type.toList := by
    rcases harray with ⟨h, -⟩ | ⟨h, -⟩ <;> rw [h]
    · exact href.plain.1
    · exact href.plain.2
  have hbase : (element? type.toList).getD type.toList = (pascalCase r.resource).toList ∧
      (element? type.toList).isSome = decide (r.kind = .hasMany) := by
    rcases harray with ⟨h, hkind⟩ | ⟨h, hkind⟩ <;> rw [h]
    · simp [not_array_of_isModelName href.isModelName, hkind]
    · simp [element?_array, hkind]
  constructor
  · rw [htype, isModelReference_eq, referenceBase, splitNull_withNull hplain hfilled, hbase.1,
      href.isModelName]
  · rw [relationshipOf, htype, splitNull_withNull hplain hfilled]
    simp only [hbase, String.ofList_toList, h.back]
    simp [relationshipProperty, restoredRelationship]

/-! ## Serializers -/

theorem restoredAttribute_name (a : Attribute) : (restoredAttribute a).name = a.name := by
  rw [restoredAttribute]
  split <;> rfl

theorem memberNames_restored (s : Serializer) :
    (restoredSerializer s).resource.memberNames = s.resource.memberNames := by
  simp only [ResourceOf.memberNames, restoredSerializer, List.map_map, Function.comp_def,
    restoredAttribute_name]
  rfl

theorem properties_back {s : Serializer} (h : ReversibleSerializer s) :
    let m := modelOf true (s.mapKind AttributeKind.name)
    (membersFrom m.name [] m.properties).attributes = s.resource.attributes.map restoredAttribute ∧
      (membersFrom m.name [] m.properties).relationships =
        s.resource.relationships.map restoredRelationship := by
  intro m
  have hproperties : m.properties =
      s.resource.attributes.map (fun a => attributeProperty (a.mapKind AttributeKind.name)) ++
        s.resource.relationships.map relationshipProperty := by
    simp [m, modelOf, SerializerOf.mapKind, ResourceOf.mapKind, Function.comp_def]
  have hnames : (m.properties.map (·.name)).Nodup := by
    rw [hproperties, List.map_append, List.map_map, List.map_map]
    exact h.names
  obtain ⟨hattributes, hrelationships, -, -⟩ := membersFrom_account m.name [] m.properties
  rw [List.filter_eq_self.2 (by simp), firstOfEachName_of_nodup hnames]
    at hattributes hrelationships
  unfold attributeMembers at hattributes
  unfold relationshipMembers at hrelationships
  have hattribute : ∀ a ∈ s.resource.attributes, _ :=
    fun a ha => attributeProperty_back (h.attributes a ha) m.name
  have hrelationship : ∀ r ∈ s.resource.relationships, _ :=
    fun r hr => relationshipProperty_back (h.targets r hr)
  rw [hattributes, hrelationships, hproperties]
  simp only [List.filter_append, List.filter_map, Function.comp_def]
  constructor
  · rw [List.filter_eq_self.2 fun a ha => by simp [(hattribute a ha).1],
      List.filter_eq_nil_iff.2 fun r hr => by simp [(hrelationship r hr).1], List.map_nil,
      List.append_nil, List.map_map]
    exact List.map_congr_left fun a ha => (hattribute a ha).2
  · rw [List.filter_eq_nil_iff.2 fun a ha => by simp [(hattribute a ha).1],
      List.filter_eq_self.2 fun r hr => by simp [(hrelationship r hr).1], List.map_nil,
      List.nil_append, List.map_map]
    exact List.map_congr_left fun r hr => (hrelationship r hr).2

/-- The model of a serializer gives back the serializer in its normal form. -/
theorem serializerOf_modelOf {s : Serializer} (h : ReversibleSerializer s) :
    ∃ warnings, serializerOf .default (modelOf true (s.mapKind AttributeKind.name)) =
      .valid (restoredSerializer s, warnings) := by
  obtain ⟨hattributes, hrelationships⟩ := properties_back h
  have hresource : (⟨snakeCase (modelOf true (s.mapKind AttributeKind.name)).name,
      s.resource.attributes.map restoredAttribute, s.resource.relationships.map restoredRelationship,
      (modelOf true (s.mapKind AttributeKind.name)).description, none⟩ : Resource) =
        (restoredSerializer s).resource := by
    have hback : snakeCase (modelOf true (s.mapKind AttributeKind.name)).name = s.resource.type :=
      h.type.back
    rw [hback]
    rfl
  have hchecked : ∀ input, (restoredSerializer s).resource.checkMembers input =
      .valid (restoredSerializer s).resource := by
    intro input
    refine (ResourceOf.checkMembers_eq_valid_iff ..).2 ⟨?_, rfl⟩
    rw [memberNames_restored]
    exact h.names
  refine ⟨(membersFrom (pascalCase s.resource.type) []
    (modelOf true (s.mapKind AttributeKind.name)).properties).warnings, ?_⟩
  rw [serializerOf]
  simp only [hattributes, hrelationships, hresource, hchecked, Checked.map_valid]
  rfl

theorem serializersOf_models {ss : List Serializer} (h : ∀ s ∈ ss, ReversibleSerializer s) :
    ∃ results, serializersOf .default
        (ss.map fun s => modelOf true (s.mapKind AttributeKind.name)) = .valid results ∧
      results.map (·.1) = ss.map restoredSerializer := by
  induction ss with
  | nil => exact ⟨[], rfl, rfl⟩
  | cons s ss ih =>
      obtain ⟨results, hresults, hrestored⟩ := ih fun t ht => h t (List.mem_cons_of_mem _ ht)
      obtain ⟨warnings, hfirst⟩ := serializerOf_modelOf (h s (by simp))
      refine ⟨(restoredSerializer s, warnings) :: results, ?_, ?_⟩
      · rw [List.map_cons, serializersOf, hfirst, hresults]
        rfl
      · rw [List.map_cons, List.map_cons, hrestored]

/-- A schema that is converted to a definition and back has its serializers in their normal form, in
the same order. -/
theorem schemaOfDefinition_definitionOfSchema {s : Schema}
    (h : ∀ serializer ∈ s.serializers, ReversibleSerializer serializer) :
    ∃ r, schemaOfDefinition (definitionOfSchema s .default).data .default = .valid r ∧
      r.data.serializers = s.serializers.map restoredSerializer := by
  obtain ⟨results, hresults, hrestored⟩ := serializersOf_models h
  have hmodels : (definitionOfSchema s .default).data.models =
      s.serializers.map fun s => modelOf true (s.mapKind AttributeKind.name) := by
    simp [definitionOfSchema, assemble, Definition.models, List.filterMap_map, Function.comp_def,
      Options.default]
  rw [schemaOfDefinition, hmodels, hresults, Checked.map_valid]
  exact ⟨_, rfl, hrestored⟩

/-- A schema with enumerated values of another kind, an array of arrays, and relationships. -/
def blogSchema : Schema :=
  { serializers :=
      [{ name := "PostSerializer"
         resource :=
          { type := "blog_posts"
            attributes :=
              [⟨"title", .string, none, some "As shown.", none, none, none⟩,
                ⟨"state", .number, some true, none, none, some ["draft", "not \"quite\" out"], none⟩,
                ⟨"grid", .array, some false, none, none, some [], some .array⟩]
            relationships :=
              [⟨"author", .belongsTo, "authors", none, none, some "posts"⟩,
                ⟨"tags", .hasMany, "post_tags", some true, none, none⟩]
            description := none
            metadata := none }
         version := some "2"
         ofNamespace := none
         description := some "A post."
         metadata := none }]
    title := none
    version := none
    description := none
    metadata := none }

theorem schemaOfDefinition_definitionOfSchema_blogSchema :
    (∀ serializer ∈ blogSchema.serializers, ReversibleSerializer serializer) ∧
      ∃ r, schemaOfDefinition (definitionOfSchema blogSchema .default).data .default = .valid r ∧
        r.data.serializers = blogSchema.serializers.map restoredSerializer := by
  have hreversible : ∀ serializer ∈ blogSchema.serializers, ReversibleSerializer serializer := by
    decide
  exact ⟨hreversible, schemaOfDefinition_definitionOfSchema hreversible⟩

end ApiShapes.Conversion
