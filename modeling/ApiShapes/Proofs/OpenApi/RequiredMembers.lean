import ApiShapes.Proofs.Document.DumpedFields
import ApiShapes.Proofs.OpenApi.Components
import ApiShapes.Proofs.OpenApi.LoweredTypes
import Mathlib.Tactic

/-!
# Required and nullable members

A component lists its members in their order and requires those that are not nullable.  Nullability
is carried twice on the way to a component, by the flag that makes a property optional and by the
null in its type.  The two stay in step for all members but a nullable relationship to one resource
whose type names no model: such a member is not required, yet its property allows no null.
-/

namespace ApiShapes.Conversion

open JsonApi TypeSpec

open OpenApi (LosesNull ObjectSchema Server generate modelSchema propertySchema reference)

/-! ## The members that a component shows -/

/-- The names of the members with their nullability. -/
def shownMembers (withRelationships : Bool) (r : Resource) : List (String × Option Bool) :=
  r.attributes.map (fun a => (a.name, a.nullable)) ++
    if withRelationships then r.relationships.map (fun r => (r.name, r.nullable)) else []

/-- The names of the members that are not nullable. -/
def mandatoryNames (withRelationships : Bool) (r : Resource) : List String :=
  ((shownMembers withRelationships r).filter fun m => m.2 ≠ some true).map (·.1)

theorem shownMembers_modelOf (withRelationships : Bool) (t : Serializer) :
    (modelOf withRelationships (t.mapKind AttributeKind.name)).properties.map
        (fun p => (p.name, p.optional)) =
      (shownMembers withRelationships t.resource).map fun m => (m.1, m.2.getD false) := by
  rw [properties_modelOf, shownMembers, List.map_append, List.map_append, List.map_map,
    List.map_map]
  cases withRelationships with
  | true =>
      rw [if_pos rfl, if_pos rfl, List.map_map, List.map_map]
      rfl
  | false => rfl

theorem names_modelOf (withRelationships : Bool) (t : Serializer) :
    (modelOf withRelationships (t.mapKind AttributeKind.name)).properties.map (·.name) =
      (shownMembers withRelationships t.resource).map (·.1) := by
  have hnames := congrArg (List.map Prod.fst) (shownMembers_modelOf withRelationships t)
  rwa [List.map_map, List.map_map] at hnames

theorem keys_modelSchema {m : Model} (hnames : (m.properties.map (·.name)).Nodup) :
    (modelSchema m).properties.keys = m.properties.map (·.name) := by
  unfold modelSchema
  rw [Entries.ofList_of_nodup (by rwa [List.map_map]), Entries.keys, List.map_map]
  rfl

theorem required_modelOf (withRelationships : Bool) (t : Serializer) :
    (modelSchema (modelOf withRelationships (t.mapKind AttributeKind.name))).required =
      mandatoryNames withRelationships t.resource := by
  have hshown := congrArg (fun members => (members.filter fun m => !m.2).map (·.1))
    (shownMembers_modelOf withRelationships t)
  have hmandatory : ∀ nullable : Option Bool,
      (!nullable.getD false) = decide (nullable ≠ some true) := by
    decide
  simp only [List.filter_map, List.map_map, Function.comp_def, hmandatory] at hshown
  exact hshown

/-! ## Flags -/

theorem getD_false_eq_true_iff (nullable : Option Bool) :
    nullable.getD false = true ↔ nullable = some true := by
  revert nullable
  decide

theorem nullable_attributeProperty (a : LooseAttribute) :
    (propertySchema (attributeProperty a)).nullable = a.nullable.getD false :=
  congrArg (·.nullable) (OpenApi.lowerType_attributeProperty a)

theorem nullable_relationshipProperty_iff (r : Relationship) :
    ((propertySchema (relationshipProperty r)).nullable = true ↔ r.nullable = some true) ↔
      ¬ LosesNull r := by
  have hflag : (propertySchema (relationshipProperty r)).nullable =
      (OpenApi.lowerType (relationshipProperty r).type).nullable := rfl
  rw [hflag]
  by_cases hloses : LosesNull r
  · rw [OpenApi.lowerType_of_losesNull hloses]
    simp [hloses, hloses.nullable, OpenApi.Schema.any]
  · rw [OpenApi.lowerType_relationshipProperty hloses]
    exact iff_of_true (getD_false_eq_true_iff _) hloses

/-! ## Components -/

section

variable (component : ObjectSchema)

theorem keys_dump_component : ["type", "description", "properties", "required"].Nodup := by
  decide

theorem get?_type_dump : component.dump.get? "type" = some (.text "object") :=
  get?_dumpFields_of_set (by exact keys_dump_component) rfl rfl

/-- A component without required members does not mention them. -/
theorem get?_required_dump :
    component.dump.get? "required" =
      if component.required = [] then none else some (.ofTexts component.required) := by
  unfold ObjectSchema.dump
  refine (get?_dumpFields (by exact keys_dump_component) rfl).trans ?_
  cases component.required with
  | nil => rfl
  | cons name names => rfl

end

/-- The component of a resource is an object with a property for each member, in their order, and
requires those that are not nullable.  The flag of each property follows its member, unless the type
of a relationship consists of its null alone. -/
theorem members_of_component {s : Schema} {t : Serializer} (ht : IsLastOfModel s.serializers t)
    (hnames : t.resource.memberNames.Nodup) (options : Options) (servers : Option (List Server)) :
    ∃ component,
      (generate (definitionOfSchema s options).data servers).schemas.get?
          (pascalCase t.resource.type) = some component ∧
        component.dump.get? "type" = some (.text "object") ∧
        component.properties.keys =
          (shownMembers options.withRelationships t.resource).map (·.1) ∧
        component.required = mandatoryNames options.withRelationships t.resource ∧
        component.dump.get? "required" =
          (if component.required = [] then none else some (.ofTexts component.required)) ∧
        (∀ a ∈ t.resource.attributes, ∃ property,
          component.properties.get? a.name = some property ∧
            (property.nullable = true ↔ a.nullable = some true)) ∧
        (options.withRelationships = true → ∀ r ∈ t.resource.relationships, ∃ property,
          component.properties.get? r.name = some property ∧
            ((property.nullable = true ↔ r.nullable = some true) ↔ ¬ LosesNull r)) := by
  have hdistinct := nodup_properties_modelOf hnames options.withRelationships
  refine ⟨_, component_of_isLastOfModel s options servers ht, get?_type_dump _, ?_,
    required_modelOf .., get?_required_dump _, ?_, ?_⟩
  · rw [keys_modelSchema hdistinct, names_modelOf]
  · intro a ha
    have hproperty : attributeProperty (a.mapKind AttributeKind.name) ∈
        (modelOf options.withRelationships (t.mapKind AttributeKind.name)).properties := by
      rw [properties_modelOf]
      exact List.mem_append_left _ (List.mem_map_of_mem ha)
    refine ⟨_, get?_property_of_mem hdistinct hproperty, ?_⟩
    rw [nullable_attributeProperty]
    exact getD_false_eq_true_iff a.nullable
  · intro hrelationships r hr
    have hproperty : relationshipProperty r ∈
        (modelOf options.withRelationships (t.mapKind AttributeKind.name)).properties := by
      rw [properties_modelOf, if_pos hrelationships]
      exact List.mem_append_right _ (List.mem_map_of_mem hr)
    exact ⟨_, get?_property_of_mem hdistinct hproperty, nullable_relationshipProperty_iff r⟩

/-- Books with a title, perhaps on a shelf of a resource type and perhaps with tags. -/
def bookSchema (shelf : String) : Schema :=
  { serializers :=
      [{ name := "BookSerializer"
         resource :=
          { type := "books"
            attributes := [⟨"title", .string, none, none, none, none, none⟩]
            relationships :=
              [⟨"shelf", .hasOne, shelf, some true, none, none⟩,
                ⟨"tags", .hasMany, "_", some true, none, none⟩]
            description := none
            metadata := none }
         version := none
         ofNamespace := none
         description := none
         metadata := none }]
    title := none
    version := none
    description := none
    metadata := none }

theorem members_of_component_bookSchema :
    ∃ t, IsLastOfModel (bookSchema "shelves").serializers t ∧ t.resource.memberNames.Nodup ∧
      ∃ component shelf tags,
        (generate (definitionOfSchema (bookSchema "shelves") .default).data none).schemas.get?
            (pascalCase t.resource.type) = some component ∧
          component.properties.keys = ["title", "shelf", "tags"] ∧
          component.required = ["title"] ∧
          component.properties.get? "shelf" = some shelf ∧ shelf.nullable = true ∧
          component.properties.get? "tags" = some tags ∧ tags.nullable = true := by
  have hlast : IsLastOfModel (bookSchema "shelves").serializers _ := ⟨[], [], rfl, by simp⟩
  refine ⟨_, hlast, by decide, ?_⟩
  obtain ⟨component, hcomponent, -, hkeys, hrequired, -, -, hflags⟩ :=
    members_of_component hlast (by decide) .default none
  obtain ⟨shelf, hshelf, hshelfFlag⟩ := hflags rfl _ List.mem_cons_self
  obtain ⟨tags, htags, htagsFlag⟩ := hflags rfl _ (List.mem_cons_of_mem _ List.mem_cons_self)
  exact ⟨component, shelf, tags, hcomponent, hkeys, hrequired, hshelf,
    (hshelfFlag.2 (by decide)).2 rfl, htags, (htagsFlag.2 (by decide)).2 rfl⟩

/-- A nullable relationship to one resource of a type without words allows no null. -/
theorem nameless_shelf_loses_null :
    ∃ t r, IsLastOfModel (bookSchema "_").serializers t ∧ t.resource.memberNames.Nodup ∧
      r ∈ t.resource.relationships ∧ r.nullable = some true ∧
      ∃ component property,
        (generate (definitionOfSchema (bookSchema "_") .default).data none).schemas.get?
            (pascalCase t.resource.type) = some component ∧
          component.properties.get? r.name = some property ∧ property.nullable = false ∧
          property.ref = some "#/components/schemas/| null" := by
  have hlast : IsLastOfModel (bookSchema "_").serializers _ := ⟨[], [], rfl, by simp⟩
  refine ⟨_, _, hlast, by decide, List.mem_cons_self, rfl, _, _, rfl, rfl, ?_⟩
  decide +kernel

end ApiShapes.Conversion
