import ApiShapes.Conversion.Definition
import ApiShapes.JsonApi.Strict
import ApiShapes.OpenApi.Generation
import ApiShapes.Proofs.Conversion.SchemaRoundTrip
import ApiShapes.Proofs.Document.WrittenEntries
import Mathlib.Tactic

/-!
# Component schemas of converted schemas

Each serializer of a schema becomes a model and each model a component schema.  Models are written
under their names one after the other, so of several serializers with one model name the last one
remains.  Its members are the properties of the component; an enumeration of two or more values
stays one, a single value becomes a reference to a schema that does not exist.
-/

namespace ApiShapes

namespace Conversion

open JsonApi TypeExpr TypeSpec

open OpenApi (Server generate modelSchema propertySchema reference)

/-! ## The serializer that remains -/

def modelName (t : Serializer) : String :=
  pascalCase t.resource.type

/-- A serializer behind which no other one has its model name. -/
def IsLastOfModel (serializers : List Serializer) (t : Serializer) : Prop :=
  ∃ before after, serializers = before ++ t :: after ∧ ∀ u ∈ after, modelName u ≠ modelName t

theorem exists_isLastOfModel {serializers : List Serializer} {t : Serializer}
    (ht : t ∈ serializers) :
    ∃ u, IsLastOfModel serializers u ∧ modelName u = modelName t := by
  induction serializers generalizing t with
  | nil => cases ht
  | cons first rest ih =>
      by_cases hlater : ∃ u ∈ rest, modelName u = modelName t
      · obtain ⟨u, hu, hname⟩ := hlater
        obtain ⟨w, ⟨before, after, rfl, hafter⟩, hw⟩ := ih hu
        exact ⟨w, ⟨first :: before, after, rfl, hafter⟩, hw.trans hname⟩
      · have hfirst : t = first := by
          rcases List.mem_cons.1 ht with h | h
          · exact h
          · exact absurd ⟨t, h, rfl⟩ hlater
        subst hfirst
        exact ⟨t, ⟨[], rest, rfl, fun u hu hname => hlater ⟨u, hu, hname⟩⟩, rfl⟩

section

variable (s : Schema) (options : Options) (servers : Option (List Server))

theorem models_definitionOfSchema :
    (definitionOfSchema s options).data.models =
      s.serializers.map fun t =>
        modelOf options.withRelationships (t.mapKind AttributeKind.name) := by
  simp [definitionOfSchema, assemble, Definition.models, List.filterMap_map, Function.comp_def]

/-- The component of a model name is that of the last serializer with this name. -/
theorem component_of_isLastOfModel {t : Serializer} (ht : IsLastOfModel s.serializers t) :
    (generate (definitionOfSchema s options).data servers).schemas.get? (modelName t) =
      some (modelSchema
        (modelOf options.withRelationships (t.mapKind AttributeKind.name))) := by
  obtain ⟨before, after, hsplit, hafter⟩ := ht
  change (OpenApi.schemasOf (definitionOfSchema s options).data).get? (modelName t) = _
  unfold OpenApi.schemasOf
  rw [models_definitionOfSchema, hsplit, List.map_map, List.map_append, List.map_cons]
  apply Entries.get?_ofList_of_last
  rw [List.map_map, List.mem_map]
  rintro ⟨u, hu, hname⟩
  exact hafter u hu hname

end

theorem properties_modelOf (t : Serializer) (withRelationships : Bool) :
    (modelOf withRelationships (t.mapKind AttributeKind.name)).properties =
      t.resource.attributes.map (fun a => attributeProperty (a.mapKind AttributeKind.name)) ++
        if withRelationships then t.resource.relationships.map relationshipProperty else [] := by
  simp [modelOf, SerializerOf.mapKind, ResourceOf.mapKind, Function.comp_def]

/-- The properties of a component are the members of its serializer. -/
theorem mem_keys_component (t : Serializer) (name : String) :
    name ∈ (modelSchema (modelOf true (t.mapKind AttributeKind.name))).properties.keys ↔
      name ∈ t.resource.memberNames := by
  unfold modelSchema
  rw [Entries.mem_keys_ofList, properties_modelOf, List.map_map, if_pos rfl, List.map_append,
    List.map_map, List.map_map]
  rfl

/-! ## Members of all serializers -/

/-- The members of all serializers are properties of their components exactly if each serializer has
no members besides those of the last one with its model name. -/
theorem members_in_components_iff (s : Schema) (servers : Option (List Server)) :
    (∀ t ∈ s.serializers, ∃ component,
        (generate (definitionOfSchema s .default).data servers).schemas.get?
            (pascalCase t.resource.type) = some component ∧
          ∀ name ∈ t.resource.memberNames, name ∈ component.properties.keys) ↔
      ∀ t ∈ s.serializers, ∀ u, IsLastOfModel s.serializers u → modelName u = modelName t →
        t.resource.memberNames ⊆ u.resource.memberNames := by
  constructor
  · intro h t ht u hu hname name hmember
    obtain ⟨component, hcomponent, hkeys⟩ := h t ht
    have hlast := component_of_isLastOfModel s .default servers hu
    rw [hname] at hlast
    obtain rfl := Option.some.inj (hcomponent.symm.trans hlast)
    exact (mem_keys_component u name).1 (hkeys name hmember)
  · intro h t ht
    obtain ⟨u, hu, hname⟩ := exists_isLastOfModel ht
    have hlast := component_of_isLastOfModel s .default servers hu
    rw [hname] at hlast
    refine ⟨_, hlast, ?_⟩
    intro name hmember
    exact (mem_keys_component u name).2 (h t ht u hu hname hmember)

/-- Two serializers whose resource types name one model. -/
def archiveDocument : Value :=
  .ofFields [("serializers", .list
    [.ofFields [("name", .text "Posts"), ("resource", .ofFields
      [("type", .text "blog_posts"), ("attributes", .list
        [.ofFields [("name", .text "title"), ("type", .text "string")]])])],
      .ofFields [("name", .text "Archive"), ("resource", .ofFields
        [("type", .text "blog-posts"), ("attributes", .list
          [.ofFields [("name", .text "archived"), ("type", .text "date")]])])]])]

/-- The first of two serializers with one model name loses its members. -/
theorem archive_overwrites_posts :
    ∃ s, Schema.read archiveDocument = .ok s ∧
      ¬ ∀ t ∈ s.serializers, ∀ name ∈ t.resource.memberNames, ∃ component,
        (generate (definitionOfSchema s .default).data none).schemas.get?
            (pascalCase t.resource.type) = some component ∧
          name ∈ component.properties.keys := by
  refine ⟨_, rfl, ?_⟩
  intro h
  obtain ⟨component, hcomponent, hkey⟩ := h _ List.mem_cons_self "title" List.mem_cons_self
  have hother : component.properties.keys = ["archived"] := by
    cases hcomponent
    rfl
  rw [hother] at hkey
  exact absurd hkey (by decide)

/-! ## Enumerations -/

theorem not_separator_literalOf {v : List Char} (h : ¬ separator <:+: v) :
    ¬ separator <:+: literalOf v := by
  unfold literalOf
  rw [List.infix_cons_iff, List.infix_concat_iff]
  rintro (hstart | hend | hwithin)
  · exact absurd (List.cons_prefix_cons.1 hstart).1 (by decide)
  · obtain ⟨before, hbefore⟩ := hend
    have hlast := congrArg List.getLast? hbefore
    simp [separator] at hlast
  · exact h hwithin

/-- A literal that stands alone is taken for the name of a schema. -/
theorem lowerName_literalOf (v : List Char) :
    OpenApi.lowerName (literalOf v) =
      { OpenApi.Schema.any with ref := some (reference (String.ofList (literalOf v))) } := by
  have hprimitive : OpenApi.primitives.lookup (String.ofList (literalOf v)) = none := by
    have hquote : ∀ p ∈ OpenApi.primitives, p.1.toList.head? ≠ some '"' := by decide
    rw [List.lookup_eq_none_iff]
    intro p hp
    rw [bne_iff_ne]
    intro hname
    apply hquote p hp
    rw [← hname, String.toList_ofList]
    rfl
  have hrecord : TypeExpr.isRecord (literalOf v) = false := rfl
  unfold OpenApi.lowerName
  rw [hprimitive, hrecord]
  rfl

/-- A union of two or more literals is lowered to their enumeration, a single literal to a
reference. -/
theorem lowerType_literalUnion {values : List String} (hne : values ≠ [])
    (h : ∀ v ∈ values, Member v) (nullable : Bool) :
    OpenApi.lowerType (withNull nullable (literalUnion values)) =
      if 2 ≤ values.length then
        { OpenApi.Schema.any with type := some "string", enum := some values, nullable }
      else
        { OpenApi.Schema.any with ref := some (reference (literalUnion values)), nullable } := by
  have hsplit :=
    splitNull_withNull (plain_literalUnion hne) (literalUnion_ne_empty hne) nullable
  unfold OpenApi.lowerType
  rw [OpenApi.lowerExpr, hsplit]
  by_cases hmany : 2 ≤ values.length
  · rw [if_pos hmany, if_pos (isUnion_literalUnion hmany), members_literalUnion hne h]
  · obtain ⟨v, rfl⟩ : ∃ v, values = [v] := by
      apply List.length_eq_one_iff.1
      have hlength := List.length_pos_iff.2 hne
      omega
    have htext : (literalUnion [v]).toList = literalOf v.toList := by
      rw [toList_literalUnion, List.map_singleton, List.map_singleton, List.intercalate_singleton]
    have hunion : isUnion (literalOf v.toList) = false := by
      rw [← Bool.not_eq_true, isUnion_iff]
      exact not_separator_literalOf (h v (by simp)).whole
    have harray : element? (literalOf v.toList) = none := by
      unfold element?
      rw [Text.beforeSuffix?_eq_none_iff]
      rintro ⟨before, hbefore⟩
      have hlast := congrArg List.getLast? hbefore
      simp [arraySuffix, literalOf, List.getLast?_cons] at hlast
    rw [if_neg hmany, htext, hunion]
    simp only [Bool.false_eq_true, if_false]
    split
    · next element helement =>
      rw [harray] at helement
      cases helement
    · rw [lowerName_literalOf, ← htext, String.ofList_toList]

theorem get?_property_of_mem {m : Model} (hnames : (m.properties.map (·.name)).Nodup)
    {p : Property} (hp : p ∈ m.properties) :
    (modelSchema m).properties.get? p.name = some (propertySchema p) := by
  apply Entries.get?_ofList_of_nodup
  · rw [List.map_map]
    exact hnames
  · exact List.mem_map_of_mem hp

theorem nodup_properties_modelOf {t : Serializer} (h : t.resource.memberNames.Nodup)
    (withRelationships : Bool) :
    ((modelOf withRelationships (t.mapKind AttributeKind.name)).properties.map
      (·.name)).Nodup := by
  rw [properties_modelOf, List.map_append, List.map_map]
  cases withRelationships with
  | true =>
      rw [if_pos rfl, List.map_map]
      exact h
  | false =>
      rw [if_neg (by simp), List.map_nil, List.append_nil]
      exact h.of_append_left

/-- An enumeration of an attribute is the enumeration of its property if it has two or more values.
A single value becomes a reference instead. -/
theorem enumeration_in_component {s : Schema} {t : Serializer}
    (ht : IsLastOfModel s.serializers t) (hnames : t.resource.memberNames.Nodup) {a : Attribute}
    (ha : a ∈ t.resource.attributes) {values : List String} (henum : a.enum = some values)
    (hne : values ≠ []) (hvalues : ∀ v ∈ values, Member v) (options : Options)
    (servers : Option (List Server)) :
    ∃ component property,
      (generate (definitionOfSchema s options).data servers).schemas.get?
          (pascalCase t.resource.type) = some component ∧
        component.properties.get? a.name = some property ∧
        property.nullable = a.nullable.getD false ∧
        ((property.type = some "string" ∧ property.enum = some values ∧ property.ref = none) ↔
          2 ≤ values.length) ∧
        (values.length = 1 →
          property.type = none ∧ property.enum = none ∧
            property.ref = some (reference (literalUnion values))) := by
  have hproperty : attributeProperty (a.mapKind AttributeKind.name) ∈
      (modelOf options.withRelationships (t.mapKind AttributeKind.name)).properties := by
    rw [properties_modelOf]
    exact List.mem_append_left _ (List.mem_map_of_mem ha)
  have hfound := get?_property_of_mem (nodup_properties_modelOf hnames _) hproperty
  have htype : attributeType (a.mapKind AttributeKind.name) = literalUnion values := by
    obtain ⟨v, rest, rfl⟩ := List.exists_cons_of_ne_nil hne
    have hgiven : (a.mapKind AttributeKind.name).enum = some (v :: rest) := henum
    unfold attributeType
    rw [hgiven]
  have hschema : propertySchema (attributeProperty (a.mapKind AttributeKind.name)) =
      { OpenApi.lowerType (withNull (a.nullable.getD false) (literalUnion values)) with
        description := a.description } := by
    unfold propertySchema
    rw [← htype]
    rfl
  refine ⟨_, _, component_of_isLastOfModel s options servers ht, hfound, ?_⟩
  rw [hschema, lowerType_literalUnion hne hvalues]
  by_cases hmany : 2 ≤ values.length
  · rw [if_pos hmany]
    refine ⟨rfl, iff_of_true ⟨rfl, rfl, rfl⟩ hmany, ?_⟩
    intro hone
    omega
  · rw [if_neg hmany]
    refine ⟨rfl, iff_of_false ?_ hmany, fun _ => ⟨rfl, rfl, rfl⟩⟩
    rintro ⟨htext, -⟩
    cases htext

/-- Two serializers of one model name, the last of which enumerates the states of a ticket. -/
def ticketSerializers (states : List String) : List Serializer :=
  let serializer (type : String) (attributes : List Attribute) : Serializer :=
    ⟨"TicketSerializer", ⟨type, attributes, [], none, none⟩, none, none, none, none⟩
  [serializer "support-tickets" [⟨"state", .string, none, none, none, none, none⟩],
    serializer "support_tickets"
      [⟨"priority", .number, none, none, none, none, none⟩,
        ⟨"state", .number, some true, some "as shown", none, some states, none⟩]]

def ticketSchema (states : List String) : Schema :=
  ⟨ticketSerializers states, none, none, none, none⟩

theorem enumeration_in_component_ticketSchema :
    ∃ t a, IsLastOfModel (ticketSchema ["open", "", "on [hold] |"]).serializers t ∧
      t.resource.memberNames.Nodup ∧ a ∈ t.resource.attributes ∧
      a.enum = some ["open", "", "on [hold] |"] ∧ (∀ v ∈ ["open", "", "on [hold] |"], Member v) ∧
      ∃ component property,
        (generate (definitionOfSchema (ticketSchema ["open", "", "on [hold] |"]) .default).data
            none).schemas.get? (pascalCase t.resource.type) = some component ∧
          component.properties.get? a.name = some property ∧
          property.nullable = a.nullable.getD false ∧
          property.type = some "string" ∧ property.enum = some ["open", "", "on [hold] |"] ∧
          property.ref = none := by
  have hlast : IsLastOfModel (ticketSchema ["open", "", "on [hold] |"]).serializers _ :=
    ⟨[_], [], rfl, by simp⟩
  have hvalues : ∀ v ∈ ["open", "", "on [hold] |"], Member v := by decide
  refine ⟨_, _, hlast, by decide, List.mem_cons_of_mem _ List.mem_cons_self, rfl, hvalues, ?_⟩
  obtain ⟨component, property, hcomponent, hproperty, hnullable, henum, -⟩ :=
    enumeration_in_component hlast (by decide)
      (List.mem_cons_of_mem _ List.mem_cons_self) rfl (by simp) hvalues .default none
  exact ⟨component, property, hcomponent, hproperty, hnullable, henum.2 (by decide)⟩

/-- An enumeration of one value is lost: the property refers to a schema named by the literal. -/
theorem single_value_becomes_reference :
    ∃ t a, IsLastOfModel (ticketSchema ["open"]).serializers t ∧ t.resource.memberNames.Nodup ∧
      a ∈ t.resource.attributes ∧ a.enum = some ["open"] ∧ Member "open" ∧
      ∃ component property,
        (generate (definitionOfSchema (ticketSchema ["open"]) .default).data none).schemas.get?
            (pascalCase t.resource.type) = some component ∧
          component.properties.get? a.name = some property ∧
          property.type = none ∧ property.enum = none ∧
          property.ref = some "#/components/schemas/\"open\"" := by
  have hlast : IsLastOfModel (ticketSchema ["open"]).serializers _ := ⟨[_], [], rfl, by simp⟩
  refine ⟨_, _, hlast, by decide, List.mem_cons_of_mem _ List.mem_cons_self, rfl, by decide, _, _,
    rfl, rfl, ?_⟩
  decide +kernel

end Conversion

end ApiShapes
