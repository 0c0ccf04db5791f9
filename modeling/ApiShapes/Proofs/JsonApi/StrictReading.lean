import ApiShapes.JsonApi.Strict
import ApiShapes.Proofs.Document.ShapeReading
import Mathlib.Tactic

/-!
# What the strict reader accepts

A schema, a serializer, a resource, an attribute or a relationship is read exactly from a record
each of whose fields is read, and a resource only if its members have distinct names.
-/

namespace ApiShapes.JsonApi

open Shape

structure AttributeOf.ReadFrom {κ : Type} (kindShape : Shape κ) (v : Value) (a : AttributeOf κ) :
    Prop where
  isRecord : ∃ es, v = .record es
  name : required "name" text v = .valid a.name
  kind : required "type" kindShape v = .valid a.kind
  nullable : maybe "nullable" bool v = .valid a.nullable
  description : maybe "description" text v = .valid a.description
  format : maybe "format" text v = .valid a.format
  enum : maybe "enum" (list text) v = .valid a.enum
  items : maybe "items" kindShape v = .valid a.items

structure Relationship.ReadFrom (v : Value) (r : Relationship) : Prop where
  isRecord : ∃ es, v = .record es
  name : required "name" text v = .valid r.name
  kind : required "type" (choice relationshipKinds) v = .valid r.kind
  resource : required "resource" text v = .valid r.resource
  nullable : maybe "nullable" bool v = .valid r.nullable
  description : maybe "description" text v = .valid r.description
  inverse : maybe "inverse" text v = .valid r.inverse

structure Resource.ReadFrom (v : Value) (r : Resource) : Prop where
  isRecord : ∃ es, v = .record es
  type : required "type" text v = .valid r.type
  attributes : withDefault "attributes" [] (list Attribute.shape) v = .valid r.attributes
  relationships : withDefault "relationships" [] (list Relationship.shape) v = .valid r.relationships
  description : maybe "description" text v = .valid r.description
  metadata : maybe "meta" entries v = .valid r.metadata
  names : r.memberNames.Nodup

structure Serializer.ReadFrom (v : Value) (s : Serializer) : Prop where
  isRecord : ∃ es, v = .record es
  name : required "name" text v = .valid s.name
  resource : required "resource" Resource.shape v = .valid s.resource
  version : maybe "version" text v = .valid s.version
  ofNamespace : maybe "namespace" text v = .valid s.ofNamespace
  description : maybe "description" text v = .valid s.description
  metadata : maybe "meta" entries v = .valid s.metadata

structure Schema.ReadFrom (v : Value) (s : Schema) : Prop where
  isRecord : ∃ es, v = .record es
  serializers : withDefault "serializers" [] (list Serializer.shape) v = .valid s.serializers
  title : maybe "title" text v = .valid s.title
  version : maybe "version" text v = .valid s.version
  description : maybe "description" text v = .valid s.description
  metadata : maybe "meta" entries v = .valid s.metadata

theorem attributeShape_eq_valid_iff {κ : Type} (kindShape : Shape κ) (v : Value)
    (a : AttributeOf κ) :
    attributeShape kindShape v = .valid a ↔ AttributeOf.ReadFrom kindShape v a := by
  rw [attributeShape, model_eq_valid_iff]
  constructor
  · rintro ⟨hrecord, hfields⟩
    simp only [Checked.seq_eq_valid_iff, Checked.map_eq_valid_iff] at hfields
    obtain ⟨_, items, ⟨_, enum, ⟨_, format, ⟨_, description, ⟨_, nullable, ⟨_, kind,
      ⟨name, hname, rfl⟩, hkind, rfl⟩, hnullable, rfl⟩, hdescription, rfl⟩, hformat, rfl⟩,
      henum, rfl⟩, hitems, rfl⟩ := hfields
    exact ⟨hrecord, hname, hkind, hnullable, hdescription, hformat, henum, hitems⟩
  · rintro ⟨hrecord, hname, hkind, hnullable, hdescription, hformat, henum, hitems⟩
    refine ⟨hrecord, ?_⟩
    rw [hname, hkind, hnullable, hdescription, hformat, henum, hitems]
    rfl

theorem Relationship.shape_eq_valid_iff (v : Value) (r : Relationship) :
    Relationship.shape v = .valid r ↔ Relationship.ReadFrom v r := by
  rw [Relationship.shape, model_eq_valid_iff]
  constructor
  · rintro ⟨hrecord, hfields⟩
    simp only [Checked.seq_eq_valid_iff, Checked.map_eq_valid_iff] at hfields
    obtain ⟨_, inverse, ⟨_, description, ⟨_, nullable, ⟨_, resource, ⟨_, kind, ⟨name, hname, rfl⟩,
      hkind, rfl⟩, hresource, rfl⟩, hnullable, rfl⟩, hdescription, rfl⟩, hinverse, rfl⟩ := hfields
    exact ⟨hrecord, hname, hkind, hresource, hnullable, hdescription, hinverse⟩
  · rintro ⟨hrecord, hname, hkind, hresource, hnullable, hdescription, hinverse⟩
    refine ⟨hrecord, ?_⟩
    rw [hname, hkind, hresource, hnullable, hdescription, hinverse]
    rfl

theorem Resource.ofFields_eq_valid_iff (v : Value) (r : Resource) :
    Resource.ofFields v = .valid r ↔
      required "type" text v = .valid r.type ∧
        withDefault "attributes" [] (list Attribute.shape) v = .valid r.attributes ∧
        withDefault "relationships" [] (list Relationship.shape) v = .valid r.relationships ∧
        maybe "description" text v = .valid r.description ∧
        maybe "meta" entries v = .valid r.metadata := by
  constructor
  · intro hfields
    simp only [Resource.ofFields, Checked.seq_eq_valid_iff, Checked.map_eq_valid_iff] at hfields
    obtain ⟨_, metadata, ⟨_, description, ⟨_, relationships, ⟨_, attributes, ⟨type, htype, rfl⟩,
      hattributes, rfl⟩, hrelationships, rfl⟩, hdescription, rfl⟩, hmetadata, rfl⟩ := hfields
    exact ⟨htype, hattributes, hrelationships, hdescription, hmetadata⟩
  · rintro ⟨htype, hattributes, hrelationships, hdescription, hmetadata⟩
    rw [Resource.ofFields, htype, hattributes, hrelationships, hdescription, hmetadata]
    rfl

theorem Resource.shape_eq_valid_iff (v : Value) (r : Resource) :
    Resource.shape v = .valid r ↔ Resource.ReadFrom v r := by
  rw [Resource.shape, model_eq_valid_iff]
  simp only [Checked.andThen_eq_valid_iff, ResourceOf.checkMembers_eq_valid_iff,
    Resource.ofFields_eq_valid_iff]
  constructor
  · rintro ⟨hrecord, _, ⟨htype, hattributes, hrelationships, hdescription, hmetadata⟩, hnames, rfl⟩
    exact ⟨hrecord, htype, hattributes, hrelationships, hdescription, hmetadata, hnames⟩
  · rintro ⟨hrecord, htype, hattributes, hrelationships, hdescription, hmetadata, hnames⟩
    exact ⟨hrecord, r, ⟨htype, hattributes, hrelationships, hdescription, hmetadata⟩, hnames, rfl⟩

theorem Serializer.shape_eq_valid_iff (v : Value) (s : Serializer) :
    Serializer.shape v = .valid s ↔ Serializer.ReadFrom v s := by
  rw [Serializer.shape, model_eq_valid_iff]
  constructor
  · rintro ⟨hrecord, hfields⟩
    simp only [Checked.seq_eq_valid_iff, Checked.map_eq_valid_iff] at hfields
    obtain ⟨_, metadata, ⟨_, description, ⟨_, ofNamespace, ⟨_, version, ⟨_, resource,
      ⟨name, hname, rfl⟩, hresource, rfl⟩, hversion, rfl⟩, hnamespace, rfl⟩, hdescription, rfl⟩,
      hmetadata, rfl⟩ := hfields
    exact ⟨hrecord, hname, hresource, hversion, hnamespace, hdescription, hmetadata⟩
  · rintro ⟨hrecord, hname, hresource, hversion, hnamespace, hdescription, hmetadata⟩
    refine ⟨hrecord, ?_⟩
    rw [hname, hresource, hversion, hnamespace, hdescription, hmetadata]
    rfl

theorem Schema.shape_eq_valid_iff (v : Value) (s : Schema) :
    Schema.shape v = .valid s ↔ Schema.ReadFrom v s := by
  rw [Schema.shape, model_eq_valid_iff]
  constructor
  · rintro ⟨hrecord, hfields⟩
    simp only [Checked.seq_eq_valid_iff, Checked.map_eq_valid_iff] at hfields
    obtain ⟨_, metadata, ⟨_, description, ⟨_, version, ⟨_, title, ⟨serializers, hserializers, rfl⟩,
      htitle, rfl⟩, hversion, rfl⟩, hdescription, rfl⟩, hmetadata, rfl⟩ := hfields
    exact ⟨hrecord, hserializers, htitle, hversion, hdescription, hmetadata⟩
  · rintro ⟨hrecord, hserializers, htitle, hversion, hdescription, hmetadata⟩
    refine ⟨hrecord, ?_⟩
    rw [hserializers, htitle, hversion, hdescription, hmetadata]
    rfl

/-- A document is accepted exactly if it has a list of serializers and the shape of a schema. -/
theorem Schema.read_eq_ok_iff (document : Value) (s : Schema) :
    Schema.read document = .ok s ↔
      (∃ items, document.get? "serializers" = some (.list items)) ∧
        Schema.ReadFrom document s := by
  rw [← Schema.shape_eq_valid_iff]
  have hlist : (document.get? "serializers").any isList = true ↔
      ∃ items, document.get? "serializers" = some (.list items) := by
    cases document.get? "serializers" with
    | none => simp
    | some v => cases v <;> simp [isList]
  cases document with
  | record es =>
      rw [Schema.read, ← hlist]
      split
      · next hany =>
        cases hshape : Schema.shape (.record es) with
        | valid t => simp [hany]
        | invalid faults => simp
      · next hany => simp [hany]
  | _ => simp [Schema.read, Value.get?]

end ApiShapes.JsonApi
