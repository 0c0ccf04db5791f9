import ApiShapes.Proofs.Document.DumpedFields
import ApiShapes.Proofs.JsonApi.StrictReading
import Mathlib.Tactic

/-!
# Reading the dump of a schema

The strict reader gives back a schema from its dump, whether fields that are not set appear in it or
are left out.  Each part is read back from its own dump; a resource is read back if its members have
distinct names.
-/

namespace ApiShapes

namespace Shape

theorem optional_ofText? (given : Option String) :
    optional text (.ofText? given) = .valid given := by
  cases given <;> rfl

theorem optional_ofBool? (given : Option Bool) : optional bool (.ofBool? given) = .valid given := by
  cases given <;> rfl

theorem list_map {α : Type} {shape : Shape α} {dump : α → Value} {as : List α}
    (h : ∀ a ∈ as, shape (dump a) = .valid a) : list shape (.list (as.map dump)) = .valid as := by
  rw [list, itemsFrom_eq_valid_iff, List.forall₂_map_left_iff, List.forall₂_same]
  exact h

end Shape

namespace JsonApi

open Shape

theorem optional_dumpEnum (given : Option (List String)) :
    optional (list text) (dumpEnum given) = .valid given := by
  cases given with
  | none => rfl
  | some values =>
      refine (optional_eq_valid_iff ..).2 (Or.inr ⟨nofun, values, ?_, rfl⟩)
      exact list_map fun _ _ => rfl

theorem optional_dumpMetadata (given : Option Metadata) :
    optional entries (dumpMetadata given) = .valid given := by
  cases given <;> rfl

theorem choice_attributeKind (kind : AttributeKind) :
    choice attributeKinds (.text kind.name) = .valid kind := by
  cases kind <;> rfl

theorem choice_relationshipKind (kind : RelationshipKind) :
    choice relationshipKinds (.text kind.name) = .valid kind := by
  cases kind <;> rfl

variable (unset : Unset)

theorem attributeShape_dump {κ : Type} {kindShape : Shape κ} {kindName : κ → String}
    (hkind : ∀ k, kindShape (.text (kindName k)) = .valid k) (a : AttributeOf κ) :
    attributeShape kindShape (a.dump unset kindName) = .valid a := by
  have hitems : optional kindShape (.ofText? (a.items.map kindName)) = .valid a.items := by
    cases a.items with
    | none => rfl
    | some k => exact (optional_eq_valid_iff ..).2 (Or.inr ⟨nofun, k, hkind k, rfl⟩)
  have hkeys : ["name", "type", "nullable", "description", "format", "enum", "items"].Nodup := by
    decide
  rw [attributeShape_eq_valid_iff]
  refine
    { isRecord := ⟨_, rfl⟩
      name := required_dumpFields ?_ rfl rfl rfl
      kind := required_dumpFields ?_ rfl (hkind a.kind) rfl
      nullable := maybe_dumpFields ?_ rfl (optional_ofBool? _)
      description := maybe_dumpFields ?_ rfl (optional_ofText? _)
      format := maybe_dumpFields ?_ rfl (optional_ofText? _)
      enum := maybe_dumpFields ?_ rfl (optional_dumpEnum _)
      items := maybe_dumpFields ?_ rfl hitems }
  all_goals exact hkeys

theorem Relationship.shape_dump (r : Relationship) :
    Relationship.shape (r.dump unset) = .valid r := by
  have hkeys : ["name", "type", "resource", "nullable", "description", "inverse"].Nodup := by
    decide
  rw [Relationship.shape_eq_valid_iff]
  refine
    { isRecord := ⟨_, rfl⟩
      name := required_dumpFields ?_ rfl rfl rfl
      kind := required_dumpFields ?_ rfl (choice_relationshipKind r.kind) rfl
      resource := required_dumpFields ?_ rfl rfl rfl
      nullable := maybe_dumpFields ?_ rfl (optional_ofBool? _)
      description := maybe_dumpFields ?_ rfl (optional_ofText? _)
      inverse := maybe_dumpFields ?_ rfl (optional_ofText? _) }
  all_goals exact hkeys

theorem Resource.shape_dump {r : Resource} (hnames : r.memberNames.Nodup) :
    Resource.shape (r.dump unset AttributeKind.name) = .valid r := by
  have hattributes : list Attribute.shape
      (.list (r.attributes.map (·.dump unset AttributeKind.name))) = .valid r.attributes :=
    list_map fun a _ => attributeShape_dump unset choice_attributeKind a
  have hrelationships : list Relationship.shape (.list (r.relationships.map (·.dump unset))) =
      .valid r.relationships :=
    list_map fun relationship _ => relationship.shape_dump unset
  have hkeys : ["type", "attributes", "relationships", "description", "meta"].Nodup := by decide
  rw [Resource.shape_eq_valid_iff]
  refine
    { isRecord := ⟨_, rfl⟩
      type := required_dumpFields ?_ rfl rfl rfl
      attributes := withDefault_dumpFields ?_ rfl hattributes rfl
      relationships := withDefault_dumpFields ?_ rfl hrelationships rfl
      description := maybe_dumpFields ?_ rfl (optional_ofText? _)
      metadata := maybe_dumpFields ?_ rfl (optional_dumpMetadata _)
      names := hnames }
  all_goals exact hkeys

theorem Serializer.shape_dump {s : Serializer} (hnames : s.resource.memberNames.Nodup) :
    Serializer.shape (s.dump unset AttributeKind.name) = .valid s := by
  have hkeys : ["name", "resource", "version", "namespace", "description", "meta"].Nodup := by
    decide
  rw [Serializer.shape_eq_valid_iff]
  refine
    { isRecord := ⟨_, rfl⟩
      name := required_dumpFields ?_ rfl rfl rfl
      resource := required_dumpFields ?_ rfl (Resource.shape_dump unset hnames) rfl
      version := maybe_dumpFields ?_ rfl (optional_ofText? _)
      ofNamespace := maybe_dumpFields ?_ rfl (optional_ofText? _)
      description := maybe_dumpFields ?_ rfl (optional_ofText? _)
      metadata := maybe_dumpFields ?_ rfl (optional_dumpMetadata _) }
  all_goals exact hkeys

theorem Schema.read_dump {s : Schema} (hnames : ∀ t ∈ s.serializers, t.resource.memberNames.Nodup) :
    Schema.read (s.dump unset) = .ok s := by
  have hserializers : list Serializer.shape
      (.list (s.serializers.map (·.dump unset AttributeKind.name))) = .valid s.serializers :=
    list_map fun t ht => Serializer.shape_dump unset (hnames t ht)
  have hkeys : ["serializers", "title", "version", "description", "meta"].Nodup := by decide
  rw [Schema.read_eq_ok_iff]
  refine ⟨⟨_, get?_dumpFields_of_set ?_ rfl rfl⟩,
    { isRecord := ⟨_, rfl⟩
      serializers := withDefault_dumpFields ?_ rfl hserializers rfl
      title := maybe_dumpFields ?_ rfl (optional_ofText? _)
      version := maybe_dumpFields ?_ rfl (optional_ofText? _)
      description := maybe_dumpFields ?_ rfl (optional_ofText? _)
      metadata := maybe_dumpFields ?_ rfl (optional_dumpMetadata _) }⟩
  all_goals exact hkeys

end JsonApi

end ApiShapes
