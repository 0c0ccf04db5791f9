import ApiShapes.Proofs.OpenApi.DocumentReferences
import ApiShapes.Proofs.OpenApi.OperationPaths
import ApiShapes.Proofs.OpenApi.RequiredMembers
import Mathlib.Tactic

/-!
# Missing targets

The references of the document of a converted schema that point to no component are those to the
targets of relationships that no serializer describes.  Attributes refer to nothing and operations
only to the model they are about.  A relationship that loses its null is the one exception: its
reference names the null, which is no component.
-/

namespace ApiShapes

namespace OpenApi

open Text TypeExpr

/-! ## References of paths -/

/-- The types that an operation mentions. -/
def mentionedTypes (o : TypeSpec.Operation) : List String :=
  o.parameters.map (·.type) ++ o.requestBody.toList.map (·.type) ++
    o.responses.filterMap (·.type)

theorem references_contentOf (type : String) (contentType : Option String) :
    (contentOf type contentType).references = (lowerType type).references := by
  simp [contentOf, Content.references]

theorem exists_of_mem_references_operationOf {o : TypeSpec.Operation} {ref : String}
    (h : ref ∈ (operationOf o).references) :
    ∃ type ∈ mentionedTypes o, ref ∈ (lowerType type).references := by
  simp only [mentionedTypes, List.mem_append, List.mem_map, List.mem_filterMap, Option.mem_toList]
  rcases List.mem_append.1 h with h | h
  · obtain ⟨p, hp, href⟩ := List.mem_flatMap.1 h
    obtain ⟨q, hq, rfl⟩ := List.mem_map.1 hp
    exact ⟨q.type, Or.inl (Or.inl ⟨q, hq, rfl⟩), href⟩
  · rcases List.mem_append.1 h with h | h
    · cases hbody : o.requestBody with
      | none => simp [operationOf, hbody] at h
      | some b =>
          simp only [operationOf, hbody, requestBodyOf, Option.map_some, Option.getD_some,
            references_contentOf] at h
          exact ⟨b.type, Or.inl (Or.inr ⟨b, rfl, rfl⟩), h⟩
    · obtain ⟨entry, hentry, href⟩ := List.mem_flatMap.1 h
      obtain ⟨r, hr, rfl⟩ := List.mem_map.1 (Entries.mem_ofList hentry)
      cases htype : r.type with
      | none => simp [responseOf, htype] at href
      | some type =>
          refine ⟨type, Or.inr ⟨r, hr, htype⟩, ?_⟩
          simp only [responseOf, htype] at href
          split at href
          · cases href
          · simpa [references_contentOf] using href

theorem references_pascalCase {t : String} (h : BareName (pascalCase t)) :
    (lowerType (pascalCase t)).references = [reference (pascalCase t)] := by
  rw [lowerType_pascalCase h]
  rfl

theorem references_pascalCase_array {t : String} (h : BareName (pascalCase t)) :
    (lowerType (pascalCase t ++ "[]")).references = [reference (pascalCase t)] := by
  rw [lowerType_pascalCase_array, lowerType_pascalCase h]
  rfl

theorem mentionedTypes_operationsFor (type : String) :
    (Conversion.operationsFor type).flatMap mentionedTypes ⊆
      ["string", pascalCase type, pascalCase type ++ "[]"] := by
  have htypes : (Conversion.operationsFor type).flatMap mentionedTypes =
      [pascalCase type ++ "[]", "string", pascalCase type, pascalCase type, pascalCase type,
        "string", pascalCase type, pascalCase type, "string"] :=
    rfl
  rw [htypes]
  simp

/-- The operations of a resource type refer to its model only. -/
theorem eq_of_mem_references_operationsFor {type ref : String} (h : BareName (pascalCase type))
    {o : TypeSpec.Operation} (ho : o ∈ Conversion.operationsFor type)
    (href : ref ∈ (operationOf o).references) : ref = reference (pascalCase type) := by
  obtain ⟨mentioned, hmentioned, href⟩ := exists_of_mem_references_operationOf href
  have hcases := mentionedTypes_operationsFor type (List.mem_flatMap.2 ⟨o, ho, hmentioned⟩)
  simp only [List.mem_cons, List.not_mem_nil, or_false] at hcases
  rcases hcases with rfl | rfl | rfl
  · have hnone : (lowerType "string").references = [] := by decide +kernel
    rw [hnone] at href
    cases href
  · simpa [references_pascalCase h] using href
  · simpa [references_pascalCase_array h] using href

/-! ## References of components -/

theorem references_with_nullable (s : Schema) (nullable : Bool) :
    Schema.references { s with nullable } = s.references := by
  obtain ⟨ref, type, format, description, enum, items, nullable⟩ := s
  cases items <;> rfl

theorem references_propertySchema (p : TypeSpec.Property) :
    (propertySchema p).references = (lowerType p.type).references := by
  unfold propertySchema
  obtain ⟨ref, type, format, description, enum, items, nullable⟩ := lowerType p.type
  cases items <;> rfl

/-- An attribute whose enumeration, if there is one, is no single value refers to nothing. -/
theorem references_attributeProperty {a : Conversion.LooseAttribute}
    (h : ∀ values ∈ a.enum, values.length ≠ 1) :
    (propertySchema (Conversion.attributeProperty a)).references = [] := by
  rw [references_propertySchema, lowerType_attributeProperty, references_with_nullable]
  rcases attributeType_eq a with ⟨values, henum, hne, htype⟩ | hmem
  · have hlength := List.length_pos_iff.2 hne
    have hmany : 2 ≤ values.length := by
      have hone := h values henum
      omega
    rw [htype, lowerType, lowerExpr_of_splitNull (splitNull_of_plain (plain_literalUnion hne)),
      if_pos (isUnion_literalUnion hmany)]
    rfl
  · have htable : ∀ type ∈ Conversion.simpleTypes ++ Conversion.simpleTypes.map (· ++ "[]"),
        (lowerType type).references = [] := by
      decide +kernel
    exact htable _ hmem

/-- The target that the reference of a relationship names. -/
def shownTarget (r : JsonApi.Relationship) : String :=
  if LosesNull r then "| null" else pascalCase r.resource

theorem references_relationshipProperty {r : JsonApi.Relationship}
    (h : BareName (pascalCase r.resource)) :
    (propertySchema (Conversion.relationshipProperty r)).references =
      [reference (shownTarget r)] := by
  rw [references_propertySchema]
  unfold shownTarget
  split
  · next hloses =>
    rw [lowerType_of_losesNull hloses]
    rfl
  · next hkeeps =>
    rw [lowerType_relationshipProperty hkeeps, references_with_nullable]
    unfold relationshipType
    split
    · exact references_pascalCase_array h
    · exact references_pascalCase h

end OpenApi

namespace Conversion

open JsonApi TypeSpec

open OpenApi (BareName Document LosesNull ObjectSchema Server generate modelSchema pathsOf reference
  schemasOf shownTarget targetName)

/-! ## The targets without a serializer -/

/-- A schema whose serializers and members can be told apart, without enumerations of one value, and
whose names of models read as names. -/
@[mk_iff]
structure Referable (s : Schema) : Prop where
  members : ∀ t ∈ s.serializers, t.resource.memberNames.Nodup
  models : (s.serializers.map modelName).Nodup
  enums : ∀ t ∈ s.serializers, ∀ a ∈ t.resource.attributes, ∀ values ∈ a.enum, values.length ≠ 1
  types : ∀ t ∈ s.serializers, BareName (pascalCase t.resource.type)
  targets : ∀ t ∈ s.serializers, ∀ r ∈ t.resource.relationships, BareName (pascalCase r.resource)

instance (s : Schema) : Decidable (Referable s) :=
  decidable_of_iff' _ (referable_iff s)

/-- The relationships of all serializers, in their order. -/
def allRelationships (s : Schema) : List Relationship :=
  s.serializers.flatMap (·.resource.relationships)

/-- The references to targets that no serializer describes, each once. -/
def missingTargets (s : Schema) : List String :=
  (((allRelationships s).filter fun r => pascalCase r.resource ∉ s.serializers.map modelName).map
    fun r => reference (pascalCase r.resource)).eraseDups

theorem references_component {t : Serializer} (hnames : t.resource.memberNames.Nodup)
    (henums : ∀ a ∈ t.resource.attributes, ∀ values ∈ a.enum, values.length ≠ 1)
    (htargets : ∀ r ∈ t.resource.relationships, BareName (pascalCase r.resource)) :
    (modelSchema (modelOf true (t.mapKind AttributeKind.name))).references =
      t.resource.relationships.map fun r => reference (shownTarget r) := by
  have hdistinct := nodup_properties_modelOf hnames true
  unfold modelSchema ObjectSchema.references
  rw [Entries.ofList_of_nodup (by rwa [List.map_map]), properties_modelOf, if_pos rfl,
    List.flatMap_map, List.flatMap_append, List.flatMap_map, List.flatMap_map]
  have hattributes : t.resource.attributes.flatMap (fun a => (OpenApi.propertySchema
      (attributeProperty (a.mapKind AttributeKind.name))).references) = [] := by
    rw [List.flatMap_eq_nil_iff]
    exact fun a ha => OpenApi.references_attributeProperty (henums a ha)
  have hrelationships : t.resource.relationships.flatMap (fun r => (OpenApi.propertySchema
      (relationshipProperty r)).references) =
        t.resource.relationships.map fun r => reference (shownTarget r) := by
    rw [List.map_eq_flatMap]
    apply List.flatMap_congr
    exact fun r hr => OpenApi.references_relationshipProperty (htargets r hr)
  rw [hattributes, hrelationships, List.nil_append]

section

variable {s : Schema} (h : Referable s) {options : Options}
  (hrelationships : options.withRelationships = true) (servers : Option (List Server))

include h

theorem schemasOf_definitionOfSchema :
    schemasOf (definitionOfSchema s options).data =
      s.serializers.map fun t =>
        (modelName t, modelSchema
          (modelOf options.withRelationships (t.mapKind AttributeKind.name))) := by
  unfold schemasOf
  rw [models_definitionOfSchema, List.map_map]
  apply Entries.ofList_of_nodup
  rw [List.map_map]
  exact h.models

/-- The paths refer to the models of serializers only. -/
theorem targetName_mem_of_mem_paths {ref : String}
    (href : ref ∈ (pathsOf (definitionOfSchema s options).data).flatMap
      fun path => path.2.flatMap (·.2.references)) :
    targetName ref ∈ s.serializers.map modelName := by
  obtain ⟨path, hpath, href⟩ := List.mem_flatMap.1 href
  obtain ⟨entry, hentry, href⟩ := List.mem_flatMap.1 href
  rw [OpenApi.pathsOf_eq] at hpath
  obtain ⟨o, ho, hoperation⟩ : ∃ o ∈ (definitionOfSchema s options).data.namespaces.flatMap
      (·.operations), entry.2 = OpenApi.operationOf o := by
    rcases OpenApi.exists_of_mem_writeOperations hpath hentry with ⟨before, hbefore, -⟩ | h
    · cases hbefore
    · exact h
  obtain ⟨t, ht, ho⟩ : ∃ t ∈ s.serializers, o ∈ operationsFor t.resource.type := by
    cases hwanted : options.withOperations with
    | true =>
        simpa [definitionOfSchema, assemble, hwanted, SerializerOf.mapKind, ResourceOf.mapKind]
          using ho
    | false => simp [definitionOfSchema, assemble, hwanted] at ho
  rw [hoperation] at href
  rw [OpenApi.eq_of_mem_references_operationsFor (h.types t ht) ho href,
    OpenApi.targetName_reference]
  exact List.mem_map.2 ⟨t, ht, rfl⟩

include hrelationships

theorem unresolvedReferences_definitionOfSchema :
    (generate (definitionOfSchema s options).data servers).unresolvedReferences =
      (((allRelationships s).filter fun r => shownTarget r ∉ s.serializers.map modelName).map
        fun r => reference (shownTarget r)).eraseDups := by
  have hkeys : (schemasOf (definitionOfSchema s options).data).keys =
      s.serializers.map modelName := by
    rw [schemasOf_definitionOfSchema h, Entries.keys, List.map_map]
    rfl
  have hcomponents : (schemasOf (definitionOfSchema s options).data).flatMap (·.2.references) =
      (allRelationships s).map fun r => reference (shownTarget r) := by
    rw [schemasOf_definitionOfSchema h, hrelationships, List.flatMap_map, allRelationships,
      List.map_flatMap]
    apply List.flatMap_congr
    exact fun t ht => references_component (h.members t ht) (h.enums t ht) (h.targets t ht)
  have hpaths : ((pathsOf (definitionOfSchema s options).data).flatMap
      fun path => path.2.flatMap (·.2.references)).filter
        (fun ref => targetName ref ∉ s.serializers.map modelName) = [] := by
    rw [List.filter_eq_nil_iff]
    intro ref href
    simpa using targetName_mem_of_mem_paths h href
  rw [OpenApi.unresolvedReferences_eq]
  change (((pathsOf _).flatMap _ ++ (schemasOf _).flatMap _).filter
    fun ref => targetName ref ∉ (schemasOf _).keys).eraseDups = _
  rw [hkeys, List.filter_append, hpaths, hcomponents, List.nil_append, List.filter_map]
  simp only [Function.comp_def, OpenApi.targetName_reference]

end

/-- The name of a null is no model's. -/
theorem pascalCase_ne_null (t : String) : pascalCase t ≠ "| null" := by
  intro hname
  have hspace : Text.isBlank ' ' = false := Name.pascalCase_no_blank t ' ' (by rw [hname]; decide)
  cases hspace

theorem shownTarget_mem_iff (s : Schema) (r : Relationship) :
    shownTarget r ∈ s.serializers.map modelName ↔
      ¬ LosesNull r ∧ pascalCase r.resource ∈ s.serializers.map modelName := by
  unfold shownTarget
  split
  · next hloses =>
    refine iff_of_false ?_ fun h => h.1 hloses
    intro hmem
    obtain ⟨t, -, hname⟩ := List.mem_map.1 hmem
    exact pascalCase_ne_null _ hname
  · next hkeeps => simp [hkeeps]

/-- The unresolved references are those to missing targets exactly if no relationship loses its
null, and there are none exactly if, besides, a serializer describes each target. -/
theorem unresolvedReferences_eq_missingTargets_iff {s : Schema} (h : Referable s)
    {options : Options} (hrelationships : options.withRelationships = true)
    (servers : Option (List Server)) :
    ((generate (definitionOfSchema s options).data servers).unresolvedReferences =
        missingTargets s ↔ ∀ r ∈ allRelationships s, ¬ LosesNull r) ∧
      ((generate (definitionOfSchema s options).data servers).unresolvedReferences = [] ↔
        ∀ r ∈ allRelationships s,
          ¬ LosesNull r ∧ pascalCase r.resource ∈ s.serializers.map modelName) := by
  rw [unresolvedReferences_definitionOfSchema h hrelationships]
  refine ⟨⟨?_, ?_⟩, ?_⟩
  · intro hequal r hr hloses
    -- The reference that names the null would have to name a target.
    have hshown : shownTarget r = "| null" := if_pos hloses
    have hmem : reference "| null" ∈ missingTargets s := by
      rw [← hequal, List.mem_eraseDups, List.mem_map]
      refine ⟨r, List.mem_filter.2 ⟨hr, ?_⟩, by rw [hshown]⟩
      rw [decide_eq_true_eq, shownTarget_mem_iff]
      exact fun hdescribed => hdescribed.1 hloses
    obtain ⟨target, -, href⟩ := List.mem_map.1 (List.mem_eraseDups.1 hmem)
    have hname := congrArg targetName href
    rw [OpenApi.targetName_reference, OpenApi.targetName_reference] at hname
    exact pascalCase_ne_null _ hname
  · intro hkeeps
    have hshown : ∀ r ∈ allRelationships s, shownTarget r = pascalCase r.resource :=
      fun r hr => if_neg (hkeeps r hr)
    have hmissing : ((allRelationships s).filter
        fun r => shownTarget r ∉ s.serializers.map modelName) =
          (allRelationships s).filter
            fun r => pascalCase r.resource ∉ s.serializers.map modelName :=
      List.filter_congr fun r hr => by rw [hshown r hr]
    unfold missingTargets
    rw [hmissing]
    apply congrArg List.eraseDups
    apply List.map_congr_left
    intro r hr
    rw [hshown r (List.mem_filter.1 hr).1]
  · simp only [← shownTarget_mem_iff]
    rw [List.eq_nil_iff_forall_not_mem]
    constructor
    · intro hnone r hr
      by_contra hmissing
      apply hnone (reference (shownTarget r))
      rw [List.mem_eraseDups, List.mem_map]
      exact ⟨r, List.mem_filter.2 ⟨hr, decide_eq_true hmissing⟩, rfl⟩
    · intro hall ref href
      obtain ⟨r, hr, -⟩ := List.mem_map.1 (List.mem_eraseDups.1 href)
      obtain ⟨hr, hmissing⟩ := List.mem_filter.1 hr
      exact of_decide_eq_true hmissing (hall r hr)

theorem unresolvedReferences_bookSchema :
    Referable (bookSchema "shelves") ∧
      (generate (definitionOfSchema (bookSchema "shelves")
          { Options.default with withOperations := true }).data none).unresolvedReferences =
        ["#/components/schemas/Shelves", "#/components/schemas/"] := by
  have hreferable : Referable (bookSchema "shelves") := by decide
  have hkeeps : ∀ r ∈ allRelationships (bookSchema "shelves"), ¬ LosesNull r := by decide
  refine ⟨hreferable, ((unresolvedReferences_eq_missingTargets_iff hreferable rfl none).1.2
    hkeeps).trans ?_⟩
  decide

/-- The null of a relationship to a type without words is taken for a target. -/
theorem null_becomes_unresolved_reference :
    Referable (bookSchema "_") ∧ missingTargets (bookSchema "_") = ["#/components/schemas/"] ∧
      (generate (definitionOfSchema (bookSchema "_") .default).data none).unresolvedReferences =
        ["#/components/schemas/| null", "#/components/schemas/"] := by
  decide +kernel

end Conversion

end ApiShapes
