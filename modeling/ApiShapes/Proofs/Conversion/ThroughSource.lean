import ApiShapes.Conversion.Definition
import ApiShapes.Proofs.Name.ModelName
import ApiShapes.Proofs.OpenApi.Outline
import ApiShapes.Proofs.TypeSpec.Roundtrip
import Mathlib.Tactic

/-!
# Two routes to a document

A schema becomes an OpenAPI document by way of its definition, or by way of the source of that
definition.  The source says all that the outline of the document depends on: every type that an
attribute or a relationship becomes stands on its line as it is, and what operations and decorators
add is read as nothing.
-/

namespace ApiShapes.Conversion

open JsonApi Name Text TypeExpr TypeSpec

open OpenApi (Server generate textOr)

/-! ## Schemas whose source can be read back -/

/-- A name that can stand before the colon of a property. -/
@[mk_iff]
structure PrintableName (name : String) : Prop where
  filled : name ≠ ""
  noBlank : ∀ c ∈ name.toList, isBlank c = false
  noColon : ':' ∉ name.toList
  noMark : ¬ ['?'] <:+ name.toList
  noLineComment : ¬ "//".toList <+: name.toList
  noBlockComment : ¬ "/*".toList <+: name.toList
  noService : ¬ "@service(".toList <+: name.toList

@[mk_iff]
structure PrintableAttribute (a : Attribute) : Prop where
  name : PrintableName a.name
  enum : ∀ values ∈ a.enum, ∀ v ∈ values, OneLine v.toList
  description : LegibleComment a.description

@[mk_iff]
structure PrintableRelationship (r : Relationship) : Prop where
  name : PrintableName r.name
  target : IsResourceName r.resource
  description : LegibleComment r.description

@[mk_iff]
structure PrintableSerializer (s : Serializer) : Prop where
  type : IsResourceName s.resource.type
  attributes : ∀ a ∈ s.resource.attributes, PrintableAttribute a
  relationships : ∀ r ∈ s.resource.relationships, PrintableRelationship r
  description : LegibleComment s.description
  resourceDescription : LegibleComment s.resource.description

/-- A text that can be a title or a version in a service block. -/
@[mk_iff]
structure PrintableText (s : String) : Prop where
  balanced : s.toList.count '(' = s.toList.count ')'
  oneLine : OneLine s.toList

@[mk_iff]
structure PrintableSchema (s : Schema) : Prop where
  serializers : ∀ t ∈ s.serializers, PrintableSerializer t
  title : ∀ t ∈ s.title, PrintableText t
  title_end : ∀ t ∈ s.title, ¬ "version:".toList <:+ trimEnd t.toList
  version : ∀ v ∈ s.version, PrintableText v

instance (name : String) : Decidable (PrintableName name) :=
  decidable_of_iff' _ (printableName_iff name)

instance (a : Attribute) : Decidable (PrintableAttribute a) :=
  decidable_of_iff' _ (printableAttribute_iff a)

instance (r : Relationship) : Decidable (PrintableRelationship r) :=
  decidable_of_iff' _ (printableRelationship_iff r)

instance (s : Serializer) : Decidable (PrintableSerializer s) :=
  decidable_of_iff' _ (printableSerializer_iff s)

instance (s : String) : Decidable (PrintableText s) :=
  decidable_of_iff' _ (printableText_iff s)

instance (s : Schema) : Decidable (PrintableSchema s) :=
  decidable_of_iff' _ (printableSchema_iff s)

/-! ## Types -/

/-- A type that stands on its line as it is. -/
@[mk_iff]
structure StandsAlone (type : String) : Prop where
  filled : type ≠ ""
  trimmed : trim type.toList = type.toList
  oneLine : OneLine type.toList

instance (type : String) : Decidable (StandsAlone type) :=
  decidable_of_iff' _ (standsAlone_iff type)

theorem oneLine_append {s t : String} (hs : OneLine s.toList) (ht : OneLine t.toList) :
    OneLine (s ++ t).toList := by
  rw [String.toList_append]
  exact hs.append ht

theorem StandsAlone.withNull {type : String} (h : StandsAlone type) (nullable : Bool) :
    StandsAlone (withNull nullable type) := by
  cases nullable with
  | false => exact h
  | true =>
      refine ⟨?_, trim_makeNullable h.trimmed h.filled, oneLine_append h.oneLine (by decide)⟩
      intro hempty
      have hlength := congrArg String.length hempty
      simp [Conversion.withNull, makeNullable] at hlength

theorem standsAlone_typeOfKind (kind : String) (items : Option String) :
    StandsAlone (typeOfKind kind items) := by
  have htable : ∀ type ∈ simpleTypes ++ simpleTypes.map (· ++ "[]"), StandsAlone type := by
    decide
  exact htable _ (typeOfKind_mem kind items)

theorem standsAlone_literalUnion {values : List String} (hne : values ≠ [])
    (hvalues : ∀ v ∈ values, OneLine v.toList) : StandsAlone (literalUnion values) where
  filled := literalUnion_ne_empty hne
  trimmed := (plain_literalUnion hne).trim
  oneLine := by
    rw [toList_literalUnion]
    apply OneLine.intercalate
    · decide
    · intro part hpart
      rw [List.map_map] at hpart
      obtain ⟨v, hv, rfl⟩ := List.mem_map.1 hpart
      have hquote : OneLine ['"'] := by decide
      exact hquote.append ((hvalues v hv).append hquote)

theorem standsAlone_attributeType {a : LooseAttribute}
    (h : ∀ values ∈ a.enum, ∀ v ∈ values, OneLine v.toList) : StandsAlone (attributeType a) := by
  unfold attributeType
  split
  · next v vs henum => exact standsAlone_literalUnion (by simp) (h _ henum)
  · apply standsAlone_typeOfKind

/-- A text without blanks stands on its line as it is. -/
theorem standsAlone_of_no_blank {type : String} (hne : type ≠ "")
    (h : ∀ c ∈ type.toList, isBlank c = false) : StandsAlone type :=
  ⟨hne, trim_of_no_blank h, OneLine.of_no_blank h⟩

theorem plainName_pascalCase {t : String} (h : IsResourceName t) : PlainName (pascalCase t) where
  filled := h.pascalCase_ne_empty
  noBlank := fun c hc => (isAlphanumeric_of_mem c (h.mem_pascalCase c hc)).2.1
  noBrace := by
    intro hbrace
    have hnot : '\x7b' ∉ nameLetters := by decide
    exact hnot (h.mem_pascalCase _ hbrace)

theorem standsAlone_reference {target : String} (h : IsResourceName target) :
    StandsAlone (pascalCase target) ∧ StandsAlone (pascalCase target ++ "[]") := by
  have hname := plainName_pascalCase h
  refine ⟨standsAlone_of_no_blank hname.filled hname.noBlank, standsAlone_of_no_blank ?_ ?_⟩
  · intro hempty
    have hlength := congrArg String.length hempty
    simp at hlength
  · intro c hc
    rw [String.toList_append, List.mem_append] at hc
    rcases hc with hc | hc
    · exact hname.noBlank c hc
    · have hbrackets : ∀ c ∈ "[]".toList, isBlank c = false := by decide
      exact hbrackets c hc

/-! ## Models -/

theorem PrintableName.property_plain {p : Property} (h : PrintableName p.name)
    (htype : StandsAlone p.type) (hcomment : LegibleComment p.description) : p.Plain :=
  { h with
    type_trim := htype.trimmed
    type_oneLine := htype.oneLine
    comment := hcomment }

theorem PrintableAttribute.property_plain {a : Attribute} (h : PrintableAttribute a) :
    (attributeProperty (a.mapKind AttributeKind.name)).Plain :=
  h.name.property_plain ((standsAlone_attributeType h.enum).withNull _) h.description

theorem PrintableRelationship.property_plain {r : Relationship} (h : PrintableRelationship r) :
    (relationshipProperty r).Plain := by
  obtain ⟨hone, hmany⟩ := standsAlone_reference h.target
  apply h.name.property_plain
  · apply StandsAlone.withNull
    split
    · exact hmany
    · exact hone
  · exact h.description

theorem legibleComment_firstGiven {s t : Option String} (hs : LegibleComment s)
    (ht : LegibleComment t) : LegibleComment (firstGiven [s, t]) := by
  cases s with
  | none => exact ht
  | some u =>
      unfold firstGiven
      split
      · exact ht
      · exact hs

theorem PrintableSerializer.model_plain {s : Serializer} (h : PrintableSerializer s)
    (withRelationships : Bool) :
    (modelOf withRelationships (s.mapKind AttributeKind.name)).Plain where
  name := plainName_pascalCase h.type
  bases := by
    intro b hb
    cases hb
  properties := by
    intro p hp
    rcases List.mem_append.1 hp with hp | hp
    · obtain ⟨a, ha, rfl⟩ := List.mem_map.1 hp
      obtain ⟨b, hb, rfl⟩ := List.mem_map.1 ha
      exact (h.attributes b hb).property_plain
    · split at hp
      · obtain ⟨r, hr, rfl⟩ := List.mem_map.1 hp
        exact (h.relationships r hr).property_plain
      · cases hp
  comment := legibleComment_firstGiven h.description h.resourceDescription
  decorators := by
    change ∀ d ∈ [(⟨"discriminator", [.text "type"]⟩ : Decorator)], d.Plain
    decide

/-! ## Operations -/

/-- The boundaries that a literal lets through do not occur within a line. -/
theorem not_mem_literalBoundaries {s : List Char} (h : OneLine s) :
    ∀ c ∈ s, c ∉ literalBoundaries := by
  have hboundary : ∀ b ∈ literalBoundaries, isLineBoundary b = true := by decide
  intro c hc hmem
  have hnone := h c hc
  rw [hboundary c hmem] at hnone
  cases hnone

section

variable {resourceType : String} (h : IsResourceName resourceType)

include h

theorem oneLine_resourceName : OneLine resourceType.toList := by
  have hletters : ∀ c ∈ nameLetters, isLineBoundary c = false := by decide
  have hseparators : ∀ c ∈ ['_', '-'], isLineBoundary c = false := by decide
  intro c hc
  rcases h.letters c hc with hletter | hseparator
  · exact hletters c ((isNameLetter_iff c).1 hletter)
  · exact hseparators c hseparator

theorem oneLine_itemPath : OneLine (itemPath resourceType).toList :=
  oneLine_append (oneLine_append (by decide) (oneLine_resourceName h)) (by decide)

theorem plain_collectionOperation {name : String} (hname : OneLine name.toList) (method : Method)
    (body : Option RequestBody) {responses : List Response}
    (hresponses : ∀ r ∈ responses, ∀ type ∈ r.type, OneLine type.toList) {description : String}
    (hdescription : OneLine description.toList) :
    (collectionOperation resourceType name method body responses description).Plain where
  name := hname
  path := not_mem_literalBoundaries (oneLine_append (by decide) (oneLine_resourceName h))
  parameters := by
    intro p hp
    cases hp
  responses := hresponses
  comment := by
    rintro s ⟨⟩
    exact hdescription
  decorators := by
    intro d hd
    cases hd

theorem plain_itemOperation {name : String} (hname : OneLine name.toList) (method : Method)
    (body : Option RequestBody) {responses : List Response}
    (hresponses : ∀ r ∈ responses, ∀ type ∈ r.type, OneLine type.toList) {description : String}
    (hdescription : OneLine description.toList) :
    (itemOperation resourceType name method body responses description).Plain where
  name := hname
  path := not_mem_literalBoundaries (oneLine_itemPath h)
  parameters := by
    intro p hp
    obtain rfl := List.mem_singleton.1 hp
    have htexts : OneLine "id".toList ∧ OneLine "string".toList := by decide
    exact htexts
  responses := hresponses
  comment := by
    rintro s ⟨⟩
    exact hdescription
  decorators := by
    intro d hd
    cases hd

theorem plain_operationsFor : ∀ o ∈ operationsFor resourceType, o.Plain := by
  have hmodel : OneLine (pascalCase resourceType).toList :=
    OneLine.of_no_blank (plainName_pascalCase h).noBlank
  have hname : ∀ verb : String, OneLine verb.toList →
      OneLine (verb ++ pascalCase resourceType).toList :=
    fun verb hverb => oneLine_append hverb hmodel
  have hdescription : ∀ start finish : String, OneLine start.toList → OneLine finish.toList →
      OneLine (start ++ resourceType ++ finish).toList :=
    fun start finish hstart hfinish =>
      oneLine_append (oneLine_append hstart (oneLine_resourceName h)) hfinish
  unfold operationsFor
  simp only [List.forall_mem_cons, List.not_mem_nil, false_implies, implies_true, and_true]
  refine ⟨?_, ?_, ?_, ?_, ?_⟩
  · apply plain_collectionOperation h (hname _ (by decide))
    · intro r hr type htype
      obtain rfl := List.mem_singleton.1 hr
      cases htype
      exact oneLine_append hmodel (by decide)
    · exact hdescription _ _ (by decide) (by decide)
  · apply plain_itemOperation h (hname _ (by decide))
    · simpa [response, notFound] using hmodel
    · exact hdescription _ _ (by decide) (by decide)
  · apply plain_collectionOperation h (hname _ (by decide))
    · simpa [response] using hmodel
    · exact hdescription _ _ (by decide) (by decide)
  · apply plain_itemOperation h (hname _ (by decide))
    · simpa [response, notFound] using hmodel
    · exact hdescription _ _ (by decide) (by decide)
  · apply plain_itemOperation h (hname _ (by decide))
    · simp [response, notFound]
    · exact hdescription _ _ (by decide) (by decide)

end

/-! ## Definitions -/

/-- Options that decide what is converted, and name nothing. -/
def Options.flags (withOperations withRelationships : Bool) : Options :=
  ⟨none, none, none, none, withOperations, withRelationships⟩

theorem firstGiven_default (default : String) (s : Option String) :
    firstGiven [s, some default] = some (textOr default s) := by
  cases s with
  | none => rfl
  | some t =>
      by_cases ht : t = ""
      · subst ht
        rfl
      · simp [firstGiven, textOr, ht]

theorem PrintableText.fitsService {s : String} (h : PrintableText s) : FitsService s :=
  ⟨h.balanced, not_mem_literalBoundaries h.oneLine⟩

/-- What holds of the default and of a given text holds of the text that is taken. -/
theorem textOr_forall {P : String → Prop} {default : String} (hdefault : P default)
    {s : Option String} (hs : ∀ t ∈ s, P t) : P (textOr default s) := by
  cases s with
  | none => exact hdefault
  | some t =>
      rw [OpenApi.textOr_some]
      split
      · exact hdefault
      · exact hs t rfl

section

variable {s : Schema} (withOperations withRelationships : Bool)

theorem title_definitionOfSchema :
    (definitionOfSchema s (.flags withOperations withRelationships)).data.title =
      some (textOr defaultTitle s.title) :=
  firstGiven_default defaultTitle s.title

theorem version_definitionOfSchema :
    (definitionOfSchema s (.flags withOperations withRelationships)).data.version =
      some (textOr defaultVersion s.version) :=
  firstGiven_default defaultVersion s.version

variable (h : PrintableSchema s)

include h

theorem PrintableSchema.namespaces_plain :
    ∀ n ∈ (definitionOfSchema s (.flags withOperations withRelationships)).data.namespaces,
      n.Plain := by
  have hkept : ∀ t ∈ (s.serializers.map fun t =>
      (some (t.mapKind AttributeKind.name), ([] : List Warning))).filterMap (·.1),
        ∃ u, PrintableSerializer u ∧ u.mapKind AttributeKind.name = t := by
    intro t ht
    obtain ⟨result, hresult, hsome⟩ := List.mem_filterMap.1 ht
    obtain ⟨u, hu, rfl⟩ := List.mem_map.1 hresult
    exact ⟨u, h.serializers u hu, Option.some.inj hsome⟩
  intro n hn
  obtain rfl := List.mem_singleton.1 hn
  refine ⟨?_, ?_, ?_, by simp, by simp [LegibleComment]⟩
  · change PlainName defaultNamespace
    decide
  · intro m hm
    obtain ⟨t, ht, rfl⟩ := List.mem_map.1 hm
    obtain ⟨u, hu, rfl⟩ := hkept t ht
    exact hu.model_plain withRelationships
  · intro o ho
    cases withOperations with
    | false => cases ho
    | true =>
        obtain ⟨t, ht, ho⟩ := List.mem_flatMap.1 ho
        obtain ⟨u, hu, rfl⟩ := hkept t ht
        exact plain_operationsFor hu.type o ho

theorem PrintableSchema.definition_plain :
    (definitionOfSchema s (.flags withOperations withRelationships)).data.Plain where
  namespaces := h.namespaces_plain withOperations withRelationships
  imports := by
    change ∀ path ∈ importedLibraries, LegibleImport path
    decide
  title := by
    rw [title_definitionOfSchema]
    rintro t ⟨⟩
    exact textOr_forall (by decide) fun t ht => (h.title t ht).fitsService
  title_end := by
    rw [title_definitionOfSchema]
    rintro t ⟨⟩
    exact textOr_forall (by decide) h.title_end
  version := by
    rw [version_definitionOfSchema]
    rintro t ⟨⟩
    exact textOr_forall (by decide) fun t ht => (h.version t ht).fitsService

/-- By way of its source, the definition of a schema is lowered to the outline of its document. -/
theorem generate_through_source (servers : Option (List Server)) :
    ∃ d, Definition.read (definitionOfSchema s (.flags withOperations withRelationships)).data.source =
        .valid d ∧
      generate d servers =
        (generate (definitionOfSchema s (.flags withOperations withRelationships)).data
          servers).outline := by
  have hplain := h.definition_plain withOperations withRelationships
  refine ⟨_, read_source (hplain.legible (List.nodup_singleton _)),
    OpenApi.generate_kept ?_ servers⟩
  rw [title_definitionOfSchema, OpenApi.filled_of_ne_empty (OpenApi.textOr_ne_empty (by decide) _)]
  simp

end

/-- A schema with enumerated values that hold a separator, an array of arrays, and a resource that
has no serializer. -/
def shelfSchema : Schema :=
  { serializers :=
      [{ name := "ShelfSerializer"
         resource :=
          { type := "Book-shelves"
            attributes :=
              [⟨"label", .string, some true, some "as printed", none, some ["A | B", "\"C\""], none⟩,
                ⟨"grid", .array, none, none, none, none, some .array⟩,
                ⟨"load", .number, some true, none, some "kg", none, none⟩]
            relationships := [⟨"books", .hasMany, "library_books", none, some "on it", none⟩]
            description := some "A shelf."
            metadata := none }
         version := none
         ofNamespace := none
         description := none
         metadata := none }]
    title := some "Shelves (all)"
    version := none
    description := some "never written"
    metadata := none }

theorem generate_through_source_shelfSchema :
    PrintableSchema shelfSchema ∧
      ∃ d, Definition.read (definitionOfSchema shelfSchema (.flags true true)).data.source =
          .valid d ∧
        generate d none =
          (generate (definitionOfSchema shelfSchema (.flags true true)).data none).outline := by
  have hprintable : PrintableSchema shelfSchema := by decide
  exact ⟨hprintable, generate_through_source true true hprintable none⟩

end ApiShapes.Conversion
