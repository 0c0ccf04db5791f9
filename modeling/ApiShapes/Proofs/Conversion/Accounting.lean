import ApiShapes.Proofs.Conversion.MemberAccount
import ApiShapes.Proofs.TypeSpec.NamespaceMerge
import Mathlib.Tactic

/-!
# Accounts of documents

Any document is converted: nothing in it makes the conversion fail, and without a list of
serializers the result is empty and says so.  Each entry of the list becomes a model or is reported,
and each member of a model's resource becomes a property or is reported as skipped.
-/

namespace ApiShapes.Conversion

open JsonApi Shape TypeSpec

/-! ## The properties of one resource -/

/-- The properties of the attributes of a resource that can be read, in their order. -/
def attributeProperties (resource : Value) : List Property :=
  readable looseAttributeShape attributeProperty (listed "attributes" resource)

def relationshipProperties (resource : Value) : List Property :=
  readable Relationship.shape relationshipProperty (listed "relationships" resource)

/-- The properties and warnings that the members of a resource lead to. -/
structure Accounts (resource : Value) (properties : List Property) (warnings : List Warning) :
    Prop where
  names : (properties.map (·.name)).Nodup
  groups : ∃ attributes relationships, properties = attributes ++ relationships ∧
    attributes.Sublist (attributeProperties resource) ∧
    relationships.Sublist (relationshipProperties resource)
  first : ∀ name, properties.find? (·.name = name) =
    (attributeProperties resource ++ relationshipProperties resource).find? (·.name = name)
  count : (listed "attributes" resource).length + (listed "relationships" resource).length =
    properties.length + warnings.countP Warning.isSkip

theorem Accounts.report {resource : Value} {properties : List Property} {warnings : List Warning}
    (h : Accounts resource properties warnings) {before after : List Warning}
    (hbefore : before.countP Warning.isSkip = 0) (hafter : after.countP Warning.isSkip = 0) :
    Accounts resource properties (before ++ warnings ++ after) where
  names := h.names
  groups := h.groups
  first := h.first
  count := by
    rw [List.countP_append, List.countP_append, h.count]
    omega

theorem salvageMembers_account (name type : String) (raw resource : Value) :
    ∃ s warnings, salvageMembers name type raw resource = .valid (s, warnings) ∧
      s.resource.type = type ∧ Accounts resource (modelOf true s).properties warnings := by
  have hattributeName : ∀ a, (attributeProperty a).name = a.name := fun _ => rfl
  have hrelationshipName : ∀ r, (relationshipProperty r).name = r.name := fun _ => rfl
  obtain ⟨as, has, hasMembers, hasSeen, hasCount⟩ :=
    salvageGroup_account salvages_attribute hattributeName .attributes name resource []
  obtain ⟨rs, hrs, hrsMembers, -, hrsCount⟩ :=
    salvageGroup_account salvages_relationship hrelationshipName .relationships name resource
      as.seen
  have hattributes : as.members.map attributeProperty =
      firstOfEachName (attributeProperties resource) := by
    rw [hasMembers, List.filter_eq_self.2 (by simp)]
    rfl
  have hrelationships : rs.members.map relationshipProperty =
      firstOfEachName ((relationshipProperties resource).filter
        fun p => p.name ∉ (attributeProperties resource).map (·.name)) := by
    rw [hrsMembers]
    congr 1
    apply List.filter_congr
    intro p _
    have hseen := hasSeen p.name
    rw [hattributes, mem_names_firstOfEachName] at hseen
    simp [hseen]
  have hproperties : as.members.map attributeProperty ++ rs.members.map relationshipProperty =
      firstOfEachName (attributeProperties resource ++ relationshipProperties resource) := by
    rw [firstOfEachName_append, hattributes, hrelationships]
  -- The members that are kept pass the check that the strict reader makes of their names.
  have hnodup : (as.members.map (·.name) ++ rs.members.map (·.name)).Nodup := by
    have hnames := nodup_firstOfEachName
      (attributeProperties resource ++ relationshipProperties resource)
    rw [← hproperties, List.map_append, List.map_map, List.map_map] at hnames
    exact hnames
  refine ⟨⟨name, ⟨type, as.members, rs.members, textField "description" resource,
    metadataField resource⟩, textField "version" raw, textField "namespace" raw,
    textField "description" raw, metadataField raw⟩, as.warnings ++ rs.warnings, ?_, rfl, ?_⟩
  · rw [salvageMembers, has, Checked.andThen_valid, hrs, Checked.andThen_valid]
    apply (Checked.map_eq_valid_iff ..).2
    exact ⟨_, (ResourceOf.checkMembers_eq_valid_iff ..).2 ⟨hnodup, rfl⟩, rfl⟩
  · change Accounts resource
      (as.members.map attributeProperty ++ rs.members.map relationshipProperty) _
    constructor
    · rw [hproperties]
      apply nodup_firstOfEachName
    · refine ⟨_, _, rfl, ?_, ?_⟩
      · rw [hattributes]
        apply firstOfEachName_sublist
      · rw [hrelationships]
        exact (firstOfEachName_sublist _).trans List.filter_sublist
    · intro name
      rw [hproperties, find?_firstOfEachName]
    · rw [List.countP_append, List.length_append, List.length_map, List.length_map]
      have hasLength : (listed "attributes" resource).length = _ := hasCount
      have hrsLength : (listed "relationships" resource).length = _ := hrsCount
      omega

/-! ## The serializers of a document -/

/-- An entry of the list of serializers that a model can be made of. -/
structure CarriesModel (raw resource : Value) (type : String) : Prop where
  hasResource : raw.get? "resource" = some resource
  isRecord : ∃ entries, resource = .record entries
  hasType : resource.get? "type" = some (.text type)
  given : type ≠ ""

/-- What an entry of the list of serializers leads to: a model that accounts for the members of its
resource, or at least a warning. -/
inductive Reading (raw : Value) : Option Model × List Warning → Prop where
  | model {resource : Value} {type : String} {m : Model} {warnings : List Warning}
      (carries : CarriesModel raw resource type) (named : m.name = pascalCase type)
      (accounts : Accounts resource m.properties warnings) : Reading raw (some m, warnings)
  | passed {warnings : List Warning}
      (carriesNone : ∀ resource type, ¬ CarriesModel raw resource type)
      (reported : warnings ≠ []) : Reading raw (none, warnings)

/-- The warnings of a serializer, those about the kinds of its attributes last. -/
def reported (result : Option LooseSerializer × List Warning) : List Warning :=
  result.2 ++
    (result.1.map fun s => s.resource.attributes.flatMap (attributeWarnings s.name)).getD []

def readingOf (result : Option LooseSerializer × List Warning) : Option Model × List Warning :=
  (result.1.map (modelOf true), reported result)

theorem countP_attributeWarnings (serializer : String) (attributes : List LooseAttribute) :
    (attributes.flatMap (attributeWarnings serializer)).countP Warning.isSkip = 0 := by
  rw [List.countP_eq_zero]
  intro w hw
  obtain ⟨a, -, ha⟩ := List.mem_flatMap.1 hw
  unfold attributeWarnings at ha
  split at ha
  · cases ha
  · rw [Option.mem_toList, Option.map_eq_some_iff] at ha
    obtain ⟨kind, -, rfl⟩ := ha
    simp

theorem resourceRecord?_eq_some_iff (raw resource : Value) :
    resourceRecord? raw = some resource ↔
      raw.get? "resource" = some resource ∧ ∃ entries, resource = .record entries := by
  have hrecord : ∀ v : Value, isRecord v = true ↔ ∃ entries, v = .record entries := by
    intro v
    cases v <;> simp [isRecord]
  unfold resourceRecord?
  rw [Option.bind_eq_some_iff]
  constructor
  · rintro ⟨v, hv, hif⟩
    split at hif
    · next h =>
      cases hif
      exact ⟨hv, (hrecord _).1 h⟩
    · cases hif
  · rintro ⟨hv, h⟩
    exact ⟨resource, hv, if_pos ((hrecord _).2 h)⟩

theorem textField_eq_some_iff (key : String) (v : Value) (s : String) :
    textField key v = some s ↔ v.get? key = some (.text s) ∧ s ≠ "" := by
  unfold textField
  cases v.get? key with
  | none => simp
  | some w =>
      cases w with
      | text t =>
          by_cases ht : t = ""
          · subst ht
            simp [Value.givenText?]
          · simp [Value.givenText?, ht]
            rintro rfl
            exact ht
      | _ => simp [Value.givenText?]

theorem carriesModel_iff (raw resource : Value) (type : String) :
    CarriesModel raw resource type ↔
      resourceRecord? raw = some resource ∧ textField "type" resource = some type := by
  rw [resourceRecord?_eq_some_iff, textField_eq_some_iff]
  constructor
  · rintro ⟨hresource, hrecord, htype, hgiven⟩
    exact ⟨⟨hresource, hrecord⟩, htype, hgiven⟩
  · rintro ⟨⟨hresource, hrecord⟩, htype, hgiven⟩
    exact ⟨hresource, hrecord, htype, hgiven⟩

/-- An entry that no model can be made of is passed over with a warning. -/
theorem salvageSerializer_of_none {raw : Value}
    (hnone : ∀ resource type, ¬ CarriesModel raw resource type) (index : Nat) :
    ∃ warnings, salvageSerializer index raw = .valid (none, warnings) ∧ warnings ≠ [] := by
  unfold salvageSerializer
  split
  · exact ⟨_, rfl, by simp⟩
  · cases hresource : resourceRecord? raw with
    | none => exact ⟨_, rfl, List.append_ne_nil_of_right_ne_nil _ (by simp)⟩
    | some resource =>
        cases htype : textField "type" resource with
        | none =>
            simp only [htype]
            exact ⟨_, rfl, List.append_ne_nil_of_right_ne_nil _ (by simp)⟩
        | some type => exact absurd ((carriesModel_iff ..).2 ⟨hresource, htype⟩) (hnone _ _)

theorem salvageSerializer_of_carries {raw resource : Value} {type : String}
    (h : CarriesModel raw resource type) (index : Nat) :
    ∃ s unnamed warnings, salvageSerializer index raw = .valid (some s, unnamed ++ warnings) ∧
      s.resource.type = type ∧ unnamed.countP Warning.isSkip = 0 ∧
      Accounts resource (modelOf true s).properties warnings := by
  have hrecord : isRecord raw = true := by
    obtain ⟨entries, rfl⟩ := Value.exists_record_of_get? h.hasResource
    rfl
  obtain ⟨hresource, htype⟩ := (carriesModel_iff ..).1 h
  obtain ⟨s, warnings, hmembers, hs, haccounts⟩ := salvageMembers_account
    ((textField "name" raw).getD (serializerName (pascalCase type))) type raw resource
  refine ⟨s, if (textField "name" raw).isNone then [.serializerWithoutName index] else [], warnings,
    ?_, hs, ?_, haccounts⟩
  · unfold salvageSerializer
    simp only [hrecord, hresource, htype, hmembers, Checked.map_valid, Bool.not_true,
      Bool.false_eq_true, if_false]
  · split <;> simp

theorem salvageSerializer_reading (index : Nat) (raw : Value) :
    ∃ result, salvageSerializer index raw = .valid result ∧ Reading raw (readingOf result) := by
  by_cases hcarries : ∃ resource type, CarriesModel raw resource type
  · obtain ⟨resource, type, hcarries⟩ := hcarries
    obtain ⟨s, unnamed, warnings, hvalid, hs, hunnamed, haccounts⟩ :=
      salvageSerializer_of_carries hcarries index
    refine ⟨_, hvalid, .model hcarries (congrArg pascalCase hs) ?_⟩
    exact haccounts.report hunnamed (countP_attributeWarnings ..)
  · have hnone : ∀ resource type, ¬ CarriesModel raw resource type :=
      fun resource type h => hcarries ⟨resource, type, h⟩
    obtain ⟨warnings, hvalid, hne⟩ := salvageSerializer_of_none hnone index
    refine ⟨_, hvalid, .passed hnone ?_⟩
    simpa [reported] using hne

theorem salvageSerializersFrom_reading (index : Nat) (raws : List Value) :
    ∃ results, salvageSerializersFrom index raws = .valid results ∧
      List.Forall₂ Reading raws (results.map readingOf) := by
  induction raws generalizing index with
  | nil => exact ⟨[], rfl, .nil⟩
  | cons raw raws ih =>
      obtain ⟨result, hresult, hreading⟩ := salvageSerializer_reading index raw
      obtain ⟨results, hresults, hreadings⟩ := ih (index + 1)
      refine ⟨result :: results, ?_, .cons hreading hreadings⟩
      rw [salvageSerializersFrom, hresult, Checked.andThen_valid, hresults, Checked.map_valid]

/-! ## Documents -/

theorem definitionOfDocument_of_salvaged {document : Value} {raws : List Value}
    (hraws : document.get? "serializers" = some (.list raws))
    {results : List (Option LooseSerializer × List Warning)}
    (hresults : salvageSerializersFrom 0 raws = .valid results) (options : Options) :
    ∃ info, definitionOfDocument document options = .valid (assemble options info results) := by
  refine ⟨⟨textField "title" document, textField "version" document,
    textField "description" document⟩, ?_⟩
  rw [definitionOfDocument, hraws]
  simp only [hresults, Checked.map_valid]

theorem definitionOfDocument_of_list {document : Value} {raws : List Value}
    (hraws : document.get? "serializers" = some (.list raws)) (options : Options) :
    ∃ info results, definitionOfDocument document options = .valid (assemble options info results) ∧
      List.Forall₂ Reading raws (results.map readingOf) := by
  obtain ⟨results, hresults, hreadings⟩ := salvageSerializersFrom_reading 0 raws
  obtain ⟨info, hvalid⟩ := definitionOfDocument_of_salvaged hraws hresults options
  exact ⟨info, results, hvalid, hreadings⟩

/-- Any document is converted.  A list of serializers gives one namespace and no failure; without
one there is a failure, and the definition is empty. -/
theorem definitionOfDocument_total (document : Value) (options : Options) :
    ∃ r, definitionOfDocument document options = .valid r ∧
      (∀ input, r.data.checkNamespaces input = .valid r.data) ∧
      ((∃ raws, document.get? "serializers" = some (.list raws)) →
        r.failures = [] ∧ r.data.namespaces.length = 1) ∧
      ((∀ raws, document.get? "serializers" ≠ some (.list raws)) →
        r = ⟨.empty, [.noSerializerList], []⟩) := by
  by_cases hlist : ∃ raws, document.get? "serializers" = some (.list raws)
  · obtain ⟨raws, hraws⟩ := hlist
    obtain ⟨info, results, hvalid, -⟩ := definitionOfDocument_of_list hraws options
    refine ⟨_, hvalid, ?_, fun _ => ⟨rfl, rfl⟩, fun hnone => absurd hraws (hnone raws)⟩
    intro input
    rw [checkNamespaces_eq_valid_iff]
    simp [assemble]
  · have hnone : ∀ raws, document.get? "serializers" ≠ some (.list raws) :=
      fun raws hraws => hlist ⟨raws, hraws⟩
    refine ⟨⟨.empty, [.noSerializerList], []⟩, ?_, ?_, fun h => absurd h hlist, fun _ => rfl⟩
    · unfold definitionOfDocument
      split
      · next raws hraws => exact absurd hraws (hnone raws)
      · rfl
    · intro input
      rw [checkNamespaces_eq_valid_iff]
      simp [Definition.empty]

/-- The models of a document correspond to the entries that a model can be made of.  Each accounts
for the members of its resource, and every other entry leaves a warning. -/
theorem definitionOfDocument_accounts {document : Value} {raws : List Value}
    (hraws : document.get? "serializers" = some (.list raws)) {options : Options}
    (hrelationships : options.withRelationships = true) :
    ∃ r readings, definitionOfDocument document options = .valid r ∧
      List.Forall₂ Reading raws readings ∧ r.data.models = readings.filterMap (·.1) ∧
      r.warnings = readings.flatMap (·.2) := by
  obtain ⟨info, results, hvalid, hreadings⟩ := definitionOfDocument_of_list hraws options
  refine ⟨_, _, hvalid, hreadings, ?_, ?_⟩
  · simp only [assemble, Definition.models, List.flatMap_singleton, hrelationships]
    rw [List.filterMap_map, List.map_filterMap]
    rfl
  · rw [List.flatMap_map]
    rfl

/-- Entries of which only the last carries a model, with members of repeated and of missing names
and one of a foreign kind. -/
def unevenEntries : List Value :=
  [.int 3,
    .ofFields [("name", .text "Untyped"), ("resource", .ofFields [("type", .text "")])],
    .ofFields [("name", .text "ShelfSerializer"), ("resource", .ofFields
      [("type", .text "shelves"),
        ("attributes", .list
          [.ofFields [("name", .text "label"), ("type", .text "string")],
            .ofFields [("name", .text "label"), ("type", .text "number")],
            .ofFields [("type", .text "string")],
            .ofFields [("name", .text "load"), ("type", .text "mass")]]),
        ("relationships", .list
          [.ofFields
              [("name", .text "load"), ("type", .text "has_one"), ("resource", .text "limits")],
            .ofFields
              [("name", .text "books"), ("type", .text "has_many"),
                ("resource", .text "books")]])])]]

def unevenDocument : Value :=
  .ofFields [("serializers", .list unevenEntries)]

theorem definitionOfDocument_accounts_unevenDocument :
    unevenDocument.get? "serializers" = some (.list unevenEntries) ∧
      Options.default.withRelationships = true ∧
      ∃ r readings, definitionOfDocument unevenDocument .default = .valid r ∧
        List.Forall₂ Reading unevenEntries readings ∧ r.data.models = readings.filterMap (·.1) ∧
        r.warnings = readings.flatMap (·.2) :=
  ⟨rfl, rfl, definitionOfDocument_accounts rfl rfl⟩

example :
    (definitionOfDocument unevenDocument .default).accepted?.map (fun r =>
      (r.data.models.map fun m => m.properties.map (·.name), r.warnings.countP Warning.isSkip)) =
        some ([["label", "load", "books"]], 3) := by
  decide

end ApiShapes.Conversion
