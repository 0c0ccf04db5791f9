import ApiShapes.Proofs.Conversion.Accounting
import ApiShapes.Proofs.Conversion.StrictAndTolerant
import Mathlib.Tactic

/-!
# Conversion without a report

A conversion that reports nothing can still have passed over a defect: an optional field that does
not hold what it should, a null for the relationships, a kind that the type of its attribute does
not depend on.  The strict reader accepts the converted document exactly if it has none of these.
-/

namespace ApiShapes.Conversion

open JsonApi Shape TypeSpec

/-! ## Defects that are not reported -/

/-- An optional field is absent, null or of the kind that it should be. -/
def FieldIs (kind : Value.Kind) (key : String) (v : Value) : Prop :=
  ∀ w ∈ v.get? key, w.kind = .null ∨ w.kind = kind

def KnownKinds (raw : Value) : Prop :=
  ∀ key ∈ kindFields, ∀ s, raw.get? key = some (.text s) →
    s ∈ AttributeKind.all.map AttributeKind.name

structure ResourceIntact (resource : Value) : Prop where
  description : FieldIs .text "description" resource
  metadata : FieldIs .record "meta" resource
  relationships : resource.get? "relationships" ≠ some .null
  kinds : ∀ raw ∈ listed "attributes" resource, KnownKinds raw

structure SerializerIntact (raw : Value) : Prop where
  version : FieldIs .text "version" raw
  ofNamespace : FieldIs .text "namespace" raw
  description : FieldIs .text "description" raw
  metadata : FieldIs .record "meta" raw
  resource : ∀ resource ∈ raw.get? "resource", ResourceIntact resource

/-- A document with none of the defects that the tolerant reader passes over in silence. -/
structure DocumentIntact (document : Value) : Prop where
  title : FieldIs .text "title" document
  version : FieldIs .text "version" document
  description : FieldIs .text "description" document
  metadata : FieldIs .record "meta" document
  serializers : ∀ raw ∈ listed "serializers" document, SerializerIntact raw

theorem fieldIs_text_iff {v : Value} (hplain : v.IsPlain) (key : String) :
    FieldIs .text key v ↔ ∃ s, maybe key text v = .valid s := by
  unfold FieldIs maybe withDefault
  cases hget : v.get? key with
  | none => simp
  | some w =>
      cases hplain.get? hget with
      | _ => simp [Shape.optional, Shape.text, Value.kind]

theorem fieldIs_record_iff (v : Value) (key : String) :
    FieldIs .record key v ↔ ∃ es, maybe key entries v = .valid es := by
  unfold FieldIs maybe withDefault
  cases v.get? key with
  | none => simp
  | some w =>
      cases w with
      | _ => simp [Shape.optional, Shape.entries, Value.kind]

/-! ## Attributes -/

theorem kind_eq_valid_of_known {s : String} (h : s ∈ AttributeKind.all.map AttributeKind.name) :
    ∃ k, choice attributeKinds (.text s) = .valid k := by
  obtain ⟨k, -, rfl⟩ := List.mem_map.1 h
  exact ⟨k, (kind_eq_valid_iff ..).2 rfl⟩

theorem known_of_kind_eq_valid {v : Value} {k : AttributeKind} {s : String}
    (h : choice attributeKinds v = .valid k) (hv : v = .text s) :
    s ∈ AttributeKind.all.map AttributeKind.name := by
  rw [kind_eq_valid_iff, hv, Value.text.injEq] at h
  rw [h]
  cases k <;> decide

theorem knownKinds_of_shape {raw : Value} {a : Attribute} (h : Attribute.shape raw = .valid a) :
    KnownKinds raw := by
  obtain ⟨-, -, hkind, -, -, -, -, hitems⟩ := (attributeShape_eq_valid_iff ..).1 h
  intro key hkey s hs
  rcases List.mem_pair.1 hkey with rfl | rfl
  · obtain ⟨v, hv, hkind⟩ := (required_eq_valid_iff ..).1 hkind
    exact known_of_kind_eq_valid hkind (Option.some.inj (hv.symm.trans hs))
  · rcases (maybe_eq_valid_iff ..).1 hitems with ⟨hnull, -⟩ | ⟨v, hv, -, k, hk, -⟩
    · rw [hs] at hnull
      cases hnull
    · exact known_of_kind_eq_valid hk (Option.some.inj (hv.symm.trans hs))

theorem shape_of_knownKinds {raw : Value} {a : LooseAttribute}
    (h : looseAttributeShape raw = .valid a) (hknown : KnownKinds raw) :
    ∃ b, Attribute.shape raw = .valid b := by
  obtain ⟨hrecord, hname, hkind, hnullable, hdescription, hformat, henum, hitems⟩ :=
    (attributeShape_eq_valid_iff ..).1 h
  have hkind' : ∃ k, required "type" (choice attributeKinds) raw = .valid k := by
    obtain ⟨v, hv, hs⟩ := (required_eq_valid_iff ..).1 hkind
    rw [anyKind_eq_valid_iff] at hs
    subst hs
    obtain ⟨k, hk⟩ := kind_eq_valid_of_known (hknown "type" (by decide) _ hv)
    exact ⟨k, (required_eq_valid_iff ..).2 ⟨_, hv, hk⟩⟩
  have hitems' : ∃ k, maybe "items" (choice attributeKinds) raw = .valid k := by
    rcases (maybe_eq_valid_iff ..).1 hitems with ⟨hnull, -⟩ | ⟨v, hv, hne, s, hs, -⟩
    · exact ⟨none, (maybe_eq_valid_iff ..).2 (Or.inl ⟨hnull, rfl⟩)⟩
    · rw [anyKind_eq_valid_iff] at hs
      subst hs
      obtain ⟨k, hk⟩ := kind_eq_valid_of_known (hknown "items" (by decide) _ hv)
      exact ⟨some k, (maybe_eq_valid_iff ..).2 (Or.inr ⟨_, hv, hne, k, hk, rfl⟩)⟩
  obtain ⟨kind, hkind'⟩ := hkind'
  obtain ⟨items, hitems'⟩ := hitems'
  exact ⟨⟨a.name, kind, a.nullable, a.description, a.format, a.enum, items⟩,
    (attributeShape_eq_valid_iff ..).2
      ⟨hrecord, hname, hkind', hnullable, hdescription, hformat, henum, hitems'⟩⟩

/-! ## Resources -/

/-- The members of a resource that is read without a report. -/
structure MembersGiven (resource : Value) : Prop where
  attributes : ∃ items, resource.get? "attributes" = some (.list items)
  relationships : (resource.get? "relationships").getD .null = .null ∨
    ∃ items, resource.get? "relationships" = some (.list items)
  readableAttributes : ∀ raw ∈ listed "attributes" resource, ∃ a, looseAttributeShape raw = .valid a
  readableRelationships : ∀ raw ∈ listed "relationships" resource,
    ∃ r, Relationship.shape raw = .valid r
  names : ((attributeProperties resource ++ relationshipProperties resource).map (·.name)).Nodup

/-- If nothing is skipped, every member is readable and no two share a name. -/
theorem Accounts.all_readable {resource : Value} {properties : List Property}
    {warnings : List Warning} (h : Accounts resource properties warnings)
    (hskip : warnings.countP Warning.isSkip = 0) :
    (∀ raw ∈ listed "attributes" resource, ∃ a, looseAttributeShape raw = .valid a) ∧
      (∀ raw ∈ listed "relationships" resource, ∃ r, Relationship.shape raw = .valid r) ∧
      ((attributeProperties resource ++ relationshipProperties resource).map (·.name)).Nodup := by
  obtain ⟨as, rs, hproperties, has, hrs⟩ := h.groups
  have hcount := h.count
  rw [hskip, hproperties, List.length_append] at hcount
  -- With nothing skipped there are as many properties as members, which leaves no room between the
  -- kept, the readable and the listed ones.
  have hasLength := has.length_le
  have hrsLength := hrs.length_le
  have hattributes : (attributeProperties resource).length ≤
      (listed "attributes" resource).length := length_readable_le ..
  have hrelationships : (relationshipProperties resource).length ≤
      (listed "relationships" resource).length := length_readable_le ..
  obtain rfl := has.eq_of_length (by omega)
  obtain rfl := hrs.eq_of_length (by omega)
  refine ⟨?_, ?_, hproperties ▸ h.names⟩
  · exact (length_readable_eq_iff _ attributeProperty _).1 (hattributes.antisymm (by omega))
  · exact (length_readable_eq_iff _ relationshipProperty _).1 (hrelationships.antisymm (by omega))

theorem get?_of_silent_group {α : Type} {group : MemberGroup} {serializer : String}
    {salvage : Value → Checked (Outcome α)} {nameOf : α → String} {taken : List String}
    {resource : Value} {m : Members α}
    (h : salvageGroup group serializer salvage nameOf taken resource = .valid m)
    (hsilent : m.warnings = []) :
    (group ≠ .attributes ∧ (resource.get? group.name).getD .null = .null) ∨
      ∃ items, resource.get? group.name = some (.list items) := by
  unfold salvageGroup at h
  split at h
  · next hnull =>
    cases h
    refine Or.inl ⟨?_, hnull⟩
    rintro rfl
    cases hsilent
  · next items hlist =>
    refine Or.inr ⟨items, ?_⟩
    cases hget : resource.get? group.name with
    | none => simp [hget] at hlist
    | some v => simpa [hget] using hlist
  · cases h
    cases hsilent

theorem membersGiven_of_silent {name type : String} {raw resource : Value} {s : LooseSerializer}
    (h : salvageMembers name type raw resource = .valid (s, [])) : MembersGiven resource := by
  obtain ⟨s', warnings, h', -, haccounts⟩ := salvageMembers_account name type raw resource
  obtain ⟨-, rfl⟩ : s' = s ∧ warnings = [] := by simpa using h'.symm.trans h
  obtain ⟨hattributes, hrelationships, hnames⟩ := haccounts.all_readable rfl
  obtain ⟨as, has, hrest⟩ := (Checked.andThen_eq_valid_iff ..).1 h
  obtain ⟨rs, hrs, hrest⟩ := (Checked.andThen_eq_valid_iff ..).1 hrest
  obtain ⟨r, -, heq⟩ := (Checked.map_eq_valid_iff ..).1 hrest
  obtain ⟨hasSilent, hrsSilent⟩ : as.warnings = [] ∧ rs.warnings = [] :=
    List.append_eq_nil_iff.1 (Prod.mk.inj heq).2
  refine ⟨?_, ?_, hattributes, hrelationships, hnames⟩
  · rcases get?_of_silent_group has hasSilent with ⟨hne, -⟩ | hlist
    · exact absurd rfl hne
    · exact hlist
  · exact (get?_of_silent_group hrs hrsSilent).imp_left And.right

section

variable {resource : Value} (hplain : resource.IsPlain)

include hplain

theorem ResourceIntact.of_readFrom {r : Resource} (h : Resource.ReadFrom resource r) :
    ResourceIntact resource where
  description := (fieldIs_text_iff hplain _).2 ⟨_, h.description⟩
  metadata := (fieldIs_record_iff ..).2 ⟨_, h.metadata⟩
  relationships := by
    intro hnull
    rcases (withDefault_eq_valid_iff ..).1 h.relationships with ⟨hnone, -⟩ | ⟨v, hv, hlist⟩
    · rw [hnone] at hnull
      cases hnull
    · rw [hnull] at hv
      cases hv
      simp [Shape.list] at hlist
  kinds := by
    intro raw hraw
    rcases (withDefault_eq_valid_iff ..).1 h.attributes with ⟨hnone, -⟩ | ⟨v, hv, hlist⟩
    · rw [listed, hnone] at hraw
      cases hraw
    · obtain ⟨items, rfl, hitems⟩ := (list_eq_valid_iff (hplain.get? hv) ..).1 hlist
      rw [listed_of_get? hv] at hraw
      obtain ⟨a, -, ha⟩ := exists_mem_of_forall₂ hitems.flip hraw
      exact knownKinds_of_shape ha

theorem ResourceIntact.exists_readFrom (h : ResourceIntact resource)
    (hrecord : ∃ entries, resource = .record entries) {type : String}
    (htype : resource.get? "type" = some (.text type)) (hmembers : MembersGiven resource) :
    ∃ r, Resource.ReadFrom resource r := by
  obtain ⟨description, hdescription⟩ := (fieldIs_text_iff hplain _).1 h.description
  obtain ⟨metadata, hmetadata⟩ := (fieldIs_record_iff ..).1 h.metadata
  obtain ⟨as, has⟩ : ∃ as, List.Forall₂ (fun raw a => Attribute.shape raw = .valid a)
      (listed "attributes" resource) as := by
    apply exists_forall₂
    intro raw hraw
    obtain ⟨a, ha⟩ := hmembers.readableAttributes raw hraw
    exact shape_of_knownKinds ha (h.kinds raw hraw)
  obtain ⟨rs, hrs⟩ := exists_forall₂ hmembers.readableRelationships
  have hattributes : withDefault "attributes" [] (list Attribute.shape) resource = .valid as := by
    obtain ⟨items, hitems⟩ := hmembers.attributes
    rw [listed_of_get? hitems] at has
    exact (withDefault_eq_valid_iff ..).2
      (Or.inr ⟨_, hitems, (list_eq_valid_iff (hplain.get? hitems) ..).2 ⟨items, rfl, has⟩⟩)
  have hrelationships :
      withDefault "relationships" [] (list Relationship.shape) resource = .valid rs := by
    -- The converter takes a null for no relationships, which the strict reader does not.
    rcases hmembers.relationships with hnull | ⟨items, hitems⟩
    · cases hget : resource.get? "relationships" with
      | none =>
          rw [listed, hget, List.forall₂_nil_left_iff] at hrs
          exact (withDefault_eq_valid_iff ..).2 (Or.inl ⟨hget, hrs⟩)
      | some v =>
          rw [hget] at hnull
          exact absurd (hget.trans (congrArg some hnull)) h.relationships
    · rw [listed_of_get? hitems] at hrs
      exact (withDefault_eq_valid_iff ..).2
        (Or.inr ⟨_, hitems, (list_eq_valid_iff (hplain.get? hitems) ..).2 ⟨items, rfl, hrs⟩⟩)
  have hnames : (as.map (·.name) ++ rs.map (·.name)).Nodup := by
    have hloose : List.Forall₂ (fun raw a => looseAttributeShape raw = .valid a)
        (listed "attributes" resource) (as.map (·.mapKind AttributeKind.name)) :=
      List.forall₂_map_right_iff.2 (has.imp fun _ _ => loose_of_strict)
    have hnames := hmembers.names
    rw [attributeProperties, readable_of_forall₂ _ _ hloose, relationshipProperties,
      readable_of_forall₂ _ _ hrs, List.map_append, List.map_map, List.map_map, List.map_map]
      at hnames
    exact hnames
  exact ⟨⟨type, as, rs, description, metadata⟩, hrecord,
    (required_eq_valid_iff ..).2 ⟨_, htype, rfl⟩, hattributes, hrelationships, hdescription,
    hmetadata, hnames⟩

end

/-! ## Serializers -/

/-- A serializer that is read without a report. -/
structure SerializerGiven (raw : Value) : Prop where
  name : ∃ name, raw.get? "name" = some (.text name)
  resource : ∃ resource type, CarriesModel raw resource type ∧ MembersGiven resource

theorem serializerGiven_of_silent {index : Nat} {raw : Value}
    {result : Option LooseSerializer × List Warning}
    (h : salvageSerializer index raw = .valid result) (hsilent : reported result = []) :
    SerializerGiven raw := by
  have hwarnings : result.2 = [] := (List.append_eq_nil_iff.1 hsilent).1
  by_cases hcarries : ∃ resource type, CarriesModel raw resource type
  · obtain ⟨resource, type, hcarries⟩ := hcarries
    obtain ⟨hresource, htype⟩ := (carriesModel_iff ..).1 hcarries
    have hrecord : isRecord raw = true := by
      obtain ⟨entries, rfl⟩ := Value.exists_record_of_get? hcarries.hasResource
      rfl
    unfold salvageSerializer at h
    simp only [hrecord, hresource, htype, Bool.not_true, Bool.false_eq_true, if_false,
      Checked.map_eq_valid_iff] at h
    obtain ⟨⟨s, warnings⟩, hmembers, rfl⟩ := h
    obtain ⟨hunnamed, rfl⟩ := List.append_eq_nil_iff.1 hwarnings
    refine ⟨?_, resource, type, hcarries, membersGiven_of_silent hmembers⟩
    cases hname : textField "name" raw with
    | none => simp [hname] at hunnamed
    | some name => exact ⟨name, ((textField_eq_some_iff ..).1 hname).1⟩
  · obtain ⟨warnings, hnone, hne⟩ :=
      salvageSerializer_of_none (fun resource type h => hcarries ⟨resource, type, h⟩) index
    rw [hnone] at h
    cases h
    exact absurd hwarnings hne

theorem serializer_shape_iff_of_given {raw : Value} (hplain : raw.IsPlain)
    (hgiven : SerializerGiven raw) :
    (∃ s, Serializer.shape raw = .valid s) ↔ SerializerIntact raw := by
  obtain ⟨⟨name, hname⟩, resource, type, hcarries, hmembers⟩ := hgiven
  have hresourcePlain : resource.IsPlain := hplain.get? hcarries.hasResource
  constructor
  · rintro ⟨s, hs⟩
    rw [Serializer.shape_eq_valid_iff] at hs
    refine ⟨(fieldIs_text_iff hplain _).2 ⟨_, hs.version⟩,
      (fieldIs_text_iff hplain _).2 ⟨_, hs.ofNamespace⟩,
      (fieldIs_text_iff hplain _).2 ⟨_, hs.description⟩,
      (fieldIs_record_iff ..).2 ⟨_, hs.metadata⟩, ?_⟩
    intro resource' hresource'
    obtain ⟨v, hv, hr⟩ := (required_eq_valid_iff ..).1 hs.resource
    obtain rfl : v = resource' := Option.some.inj (hv.symm.trans hresource')
    exact .of_readFrom (hplain.get? hv) ((Resource.shape_eq_valid_iff ..).1 hr)
  · intro hintact
    obtain ⟨version, hversion⟩ := (fieldIs_text_iff hplain _).1 hintact.version
    obtain ⟨ofNamespace, hnamespace⟩ := (fieldIs_text_iff hplain _).1 hintact.ofNamespace
    obtain ⟨description, hdescription⟩ := (fieldIs_text_iff hplain _).1 hintact.description
    obtain ⟨metadata, hmetadata⟩ := (fieldIs_record_iff ..).1 hintact.metadata
    obtain ⟨r, hr⟩ := (hintact.resource resource hcarries.hasResource).exists_readFrom
      hresourcePlain hcarries.isRecord hcarries.hasType hmembers
    refine ⟨⟨name, r, version, ofNamespace, description, metadata⟩,
      (Serializer.shape_eq_valid_iff ..).2 ⟨Value.exists_record_of_get? hcarries.hasResource,
        ?_, ?_, hversion, hnamespace, hdescription, hmetadata⟩⟩
    · exact (required_eq_valid_iff ..).2 ⟨_, hname, rfl⟩
    · exact (required_eq_valid_iff ..).2
        ⟨_, hcarries.hasResource, (Resource.shape_eq_valid_iff ..).2 hr⟩

/-! ## Documents -/

theorem forall₂_of_salvageSerializersFrom {index : Nat} {raws : List Value}
    {results : List (Option LooseSerializer × List Warning)}
    (h : salvageSerializersFrom index raws = .valid results) :
    List.Forall₂ (fun raw result => ∃ i, salvageSerializer i raw = .valid result) raws results := by
  induction raws generalizing index results with
  | nil =>
      cases h
      exact .nil
  | cons raw raws ih =>
      rw [salvageSerializersFrom, Checked.andThen_eq_valid_iff] at h
      obtain ⟨first, hfirst, hrest⟩ := h
      obtain ⟨rest, hrestResults, rfl⟩ := (Checked.map_eq_valid_iff ..).1 hrest
      exact .cons ⟨index, hfirst⟩ (ih hrestResults)

/-- A document that is converted without a report lists serializers that can be read. -/
theorem given_of_silent {document : Value} {options : Options} {r : Result Definition}
    (hvalid : definitionOfDocument document options = .valid r) (hfailures : r.failures = [])
    (hwarnings : r.warnings = []) :
    ∃ raws, document.get? "serializers" = some (.list raws) ∧
      ∀ raw ∈ raws, SerializerGiven raw := by
  unfold definitionOfDocument at hvalid
  split at hvalid
  · next raws hraws =>
    obtain ⟨results, hresults, rfl⟩ := (Checked.map_eq_valid_iff ..).1 hvalid
    refine ⟨raws, hraws, ?_⟩
    intro raw hraw
    obtain ⟨result, hresult, i, hi⟩ :=
      exists_mem_of_forall₂ (forall₂_of_salvageSerializersFrom hresults).flip hraw
    exact serializerGiven_of_silent hi (List.flatMap_eq_nil_iff.1 hwarnings result hresult)
  · cases hvalid
    cases hfailures

/-- The strict reader accepts a document that is converted without a report exactly if it has none
of the defects that are passed over in silence. -/
theorem read_ok_iff_of_silent {document : Value} (hplain : document.IsPlain) {options : Options}
    {r : Result Definition} (hvalid : definitionOfDocument document options = .valid r)
    (hfailures : r.failures = []) (hwarnings : r.warnings = []) :
    (∃ s, Schema.read document = .ok s) ↔ DocumentIntact document := by
  obtain ⟨raws, hraws, hgiven⟩ := given_of_silent hvalid hfailures hwarnings
  have hshape : ∀ raw ∈ raws, (∃ s, Serializer.shape raw = .valid s) ↔ SerializerIntact raw :=
    fun raw hraw => serializer_shape_iff_of_given ((hplain.get? hraws).items raw hraw)
      (hgiven raw hraw)
  constructor
  · rintro ⟨s, hs⟩
    obtain ⟨-, hs⟩ := (Schema.read_eq_ok_iff ..).1 hs
    refine ⟨(fieldIs_text_iff hplain _).2 ⟨_, hs.title⟩,
      (fieldIs_text_iff hplain _).2 ⟨_, hs.version⟩,
      (fieldIs_text_iff hplain _).2 ⟨_, hs.description⟩,
      (fieldIs_record_iff ..).2 ⟨_, hs.metadata⟩, ?_⟩
    rw [listed_of_get? hraws]
    intro raw hraw
    obtain ⟨t, -, ht⟩ := exists_mem_of_forall₂ (serializers_of_readFrom hplain hs hraws).flip hraw
    exact (hshape raw hraw).1 ⟨t, ht⟩
  · intro hintact
    obtain ⟨title, htitle⟩ := (fieldIs_text_iff hplain _).1 hintact.title
    obtain ⟨version, hversion⟩ := (fieldIs_text_iff hplain _).1 hintact.version
    obtain ⟨description, hdescription⟩ := (fieldIs_text_iff hplain _).1 hintact.description
    obtain ⟨metadata, hmetadata⟩ := (fieldIs_record_iff ..).1 hintact.metadata
    have hserializers := hintact.serializers
    rw [listed_of_get? hraws] at hserializers
    obtain ⟨ss, hss⟩ := exists_forall₂ fun raw hraw => (hshape raw hraw).2 (hserializers raw hraw)
    refine ⟨⟨ss, title, version, description, metadata⟩, (Schema.read_eq_ok_iff ..).2
      ⟨⟨raws, hraws⟩, Value.exists_record_of_get? hraws, ?_, htitle, hversion, hdescription,
        hmetadata⟩⟩
    exact (withDefault_eq_valid_iff ..).2
      (Or.inr ⟨_, hraws, (list_eq_valid_iff (hplain.get? hraws) ..).2 ⟨raws, rfl, hss⟩⟩)

/-- A document with one attribute, of the given kind. -/
def priceDocument (kind : String) : Value :=
  .ofFields [("serializers", .list [.ofFields
    [("name", .text "S"), ("resource", .ofFields
      [("type", .text "things"), ("attributes", .list [.ofFields
        [("name", .text "price"), ("type", .text kind)]])])]])]

theorem isPlain_priceDocument (kind : String) : (priceDocument kind).IsPlain := by
  simp [priceDocument]

theorem read_ok_iff_of_silent_priceDocument :
    (priceDocument "number").IsPlain ∧
      ∃ r, definitionOfDocument (priceDocument "number") .default = .valid r ∧ r.failures = [] ∧
        r.warnings = [] ∧
          ((∃ s, Schema.read (priceDocument "number") = .ok s) ↔
            DocumentIntact (priceDocument "number")) := by
  have hsilent : ∃ r, definitionOfDocument (priceDocument "number") .default = .valid r ∧
      r.failures = [] ∧ r.warnings = [] := ⟨_, rfl, rfl, rfl⟩
  obtain ⟨r, hvalid, hfailures, hwarnings⟩ := hsilent
  exact ⟨isPlain_priceDocument _, r, hvalid, hfailures, hwarnings,
    read_ok_iff_of_silent (isPlain_priceDocument _) hvalid hfailures hwarnings⟩

/-- An attribute of the empty kind becomes `unknown` without a report, while the strict reader
refuses it. -/
theorem emptyKind_not_reported :
    (priceDocument "").IsPlain ∧
      ∃ r, definitionOfDocument (priceDocument "") .default = .valid r ∧ r.failures = [] ∧
        r.warnings = [] ∧ ∀ s, Schema.read (priceDocument "") ≠ .ok s := by
  refine ⟨isPlain_priceDocument _, _, rfl, rfl, rfl, ?_⟩
  intro s hs
  cases hs

end ApiShapes.Conversion
