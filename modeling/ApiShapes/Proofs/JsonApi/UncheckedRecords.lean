import ApiShapes.Proofs.Document.StructuralFaults
import ApiShapes.Proofs.JsonApi.BuiltSerializers
import ApiShapes.Proofs.JsonApi.CheckAnswers
import ApiShapes.Proofs.JsonApi.StrictReading
import Mathlib.Tactic

/-!
# The check of records of unchecked shape

If the structural check answers without a defect, the strict reader misses no field, finds a record
wherever it needs one and no name twice.  A member without defects is a record with a new name, so
the names in use stay apart from each other to the end.
-/

namespace ApiShapes.JsonApi

open Shape

/-! ## Answers without defects -/

/-- A member that lacks nothing the check looks for. -/
structure CompleteMember (group : Group) (member : Value) : Prop where
  isRecord : ∃ entries, member = .record entries
  name : hasField "name" member = true
  type : hasField "type" member = true
  resource : group = .relationships → hasField "resource" member = true

/-- The value that the check takes for the name of a member. -/
def nameValue (member : Value) : Value :=
  (member.get? "name").getD .null

theorem isGiven_nameValue (member : Value) :
    (nameValue member).isGiven = hasField "name" member := by
  unfold nameValue hasField
  cases member.get? "name" with
  | none => rfl
  | some name => rfl

theorem checkName_without_defects {group : Group} {index : Nat} {names : List Value} {name : Value}
    {after : List Value} (h : checkName group index names name = .ok ([], after)) :
    name.isGiven = true ∧ names.any (Value.sameKey name) = false ∧ after = name :: names := by
  unfold checkName at h
  split at h
  · simp at h
  · next hgiven =>
    rw [map_eq_ok_iff] at h
    obtain ⟨key, hkey, h⟩ := h
    have hsame : name = key := by
      unfold Value.asKey at hkey
      split at hkey
      · exact Except.ok.inj hkey
      · contradiction
    subst hsame
    split at h
    · simp at h
    · next hused =>
      rw [Prod.mk.injEq] at h
      exact ⟨by simpa using hgiven, by simpa using hused, h.2.symm⟩

theorem checkMember_without_defects {group : Group} {index : Nat} {names : List Value}
    {member : Value} {after : List Value}
    (h : checkMember group index names member = .ok ([], after)) :
    CompleteMember group member ∧ names.any (Value.sameKey (nameValue member)) = false ∧
      after = nameValue member :: names := by
  cases member with
  | record entries =>
      rw [checkMember, map_eq_ok_iff] at h
      obtain ⟨⟨found, used⟩, hname, h⟩ := h
      rw [Prod.mk.injEq, List.append_eq_nil_iff, List.append_eq_nil_iff] at h
      obtain ⟨⟨⟨hfound, htype⟩, hresource⟩, hafter⟩ := h
      rw [hfound, hafter] at hname
      obtain ⟨hgiven, hused, hnames⟩ := checkName_without_defects hname
      refine ⟨⟨⟨entries, rfl⟩, ?_, ?_, ?_⟩, hused, hnames⟩
      · rw [← isGiven_nameValue]
        exact hgiven
      · simpa using htype
      · intro hgroup
        simpa [hgroup] using hresource
  | _ => simp [checkMember] at h

/-- Two names that are different keys. -/
def Apart (v w : Value) : Prop :=
  Value.sameKey v w = false

/-- Without defects all members are complete, and their names join those in use, all of them apart
from each other. -/
theorem checkFrom_without_defects {group : Group} {members : List Value} {index : Nat}
    {names after : List Value} (h : checkFrom group index names members = .ok ([], after))
    (hnames : names.Pairwise Apart) :
    (∀ member ∈ members, CompleteMember group member) ∧
      after = (members.map nameValue).reverse ++ names ∧ after.Pairwise Apart := by
  induction members generalizing index names with
  | nil =>
      cases h
      exact ⟨by simp, rfl, hnames⟩
  | cons member rest ih =>
      obtain ⟨first, used, more, hfirst, hrest, hnil⟩ := (checkFrom_cons_eq_ok_iff ..).mp h
      obtain ⟨hfirstNil, hmoreNil⟩ := List.append_eq_nil_iff.mp hnil
      rw [hfirstNil] at hfirst
      rw [hmoreNil] at hrest
      obtain ⟨hmember, hnew, hused⟩ := checkMember_without_defects hfirst
      have hapart : used.Pairwise Apart := by
        rw [hused, List.pairwise_cons]
        refine ⟨?_, hnames⟩
        intro name hname
        simpa [Apart] using List.any_eq_false.mp hnew name hname
      obtain ⟨hmembers, hafter, hpairwise⟩ := ih hrest hapart
      refine ⟨List.forall_mem_cons.mpr ⟨hmember, hmembers⟩, ?_, hpairwise⟩
      rw [hafter, hused]
      simp

/-- A resource in which the check finds no defect. -/
structure CompleteResource (resource : Value) (as rs : List Value) : Prop where
  type : hasField "type" resource = true
  attributeElements : groupElements .attributes resource = .ok as
  relationshipElements : groupElements .relationships resource = .ok rs
  attributes : ∀ member ∈ as, CompleteMember .attributes member
  relationships : ∀ member ∈ rs, CompleteMember .relationships member
  names : (as.map nameValue ++ rs.map nameValue).reverse.Pairwise Apart

theorem checkResource_without_defects {resource : Value} (h : checkResource resource = .ok []) :
    ∃ as rs, CompleteResource resource as rs := by
  obtain ⟨as, first, names, rs, second, after, hattributes, hfirst, hrelationships, hsecond,
    hnil⟩ := (checkResource_eq_ok_iff ..).mp h
  rw [List.append_eq_nil_iff, List.append_eq_nil_iff] at hnil
  obtain ⟨⟨htype, hfirstNil⟩, hsecondNil⟩ := hnil
  rw [hfirstNil] at hfirst
  rw [hsecondNil] at hsecond
  obtain ⟨has, hnames, hapart⟩ := checkFrom_without_defects hfirst List.Pairwise.nil
  obtain ⟨hrs, hafter, hall⟩ := checkFrom_without_defects hsecond hapart
  have hjoined : (as.map nameValue ++ rs.map nameValue).reverse = after := by
    rw [hafter, hnames, List.reverse_append, List.append_nil]
  rw [← hjoined] at hall
  exact ⟨as, rs, by simpa using htype, hattributes, hrelationships, has, hrs, hall⟩

theorem checkSerializer_without_defects {v : Value} (h : checkSerializer v = .ok []) :
    hasField "name" v = true ∧ ∃ fields, v.get? "resource" = some (.record fields) ∧
      checkResource (.record fields) = .ok [] := by
  cases v with
  | record entries =>
      rw [checkSerializer_record] at h
      split at h
      · next fields hfields =>
        rw [map_eq_ok_iff] at h
        obtain ⟨defects, hdefects, h⟩ := h
        obtain ⟨hname, hnil⟩ := List.append_eq_nil_iff.mp h
        rw [hnil] at hdefects
        exact ⟨by simpa using hname, fields, hfields, hdefects⟩
      · simp at h
  | _ => contradiction

/-! ## What the strict reader finds -/

theorem get?_ne_none_of_hasField {key : String} {v : Value} (h : hasField key v = true) :
    v.get? key ≠ none := by
  intro hnone
  rw [hasField, hnone] at h
  contradiction

section

variable {member : Value} (hplain : member.IsPlain)

include hplain

theorem structured_attribute (h : CompleteMember .attributes member) :
    (Attribute.shape member).Structured := by
  obtain ⟨⟨entries, rfl⟩, hname, htype, -⟩ := h
  have hnameField : (required "name" text (.record entries)).Structured :=
    structured_required (by simp) (get?_ne_none_of_hasField hname)
  have htypeField : (required "type" (choice attributeKinds) (.record entries)).Structured :=
    structured_required (by simp) (get?_ne_none_of_hasField htype)
  have henumField : (maybe "enum" (list text) (.record entries)).Structured := by
    apply structured_maybe
    intro v hv
    exact structured_list (hplain.get? hv) (by simp)
  simp [Attribute.shape, attributeShape, model, hnameField, htypeField, henumField,
    structured_maybe]

omit hplain in
theorem structured_relationship (h : CompleteMember .relationships member) :
    (Relationship.shape member).Structured := by
  obtain ⟨⟨entries, rfl⟩, hname, htype, hresource⟩ := h
  have hnameField : (required "name" text (.record entries)).Structured :=
    structured_required (by simp) (get?_ne_none_of_hasField hname)
  have htypeField : (required "type" (choice relationshipKinds) (.record entries)).Structured :=
    structured_required (by simp) (get?_ne_none_of_hasField htype)
  have hresourceField : (required "resource" text (.record entries)).Structured :=
    structured_required (by simp) (get?_ne_none_of_hasField (hresource rfl))
  simp [Relationship.shape, model, hnameField, htypeField, hresourceField, structured_maybe]

theorem nameValue_of_required {name : String} (h : required "name" text member = .valid name) :
    nameValue member = .text name := by
  obtain ⟨v, hv, htext⟩ := (required_eq_valid_iff ..).mp h
  rw [text_eq_valid_iff (hplain.get? hv)] at htext
  rw [nameValue, hv, htext]
  rfl

end

theorem map_nameValue_of_forall₂ {α : Type} {shape : Shape α} {nameOf : α → String}
    (hname : ∀ member a, member.IsPlain → shape member = .valid a →
      nameValue member = .text (nameOf a))
    {items : List Value} {as : List α}
    (h : List.Forall₂ (fun item a => shape item = .valid a) items as)
    (hplain : ∀ item ∈ items, item.IsPlain) :
    items.map nameValue = as.map fun a => .text (nameOf a) := by
  induction h with
  | nil => rfl
  | @cons item a items as hitem hrest ih =>
      rw [List.forall_mem_cons] at hplain
      rw [List.map_cons, List.map_cons, hname item a hplain.1 hitem, ih hplain.2]

section

variable {α : Type} (group : Group) {resource : Value} (hplain : resource.IsPlain)
  {shape : Shape α} {members : List Value}
  (hmembers : groupElements group resource = .ok members)

include hplain hmembers

theorem structured_group (h : ∀ member ∈ members, member.IsPlain → (shape member).Structured) :
    (withDefault group.key [] (list shape) resource).Structured := by
  apply structured_withDefault
  intro v hv
  have hvPlain : v.IsPlain := hplain.get? hv
  apply structured_list hvPlain
  intro items hitems item hitem
  rw [hitems] at hv hvPlain
  have hsame : items = members :=
    Except.ok.inj ((groupElements_list group hv).symm.trans hmembers)
  rw [← hsame] at h
  exact h item hitem (hvPlain.items item hitem)

theorem nameValues_of_read {nameOf : α → String}
    (hname : ∀ member a, member.IsPlain → shape member = .valid a →
      nameValue member = .text (nameOf a))
    {as : List α} (hread : withDefault group.key [] (list shape) resource = .valid as) :
    members.map nameValue = as.map fun a => .text (nameOf a) := by
  rcases (withDefault_eq_valid_iff ..).mp hread with ⟨hnone, hempty⟩ | ⟨v, hv, hlist⟩
  · have helements : groupElements group resource = .ok [] := by
      rw [groupElements, hnone]
      rfl
    have hmembersNil : [] = members := Except.ok.inj (helements.symm.trans hmembers)
    rw [hempty, ← hmembersNil]
    rfl
  · have hvPlain : v.IsPlain := hplain.get? hv
    obtain ⟨items, hitems, hall⟩ := (list_eq_valid_iff hvPlain shape as).mp hlist
    rw [hitems] at hv hvPlain
    have hsame : items = members :=
      Except.ok.inj ((groupElements_list group hv).symm.trans hmembers)
    rw [← hsame]
    exact map_nameValue_of_forall₂ hname hall hvPlain.items

end

/-- Names that are different keys are different texts. -/
theorem nodup_of_apart {names : List String}
    (h : (names.map Value.text).reverse.Pairwise Apart) : names.Nodup := by
  rw [List.pairwise_reverse, List.pairwise_map] at h
  apply h.imp
  intro s t hapart heq
  rw [heq, Apart, Value.sameKey, beq_self_eq_true] at hapart
  contradiction

theorem structured_resource {resource : Value} (hplain : resource.IsPlain)
    (hrecord : ∃ fields, resource = .record fields) {as rs : List Value}
    (h : CompleteResource resource as rs) : (Resource.shape resource).Structured := by
  obtain ⟨fields, rfl⟩ := hrecord
  have htypeField : (required "type" text (.record fields)).Structured :=
    structured_required (by simp) (get?_ne_none_of_hasField h.type)
  have hattributesField :
      (withDefault "attributes" [] (list Attribute.shape) (.record fields)).Structured := by
    apply structured_group .attributes hplain h.attributeElements
    intro member hmember hmemberPlain
    exact structured_attribute hmemberPlain (h.attributes member hmember)
  have hrelationshipsField :
      (withDefault "relationships" [] (list Relationship.shape) (.record fields)).Structured := by
    apply structured_group .relationships hplain h.relationshipElements
    intro member hmember _
    exact structured_relationship (h.relationships member hmember)
  have hfields : (Resource.ofFields (.record fields)).Structured := by
    simp [Resource.ofFields, htypeField, hattributesField, hrelationshipsField, structured_maybe]
  rw [Resource.shape, model]
  apply hfields.andThen
  intro r hr
  -- The members that are read are the checked ones, so the rule on their names holds.
  have hread := (Resource.ofFields_eq_valid_iff ..).mp hr
  have hattributeNames : as.map nameValue = r.attributes.map fun a => .text a.name := by
    apply nameValues_of_read .attributes hplain h.attributeElements _ hread.2.1
    intro member a hmember ha
    exact nameValue_of_required hmember ((attributeShape_eq_valid_iff ..).mp ha).name
  have hrelationshipNames : rs.map nameValue = r.relationships.map fun r => .text r.name := by
    apply nameValues_of_read .relationships hplain h.relationshipElements _ hread.2.2.1
    intro member a hmember ha
    exact nameValue_of_required hmember ((Relationship.shape_eq_valid_iff ..).mp ha).name
  have hnames : r.memberNames.Nodup := by
    apply nodup_of_apart
    have hjoined : r.memberNames.map Value.text = as.map nameValue ++ rs.map nameValue := by
      rw [hattributeNames, hrelationshipNames, ResourceOf.memberNames, List.map_append,
        List.map_map, List.map_map]
      rfl
    rw [hjoined]
    exact h.names
  rw [(ResourceOf.checkMembers_eq_valid_iff r r _).mpr ⟨hnames, rfl⟩]
  apply Checked.structured_valid

/-- A record without defects has the structure that the strict reader needs. -/
theorem structured_serializer {v : Value} (hplain : v.IsPlain)
    (h : checkSerializer v = .ok []) : (Serializer.shape v).Structured := by
  obtain ⟨hname, fields, hfields, hresource⟩ := checkSerializer_without_defects h
  obtain ⟨as, rs, hcomplete⟩ := checkResource_without_defects hresource
  obtain ⟨entries, rfl⟩ := Value.exists_record_of_get? hfields
  have hnameField : (required "name" text (.record entries)).Structured :=
    structured_required (by simp) (get?_ne_none_of_hasField hname)
  have hresourceField : (required "resource" Resource.shape (.record entries)).Structured := by
    apply structured_required
    · intro w hw
      have hsame : Value.record fields = w := Option.some.inj (hfields.symm.trans hw)
      rw [← hsame]
      exact structured_resource (hplain.get? hfields) ⟨fields, rfl⟩ hcomplete
    · rw [hfields]
      simp
  simp [Serializer.shape, model, hnameField, hresourceField, structured_maybe]

/-! ## Records of plain data -/

/-- The check answers for a record of plain data exactly if the groups of its resource can be walked
and the names of their members can be keys.  It answers with a defect if the strict reader refuses
the record for its structure. -/
theorem checkSerializer_of_plain {v : Value} (hplain : v.IsPlain)
    (hrecord : ∃ entries, v = .record entries) :
    ((∃ defects, checkSerializer v = .ok defects) ↔
      ∀ fields, v.get? "resource" = some (.record fields) →
        ∀ (group : Group) (w : Value), (Value.record fields).get? group.key = some w →
          Walked w) ∧
    ∀ defects, checkSerializer v = .ok defects →
      (∃ f ∈ (Serializer.shape v).faults, f.problem.isStructural = true) → defects ≠ [] := by
  constructor
  · exact checkSerializer_answers_iff hplain hrecord
  · rintro defects hcheck ⟨f, hf, hstructural⟩ hnil
    rw [hnil] at hcheck
    have hnone : f.problem.isStructural = false := structured_serializer hplain hcheck f hf
    rw [hstructural] at hnone
    contradiction

/-- A serializer without a name, with an attribute of the given name and a relationship named
`title`. -/
def namelessRecord (name : Value) : Value :=
  .ofFields [("resource", .ofFields
    [("type", .text "books"),
      ("attributes", .list [.ofFields [("name", name), ("type", .text "string")]]),
      ("relationships", .list [.ofFields
        [("name", .text "title"), ("type", .text "has_one"), ("resource", .text "titles")]])])]

theorem isPlain_namelessRecord_iff (name : Value) :
    (namelessRecord name).IsPlain ↔ name.IsPlain := by
  simp [namelessRecord]

theorem checkSerializer_of_plain_namelessRecord :
    (namelessRecord (.text "title")).IsPlain ∧
      (∃ entries, namelessRecord (.text "title") = .record entries) ∧
      (∃ f ∈ (Serializer.shape (namelessRecord (.text "title"))).faults,
        f.problem.isStructural = true) ∧
      ∃ defects, checkSerializer (namelessRecord (.text "title")) = .ok defects ∧ defects ≠ [] := by
  have hplain : (namelessRecord (.text "title")).IsPlain :=
    (isPlain_namelessRecord_iff _).mpr (.text "title")
  have hstructural : ∃ f ∈ (Serializer.shape (namelessRecord (.text "title"))).faults,
      f.problem.isStructural = true :=
    ⟨_, List.mem_cons_self, rfl⟩
  have hcheck : checkSerializer (namelessRecord (.text "title")) =
      .ok [.noName, .repeatedName .relationships (.text "title")] := rfl
  have hdefects := (checkSerializer_of_plain hplain ⟨_, rfl⟩).2 _ hcheck hstructural
  exact ⟨hplain, ⟨_, rfl⟩, hstructural, _, hcheck, hdefects⟩

/-- A list as the name of a member is no key: the check gives up, and the missing name of the
serializer is not told. -/
theorem checkSerializer_listName :
    (namelessRecord (.list [.text "title"])).IsPlain ∧
      (∃ entries, namelessRecord (.list [.text "title"]) = .record entries) ∧
      (∃ f ∈ (Serializer.shape (namelessRecord (.list [.text "title"]))).faults,
        f.problem = .missing ∧ f.path = [.field "name"]) ∧
      checkSerializer (namelessRecord (.list [.text "title"])) = .error (.noKey .list) := by
  refine ⟨?_, ⟨_, rfl⟩, ⟨_, List.mem_cons_self, rfl, rfl⟩, rfl⟩
  rw [isPlain_namelessRecord_iff]
  simp

end ApiShapes.JsonApi
