import ApiShapes.JsonApi.Builder
import ApiShapes.Proofs.JsonApi.CheckSteps
import ApiShapes.Proofs.JsonApi.DumpReading
import Mathlib.Tactic

/-!
# Built serializers

Whatever the order in which a builder is changed, it holds the members in the order in which they
were added and of each other part the value that was set last.  It builds a serializer exactly if
name and type are given and no two members share a name, and of such a serializer the structural
check can only miss a name or a target.
-/

namespace ApiShapes.JsonApi

open Shape

/-! ## Changing a builder -/

/-- A change of a builder whose members are valid and whose other parts are texts or nothing. -/
inductive Edit where
  | addAttribute (a : Attribute)
  | addRelationship (r : Relationship)
  | setDescription (s : Option String)
  | setNamespace (s : Option String)
  | setVersion (s : Option String)

namespace Edit

def attribute? : Edit → Option Attribute
  | addAttribute a => some a
  | _ => none

def relationship? : Edit → Option Relationship
  | addRelationship r => some r
  | _ => none

/-- The name of an added member of either group. -/
def memberName? : Edit → Option String
  | addAttribute a => some a.name
  | addRelationship r => some r.name
  | _ => none

def description? : Edit → Option (Option String)
  | setDescription s => some s
  | _ => none

def namespace? : Edit → Option (Option String)
  | setNamespace s => some s
  | _ => none

def version? : Edit → Option (Option String)
  | setVersion s => some s
  | _ => none

/-- The value that was set last; nothing if there was none. -/
def lastSet (set? : Edit → Option (Option String)) (edits : List Edit) : Option String :=
  ((edits.filterMap set?).getLast?).getD none

theorem lastSet_append (set? : Edit → Option (Option String)) (edits : List Edit) (e : Edit) :
    lastSet set? (edits ++ [e]) = (set? e).getD (lastSet set? edits) := by
  unfold lastSet
  cases h : set? e <;> simp [h]

end Edit

namespace Builder

def edit (b : Builder) : Edit → Builder
  | .addAttribute a => b.addAttribute a
  | .addRelationship r => b.addRelationship r
  | .setDescription s => b.setDescription (.ofText? s)
  | .setNamespace s => b.setNamespace (.ofText? s)
  | .setVersion s => b.setVersion (.ofText? s)

/-- A builder after changes made one after the other. -/
def edited (b : Builder) (edits : List Edit) : Builder :=
  edits.foldl edit b

/-- What a builder holds after changes from its start. -/
def holding (name type : Value) (edits : List Edit) : Builder :=
  { name
    type
    attributes := edits.filterMap Edit.attribute?
    relationships := edits.filterMap Edit.relationship?
    description := .ofText? (Edit.lastSet Edit.description? edits)
    ofNamespace := .ofText? (Edit.lastSet Edit.namespace? edits)
    version := .ofText? (Edit.lastSet Edit.version? edits) }

theorem edit_holding (name type : Value) (edits : List Edit) (e : Edit) :
    (holding name type edits).edit e = holding name type (edits ++ [e]) := by
  unfold holding
  simp only [Edit.lastSet_append, List.filterMap_append]
  cases e <;>
    simp [edit, addAttribute, addRelationship, setDescription, setNamespace, setVersion,
      Edit.attribute?, Edit.relationship?, Edit.description?, Edit.namespace?, Edit.version?]

theorem edited_start (name type : Value) (edits : List Edit) :
    (start name type).edited edits = holding name type edits := by
  induction edits using List.reverseRecOn with
  | nil => rfl
  | append_singleton edits e ih =>
      have hlast : (start name type).edited (edits ++ [e]) =
          ((start name type).edited edits).edit e := List.foldl_append
      rw [hlast, ih, edit_holding]

end Builder

/-- The names of the members are those of the two groups, in another order. -/
theorem perm_memberNames (edits : List Edit) :
    ((edits.filterMap Edit.attribute?).map (·.name) ++
      (edits.filterMap Edit.relationship?).map (·.name)).Perm
        (edits.filterMap Edit.memberName?) := by
  induction edits with
  | nil => rfl
  | cons e edits ih =>
      cases e with
      | addAttribute a => exact ih.cons a.name
      | addRelationship r => exact (List.perm_middle).trans (ih.cons r.name)
      | _ => exact ih

/-! ## Building -/

/-- The serializer that a builder should give: its name, its type and what the changes added or set
last. -/
def assembled (name type : String) (edits : List Edit) : Serializer :=
  { name
    resource :=
      { type
        attributes := edits.filterMap Edit.attribute?
        relationships := edits.filterMap Edit.relationship?
        description := none
        metadata := none }
    version := Edit.lastSet Edit.version? edits
    ofNamespace := Edit.lastSet Edit.namespace? edits
    description := Edit.lastSet Edit.description? edits
    metadata := none }

theorem isGiven_ofText?_iff (s : Option String) :
    (Value.ofText? s).isGiven = true ↔ ∃ t ∈ s, t ≠ "" := by
  cases s with
  | none => simp [Value.ofText?, Value.isGiven]
  | some t => simp [Value.ofText?, Value.isGiven]

namespace Builder

theorem resource_holding_eq_valid_iff (name : Value) (type : String) (edits : List Edit)
    (r : Resource) :
    (holding name (.text type) edits).resource = .valid r ↔
      (edits.filterMap Edit.memberName?).Nodup ∧ (assembled "" type edits).resource = r := by
  have hchecked : (holding name (.text type) edits).resource =
      (assembled "" type edits).resource.checkMembers
        ((assembled "" type edits).resource.dump .shown AttributeKind.name) := rfl
  rw [hchecked, ResourceOf.checkMembers_eq_valid_iff, ← (perm_memberNames edits).nodup_iff]
  rfl

theorem serializer_holding (name : String) (type : Value) (edits : List Edit) (r : Resource) :
    (holding (.text name) type edits).serializer r =
      .valid { assembled name "" edits with resource := r } := by
  simp [serializer, holding, Shape.text, optional_ofText?, assembled]

theorem build_eq_ok_iff (b : Builder) (s : Serializer) :
    b.build = .ok s ↔ b.name.isGiven = true ∧ b.type.isGiven = true ∧
      ∃ r, b.resource = .valid r ∧ b.serializer r = .valid s := by
  unfold build
  cases b.name.isGiven <;> cases b.type.isGiven <;> simp
  cases b.resource with
  | invalid faults => simp [Checked.andThen]
  | valid r =>
      cases hserializer : b.serializer r with
      | invalid faults => simp [Checked.andThen, hserializer]
      | valid t => simp [Checked.andThen, hserializer]

/-- A builder gives a serializer exactly if its name and type are given and no two of the added
members share a name. -/
theorem build_holding_iff (name type : Option String) (edits : List Edit) (s : Serializer) :
    (holding (.ofText? name) (.ofText? type) edits).build = .ok s ↔
      ∃ n ∈ name, n ≠ "" ∧ ∃ t ∈ type, t ≠ "" ∧
        (edits.filterMap Edit.memberName?).Nodup ∧ s = assembled n t edits := by
  rw [build_eq_ok_iff]
  have hname : (holding (.ofText? name) (.ofText? type) edits).name = .ofText? name := rfl
  have htype : (holding (.ofText? name) (.ofText? type) edits).type = .ofText? type := rfl
  rw [hname, htype, isGiven_ofText?_iff, isGiven_ofText?_iff]
  constructor
  · rintro ⟨⟨n, rfl, hn⟩, ⟨t, rfl, ht⟩, r, hresource, hserializer⟩
    obtain ⟨hnames, rfl⟩ := (resource_holding_eq_valid_iff _ t edits r).1 hresource
    rw [Value.ofText?, serializer_holding] at hserializer
    exact ⟨n, rfl, hn, t, rfl, ht, hnames, (Checked.valid.inj hserializer).symm⟩
  · rintro ⟨n, rfl, hn, t, rfl, ht, hnames, rfl⟩
    refine ⟨⟨n, rfl, hn⟩, ⟨t, rfl, ht⟩, (assembled "" t edits).resource, ?_, ?_⟩
    · exact (resource_holding_eq_valid_iff _ t edits _).2 ⟨hnames, rfl⟩
    · exact serializer_holding n _ edits _

end Builder

/-! ## Checking -/

/-- A member as the check sees it: a record with a text as its name and with a kind. -/
structure ShownMember (v : Value) (name : String) : Prop where
  isRecord : ∃ entries, v = .record entries
  name : v.get? "name" = some (.text name)
  kind : hasField "type" v = true

theorem AttributeKind.name_ne_empty (kind : AttributeKind) : kind.name ≠ "" := by
  cases kind <;> decide

theorem RelationshipKind.name_ne_empty (kind : RelationshipKind) : kind.name ≠ "" := by
  cases kind <;> decide

theorem hasField_text {v : Value} {key text : String} (hv : v.get? key = some (.text text)) :
    hasField key v = true ↔ text ≠ "" := by
  simp [hasField, hv, Value.isGiven]

theorem shownMember_attribute (a : Attribute) :
    ShownMember (a.dump .shown AttributeKind.name) a.name where
  isRecord := ⟨_, rfl⟩
  name := rfl
  kind := (hasField_text rfl).2 a.kind.name_ne_empty

theorem shownMember_relationship (r : Relationship) : ShownMember (r.dump .shown) r.name where
  isRecord := ⟨_, rfl⟩
  name := rfl
  kind := (hasField_text rfl).2 r.kind.name_ne_empty

theorem checkName_new (group : Group) (index : Nat) {names : List String} {name : String}
    (hnew : name ∉ names) :
    checkName group index (names.map .text) (.text name) =
      .ok (if name = "" then [.memberWithoutName group index] else [],
        (if name = "" then names else name :: names).map .text) := by
  have hunused : (names.map Value.text).any (Value.sameKey (.text name)) = false := by
    simpa [Value.sameKey] using fun other hother (heq : name = other) => hnew (heq ▸ hother)
  by_cases hname : name = ""
  · simp [checkName, Value.isGiven, hname]
  · simp [checkName, Value.isGiven, hname, Value.asKey, Value.isHashable, Except.map, hunused]

/-- The defects of a member whose name is new. -/
def memberDefects (group : Group) (index : Nat) (member : Value) (name : String) : List Defect :=
  (if name = "" then [.memberWithoutName group index] else []) ++
    if group = .relationships && !hasField "resource" member then
      [.memberWithoutResource group (.text name)] else []

theorem memberDefects_eq_nil_iff (group : Group) (index : Nat) (member : Value) (name : String) :
    memberDefects group index member name = [] ↔
      name ≠ "" ∧ (group = .relationships → hasField "resource" member = true) := by
  unfold memberDefects
  cases group <;> by_cases hname : name = "" <;> simp [hname]

/-- One step of the check: a new name is in use from then on. -/
theorem checkFrom_cons {group : Group} {index : Nat} {names : List String} {member : Value}
    {name : String} (hmember : ShownMember member name) (hnew : name ∉ names)
    (rest : List Value) :
    checkFrom group index (names.map .text) (member :: rest) =
      (checkFrom group (index + 1) ((if name = "" then names else name :: names).map .text)
        rest).map fun (more, after) => (memberDefects group index member name ++ more, after) := by
  obtain ⟨⟨entries, rfl⟩, hname, hkind⟩ := hmember
  rw [checkFrom, hname, Option.getD_some]
  simp only [checkName_new group index hnew, hkind, if_true, bind, Except.bind]
  cases checkFrom group (index + 1)
    ((if name = "" then names else name :: names).map .text) rest with
  | error fault => rfl
  | ok result => simp [memberDefects, Except.map, pure, Except.pure]

/-- Members with new and distinct names are refused for what they lack only, and no name but theirs
comes into use. -/
theorem checkFrom_members {α : Type} {value : α → Value} {nameOf : α → String}
    (hshown : ∀ m, ShownMember (value m) (nameOf m)) (group : Group) (ms : List α)
    (index : Nat) (names : List String) (hnodup : (ms.map nameOf).Nodup)
    (hnew : ∀ name ∈ ms.map nameOf, name ∉ names) :
    ∃ defects after, checkFrom group index (names.map .text) (ms.map value) =
        .ok (defects, after.map .text) ∧
      after ⊆ names ++ ms.map nameOf ∧
      (defects = [] ↔ ∀ m ∈ ms, nameOf m ≠ "" ∧
        (group = .relationships → hasField "resource" (value m) = true)) := by
  induction ms generalizing index names with
  | nil => exact ⟨[], names, rfl, by simp, by simp⟩
  | cons m ms ih =>
      obtain ⟨hother, hnodup⟩ := List.nodup_cons.1 hnodup
      obtain ⟨hm, hms⟩ := List.forall_mem_cons.1 hnew
      have hnext : ∀ name ∈ ms.map nameOf,
          name ∉ if nameOf m = "" then names else nameOf m :: names := by
        intro name hname
        split
        · exact hms name hname
        · rw [List.mem_cons, not_or]
          exact ⟨fun heq => hother (heq ▸ hname), hms name hname⟩
      obtain ⟨defects, after, hcheck, hafter, hdefects⟩ := ih (index + 1) _ hnodup hnext
      refine ⟨memberDefects group index (value m) (nameOf m) ++ defects, after, ?_, ?_, ?_⟩
      · rw [List.map_cons, checkFrom_cons (hshown m) hm, hcheck]
        rfl
      · refine fun name hname => ?_
        have hsplit := List.mem_append.1 (hafter hname)
        simp only [List.map_cons, List.mem_append, List.mem_cons]
        split at hsplit
        · exact hsplit.imp_right Or.inr
        · rw [List.mem_cons] at hsplit
          exact (or_assoc.1 hsplit).elim (fun h => Or.inr (Or.inl h)) fun h => h.imp_right Or.inr
      · rw [List.append_eq_nil_iff, hdefects, List.forall_mem_cons, memberDefects_eq_nil_iff]

theorem groupElements_list (group : Group) {resource : Value} {members : List Value}
    (hgroup : resource.get? group.key = some (.list members)) :
    groupElements group resource = .ok members := by
  rw [groupElements, hgroup]
  cases members <;> rfl

/-- The names in use after the attributes are those that the relationships start with. -/
theorem checkResource_eq {resource : Value} {attributes relationships names after : List Value}
    {first second : List Defect}
    (hattributes : resource.get? Group.attributes.key = some (.list attributes))
    (hrelationships : resource.get? Group.relationships.key = some (.list relationships))
    (hfirst : checkFrom .attributes 0 [] attributes = .ok (first, names))
    (hsecond : checkFrom .relationships 0 names relationships = .ok (second, after)) :
    checkResource resource =
      .ok ((if hasField "type" resource then [] else [.noType]) ++ first ++ second) := by
  rw [checkResource_eq_ok_iff]
  exact ⟨attributes, first, names, relationships, second, after,
    groupElements_list _ hattributes, hfirst, groupElements_list _ hrelationships, hsecond, rfl⟩

/-- No name of an attribute is the name of a relationship, so what a valid resource can lack is its
type, the name of a member or the target of a relationship. -/
theorem checkResource_dump {r : Resource} (hnames : r.memberNames.Nodup) :
    ∃ defects, checkResource (r.dump .shown AttributeKind.name) = .ok defects ∧
      (defects = [] ↔ r.type ≠ "" ∧ (∀ name ∈ r.memberNames, name ≠ "") ∧
        ∀ relationship ∈ r.relationships, relationship.resource ≠ "") := by
  obtain ⟨hattributes, hrelationships, hapart⟩ := List.nodup_append.1 hnames
  obtain ⟨first, names, hfirst, hused, hfirstnil⟩ :=
    checkFrom_members shownMember_attribute .attributes r.attributes 0 [] hattributes
      fun _ _ => List.not_mem_nil
  have hnew : ∀ name ∈ r.relationships.map (·.name), name ∉ names := fun name hname hin =>
    hapart name (by simpa using hused hin) name hname rfl
  obtain ⟨second, after, hsecond, -, hsecondnil⟩ :=
    checkFrom_members shownMember_relationship .relationships r.relationships 0 names
      hrelationships hnew
  refine ⟨_, checkResource_eq rfl rfl hfirst hsecond, ?_⟩
  have htype : hasField "type" (r.dump .shown AttributeKind.name) = true ↔ r.type ≠ "" :=
    hasField_text rfl
  have htarget : ∀ relationship : Relationship,
      hasField "resource" (relationship.dump .shown) = true ↔ relationship.resource ≠ "" :=
    fun relationship => hasField_text rfl
  rw [List.append_eq_nil_iff, List.append_eq_nil_iff, hfirstnil, hsecondnil]
  simp only [ite_eq_left_iff, List.cons_ne_nil, imp_false, not_not, htype, htarget,
    ResourceOf.memberNames, List.forall_mem_append, List.forall_mem_map, reduceCtorEq,
    false_imp_iff, and_true, true_imp_iff, forall_and, and_assoc, ne_eq]

theorem Serializer.check_of_nodup {s : Serializer} (hnames : s.resource.memberNames.Nodup) :
    ∃ defects, s.check = .ok defects ∧
      (defects = [] ↔ s.name ≠ "" ∧ s.resource.type ≠ "" ∧
        (∀ name ∈ s.resource.memberNames, name ≠ "") ∧
        ∀ relationship ∈ s.resource.relationships, relationship.resource ≠ "") := by
  obtain ⟨defects, hcheck, hdefects⟩ := checkResource_dump hnames
  have hname : hasField "name" (s.dump .shown AttributeKind.name) = true ↔ s.name ≠ "" :=
    hasField_text rfl
  have hresource : s.check = (checkResource (s.resource.dump .shown AttributeKind.name)).map
      ((if hasField "name" (s.dump .shown AttributeKind.name) then [] else [.noName]) ++ ·) := rfl
  refine ⟨_, by rw [hresource, hcheck]; rfl, ?_⟩
  rw [List.append_eq_nil_iff, hdefects]
  simp [hname]

namespace Builder

/-- What a new builder gives after changes made one after the other. -/
def buildAfter (name type : Option String) (edits : List Edit) : Except Refusal Serializer :=
  ((start (.ofText? name) (.ofText? type)).edited edits).build

/-- A builder gives a serializer exactly if its name and type are not empty and no two added members
share a name.  The serializer has the members as added and the texts as set last, and the check
finds nothing exactly if no member lacks its name and no relationship its target. -/
theorem buildAfter_agrees_with_check (name type : Option String) (edits : List Edit) :
    ((∃ s, buildAfter name type edits = .ok s) ↔
      (∃ n ∈ name, n ≠ "") ∧ (∃ t ∈ type, t ≠ "") ∧
        (edits.filterMap Edit.memberName?).Nodup) ∧
    ∀ s, buildAfter name type edits = .ok s →
      (∃ n ∈ name, ∃ t ∈ type, s = assembled n t edits) ∧
      ∃ defects, s.check = .ok defects ∧
        (defects = [] ↔ (∀ member ∈ edits.filterMap Edit.memberName?, member ≠ "") ∧
          ∀ r ∈ edits.filterMap Edit.relationship?, r.resource ≠ "") := by
  have hbuild : ∀ s, buildAfter name type edits = .ok s ↔ ∃ n ∈ name, n ≠ "" ∧ ∃ t ∈ type, t ≠ "" ∧
      (edits.filterMap Edit.memberName?).Nodup ∧ s = assembled n t edits := by
    intro s
    rw [buildAfter, edited_start, build_holding_iff]
  refine ⟨⟨?_, ?_⟩, ?_⟩
  · rintro ⟨s, hs⟩
    obtain ⟨n, hn, hname, t, ht, htype, hnames, -⟩ := (hbuild s).1 hs
    exact ⟨⟨n, hn, hname⟩, ⟨t, ht, htype⟩, hnames⟩
  · rintro ⟨⟨n, hn, hname⟩, ⟨t, ht, htype⟩, hnames⟩
    exact ⟨assembled n t edits, (hbuild _).2 ⟨n, hn, hname, t, ht, htype, hnames, rfl⟩⟩
  · intro s hs
    obtain ⟨n, hn, hname, t, ht, htype, hnames, rfl⟩ := (hbuild s).1 hs
    have hperm : (assembled n t edits).resource.memberNames.Perm
        (edits.filterMap Edit.memberName?) := perm_memberNames edits
    obtain ⟨defects, hcheck, hdefects⟩ := Serializer.check_of_nodup (hperm.nodup_iff.2 hnames)
    refine ⟨⟨n, hn, t, ht, rfl⟩, defects, hcheck, hdefects.trans ?_⟩
    have hnamed : (∀ member ∈ (assembled n t edits).resource.memberNames, member ≠ "") ↔
        ∀ member ∈ edits.filterMap Edit.memberName?, member ≠ "" := by
      simp only [hperm.mem_iff]
    rw [hnamed]
    exact ⟨fun h => h.2.2, fun h => ⟨hname, htype, h⟩⟩

/-- Changes in mixed order; the version is set twice and the description taken back. -/
def loanEdits : List Edit :=
  [.addRelationship ⟨"reader", .belongsTo, "readers", none, none, none⟩,
    .setVersion (some "1"),
    .setDescription (some "A loan"),
    .addAttribute ⟨"due", .date, none, none, none, none, none⟩,
    .setVersion (some "2"),
    .addRelationship ⟨"copies", .hasMany, "copies", none, none, none⟩,
    .setDescription none,
    .addAttribute ⟨"renewals", .number, some true, none, none, none, none⟩]

theorem buildAfter_agrees_with_check_loanEdits :
    (∃ s, buildAfter (some "LoanSerializer") (some "loans") loanEdits = .ok s ∧
      s.resource.memberNames = ["due", "renewals", "reader", "copies"] ∧
      s.version = some "2" ∧ s.description = none ∧ s.check = .ok []) ∧
    ¬∃ s, buildAfter (some "LoanSerializer") (some "loans")
      (loanEdits ++ [.addAttribute ⟨"reader", .string, none, none, none, none, none⟩]) = .ok s := by
  constructor
  · obtain ⟨hbuilds, hbuilt⟩ :=
      buildAfter_agrees_with_check (some "LoanSerializer") (some "loans") loanEdits
    obtain ⟨s, hs⟩ := hbuilds.2 ⟨⟨_, rfl, by decide⟩, ⟨_, rfl, by decide⟩, by decide⟩
    obtain ⟨⟨n, hn, t, ht, rfl⟩, defects, hcheck, hdefects⟩ := hbuilt s hs
    cases hn
    cases ht
    rw [hdefects.2 ⟨by decide, by decide⟩] at hcheck
    exact ⟨_, hs, rfl, rfl, rfl, hcheck⟩
  · rw [(buildAfter_agrees_with_check _ _ _).1]
    exact fun ⟨_, _, hnames⟩ => absurd hnames (by decide)

end Builder

end ApiShapes.JsonApi
