import ApiShapes.Proofs.Document.PlainData
import ApiShapes.Proofs.JsonApi.CheckSteps
import Mathlib.Tactic

/-!
# When the check answers

The structural check gives up where the name of a member cannot be a key or a group of members
cannot be walked, and nowhere else.  Whether it does so at one member does not depend on the members
before.
-/

namespace ApiShapes.JsonApi

/-! ## Names that can be keys -/

/-- A member whose name, if one is given, can be a key. -/
def KeyedName (member : Value) : Prop :=
  ∀ name, member.get? "name" = some name → name.isGiven = true → name.isHashable = true

theorem checkName_answers_iff (group : Group) (index : Nat) (names : List Value) (name : Value) :
    (∃ result, checkName group index names name = .ok result) ↔
      (name.isGiven = true → name.isHashable = true) := by
  unfold checkName Value.asKey
  by_cases hgiven : name.isGiven = true
  · by_cases hkey : name.isHashable = true
    · simp [hgiven, hkey, Except.map]
    · simp [hgiven, hkey, Except.map]
  · simp [hgiven]

theorem checkMember_answers_iff (group : Group) (index : Nat) (names : List Value)
    (member : Value) :
    (∃ result, checkMember group index names member = .ok result) ↔ KeyedName member := by
  cases member with
  | record entries =>
      have hname : KeyedName (.record entries) ↔
          ((((Value.record entries).get? "name").getD .null).isGiven = true →
            (((Value.record entries).get? "name").getD .null).isHashable = true) := by
        unfold KeyedName
        cases (Value.record entries).get? "name" with
        | none => simp [Value.isGiven]
        | some name => simp
      rw [hname, ← checkName_answers_iff group index names, checkMember]
      simp only [map_eq_ok_iff]
      constructor
      · rintro ⟨-, found, hfound, -⟩
        exact ⟨found, hfound⟩
      · rintro ⟨found, hfound⟩
        exact ⟨_, found, hfound, rfl⟩
  | _ => simp [checkMember, KeyedName, Value.get?]

theorem checkFrom_answers_iff (group : Group) (members : List Value) (index : Nat)
    (names : List Value) :
    (∃ result, checkFrom group index names members = .ok result) ↔
      ∀ member ∈ members, KeyedName member := by
  induction members generalizing index names with
  | nil => simp [checkFrom]
  | cons member rest ih =>
      rw [List.forall_mem_cons, ← checkMember_answers_iff group index names]
      constructor
      · rintro ⟨⟨defects, after⟩, h⟩
        obtain ⟨first, used, more, hfirst, hmore, -⟩ := (checkFrom_cons_eq_ok_iff ..).mp h
        exact ⟨⟨_, hfirst⟩, (ih _ _).mp ⟨_, hmore⟩⟩
      · rintro ⟨⟨⟨first, used⟩, hfirst⟩, hrest⟩
        obtain ⟨⟨more, after⟩, hmore⟩ := (ih (index + 1) used).mpr hrest
        exact ⟨_, (checkFrom_cons_eq_ok_iff ..).mpr ⟨first, used, more, hfirst, hmore, rfl⟩⟩

theorem checkResource_answers_iff (resource : Value) :
    (∃ defects, checkResource resource = .ok defects) ↔
      ∀ group, ∃ members, groupElements group resource = .ok members ∧
        ∀ member ∈ members, KeyedName member := by
  simp only [checkResource_eq_ok_iff]
  constructor
  · rintro ⟨-, attributes, first, names, relationships, second, after, hattributes, hfirst,
      hrelationships, hsecond, -⟩ group
    cases group with
    | attributes =>
        exact ⟨attributes, hattributes, (checkFrom_answers_iff ..).mp ⟨_, hfirst⟩⟩
    | relationships =>
        exact ⟨relationships, hrelationships, (checkFrom_answers_iff ..).mp ⟨_, hsecond⟩⟩
  · intro h
    obtain ⟨attributes, hattributes, hkeyed⟩ := h .attributes
    obtain ⟨relationships, hrelationships, hkeyed'⟩ := h .relationships
    obtain ⟨⟨first, names⟩, hfirst⟩ := (checkFrom_answers_iff .attributes _ 0 []).mpr hkeyed
    obtain ⟨⟨second, after⟩, hsecond⟩ :=
      (checkFrom_answers_iff .relationships _ 0 names).mpr hkeyed'
    exact ⟨_, attributes, first, names, relationships, second, after, hattributes, hfirst,
      hrelationships, hsecond, rfl⟩

/-! ## Groups of plain data -/

/-- A value that, if it is given, can be walked as a group of members whose names can be keys. -/
structure Walked (v : Value) : Prop where
  collection : v.isGiven = true → v.kind = .list ∨ v.kind = .record ∨ v.kind = .text
  keys : ∀ members, v = .list members → ∀ member ∈ members,
    ∀ name, member.get? "name" = some name → name.isGiven = true →
      name.kind ≠ .list ∧ name.kind ≠ .record

/-- The elements of a value, none if it is not given. -/
def givenElements (v : Value) : Except Value.AccessFault (List Value) :=
  if v.isGiven then v.elements else .ok []

theorem isHashable_iff_of_plain {v : Value} (hplain : v.IsPlain) :
    v.isHashable = true ↔ v.kind ≠ .list ∧ v.kind ≠ .record := by
  cases hplain with
  | _ => simp [Value.isHashable, Value.kind]

theorem keyedName_iff_of_plain {member : Value} (hplain : member.IsPlain) :
    KeyedName member ↔ ∀ name, member.get? "name" = some name → name.isGiven = true →
      name.kind ≠ .list ∧ name.kind ≠ .record := by
  unfold KeyedName
  apply forall_congr'
  intro name
  apply forall_congr'
  intro hname
  rw [isHashable_iff_of_plain (hplain.get? hname)]

/-- Texts are no members, so they have no names that would have to be keys. -/
theorem walked_of_texts {v : Value} {parts : List Value} (hkind : v.kind = .record ∨ v.kind = .text)
    (helements : v.elements = .ok parts) (htexts : ∀ part ∈ parts, ∃ s, part = .text s) :
    (∃ members, givenElements v = .ok members ∧ ∀ member ∈ members, KeyedName member) ∧
      Walked v := by
  constructor
  · rw [givenElements, helements]
    split
    · refine ⟨parts, rfl, ?_⟩
      intro part hpart name hname
      obtain ⟨s, hs⟩ := htexts part hpart
      rw [hs] at hname
      contradiction
    · exact ⟨[], rfl, by simp⟩
  · constructor
    · exact fun _ => Or.inr hkind
    · intro members hmembers
      rw [hmembers] at hkind
      rcases hkind with hkind | hkind
      · contradiction
      · contradiction

theorem walked_iff_of_no_elements {v : Value} {fault : Value.AccessFault}
    (helements : v.elements = .error fault)
    (hkind : ¬ (v.kind = .list ∨ v.kind = .record ∨ v.kind = .text)) :
    (∃ members, givenElements v = .ok members ∧ ∀ member ∈ members, KeyedName member) ↔
      Walked v := by
  rw [givenElements, helements]
  constructor
  · rintro ⟨members, hmembers, -⟩
    split at hmembers
    · contradiction
    · next hgiven =>
      constructor
      · exact fun h => absurd h hgiven
      · intro items hitems
        rw [hitems] at hkind
        exact absurd (Or.inl rfl) hkind
  · intro h
    split
    · next hgiven => exact absurd (h.collection hgiven) hkind
    · exact ⟨[], rfl, by simp⟩

theorem walked_iff {v : Value} (hplain : v.IsPlain) :
    (∃ members, givenElements v = .ok members ∧ ∀ member ∈ members, KeyedName member) ↔
      Walked v := by
  cases hplain with
  | @list members hmembers =>
      have helements : givenElements (.list members) = .ok members := by
        cases members with
        | nil => rfl
        | cons member rest => rfl
      rw [helements]
      constructor
      · rintro ⟨found, hfound, hkeyed⟩
        cases hfound
        constructor
        · exact fun _ => Or.inl rfl
        · rintro items ⟨⟩ member hmember
          exact (keyedName_iff_of_plain (hmembers member hmember)).mp (hkeyed member hmember)
      · intro h
        refine ⟨members, rfl, ?_⟩
        intro member hmember
        exact (keyedName_iff_of_plain (hmembers member hmember)).mpr
          (h.keys members rfl member hmember)
  | @record entries hkeys hvalues =>
      have htexts : ∀ part ∈ entries.map (·.1), ∃ s, part = .text s := by
        intro part hpart
        obtain ⟨entry, hentry, rfl⟩ := List.mem_map.mp hpart
        exact hkeys entry hentry
      have hwalked := walked_of_texts (v := .record entries) (Or.inl rfl) rfl htexts
      exact iff_of_true hwalked.1 hwalked.2
  | text s =>
      have htexts : ∀ part ∈ s.toList.map fun c => Value.text (String.singleton c),
          ∃ t, part = .text t := by
        intro part hpart
        obtain ⟨c, -, rfl⟩ := List.mem_map.mp hpart
        exact ⟨_, rfl⟩
      have hwalked := walked_of_texts (v := .text s) (Or.inr rfl) rfl htexts
      exact iff_of_true hwalked.1 hwalked.2
  | null => exact walked_iff_of_no_elements rfl (by simp [Value.kind])
  | bool b => exact walked_iff_of_no_elements rfl (by simp [Value.kind])
  | int n => exact walked_iff_of_no_elements rfl (by simp [Value.kind])
  | float x => exact walked_iff_of_no_elements rfl (by simp [Value.kind])

theorem group_answers_iff {resource : Value} (hplain : resource.IsPlain) (group : Group) :
    (∃ members, groupElements group resource = .ok members ∧
      ∀ member ∈ members, KeyedName member) ↔
      ∀ v, resource.get? group.key = some v → Walked v := by
  have helements : groupElements group resource =
      givenElements ((resource.get? group.key).getD .null) := rfl
  rw [helements]
  cases hget : resource.get? group.key with
  | none =>
      apply iff_of_true
      · exact ⟨[], rfl, by simp⟩
      · intro v hv
        contradiction
  | some v =>
      rw [Option.getD_some, walked_iff (hplain.get? hget)]
      simp

/-- The check answers for a record exactly if each group of its resource can be walked. -/
theorem checkSerializer_answers_iff {v : Value} (hplain : v.IsPlain)
    (hrecord : ∃ entries, v = .record entries) :
    (∃ defects, checkSerializer v = .ok defects) ↔
      ∀ fields, v.get? "resource" = some (.record fields) →
        ∀ (group : Group) (w : Value), (Value.record fields).get? group.key = some w →
          Walked w := by
  obtain ⟨entries, rfl⟩ := hrecord
  rw [checkSerializer_record]
  split
  · next fields hfields =>
    have hresource : ((Value.record fields)).IsPlain := hplain.get? hfields
    simp only [map_eq_ok_iff, hfields, Option.some.injEq, Value.record.injEq, forall_eq',
      ← group_answers_iff hresource, ← checkResource_answers_iff]
    constructor
    · rintro ⟨-, defects, hdefects, -⟩
      exact ⟨defects, hdefects⟩
    · rintro ⟨defects, hdefects⟩
      exact ⟨_, defects, hdefects, rfl⟩
  · next hnone =>
    apply iff_of_true ⟨_, rfl⟩
    intro fields hfields
    exact absurd hfields (hnone fields)

end ApiShapes.JsonApi
