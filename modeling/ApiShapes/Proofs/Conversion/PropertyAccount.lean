import ApiShapes.Conversion.Schema
import ApiShapes.Proofs.JsonApi.DumpReading
import ApiShapes.Proofs.Text.Occurrence
import ApiShapes.Proofs.TypeSpec.FirstOfEachName
import Mathlib.Tactic

/-!
# Accounts of properties

Any definition is converted to a schema, and each of its models to a serializer.  The first property
of each name becomes a member, a relationship if its type names a model and an attribute if not, and
every other property is reported as repeated.  So the members of a serializer have distinct names,
and the schema is read back from its dump.
-/

namespace ApiShapes.Conversion

open JsonApi Text TypeSpec

/-! ## Warnings of repeated properties -/

def Warning.isRepeat (w : Warning) : Bool :=
  startsWith "Skipping duplicate property".toList w.message.toList

@[simp] def Warning.tellsRepeat : Warning → Bool
  | .propertyRepeated .. => true
  | _ => false

@[simp] theorem isRepeat_eq_tellsRepeat (w : Warning) : w.isRepeat = w.tellsRepeat := by
  unfold Warning.isRepeat Warning.message
  cases w with
  | propertyRepeated =>
      simp only [String.append_assoc]
      exact startsWith_append_of_prefix _ (by decide)
  | memberSkipped group | memberRepeated group =>
      simp only [String.append_assoc]
      rw [← String.append_assoc]
      -- The messages differ only in the word for a member.
      cases group with
      | attributes => exact startsWith_append_of_differ _ (by decide) (by decide)
      | relationships => exact startsWith_append_of_differ _ (by decide) (by decide)
  | _ =>
      simp only [String.append_assoc]
      exact startsWith_append_of_differ _ (by decide) (by decide)

theorem tellsRepeat_attributeOf (model : String) (p : Property) :
    ∀ w ∈ (attributeOf model p).2, w.tellsRepeat = false := by
  intro w hw
  unfold attributeOf readType readElement at hw
  grind [Warning.tellsRepeat]

/-! ## The members of a model -/

/-- The attributes that properties become whose types name no model. -/
def attributeMembers (model : String) (ps : List Property) : List Attribute :=
  (ps.filter fun p => !isModelReference p.type).map fun p => (attributeOf model p).1

/-- The relationships that properties become whose types name a model. -/
def relationshipMembers (ps : List Property) : List Relationship :=
  (ps.filter fun p => isModelReference p.type).map relationshipOf

/-- What is known of the members that properties become after others with the names seen. -/
structure MembersAccount (model : String) (seen : List String) (ps : List Property)
    (m : ModelMembers) : Prop where
  attributes : m.attributes =
    attributeMembers model (firstOfEachName (ps.filter fun p => p.name ∉ seen))
  relationships : m.relationships =
    relationshipMembers (firstOfEachName (ps.filter fun p => p.name ∉ seen))
  count : ps.length =
    m.attributes.length + m.relationships.length + m.warnings.countP Warning.isRepeat
  recorded : ∀ w ∈ m.warnings, w.isRepeat = true → ∃ name, w = .propertyRepeated name model

namespace MembersAccount

variable {model : String} {seen : List String} {p : Property} {ps : List Property}
  {m : ModelMembers}

theorem ofRepeated (hseen : p.name ∈ seen) (h : MembersAccount model seen ps m) :
    MembersAccount model seen (p :: ps)
      { m with warnings := .propertyRepeated p.name model :: m.warnings } := by
  have hdropped : (p :: ps).filter (fun q => q.name ∉ seen) =
      ps.filter fun q => q.name ∉ seen := by
    simp [hseen]
  obtain ⟨hattributes, hrelationships, hcount, hrecorded⟩ := h
  constructor
  · rw [hdropped]
    exact hattributes
  · rw [hdropped]
    exact hrelationships
  · simp only [List.length_cons, List.countP_cons, isRepeat_eq_tellsRepeat, Warning.tellsRepeat,
      if_true] at hcount ⊢
    omega
  · intro w hw hrepeat
    rcases List.mem_cons.1 hw with rfl | hw
    · exact ⟨p.name, rfl⟩
    · exact hrecorded w hw hrepeat

theorem ofRelationship (hnew : p.name ∉ seen) (href : isModelReference p.type = true)
    (h : MembersAccount model (p.name :: seen) ps m) :
    MembersAccount model seen (p :: ps)
      { m with relationships := relationshipOf p :: m.relationships } := by
  obtain ⟨hattributes, hrelationships, hcount, hrecorded⟩ := h
  constructor
  · rw [firstOfEachName_filter_cons_of_new hnew]
    simpa [attributeMembers, href] using hattributes
  · rw [firstOfEachName_filter_cons_of_new hnew]
    simpa [relationshipMembers, href] using hrelationships
  · simp only [List.length_cons]
    omega
  · exact hrecorded

theorem ofAttribute (hnew : p.name ∉ seen) (href : isModelReference p.type = false)
    (h : MembersAccount model (p.name :: seen) ps m) :
    MembersAccount model seen (p :: ps)
      { m with
        attributes := (attributeOf model p).1 :: m.attributes
        warnings := (attributeOf model p).2 ++ m.warnings } := by
  have hown := tellsRepeat_attributeOf model p
  obtain ⟨hattributes, hrelationships, hcount, hrecorded⟩ := h
  constructor
  · rw [firstOfEachName_filter_cons_of_new hnew]
    simpa [attributeMembers, href] using hattributes
  · rw [firstOfEachName_filter_cons_of_new hnew]
    simpa [relationshipMembers, href] using hrelationships
  · have hnone : (attributeOf model p).2.countP Warning.isRepeat = 0 := by
      rw [List.countP_eq_zero]
      simpa using hown
    simp only [List.length_cons, List.countP_append, hnone]
    omega
  · intro w hw hrepeat
    rcases List.mem_append.1 hw with hw | hw
    · rw [isRepeat_eq_tellsRepeat, hown w hw] at hrepeat
      cases hrepeat
    · exact hrecorded w hw hrepeat

end MembersAccount

theorem membersFrom_account (model : String) (seen : List String) (ps : List Property) :
    MembersAccount model seen ps (membersFrom model seen ps) := by
  -- A property that is read takes its name, so the account is for any names seen before.
  induction ps generalizing seen with
  | nil => exact ⟨rfl, rfl, rfl, nofun⟩
  | cons p ps ih =>
      rw [membersFrom]
      by_cases hseen : p.name ∈ seen
      · rw [if_pos (List.contains_iff_mem.2 hseen)]
        exact (ih seen).ofRepeated hseen
      · rw [if_neg (by simpa using hseen)]
        cases href : isModelReference p.type with
        | true =>
            rw [if_pos rfl]
            exact (ih _).ofRelationship hseen href
        | false =>
            rw [if_neg Bool.false_ne_true]
            have haccount := (ih _).ofAttribute hseen href
            generalize attributeOf model p = result at haccount ⊢
            exact haccount

/-! ## The serializers of a definition -/

/-- The names of members are the names of the properties, those of attributes first. -/
theorem memberNames_perm (model : String) (ps : List Property) :
    ((attributeMembers model ps).map (·.name) ++ (relationshipMembers ps).map (·.name)).Perm
      (ps.map (·.name)) := by
  have hsplit : ∀ isReference : Property → Bool,
      ((ps.filter fun p => !isReference p) ++ ps.filter isReference).Perm ps :=
    fun isReference => List.perm_append_comm.trans (List.filter_append_perm isReference ps)
  have hattribute : ∀ p, (attributeOf model p).1.name = p.name := fun p => by rw [attributeOf]
  have hrelationship : ∀ p, (relationshipOf p).name = p.name := fun p => by rw [relationshipOf]
  have hnames := (hsplit fun p => isModelReference p.type).map (·.name)
  rw [List.map_append] at hnames
  simpa only [attributeMembers, relationshipMembers, List.map_map, Function.comp_def, hattribute,
    hrelationship] using hnames

/-- What a model becomes: a serializer with a member for each name of its properties, made of the
first property of this name, and a warning for every other property. -/
structure ModelAccount (m : Model) (result : Serializer × List Warning) : Prop where
  name : result.1.name = serializerName m.name
  type : result.1.resource.type = snakeCase m.name
  attributes : result.1.resource.attributes =
    attributeMembers m.name (firstOfEachName m.properties)
  relationships : result.1.resource.relationships =
    relationshipMembers (firstOfEachName m.properties)
  distinct : result.1.resource.memberNames.Nodup
  members : ∀ name, name ∈ result.1.resource.memberNames ↔ name ∈ m.properties.map (·.name)
  count : m.properties.length =
    result.1.resource.attributes.length + result.1.resource.relationships.length +
      result.2.countP Warning.isRepeat
  recorded : ∀ w ∈ result.2, w.isRepeat = true → ∃ name, w = .propertyRepeated name m.name

theorem serializerOf_account (options : Options) (m : Model) :
    ∃ result, serializerOf options m = .valid result ∧ ModelAccount m result := by
  obtain ⟨hattributes, hrelationships, hcount, hrecorded⟩ :=
    membersFrom_account m.name [] m.properties
  rw [List.filter_eq_self.2 (by simp)] at hattributes hrelationships
  have hperm := memberNames_perm m.name (firstOfEachName m.properties)
  rw [← hattributes, ← hrelationships] at hperm
  have hdistinct := hperm.nodup_iff.2 (nodup_firstOfEachName m.properties)
  refine ⟨_, (Checked.map_eq_valid_iff ..).2
    ⟨_, (ResourceOf.checkMembers_eq_valid_iff ..).2 ⟨hdistinct, rfl⟩, rfl⟩, ?_⟩
  exact
    { name := rfl
      type := rfl
      attributes := hattributes
      relationships := hrelationships
      distinct := hdistinct
      members := fun name => hperm.mem_iff.trans mem_names_firstOfEachName
      count := hcount
      recorded := hrecorded }

theorem serializersOf_accounts (options : Options) (ms : List Model) :
    ∃ results, serializersOf options ms = .valid results ∧
      List.Forall₂ ModelAccount ms results := by
  induction ms with
  | nil => exact ⟨[], rfl, .nil⟩
  | cons m ms ih =>
      obtain ⟨result, hresult, haccount⟩ := serializerOf_account options m
      obtain ⟨results, hresults, haccounts⟩ := ih
      refine ⟨result :: results, ?_, .cons haccount haccounts⟩
      rw [serializersOf, hresult, hresults]
      rfl

/-- Any definition is converted without failures.  Its models correspond to the serializers, each of
which accounts for the properties of its model, and the schema is read back from its dump. -/
theorem schemaOfDefinition_accounts (d : Definition) (options : Options) :
    ∃ r results, schemaOfDefinition d options = .valid r ∧ r.failures = [] ∧
      List.Forall₂ ModelAccount (d.namespaces.flatMap (·.models)) results ∧
      r.data.serializers = results.map (·.1) ∧ r.warnings = results.flatMap (·.2) ∧
      Schema.read (r.data.dump .shown) = .ok r.data := by
  obtain ⟨results, hresults, haccounts⟩ := serializersOf_accounts options d.models
  have hdistinct : ∀ s ∈ results.map (·.1), s.resource.memberNames.Nodup := by
    intro s hs
    obtain ⟨result, hresult, rfl⟩ := List.mem_map.1 hs
    obtain ⟨m, -, haccount⟩ := exists_mem_of_forall₂ haccounts hresult
    exact haccount.distinct
  exact ⟨_, results, (Checked.map_eq_valid_iff ..).2 ⟨results, hresults, rfl⟩, rfl, haccounts, rfl,
    rfl, Schema.read_dump .shown hdistinct⟩

end ApiShapes.Conversion
