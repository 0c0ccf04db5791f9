import ApiShapes.Proofs.Conversion.PropertyAccount
import ApiShapes.Proofs.TypeExpr.LiteralUnion
import Mathlib.Tactic

/-!
# Arrays among members

A property of an array type should become a member that holds many values: a relationship to many
resources if its elements are models, and an attribute of the kind of arrays if not.  The type of a
property is looked at in a fixed order, in which records come before arrays.  So every array becomes
such a member unless its text starts as that of a record; an array of records becomes an attribute
for one object.
-/

namespace ApiShapes.Conversion

open JsonApi Text TypeExpr TypeSpec

/-- The type of a property without its null. -/
def baseType (p : Property) : List Char :=
  (splitNull p.type.toList).1

/-- A resource has a member of the name that holds many values. -/
def HoldsMany (r : Resource) (name : String) : Prop :=
  (∃ a ∈ r.attributes, a.name = name ∧ a.kind = .array) ∨
    ∃ q ∈ r.relationships, q.name = name ∧ q.kind = .hasMany

instance (r : Resource) (name : String) : Decidable (HoldsMany r name) :=
  inferInstanceAs (Decidable (_ ∨ _))

/-! ## Kinds of members -/

theorem isSome_element?_iff (t : List Char) : (element? t).isSome = true ↔ arraySuffix <:+ t := by
  rw [← not_iff_not, Bool.not_eq_true, Option.isSome_eq_false_iff, Option.isNone_iff_eq_none]
  exact beforeSuffix?_eq_none_iff

/-- The brackets of an array of records stand behind what makes it start as a record. -/
theorem recordPrefix_element {t element : List Char} (h : element? t = some element) :
    recordPrefix <+: element ↔ recordPrefix <+: t := by
  obtain rfl := beforeSuffix?_eq_some_iff.1 h
  constructor
  · exact fun hrecord => hrecord.trans (List.prefix_append ..)
  · exact prefix_of_prefix_append (c := '[') (by decide)

theorem typeIsRecord_iff (t : List Char) : TypeExpr.isRecord t = true ↔ recordPrefix <+: t :=
  startsWith_iff

theorem kind_relationshipOf (p : Property) :
    (relationshipOf p).kind = .hasMany ↔ arraySuffix <:+ baseType p := by
  rw [← isSome_element?_iff, relationshipOf, baseType]
  dsimp only
  cases (element? (splitNull p.type.toList).1).isSome <;> simp

theorem kind_readElement (model property : String) (element : List Char) :
    (readElement model property element).kind = .array := by
  unfold readElement
  dsimp only
  split <;> rfl

/-- No primitive is an array. -/
theorem kindOfPrimitive?_ne_array (name : String) : kindOfPrimitive? name ≠ some .array := by
  have htable : ∀ entry ∈ primitiveKinds, entry.2 ≠ .array := by decide
  intro hkind
  obtain ⟨before, after, hsplit, -⟩ := List.lookup_eq_some_iff.1 hkind
  exact htable (name, .array) (by simp [hsplit]) rfl

theorem kind_attributeOf (model : String) {p : Property} (hunion : ¬ separator <:+: baseType p) :
    (attributeOf model p).1.kind = .array ↔
      arraySuffix <:+ baseType p ∧ ¬ recordPrefix <+: baseType p := by
  have hkind : (attributeOf model p).1.kind = (readType model p.name (baseType p)).kind := by
    rw [attributeOf, baseType]
  rw [hkind, readType, if_neg (mt (isUnion_iff _).1 hunion), ← isSome_element?_iff,
    ← typeIsRecord_iff]
  by_cases hrecord : TypeExpr.isRecord (baseType p) = true
  · simp [hrecord]
  · rw [if_neg hrecord]
    cases element? (baseType p) with
    | some element => simp [kind_readElement, hrecord]
    | none =>
        cases hprimitive : kindOfPrimitive? (String.ofList (baseType p)) with
        | none => simp
        | some kind =>
            have hne : kind ≠ .array := by
              rintro rfl
              exact kindOfPrimitive?_ne_array _ hprimitive
            simp [hne]

/-- The name of a model does not start as a record. -/
theorem not_record_of_isModelReference {p : Property} (h : isModelReference p.type = true) :
    ¬ recordPrefix <+: baseType p := by
  have hreference : ¬ recordPrefix <+: referenceBase p.type := by
    rw [← typeIsRecord_iff]
    intro hrecord
    simp [isModelReference, hrecord] at h
  have hbase : referenceBase p.type = (element? (baseType p)).getD (baseType p) := rfl
  rw [hbase] at hreference
  cases helement : element? (baseType p) with
  | none => rwa [helement] at hreference
  | some element => rwa [helement, Option.getD_some, recordPrefix_element helement] at hreference

/-! ## Members of models -/

theorem eq_of_mem_firstOfEachName {ps : List Property} {p q : Property}
    (hp : ps.find? (·.name = p.name) = some p) (hq : q ∈ firstOfEachName ps)
    (hname : q.name = p.name) : q = p := by
  rw [← find?_firstOfEachName] at hp
  exact List.inj_on_of_nodup_map (nodup_firstOfEachName ps) hq (List.mem_of_find?_eq_some hp) hname

/-- Whether a property holds many values depends on the member that the first property of its name
becomes. -/
theorem holdsMany_iff {m : Model} {result : Serializer × List Warning} (h : ModelAccount m result)
    {p : Property} (hp : m.properties.find? (·.name = p.name) = some p) :
    HoldsMany result.1.resource p.name ↔
      isModelReference p.type = false ∧ (attributeOf m.name p).1.kind = .array ∨
        isModelReference p.type = true ∧ (relationshipOf p).kind = .hasMany := by
  have hmem : p ∈ firstOfEachName m.properties := by
    rw [← find?_firstOfEachName] at hp
    exact List.mem_of_find?_eq_some hp
  unfold HoldsMany
  rw [h.attributes, h.relationships, attributeMembers, relationshipMembers]
  simp only [List.mem_map, List.mem_filter]
  constructor
  · rintro (⟨a, ⟨q, ⟨hq, hreference⟩, rfl⟩, hname, hkind⟩ |
      ⟨r, ⟨q, ⟨hq, hreference⟩, rfl⟩, hname, hkind⟩)
    · obtain rfl := eq_of_mem_firstOfEachName hp hq hname
      exact Or.inl ⟨by simpa using hreference, hkind⟩
    · obtain rfl := eq_of_mem_firstOfEachName hp hq hname
      exact Or.inr ⟨hreference, hkind⟩
  · rintro (⟨hreference, hkind⟩ | ⟨hreference, hkind⟩)
    · exact Or.inl ⟨_, ⟨p, ⟨hmem, by simp [hreference]⟩, rfl⟩, rfl, hkind⟩
    · exact Or.inr ⟨_, ⟨p, ⟨hmem, hreference⟩, rfl⟩, rfl, hkind⟩

theorem holdsMany_of_account {m : Model} {result : Serializer × List Warning}
    (h : ModelAccount m result) {p : Property}
    (hp : m.properties.find? (·.name = p.name) = some p) (hunion : ¬ separator <:+: baseType p) :
    HoldsMany result.1.resource p.name ↔
      arraySuffix <:+ baseType p ∧ ¬ recordPrefix <+: baseType p := by
  rw [holdsMany_iff h hp]
  cases hreference : isModelReference p.type with
  | false => simp [kind_attributeOf m.name hunion]
  | true => simp [kind_relationshipOf, not_record_of_isModelReference hreference]

theorem schemaOfDefinition_serializers (d : Definition) (options : Options) :
    ∃ r results, schemaOfDefinition d options = .valid r ∧
      r.data.serializers = results.map (·.1) ∧ List.Forall₂ ModelAccount d.models results := by
  obtain ⟨results, hresults, haccounts⟩ := serializersOf_accounts options d.models
  exact ⟨_, results, (Checked.map_eq_valid_iff ..).2 ⟨results, hresults, rfl⟩, rfl, haccounts⟩

/-- Any definition is converted to one serializer for each model.  Of the first properties of each
name whose types are no unions, those become members that hold many values whose types are arrays
and do not start as records. -/
theorem arrays_become_many (d : Definition) (options : Options) :
    ∃ r, schemaOfDefinition d options = .valid r ∧
      List.Forall₂
        (fun m s => ∀ p, m.properties.find? (·.name = p.name) = some p →
          ¬ separator <:+: baseType p →
            (HoldsMany s.resource p.name ↔
              arraySuffix <:+ baseType p ∧ ¬ recordPrefix <+: baseType p))
        d.models r.data.serializers := by
  obtain ⟨r, results, hr, hserializers, haccounts⟩ := schemaOfDefinition_serializers d options
  refine ⟨r, hr, ?_⟩
  rw [hserializers, List.forall₂_map_right_iff]
  refine haccounts.imp ?_
  intro m result haccount p hp hunion
  exact holdsMany_of_account haccount hp hunion

/-- The lines of an order, of a given type. -/
def orderLines (type : String) : Property :=
  ⟨"lines", type, false, none, none⟩

def orderModel (type : String) : Model :=
  { name := "Order"
    properties := [orderLines type, ⟨"tags", "Tag[] | null", true, none, none⟩]
    bases := []
    description := none
    decorators := [] }

def orderDefinition (type : String) : Definition :=
  { namespaces := [⟨"Shop", [orderModel type], [], [], none⟩]
    imports := []
    title := none
    version := none
    description := none }

/-- An array of records becomes an attribute for one object. -/
theorem records_become_object :
    arraySuffix <:+ baseType (orderLines "Record<string, unknown>[]") ∧
      ¬ separator <:+: baseType (orderLines "Record<string, unknown>[]") ∧
      ∃ r s, schemaOfDefinition (orderDefinition "Record<string, unknown>[]") .default = .valid r ∧
        r.data.serializers = [s] ∧
        s.resource.attributes.map (fun a => (a.name, a.kind)) = [("lines", .object)] ∧
        ¬ HoldsMany s.resource "lines" := by
  have hsuffix : arraySuffix <:+ baseType (orderLines "Record<string, unknown>[]") := by
    decide
  have hunion : ¬ separator <:+: baseType (orderLines "Record<string, unknown>[]") := by
    decide
  have hrecord : recordPrefix <+: baseType (orderLines "Record<string, unknown>[]") := by
    decide
  obtain ⟨r, results, hr, hserializers, haccounts⟩ :=
    schemaOfDefinition_serializers (orderDefinition "Record<string, unknown>[]") .default
  obtain ⟨result, rest, haccount, hrest, rfl⟩ := List.forall₂_cons_left_iff.1 haccounts
  obtain rfl := List.forall₂_nil_left_iff.1 hrest
  refine ⟨hsuffix, hunion, r, result.1, hr, hserializers, ?_, ?_⟩
  · rw [haccount.attributes]
    decide
  · have hmany := holdsMany_of_account haccount (p := orderLines "Record<string, unknown>[]") rfl
      hunion
    exact fun h => (hmany.1 h).2 hrecord

end ApiShapes.Conversion
