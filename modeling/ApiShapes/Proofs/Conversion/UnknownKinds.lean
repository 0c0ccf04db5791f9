import ApiShapes.Proofs.Conversion.SchemaRoundTrip
import ApiShapes.Proofs.Conversion.SilentReading
import Mathlib.Tactic

/-!
# Reports of unknown kinds

An attribute without enumerated values has the type `unknown`, or an array of it, if the table lacks
its kind or the kind of its elements.  The conversion then records one warning that names the
attribute and that kind.  The empty kind is the exception: it counts as absent, so its attribute is
`unknown` without a warning.
-/

namespace ApiShapes.Conversion

open JsonApi TypeExpr TypeSpec

/-! ## Unknown types -/

def IsUnknown (type : String) : Prop :=
  type = "unknown" ∨ type = "unknown[]"

instance (type : String) : Decidable (IsUnknown type) :=
  inferInstanceAs (Decidable (_ ∨ _))

theorem simpleType_eq_unknown_iff (kind : String) :
    simpleType kind = unknownType ↔ kindTypes.lookup kind = none := by
  unfold simpleType
  cases hkind : kindTypes.lookup kind with
  | none => simp
  | some type =>
      have hknown : ∀ t ∈ kindTypes.map (·.2), t ≠ unknownType := by decide
      have hmem : type ∈ kindTypes.map (·.2) := by
        obtain ⟨before, after, hsplit, -⟩ := List.lookup_eq_some_iff.mp hkind
        rw [hsplit]
        simp
      simpa using hknown type hmem

theorem isUnknown_simpleType_iff (kind : String) :
    IsUnknown (simpleType kind) ↔ kindTypes.lookup kind = none := by
  have htable : ∀ type ∈ simpleTypes, IsUnknown type ↔ type = unknownType := by decide
  rw [htable _ (simpleType_mem kind), simpleType_eq_unknown_iff]

theorem isUnknown_array_iff (kind : String) :
    IsUnknown (simpleType kind ++ "[]") ↔ kindTypes.lookup kind = none := by
  have htable : ∀ type ∈ simpleTypes, IsUnknown (type ++ "[]") ↔ type = unknownType := by decide
  rw [htable _ (simpleType_mem kind), simpleType_eq_unknown_iff]

theorem unmappedKind_eq_some_iff (kind : String) (items : Option String) (target : String) :
    unmappedKind kind items = some target ↔
      given? (if kind = "array" then items else some kind) = some target ∧
        kindTypes.lookup target = none := by
  unfold unmappedKind
  cases given? (if kind = "array" then items else some kind) with
  | none => simp
  | some given =>
      rw [Option.some.injEq]
      by_cases hlookup : kindTypes.lookup given = none
      · simp only [hlookup, Option.isSome_none, Bool.false_eq_true, if_false, Option.some.injEq]
        constructor
        · rintro rfl
          exact ⟨rfl, hlookup⟩
        · exact And.left
      · simp only [Option.isSome_iff_ne_none.mpr hlookup, if_true]
        constructor
        · intro h
          contradiction
        · rintro ⟨rfl, hnone⟩
          contradiction

/-- The types of unmapped kinds are the unknown ones, apart from the empty kind. -/
theorem isUnknown_typeOfKind_iff (kind : String) (items : Option String) :
    IsUnknown (typeOfKind kind items) ↔ (unmappedKind kind items).isSome ∨ kind = "" := by
  simp only [Option.isSome_iff_exists, unmappedKind_eq_some_iff]
  by_cases harray : kind = "array"
  · have hne : kind ≠ "" := by
      rw [harray]
      decide
    rw [typeOfKind, if_pos harray, if_pos harray, or_iff_left hne]
    cases given? items with
    | none => simp [IsUnknown]
    | some element => simp [isUnknown_array_iff]
  · rw [typeOfKind, if_neg harray, if_neg harray, isUnknown_simpleType_iff]
    by_cases hempty : kind = ""
    · rw [hempty]
      decide
    · simp [given?, hempty]

theorem splitNullable_withNull_typeOfKind (kind : String) (items : Option String)
    (nullable : Bool) :
    splitNullable (withNull nullable (typeOfKind kind items)) =
      (typeOfKind kind items, nullable) := by
  have htable : ∀ type ∈ simpleTypes ++ simpleTypes.map (· ++ "[]"),
      Text.trim type.toList = type.toList ∧ ¬ nullSuffix <:+ type.toList ∧ type ≠ "" := by
    decide
  obtain ⟨htrim, hnull, hne⟩ := htable _ (typeOfKind_mem kind items)
  rw [splitNullable, splitNull_withNull ⟨htrim, hnull⟩ hne]
  simp only [String.ofList_toList]

/-! ## Warnings about kinds -/

/-- The attribute whose kind a warning tells. -/
def Warning.attribute? : Warning → Option String
  | .kindUnknown _ name _ => some name
  | _ => none

def kindWarnings (name : String) (warnings : List Warning) : List Warning :=
  warnings.filter fun w => w.attribute? = some name

theorem kindWarnings_of_none {name : String} {warnings : List Warning}
    (h : ∀ w ∈ warnings, w.attribute? = none) : kindWarnings name warnings = [] := by
  rw [kindWarnings, List.filter_eq_nil_iff]
  intro w hw
  simp [h w hw]

section

variable {α : Type} {group : MemberGroup} {serializer : String}
  {salvage : Value → Checked (Outcome α)} {nameOf : α → String} {seen : List String}
  {m : Members α}

theorem salvageFrom_tells_no_kind {index : Nat} {raws : List Value}
    (h : salvageFrom group serializer salvage nameOf index seen raws = .valid m) :
    ∀ w ∈ m.warnings, w.attribute? = none := by
  induction raws generalizing index seen m with
  | nil =>
      cases h
      simp
  | cons raw raws ih =>
      rw [salvageFrom, Checked.andThen_eq_valid_iff] at h
      obtain ⟨outcome, -, hrest⟩ := h
      cases outcome with
      | skipped fault =>
          obtain ⟨rest, hvalid, rfl⟩ := (Checked.map_eq_valid_iff ..).mp hrest
          exact List.forall_mem_cons.mpr ⟨rfl, ih hvalid⟩
      | kept a =>
          dsimp only at hrest
          split at hrest
          · obtain ⟨rest, hvalid, rfl⟩ := (Checked.map_eq_valid_iff ..).mp hrest
            exact List.forall_mem_cons.mpr ⟨rfl, ih hvalid⟩
          · obtain ⟨rest, hvalid, rfl⟩ := (Checked.map_eq_valid_iff ..).mp hrest
            have hsame : ∀ w ∈ rest.warnings, w.attribute? = none := ih hvalid
            exact hsame

theorem salvageGroup_tells_no_kind {resource : Value}
    (h : salvageGroup group serializer salvage nameOf seen resource = .valid m) :
    ∀ w ∈ m.warnings, w.attribute? = none := by
  unfold salvageGroup at h
  split at h
  · cases h
    dsimp only
    split
    · simp [Warning.attribute?]
    · simp
  · exact salvageFrom_tells_no_kind h
  · cases h
    simp [Warning.attribute?]

end

theorem salvageMembers_tells_no_kind {name type : String} {raw resource : Value}
    {s : LooseSerializer} {warnings : List Warning}
    (h : salvageMembers name type raw resource = .valid (s, warnings)) :
    ∀ w ∈ warnings, w.attribute? = none := by
  rw [salvageMembers, Checked.andThen_eq_valid_iff] at h
  obtain ⟨attributes, hattributes, h⟩ := h
  rw [Checked.andThen_eq_valid_iff] at h
  obtain ⟨relationships, hrelationships, h⟩ := h
  obtain ⟨r, -, heq⟩ := (Checked.map_eq_valid_iff ..).mp h
  have hwarnings : attributes.warnings ++ relationships.warnings = warnings := (Prod.mk.inj heq).2
  rw [← hwarnings, List.forall_mem_append]
  exact ⟨salvageGroup_tells_no_kind hattributes, salvageGroup_tells_no_kind hrelationships⟩

/-- Reading a serializer tells nothing about the kinds of its attributes. -/
theorem salvageSerializer_tells_no_kind {index : Nat} {raw : Value}
    {result : Option LooseSerializer × List Warning}
    (h : salvageSerializer index raw = .valid result) : ∀ w ∈ result.2, w.attribute? = none := by
  have hunnamed : ∀ w ∈ (if (textField "name" raw).isNone then [Warning.serializerWithoutName index]
      else []), w.attribute? = none := by
    split
    · simp [Warning.attribute?]
    · simp
  unfold salvageSerializer at h
  split at h
  · cases h
    simp [Warning.attribute?]
  · dsimp only at h
    split at h
    · cases h
      rw [List.forall_mem_append]
      exact ⟨hunnamed, by simp [Warning.attribute?]⟩
    · split at h
      · cases h
        rw [List.forall_mem_append]
        exact ⟨hunnamed, by simp [Warning.attribute?]⟩
      · obtain ⟨⟨s, warnings⟩, hmembers, rfl⟩ := (Checked.map_eq_valid_iff ..).mp h
        rw [List.forall_mem_append]
        exact ⟨hunnamed, salvageMembers_tells_no_kind hmembers⟩

/-! ## The warnings of one attribute -/

theorem attributeType_of_valueless {a : LooseAttribute} (h : a.enum.getD [] = []) :
    attributeType a = typeOfKind a.kind a.items := by
  unfold attributeType
  split
  · next v vs hvalues =>
    rw [hvalues] at h
    contradiction
  · rfl

theorem attributeWarnings_of_valueless (serializer : String) {a : LooseAttribute}
    (h : a.enum.getD [] = []) :
    attributeWarnings serializer a =
      ((unmappedKind a.kind a.items).map fun kind => .kindUnknown kind a.name serializer).toList := by
  unfold attributeWarnings
  split
  · next v vs hvalues =>
    rw [hvalues] at h
    contradiction
  · rfl

theorem attribute?_of_mem_attributeWarnings {serializer : String} {a : LooseAttribute} {w : Warning}
    (hw : w ∈ attributeWarnings serializer a) : w.attribute? = some a.name := by
  unfold attributeWarnings at hw
  split at hw
  · contradiction
  · rw [Option.mem_toList, Option.map_eq_some_iff] at hw
    obtain ⟨kind, -, rfl⟩ := hw
    rfl

theorem kindWarnings_attributeWarnings (name serializer : String) (a : LooseAttribute) :
    kindWarnings name (attributeWarnings serializer a) =
      if a.name = name then attributeWarnings serializer a else [] := by
  unfold kindWarnings
  split
  · next heq =>
    rw [List.filter_eq_self]
    intro w hw
    simp [attribute?_of_mem_attributeWarnings hw, heq]
  · next hne =>
    rw [List.filter_eq_nil_iff]
    intro w hw
    simp [attribute?_of_mem_attributeWarnings hw, hne]

theorem kindWarnings_flatMap_of_not_mem (serializer : String) {name : String}
    {attributes : List LooseAttribute} (h : name ∉ attributes.map (·.name)) :
    kindWarnings name (attributes.flatMap (attributeWarnings serializer)) = [] := by
  rw [kindWarnings, List.filter_eq_nil_iff]
  intro w hw
  obtain ⟨a, ha, hw⟩ := List.mem_flatMap.mp hw
  have hne : a.name ≠ name := by
    intro heq
    exact h (List.mem_map.mpr ⟨a, ha, heq⟩)
  simp [attribute?_of_mem_attributeWarnings hw, hne]

/-- Among attributes of distinct names, the warnings that name one are its own. -/
theorem kindWarnings_flatMap (serializer : String) {attributes : List LooseAttribute}
    (hnames : (attributes.map (·.name)).Nodup) {a : LooseAttribute} (ha : a ∈ attributes) :
    kindWarnings a.name (attributes.flatMap (attributeWarnings serializer)) =
      attributeWarnings serializer a := by
  induction attributes with
  | nil => contradiction
  | cons b attributes ih =>
      rw [List.map_cons, List.nodup_cons] at hnames
      obtain ⟨hnew, hnames⟩ := hnames
      have hsplit : kindWarnings a.name ((b :: attributes).flatMap (attributeWarnings serializer)) =
          kindWarnings a.name (attributeWarnings serializer b) ++
            kindWarnings a.name (attributes.flatMap (attributeWarnings serializer)) := by
        rw [List.flatMap_cons, kindWarnings, List.filter_append]
        rfl
      rw [hsplit, kindWarnings_attributeWarnings]
      rcases List.mem_cons.mp ha with rfl | ha
      · rw [if_pos rfl, kindWarnings_flatMap_of_not_mem serializer hnew, List.append_nil]
      · have hne : b.name ≠ a.name := by
          intro heq
          exact hnew (List.mem_map.mpr ⟨a, ha, heq.symm⟩)
        rw [if_neg hne, List.nil_append, ih hnames ha]

theorem nodup_names_of_salvaged {index : Nat} {raw : Value} {s : LooseSerializer}
    {warnings : List Warning} (h : salvageSerializer index raw = .valid (some s, warnings)) :
    (s.resource.attributes.map (·.name)).Nodup := by
  obtain ⟨result, hresult, hreading⟩ := salvageSerializer_reading index raw
  have heq : result = (some s, warnings) := Checked.valid.inj (hresult.symm.trans h)
  rw [heq] at hreading
  cases hreading with
  | model carries named accounts =>
      have hnames := accounts.names
      have hproperties : (modelOf true s).properties.map (·.name) =
          s.resource.attributes.map (·.name) ++ s.resource.relationships.map (·.name) := by
        simp only [modelOf, if_true, List.map_append, List.map_map]
        rfl
      rw [hproperties] at hnames
      exact (List.nodup_append.mp hnames).1

theorem kindWarnings_reported {index : Nat} {raw : Value} {s : LooseSerializer}
    {warnings : List Warning} (h : salvageSerializer index raw = .valid (some s, warnings))
    {a : LooseAttribute} (ha : a ∈ s.resource.attributes) :
    kindWarnings a.name (reported (some s, warnings)) = attributeWarnings s.name a := by
  have hreading : kindWarnings a.name warnings = [] :=
    kindWarnings_of_none (salvageSerializer_tells_no_kind h)
  have hkinds := kindWarnings_flatMap s.name (nodup_names_of_salvaged h) ha
  calc
    kindWarnings a.name (reported (some s, warnings)) =
        kindWarnings a.name warnings ++
          kindWarnings a.name (s.resource.attributes.flatMap (attributeWarnings s.name)) :=
      List.filter_append ..
    _ = attributeWarnings s.name a := by
      rw [hreading, List.nil_append, hkinds]

/-! ## Documents -/

/-- What the warnings tell about the type of an attribute. -/
structure KindReported (s : LooseSerializer) (a : LooseAttribute) (warnings : List Warning) :
    Prop where
  unknown : IsUnknown (splitNullable (attributeProperty a).type).1 ↔
    a.kind = "" ∨ ∃ kind, unmappedKind a.kind a.items = some kind ∧
      kindWarnings a.name warnings = [.kindUnknown kind a.name s.name]
  mapped : unmappedKind a.kind a.items = none → kindWarnings a.name warnings = []

theorem kindReported {index : Nat} {raw : Value} {s : LooseSerializer} {warnings : List Warning}
    (h : salvageSerializer index raw = .valid (some s, warnings)) {a : LooseAttribute}
    (ha : a ∈ s.resource.attributes) (henum : a.enum.getD [] = []) :
    KindReported s a (reported (some s, warnings)) := by
  have hwarnings := attributeWarnings_of_valueless s.name henum
  have hbase : (splitNullable (attributeProperty a).type).1 = typeOfKind a.kind a.items := by
    rw [attributeProperty, attributeType_of_valueless henum, splitNullable_withNull_typeOfKind]
  rw [← kindWarnings_reported h ha] at hwarnings
  constructor
  · rw [hbase, isUnknown_typeOfKind_iff, hwarnings, or_comm, Option.isSome_iff_exists]
    apply or_congr_right
    apply exists_congr
    intro kind
    constructor
    · intro hkind
      rw [hkind]
      exact ⟨rfl, rfl⟩
    · exact And.left
  · intro hnone
    rw [hwarnings, hnone]
    rfl

/-- The type of an attribute is unknown exactly if one warning tells its unmapped kind, or the kind
is empty. -/
theorem unknownKinds_reported {document : Value} {raws : List Value}
    (hraws : document.get? "serializers" = some (.list raws)) (options : Options) :
    (∀ kind items,
      IsUnknown (typeOfKind kind items) ↔ (unmappedKind kind items).isSome ∨ kind = "") ∧
    ∃ r results, definitionOfDocument document options = .valid r ∧
      List.Forall₂ (fun raw result => ∃ index, salvageSerializer index raw = .valid result)
        raws results ∧
      r.data.models = (results.filterMap (·.1)).map (modelOf options.withRelationships) ∧
      r.warnings = results.flatMap reported ∧
      ∀ result ∈ results, ∀ s ∈ result.1, ∀ a ∈ s.resource.attributes, a.enum.getD [] = [] →
        attributeProperty a ∈ (modelOf options.withRelationships s).properties ∧
          KindReported s a (reported result) := by
  obtain ⟨results, hresults, -⟩ := salvageSerializersFrom_reading 0 raws
  obtain ⟨info, hvalid⟩ := definitionOfDocument_of_salvaged hraws hresults options
  have hentries := forall₂_of_salvageSerializersFrom hresults
  refine ⟨isUnknown_typeOfKind_iff, _, results, hvalid, hentries, ?_, ?_, ?_⟩
  · exact List.append_nil _
  · rfl
  · intro result hresult s hs a ha henum
    obtain ⟨raw, -, index, hraw⟩ := exists_mem_of_forall₂ hentries hresult
    obtain ⟨kept, warnings⟩ := result
    have hkept : kept = some s := hs
    subst hkept
    constructor
    · exact List.mem_append_left _ (List.mem_map_of_mem ha)
    · exact kindReported hraw ha henum

/-- A load with a weight of the given kind and tags of the given element kind. -/
def loadDocument (kind element : String) : Value :=
  .ofFields [("serializers", .list [.ofFields
    [("name", .text "LoadSerializer"), ("resource", .ofFields
      [("type", .text "loads"), ("attributes", .list
        [.ofFields [("name", .text "weight"), ("type", .text kind), ("nullable", .bool true)],
          .ofFields [("name", .text "tags"), ("type", .text "array"),
            ("items", .text element)]])])]])]

theorem unknownKinds_reported_loadDocument :
    ∃ raws, (loadDocument "mass" "label").get? "serializers" = some (.list raws) ∧
      ∃ r results, definitionOfDocument (loadDocument "mass" "label") .default = .valid r ∧
        r.warnings = [.kindUnknown "mass" "weight" "LoadSerializer",
          .kindUnknown "label" "tags" "LoadSerializer"] ∧
        List.Forall₂ (fun raw result => ∃ index, salvageSerializer index raw = .valid result)
          raws results ∧
        r.warnings = results.flatMap reported ∧
        ∀ result ∈ results, ∀ s ∈ result.1, ∀ a ∈ s.resource.attributes, a.enum.getD [] = [] →
          KindReported s a (reported result) := by
  have hraws : ∃ raws, (loadDocument "mass" "label").get? "serializers" = some (.list raws) :=
    ⟨_, rfl⟩
  obtain ⟨raws, hraws⟩ := hraws
  obtain ⟨-, r, results, hvalid, hentries, -, hwarnings, hreported⟩ :=
    unknownKinds_reported hraws .default
  have htold : (definitionOfDocument (loadDocument "mass" "label") .default).accepted?.map
      (·.warnings) = some [.kindUnknown "mass" "weight" "LoadSerializer",
        .kindUnknown "label" "tags" "LoadSerializer"] := rfl
  rw [hvalid] at htold
  refine ⟨raws, hraws, r, results, hvalid, Option.some.inj htold, hentries, hwarnings, ?_⟩
  intro result hresult s hs a ha henum
  exact (hreported result hresult s hs a ha henum).2

/-- The empty kind gives an unknown type, and no warning. -/
theorem emptyKind_unknown_untold :
    typeOfKind "" none = "unknown" ∧ unmappedKind "" none = none ∧
      ∃ r, definitionOfDocument (loadDocument "" "string") .default = .valid r ∧ r.warnings = [] ∧
        (r.data.models.flatMap (·.properties)).map (fun p => (p.name, p.type)) =
          [("weight", "unknown | null"), ("tags", "string[]")] :=
  ⟨rfl, rfl, _, rfl, rfl, rfl⟩

end ApiShapes.Conversion
