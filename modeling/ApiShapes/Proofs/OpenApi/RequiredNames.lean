import ApiShapes.OpenApi.Generation
import ApiShapes.Proofs.Document.WrittenEntries
import ApiShapes.Proofs.TypeSpec.SourceReading
import Mathlib.Tactic

/-!
# Names that components require

A component shows the last declaration of each property, but requires the names of all declarations
that are not optional.  A source may declare a property more than once.  The two agree exactly if no
declaration but the last of its name is mandatory; otherwise a name is required twice, or one is
required whose property is optional.
-/

namespace ApiShapes.OpenApi

open TypeSpec

/-- The model that the component of a name shows, which is the last one of the name. -/
def shownModel? (d : Definition) (name : String) : Option Model :=
  d.models.reverse.find? (·.name = name)

/-- The declaration that a component shows under a name, which is the last one of the name. -/
def shownProperty? (properties : List Property) (name : String) : Option Property :=
  properties.reverse.find? (·.name = name)

def mandatoryNames (properties : List Property) : List String :=
  (properties.filter (!·.optional)).map (·.name)

/-- No name is required twice, and a name is required exactly if the declaration shown under it is
not optional. -/
structure RequiredMatch (properties : List Property) (required : List String) : Prop where
  nodup : required.Nodup
  mem_iff (name : String) :
    name ∈ required ↔ ∃ p, shownProperty? properties name = some p ∧ p.optional = false

theorem get?_schemas_generate (d : Definition) (servers : Option (List Server)) (name : String) :
    (generate d servers).schemas.get? name = (shownModel? d name).map modelSchema :=
  Entries.get?_ofList_map Model.name modelSchema d.models name

theorem get?_properties_modelSchema (m : Model) (name : String) :
    (modelSchema m).properties.get? name =
      (shownProperty? m.properties name).map propertySchema :=
  Entries.get?_ofList_map Property.name propertySchema m.properties name

section

variable {p : Property} {ps : List Property}

theorem shownProperty?_cons (p : Property) (ps : List Property) (name : String) :
    shownProperty? (p :: ps) name =
      (shownProperty? ps name).or (if p.name = name then some p else none) := by
  unfold shownProperty?
  rw [List.reverse_cons, List.find?_append, List.find?_singleton]
  simp

theorem mem_mandatoryNames_of_shown {q : Property} {name : String}
    (h : shownProperty? ps name = some q) (hmandatory : q.optional = false) :
    name ∈ mandatoryNames ps := by
  have hname : q.name = name := by simpa using List.find?_some h
  have hmem : q ∈ ps := List.mem_reverse.1 (List.mem_of_find?_eq_some h)
  exact List.mem_map.2 ⟨q, List.mem_filter.2 ⟨hmem, by simp [hmandatory]⟩, hname⟩

theorem shownProperty?_eq_none_iff {name : String} :
    shownProperty? ps name = none ↔ ∀ q ∈ ps, q.name ≠ name := by
  simp [shownProperty?]

/-- An optional declaration in front changes neither what is required nor what is shown as
mandatory. -/
theorem requiredMatch_cons_of_optional (hoptional : p.optional = true) :
    RequiredMatch (p :: ps) (mandatoryNames (p :: ps)) ↔ RequiredMatch ps (mandatoryNames ps) := by
  have hnames : mandatoryNames (p :: ps) = mandatoryNames ps := by
    simp [mandatoryNames, hoptional]
  have hshown : ∀ name,
      (∃ q, shownProperty? (p :: ps) name = some q ∧ q.optional = false) ↔
        ∃ q, shownProperty? ps name = some q ∧ q.optional = false := by
    intro name
    rw [shownProperty?_cons]
    cases shownProperty? ps name with
    | some q => simp
    | none => by_cases hname : p.name = name <;> simp [hname, hoptional]
  rw [hnames]
  constructor
  · rintro ⟨hnodup, hmem⟩
    exact ⟨hnodup, fun name => (hmem name).trans (hshown name)⟩
  · rintro ⟨hnodup, hmem⟩
    exact ⟨hnodup, fun name => (hmem name).trans (hshown name).symm⟩

/-- A mandatory declaration in front must be the only one of its name. -/
theorem requiredMatch_cons_of_mandatory (hmandatory : p.optional = false) :
    RequiredMatch (p :: ps) (mandatoryNames (p :: ps)) ↔
      (∀ q ∈ ps, q.name ≠ p.name) ∧ RequiredMatch ps (mandatoryNames ps) := by
  have hnames : mandatoryNames (p :: ps) = p.name :: mandatoryNames ps := by
    simp [mandatoryNames, hmandatory]
  rw [hnames, ← shownProperty?_eq_none_iff]
  constructor
  · rintro ⟨hnodup, hmem⟩
    obtain ⟨hnew, hnodup⟩ := List.nodup_cons.1 hnodup
    have hnone : shownProperty? ps p.name = none := by
      obtain ⟨q, hq, hqmandatory⟩ := (hmem p.name).1 List.mem_cons_self
      rw [shownProperty?_cons, if_pos rfl] at hq
      cases hlater : shownProperty? ps p.name with
      | none => rfl
      | some r =>
          rw [hlater, Option.some_or, Option.some_inj] at hq
          subst hq
          exact absurd (mem_mandatoryNames_of_shown hlater hqmandatory) hnew
    refine ⟨hnone, hnodup, ?_⟩
    intro name
    by_cases hname : p.name = name
    · subst hname
      simp [hnew, hnone]
    · have h := hmem name
      rw [shownProperty?_cons, if_neg hname, Option.or_none] at h
      rw [← h, List.mem_cons, or_iff_right (Ne.symm hname)]
  · rintro ⟨hnone, hnodup, hmem⟩
    have hnew : p.name ∉ mandatoryNames ps := by
      rw [hmem, hnone]
      simp
    refine ⟨List.nodup_cons.2 ⟨hnew, hnodup⟩, ?_⟩
    intro name
    rw [shownProperty?_cons, List.mem_cons]
    by_cases hname : p.name = name
    · subst hname
      simp [hnone, hmandatory]
    · rw [if_neg hname, Option.or_none, or_iff_right (Ne.symm hname)]
      exact hmem name

end

/-- All declarations but the last of each name must be optional. -/
theorem requiredMatch_iff (ps : List Property) :
    RequiredMatch ps (mandatoryNames ps) ↔
      ps.Pairwise fun p q => p.name = q.name → p.optional = true := by
  induction ps with
  | nil => exact iff_of_true ⟨List.nodup_nil, by simp [mandatoryNames, shownProperty?]⟩ .nil
  | cons p ps ih =>
      rw [List.pairwise_cons, ← ih]
      cases hoptional : p.optional with
      | true => simp [requiredMatch_cons_of_optional hoptional]
      | false =>
          rw [requiredMatch_cons_of_mandatory hoptional]
          simp [eq_comm]

/-- Any source is read as a definition whose components show the last model of each name and the
last declaration of each property.  A component requires what it should exactly if all declarations
but the last of each name are optional. -/
theorem required_names_match_iff (source : String) (servers : Option (List Server)) :
    ∃ d, Definition.read source = .valid d ∧
      ∀ name component, (generate d servers).schemas.get? name = some component →
        ∃ m, shownModel? d name = some m ∧
          (∀ key, component.properties.get? key =
            (shownProperty? m.properties key).map propertySchema) ∧
          (RequiredMatch m.properties component.required ↔
            m.properties.Pairwise fun p q => p.name = q.name → p.optional = true) := by
  refine ⟨_, read_eq_valid source, ?_⟩
  intro name component hcomponent
  rw [get?_schemas_generate, Option.map_eq_some_iff] at hcomponent
  obtain ⟨m, hm, rfl⟩ := hcomponent
  exact ⟨m, hm, get?_properties_modelSchema m, requiredMatch_iff m.properties⟩

/-- A book whose title is declared twice and whose pages become optional. -/
def twiceSource : String :=
  "\n".intercalate
    ["namespace Shop \x7b", "  model Book \x7b", "    title: string;", "    title: string;",
      "    pages: int32;", "    pages?: int32;", "  \x7d", "\x7d"]

/-- The title is required twice, and the pages are required although they are optional. -/
theorem title_required_twice :
    ∃ d m component, Definition.read twiceSource = .valid d ∧ shownModel? d "Book" = some m ∧
      (generate d none).schemas.get? "Book" = some component ∧
      component.required = ["title", "title", "pages"] ∧
      (shownProperty? m.properties "pages").map (·.optional) = some true ∧
      ¬ component.required.Nodup ∧ ¬ RequiredMatch m.properties component.required := by
  have hbook : (shownModel? (readSource twiceSource).definition "Book").map
      (fun m => ((modelSchema m).required,
        (shownProperty? m.properties "pages").map (·.optional))) =
      some (["title", "title", "pages"], some true) := by
    decide +kernel
  obtain ⟨m, hm, hpair⟩ := Option.map_eq_some_iff.1 hbook
  obtain ⟨hrequired, hpages⟩ := Prod.mk.inj hpair
  have hrepeated : ¬ (modelSchema m).required.Nodup := by
    rw [hrequired]
    decide
  refine ⟨_, m, modelSchema m, read_eq_valid _, hm, ?_, hrequired, hpages, hrepeated, ?_⟩
  · rw [get?_schemas_generate, hm, Option.map_some]
  · exact fun h => hrepeated h.nodup

end ApiShapes.OpenApi
