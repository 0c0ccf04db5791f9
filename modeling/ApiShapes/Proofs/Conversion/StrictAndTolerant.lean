import ApiShapes.Proofs.Conversion.TolerantReading
import Mathlib.Tactic

/-!
# Strict and tolerant conversion

A document can be converted as it is, or read strictly first and converted as a schema.  Where the
strict reader accepts the document, both ways give the same definition, and also the same warnings
if the document says what the tolerant reader would miss.
-/

namespace ApiShapes.Conversion

open JsonApi Shape TypeSpec

/-! ## Documents -/

def listedSerializers (m : Value) : List Value :=
  match m.get? "serializers" with
  | some (.list raws) => raws
  | _ => []

/-- A document without an empty resource type or an empty description of itself or a resource. -/
structure GivenTexts (m : Value) : Prop where
  description : m.get? "description" ≠ some (.text "")
  types : ∀ raw ∈ listedSerializers m, ∀ resource ∈ raw.get? "resource",
    resource.get? "type" ≠ some (.text "")
  descriptions : ∀ raw ∈ listedSerializers m, ∀ resource ∈ raw.get? "resource",
    resource.get? "description" ≠ some (.text "")

/-- A document in which each serializer has a name and lists its attributes. -/
structure NothingMissed (m : Value) : Prop where
  names : ∀ raw ∈ listedSerializers m, raw.get? "name" ≠ some (.text "")
  attributes : ∀ raw ∈ listedSerializers m, ∀ resource ∈ raw.get? "resource",
    resource.get? "attributes" ≠ none

theorem ne_empty_of_required {v : Value} (hplain : v.IsPlain) {key s : String}
    (h : required key text v = .valid s) (hne : v.get? key ≠ some (.text "")) : s ≠ "" := by
  rintro rfl
  obtain ⟨w, hw, hs⟩ := (required_eq_valid_iff ..).1 h
  rw [text_eq_valid_iff (hplain.get? hw)] at hs
  rw [hw, hs] at hne
  exact hne rfl

theorem ne_empty_of_maybe {v : Value} (hplain : v.IsPlain) {key : String} {s : Option String}
    (h : maybe key text v = .valid s) (hne : v.get? key ≠ some (.text "")) : s ≠ some "" := by
  rintro rfl
  rw [maybe_eq_valid_iff] at h
  rcases h with ⟨-, hnone⟩ | ⟨w, hw, -, t, ht, hsome⟩
  · cases hnone
  · obtain rfl : "" = t := Option.some.inj hsome
    rw [text_eq_valid_iff (hplain.get? hw)] at ht
    rw [hw, ht] at hne
    exact hne rfl

/-! ## What does not depend on the way of reading -/

theorem given?_eq_self {s : Option String} (h : s ≠ some "") : given? s = s := by
  cases s with
  | none => rfl
  | some t =>
      have ht : t ≠ "" := fun heq => h (by rw [heq])
      simp [given?, ht]

/-- A first choice that is empty is passed over like one that is absent. -/
theorem firstGiven_given? (s t : Option String) (rest : List (Option String)) :
    firstGiven (given? s :: t :: rest) = firstGiven (s :: t :: rest) := by
  cases s with
  | none => rfl
  | some u =>
      by_cases hu : u = ""
      · subst hu
        rfl
      · simp [given?, hu]

theorem modelOf_tolerated (withRelationships : Bool) {s : Serializer}
    (h : s.resource.description ≠ some "") :
    modelOf withRelationships (tolerated s) =
      modelOf withRelationships (s.mapKind AttributeKind.name) := by
  have hdescription : firstGiven [given? s.description, given? s.resource.description] =
      firstGiven [s.description, s.resource.description] := by
    rw [firstGiven_given?, given?_eq_self h]
  simp only [modelOf, tolerated, hdescription]
  rfl

/-- The data of a conversion depends on the serializers that were kept alone. -/
theorem assemble_data_of_map (options : Options) (info : Information)
    {results : List (Option LooseSerializer × List Warning)} {kept : List LooseSerializer}
    (h : results.map (·.1) = kept.map some) :
    (assemble options info results).data =
      (assemble options info (kept.map fun s => (some s, []))).data := by
  have hkept : ∀ rs : List (Option LooseSerializer × List Warning), rs.map (·.1) = kept.map some →
      rs.filterMap (·.1) = kept := by
    intro rs hrs
    have hid : rs.filterMap (·.1) = (rs.map (·.1)).filterMap id := by
      rw [List.filterMap_map]
      rfl
    rw [hid, hrs, List.filterMap_map]
    exact List.filterMap_some
  simp only [assemble, hkept results h, hkept (kept.map fun s => (some s, [])) (by simp)]

/-- Serializers give the same definition whichever way they were read. -/
theorem assemble_data_tolerated (options : Options) {title version description : Option String}
    (hdescription : description ≠ some "") {ss : List Serializer}
    (hss : ∀ s ∈ ss, s.resource.description ≠ some "") :
    (assemble options ⟨given? title, given? version, given? description⟩
        (ss.map fun s => (some (tolerated s), []))).data =
      (assemble options ⟨title, version, description⟩
        (ss.map fun s => (some (s.mapKind AttributeKind.name), []))).data := by
  have hmodels : (ss.map tolerated).map (modelOf options.withRelationships) =
      (ss.map (·.mapKind AttributeKind.name)).map (modelOf options.withRelationships) := by
    rw [List.map_map, List.map_map]
    exact List.map_congr_left fun s hs => modelOf_tolerated options.withRelationships (hss s hs)
  have hfirst : ∀ (s : Option String) (a b : Option String),
      firstGiven [a, given? s, b] = firstGiven [a, s, b] := by
    intro s a b
    cases a with
    | none => exact firstGiven_given? s b []
    | some t =>
        change (if t.isEmpty then firstGiven [given? s, b] else some t) =
          if t.isEmpty then firstGiven [s, b] else some t
        rw [firstGiven_given?]
  have hkept : ∀ f : Serializer → LooseSerializer,
      (ss.map fun s => (some (f s), ([] : List Warning))).filterMap (·.1) = ss.map f := by
    intro f
    rw [List.filterMap_map]
    change ss.filterMap (fun s => some (f s)) = ss.map f
    rw [List.filterMap_eq_map']
  simp only [assemble, hkept, hmodels, hfirst, given?_eq_self hdescription]
  simp only [List.flatMap_map]
  rfl

/-! ## From the document to the schema -/

section

variable {m : Value} (hplain : m.IsPlain) {s : Schema} (hs : Schema.ReadFrom m s)

include hplain hs

theorem serializers_of_readFrom {raws : List Value}
    (hraws : m.get? "serializers" = some (.list raws)) :
    List.Forall₂ (fun raw s => Serializer.shape raw = .valid s) raws s.serializers := by
  rcases (withDefault_eq_valid_iff ..).1 hs.serializers with ⟨hnone, -⟩ | ⟨v, hv, hlist⟩
  · rw [hnone] at hraws
    cases hraws
  · obtain rfl : Value.list raws = v := Option.some.inj (hraws.symm.trans hv)
    obtain ⟨items, hitems, hread⟩ := (list_eq_valid_iff (hplain.get? hv) ..).1 hlist
    obtain rfl : raws = items := Value.list.inj hitems
    exact hread

/-- A serializer of a schema is read from a record, and its resource from a record in that one. -/
theorem readFrom_of_mem {raws : List Value} (hraws : m.get? "serializers" = some (.list raws))
    {t : Serializer} (ht : t ∈ s.serializers) :
    ∃ raw ∈ listedSerializers m, raw.IsPlain ∧ Serializer.ReadFrom raw t ∧
      ∃ resource, raw.get? "resource" = some resource ∧ resource.IsPlain ∧
        Resource.ReadFrom resource t.resource := by
  have hlisted : listedSerializers m = raws := by rw [listedSerializers, hraws]
  obtain ⟨raw, hraw, hshape⟩ := exists_mem_of_forall₂ (serializers_of_readFrom hplain hs hraws) ht
  rw [Serializer.shape_eq_valid_iff] at hshape
  obtain ⟨resource, hget, hresource⟩ := (required_eq_valid_iff ..).1 hshape.resource
  rw [Resource.shape_eq_valid_iff] at hresource
  have hrawPlain : raw.IsPlain := (hplain.get? hraws).items raw hraw
  exact ⟨raw, hlisted ▸ hraw, hrawPlain, hshape, resource, hget, hrawPlain.get? hget, hresource⟩

theorem GivenTexts.of_mem (hgiven : GivenTexts m) {raws : List Value}
    (hraws : m.get? "serializers" = some (.list raws)) {t : Serializer} (ht : t ∈ s.serializers) :
    t.resource.type ≠ "" ∧ t.resource.description ≠ some "" := by
  obtain ⟨raw, hraw, -, -, resource, hget, hresource, hr⟩ := readFrom_of_mem hplain hs hraws ht
  exact ⟨ne_empty_of_required hresource hr.type (hgiven.types raw hraw resource hget),
    ne_empty_of_maybe hresource hr.description (hgiven.descriptions raw hraw resource hget)⟩

theorem NothingMissed.of_mem (hmissed : NothingMissed m) {raws : List Value}
    (hraws : m.get? "serializers" = some (.list raws)) {t : Serializer} (ht : t ∈ s.serializers) :
    t.name ≠ "" := by
  obtain ⟨raw, hraw, hrawPlain, ht', -⟩ := readFrom_of_mem hplain hs hraws ht
  exact ne_empty_of_required hrawPlain ht'.name (hmissed.names raw hraw)

end

theorem assemble_warnings_tolerated (options : Options) (info : Information) {s : Schema}
    (hnames : ∀ t ∈ s.serializers, t.name ≠ "") :
    (assemble options info (s.serializers.map fun t => (some (tolerated t), []))).warnings =
      (definitionOfSchema s options).warnings := by
  rw [definitionOfSchema, assemble, assemble]
  simp only [List.flatMap_map, List.nil_append, Option.map_some, Option.getD_some]
  refine List.flatMap_congr fun t ht => ?_
  have hname : (tolerated t).name = t.name := by simp [tolerated, given?, hnames t ht]
  rw [hname]
  rfl

/-- A document that the strict reader accepts is converted to the same definition as the schema
that it is read as, without failures, and also with the same warnings if nothing is missed. -/
theorem definitionOfDocument_of_read {m : Value} (hplain : m.IsPlain) {s : Schema}
    (hread : Schema.read m = .ok s) (hgiven : GivenTexts m) (options : Options) :
    ∃ r, definitionOfDocument m options = .valid r ∧
      r.data = (definitionOfSchema s options).data ∧ r.failures = [] ∧
      (definitionOfSchema s options).failures = [] ∧
      (NothingMissed m → r.warnings = (definitionOfSchema s options).warnings) := by
  obtain ⟨⟨raws, hraws⟩, hs⟩ := (Schema.read_eq_ok_iff m s).1 hread
  have hgivenTexts : ∀ t ∈ s.serializers, _ := fun t ht => hgiven.of_mem hplain hs hraws ht
  have hdescription : s.description ≠ some "" :=
    ne_empty_of_maybe hplain hs.description hgiven.description
  obtain ⟨results, hresults, hkept, hsilent⟩ :=
    salvageSerializersFrom_of_shape (serializers_of_readFrom hplain hs hraws)
      (hplain.get? hraws).items (fun t ht => (hgivenTexts t ht).1) 0
  refine ⟨assemble options ⟨given? s.title, given? s.version, given? s.description⟩ results, ?_, ?_,
    rfl, rfl, ?_⟩
  · rw [definitionOfDocument, hraws]
    simp only [hresults, Checked.map_valid, textField_of_maybe hplain hs.title,
      textField_of_maybe hplain hs.version, textField_of_maybe hplain hs.description]
  · have hmap : results.map (·.1) = (s.serializers.map tolerated).map some := by
      rw [hkept, List.map_map]
      rfl
    rw [assemble_data_of_map options _ hmap, List.map_map]
    exact assemble_data_tolerated options hdescription fun t ht => (hgivenTexts t ht).2
  · intro hmissed
    have hnames : ∀ t ∈ s.serializers, t.name ≠ "" :=
      fun t ht => hmissed.of_mem hplain hs hraws ht
    have hattributes : ∀ raw ∈ raws, ∀ resource ∈ raw.get? "resource",
        resource.get? "attributes" ≠ none := by
      have hlisted : listedSerializers m = raws := by rw [listedSerializers, hraws]
      rw [← hlisted]
      exact hmissed.attributes
    rw [hsilent hnames hattributes]
    exact assemble_warnings_tolerated options _ hnames

/-- A document whose only attribute is an array of arrays, for which there is no type. -/
def matrixDocument : Value :=
  .ofFields [("title", .text ""), ("serializers", .list [.ofFields
    [("name", .text "MatrixSerializer"), ("description", .text ""), ("resource", .ofFields
      [("type", .text "matrices"), ("attributes", .list [.ofFields
        [("name", .text "rows"), ("type", .text "array"), ("items", .text "array"),
          ("nullable", .int 1)]])])]])]

theorem definitionOfDocument_of_read_matrixDocument :
    matrixDocument.IsPlain ∧ GivenTexts matrixDocument ∧ NothingMissed matrixDocument ∧
      ∃ s, Schema.read matrixDocument = .ok s ∧
        ∃ r, definitionOfDocument matrixDocument .default = .valid r ∧
          r.data = (definitionOfSchema s .default).data ∧ r.failures = [] ∧
          r.warnings = (definitionOfSchema s .default).warnings := by
  have hplain : matrixDocument.IsPlain := by
    simp [matrixDocument]
  have hgiven : GivenTexts matrixDocument := by
    constructor <;>
      simp [matrixDocument, listedSerializers, Value.ofFields, Value.get?, Value.lookup]
  have hmissed : NothingMissed matrixDocument := by
    constructor <;>
      simp [matrixDocument, listedSerializers, Value.ofFields, Value.get?, Value.lookup]
  have hread : Schema.read matrixDocument = .ok ⟨[⟨"MatrixSerializer", ⟨"matrices",
      [⟨"rows", .array, some true, none, none, none, some .array⟩], [], none, none⟩,
      none, none, some "", none⟩], some "", none, none, none⟩ := rfl
  obtain ⟨r, hr, hdata, hfailures, -, hwarnings⟩ :=
    definitionOfDocument_of_read hplain hread hgiven .default
  exact ⟨hplain, hgiven, hmissed, _, hread, r, hr, hdata, hfailures, hwarnings hmissed⟩

end ApiShapes.Conversion
