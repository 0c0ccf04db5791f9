import ApiShapes.Proofs.TypeSpec.Changes
import ApiShapes.Proofs.TypeSpec.LineVisits
import ApiShapes.Proofs.TypeSpec.OpenBlocks
import ApiShapes.Proofs.TypeSpec.Rereading
import Mathlib.Tactic

/-!
# What reading leaves well formed

Every text is read as a definition whose names, bases and types are well formed.  A statement
declares well-formed models and properties, whatever its lines hold.  Every model that has been read
after a statement was read before it, is declared by it, or has got its property, so the models stay
well formed until the end of the text.
-/

namespace ApiShapes.TypeSpec

open Text

structure Property.WellFormed (p : Property) : Prop where
  name : ':' ∉ p.name.toList
  type : trim p.type.toList = p.type.toList

structure Model.WellFormed (m : Model) : Prop where
  name : LegibleName m.name
  bases : ∀ b ∈ m.bases, LegibleBase b
  properties : ∀ p ∈ m.properties, p.WellFormed

structure Definition.WellFormed (d : Definition) : Prop where
  names : (namespaceNames d.namespaces).Nodup
  namespaces : ∀ n ∈ d.namespaces, LegibleName n.name
  models : ∀ m ∈ d.models, m.WellFormed
  title : d.title ≠ some ""
  version : d.version ≠ some ""

/-! ## What lines declare -/

/-- The models and properties that a statement declares are well formed. -/
def Meaning.WellFormed (meaning : Meaning) : Prop :=
  (∀ m, meaning = .modelHeader (some m) → m.WellFormed) ∧
    ∀ p, meaning = .property p → p.WellFormed

theorem Property.Reread.wellFormed {p : Property} (h : p.Reread) : p.WellFormed where
  name := fun hcolon => h.legible.label_colon (List.mem_append_left _ hcolon)
  type := h.legible.type_trim

theorem wellFormed_of_modelHeader? {line : List Char} {m : Model} (hone : OneLine line)
    (h : modelHeader? line = some m) : m.WellFormed := by
  unfold modelHeader? at h
  split at h
  · rw [Option.map_eq_some_iff] at h
    obtain ⟨header, hheader, rfl⟩ := h
    obtain ⟨hsubset, hbrace, hhead⟩ := findHeader_shape hheader
    have hnamed := openModel_named hone hsubset hbrace hhead
    constructor
    · exact hnamed.1
    · exact hnamed.2
    · intro p hp
      have hempty : (openModel header).properties = [] := rfl
      rw [hempty] at hp
      contradiction
  · contradiction

theorem meaningOf_wellFormed {line : List Char} (htrim : trim line = line) (hone : OneLine line)
    (hservice : isServiceStart line = false) : (meaningOf line).WellFormed := by
  constructor
  · intro m hm
    apply wellFormed_of_modelHeader? hone
    rw [modelHeader?_eq, hm, Meaning.model?]
  · intro p hp
    have hreread : (meaningOf line).Reread := meaningOf_reread htrim hone hservice
    rw [hp] at hreread
    exact Property.Reread.wellFormed hreread

theorem statements_wellFormed (source : String) :
    ∀ s ∈ statements (trimmedLines source.toList), s.meaning.WellFormed := by
  apply statements_forall
  · intro content
    constructor
    · intro m hm
      contradiction
    · intro p hp
      contradiction
  · intro line hline hservice
    have hshown := (mem_trimmedLines hline).2
    exact meaningOf_wellFormed hshown.1 hshown.2 hservice

/-! ## The models that have been read -/

/-- All models that have been read, those of an open namespace and an open model included. -/
def Progress.models (p : Progress) : List Model :=
  p.close.namespaces.flatMap (·.models)

theorem models_inside (p : Progress) (n : OpenNamespace) :
    (p.inside n).models = p.namespaces.flatMap (·.models) ++ n.closeModel.models := by
  simp [Progress.models, Progress.inside, Progress.close, OpenNamespace.close]

theorem models_of_open {p : Progress} {n : OpenNamespace} (hopen : p.open? = some n) :
    p.models = p.namespaces.flatMap (·.models) ++ n.closeModel.models := by
  rw [← models_inside, Progress.inside, ← hopen]

theorem models_close (p : Progress) : p.close.models = p.models := by
  simp [Progress.models, Progress.close]

/-- A model that has been read was read before, or is opened or extended by the statement. -/
theorem Change.mem_models {p q : Progress} {meaning : Meaning} (h : Change p meaning q) {m : Model}
    (hm : m ∈ q.models) :
    m ∈ p.models ∨ meaning = .modelHeader (some m) ∨
      ∃ k ∈ p.models, ∃ property, meaning = .property property ∧
        m = { k with properties := k.properties ++ [property] } := by
  cases h with
  | imports path => exact Or.inl hm
  | informs title version => exact Or.inl hm
  | passes ignored hnone => exact Or.inl hm
  | opensNamespace name =>
      have hmodels : (p.close.inside ⟨name, [], none⟩).models = p.models := by
        rw [models_inside]
        exact List.append_nil _
      rw [hmodels] at hm
      exact Or.inl hm
  | opensModel opened hopen =>
      rw [models_inside, OpenNamespace.closeModel, Option.toList_some, ← List.append_assoc,
        ← models_of_open hopen, List.mem_append, List.mem_singleton] at hm
      rcases hm with hm | hm
      · exact Or.inl hm
      · subst hm
        exact Or.inr (Or.inl rfl)
  | @addsProperty n k property hopen hinside =>
      have hbefore : p.models = p.namespaces.flatMap (·.models) ++ (n.models ++ [k]) := by
        rw [models_of_open hopen, OpenNamespace.closeModel, hinside, Option.toList_some]
      rw [models_inside, OpenNamespace.addProperty, OpenNamespace.closeModel, Option.toList_some,
        ← List.append_assoc, List.mem_append, List.mem_singleton] at hm
      rcases hm with hm | hm
      · left
        rw [hbefore, ← List.append_assoc]
        exact List.mem_append_left _ hm
      · right
        right
        refine ⟨k, ?_, property, rfl, hm⟩
        rw [hbefore]
        simp
  | @closesModel n hopen hinside =>
      have hmodels : (p.inside n.closeModel).models = p.models := by
        rw [models_inside, models_of_open hopen]
        simp [OpenNamespace.closeModel]
      rw [hmodels] at hm
      exact Or.inl hm
  | closesNamespace hopen hinside =>
      rw [models_close] at hm
      exact Or.inl hm

theorem Model.WellFormed.addProperty {m : Model} (hm : m.WellFormed) {p : Property}
    (hp : p.WellFormed) : Model.WellFormed { m with properties := m.properties ++ [p] } := by
  constructor
  · exact hm.name
  · exact hm.bases
  · intro q hq
    rcases List.mem_append.mp hq with hq | hq
    · exact hm.properties q hq
    · rw [List.mem_singleton] at hq
      rw [hq]
      exact hp

theorem wellFormed_step {p : Progress} {s : Statement} (hp : ∀ m ∈ p.models, m.WellFormed)
    (hs : s.meaning.WellFormed) : ∀ m ∈ (p.step s).models, m.WellFormed := by
  intro m hm
  rcases (change_step p s).mem_models hm with hbefore | hopened | ⟨k, hk, property, hadded, heq⟩
  · exact hp m hbefore
  · exact hs.1 m hopened
  · rw [heq]
    exact (hp k hk).addProperty (hs.2 property hadded)

theorem wellFormed_models (source : String) :
    ∀ m ∈ (readSource source).definition.models, m.WellFormed := by
  have hfold : ∀ m ∈ ((statements (trimmedLines source.toList)).foldl Progress.step .start).models,
      m.WellFormed := by
    apply List.foldlRecOn (motive := fun p : Progress => ∀ m ∈ p.models, m.WellFormed)
    · intro m hm
      contradiction
    · intro p hp s hs
      exact wellFormed_step hp (statements_wellFormed source s hs)
  have hnamespaces : ∀ n ∈ (readSource source).namespaces, ∀ m ∈ n.models, m.WellFormed := by
    intro n hn m hm
    exact hfold m (List.mem_flatMap.mpr ⟨n, hn, hm⟩)
  have hmerged : ∀ n ∈ (readSource source).definition.namespaces, ∀ m ∈ n.models, m.WellFormed := by
    apply mergeNamespaces_forall _ hnamespaces
    intro a b ha hb m hm
    rcases List.mem_append.mp hm with hm | hm
    · exact ha m hm
    · exact hb m hm
  intro m hm
  obtain ⟨n, hn, hmodel⟩ := List.mem_flatMap.mp hm
  exact hmerged n hn m hmodel

/-! ## The whole text -/

theorem readSource_wellFormed (source : String) : (readSource source).definition.WellFormed := by
  have hreread : (readSource source).Reread := readSource_reread source
  constructor
  · exact nodup_mergeNamespaces _
  · intro n hn
    exact (hreread.namespaces_definition n hn).name
  · exact wellFormed_models source
  · intro htitle
    exact hreread.title "" htitle rfl
  · intro hversion
    exact hreread.version "" hversion rfl

/-- Every text is read: a service block ends within the lines, the visits go forward and take each
line once, and what is read is well formed. -/
theorem read_wellFormed (source : String) :
    let ls := trimmedLines source.toList
    (∀ start < ls.length, start ≤ serviceEnd ls start ∧ serviceEnd ls start < ls.length) ∧
      ((visits ls 0).Pairwise (· < ·) ∧ (∀ i ∈ visits ls 0, i < ls.length) ∧
        statements ls = (visits ls 0).map (statementAt ls) ∧
        (visits ls 0).flatMap (blockAt ls) = ls) ∧
      ∃ d, Definition.read source = .valid d ∧ d.WellFormed := by
  intro ls
  have hordered := visits_ordered ls 0
  refine ⟨fun start hstart => serviceEnd_within hstart, ⟨?_, ?_, ?_, ?_⟩, ?_⟩
  · exact hordered.1
  · intro i hi
    exact (hordered.2 i hi).2
  · exact statements_eq_visits ls 0
  · exact flatMap_blockAt ls 0
  · exact ⟨_, read_eq_valid source, readSource_wellFormed source⟩

end ApiShapes.TypeSpec
