import ApiShapes.Proofs.TypeSpec.BlockReading
import ApiShapes.Proofs.TypeSpec.Changes
import ApiShapes.Proofs.TypeSpec.ReadLine
import Mathlib.Tactic

/-!
# Reading, rendering and reading again

While a text is read, whatever it holds, everything that has been collected can be rendered and read
again as it is.  This is shown to hold at the start and to be preserved by each statement, so it
holds at the end of the text, also after the open blocks are closed and namespaces of one name are
joined.  What a text declares is therefore stable: it is read back from its own source.
-/

namespace ApiShapes.TypeSpec

open Text

structure Namespace.Reread (n : Namespace) : Prop where
  name : LegibleName n.name
  models : ∀ m ∈ n.models, m.Reread
  kept : n.kept = n

/-- A namespace with its open model. -/
structure OpenNamespace.Reread (n : OpenNamespace) : Prop where
  name : LegibleName n.name
  models : ∀ m ∈ n.models, m.Reread
  model? : ∀ m ∈ n.model?, m.Reread

structure Progress.Reread (p : Progress) : Prop where
  imports : ∀ path ∈ p.imports, LegibleImport path
  namespaces : ∀ n ∈ p.namespaces, n.Reread
  open? : ∀ n ∈ p.open?, n.Reread
  title : ∀ t ∈ p.title, t ≠ ""
  version : ∀ v ∈ p.version, v ≠ ""

/-! ## One step -/

theorem Model.Reread.addProperty {m : Model} (hm : m.Reread) {p : Property} (hp : p.Reread) :
    Model.Reread { m with properties := m.properties ++ [p] } := by
  constructor
  · intro hend
    have hlegible := hm.legible hend
    refine { hlegible with properties := ?_ }
    intro q hq
    rcases List.mem_append.1 hq with hq | hq
    · exact hlegible.properties q hq
    · obtain rfl : q = p := by simpa using hq
      exact hp.legible
  · have hkept := hm.kept
    obtain ⟨name, properties, bases, description, decorators⟩ := m
    simp only [Model.kept, Model.mk.injEq, true_and] at hkept ⊢
    rw [List.map_append, hkept.1, List.map_singleton, hp.kept]
    exact ⟨rfl, hkept.2⟩

theorem OpenNamespace.Reread.closeModel {n : OpenNamespace} (h : n.Reread) :
    n.closeModel.Reread := by
  refine ⟨h.name, ?_, by simp [OpenNamespace.closeModel]⟩
  intro m hm
  rw [OpenNamespace.closeModel, List.mem_append, Option.mem_toList] at hm
  exact hm.elim (h.models m) (h.model? m)

theorem OpenNamespace.Reread.close {n : OpenNamespace} (h : n.Reread) : n.close.Reread := by
  have hmodels := h.closeModel.models
  refine ⟨h.name, hmodels, ?_⟩
  have hmap : n.closeModel.models.map Model.kept = n.closeModel.models := by
    rw [List.map_congr_left fun m hm => (hmodels m hm).kept, List.map_id']
  rw [Namespace.kept, OpenNamespace.close, hmap]

theorem Progress.Reread.close {p : Progress} (h : p.Reread) : p.close.Reread := by
  refine { h with namespaces := ?_, open? := by simp [Progress.close] }
  intro n hn
  rw [Progress.close, List.mem_append, Option.mem_toList, Option.map_eq_some_iff] at hn
  rcases hn with hn | ⟨m, hm, rfl⟩
  · exact h.namespaces n hn
  · exact (h.open? m hm).close

theorem Progress.Reread.inside {p : Progress} (h : p.Reread) {n : OpenNamespace} (hn : n.Reread) :
    (p.inside n).Reread := by
  refine { h with open? := ?_ }
  rintro m ⟨⟩
  exact hn

/-- A statement leaves only what can be read again. -/
theorem Change.reread {p q : Progress} {meaning : Meaning} (hchange : Change p meaning q)
    (h : p.Reread) (hmeaning : meaning.Reread) : q.Reread := by
  cases hchange with
  | imports path =>
      refine { h with imports := ?_ }
      intro other hother
      rcases List.mem_append.1 hother with hother | hother
      · exact h.imports other hother
      · exact hmeaning other (by simpa using hother)
  | informs title version => exact { h with title := hmeaning.1, version := hmeaning.2 }
  | opensNamespace name => exact h.close.inside ⟨hmeaning name rfl, by simp, by simp⟩
  | opensModel m hopen =>
      refine h.inside { (h.open? _ hopen).closeModel with model? := ?_ }
      rintro k ⟨⟩
      exact hmeaning m rfl
  | addsProperty property hopen hinside =>
      have hn := h.open? _ hopen
      refine h.inside { hn with model? := ?_ }
      rintro k ⟨⟩
      exact (hn.model? _ hinside).addProperty hmeaning
  | closesModel hopen hinside => exact h.inside (h.open? _ hopen).closeModel
  | closesNamespace hopen hinside => exact h.close
  | passes ignored hnone => exact { h with }

/-! ## The whole text -/

theorem start_reread : Progress.start.Reread := by
  constructor <;> simp [Progress.start]

theorem foldl_step_reread {ss : List Statement} (hss : ∀ s ∈ ss, s.meaning.Reread) {p : Progress}
    (h : p.Reread) : (ss.foldl Progress.step p).Reread := by
  induction ss generalizing p with
  | nil => exact h
  | cons s ss ih =>
      exact ih (fun t ht => hss t (List.mem_cons_of_mem _ ht))
        ((change_step p s).reread h (hss s (by simp)))

theorem readSource_reread (source : String) : (readSource source).Reread := by
  have hlines : ∀ l ∈ trimmedLines source.toList, trim l = l ∧ OneLine l :=
    fun l hl => (mem_trimmedLines hl).2
  exact (foldl_step_reread (statements_reread hlines) start_reread).close

theorem Namespace.Reread.join {m n : Namespace} (hm : m.Reread) (hn : n.Reread) :
    Namespace.Reread
      { m with models := m.models ++ n.models, operations := m.operations ++ n.operations } := by
  refine ⟨hm.name, ?_, ?_⟩
  · intro k hk
    exact (List.mem_append.1 hk).elim (hm.models k) (hn.models k)
  · have hkeptM := hm.kept
    have hkeptN := hn.kept
    obtain ⟨name, models, operations, imports, description⟩ := m
    obtain ⟨name', models', operations', imports', description'⟩ := n
    simp only [Namespace.kept, Namespace.mk.injEq, true_and] at hkeptM hkeptN ⊢
    obtain ⟨hmodels, rfl, rfl, rfl⟩ := hkeptM
    obtain ⟨hmodels', rfl, -, -⟩ := hkeptN
    rw [List.map_append, hmodels, hmodels']
    exact ⟨rfl, rfl, rfl, rfl⟩

theorem Namespace.Reread.legible {n : Namespace} (h : n.Reread)
    (hends : ∀ m ∈ n.models, ¬ EndsInExtends m.name) : n.Legible := by
  have hkept := h.kept
  obtain ⟨name, models, operations, imports, description⟩ := n
  simp only [Namespace.kept, Namespace.mk.injEq, true_and] at hkept
  obtain ⟨-, rfl, rfl, rfl⟩ := hkept
  exact
    { name := h.name
      models := fun m hm => (h.models m hm).legible (hends m hm)
      operations := by simp
      imports := by simp
      comment := by simp [LegibleComment] }

/-- A definition whose service block says all of title and version, and in which no model name
would be taken for one with bases. -/
@[mk_iff]
structure Definition.Renderable (d : Definition) : Prop where
  titled : d.title.isSome ∨ d.version = none
  title : ∀ t ∈ d.title, FitsService t
  title_end : ∀ t ∈ d.title, ¬ "version:".toList <:+ trimEnd t.toList
  version : ∀ v ∈ d.version, FitsService v
  models : ∀ m ∈ d.models, ¬ EndsInExtends m.name

instance (d : Definition) : Decidable d.Renderable :=
  decidable_of_iff' _ (Definition.renderable_iff d)

theorem Progress.Reread.namespaces_definition {p : Progress} (h : p.Reread) :
    ∀ n ∈ p.definition.namespaces, n.Reread :=
  mergeNamespaces_forall (fun _ _ hm hn => hm.join hn) h.namespaces

theorem Progress.Reread.legible {p : Progress} (h : p.Reread) (hd : p.definition.Renderable) :
    p.definition.Legible where
  namespaces := fun n hn => (h.namespaces_definition n hn).legible fun m hm =>
    hd.models m (List.mem_flatMap.2 ⟨n, hn, hm⟩)
  names := nodup_mergeNamespaces p.namespaces
  imports := h.imports
  title := hd.title
  title_end := hd.title_end
  version := hd.version

theorem filled_eq_self {s : Option String} (h : ∀ t ∈ s, t ≠ "") : filled s = s := by
  cases s with
  | none => rfl
  | some t =>
      have ht : t ≠ "" := h t rfl
      simp [filled, ht]

/-- What has been read says all that a source can say. -/
theorem Progress.Reread.kept {p : Progress} (h : p.Reread)
    (htitled : p.definition.title.isSome ∨ p.definition.version = none) :
    p.definition.kept = p.definition := by
  have hnamespaces := h.namespaces_definition
  have hmap : p.definition.namespaces.map Namespace.kept = p.definition.namespaces := by
    rw [List.map_congr_left fun n hn => (hnamespaces n hn).kept, List.map_id']
  have himports : p.definition.namespaces.flatMap (·.imports) = [] := by
    rw [List.flatMap_eq_nil_iff]
    intro n hn
    rw [← (hnamespaces n hn).kept, Namespace.kept]
  have hversion : p.title.bind (fun _ => p.version) = p.version := by
    cases htitle : p.title with
    | some t => rfl
    | none =>
        rcases htitled with hsome | hnone
        · simp [Progress.definition, htitle] at hsome
        · exact hnone.symm
  rw [Definition.kept, hmap, himports, List.append_nil]
  simp only [Progress.definition, filled_eq_self h.title, filled_eq_self h.version, hversion]

/-- Every text is read as some definition, and unless its title, version or model names get in the
way, the definition is read back from its own source. -/
theorem read_source_of_read (source : String) :
    ∃ d, Definition.read source = .valid d ∧
      (d.Renderable → Definition.read d.source = .valid d) := by
  have hreread := readSource_reread source
  refine ⟨(readSource source).definition, read_eq_valid source, fun hd => ?_⟩
  rw [read_source (hreread.legible hd), hreread.kept hd.titled]

/-- A text with a reopened namespace, a model without a name, a property without one, a stray brace
and blocks that are not closed. -/
def strayText : String :=
  "\x7d\nnamespace Shop \x7b\nmodel  \x7b\n: int32;;\npages ? : string\n" ++
    "@service(\x7btitle: \"Shop\", version: \"1.0\"\x7d)\nnamespace Shop \x7b\n" ++
    "model Book extends Item, , \x7b\nimport \"a\";b\";"

theorem read_source_of_read_strayText :
    ∃ d, Definition.read strayText = .valid d ∧ d.Renderable ∧
      Definition.read d.source = .valid d := by
  obtain ⟨d, hread, hround⟩ := read_source_of_read strayText
  have hd : d = (readSource strayText).definition :=
    Checked.valid.inj (hread.symm.trans (read_eq_valid strayText))
  have hrenderable : d.Renderable := by
    rw [hd]
    decide +kernel
  exact ⟨d, hread, hrenderable, hround hrenderable⟩

end ApiShapes.TypeSpec
