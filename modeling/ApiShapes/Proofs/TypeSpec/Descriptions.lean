import ApiShapes.Proofs.TypeSpec.Roundtrip
import Mathlib.Tactic

/-!
# Descriptions and what is read back

Two definitions that differ in their descriptions only should be read back as the same.  With quiet
comments this holds exactly if no property has a description whose further lines declare properties:
those lines stand within the model, where a line with a colon is taken for a property.
-/

namespace ApiShapes.TypeSpec

/-! ## Without descriptions -/

theorem outline_undescribed (d : Definition) : d.undescribed.outline = d.outline := by
  have hmodel : ∀ m : Model, m.undescribed.undescribed = m.undescribed := by
    intro m
    simp [Model.undescribed, Property.undescribed, Function.comp_def]
  have hoperation : ∀ o : Operation, o.undescribed.undescribed = o.undescribed := by
    intro o
    cases hbody : o.requestBody <;>
      simp [Operation.undescribed, Parameter.undescribed, RequestBody.undescribed,
        Response.undescribed, Function.comp_def, hbody]
  have hnamespace : ∀ n : Namespace, n.undescribed.outline = n.outline := by
    intro n
    simp [Namespace.outline, Namespace.undescribed, Function.comp_def, hmodel, hoperation]
  simp [Definition.outline, Definition.undescribed, Function.comp_def, hnamespace]

theorem comments_undescribed (d : Definition) : ∀ c ∈ d.undescribed.comments, c = none := by
  intro c hc
  obtain ⟨n, hn, hc⟩ := List.mem_flatMap.1 hc
  obtain ⟨n, -, rfl⟩ := List.mem_map.1 hn
  rcases List.mem_cons.1 hc with rfl | hc
  · rfl
  · rcases List.mem_append.1 hc with hc | hc
    · obtain ⟨m, hm, hc⟩ := List.mem_flatMap.1 hc
      obtain ⟨m, -, rfl⟩ := List.mem_map.1 hm
      rcases List.mem_cons.1 hc with rfl | hc
      · rfl
      · obtain ⟨p, hp, rfl⟩ := List.mem_map.1 hc
        obtain ⟨p, -, rfl⟩ := List.mem_map.1 hp
        rfl
    · obtain ⟨o, ho, rfl⟩ := List.mem_map.1 hc
      obtain ⟨o, -, rfl⟩ := List.mem_map.1 ho
      rfl

/-! ## Stray properties -/

theorem asRead_eq_kept_iff (ps : List Property) :
    ps.flatMap Property.asRead = ps.map Property.kept ↔
      ∀ p ∈ ps, strayProperties p.description = [] := by
  constructor
  · intro h
    have hlength : (ps.map fun p => (strayProperties p.description).length).sum = 0 := by
      have hcount := congrArg List.length h
      have hone : ps.map (fun p => p.asRead.length) =
          ps.map fun p => (strayProperties p.description).length + 1 := by
        simp [Property.asRead]
      rw [List.length_flatMap, hone, List.sum_map_add, List.map_const', List.sum_replicate,
        List.length_map, smul_eq_mul, mul_one] at hcount
      omega
    intro p hp
    rw [List.sum_eq_zero_iff] at hlength
    exact List.length_eq_zero_iff.1 (hlength _ (List.mem_map_of_mem hp))
  · intro h
    rw [List.map_eq_flatMap]
    apply List.flatMap_congr
    intro p hp
    rw [Property.asRead, h p hp, List.nil_append]

theorem Model.asRead_undescribed_iff (m : Model) :
    m.asRead = m.undescribed.asRead ↔ ∀ p ∈ m.properties, strayProperties p.description = [] := by
  have hplain : m.undescribed.properties.flatMap Property.asRead =
      m.properties.map Property.kept := by
    rw [Model.undescribed, List.flatMap_map, List.map_eq_flatMap]
    rfl
  rw [← asRead_eq_kept_iff, Model.asRead, Model.asRead, hplain, Model.mk.injEq]
  simp [Model.undescribed]

theorem Definition.asRead_undescribed_iff (d : Definition) :
    d.asRead = d.undescribed.asRead ↔
      ∀ m ∈ d.models, ∀ p ∈ m.properties, strayProperties p.description = [] := by
  have himports : d.undescribed.namespaces.flatMap (·.imports) =
      d.namespaces.flatMap (·.imports) := by
    rw [Definition.undescribed, List.flatMap_map]
    rfl
  have hnamespace : ∀ n : Namespace, n.asRead = n.undescribed.asRead ↔
      ∀ m ∈ n.models, m.asRead = m.undescribed.asRead := by
    intro n
    rw [← List.map_inj_left, Namespace.asRead, Namespace.asRead, Namespace.mk.injEq]
    simp [Namespace.undescribed, Function.comp_def]
  have hnamespaces : d.asRead = d.undescribed.asRead ↔
      ∀ n ∈ d.namespaces, n.asRead = n.undescribed.asRead := by
    rw [← List.map_inj_left, Definition.asRead, Definition.asRead, Definition.mk.injEq, himports]
    simp [Definition.undescribed, Function.comp_def]
  rw [hnamespaces]
  simp only [hnamespace, Model.asRead_undescribed_iff, Definition.models, List.mem_flatMap]
  constructor
  · rintro h m ⟨n, hn, hm⟩
    exact h n hn m hm
  · intro h n hn m hm
    exact h m ⟨n, hn, hm⟩

/-! ## Reading back -/

theorem read_source_undescribed {d : Definition} (h : d.outline.Legible) :
    Definition.read d.undescribed.source = .valid d.undescribed.asRead := by
  apply read_source_of_outline
  · rw [outline_undescribed]
    exact h
  · intro c hc
    rw [comments_undescribed d c hc]
    simp [QuietComment]

/-- Quiet comments do not matter to what is read back exactly if no comment of a property declares
another one. -/
theorem read_source_undescribed_iff {d : Definition} (h : d.outline.Legible)
    (hcomments : ∀ c ∈ d.comments, QuietComment c) :
    Definition.read d.source = .valid d.asRead ∧
      (Definition.read d.source = Definition.read d.undescribed.source ↔
        ∀ m ∈ d.models, ∀ p ∈ m.properties, strayProperties p.description = []) := by
  have hread := read_source_of_outline h hcomments
  refine ⟨hread, ?_⟩
  rw [hread, read_source_undescribed h, Checked.valid.injEq]
  exact d.asRead_undescribed_iff

/-- A definition with a description of several lines at each place where one is rendered. -/
def describedShop (ofTitle : String) : Definition :=
  { namespaces :=
      [{ name := "Books"
         models :=
          [{ name := "Book"
             properties :=
              [⟨"title", "string", false, some ofTitle, none⟩,
                ⟨"pages", "int32", true, some "all of them\r\nbut the cover", none⟩]
             bases := ["Item"]
             description := some "A book.\nsee also: Item"
             decorators := [⟨"doc", [.text "printed"]⟩] }]
         operations :=
          [{ name := "list"
             method := .get
             path := "/books"
             parameters := [⟨"page", .query, "int32", false, some "from: one"⟩]
             requestBody := none
             responses := [⟨.code 200, some "Book[]", none, some "found"⟩]
             description := some "Lists books:\n\u2028all: of them"
             decorators := [] }]
         imports := [""]
         description := some "\n// for: readers" }]
    imports := ["@typespec/http"]
    title := some "Shop"
    version := some "1"
    description := some "never written" }

theorem read_source_undescribed_iff_describedShop :
    (describedShop "as printed\n/* twice: once\n").outline.Legible ∧
      (∀ c ∈ (describedShop "as printed\n/* twice: once\n").comments, QuietComment c) ∧
      Definition.read (describedShop "as printed\n/* twice: once\n").source =
        Definition.read (describedShop "as printed\n/* twice: once\n").undescribed.source := by
  have hlegible : (describedShop "as printed\n/* twice: once\n").outline.Legible :=
    Definition.Plain.legible (by decide) (by decide)
  have hcomments :
      ∀ c ∈ (describedShop "as printed\n/* twice: once\n").comments, QuietComment c := by
    decide
  have hnone : ∀ m ∈ (describedShop "as printed\n/* twice: once\n").models, ∀ p ∈ m.properties,
      (strayProperties p.description).isEmpty = true := by
    decide
  refine ⟨hlegible, hcomments, (read_source_undescribed_iff hlegible hcomments).2.2 ?_⟩
  intro m hm p hp
  exact List.isEmpty_iff.1 (hnone m hm p hp)

/-- A description with a colon in its second line becomes a property. -/
theorem secondLine_becomes_property :
    (describedShop "as printed\nowner: second").outline.Plain ∧
      ∃ r r', Definition.read (describedShop "as printed\nowner: second").source = .valid r ∧
        Definition.read (describedShop "as printed\nowner: second").undescribed.source =
          .valid r' ∧
        r.models.map (fun m => m.properties.map (·.name)) = [["owner", "title", "pages"]] ∧
        r'.models.map (fun m => m.properties.map (·.name)) = [["title", "pages"]] := by
  have hplain : (describedShop "as printed\nowner: second").outline.Plain := by decide
  have hlegible := hplain.legible (by decide)
  have hcomments : ∀ c ∈ (describedShop "as printed\nowner: second").comments, QuietComment c := by
    decide
  exact ⟨hplain, _, _, read_source_of_outline hlegible hcomments,
    read_source_undescribed hlegible, by decide, by decide⟩

end ApiShapes.TypeSpec
