import ApiShapes.Proofs.TypeSpec.BlockReading
import Mathlib.Tactic

/-!
# Generated sources read back

The conditions under which one would expect a definition to come back from its source, part by part:
names are single words, types are trimmed, and every text stays on its line.  Such a definition is
legible, so reading its source gives the definition without what a source does not say.
-/

namespace ApiShapes.TypeSpec

open Json Text

/-! ## Plain definitions -/

/-- A word without blanks and braces. -/
@[mk_iff]
structure PlainName (name : String) : Prop where
  filled : name ≠ ""
  noBlank : ∀ c ∈ name.toList, isBlank c = false
  noBrace : '\x7b' ∉ name.toList

@[mk_iff]
structure Property.Plain (p : Property) : Prop where
  filled : p.name ≠ ""
  noBlank : ∀ c ∈ p.name.toList, isBlank c = false
  noColon : ':' ∉ p.name.toList
  noMark : ¬ ['?'] <:+ p.name.toList
  noLineComment : ¬ "//".toList <+: p.name.toList
  noBlockComment : ¬ "/*".toList <+: p.name.toList
  noService : ¬ "@service(".toList <+: p.name.toList
  type_trim : trim p.type.toList = p.type.toList
  type_oneLine : OneLine p.type.toList
  comment : LegibleComment p.description

@[mk_iff]
structure Decorator.Plain (d : Decorator) : Prop where
  oneLine : OneLine d.name.toList
  noService : ¬ "service".toList <+: d.name.toList
  arguments : ∀ v ∈ d.arguments, ∃ s, v = .text s ∧ ∀ c ∈ s.toList, c ∉ literalBoundaries

@[mk_iff]
structure Model.Plain (m : Model) : Prop where
  name : PlainName m.name
  bases : ∀ b ∈ m.bases, PlainName b ∧ ',' ∉ b.toList
  properties : ∀ p ∈ m.properties, p.Plain
  comment : LegibleComment m.description
  decorators : ∀ d ∈ m.decorators, d.Plain

@[mk_iff]
structure Operation.Plain (o : Operation) : Prop where
  name : OneLine o.name.toList
  path : ∀ c ∈ o.path.toList, c ∉ literalBoundaries
  parameters : ∀ p ∈ o.parameters, OneLine p.name.toList ∧ OneLine p.type.toList
  responses : ∀ r ∈ o.responses, ∀ type ∈ r.type, OneLine type.toList
  comment : LegibleComment o.description
  decorators : ∀ d ∈ o.decorators, d.Plain

@[mk_iff]
structure Namespace.Plain (n : Namespace) : Prop where
  name : PlainName n.name
  models : ∀ m ∈ n.models, m.Plain
  operations : ∀ o ∈ n.operations, o.Plain
  imports : ∀ path ∈ n.imports, LegibleImport path
  comment : LegibleComment n.description

@[mk_iff]
structure Definition.Plain (d : Definition) : Prop where
  namespaces : ∀ n ∈ d.namespaces, n.Plain
  imports : ∀ path ∈ d.imports, LegibleImport path
  title : ∀ t ∈ d.title, FitsService t
  title_end : ∀ t ∈ d.title, ¬ "version:".toList <:+ trimEnd t.toList
  version : ∀ v ∈ d.version, FitsService v

/-! ## Checking a definition -/

instance (name : String) : Decidable (PlainName name) :=
  decidable_of_iff' _ (plainName_iff name)

instance (p : Property) : Decidable p.Plain :=
  decidable_of_iff' _ (Property.plain_iff p)

instance (d : Decorator) : Decidable d.Plain :=
  decidable_of_iff' _ (Decorator.plain_iff d)

instance (m : Model) : Decidable m.Plain :=
  decidable_of_iff' _ (Model.plain_iff m)

instance (o : Operation) : Decidable o.Plain :=
  decidable_of_iff' _ (Operation.plain_iff o)

instance (n : Namespace) : Decidable n.Plain :=
  decidable_of_iff' _ (Namespace.plain_iff n)

instance (d : Definition) : Decidable d.Plain :=
  decidable_of_iff' _ (Definition.plain_iff d)

/-! ## Plain definitions are legible -/

theorem PlainName.legible {name : String} (h : PlainName name) : LegibleName name where
  trim := trim_of_no_blank h.noBlank
  noBrace := h.noBrace
  oneLine := OneLine.of_no_blank h.noBlank

/-- The key of the bases holds two blanks, a plain name in its header is followed by one. -/
theorem PlainName.not_extends {name : String} (h : PlainName name) :
    ¬ extendsKey <:+: name.toList ++ [' '] := by
  intro hwithin
  have hcount := hwithin.sublist.count_le ' '
  have hname : name.toList.count ' ' = 0 := by
    rw [List.count_eq_zero]
    intro hmem
    have hblank := h.noBlank ' ' hmem
    simp [isBlank] at hblank
  rw [List.count_append, hname] at hcount
  simp [extendsKey] at hcount

theorem Property.Plain.legible {p : Property} (h : p.Plain) : p.Legible := by
  have hmark : ∀ c ∈ p.label, isBlank c = false := by
    intro c hc
    rw [Property.label, List.mem_append] at hc
    rcases hc with hc | hc
    · exact h.noBlank c hc
    · split at hc
      · obtain rfl : c = '?' := by simpa using hc
        decide
      · simp at hc
  have hstart : ∀ start : List Char, '?' ∉ start → start <+: p.label → start <+: p.name.toList := by
    intro start hmem hstarts
    rw [Property.label] at hstarts
    split at hstarts
    · exact prefix_of_prefix_append hmem hstarts
    · simpa using hstarts
  refine
    { label_trim := trim_of_no_blank hmark
      label_colon := ?_
      label_oneLine := OneLine.of_no_blank hmark
      label_unclaimed := ?_
      mark := ?_
      type_trim := h.type_trim
      type_oneLine := h.type_oneLine
      comment := h.comment }
  · rw [Property.label, List.mem_append]
    rintro (hc | hc)
    · exact h.noColon hc
    · split at hc <;> simp at hc
  · intro start hmem hstarts
    have hcases : ' ' ∈ start ∨
        (start = "//".toList ∨ start = "/*".toList ∨ start = "@service(".toList) ∧ '?' ∉ start := by
      have hall : ∀ start ∈ claimedStarts, ' ' ∈ start ∨
          (start = "//".toList ∨ start = "/*".toList ∨ start = "@service(".toList) ∧
            '?' ∉ start := by decide
      exact hall start hmem
    rcases hcases with hblank | ⟨hword, hquestion⟩
    · have hspace := hmark ' ' (hstarts.subset hblank)
      simp [isBlank] at hspace
    · have hname := hstart start hquestion hstarts
      rcases hword with rfl | rfl | rfl
      · exact h.noLineComment hname
      · exact h.noBlockComment hname
      · exact h.noService hname
  · intro hoptional hlast
    have hlabel : p.label = p.name.toList := by simp [Property.label, hoptional]
    rw [hlabel, List.getLast?_eq_some_iff] at hlast
    obtain ⟨front, hfront⟩ := hlast
    exact h.noMark ⟨front, hfront.symm⟩

theorem Decorator.Plain.legible {d : Decorator} (h : d.Plain) : d.Legible := by
  have hname : OneLine ('@' :: d.name.toList) := by
    have hat : OneLine ['@'] := by decide
    exact hat.append h.oneLine
  by_cases hargs : d.arguments = []
  · have hsource : d.source.toList = '@' :: d.name.toList := by
      have hnone : d.arguments.isEmpty = true := by simp [hargs]
      rw [Decorator.source, if_pos hnone, String.toList_append]
      rfl
    refine ⟨hsource ▸ hname, fun hstarts => h.noService ?_⟩
    rw [hsource] at hstarts
    have htail : "service(".toList <+: d.name.toList := (List.cons_prefix_cons.1 hstarts).2
    have hword : "service".toList <+: "service(".toList := ⟨['('], rfl⟩
    exact hword.trans htail
  · have hsource : d.source.toList = '@' :: (d.name.toList ++ '(' ::
        ([',', ' '].intercalate (d.arguments.map fun v => (literal v).toList) ++ [')'])) := by
      have hnot : d.arguments.isEmpty = false := by simpa using hargs
      rw [Decorator.source, hnot, if_neg (by simp)]
      simp only [String.toList_append, String.toList_intercalate, List.map_map, List.append_assoc]
      rfl
    have hargument : ∀ l ∈ d.arguments.map fun v => (literal v).toList, OneLine l := by
      intro l hl
      obtain ⟨v, hv, rfl⟩ := List.mem_map.1 hl
      obtain ⟨s, rfl, hs⟩ := h.arguments v hv
      rw [literal, toList_writeLine_text]
      exact oneLine_quote hs
    constructor
    · have hopen : OneLine ['('] := by decide
      have hclose : OneLine [')'] := by decide
      rw [hsource]
      exact hname.append (hopen.append ((OneLine.intercalate (by decide) hargument).append hclose))
    · intro hstarts
      rw [hsource] at hstarts
      have htail := (List.cons_prefix_cons.1 hstarts).2
      have hword : "service".toList <+: "service(".toList := ⟨['('], rfl⟩
      exact h.noService (prefix_of_prefix_append (by decide) (hword.trans htail))

theorem Model.Plain.legible {m : Model} (h : m.Plain) : m.Legible where
  name := h.name.legible
  name_extends := h.name.not_extends
  bases := fun b hb =>
    { (h.bases b hb).1.legible with
      filled := (h.bases b hb).1.filled
      noComma := (h.bases b hb).2 }
  named := fun _ => h.name.filled
  properties := fun p hp => (h.properties p hp).legible
  comment := h.comment
  decorators := fun d hd => (h.decorators d hd).legible

theorem Operation.Plain.legible {o : Operation} (h : o.Plain) : o.Legible where
  comment := h.comment
  decorators := fun d hd => (h.decorators d hd).legible
  path := h.path
  name := h.name
  parameters := h.parameters
  result := resultType_induction (P := fun type => OneLine type.toList) (by decide) h.responses

theorem Namespace.Plain.legible {n : Namespace} (h : n.Plain) : n.Legible where
  name := h.name.legible
  models := fun m hm => (h.models m hm).legible
  operations := fun o ho => (h.operations o ho).legible
  imports := h.imports
  comment := h.comment

theorem Definition.Plain.legible {d : Definition} (h : d.Plain)
    (hnames : (namespaceNames d.namespaces).Nodup) : d.Legible where
  namespaces := fun n hn => (h.namespaces n hn).legible
  names := hnames
  imports := h.imports
  title := h.title
  title_end := h.title_end
  version := h.version

/-! ## The round trip -/

/-- Generating a source from an accepted plain definition and reading the source gives the
definition with its imports collected, and without comments, formats, decorators, operations, an
empty title or version, and a version that has no title. -/
theorem read_source_of_plain {d : Definition} (haccepted : d.checkNamespaces d.dump = .valid d)
    (hplain : d.Plain) : Definition.read d.source = .valid d.kept :=
  read_source (hplain.legible ((checkNamespaces_eq_valid_iff d d.dump).1 haccepted))

/-- A definition with every kind of part, most of which its source does not say. -/
def bookshop : Definition :=
  { namespaces :=
      [{ name := "Books"
         models :=
          [{ name := "Book"
             properties :=
              [⟨"title", "string", false, some "as printed", none⟩,
                ⟨"pages", "int32 | null", true, none, some "int32"⟩]
             bases := ["Item", "Priced"]
             description := some "A book."
             decorators := [⟨"doc", [.text "printed (or not)"]⟩] }]
         operations :=
          [{ name := "list"
             method := .get
             path := "/books"
             parameters := [⟨"page", .query, "int32", false, none⟩]
             requestBody := none
             responses := [⟨.code 200, some "Book[]", none, none⟩]
             description := none
             decorators := [] }]
         imports := ["./items.tsp"]
         description := none }]
    imports := ["@typespec/http"]
    title := some "Shop (\"live\")"
    version := some "1.0"
    description := some "never written" }

theorem read_source_of_plain_bookshop :
    bookshop.checkNamespaces bookshop.dump = .valid bookshop ∧ bookshop.Plain ∧
      Definition.read bookshop.source = .valid bookshop.kept := by
  have haccepted : bookshop.checkNamespaces bookshop.dump = .valid bookshop :=
    (checkNamespaces_eq_valid_iff _ _).2 (by decide)
  have hplain : bookshop.Plain := by decide
  exact ⟨haccepted, hplain, read_source_of_plain haccepted hplain⟩

end ApiShapes.TypeSpec
