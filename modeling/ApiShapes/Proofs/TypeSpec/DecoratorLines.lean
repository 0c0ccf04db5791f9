import ApiShapes.Proofs.TypeSpec.Ownership
import Mathlib.Tactic

/-!
# Decorator lines

A line of a decorator declares nothing and opens and closes nothing, with one exception: where a
model is open, a colon anywhere in the line makes a property of it.  So such a line can be inserted
into a source without a trace unless it has a colon and stands in a model; there the model has one
property more.
-/

namespace ApiShapes.TypeSpec

open Text

/-- A line that starts with the mark of a decorator other than that of a service block. -/
structure IsDecorator (line : List Char) : Prop where
  mark : line.head? = some '@'
  noService : isServiceStart line = false

instance (line : List Char) : Decidable (IsDecorator line) :=
  decidable_of_iff (line.head? = some '@' ∧ isServiceStart line = false)
    ⟨fun h => ⟨h.1, h.2⟩, fun h => ⟨h.mark, h.noService⟩⟩

section

variable {line : List Char}

theorem IsDecorator.declares (h : IsDecorator line) :
    importOf? line = none ∧ namespaceHeader? line = none ∧ modelHeader? line = none ∧
      isClosing line = false ∧
      property? line = if ':' ∈ line then some (readProperty line) else none := by
  obtain ⟨hmark, hservice⟩ := h
  obtain ⟨rest, rfl⟩ : ∃ rest, line = '@' :: rest := by
    cases line with
    | nil => cases hmark
    | cons c rest =>
        obtain rfl : c = '@' := by simpa using hmark
        exact ⟨rest, rfl⟩
  refine ⟨rfl, rfl, rfl, rfl, ?_⟩
  have hkeyworded : isKeyworded ('@' :: rest) = false := by
    unfold isKeyworded keywords
    have hservice : startsWith "@service(".toList ('@' :: rest) = false := hservice
    simp only [List.any_cons, List.any_nil, hservice]
    rfl
  have hcomment : isComment ('@' :: rest) = false := rfl
  unfold property?
  simp [hkeyworded, hcomment]

/-- A decorator leaves open what is open. -/
theorem IsDecorator.open (h : IsDecorator line) (before : List (List Char)) :
    namespaceOpen (line :: before) = namespaceOpen before ∧
      modelOpen (line :: before) = modelOpen before := by
  obtain ⟨-, hnamespace, hmodel, hclosing, -⟩ := h.declares
  rw [namespaceOpen, modelOpen]
  simp [hnamespace, hmodel, hclosing]

end

/-! ## What is open decides what is declared -/

theorem acceptedModel?_congr {before other : List (List Char)}
    (hnamespace : namespaceOpen before = namespaceOpen other) (line : List Char) :
    acceptedModel? before line = acceptedModel? other line := by
  unfold acceptedModel?
  rw [hnamespace]

theorem declared_congr {before other : List (List Char)}
    (hnamespace : namespaceOpen before = namespaceOpen other)
    (hmodel : modelOpen before = modelOpen other) (name : String) (rest : List (List Char)) :
    propertiesFrom before rest = propertiesFrom other rest ∧
      modelsFrom name before rest = modelsFrom name other rest := by
  induction rest generalizing before other with
  | nil => exact ⟨rfl, rfl⟩
  | cons line rest ih =>
      have hnext : namespaceOpen (line :: before) = namespaceOpen (line :: other) ∧
          modelOpen (line :: before) = modelOpen (line :: other) := by
        rw [namespaceOpen, namespaceOpen, modelOpen, modelOpen, hnamespace, hmodel]
        exact ⟨rfl, rfl⟩
      obtain ⟨hproperties, hmodels⟩ := ih hnext.1 hnext.2
      rw [propertiesFrom, propertiesFrom, modelsFrom, modelsFrom, hproperties, hmodels, hnamespace,
        acceptedModel?_congr hnamespace]
      exact ⟨rfl, rfl⟩

/-! ## Reading on behind some lines -/

theorem Run.agrees {p q : Progress} {ls : List (List Char)} (h : Run p ls q)
    {before : List (List Char)} (hagrees : p.Agrees before) : q.Agrees (ls.reverse ++ before) := by
  induction h generalizing before with
  | nil p => exact hagrees
  | cons hmove hrun ih =>
      rw [List.reverse_cons, List.append_assoc]
      exact ih (agrees_of_move hagrees hmove)

/-- Lines without service blocks lead to a state that agrees with what they leave open, from which
the rest is read. -/
theorem exists_declared_append {before : List (List Char)}
    (h : ∀ line ∈ before, isServiceStart line = false) :
    ∃ p : Progress, p.Agrees before.reverse ∧
      ∀ rest, Progress.start.declared (before ++ rest) = p.declared rest := by
  refine ⟨(statements before).foldl Progress.step .start, ?_, ?_⟩
  · have hstart : Progress.start.Agrees [] := ⟨rfl, rfl⟩
    have hagrees := (run_statements .start h).agrees hstart
    rwa [List.append_nil] at hagrees
  · intro rest
    rw [Progress.declared, statements_append h, List.foldl_append]
    rfl

/-- The models of a name are found in what is declared. -/
theorem modelsNamed_declared {p : Progress} {before rest : List (List Char)}
    (hagrees : p.Agrees before) (h : ∀ line ∈ rest, isServiceStart line = false) (name : String) :
    modelsNamed name (p.declared rest).namespaces = p.owned name before rest :=
  (modelsNamed_mergeNamespaces ..).trans ((run_statements p h).owned hagrees name)

/-! ## Decorators -/

section

variable {p : Progress} {line : List Char} {before after : List (List Char)}

theorem declared_decorator (hagrees : p.Agrees before) (hline : IsDecorator line)
    (h : ¬ (modelOpen before = true ∧ ':' ∈ line)) (rest : List (List Char)) :
    p.declared (line :: rest) = p.declared rest := by
  obtain ⟨himport, hnamespace, hmodel, hclosing, hproperty⟩ := hline.declares
  have hmove := move_step p hline.noService
  rw [declared_cons p hline.noService]
  generalize p.step ⟨line, meaningOf line⟩ = q at hmove
  cases hmove with
  | opensNamespace hopens => simp [hnamespace] at hopens
  | opensModel hopen hnone hopens => simp [hmodel] at hopens
  | closesModel hopen hinside hnone hnomodel hcloses => simp [hclosing] at hcloses
  | closesNamespace hopen hinside hnone hnomodel hcloses => simp [hclosing] at hcloses
  | addsProperty hopen hinside hnone hnomodel hcloses hadds =>
      have hmodelOpen : modelOpen before = true := by
        rw [hagrees.modelOpen, hopen, Option.bind_some, hinside]
        rfl
      have hcolon : ':' ∈ line := by
        by_contra hcolon
        simp [hproperty, hcolon] at hadds
      exact absurd ⟨hmodelOpen, hcolon⟩ h
  | passes hnone hnomodel hcloses hnoproperty himports =>
      rw [himport, Option.toList_none, List.append_nil] at himports
      subst himports
      exact declared_ignored p _ rest

/-- In a model, a colon makes a property of a decorator. -/
theorem declared_decorator_ne (hagrees : p.Agrees before) (hline : IsDecorator line)
    (hinside : modelOpen before = true ∧ ':' ∈ line)
    (hafter : ∀ l ∈ after, isServiceStart l = false) :
    p.declared (line :: after) ≠ p.declared after := by
  obtain ⟨hmodelOpen, hcolon⟩ := hinside
  obtain ⟨-, hnamespace, hmodel, hclosing, hproperty⟩ := hline.declares
  rw [if_pos hcolon] at hproperty
  obtain ⟨n, m, hopen, hopenModel⟩ : ∃ n m, p.open? = some n ∧ n.model? = some m := by
    rw [hagrees.modelOpen, Option.isSome_iff_exists] at hmodelOpen
    obtain ⟨m, hm⟩ := hmodelOpen
    obtain ⟨n, hn, hm⟩ := Option.bind_eq_some_iff.1 hm
    exact ⟨n, m, hn, hm⟩
  intro hsame
  have howned : p.owned n.name before (line :: after) = p.owned n.name before after := by
    rw [← modelsNamed_declared hagrees hafter,
      ← modelsNamed_declared hagrees (List.forall_mem_cons.2 ⟨hline.noService, hafter⟩), hsame]
  obtain ⟨hsameNamespace, hsameModel⟩ := hline.open before
  obtain ⟨hproperties, hmodels⟩ := declared_congr hsameNamespace hsameModel n.name after
  have hfrom : propertiesFrom before (line :: after) =
      readProperty line :: propertiesFrom before after := by
    rw [propertiesFrom, hproperties, hproperty]
    simp [hclosing, acceptedModel?, hmodel, hnamespace]
  have hrest : modelsFrom n.name before (line :: after) = modelsFrom n.name before after := by
    rw [modelsFrom, hmodels]
    simp [acceptedModel?, hmodel]
  unfold Progress.owned at howned
  rw [hfrom, hrest] at howned
  have hlengths := congrArg (fun models => (models.map fun m => m.properties.length).sum) howned
  simp [Progress.openModels, OpenNamespace.modelsWith, hopen, hopenModel] at hlengths

end

/-- Inserting the line of a decorator into a source without service blocks leaves what is read as it
was, unless the line has a colon and a model is open there. -/
theorem read_inserted_decorator_iff {source inserted : String} {before after : List (List Char)}
    {line : List Char} (hsource : lines source.toList = before ++ after)
    (hinserted : lines inserted.toList = before ++ line :: after)
    (hplain : ∀ l ∈ trimmedLines source.toList, isServiceStart l = false)
    (hline : IsDecorator (trim line)) :
    Definition.read inserted = Definition.read source ↔
      ¬ (modelOpen (visible before).reverse = true ∧ ':' ∈ trim line) := by
  have hshown : trimmedLines source.toList = visible before ++ visible after := by
    rw [trimmedLines_eq_visible_lines, hsource, visible_append]
  have hshown' : trimmedLines inserted.toList = visible before ++ trim line :: visible after := by
    have hne : trim line ≠ [] := by
      intro hnil
      have hmark := hline.mark
      rw [hnil] at hmark
      cases hmark
    rw [trimmedLines_eq_visible_lines, hinserted, visible_append, visible_cons, if_neg hne]
  rw [hshown] at hplain
  obtain ⟨hbefore, hafter⟩ := List.forall_mem_append.1 hplain
  obtain ⟨p, hagrees, hdeclared⟩ := exists_declared_append hbefore
  have hread : Definition.read source = .valid (p.declared (visible after)) := by
    rw [read_eq_valid, ← hdeclared, ← hshown]
    rfl
  have hread' : Definition.read inserted = .valid (p.declared (trim line :: visible after)) := by
    rw [read_eq_valid, ← hdeclared, ← hshown']
    rfl
  rw [hread, hread', Checked.valid.injEq]
  constructor
  · intro hsame hinside
    exact declared_decorator_ne hagrees hline hinside hafter hsame
  · intro h
    exact declared_decorator hagrees hline h _

/-- The lines of a shop with books, with other lines before the model and in it. -/
def shopLines (outside inside : List String) : List String :=
  "namespace Shop \x7b" :: outside ++ "  model Book \x7b" :: inside ++
    ["    title: string;", "  \x7d", "\x7d"]

def shopSource (outside inside : List String) : String :=
  "\n".intercalate (shopLines outside inside)

def docLine : String := "    @doc(\"as printed: twice\")"

theorem isDecorator_docLine : IsDecorator (trim docLine.toList) := by
  decide

theorem plain_shopSource :
    ∀ l ∈ trimmedLines (shopSource [] []).toList, isServiceStart l = false := by
  rw [shopSource, trimmedLines_intercalate_text]
  decide

theorem read_inserted_decorator_shopSource :
    (∀ l ∈ trimmedLines (shopSource [] []).toList, isServiceStart l = false) ∧
      IsDecorator (trim docLine.toList) ∧ ':' ∈ trim docLine.toList ∧
      Definition.read (shopSource [docLine] []) = Definition.read (shopSource [] []) := by
  have hsource : lines (shopSource [] []).toList = (shopLines [] []).map String.toList :=
    lines_intercalate_text (by decide)
  have hinserted : lines (shopSource [docLine] []).toList =
      ["namespace Shop \x7b".toList] ++
        docLine.toList :: (shopLines [] []).tail.map String.toList :=
    lines_intercalate_text (by decide)
  refine ⟨plain_shopSource, isDecorator_docLine, by decide, ?_⟩
  refine (read_inserted_decorator_iff hsource hinserted plain_shopSource isDecorator_docLine).2 ?_
  decide

theorem read_shopSource (outside inside : List String) :
    Definition.read (shopSource outside inside) =
      .valid (Progress.start.declared (shownLines (shopLines outside inside))) := by
  rw [read_eq_valid, ← trimmedLines_intercalate_text]
  rfl

/-- In a model, the text of a decorator up to its colon becomes the name of a property. -/
theorem doc_becomes_property :
    (∀ l ∈ trimmedLines (shopSource [] []).toList, isServiceStart l = false) ∧
      IsDecorator (trim docLine.toList) ∧
      ∃ d d', Definition.read (shopSource [] []) = .valid d ∧
        Definition.read (shopSource [] [docLine]) = .valid d' ∧
        d.models.map (fun m => m.properties.map (·.name)) = [["title"]] ∧
        d'.models.map (fun m => m.properties.map (·.name)) = [["@doc(\"as printed", "title"]] :=
  ⟨plain_shopSource, isDecorator_docLine, _, _, read_shopSource .., read_shopSource ..,
    by decide, by decide⟩

end ApiShapes.TypeSpec
