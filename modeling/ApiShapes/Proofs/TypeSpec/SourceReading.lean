import ApiShapes.Proofs.TypeSpec.Legible
import ApiShapes.Proofs.TypeSpec.NamespaceMerge
import ApiShapes.TypeSpec.Reading
import Mathlib.Tactic

/-!
# Reading a rendered source

Each part of a rendered source takes the reader from the state before it to the state that has what
is kept of that part.  So a legible definition is read back from its source as what is kept of it.
The lines that were passed over do not count towards what has been read.
-/

namespace ApiShapes.TypeSpec

open Text

/-- No text is refused. -/
theorem read_eq_valid (source : String) :
    Definition.read source = .valid (readSource source).definition := by
  rw [Definition.read, checkNamespaces_eq_valid_iff]
  exact nodup_mergeNamespaces _

/-- What a source declares whose remaining lines are given. -/
def Progress.declared (p : Progress) (ls : List (List Char)) : Definition :=
  ((statements ls).foldl Progress.step p).close.definition

def Progress.inside (p : Progress) (n : OpenNamespace) : Progress :=
  { p with open? := some n }

/-- The lines passed over do not matter to the next step. -/
theorem step_ignored (p : Progress) (s : Statement) (ignored : List String) :
    ∃ ignored', Progress.step { p with ignored } s = { p.step s with ignored := ignored' } := by
  obtain ⟨imports, namespaces, open?, title, version, old⟩ := p
  unfold Progress.step
  cases s.meaning with
  | importPath path => exact ⟨_, rfl⟩
  | service title version => exact ⟨_, rfl⟩
  | namespaceHeader name => cases name <;> exact ⟨_, rfl⟩
  | modelHeader m => cases open? <;> cases m <;> exact ⟨_, rfl⟩
  | property property =>
      cases open? with
      | none => exact ⟨_, rfl⟩
      | some n =>
          obtain ⟨name, models, model?⟩ := n
          cases model? <;> exact ⟨_, rfl⟩
  | closing =>
      cases open? with
      | none => exact ⟨_, rfl⟩
      | some n =>
          obtain ⟨name, models, model?⟩ := n
          cases model? <;> exact ⟨_, rfl⟩
  | other => exact ⟨_, rfl⟩

theorem declared_ignored (p : Progress) (ignored : List String) (ls : List (List Char)) :
    Progress.declared { p with ignored } ls = p.declared ls := by
  rw [Progress.declared, Progress.declared]
  induction statements ls generalizing p ignored with
  | nil => rfl
  | cons s ss ih =>
      obtain ⟨ignored', hstep⟩ := step_ignored p s ignored
      rw [List.foldl_cons, List.foldl_cons, hstep, ih]

theorem declared_ignore (p : Progress) (text : List Char) (ls : List (List Char)) :
    (p.ignore text).declared ls = p.declared ls :=
  declared_ignored p _ ls

/-- Reading a rendered source is reading the rendered lines. -/
theorem read_source_eq (d : Definition) :
    Definition.read d.source = .valid (Progress.start.declared (shownLines d.lines)) := by
  rw [read_eq_valid, ← trimmedLines_source]
  rfl

theorem isServiceStart_of_head {c : Char} (hc : c ≠ '@') (line : List Char) :
    isServiceStart (c :: line) = false := by
  rw [isServiceStart, startsWith_eq_false_iff]
  exact fun h => hc (List.cons_prefix_cons.1 h).1.symm

/-- Lines without service blocks are read apart from the lines behind them. -/
theorem statements_append {before : List (List Char)}
    (h : ∀ line ∈ before, isServiceStart line = false) (rest : List (List Char)) :
    statements (before ++ rest) = statements before ++ statements rest := by
  induction before with
  | nil => rfl
  | cons line before ih =>
      have hline := h line List.mem_cons_self
      rw [List.cons_append, statements, statements, hline, if_neg (by simp), if_neg (by simp),
        ih fun l hl => h l (List.mem_cons_of_mem _ hl), List.cons_append]

theorem declared_cons (p : Progress) {line : List Char} (h : isServiceStart line = false)
    (rest : List (List Char)) :
    p.declared (line :: rest) = (p.step ⟨line, meaningOf line⟩).declared rest := by
  rw [Progress.declared, statements, h, if_neg (by simp), List.foldl_cons]
  rfl

/-- A rendered line that shows as one line is one step. -/
theorem declared_line (p : Progress) {l : String} {line : List Char}
    (hshown : trimmedLines l.toList = [line]) (h : isServiceStart line = false)
    (rest : List (List Char)) :
    p.declared (shownLines [l] ++ rest) = (p.step ⟨line, meaningOf line⟩).declared rest := by
  rw [shownLines_cons, shownLines_nil, List.append_nil, hshown, List.singleton_append,
    declared_cons p h]

theorem model?_inside (p : Progress) {n : OpenNamespace} (hn : n.model? = none) :
    ∀ k ∈ (p.inside n).open?, k.model? = none := by
  intro k hk
  obtain rfl : n = k := by simpa [Progress.inside] using hk
  exact hn

theorem declared_other (p : Progress) {line : List Char} (h : isServiceStart line = false)
    (hmeaning : meaningOf line = .other) (rest : List (List Char)) :
    p.declared (line :: rest) = p.declared rest := by
  rw [declared_cons p h, hmeaning]
  exact declared_ignore p line rest

/-- Outside models a property is passed over as well. -/
theorem declared_property_outside {p : Progress} (hp : ∀ n ∈ p.open?, n.model? = none)
    {line : List Char} (h : isServiceStart line = false) {property : Property}
    (hmeaning : meaningOf line = .property property) (rest : List (List Char)) :
    p.declared (line :: rest) = p.declared rest := by
  have hstep : p.step ⟨line, .property property⟩ = p.ignore line := by
    obtain ⟨imports, namespaces, open?, title, version, old⟩ := p
    cases open? with
    | none => rfl
    | some n =>
        have hn : n.model? = none := hp n rfl
        simp only [Progress.step, hn]
  rw [declared_cons p h, hmeaning, hstep, declared_ignore]

/-! ## Imports -/

theorem trimmedLines_importLine {path : String} (h : OneLine path.toList) :
    trimmedLines ("import \"" ++ path ++ "\";").toList = [importLine path.toList] := by
  have hline : ("import \"" ++ path ++ "\";").toList = importLine path.toList := by
    rw [String.toList_append, String.toList_append, List.append_assoc]
    rfl
  have hends : importLine path.toList =
      'i' :: ("mport \"".toList ++ (path.toList ++ ['"']) ++ [';']) := by
    rw [List.append_assoc, List.append_assoc]
    rfl
  have hmid : OneLine ("mport \"".toList ++ (path.toList ++ ['"'])) := by
    have hhead : OneLine "mport \"".toList := by decide
    have hquote : OneLine ['"'] := by decide
    exact hhead.append (h.append hquote)
  rw [hline, hends]
  exact trimmedLines_between (by decide) (by decide) hmid

/-- An import without a path is not read. -/
def filledImports (imports : List String) : List String :=
  imports.filter (!·.isEmpty)

theorem filledImports_append (a b : List String) :
    filledImports (a ++ b) = filledImports a ++ filledImports b :=
  List.filter_append a b

theorem step_importLine (p : Progress) (path : String) :
    p.step ⟨importLine path.toList, meaningOf (importLine path.toList)⟩ =
      { p with imports := p.imports ++ filledImports [path] } := by
  by_cases hpath : path = ""
  · subst hpath
    rfl
  · have hfilled : path.toList ≠ [] := by simpa using hpath
    rw [meaningOf_importLine hfilled]
    simp [Progress.step, filledImports, hpath]

theorem shownLines_importLines {imports : List String}
    (h : ∀ path ∈ imports, OneLine path.toList) :
    shownLines (importLines imports) = imports.map fun path => importLine path.toList := by
  have hshown : shownLines (importLines imports) =
      shownLines (imports.map fun path => "import \"" ++ path ++ "\";") := by
    rw [importLines]
    split
    · next hempty => simp [List.isEmpty_iff.1 hempty]
    · rw [shownLines_append, shownLines_empty_line, List.append_nil]
  rw [hshown]
  clear hshown
  induction imports with
  | nil => rfl
  | cons path imports ih =>
      rw [List.map_cons, List.map_cons, shownLines_cons,
        trimmedLines_importLine (h path (by simp)), ih fun q hq => h q (by simp [hq])]
      rfl

theorem declared_importLines (p : Progress) {imports : List String}
    (h : ∀ path ∈ imports, OneLine path.toList) (rest : List (List Char)) :
    p.declared (shownLines (importLines imports) ++ rest) =
      Progress.declared { p with imports := p.imports ++ filledImports imports } rest := by
  rw [shownLines_importLines h]
  clear h
  induction imports generalizing p with
  | nil => simp [filledImports]
  | cons path imports ih =>
      have hstart : isServiceStart (importLine path.toList) = false :=
        isServiceStart_of_head (c := 'i') (by decide) _
      have hcons : filledImports (path :: imports) =
          filledImports [path] ++ filledImports imports :=
        filledImports_append [path] imports
      rw [List.map_cons, List.cons_append, declared_cons p hstart, step_importLine, ih, hcons]
      simp only [List.append_assoc]

/-! ## Lines that are not read -/

/-- A line without boundaries whose first character is visible shows as one line with that
character. -/
theorem trimmedLines_of_head {c : Char} {s : List Char} (hc : isBlank c = false)
    (hs : OneLine (c :: s)) : ∃ t, trimmedLines (c :: s) = [c :: t] ∧ c :: t <+: c :: s := by
  have hne : trim (c :: s) ≠ [] := by
    rw [Ne, trim_eq_nil_iff]
    intro hblank
    simp [hblank c (by simp)] at hc
  have hstarts : trim (c :: s) <+: c :: s := by
    rw [trim, trimStart_cons, hc, if_neg (by simp)]
    exact trimEnd_isPrefix _
  cases htrim : trim (c :: s) with
  | nil => exact absurd htrim hne
  | cons d t =>
      rw [htrim] at hstarts
      obtain ⟨rfl, -⟩ := List.cons_prefix_cons.1 hstarts
      exact ⟨t, by rw [trimmedLines_of_oneLine hs, htrim, if_neg (by simp)], hstarts⟩

/-- Lines that start with a character of no import, header or brace declare nothing outside
models. -/
theorem declared_outside {p : Progress} (hp : ∀ n ∈ p.open?, n.model? = none) (level : Nat)
    {l : String} {c : Char} {s : List Char} (hl : l.toList = c :: s)
    (hc : isBlank c = false ∧ c ∉ ['i', 'n', 'm', '\x7d']) (hone : OneLine (c :: s))
    (hservice : ¬ "@service(".toList <+: c :: s) (rest : List (List Char)) :
    p.declared (shownLines [indent level l] ++ rest) = p.declared rest := by
  obtain ⟨t, hshown, hstarts⟩ := trimmedLines_of_head hc.1 hone
  have hstart : isServiceStart (c :: t) = false := by
    rw [isServiceStart, startsWith_eq_false_iff]
    exact fun h => hservice (h.trans hstarts)
  rw [shownLines_cons, shownLines_nil, List.append_nil, trimmedLines_indent, hl, hshown,
    List.singleton_append]
  rcases meaningOf_of_head hc.2 t with hmeaning | hmeaning
  · exact declared_property_outside hp hstart hmeaning rest
  · exact declared_other p hstart hmeaning rest

theorem declared_decoratorLines {p : Progress} (hp : ∀ n ∈ p.open?, n.model? = none)
    (level : Nat) {decorators : List Decorator} (h : ∀ d ∈ decorators, d.Legible)
    (rest : List (List Char)) :
    p.declared (shownLines (decorators.map fun d => indent level d.source) ++ rest) =
      p.declared rest := by
  induction decorators with
  | nil => rfl
  | cons d decorators ih =>
      obtain ⟨hone, hservice⟩ := h d (by simp)
      obtain ⟨s, hs⟩ : ∃ s, d.source.toList = '@' :: s := by
        rw [Decorator.source]
        split
        · exact ⟨_, by simp; rfl⟩
        · exact ⟨_, by simp; rfl⟩
      rw [hs] at hone hservice
      have hfirst : shownLines ((d :: decorators).map fun d => indent level d.source) =
          shownLines [indent level d.source] ++
            shownLines (decorators.map fun d => indent level d.source) := by
        rw [← shownLines_append]
        rfl
      rw [hfirst, List.append_assoc, declared_outside hp level hs (by decide) hone hservice,
        ih fun e he => h e (by simp [he])]

end ApiShapes.TypeSpec
