import ApiShapes.Proofs.TypeSpec.Comments
import ApiShapes.Proofs.TypeSpec.ServiceReading
import Mathlib.Tactic

/-!
# Reading rendered blocks

A rendered model is appended to the open namespace, a rendered namespace to the namespaces.
Comments are passed over outside models and add their stray properties within them.  So a definition
that is legible without its comments is read back with these properties, and a legible one as what
is kept of it.
-/

namespace ApiShapes.TypeSpec

open Json Text

/-! ## Properties -/

theorem toList_propertyLine (p : Property) :
    (p.name ++ (if p.optional then "?" else "") ++ ": " ++ p.type ++ ";").toList =
      propertyLine p.label p.type.toList := by
  have hmark : (if p.optional then "?" else "").toList = if p.optional then ['?'] else [] := by
    split <;> rfl
  simp only [String.toList_append, hmark, propertyLine, Property.label, List.append_assoc]
  rfl

theorem trimmedLines_propertyLine {p : Property} (h : p.Legible) :
    trimmedLines (propertyLine p.label p.type.toList) = [propertyLine p.label p.type.toList] := by
  have hone : OneLine (propertyLine p.label p.type.toList) := by
    have hcolon : OneLine [':', ' '] := by decide
    have hsemicolon : OneLine [';'] := by decide
    exact h.label_oneLine.append (hcolon.append (h.type_oneLine.append hsemicolon))
  have htrim : trim (propertyLine p.label p.type.toList) = propertyLine p.label p.type.toList := by
    rw [trim_eq_self_iff]
    constructor
    · intro c hc
      have hlabel := ((trim_eq_self_iff _).1 h.label_trim).1
      cases hl : p.label with
      | nil =>
          obtain rfl : ':' = c := by simpa [propertyLine, hl] using hc
          decide
      | cons d label => exact hlabel c (by simpa [propertyLine, hl] using hc)
    · intro c hc
      have hend : propertyLine p.label p.type.toList =
          p.label ++ ':' :: ' ' :: p.type.toList ++ [';'] := by simp [propertyLine]
      rw [hend, List.getLast?_concat] at hc
      obtain rfl : ';' = c := by simpa using hc
      decide
  rw [trimmedLines_of_oneLine hone, htrim, if_neg (by simp [propertyLine])]

/-- A rendered property is read back without its description and format. -/
theorem readProperty_propertyLine {p : Property} (h : p.Legible) :
    readProperty (propertyLine p.label p.type.toList) = p.kept := by
  rw [readProperty_rendered h.label_trim h.label_colon h.type_trim]
  cases hoptional : p.optional with
  | true =>
      have hlabel : p.label = p.name.toList ++ ['?'] := by
        rw [Property.label, hoptional, if_pos rfl]
      simp [hlabel, Property.kept, hoptional]
  | false =>
      have hlabel : p.label = p.name.toList := by simp [Property.label, hoptional]
      have hmark : (p.label.getLast? == some '?') = false := by
        simpa using h.mark hoptional
      rw [hmark, if_neg (by simp)]
      simp [hlabel, Property.kept, hoptional]

theorem declared_propertyLines (p : Progress) (n : OpenNamespace) (m : Model) (level : Nat)
    {ps : List Property} (h : ∀ q ∈ ps, q.undescribed.Legible)
    (hcomments : ∀ q ∈ ps, QuietComment q.description) (rest : List (List Char)) :
    (p.inside { n with model? := some m }).declared
        (shownLines (ps.flatMap (·.lines level)) ++ rest) =
      (p.inside { n with model? := some { m with
        properties := m.properties ++ ps.flatMap Property.asRead } }).declared rest := by
  induction ps generalizing m with
  | nil => simp
  | cons q ps ih =>
      have hq := h q (by simp)
      have hnot := not_claimed_propertyLine q.type.toList hq.label_unclaimed
      have hmeaning : meaningOf (propertyLine q.label q.type.toList) = .property q.kept :=
        (meaningOf_propertyLine hq.label_unclaimed).trans
          (congrArg Meaning.property (readProperty_propertyLine hq))
      have hline : trimmedLines (propertyLine q.label q.type.toList) =
          [propertyLine q.label q.type.toList] :=
        trimmedLines_propertyLine (p := q.undescribed) hq
      have hshown := (trimmedLines_indent level _).trans
        ((congrArg trimmedLines (toList_propertyLine q)).trans hline)
      have hstart : isServiceStart (propertyLine q.label q.type.toList) = false :=
        hnot "@service(".toList (by simp [claimedStarts])
      have hstep : ∀ m : Model, (p.inside { n with model? := some m }).step
          ⟨propertyLine q.label q.type.toList, .property q.kept⟩ =
            p.inside { n with model? := some { m with properties := m.properties ++ [q.kept] } } :=
        fun m => rfl
      rw [List.flatMap_cons, Property.lines, shownLines_append, shownLines_append,
        List.append_assoc, List.append_assoc,
        declared_commentLines_inside _ _ _ _ (hcomments q (by simp)),
        declared_line _ hshown hstart, hmeaning, hstep,
        ih _ (fun r hr => h r (by simp [hr])) fun r hr => hcomments r (by simp [hr])]
      simp [Property.asRead]

/-! ## Headers -/

theorem trimmedLines_headerLine {keyword header : List Char}
    (hkeyword : ∃ c more, keyword = c :: more ∧ isBlank c = false ∧ c ≠ '@' ∧ OneLine more)
    (hheader : OneLine header) :
    trimmedLines (headerLine keyword header) = [headerLine keyword header] := by
  obtain ⟨c, more, rfl, hc, -, hmore⟩ := hkeyword
  have hends : headerLine (c :: more) header =
      c :: (more ++ ' ' :: (header ++ [' ']) ++ ['\x7b']) := by
    simp [headerLine]
  have hmid : OneLine (more ++ ' ' :: (header ++ [' '])) := by
    have hspace : OneLine [' '] := by decide
    exact hmore.append (hspace.append (hheader.append hspace))
  rw [hends]
  exact trimmedLines_between hc (by decide) hmid

/-- A header is one step, whatever its keyword. -/
theorem declared_headerLine (p : Progress) {l : String} {keyword header : List Char}
    (hl : trimmedLines l.toList = trimmedLines (headerLine keyword header))
    (hkeyword : ∃ c more, keyword = c :: more ∧ isBlank c = false ∧ c ≠ '@' ∧ OneLine more)
    (hheader : OneLine header) (rest : List (List Char)) :
    p.declared (shownLines [l] ++ rest) =
      (p.step ⟨headerLine keyword header, meaningOf (headerLine keyword header)⟩).declared
        rest := by
  have hshown := hl.trans (trimmedLines_headerLine hkeyword hheader)
  obtain ⟨c, more, rfl, -, hat, -⟩ := hkeyword
  exact declared_line p hshown (isServiceStart_of_head hat _) rest

theorem modelKeyword : ∃ c more, "model".toList = c :: more ∧ isBlank c = false ∧ c ≠ '@' ∧
    OneLine more :=
  ⟨'m', "odel".toList, rfl, by decide, by decide, by decide⟩

theorem namespaceKeyword : ∃ c more, "namespace".toList = c :: more ∧ isBlank c = false ∧
    c ≠ '@' ∧ OneLine more :=
  ⟨'n', "amespace".toList, rfl, by decide, by decide, by decide⟩

theorem declared_closingLine (p : Progress) {l : String} (hl : trimmedLines l.toList = [['\x7d']])
    (rest : List (List Char)) :
    p.declared (shownLines [l] ++ rest) = (p.step ⟨['\x7d'], .closing⟩).declared rest := by
  rw [declared_line p hl (isServiceStart_of_head (by decide) _), meaningOf_closing]

theorem trimmedLines_brace : trimmedLines "\x7d".toList = [['\x7d']] := by decide

/-- The bases of a model as they stand in its header. -/
def Model.header (m : Model) : List Char :=
  modelHeader m.name.toList (m.bases.map String.toList)

theorem toList_modelLine (m : Model) :
    ("model " ++ m.name ++
        (if m.bases.isEmpty then "" else " extends " ++ ", ".intercalate m.bases) ++
        " \x7b").toList = headerLine "model".toList m.header := by
  have hbases : (if m.bases.isEmpty then "" else " extends " ++ ", ".intercalate m.bases).toList =
      if (m.bases.map String.toList).isEmpty then []
      else extendsKey ++ [',', ' '].intercalate (m.bases.map String.toList) := by
    rw [List.isEmpty_map]
    split
    · rfl
    · rw [String.toList_append, String.toList_intercalate]
      rfl
  simp only [String.toList_append, hbases, headerLine, Model.header, modelHeader, List.append_assoc]
  rfl

theorem Model.Legible.bases_split {m : Model} (h : m.Legible) :
    ∀ b ∈ m.bases.map String.toList, b ≠ [] ∧ Text.trim b = b ∧ ',' ∉ b := by
  intro b hb
  obtain ⟨base, hbase, rfl⟩ := List.mem_map.1 hb
  have hlegible := h.bases base hbase
  exact ⟨by simpa using hlegible.filled, hlegible.trim, hlegible.noComma⟩

theorem mem_modelHeader {name : List Char} {bases : List (List Char)} {c : Char}
    (h : c ∈ modelHeader name bases) : c ∈ name ∨ c ∈ ',' :: extendsKey ∨ ∃ b ∈ bases, c ∈ b := by
  rw [modelHeader, List.mem_append] at h
  rcases h with h | h
  · exact Or.inl h
  · split at h
    · simp at h
    · rcases List.mem_append.1 h with h | h
      · exact Or.inr (Or.inl (List.mem_cons_of_mem _ h))
      · rcases mem_of_mem_intercalate h with h | h
        · refine Or.inr (Or.inl ?_)
          have hsubset : ∀ d ∈ [',', ' '], d ∈ ',' :: extendsKey := by decide
          exact hsubset c h
        · exact Or.inr (Or.inr h)

theorem Model.Legible.header_clean {m : Model} (h : m.Legible) :
    trimStart m.header = m.header ∧ '\x7b' ∉ m.header ∧ OneLine m.header := by
  refine ⟨?_, ?_, ?_⟩
  · refine trimStart_eq_self_of_head fun c hc => ?_
    cases hname : m.name.toList with
    | nil =>
        -- without a name there are no bases, so the header is empty
        have hempty : m.name = "" := by simpa using hname
        have hbases : m.bases = [] := by
          by_contra hne
          exact h.named hne hempty
        simp [Model.header, modelHeader, hname, hbases] at hc
    | cons d name =>
        have hfirst := ((trim_eq_self_iff _).1 h.name.trim).1
        exact hfirst c (by simpa [Model.header, modelHeader, hname] using hc)
  · intro hmem
    rcases mem_modelHeader hmem with hc | hc | ⟨b, hb, hc⟩
    · exact h.name.noBrace hc
    · exact absurd hc (by decide)
    · obtain ⟨base, hbase, rfl⟩ := List.mem_map.1 hb
      exact (h.bases base hbase).noBrace hc
  · intro c hmem
    rcases mem_modelHeader hmem with hc | hc | ⟨b, hb, hc⟩
    · exact h.name.oneLine c hc
    · have hkey : OneLine (',' :: extendsKey) := by decide
      exact hkey c hc
    · obtain ⟨base, hbase, rfl⟩ := List.mem_map.1 hb
      exact (h.bases base hbase).oneLine c hc

theorem openModel_header {m : Model} (h : m.Legible) :
    openModel (m.header ++ [' ']) = ⟨m.name, [], m.bases, none, []⟩ := by
  have hbases : (m.bases.map String.toList).map String.ofList = m.bases := by
    simp [Function.comp_def]
  rw [Model.header, openModel_rendered h.name.trim h.name_extends h.bases_split, hbases,
    String.ofList_toList]

/-! ## Models -/

/-- A rendered model is appended to the open namespace. -/
theorem declared_modelLines (p : Progress) {n : OpenNamespace} (hn : n.model? = none) {m : Model}
    (h : m.undescribed.Legible) (hcomments : ∀ c ∈ m.comments, QuietComment c) (level : Nat)
    (rest : List (List Char)) :
    (p.inside n).declared (shownLines (m.lines level) ++ rest) =
      (p.inside { n with models := n.models ++ [m.asRead] }).declared rest := by
  obtain ⟨name, models, model?⟩ := n
  subst hn
  obtain ⟨hcomment, hproperties⟩ := List.forall_mem_cons.1 hcomments
  obtain ⟨hstart, hbrace, hone⟩ : trimStart m.header = m.header ∧ '\x7b' ∉ m.header ∧
      OneLine m.header := h.header_clean
  have hline := (trimmedLines_indent level _).trans (congrArg trimmedLines (toList_modelLine m))
  have hheader : openModel (m.header ++ [' ']) = ⟨m.name, [], m.bases, none, []⟩ :=
    openModel_header (m := m.undescribed) h
  have hdecorators : ∀ d ∈ m.decorators, d.Legible := h.decorators
  have hopen : (p.inside ⟨name, models, none⟩).step
      ⟨headerLine "model".toList m.header, .modelHeader (some ⟨m.name, [], m.bases, none, []⟩)⟩ =
        p.inside ⟨name, models, some ⟨m.name, [], m.bases, none, []⟩⟩ := by
    simp [Progress.step, Progress.inside, OpenNamespace.closeModel]
  have hclose : (p.inside ⟨name, models, some m.asRead⟩).step ⟨['\x7d'], .closing⟩ =
      p.inside ⟨name, models ++ [m.asRead], none⟩ := rfl
  rw [Model.lines]
  simp only [shownLines_append, List.append_assoc]
  rw [declared_commentLines_outside (model?_inside p rfl) _ hcomment,
    declared_decoratorLines (model?_inside p rfl) _ hdecorators,
    declared_headerLine _ hline modelKeyword hone, meaningOf_modelLine hstart hbrace, hheader,
    hopen,
    declared_propertyLines p ⟨name, models, none⟩ ⟨m.name, [], m.bases, none, []⟩ _
      (List.forall_mem_map.1 h.properties) (List.forall_mem_map.1 hproperties),
    declared_closingLine _ ((trimmedLines_indent level _).trans trimmedLines_brace)]
  exact congrArg (fun p => Progress.declared p rest) hclose

theorem declared_modelBlocks (p : Progress) {n : OpenNamespace} (hn : n.model? = none)
    {ms : List Model} (h : ∀ m ∈ ms, m.undescribed.Legible)
    (hcomments : ∀ m ∈ ms, ∀ c ∈ m.comments, QuietComment c) (level : Nat)
    (rest : List (List Char)) :
    (p.inside n).declared (shownLines (ms.flatMap fun m => m.lines level ++ [""]) ++ rest) =
      (p.inside { n with models := n.models ++ ms.map Model.asRead }).declared rest := by
  induction ms generalizing n with
  | nil => simp
  | cons m ms ih =>
      have hrest := ih (n := { n with models := n.models ++ [m.asRead] }) hn
        (fun k hk => h k (by simp [hk])) fun k hk => hcomments k (by simp [hk])
      rw [List.flatMap_cons, shownLines_append, shownLines_append, shownLines_empty_line,
        List.append_nil, List.append_assoc,
        declared_modelLines p hn (h m (by simp)) (hcomments m (by simp)), hrest]
      simp

/-! ## Operations -/

section

variable {p : Progress} (hp : ∀ n ∈ p.open?, n.model? = none) (level : Nat)

include hp

theorem declared_routeLine {path : String} (h : ∀ c ∈ path.toList, c ∉ literalBoundaries)
    (rest : List (List Char)) :
    p.declared (shownLines [indent level ("@route(" ++ literal (.text path) ++ ")")] ++ rest) =
      p.declared rest := by
  have hline : ("@route(" ++ literal (.text path) ++ ")").toList =
      '@' :: ("route(".toList ++ quote path.toList ++ [')']) := by
    rw [String.toList_append, String.toList_append, literal, toList_writeLine_text]
    rfl
  have hone : OneLine ('@' :: ("route(".toList ++ quote path.toList ++ [')'])) := by
    have hopen : OneLine ('@' :: "route(".toList) := by decide
    have hclose : OneLine [')'] := by decide
    exact (hopen.append (oneLine_quote h)).append hclose
  exact declared_outside hp level hline (by decide) hone (by simp) rest

theorem declared_methodLine (method : Method) (rest : List (List Char)) :
    p.declared (shownLines [indent level ("@" ++ method.name)] ++ rest) = p.declared rest := by
  have hline : ("@" ++ method.name).toList = '@' :: method.name.toList := by
    rw [String.toList_append]
    rfl
  have hname : OneLine ('@' :: method.name.toList) ∧
      ¬ "@service(".toList <+: '@' :: method.name.toList := by
    cases method <;> decide
  exact declared_outside hp level hline (by decide) hname.1 hname.2 rest

theorem declared_signatureLine {name parameters result : String} (hname : OneLine name.toList)
    (hparameters : OneLine parameters.toList) (hresult : OneLine result.toList)
    (rest : List (List Char)) :
    p.declared (shownLines [indent level
        ("op " ++ name ++ "(" ++ parameters ++ "): " ++ result ++ ";")] ++ rest) =
      p.declared rest := by
  have hline : ("op " ++ name ++ "(" ++ parameters ++ "): " ++ result ++ ";").toList =
      'o' :: ("p ".toList ++ name.toList ++ "(".toList ++ parameters.toList ++ "): ".toList ++
        result.toList ++ ";".toList) := by
    simp only [String.toList_append, List.append_assoc]
    rfl
  have hone : OneLine ('o' :: ("p ".toList ++ name.toList ++ "(".toList ++ parameters.toList ++
      "): ".toList ++ result.toList ++ ";".toList)) := by
    have hword : OneLine ('o' :: "p ".toList) := by decide
    have hopen : OneLine "(".toList := by decide
    have hclose : OneLine "): ".toList := by decide
    have hend : OneLine ";".toList := by decide
    exact (((((hword.append hname).append hopen).append hparameters).append hclose).append
      hresult).append hend
  exact declared_outside hp level hline (by decide) hone (by simp) rest

/-- Operations are passed over. -/
theorem declared_operationLines {o : Operation} (h : o.undescribed.Legible)
    (hcomment : QuietComment o.description) (rest : List (List Char)) :
    p.declared (shownLines (o.lines level) ++ rest) = p.declared rest := by
  have hparameters : OneLine
      (", ".intercalate (o.parameters.map fun p => p.name ++ ": " ++ p.type)).toList := by
    rw [String.toList_intercalate, List.map_map]
    refine OneLine.intercalate (by decide) fun l hl => ?_
    obtain ⟨q, hq, rfl⟩ := List.mem_map.1 hl
    obtain ⟨hname, htype⟩ := h.parameters q.undescribed (List.mem_map_of_mem hq)
    have hcolon : OneLine ": ".toList := by decide
    rw [Function.comp_apply, String.toList_append, String.toList_append]
    exact (hname.append hcolon).append htype
  have hresult : OneLine o.resultType.toList := by
    rw [← resultType_undescribed]
    exact h.result
  have hdecorators : ∀ d ∈ o.decorators, d.Legible := h.decorators
  have hpath : ∀ c ∈ o.path.toList, c ∉ literalBoundaries := h.path
  have hname : OneLine o.name.toList := h.name
  have hlines : ∀ a b c : String, shownLines [a, b, c] =
      shownLines [a] ++ (shownLines [b] ++ shownLines [c]) := by
    intro a b c
    rw [← shownLines_append, ← shownLines_append]
    rfl
  rw [Operation.lines]
  simp only [shownLines_append, List.append_assoc, hlines]
  rw [declared_commentLines_outside hp _ hcomment, declared_decoratorLines hp _ hdecorators,
    declared_routeLine hp level hpath, declared_methodLine hp,
    declared_signatureLine hp level hname hparameters hresult]

end

theorem declared_operationBlocks {p : Progress} (hp : ∀ n ∈ p.open?, n.model? = none)
    {os : List Operation} (h : ∀ o ∈ os, o.undescribed.Legible)
    (hcomments : ∀ o ∈ os, QuietComment o.description) (level : Nat) (rest : List (List Char)) :
    p.declared (shownLines (os.flatMap fun o => o.lines level ++ [""]) ++ rest) =
      p.declared rest := by
  induction os with
  | nil => rfl
  | cons o os ih =>
      rw [List.flatMap_cons, shownLines_append, shownLines_append, shownLines_empty_line,
        List.append_nil, List.append_assoc,
        declared_operationLines hp level (h o (by simp)) (hcomments o (by simp)),
        ih (fun k hk => h k (by simp [hk])) fun k hk => hcomments k (by simp [hk])]

/-! ## Namespaces -/

theorem toList_namespaceLine (n : Namespace) :
    ("namespace " ++ n.name ++ " \x7b").toList =
      headerLine "namespace".toList n.name.toList := by
  simp only [String.toList_append, headerLine, List.append_assoc]
  rfl

theorem oneLine_of_filledImports {imports : List String}
    (h : ∀ path ∈ filledImports imports, LegibleImport path) :
    ∀ path ∈ imports, OneLine path.toList := by
  intro path hpath
  by_cases hempty : path = ""
  · subst hempty
    decide
  · exact (h path (List.mem_filter.2 ⟨hpath, by simpa using hempty⟩)).2

/-- A rendered namespace is appended to the namespaces, and its imports to the imports. -/
theorem declared_namespaceLines {p : Progress} (hp : p.open? = none) {n : Namespace}
    (h : n.outline.Legible) (hcomments : ∀ c ∈ n.comments, QuietComment c)
    (rest : List (List Char)) :
    p.declared (shownLines n.lines ++ rest) =
      Progress.declared { p with
        imports := p.imports ++ filledImports n.imports
        namespaces := p.namespaces ++ [n.asRead] } rest := by
  have hline := toList_namespaceLine n
  obtain ⟨hcomment, hinner⟩ := List.forall_mem_cons.1 hcomments
  have hmodels : ∀ m ∈ n.models, ∀ c ∈ m.comments, QuietComment c := by
    intro m hm c hc
    exact hinner c (List.mem_append_left _ (List.mem_flatMap.2 ⟨m, hm, hc⟩))
  have hoperations : ∀ o ∈ n.operations, QuietComment o.description := by
    intro o ho
    exact hinner _ (List.mem_append_right _ (List.mem_map_of_mem ho))
  obtain ⟨imports, namespaces, open?, title, version, ignored⟩ := p
  obtain rfl : open? = none := hp
  have hopen : ∀ imports, Progress.step ⟨imports, namespaces, none, title, version, ignored⟩
      ⟨headerLine "namespace".toList n.name.toList, .namespaceHeader (some n.name)⟩ =
        Progress.inside ⟨imports, namespaces, none, title, version, ignored⟩
          ⟨n.name, [], none⟩ := by
    intro imports
    simp [Progress.step, Progress.close, Progress.inside]
  have hclose : ∀ (p : Progress) (models : List Model),
      (p.inside ⟨n.name, models, none⟩).step ⟨['\x7d'], .closing⟩ =
        { p with
          namespaces := p.namespaces ++ [⟨n.name, models, [], [], none⟩]
          open? := none } := by
    intro p models
    simp [Progress.step, Progress.close, Progress.inside, OpenNamespace.close,
      OpenNamespace.closeModel]
  have hmeaning : meaningOf (headerLine "namespace".toList n.name.toList) =
      .namespaceHeader (some n.name) :=
    (meaningOf_namespaceLine h.name.trim h.name.noBrace).trans
      (congrArg (fun name => Meaning.namespaceHeader (some name)) String.ofList_toList)
  rw [Namespace.lines]
  simp only [shownLines_append, List.append_assoc]
  rw [declared_importLines _ (oneLine_of_filledImports h.imports),
    declared_headerLine _ (congrArg trimmedLines hline) namespaceKeyword h.name.oneLine, hmeaning,
    hopen,
    declared_commentLines_outside (model?_inside _ rfl) _ hcomment,
    declared_modelBlocks _ rfl (List.forall_mem_map.1 h.models) hmodels,
    declared_operationBlocks (model?_inside _ rfl) (List.forall_mem_map.1 h.operations) hoperations,
    declared_closingLine _ trimmedLines_brace]
  exact congrArg (fun p => Progress.declared p rest) (hclose _ _)

theorem declared_namespaceBlocks {p : Progress} (hp : p.open? = none) {ns : List Namespace}
    (h : ∀ n ∈ ns, n.outline.Legible) (hcomments : ∀ n ∈ ns, ∀ c ∈ n.comments, QuietComment c) :
    p.declared (shownLines (ns.flatMap fun n => n.lines ++ [""])) =
      Progress.declared { p with
        imports := p.imports ++ filledImports (ns.flatMap (·.imports))
        namespaces := p.namespaces ++ ns.map Namespace.asRead } [] := by
  induction ns generalizing p with
  | nil => simp [filledImports]
  | cons n ns ih =>
      have hrest := ih (p := { p with
        imports := p.imports ++ filledImports n.imports
        namespaces := p.namespaces ++ [n.asRead] }) hp (fun k hk => h k (by simp [hk]))
        fun k hk => hcomments k (by simp [hk])
      rw [List.flatMap_cons, shownLines_append, shownLines_append, shownLines_empty_line,
        List.append_nil, declared_namespaceLines hp (h n (by simp)) (hcomments n (by simp)), hrest]
      simp [filledImports]

/-! ## The definition -/

/-- What is declared behind the imports and the service block. -/
theorem declared_namespaces (imports : List String) (title version : Option String)
    {ns : List Namespace} (hnames : (ns.map (·.name)).Nodup) (h : ∀ n ∈ ns, n.outline.Legible)
    (hcomments : ∀ n ∈ ns, ∀ c ∈ n.comments, QuietComment c) :
    Progress.declared ⟨imports, [], none, title, version, []⟩
        (shownLines (ns.flatMap fun n => n.lines ++ [""])) =
      ⟨ns.map Namespace.asRead, imports ++ filledImports (ns.flatMap (·.imports)), title, version,
        none⟩ := by
  have hdistinct : (namespaceNames (ns.map Namespace.asRead)).Nodup := by
    rw [namespaceNames, List.map_map]
    exact hnames
  rw [declared_namespaceBlocks rfl h hcomments]
  simp [Progress.declared, statements, Progress.close, Progress.definition,
    mergeNamespaces_of_nodup hdistinct]

/-- A definition that is legible without its comments is read back with the properties that quiet
comments declare. -/
theorem read_source_of_outline {d : Definition} (h : d.outline.Legible)
    (hcomments : ∀ c ∈ d.comments, QuietComment c) :
    Definition.read d.source = .valid d.asRead := by
  have hnames : (d.namespaces.map (·.name)).Nodup := by
    rw [← names_outline]
    exact h.names
  have hnamespaces : ∀ n ∈ d.namespaces, ∀ c ∈ n.comments, QuietComment c := by
    intro n hn c hc
    exact hcomments c (List.mem_flatMap.2 ⟨n, hn, hc⟩)
  have htitle : ∀ t ∈ d.title, FitsService t ∧ ¬ versionKey <:+ trimEnd t.toList :=
    fun t ht => ⟨h.title t ht, h.title_end t ht⟩
  have hversion : ∀ v ∈ d.version, FitsService v := h.version
  rw [read_source_eq, Definition.lines, shownLines_append, shownLines_append, List.append_assoc,
    declared_importLines _ (oneLine_of_filledImports h.imports),
    declared_serviceLines (by simp [Progress.start]) ⟨rfl, rfl⟩ (fun t ht => (htitle t ht).1)
      (fun t ht => (htitle t ht).2) hversion]
  rw [Progress.start, declared_namespaces _ _ _ hnames (List.forall_mem_map.1 h.namespaces)
    hnamespaces, List.nil_append, Definition.asRead, filledImports_append]

/-- A legible definition is read back from its source, except for what a source does not say. -/
theorem read_source {d : Definition} (h : d.Legible) :
    Definition.read d.source = .valid d.kept := by
  rw [← h.asRead]
  exact read_source_of_outline h.outline fun c hc => quietComment_of_legible (h.comments c hc)

end ApiShapes.TypeSpec
