import ApiShapes.Proofs.TypeSpec.OpenBlocks
import ApiShapes.Proofs.TypeSpec.SourceReading
import Mathlib.Tactic

/-!
# Owners of models and properties

Whatever the order of its lines, nothing of a source without service blocks is lost: each accepted
header of a model gives one model of the namespace that is open there, and each property belongs to
the model that is open there.  A step of the reader changes what it has read, what is open and what
the remaining lines declare, but not the three together.
-/

namespace ApiShapes.TypeSpec

open Text

/-! ## What a line does -/

/-- What a line that starts no service block does to what has been read. -/
inductive Move (p : Progress) (line : List Char) : Progress → Prop where
  | opensNamespace {name : String} (hnamespace : namespaceHeader? line = some name)
      (hmodel : modelHeader? line = none) (himport : importOf? line = none) :
      Move p line { p.close with open? := some ⟨name, [], none⟩ }
  | opensModel {n : OpenNamespace} {m : Model} (hopen : p.open? = some n)
      (hnamespace : namespaceHeader? line = none) (hmodel : modelHeader? line = some m)
      (hclosing : isClosing line = false) (himport : importOf? line = none) :
      Move p line (p.inside { n.closeModel with model? := some m })
  | addsProperty {n : OpenNamespace} {m : Model} {property : Property} (hopen : p.open? = some n)
      (hinside : n.model? = some m) (hnamespace : namespaceHeader? line = none)
      (hmodel : modelHeader? line = none) (hclosing : isClosing line = false)
      (hproperty : property? line = some property) (himport : importOf? line = none) :
      Move p line (p.inside (n.addProperty m property))
  | closesModel {n : OpenNamespace} {m : Model} (hopen : p.open? = some n)
      (hinside : n.model? = some m) (hnamespace : namespaceHeader? line = none)
      (hmodel : modelHeader? line = none) (hclosing : isClosing line = true)
      (himport : importOf? line = none) : Move p line (p.inside n.closeModel)
  | closesNamespace {n : OpenNamespace} (hopen : p.open? = some n) (hinside : n.model? = none)
      (hnamespace : namespaceHeader? line = none) (hmodel : modelHeader? line = none)
      (hclosing : isClosing line = true) (himport : importOf? line = none) : Move p line p.close
  | passes {imports ignored : List String} (hnamespace : namespaceHeader? line = none)
      (hmodel : p.open? = none ∨ modelHeader? line = none)
      (hclosing : p.open? = none ∨ isClosing line = false)
      (hproperty : p.open?.bind (·.model?) = none ∨ property? line = none)
      (himport : imports = p.imports ++ (importOf? line).toList) :
      Move p line { p with imports, ignored }

theorem meaningOf_ne_service (line : List Char) (title version : Option String) :
    meaningOf line ≠ .service title version := by
  unfold meaningOf
  repeat' split
  all_goals exact fun h => nomatch h

theorem move_step (p : Progress) {line : List Char} (h : isServiceStart line = false) :
    Move p line (p.step ⟨line, meaningOf line⟩) := by
  have himport := importOf?_eq line
  have hnamespace := namespaceHeader?_eq line
  have hmodel := modelHeader?_eq line
  have hproperty := property?_eq line h
  have hclosing := isClosing_eq line
  have hservice := meaningOf_ne_service line
  -- A step looks at the meaning of a line only.
  generalize meaningOf line = meaning at *
  obtain ⟨imports, namespaces, open?, title, version, ignored⟩ := p
  have himports : meaning.import? = none → imports = imports ++ (importOf? line).toList := by
    intro hnone
    rw [himport, hnone]
    exact (List.append_nil _).symm
  cases meaning with
  | importPath path =>
      refine .passes hnamespace (Or.inr hmodel) (Or.inr hclosing) (Or.inr hproperty) ?_
      rw [himport]
      rfl
  | service title version => exact absurd rfl (hservice title version)
  | namespaceHeader name =>
      cases name with
      | none =>
          exact .passes hnamespace (Or.inr hmodel) (Or.inr hclosing) (Or.inr hproperty)
            (himports rfl)
      | some name => exact .opensNamespace hnamespace hmodel himport
  | modelHeader m =>
      cases open? with
      | none =>
          cases m <;>
            exact .passes hnamespace (Or.inl rfl) (Or.inl rfl) (Or.inl rfl) (himports rfl)
      | some n =>
          cases m with
          | none =>
              exact .passes hnamespace (Or.inr hmodel) (Or.inr hclosing) (Or.inr hproperty)
                (himports rfl)
          | some m => exact .opensModel rfl hnamespace hmodel hclosing himport
  | property property =>
      cases open? with
      | none =>
          exact .passes hnamespace (Or.inl rfl) (Or.inl rfl) (Or.inl rfl) (himports rfl)
      | some n =>
          obtain ⟨name, models, model?⟩ := n
          cases model? with
          | none =>
              exact .passes hnamespace (Or.inr hmodel) (Or.inr hclosing) (Or.inl rfl)
                (himports rfl)
          | some m =>
              exact .addsProperty rfl rfl hnamespace hmodel hclosing hproperty himport
  | closing =>
      cases open? with
      | none =>
          exact .passes hnamespace (Or.inl rfl) (Or.inl rfl) (Or.inl rfl) (himports rfl)
      | some n =>
          obtain ⟨name, models, model?⟩ := n
          cases model? with
          | none => exact .closesNamespace rfl rfl hnamespace hmodel hclosing himport
          | some m => exact .closesModel rfl rfl hnamespace hmodel hclosing himport
  | other =>
      exact .passes hnamespace (Or.inr hmodel) (Or.inr hclosing) (Or.inr hproperty) (himports rfl)

/-! ## What is open -/

/-- The reader holds open what the lines leave open that it has read, the last of them first. -/
structure Progress.Agrees (p : Progress) (before : List (List Char)) : Prop where
  namespaceOpen : namespaceOpen before = p.open?.map (·.name)
  modelOpen : modelOpen before = (p.open?.bind (·.model?)).isSome

section

variable {p q : Progress} {line : List Char} {before : List (List Char)}

theorem agrees_of_move (h : p.Agrees before) (hmove : Move p line q) :
    q.Agrees (line :: before) := by
  obtain ⟨hnamespaceOpen, hmodelOpen⟩ := h
  constructor
  · rw [namespaceOpen, hnamespaceOpen, hmodelOpen]
    cases hmove with
    | opensNamespace hnamespace => simp [hnamespace]
    | opensModel hopen hnamespace hmodel hclosing =>
        simp [hnamespace, hclosing, hopen, Progress.inside, OpenNamespace.closeModel]
    | addsProperty hopen hinside hnamespace hmodel hclosing =>
        simp [hnamespace, hclosing, hopen, Progress.inside, OpenNamespace.addProperty]
    | closesModel hopen hinside hnamespace =>
        simp [hnamespace, hopen, hinside, Progress.inside, OpenNamespace.closeModel]
    | closesNamespace hopen hinside hnamespace hmodel hclosing =>
        simp [hnamespace, hclosing, hopen, hinside, Progress.close]
    | passes hnamespace hmodel hclosing =>
        rw [hnamespace]
        rcases hclosing with hopen | hclosing
        · simp [hopen]
        · simp [hclosing]
  · rw [modelOpen, hnamespaceOpen, hmodelOpen]
    cases hmove with
    | opensNamespace hnamespace => simp [hnamespace]
    | opensModel hopen hnamespace hmodel hclosing =>
        simp [hnamespace, hmodel, hclosing, hopen, Progress.inside]
    | addsProperty hopen hinside hnamespace hmodel hclosing =>
        simp [hnamespace, hclosing, hopen, hinside, Progress.inside, OpenNamespace.addProperty]
    | closesModel hopen hinside hnamespace hmodel hclosing =>
        simp [hclosing, Progress.inside, OpenNamespace.closeModel]
    | closesNamespace hopen hinside hnamespace hmodel hclosing =>
        simp [hclosing, Progress.close]
    | passes hnamespace hmodel hclosing =>
        rw [hnamespace]
        rcases hclosing with hopen | hclosing
        · simp [hopen]
        · rcases hmodel with hopen | hmodel
          · simp [hopen]
          · simp [hclosing, hmodel]

end

/-! ## What is owned -/

/-- The models that the open namespace gets if nothing more is opened. -/
def OpenNamespace.modelsWith (n : OpenNamespace) (properties : List Property) : List Model :=
  n.models ++ (n.model?.map fun m => { m with properties := m.properties ++ properties }).toList

/-- The models that the open namespace gets if it has the name. -/
def Progress.openModels (p : Progress) (name : String) (properties : List Property) : List Model :=
  match p.open? with
  | none => []
  | some n => if n.name = name then n.modelsWith properties else []

/-- The models of a namespace: those that are read, those that are open, and those that are still to
be declared. -/
def Progress.owned (p : Progress) (name : String) (before rest : List (List Char)) : List Model :=
  modelsNamed name p.namespaces ++ p.openModels name (propertiesFrom before rest) ++
    modelsFrom name before rest

theorem modelsWith_nil (n : OpenNamespace) : n.modelsWith [] = n.close.models := by
  cases hinside : n.model? with
  | none => simp [OpenNamespace.modelsWith, OpenNamespace.close, OpenNamespace.closeModel, hinside]
  | some m =>
      simp [OpenNamespace.modelsWith, OpenNamespace.close, OpenNamespace.closeModel, hinside]

theorem modelsNamed_close (p : Progress) (name : String) :
    modelsNamed name p.close.namespaces =
      modelsNamed name p.namespaces ++ p.openModels name [] := by
  unfold Progress.close Progress.openModels
  cases p.open? with
  | none => simp
  | some n =>
      simp only [Option.map_some, Option.toList_some, modelsNamed_append, modelsNamed_cons,
        modelsNamed_nil, List.append_nil, modelsWith_nil]
      rfl

theorem properties_of_modelHeader? {line : List Char} {m : Model} (h : modelHeader? line = some m) :
    m.properties = [] := by
  unfold modelHeader? at h
  split at h
  · obtain ⟨header, -, rfl⟩ := Option.map_eq_some_iff.1 h
    rfl
  · cases h

theorem owned_of_move {p q : Progress} {line : List Char} {before : List (List Char)}
    (h : p.Agrees before) (hmove : Move p line q) (name : String) (rest : List (List Char)) :
    q.owned name (line :: before) rest = p.owned name before (line :: rest) := by
  unfold Progress.owned
  rw [propertiesFrom, modelsFrom, acceptedModel?, h.namespaceOpen]
  cases hmove with
  | @opensNamespace newName hnamespace hmodel =>
      have hopened : Progress.openModels { p.close with open? := some ⟨newName, [], none⟩ } name
          (propertiesFrom (line :: before) rest) = [] := by
        simp [Progress.openModels, OpenNamespace.modelsWith]
      rw [hopened, List.append_nil]
      simp [hnamespace, hmodel, modelsNamed_close]
  | @opensModel n m hopen hnamespace hmodel hclosing =>
      have hfresh := properties_of_modelHeader? hmodel
      by_cases hname : n.name = name
      · simp [Progress.inside, Progress.openModels, hopen, hmodel, hname, hfresh,
          OpenNamespace.modelsWith, OpenNamespace.closeModel]
      · simp [Progress.inside, Progress.openModels, hopen, hname, OpenNamespace.closeModel]
  | addsProperty hopen hinside hnamespace hmodel hclosing hproperty =>
      simp [Progress.inside, Progress.openModels, hopen, hinside, hnamespace, hmodel, hclosing,
        hproperty, OpenNamespace.addProperty, OpenNamespace.modelsWith]
  | closesModel hopen hinside hnamespace hmodel hclosing =>
      simp [Progress.inside, Progress.openModels, hopen, hinside, hmodel, hclosing,
        OpenNamespace.closeModel, OpenNamespace.modelsWith]
  | closesNamespace hopen hinside hnamespace hmodel hclosing =>
      have hclosed : p.close.openModels name (propertiesFrom (line :: before) rest) = [] := rfl
      simp [hclosed, hmodel, hclosing, modelsNamed_close]
  | passes hnamespace hmodel hclosing hproperty =>
      -- A header of a model passes outside of namespaces, and a property outside of models.
      cases hopen : p.open? with
      | none => simp [Progress.openModels, hopen]
      | some n =>
          have hmodel : modelHeader? line = none := by simpa [hopen] using hmodel
          have hclosing : isClosing line = false := by simpa [hopen] using hclosing
          rcases hproperty with hinside | hproperty
          · have hinside : n.model? = none := by simpa [hopen] using hinside
            simp [Progress.openModels, hopen, hinside, hmodel, OpenNamespace.modelsWith]
          · simp [Progress.openModels, hopen, hnamespace, hmodel, hclosing, hproperty]

/-! ## Whole sources -/

/-- Lines that are read one after the other. -/
inductive Run : Progress → List (List Char) → Progress → Prop where
  | nil (p : Progress) : Run p [] p
  | cons {p q r : Progress} {line : List Char} {rest : List (List Char)} (hmove : Move p line q)
      (hrun : Run q rest r) : Run p (line :: rest) r

theorem run_statements (p : Progress) {lines : List (List Char)}
    (h : ∀ line ∈ lines, isServiceStart line = false) :
    Run p lines ((statements lines).foldl Progress.step p) := by
  induction lines generalizing p with
  | nil => exact .nil p
  | cons line rest ih =>
      have hline := h line List.mem_cons_self
      rw [statements, hline, if_neg (by simp), List.foldl_cons]
      exact .cons (move_step p hline) (ih _ fun l hl => h l (List.mem_cons_of_mem _ hl))

theorem Run.owned {p q : Progress} {rest : List (List Char)} (h : Run p rest q)
    {before : List (List Char)} (hagrees : p.Agrees before) (name : String) :
    modelsNamed name q.close.namespaces = p.owned name before rest := by
  induction h generalizing before with
  | nil p =>
      rw [modelsNamed_close]
      simp [Progress.owned, propertiesFrom, modelsFrom]
  | cons hmove hrun ih =>
      rw [ih (agrees_of_move hagrees hmove), owned_of_move hagrees hmove]

theorem names_close (p : Progress) :
    namespaceNames p.close.namespaces =
      namespaceNames p.namespaces ++ (p.open?.map (·.name)).toList := by
  unfold Progress.close
  cases p.open? with
  | none => simp
  | some n => simp [namespaceNames, OpenNamespace.close]

theorem Run.names {p q : Progress} {rest : List (List Char)} (h : Run p rest q) :
    namespaceNames q.close.namespaces =
      namespaceNames p.close.namespaces ++ rest.filterMap namespaceHeader? := by
  induction h with
  | nil p => simp
  | @cons p q r line rest hmove hrun ih =>
      have hstep : namespaceNames q.close.namespaces =
          namespaceNames p.close.namespaces ++ (namespaceHeader? line).toList := by
        rw [names_close, names_close]
        cases hmove with
        | opensNamespace hnamespace => simp [hnamespace, names_close]
        | opensModel hopen hnamespace =>
            simp [hnamespace, hopen, Progress.inside, OpenNamespace.closeModel]
        | addsProperty hopen hinside hnamespace =>
            simp [hnamespace, hopen, Progress.inside, OpenNamespace.addProperty]
        | closesModel hopen hinside hnamespace =>
            simp [hnamespace, hopen, Progress.inside, OpenNamespace.closeModel]
        | closesNamespace hopen hinside hnamespace =>
            have hclosed : p.close.open? = none := rfl
            simp [hnamespace, hclosed, names_close]
        | passes hnamespace => simp [hnamespace]
      rw [ih, hstep, List.filterMap_cons]
      cases namespaceHeader? line <;> simp

theorem Run.imports {p q : Progress} {rest : List (List Char)} (h : Run p rest q) :
    q.imports = p.imports ++ rest.filterMap importOf? := by
  induction h with
  | nil p => simp
  | @cons p q r line rest hmove hrun ih =>
      have hstep : q.imports = p.imports ++ (importOf? line).toList := by
        cases hmove with
        | passes hnamespace hmodel hclosing hproperty himport => exact himport
        | opensNamespace hnamespace hmodel himport => simp [himport, Progress.close]
        | closesNamespace hopen hinside hnamespace hmodel hclosing himport =>
            simp [himport, Progress.close]
        | opensModel hopen hnamespace hmodel hclosing himport =>
            simp [himport, Progress.inside]
        | addsProperty hopen hinside hnamespace hmodel hclosing hproperty himport =>
            simp [himport, Progress.inside]
        | closesModel hopen hinside hnamespace hmodel hclosing himport =>
            simp [himport, Progress.inside]
      rw [ih, hstep, List.filterMap_cons]
      cases importOf? line <;> simp

/-- A source without service blocks declares one namespace for each name of an accepted header, in
the order of first occurrence.  Its models are those whose headers are read while a namespace of
this name is open, each with the properties up to the line that closes it; imports are kept in their
order. -/
theorem read_owned {source : String}
    (h : ∀ line ∈ trimmedLines source.toList, isServiceStart line = false) :
    ∃ d, Definition.read source = .valid d ∧
      namespaceNames d.namespaces =
        ((trimmedLines source.toList).filterMap namespaceHeader?).eraseDups ∧
      (∀ n ∈ d.namespaces, n.models = modelsFrom n.name [] (trimmedLines source.toList)) ∧
      d.imports = (trimmedLines source.toList).filterMap importOf? := by
  have hrun := run_statements .start h
  have hagrees : Progress.start.Agrees [] := ⟨rfl, rfl⟩
  refine ⟨_, read_eq_valid source, ?_, ?_, ?_⟩
  · have hnames := hrun.names
    change namespaceNames (mergeNamespaces _) = _
    rw [namespaceNames_mergeNamespaces]
    exact congrArg List.eraseDups hnames
  · intro n hn
    have howned := hrun.owned hagrees n.name
    have hmerged := modelsNamed_of_nodup (nodup_mergeNamespaces _) hn
    rw [← hmerged]
    exact (modelsNamed_mergeNamespaces ..).trans howned
  · exact hrun.imports

/-- A source with headers that close what is open, a reopened namespace, and lines outside of it. -/
def looseLines : List String :=
  ["import \"http\";", "title: stray", "namespace Shop \x7b", "  model Book \x7b", "    id: string;",
    "  model Novel extends Book \x7b", "    // owner: nobody", "    tags?: string[];", "  \x7d",
    "  id: stray", "\x7d", "model Lost \x7b", "\x7d", "namespace Stock \x7b", "  model Shelf \x7b",
    "    place: int32", "namespace Shop \x7b", "  model Order \x7b", "    books: Book[]"]

def looseSource : String :=
  "\n".intercalate looseLines

theorem read_owned_looseSource :
    (∀ line ∈ trimmedLines looseSource.toList, isServiceStart line = false) ∧
      ∃ d, Definition.read looseSource = .valid d ∧
        namespaceNames d.namespaces = ["Shop", "Stock"] ∧
        (∀ n ∈ d.namespaces, n.name = "Shop" →
          n.models.map (fun m => (m.name, m.properties.map (·.name))) =
            [("Book", ["id"]), ("Novel", ["tags"]), ("Order", ["books"])]) ∧
        d.imports = ["http"] := by
  have hshown : trimmedLines looseSource.toList = shownLines looseLines :=
    trimmedLines_intercalate_text looseLines
  have hlines : ∀ line ∈ trimmedLines looseSource.toList, isServiceStart line = false := by
    rw [hshown]
    decide
  obtain ⟨d, hd, hnames, hmodels, himports⟩ := read_owned hlines
  rw [hshown] at hnames hmodels himports
  refine ⟨hlines, d, hd, hnames.trans (by decide), ?_, himports.trans (by decide)⟩
  intro n hn hshop
  rw [hmodels n hn, hshop]
  decide

end ApiShapes.TypeSpec
