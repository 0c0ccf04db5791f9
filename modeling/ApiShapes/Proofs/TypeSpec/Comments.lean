import ApiShapes.Proofs.TypeSpec.OpenBlocks
import ApiShapes.Proofs.TypeSpec.SourceReading
import Mathlib.Tactic

/-!
# Comments in a source

A description is written between the marks of a comment as it stands.  Only the first line of the
comment is recognized by its mark.  Each further line is read like any other line of the source: in
a model it can declare a property, and everywhere it can open or close a block.  A comment is quiet
if its further lines do not import, open or close anything.
-/

namespace ApiShapes.TypeSpec

open Text

/-! ## Further lines -/

/-- The lines of a comment behind its first one. -/
def furtherLines : Option String → List (List Char)
  | none => []
  | some s =>
    if s.isEmpty then [] else (trimmedLines ("/** ".toList ++ (s.toList ++ " */".toList))).tail

def Meaning.Quiet : Meaning → Prop
  | .importPath path => path = none
  | .service _ _ => False
  | .namespaceHeader name => name = none
  | .modelHeader model => model = none
  | .property _ => True
  | .closing => False
  | .other => True

instance : (meaning : Meaning) → Decidable meaning.Quiet
  | .importPath path => inferInstanceAs (Decidable (path = none))
  | .service _ _ => isFalse id
  | .namespaceHeader name => inferInstanceAs (Decidable (name = none))
  | .modelHeader model => inferInstanceAs (Decidable (model = none))
  | .property _ => isTrue trivial
  | .closing => isFalse id
  | .other => isTrue trivial

def QuietLine (line : List Char) : Prop :=
  isServiceStart line = false ∧ (meaningOf line).Quiet

instance (line : List Char) : Decidable (QuietLine line) :=
  inferInstanceAs (Decidable (_ ∧ _))

/-- A description whose further lines import nothing and open and close no block. -/
def QuietComment (description : Option String) : Prop :=
  ∀ line ∈ furtherLines description, QuietLine line

instance (description : Option String) : Decidable (QuietComment description) :=
  inferInstanceAs (Decidable (∀ line ∈ furtherLines description, QuietLine line))

/-- The properties that a comment in a model declares. -/
def strayProperties (description : Option String) : List Property :=
  (furtherLines description).filterMap fun line => (meaningOf line).property?

@[simp] theorem furtherLines_none : furtherLines none = [] := rfl

/-- The first line of a comment is recognized by its mark. -/
theorem shownLines_commentLines (level : Nat) (description : Option String) :
    shownLines (commentLines level description) = [] ∧ furtherLines description = [] ∨
      ∃ first, shownLines (commentLines level description) =
        ('/' :: '*' :: first) :: furtherLines description := by
  cases description with
  | none => exact Or.inl ⟨rfl, rfl⟩
  | some s =>
      rw [furtherLines, commentLines]
      split
      · exact Or.inl ⟨rfl, rfl⟩
      · obtain ⟨first, more, hshown, -⟩ := trimmedLines_append_of_visible (u := "/**".toList)
          (by decide) (by decide) (by decide) (' ' :: (s.toList ++ " */".toList))
        have hmark : "/** ".toList ++ (s.toList ++ " */".toList) =
            "/**".toList ++ ' ' :: (s.toList ++ " */".toList) := rfl
        refine Or.inr ⟨'*' :: trimEnd first, ?_⟩
        rw [shownLines_cons, shownLines_nil, List.append_nil, trimmedLines_indent,
          String.toList_append, String.toList_append, List.append_assoc, hmark, hshown]
        rfl

theorem furtherLines_of_legible {description : Option String} (h : LegibleComment description) :
    furtherLines description = [] := by
  cases description with
  | none => rfl
  | some s =>
      have hone : OneLine ("/** ".toList ++ (s.toList ++ " */".toList)) := by
        have hopen : OneLine "/** ".toList := by decide
        have hclose : OneLine " */".toList := by decide
        exact hopen.append ((h s rfl).append hclose)
      rw [furtherLines, trimmedLines_of_oneLine hone]
      split
      · rfl
      · split <;> rfl

/-! ## Reading comments -/

/-- A quiet line that declares no property is passed over everywhere. -/
theorem declared_quietLine (p : Progress) {line : List Char} (h : QuietLine line)
    (hnone : (meaningOf line).property? = none) (rest : List (List Char)) :
    p.declared (line :: rest) = p.declared rest := by
  obtain ⟨hstart, hquiet⟩ := h
  have hstep : p.step ⟨line, meaningOf line⟩ = p ∨
      p.step ⟨line, meaningOf line⟩ = p.ignore line := by
    cases hmeaning : meaningOf line with
    | importPath path =>
        rw [hmeaning] at hquiet
        obtain rfl : path = none := hquiet
        exact Or.inl (by simp [Progress.step])
    | namespaceHeader name =>
        rw [hmeaning] at hquiet
        obtain rfl : name = none := hquiet
        exact Or.inl (by simp [Progress.step])
    | modelHeader model =>
        rw [hmeaning] at hquiet
        obtain rfl : model = none := hquiet
        cases hopen : p.open? with
        | none => exact Or.inr (by simp only [Progress.step, hopen])
        | some n => exact Or.inl (by simp only [Progress.step, hopen])
    | other => exact Or.inr rfl
    | property property =>
        rw [hmeaning] at hnone
        cases hnone
    | service title version =>
        rw [hmeaning] at hquiet
        exact hquiet.elim
    | closing =>
        rw [hmeaning] at hquiet
        exact hquiet.elim
  rw [declared_cons p hstart]
  rcases hstep with hstep | hstep
  · rw [hstep]
  · rw [hstep, declared_ignore]

theorem Meaning.eq_property {meaning : Meaning} {property : Property}
    (h : meaning.property? = some property) : meaning = .property property := by
  cases meaning with
  | property p => exact congrArg Meaning.property (Option.some.inj h)
  | importPath | service | namespaceHeader | modelHeader | closing | other => cases h

/-- Quiet lines are passed over outside models. -/
theorem declared_quietLines_outside {p : Progress} (hp : ∀ n ∈ p.open?, n.model? = none)
    {ls : List (List Char)} (h : ∀ line ∈ ls, QuietLine line) (rest : List (List Char)) :
    p.declared (ls ++ rest) = p.declared rest := by
  induction ls with
  | nil => rfl
  | cons line ls ih =>
      obtain ⟨hline, hls⟩ := List.forall_mem_cons.1 h
      rw [List.cons_append]
      cases hproperty : (meaningOf line).property? with
      | none => rw [declared_quietLine p hline hproperty, ih hls]
      | some property =>
          rw [declared_property_outside hp hline.1 (Meaning.eq_property hproperty), ih hls]

/-- In a model quiet lines declare their properties. -/
theorem declared_quietLines_inside (p : Progress) (n : OpenNamespace) (m : Model)
    {ls : List (List Char)} (h : ∀ line ∈ ls, QuietLine line) (rest : List (List Char)) :
    (p.inside { n with model? := some m }).declared (ls ++ rest) =
      (p.inside { n with model? := some { m with
        properties := m.properties ++
          ls.filterMap fun line => (meaningOf line).property? } }).declared rest := by
  induction ls generalizing m with
  | nil => simp
  | cons line ls ih =>
      obtain ⟨hline, hls⟩ := List.forall_mem_cons.1 h
      rw [List.cons_append]
      cases hproperty : (meaningOf line).property? with
      | none =>
          rw [declared_quietLine _ hline hproperty, ih m hls]
          simp only [List.filterMap_cons, hproperty]
      | some property =>
          have hstep : (p.inside { n with model? := some m }).step ⟨line, .property property⟩ =
              p.inside { n with model? := some { m with
                properties := m.properties ++ [property] } } := rfl
          rw [declared_cons _ hline.1, Meaning.eq_property hproperty, hstep, ih _ hls]
          simp only [List.filterMap_cons, hproperty, List.append_assoc, List.singleton_append]

/-- Outside models a quiet comment is passed over. -/
theorem declared_commentLines_outside {p : Progress} (hp : ∀ n ∈ p.open?, n.model? = none)
    (level : Nat) {description : Option String} (h : QuietComment description)
    (rest : List (List Char)) :
    p.declared (shownLines (commentLines level description) ++ rest) = p.declared rest := by
  rcases shownLines_commentLines level description with ⟨hshown, -⟩ | ⟨first, hshown⟩
  · rw [hshown, List.nil_append]
  · rw [hshown, List.cons_append,
      declared_other p (isServiceStart_of_head (by decide) _) (meaningOf_comment _),
      declared_quietLines_outside hp h]

/-- In a model a quiet comment declares its stray properties. -/
theorem declared_commentLines_inside (p : Progress) (n : OpenNamespace) (m : Model) (level : Nat)
    {description : Option String} (h : QuietComment description) (rest : List (List Char)) :
    (p.inside { n with model? := some m }).declared
        (shownLines (commentLines level description) ++ rest) =
      (p.inside { n with model? := some { m with
        properties := m.properties ++ strayProperties description } }).declared rest := by
  rcases shownLines_commentLines level description with ⟨hshown, hnone⟩ | ⟨first, hshown⟩
  · simp [hshown, hnone, strayProperties]
  · rw [hshown, List.cons_append,
      declared_other _ (isServiceStart_of_head (by decide) _) (meaningOf_comment _),
      declared_quietLines_inside p n m h, strayProperties]

/-! ## Definitions without descriptions -/

def Property.undescribed (p : Property) : Property :=
  { p with description := none }

def Model.undescribed (m : Model) : Model :=
  { m with properties := m.properties.map Property.undescribed, description := none }

def Parameter.undescribed (p : Parameter) : Parameter :=
  { p with description := none }

def RequestBody.undescribed (b : RequestBody) : RequestBody :=
  { b with description := none }

def Response.undescribed (r : Response) : Response :=
  { r with description := none }

def Operation.undescribed (o : Operation) : Operation :=
  { o with
    parameters := o.parameters.map Parameter.undescribed
    requestBody := o.requestBody.map RequestBody.undescribed
    responses := o.responses.map Response.undescribed
    description := none }

def Namespace.undescribed (n : Namespace) : Namespace :=
  { n with
    models := n.models.map Model.undescribed
    operations := n.operations.map Operation.undescribed
    description := none }

def Definition.undescribed (d : Definition) : Definition :=
  { d with namespaces := d.namespaces.map Namespace.undescribed, description := none }

def Namespace.outline (n : Namespace) : Namespace :=
  { n.undescribed with imports := filledImports n.imports }

/-- A definition without descriptions and without imports that are not read. -/
def Definition.outline (d : Definition) : Definition :=
  { d with
    namespaces := d.namespaces.map Namespace.outline
    imports := filledImports d.imports
    description := none }

theorem resultType_undescribed (o : Operation) : o.undescribed.resultType = o.resultType := by
  have hfind : o.undescribed.responses.find? (fun r => r.statusCode == .code 200) =
      (o.responses.find? fun r => r.statusCode == .code 200).map Response.undescribed :=
    List.find?_map
  rw [Operation.resultType, Operation.resultType, hfind]
  cases o.responses.find? fun r => r.statusCode == .code 200 with
  | none => rfl
  | some r => rfl

/-! ## Definitions with their comments -/

def Model.comments (m : Model) : List (Option String) :=
  m.description :: m.properties.map (·.description)

def Namespace.comments (n : Namespace) : List (Option String) :=
  n.description :: (n.models.flatMap (·.comments) ++ n.operations.map (·.description))

/-- The descriptions that are rendered as comments. -/
def Definition.comments (d : Definition) : List (Option String) :=
  d.namespaces.flatMap (·.comments)

/-- A property as it is read, behind those that its comment declares. -/
def Property.asRead (p : Property) : List Property :=
  strayProperties p.description ++ [p.kept]

def Model.asRead (m : Model) : Model :=
  { m with
    properties := m.properties.flatMap Property.asRead
    description := none
    decorators := [] }

def Namespace.asRead (n : Namespace) : Namespace :=
  ⟨n.name, n.models.map Model.asRead, [], [], none⟩

/-- What is read from the source of a definition whose comments are quiet. -/
def Definition.asRead (d : Definition) : Definition :=
  { namespaces := d.namespaces.map Namespace.asRead
    imports := filledImports (d.imports ++ d.namespaces.flatMap (·.imports))
    title := filled d.title
    version := (filled d.title).bind fun _ => filled d.version
    description := none }

/-! ## Legible definitions -/

theorem Property.Legible.undescribed {p : Property} (h : p.Legible) : p.undescribed.Legible :=
  { h with comment := by simp [LegibleComment, Property.undescribed] }

theorem Model.Legible.undescribed {m : Model} (h : m.Legible) : m.undescribed.Legible :=
  { h with
    properties := List.forall_mem_map.2 fun p hp => (h.properties p hp).undescribed
    comment := by simp [LegibleComment, Model.undescribed] }

theorem Operation.Legible.undescribed {o : Operation} (h : o.Legible) :
    o.undescribed.Legible :=
  { h with
    parameters := List.forall_mem_map.2 fun p hp => h.parameters p hp
    result := by
      rw [resultType_undescribed]
      exact h.result
    comment := by simp [LegibleComment, Operation.undescribed] }

theorem filledImports_of_legible {imports : List String}
    (h : ∀ path ∈ imports, LegibleImport path) : filledImports imports = imports := by
  rw [filledImports, List.filter_eq_self]
  intro path hpath
  simpa using (h path hpath).1

theorem Namespace.Legible.outline {n : Namespace} (h : n.Legible) : n.outline.Legible :=
  { h with
    models := List.forall_mem_map.2 fun m hm => (h.models m hm).undescribed
    operations := List.forall_mem_map.2 fun o ho => (h.operations o ho).undescribed
    imports := fun path hpath => h.imports path (List.mem_of_mem_filter hpath)
    comment := by simp [LegibleComment, Namespace.outline, Namespace.undescribed] }

theorem names_outline (d : Definition) :
    d.outline.namespaces.map (·.name) = d.namespaces.map (·.name) := by
  simp [Definition.outline, Namespace.outline, Namespace.undescribed, Function.comp_def]

theorem Definition.Legible.outline {d : Definition} (h : d.Legible) : d.outline.Legible :=
  { h with
    namespaces := List.forall_mem_map.2 fun n hn => (h.namespaces n hn).outline
    names := by
      rw [names_outline]
      exact h.names
    imports := fun path hpath => h.imports path (List.mem_of_mem_filter hpath) }

theorem Definition.Legible.comments {d : Definition} (h : d.Legible) :
    ∀ c ∈ d.comments, LegibleComment c := by
  intro c hc
  obtain ⟨n, hn, hc⟩ := List.mem_flatMap.1 hc
  have hnamespace := h.namespaces n hn
  rcases List.mem_cons.1 hc with rfl | hc
  · exact hnamespace.comment
  · rcases List.mem_append.1 hc with hc | hc
    · obtain ⟨m, hm, hc⟩ := List.mem_flatMap.1 hc
      have hmodel := hnamespace.models m hm
      rcases List.mem_cons.1 hc with rfl | hc
      · exact hmodel.comment
      · obtain ⟨p, hp, rfl⟩ := List.mem_map.1 hc
        exact (hmodel.properties p hp).comment
    · obtain ⟨o, ho, rfl⟩ := List.mem_map.1 hc
      exact (hnamespace.operations o ho).comment

theorem quietComment_of_legible {description : Option String} (h : LegibleComment description) :
    QuietComment description := by
  intro line hline
  rw [furtherLines_of_legible h] at hline
  cases hline

theorem Property.Legible.asRead {p : Property} (h : p.Legible) : p.asRead = [p.kept] := by
  rw [Property.asRead, strayProperties, furtherLines_of_legible h.comment]
  rfl

theorem Model.Legible.asRead {m : Model} (h : m.Legible) : m.asRead = m.kept := by
  have hproperties : m.properties.flatMap Property.asRead = m.properties.map Property.kept := by
    rw [List.map_eq_flatMap]
    exact List.flatMap_congr fun p hp => (h.properties p hp).asRead
  rw [Model.asRead, hproperties, Model.kept]

/-- A legible definition is read as what is kept of it. -/
theorem Definition.Legible.asRead {d : Definition} (h : d.Legible) : d.asRead = d.kept := by
  have hnamespaces : d.namespaces.map Namespace.asRead = d.namespaces.map Namespace.kept := by
    apply List.map_congr_left
    intro n hn
    have hmodels : n.models.map Model.asRead = n.models.map Model.kept :=
      List.map_congr_left fun m hm => ((h.namespaces n hn).models m hm).asRead
    rw [Namespace.asRead, hmodels, Namespace.kept]
  have himports : ∀ path ∈ d.imports ++ d.namespaces.flatMap (·.imports), LegibleImport path := by
    intro path hpath
    rcases List.mem_append.1 hpath with hpath | hpath
    · exact h.imports path hpath
    · obtain ⟨n, hn, hpath⟩ := List.mem_flatMap.1 hpath
      exact (h.namespaces n hn).imports path hpath
  rw [Definition.asRead, hnamespaces, filledImports_of_legible himports, Definition.kept]

end ApiShapes.TypeSpec
