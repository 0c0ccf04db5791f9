import ApiShapes.Proofs.TypeSpec.Rereading
import ApiShapes.Proofs.TypeSpec.Roundtrip
import Mathlib.Tactic

/-!
# The service block between imports and namespaces

The title and the version of a definition are read back as they are, and leave imports and
namespaces alone, unless their parentheses move the end of the service block or the title swallows
the version.  A block that ends too late takes the header of the first namespace, and a namespace
without its header is lost: every namespace that is read has a header of its own among the lines.
-/

namespace ApiShapes.TypeSpec

open Json Text

/-! ## Headers that are read -/

def Meaning.header? : Meaning → Option String
  | .namespaceHeader name => name
  | _ => none

/-- The names of the namespaces that have been read, that of an open one last. -/
def Progress.names (p : Progress) : List String :=
  namespaceNames p.close.namespaces

theorem names_eq (p : Progress) :
    p.names = namespaceNames p.namespaces ++ (p.open?.map (·.name)).toList := by
  cases h : p.open? with
  | none => simp [Progress.names, Progress.close, namespaceNames, h]
  | some n => simp [Progress.names, Progress.close, namespaceNames, OpenNamespace.close, h]

theorem names_of_open {p : Progress} {n : OpenNamespace} (hopen : p.open? = some n) :
    p.names = namespaceNames p.namespaces ++ [n.name] := by
  rw [names_eq, hopen, Option.map_some, Option.toList_some]

theorem names_inside (p : Progress) (n : OpenNamespace) :
    (p.inside n).names = namespaceNames p.namespaces ++ [n.name] :=
  names_of_open rfl

/-- Only a header that can be read adds a name. -/
theorem Change.names {p q : Progress} {meaning : Meaning} (h : Change p meaning q) :
    q.names = p.names ++ meaning.header?.toList := by
  cases h with
  | imports path => exact (List.append_nil _).symm
  | informs title version => exact (List.append_nil _).symm
  | opensNamespace name => exact names_inside p.close _
  | opensModel m hopen =>
      rw [names_inside, names_of_open hopen]
      exact (List.append_nil _).symm
  | addsProperty property hopen hinside =>
      rw [names_inside, names_of_open hopen]
      exact (List.append_nil _).symm
  | closesModel hopen hinside =>
      rw [names_inside, names_of_open hopen]
      exact (List.append_nil _).symm
  | closesNamespace hopen hinside => simp [Progress.names, Progress.close, Meaning.header?]
  | passes ignored hnone =>
      have hheader : meaning.header? = none := hnone
      rw [hheader]
      exact (List.append_nil _).symm

theorem names_foldl_step (p : Progress) (ss : List Statement) :
    (ss.foldl Progress.step p).names = p.names ++ ss.filterMap (·.meaning.header?) := by
  induction ss generalizing p with
  | nil => simp
  | cons s ss ih =>
      rw [List.foldl_cons, ih, (change_step p s).names, List.append_assoc]
      congr 1
      cases h : s.meaning.header? <;> simp [h]

/-- The first statement takes some lines; it is a header only if the first line is one. -/
theorem exists_statement_cons (line : List Char) (rest : List (List Char)) :
    ∃ s left, left <:+ rest ∧ statements (line :: rest) = s :: statements left ∧
      ∀ x, s.meaning.header? = some x → (meaningOf line).header? = some x := by
  have hservice : ∀ content x, (serviceStatement content).meaning.header? = some x →
      (meaningOf line).header? = some x := by
    rintro content x ⟨⟩
  rw [statements]
  dsimp only
  split_ifs with hstart hends
  · exact ⟨_, rest, List.suffix_refl rest, rfl, hservice line⟩
  · obtain ⟨content, left, hleft, hfrom⟩ :=
      exists_left_of_serviceFrom line (parenthesisExcess line) rest
    exact ⟨_, left, hleft, hfrom, hservice content⟩
  · exact ⟨_, rest, List.suffix_refl rest, rfl, fun _ hx => hx⟩

/-- A header that is read stands on a line of its own. -/
theorem exists_header_line {ls : List (List Char)} {s : Statement} (hs : s ∈ statements ls)
    {x : String} (hx : s.meaning.header? = some x) :
    ∃ l ∈ ls, (meaningOf l).header? = some x := by
  induction hlength : ls.length using Nat.strong_induction_on generalizing ls with
  | _ length ih =>
      cases ls with
      | nil =>
          rw [statements] at hs
          cases hs
      | cons line rest =>
          obtain ⟨first, left, hleft, hcons, hheader⟩ := exists_statement_cons line rest
          rw [hcons] at hs
          rcases List.mem_cons.1 hs with rfl | hs
          · exact ⟨line, by simp, hheader x hx⟩
          · have hshorter : left.length < length := by
              rw [← hlength, List.length_cons]
              exact Nat.lt_succ_of_le hleft.length_le
            obtain ⟨l, hl, hread⟩ := ih _ hshorter hs rfl
            exact ⟨l, List.mem_cons_of_mem _ (hleft.subset hl), hread⟩

/-- The namespaces that are read behind some progress were open or read before, or have a header
among the lines. -/
theorem name_of_mem_declared {p : Progress} {ls : List (List Char)} {n : Namespace}
    (hn : n ∈ (p.declared ls).namespaces) :
    n.name ∈ p.names ∨ ∃ l ∈ ls, (meaningOf l).header? = some n.name := by
  have hmerged : ∀ n ∈ mergeNamespaces ((statements ls).foldl Progress.step p).close.namespaces,
      n.name ∈ ((statements ls).foldl Progress.step p).names :=
    mergeNamespaces_forall (fun m n hm _ => hm) fun n hn => List.mem_map_of_mem hn
  have hname := hmerged n hn
  rw [names_foldl_step, List.mem_append, List.mem_filterMap] at hname
  rcases hname with hname | ⟨s, hs, hx⟩
  · exact Or.inl hname
  · exact Or.inr (exists_header_line hs hx)

/-! ## Headers that are rendered -/

/-- A namespace of models alone, without parentheses up to its opening brace. -/
@[mk_iff]
structure Namespace.Bare (n : Namespace) : Prop where
  name : ')' ∉ n.name.toList
  imports : ∀ path ∈ n.imports, ')' ∉ path.toList
  operations : n.operations = []
  description : n.description = none
  models : ∀ m ∈ n.models, m.description = none ∧ m.decorators = [] ∧
    ∀ p ∈ m.properties, p.description = none

instance (n : Namespace) : Decidable n.Bare :=
  decidable_of_iff' _ (Namespace.bare_iff n)

theorem shownLines_properties {ps : List Property} (h : ∀ p ∈ ps, p.Legible)
    (hbare : ∀ p ∈ ps, p.description = none) (level : Nat) :
    shownLines (ps.flatMap (·.lines level)) =
      ps.map fun p => propertyLine p.label p.type.toList := by
  induction ps with
  | nil => rfl
  | cons p ps ih =>
      have hshown := (trimmedLines_indent level _).trans
        ((congrArg trimmedLines (toList_propertyLine p)).trans
          (trimmedLines_propertyLine (h p (by simp))))
      rw [List.flatMap_cons, shownLines_append, Property.lines, hbare p (by simp), commentLines,
        List.nil_append, shownLines_cons, hshown, shownLines_nil,
        ih (fun q hq => h q (by simp [hq])) fun q hq => hbare q (by simp [hq])]
      rfl

theorem header?_modelLines {m : Model} (h : m.Legible)
    (hbare : m.description = none ∧ m.decorators = [] ∧ ∀ p ∈ m.properties, p.description = none)
    (level : Nat) : ∀ l ∈ shownLines (m.lines level), (meaningOf l).header? = none := by
  obtain ⟨hdescription, hdecorators, hproperties⟩ := hbare
  obtain ⟨hstart, hbrace, hone⟩ := h.header_clean
  have hheader := (trimmedLines_indent level _).trans
    ((congrArg trimmedLines (toList_modelLine m)).trans
      (trimmedLines_headerLine modelKeyword hone))
  have hclosing := (trimmedLines_indent level _).trans trimmedLines_brace
  have hshown : shownLines (m.lines level) =
      headerLine "model".toList m.header ::
        (m.properties.map (fun p => propertyLine p.label p.type.toList) ++ [['\x7d']]) := by
    rw [Model.lines, hdescription, hdecorators]
    simp only [shownLines_append, commentLines, List.map_nil, shownLines_nil, List.nil_append,
      shownLines_cons, hheader, hclosing, shownLines_properties h.properties hproperties]
    rfl
  rw [hshown]
  intro l hl
  rcases List.mem_cons.1 hl with rfl | hl
  · rw [meaningOf_modelLine hstart hbrace]
    rfl
  · rcases List.mem_append.1 hl with hl | hl
    · obtain ⟨p, hp, rfl⟩ := List.mem_map.1 hl
      rw [meaningOf_propertyLine (h.properties p hp).label_unclaimed]
      rfl
    · obtain rfl := List.mem_singleton.1 hl
      rfl

/-- A bare namespace is rendered as its imports, its header, and lines without headers. -/
theorem shownLines_namespaceLines {n : Namespace} (h : n.Legible) (hbare : n.Bare) :
    ∃ inner, shownLines n.lines = n.imports.map (fun path => importLine path.toList) ++
        headerLine "namespace".toList n.name.toList :: inner ∧
      ∀ l ∈ inner, (meaningOf l).header? = none := by
  have hheader := (congrArg trimmedLines (toList_namespaceLine n)).trans
    (trimmedLines_headerLine namespaceKeyword h.name.oneLine)
  refine ⟨shownLines (n.models.flatMap fun m => m.lines 1 ++ [""]) ++ [['\x7d']], ?_, ?_⟩
  · have himports := shownLines_importLines fun path hpath => (h.imports path hpath).2
    rw [Namespace.lines, hbare.description, hbare.operations]
    simp only [shownLines_append, commentLines, List.flatMap_nil, shownLines_nil, List.append_nil,
      shownLines_cons, hheader, himports, trimmedLines_brace, List.append_assoc]
    rfl
  · intro l hl
    rcases List.mem_append.1 hl with hl | hl
    · rw [shownLines_flatMap, List.mem_flatMap] at hl
      obtain ⟨m, hm, hl⟩ := hl
      rw [shownLines_append, shownLines_empty_line, List.append_nil] at hl
      exact header?_modelLines (h.models m hm) (hbare.models m hm) 1 l hl
    · obtain rfl := List.mem_singleton.1 hl
      rfl

/-- The headers among the lines of bare namespaces are those of these namespaces. -/
theorem exists_of_header? {ns : List Namespace} (h : ∀ n ∈ ns, n.Legible)
    (hbare : ∀ n ∈ ns, n.Bare) {l : List Char}
    (hl : l ∈ shownLines (ns.flatMap fun n => n.lines ++ [""])) {x : String}
    (hx : (meaningOf l).header? = some x) : ∃ n ∈ ns, n.name = x := by
  rw [shownLines_flatMap, List.mem_flatMap] at hl
  obtain ⟨n, hn, hl⟩ := hl
  obtain ⟨inner, hshown, hinner⟩ := shownLines_namespaceLines (h n hn) (hbare n hn)
  rw [shownLines_append, shownLines_empty_line, List.append_nil, hshown] at hl
  refine ⟨n, hn, ?_⟩
  rcases List.mem_append.1 hl with hl | hl
  · obtain ⟨path, hpath, rfl⟩ := List.mem_map.1 hl
    have hfilled : path.toList ≠ [] := by simpa using ((h n hn).imports path hpath).1
    rw [meaningOf_importLine hfilled] at hx
    cases hx
  · rcases List.mem_cons.1 hl with rfl | hl
    · rw [meaningOf_namespaceLine (h n hn).name.trim (h n hn).name.noBrace,
        String.ofList_toList] at hx
      exact Option.some.inj hx
    · rw [hinner l hl] at hx
      cases hx

/-! ## A block that does not end -/

/-- The first namespace behind a service block that does not end is lost. -/
theorem name_not_read {p : Progress} (hp : p.names = []) {n : Namespace} {ns : List Namespace}
    (h : ∀ k ∈ n :: ns, k.Legible) (hbare : ∀ k ∈ n :: ns, k.Bare)
    (hnames : n.name ∉ ns.map (·.name)) {title : String} {version : Option String}
    (hends : ¬ ServiceEnds title version) :
    n.name ∉ namespaceNames (p.declared
      (serviceBlock title.toList (version.map String.toList) ++
        shownLines ((n :: ns).flatMap fun k => k.lines ++ [""]))).namespaces := by
  obtain ⟨inner, hshown, hinner⟩ := shownLines_namespaceLines (h n (by simp)) (hbare n (by simp))
  have hheader : ∀ l ∈ n.imports.map (fun path => importLine path.toList) ++
      [headerLine "namespace".toList n.name.toList], ')' ∉ l := by
    intro l hl
    rcases List.mem_append.1 hl with hl | hl
    · obtain ⟨path, hpath, rfl⟩ := List.mem_map.1 hl
      have hclosed := (hbare n (by simp)).imports path hpath
      unfold importLine
      rw [List.mem_append, List.mem_append]
      rintro (hl | hl | hl)
      · exact absurd hl (by decide)
      · exact hclosed hl
      · exact absurd hl (by decide)
    · obtain rfl := List.mem_singleton.1 hl
      have hclosed := (hbare n (by simp)).name
      unfold headerLine
      rw [List.mem_append, List.mem_cons, List.mem_append]
      rintro (hl | hl | hl | hl)
      · exact absurd hl (by decide)
      · exact absurd hl (by decide)
      · exact hclosed hl
      · exact absurd hl (by decide)
  have hlines : shownLines ((n :: ns).flatMap fun k => k.lines ++ [""]) =
      (n.imports.map (fun path => importLine path.toList) ++
          [headerLine "namespace".toList n.name.toList]) ++
        (inner ++ shownLines (ns.flatMap fun k => k.lines ++ [""])) := by
    rw [List.flatMap_cons, shownLines_append, shownLines_append, shownLines_empty_line, hshown]
    simp only [List.append_assoc, List.cons_append, List.nil_append]
  obtain ⟨content, left, hleft, hstatements⟩ := statements_serviceBlock_of_not_ends hends hheader
    (inner ++ shownLines (ns.flatMap fun k => k.lines ++ [""]))
  rw [hlines, declared_of_service p hstatements rfl]
  intro hmem
  obtain ⟨k, hk, hname⟩ := List.mem_map.1 hmem
  rcases name_of_mem_declared hk with hread | ⟨l, hl, hx⟩
  · rw [names_eq] at hp hread
    simp [hp] at hread
  · rw [hname] at hx
    rcases List.mem_append.1 (hleft.subset hl) with hl | hl
    · rw [hinner l hl] at hx
      cases hx
    · obtain ⟨m, hm, hsame⟩ := exists_of_header? (fun k hk => h k (by simp [hk]))
        (fun k hk => hbare k (by simp [hk])) hl hx
      exact hnames (hsame ▸ List.mem_map_of_mem hm)

/-! ## What is read back -/

def Definition.untitled (d : Definition) : Definition :=
  { d with title := none, version := none }

theorem versionRead_eq_iff (title : String) (version : Option String) :
    versionRead title version = version ↔
      ∀ v ∈ version, parenthesisExcess title.toList ≠ -1 ∧
        (EndsLike versionKey (escape title.toList) → v = ",version: ") := by
  rw [versionRead]
  cases version with
  | none => simp
  | some v =>
      by_cases hdepth : parenthesisExcess title.toList = -1
      · simp [hdepth]
      · by_cases hends : EndsLike versionKey (escape title.toList)
        · simp [hdepth, hends, versionBehind, eq_comm]
        · simp [hdepth, hends, versionBehind]

theorem declared_lines_titled {d : Definition} {title : String} (htitle : d.title = some title)
    (hne : title ≠ "") (himports : ∀ path ∈ d.imports, OneLine path.toList)
    (hlines : ∀ c ∈ title.toList, c ∉ literalBoundaries)
    (hversion : ∀ v ∈ d.version, ∀ c ∈ v.toList, c ∉ literalBoundaries) :
    Progress.start.declared (shownLines d.lines) =
      Progress.declared ⟨filledImports d.imports, [], none, none, none, []⟩
        (serviceBlock title.toList ((filled d.version).map String.toList) ++
          shownLines (d.namespaces.flatMap fun n => n.lines ++ [""])) := by
  rw [Definition.lines, shownLines_append, shownLines_append, List.append_assoc,
    declared_importLines _ himports, htitle, shownLines_serviceLines hne hlines _ hversion]
  rfl

/-- A title and a version without line boundaries are read back, with imports and namespaces as
without them, exactly if the service block ends before the namespaces and the version is neither
behind its end nor lost to the title. -/
theorem service_read_back_iff {d : Definition} (h : d.untitled.Legible)
    (hbare : ∀ n ∈ d.namespaces, n.Bare) {title : String} (htitle : d.title = some title)
    (hne : title ≠ "") (hlines : ∀ c ∈ title.toList, c ∉ literalBoundaries)
    (hversion : ∀ v ∈ d.version, ∀ c ∈ v.toList, c ∉ literalBoundaries) :
    ∃ r r₀, Definition.read d.source = .valid r ∧ Definition.read d.untitled.source = .valid r₀ ∧
      (r.title = some title ∧ r.version = filled d.version ∧ r.imports = r₀.imports ∧
          r.namespaces = r₀.namespaces ↔
        (ServiceEnds title (filled d.version) ∨ d.namespaces = []) ∧
          ∀ v ∈ filled d.version, parenthesisExcess title.toList ≠ -1 ∧
            (EndsLike versionKey (escape title.toList) → v = ",version: ")) := by
  have himports : ∀ path ∈ d.imports, OneLine path.toList :=
    fun path hpath => (h.imports path hpath).2
  have hnamespaces : ∀ n ∈ d.namespaces, n.Legible := h.namespaces
  have hnames : (d.namespaces.map (·.name)).Nodup := h.names
  have hcomments : ∀ n ∈ d.namespaces, ∀ c ∈ n.comments, QuietComment c :=
    fun n hn c hc => quietComment_of_legible (h.comments c (List.mem_flatMap.2 ⟨n, hn, hc⟩))
  have hgiven : ∀ v ∈ filled d.version, v ≠ "" := by
    intro v hv
    simpa using (Option.filter_eq_some_iff.1 hv).2
  refine ⟨_, _, read_source_eq d, read_source h, ?_⟩
  rw [declared_lines_titled htitle hne himports hlines hversion]
  by_cases hends : ServiceEnds title (filled d.version) ∨ d.namespaces = []
  · have hrest : ServiceEnds title (filled d.version) ∨
        shownLines (d.namespaces.flatMap fun n => n.lines ++ [""]) = [] := by
      rcases hends with hends | hnone
      · exact Or.inl hends
      · exact Or.inr (by rw [hnone]; rfl)
    rw [declared_serviceBlock (by simp) hne hgiven hrest,
      declared_namespaces _ _ _ hnames (fun n hn => (hnamespaces n hn).outline) hcomments,
      ← versionRead_eq_iff, ← h.asRead]
    constructor
    · rintro ⟨-, hread, -, -⟩
      exact ⟨hends, hread⟩
    · rintro ⟨-, hread⟩
      exact ⟨rfl, hread, (filledImports_append _ _).symm, rfl⟩
  · -- the first namespace is read without the title, but not behind a block that takes its header
    rw [not_or] at hends
    obtain ⟨n, ns, hcons⟩ := List.exists_cons_of_ne_nil hends.2
    have hkept : n.name ∈ namespaceNames d.untitled.kept.namespaces := by
      have hmem : n ∈ d.untitled.namespaces := by simp [Definition.untitled, hcons]
      exact List.mem_map.2 ⟨n.kept, List.mem_map_of_mem hmem, rfl⟩
    apply iff_of_false
    · rintro ⟨-, -, -, hsame⟩
      rw [← hsame, hcons] at hkept
      rw [hcons] at hnamespaces hbare hnames
      exact name_not_read rfl hnamespaces hbare (List.nodup_cons.1 hnames).1 hends.1 hkept
    · rintro ⟨hwithin, -⟩
      exact hwithin.elim hends.1 hends.2

/-- A definition of one model whose property has a type with parentheses and quotes. -/
def titledShop (title : String) (version : Option String) : Definition :=
  { namespaces :=
      [{ name := "Books"
         models :=
          [{ name := "Book"
             properties := [⟨"title", "map(\"new\") | string)", true, none, none⟩]
             bases := ["Item"]
             description := none
             decorators := [] }]
         operations := []
         imports := ["items"]
         description := none }]
    imports := ["http"]
    title := some title
    version
    description := none }

theorem legible_titledShop (title : String) (version : Option String) :
    (titledShop title version).untitled.Legible := by
  have huntitled : (titledShop title version).untitled = (titledShop "" none).untitled :=
    rfl
  rw [huntitled]
  exact Definition.Plain.legible (by decide) (by decide)

theorem bare_titledShop (title : String) (version : Option String) :
    ∀ n ∈ (titledShop title version).namespaces, n.Bare := by
  have hnamespaces : (titledShop title version).namespaces = (titledShop "" none).namespaces := rfl
  rw [hnamespaces]
  decide

theorem service_read_back_iff_titledShop :
    (titledShop "Shop (old" (some "\"1\")")).untitled.Legible ∧
      (∀ n ∈ (titledShop "Shop (old" (some "\"1\")")).namespaces, n.Bare) ∧
      (∀ c ∈ "Shop (old".toList, c ∉ literalBoundaries) ∧
      (∀ c ∈ "\"1\")".toList, c ∉ literalBoundaries) ∧
      ∃ r r₀, Definition.read (titledShop "Shop (old" (some "\"1\")")).source = .valid r ∧
        Definition.read (titledShop "Shop (old" (some "\"1\")")).untitled.source = .valid r₀ ∧
        r.title = some "Shop (old" ∧ r.version = some "\"1\")" ∧ r.imports = r₀.imports ∧
        r.namespaces = r₀.namespaces := by
  have hlegible := legible_titledShop "Shop (old" (some "\"1\")")
  have hbare := bare_titledShop "Shop (old" (some "\"1\")")
  have hlines : ∀ c ∈ "Shop (old".toList, c ∉ literalBoundaries := by decide
  have hversion : ∀ c ∈ "\"1\")".toList, c ∉ literalBoundaries := by decide
  obtain ⟨r, r₀, hread, hread₀, hiff⟩ := service_read_back_iff hlegible hbare rfl (by decide) hlines
    (by rintro v ⟨⟩; exact hversion)
  refine ⟨hlegible, hbare, hlines, hversion, r, r₀, hread, hread₀, hiff.2 ⟨?_, ?_⟩⟩
  · exact Or.inl (Or.inr (Or.inr (by decide)))
  · rintro v ⟨⟩
    decide

/-- A title with a parenthesis that it does not close takes the namespaces. -/
theorem openParenthesis_takes_namespace :
    (titledShop "Shop (beta" none).untitled.Legible ∧
      (∀ n ∈ (titledShop "Shop (beta" none).namespaces, n.Bare) ∧
      ∃ r r₀, Definition.read (titledShop "Shop (beta" none).source = .valid r ∧
        Definition.read (titledShop "Shop (beta" none).untitled.source = .valid r₀ ∧
        "Books" ∉ namespaceNames r.namespaces ∧ "Books" ∈ namespaceNames r₀.namespaces := by
  have hlegible := legible_titledShop "Shop (beta" none
  have hbare := bare_titledShop "Shop (beta" none
  refine ⟨hlegible, hbare, _, _, read_source_eq _, read_source hlegible, ?_, by decide⟩
  rw [declared_lines_titled rfl (by decide) (by decide) (by decide) (by rintro v ⟨⟩)]
  have hends : ¬ ServiceEnds "Shop (beta" none := by
    unfold ServiceEnds
    decide
  exact name_not_read rfl hlegible.namespaces hbare (by decide) hends

end ApiShapes.TypeSpec
