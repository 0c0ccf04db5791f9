import ApiShapes.Proofs.TypeSpec.Ownership
import ApiShapes.Proofs.TypeSpec.Rereading
import Mathlib.Tactic

/-!
# Joined sources

A source can be read in parts.  Where the first part leaves no namespace open, what the lines behind
it declare does not depend on it, so that reading both parts as one text gives what each of them
gives alone: first the imports and namespaces of the first part, then those of the second, with the
namespaces of one name joined in the place of the first.
-/

namespace ApiShapes.TypeSpec

open Text

/-! ## Reading behind an earlier part -/

/-- What has been read of a text before what is still open at its end is closed. -/
def readSoFar (source : String) : Progress :=
  (statements (trimmedLines source.toList)).foldl Progress.step .start

theorem readSource_eq_close (source : String) : readSource source = (readSoFar source).close := rfl

/-- What has been read behind an earlier part that left nothing open. -/
def Progress.behind (earlier p : Progress) : Progress :=
  { imports := earlier.imports ++ p.imports
    namespaces := earlier.namespaces ++ p.namespaces
    open? := p.open?
    title := earlier.title
    version := earlier.version
    ignored := earlier.ignored ++ p.ignored }

theorem behind_start {earlier : Progress} (h : earlier.open? = none) :
    earlier.behind .start = earlier := by
  obtain ⟨imports, namespaces, open?, title, version, ignored⟩ := earlier
  subst h
  simp [Progress.behind, Progress.start]

theorem behind_close (earlier p : Progress) :
    (earlier.behind p).close = earlier.behind p.close := by
  simp [Progress.behind, Progress.close]

theorem behind_ignore (earlier p : Progress) (text : List Char) :
    (earlier.behind p).ignore text = earlier.behind (p.ignore text) := by
  simp [Progress.behind, Progress.ignore]

/-- A statement does to the lines behind an earlier part what it does to them alone.  Only a service
block is told apart, as it replaces what the earlier part says. -/
theorem step_behind (earlier p : Progress) {s : Statement}
    (h : ∀ title version, s.meaning ≠ .service title version) :
    (earlier.behind p).step s = earlier.behind (p.step s) := by
  obtain ⟨text, meaning⟩ := s
  have hopen : (earlier.behind p).open? = p.open? := rfl
  have hignore := behind_ignore earlier p text
  simp only [Progress.step, hopen]
  cases meaning with
  | importPath path => simp [Progress.behind]
  | service title version => exact absurd rfl (h title version)
  | namespaceHeader name =>
      cases name with
      | none => rfl
      | some name =>
          rw [behind_close]
          rfl
  | modelHeader model =>
      cases p.open? with
      | none => cases model <;> exact hignore
      | some n => cases model <;> rfl
  | property property =>
      cases p.open? with
      | none => exact hignore
      | some n =>
          cases hmodel : n.model? with
          | none => simpa [hmodel] using hignore
          | some m => simp [hmodel, Progress.behind]
  | closing =>
      cases p.open? with
      | none => exact hignore
      | some n =>
          cases hmodel : n.model? with
          | none => simpa [hmodel] using behind_close earlier p
          | some m => simp [hmodel, Progress.behind]
  | other => exact hignore

/-- Lines without service blocks do behind an earlier part what they do alone. -/
theorem foldl_step_behind (earlier p : Progress) {ls : List (List Char)}
    (h : ∀ line ∈ ls, isServiceStart line = false) :
    (statements ls).foldl Progress.step (earlier.behind p) =
      earlier.behind ((statements ls).foldl Progress.step p) := by
  induction ls generalizing p with
  | nil => rfl
  | cons line rest ih =>
      have hline := h line List.mem_cons_self
      rw [statements, hline, if_neg (by simp), List.foldl_cons, List.foldl_cons,
        step_behind earlier p (meaningOf_ne_service line),
        ih _ fun l hl => h l (List.mem_cons_of_mem _ hl)]

/-! ## Joining in parts -/

/-- The models of the namespace with a name, if there is one. -/
def modelsOf (name : String) (ns : List Namespace) : List Model :=
  ((ns.find? (·.name = name)).map (·.models)).getD []

/-- Namespaces behind which later ones are declared: each one is continued by the models of the
later one with its name, and the later ones with new names follow. -/
def continued (ns later : List Namespace) : List Namespace :=
  ns.map (fun n => { n with models := n.models ++ modelsOf n.name later }) ++
    later.filter fun n => n.name ∉ namespaceNames ns

/-- A namespace that declares nothing but models. -/
def Namespace.HoldsModels (n : Namespace) : Prop :=
  n = ⟨n.name, n.models, [], [], none⟩

theorem Namespace.Reread.holdsModels {n : Namespace} (h : n.Reread) : n.HoldsModels := by
  have hkept := h.kept
  obtain ⟨name, models, operations, imports, description⟩ := n
  simp only [Namespace.kept, Namespace.mk.injEq, true_and] at hkept
  obtain ⟨-, rfl, rfl, rfl⟩ := hkept
  rfl

theorem Namespace.HoldsModels.join {m n : Namespace} (hm : m.HoldsModels) (hn : n.HoldsModels) :
    Namespace.HoldsModels
      { m with models := m.models ++ n.models, operations := m.operations ++ n.operations } := by
  rw [hm, hn]
  rfl

theorem modelsOf_eq_modelsNamed {ns : List Namespace} (h : (namespaceNames ns).Nodup)
    (name : String) : modelsOf name ns = modelsNamed name ns := by
  unfold modelsOf
  cases hfind : ns.find? (·.name = name) with
  | none =>
      have habsent : name ∉ namespaceNames ns := by
        intro hmem
        obtain ⟨n, hn, hname⟩ := List.mem_map.1 hmem
        simpa [hname] using List.find?_eq_none.1 hfind n hn
      rw [modelsNamed_of_not_mem habsent]
      rfl
  | some n =>
      obtain rfl : n.name = name := by simpa using List.find?_some hfind
      rw [modelsNamed_of_nodup h (List.mem_of_find?_eq_some hfind)]
      rfl

/-- Namespaces with distinct names that declare only models are known by their names and models. -/
theorem eq_map_modelsNamed {ns : List Namespace} (hmodelsOnly : ∀ n ∈ ns, n.HoldsModels)
    (hnodup : (namespaceNames ns).Nodup) :
    ns = (namespaceNames ns).map fun name => ⟨name, modelsNamed name ns, [], [], none⟩ := by
  have hself : ∀ n ∈ ns, (⟨n.name, modelsNamed n.name ns, [], [], none⟩ : Namespace) = n := by
    intro n hn
    rw [modelsNamed_of_nodup hnodup hn]
    exact (hmodelsOnly n hn).symm
  rw [namespaceNames, List.map_map]
  exact ((List.map_congr_left hself).trans (List.map_id' ns)).symm

theorem holdsModels_continued {ns later : List Namespace} (hns : ∀ n ∈ ns, n.HoldsModels)
    (hlater : ∀ n ∈ later, n.HoldsModels) : ∀ n ∈ continued ns later, n.HoldsModels := by
  intro n hn
  rcases List.mem_append.1 hn with hn | hn
  · obtain ⟨m, hm, rfl⟩ := List.mem_map.1 hn
    rw [hns m hm]
    rfl
  · exact hlater n (List.mem_of_mem_filter hn)

theorem namespaceNames_continued (ns later : List Namespace) :
    namespaceNames (continued ns later) =
      namespaceNames ns ++ (namespaceNames later).filter (· ∉ namespaceNames ns) := by
  simp [continued, namespaceNames, List.filter_map, Function.comp_def]

theorem modelsNamed_map_continued (name : String) (later : List Namespace) {ns : List Namespace}
    (h : (namespaceNames ns).Nodup) :
    modelsNamed name (ns.map fun n => { n with models := n.models ++ modelsOf n.name later }) =
      modelsNamed name ns ++ if name ∈ namespaceNames ns then modelsOf name later else [] := by
  induction ns with
  | nil => rfl
  | cons n ns ih =>
      obtain ⟨hn, hns⟩ := List.nodup_cons.1 h
      rw [List.map_cons, modelsNamed_cons, modelsNamed_cons, ih hns]
      by_cases hname : n.name = name
      · subst hname
        simp [modelsNamed_of_not_mem hn, show n.name ∉ namespaceNames ns from hn]
      · have hne : ¬ name = n.name := fun heq => hname heq.symm
        simp [hname, hne]

theorem modelsNamed_filter (name : String) (names : List String) (ns : List Namespace) :
    modelsNamed name (ns.filter fun n => n.name ∉ names) =
      if name ∈ names then [] else modelsNamed name ns := by
  split
  · next hmem =>
    apply modelsNamed_of_not_mem
    intro hshown
    obtain ⟨n, hn, rfl⟩ := List.mem_map.1 hshown
    have hnew : n.name ∉ names := by simpa using List.of_mem_filter hn
    exact hnew hmem
  · next hmem =>
    unfold modelsNamed
    rw [List.filter_filter]
    congr 1
    apply List.filter_congr
    intro n _
    by_cases hname : n.name = name
    · simp [hname, hmem]
    · simp [hname]

theorem modelsNamed_continued (name : String) {ns later : List Namespace}
    (hns : (namespaceNames ns).Nodup) (hlater : (namespaceNames later).Nodup) :
    modelsNamed name (continued ns later) = modelsNamed name ns ++ modelsNamed name later := by
  rw [continued, modelsNamed_append, modelsNamed_map_continued name later hns, modelsNamed_filter,
    modelsOf_eq_modelsNamed hlater]
  split <;> simp

theorem filter_eraseDups (p : String → Bool) (names : List String) :
    names.eraseDups.filter p = (names.filter p).eraseDups := by
  induction hlength : names.length using Nat.strong_induction_on generalizing names with
  | _ k ih =>
      cases names with
      | nil => rfl
      | cons name names =>
          have hshort : (names.filter fun other => !other == name).length < k := by
            have := List.length_filter_le (fun other => !other == name) names
            rw [List.length_cons] at hlength
            omega
          rw [List.eraseDups_cons, List.filter_cons, List.filter_cons, ih _ hshort _ rfl,
            List.filter_filter]
          split
          · rw [List.eraseDups_cons, List.filter_filter]
            simp only [Bool.and_comm]
          · next hname =>
            congr 1
            apply List.filter_congr
            intro other _
            by_cases hother : other = name
            · subst hother
              simp [hname]
            · simp [hother]

/-- Joining namespaces in two parts and the second behind the first is joining them at once. -/
theorem mergeNamespaces_append {a b : List Namespace} (ha : ∀ n ∈ a, n.HoldsModels)
    (hb : ∀ n ∈ b, n.HoldsModels) :
    mergeNamespaces (a ++ b) = continued (mergeNamespaces a) (mergeNamespaces b) := by
  have hnames : namespaceNames (mergeNamespaces (a ++ b)) =
      namespaceNames (continued (mergeNamespaces a) (mergeNamespaces b)) := by
    have hsplit : namespaceNames (a ++ b) = namespaceNames a ++ namespaceNames b :=
      List.map_append
    rw [namespaceNames_continued, namespaceNames_mergeNamespaces, namespaceNames_mergeNamespaces,
      namespaceNames_mergeNamespaces, filter_eraseDups, hsplit, List.eraseDups_append]
    simp only [List.mem_eraseDups, List.removeAll, List.elem_eq_mem]
    simp
  have hmodels : ∀ name, modelsNamed name (mergeNamespaces (a ++ b)) =
      modelsNamed name (continued (mergeNamespaces a) (mergeNamespaces b)) := by
    intro name
    rw [modelsNamed_continued name (nodup_mergeNamespaces a) (nodup_mergeNamespaces b)]
    simp only [modelsNamed_mergeNamespaces, modelsNamed_append]
  have hmodelsOnly : ∀ {ns : List Namespace}, (∀ n ∈ ns, n.HoldsModels) →
      ∀ n ∈ mergeNamespaces ns, n.HoldsModels :=
    mergeNamespaces_forall fun m n hm hn => hm.join hn
  have hjoined := eq_map_modelsNamed (hmodelsOnly (List.forall_mem_append.2 ⟨ha, hb⟩))
    (nodup_mergeNamespaces (a ++ b))
  have hparts := eq_map_modelsNamed (holdsModels_continued (hmodelsOnly ha) (hmodelsOnly hb))
    (hnames ▸ nodup_mergeNamespaces (a ++ b))
  rw [hjoined, hparts, hnames]
  simp only [hmodels]

/-! ## Joined texts -/

theorem close_eq_self {p : Progress} (h : p.open? = none) : p.close = p := by
  obtain ⟨imports, namespaces, open?, title, version, ignored⟩ := p
  subst h
  simp [Progress.close]

theorem trimmedLines_joined (first second : String) :
    trimmedLines (first ++ "\n" ++ second).toList =
      trimmedLines first.toList ++ trimmedLines second.toList := by
  have htext : (first ++ "\n" ++ second).toList = first.toList ++ '\n' :: second.toList := by
    simp
  rw [htext, trimmedLines_append_boundary (by decide)]

section

variable {first second : String}

/-- At the seam the reader has closed what the first text opens, and knows nothing else. -/
theorem readSource_joined
    (hfirst : ∀ line ∈ trimmedLines first.toList, isServiceStart line = false)
    (hsecond : ∀ line ∈ trimmedLines second.toList, isServiceStart line = false)
    (hclosed : (readSoFar first).open? = none) :
    readSource (first ++ "\n" ++ second) = (readSource first).behind (readSource second) := by
  have hread := foldl_step_behind (readSoFar first) .start hsecond
  rw [behind_start hclosed] at hread
  have hjoined : readSoFar (first ++ "\n" ++ second) =
      (readSoFar first).behind (readSoFar second) := by
    rw [readSoFar, trimmedLines_joined, statements_append hfirst, List.foldl_append]
    exact hread
  rw [readSource_eq_close, hjoined, behind_close, readSource_eq_close first, close_eq_self hclosed]
  rfl

/-- Where the first of two texts leaves no namespace open, reading them joined gives what reading
each of them gives: the imports of both, the namespaces of the first text, each continued by the
models that the second one declares under its name, and behind them the other namespaces of the
second text. -/
theorem read_joined
    (hfirst : ∀ line ∈ trimmedLines first.toList, isServiceStart line = false)
    (hsecond : ∀ line ∈ trimmedLines second.toList, isServiceStart line = false)
    (hclosed : (readSoFar first).open? = none) :
    ∃ d e, Definition.read first = .valid d ∧ Definition.read second = .valid e ∧
      Definition.read (first ++ "\n" ++ second) =
        .valid
          { d with
            imports := d.imports ++ e.imports
            namespaces := continued d.namespaces e.namespaces } := by
  have hmodelsOnly : ∀ source, ∀ n ∈ (readSource source).namespaces, n.HoldsModels :=
    fun source n hn => ((readSource_reread source).namespaces n hn).holdsModels
  have hnamespaces := mergeNamespaces_append (hmodelsOnly first) (hmodelsOnly second)
  refine ⟨_, _, read_eq_valid first, read_eq_valid second, ?_⟩
  rw [read_eq_valid, readSource_joined hfirst hsecond hclosed]
  simp only [Progress.definition, Progress.behind, hnamespaces]

end

/-- A text with a namespace that it reopens itself and closes, and lines outside of it. -/
def storeLines : List String :=
  ["import \"http\";", "namespace Shop \x7b", "  model Book \x7b", "    id: string;",
    "namespace Stock \x7b", "\x7d", "stray: line", "\x7d", "namespace Shop \x7b",
    "  model Author \x7b", "  \x7d", "\x7d"]

/-- A text that reopens both namespaces in the other order, and closes none of its blocks. -/
def supplementLines : List String :=
  ["model Lost \x7b", "import \"rest\";", "namespace Stock \x7b", "  model Shelf \x7b",
    "    place: int32", "namespace Staff \x7b", "  model Clerk extends Person \x7b", "  \x7d",
    "namespace Shop \x7b", "  model Order \x7b", "    books: Book[]"]

def storeSource : String :=
  "\n".intercalate storeLines

def supplementSource : String :=
  "\n".intercalate supplementLines

theorem read_joined_storeSource :
    (∀ line ∈ trimmedLines storeSource.toList, isServiceStart line = false) ∧
      (∀ line ∈ trimmedLines supplementSource.toList, isServiceStart line = false) ∧
      (readSoFar storeSource).open? = none ∧
      ∃ d, Definition.read (storeSource ++ "\n" ++ supplementSource) = .valid d ∧
        d.imports = ["http", "rest"] ∧
        d.namespaces.map (fun n => (n.name, n.models.map (·.name))) =
          [("Shop", ["Book", "Author", "Order"]), ("Stock", ["Shelf"]), ("Staff", ["Clerk"])] := by
  have hstore : trimmedLines storeSource.toList = shownLines storeLines :=
    trimmedLines_intercalate_text storeLines
  have hsupplement : trimmedLines supplementSource.toList = shownLines supplementLines :=
    trimmedLines_intercalate_text supplementLines
  have hfirst : ∀ line ∈ trimmedLines storeSource.toList, isServiceStart line = false := by
    rw [hstore]
    decide
  have hsecond : ∀ line ∈ trimmedLines supplementSource.toList, isServiceStart line = false := by
    rw [hsupplement]
    decide
  have hclosed : (readSoFar storeSource).open? = none := by
    rw [readSoFar, hstore]
    decide
  obtain ⟨d, e, hd, he, hread⟩ := read_joined hfirst hsecond hclosed
  obtain rfl : (readSource storeSource).definition = d :=
    Checked.valid.inj ((read_eq_valid storeSource).symm.trans hd)
  obtain rfl : (readSource supplementSource).definition = e :=
    Checked.valid.inj ((read_eq_valid supplementSource).symm.trans he)
  refine ⟨hfirst, hsecond, hclosed, _, hread, ?_, ?_⟩
  · rw [readSource, readSource, hstore, hsupplement]
    decide
  · rw [readSource, readSource, hstore, hsupplement]
    decide

end ApiShapes.TypeSpec
