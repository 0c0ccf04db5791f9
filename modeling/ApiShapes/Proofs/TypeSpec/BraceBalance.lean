import ApiShapes.Proofs.TypeSpec.Legible
import ApiShapes.Proofs.TypeSpec.ShownLines
import ApiShapes.TypeSpec.Balance
import Mathlib.Tactic

/-!
# The braces of a rendered source

The braces of a source are counted line by line, and a line that is taken for a comment does not
count.  So what the lines of a definition contribute is added up part by part: headers open a brace,
the line that closes a block closes one, routes hold as many of both as their paths, and no other
line holds a brace, whatever line boundaries the texts in it contain.  A header or a route is never
taken for a comment, because its line starts with its keyword.
-/

namespace ApiShapes.TypeSpec

open Json Text

/-! ## Counting lines -/

theorem count_trim {c : Char} (hc : isBlank c = false) (s : List Char) :
    (trim s).count c = s.count c := by
  have hdrop : ∀ s : List Char, (s.dropWhile isBlank).count c = s.count c := by
    intro s
    have hblank : (s.takeWhile isBlank).count c = 0 :=
      List.count_eq_zero_of_not_mem fun h => by simp [List.mem_takeWhile_imp h] at hc
    conv_rhs => rw [← List.takeWhile_append_dropWhile (p := isBlank) (l := s), List.count_append,
      hblank, Nat.zero_add]
  rw [trim, trimEnd, List.count_reverse, hdrop, List.count_reverse, trimStart, hdrop]

theorem braceExcess_trim (line : List Char) : braceExcess (trim line) = braceExcess line := by
  rw [braceExcess, braceExcess, trim_trim, count_trim (by decide), count_trim (by decide)]

theorem braceDepth_eq_sum (lines : List (List Char)) :
    braceDepth lines = (lines.map braceExcess).sum := by
  rw [braceDepth, List.sum_eq_foldl, List.foldl_map]

/-- Only lines that show can hold braces. -/
theorem braceDepth_lines (s : List Char) :
    braceDepth (lines s) = ((trimmedLines s).map braceExcess).sum := by
  have hempty : braceExcess [] = 0 := by decide
  rw [braceDepth_eq_sum, trimmedLines]
  induction lines s with
  | nil => rfl
  | cons line rest ih =>
      rw [List.map_cons, List.sum_cons, ih, List.map_cons, ← braceExcess_trim line]
      cases htrim : trim line with
      | nil => simp [hempty]
      | cons c t => simp

/-- How far the braces of rendered lines open more than they close. -/
def excess (ls : List String) : Int :=
  ((shownLines ls).map braceExcess).sum

theorem braceDepth_source (d : Definition) :
    braceDepth (lines d.source.toList) = excess d.lines := by
  rw [braceDepth_lines, trimmedLines_source, excess]

@[simp] theorem excess_append (a b : List String) : excess (a ++ b) = excess a + excess b := by
  simp [excess]

@[simp] theorem excess_empty_line : excess [""] = 0 := rfl

@[simp] theorem excess_indent (level : Nat) (l : String) :
    excess [indent level l] = excess [l] := by
  rw [excess, excess, shownLines_cons, shownLines_cons, trimmedLines_indent]

theorem excess_cons (l : String) (ls : List String) : excess (l :: ls) = excess [l] + excess ls :=
  excess_append [l] ls

theorem excess_eq_zero {ls : List String} (h : ∀ l ∈ ls, excess [l] = 0) : excess ls = 0 := by
  induction ls with
  | nil => rfl
  | cons l ls ih =>
      rw [excess_cons, h l List.mem_cons_self, ih fun k hk => h k (List.mem_cons_of_mem _ hk),
        add_zero]

theorem excess_flatMap {α : Type} {f : α → List String} {xs : List α}
    (h : ∀ x ∈ xs, excess (f x) = 0) : excess (xs.flatMap f) = 0 := by
  induction xs with
  | nil => rfl
  | cons x xs ih =>
      rw [List.flatMap_cons, excess_append, h x List.mem_cons_self,
        ih fun y hy => h y (List.mem_cons_of_mem _ hy), add_zero]

/-- The empty line behind each part adds nothing. -/
theorem excess_flatMap_spaced {α : Type} {f : α → List String} {xs : List α}
    (h : ∀ x ∈ xs, excess (f x) = 0) : excess (xs.flatMap fun x => f x ++ [""]) = 0 :=
  excess_flatMap fun x hx => by rw [excess_append, h x hx, excess_empty_line, add_zero]

/-! ## Lines without braces -/

/-- A text without braces. -/
def Braceless (s : List Char) : Prop :=
  '\x7b' ∉ s ∧ '\x7d' ∉ s

instance (s : List Char) : Decidable (Braceless s) :=
  inferInstanceAs (Decidable (_ ∧ _))

theorem Braceless.of_subset {s t : List Char} (ht : Braceless t) (h : s ⊆ t) : Braceless s :=
  ⟨fun hs => ht.1 (h hs), fun hs => ht.2 (h hs)⟩

@[simp] theorem braceless_append {s t : List Char} :
    Braceless (s ++ t) ↔ Braceless s ∧ Braceless t := by
  simp only [Braceless, List.mem_append, not_or]
  exact and_and_and_comm

theorem Braceless.intercalate {joint : List Char} {parts : List (List Char)}
    (hjoint : Braceless joint) (hparts : ∀ part ∈ parts, Braceless part) :
    Braceless (joint.intercalate parts) := by
  constructor
  · intro h
    rcases mem_of_mem_intercalate h with h | ⟨part, hpart, h⟩
    · exact hjoint.1 h
    · exact (hparts part hpart).1 h
  · intro h
    rcases mem_of_mem_intercalate h with h | ⟨part, hpart, h⟩
    · exact hjoint.2 h
    · exact (hparts part hpart).2 h

theorem Braceless.braceExcess {line : List Char} (h : Braceless line) : braceExcess line = 0 := by
  unfold TypeSpec.braceExcess
  rw [List.count_eq_zero_of_not_mem h.1, List.count_eq_zero_of_not_mem h.2]
  simp

theorem excess_of_braceless {l : String} (h : Braceless l.toList) : excess [l] = 0 := by
  rw [excess, shownLines_cons, shownLines_nil, List.append_nil]
  refine List.sum_eq_zero fun n hn => ?_
  obtain ⟨line, hline, rfl⟩ := List.mem_map.1 hn
  exact (h.of_subset (subset_of_mem_trimmedLines hline)).braceExcess

/-- A brace stands for itself in a literal. -/
theorem count_quote {c : Char} (hc : c ∈ ['\x7b', '\x7d']) (s : List Char) :
    (quote s).count c = s.count c := by
  have hquote : ('"' :: escape s ++ ['"']).count c = (escape s).count c := by
    fin_cases hc <;> simp
  rw [quote, hquote]
  fin_cases hc
  · exact count_escape (by decide) (by decide) s
  · exact count_escape (by decide) (by decide) s

theorem braceless_quote {s : List Char} (h : Braceless s) : Braceless (quote s) := by
  refine ⟨List.count_eq_zero.1 ?_, List.count_eq_zero.1 ?_⟩
  · rw [count_quote (by simp), List.count_eq_zero_of_not_mem h.1]
  · rw [count_quote (by simp), List.count_eq_zero_of_not_mem h.2]

/-! ## Lines with braces -/

/-- A line between two visible characters that does not start like a comment counts with all its
braces. -/
theorem excess_between {l : String} {c d : Char} {mid : List Char}
    (hl : l.toList = c :: (mid ++ [d])) (hc : isBlank c = false ∧ c ≠ '/')
    (hd : isBlank d = false) (hmid : OneLine mid) :
    excess [l] = (l.toList.count '\x7b' : Int) - l.toList.count '\x7d' := by
  have hshown := trimmedLines_between hc.1 hd hmid
  have htrim : trim (c :: (mid ++ [d])) = c :: (mid ++ [d]) :=
    (mem_trimmedLines (hshown ▸ List.mem_singleton_self _)).2.1
  have hcode : startsWith ['/', '/'] (c :: (mid ++ [d])) = false := by
    rw [startsWith_eq_false_iff]
    exact fun h => hc.2 (List.cons_prefix_cons.1 h).1.symm
  rw [excess, shownLines_cons, shownLines_nil, List.append_nil, hl, hshown, List.map_singleton,
    List.sum_singleton, braceExcess, htrim, hcode]
  rfl

theorem excess_closing : excess ["\x7d"] = -1 := by
  decide

/-- A text that can stand before the brace of a header. -/
@[mk_iff]
structure HeaderText (s : List Char) : Prop where
  oneLine : OneLine s
  braceless : Braceless s

instance (s : List Char) : Decidable (HeaderText s) :=
  decidable_of_iff' _ (headerText_iff s)

theorem HeaderText.append {s t : List Char} (hs : HeaderText s) (ht : HeaderText t) :
    HeaderText (s ++ t) :=
  ⟨hs.oneLine.append ht.oneLine, braceless_append.2 ⟨hs.braceless, ht.braceless⟩⟩

theorem excess_header {l : String} {c : Char} {header : List Char}
    (hl : l.toList = c :: header ++ [' ', '\x7b']) (hc : isBlank c = false ∧ c ≠ '/')
    (h : HeaderText (c :: header)) : excess [l] = 1 := by
  have hbetween : l.toList = c :: (header ++ [' '] ++ ['\x7b']) := by
    rw [hl]
    simp
  have hmid : OneLine (header ++ [' ']) :=
    (h.oneLine.of_subset (List.subset_cons_self c header)).append (by decide)
  rw [excess_between hbetween hc (by decide) hmid, hl, List.count_append, List.count_append,
    List.count_eq_zero_of_not_mem h.braceless.1, List.count_eq_zero_of_not_mem h.braceless.2]
  rfl

theorem excess_routeLine {path : String} (hlines : ∀ c ∈ path.toList, c ∉ literalBoundaries)
    (hbraces : path.toList.count '\x7b' = path.toList.count '\x7d') :
    excess ["@route(" ++ literal (.text path) ++ ")"] = 0 := by
  have hline : ("@route(" ++ literal (.text path) ++ ")").toList =
      '@' :: ("route(".toList ++ quote path.toList ++ [')']) := by
    rw [String.toList_append, String.toList_append, literal, toList_writeLine_text]
    rfl
  have hcount : ∀ b ∈ ['\x7b', '\x7d'],
      ('@' :: ("route(".toList ++ quote path.toList ++ [')'])).count b = path.toList.count b := by
    intro b hb
    have hrest : ('@' :: "route(".toList).count b = 0 ∧ [')'].count b = 0 := by
      fin_cases hb <;> decide
    rw [← List.cons_append, ← List.cons_append, List.count_append, List.count_append,
      count_quote hb, hrest.1, hrest.2, Nat.zero_add, Nat.add_zero]
  have hopen : OneLine "route(".toList := by decide
  rw [excess_between hline (by decide) (by decide) (hopen.append (oneLine_quote hlines)), hline,
    hcount _ (by simp), hcount _ (by simp), hbraces, sub_self]

/-! ## Definitions without stray braces -/

@[mk_iff]
structure Property.Balanced (p : Property) : Prop where
  name : Braceless p.name.toList
  type : Braceless p.type.toList
  comment : ∀ s ∈ p.description, Braceless s.toList

@[mk_iff]
structure Decorator.Balanced (d : Decorator) : Prop where
  name : Braceless d.name.toList
  arguments : ∀ v ∈ d.arguments, ∃ s, v = .text s ∧ Braceless s.toList

@[mk_iff]
structure Model.Balanced (m : Model) : Prop where
  name : HeaderText m.name.toList
  bases : ∀ b ∈ m.bases, HeaderText b.toList
  properties : ∀ p ∈ m.properties, p.Balanced
  comment : ∀ s ∈ m.description, Braceless s.toList
  decorators : ∀ d ∈ m.decorators, d.Balanced

/-- Only the path of an operation has braces, as many opening as closing ones. -/
@[mk_iff]
structure Operation.Balanced (o : Operation) : Prop where
  name : Braceless o.name.toList
  path : o.path.toList.count '\x7b' = o.path.toList.count '\x7d'
  path_lines : ∀ c ∈ o.path.toList, c ∉ literalBoundaries
  parameters : ∀ p ∈ o.parameters, Braceless p.name.toList ∧ Braceless p.type.toList
  responses : ∀ r ∈ o.responses, ∀ type ∈ r.type, Braceless type.toList
  comment : ∀ s ∈ o.description, Braceless s.toList
  decorators : ∀ d ∈ o.decorators, d.Balanced

@[mk_iff]
structure Namespace.Balanced (n : Namespace) : Prop where
  name : HeaderText n.name.toList
  models : ∀ m ∈ n.models, m.Balanced
  operations : ∀ o ∈ n.operations, o.Balanced
  imports : ∀ path ∈ n.imports, Braceless path.toList
  comment : ∀ s ∈ n.description, Braceless s.toList

@[mk_iff]
structure Definition.Balanced (d : Definition) : Prop where
  namespaces : ∀ n ∈ d.namespaces, n.Balanced
  imports : ∀ path ∈ d.imports, Braceless path.toList
  title : ∀ t ∈ d.title, Braceless t.toList
  version : ∀ v ∈ d.version, Braceless v.toList

instance (p : Property) : Decidable p.Balanced :=
  decidable_of_iff' _ (Property.balanced_iff p)

instance (d : Decorator) : Decidable d.Balanced :=
  decidable_of_iff' _ (Decorator.balanced_iff d)

instance (m : Model) : Decidable m.Balanced :=
  decidable_of_iff' _ (Model.balanced_iff m)

instance (o : Operation) : Decidable o.Balanced :=
  decidable_of_iff' _ (Operation.balanced_iff o)

instance (n : Namespace) : Decidable n.Balanced :=
  decidable_of_iff' _ (Namespace.balanced_iff n)

instance (d : Definition) : Decidable d.Balanced :=
  decidable_of_iff' _ (Definition.balanced_iff d)

/-! ## The parts of a source -/

theorem excess_commentLines (level : Nat) {description : Option String}
    (h : ∀ s ∈ description, Braceless s.toList) : excess (commentLines level description) = 0 := by
  cases description with
  | none => rfl
  | some s =>
      rw [commentLines]
      split
      · rfl
      · rw [excess_indent]
        apply excess_of_braceless
        simp only [String.toList_append, braceless_append]
        exact ⟨⟨by decide, h s rfl⟩, by decide⟩

theorem excess_importLines {imports : List String}
    (h : ∀ path ∈ imports, Braceless path.toList) : excess (importLines imports) = 0 := by
  rw [importLines]
  split
  · rfl
  · rw [excess_append, excess_empty_line, add_zero]
    refine excess_eq_zero fun l hl => excess_of_braceless ?_
    obtain ⟨path, hpath, rfl⟩ := List.mem_map.1 hl
    simp only [String.toList_append, braceless_append]
    exact ⟨⟨by decide, h path hpath⟩, by decide⟩

theorem braceless_literal {s : String} (h : Braceless s.toList) :
    Braceless (literal (.text s)).toList := by
  rw [literal, toList_writeLine_text]
  exact braceless_quote h

theorem excess_serviceLines {title version : Option String}
    (htitle : ∀ t ∈ title, Braceless t.toList) (hversion : ∀ v ∈ version, Braceless v.toList) :
    excess (serviceLines title version) = 0 := by
  have hopen : excess ["@service(\x7b"] = 1 := by decide
  have hclose : excess ["\x7d)"] = -1 := by decide
  cases title with
  | none => rfl
  | some title =>
      have htitleLine : excess [indent 1 ("title: " ++ literal (.text title) ++ ",")] = 0 := by
        rw [excess_indent]
        apply excess_of_braceless
        simp only [String.toList_append, braceless_append]
        exact ⟨⟨by decide, braceless_literal (htitle title rfl)⟩, by decide⟩
      have hversionLine : excess [indent 1 ("version: " ++ literal (.text (version.getD "")))] =
          0 := by
        rw [excess_indent]
        apply excess_of_braceless
        rw [String.toList_append, braceless_append]
        refine ⟨by decide, braceless_literal ?_⟩
        cases version with
        | none => decide
        | some version => exact hversion version rfl
      rw [serviceLines]
      split
      · rfl
      · rw [excess_append, excess_append, excess_cons, hopen, htitleLine, hclose]
        split
        · rw [hversionLine]
          rfl
        · rfl

theorem Decorator.Balanced.braceless {d : Decorator} (h : d.Balanced) :
    Braceless d.source.toList := by
  rw [Decorator.source]
  split
  · rw [String.toList_append, braceless_append]
    exact ⟨by decide, h.name⟩
  · have hcomma : Braceless ", ".toList := by decide
    simp only [String.toList_append, braceless_append, String.toList_intercalate]
    refine ⟨⟨⟨⟨by decide, h.name⟩, by decide⟩, hcomma.intercalate ?_⟩, by decide⟩
    intro part hpart
    obtain ⟨l, hl, rfl⟩ := List.mem_map.1 hpart
    obtain ⟨v, hv, rfl⟩ := List.mem_map.1 hl
    obtain ⟨s, rfl, hs⟩ := h.arguments v hv
    exact braceless_literal hs

theorem excess_decoratorLines (level : Nat) {decorators : List Decorator}
    (h : ∀ d ∈ decorators, d.Balanced) :
    excess (decorators.map fun d => indent level d.source) = 0 := by
  refine excess_eq_zero fun l hl => ?_
  obtain ⟨d, hd, rfl⟩ := List.mem_map.1 hl
  rw [excess_indent]
  exact excess_of_braceless (h d hd).braceless

theorem Property.Balanced.excess_lines {p : Property} (h : p.Balanced) (level : Nat) :
    excess (p.lines level) = 0 := by
  have hmark : Braceless (if p.optional then "?" else "").toList := by
    split <;> decide
  rw [Property.lines, excess_append, excess_commentLines level h.comment, excess_indent, zero_add]
  apply excess_of_braceless
  simp only [String.toList_append, braceless_append]
  exact ⟨⟨⟨⟨h.name, hmark⟩, by decide⟩, h.type⟩, by decide⟩

/-- The header opens a brace and the last line closes it. -/
theorem Model.Balanced.excess_lines {m : Model} (h : m.Balanced) (level : Nat) :
    excess (m.lines level) = 0 := by
  have hbases : HeaderText (if m.bases.isEmpty then "" else
      " extends " ++ ", ".intercalate m.bases).toList := by
    split
    · decide
    · have hparts : ∀ part ∈ m.bases.map String.toList, HeaderText part := by
        simpa using h.bases
      rw [String.toList_append, String.toList_intercalate]
      refine HeaderText.append (by decide) ⟨?_, ?_⟩
      · exact OneLine.intercalate (by decide) fun part hpart => (hparts part hpart).oneLine
      · exact Braceless.intercalate (by decide) fun part hpart => (hparts part hpart).braceless
  have hheader : excess ["model " ++ m.name ++ (if m.bases.isEmpty then "" else
      " extends " ++ ", ".intercalate m.bases) ++ " \x7b"] = 1 := by
    have hkeyword : HeaderText "model ".toList := by decide
    refine excess_header (c := 'm') ?_ (by decide) ((hkeyword.append h.name).append hbases)
    simp only [String.toList_append]
    rfl
  have hproperties : excess (m.properties.flatMap (·.lines (level + 1))) = 0 :=
    excess_flatMap fun p hp => (h.properties p hp).excess_lines (level + 1)
  simp only [Model.lines, excess_append, excess_commentLines level h.comment,
    excess_decoratorLines level h.decorators, excess_indent, hheader, hproperties, excess_closing]
  rfl

theorem Operation.Balanced.excess_lines {o : Operation} (h : o.Balanced) (level : Nat) :
    excess (o.lines level) = 0 := by
  have hmethod : excess ["@" ++ o.method.name] = 0 := by
    cases o.method <;> decide
  have hsignature : excess ["op " ++ o.name ++ "(" ++
      ", ".intercalate (o.parameters.map fun p => p.name ++ ": " ++ p.type) ++ "): " ++
        o.resultType ++ ";"] = 0 := by
    have hcomma : Braceless ", ".toList := by decide
    apply excess_of_braceless
    simp only [String.toList_append, braceless_append, String.toList_intercalate]
    refine ⟨⟨⟨⟨⟨⟨by decide, h.name⟩, by decide⟩, hcomma.intercalate ?_⟩, by decide⟩, ?_⟩, by decide⟩
    · intro part hpart
      obtain ⟨l, hl, rfl⟩ := List.mem_map.1 hpart
      obtain ⟨p, hp, rfl⟩ := List.mem_map.1 hl
      simp only [String.toList_append, braceless_append]
      exact ⟨⟨(h.parameters p hp).1, by decide⟩, (h.parameters p hp).2⟩
    · exact resultType_induction (P := fun t => Braceless t.toList) (by decide) h.responses
  simp only [Operation.lines, excess_append, excess_commentLines level h.comment,
    excess_decoratorLines level h.decorators, excess_cons (indent _ _) (_ :: _), excess_indent,
    excess_routeLine h.path_lines h.path, hmethod, hsignature]
  rfl

theorem Namespace.Balanced.excess_lines {n : Namespace} (h : n.Balanced) :
    excess n.lines = 0 := by
  have hheader : excess ["namespace " ++ n.name ++ " \x7b"] = 1 := by
    have hkeyword : HeaderText "namespace ".toList := by decide
    refine excess_header (c := 'n') ?_ (by decide) (hkeyword.append h.name)
    simp only [String.toList_append]
    rfl
  have hmodels : excess (n.models.flatMap fun m => m.lines 1 ++ [""]) = 0 :=
    excess_flatMap_spaced fun m hm => (h.models m hm).excess_lines 1
  have hoperations : excess (n.operations.flatMap fun o => o.lines 1 ++ [""]) = 0 :=
    excess_flatMap_spaced fun o ho => (h.operations o ho).excess_lines 1
  simp only [Namespace.lines, excess_append, excess_importLines h.imports, hheader,
    excess_commentLines 1 h.comment, hmodels, hoperations, excess_closing]
  rfl

theorem Definition.Balanced.excess_lines {d : Definition} (h : d.Balanced) :
    excess d.lines = 0 := by
  rw [Definition.lines, excess_append, excess_append, excess_importLines h.imports,
    excess_serviceLines h.title h.version,
    excess_flatMap_spaced fun n hn => (h.namespaces n hn).excess_lines]
  rfl

/-- The line that closes a namespace shows, so a source with a namespace is not blank. -/
theorem trim_source_ne_nil {d : Definition} (h : d.namespaces ≠ []) :
    trim d.source.toList ≠ [] := by
  obtain ⟨n, hn⟩ := List.exists_mem_of_ne_nil d.namespaces h
  have hline : "\x7d" ∈ d.lines := by
    rw [Definition.lines, List.mem_append, List.mem_flatMap]
    exact Or.inr ⟨n, hn, by simp [Namespace.lines]⟩
  have hshown : ['\x7d'] ∈ trimmedLines d.source.toList := by
    rw [trimmedLines_source]
    exact List.mem_flatMap.2 ⟨_, hline, by decide⟩
  intro hblank
  rw [← trimmedLines_trim, hblank] at hshown
  simp at hshown

/-- A rendered source is not empty and its braces balance. -/
theorem validateSource_source {d : Definition} (hne : d.namespaces ≠ []) (h : d.Balanced) :
    validateSource d.source = [] := by
  have hshown : (trim d.source.toList).isEmpty = false := by
    simpa using trim_source_ne_nil hne
  have hdepth : braceDepth (lines d.source.toList) = 0 := by
    rw [braceDepth_source, h.excess_lines]
  have hfault : balanceFault? d.source = none := by
    simp [balanceFault?, hshown, hdepth]
  rw [validateSource, hfault]
  rfl

/-- A definition whose comments and types run over lines that look like comments, and whose paths
have braces. -/
def readingRoom : Definition :=
  { namespaces :=
      [{ name := "Reading Room"
         models :=
          [{ name := "//Seat"
             properties := [⟨"// free", "boolean\n// or not", true, some "*/\u2028at all", none⟩]
             bases := ["Item"]
             description := some "A seat.\r\n// By the window."
             decorators := [⟨"doc", [.text "by\u0085day", .text "\\"]⟩] }]
         operations :=
          [{ name := "reserve"
             method := .post
             path := "/seats/\x7bseat\x7d/\x7bday\x7d//\n"
             parameters := [⟨"seat", .path, "int32", true, none⟩]
             requestBody := none
             responses := [⟨.code 200, some "Seat", none, none⟩]
             description := none
             decorators := [] }]
         imports := ["./items.tsp"]
         description := none }]
    imports := []
    title := some "Reading\nroom"
    version := none
    description := none }

theorem validateSource_source_readingRoom :
    readingRoom.namespaces ≠ [] ∧ readingRoom.Balanced ∧
      validateSource readingRoom.source = [] := by
  have hne : readingRoom.namespaces ≠ [] := by simp [readingRoom]
  have hbalanced : readingRoom.Balanced := by decide
  exact ⟨hne, hbalanced, validateSource_source hne hbalanced⟩

end ApiShapes.TypeSpec
