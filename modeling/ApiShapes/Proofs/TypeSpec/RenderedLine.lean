import ApiShapes.Proofs.Text.JoinedLines
import ApiShapes.Proofs.Text.Occurrence
import ApiShapes.TypeSpec.Statement
import Mathlib.Tactic

/-!
# What rendered lines declare

Each kind of line that a source is rendered to declares what it was rendered from: an import its
path, a header its name and bases, a property its name, its mark and its type.  The conditions are
those that the characters of the line's own syntax put on the texts between them.
-/

namespace ApiShapes.TypeSpec

open Text

/-! ## Imports -/

def importLine (path : List Char) : List Char :=
  "import \"".toList ++ (path ++ "\";".toList)

/-- A path is read up to the last quote of its line, so it can hold quotes itself. -/
theorem meaningOf_importLine {path : List Char} (hpath : path ≠ []) :
    meaningOf (importLine path) = .importPath (some (String.ofList path)) := by
  have hstart : startsWith "import ".toList (importLine path) = true := rfl
  have hcut : cut? "import \"".toList (importLine path) = some ([], path ++ "\";".toList) :=
    cut?_eq_some_of_first [] fun t ht hne _ => hne (List.suffix_nil.1 ht)
  have hlast : beforeLast? "\";".toList (path ++ "\";".toList) = some path :=
    beforeLast?_append_self (by decide) path
  have hfilled : path.isEmpty = false := by simpa using hpath
  rw [meaningOf, if_pos hstart, importPath?, hcut]
  simp only [Option.bind_eq_bind, Option.bind_some, hlast, hfilled, Bool.false_eq_true, if_false,
    Option.map_some]

/-! ## Headers -/

def headerLine (keyword header : List Char) : List Char :=
  keyword ++ ' ' :: (header ++ [' ', '\x7b'])

/-- The name of a header runs to its brace; of a header without a name one of the two blanks is
left. -/
theorem headerName?_rendered {header : List Char} (htrim : trimStart header = header)
    (hbrace : '\x7b' ∉ header) :
    headerName? (' ' :: (header ++ [' ', '\x7b'])) = some (header ++ [' ']) := by
  cases header with
  | nil => rfl
  | cons c rest =>
      have hc : isBlank c = false := by
        refine head?_trimStart (s := c :: rest) ?_
        rw [htrim]
        rfl
      have hblank : isBlank ' ' = true := by decide
      have hnot : ∀ d ∈ c :: (rest ++ [' ']), (d != '\x7b') = true := by
        intro d hd
        rw [← List.cons_append, List.mem_append, List.mem_singleton] at hd
        rw [bne_iff_ne]
        rintro rfl
        exact hd.elim hbrace (by decide)
      have htake : (c :: (rest ++ [' ', '\x7b'])).takeWhile (· != '\x7b') =
          c :: (rest ++ [' ']) := by
        have hsplit : c :: (rest ++ [' ', '\x7b']) = c :: (rest ++ [' ']) ++ ['\x7b'] := by simp
        rw [hsplit, List.takeWhile_append_of_pos hnot]
        simp
      simp [headerName?, hblank, hc, htake]

theorem findHeader_rendered {keyword header : List Char} (hkeyword : keyword ≠ [])
    (htrim : trimStart header = header) (hbrace : '\x7b' ∉ header) :
    findHeader keyword (headerLine keyword header) = some (header ++ [' ']) := by
  cases keyword with
  | nil => exact absurd rfl hkeyword
  | cons k keyword =>
      have hafter := afterPrefix?_append (k :: keyword) (' ' :: (header ++ [' ', '\x7b']))
      rw [List.cons_append] at hafter
      rw [headerLine, List.cons_append, findHeader, hafter, Option.bind_some,
        headerName?_rendered htrim hbrace]

theorem meaningOf_namespaceLine {name : List Char} (htrim : trim name = name)
    (hbrace : '\x7b' ∉ name) :
    meaningOf (headerLine "namespace".toList name) =
      .namespaceHeader (some (String.ofList name)) := by
  have hstart : startsWith "namespace ".toList (headerLine "namespace".toList name) = true := rfl
  have hother : startsWith "import ".toList (headerLine "namespace".toList name) = false := rfl
  have hname : trim (name ++ [' ']) = name := by
    rw [trim_append_blank name (by decide), htrim]
  rw [meaningOf, hother, if_neg (by simp), if_pos hstart,
    findHeader_rendered (by decide) (trimStart_of_trim htrim) hbrace, Option.map_some, hname]

theorem meaningOf_modelLine {header : List Char} (htrim : trimStart header = header)
    (hbrace : '\x7b' ∉ header) :
    meaningOf (headerLine "model".toList header) =
      .modelHeader (some (openModel (header ++ [' ']))) := by
  have hstart : startsWith "model ".toList (headerLine "model".toList header) = true := rfl
  have himport : startsWith "import ".toList (headerLine "model".toList header) = false := rfl
  have hnamespace : startsWith "namespace ".toList (headerLine "model".toList header) = false := rfl
  rw [meaningOf, himport, hnamespace, if_neg (by simp), if_neg (by simp), if_pos hstart,
    findHeader_rendered (by decide) htrim hbrace, Option.map_some]

/-! ## Names and bases -/

def extendsKey : List Char := [' ', 'e', 'x', 't', 'e', 'n', 'd', 's', ' ']

/-- The text of a model header between its keyword and its brace. -/
def modelHeader (name : List Char) (bases : List (List Char)) : List Char :=
  name ++ if bases.isEmpty then [] else extendsKey ++ [',', ' '].intercalate bases

/-- The bases are split off where they were joined, if the name does not contain the word that
introduces them or end in it. -/
theorem cut?_extends {name : List Char} (hname : ¬ extendsKey <:+: name ++ [' '])
    (bases : List Char) :
    cut? extendsKey (name ++ (extendsKey ++ bases)) = some (name, bases) := by
  refine cut?_eq_some_of_first _ fun t ht hne hstarts => ?_
  rcases Nat.lt_or_ge t.length 8 with hshort | hlong
  · -- the word would have to start again within itself
    have hdrop := hstarts.drop t.length
    rw [List.drop_left] at hdrop
    have hpos : 0 < t.length := List.length_pos_iff.2 hne
    generalize t.length = n at hdrop hshort hpos
    interval_cases n <;> simp [extendsKey] at hdrop
  · have hend : t ++ [' '] <+: t ++ (extendsKey ++ bases) := by
      rw [List.prefix_append_right_inj]
      exact ⟨extendsKey.tail ++ bases, rfl⟩
    have hinner : extendsKey <+: t ++ [' '] :=
      List.prefix_of_prefix_length_le hstarts hend (by simp [extendsKey]; omega)
    obtain ⟨pre, rfl⟩ := ht
    refine hname (hinner.isInfix.trans ?_)
    rw [List.append_assoc]
    exact (List.suffix_append pre _).isInfix

theorem visible_splitOn_bases {bases : List (List Char)}
    (hbases : ∀ b ∈ bases, b ≠ [] ∧ trim b = b ∧ ',' ∉ b) :
    visible (([',', ' '].intercalate bases ++ [' ']).splitOn ',') = bases := by
  have hone : ∀ b : List Char, b ≠ [] → trim b = b → ',' ∉ b → ∀ pad, pad = [] ∨ pad = [' '] →
      visible ((b ++ pad).splitOn ',') = [b] := by
    intro b hne htrim hcomma pad hpad
    have hblank : ∀ c ∈ pad, isBlank c = true := by
      rcases hpad with rfl | rfl <;> decide
    have hnot : ',' ∉ b ++ pad := by
      rcases hpad with rfl | rfl <;> simpa using hcomma
    rw [List.splitOn_eq_singleton hnot, visible_cons, trim_append_blank b hblank, htrim,
      if_neg hne, visible_nil]
  induction bases with
  | nil => decide
  | cons b bases ih =>
      obtain ⟨hne, htrim, hcomma⟩ := hbases b (by simp)
      cases bases with
      | nil =>
          rw [List.intercalate_singleton]
          exact hone b hne htrim hcomma [' '] (Or.inr rfl)
      | cons b' bases =>
          have hrest := ih fun c hc => hbases c (List.mem_cons_of_mem _ hc)
          have hfirst : visible (b.splitOn ',') = [b] := by
            simpa using hone b hne htrim hcomma [] (Or.inl rfl)
          have hjoin : [',', ' '].intercalate (b :: b' :: bases) ++ [' '] =
              b ++ ',' :: ' ' :: ([',', ' '].intercalate (b' :: bases) ++ [' ']) := by
            simp [List.intercalate_cons_cons]
          have hblank :
              visible ((' ' :: ([',', ' '].intercalate (b' :: bases) ++ [' '])).splitOn ',') =
                b' :: bases := by
            rw [List.splitOn_eq_splitOnP, visible_splitOnP_cons_blank (by decide),
              ← List.splitOn_eq_splitOnP, hrest]
          rw [hjoin, List.splitOn_append_cons_self, visible_append, hfirst, hblank]
          rfl

/-- A model header gives back the name and the bases it was rendered from. -/
theorem openModel_rendered {name : List Char} {bases : List (List Char)} (htrim : trim name = name)
    (hname : ¬ extendsKey <:+: name ++ [' '])
    (hbases : ∀ b ∈ bases, b ≠ [] ∧ trim b = b ∧ ',' ∉ b) :
    openModel (modelHeader name bases ++ [' ']) =
      ⟨String.ofList name, [], bases.map String.ofList, none, []⟩ := by
  have hkey : " extends ".toList = extendsKey := rfl
  have hread : ∀ text : List Char, ((splitAt ',' text).map trim).filter (!·.isEmpty) =
      visible (text.splitOn ',') := by
    intro text
    rw [splitAt_eq_splitOn]
    rfl
  cases bases with
  | nil =>
      have hcut : cut? extendsKey (modelHeader name [] ++ [' ']) = none := by
        rw [cut?_eq_none_iff]
        simpa [modelHeader] using hname
      have hblank : trim (name ++ [' ']) = name := by
        rw [trim_append_blank name (by decide), htrim]
      rw [openModel, hkey, hcut]
      simp [hread, modelHeader, hblank]
  | cons b bases =>
      have hcut : cut? extendsKey (modelHeader name (b :: bases) ++ [' ']) =
          some (name, [',', ' '].intercalate (b :: bases) ++ [' ']) := by
        have hsplit : modelHeader name (b :: bases) ++ [' '] =
            name ++ (extendsKey ++ ([',', ' '].intercalate (b :: bases) ++ [' '])) := by
          simp [modelHeader]
        rw [hsplit, cut?_extends hname]
      rw [openModel, hkey, hcut]
      simp only [Option.getD_some, hread, visible_splitOn_bases hbases, htrim]

/-! ## Properties -/

def propertyLine (label type : List Char) : List Char :=
  label ++ ':' :: ' ' :: (type ++ [';'])

/-- Starts of a line that make it something else than a property. -/
def claimedStarts : List (List Char) :=
  ["import ".toList, "namespace ".toList, "model ".toList, "@service(".toList, ['/', '/'],
    ['/', '*']]

/-- None of the starts holds a colon, so it depends on the name alone whether a line has one. -/
theorem not_claimed_propertyLine {label : List Char} (type : List Char)
    (hlabel : ∀ start ∈ claimedStarts, ¬ start <+: label) :
    ∀ start ∈ claimedStarts, startsWith start (propertyLine label type) = false := by
  intro start hstart
  have hcolon : ∀ start ∈ claimedStarts, ':' ∉ start := by decide
  rw [startsWith_eq_false_iff, propertyLine]
  exact fun h => hlabel start hstart (prefix_of_prefix_append (hcolon start hstart) h)

theorem readProperty_rendered {label type : List Char} (hlabel : trim label = label)
    (hcolon : ':' ∉ label) (htype : trim type = type) :
    readProperty (propertyLine label type) =
      ⟨String.ofList (if label.getLast? == some '?' then label.dropLast else label),
        String.ofList type, label.getLast? == some '?', none, none⟩ := by
  have hcut : cut? [':'] (propertyLine label type) = some (label, ' ' :: (type ++ [';'])) :=
    cut?_singleton_append hcolon _
  have htrim : trim (' ' :: (type ++ [';'])) = type ++ [';'] := by
    have hpad : trim (' ' :: (type ++ [';'])) = trim (type ++ [';']) :=
      trim_blank_append [' '] (by decide) _
    rw [hpad, trim_eq_self_iff]
    constructor
    · intro c hc
      cases type with
      | nil =>
          obtain rfl : ';' = c := by simpa using hc
          decide
      | cons d type => exact ((trim_eq_self_iff _).1 htype).1 c (by simpa using hc)
    · intro c hc
      obtain rfl : ';' = c := by simpa using hc
      decide
  have hdrop : dropSemicolon (type ++ [';']) = type := by
    have hbefore : beforeSuffix? [';'] (type ++ [';']) = some type :=
      beforeSuffix?_eq_some_iff.2 rfl
    rw [dropSemicolon, hbefore]
    exact trimEnd_of_trim htype
  rw [readProperty, hcut]
  simp only [Option.getD_some, hlabel, htrim, hdrop]

theorem meaningOf_propertyLine {label type : List Char}
    (hstart : ∀ start ∈ claimedStarts, ¬ start <+: label) :
    meaningOf (propertyLine label type) = .property (readProperty (propertyLine label type)) := by
  have hnot := not_claimed_propertyLine type hstart
  have himport := hnot "import ".toList (by simp [claimedStarts])
  have hnamespace := hnot "namespace ".toList (by simp [claimedStarts])
  have hmodel := hnot "model ".toList (by simp [claimedStarts])
  have hline : isComment (propertyLine label type) = false := by
    rw [isComment, hnot ['/', '/'] (by simp [claimedStarts]),
      hnot ['/', '*'] (by simp [claimedStarts])]
    rfl
  have hcolon : (propertyLine label type).contains ':' = true := by
    simp [propertyLine]
  rw [meaningOf, himport, hnamespace, hmodel, hline, hcolon]
  rfl

/-! ## Other lines -/

theorem meaningOf_closing : meaningOf ['\x7d'] = .closing := rfl

/-- A line that starts like no import, header or brace declares at most a property. -/
theorem meaningOf_of_head {c : Char} (hc : c ∉ ['i', 'n', 'm', '\x7d']) (line : List Char) :
    meaningOf (c :: line) = .property (readProperty (c :: line)) ∨
      meaningOf (c :: line) = .other := by
  simp only [List.mem_cons, List.not_mem_nil, or_false, not_or] at hc
  obtain ⟨hi, hn, hm, hbrace⟩ := hc
  have hstart : ∀ {d : Char} {word : List Char}, c ≠ d →
      startsWith (d :: word) (c :: line) = false := by
    intro d word hd
    rw [startsWith_eq_false_iff]
    exact fun h => hd (List.cons_prefix_cons.1 h).1.symm
  have himport : startsWith "import ".toList (c :: line) = false := hstart hi
  have hnamespace : startsWith "namespace ".toList (c :: line) = false := hstart hn
  have hmodel : startsWith "model ".toList (c :: line) = false := hstart hm
  have hclosing : c :: line ≠ ['\x7d'] := by simp [hbrace]
  rw [meaningOf, himport, hnamespace, hmodel, if_neg (by simp), if_neg (by simp), if_neg (by simp),
    if_neg hclosing]
  split
  · exact Or.inl rfl
  · exact Or.inr rfl

theorem meaningOf_comment (line : List Char) : meaningOf ('/' :: '*' :: line) = .other := by
  have hcomment : isComment ('/' :: '*' :: line) = true := by
    rw [isComment, Bool.or_eq_true]
    exact Or.inr rfl
  rcases meaningOf_of_head (c := '/') (by decide) ('*' :: line) with h | h
  · rw [meaningOf, hcomment] at h
    simp [startsWith] at h
  · exact h

end ApiShapes.TypeSpec
