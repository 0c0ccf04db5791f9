import ApiShapes.Name
import ApiShapes.Proofs.Text.JoinedLines
import ApiShapes.Proofs.Text.Surrogates
import ApiShapes.Proofs.TypeExpr.LiteralUnion
import Mathlib.Tactic

/-!
# Model names of resource types

A resource type of ASCII letters and digits, with underscores and hyphens between its words, gives a
model name of letters and digits.  If it consists of lower-case words, the model name starts with a
capital; such a name is a reference in a type expression, on its own and as the element of an array,
and is taken for no primitive type.  Of any other resource type it is known at least that its model
name holds no blanks and does not start with a small letter.
-/

namespace ApiShapes

namespace Name

open Text

/-! ## Words -/

/-- A small letter, then small letters and digits. -/
def isWord : List Char → Bool
  | [] => false
  | c :: rest => isAsciiSmall c && rest.all fun d => isAsciiSmall d || isAsciiDigit d

/-- Words joined by underscores. -/
def IsTypeName (t : String) : Prop :=
  ∀ w ∈ t.toList.splitOn '_', isWord w = true

instance (t : String) : Decidable (IsTypeName t) :=
  inferInstanceAs (Decidable (∀ w ∈ t.toList.splitOn '_', isWord w = true))

theorem pieces_eq_splitOnP (s : List Char) : pieces s = s.splitOnP isSeparator := by
  induction s with
  | nil => rfl
  | cons c s ih =>
      rw [pieces, List.splitOnP_cons_eq_if_modifyHead, ih]
      by_cases hc : isSeparator c = true
      · simp [hc]
      · rw [if_neg hc, if_neg hc]
        cases h : s.splitOnP isSeparator with
        | nil => exact absurd h (List.splitOnP_ne_nil _ _)
        | cons piece pieces => rfl

def charsFrom (first : Char) (count : Nat) : List Char :=
  (List.range count).map fun n => Char.ofNat (first.toNat + n)

theorem mem_charsFrom {first c : Char} {count : Nat} (hlow : first.toNat ≤ c.toNat)
    (hhigh : c.toNat < first.toNat + count) : c ∈ charsFrom first count := by
  unfold charsFrom
  rw [List.mem_map]
  refine ⟨c.toNat - first.toNat, List.mem_range.2 (by omega), ?_⟩
  rw [Nat.add_sub_cancel' hlow, Char.ofNat_toNat]

def smallLetters : List Char :=
  charsFrom 'a' 26

def capitalLetters : List Char :=
  charsFrom 'A' 26

def digits : List Char :=
  charsFrom '0' 10

theorem mem_smallLetters {c : Char} (h : isAsciiSmall c = true) : c ∈ smallLetters := by
  simp only [isAsciiSmall, Bool.and_eq_true, decide_eq_true_eq, Char.le_def,
    UInt32.le_iff_toNat_le] at h
  apply mem_charsFrom h.1
  exact Nat.lt_succ_of_le h.2

theorem mem_capitalLetters {c : Char} (h : isAsciiCapital c = true) : c ∈ capitalLetters := by
  simp only [isAsciiCapital, Bool.and_eq_true, decide_eq_true_eq, Char.le_def,
    UInt32.le_iff_toNat_le] at h
  apply mem_charsFrom h.1
  exact Nat.lt_succ_of_le h.2

theorem mem_digits {c : Char} (h : isAsciiDigit c = true) : c ∈ digits := by
  simp only [isAsciiDigit, Bool.and_eq_true, decide_eq_true_eq, Char.le_def,
    UInt32.le_iff_toNat_le] at h
  apply mem_charsFrom h.1
  exact Nat.lt_succ_of_le h.2

theorem exists_of_isWord {w : List Char} (h : isWord w = true) :
    ∃ c rest, w = c :: rest ∧ c ∈ smallLetters ∧ ∀ d ∈ rest, d ∈ smallLetters ++ digits := by
  cases w with
  | nil => cases h
  | cons c rest =>
      simp only [isWord, Bool.and_eq_true, List.all_eq_true, Bool.or_eq_true] at h
      refine ⟨c, rest, rfl, mem_smallLetters h.1, fun d hd => ?_⟩
      rcases h.2 d hd with hsmall | hdigit
      · exact List.mem_append_left _ (mem_smallLetters hsmall)
      · exact List.mem_append_right _ (mem_digits hdigit)

/-- Everything that stands between underscores is a word, so the text itself holds little else. -/
theorem IsTypeName.mem {t : String} (h : IsTypeName t) :
    ∀ c ∈ t.toList, c = '_' ∨ c ∈ smallLetters ++ digits := by
  intro c hc
  have hjoin : ['_'].intercalate (t.toList.splitOn '_') = t.toList := List.intercalate_splitOn '_'
  rw [← hjoin] at hc
  rcases mem_of_mem_intercalate hc with hc | ⟨w, hw, hc⟩
  · exact Or.inl (List.mem_singleton.1 hc)
  · obtain ⟨d, rest, rfl, hd, hrest⟩ := exists_of_isWord (h w hw)
    exact Or.inr (List.forall_mem_cons.2 ⟨List.mem_append_left _ hd, hrest⟩ c hc)

theorem IsTypeName.head {t : String} (h : IsTypeName t) :
    ∃ c rest, t.toList = c :: rest ∧ c ∈ smallLetters := by
  rw [IsTypeName] at h
  cases ht : t.toList with
  | nil =>
      rw [ht] at h
      simp [isWord] at h
  | cons c rest =>
      rw [ht, List.splitOn_cons_eq_if_modifyHead] at h
      split at h
      · have hempty := h [] (by simp)
        simp [isWord] at hempty
      · cases hs : rest.splitOn '_' with
        | nil => exact absurd hs (List.splitOn_ne_nil _ _)
        | cons first more =>
            rw [hs, List.modifyHead_cons] at h
            have hfirst := h (c :: first) (by simp)
            simp only [isWord, Bool.and_eq_true] at hfirst
            exact ⟨c, rest, rfl, mem_smallLetters hfirst.1⟩

/-! ## The model name -/

/-- The characters of a model name that is made from words. -/
def nameLetters : List Char :=
  capitalLetters ++ (smallLetters ++ digits)

theorem capital_of_small :
    ∀ c ∈ smallLetters, isSeparator c = false ∧ capital c = [c.toUpper] ∧
      c.toUpper ∈ capitalLetters := by
  decide

theorem capitalize_of_small {c : Char} (h : c ∈ smallLetters) (rest : List Char) :
    capitalize (c :: rest) = c.toUpper :: rest := by
  rw [capitalize, (capital_of_small c h).2.1]
  rfl

def isNameLetter (c : Char) : Bool :=
  isAsciiCapital c || (isAsciiSmall c || isAsciiDigit c)

theorem isNameLetter_iff (c : Char) : isNameLetter c = true ↔ c ∈ nameLetters := by
  constructor
  · intro h
    simp only [isNameLetter, Bool.or_eq_true] at h
    rcases h with hcapital | hsmall | hdigit
    · exact List.mem_append_left _ (mem_capitalLetters hcapital)
    · exact List.mem_append_right _ (List.mem_append_left _ (mem_smallLetters hsmall))
    · exact List.mem_append_right _ (List.mem_append_right _ (mem_digits hdigit))
  · have hletters : ∀ c ∈ nameLetters, isNameLetter c = true := by decide
    exact hletters c

/-- Letters and digits, underscores and hyphens.  Without any letter or digit there would be no
words, and the model name would be empty. -/
@[mk_iff]
structure IsResourceName (t : String) : Prop where
  letters : ∀ c ∈ t.toList, isNameLetter c = true ∨ c ∈ ['_', '-']
  visible : t.toList.any isNameLetter = true

instance (t : String) : Decidable (IsResourceName t) :=
  decidable_of_iff' _ (isResourceName_iff t)

theorem not_separator_of_mem : ∀ c ∈ nameLetters, isSeparator c = false := by
  decide

/-- No table of capital forms has an entry below the small letters. -/
theorem letters_of_table :
    (∀ entry ∈ CaseTable.toUpperMany, 0x61 ≤ entry.1) ∧
      ∀ entry ∈ CaseTable.toUpper, 0x61 ≤ entry.range.first := by
  decide +kernel

theorem capital_of_lt {c : Char} (hc : c.toNat < 0x61) : capital c = [c] := by
  unfold capital mapCase
  split
  · next codes hcodes =>
    obtain ⟨before, after, htable, -⟩ := List.lookup_eq_some_iff.1 hcodes
    have hentry := letters_of_table.1 (c.toNat, codes) (by rw [htable]; simp)
    exact absurd hc (Nat.not_lt.2 hentry)
  · split
    · next entry hentry =>
      have hfirst := letters_of_table.2 entry (List.mem_of_find?_eq_some hentry)
      have hrange := List.find?_some hentry
      simp only [CodeRange.contains, Bool.and_eq_true, decide_eq_true_eq] at hrange
      omega
    · rfl

theorem capital_of_mem {c : Char} (h : c ∈ nameLetters) :
    capital c ≠ [] ∧ ∀ d ∈ capital c, d ∈ nameLetters := by
  by_cases hsmall : c ∈ smallLetters
  · obtain ⟨-, hcapital, hmem⟩ := capital_of_small c hsmall
    rw [hcapital]
    refine ⟨List.cons_ne_nil _ _, fun d hd => ?_⟩
    rw [List.mem_singleton.1 hd]
    exact List.mem_append_left _ hmem
  · have hlow : ∀ d ∈ nameLetters, d ∈ smallLetters ∨ d.toNat < 0x61 := by decide
    rw [capital_of_lt ((hlow c h).resolve_left hsmall)]
    exact ⟨List.cons_ne_nil _ _, by simpa using h⟩

theorem exists_piece_of_mem {s : List Char} {c : Char} (hc : c ∈ s)
    (hletter : isSeparator c = false) : ∃ w ∈ pieces s, c ∈ w := by
  induction s with
  | nil => cases hc
  | cons d rest ih =>
      rw [pieces]
      by_cases hd : isSeparator d = true
      · rw [if_pos hd]
        have hne : c ≠ d := by
          rintro rfl
          rw [hletter] at hd
          cases hd
        obtain ⟨w, hw, hcw⟩ := ih ((List.mem_cons.1 hc).resolve_left hne)
        exact ⟨w, List.mem_cons_of_mem _ hw, hcw⟩
      · rw [if_neg hd]
        rcases List.mem_cons.1 hc with rfl | hrest
        · cases pieces rest with
          | nil => exact ⟨[c], by simp, by simp⟩
          | cons word words => exact ⟨c :: word, by simp, by simp⟩
        · obtain ⟨w, hw, hcw⟩ := ih hrest
          cases hpieces : pieces rest with
          | nil =>
              rw [hpieces] at hw
              cases hw
          | cons word words =>
              rw [hpieces] at hw
              rcases List.mem_cons.1 hw with rfl | hw
              · exact ⟨d :: w, by simp, List.mem_cons_of_mem _ hcw⟩
              · exact ⟨w, List.mem_cons_of_mem _ hw, hcw⟩

section

variable {t : String} (h : IsResourceName t)

include h

theorem IsResourceName.mem_word {w : List Char} (hw : w ∈ words t.toList) :
    ∀ c ∈ w, c ∈ nameLetters := by
  rw [words, List.mem_filter, pieces_eq_splitOnP] at hw
  obtain ⟨hsubset, hletters⟩ := mem_splitOnP hw.1
  intro c hc
  rcases h.letters c (hsubset hc) with hletter | hseparator
  · exact (isNameLetter_iff c).1 hletter
  · have hseparators : ∀ c ∈ ['_', '-'], isSeparator c = true := by decide
    have hnot := hletters c hc
    rw [hseparators c hseparator] at hnot
    cases hnot

theorem IsResourceName.mem_pascalCase : ∀ c ∈ (pascalCase t).toList, c ∈ nameLetters := by
  intro c hc
  rw [pascalCase, String.toList_ofList, List.mem_flatMap] at hc
  obtain ⟨w, hw, hc⟩ := hc
  have hletters := h.mem_word hw
  cases w with
  | nil => cases hc
  | cons d rest =>
      rw [capitalize, List.mem_append] at hc
      rcases hc with hc | hc
      · exact (capital_of_mem (hletters d (by simp))).2 c hc
      · exact hletters c (List.mem_cons_of_mem _ hc)

theorem IsResourceName.pascalCase_ne_empty : pascalCase t ≠ "" := by
  obtain ⟨c, hc, hletter⟩ := List.any_eq_true.1 h.visible
  rw [isNameLetter_iff] at hletter
  obtain ⟨w, hw, hcw⟩ := exists_piece_of_mem hc (not_separator_of_mem c hletter)
  have hword : w ∈ words t.toList := by
    rw [words, List.mem_filter]
    refine ⟨hw, ?_⟩
    cases w with
    | nil => cases hcw
    | cons d rest => rfl
  cases w with
  | nil => cases hcw
  | cons d rest =>
      obtain ⟨hne, -⟩ := capital_of_mem (h.mem_word hword d (by simp))
      obtain ⟨e, more, hcapital⟩ := List.exists_cons_of_ne_nil hne
      have hmem : e ∈ (pascalCase t).toList := by
        rw [pascalCase, String.toList_ofList, List.mem_flatMap]
        refine ⟨_, hword, ?_⟩
        rw [capitalize, hcapital]
        simp
      intro hempty
      rw [hempty] at hmem
      cases hmem

end

theorem IsTypeName.isResourceName {t : String} (h : IsTypeName t) : IsResourceName t where
  letters := by
    intro c hc
    rcases h.mem c hc with rfl | hletter
    · simp
    · exact Or.inl ((isNameLetter_iff c).2 (List.mem_append_right _ hletter))
  visible := by
    obtain ⟨c, rest, ht, hsmall⟩ := h.head
    rw [ht, List.any_cons, Bool.or_eq_true]
    refine Or.inl ((isNameLetter_iff c).2 ?_)
    exact List.mem_append_right _ (List.mem_append_left _ hsmall)

theorem splitOnP_congr {p q : Char → Bool} {s : List Char} (h : ∀ c ∈ s, p c = q c) :
    s.splitOnP p = s.splitOnP q := by
  induction s with
  | nil => rfl
  | cons c s ih =>
      rw [List.splitOnP_cons_eq_if_modifyHead, List.splitOnP_cons_eq_if_modifyHead,
        h c List.mem_cons_self, ih fun d hd => h d (List.mem_cons_of_mem _ hd)]

/-- The words of a resource type are what stands between its underscores. -/
theorem IsTypeName.words_eq {t : String} (h : IsTypeName t) :
    words t.toList = t.toList.splitOn '_' := by
  have hseparator : ∀ c ∈ smallLetters ++ digits, isSeparator c = (c == '_') := by decide
  have hpieces : t.toList.splitOnP isSeparator = t.toList.splitOn '_' := by
    rw [List.splitOn_eq_splitOnP]
    apply splitOnP_congr
    intro c hc
    rcases h.mem c hc with rfl | hletter
    · rfl
    · exact hseparator c hletter
  rw [words, pieces_eq_splitOnP, hpieces, List.filter_eq_self]
  intro w hw
  obtain ⟨c, rest, rfl, -⟩ := exists_of_isWord (h w hw)
  rfl

theorem IsTypeName.pascalCase_head {t : String} (h : IsTypeName t) :
    ∃ c rest, (pascalCase t).toList = c :: rest ∧ c ∈ capitalLetters := by
  obtain ⟨w, ws, hwords⟩ := List.exists_cons_of_ne_nil (List.splitOn_ne_nil '_' t.toList)
  obtain ⟨c, rest, rfl, hc, -⟩ := exists_of_isWord (h w (hwords ▸ List.mem_cons_self))
  rw [pascalCase, String.toList_ofList, h.words_eq, hwords, List.flatMap_cons,
    capitalize_of_small hc]
  exact ⟨_, _, rfl, (capital_of_small c hc).2.2⟩

/-! ## The model name of any text -/

/-- Stretches of codes that hold the small letters and all blanks above the capital letters. -/
def blankStretches : List (Nat × Nat) :=
  [(0x61, 0xBF), (0x1680, 0x1680), (0x2000, 0x2100), (0x3000, 0x3000)]

theorem not_blank_of_apart {n : Nat} (hlow : 0x40 < n)
    (hapart : ∀ stretch ∈ blankStretches, n < stretch.1 ∨ stretch.2 < n) :
    isBlank (Char.ofNat n) = false ∧ isAsciiSmall (Char.ofNat n) = false := by
  by_cases hvalid : n.isValidChar
  · simp only [blankStretches, List.forall_mem_cons, List.not_mem_nil, false_imp_iff, imp_true_iff,
      and_true] at hapart
    have hcode : (Char.ofNat n).val.toNat = n := toNat_ofNat_of_valid hvalid
    simp only [isBlank, isAsciiSmall, Char.le_def, UInt32.le_iff_toNat_le, Char.toNat, hcode,
      Bool.or_eq_false_iff, Bool.and_eq_false_iff, decide_eq_false_iff_not, beq_eq_false_iff_ne]
    have ha : 'a'.val.toNat = 0x61 := rfl
    have hz : 'z'.val.toNat = 0x7A := rfl
    omega
  · rw [Char.ofNat, dif_neg hvalid]
    decide

/-- The capital forms of the table lie apart from blanks and small letters.  Those of a range are
checked by its ends. -/
theorem capital_table :
    (∀ entry ∈ CaseTable.toUpperMany, entry.2 ≠ [] ∧ ∀ code ∈ entry.2,
      isBlank (Char.ofNat code) = false ∧ isAsciiSmall (Char.ofNat code) = false) ∧
    ∀ entry ∈ CaseTable.toUpper, 0x40 < entry.range.first + entry.shift ∧
      ∀ stretch ∈ blankStretches, entry.range.last + entry.shift < stretch.1 ∨
        stretch.2 < entry.range.first + entry.shift := by
  decide +kernel

theorem not_blank_of_contains {entry : CaseShift} (hentry : entry ∈ CaseTable.toUpper) {code : Nat}
    (hcode : entry.range.contains code = true) :
    isBlank (Char.ofNat (code + entry.shift).toNat) = false ∧
      isAsciiSmall (Char.ofNat (code + entry.shift).toNat) = false := by
  obtain ⟨hlow, hapart⟩ := capital_table.2 entry hentry
  simp only [CodeRange.contains, Bool.and_eq_true, decide_eq_true_eq] at hcode
  apply not_blank_of_apart
  · omega
  · intro stretch hstretch
    have hends := hapart stretch hstretch
    omega

/-- A character is its own capital form, or the form holds neither blanks nor small letters. -/
theorem capital_cases (c : Char) :
    capital c = [c] ∨ capital c ≠ [] ∧
      ∀ d ∈ capital c, isBlank d = false ∧ isAsciiSmall d = false := by
  unfold capital mapCase
  split
  · next codes hcodes =>
    obtain ⟨before, after, htable, -⟩ := List.lookup_eq_some_iff.1 hcodes
    obtain ⟨hne, hforms⟩ := capital_table.1 (c.toNat, codes) (by rw [htable]; simp)
    refine Or.inr ⟨by simpa using hne, ?_⟩
    intro d hd
    obtain ⟨code, hcode, rfl⟩ := List.mem_map.1 hd
    exact hforms code hcode
  · split
    · next entry hentry =>
      have hrange := List.find?_some hentry
      have hform := not_blank_of_contains (List.mem_of_find?_eq_some hentry) hrange
      exact Or.inr ⟨by simp, by simpa using hform⟩
    · exact Or.inl rfl

theorem capital_ne_nil (c : Char) : capital c ≠ [] := by
  rcases capital_cases c with hself | ⟨hne, -⟩
  · rw [hself]
    simp
  · exact hne

theorem not_small_of_mem_capital {c d : Char} (hd : d ∈ capital c) : isAsciiSmall d = false := by
  rcases capital_cases c with hself | ⟨-, hforms⟩
  · obtain rfl : d = c := by simpa [hself] using hd
    rw [← Bool.not_eq_true]
    intro hsmall
    obtain ⟨-, hcapital, hmem⟩ := capital_of_small d (mem_smallLetters hsmall)
    have hupper : d.toUpper = d := by simpa [hself] using hcapital.symm
    have hapart : ∀ c ∈ capitalLetters, isAsciiSmall c = false := by decide
    rw [hupper] at hmem
    rw [hapart d hmem] at hsmall
    cases hsmall
  · exact (hforms d hd).2

theorem pascalCase_no_blank (t : String) : ∀ c ∈ (pascalCase t).toList, isBlank c = false := by
  intro c hc
  rw [pascalCase, String.toList_ofList, List.mem_flatMap] at hc
  obtain ⟨w, hw, hc⟩ := hc
  have hletters : ∀ d ∈ w, isBlank d = false := by
    rw [words, List.mem_filter, pieces_eq_splitOnP] at hw
    intro d hd
    have hseparator := (mem_splitOnP hw.1).2 d hd
    simp only [isSeparator, Bool.or_eq_false_iff] at hseparator
    exact hseparator.2
  cases w with
  | nil => cases hc
  | cons d rest =>
      rw [capitalize, List.mem_append] at hc
      rcases hc with hc | hc
      · rcases capital_cases d with hself | ⟨-, hforms⟩
        · obtain rfl : c = d := by simpa [hself] using hc
          exact hletters c (by simp)
        · exact (hforms c hc).1
      · exact hletters c (List.mem_cons_of_mem _ hc)

theorem not_small_of_head?_pascalCase {t : String} {c : Char}
    (hc : (pascalCase t).toList.head? = some c) : isAsciiSmall c = false := by
  rw [pascalCase, String.toList_ofList] at hc
  cases hwords : words t.toList with
  | nil =>
      rw [hwords] at hc
      cases hc
  | cons w rest =>
      have hfilled : w ≠ [] := by
        have hmem : w ∈ words t.toList := by simp [hwords]
        rw [words, List.mem_filter] at hmem
        simpa using hmem.2
      obtain ⟨d, letters, rfl⟩ := List.exists_cons_of_ne_nil hfilled
      obtain ⟨e, forms, hforms⟩ := List.exists_cons_of_ne_nil (capital_ne_nil d)
      rw [hwords, List.flatMap_cons, capitalize, hforms] at hc
      obtain rfl : e = c := by simpa using hc
      exact not_small_of_mem_capital (c := d) (by simp [hforms])

end Name

/-! ## Names in type expressions -/

namespace TypeExpr

open Name Text

section

variable {name : List Char} (h : isModelName name = true)

include h

theorem not_mem_of_isModelName {c : Char} (hc : c ∈ ['<', '[', ']', ' ']) : c ∉ name := by
  have hforeign : ∀ c ∈ ['<', '[', ']', ' '], (c == '_' || isAlphanumeric c) = false := by
    decide +kernel
  intro hmem
  simp only [isModelName, Bool.and_eq_true, List.all_eq_true] at h
  have hletter := h.2 c hmem
  rw [hforeign c hc] at hletter
  cases hletter

/-- No primitive type is written with a capital. -/
theorem not_primitive_of_isModelName : primitiveNames.contains (String.ofList name) = false := by
  have hprimitive : ∀ p ∈ primitiveNames, p.toList.head?.any isUpper = false := by decide
  rw [← Bool.not_eq_true, List.contains_iff_mem]
  intro hmem
  simp only [isModelName, Bool.and_eq_true] at h
  have hhead := hprimitive _ hmem
  rw [String.toList_ofList, h.1.1] at hhead
  cases hhead

theorem not_union_of_isModelName : isUnion name = false := by
  rw [← Bool.not_eq_true, isUnion_iff]
  exact fun hwithin => not_mem_of_isModelName h (c := ' ') (by simp) (hwithin.subset (by decide))

theorem not_record_of_isModelName : isRecord name = false := by
  rw [isRecord, startsWith_eq_false_iff]
  exact fun hstarts => not_mem_of_isModelName h (c := '<') (by simp) (hstarts.subset (by decide))

theorem not_array_of_isModelName : element? name = none := by
  rw [element?, beforeSuffix?_eq_none_iff]
  exact fun hsuffix => not_mem_of_isModelName h (c := '[') (by simp) (hsuffix.subset (by decide))

end

/-- A name of a model is nothing else that a type can be. -/
theorem isModelReference_eq (t : String) :
    isModelReference t = isModelName (referenceBase t) := by
  unfold isModelReference
  cases h : isModelName (referenceBase t) with
  | false => simp only [h, Bool.and_false]
  | true =>
      simp only [h, not_union_of_isModelName h, not_record_of_isModelName h,
        not_primitive_of_isModelName h]
      rfl

/-! ## References -/

theorem isUpper_of_mem : ∀ c ∈ capitalLetters, isUpper c = true := by
  decide

theorem isAlphanumeric_of_mem : ∀ c ∈ nameLetters,
    isAlphanumeric c = true ∧ isBlank c = false ∧ c ≠ '_' := by
  decide

/-- The name of a model as it stands in a type expression. -/
structure IsReference (name : List Char) : Prop where
  letters : ∀ c ∈ name, c ∈ nameLetters
  head : ∃ c rest, name = c :: rest ∧ c ∈ capitalLetters

theorem isReference_pascalCase {t : String} (h : IsTypeName t) :
    IsReference (pascalCase t).toList :=
  ⟨h.isResourceName.mem_pascalCase, h.pascalCase_head⟩

theorem IsReference.isModelName {name : List Char} (h : IsReference name) :
    isModelName name = true := by
  have hall : (name.all fun c => c == '_' || isAlphanumeric c) = true := by
    rw [List.all_eq_true]
    intro c hc
    rw [(isAlphanumeric_of_mem c (h.letters c hc)).1, Bool.or_true]
  obtain ⟨c, rest, rfl, hcapital⟩ := h.head
  have hunderscore := (isAlphanumeric_of_mem c (h.letters c List.mem_cons_self)).2.2
  have hvisible : ((c :: rest).any (· != '_')) = true :=
    List.any_eq_true.2 ⟨c, List.mem_cons_self, bne_iff_ne.2 hunderscore⟩
  rw [ApiShapes.isModelName, hall, hvisible, List.head?_cons, Option.any_some,
    isUpper_of_mem c hcapital]
  rfl

theorem element?_array (name : List Char) : element? (name ++ arraySuffix) = some name :=
  beforeSuffix?_eq_some_iff.2 rfl

/-- A text without blanks is trimmed and allows no null. -/
theorem plain_of_no_blank {s : List Char} (h : ∀ c ∈ s, isBlank c = false) : Plain s := by
  refine ⟨trim_of_no_blank h, ?_⟩
  intro hsuffix
  have hspace := h ' ' (hsuffix.subset (by decide))
  simp [isBlank] at hspace

theorem not_union_of_no_blank {s : List Char} (h : ∀ c ∈ s, isBlank c = false) :
    isUnion s = false := by
  rw [← Bool.not_eq_true, isUnion_iff]
  intro hwithin
  have hspace := h ' ' (hwithin.subset (by decide))
  simp [isBlank] at hspace

theorem no_blank_append_array {s : List Char} (h : ∀ c ∈ s, isBlank c = false) :
    ∀ c ∈ s ++ arraySuffix, isBlank c = false := by
  have hsuffix : ∀ c ∈ arraySuffix, isBlank c = false := by decide
  intro c hc
  rcases List.mem_append.1 hc with hc | hc
  · exact h c hc
  · exact hsuffix c hc

/-- A reference, or an array of references, is trimmed and allows no null. -/
theorem IsReference.plain {name : List Char} (h : IsReference name) :
    Plain name ∧ Plain (name ++ arraySuffix) := by
  have hblank : ∀ c ∈ name, isBlank c = false :=
    fun c hc => (isAlphanumeric_of_mem c (h.letters c hc)).2.1
  exact ⟨plain_of_no_blank hblank, plain_of_no_blank (no_blank_append_array hblank)⟩

end TypeExpr

end ApiShapes
