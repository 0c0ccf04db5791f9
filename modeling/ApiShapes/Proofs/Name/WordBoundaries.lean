import ApiShapes.Proofs.Name.ModelName
import Mathlib.Tactic

/-!
# Word boundaries of model names

Snake case sets a capital apart from a small letter or digit before it, and from a capital before it
if a small letter follows.  In the model name of a resource type capitals stand at the starts of the
words only, so nothing is set apart within a word.  The start of a word goes unnoticed where a
single letter stands before it and no small letter comes second in it; with these boundaries left
out, the words come back as they are.
-/

namespace ApiShapes

namespace Text

theorem lowerFrom_eq_flatMap {s : List Char} (h : 'Σ' ∉ s) (before : List Char) :
    lowerFrom before s = s.flatMap small := by
  induction s generalizing before with
  | nil => rfl
  | cons c rest ih =>
      have hc : c ≠ 'Σ' := fun heq => h (heq ▸ List.mem_cons_self)
      rw [lowerFrom, if_neg hc, List.flatMap_cons, ih fun hrest => h (List.mem_cons_of_mem _ hrest)]

end Text

namespace Name

open Text

/-! ## What is set apart -/

def startsCapital (s : List Char) : Bool :=
  s.head?.any isAsciiCapital

/-- Whether a text starts with a capital and a small letter. -/
def startsCapitalWord : List Char → Bool
  | c :: d :: _ => isAsciiCapital c && isAsciiSmall d
  | _ => false

/-- Whether the text behind a character is set apart from it. -/
def setsApart (c : Char) (rest : List Char) : Bool :=
  (isAsciiCapital c && startsCapitalWord rest) ||
    ((isAsciiSmall c || isDecimalDigit c) && startsCapital rest)

/-- A text with its capitals set apart, both in acronyms and in humps. -/
def separate (s : List Char) : List Char :=
  splitHumps (splitAcronyms s)

theorem splitAcronyms_cons (c : Char) (rest : List Char) :
    splitAcronyms (c :: rest) =
      c :: if isAsciiCapital c && startsCapitalWord rest then '_' :: splitAcronyms rest
        else splitAcronyms rest := by
  match rest with
  | [] => simp [splitAcronyms, startsCapitalWord]
  | [d] => simp [splitAcronyms, startsCapitalWord]
  | d :: e :: rest =>
      rw [splitAcronyms, startsCapitalWord, ← Bool.and_assoc]
      split <;> rfl

theorem splitHumps_cons (c : Char) (rest : List Char) :
    splitHumps (c :: rest) =
      c :: if (isAsciiSmall c || isDecimalDigit c) && startsCapital rest then '_' :: splitHumps rest
        else splitHumps rest := by
  cases rest with
  | nil => simp [splitHumps, startsCapital]
  | cons d rest =>
      rw [splitHumps, startsCapital, List.head?_cons, Option.any_some]
      split <;> rfl

theorem startsCapital_splitAcronyms (s : List Char) :
    startsCapital (splitAcronyms s) = startsCapital s := by
  cases s with
  | nil => rfl
  | cons c rest =>
      rw [splitAcronyms_cons]
      rfl

/-- A text is separated character by character. -/
theorem separate_cons (c : Char) (rest : List Char) :
    separate (c :: rest) =
      c :: if setsApart c rest then '_' :: separate rest else separate rest := by
  have hjoint : ∀ s, startsCapital ('_' :: s) = false := fun _ => rfl
  have hunderscore : (isAsciiSmall '_' || isDecimalDigit '_') = false := by decide
  unfold separate setsApart
  rw [splitAcronyms_cons]
  by_cases hacronym : (isAsciiCapital c && startsCapitalWord rest) = true
  · rw [if_pos hacronym, splitHumps_cons, splitHumps_cons, hjoint, hunderscore]
    simp [hacronym]
  · rw [if_neg hacronym, splitHumps_cons, startsCapital_splitAcronyms]
    simp [hacronym]

theorem mem_separate {s : List Char} {c : Char} (h : c ∈ separate s) : c = '_' ∨ c ∈ s := by
  induction s with
  | nil => cases h
  | cons d rest ih =>
      rw [separate_cons] at h
      have hrest : c ∈ separate rest → c = '_' ∨ c ∈ d :: rest :=
        fun h => (ih h).imp_right (List.mem_cons_of_mem _)
      split at h
      · rcases List.mem_cons.1 h with rfl | h
        · exact Or.inr List.mem_cons_self
        · exact (List.mem_cons.1 h).elim Or.inl hrest
      · rcases List.mem_cons.1 h with rfl | h
        · exact Or.inr List.mem_cons_self
        · exact hrest h

/-! ## Letters of words -/

theorem letter_classes : ∀ c ∈ smallLetters ++ digits, isAsciiCapital c = false ∧
    (isAsciiSmall c || isDecimalDigit c) = true ∧ small c = [c] := by
  decide

theorem capital_classes : ∀ c ∈ smallLetters, isAsciiCapital c.toUpper = true ∧
    (isAsciiSmall c.toUpper || isDecimalDigit c.toUpper) = false ∧ small c.toUpper = [c] := by
  decide

theorem setsApart_of_letter {c : Char} (h : c ∈ smallLetters ++ digits) (rest : List Char) :
    setsApart c rest = startsCapital rest := by
  obtain ⟨hcapital, hletter, -⟩ := letter_classes c h
  rw [setsApart, hcapital, hletter, Bool.false_and, Bool.false_or, Bool.true_and]

theorem setsApart_of_capital {c : Char} (h : c ∈ smallLetters) (rest : List Char) :
    setsApart c.toUpper rest = startsCapitalWord rest := by
  obtain ⟨hcapital, hletter, -⟩ := capital_classes c h
  rw [setsApart, hcapital, hletter, Bool.true_and, Bool.false_and, Bool.or_false]

/-- Behind small letters and digits, only a capital is set apart. -/
theorem separate_letters {letters : List Char} (hne : letters ≠ [])
    (h : ∀ c ∈ letters, c ∈ smallLetters ++ digits) (t : List Char) :
    separate (letters ++ t) =
      letters ++ if startsCapital t then '_' :: separate t else separate t := by
  induction letters with
  | nil => exact absurd rfl hne
  | cons c rest ih =>
      obtain ⟨hc, hrest⟩ := List.forall_mem_cons.1 h
      rw [List.cons_append, separate_cons, setsApart_of_letter hc]
      cases rest with
      | nil => rfl
      | cons d rest =>
          have hinner : startsCapital (d :: rest ++ t) = false :=
            (letter_classes d (hrest d List.mem_cons_self)).1
          rw [hinner, if_neg Bool.false_ne_true, ih (by simp) hrest]
          rfl

/-- A word of one letter is set apart from a capital and a small letter only, any other word from a
capital. -/
theorem separate_capitalize {w : List Char} (h : isWord w = true) (t : List Char) :
    separate (capitalize w ++ t) =
      capitalize w ++
        if (if w.length = 1 then startsCapitalWord t else startsCapital t) then '_' :: separate t
        else separate t := by
  obtain ⟨c, rest, rfl, hc, hrest⟩ := exists_of_isWord h
  rw [capitalize_of_small hc, List.cons_append, separate_cons, setsApart_of_capital hc]
  cases rest with
  | nil => rfl
  | cons d rest =>
      have hinner : startsCapitalWord (d :: rest ++ t) = false := by
        have hd := (letter_classes d (hrest d List.mem_cons_self)).1
        cases hmore : rest ++ t with
        | nil => rw [List.cons_append, hmore]; rfl
        | cons e more => rw [List.cons_append, hmore, startsCapitalWord, hd, Bool.false_and]
      have hlong : ¬ (c :: d :: rest).length = 1 := by simp
      rw [hinner, if_neg Bool.false_ne_true, separate_letters (by simp) hrest, if_neg hlong]
      rfl

/-! ## Boundaries -/

/-- A word of a single letter before one that has a single letter itself, or a digit in second
place. -/
def Merges (w next : List Char) : Prop :=
  w.length = 1 ∧ (next.length = 1 ∨ next[1]?.any isAsciiDigit = true)

instance (w next : List Char) : Decidable (Merges w next) :=
  inferInstanceAs (Decidable (_ ∧ _))

/-- Words joined by underscores, but for those that merge. -/
def rejoined : List (List Char) → List Char
  | [] => []
  | [w] => w
  | w :: next :: rest =>
    w ++ if Merges w next then rejoined (next :: rest) else '_' :: rejoined (next :: rest)

theorem merges_iff {w next : List Char} (h : isWord next = true) :
    Merges w next ↔ w.length = 1 ∧ next[1]?.any isAsciiSmall = false := by
  have hexclusive : ∀ d ∈ smallLetters ++ digits, isAsciiDigit d = !isAsciiSmall d := by
    decide
  obtain ⟨c, rest, rfl, -, hrest⟩ := exists_of_isWord h
  cases rest with
  | nil => simp [Merges]
  | cons d rest =>
      have hd := hexclusive d (hrest d List.mem_cons_self)
      simp [Merges, hd]

/-- The text of capitalised words starts with a capital, and then a small letter exactly if that is
the second letter of the first word. -/
theorem starts_flatMap_capitalize {next : List Char} {ws : List (List Char)}
    (h : ∀ w ∈ next :: ws, isWord w = true) :
    startsCapital ((next :: ws).flatMap capitalize) = true ∧
      startsCapitalWord ((next :: ws).flatMap capitalize) = next[1]?.any isAsciiSmall := by
  obtain ⟨hnext, hws⟩ := List.forall_mem_cons.1 h
  obtain ⟨c, rest, rfl, hc, -⟩ := exists_of_isWord hnext
  have hcapital := (capital_classes c hc).1
  rw [List.flatMap_cons, capitalize_of_small hc]
  refine ⟨hcapital, ?_⟩
  cases rest with
  | cons d rest => exact (congrArg (· && isAsciiSmall d) hcapital).trans (Bool.true_and _)
  | nil =>
      cases ws with
      | nil => rfl
      | cons v ws =>
          obtain ⟨e, more, rfl, he, -⟩ := exists_of_isWord (hws v (by simp))
          have hsmall := (Bool.or_eq_false_iff.1 (capital_classes e he).2.1).1
          rw [List.flatMap_cons, capitalize_of_small he]
          exact (congrArg (isAsciiCapital c.toUpper && ·) hsmall).trans (Bool.and_false _)

theorem separate_words {w next : List Char} {ws : List (List Char)}
    (h : ∀ v ∈ w :: next :: ws, isWord v = true) :
    separate ((w :: next :: ws).flatMap capitalize) =
      capitalize w ++
        if Merges w next then separate ((next :: ws).flatMap capitalize)
        else '_' :: separate ((next :: ws).flatMap capitalize) := by
  obtain ⟨hw, hrest⟩ := List.forall_mem_cons.1 h
  obtain ⟨hcapital, hsecond⟩ := starts_flatMap_capitalize hrest
  have hmerges := merges_iff (w := w) (hrest next List.mem_cons_self)
  rw [List.flatMap_cons, separate_capitalize hw, hcapital, hsecond]
  simp only [hmerges]
  by_cases hlength : w.length = 1
  · cases next[1]?.any isAsciiSmall <;> simp [hlength]
  · simp [hlength]

theorem flatMap_small_capitalize {w : List Char} (h : isWord w = true) :
    (capitalize w).flatMap small = w := by
  obtain ⟨c, rest, rfl, hc, hrest⟩ := exists_of_isWord h
  have hletters : rest.flatMap small = rest.flatMap fun d => [d] :=
    List.flatMap_congr fun d hd => (letter_classes d (hrest d hd)).2.2
  rw [capitalize_of_small hc, List.flatMap_cons, (capital_classes c hc).2.2, hletters,
    List.flatMap_singleton']
  rfl

/-- The model name of some words gives them back, joined but for those that merge. -/
theorem flatMap_small_separate {ws : List (List Char)} (h : ∀ w ∈ ws, isWord w = true) :
    (separate (ws.flatMap capitalize)).flatMap small = rejoined ws := by
  induction ws with
  | nil => rfl
  | cons w ws ih =>
      obtain ⟨hw, hws⟩ := List.forall_mem_cons.1 h
      cases ws with
      | nil =>
          have hend := separate_capitalize hw []
          have hnothing :
              (if w.length = 1 then startsCapitalWord [] else startsCapital []) = false := by
            split <;> rfl
          rw [hnothing, if_neg Bool.false_ne_true, List.append_nil] at hend
          rw [List.flatMap_singleton, hend, List.flatMap_append, flatMap_small_capitalize hw,
            rejoined]
          exact List.append_nil w
      | cons next ws =>
          have hjoint : small '_' = ['_'] := by decide
          rw [separate_words h, List.flatMap_append, flatMap_small_capitalize hw, rejoined]
          split
          · rw [ih hws]
          · rw [List.flatMap_cons, hjoint, ih hws]
            rfl

theorem exists_rejoined_cons {w : List Char} (h : isWord w = true) (ws : List (List Char)) :
    ∃ c rest, rejoined (w :: ws) = c :: rest ∧ c ≠ '_' := by
  have hletters : '_' ∉ smallLetters := by decide
  obtain ⟨c, rest, rfl, hc, -⟩ := exists_of_isWord h
  have hne : c ≠ '_' := fun heq => hletters (heq ▸ hc)
  cases ws with
  | nil => exact ⟨c, rest, rfl, hne⟩
  | cons next ws => exact ⟨c, _, rfl, hne⟩

/-- Words are joined by underscores everywhere exactly if no two of them merge. -/
theorem rejoined_eq_intercalate_iff {ws : List (List Char)} (h : ∀ w ∈ ws, isWord w = true) :
    rejoined ws = ['_'].intercalate ws ↔ ws.IsChain fun w next => ¬ Merges w next := by
  induction ws with
  | nil => exact iff_of_true rfl .nil
  | cons w ws ih =>
      obtain ⟨-, hws⟩ := List.forall_mem_cons.1 h
      cases ws with
      | nil => exact iff_of_true (List.intercalate_singleton ..).symm (.singleton w)
      | cons next ws =>
          rw [rejoined, List.intercalate_cons_cons, List.append_assoc,
            List.append_cancel_left_eq, List.isChain_cons_cons, ← ih hws]
          split
          · next hmerges =>
            -- what is left starts with a letter where the joined words have an underscore
            obtain ⟨c, rest, hfirst, hne⟩ := exists_rejoined_cons (hws next List.mem_cons_self) ws
            refine iff_of_false (fun hsame => ?_) fun hboth => hboth.1 hmerges
            rw [hfirst] at hsame
            exact hne (List.cons.inj hsame).1
          · next hapart => simp [hapart]

/-! ## Resource types -/

/-- What comes back of a resource type are its words, joined but for those that merge. -/
theorem IsTypeName.snakeCase_pascalCase {t : String} (h : IsTypeName t) :
    snakeCase (pascalCase t) = String.ofList (rejoined (t.toList.splitOn '_')) := by
  have hsigma : 'Σ' ∉ separate (pascalCase t).toList := by
    intro hmem
    have hletters : ∀ c ∈ '_' :: nameLetters, c ≠ 'Σ' := by decide
    rcases mem_separate hmem with hunderscore | hname
    · cases hunderscore
    · exact hletters 'Σ' (List.mem_cons_of_mem _ (h.isResourceName.mem_pascalCase _ hname)) rfl
  have hlower : snakeCase (pascalCase t) =
      String.ofList ((separate (pascalCase t).toList).flatMap small) :=
    congrArg String.ofList (lowerFrom_eq_flatMap hsigma [])
  rw [hlower, pascalCase, String.toList_ofList, h.words_eq, flatMap_small_separate h]

/-- A resource type of lower-case words is the snake case of its model name exactly if no word of
one letter stands before one that has one letter or a digit in second place. -/
theorem snakeCase_pascalCase_eq_iff {t : String} (h : IsTypeName t) :
    snakeCase (pascalCase t) = t ↔
      (t.toList.splitOn '_').IsChain fun w next => ¬ Merges w next := by
  have hjoined : t = String.ofList (['_'].intercalate (t.toList.splitOn '_')) := by
    rw [List.intercalate_splitOn, String.ofList_toList]
  rw [h.snakeCase_pascalCase, ← rejoined_eq_intercalate_iff h]
  constructor
  · intro hsame
    exact String.ofList_injective (hsame.trans hjoined)
  · intro hsame
    rw [hsame]
    exact hjoined.symm

/-- Both directions: single letters before words with a small second letter and before the end come
back, and a single letter before a digit does not. -/
theorem snakeCase_pascalCase_gridTypes :
    (IsTypeName "x_axis_v2_y" ∧ snakeCase (pascalCase "x_axis_v2_y") = "x_axis_v2_y") ∧
      IsTypeName "x_v2_axis" ∧ snakeCase (pascalCase "x_v2_axis") ≠ "x_v2_axis" := by
  have hkept : IsTypeName "x_axis_v2_y" := by decide
  have hlost : IsTypeName "x_v2_axis" := by decide
  exact ⟨⟨hkept, (snakeCase_pascalCase_eq_iff hkept).2 (by decide)⟩, hlost,
    fun h => absurd ((snakeCase_pascalCase_eq_iff hlost).1 h) (by decide)⟩

end Name

end ApiShapes
