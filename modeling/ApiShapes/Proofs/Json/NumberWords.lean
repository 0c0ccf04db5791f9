import ApiShapes.Proofs.Document.StepResults
import ApiShapes.Proofs.Json.OversizedIntegers
import ApiShapes.Proofs.Yaml.PlainScalars
import ApiShapes.Proofs.Yaml.PlainWords
import Mathlib.Tactic

/-!
# Numbers and names of JSON texts

What JSON writes without quotes is a plain word of YAML: a number or one of a few names.  YAML gives
each of them a value, if not always the same one.
-/

namespace ApiShapes.Json

variable {s : List Char}

/-- The text of a number: digits after an optional sign, and perhaps a fraction or an exponent. -/
structure NumberText (word : List Char) : Prop where
  parts : ∃ sign whole tail, word = sign ++ (whole ++ tail) ∧ (sign = [] ∨ sign = ['-']) ∧
    whole ≠ [] ∧ (∀ ch ∈ whole, Decimal.isDigit ch = true) ∧
    (whole.head? = some '0' → whole = ['0']) ∧ (∀ ch ∈ tail, Yaml.isWordLetter ch = true) ∧
    (∀ ch, tail.head? = some ch → ch = '.' ∨ ch = 'e' ∨ ch = 'E') ∧
    (tail = [] → whole.length ≤ digitLimit)

theorem isAlphanum_of_isDigit {ch : Char} (h : Decimal.isDigit ch = true) : ch.isAlphanum = true := by
  apply Decimal.forall_digit (p := fun ch => ch.isAlphanum = true) _ h
  decide

theorem isWordLetter_of_isDigit {ch : Char} (h : Decimal.isDigit ch = true) :
    Yaml.isWordLetter ch = true := by
  simp [Yaml.isWordLetter, isAlphanum_of_isDigit h]

/-! ## Reading -/

theorem takeInteger_shape {whole rest : List Char} (h : takeInteger s = some (whole, rest)) :
    whole ≠ [] ∧ (whole.head? = some '0' → whole = ['0']) := by
  unfold takeInteger at h
  split at h
  · cases h
    simp
  · next hzero =>
    dsimp only at h
    split at h
    · cases h
    · next hdigits =>
      cases h
      refine ⟨by simpa using hdigits, fun hhead => ?_⟩
      obtain ⟨more, hmore⟩ := List.head?_eq_some_iff.1 hhead
      cases s with
      | nil => cases hmore
      | cons ch s =>
          rw [List.takeWhile_cons] at hmore
          split at hmore
          · exact absurd (congrArg (· :: s) (List.cons.inj hmore).1) (hzero s)
          · cases hmore

theorem takeFraction_shape (s : List Char) :
    ∃ text, s = text ++ (takeFraction s).2 ∧ (∀ ch ∈ text, Yaml.isWordLetter ch = true) ∧
      (∀ ch, text.head? = some ch → ch = '.') ∧ (text = [] → (takeFraction s).1 = []) := by
  fun_cases takeFraction s with
  | case1 rest ds hempty => exact ⟨[], rfl, by simp, by simp, fun _ => rfl⟩
  | case2 rest ds hdigits =>
      refine ⟨'.' :: ds, ?_, ?_, ?_, fun hnil => absurd hnil (List.cons_ne_nil _ _)⟩
      · rw [List.cons_append, List.takeWhile_append_dropWhile]
      · refine List.forall_mem_cons.2 ⟨by decide, fun ch hch => ?_⟩
        exact isWordLetter_of_isDigit (List.mem_takeWhile_imp hch)
      · rintro ch hch
        cases hch
        rfl
  | case3 => exact ⟨[], rfl, by simp, by simp, fun _ => rfl⟩

theorem takeSign_shape (s : List Char) :
    ∃ sign, s = sign ++ (Decimal.takeSign s).2 ∧ ∀ ch ∈ sign, Yaml.isWordLetter ch = true := by
  fun_cases Decimal.takeSign s with
  | case1 rest => exact ⟨['-'], rfl, by decide⟩
  | case2 rest => exact ⟨['+'], rfl, by decide⟩
  | case3 => exact ⟨[], rfl, by simp⟩

theorem takeExponent_shape (s : List Char) :
    ∃ text, s = text ++ (takeExponent s).2 ∧ (∀ ch ∈ text, Yaml.isWordLetter ch = true) ∧
      (∀ ch, text.head? = some ch → ch = 'e' ∨ ch = 'E') ∧
      (text = [] → (takeExponent s).1 = none) := by
  fun_cases takeExponent s with
  | case1 e rest hletter negative ds hsign n hdigits =>
      obtain ⟨sign, hrest, hletters⟩ := takeSign_shape rest
      rw [hsign] at hrest
      have he : e = 'e' ∨ e = 'E' := by simpa using hletter
      refine ⟨e :: (sign ++ ds.takeWhile Decimal.isDigit), ?_, ?_, ?_,
        fun hnil => absurd hnil (List.cons_ne_nil _ _)⟩
      · rw [List.cons_append, List.append_assoc, List.takeWhile_append_dropWhile, hrest]
      · refine List.forall_mem_cons.2 ⟨by rcases he with rfl | rfl <;> decide, fun ch hch => ?_⟩
        rcases List.mem_append.1 hch with hch | hch
        · exact hletters ch hch
        · exact isWordLetter_of_isDigit (List.mem_takeWhile_imp hch)
      · rintro ch hch
        cases hch
        exact he
  | case2 | case3 | case4 => exact ⟨[], rfl, by simp, by simp, fun _ => rfl⟩

/-- A number that is read stands at the start of its text. -/
theorem numberText_of_readNumber {v : Value} {left : List Char}
    (h : readNumber s = .ok (v, left)) : ∃ word, s = word ++ left ∧ NumberText word := by
  unfold readNumber at h
  split at h
  next negative body hsign =>
  obtain ⟨sign, hs, hminus⟩ : ∃ sign, s = sign ++ body ∧ (sign = [] ∨ sign = ['-']) := by
    split at hsign
    · cases hsign
      exact ⟨['-'], rfl, .inr rfl⟩
    · cases hsign
      exact ⟨[], rfl, .inl rfl⟩
  split at h
  · cases h
  · next whole rest hwhole =>
    obtain ⟨rfl, hdigits⟩ := takeInteger_eq_some hwhole
    obtain ⟨hne, hzero⟩ := takeInteger_shape hwhole
    obtain ⟨fraction, hrest, hfraction, hpoint, hnone⟩ := takeFraction_shape rest
    obtain ⟨exponent, hrest', hexponent, hmark, hnone'⟩ := takeExponent_shape (takeFraction rest).2
    have hleft : left = (takeExponent (takeFraction rest).2).2 := by
      dsimp only at h
      split_ifs at h
      all_goals
        cases h
        rfl
    have htail : ∀ ch, (fraction ++ exponent).head? = some ch → ch = '.' ∨ ch = 'e' ∨ ch = 'E' := by
      intro ch hch
      cases fraction with
      | nil => exact .inr (hmark ch hch)
      | cons x fraction => exact .inl (hpoint ch hch)
    refine ⟨sign ++ (whole ++ (fraction ++ exponent)), ?_,
      ⟨sign, whole, fraction ++ exponent, rfl, hminus, hne, hdigits, hzero, ?_, htail, ?_⟩⟩
    · rw [hs, hleft]
      simp only [List.append_assoc]
      rw [← hrest', ← hrest]
    · intro ch hch
      exact (List.mem_append.1 hch).elim (hfraction ch) (hexponent ch)
    · intro hempty
      obtain ⟨hempty, hempty'⟩ := List.append_eq_nil_iff.1 hempty
      have hint : ((takeFraction rest).1.isEmpty &&
          (takeExponent (takeFraction rest).2).1.isNone) = true := by
        rw [hnone hempty, hnone' hempty']
        rfl
      dsimp only at h
      rw [if_pos hint] at h
      split at h
      · cases h
      · next hlong => omega

/-! ## Values by the form -/

/-- A scalar that goes by its form has a value, unless it is a merge key or default key, or one of
the forms without a value. -/
theorem exists_value_of_plain (hmisfit : ¬ Yaml.PlainMisfit s) (hmerge : s ≠ ['<', '<'])
    (hvalue : s ≠ ['=']) : ∃ v, Yaml.scalarValue (Yaml.plainTag s) s = .ok v := by
  cases hread : Yaml.scalarValue (Yaml.plainTag s) s with
  | ok v => exact ⟨v, rfl⟩
  | error fault =>
      have hfault : ∃ what, fault = .misfit what := by
        unfold Yaml.plainTag at hread
        split_ifs at hread
        · simp only [Yaml.scalarValue] at hread
          split at hread
          · cases hread
          · exact ⟨_, (Except.error.inj hread).symm⟩
        · obtain ⟨what, -, hwhat⟩ := mapError_eq_error_iff.1 hread
          exact ⟨what, hwhat.symm⟩
        · obtain ⟨what, -, hwhat⟩ := mapError_eq_error_iff.1 hread
          exact ⟨what, hwhat.symm⟩
        · cases hread
        · simp only [Yaml.scalarValue] at hread
          split at hread
          · obtain ⟨what, -, hwhat⟩ := mapError_eq_error_iff.1 hread
            exact ⟨_, hwhat.symm⟩
          · exact ⟨_, (Except.error.inj hread).symm⟩
        · cases hread
      obtain ⟨what, rfl⟩ := hfault
      exact absurd ((Yaml.misfit_plainTag_iff s).1 ⟨what, hread⟩) hmisfit

theorem takeDigits_eq_some {least most : Nat} {ds rest : List Char}
    (h : Yaml.takeDigits least most s = some (ds, rest)) :
    s = ds ++ rest ∧ least ≤ ds.length ∧ ∀ ch ∈ ds, Decimal.isDigit ch = true := by
  have hprefix : (s.take most).takeWhile Decimal.isDigit <+: s :=
    (List.takeWhile_prefix _).trans (List.take_prefix most s)
  unfold Yaml.takeDigits at h
  dsimp only at h
  split at h
  · cases h
  · next hlength =>
    cases h
    refine ⟨?_, by omega, fun ch hch => List.mem_takeWhile_imp hch⟩
    exact (List.prefix_iff_eq_append.1 hprefix).symm

theorem afterChar_eq_some {ch : Char} {rest : List Char} (h : Yaml.afterChar ch s = some rest) :
    s = ch :: rest := by
  unfold Yaml.afterChar at h
  split at h
  · split_ifs at h with hch
    cases h
    rw [hch]
  · cases h

/-- A timestamp starts with the digits of its year, before a minus sign. -/
theorem year_of_timestampText {t : Yaml.TimestampText} (h : Yaml.timestampText? s = some t) :
    ∃ year rest, s = year ++ '-' :: rest ∧ year ≠ [] ∧
      ∀ ch ∈ year, Decimal.isDigit ch = true := by
  unfold Yaml.timestampText? at h
  cases hyear : Yaml.takeDigits 4 4 s with
  | none =>
      rw [hyear] at h
      cases h
  | some found =>
      obtain ⟨year, rest⟩ := found
      rw [hyear] at h
      cases hminus : Yaml.afterChar '-' rest with
      | none =>
          dsimp only [Option.bind_eq_bind, Option.bind_some] at h
          rw [hminus] at h
          cases h
      | some more =>
          obtain ⟨rfl, hlength, hdigits⟩ := takeDigits_eq_some hyear
          cases afterChar_eq_some hminus
          refine ⟨year, more, rfl, ?_, hdigits⟩
          rintro rfl
          exact absurd hlength (by decide)

theorem NumberText.not_misfit (h : NumberText s) : ¬ Yaml.PlainMisfit s := by
  obtain ⟨sign, whole, tail, rfl, hsign, hne, hdigits, hzero, hletters, htail, hlong⟩ := h.parts
  have hunsigned : (Decimal.takeSign (sign ++ (whole ++ tail))).2 = whole ++ tail := by
    rcases hsign with rfl | rfl
    · obtain ⟨ch, more, rfl⟩ := List.exists_cons_of_ne_nil hne
      obtain ⟨hminus, hplus, -⟩ := (Decimal.startsNumber.ne (.inl (hdigits ch List.mem_cons_self)))
      rw [List.nil_append, List.cons_append, Decimal.takeSign_of_head hminus hplus]
    · rfl
  have hcolon : ':' ∉ whole ++ tail := by
    intro hmem
    have hletter : Yaml.isWordLetter ':' = true :=
      (List.mem_append.1 hmem).elim (fun h => isWordLetter_of_isDigit (hdigits _ h)) (hletters _)
    exact absurd hletter (by decide)
  rintro (⟨-, hread, -⟩ | ⟨hform, hlacks⟩ | ⟨-, hmany⟩)
  · obtain ⟨year, rest, heq, hyear, hall⟩ := year_of_timestampText hread
    obtain ⟨ch, year, rfl⟩ := List.exists_cons_of_ne_nil hyear
    rcases hsign with rfl | rfl
    · have hdrop : ((ch :: year) ++ '-' :: rest).dropWhile Decimal.isDigit = '-' :: rest :=
        (Decimal.takeWhile_digits hall (by rintro x hx; cases hx; decide)).2
      have htailDigit : ∀ x, tail.head? = some x → Decimal.isDigit x = false := by
        rintro x hx
        rcases htail x hx with rfl | rfl | rfl <;> decide
      rw [List.nil_append] at heq
      rw [← heq, (Decimal.takeWhile_digits hdigits htailDigit).2] at hdrop
      rcases htail '-' (by rw [hdrop]; rfl) with h | h | h <;> exact absurd h (by decide)
    · have hch : '-' = ch := (List.cons.inj heq).1
      exact absurd (hall ch List.mem_cons_self) (by rw [← hch]; decide)
  · have hint := (Yaml.form_of_plainTag _).2.2.1 hform
    rw [Yaml.isIntForm, hunsigned] at hint
    rw [hunsigned] at hlacks
    rcases hlacks with ⟨mark, rest, hmark, heq, -⟩ | ⟨hhead, hmany⟩
    · obtain ⟨ch, more, rfl⟩ := List.exists_cons_of_ne_nil hne
      cases (List.cons.inj heq).1
      cases hzero rfl
      have htailMark : tail = mark :: rest := (List.cons.inj heq).2
      rcases htail mark (by rw [htailMark]; rfl) with rfl | rfl | rfl <;>
        rcases hmark with h | h <;> exact absurd h (by decide)
    · rw [Text.splitAt_of_not_mem hcolon, List.headD_cons] at hmany
      unfold Yaml.isUnsignedInt at hint
      split at hint
      · next heq => exact hhead (by rw [heq]; rfl)
      · next heq => exact hhead (by rw [heq]; rfl)
      · next heq => exact hhead (by rw [heq]; rfl)
      · next heq => exact hhead (by rw [heq]; rfl)
      · rw [Text.splitAt_of_not_mem hcolon] at hint
        obtain ⟨d, rest, heq, hd, -, hrest⟩ := Yaml.exists_of_isGrouped (by decide) hint
        have hrun := Yaml.all_of_isDigit hd hrest
        rw [← heq] at hrun
        have hempty : tail = [] := by
          cases tail with
          | nil => rfl
          | cons ch tail =>
              have hch := List.all_eq_true.1 hrun ch (by simp)
              rcases htail ch rfl with rfl | rfl | rfl <;> exact absurd hch (by decide)
        have hbare := List.length_filter_le (· != '_') (whole ++ tail)
        have hlimit := hlong hempty
        rw [hempty, List.append_nil] at hmany hbare
        exact absurd (hmany.trans_le hbare) (by omega)
  · rw [hunsigned, Yaml.places_of_no_colon hcolon] at hmany
    exact absurd hmany (by decide)

/-- A number is a plain word. -/
theorem NumberText.exists_plainWord (h : NumberText s) :
    ∃ word : Yaml.PlainWord, word.text = s := by
  obtain ⟨sign, whole, tail, rfl, hsign, hne, hdigits, -, hletters, -⟩ := h.parts
  have hall : ∀ ch ∈ sign ++ (whole ++ tail), Yaml.isWordLetter ch = true := by
    simp only [List.forall_mem_append]
    refine ⟨?_, fun ch hch => isWordLetter_of_isDigit (hdigits ch hch), hletters⟩
    rcases hsign with rfl | rfl
    · simp
    · decide
  have hnot : ∀ ch, Yaml.isWordLetter ch = false → ch ∉ sign ++ (whole ++ tail) := by
    intro ch hch hmem
    rw [hall ch hmem] at hch
    cases hch
  have hmerge : sign ++ (whole ++ tail) ≠ ['<', '<'] :=
    fun heq => hnot '<' (by decide) (by rw [heq]; decide)
  have hvalue : sign ++ (whole ++ tail) ≠ ['='] :=
    fun heq => hnot '=' (by decide) (by rw [heq]; decide)
  obtain ⟨v, hv⟩ := exists_value_of_plain h.not_misfit hmerge hvalue
  obtain ⟨ch, more, rfl⟩ := List.exists_cons_of_ne_nil hne
  have hch : ch.isAlphanum = true := isAlphanum_of_isDigit (hdigits ch List.mem_cons_self)
  refine ⟨⟨_, v, hall, ?_, hv⟩, rfl⟩
  rcases hsign with rfl | rfl
  · exact ⟨ch, more ++ tail, rfl, .inl hch⟩
  · exact ⟨'-', ch :: (more ++ tail), rfl, .inr ⟨rfl, ch, more ++ tail, rfl, hch⟩⟩

/-! ## Names -/

theorem exists_plainWord_of_tag {first : Char} {more : List Char}
    (htag : Yaml.plainTag (first :: more) ∈ [.null, .bool, .str])
    (hletters : ∀ ch ∈ first :: more, Yaml.isWordLetter ch = true)
    (hfirst : first.isAlphanum = true ∨ first = '-' ∧ ∃ second others, more = second :: others ∧
      second.isAlphanum = true) : ∃ word : Yaml.PlainWord, word.text = first :: more := by
  have hmisfit : ¬ Yaml.PlainMisfit (first :: more) := by
    rintro (⟨hform, -, -⟩ | ⟨hform, -⟩ | ⟨hform, -⟩)
    all_goals
      rw [hform] at htag
      exact absurd htag (by decide)
  have hne : ∀ sign, Yaml.isWordLetter sign = false → first ≠ sign := by
    rintro sign hsign rfl
    rw [hletters first List.mem_cons_self] at hsign
    cases hsign
  obtain ⟨v, hv⟩ := exists_value_of_plain hmisfit
    (fun heq => hne '<' (by decide) (List.cons.inj heq).1)
    (fun heq => hne '=' (by decide) (List.cons.inj heq).1)
  exact ⟨⟨_, v, hletters, ⟨first, more, rfl, hfirst⟩, hv⟩, rfl⟩

/-- The names of values are plain words. -/
theorem exists_plainWord_of_word {name : String} {v : Value} (h : (name, v) ∈ words) :
    ∃ word : Yaml.PlainWord, word.text = name.toList := by
  simp only [words, List.mem_cons, Prod.mk.injEq, List.not_mem_nil, or_false] at h
  rcases h with ⟨rfl, -⟩ | ⟨rfl, -⟩ | ⟨rfl, -⟩ | ⟨rfl, -⟩ | ⟨rfl, -⟩ | ⟨rfl, -⟩
  · rw [show "null".toList = ['n', 'u', 'l', 'l'] by decide]
    exact exists_plainWord_of_tag (by decide) (by decide) (.inl (by decide))
  · rw [show "true".toList = ['t', 'r', 'u', 'e'] by decide]
    exact exists_plainWord_of_tag (by decide) (by decide) (.inl (by decide))
  · rw [show "false".toList = ['f', 'a', 'l', 's', 'e'] by decide]
    exact exists_plainWord_of_tag (by decide) (by decide) (.inl (by decide))
  · rw [show "NaN".toList = ['N', 'a', 'N'] by decide]
    exact exists_plainWord_of_tag (by decide) (by decide) (.inl (by decide))
  · rw [show "Infinity".toList = ['I', 'n', 'f', 'i', 'n', 'i', 't', 'y'] by decide]
    exact exists_plainWord_of_tag (by decide) (by decide) (.inl (by decide))
  · rw [show "-Infinity".toList = ['-', 'I', 'n', 'f', 'i', 'n', 'i', 't', 'y'] by decide]
    exact exists_plainWord_of_tag (by decide) (by decide) (.inr ⟨rfl, 'I', _, rfl, by decide⟩)

end ApiShapes.Json
