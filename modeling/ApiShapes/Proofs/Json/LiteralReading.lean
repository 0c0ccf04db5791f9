import ApiShapes.Json.Reader
import ApiShapes.Json.Writer
import ApiShapes.Proofs.Text.Surrogates
import Mathlib.Tactic

/-!
# String literals read back

A text that is written as a literal is read back unchanged: each character's escape denotes the
character's own code, and no two codes of a text are joined, since a character is never a
surrogate.  The literal is also the whole of what a reader takes from a text that starts with it.
-/

namespace ApiShapes.Json

def smallHexDigits : List Char :=
  ['0', '1', '2', '3', '4', '5', '6', '7', '8', '9', 'a', 'b', 'c', 'd', 'e', 'f']

/-- A control is written with four hexadecimal digits that denote its code. -/
theorem hexPadded_of_control :
    ∀ n < 0x20, (Decimal.hexPadded 4 n).length = 4 ∧
      hexDigits? (Decimal.hexPadded 4 n) = some n ∧ Decimal.hexPadded 4 n ⊆ smallHexDigits := by
  decide

/-- What can follow the backslash of an escape. -/
def escapeLetters : List Char :=
  ['"', '\\', '/', 'b', 'f', 'n', 'r', 't', 'u']

/-- The characters that do not stand for themselves in a literal. -/
def IsEscaped (c : Char) : Prop :=
  c = '"' ∨ c = '\\' ∨ c.toNat < 0x20

instance (c : Char) : Decidable (IsEscaped c) :=
  inferInstanceAs (Decidable (_ ∨ _ ∨ _))

/-- A character stands for itself, or behind a backslash as a letter, or by its code. -/
theorem escapeChar_cases (c : Char) :
    (escapeChar c = [c] ∧ ¬ IsEscaped c) ∨
      (∃ l ∈ escapeLetters, escapeChar c = ['\\', l] ∧ unescapeChar? l = some c ∧ IsEscaped c) ∨
        ∃ h₁ h₂ h₃ h₄, escapeChar c = ['\\', 'u', h₁, h₂, h₃, h₄] ∧
          hexDigits? [h₁, h₂, h₃, h₄] = some c.toNat ∧ IsEscaped c ∧
          ∀ h ∈ [h₁, h₂, h₃, h₄], h ∈ smallHexDigits := by
  fun_cases escapeChar c with
  | case1 hc =>
      subst hc
      exact Or.inr (Or.inl ⟨'"', by decide, rfl, rfl, by decide⟩)
  | case2 _ hc =>
      subst hc
      exact Or.inr (Or.inl ⟨'\\', by decide, rfl, rfl, by decide⟩)
  | case3 _ _ hc =>
      subst hc
      exact Or.inr (Or.inl ⟨'n', by decide, rfl, rfl, by decide⟩)
  | case4 _ _ _ hc =>
      subst hc
      exact Or.inr (Or.inl ⟨'r', by decide, rfl, rfl, by decide⟩)
  | case5 _ _ _ _ hc =>
      subst hc
      exact Or.inr (Or.inl ⟨'t', by decide, rfl, rfl, by decide⟩)
  | case6 _ _ _ _ _ hc =>
      subst hc
      exact Or.inr (Or.inl ⟨'b', by decide, rfl, rfl, by decide⟩)
  | case7 _ _ _ _ _ _ hc =>
      subst hc
      exact Or.inr (Or.inl ⟨'f', by decide, rfl, rfl, by decide⟩)
  | case8 _ _ _ _ _ _ _ hcontrol =>
      obtain ⟨hlength, hvalue, hdigits⟩ := hexPadded_of_control c.toNat hcontrol
      obtain ⟨h₁, h₂, h₃, h₄, hpadded⟩ := List.length_eq_four.1 hlength
      rw [hpadded] at hvalue hdigits ⊢
      exact Or.inr (Or.inr ⟨h₁, h₂, h₃, h₄, rfl, hvalue, Or.inr (Or.inr hcontrol), hdigits⟩)
  | case9 hquote hslash _ _ _ _ _ hcontrol =>
      exact Or.inl ⟨rfl, by simp [IsEscaped, hquote, hslash, hcontrol]⟩

/-- An escape is a backslash, a letter, and digits if the letter asks for them. -/
theorem escapeChar_shape (c : Char) :
    (escapeChar c = [c] ∧ ¬ IsEscaped c) ∨
      ∃ l ∈ escapeLetters, ∃ more, escapeChar c = '\\' :: l :: more ∧ IsEscaped c ∧
        ∀ d ∈ more, d ∈ smallHexDigits := by
  rcases escapeChar_cases c with h | ⟨l, hmem, hc, -, hescaped⟩ |
      ⟨h₁, h₂, h₃, h₄, hc, -, hescaped, hdigits⟩
  · exact Or.inl h
  · exact Or.inr ⟨l, hmem, [], hc, hescaped, by simp⟩
  · exact Or.inr ⟨'u', by decide, _, hc, hescaped, hdigits⟩

theorem escape_cons (c : Char) (s : List Char) :
    escape (c :: s) = escapeChar c ++ escape s :=
  List.flatMap_cons

/-- The escape of a character denotes the character's code, wherever it stands in a literal. -/
theorem readCodes_escapeChar (c d : Char) (rest : List Char) :
    readCodes (escapeChar c ++ d :: rest) =
      (readCodes (d :: rest)).map fun (codes, left) => (c.toNat :: codes, left) := by
  rcases escapeChar_cases c with ⟨hc, hplain⟩ | ⟨l, -, hc, hl, -⟩ |
      ⟨h₁, h₂, h₃, h₄, hc, hvalue, -⟩
  · obtain ⟨hquote, hslash, hnot⟩ : c ≠ '"' ∧ c ≠ '\\' ∧ ¬ c.toNat < 0x20 := by
      simpa [IsEscaped, not_or] using hplain
    rw [hc, List.singleton_append, readCodes.eq_def]
    split <;> simp_all
  · have hu : l ≠ 'u' := by
      rintro rfl
      simp [unescapeChar?] at hl
    rw [hc, List.cons_append, List.singleton_append, readCodes, hl]
    · simp [hu]
    · simp [hu]
  · rw [hc]
    simp only [List.cons_append, List.nil_append]
    rw [readCodes, hvalue]

theorem readCodes_escape (s rest : List Char) :
    readCodes (escape s ++ '"' :: rest) = .ok (s.map Char.toNat, rest) := by
  induction s with
  | nil => rfl
  | cons c s ih =>
      obtain ⟨d, more, hmore⟩ : ∃ d more, escape s ++ '"' :: rest = d :: more :=
        List.exists_cons_of_ne_nil (by simp)
      rw [escape_cons, List.append_assoc, hmore, readCodes_escapeChar, ← hmore, ih]
      rfl

theorem charsOfCodes_map_toNat (s : List Char) : charsOfCodes (s.map Char.toNat) = s := by
  induction s with
  | nil => rfl
  | cons c s ih =>
      cases s with
      | nil => simp [charsOfCodes, Text.charOfCode_toNat]
      | cons d s =>
          simp only [List.map_cons] at ih ⊢
          rw [charsOfCodes, (Text.not_surrogate c).1, Bool.false_and, if_neg (by simp),
            Text.charOfCode_toNat, ih]

theorem readString_escape (s rest : List Char) :
    readString (escape s ++ '"' :: rest) = .ok (s, rest) := by
  simp [readString, readCodes_escape, charsOfCodes_map_toNat]

theorem quote_append (s rest : List Char) :
    quote s ++ rest = '"' :: (escape s ++ '"' :: rest) := by
  simp [quote]

/-- A text written as a literal is read back. -/
theorem readText_quote (s : List Char) :
    readText (quote s) = .ok (.text (String.ofList s)) := by
  have hvalue : readValue (2 * (quote s).length + 2) (skipSpace (quote s)) =
      .ok (.text (String.ofList s), []) := by
    have hskip : skipSpace (quote s) = quote s := rfl
    rw [hskip, quote, List.cons_append, readValue, readScalar, readString_escape]
    · rfl
    · simp
    · simp
  rw [readText, if_neg (by simp [quote]), hvalue]
  rfl

theorem toList_writeLine_text (s : String) :
    (writeLine (.text s)).toList = quote s.toList := by
  rw [writeLine, String.toList_ofList]
  rfl

end ApiShapes.Json
