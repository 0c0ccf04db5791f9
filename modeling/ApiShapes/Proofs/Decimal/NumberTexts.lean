import ApiShapes.Decimal.Shortest
import ApiShapes.Proofs.Text.Trimming
import Mathlib.Tactic

/-!
# Texts of numbers

Digits of a base always denote a number, and a decimal text with a point and an exponent a float.
-/

namespace ApiShapes.Decimal

/-! ## Digits -/

def decimalDigits : List Char :=
  ['0', '1', '2', '3', '4', '5', '6', '7', '8', '9']

theorem mem_decimalDigits {c : Char} (h : isDigit c = true) : c ∈ decimalDigits := by
  simp only [isDigit, Bool.and_eq_true, decide_eq_true_eq, Char.le_def, UInt32.le_iff_toNat_le] at h
  have hlow : 48 ≤ c.toNat := h.1
  have hhigh : c.toNat ≤ 57 := h.2
  have hc : c = Char.ofNat c.toNat := (Char.ofNat_toNat c).symm
  rw [hc]
  interval_cases c.toNat <;> decide

/-- What is true of the ten digits. -/
theorem forall_digit {p : Char → Prop} (h : ∀ c ∈ decimalDigits, p c) {c : Char}
    (hc : isDigit c = true) : p c :=
  h c (mem_decimalDigits hc)

theorem digitValue?_of_isDigit {c : Char} (h : isDigit c = true) :
    ∃ d < 10, digitValue? c = some d := by
  revert c
  have hall : ∀ c ∈ decimalDigits, ∃ d < 10, digitValue? c = some d := by decide
  exact fun {c} h => forall_digit hall h

/-- A number with one more digit behind it. -/
def appendDigit? (base n : Nat) (c : Char) : Option Nat := do
  let d ← digitValue? c
  if d < base then some (n * base + d) else none

theorem appendDigit?_eq_some_iff {base n m : Nat} {c : Char} :
    appendDigit? base n c = some m ↔ ∃ d < base, digitValue? c = some d ∧ m = n * base + d := by
  rw [appendDigit?]
  cases digitValue? c with
  | none => simp
  | some d => simp [eq_comm]

theorem ofDigits?_eq_some_iff {base n : Nat} {digits : List Char} :
    ofDigits? base digits = some n ↔
      digits ≠ [] ∧ digits.foldlM (appendDigit? base) 0 = some n := by
  cases digits with
  | nil => simp [ofDigits?]
  | cons c digits => exact ⟨fun h => ⟨List.cons_ne_nil _ _, h⟩, And.right⟩

theorem exists_foldlM_appendDigit? {base : Nat} {s : List Char}
    (h : ∀ c ∈ s, ∃ d < base, digitValue? c = some d) (m : Nat) :
    ∃ n, s.foldlM (appendDigit? base) m = some n := by
  induction s generalizing m with
  | nil => exact ⟨m, rfl⟩
  | cons c s ih =>
      obtain ⟨⟨d, hd, hvalue⟩, hs⟩ := List.forall_mem_cons.1 h
      obtain ⟨n, hn⟩ := ih hs (m * base + d)
      refine ⟨n, ?_⟩
      rw [List.foldlM_cons, appendDigit?_eq_some_iff.2 ⟨d, hd, hvalue, rfl⟩]
      exact hn

theorem exists_ofDigits? {base : Nat} {digits : List Char} (hne : digits ≠ [])
    (h : ∀ c ∈ digits, ∃ d < base, digitValue? c = some d) :
    ∃ n, ofDigits? base digits = some n := by
  obtain ⟨n, hn⟩ := exists_foldlM_appendDigit? h 0
  exact ⟨n, ofDigits?_eq_some_iff.2 ⟨hne, hn⟩⟩

theorem exists_ofDigits?_ten {digits : List Char} (hne : digits ≠ [])
    (h : ∀ c ∈ digits, isDigit c = true) : ∃ n, ofDigits? 10 digits = some n :=
  exists_ofDigits? hne fun c hc => digitValue?_of_isDigit (h c hc)

theorem takeSign_of_head {c : Char} (hminus : c ≠ '-') (hplus : c ≠ '+') (s : List Char) :
    takeSign (c :: s) = (false, c :: s) := by
  unfold takeSign
  split
  · next heq => exact absurd (List.cons.inj heq).1 hminus
  · next heq => exact absurd (List.cons.inj heq).1 hplus
  · rfl

/-- Digit after digit the number is read, and each is below the base. -/
theorem foldlM_appendDigit?_cons {base m n : Nat} {c : Char} {s : List Char}
    (h : (c :: s).foldlM (appendDigit? base) m = some n) :
    ∃ d < base, digitValue? c = some d ∧ s.foldlM (appendDigit? base) (m * base + d) = some n := by
  rw [List.foldlM_cons, Option.bind_eq_bind, Option.bind_eq_some_iff] at h
  obtain ⟨k, hk, hrest⟩ := h
  obtain ⟨d, hd, hvalue, rfl⟩ := appendDigit?_eq_some_iff.1 hk
  exact ⟨d, hd, hvalue, hrest⟩

theorem foldlM_appendDigit?_lt {base m n : Nat} {s : List Char}
    (h : s.foldlM (appendDigit? base) m = some n) : n < (m + 1) * base ^ s.length := by
  induction s generalizing m with
  | nil =>
      cases h
      simp
  | cons c s ih =>
      obtain ⟨d, hd, -, hrest⟩ := foldlM_appendDigit?_cons h
      have hstep : m * base + d + 1 ≤ (m + 1) * base := by
        rw [Nat.add_mul]
        omega
      calc n < (m * base + d + 1) * base ^ s.length := ih hrest
        _ ≤ (m + 1) * base * base ^ s.length := Nat.mul_le_mul_right _ hstep
        _ = (m + 1) * base ^ (c :: s).length := by
          rw [List.length_cons, pow_succ]
          ring

theorem ofDigits?_lt {base n : Nat} {digits : List Char} (h : ofDigits? base digits = some n) :
    n < base ^ digits.length := by
  simpa using foldlM_appendDigit?_lt (ofDigits?_eq_some_iff.1 h).2

theorem exists_digitValue?_of_foldlM {base m n : Nat} {s : List Char}
    (h : s.foldlM (appendDigit? base) m = some n) : ∀ c ∈ s, ∃ d, digitValue? c = some d := by
  induction s generalizing m with
  | nil => exact nofun
  | cons c s ih =>
      obtain ⟨d, -, hvalue, hrest⟩ := foldlM_appendDigit?_cons h
      exact List.forall_mem_cons.2 ⟨⟨d, hvalue⟩, ih hrest⟩

theorem exists_digitValue? {base n : Nat} {digits : List Char}
    (h : ofDigits? base digits = some n) : ∀ c ∈ digits, ∃ d, digitValue? c = some d :=
  exists_digitValue?_of_foldlM (ofDigits?_eq_some_iff.1 h).2

/-! ## Floats -/

/-- Nothing, or a small `e` with a sign and digits. -/
def IsExponentText (s : List Char) : Prop :=
  s = [] ∨ ∃ sign digits, s = 'e' :: sign :: digits ∧ (sign = '+' ∨ sign = '-') ∧
    digits ≠ [] ∧ ∀ c ∈ digits, isDigit c = true

theorem takeWhile_digits {digits rest : List Char} (h : ∀ c ∈ digits, isDigit c = true)
    (hrest : ∀ c, rest.head? = some c → isDigit c = false) :
    (digits ++ rest).takeWhile isDigit = digits ∧ (digits ++ rest).dropWhile isDigit = rest := by
  rw [List.takeWhile_append_of_pos h, List.dropWhile_append_of_pos h]
  cases rest with
  | nil => simp
  | cons c rest =>
      have hc := hrest c rfl
      simp [hc]

/-- A number without sign starts with a digit or its point. -/
def startsNumber (c : Char) : Prop :=
  isDigit c = true ∨ c = '.'

theorem startsNumber.ne {c : Char} (h : startsNumber c) :
    c ≠ '-' ∧ c ≠ '+' ∧ c ≠ 'n' ∧ c ≠ 'i' := by
  rcases h with h | rfl
  · refine forall_digit (p := fun c => c ≠ '-' ∧ c ≠ '+' ∧ c ≠ 'n' ∧ c ≠ 'i') ?_ h
    decide
  · decide

theorem float?_of_parts {c : Char} {rest : List Char} {parts : Parts} (hc : startsNumber c)
    (h : parts? (c :: rest) = some parts) : float? (c :: rest) = some parts.value := by
  obtain ⟨hminus, hplus, hn, hi⟩ := hc.ne
  have hnan : ¬ c :: rest = "nan".toList := fun heq => hn (List.cons.inj heq).1
  have hinf : ¬ (c :: rest = "inf".toList ∨ c :: rest = "infinity".toList) := by
    rintro (heq | heq)
    · exact hi (List.cons.inj heq).1
    · exact hi (List.cons.inj heq).1
  unfold float?
  rw [takeSign_of_head hminus hplus, h]
  dsimp only
  rw [if_neg hnan, if_neg hinf]
  rfl

theorem parts?_of_point {whole fraction exponent : List Char}
    (hwhole : ∀ c ∈ whole, isDigit c = true) (hfraction : ∀ c ∈ fraction, isDigit c = true)
    (hexponent : IsExponentText exponent) (hne : whole ≠ [] ∨ fraction ≠ []) :
    ∃ parts, parts? (whole ++ '.' :: (fraction ++ exponent)) = some parts := by
  have hsign : takeSign (whole ++ '.' :: (fraction ++ exponent)) =
      (false, whole ++ '.' :: (fraction ++ exponent)) := by
    cases whole with
    | nil => rfl
    | cons c whole =>
        have hc : startsNumber c := .inl (hwhole c List.mem_cons_self)
        exact takeSign_of_head hc.ne.1 hc.ne.2.1 _
  have hexponentHead : ∀ c, exponent.head? = some c → isDigit c = false := by
    rcases hexponent with rfl | ⟨sign, digits, rfl, -⟩
    · simp
    · rintro c hc
      cases hc
      decide
  have hpoint : ∀ c, ('.' :: (fraction ++ exponent)).head? = some c → isDigit c = false := by
    rintro c hc
    cases hc
    decide
  obtain ⟨htake, hdrop⟩ := takeWhile_digits hwhole hpoint
  obtain ⟨htake', hdrop'⟩ := takeWhile_digits hfraction hexponentHead
  have hempty : (whole.isEmpty && fraction.isEmpty) = false := by
    rcases hne with h | h <;> simp [h]
  unfold parts?
  rw [hsign]
  dsimp only
  rw [htake, hdrop, takePoint, htake', hdrop']
  dsimp only
  rw [hempty]
  rcases hexponent with rfl | ⟨sign, digits, rfl, hsigns, hdigits, hall⟩
  · exact ⟨_, rfl⟩
  · obtain ⟨n, hn⟩ := exists_ofDigits?_ten hdigits hall
    rcases hsigns with rfl | rfl <;> simp [takeSign, hn]

theorem exists_float?_of_point {whole fraction exponent : List Char}
    (hwhole : ∀ c ∈ whole, isDigit c = true) (hfraction : ∀ c ∈ fraction, isDigit c = true)
    (hexponent : IsExponentText exponent) (hne : whole ≠ [] ∨ fraction ≠ []) :
    ∃ x, float? (whole ++ '.' :: (fraction ++ exponent)) = some x := by
  obtain ⟨parts, hparts⟩ := parts?_of_point hwhole hfraction hexponent hne
  cases whole with
  | nil => exact ⟨_, float?_of_parts (.inr rfl) hparts⟩
  | cons c whole => exact ⟨_, float?_of_parts (.inl (hwhole c List.mem_cons_self)) hparts⟩

theorem exists_float?_of_digits {digits : List Char} (hne : digits ≠ [])
    (h : ∀ c ∈ digits, isDigit c = true) : ∃ x, float? digits = some x := by
  obtain ⟨c, rest, rfl⟩ := List.exists_cons_of_ne_nil hne
  have hc : startsNumber c := .inl (h c List.mem_cons_self)
  obtain ⟨htake, hdrop⟩ := @takeWhile_digits _ [] h (by simp)
  rw [List.append_nil] at htake hdrop
  refine ⟨_, @float?_of_parts c rest ⟨false, c :: rest, [], 0⟩ hc ?_⟩
  unfold parts?
  rw [takeSign_of_head hc.ne.1 hc.ne.2.1]
  dsimp only
  rw [htake, hdrop]
  rfl

end ApiShapes.Decimal
