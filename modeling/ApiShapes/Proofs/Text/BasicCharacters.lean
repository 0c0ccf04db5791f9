import ApiShapes.Calendar
import ApiShapes.Decimal.Shortest
import ApiShapes.Proofs.Text.Surrogates
import Mathlib.Tactic

/-!
# Basic characters

Numbers and dates are written in printable characters of ASCII.  With the line feed these are the
characters of which both codecs build their notation.
-/

namespace ApiShapes

/-- The printable characters of ASCII, and the line feed. -/
def isBasic (c : Char) : Bool :=
  c == '\n' || (0x20 ≤ c.toNat && c.toNat ≤ 0x7E)

theorem forall_basic {p : Char → Prop} (h : ∀ n < 0x7F, isBasic (Char.ofNat n) → p (Char.ofNat n))
    {c : Char} (hc : isBasic c = true) : p c := by
  have hsmall : c.toNat < 0x7F := by
    simp only [isBasic, Bool.or_eq_true, beq_iff_eq, Bool.and_eq_true, decide_eq_true_eq] at hc
    rcases hc with rfl | hc
    · decide
    · omega
  have hp := h c.toNat hsmall
  rw [Char.ofNat_toNat] at hp
  exact hp hc

theorem isBasic_toUpper {c : Char} (hc : isBasic c = true) : isBasic c.toUpper = true :=
  forall_basic (p := fun c => isBasic c.toUpper = true) (by decide) hc

section Lists

variable {p : Char → Bool} {s t : List Char}

theorem all_of_subset (h : s ⊆ t) (ht : t.all p = true) : s.all p = true := by
  rw [List.all_eq_true] at ht ⊢
  exact fun c hc => ht c (h hc)

theorem all_of_basic (hp : ∀ c, isBasic c = true → p c = true) (h : s.all isBasic = true) :
    s.all p = true := by
  rw [List.all_eq_true] at h ⊢
  exact fun c hc => hp c (h c hc)

end Lists

/-! ## Numbers and dates -/

namespace Decimal

theorem all_toDigitsCore {base : Nat} (hpos : 0 < base) (hbase : base ≤ 16) (fuel n : Nat)
    {done : List Char} (h : done.all isBasic = true) :
    (Nat.toDigitsCore base fuel n done).all isBasic = true := by
  have hdigit : ∀ d < 16, isBasic (Nat.digitChar d) = true := by decide
  induction fuel generalizing n done with
  | zero => exact h
  | succ fuel ih =>
      have hmod := Nat.mod_lt n hpos
      have hnext : (Nat.digitChar (n % base) :: done).all isBasic = true := by
        rw [List.all_cons, hdigit (n % base) (by omega), h]
        rfl
      rw [Nat.toDigitsCore]
      split
      · exact hnext
      · exact ih _ hnext

@[simp]
theorem all_digits (n : Nat) : (digits n).all isBasic = true :=
  all_toDigitsCore (by omega) (by omega) _ n rfl

@[simp]
theorem all_padded (width n : Nat) : (padded width n).all isBasic = true := by
  simp +decide [padded]

@[simp]
theorem all_intDigits (n : Int) : (intDigits n).all isBasic = true := by
  unfold intDigits
  split <;> simp +decide

@[simp]
theorem all_hexPadded (width n : Nat) : (hexPadded width n).all isBasic = true := by
  have hdigits : (Nat.toDigits 16 n).all isBasic = true :=
    all_toDigitsCore (by omega) (by omega) _ n rfl
  simp +decide [hexPadded, hdigits]

@[simp]
theorem all_significantDigits (n : Nat) : (significantDigits n).all isBasic = true := by
  have hsubset : significantDigits n ⊆ digits n := by
    unfold significantDigits
    exact fun c hc => List.mem_reverse.1 ((List.dropWhile_sublist _).subset (List.mem_reverse.1 hc))
  exact all_of_subset hsubset (all_digits n)

theorem all_scientific {ds : List Char} (h : ds.all isBasic = true) (exponent : Int) :
    (scientific ds exponent).all isBasic = true := by
  have hsign : ∀ b : Prop, [Decidable b] → isBasic (if b then '-' else '+') = true := by
    intro b _
    split <;> decide
  unfold scientific
  split <;> simp_all +decide

theorem all_positional {ds : List Char} (h : ds.all isBasic = true) (exponent : Int) :
    (positional ds exponent).all isBasic = true := by
  have htake : ∀ n, (ds.take n).all isBasic = true := fun n => all_of_subset (ds.take_subset n) h
  have hdrop : ∀ n, (ds.drop n).all isBasic = true := fun n => all_of_subset (ds.drop_subset n) h
  unfold positional
  split
  · simp +decide [h]
  · dsimp only
    split <;> simp +decide [htake, hdrop]

theorem all_finiteText (negative : Bool) (significand : Nat) (exponent : Int) :
    (finiteText negative significand exponent).all isBasic = true := by
  unfold finiteText
  dsimp only
  split <;> split
  · decide
  · split <;> simp +decide [all_positional, all_scientific]
  · decide
  · split <;> simp +decide [all_positional, all_scientific]

/-- Whether the texts of the numbers without digits are basic. -/
def SpecialTexts.areBasic (special : SpecialTexts) : Bool :=
  [special.notANumber, special.infinite, special.negativeInfinite].all (·.toList.all isBasic)

theorem all_floatText {special : SpecialTexts} (h : special.areBasic = true) (x : Binary64) :
    (floatText special x).all isBasic = true := by
  simp only [SpecialTexts.areBasic, List.all_cons, List.all_nil, Bool.and_true,
    Bool.and_eq_true] at h
  unfold floatText
  split
  · exact h.1
  · exact h.2.1
  · exact h.2.2
  · exact all_finiteText _ _ _

end Decimal

@[simp]
theorem Date.all_isoText (d : Date) : d.isoText.all isBasic = true := by
  simp +decide [isoText]

theorem Moment.all_isoText {separator : Char} (h : isBasic separator = true) (t : Moment) :
    (t.isoText separator).all isBasic = true := by
  have hfraction : (if t.microsecond = 0 then [] else
      '.' :: Decimal.padded 6 t.microsecond).all isBasic = true := by
    split <;> simp +decide
  have hsign : ∀ minutes : Int, isBasic (if minutes < 0 then '-' else '+') = true := by
    intro minutes
    split <;> decide
  unfold isoText
  cases t.offset <;> simp +decide [hfraction, hsign, h]

end ApiShapes
