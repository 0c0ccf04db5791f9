import ApiShapes.Text.Surrogate
import Mathlib.Tactic

/-!
# Codes and characters

The code of a character is none of a surrogate, so the character is read back from it.  A lone
surrogate is read as a character of a block of its own, and a text can be encoded if it holds none
of that block.
-/

namespace ApiShapes.Text

theorem not_surrogate (c : Char) :
    isHighSurrogate c.toNat = false ∧ isLowSurrogate c.toNat = false := by
  have hvalid : c.toNat < 0xD800 ∨ (0xDFFF < c.toNat ∧ c.toNat < 0x110000) := c.valid
  simp only [isHighSurrogate, isLowSurrogate, Bool.and_eq_false_iff, decide_eq_false_iff_not]
  omega

theorem charOfCode_toNat (c : Char) : charOfCode c.toNat = c := by
  obtain ⟨hhigh, hlow⟩ := not_surrogate c
  rw [charOfCode, hhigh, hlow]
  exact Char.ofNat_toNat c

theorem toNat_ofNat_of_valid {n : Nat} (h : n.isValidChar) : (Char.ofNat n).toNat = n := by
  rw [Char.ofNat, dif_pos h]
  rfl

theorem toNat_charOfCode_of_high {code : Nat} (h : isHighSurrogate code = true) :
    (charOfCode code).toNat = code + 0xD0000 := by
  rw [charOfCode, h, Bool.true_or, if_pos rfl]
  simp only [isHighSurrogate, Bool.and_eq_true, decide_eq_true_eq] at h
  exact toNat_ofNat_of_valid (.inr (by omega))

end ApiShapes.Text
