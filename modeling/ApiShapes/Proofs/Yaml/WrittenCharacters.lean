import ApiShapes.Proofs.Text.BasicCharacters
import ApiShapes.Proofs.Text.JoinedLines
import ApiShapes.Proofs.Text.Occurrence
import ApiShapes.Yaml.Writer
import Mathlib.Tactic

/-!
# Characters of YAML texts

A YAML text consists of characters that stand in a text without an escape; whatever else occurs in a
value is escaped between double quotes.  So no line ends by a carriage return, and a file can hold
every YAML text.
-/

namespace ApiShapes

namespace Yaml

theorem isWritable_of_isBasic (c : Char) (h : isBasic c = true) : isWritable c = true := by
  simp only [isWritable]
  rw [isBasic] at h
  simp [h]

theorem writable_of_basic {s : List Char} (h : s.all isBasic = true) : s.all isWritable = true :=
  all_of_basic isWritable_of_isBasic h

theorem writable_of_textStyle {s : List Char} (h : textStyle s ≠ .double) :
    s.all isWritable = true := by
  have hescape : needsEscape s = false := by
    unfold textStyle at h
    split at h
    · next hplain =>
      have hallowed := hplain.2
      simp only [allowsPlain, Bool.not_eq_true', Bool.or_eq_false_iff] at hallowed
      exact hallowed.1.1.1.1.1
    · split at h
      · next hsingle =>
        simp only [allowsSingle, Bool.not_eq_true', Bool.or_eq_false_iff] at hsingle
        exact hsingle.1
      · exact absurd rfl h
  simp only [needsEscape, Bool.or_eq_false_iff, List.any_eq_false, Bool.not_eq_true'] at hescape
  simpa using hescape.1

@[simp]
theorem all_freshLine (indent : Nat) : (freshLine indent).all isWritable = true := by
  simp +decide [freshLine]

theorem all_plainText {s : List Char} (h : s.all isWritable = true) (folding : Bool)
    (indent : Nat) (before : Option Char) (column : Nat) :
    (plainText folding indent before column s).all isWritable = true := by
  fun_induction plainText folding indent before column s with
  | case1 => rfl
  | case2 before column c rest hfold ih | case3 before column c rest hfold ih =>
      rw [List.all_cons, Bool.and_eq_true] at h
      simp [h.1, ih h.2]

theorem all_singleText {s : List Char} (h : s.all isWritable = true) (folding : Bool)
    (indent : Nat) (before : Option Char) (column : Nat) :
    (singleText folding indent before column s).all isWritable = true := by
  fun_induction singleText folding indent before column s with
  | case1 => rfl
  | case2 before column c rest hbreak doubled hnext ih
  | case3 before column c rest hbreak doubled hnext ih =>
      rw [List.all_cons, Bool.and_eq_true] at h
      have hdoubled : doubled.all isWritable = true := by
        simp only [doubled]
        split <;> simp +decide [h.1]
      simp +decide [hdoubled, ih h.2]
  | case4 before column rest hbreak ih =>
      rw [List.all_cons, Bool.and_eq_true] at h
      simp +decide [ih h.2]
  | case5 before column c rest hbreak hquote hfold ih
  | case6 before column c rest hbreak hquote hfold ih =>
      rw [List.all_cons, Bool.and_eq_true] at h
      simp [h.1, ih h.2]

theorem all_upperHex (width n : Nat) : (upperHex width n).all isWritable = true := by
  apply writable_of_basic
  rw [upperHex, List.all_map]
  have hhex := Decimal.all_hexPadded width n
  rw [List.all_eq_true] at hhex ⊢
  exact fun c hc => isBasic_toUpper (hhex c hc)

theorem all_of_escape? {c : Char} {text : List Char} (h : escape? c = some text) :
    text.all isWritable = true := by
  unfold escape? at h
  dsimp only at h
  split at h
  · next letter hletter =>
    have hletters : ∀ e ∈ letterEscapes, isWritable e.2 = true := by decide
    obtain ⟨before, after, hsplit, -⟩ := List.lookup_eq_some_iff.1 hletter
    have hmem : (c, letter) ∈ letterEscapes := by simp [hsplit]
    cases h
    simp +decide [hletters _ hmem]
  · split at h
    · cases h
    · split_ifs at h <;> cases h <;> simp +decide [all_upperHex]

theorem isWritable_of_escape?_none {c : Char} (h : escape? c = none) : isWritable c = true := by
  unfold escape? at h
  dsimp only at h
  split at h
  · cases h
  · split at h
    · next hrange =>
      simp only [isWritable]
      grind
    · split_ifs at h

theorem all_escapedBreak (indent : Nat) (after : Option Char) :
    (escapedBreak indent after).all isWritable = true := by
  unfold escapedBreak
  split <;> simp +decide

theorem all_doubleText (folding : Bool) (indent : Nat) (atStart afterEscape : Bool)
    (column : Nat) (s : List Char) :
    (doubleText folding indent atStart afterEscape column s).all isWritable = true := by
  fun_induction doubleText folding indent atStart afterEscape column s with
  | case1 => rfl
  | case2 _ _ _ c rest inside escape hescape _ _ ih =>
      simp [all_of_escape? hescape, all_escapedBreak, ih]
  | case3 _ _ _ c rest inside escape hescape _ _ ih => simp [all_of_escape? hescape, ih]
  | case4 _ _ _ c rest inside hescape _ ih =>
      simp [all_escapedBreak, isWritable_of_escape?_none hescape, ih]
  | case5 _ _ _ c rest inside hescape _ ih => simp [isWritable_of_escape?_none hescape, ih]

/-- Only between double quotes can a text stand that holds what is not writable. -/
theorem all_styledText {style : Style} {s : List Char}
    (h : style ≠ .double → s.all isWritable = true) (folding : Bool) (indent column : Nat) :
    (styledText style folding indent column s).all isWritable = true := by
  cases style with
  | plain => exact all_plainText (h nofun) folding indent none column
  | single => simp +decide [styledText, all_singleText (h nofun)]
  | double => simp +decide [styledText, all_doubleText]

theorem all_floatText (x : Binary64) : (floatText x).all isBasic = true := by
  have htext : (Decimal.floatText specialFloatTexts x).all isBasic = true :=
    Decimal.all_floatText (by decide) x
  unfold floatText
  dsimp only
  split
  · exact htext
  · split
    · next mantissa exponent hcut =>
      rw [Text.eq_append_of_cut? hcut] at htext
      simp_all +decide
    · exact htext

theorem isBasic_base64Digit (n : Nat) : isBasic (base64Digit n) = true := by
  have hsmall : ∀ n < 64, isBasic (base64Digit n) = true := by decide
  by_cases hn : n < 64
  · exact hsmall n hn
  · unfold base64Digit
    rw [if_neg (by omega), if_neg (by omega), if_neg (by omega), if_neg (by omega)]
    decide

theorem all_base64 (octets : List UInt8) : (base64 octets).all isBasic = true := by
  fun_induction base64 octets with
  | case1 a b c rest n ih => simp [isBasic_base64Digit, ih]
  | case2 a b n | case3 a n => simp +decide [isBasic_base64Digit]
  | case4 => rfl

theorem all_chunks (size : Nat) {s : List Char} (h : s.all isBasic = true) :
    (chunks size s).all (·.all isBasic) = true := by
  fun_induction chunks size s with
  | case1 => rfl
  | case2 s hs ih =>
      rw [List.all_cons, all_of_subset (s.take_subset size) h, Bool.true_and]
      exact ih (all_of_subset (s.drop_subset size) h)

/-! ### Scalars -/

/-- The parts of a scalar are writable, but for a text between double quotes. -/
def Written.IsWritable : Written → Prop
  | .styled tagName _ style text =>
    tagName.toList.all isWritable = true ∧ (style ≠ .double → text.all isWritable = true)
  | .lines tagName parts =>
    tagName.toList.all isWritable = true ∧ parts.all (·.all isWritable) = true

theorem isWritable_plainScalar {tagName : String} (htag : tagName.toList.all isWritable = true)
    {text : List Char} (h : text.all isBasic = true) : (plainScalar tagName text).IsWritable :=
  ⟨htag, fun _ => writable_of_basic h⟩

theorem isWritable_of_written? {v : Value} {scalar : Written} (h : written? v = some scalar) :
    scalar.IsWritable := by
  cases v with
  | null =>
      cases h
      exact isWritable_plainScalar (by decide) (by decide)
  | bool b => cases b <;> cases h <;> exact isWritable_plainScalar (by decide) (by decide)
  | int n =>
      cases h
      exact isWritable_plainScalar (by decide) (Decimal.all_intDigits n)
  | float x =>
      cases h
      exact isWritable_plainScalar (by decide) (all_floatText x)
  | date d =>
      cases h
      exact isWritable_plainScalar (by decide) d.all_isoText
  | moment t =>
      cases h
      exact isWritable_plainScalar (by decide) (t.all_isoText (by decide))
  | text s =>
      cases h
      exact ⟨by decide, writable_of_textStyle⟩
  | bytes octets =>
      cases octets with
      | nil =>
          cases h
          exact ⟨by decide, fun _ => rfl⟩
      | cons octet octets =>
          cases h
          have hparts := all_chunks 76 (all_base64 (octet :: octets))
          rw [List.all_eq_true] at hparts
          exact ⟨by decide, List.all_eq_true.2 fun part h => writable_of_basic (hparts part h)⟩
  | list | record | set | pair => cases h

theorem Written.IsWritable.text {scalar : Written} (h : scalar.IsWritable) (indent column : Nat) :
    (scalar.text indent column).all isWritable = true := by
  cases scalar with
  | styled tagName shown style text =>
      have htag : (if shown then tagName.toList ++ [' '] else []).all isWritable = true := by
        split <;> simp +decide [h.1]
      simp +decide [Written.text, htag, all_styledText h.2]
  | lines tagName parts =>
      simp +decide [Written.text, h.1, List.all_flatMap, List.all_append]
      simpa using h.2

theorem Written.IsWritable.keyText {scalar : Written} (h : scalar.IsWritable) :
    scalar.keyText.all isWritable = true := by
  cases scalar with
  | styled tagName shown style text =>
      have htag : (if shown then tagName.toList ++ [' '] else []).all isWritable = true := by
        split <;> simp +decide [h.1]
      simp [Written.keyText, htag, all_styledText h.2]
  | lines tagName parts => rfl

theorem Written.IsWritable.rootText {scalar : Written} (h : scalar.IsWritable) :
    scalar.rootText.all isWritable = true := by
  unfold Written.rootText
  split
  · simp +decide [h.text]
  · exact h.text 2 0

/-! ### Collections -/

theorem all_stacked (indent : Nat) {parts : List (List Char)}
    (h : parts.all (·.all isWritable) = true) : (stacked indent parts).all isWritable = true := by
  simp only [List.all_eq_true] at h ⊢
  intro c hc
  rcases Text.mem_of_mem_intercalate hc with hblank | ⟨part, hpart, hmem⟩
  · rw [List.eq_of_mem_replicate hblank]
    decide
  · exact h part hpart c hmem

theorem all_below (indent : Nat) {parts : List (List Char)}
    (h : parts.all (·.all isWritable) = true) : (below indent parts).all isWritable = true := by
  simp [below, all_stacked indent h]

/-- What is written for a value after a mark or a key, for one that is no collection. -/
theorem all_scalar (v : Value) (indent column : Nat) :
    (match written? v with
      | some scalar => ' ' :: scalar.text indent column
      | none => ['\n']).all isWritable = true := by
  split
  · next scalar hscalar => simp +decide [(isWritable_of_written? hscalar).text]
  · decide

mutual

theorem all_afterMark (indent : Nat) : (v : Value) → (afterMark indent v).all isWritable = true
  | .list items => by
    rw [afterMark]
    split
    · decide
    · simp +decide [all_stacked _ (all_itemParts (indent + 2) items)]
  | .pair a b => by
    rw [afterMark]
    have ha := all_afterMark (indent + 2) a
    have hb := all_afterMark (indent + 2) b
    rw [List.all_cons, all_stacked _ (by simp +decide [ha, hb])]
    decide
  | .record entries => by
    rw [afterMark]
    split
    · decide
    · simp +decide [all_stacked _ (all_entryParts (indent + 2) entries)]
  | .set items => by
    rw [afterMark]
    split
    · decide
    · simp +decide [all_below _ (all_memberParts (indent + 2) items)]
  | .null => all_scalar .null _ _
  | .bool b => all_scalar (.bool b) _ _
  | .int n => all_scalar (.int n) _ _
  | .float x => all_scalar (.float x) _ _
  | .text s => all_scalar (.text s) _ _
  | .bytes octets => all_scalar (.bytes octets) _ _
  | .date d => all_scalar (.date d) _ _
  | .moment t => all_scalar (.moment t) _ _

theorem all_afterKey (indent column : Nat) :
    (v : Value) → (afterKey indent column v).all isWritable = true
  | .list items => by
    rw [afterKey]
    split
    · decide
    · exact all_below _ (all_itemParts indent items)
  | .pair a b => by
    rw [afterKey]
    exact all_below _ (by simp +decide [all_afterMark indent a, all_afterMark indent b])
  | .record entries => by
    rw [afterKey]
    split
    · decide
    · exact all_below _ (all_entryParts (indent + 2) entries)
  | .set items => by
    rw [afterKey]
    split
    · decide
    · simp +decide [all_below _ (all_memberParts (indent + 2) items)]
  | .null => all_scalar .null _ _
  | .bool b => all_scalar (.bool b) _ _
  | .int n => all_scalar (.int n) _ _
  | .float x => all_scalar (.float x) _ _
  | .text s => all_scalar (.text s) _ _
  | .bytes octets => all_scalar (.bytes octets) _ _
  | .date d => all_scalar (.date d) _ _
  | .moment t => all_scalar (.moment t) _ _

theorem all_itemParts (indent : Nat) :
    (items : List Value) → (itemParts indent items).all (·.all isWritable) = true
  | [] => rfl
  | v :: rest => by
    rw [itemParts]
    simp +decide [all_afterMark indent v, all_itemParts indent rest]

theorem all_entryParts (indent : Nat) :
    (entries : List (Value × Value)) → (entryParts indent entries).all (·.all isWritable) = true
  | [] => rfl
  | (key, v) :: rest => by
    have hmarked : ('?' :: afterMark indent key ++ List.replicate indent ' ' ++
        ':' :: afterMark indent v).all isWritable = true := by
      simp +decide [all_afterMark indent key, all_afterMark indent v]
    rw [entryParts, List.all_cons, all_entryParts indent rest, Bool.and_true]
    dsimp only
    split
    · next scalar hscalar =>
      split
      · simp +decide [(isWritable_of_written? hscalar).keyText, all_afterKey indent _ v]
      · exact hmarked
    · exact hmarked

theorem all_memberParts (indent : Nat) :
    (items : List Value) → (memberParts indent items).all (·.all isWritable) = true
  | [] => rfl
  | key :: rest => by
    have hmarked : ('?' :: afterMark indent key ++ List.replicate indent ' ' ++
        ": null\n".toList).all isWritable = true := by
      simp +decide [all_afterMark indent key]
    rw [memberParts, List.all_cons, all_memberParts indent rest, Bool.and_true]
    split
    · next scalar hscalar =>
      split
      · simp +decide [(isWritable_of_written? hscalar).keyText]
      · exact hmarked
    · exact hmarked

end

end Yaml

end ApiShapes
