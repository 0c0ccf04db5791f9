import ApiShapes.Proofs.Decimal.NumberTexts
import ApiShapes.Proofs.Document.StepResults
import ApiShapes.Proofs.Text.Occurrence
import ApiShapes.Yaml.Scalar
import Mathlib.Tactic

/-!
# Plain numbers

A float by its form has a value unless it has more places in sixties than a float has weights for,
and an integer by its form unless no digit follows the mark of its base or it has more digits than
are read.
-/

namespace ApiShapes.Yaml

/-! ## Texts of numbers -/

/-- The text of a float without underscores, in small letters. -/
def bareSmall (s : List Char) : List Char :=
  lowerText (bare s)

theorem bareSmall_append (s t : List Char) : bareSmall (s ++ t) = bareSmall s ++ bareSmall t := by
  simp [bareSmall, bare, lowerText]

theorem isDigit_of_mem_bare {run : List Char} (h : run.all isDigitOrUnderscore = true) {c : Char}
    (hc : c ∈ bare run) : Decimal.isDigit c = true := by
  obtain ⟨hmem, hne⟩ := List.mem_filter.1 hc
  have hboth := List.all_eq_true.1 h c hmem
  simp_all [isDigitOrUnderscore]

theorem lowerText_digits {s : List Char} (h : ∀ c ∈ s, Decimal.isDigit c = true) :
    lowerText s = s := by
  have hsmall : ∀ c ∈ Decimal.decimalDigits, c.toLower = c := by decide
  exact (List.map_congr_left fun c hc => Decimal.forall_digit hsmall (h c hc)).trans (List.map_id s)

theorem ne_underscore_of_isDigit {c : Char} (h : Decimal.isDigit c = true) : c ≠ '_' :=
  Decimal.forall_digit (p := fun c => c ≠ '_') (by decide) h

theorem bare_digits {s : List Char} (h : ∀ c ∈ s, Decimal.isDigit c = true) : bare s = s :=
  List.filter_eq_self.2 fun c hc => bne_iff_ne.2 (ne_underscore_of_isDigit (h c hc))

theorem bareSmall_digits {s : List Char} (h : ∀ c ∈ s, Decimal.isDigit c = true) :
    bareSmall s = s := by
  rw [bareSmall, bare_digits h, lowerText_digits h]

theorem bareSmall_run {run : List Char} (h : run.all isDigitOrUnderscore = true) :
    bareSmall run = bare run :=
  lowerText_digits fun _ hc => isDigit_of_mem_bare h hc

theorem toLower_eq_iff {c d : Char} (hd : d = '-' ∨ d = '+' ∨ d = ':') :
    c.toLower = d ↔ c = d := by
  by_cases hcapital : 65 ≤ c.toNat ∧ c.toNat ≤ 90
  · have hall : ∀ n ∈ List.range' 65 26, ∀ d ∈ ['-', '+', ':'],
        (Char.ofNat n).toLower ≠ d ∧ Char.ofNat n ≠ d := by decide
    have hc := hall c.toNat (by rw [List.mem_range'_1]; omega) d (by simpa using hd)
    rw [Char.ofNat_toNat] at hc
    exact iff_of_false hc.1 hc.2
  · have hsame : c.toLower = c := by
      unfold Char.toLower
      exact dif_neg hcapital
    rw [hsame]

theorem takeSign_bareSmall {s : List Char} (h : s.head? ≠ some '_') :
    (Decimal.takeSign (bareSmall s)).2 = bareSmall (Decimal.takeSign s).2 := by
  cases s with
  | nil => rfl
  | cons c s =>
      by_cases hminus : c = '-'
      · subst hminus
        rfl
      · by_cases hplus : c = '+'
        · subst hplus
          rfl
        · have hunderscore : c ≠ '_' := by simpa using h
          have hcons : bareSmall (c :: s) = c.toLower :: bareSmall s := by
            simp [bareSmall, bare, lowerText, hunderscore]
          rw [Decimal.takeSign_of_head hminus hplus, hcons, Decimal.takeSign_of_head]
          · exact mt (toLower_eq_iff (.inl rfl)).1 hminus
          · exact mt (toLower_eq_iff (.inr (.inl rfl))).1 hplus

/-- The characters that a number's text keeps as they are. -/
def IsNumberChar (c : Char) : Prop :=
  c.toNat < 128 ∧ isNumberSpace c = false

instance (c : Char) : Decidable (IsNumberChar c) :=
  inferInstanceAs (Decidable (_ ∧ _))

theorem numberText_eq_self {s : List Char} (h : ∀ c ∈ s, IsNumberChar c) : numberText s = s := by
  have hascii : (s.all (·.toNat < 128)) = true := by
    simpa using fun c hc => (h c hc).1
  have hstart : ∀ t : List Char, (∀ c ∈ t, c ∈ s) → t.dropWhile isNumberSpace = t := by
    intro t ht
    cases t with
    | nil => rfl
    | cons c t => simp [(h c (ht c List.mem_cons_self)).2]
  rw [numberText, if_pos hascii, hstart s fun _ hc => hc,
    hstart s.reverse fun _ hc => List.mem_reverse.1 hc, List.reverse_reverse]

/-- A text as decimal floats are read: digits, a point, and perhaps an exponent. -/
structure IsPointText (s : List Char) : Prop where
  readable : ∃ x, decimalFloat s = .ok x
  chars : ∀ c ∈ s, c ≠ ':' ∧ c ≠ 'i' ∧ c ≠ 'n'

theorem isPointText {whole fraction exponent : List Char}
    (hwhole : ∀ c ∈ whole, Decimal.isDigit c = true)
    (hfraction : ∀ c ∈ fraction, Decimal.isDigit c = true)
    (hexponent : Decimal.IsExponentText exponent) (hne : whole ≠ [] ∨ fraction ≠ []) :
    IsPointText (whole ++ '.' :: (fraction ++ exponent)) := by
  have hdigit : ∀ {c : Char}, Decimal.isDigit c = true →
      IsNumberChar c ∧ c ≠ ':' ∧ c ≠ 'i' ∧ c ≠ 'n' :=
    Decimal.forall_digit
      (p := fun c => IsNumberChar c ∧ c ≠ ':' ∧ c ≠ 'i' ∧ c ≠ 'n') (by decide)
  have hexponentChar : ∀ c ∈ exponent, IsNumberChar c ∧ c ≠ ':' ∧ c ≠ 'i' ∧ c ≠ 'n' := by
    rcases hexponent with rfl | ⟨sign, digits, rfl, hsign, -, hdigits⟩
    · simp
    · rw [List.forall_mem_cons, List.forall_mem_cons]
      refine ⟨by decide, ?_, fun c hc => hdigit (hdigits c hc)⟩
      rcases hsign with rfl | rfl <;> decide
  have hall : ∀ c ∈ whole ++ '.' :: (fraction ++ exponent),
      IsNumberChar c ∧ c ≠ ':' ∧ c ≠ 'i' ∧ c ≠ 'n' := by
    intro c hc
    simp only [List.mem_append, List.mem_cons] at hc
    rcases hc with hc | rfl | hc | hc
    · exact hdigit (hwhole c hc)
    · decide
    · exact hdigit (hfraction c hc)
    · exact hexponentChar c hc
  obtain ⟨x, hx⟩ := Decimal.exists_float?_of_point hwhole hfraction hexponent hne
  refine ⟨⟨x, ?_⟩, fun c hc => (hall c hc).2⟩
  rw [decimalFloat, numberText_eq_self fun c hc => (hall c hc).1, hx]

theorem decimalFloat_digits {digits : List Char} (hne : digits ≠ [])
    (h : ∀ c ∈ digits, Decimal.isDigit c = true) : ∃ x, decimalFloat digits = .ok x := by
  have hplain : ∀ c ∈ Decimal.decimalDigits, IsNumberChar c := by decide
  obtain ⟨x, hx⟩ := Decimal.exists_float?_of_digits hne h
  refine ⟨x, ?_⟩
  rw [decimalFloat, numberText_eq_self fun c hc => Decimal.forall_digit hplain (h c hc), hx]

theorem isExponentText_bareSmall {s : List Char} (h : isExponent s = true) :
    Decimal.IsExponentText (bareSmall s) := by
  unfold isExponent at h
  split at h
  · exact .inl rfl
  · next e sign digits =>
    simp only [Bool.and_eq_true, Bool.or_eq_true, beq_iff_eq, isRun, Bool.not_eq_true',
      List.all_eq_true] at h
    obtain ⟨⟨he, hsign⟩, hne, hdigits⟩ := h
    have hcons : bareSmall (e :: sign :: digits) = 'e' :: sign :: bareSmall digits := by
      rcases he with rfl | rfl <;> rcases hsign with rfl | rfl <;> rfl
    exact .inr ⟨sign, digits, by rw [hcons, bareSmall_digits hdigits], hsign, by simpa using hne, hdigits⟩
  · cases h

/-- Leaving out underscores and changing letters keeps the places of a number. -/
theorem splitAt_map_bare {f : Char → Char} (hf : ∀ c, f c = ':' ↔ c = ':') (s : List Char) :
    Text.splitAt ':' ((bare s).map f) =
      (Text.splitAt ':' s).map fun piece => (bare piece).map f := by
  let keep : Char → Option Char := fun c => if c = '_' then none else some (f c)
  have hkeep : ∀ s, (bare s).map f = s.filterMap keep := by
    intro s
    rw [← List.filterMap_eq_map, bare, List.filterMap_filter]
    apply List.filterMap_congr
    intro c _
    by_cases hc : c = '_' <;> simp [keep, hc]
  rw [funext hkeep, hkeep]
  refine Text.splitAt_filterMap (fun c => ?_) s
  by_cases hc : c = '_'
  · have hnone : keep c = none := if_pos hc
    rw [hnone, hc]
    exact iff_of_false nofun (by decide)
  · have hsome : keep c = some (f c) := if_neg hc
    rw [hsome, Option.some.injEq]
    exact hf c

theorem splitAt_bareSmall (s : List Char) :
    Text.splitAt ':' (bareSmall s) = (Text.splitAt ':' s).map bareSmall :=
  splitAt_map_bare (fun _ => toLower_eq_iff (.inr (.inr rfl))) s

theorem splitAt_bare (s : List Char) :
    Text.splitAt ':' (bare s) = (Text.splitAt ':' s).map bare := by
  simpa using splitAt_map_bare (f := id) (fun _ => Iff.rfl) s

/-! ## Floats -/

/-- There is no value. -/
def Fails {α : Type} (r : Except Misfit α) : Prop :=
  ∃ what, r = .error what

theorem not_fails_ok {α : Type} {r : Except Misfit α} (h : ∃ a, r = .ok a) : ¬ Fails r := by
  rintro ⟨what, hwhat⟩
  obtain ⟨a, ha⟩ := h
  rw [ha] at hwhat
  cases hwhat

theorem fails_map {α β : Type} {r : Except Misfit α} {f : α → β} : Fails (r.map f) ↔ Fails r := by
  cases r with
  | ok a => exact iff_of_false (not_fails_ok ⟨_, rfl⟩) (not_fails_ok ⟨_, rfl⟩)
  | error what => exact iff_of_true ⟨_, rfl⟩ ⟨_, rfl⟩

/-- The number of places of a number in sixties, one for any other number. -/
def places (unsigned : List Char) : Nat :=
  (Text.splitAt ':' unsigned).length

theorem places_bareSmall (s : List Char) : places (bareSmall s) = places s := by
  simp [places, splitAt_bareSmall]

theorem places_of_no_colon {s : List Char} (h : ':' ∉ s) : places s = 1 := by
  simp [places, Text.splitAt_of_not_mem h]

theorem fails_unsignedFloat_of_point {unsigned : List Char} (h : IsPointText unsigned) :
    Fails (unsignedFloat unsigned) ↔ placeLimit < places unsigned := by
  have hinf : unsigned ≠ ".inf".toList := by
    rintro rfl
    exact (h.chars 'i' (by decide)).2.1 rfl
  have hnan : unsigned ≠ ".nan".toList := by
    rintro rfl
    exact (h.chars 'n' (by decide)).2.2 rfl
  have hcolon : ':' ∉ unsigned := fun hmem => (h.chars ':' hmem).1 rfl
  rw [unsignedFloat, if_neg hinf, if_neg hnan, if_neg (by simpa using hcolon),
    places_of_no_colon hcolon]
  exact iff_of_false (not_fails_ok h.readable) (by decide)

theorem fails_unsignedFloat_of_places {unsigned : List Char} (hcolon : ':' ∈ unsigned)
    (h : ∀ place ∈ Text.splitAt ':' unsigned, ∃ x, decimalFloat place = .ok x) :
    Fails (unsignedFloat unsigned) ↔ placeLimit < places unsigned := by
  have hinf : unsigned ≠ ".inf".toList := by
    rintro rfl
    exact absurd hcolon (by decide)
  have hnan : unsigned ≠ ".nan".toList := by
    rintro rfl
    exact absurd hcolon (by decide)
  obtain ⟨xs, hxs, hlength⟩ := exists_mapM_eq_ok h
  have hsum : unsignedFloat unsigned = floatSixties xs.reverse := by
    rw [unsignedFloat, if_neg hinf, if_neg hnan, if_pos (by simpa using hcolon), hxs]
    rfl
  rw [hsum, places, ← hlength, floatSixties, List.length_reverse]
  split
  · next hlong => exact iff_of_true ⟨_, rfl⟩ hlong
  · next hshort => exact iff_of_false (not_fails_ok ⟨_, rfl⟩) hshort

/-- A float fails exactly if it fails without its sign and underscores. -/
theorem fails_floatValue {s : List Char} {c : Char} {rest : List Char}
    (h : (Decimal.takeSign s).2 = c :: rest) (hc : Decimal.startsNumber c) :
    Fails (floatValue s) ↔ Fails (unsignedFloat (bareSmall (c :: rest))) := by
  have hunderscore : c ≠ '_' := by
    rcases hc with hc | rfl
    · exact ne_underscore_of_isDigit hc
    · decide
  have hhead : s.head? ≠ some '_' := by
    intro hs
    cases s with
    | nil => cases hs
    | cons d s =>
        cases hs
        rw [Decimal.takeSign_of_head (by decide) (by decide)] at h
        exact hunderscore (List.cons.inj h).1.symm
  have hsign := takeSign_bareSmall hhead
  rw [h] at hsign
  have hne : bareSmall (c :: rest) ≠ [] := by
    simp [bareSmall, bare, lowerText, hunderscore]
  have hnonempty : (bareSmall s).isEmpty = false := by
    cases hs : bareSmall s with
    | nil =>
        rw [hs] at hsign
        exact absurd hsign.symm hne
    | cons d t => rfl
  unfold floatValue
  change Fails (if (bareSmall s).isEmpty = true then _ else _) ↔ _
  rw [if_neg (by simp [hnonempty]), ← hsign]
  exact fails_map

theorem exists_of_isGrouped {first : Char} {s : List Char} (hfirst : '0' ≤ first)
    (h : isGrouped first s = true) :
    ∃ d rest, s = d :: rest ∧ Decimal.isDigit d = true ∧ first ≤ d ∧
      rest.all isDigitOrUnderscore = true := by
  cases s with
  | nil => cases h
  | cons d rest =>
      simp only [isGrouped, Bool.and_eq_true, decide_eq_true_eq] at h
      obtain ⟨⟨hlow, hhigh⟩, hrest⟩ := h
      have hdigit : Decimal.isDigit d = true := by
        simp [Decimal.isDigit, Char.le_trans hfirst hlow, hhigh]
      exact ⟨d, rest, rfl, hdigit, hlow, hrest⟩

theorem digits_of_run {s : List Char} (h : s.all isDigitOrUnderscore = true) :
    bareSmall s = bare s ∧ ∀ c ∈ bare s, Decimal.isDigit c = true :=
  ⟨bareSmall_run h, fun _ hc => isDigit_of_mem_bare h hc⟩

theorem all_of_isDigit {d : Char} {rest : List Char} (hd : Decimal.isDigit d = true)
    (h : rest.all isDigitOrUnderscore = true) : (d :: rest).all isDigitOrUnderscore = true := by
  simpa [isDigitOrUnderscore, hd] using h

theorem bare_ne_nil_of_isDigit {d : Char} {rest : List Char} (hd : Decimal.isDigit d = true) :
    bare (d :: rest) ≠ [] := by
  simp [bare, ne_underscore_of_isDigit hd]

theorem isPointText_append {whole rest : List Char} (hwhole : whole.all isDigitOrUnderscore = true)
    (hrest : isExponent (rest.dropWhile isDigitOrUnderscore) = true)
    (hne : bare whole ≠ [] ∨ bare (rest.takeWhile isDigitOrUnderscore) ≠ []) :
    IsPointText (bareSmall (whole ++ '.' :: rest)) := by
  have hrun : (rest.takeWhile isDigitOrUnderscore).all isDigitOrUnderscore = true :=
    List.all_takeWhile
  obtain ⟨hsmall, hdigits⟩ := digits_of_run hwhole
  obtain ⟨hsmall', hdigits'⟩ := digits_of_run hrun
  have hsplit : bareSmall (whole ++ '.' :: rest) =
      bare whole ++ '.' :: (bare (rest.takeWhile isDigitOrUnderscore) ++
        bareSmall (rest.dropWhile isDigitOrUnderscore)) := by
    rw [← hsmall, ← hsmall', ← bareSmall_append, List.takeWhile_append_dropWhile, bareSmall_append]
    rfl
  rw [hsplit]
  exact isPointText hdigits hdigits' (isExponentText_bareSmall hrest) hne

theorem isPointText_of_isPointed {s : List Char} (h : isPointed s = true) :
    IsPointText (bareSmall s) ∧ ∃ c rest, s = c :: rest ∧ Decimal.startsNumber c := by
  unfold isPointed at h
  split at h
  · next whole rest hcut =>
    obtain rfl := Text.eq_append_of_cut? hcut
    rw [Bool.and_eq_true] at h
    obtain ⟨d, more, rfl, hd, -, hmore⟩ := exists_of_isGrouped (Char.le_refl _) h.1
    refine ⟨?_, d, _, rfl, .inl hd⟩
    exact isPointText_append (all_of_isDigit hd hmore) h.2 (.inl (bare_ne_nil_of_isDigit hd))
  · cases h

theorem isPointText_of_isBarePointed {s : List Char} (h : isBarePointed s = true) :
    IsPointText (bareSmall s) ∧ ∃ rest, s = '.' :: rest := by
  unfold isBarePointed at h
  split at h
  · next d rest =>
    rw [Bool.and_eq_true] at h
    have hd : isDigitOrUnderscore d = true := by simp [isDigitOrUnderscore, h.1]
    refine ⟨?_, d :: rest, rfl⟩
    refine @isPointText_append [] (d :: rest) rfl ?_ ?_
    · rw [List.dropWhile_cons_of_pos hd]
      exact h.2
    · rw [List.takeWhile_cons_of_pos hd]
      exact .inr (bare_ne_nil_of_isDigit h.1)
  · cases h

theorem digits_of_isSixtieth {s : List Char} (h : isSixtieth s = true) :
    s ≠ [] ∧ ∀ c ∈ s, Decimal.isDigit c = true := by
  unfold isSixtieth at h
  split at h
  · exact ⟨List.cons_ne_nil _ _, by simpa using h⟩
  · next t d =>
    simp only [Bool.and_eq_true, decide_eq_true_eq] at h
    obtain ⟨⟨hlow, hhigh⟩, hd⟩ := h
    have ht : Decimal.isDigit t = true := by
      have hnine : t ≤ '9' := Char.le_trans hhigh (by decide)
      simp [Decimal.isDigit, hlow, hnine]
    exact ⟨List.cons_ne_nil _ _, by simp [ht, hd]⟩
  · cases h

/-- A place of a number in sixties, the first one or a later one. -/
def IsPlace (s : List Char) : Prop :=
  bareSmall s ≠ [] ∧ ∀ c ∈ bareSmall s, Decimal.isDigit c = true

theorem isPlace_of_isGrouped {first : Char} {s : List Char} (hfirst : '0' ≤ first)
    (h : isGrouped first s = true) : IsPlace s := by
  obtain ⟨d, rest, rfl, hd, -, hrest⟩ := exists_of_isGrouped hfirst h
  obtain ⟨hsmall, hdigits⟩ := digits_of_run (all_of_isDigit hd hrest)
  rw [IsPlace, hsmall]
  exact ⟨bare_ne_nil_of_isDigit hd, hdigits⟩

theorem isPlace_of_isSixtieth {s : List Char} (h : isSixtieth s = true) : IsPlace s := by
  obtain ⟨hne, hdigits⟩ := digits_of_isSixtieth h
  rw [IsPlace, bareSmall_digits hdigits]
  exact ⟨hne, hdigits⟩

theorem exists_cons_of_splitAt {separator d : Char} {s piece : List Char}
    {pieces : List (List Char)} (h : Text.splitAt separator s = (d :: piece) :: pieces) :
    ∃ rest, s = d :: rest := by
  cases s with
  | nil => cases h
  | cons c s =>
      rw [Text.splitAt] at h
      split at h
      · cases h
      · split at h <;> cases h <;> exact ⟨_, rfl⟩

/-- Places in sixties with a point in the last one fail only by their number. -/
theorem fails_of_pointedPlaces {before fraction : List Char}
    (hplaces : ∀ piece ∈ Text.splitAt ':' before, IsPlace piece)
    (hseveral : 1 < places before) (hfraction : fraction.all isDigitOrUnderscore = true) :
    Fails (unsignedFloat (bareSmall (before ++ '.' :: fraction))) ↔
      placeLimit < places (before ++ '.' :: fraction) := by
  have hpoint : ':' ∉ '.' :: fraction := by
    have hall : ∀ c ∈ fraction, isDigitOrUnderscore c = true := List.all_eq_true.1 hfraction
    rintro (_ | ⟨_, hmem⟩)
    exact absurd (hall ':' hmem) (by decide)
  obtain ⟨pieces, last, hbefore, hall⟩ := Text.splitAt_append hpoint before
  rw [hbefore] at hplaces
  have hreadable : ∀ piece ∈ Text.splitAt ':' (bareSmall (before ++ '.' :: fraction)),
      ∃ x, decimalFloat piece = .ok x := by
    rw [splitAt_bareSmall, hall]
    intro piece hpiece
    obtain ⟨raw, hraw, rfl⟩ := List.mem_map.1 hpiece
    rcases List.mem_append.1 hraw with hraw | hraw
    · have hplace := hplaces raw (List.mem_append_left _ hraw)
      exact decimalFloat_digits hplace.1 hplace.2
    · obtain rfl := List.mem_singleton.1 hraw
      have hlast := hplaces last (by simp)
      obtain ⟨hsmall, hdigits⟩ := digits_of_run hfraction
      have htext : bareSmall (last ++ '.' :: fraction) =
          bareSmall last ++ '.' :: (bare fraction ++ []) := by
        rw [List.append_nil, ← hsmall, bareSmall_append]
        rfl
      rw [htext]
      exact (isPointText hlast.2 hdigits (.inl rfl) (.inl hlast.1)).readable
  have hcolon : ':' ∈ bareSmall (before ++ '.' :: fraction) := by
    by_contra hnone
    have hone := places_of_no_colon hnone
    rw [places_bareSmall, places, hall] at hone
    rw [places, hbefore] at hseveral
    simp only [List.length_append, List.length_singleton] at hone hseveral
    omega
  rw [fails_unsignedFloat_of_places hcolon hreadable, places_bareSmall]

theorem fails_of_isPointedSixties {s : List Char} (h : isPointedSixties s = true) :
    (Fails (unsignedFloat (bareSmall s)) ↔ placeLimit < places s) ∧
      ∃ c rest, s = c :: rest ∧ Decimal.startsNumber c := by
  unfold isPointedSixties splitPoint at h
  split at h
  · next before fraction hcut =>
    have hs : s = before ++ '.' :: fraction := Text.eq_append_of_cut? hcut
    subst hs
    rw [Bool.and_eq_true] at h
    obtain ⟨hfraction, hform⟩ := h
    split at hform
    · next whole place more hsplit =>
      rw [Bool.and_eq_true, List.all_eq_true] at hform
      have hplaces : ∀ piece ∈ Text.splitAt ':' before, IsPlace piece := by
        intro piece hpiece
        rw [hsplit, List.mem_cons] at hpiece
        rcases hpiece with rfl | hpiece
        · exact isPlace_of_isGrouped (Char.le_refl _) hform.1
        · exact isPlace_of_isSixtieth (hform.2 piece hpiece)
      have hseveral : 1 < places before := by simp [places, hsplit]
      refine ⟨fails_of_pointedPlaces hplaces hseveral hfraction, ?_⟩
      obtain ⟨d, rest, rfl, hd, -, -⟩ := exists_of_isGrouped (Char.le_refl _) hform.1
      obtain ⟨more', rfl⟩ := exists_cons_of_splitAt hsplit
      exact ⟨d, _, rfl, .inl hd⟩
    · cases hform
  · cases h

/-- A float by its form has a value, unless it has too many places in sixties. -/
theorem fails_floatValue_iff {s : List Char} (h : isFloatForm s = true) :
    Fails (floatValue s) ↔ placeLimit < places (Decimal.takeSign s).2 := by
  unfold isFloatForm at h
  simp only [Bool.or_eq_true] at h
  rcases h with (((h | h) | h) | h) | h
  · obtain ⟨hpoint, c, rest, hs, hc⟩ := isPointText_of_isPointed h
    rw [fails_floatValue hs hc, ← hs, fails_unsignedFloat_of_point hpoint, places_bareSmall]
  · obtain ⟨hpoint, rest, rfl⟩ := isPointText_of_isBarePointed h
    have hs : (Decimal.takeSign ('.' :: rest)).2 = '.' :: rest := rfl
    rw [fails_floatValue hs (.inr rfl), hs, fails_unsignedFloat_of_point hpoint, places_bareSmall]
  · obtain ⟨hiff, c, rest, hs, hc⟩ := fails_of_isPointedSixties h
    rw [fails_floatValue hs hc, ← hs, hiff]
  · have hwords : ∀ u : List Char, isInfinityForm u = true →
        bareSmall u = ".inf".toList ∧ u.head? = some '.' ∧ places u = 1 := by
      intro u hu
      unfold isInfinityForm at hu
      split at hu
      · next word =>
        have hall : ∀ w ∈ wordForms "inf", bareSmall ('.' :: w) = ".inf".toList ∧
            ('.' :: w).head? = some '.' ∧ places ('.' :: w) = 1 := by decide
        exact hall word (by simpa using hu)
      · cases hu
    obtain ⟨hsmall, hhead, hone⟩ := hwords _ h
    obtain ⟨rest, hs⟩ := List.head?_eq_some_iff.1 hhead
    rw [fails_floatValue hs (.inr rfl), ← hs, hsmall, hone]
    exact iff_of_false (not_fails_ok ⟨_, rfl⟩) (by decide)
  · simp only [isNanForm, Bool.or_eq_true, decide_eq_true_eq] at h
    rcases h with (rfl | rfl) | rfl <;> exact iff_of_false (not_fails_ok ⟨_, rfl⟩) (by decide)

/-! ## Integers -/

theorem fails_mapM {α β : Type} {f : α → Except Misfit β} {as : List α} :
    Fails (as.mapM f) ↔ ∃ a ∈ as, Fails (f a) := by
  induction as with
  | nil => exact iff_of_false (not_fails_ok ⟨_, rfl⟩) (by simp)
  | cons a as ih =>
      rw [List.mapM_cons, List.exists_mem_cons_iff, ← ih]
      cases f a with
      | error what => exact iff_of_true ⟨_, rfl⟩ (.inl ⟨_, rfl⟩)
      | ok b =>
          cases as.mapM f with
          | error what => exact iff_of_true ⟨_, rfl⟩ (.inr ⟨_, rfl⟩)
          | ok bs =>
              refine iff_of_false (not_fails_ok ⟨_, rfl⟩) ?_
              exact not_or.2 ⟨not_fails_ok ⟨_, rfl⟩, not_fails_ok ⟨_, rfl⟩⟩

/-- The digits of all bases up to sixteen. -/
def hexDigits : List Char :=
  Decimal.decimalDigits ++ ['a', 'b', 'c', 'd', 'e', 'f', 'A', 'B', 'C', 'D', 'E', 'F']

theorem mem_hexDigits {c : Char} {d : Nat} (h : Decimal.digitValue? c = some d) :
    c ∈ hexDigits := by
  have hbounds : (48 ≤ c.toNat ∧ c.toNat ≤ 57) ∨ (97 ≤ c.toNat ∧ c.toNat ≤ 102) ∨
      (65 ≤ c.toNat ∧ c.toNat ≤ 70) := by
    unfold Decimal.digitValue? at h
    simp only [Char.le_def, UInt32.le_iff_toNat_le] at h
    split_ifs at h with hdigit hsmall hcapital
    · exact .inl hdigit
    · exact .inr (.inl hsmall)
    · exact .inr (.inr hcapital)
  rw [← Char.ofNat_toNat c]
  rcases hbounds with ⟨hlow, hhigh⟩ | ⟨hlow, hhigh⟩ | ⟨hlow, hhigh⟩ <;>
    interval_cases c.toNat <;> decide

/-- The text consists of digits of a base. -/
def AreDigits (base : Nat) (s : List Char) : Prop :=
  ∀ c ∈ s, ∃ d < base, Decimal.digitValue? c = some d

theorem withoutMark_digits {base : Nat} (hbase : base ∈ [2, 8, 10, 16]) {s : List Char}
    (h : AreDigits base s) : withoutMark base s = s := by
  have hmarks : ∀ base ∈ [2, 8, 10, 16], ∀ c ∈ hexDigits,
      (∃ d < base, Decimal.digitValue? c = some d) → baseMark? base ≠ some c.toLower := by decide
  unfold withoutMark
  split
  · next c digits =>
    obtain ⟨d, hd, hvalue⟩ := h c (by simp)
    exact if_neg (hmarks base hbase c (mem_hexDigits hvalue) ⟨d, hd, hvalue⟩)
  · rfl

theorem fails_inBase {base : Nat} (hbase : base ∈ [2, 8, 10, 16]) {s : List Char}
    (h : AreDigits base s) :
    Fails (inBase base s) ↔ s = [] ∨ base = 10 ∧ Json.digitLimit < s.length := by
  have hchar : ∀ c ∈ s, IsNumberChar c ∧ c ≠ '-' ∧ c ≠ '+' := by
    intro c hc
    obtain ⟨d, -, hvalue⟩ := h c hc
    have hall : ∀ c ∈ hexDigits, IsNumberChar c ∧ c ≠ '-' ∧ c ≠ '+' := by decide
    exact hall c (mem_hexDigits hvalue)
  have htext : numberText s = s := numberText_eq_self fun c hc => (hchar c hc).1
  have hsign : Decimal.takeSign s = (false, s) := by
    cases s with
    | nil => rfl
    | cons c s =>
        have hc := hchar c List.mem_cons_self
        exact Decimal.takeSign_of_head hc.2.1 hc.2.2 s
  unfold inBase
  rw [htext, hsign]
  dsimp only
  rw [withoutMark_digits hbase h]
  by_cases hne : s = []
  · subst hne
    exact iff_of_true ⟨_, rfl⟩ (.inl rfl)
  · obtain ⟨n, hn⟩ := Decimal.exists_ofDigits? hne h
    rw [hn]
    dsimp only
    split
    · next hlong => exact iff_of_true ⟨_, rfl⟩ (.inr hlong)
    · next hshort => exact iff_of_false (not_fails_ok ⟨_, rfl⟩) (not_or.2 ⟨hne, hshort⟩)

/-- What keeps an integer's text without sign from being a number: a mark of a base without digits,
or more digits before the first colon than are read. -/
def LacksInteger (unsigned : List Char) : Prop :=
  (∃ mark rest, (mark = 'b' ∨ mark = 'x') ∧ unsigned = '0' :: mark :: rest ∧ bare rest = []) ∨
    unsigned.head? ≠ some '0' ∧
      Json.digitLimit < (bare ((Text.splitAt ':' unsigned).headD [])).length

theorem fails_intValue {s : List Char} {c : Char} {rest : List Char}
    (h : (Decimal.takeSign s).2 = c :: rest) (hc : Decimal.isDigit c = true) :
    Fails (intValue s) ↔ Fails (unsignedInt (bare (c :: rest))) := by
  have hunderscore := ne_underscore_of_isDigit hc
  have hsign : (Decimal.takeSign (bare s)).2 = bare (c :: rest) := by
    cases s with
    | nil => cases h
    | cons d s =>
        by_cases hminus : d = '-'
        · subst hminus
          exact congrArg bare h
        · by_cases hplus : d = '+'
          · subst hplus
            exact congrArg bare h
          · rw [Decimal.takeSign_of_head hminus hplus] at h
            obtain ⟨rfl, rfl⟩ := List.cons.inj h
            have hcons : bare (d :: s) = d :: bare s := by simp [bare, hunderscore]
            rw [hcons, Decimal.takeSign_of_head hminus hplus]
  have hnonempty : (bare s).isEmpty = false := by
    cases hs : bare s with
    | nil =>
        rw [hs] at hsign
        exact absurd hsign.symm (bare_ne_nil_of_isDigit hc)
    | cons d t => rfl
  unfold intValue
  rw [if_neg (by simp [hnonempty]), ← hsign]
  exact fails_map

theorem unsignedInt_of_head {s : List Char} {c : Char} (hc : c ≠ '0') :
    unsignedInt (c :: s) =
      if (c :: s).contains ':' then
        ((Text.splitAt ':' (c :: s)).mapM (inBase 10)).map inSixties
      else inBase 10 (c :: s) := by
  unfold unsignedInt
  split
  · next heq => cases heq
  · next heq => exact absurd (List.cons.inj heq).1 hc
  · next heq => exact absurd (List.cons.inj heq).1 hc
  · next heq => exact absurd (List.cons.inj heq).1 hc
  · next heq => exact absurd (List.cons.inj heq).1 hc
  · rfl

theorem areDigits_of_isDigit {s : List Char} (h : ∀ c ∈ s, Decimal.isDigit c = true) :
    AreDigits 10 s :=
  fun c hc => Decimal.digitValue?_of_isDigit (h c hc)

/-- The digits of a run, whatever underscores stand between them. -/
theorem areDigits_bare {base : Nat} {p : Char → Bool} {s : List Char}
    (hp : ∀ c, p c = true → c = '_' ∨ ∃ d < base, Decimal.digitValue? c = some d)
    (h : s.all p = true) : AreDigits base (bare s) := by
  intro c hc
  obtain ⟨hmem, hne⟩ := List.mem_filter.1 hc
  rcases hp c (List.all_eq_true.1 h c hmem) with rfl | hdigit
  · cases hne
  · exact hdigit

theorem octal_digit {c : Char} (h : isOctalDigit c = true) :
    ∃ d < 8, Decimal.digitValue? c = some d := by
  have hdigit : Decimal.isDigit c = true := by
    simp only [isOctalDigit, Bool.and_eq_true, decide_eq_true_eq] at h
    have hnine : c ≤ '9' := Char.le_trans h.2 (by decide)
    simp [Decimal.isDigit, h.1, hnine]
  have hall : ∀ c ∈ Decimal.decimalDigits, isOctalDigit c = true →
      ∃ d < 8, Decimal.digitValue? c = some d := by decide
  exact hall c (Decimal.mem_decimalDigits hdigit) h

theorem hex_digit {c : Char} (h : isHexDigit c = true) :
    ∃ d < 16, Decimal.digitValue? c = some d := by
  obtain ⟨d, hd⟩ := Option.isSome_iff_exists.1 h
  have hall : ∀ c ∈ hexDigits, ∃ d < 16, Decimal.digitValue? c = some d := by decide
  exact hall c (mem_hexDigits hd)

theorem not_lacksInteger_of_zero {s : List Char} (h : ∀ mark rest, s = mark :: rest →
    mark ≠ 'b' ∧ mark ≠ 'x') : ¬ LacksInteger ('0' :: s) := by
  rintro (⟨mark, rest, hmark, hs, -⟩ | ⟨hhead, -⟩)
  · have hne := h mark rest (List.cons.inj hs).2
    rcases hmark with rfl | rfl
    · exact hne.1 rfl
    · exact hne.2 rfl
  · exact hhead rfl

theorem lacksInteger_of_mark {mark : Char} {rest : List Char} (h : mark = 'b' ∨ mark = 'x') :
    LacksInteger ('0' :: mark :: rest) ↔ bare rest = [] := by
  constructor
  · rintro (⟨mark', rest', -, hs, hrest⟩ | ⟨hhead, -⟩)
    · cases hs
      exact hrest
    · exact absurd rfl hhead
  · exact fun hrest => .inl ⟨mark, rest, h, rfl, hrest⟩

/-- Octal digits after a zero always form a number. -/
theorem not_fails_octal {s : List Char}
    (h : (s.all fun c => isOctalDigit c || c == '_') = true) :
    ¬ Fails (unsignedInt (bare ('0' :: s))) := by
  have hdigits : AreDigits 8 (bare s) := by
    refine areDigits_bare (fun c hc => ?_) h
    rw [Bool.or_eq_true, beq_iff_eq] at hc
    exact hc.symm.imp id octal_digit
  have hzero : bare ('0' :: s) = '0' :: bare s := rfl
  rw [hzero]
  cases hs : bare s with
  | nil => exact not_fails_ok ⟨_, rfl⟩
  | cons c rest =>
      rw [hs] at hdigits
      have hoctal : AreDigits 8 ('0' :: c :: rest) := by
        intro e he
        rcases List.mem_cons.1 he with rfl | he
        · exact ⟨0, by omega, rfl⟩
        · exact hdigits e he
      have hbase : unsignedInt ('0' :: c :: rest) = inBase 8 ('0' :: c :: rest) := by
        obtain ⟨d, hd, hvalue⟩ := hdigits c List.mem_cons_self
        have hletters : c ≠ 'b' ∧ c ≠ 'x' := by
          constructor <;> rintro rfl
          · cases hvalue
            omega
          · cases hvalue
        unfold unsignedInt
        split
        · next heq => cases heq
        · next heq => cases heq
        · next heq => exact absurd (List.cons.inj (List.cons.inj heq).2).1 hletters.1
        · next heq => exact absurd (List.cons.inj (List.cons.inj heq).2).1 hletters.2
        · next heq => rw [(List.cons.inj heq).2]
        · next hother => exact absurd rfl (hother (c :: rest))
      rw [hbase, fails_inBase (by decide) hoctal]
      rintro (hnil | ⟨hten, -⟩)
      · cases hnil
      · cases hten

theorem digits_of_isGrouped {first : Char} {s : List Char} (hfirst : '0' ≤ first)
    (h : isGrouped first s = true) : bare s ≠ [] ∧ ∀ c ∈ bare s, Decimal.isDigit c = true := by
  obtain ⟨d, rest, rfl, hd, -, hrest⟩ := exists_of_isGrouped hfirst h
  exact ⟨bare_ne_nil_of_isDigit hd, (digits_of_run (all_of_isDigit hd hrest)).2⟩

/-- A decimal integer fails only by its length. -/
theorem fails_decimal {s : List Char} (hne : s ≠ []) (h : ∀ c ∈ s, Decimal.isDigit c = true) :
    Fails (inBase 10 s) ↔ Json.digitLimit < s.length := by
  rw [fails_inBase (by decide) (areDigits_of_isDigit h)]
  simp [hne]

theorem not_fails_sixtieth {s : List Char} (h : isSixtieth s = true) :
    ¬ Fails (inBase 10 (bare s)) := by
  obtain ⟨hne, hdigits⟩ := digits_of_isSixtieth h
  have hlength : s.length ≤ 2 := by
    unfold isSixtieth at h
    split at h
    · simp
    · simp
    · cases h
  rw [bare_digits hdigits, fails_decimal hne hdigits]
  exact Nat.not_lt.2 (hlength.trans (by decide))

/-- Integers in tens and in sixties fail only by the length of what stands before the first
colon. -/
theorem fails_unsignedInt_of_places {unsigned whole : List Char} {more : List (List Char)}
    (hsplit : Text.splitAt ':' unsigned = whole :: more) (hwhole : isGrouped '1' whole = true)
    (hmore : ∀ place ∈ more, isSixtieth place = true) :
    Fails (unsignedInt (bare unsigned)) ↔ LacksInteger unsigned := by
  obtain ⟨d, rest, rfl, hd, hone, hrest⟩ := exists_of_isGrouped (by decide) hwhole
  obtain ⟨tail, rfl⟩ := exists_cons_of_splitAt hsplit
  obtain ⟨hne, hdigits⟩ := digits_of_isGrouped (by decide) hwhole
  have hzero : d ≠ '0' := by
    rintro rfl
    exact absurd hone (by decide)
  have hcons : ∀ s, bare (d :: s) = d :: bare s := by
    simp [bare, ne_underscore_of_isDigit hd]
  have hlacks : LacksInteger (d :: tail) ↔ Json.digitLimit < (bare (d :: rest)).length := by
    rw [LacksInteger, hsplit]
    constructor
    · rintro (⟨mark, rest', -, hs, -⟩ | ⟨-, hlong⟩)
      · exact absurd (List.cons.inj hs).1 hzero
      · exact hlong
    · exact fun hlong => .inr ⟨by simpa using hzero, hlong⟩
  have hpieces := splitAt_bare (d :: tail)
  rw [hsplit, List.map_cons] at hpieces
  rw [hlacks, ← fails_decimal hne hdigits, hcons tail, unsignedInt_of_head hzero, ← hcons tail]
  split
  · rw [fails_map, fails_mapM, hpieces, List.exists_mem_cons_iff]
    refine or_iff_left ?_
    rintro ⟨piece, hpiece, hfails⟩
    obtain ⟨place, hplace, rfl⟩ := List.mem_map.1 hpiece
    exact not_fails_sixtieth (hmore place hplace) hfails
  · next hcolon =>
    have hsingle := Text.splitAt_of_not_mem (s := bare (d :: tail)) (by simpa using hcolon)
    rw [hsingle] at hpieces
    rw [(List.cons.inj hpieces).1]

/-- An integer by its form has a value, unless it is a mark without digits or too long. -/
theorem fails_intValue_iff {s : List Char} (h : isIntForm s = true) :
    Fails (intValue s) ↔ LacksInteger (Decimal.takeSign s).2 := by
  have hzero : ∀ {rest : List Char}, (Decimal.takeSign s).2 = '0' :: rest →
      (Fails (intValue s) ↔ Fails (unsignedInt (bare ('0' :: rest)))) :=
    fun hs => fails_intValue hs (by decide)
  unfold isIntForm isUnsignedInt at h
  split at h
  · next digits hs =>
    simp only [isRun, Bool.and_eq_true] at h
    have hdigits : AreDigits 2 (bare digits) := by
      refine areDigits_bare (fun c hc => ?_) h.2
      simp only [Bool.or_eq_true, beq_iff_eq] at hc
      rcases hc with (rfl | rfl) | rfl
      · exact .inr ⟨0, by omega, rfl⟩
      · exact .inr ⟨1, by omega, rfl⟩
      · exact .inl rfl
    rw [hzero hs, hs, lacksInteger_of_mark (.inl rfl)]
    change Fails (inBase 2 (bare digits)) ↔ _
    rw [fails_inBase (by decide) hdigits]
    simp
  · next digits hs =>
    simp only [isRun, Bool.and_eq_true] at h
    have hdigits : AreDigits 16 (bare digits) := by
      refine areDigits_bare (fun c hc => ?_) h.2
      rw [Bool.or_eq_true, beq_iff_eq] at hc
      exact hc.symm.imp id hex_digit
    rw [hzero hs, hs, lacksInteger_of_mark (.inr rfl)]
    change Fails (inBase 16 (bare digits)) ↔ _
    rw [fails_inBase (by decide) hdigits]
    simp
  · next hs =>
    rw [hzero hs, hs]
    exact iff_of_false (not_fails_ok ⟨_, rfl⟩) (not_lacksInteger_of_zero nofun)
  · next digits hb hx _ hs =>
    rw [hzero hs, hs]
    refine iff_of_false (not_fails_octal h) (not_lacksInteger_of_zero ?_)
    rintro mark rest rfl
    constructor <;> rintro rfl
    · exact absurd h (by simp [isOctalDigit])
    · exact absurd h (by simp [isOctalDigit])
  · have hplaces : ∀ {whole : List Char} {more : List (List Char)},
        Text.splitAt ':' (Decimal.takeSign s).2 = whole :: more → isGrouped '1' whole = true →
        (∀ place ∈ more, isSixtieth place = true) →
        (Fails (intValue s) ↔ LacksInteger (Decimal.takeSign s).2) := by
      intro whole more hsplit hwhole hmore
      rw [← fails_unsignedInt_of_places hsplit hwhole hmore]
      obtain ⟨d, rest, rfl, hd, -, -⟩ := exists_of_isGrouped (by decide) hwhole
      obtain ⟨tail, htail⟩ := exists_cons_of_splitAt hsplit
      rw [fails_intValue htail hd, htail]
    split at h
    · next whole hsplit => exact hplaces hsplit h nofun
    · next whole more _ hsplit =>
      rw [Bool.and_eq_true, List.all_eq_true] at h
      exact hplaces hsplit h.1 h.2
    · cases h

end ApiShapes.Yaml
