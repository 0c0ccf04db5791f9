import ApiShapes.Text.Piece
import Mathlib.Data.List.TakeWhile
import Mathlib.Tactic

/-!
# Occurrences of a piece

Where a text is cut at the first occurrence of a piece, before its last occurrence, and at all
occurrences of a character.  The first occurrence is the one that no part of the text before it
continues into an earlier one.
-/

namespace ApiShapes.Text

theorem startsWith_iff {piece s : List Char} : startsWith piece s = true ↔ piece <+: s :=
  List.isPrefixOf_iff_prefix

theorem startsWith_eq_false_iff {piece s : List Char} :
    startsWith piece s = false ↔ ¬ piece <+: s := by
  rw [← startsWith_iff, Bool.not_eq_true]

section

variable {piece start : String} (rest : String)

theorem startsWith_append_of_prefix (h : piece.toList <+: start.toList) :
    startsWith piece.toList (start ++ rest).toList = true := by
  rw [startsWith_iff, String.toList_append]
  exact h.trans (List.prefix_append ..)

/-- Two texts that differ before either of them ends go on to differ. -/
theorem startsWith_append_of_differ (h : ¬ piece.toList <+: start.toList)
    (h' : ¬ start.toList <+: piece.toList) :
    startsWith piece.toList (start ++ rest).toList = false := by
  rw [startsWith_eq_false_iff, String.toList_append]
  intro hpiece
  rcases List.prefix_or_prefix_of_prefix hpiece (List.prefix_append ..) with hp | hp
  · exact h hp
  · exact h' hp

end

theorem afterPrefix?_eq_some_iff {piece s rest : List Char} :
    afterPrefix? piece s = some rest ↔ s = piece ++ rest :=
  ⟨eq_append_of_afterPrefix?, fun h => h ▸ afterPrefix?_append piece rest⟩

theorem afterPrefix?_eq_none_iff {piece s : List Char} :
    afterPrefix? piece s = none ↔ ¬ piece <+: s := by
  rw [← startsWith_iff, afterPrefix?, startsWith]
  split <;> simp_all

theorem beforeSuffix?_eq_some_iff {piece s before : List Char} :
    beforeSuffix? piece s = some before ↔ s = before ++ piece := by
  rw [beforeSuffix?, Option.map_eq_some_iff]
  constructor
  · rintro ⟨rest, hrest, rfl⟩
    have hs := congrArg List.reverse (afterPrefix?_eq_some_iff.1 hrest)
    simpa using hs
  · rintro rfl
    exact ⟨before.reverse, afterPrefix?_eq_some_iff.2 (by simp), List.reverse_reverse _⟩

theorem beforeSuffix?_eq_none_iff {piece s : List Char} :
    beforeSuffix? piece s = none ↔ ¬ piece <:+ s := by
  rw [beforeSuffix?, Option.map_eq_none_iff, afterPrefix?_eq_none_iff, List.reverse_prefix]

/-- A prefix of a text that continues a piece free of its characters ends within the piece. -/
theorem prefix_of_prefix_append {piece s t : List Char} {c : Char} (hc : c ∉ piece)
    (h : piece <+: s ++ c :: t) : piece <+: s := by
  rcases List.prefix_or_prefix_of_prefix h (List.prefix_append s (c :: t)) with hp | hp
  · exact hp
  · obtain ⟨more, rfl⟩ := hp
    rw [List.prefix_append_right_inj] at h
    cases more with
    | nil => simp
    | cons d more =>
        obtain ⟨rfl, -⟩ := List.cons_prefix_cons.1 h
        simp at hc

/-! ## The first occurrence -/

theorem cut?_eq_some_of_first {piece : List Char} (before : List Char) {after : List Char}
    (hfirst : ∀ t, t <:+ before → t ≠ [] → ¬ piece <+: t ++ (piece ++ after)) :
    cut? piece (before ++ (piece ++ after)) = some (before, after) := by
  induction before with
  | nil =>
      cases hs : piece ++ after with
      | nil => simp_all [cut?]
      | cons c rest =>
          rw [List.nil_append, cut?, ← hs, afterPrefix?_append]
  | cons c before ih =>
      have hhere : afterPrefix? piece (c :: (before ++ (piece ++ after))) = none :=
        afterPrefix?_eq_none_iff.2 (hfirst (c :: before) (List.suffix_refl _) (by simp))
      have hlater := ih fun t ht => hfirst t (ht.trans (List.suffix_cons c before))
      rw [List.cons_append, cut?, hhere, hlater]
      rfl

theorem eq_append_of_cut? {piece s before after : List Char}
    (h : cut? piece s = some (before, after)) : s = before ++ (piece ++ after) := by
  induction s generalizing before with
  | nil =>
      rw [cut?] at h
      split at h <;> simp_all
  | cons c rest ih =>
      rw [cut?] at h
      split at h
      · next after' hafter =>
        obtain ⟨rfl, rfl⟩ : [] = before ∧ after' = after := by simpa using h
        rw [List.nil_append]
        exact eq_append_of_afterPrefix? hafter
      · obtain ⟨⟨b, a⟩, hcut, heq⟩ := Option.map_eq_some_iff.1 h
        obtain ⟨rfl, rfl⟩ : c :: b = before ∧ a = after := by simpa using heq
        rw [List.cons_append, ← ih hcut]

theorem not_infix_of_cut? {piece s before after : List Char} (hp : piece ≠ [])
    (h : cut? piece s = some (before, after)) : ¬ piece <:+: before := by
  induction s generalizing before with
  | nil => simp_all [cut?]
  | cons c rest ih =>
      rw [cut?] at h
      split at h
      · next after' hafter =>
        obtain ⟨rfl, rfl⟩ : [] = before ∧ after' = after := by simpa using h
        simpa using hp
      · next hnone =>
        obtain ⟨⟨b, a⟩, hcut, heq⟩ := Option.map_eq_some_iff.1 h
        obtain ⟨rfl, rfl⟩ : c :: b = before ∧ a = after := by simpa using heq
        rw [List.infix_cons_iff]
        rintro (hhere | hlater)
        · refine afterPrefix?_eq_none_iff.1 hnone (hhere.trans ?_)
          rw [eq_append_of_cut? hcut]
          exact List.prefix_append (c :: b) _
        · exact ih hcut hlater

theorem cut?_eq_none_iff {piece s : List Char} : cut? piece s = none ↔ ¬ piece <:+: s := by
  induction s with
  | nil => simp [cut?]
  | cons c rest ih =>
      rw [cut?, List.infix_cons_iff, not_or, ← afterPrefix?_eq_none_iff, ← ih]
      split <;> simp_all

theorem cut?_singleton_eq_none_iff {c : Char} {s : List Char} :
    cut? [c] s = none ↔ c ∉ s := by
  rw [cut?_eq_none_iff, List.singleton_infix_iff]

theorem cut?_singleton_append {c : Char} {before : List Char} (hc : c ∉ before)
    (after : List Char) : cut? [c] (before ++ c :: after) = some (before, after) := by
  refine cut?_eq_some_of_first before fun t ht hne hstarts => ?_
  cases t with
  | nil => exact hne rfl
  | cons d t =>
      obtain ⟨rfl, -⟩ := List.cons_prefix_cons.1 hstarts
      exact hc (ht.subset (by simp))

/-! ## The last occurrence -/

/-- What is cut off before the last occurrence of a piece leads the text together with the piece. -/
theorem isPrefix_of_beforeLast? {piece s before : List Char}
    (h : beforeLast? piece s = some before) : before ++ piece <+: s := by
  induction s generalizing before with
  | nil =>
      rw [beforeLast?] at h
      split at h <;> simp_all
  | cons c rest ih =>
      rw [beforeLast?] at h
      split at h
      · next b hb =>
        obtain rfl : c :: b = before := by simpa using h
        exact List.cons_prefix_cons.2 ⟨rfl, ih hb⟩
      · split at h
        · next hpiece =>
          obtain rfl : [] = before := by simpa using h
          exact startsWith_iff.1 hpiece
        · simp at h

/-- A text that ends in a piece is cut there, whatever stands before. -/
theorem beforeLast?_append_self {piece : List Char} (hp : piece ≠ []) (before : List Char) :
    beforeLast? piece (before ++ piece) = some before := by
  induction before with
  | nil =>
      cases piece with
      | nil => exact absurd rfl hp
      | cons c rest =>
          have hshort : beforeLast? (c :: rest) rest = none := by
            cases h : beforeLast? (c :: rest) rest with
            | none => rfl
            | some b =>
                have hlength := (isPrefix_of_beforeLast? h).length_le
                simp only [List.length_append, List.length_cons] at hlength
                omega
          have hstarts : startsWith (c :: rest) (c :: rest) = true :=
            startsWith_iff.2 (List.prefix_refl _)
          rw [List.nil_append, beforeLast?, hshort, hstarts]
          rfl
  | cons c before ih => rw [List.cons_append, beforeLast?, ih]

/-! ## All occurrences of a character -/

theorem splitAt_eq_splitOn (separator : Char) (s : List Char) :
    splitAt separator s = s.splitOn separator := by
  induction s with
  | nil => rfl
  | cons c s ih =>
      rw [splitAt, List.splitOn_cons_eq_if_modifyHead, ih]
      by_cases hc : c = separator
      · simp [hc]
      · rw [if_neg hc, if_neg (by simpa using hc)]
        cases h : s.splitOn separator with
        | nil => exact absurd h (List.splitOn_ne_nil _ _)
        | cons piece pieces => rfl

/-- Dropping or changing characters other than the separator does not move the cuts. -/
theorem splitAt_filterMap {separator : Char} {f : Char → Option Char}
    (hf : ∀ c, f c = some separator ↔ c = separator) (s : List Char) :
    splitAt separator (s.filterMap f) = (splitAt separator s).map (List.filterMap f) := by
  induction s with
  | nil => rfl
  | cons c s ih =>
      by_cases hc : c = separator
      · subst hc
        have hself : f c = some c := (hf c).2 rfl
        rw [List.filterMap_cons_some hself, splitAt, splitAt, if_pos rfl, if_pos rfl, ih]
        rfl
      · have hsplit : ∃ piece pieces, splitAt separator s = piece :: pieces := by
          rw [splitAt_eq_splitOn]
          exact List.exists_cons_of_ne_nil (List.splitOn_ne_nil _ _)
        obtain ⟨piece, pieces, hpieces⟩ := hsplit
        rw [splitAt, if_neg hc, hpieces]
        cases hfc : f c with
        | none =>
            rw [List.filterMap_cons_none hfc, ih, hpieces]
            simp [List.filterMap_cons_none hfc]
        | some d =>
            have hd : d ≠ separator := by
              rintro rfl
              exact hc ((hf c).1 hfc)
            rw [List.filterMap_cons_some hfc, splitAt, if_neg hd, ih, hpieces]
            simp [List.filterMap_cons_some hfc]

theorem splitAt_of_not_mem {separator : Char} {s : List Char} (h : separator ∉ s) :
    splitAt separator s = [s] := by
  induction s with
  | nil => rfl
  | cons c s ih =>
      rw [splitAt, if_neg (List.ne_of_not_mem_cons h).symm, ih (List.not_mem_of_not_mem_cons h)]

/-- What follows without a separator belongs to the last piece. -/
theorem splitAt_append {separator : Char} {t : List Char} (ht : separator ∉ t) (s : List Char) :
    ∃ pieces last, splitAt separator s = pieces ++ [last] ∧
      splitAt separator (s ++ t) = pieces ++ [last ++ t] := by
  induction s with
  | nil => exact ⟨[], [], rfl, splitAt_of_not_mem ht⟩
  | cons c s ih =>
      obtain ⟨pieces, last, hs, hst⟩ := ih
      rw [List.cons_append, splitAt, splitAt, hs, hst]
      by_cases hc : c = separator
      · rw [if_pos hc, if_pos hc]
        exact ⟨[] :: pieces, last, rfl, rfl⟩
      · rw [if_neg hc, if_neg hc]
        cases pieces with
        | nil => exact ⟨[], c :: last, rfl, rfl⟩
        | cons piece pieces => exact ⟨(c :: piece) :: pieces, last, rfl, rfl⟩

end ApiShapes.Text
