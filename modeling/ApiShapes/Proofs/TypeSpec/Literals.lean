import ApiShapes.Proofs.Json.LiteralReading
import ApiShapes.Proofs.Text.JoinedLines
import ApiShapes.Proofs.Text.Occurrence
import ApiShapes.TypeSpec.Statement
import Mathlib.Tactic

/-!
# Literals found behind a key

A text that is written as a literal is taken as a whole from the text that continues it, and within
it no literal is found behind a key, since each quote in it stands behind a backslash.  Only the
closing quote can be taken for an opening one, if the text before it ends like the key.
-/

namespace ApiShapes.TypeSpec

open Json Text

/-! ## Literals -/

/-- The line boundaries that stand for themselves in a literal. -/
def literalBoundaries : List Char :=
  ['\u0085', '\u2028', '\u2029']

/-- Every other line boundary is written as an escape, so a literal stays on its line. -/
theorem oneLine_quote {s : List Char} (hs : ∀ c ∈ s, c ∉ literalBoundaries) :
    OneLine (quote s) := by
  have hescape : ∀ c ∈ s, OneLine (escapeChar c) := by
    intro c hc d hd
    rcases escapeChar_shape c with ⟨heq, hplain⟩ | ⟨l, hl, more, heq, -, hmore⟩
    · obtain rfl : d = c := by simpa [heq] using hd
      have hboundaries := hs d hc
      simp only [literalBoundaries, List.mem_cons, List.not_mem_nil, or_false, not_or]
        at hboundaries
      simp only [IsEscaped, not_or] at hplain
      have hcode : ∀ b : Char, d ≠ b → d.toNat ≠ b.toNat :=
        fun b hb heq => hb (Char.toNat_inj.1 heq)
      have h₁ := hcode _ hboundaries.1
      have h₂ := hcode _ hboundaries.2.1
      have h₃ := hcode _ hboundaries.2.2
      simp only [isLineBoundary, Char.reduceToNat] at *
      grind
    · rw [heq, List.mem_cons, List.mem_cons] at hd
      rcases hd with rfl | rfl | hd
      · decide
      · have hletters : ∀ l ∈ escapeLetters, isLineBoundary l = false := by decide
        exact hletters d hl
      · have hdigits : ∀ d ∈ smallHexDigits, isLineBoundary d = false := by decide
        exact hdigits d (hmore d hd)
  intro d hd
  rw [quote, List.mem_append, List.mem_cons, List.mem_singleton, escape, List.mem_flatMap] at hd
  rcases hd with (rfl | ⟨c, hc, hd⟩) | rfl
  · decide
  · exact hescape c hc d hd
  · decide

/-- A character that no escape uses and that stands for itself occurs in a literal as often as in
the text. -/
theorem count_escape {d : Char} (hd : d ∉ '\\' :: escapeLetters ++ smallHexDigits)
    (hplain : ¬ IsEscaped d) (s : List Char) : (escape s).count d = s.count d := by
  have hchar : ∀ c : Char, (escapeChar c).count d = [c].count d := by
    intro c
    rcases escapeChar_shape c with ⟨heq, -⟩ | ⟨l, hl, more, heq, hescaped, hmore⟩
    · rw [heq]
    · have hcd : c ≠ d := by
        rintro rfl
        exact hplain hescaped
      simp only [List.cons_append, List.mem_cons, List.mem_append, not_or] at hd
      have hnot : d ∉ escapeChar c := by
        rw [heq, List.mem_cons, List.mem_cons]
        rintro (rfl | rfl | hmem)
        · exact hd.1 rfl
        · exact hd.2.1 hl
        · exact hd.2.2 (hmore d hmem)
      rw [List.count_eq_zero_of_not_mem hnot,
        List.count_eq_zero_of_not_mem (by simpa using hcd.symm)]
  induction s with
  | nil => rfl
  | cons c s ih =>
      rw [escape_cons, List.count_append, hchar, ih, ← List.count_append]
      rfl

theorem parenthesisExcess_append (s t : List Char) :
    parenthesisExcess (s ++ t) = parenthesisExcess s + parenthesisExcess t := by
  simp only [parenthesisExcess, List.count_append]
  push_cast
  ring

theorem parenthesisExcess_quote (s : List Char) :
    parenthesisExcess (quote s) = parenthesisExcess s := by
  have hopen := count_escape (d := '(') (by decide) (by decide) s
  have hclose := count_escape (d := ')') (by decide) (by decide) s
  have hquote : parenthesisExcess (quote s) = parenthesisExcess (escape s) := by
    simp [parenthesisExcess, quote]
  rw [hquote, parenthesisExcess, parenthesisExcess, hopen, hclose]

theorem body_cons {c : Char} (hquote : c ≠ '"') (hslash : c ≠ '\\') (rest : List Char) :
    takeLiteral.body (c :: rest) = (takeLiteral.body rest).map (c :: ·) := by
  rw [takeLiteral.body]
  · simpa using hquote
  · simp [hslash]
  · simp [hslash]

theorem body_append {s : List Char} (hs : ∀ c ∈ s, c ≠ '"' ∧ c ≠ '\\') (rest : List Char) :
    takeLiteral.body (s ++ rest) = (takeLiteral.body rest).map (s ++ ·) := by
  induction s with
  | nil => simp
  | cons c s ih =>
      have hc := hs c (by simp)
      rw [List.cons_append, body_cons hc.1 hc.2, ih fun d hd => hs d (by simp [hd]),
        Option.map_map]
      rfl

theorem body_escape (s rest : List Char) :
    takeLiteral.body (escape s ++ '"' :: rest) = some (escape s ++ ['"']) := by
  induction s with
  | nil => rfl
  | cons c s ih =>
      rw [escape_cons, List.append_assoc, List.append_assoc]
      rcases escapeChar_shape c with ⟨heq, hplain⟩ | ⟨l, -, more, heq, -, hmore⟩
      · have hc : c ≠ '"' ∧ c ≠ '\\' := by
          simp only [IsEscaped, not_or] at hplain
          exact ⟨hplain.1, hplain.2.1⟩
        rw [heq, List.singleton_append, body_cons hc.1 hc.2, ih]
        rfl
      · have hdigits : ∀ d ∈ smallHexDigits, d ≠ '"' ∧ d ≠ '\\' := by decide
        have htail := body_append (fun d hd => hdigits d (hmore d hd)) (escape s ++ '"' :: rest)
        rw [heq, List.cons_append, List.cons_append, takeLiteral.body, htail, ih]
        rfl

theorem takeLiteral_quote (s rest : List Char) :
    takeLiteral (quote s ++ rest) = some (quote s) := by
  rw [quote_append, takeLiteral, body_escape]
  rfl

theorem literalText_quote (s : List Char) : literalText (quote s) = s := by
  rw [literalText, readText_quote]
  exact String.toList_ofList

theorem takeLiteral_eq_none {s : List Char} (h : s.head? ≠ some '"') : takeLiteral s = none := by
  cases s with
  | nil => rfl
  | cons c s =>
      rw [takeLiteral]
      intro rest hcons
      obtain ⟨rfl, -⟩ := List.cons.inj hcons
      exact h rfl

theorem body_unclosed {s : List Char} (hs : '"' ∉ s) : takeLiteral.body s = none := by
  fun_induction takeLiteral.body s with
  | case1 => simp at hs
  | case2 c rest ih =>
      simp only [List.mem_cons, not_or] at hs
      rw [ih hs.2.2]
      rfl
  | case3 => rfl
  | case4 c rest _ _ _ ih =>
      rw [List.mem_cons, not_or] at hs
      rw [ih hs.2]
      rfl
  | case5 => rfl

theorem takeLiteral_unclosed {s : List Char} (hs : '"' ∉ s) : takeLiteral ('"' :: s) = none := by
  rw [takeLiteral, body_unclosed hs]
  rfl

/-! ## Keys -/

theorem findLiteral_cons {key : List Char} {c : Char} {rest : List Char}
    (h : ¬ key <+: c :: rest) : findLiteral key (c :: rest) = findLiteral key rest := by
  rw [findLiteral, afterPrefix?_eq_none_iff.2 h]
  rfl

/-- A text without the first character of a key is passed over. -/
theorem findLiteral_append {k : Char} {key pre : List Char} (hk : k ∉ pre) (s : List Char) :
    findLiteral (k :: key) (pre ++ s) = findLiteral (k :: key) s := by
  induction pre with
  | nil => rfl
  | cons c pre ih =>
      have hc : ¬ (k :: key) <+: c :: (pre ++ s) := by
        intro h
        obtain ⟨rfl, -⟩ := List.cons_prefix_cons.1 h
        simp at hk
      rw [List.cons_append, findLiteral_cons hc, ih fun h => hk (by simp [h])]

theorem findLiteral_key (k : Char) (key after : List Char) :
    findLiteral (k :: key) ((k :: key) ++ after) =
      (takeLiteral (trimStart after)).or (findLiteral (k :: key) (key ++ after)) := by
  have hafter : afterPrefix? (k :: key) (k :: (key ++ after)) = some after :=
    afterPrefix?_append (k :: key) after
  rw [List.cons_append, findLiteral, hafter, Option.bind_some]
  cases takeLiteral (trimStart after) <;> rfl

theorem findLiteral_here {k : Char} {key : List Char} (s rest : List Char) :
    findLiteral (k :: key) ((k :: key) ++ ' ' :: (quote s ++ rest)) = some (quote s) := by
  have htrim : trimStart (' ' :: (quote s ++ rest)) = quote s ++ rest := by
    rw [trimStart_cons, if_pos (by decide), quote_append, trimStart_cons, if_neg (by decide)]
  rw [findLiteral_key, htrim, takeLiteral_quote, Option.some_or]

/-! ## Texts that end like a key -/

/-- A text ends like a key if nothing but blanks stand behind the last occurrence. -/
def EndsLike (key s : List Char) : Prop :=
  key <:+ trimEnd s

instance (key s : List Char) : Decidable (EndsLike key s) :=
  inferInstanceAs (Decidable (_ <:+ _))

theorem endsLike_iff {k : Char} {key : List Char} (hkey : trimEnd (k :: key) = k :: key)
    (s : List Char) :
    EndsLike (k :: key) s ↔ ∃ pad, (∀ c ∈ pad, isBlank c = true) ∧ k :: key ++ pad <:+ s := by
  constructor
  · rintro ⟨pre, hpre⟩
    obtain ⟨pad, hpad, hs⟩ := exists_trimEnd_append s
    refine ⟨pad, hpad, pre, ?_⟩
    rw [← List.append_assoc, hpre, hs]
  · rintro ⟨pad, hpad, pre, rfl⟩
    have hlast : trimEnd (pre ++ k :: key) = pre ++ k :: key := by
      apply trimEnd_eq_self_of_last
      intro c hc
      rw [List.getLast?_append_of_ne_nil _ (List.cons_ne_nil k key), ← hkey] at hc
      exact getLast?_trimEnd hc
    rw [EndsLike, ← List.append_assoc, trimEnd_append_of_blank hpad, hlast]
    exact List.suffix_append pre _

theorem endsLike_cons_iff {k : Char} {key : List Char} (hkey : trimEnd (k :: key) = k :: key)
    (c : Char) (s : List Char) :
    EndsLike (k :: key) (c :: s) ↔
      (∃ pad, (∀ d ∈ pad, isBlank d = true) ∧ k :: key ++ pad = c :: s) ∨
        EndsLike (k :: key) s := by
  simp only [endsLike_iff hkey, List.suffix_cons_iff]
  constructor
  · rintro ⟨pad, hpad, heq | hsuffix⟩
    · exact Or.inl ⟨pad, hpad, heq⟩
    · exact Or.inr ⟨pad, hpad, hsuffix⟩
  · rintro (⟨pad, hpad, heq⟩ | ⟨pad, hpad, hsuffix⟩)
    · exact ⟨pad, hpad, Or.inl heq⟩
    · exact ⟨pad, hpad, Or.inr hsuffix⟩

/-! ## Texts without literals -/

/-- No literal stands behind the key. -/
def NoLiteral (key s : List Char) : Prop :=
  ∀ pad, (∀ c ∈ pad, isBlank c = true) → ¬ key ++ pad ++ ['"'] <:+: s

theorem NoLiteral.of_infix {key s t : List Char} (ht : NoLiteral key t) (h : s <:+: t) :
    NoLiteral key s :=
  fun pad hpad hs => ht pad hpad (hs.trans h)

theorem noLiteral_of_no_quote (key : List Char) {s : List Char} (hs : '"' ∉ s) :
    NoLiteral key s := by
  intro pad hpad h
  exact hs (h.subset (by simp))

theorem NoLiteral.head?_trimStart {key after : List Char} (h : NoLiteral key (key ++ after)) :
    (trimStart after).head? ≠ some '"' := by
  intro hhead
  obtain ⟨rest, hrest⟩ := List.head?_eq_some_iff.1 hhead
  have hsplit : after.takeWhile isBlank ++ '"' :: rest = after := by
    rw [← hrest]
    exact List.takeWhile_append_dropWhile
  apply h (after.takeWhile isBlank) fun c hc => List.mem_takeWhile_imp hc
  refine ⟨[], rest, ?_⟩
  nth_rewrite 2 [← hsplit]
  simp

theorem NoLiteral.findLiteral_eq_none {k : Char} {key s : List Char}
    (h : NoLiteral (k :: key) s) : findLiteral (k :: key) s = none := by
  induction s with
  | nil => rfl
  | cons c s ih =>
      have hs := ih (h.of_infix (List.suffix_cons c s).isInfix)
      by_cases hkey : (k :: key) <+: c :: s
      · obtain ⟨after, hafter⟩ := hkey
        rw [← hafter] at h ⊢
        have hrest : key ++ after = s := (List.cons.inj hafter).2
        rw [findLiteral_key, takeLiteral_eq_none h.head?_trimStart, Option.none_or, hrest, hs]
      · rw [findLiteral_cons hkey, hs]

/-- The quote behind a text that holds no literal opens one if the text ends like the key. -/
theorem NoLiteral.findLiteral_append_quote {k : Char} {key x : List Char}
    (h : NoLiteral (k :: key) x) (hquote : '"' ∉ k :: key) (hkey : trimEnd (k :: key) = k :: key)
    (rest : List Char) :
    findLiteral (k :: key) (x ++ '"' :: rest) =
      if EndsLike (k :: key) x then
        (takeLiteral ('"' :: rest)).or (findLiteral (k :: key) rest)
      else findLiteral (k :: key) rest := by
  induction x with
  | nil =>
      have hends : ¬ EndsLike (k :: key) [] := by simp [EndsLike]
      have hstart : ¬ (k :: key) <+: '"' :: rest := by
        intro hstart
        obtain ⟨rfl, -⟩ := List.cons_prefix_cons.1 hstart
        simp at hquote
      rw [if_neg hends, List.nil_append, findLiteral_cons hstart]
  | cons c x ih =>
      have hx := ih (h.of_infix (List.suffix_cons c x).isInfix)
      by_cases hhere : (k :: key) <+: c :: x
      · obtain ⟨after, hafter⟩ := hhere
        have hrest : key ++ (after ++ '"' :: rest) = x ++ '"' :: rest := by
          rw [← List.append_assoc]
          exact congrArg (· ++ '"' :: rest) (List.cons.inj hafter).2
        rw [← hafter, List.append_assoc, findLiteral_key, hrest, hx, hafter]
        -- the quote opens a literal here if only blanks stand between the key and it
        by_cases hblank : ∀ d ∈ after, isBlank d = true
        · have hends : EndsLike (k :: key) (c :: x) :=
            (endsLike_cons_iff hkey c x).2 (Or.inl ⟨after, hblank, hafter⟩)
          have hopen : trimStart (after ++ '"' :: rest) = '"' :: rest := by
            rw [trimStart_append_of_blank hblank, trimStart_cons, if_neg (by decide)]
          rw [if_pos hends, hopen]
          split
          · rw [← Option.or_assoc, Option.or_self]
          · rfl
        · have hiff : EndsLike (k :: key) (c :: x) ↔ EndsLike (k :: key) x := by
            rw [endsLike_cons_iff hkey]
            apply or_iff_right
            rintro ⟨pad, hpad, hcons⟩
            rw [← hafter, List.append_cancel_left_eq] at hcons
            exact hblank (hcons ▸ hpad)
          have hne : trimStart after ≠ [] := fun hnil => hblank (List.dropWhile_eq_nil_iff.1 hnil)
          have hopen : trimStart (after ++ '"' :: rest) = trimStart after ++ '"' :: rest := by
            unfold trimStart at hne ⊢
            rw [List.dropWhile_append, if_neg (by simpa using hne)]
          have hnone : takeLiteral (trimStart (after ++ '"' :: rest)) = none := by
            apply takeLiteral_eq_none
            rw [hopen, List.head?_append_of_ne_nil _ hne]
            rw [← hafter] at h
            exact h.head?_trimStart
          rw [hnone, Option.none_or]
          simp only [hiff]
      · have hstart : ¬ (k :: key) <+: c :: (x ++ '"' :: rest) :=
          fun hstart => hhere (prefix_of_prefix_append hquote hstart)
        have hiff : EndsLike (k :: key) (c :: x) ↔ EndsLike (k :: key) x := by
          rw [endsLike_cons_iff hkey]
          apply or_iff_right
          rintro ⟨pad, hpad, hcons⟩
          exact hhere ⟨pad, hcons⟩
        rw [List.cons_append, findLiteral_cons hstart, hx]
        simp only [hiff]

/-- In a written text a quote stands behind the backslash of its escape. -/
theorem slash_before_quote {s before after : List Char} (h : escape s = before ++ '"' :: after) :
    before.getLast? = some '\\' := by
  induction s generalizing before with
  | nil => simp [escape] at h
  | cons c s ih =>
      rw [escape_cons] at h
      rcases List.append_eq_append_iff.1 h with ⟨rest, hbefore, hrest⟩ | ⟨rest, hescape, hrest⟩
      · have hlast := ih hrest
        rw [hbefore, List.getLast?_append, hlast]
        rfl
      · cases rest with
        | nil =>
            have hstart : escape s = [] ++ '"' :: after := hrest.symm
            cases ih hstart
        | cons d rest =>
            obtain ⟨rfl, -⟩ := List.cons.inj hrest
            rcases escapeChar_shape c with ⟨heq, hplain⟩ | ⟨l, -, more, heq, -, hmore⟩
            · rw [heq] at hescape
              have hc : '"' ∈ [c] := by
                rw [hescape]
                simp
              obtain rfl : '"' = c := by simpa using hc
              exact absurd (Or.inl rfl) hplain
            · rw [heq] at hescape
              cases before with
              | nil => simp at hescape
              | cons b before =>
                  obtain ⟨rfl, htail⟩ := List.cons.inj hescape
                  cases before with
                  | nil => rfl
                  | cons e before =>
                      have hquote : '"' ∈ more := by
                        rw [(List.cons.inj htail).2]
                        simp
                      exact absurd (hmore _ hquote) (by decide)

theorem noLiteral_escape (key s : List Char) : NoLiteral (key ++ [':']) (escape s) := by
  rintro pad hpad ⟨before, after, h⟩
  have hescape : escape s = before ++ (key ++ [':'] ++ pad) ++ '"' :: after := by
    rw [← h]
    simp
  have hlast := slash_before_quote hescape
  rcases List.eq_nil_or_concat pad with rfl | ⟨pad, d, rfl⟩
  · rw [List.append_nil, ← List.append_assoc, List.getLast?_concat] at hlast
    simp at hlast
  · have hd := hpad d (by simp)
    rw [List.concat_eq_append, ← List.append_assoc, ← List.append_assoc,
      List.getLast?_concat] at hlast
    obtain rfl := Option.some.inj hlast
    simp [isBlank] at hd

/-! ## The keys of a service block -/

def titleKey : List Char := ['t', 'i', 't', 'l', 'e', ':']

def versionKey : List Char := ['v', 'e', 'r', 's', 'i', 'o', 'n', ':']

theorem escape_of_no_slash {s : List Char} (hs : '\\' ∉ escape s) : escape s = s := by
  induction s with
  | nil => rfl
  | cons c s ih =>
      rw [escape_cons, List.mem_append, not_or] at hs
      rcases escapeChar_shape c with ⟨heq, -⟩ | ⟨l, -, more, heq, -, -⟩
      · rw [escape_cons, heq, ih hs.2]
        rfl
      · rw [heq] at hs
        simp at hs

/-- A piece without escapes that a written text ends in is one that the text itself ends in. -/
theorem suffix_of_suffix_escape {piece s : List Char} (hslash : '\\' ∉ piece)
    (hhead : ∀ c ∈ piece.head?, c ∉ escapeLetters ++ smallHexDigits) (h : piece <:+ escape s) :
    piece <:+ s := by
  induction s with
  | nil => exact h
  | cons c s ih =>
      obtain ⟨before, hbefore⟩ := h
      rw [escape_cons] at hbefore
      have hlater : piece <:+ escape s → piece <:+ c :: s :=
        fun h => (ih h).trans (List.suffix_cons c s)
      rcases List.append_eq_append_iff.1 hbefore.symm with ⟨rest, -, hrest⟩ | ⟨rest, hchar, hrest⟩
      · exact hlater ⟨rest, hrest.symm⟩
      · cases rest with
        | nil => exact hlater ⟨[], hrest⟩
        | cons d rest =>
            rw [hrest] at hhead hslash
            have hd := hhead d rfl
            simp only [List.cons_append, List.mem_cons, List.mem_append, not_or] at hd hslash
            rcases escapeChar_shape c with ⟨heq, -⟩ | ⟨l, hl, more, heq, -, hmore⟩
            · rw [heq] at hchar
              rcases List.append_eq_singleton_iff.1 hchar.symm with ⟨-, hwhole⟩ | ⟨-, hnil⟩
              · obtain ⟨rfl, rfl⟩ := List.cons.inj hwhole
                rw [hrest, escape_of_no_slash hslash.2.2]
                exact List.suffix_refl _
              · cases hnil
            · have hmem : d ∈ '\\' :: l :: more := by
                rw [← heq, hchar]
                simp
              simp only [List.mem_cons] at hmem
              rcases hmem with rfl | rfl | hmem
              · exact absurd rfl hslash.1
              · exact absurd hl hd.1
              · exact absurd (hmore d hmem) hd.2

/-- A text that is written so that it ends like the key of the version ends like it itself. -/
theorem endsLike_of_escape {s : List Char} (h : EndsLike versionKey (escape s)) :
    EndsLike versionKey s := by
  have hkey : trimEnd versionKey = versionKey := by decide
  obtain ⟨pad, hpad, hsuffix⟩ := (endsLike_iff hkey _).1 h
  refine (endsLike_iff hkey _).2 ⟨pad, hpad, suffix_of_suffix_escape ?_ ?_ hsuffix⟩
  · intro hmem
    rcases List.mem_append.1 hmem with hmem | hmem
    · exact absurd hmem (by decide)
    · exact absurd (hpad _ hmem) (by decide)
  · rintro c ⟨⟩
    decide

end ApiShapes.TypeSpec
