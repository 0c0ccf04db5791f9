import ApiShapes.Proofs.Json.LiteralReading
import ApiShapes.Proofs.Yaml.CursorMoves
import ApiShapes.Proofs.Yaml.PlainNumbers
import ApiShapes.Yaml.Quoted
import Mathlib.Tactic

/-!
# Literals that both formats read

A JSON literal without raw tabs and line separators is a quoted scalar of YAML.  Both formats read
the same codes from it, but only JSON joins the two codes of a surrogate pair.
-/

namespace ApiShapes.Yaml

/-- The inside of a literal, with its codes as JSON reads them. -/
inductive Literal : List Char → List Nat → Prop where
  | nil : Literal [] []
  | char {ch : Char} {body : List Char} {codes : List Nat} (quote : ch ≠ '"') (escape : ch ≠ '\\')
      (tab : ch ≠ '\t') (unbroken : isBreak ch = false) (more : Literal body codes) :
      Literal (ch :: body) (ch.toNat :: codes)
  | short {ch d : Char} {body : List Char} {codes : List Nat}
      (letter : Json.unescapeChar? ch = some d) (more : Literal body codes) :
      Literal ('\\' :: ch :: body) (d.toNat :: codes)
  | code {x y z w : Char} {n : Nat} {body : List Char} {codes : List Nat}
      (digits : Json.hexDigits? [x, y, z, w] = some n) (more : Literal body codes) :
      Literal ('\\' :: 'u' :: x :: y :: z :: w :: body) (n :: codes)

/-- The text that YAML reads for a list of codes. -/
def textOfCodes (codes : List Nat) : List Char :=
  codes.map Text.charOfCode

theorem Literal.unbroken {body : List Char} {codes : List Nat} (h : Literal body codes) :
    ∀ ch ∈ body, isBreak ch = false := by
  induction h with
  | nil => exact fun _ hch => nomatch hch
  | char quote escape tab unbroken more ih => exact List.forall_mem_cons.2 ⟨unbroken, ih⟩
  | @short ch d body codes letter more ih =>
      have hletter : isBreak ch = false := by
        unfold Json.unescapeChar? at letter
        split at letter
        all_goals cases letter
        all_goals decide
      exact List.forall_mem_cons.2 ⟨by decide, List.forall_mem_cons.2 ⟨hletter, ih⟩⟩
  | @code x y z w n body codes digits more ih =>
      have hdigits : ∀ ch ∈ [x, y, z, w], isBreak ch = false := by
        intro ch hch
        obtain ⟨d, hd⟩ := Decimal.exists_digitValue? digits ch hch
        have hunbroken : ∀ digit ∈ hexDigits, isBreak digit = false := by decide
        exact hunbroken ch (mem_hexDigits hd)
      intro ch hch
      rcases List.mem_append.1 (show ch ∈ ['\\', 'u', x, y, z, w] ++ body from hch) with hch | hch
      · simp only [List.forall_mem_cons] at hdigits
        simp only [List.mem_cons, List.not_mem_nil, or_false] at hch
        rcases hch with rfl | rfl | rfl | rfl | rfl | rfl <;> simp_all [isBreak]
      · exact ih ch hch

/-! ## Words -/

section Words

variable {c : Cursor} {ch : Char} {rest : List Char} {fuel : Nat}

theorem quotedWord_ordinary (double : Bool) (h : c.rest = ch :: rest) (hch : isOrdinary ch = true) :
    quotedWord double (fuel + 1) c =
      (quotedWord double (fuel + 1) c.next).map fun (more, d) => (ch :: more, d) := by
  have hspan : c.span isOrdinary =
      (ch :: (c.next.span isOrdinary).1, (c.next.span isOrdinary).2) := by
    simp only [Cursor.span, h, Cursor.next_rest h, List.takeWhile_cons, hch, if_true,
      List.length_cons]
    rfl
  have hmap : ∀ (s : List Char) (r : Except Fault (List Char × Cursor)),
      (r.map fun (more, d) => ((ch :: (c.next.span isOrdinary).1) ++ s ++ more, d)) =
        (r.map fun (more, d) => ((c.next.span isOrdinary).1 ++ s ++ more, d)).map
          fun (more, d) => (ch :: more, d) := by
    intro s r
    cases r <;> rfl
  simp only [quotedWord, hspan]
  cases (c.next.span isOrdinary).2.peek with
  | none => rfl
  | some x =>
      split
      · split_ifs
        · exact hmap _ _
        · exact hmap _ _
        · rfl
      · split_ifs
        · rfl
        · exact hmap _ _
      · split_ifs
        · split
          · rfl
          · exact hmap _ _
        · exact hmap _ _
      · rfl

theorem span_ordinary_of_head (h : c.rest = ch :: rest) (hch : isOrdinary ch = false) :
    c.span isOrdinary = ([], c) := by
  apply @Cursor.span_of_stop c isOrdinary [] c.rest rfl (by simp)
  rintro x hx
  replace hx : c.rest.head? = some x := hx
  rw [h] at hx
  cases hx
  exact hch

/-- A word ends at a blank and at the closing quote. -/
theorem quotedWord_stop (h : c.rest = ch :: rest) (hch : ch = '"' ∨ ch = ' ') :
    quotedWord true (fuel + 1) c = .ok ([], c) := by
  have hordinary : isOrdinary ch = false := by rcases hch with rfl | rfl <;> decide
  rw [quotedWord, span_ordinary_of_head h hordinary]
  dsimp only
  rw [Cursor.peek_of_rest h]
  rcases hch with rfl | rfl
  · rfl
  · rfl

theorem quotedWord_apostrophe (h : c.rest = '\'' :: rest) :
    quotedWord true (fuel + 1) c =
      (quotedWord true fuel c.next).map fun (more, d) => ('\'' :: more, d) := by
  rw [quotedWord, span_ordinary_of_head h (by decide)]
  dsimp only
  rw [Cursor.peek_of_rest h]
  rfl

theorem quotedWord_escape {s : List Char} {d : Cursor} (h : c.rest = '\\' :: rest)
    (hescape : escapeSequence c.next = .ok (s, d)) :
    quotedWord true (fuel + 1) c =
      (quotedWord true fuel d).map fun (more, e) => (s ++ more, e) := by
  rw [quotedWord, span_ordinary_of_head h (by decide)]
  dsimp only
  rw [Cursor.peek_of_rest h]
  simp only [if_true, hescape, List.nil_append]

end Words

/-! ## Escapes -/

section Escapes

variable {c : Cursor} {rest : List Char}

theorem lookup_shortEscapes {ch d : Char} (h : Json.unescapeChar? ch = some d) :
    shortEscapes.lookup ch = some d := by
  unfold Json.unescapeChar? at h
  split at h
  all_goals cases h
  all_goals decide

theorem escapeSequence_short {ch d : Char} (h : c.rest = ch :: rest)
    (hletter : Json.unescapeChar? ch = some d) : escapeSequence c = .ok ([d], c.skip 1) := by
  unfold escapeSequence
  rw [Cursor.peek_of_rest h]
  dsimp only
  rw [lookup_shortEscapes hletter]
  rfl

theorem escapeSequence_code {x y z w : Char} {n : Nat} (h : c.rest = 'u' :: x :: y :: z :: w :: rest)
    (hdigits : Json.hexDigits? [x, y, z, w] = some n) :
    escapeSequence c = .ok ([Text.charOfCode n], c.skip 5) := by
  have hbound : n < 16 ^ [x, y, z, w].length := Decimal.ofDigits?_lt hdigits
  have hn : n < 0x10000 := by simpa using hbound
  have htake : c.next.rest.take 4 = [x, y, z, w] := by rw [Cursor.next_rest h]; rfl
  have hlookup : shortEscapes.lookup 'u' = none := by decide
  have hwidth : codeEscapes.lookup 'u' = some 4 := by decide
  unfold escapeSequence
  rw [Cursor.peek_of_rest h]
  dsimp only
  rw [hlookup, hwidth]
  dsimp only
  unfold codeEscape
  rw [htake]
  dsimp only
  rw [show Decimal.ofDigits? 16 [x, y, z, w] = some n from hdigits]
  dsimp only
  rw [if_neg (by simp), if_neg (by omega), if_neg (by omega)]
  rfl

end Escapes

/-! ## Literals -/

theorem textOfCodes_cons (ch : Char) (codes : List Nat) :
    textOfCodes (ch.toNat :: codes) = ch :: textOfCodes codes := by
  rw [textOfCodes, List.map_cons, Text.charOfCode_toNat, textOfCodes]

/-- Reading a word at a cursor passes a part of the literal that stands there, up to the next blank
or the closing quote. -/
def ReadsWord (fuel : Nat) (c : Cursor) (body left : List Char) (codes : List Nat) : Prop :=
  ∃ (k : Nat) (text body' : List Char) (codes' : List Nat),
    quotedWord true fuel c = .ok (text, c.skip k) ∧ (c.skip k).rest = body' ++ '"' :: left ∧
      k + body'.length = body.length ∧ Literal body' codes' ∧
      (body' = [] ∨ ∃ more, body' = ' ' :: more) ∧
      text ++ textOfCodes codes' = textOfCodes codes

/-- What is read before a word belongs to it. -/
theorem ReadsWord.prepend {fuel fuel' m : Nat} {c : Cursor} {body body₀ left s : List Char}
    {codes codes₀ : List Nat} (h : ReadsWord fuel (c.skip m) body₀ left codes₀)
    (hread : quotedWord true fuel' c =
      (quotedWord true fuel (c.skip m)).map fun (more, d) => (s ++ more, d))
    (hlength : m + body₀.length = body.length)
    (htext : s ++ textOfCodes codes₀ = textOfCodes codes) : ReadsWord fuel' c body left codes := by
  obtain ⟨k, text, body', codes', hword, hleft, hpassed, hbody', hends, hcodes⟩ := h
  rw [Cursor.skip_skip] at hword hleft
  refine ⟨m + k, s ++ text, body', codes', ?_, hleft, by omega, hbody', hends, ?_⟩
  · rw [hread, hword]
    rfl
  · rw [List.append_assoc, hcodes, htext]

theorem Literal.readsWord {body : List Char} {codes : List Nat} (h : Literal body codes) :
    ∀ (c : Cursor) (left : List Char) (fuel : Nat), c.rest = body ++ '"' :: left →
      body.length < fuel → ReadsWord fuel c body left codes := by
  induction h with
  | nil =>
      rintro c left (_ | fuel) hrest hfuel
      · cases hfuel
      · exact ⟨0, [], [], [], quotedWord_stop hrest (.inl rfl), hrest, rfl, .nil, .inl rfl, rfl⟩
  | @char ch body codes quote escape tab unbroken more ih =>
      rintro c left (_ | fuel) hrest hfuel
      · cases hfuel
      have hnext : (c.skip 1).rest = body ++ '"' :: left := Cursor.next_rest hrest
      rw [List.length_cons] at hfuel
      by_cases hblank : ch = ' '
      · subst hblank
        exact ⟨0, [], ' ' :: body, ' '.toNat :: codes, quotedWord_stop hrest (.inr rfl), hrest,
          Nat.zero_add _, .char quote escape tab unbroken more, .inr ⟨body, rfl⟩, rfl⟩
      · by_cases hquote : ch = '\''
        · subst hquote
          apply (ih (c.skip 1) left fuel hnext (by omega)).prepend (s := ['\''])
            (quotedWord_apostrophe hrest)
          · rw [List.length_cons, Nat.add_comm]
          · exact (textOfCodes_cons _ codes).symm
        · have hordinary : isOrdinary ch = true := by
            simp [isOrdinary, isGap, quote, escape, tab, unbroken, hblank, hquote]
          apply (ih (c.skip 1) left (fuel + 1) hnext (by omega)).prepend (s := [ch])
            (quotedWord_ordinary true hrest hordinary)
          · rw [List.length_cons, Nat.add_comm]
          · exact (textOfCodes_cons ch codes).symm
  | @short ch d body codes letter more ih =>
      rintro c left (_ | fuel) hrest hfuel
      · cases hfuel
      have hnext : c.next.rest = ch :: (body ++ '"' :: left) := Cursor.next_rest hrest
      have hafter : (c.skip 2).rest = body ++ '"' :: left := Cursor.next_rest hnext
      simp only [List.length_cons] at hfuel
      apply (ih (c.skip 2) left fuel hafter (by omega)).prepend
        (quotedWord_escape hrest (escapeSequence_short hnext letter))
      · simp only [List.length_cons]
        omega
      · exact (textOfCodes_cons d codes).symm
  | @code x y z w n body codes digits more ih =>
      rintro c left (_ | fuel) hrest hfuel
      · cases hfuel
      have hnext : c.next.rest = 'u' :: x :: y :: z :: w :: (body ++ '"' :: left) :=
        Cursor.next_rest hrest
      have hafter : (c.skip 6).rest = body ++ '"' :: left := by
        rw [Cursor.rest_skip, hrest]
        rfl
      simp only [List.length_cons] at hfuel
      apply (ih (c.skip 6) left fuel hafter (by omega)).prepend
        (quotedWord_escape hrest (escapeSequence_code hnext digits))
      · simp only [List.length_cons]
        omega
      · rfl

/-- The blanks at the start of a literal, before a character that is no gap. -/
theorem Literal.blanks {body : List Char} {codes : List Nat} (h : Literal body codes) :
    ∃ (blanks body' : List Char) (codes' : List Nat), body = blanks ++ body' ∧
      (∀ ch ∈ blanks, ch = ' ') ∧ Literal body' codes' ∧
      blanks ++ textOfCodes codes' = textOfCodes codes ∧
      ∀ ch, body'.head? = some ch → isGap ch = false := by
  induction h with
  | nil => exact ⟨[], [], [], rfl, by simp, .nil, rfl, by simp⟩
  | @char ch body codes quote escape tab unbroken more ih =>
      by_cases hblank : ch = ' '
      · subst hblank
        obtain ⟨blanks, body', codes', rfl, hblanks, hbody', htext, hhead⟩ := ih
        refine ⟨' ' :: blanks, body', codes', rfl, ?_, hbody', ?_, hhead⟩
        · exact List.forall_mem_cons.2 ⟨rfl, hblanks⟩
        · rw [textOfCodes_cons, List.cons_append, htext]
      · refine ⟨[], ch :: body, ch.toNat :: codes, rfl, by simp,
          .char quote escape tab unbroken more, rfl, ?_⟩
        rintro x hx
        cases hx
        simp [isGap, hblank, tab, unbroken]
  | @short ch d body codes letter more ih =>
      refine ⟨[], _, _, rfl, by simp, .short letter more, rfl, ?_⟩
      rintro x hx
      cases hx
      decide
  | @code x y z w n body codes digits more ih =>
      refine ⟨[], _, _, rfl, by simp, .code digits more, rfl, ?_⟩
      rintro x hx
      cases hx
      decide

theorem quotedGap_blanks {c : Cursor} {blanks rest : List Char} {ch : Char}
    (h : c.rest = blanks ++ ch :: rest) (hblanks : ∀ ch ∈ blanks, ch = ' ')
    (hch : isGap ch = false) : quotedGap c = .ok (blanks, c.skip blanks.length) := by
  have hbreak : isBreak ch = false := by
    simp only [isGap, Bool.or_eq_false_iff] at hch
    exact hch.2
  have hspan : c.span (fun ch => ch == ' ' || ch == '\t') = (blanks, c.skip blanks.length) := by
    apply Cursor.span_of_stop h
    · rintro x hx
      rw [hblanks x hx]
      decide
    · rintro x hx
      cases hx
      simp only [isGap, Bool.or_eq_false_iff] at hch
      simp [hch.1.1, hch.1.2]
  have hafter : (c.skip blanks.length).rest = ch :: rest := by
    rw [Cursor.rest_skip, h, List.drop_left]
  unfold quotedGap
  rw [hspan]
  dsimp only
  rw [Cursor.peek_of_rest hafter, Cursor.lineBreak_of_stop]
  rintro x hx
  rw [hafter] at hx
  cases hx
  exact hbreak

/-- A literal is read up to its closing quote. -/
theorem Literal.quotedRest {left : List Char} (fuel : Nat) :
    ∀ {body : List Char} {codes : List Nat} (c : Cursor), Literal body codes →
      c.rest = body ++ '"' :: left → body.length < fuel →
      quotedRest true fuel c = .ok (textOfCodes codes, c.skip (body.length + 1)) := by
  induction fuel with
  | zero => exact fun _ _ _ hfuel => nomatch hfuel
  | succ fuel ih =>
      intro body codes c h hrest hfuel
      have hlong : body.length < c.rest.length + 1 := by
        rw [hrest, List.length_append]
        omega
      obtain ⟨k, text, body', codes', hword, hleft, hlength, hbody', hends, htext⟩ :=
        h.readsWord c left _ hrest hlong
      rw [Yaml.quotedRest, hword]
      dsimp only [bind, Except.bind]
      rcases hends with rfl | ⟨more, rfl⟩
      · cases hbody'
        rw [Cursor.peek_of_rest hleft, if_pos rfl, ← htext, ← hlength]
        simp only [textOfCodes, List.map_nil, List.append_nil, List.length_nil, Nat.add_zero]
        rw [← Cursor.skip_skip]
        rfl
      · obtain ⟨blanks, body'', codes'', heq, hblanks, hbody'', htext', hhead⟩ := hbody'.blanks
        rw [heq] at hleft hlength
        rw [List.append_assoc] at hleft
        rw [List.length_append] at hlength
        have hpeek : (c.skip k).peek ≠ some '"' := by
          rw [Cursor.peek, hleft, ← List.append_assoc, ← heq]
          simp
        have hblanksLength : 0 < blanks.length := by
          apply List.length_pos_of_ne_nil
          rintro rfl
          have hgap := hhead ' ' (by rw [← List.nil_append body'', ← heq]; rfl)
          exact absurd hgap (by decide)
        obtain ⟨ch, rest, hch, hgap⟩ : ∃ ch rest, body'' ++ '"' :: left = ch :: rest ∧
            isGap ch = false := by
          cases body'' with
          | nil => exact ⟨'"', left, rfl, by decide⟩
          | cons ch body'' => exact ⟨ch, body'' ++ '"' :: left, rfl, hhead ch rfl⟩
        have hafter : (c.skip (k + blanks.length)).rest = body'' ++ '"' :: left := by
          rw [← Cursor.skip_skip, Cursor.rest_skip, hleft, List.drop_left]
        have hrestRead := ih _ hbody'' hafter (by omega)
        rw [if_neg (by simpa using hpeek), quotedGap_blanks (hch ▸ hleft) hblanks hgap,
          Cursor.skip_skip]
        dsimp only
        rw [hrestRead, Cursor.skip_skip, ← htext, ← htext', ← hlength]
        simp only [List.append_assoc, Nat.add_assoc]
        rfl

/-- YAML reads a literal that stands at a cursor. -/
theorem Literal.readQuoted {body left : List Char} {codes : List Nat} {c : Cursor}
    (h : Literal body codes) (hrest : c.rest = '"' :: (body ++ '"' :: left)) :
    readQuoted true c = .ok (textOfCodes codes, c.skip (body.length + 2)) := by
  have hlong : body.length < c.rest.length + 1 := by
    rw [hrest, List.length_cons, List.length_append]
    omega
  rw [Yaml.readQuoted, h.quotedRest _ c.next (Cursor.next_rest hrest) hlong]
  rfl

end ApiShapes.Yaml
