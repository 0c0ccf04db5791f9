import ApiShapes.Proofs.Yaml.ScannedText
import Mathlib.Tactic

/-!
# Moves of a cursor

Where a cursor stands after a number of characters, and how the readers pass the gaps between the
tokens of a text whose gaps are blanks and line feeds.
-/

namespace ApiShapes.Yaml

/-- A gap of blanks and line feeds only. -/
def IsSpacing (gap : List Char) : Prop :=
  ∀ ch ∈ gap, ch = ' ' ∨ ch = '\n'

namespace Cursor

variable {c : Cursor}

theorem rest_next (c : Cursor) : c.next.rest = c.rest.tail := by
  cases h : c.rest with
  | nil =>
      unfold next
      rw [h]
      simp [h]
  | cons ch rest => rw [next_rest h, List.tail_cons]

theorem rest_skip (n : Nat) (c : Cursor) : (c.skip n).rest = c.rest.drop n := by
  induction n generalizing c with
  | zero => rfl
  | succ n ih => rw [skip, ih, rest_next, List.drop_tail]

theorem skip_skip (m n : Nat) (c : Cursor) : (c.skip m).skip n = c.skip (m + n) := by
  induction m generalizing c with
  | zero => rw [Nat.zero_add, skip]
  | succ m ih => rw [Nat.succ_add, skip, skip, ih]

theorem skip_next (n : Nat) (c : Cursor) : c.next.skip n = c.skip (n + 1) :=
  rfl

theorem index_next (h : c.rest ≠ []) : c.next.index = c.index + 1 := by
  obtain ⟨ch, rest, hrest⟩ := List.exists_cons_of_ne_nil h
  unfold next
  rw [hrest]
  dsimp only
  split <;> rfl

theorem index_skip {n : Nat} (h : n ≤ c.rest.length) : (c.skip n).index = c.index + n := by
  induction n generalizing c with
  | zero => rfl
  | succ n ih =>
      have hne : c.rest ≠ [] := List.ne_nil_of_length_pos (by omega)
      have hn : n ≤ c.next.rest.length := by
        rw [rest_next, List.length_tail]
        omega
      rw [skip, ih hn, index_next hne]
      omega

/-- Characters that end no line leave the cursor on its line. -/
theorem line_skip {passed rest : List Char} (h : c.rest = passed ++ rest)
    (hpassed : ∀ ch ∈ passed, isBreak ch = false) : (c.skip passed.length).line = c.line := by
  induction passed generalizing c with
  | nil => rfl
  | cons ch passed ih =>
      have hch : isBreak ch = false := hpassed ch List.mem_cons_self
      have hline : c.next.line = c.line := by
        unfold next
        rw [h]
        simp [hch]
      rw [List.length_cons, skip, ih (next_rest h) fun x hx => hpassed x (List.mem_cons_of_mem _ hx),
        hline]

theorem peek_of_rest {ch : Char} {rest : List Char} (h : c.rest = ch :: rest) :
    c.peek = some ch := by
  rw [peek, h, List.head?_cons]

theorem span_of_stop {p : Char → Bool} {taken rest : List Char} (h : c.rest = taken ++ rest)
    (htaken : ∀ ch ∈ taken, p ch = true) (hrest : ∀ ch, rest.head? = some ch → p ch = false) :
    c.span p = (taken, c.skip taken.length) := by
  have hwhile : c.rest.takeWhile p = taken := by
    rw [h, List.takeWhile_append_of_pos htaken]
    cases rest with
    | nil => simp
    | cons ch rest => simp [hrest ch rfl]
  rw [span, hwhile]

theorem skipWhile_of_head {p : Char → Bool} {ch : Char} {rest : List Char}
    (h : c.rest = ch :: rest) (hch : p ch = true) : c.skipWhile p = c.next.skipWhile p := by
  simp only [skipWhile, span, h, next_rest h, List.takeWhile_cons, hch, if_true, List.length_cons]
  rfl

theorem skipWhile_of_stop {p : Char → Bool} (h : ∀ ch, c.rest.head? = some ch → p ch = false) :
    c.skipWhile p = c := by
  have hspan := @span_of_stop c p [] c.rest rfl (by simp) h
  rw [skipWhile, hspan]
  rfl

theorem lineBreak_feed {rest : List Char} (h : c.rest = '\n' :: rest) :
    c.lineBreak = (['\n'], c.next) := by
  unfold lineBreak
  rw [h]
  rfl

theorem lineBreak_of_stop (h : ∀ ch, c.rest.head? = some ch → isBreak ch = false) :
    c.lineBreak = ([], c) := by
  unfold lineBreak
  split
  · next rest heq => simp [heq, isBreak] at h
  · next ch rest _ heq =>
    have hch : isBreak ch = false := h ch (by rw [heq, List.head?_cons])
    have hseparators : ¬ (ch == '\u2028' || ch == '\u2029') = true := by
      intro hsep
      simp_all [isBreak]
    rw [if_neg hseparators, if_neg (by simp [hch])]
  · rfl

theorem atMark_of_head {mark : Char} (h : c.rest.head? ≠ some mark) : c.atMark mark = false := by
  unfold atMark
  split
  · next x y z rest heq =>
    have hx : x ≠ mark := by
      rintro rfl
      exact h (by rw [heq, List.head?_cons])
    simp [hx]
  · rfl

theorem atDocumentMark_of_head (hminus : c.rest.head? ≠ some '-') (hdot : c.rest.head? ≠ some '.') :
    c.atDocumentMark = false := by
  rw [atDocumentMark, atMark_of_head hminus, atMark_of_head hdot]
  rfl

end Cursor

end ApiShapes.Yaml
