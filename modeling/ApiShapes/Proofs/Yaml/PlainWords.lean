import ApiShapes.Proofs.Yaml.CursorMoves
import ApiShapes.Yaml.Plain
import ApiShapes.Yaml.Scalar
import Mathlib.Tactic

/-!
# Plain words

The numbers and names of a JSON text are plain scalars of YAML, of one word each.
-/

namespace ApiShapes.Yaml

/-- The characters of numbers and names. -/
def isWordLetter (ch : Char) : Bool :=
  ch.isAlphanum || ch == '+' || ch == '-' || ch == '.'

/-- A number or name, with its value by its form. -/
structure PlainWord where
  text : List Char
  value : Value
  letters : ∀ ch ∈ text, isWordLetter ch = true
  start : ∃ first rest, text = first :: rest ∧
    (first.isAlphanum = true ∨ first = '-' ∧ ∃ second more, rest = second :: more ∧
      second.isAlphanum = true)
  denotes : scalarValue (plainTag text) text = .ok value

/-- Nothing is left, or inside brackets the punctuation of collections. -/
def Closes (inFlow : Bool) (rest : List Char) : Prop :=
  ∀ ch, rest.head? = some ch → inFlow = true ∧ (ch = ',' ∨ ch = ']' ∨ ch = '\x7d')

variable {c : Cursor} {inFlow : Bool} {gap rest : List Char}

/-- Characters at which a plain scalar can end. -/
def wordBounds : List Char :=
  [' ', '\t', '\n', '\r', '\x85', '\u2028', '\u2029', ':', ',', '[', ']', '\x7b', '\x7d', '?', '#']

theorem isWordLetter.ne {ch : Char} (h : isWordLetter ch = true) : ∀ bound ∈ wordBounds, ch ≠ bound := by
  have hbounds : ∀ bound ∈ wordBounds, isWordLetter bound = false := by decide
  intro bound hbound heq
  subst heq
  rw [hbounds ch hbound] at h
  cases h

theorem stopsPlain_of_letter {ch : Char} (h : isWordLetter ch = true) (after : Option Char) :
    stopsPlain inFlow ch after = false := by
  have hne := isWordLetter.ne h
  simp only [wordBounds, List.forall_mem_cons] at hne
  obtain ⟨hblank, htab, hfeed, hreturn, hnext, hline, hparagraph, hcolon, hcomma, hopen, hclose,
    hopenBrace, hcloseBrace, hquery, -⟩ := hne
  simp only [stopsPlain, isGap, isBreak, isFlowIndicator, beq_false_of_ne hblank,
    beq_false_of_ne htab, beq_false_of_ne hfeed, beq_false_of_ne hreturn, beq_false_of_ne hnext,
    beq_false_of_ne hline, beq_false_of_ne hparagraph, beq_false_of_ne hcolon,
    beq_false_of_ne hcomma, beq_false_of_ne hopen, beq_false_of_ne hclose,
    beq_false_of_ne hopenBrace, beq_false_of_ne hcloseBrace, beq_false_of_ne hquery,
    Bool.or_false, Bool.false_and, Bool.and_false]

theorem plainWordLength_word {word : List Char} (h : ∀ ch ∈ word, isWordLetter ch = true) :
    plainWordLength inFlow (word ++ rest) = plainWordLength inFlow rest + word.length := by
  induction word with
  | nil => rfl
  | cons ch word ih =>
      have hstops := @stopsPlain_of_letter inFlow ch (h ch List.mem_cons_self) (word ++ rest).head?
      rw [List.cons_append, plainWordLength, hstops, if_neg Bool.false_ne_true,
        ih fun x hx => h x (List.mem_cons_of_mem _ hx), List.length_cons, Nat.add_assoc]

theorem plainWordLength_closes (hgap : IsSpacing gap) (hrest : Closes inFlow rest) :
    plainWordLength inFlow (gap ++ rest) = 0 := by
  cases gap with
  | nil =>
      cases rest with
      | nil => rfl
      | cons ch rest =>
          obtain ⟨hflow, hch⟩ := hrest ch rfl
          rw [List.nil_append, plainWordLength, if_pos]
          rcases hch with rfl | rfl | rfl <;> simp [stopsPlain, isFlowIndicator, hflow]
  | cons ch gap =>
      rw [List.cons_append, plainWordLength, if_pos]
      rcases hgap ch List.mem_cons_self with rfl | rfl <;> simp [stopsPlain, isGap, isBreak]

/-- What can stand after a gap is neither a gap, nor a comment, nor the start of a mark. -/
theorem Closes.head_ne (h : Closes inFlow rest) :
    ∀ ch, rest.head? = some ch → ch ≠ ' ' ∧ isBreak ch = false ∧ ch ≠ '#' ∧ ch ≠ '-' ∧ ch ≠ '.' := by
  intro ch hch
  obtain ⟨-, rfl | rfl | rfl⟩ := h ch hch <;> decide

theorem not_atDocumentMark (hgap : IsSpacing gap) (hclose : Closes inFlow rest)
    (hrest : c.rest = gap ++ rest) : c.atDocumentMark = false := by
  have hhead : ∀ ch, c.rest.head? = some ch → ch ≠ '-' ∧ ch ≠ '.' := by
    rw [hrest]
    cases gap with
    | nil => exact fun ch hch => (hclose.head_ne ch hch).2.2.2
    | cons x gap =>
        rintro ch hch
        cases hch
        rcases hgap x List.mem_cons_self with rfl | rfl <;> decide
  exact Cursor.atDocumentMark_of_head (fun h => (hhead _ h).1 rfl) fun h => (hhead _ h).2 rfl

theorem plainBreaks_cursor (hclose : Closes inFlow rest) (hgap : IsSpacing gap) {fuel : Nat}
    (hrest : c.rest = gap ++ rest) (hfuel : gap.length < fuel) :
    (plainBreaks fuel c).2 = c.skip gap.length := by
  induction gap generalizing c fuel with
  | nil =>
      obtain ⟨fuel, rfl⟩ : ∃ n, fuel = n + 1 := ⟨fuel - 1, by omega⟩
      rw [List.nil_append] at hrest
      have hpeek : c.peek ≠ some ' ' := by
        rw [Cursor.peek, hrest]
        exact fun h => (hclose.head_ne _ h).1 rfl
      have hbreak : c.lineBreak = ([], c) := by
        apply Cursor.lineBreak_of_stop
        rw [hrest]
        exact fun ch hch => (hclose.head_ne ch hch).2.1
      rw [plainBreaks, if_neg (by simpa using hpeek), hbreak]
      rfl
  | cons ch gap ih =>
      obtain ⟨fuel, rfl⟩ : ∃ n, fuel = n + 1 := ⟨fuel - 1, by omega⟩
      have hmore : IsSpacing gap := fun x hx => hgap x (List.mem_cons_of_mem _ hx)
      have hnext : c.next.rest = gap ++ rest := Cursor.next_rest hrest
      rw [List.length_cons] at hfuel
      have hafter : (plainBreaks fuel c.next).2 = c.next.skip gap.length := ih hmore hnext (by omega)
      rw [plainBreaks, Cursor.peek_of_rest hrest]
      rcases hgap ch List.mem_cons_self with rfl | rfl
      · rw [if_pos (by rfl), hafter]
        rfl
      · rw [if_neg (by decide), Cursor.lineBreak_feed hrest]
        dsimp only
        rw [not_atDocumentMark hmore hclose hnext, if_neg Bool.false_ne_true]
        exact hafter

/-- A gap is passed as a whole. -/
theorem plainGap_cursor (hclose : Closes inFlow rest) (hgap : IsSpacing gap)
    (hrest : c.rest = gap ++ rest) : (plainGap c).cursor = c.skip gap.length := by
  obtain ⟨blanks, more, rfl, hblanks, hmore⟩ : ∃ blanks more, gap = blanks ++ more ∧
      (∀ ch ∈ blanks, ch = ' ') ∧ (more = [] ∨ ∃ lines, more = '\n' :: lines) := by
    refine ⟨gap.takeWhile (· == ' '), gap.dropWhile (· == ' '),
      List.takeWhile_append_dropWhile.symm, ?_, ?_⟩
    · exact fun ch hch => by simpa using List.mem_takeWhile_imp hch
    · cases h : gap.dropWhile (· == ' ') with
      | nil => exact .inl rfl
      | cons ch lines =>
          have hch : ch ∈ gap := (List.dropWhile_sublist _).subset (h ▸ List.mem_cons_self)
          have hne : ch ≠ ' ' := by simpa [h] using List.head?_dropWhile_not (· == ' ') gap
          exact .inr ⟨lines, by rw [(hgap ch hch).resolve_left hne]⟩
  rw [List.append_assoc] at hrest
  have hspan : c.span (· == ' ') = (blanks, c.skip blanks.length) := by
    apply Cursor.span_of_stop hrest
    · exact fun ch hch => by simp [hblanks ch hch]
    · rintro ch hch
      rcases hmore with rfl | ⟨lines, rfl⟩
      · simpa using (hclose.head_ne ch hch).1
      · cases hch
        decide
  have hafter : (c.skip blanks.length).rest = more ++ rest := by
    rw [Cursor.rest_skip, hrest, List.drop_left]
  unfold plainGap
  rw [hspan]
  dsimp only
  rcases hmore with rfl | ⟨lines, rfl⟩
  · rw [Cursor.lineBreak_of_stop, List.append_nil]
    rw [hafter]
    exact fun ch hch => (hclose.head_ne ch hch).2.1
  · have hlines : IsSpacing lines :=
      fun x hx => hgap x (List.mem_append_right _ (List.mem_cons_of_mem _ hx))
    have hnext : (c.skip blanks.length).next.rest = lines ++ rest := Cursor.next_rest hafter
    have hlong : lines.length < (c.skip blanks.length).next.rest.length + 1 := by
      rw [hnext, List.length_append]
      omega
    have hbreaks := plainBreaks_cursor hclose hlines hnext hlong
    have hlast : (c.skip blanks.length).next.skip lines.length =
        c.skip (blanks ++ '\n' :: lines).length := by
      rw [Cursor.skip_next, Cursor.skip_skip, List.length_append, List.length_cons]
    rw [Cursor.lineBreak_feed hafter]
    dsimp only
    rw [not_atDocumentMark hlines hclose hnext, if_neg Bool.false_ne_true, ← hlast, ← hbreaks]
    split
    · next heq => rw [heq]
    · next heq => rw [heq]

theorem plainFrom_stop {parent fuel : Nat} {text : List Char} {brokeLine : Bool}
    (h : plainWordLength inFlow c.rest = 0) :
    (plainFrom inFlow parent text brokeLine fuel c).text = [] ∧
      (plainFrom inFlow parent text brokeLine fuel c).cursor = c := by
  cases fuel with
  | zero => exact ⟨rfl, rfl⟩
  | succ fuel =>
      rw [plainFrom]
      simp [h]

/-- A word is read with the gap after it. -/
theorem PlainWord.readPlain (word : PlainWord) (hclose : Closes inFlow rest)
    (hgap : IsSpacing gap) (parent : Nat) (hrest : c.rest = word.text ++ (gap ++ rest)) :
    (readPlain inFlow parent c).text = word.text ∧
      (readPlain inFlow parent c).cursor = c.skip (word.text.length + gap.length) := by
  have hlength : plainWordLength inFlow c.rest = word.text.length := by
    rw [hrest, plainWordLength_word word.letters, plainWordLength_closes hgap hclose, Nat.zero_add]
  have hafter : (c.skip word.text.length).rest = gap ++ rest := by
    rw [Cursor.rest_skip, hrest, List.drop_left]
  have hcursor := plainGap_cursor hclose hgap hafter
  rw [Cursor.skip_skip] at hcursor
  have hlast : plainWordLength inFlow (plainGap (c.skip word.text.length)).cursor.rest = 0 := by
    rw [hcursor, ← Cursor.skip_skip, Cursor.rest_skip, hafter, List.drop_left]
    have hnone : IsSpacing [] := by simp [IsSpacing]
    exact plainWordLength_closes hnone hclose
  have htake : c.rest.take word.text.length = word.text := by
    rw [hrest, List.take_left]
  obtain ⟨first, more, hword, -⟩ := word.start
  have hpeek : c.peek ≠ some '#' := by
    rw [hword] at hrest
    rw [Cursor.peek_of_rest hrest]
    intro h
    cases h
    exact isWordLetter.ne (word.letters '#' (hword ▸ List.mem_cons_self)) '#' (by decide) rfl
  have hpos : word.text.length ≠ 0 := by
    rw [hword]
    simp
  rw [Yaml.readPlain, plainFrom]
  dsimp only
  rw [hlength, if_neg (by simp [hpeek, hpos]), htake]
  split
  · exact ⟨rfl, hcursor⟩
  · obtain ⟨htext, hend⟩ := plainFrom_stop hlast
    constructor
    · dsimp only
      rw [htext, List.nil_append, List.append_nil]
    · dsimp only
      rw [hend, hcursor]

end ApiShapes.Yaml
