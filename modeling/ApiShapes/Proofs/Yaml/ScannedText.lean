import ApiShapes.Proofs.Decimal.NumberTexts
import ApiShapes.Yaml.Token
import Mathlib.Data.List.TakeWhile
import Mathlib.Tactic

/-!
# Scanning a YAML text

A scanner only moves forward in its text.  Besides texts that depart from the grammar two things
stop it: an escape of a code point that no character has, and a version with more digits than are
read as an integer.
-/

namespace ApiShapes.Yaml

/-- The parts of a text that stop a scanner although the syntax is right. -/
inductive Unscannable (text : List Char) : Misfit → Prop where
  | codePoint {digits : List Char} {n : Nat} (escape : '\\' :: 'U' :: digits <:+: text)
      (value : Decimal.ofDigits? 16 digits = some n) (beyond : 0x10FFFF < n) :
      Unscannable text .codePoint
  | hugeCodePoint {digits : List Char} {n : Nat} (escape : '\\' :: 'U' :: digits <:+: text)
      (value : Decimal.ofDigits? 16 digits = some n) (beyond : 0x7FFFFFFF < n) :
      Unscannable text .hugeCodePoint
  | version {run : List Char} (occurs : run <:+: text)
      (digits : ∀ c ∈ run, Decimal.isDigit c = true) (long : Json.digitLimit < run.length) :
      Unscannable text (.oversizedInteger run.length)

/-- A scanner on a part of a text stops at a later place of the text, or at one of the parts that
are unscannable. -/
def Held {α : Type} (text : List Char) (place : α → Cursor) : Except Fault α → Prop
  | .ok a => (place a).rest <:+ text
  | .error (.malformed _) => True
  | .error (.misfit what) => Unscannable text what
  | .error .endless => False

section Held

variable {α β : Type} {text : List Char} {p : α → Cursor} {q : β → Cursor}

theorem Held.bind {r : Except Fault α} {f : α → Except Fault β} (hr : Held text p r)
    (hf : ∀ a, (p a).rest <:+ text → Held text q (f a)) : Held text q (r >>= f) := by
  cases r with
  | ok a => exact hf a hr
  | error fault => cases fault <;> exact hr

theorem Held.map {r : Except Fault α} {f : α → β} (hr : Held text p r)
    (hf : ∀ a, (p a).rest <:+ text → (q (f a)).rest <:+ text) : Held text q (r.map f) := by
  cases r with
  | ok a => exact hf a hr
  | error fault => cases fault <;> exact hr

theorem Held.ite {r r' : Except Fault α} {b : Prop} [Decidable b] (h : Held text p r)
    (h' : Held text p r') : Held text p (if b then r else r') := by
  split
  · exact h
  · exact h'

theorem held_malformed (what : Malformation) :
    Held text p (.error (.malformed what) : Except Fault α) :=
  True.intro

end Held

variable {text : List Char} {c : Cursor}

/-! ## Moving a cursor -/

namespace Cursor

theorem next_suffix (h : c.rest <:+ text) : c.next.rest <:+ text := by
  unfold next
  split
  · exact h
  · next ch rest heq =>
    rw [heq] at h
    have hrest : rest <:+ text := (List.suffix_cons ch rest).trans h
    split <;> exact hrest

theorem skip_suffix (n : Nat) (h : c.rest <:+ text) : (c.skip n).rest <:+ text := by
  induction n generalizing c with
  | zero => exact h
  | succ n ih => exact ih (next_suffix h)

theorem span_suffix (p : Char → Bool) (h : c.rest <:+ text) : (c.span p).2.rest <:+ text :=
  skip_suffix _ h

theorem skipWhile_suffix (p : Char → Bool) (h : c.rest <:+ text) :
    (c.skipWhile p).rest <:+ text :=
  skip_suffix _ h

theorem restOfLine_suffix (h : c.rest <:+ text) : c.restOfLine.2.rest <:+ text :=
  skip_suffix _ h

theorem lineBreak_suffix (h : c.rest <:+ text) : c.lineBreak.2.rest <:+ text := by
  unfold lineBreak
  split
  · exact skip_suffix 2 h
  · split
    · exact next_suffix h
    · split
      · exact next_suffix h
      · exact h
  · exact h

theorem next_rest {ch : Char} {rest : List Char} (h : c.rest = ch :: rest) : c.next.rest = rest := by
  unfold next
  rw [h]
  dsimp only
  split <;> rfl

theorem rest_of_peek {ch : Char} (h : c.peek = some ch) : c.rest = ch :: c.next.rest := by
  obtain ⟨rest, hrest⟩ := List.head?_eq_some_iff.1 h
  rw [next_rest hrest, hrest]

end Cursor

/-! ## Quoted scalars -/

theorem foldedBreaks_held (fuel : Nat) (h : c.rest <:+ text) :
    Held text Prod.snd (foldedBreaks fuel c) := by
  induction fuel generalizing c with
  | zero => exact h
  | succ fuel ih =>
      have hblanks := Cursor.skipWhile_suffix (fun ch => ch == ' ' || ch == '\t') h
      have hbreak := Cursor.lineBreak_suffix hblanks
      rw [foldedBreaks]
      split
      · exact held_malformed _
      · dsimp only
        split
        · next d heq => rwa [heq] at hbreak
        · next br d heq =>
          rw [heq] at hbreak
          exact (ih hbreak).map fun _ ha => ha

theorem quotedGap_held (h : c.rest <:+ text) : Held text Prod.snd (quotedGap c) := by
  have hblanks := Cursor.span_suffix (fun ch => ch == ' ' || ch == '\t') h
  have hbreak := Cursor.lineBreak_suffix hblanks
  unfold quotedGap
  dsimp only
  split
  · exact held_malformed _
  · split
    · next d heq => rwa [heq] at hbreak
    · next br d heq =>
      rw [heq] at hbreak
      exact (foldedBreaks_held _ hbreak).map fun _ ha => ha

/-- Only escapes with eight digits reach beyond the last code point. -/
theorem eq_of_mem_codeEscapes {ch : Char} {width n : Nat} {digits : List Char}
    (h : codeEscapes.lookup ch = some width) (hlength : digits.length ≤ width)
    (hvalue : Decimal.ofDigits? 16 digits = some n) (hn : 0x10FFFF < n) : ch = 'U' := by
  have hbound : n < 16 ^ width :=
    (Decimal.ofDigits?_lt hvalue).trans_le (Nat.pow_le_pow_right (by omega) hlength)
  obtain ⟨before, after, hsplit, -⟩ := List.lookup_eq_some_iff.1 h
  have hmem : (ch, width) ∈ codeEscapes := by simp [hsplit]
  simp only [codeEscapes, List.mem_cons, Prod.mk.injEq, List.not_mem_nil, or_false] at hmem
  rcases hmem with ⟨-, rfl⟩ | ⟨-, rfl⟩ | ⟨rfl, -⟩
  · omega
  · omega
  · rfl

theorem codeEscape_held {ch : Char} {width : Nat} (hch : codeEscapes.lookup ch = some width)
    (h : '\\' :: ch :: c.rest <:+ text) : Held text Prod.snd (codeEscape width c) := by
  have hrest : c.rest <:+ text := (List.suffix_append ['\\', ch] c.rest).trans h
  have hlength : (c.rest.take width).length ≤ width := by simp
  have hescape : '\\' :: ch :: c.rest.take width <:+: text :=
    (List.prefix_append ('\\' :: ch :: c.rest.take width) (c.rest.drop width)).isInfix.trans
      (by simpa using h.isInfix)
  unfold codeEscape
  dsimp only
  split
  · exact held_malformed _
  · split
    · exact held_malformed _
    · next n hvalue =>
      split
      · next hn =>
        have hU := eq_of_mem_codeEscapes hch hlength hvalue (by omega)
        subst hU
        exact .hugeCodePoint hescape hvalue hn
      · split
        · next hn =>
          have hU := eq_of_mem_codeEscapes hch hlength hvalue hn
          subst hU
          exact .codePoint hescape hvalue hn
        · exact Cursor.skip_suffix width hrest

theorem escapeSequence_held (h : '\\' :: c.rest <:+ text) :
    Held text Prod.snd (escapeSequence c) := by
  have hrest : c.rest <:+ text := (List.suffix_cons _ _).trans h
  unfold escapeSequence
  split
  · exact held_malformed _
  · next ch hpeek =>
    split
    · exact Cursor.next_suffix hrest
    · next width hshort hcode =>
      apply codeEscape_held hcode
      rwa [← Cursor.rest_of_peek hpeek]
    · have hbreak := Cursor.lineBreak_suffix hrest
      split
      · exact held_malformed _
      · next br d _ heq =>
        rw [heq] at hbreak
        exact foldedBreaks_held _ hbreak

theorem quotedWord_held (double : Bool) (fuel : Nat) (h : c.rest <:+ text) :
    Held text Prod.snd (quotedWord double fuel c) := by
  induction fuel generalizing c with
  | zero => exact h
  | succ fuel ih =>
      have hspan := Cursor.span_suffix isOrdinary h
      rw [quotedWord]
      dsimp only
      split
      · split
        · exact (ih (Cursor.next_suffix hspan)).map fun _ ha => ha
        · split
          · exact (ih (Cursor.skip_suffix 2 hspan)).map fun _ ha => ha
          · exact hspan
      · split
        · exact hspan
        · exact (ih (Cursor.next_suffix hspan)).map fun _ ha => ha
      · next hpeek =>
        split
        · have hescape := Cursor.rest_of_peek hpeek ▸ hspan
          have hsequence := escapeSequence_held hescape
          split
          · next fault heq =>
            rw [heq] at hsequence
            cases fault <;> exact hsequence
          · next s d heq =>
            rw [heq] at hsequence
            exact (ih hsequence).map fun _ ha => ha
        · exact (ih (Cursor.next_suffix hspan)).map fun _ ha => ha
      · exact hspan

theorem quotedRest_held (double : Bool) (fuel : Nat) (h : c.rest <:+ text) :
    Held text Prod.snd (quotedRest double fuel c) := by
  induction fuel generalizing c with
  | zero => exact held_malformed _
  | succ fuel ih =>
      rw [quotedRest]
      refine (quotedWord_held double _ h).bind fun (word, d) hword => ?_
      by_cases hend : (d.peek == some (if double then '"' else '\'')) = true
      · simp only [hend, if_true]
        exact Cursor.next_suffix hword
      · simp only [hend]
        refine (quotedGap_held hword).bind fun (gap, e) hgap => ?_
        exact (ih hgap).bind fun _ hmore => hmore

theorem readQuoted_held (double : Bool) (h : c.rest <:+ text) :
    Held text Prod.snd (readQuoted double c) :=
  quotedRest_held double _ (Cursor.next_suffix h)

/-! ## Block scalars -/

theorem incrementOf?_held (ch : Option Char) (h : c.rest <:+ text) :
    Held text (fun _ => c) (incrementOf? ch) := by
  unfold incrementOf?
  split
  · exact h
  · split
    · exact held_malformed _
    · split <;> exact h

theorem next_of_isSome {increment : Option Nat} (h : c.rest <:+ text) :
    (if increment.isSome then c.next else c).rest <:+ text := by
  split
  · exact Cursor.next_suffix h
  · exact h

theorem blockHeader_held (h : c.rest <:+ text) : Held text Prod.snd (blockHeader c) := by
  have hend : ∀ (header : BlockHeader) (d : Cursor), d.rest <:+ text →
      Held text Prod.snd (if blankOrEnd d.peek then .ok (header, d)
        else .error (.malformed .blockScalar)) := by
    intro header d hd
    split
    · exact hd
    · exact held_malformed _
  unfold blockHeader
  dsimp only
  split
  · have hnext := Cursor.next_suffix h
    refine (incrementOf?_held _ hnext).bind fun increment _ => ?_
    exact hend _ _ (next_of_isSome hnext)
  · refine (incrementOf?_held _ h).bind fun increment _ => ?_
    split
    · exact hend _ _ (Cursor.next_suffix (next_of_isSome h))
    · exact hend _ _ (next_of_isSome h)

theorem afterComment_suffix (h : c.rest <:+ text) :
    (if c.peek == some '#' then c.restOfLine.2 else c).rest <:+ text := by
  split
  · exact Cursor.restOfLine_suffix h
  · exact h

theorem commentLine_held (what : Malformation) (h : c.rest <:+ text) :
    Held text id (commentLine what c) := by
  have hcomment := afterComment_suffix (Cursor.skipWhile_suffix (· == ' ') h)
  unfold commentLine
  dsimp only
  split_ifs at hcomment ⊢
  · exact Cursor.lineBreak_suffix hcomment
  · exact held_malformed _
  · exact Cursor.lineBreak_suffix hcomment
  · exact held_malformed _

theorem skipIndent_suffix (indent fuel : Nat) (h : c.rest <:+ text) :
    (skipIndent indent fuel c).rest <:+ text := by
  induction fuel generalizing c with
  | zero => exact h
  | succ fuel ih =>
      rw [skipIndent]
      split
      · exact ih (Cursor.next_suffix h)
      · exact h

theorem leadingBreaks_suffix (fuel widest : Nat) (h : c.rest <:+ text) :
    (leadingBreaks fuel widest c).2.2.rest <:+ text := by
  induction fuel generalizing c widest with
  | zero => exact h
  | succ fuel ih =>
      have hbreak := Cursor.lineBreak_suffix h
      rw [leadingBreaks]
      split
      · exact ih _ (Cursor.next_suffix h)
      · split
        · next d heq => rwa [heq] at hbreak
        · next br d _ heq =>
          rw [heq] at hbreak
          exact ih _ hbreak

theorem blockBreaks_suffix (indent fuel : Nat) (h : c.rest <:+ text) :
    (blockBreaks indent fuel c).2.rest <:+ text := by
  induction fuel generalizing c with
  | zero => exact h
  | succ fuel ih =>
      have hbreak := Cursor.lineBreak_suffix (skipIndent_suffix indent c.rest.length h)
      rw [blockBreaks]
      dsimp only
      split
      · next d heq => rwa [heq] at hbreak
      · next br d _ heq =>
        rw [heq] at hbreak
        exact ih hbreak

theorem blockLines_suffix (folded : Bool) (indent fuel : Nat) (done lastBreak breaks : List Char)
    (h : c.rest <:+ text) :
    (blockLines folded indent fuel done lastBreak breaks c).2.2.2.rest <:+ text := by
  induction fuel generalizing c done lastBreak breaks with
  | zero => exact h
  | succ fuel ih =>
      have hmore : ∀ fuel, (blockBreaks indent fuel c.restOfLine.2.lineBreak.2).2.rest <:+ text :=
        fun fuel => blockBreaks_suffix indent fuel
          (Cursor.lineBreak_suffix (Cursor.restOfLine_suffix h))
      rw [blockLines]
      split
      · dsimp only
        split
        · exact ih _ _ _ (hmore _)
        · exact hmore _
      · exact h

theorem readBlock_held (folded : Bool) (parent : Nat) (h : c.rest <:+ text) :
    Held text Prod.snd (readBlock folded parent c) := by
  unfold readBlock
  refine (blockHeader_held (Cursor.next_suffix h)).bind fun (header, d) hd => ?_
  refine (commentLine_held .blockScalar hd).bind fun e he => ?_
  dsimp only
  apply blockLines_suffix
  split
  · exact leadingBreaks_suffix _ _ he
  · exact blockBreaks_suffix _ _ he

/-! ## Plain scalars -/

theorem plainBreaks_suffix (fuel : Nat) (h : c.rest <:+ text) :
    (plainBreaks fuel c).2.rest <:+ text := by
  induction fuel generalizing c with
  | zero => exact h
  | succ fuel ih =>
      have hbreak := Cursor.lineBreak_suffix h
      rw [plainBreaks]
      split
      · exact ih (Cursor.next_suffix h)
      · split
        · next d heq => rwa [heq] at hbreak
        · next br d _ heq =>
          rw [heq] at hbreak
          split
          · exact hbreak
          · exact ih hbreak

theorem plainGap_suffix (h : c.rest <:+ text) : (plainGap c).cursor.rest <:+ text := by
  have hblanks := Cursor.span_suffix (· == ' ') h
  have hbreak := Cursor.lineBreak_suffix hblanks
  unfold plainGap
  dsimp only
  split
  · next d heq => rwa [heq] at hbreak
  · next br d _ heq =>
    rw [heq] at hbreak
    have hbreaks := plainBreaks_suffix (d.rest.length + 1) hbreak
    split
    · exact hbreak
    · split
      · next e heq => rwa [heq] at hbreaks
      · next more e heq => rwa [heq] at hbreaks

theorem plainFrom_suffix (inFlow : Bool) (parent : Nat) (gap : List Char) (brokeLine : Bool)
    (fuel : Nat) (h : c.rest <:+ text) :
    (plainFrom inFlow parent gap brokeLine fuel c).cursor.rest <:+ text := by
  induction fuel generalizing c gap brokeLine with
  | zero => exact h
  | succ fuel ih =>
      have hafter := fun n => plainGap_suffix (Cursor.skip_suffix n h)
      rw [plainFrom]
      dsimp only
      split
      · exact h
      · split
        · exact hafter _
        · exact ih _ _ (hafter _)

/-! ## Tags, anchors and directives -/

theorem readAnchorName_held (h : c.rest <:+ text) : Held text Prod.snd (readAnchorName c) := by
  have hname := Cursor.span_suffix isWordChar (Cursor.next_suffix h)
  unfold readAnchorName
  dsimp only
  split
  · exact held_malformed _
  · exact hname

theorem uriOctets_held (fuel : Nat) (h : c.rest <:+ text) :
    Held text Prod.snd (uriOctets fuel c) := by
  induction fuel generalizing c with
  | zero => exact h
  | succ fuel ih =>
      rw [uriOctets]
      split
      · split
        · exact held_malformed _
        · exact (ih (Cursor.skip_suffix 3 h)).map fun _ ha => ha
      · exact held_malformed _
      · exact h

theorem uriFrom_held (fuel : Nat) (h : c.rest <:+ text) : Held text Prod.snd (uriFrom fuel c) := by
  induction fuel generalizing c with
  | zero => exact h
  | succ fuel ih =>
      have hplain := Cursor.span_suffix isUriChar h
      rw [uriFrom]
      dsimp only
      split
      · refine (uriOctets_held _ hplain).bind fun (octets, d) hd => ?_
        dsimp only
        split
        · exact held_malformed _
        · exact (ih hd).bind fun _ ha => ha
      · exact hplain

theorem readUri_held (h : c.rest <:+ text) : Held text Prod.snd (readUri c) := by
  unfold readUri
  refine (uriFrom_held _ h).bind fun found hfound => ?_
  dsimp only
  split
  · exact held_malformed _
  · exact hfound

theorem readHandle_held (h : c.rest <:+ text) : Held text Prod.snd (readHandle c) := by
  have hname := Cursor.span_suffix isWordChar (Cursor.next_suffix h)
  unfold readHandle
  split
  · exact held_malformed _
  · split
    · exact Cursor.next_suffix h
    · dsimp only
      split
      · exact Cursor.next_suffix hname
      · exact held_malformed _

theorem verbatimTag_held (h : c.rest <:+ text) : Held text Prod.snd (verbatimTag c) := by
  unfold verbatimTag
  refine (readUri_held (Cursor.skip_suffix 2 h)).bind fun (uri, d) hd => ?_
  dsimp only
  split
  · exact Cursor.next_suffix hd
  · exact held_malformed _

theorem shorthandTag_held (h : c.rest <:+ text) : Held text Prod.snd (shorthandTag c) := by
  unfold shorthandTag
  dsimp only
  split
  · refine (readHandle_held h).bind fun (handle, d) hd => ?_
    exact (readUri_held hd).bind fun _ ha => ha
  · exact (readUri_held (Cursor.next_suffix h)).bind fun _ ha => ha

theorem readTag_held (h : c.rest <:+ text) : Held text Prod.snd (readTag c) := by
  have hend : ∀ found : TagText × Cursor, found.2.rest <:+ text →
      Held text Prod.snd (if blankOrEnd found.2.peek then .ok found
        else .error (.malformed .tag)) := by
    intro found hd
    split
    · exact hd
    · exact held_malformed _
  unfold readTag
  dsimp only
  split
  · exact (verbatimTag_held h).bind hend
  · split
    · exact hend (⟨none, "!"⟩, c.next) (Cursor.next_suffix h)
    · exact (shorthandTag_held h).bind hend

theorem readNumber_held (h : c.rest <:+ text) : Held text Prod.snd (readNumber c) := by
  have hspan := Cursor.span_suffix (fun ch => '0' ≤ ch && ch ≤ '9') h
  have hdigits : ∀ ch ∈ (c.span fun ch => '0' ≤ ch && ch ≤ '9').1, Decimal.isDigit ch = true :=
    fun ch hch => List.mem_takeWhile_imp hch
  have hrun : (c.span fun ch => '0' ≤ ch && ch ≤ '9').1 <:+: text :=
    (List.takeWhile_prefix _).isInfix.trans h.isInfix
  unfold readNumber
  dsimp only
  split
  · split
    · next hlong => exact .version hrun hdigits hlong
    · exact hspan
  · exact held_malformed _

theorem versionDirective_held (h : c.rest <:+ text) : Held text Prod.snd (versionDirective c) := by
  unfold versionDirective
  refine (readNumber_held (Cursor.skipWhile_suffix _ h)).bind fun (major, d) hd => ?_
  dsimp only
  split
  · exact held_malformed _
  · refine (readNumber_held (Cursor.next_suffix hd)).bind fun (minor, e) he => ?_
    dsimp only
    split
    · exact he
    · exact held_malformed _

theorem tagDirective_held (h : c.rest <:+ text) : Held text Prod.snd (tagDirective c) := by
  unfold tagDirective
  refine (readHandle_held (Cursor.skipWhile_suffix _ h)).bind fun (handle, d) hd => ?_
  dsimp only
  split
  · exact held_malformed _
  · refine (readUri_held (Cursor.skipWhile_suffix _ hd)).bind fun (address, e) he => ?_
    dsimp only
    split
    · exact he
    · exact held_malformed _

theorem readDirective_held (h : c.rest <:+ text) : Held text Prod.snd (readDirective c) := by
  have hname := Cursor.span_suffix isWordChar (Cursor.next_suffix h)
  unfold readDirective
  dsimp only
  split
  · exact held_malformed _
  · have hend : ∀ (directive : Directive) (d : Cursor), d.rest <:+ text →
        Held text Prod.snd (commentLine .directive d >>= fun e => .ok (directive, e)) :=
      fun directive d hd => (commentLine_held .directive hd).bind fun _ ha => ha
    split
    · exact (versionDirective_held hname).bind fun found hd => hend found.1 found.2 hd
    · split
      · exact (tagDirective_held hname).bind fun found hd => hend found.1 found.2 hd
      · exact hend .reserved _ (Cursor.restOfLine_suffix hname)

/-! ## Tokens -/

namespace Cutting

variable {s : Cutting}

theorem skipGapsFrom_suffix (inFlow : Bool) (fuel : Nat) (allowed : Bool) (h : c.rest <:+ text) :
    (skipGapsFrom inFlow fuel allowed c).2.rest <:+ text := by
  induction fuel generalizing c allowed with
  | zero => exact h
  | succ fuel ih =>
      have hbreak := Cursor.lineBreak_suffix
        (afterComment_suffix (Cursor.skipWhile_suffix (· == ' ') h))
      rw [skipGapsFrom]
      split
      · next d heq => rwa [heq] at hbreak
      · next br d _ heq =>
        rw [heq] at hbreak
        exact ih _ hbreak

theorem skipGaps_suffix (h : s.cursor.rest <:+ text) : s.skipGaps.cursor.rest <:+ text := by
  unfold skipGaps
  dsimp only
  apply skipGapsFrom_suffix
  split
  · exact Cursor.next_suffix h
  · exact h

@[simp] theorem unwind_cursor (column : Nat) (s : Cutting) :
    (s.unwind column).cursor = s.cursor := by
  unfold unwind
  split <;> rfl

@[simp] theorem unwindAll_cursor (s : Cutting) : s.unwindAll.cursor = s.cursor := by
  unfold unwindAll
  split <;> rfl

theorem openBlock?_cursor {column : Nat} {t : Cutting} (h : s.openBlock? column = some t) :
    t.cursor = s.cursor := by
  unfold openBlock? at h
  split at h
  · cases h
    rfl
  · cases h

@[simp] theorem startBlock_cursor (t : Token) (s : Cutting) :
    (s.startBlock t).cursor = s.cursor := by
  unfold startBlock
  split
  · next heq =>
    have hcursor := openBlock?_cursor heq
    exact hcursor
  · rfl

theorem dropKey_held (h : s.cursor.rest <:+ text) : Held text cursor s.dropKey := by
  unfold dropKey
  split
  · split
    · exact held_malformed _
    · exact h
  · exact h

theorem keepKey_held (h : s.cursor.rest <:+ text) : Held text cursor s.keepKey := by
  unfold keepKey
  split
  · exact (dropKey_held h).bind fun _ ha => ha
  · exact h

theorem expireOne_held (h : c.rest <:+ text) (place : Option KeyPlace) :
    Held text (fun _ => c) (expireOne c place) := by
  unfold expireOne
  split
  · exact h
  · split
    · split
      · exact held_malformed _
      · exact h
    · exact h

theorem mapM_expireOne_held (h : c.rest <:+ text) (places : List (Option KeyPlace)) :
    Held text (fun _ => c) (places.mapM (expireOne c)) := by
  induction places with
  | nil => exact h
  | cons place places ih =>
      rw [List.mapM_cons]
      exact (expireOne_held h place).bind fun _ _ => ih.bind fun _ _ => h

theorem expireKeys_held (h : s.cursor.rest <:+ text) : Held text cursor s.expireKeys :=
  (mapM_expireOne_held h s.keyPlaces).bind fun _ _ => h

theorem takeMark_held (t : Token) (hc : c.rest <:+ text) (h : s.cursor.rest <:+ text) :
    Held text cursor (s.takeMark t c) :=
  (dropKey_held (s := s.unwindAll) (by simpa using h)).bind fun _ _ => hc

theorem openBracket_held (t : Token) (h : s.cursor.rest <:+ text) :
    Held text cursor (s.openBracket t) :=
  (keepKey_held h).bind fun _ ha => Cursor.next_suffix ha

theorem closeBracket_held (t : Token) (h : s.cursor.rest <:+ text) :
    Held text cursor (s.closeBracket t) := by
  refine (dropKey_held h).bind fun a ha => ?_
  split
  · exact Cursor.next_suffix ha
  · exact held_malformed _

theorem takeFlowEntry_held (h : s.cursor.rest <:+ text) : Held text cursor s.takeFlowEntry :=
  (dropKey_held (s := s.allowKey true) h).bind fun _ ha => Cursor.next_suffix ha

theorem takeSign_held (t : Token) (allowed : Bool) (h : s.cursor.rest <:+ text) :
    Held text cursor ((s.allowKey allowed).dropKey >>= fun s => .ok (s.takeOne t)) :=
  (dropKey_held (s := s.allowKey allowed) h).bind fun _ ha => Cursor.next_suffix ha

theorem takeEntry_held (h : s.cursor.rest <:+ text) : Held text cursor s.takeEntry := by
  unfold takeEntry
  dsimp only
  refine Held.ite ?_ ?_
  · exact held_malformed _
  · split
    · exact takeSign_held _ _ h
    · exact takeSign_held _ _ (by simpa using h)

theorem takeKey_held (h : s.cursor.rest <:+ text) : Held text cursor s.takeKey := by
  unfold takeKey
  dsimp only
  refine Held.ite ?_ ?_
  · exact held_malformed _
  · split
    · exact takeSign_held _ _ h
    · exact takeSign_held _ _ (by simpa using h)

theorem takeValue_held (h : s.cursor.rest <:+ text) : Held text cursor s.takeValue := by
  unfold takeValue
  dsimp only
  split
  · split
    · exact Cursor.next_suffix h
    · split
      · next heq =>
        have hcursor := openBlock?_cursor heq
        exact Cursor.next_suffix (hcursor ▸ h)
      · exact Cursor.next_suffix h
  · refine Held.ite ?_ ?_
    · exact held_malformed _
    · split
      · exact takeSign_held _ _ h
      · exact takeSign_held _ _ (by simpa using h)

theorem takeAtom_held {read : Cursor → Except Fault (Token × Cursor)}
    (hread : ∀ c : Cursor, c.rest <:+ text → Held text Prod.snd (read c))
    (h : s.cursor.rest <:+ text) : Held text cursor (s.takeAtom read) :=
  (keepKey_held h).bind fun _ ha => (hread _ ha).bind fun _ hb => hb

theorem takeBlockScalar_held (folded : Bool) (h : s.cursor.rest <:+ text) :
    Held text cursor (s.takeBlockScalar folded) :=
  (dropKey_held (s := s.allowKey true) h).bind fun _ ha =>
    (readBlock_held folded _ ha).bind fun _ hb => hb

theorem takePlain_held (h : s.cursor.rest <:+ text) : Held text cursor s.takePlain :=
  (keepKey_held h).bind fun _ ha => plainFrom_suffix _ _ _ _ _ ha

theorem takeToken_held (ch : Char) (h : s.cursor.rest <:+ text) :
    Held text cursor (s.takeToken ch) := by
  unfold takeToken
  dsimp only
  refine Held.ite ?_ ?_
  · refine (dropKey_held (by simpa using h)).bind fun _ ha => ?_
    exact (readDirective_held ha).bind fun _ hb => hb
  refine Held.ite (takeMark_held _ (Cursor.skip_suffix 3 h) h) ?_
  refine Held.ite (takeMark_held _ (Cursor.skip_suffix 3 h) h) ?_
  refine Held.ite (openBracket_held _ h) ?_
  refine Held.ite (openBracket_held _ h) ?_
  refine Held.ite (closeBracket_held _ h) ?_
  refine Held.ite (closeBracket_held _ h) ?_
  refine Held.ite (takeFlowEntry_held h) ?_
  refine Held.ite (takeEntry_held h) ?_
  refine Held.ite (takeKey_held h) ?_
  refine Held.ite (takeValue_held h) ?_
  refine Held.ite (takeAtom_held (fun c hc => (readAnchorName_held hc).map fun _ ha => ha) h) ?_
  refine Held.ite (takeAtom_held (fun c hc => (readAnchorName_held hc).map fun _ ha => ha) h) ?_
  refine Held.ite (takeAtom_held (fun c hc => (readTag_held hc).map fun _ ha => ha) h) ?_
  refine Held.ite (takeBlockScalar_held false h) ?_
  refine Held.ite (takeBlockScalar_held true h) ?_
  refine Held.ite (takeAtom_held (fun c hc => (readQuoted_held _ hc).map fun _ ha => ha) h) ?_
  refine Held.ite (takeAtom_held (fun c hc => (readQuoted_held _ hc).map fun _ ha => ha) h) ?_
  exact Held.ite (takePlain_held h) (held_malformed _)

theorem run_held (fuel : Nat) (h : s.cursor.rest <:+ text) : Held text cursor (run fuel s) := by
  induction fuel generalizing s with
  | zero => exact h
  | succ fuel ih =>
      rw [run]
      refine (expireKeys_held (skipGaps_suffix h)).bind fun a ha => ?_
      split
      · exact dropKey_held (by simpa using ha)
      · exact (takeToken_held _ (by simpa using ha)).bind fun b hb => ih hb

end Cutting

/-- A text that cannot be cut into tokens departs from the grammar or holds something
unscannable. -/
theorem unscannable_of_tokensOf {fault : Fault} (h : tokensOf text = .error fault) :
    (∃ what, fault = .malformed what) ∨ ∃ what, fault = .misfit what ∧ Unscannable text what := by
  unfold tokensOf at h
  split at h
  · have hrun : Held text Cutting.cursor (Cutting.run (text.length + 2) (.start text)) :=
      Cutting.run_held _ List.suffix_rfl
    cases hout : Cutting.run (text.length + 2) (.start text) with
    | ok s => simp [hout, Except.map] at h
    | error reason =>
        rw [hout] at h hrun
        obtain rfl : reason = fault := Except.error.inj h
        cases reason with
        | malformed what => exact .inl ⟨what, rfl⟩
        | misfit what => exact .inr ⟨what, rfl, hrun⟩
        | endless => exact hrun.elim
  · cases h
    exact .inl ⟨_, rfl⟩

end ApiShapes.Yaml
