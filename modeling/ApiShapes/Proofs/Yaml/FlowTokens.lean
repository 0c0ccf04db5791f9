import ApiShapes.Proofs.Yaml.PlainWords
import ApiShapes.Proofs.Yaml.SharedLiterals
import ApiShapes.Yaml.Token
import Mathlib.Tactic

/-!
# Tokens of flow text

How a scanner that is in no block takes the tokens of collections in brackets: it passes a gap,
and takes a bracket, a comma, a scalar, or a key with its colon.
-/

namespace ApiShapes.Yaml

/-- What is left starts with a token, not with a gap, a comment or a byte order mark. -/
def StartsToken (rest : List Char) : Prop :=
  ∀ ch, rest.head? = some ch → ch ≠ ' ' ∧ isBreak ch = false ∧ ch ≠ '#' ∧ ch ≠ '\uFEFF'

theorem startsToken_cons {ch : Char} (rest : List Char)
    (h : ch ≠ ' ' ∧ isBreak ch = false ∧ ch ≠ '#' ∧ ch ≠ '\uFEFF') : StartsToken (ch :: rest) := by
  intro x hx
  cases hx
  exact h

/-- A text without the blanks and line feeds in front of it. -/
def afterGap (text : List Char) : List Char :=
  text.dropWhile fun ch => ch == ' ' || ch == '\n'

theorem afterGap_append {gap : List Char} (hgap : IsSpacing gap) (rest : List Char) :
    afterGap (gap ++ rest) = afterGap rest := by
  apply List.dropWhile_append_of_pos
  intro ch hch
  simpa using hgap ch hch

theorem afterGap_of_startsToken {rest : List Char} (h : StartsToken rest) : afterGap rest = rest := by
  cases rest with
  | nil => rfl
  | cons ch rest =>
      obtain ⟨hblank, hbreak, -⟩ := h ch rfl
      have hfeed : ch ≠ '\n' := by
        rintro rfl
        exact absurd hbreak (by decide)
      simp [afterGap, hblank, hfeed]

theorem exists_spacing_append_afterGap (text : List Char) :
    ∃ gap, IsSpacing gap ∧ text = gap ++ afterGap text := by
  refine ⟨_, ?_, List.takeWhile_append_dropWhile.symm⟩
  intro ch hch
  simpa using List.mem_takeWhile_imp hch

/-- No key is demanded at any of the places. -/
def Undemanded (places : List (Option KeyPlace)) : Prop :=
  ∀ place, some place ∈ places → place.demanded = false

namespace Cutting

variable {s t : Cutting} {depth : Nat} {tokens : List Token} {gap rest : List Char}

/-- A scanner is inside `depth` brackets and in no block, has read some tokens, and finds a text, if
gaps in front of it do not count. -/
structure At (s : Cutting) (depth : Nat) (tokens : List Token) (rest : List Char) : Prop where
  text : afterGap s.cursor.rest = afterGap rest
  read : s.tokens.reverse = tokens
  indents : s.indents = []
  brackets : s.keyPlaces.length = depth + 1
  undemanded : Undemanded s.keyPlaces

theorem At.inFlow (h : s.At depth tokens rest) : s.inFlow = (depth != 0) := by
  rw [Cutting.inFlow, Cutting.depth, h.brackets, Nat.add_sub_cancel]

theorem At.afterSpacing (hgap : IsSpacing gap) :
    s.At depth tokens (gap ++ rest) ↔ s.At depth tokens rest := by
  have hafter := afterGap_append hgap rest
  constructor
  · exact fun h => ⟨h.text.trans hafter, h.read, h.indents, h.brackets, h.undemanded⟩
  · exact fun h => ⟨h.text.trans hafter.symm, h.read, h.indents, h.brackets, h.undemanded⟩

/-- A gap stands between the cursor and the next token. -/
theorem At.exists_gap (h : s.At depth tokens rest) (hstart : StartsToken rest) :
    ∃ gap, IsSpacing gap ∧ s.cursor.rest = gap ++ rest := by
  obtain ⟨gap, hgap, hrest⟩ := exists_spacing_append_afterGap s.cursor.rest
  rw [h.text, afterGap_of_startsToken hstart] at hrest
  exact ⟨gap, hgap, hrest⟩

/-! ## Gaps -/

theorem skipGapsFrom_spacing (inFlow allowed : Bool) (hgap : IsSpacing gap)
    (hstart : StartsToken rest) {c : Cursor} {fuel : Nat} (hrest : c.rest = gap ++ rest)
    (hfuel : gap.length < fuel) :
    ∃ allowed', skipGapsFrom inFlow fuel allowed c = (allowed', c.skip gap.length) ∧
      (inFlow = true → allowed' = allowed) := by
  obtain ⟨fuel, rfl⟩ : ∃ n, fuel = n + 1 := ⟨fuel - 1, by omega⟩
  induction gap generalizing c fuel allowed with
  | nil =>
      rw [List.nil_append] at hrest
      have hblank : c.skipWhile (· == ' ') = c := by
        apply Cursor.skipWhile_of_stop
        rw [hrest]
        exact fun ch hch => by simpa using (hstart ch hch).1
      have hbreak : c.lineBreak = ([], c) := by
        apply Cursor.lineBreak_of_stop
        rw [hrest]
        exact fun ch hch => (hstart ch hch).2.1
      have hcomment : ¬ (c.peek == some '#') = true := by
        rw [Cursor.peek, hrest, beq_iff_eq]
        exact fun h => (hstart _ h).2.2.1 rfl
      refine ⟨allowed, ?_, fun _ => rfl⟩
      rw [skipGapsFrom, hblank, if_neg hcomment, hbreak]
      rfl
  | cons ch gap ih =>
      have hmore : IsSpacing gap := fun x hx => hgap x (List.mem_cons_of_mem _ hx)
      have hnext : c.next.rest = gap ++ rest := Cursor.next_rest hrest
      rw [List.length_cons] at hfuel
      rcases hgap ch List.mem_cons_self with rfl | rfl
      · obtain ⟨allowed', hskip, hallowed⟩ := ih allowed hmore hnext fuel (by omega)
        refine ⟨allowed', ?_, hallowed⟩
        rw [skipGapsFrom, Cursor.skipWhile_of_head hrest (by rfl)]
        rw [skipGapsFrom] at hskip
        exact hskip
      · obtain ⟨fuel, rfl⟩ : ∃ n, fuel = n + 1 := ⟨fuel - 1, by omega⟩
        obtain ⟨allowed', hskip, hallowed⟩ := ih (allowed || !inFlow) hmore hnext fuel (by omega)
        refine ⟨allowed', ?_, fun hflow => ?_⟩
        · have hblank : c.skipWhile (· == ' ') = c := by
            apply Cursor.skipWhile_of_stop
            rw [hrest]
            rintro x hx
            cases hx
            decide
          rw [skipGapsFrom, hblank, Cursor.peek_of_rest hrest, if_neg (by decide),
            Cursor.lineBreak_feed hrest]
          exact hskip
        · rw [hallowed hflow, hflow]
          simp

theorem skipGaps_spacing (hgap : IsSpacing gap) (hstart : StartsToken rest)
    (hrest : s.cursor.rest = gap ++ rest) :
    ∃ allowed, s.skipGaps =
        { s with cursor := s.cursor.skip gap.length, keyAllowed := allowed } ∧
      (s.inFlow = true → allowed = s.keyAllowed) := by
  have hmark : ¬ (s.cursor.index == 0 && s.cursor.peek == some '\uFEFF') = true := by
    rw [Bool.and_eq_true, beq_iff_eq, beq_iff_eq, Cursor.peek, hrest]
    rintro ⟨-, h⟩
    cases gap with
    | nil => exact (hstart _ h).2.2.2 rfl
    | cons ch gap =>
        cases h
        rcases hgap _ List.mem_cons_self with h | h <;> exact absurd h (by decide)
  have hfuel : gap.length < s.cursor.rest.length + 1 := by
    rw [hrest, List.length_append]
    omega
  obtain ⟨allowed, hskip, hallowed⟩ :=
    skipGapsFrom_spacing s.inFlow s.keyAllowed hgap hstart hrest hfuel
  refine ⟨allowed, ?_, hallowed⟩
  unfold skipGaps
  dsimp only
  rw [if_neg hmark, hskip]

/-! ## Possible keys -/

/-- The possible keys that do not lie too far back. -/
def standingKeys (c : Cursor) (places : List (Option KeyPlace)) : List (Option KeyPlace) :=
  places.map (Option.filter fun place => !KeyPlace.expired c place)

theorem mapM_expireOne (c : Cursor) {places : List (Option KeyPlace)} (h : Undemanded places) :
    places.mapM (expireOne c) = .ok (standingKeys c places) := by
  induction places with
  | nil => rfl
  | cons place places ih =>
      have hone : expireOne c place =
          .ok (place.filter fun place => !KeyPlace.expired c place) := by
        cases place with
        | none => rfl
        | some place =>
            have hdemanded := h place List.mem_cons_self
            rw [expireOne, Option.filter_some, hdemanded]
            cases KeyPlace.expired c place <;> rfl
      rw [List.mapM_cons, hone, ih fun place hplace => h place (List.mem_cons_of_mem _ hplace)]
      rfl

theorem undemanded_standingKeys (c : Cursor) {places : List (Option KeyPlace)}
    (h : Undemanded places) : Undemanded (standingKeys c places) := by
  intro place hplace
  obtain ⟨place', hmem, heq⟩ := List.mem_map.1 hplace
  obtain ⟨rfl, -⟩ := Option.filter_eq_some_iff.1 heq
  exact h place hmem

theorem expireKeys_undemanded (h : Undemanded s.keyPlaces) :
    s.expireKeys = .ok { s with keyPlaces := standingKeys s.cursor s.keyPlaces } := by
  rw [expireKeys, mapM_expireOne s.cursor h]
  rfl

theorem dropKey_undemanded (h : Undemanded s.keyPlaces) :
    ∃ places, s.dropKey = .ok { s with keyPlaces := places } ∧
      places.length = s.keyPlaces.length ∧ places.drop 1 = s.keyPlaces.drop 1 ∧
      Undemanded places := by
  unfold dropKey
  split
  · next place rest heq =>
    rw [heq] at h
    refine ⟨none :: rest, ?_, by rw [heq]; rfl, by rw [heq]; rfl, ?_⟩
    · rw [h place List.mem_cons_self, if_neg Bool.false_ne_true]
    · intro other hother
      rw [List.mem_cons] at hother
      exact h other (List.mem_cons_of_mem _ (hother.resolve_left (by simp)))
  · exact ⟨s.keyPlaces, rfl, rfl, rfl, h⟩

/-- The place of the token at the cursor. -/
def placeHere (s : Cutting) : KeyPlace :=
  ⟨s.count, false, s.cursor.index, s.cursor.line, s.cursor.column⟩

theorem At.keepKey (h : s.At depth tokens rest) :
    ∃ places, s.keepKey = .ok { s with keyPlaces := places } ∧ places.length = depth + 1 ∧
      Undemanded places ∧
      (s.keyAllowed = true → places = some s.placeHere :: s.keyPlaces.drop 1) := by
  unfold Cutting.keepKey
  split
  · obtain ⟨places, hdrop, hlength, hrest, -⟩ := dropKey_undemanded h.undemanded
    have hparent : (s.parent == s.cursor.column + 1) = false := by simp [parent, h.indents]
    refine ⟨some s.placeHere :: s.keyPlaces.drop 1, ?_, ?_, ?_, fun _ => rfl⟩
    · rw [hdrop]
      simp only [bind, Except.bind, pure, Except.pure, Cutting.parent, hrest] at hparent ⊢
      rw [hparent, Bool.and_false]
      rfl
    · rw [List.length_cons, List.length_drop, h.brackets, Nat.add_sub_cancel]
    · intro place hplace
      rcases List.mem_cons.1 hplace with hplace | hplace
      · cases hplace
        rfl
      · exact h.undemanded place (List.drop_subset 1 _ hplace)
  · next hallowed =>
    exact ⟨s.keyPlaces, rfl, h.brackets, h.undemanded, fun h => absurd h hallowed⟩

/-! ## Steps -/

/-- Some steps lead from a state to another one, each of them past a character at least. -/
def Leads (s t : Cutting) : Prop :=
  ∃ n, n + t.cursor.rest.length ≤ s.cursor.rest.length ∧
    ∀ fuel, run (fuel + n) s = run fuel t

theorem Leads.refl (s : Cutting) : s.Leads s :=
  ⟨0, (Nat.zero_add _).le, fun _ => rfl⟩

theorem Leads.trans {u : Cutting} (hst : s.Leads t) (htu : t.Leads u) : s.Leads u := by
  obtain ⟨m, hm, hrun⟩ := hst
  obtain ⟨n, hn, hrun'⟩ := htu
  refine ⟨n + m, by omega, fun fuel => ?_⟩
  rw [← Nat.add_assoc, hrun, hrun']

theorem unwind_of_indents (h : s.indents = []) (column : Nat) : s.unwind column = s := by
  unfold unwind
  split
  · rfl
  · rw [h]
    simp only [List.takeWhile_nil, List.map_nil, List.nil_append, List.length_nil, Nat.add_zero,
      List.drop_nil]
    rw [← h]

/-- The state after a gap of `n` characters. -/
def settled (s : Cutting) (n : Nat) (allowed : Bool) : Cutting :=
  { s with
    cursor := s.cursor.skip n
    keyPlaces := standingKeys (s.cursor.skip n) s.keyPlaces
    keyAllowed := allowed }

/-- Passing the gap in front of the text at hand. -/
theorem At.settle (h : s.At depth tokens rest) (hstart : StartsToken rest) (hgap : IsSpacing gap)
    (hrest : s.cursor.rest = gap ++ rest) :
    ∃ allowed, s.skipGaps.expireKeys = .ok (s.settled gap.length allowed) ∧
      (s.settled gap.length allowed).At depth tokens rest ∧
      (s.settled gap.length allowed).cursor.rest = rest ∧
      (depth ≠ 0 → allowed = s.keyAllowed) := by
  obtain ⟨allowed, hskip, hallowed⟩ := skipGaps_spacing hgap hstart hrest
  have hafter : (s.cursor.skip gap.length).rest = rest := by
    rw [Cursor.rest_skip, hrest, List.drop_left]
  refine ⟨allowed, ?_, ⟨congrArg afterGap hafter, h.read, h.indents, ?_, ?_⟩, hafter, ?_⟩
  · rw [hskip, expireKeys_undemanded (by exact h.undemanded)]
    rfl
  · rw [settled, standingKeys, List.length_map, h.brackets]
  · exact undemanded_standingKeys _ h.undemanded
  · intro hdepth
    apply hallowed
    rw [h.inFlow]
    simpa using hdepth

/-- A step takes the token after the gap. -/
theorem run_of_takeToken {u : Cutting} {ch : Char} (hsettle : s.skipGaps.expireKeys = .ok t)
    (hindents : t.indents = []) (hcursor : t.cursor.rest = ch :: rest)
    (htake : t.takeToken ch = .ok u) (fuel : Nat) : run (fuel + 1) s = run fuel u := by
  rw [run, hsettle]
  simp only [bind, Except.bind]
  rw [Cursor.peek_of_rest hcursor]
  dsimp only
  rw [unwind_of_indents hindents, htake]

theorem At.step {ch : Char} {P : Cutting → Prop} (h : s.At depth tokens (ch :: rest))
    (hstart : StartsToken (ch :: rest))
    (htake : ∀ t : Cutting, t.At depth tokens (ch :: rest) → t.cursor.rest = ch :: rest →
      (depth ≠ 0 → t.keyAllowed = s.keyAllowed) →
      ∃ u, t.takeToken ch = .ok u ∧ u.cursor.rest.length < t.cursor.rest.length ∧ P u) :
    ∃ u, s.Leads u ∧ P u := by
  obtain ⟨gap, hgap, hrest⟩ := h.exists_gap hstart
  obtain ⟨allowed, hsettle, hat, hcursor, hallowed⟩ := h.settle hstart hgap hrest
  obtain ⟨u, hu, hlength, hP⟩ := htake _ hat hcursor hallowed
  refine ⟨u, ⟨1, ?_, run_of_takeToken hsettle hat.indents hcursor hu⟩, hP⟩
  rw [hcursor] at hlength
  rw [hrest, List.length_append]
  omega

/-! ## Brackets and commas -/

theorem marks_absent {ch : Char} (h : t.cursor.rest = ch :: rest) (hminus : ch ≠ '-')
    (hdot : ch ≠ '.') : t.cursor.atMark '-' = false ∧ t.cursor.atMark '.' = false := by
  constructor
  · apply Cursor.atMark_of_head
    simpa [h] using hminus
  · apply Cursor.atMark_of_head
    simpa [h] using hdot

theorem takeOne_at {ch : Char} {mark : Token} (hcursor : s.cursor.rest = ch :: rest)
    (hread : s.tokens.reverse = tokens) (hindents : s.indents = [])
    (hbrackets : s.keyPlaces.length = depth + 1) (hplaces : Undemanded s.keyPlaces) :
    (s.takeOne mark).At depth (tokens ++ [mark]) rest where
  text := congrArg afterGap (Cursor.next_rest hcursor)
  read := by rw [← hread]; exact List.reverse_cons
  indents := hindents
  brackets := hbrackets
  undemanded := hplaces

theorem length_takeOne {ch : Char} {mark : Token} (hcursor : s.cursor.rest = ch :: rest) :
    (s.takeOne mark).cursor.rest.length < s.cursor.rest.length := by
  have hnext : (s.takeOne mark).cursor.rest = rest := Cursor.next_rest hcursor
  rw [hnext, hcursor, List.length_cons]
  exact Nat.lt_succ_self _

/-- The kinds of brackets: sequences and mappings. -/
inductive Bracket : Char → Token → Char → Token → Prop where
  | sequence : Bracket '[' .flowSequenceStart ']' .flowSequenceEnd
  | mapping : Bracket '\x7b' .flowMappingStart '\x7d' .flowMappingEnd

variable {opening closing : Char} {first last : Token}

/-- An opening bracket is taken, and inside of it a key may stand. -/
theorem At.openBracket (hbracket : Bracket opening first closing last)
    (h : s.At depth tokens (opening :: rest)) :
    ∃ u, s.Leads u ∧ u.At (depth + 1) (tokens ++ [first]) rest ∧ u.keyAllowed = true := by
  apply h.step
  · apply startsToken_cons
    cases hbracket <;> decide
  · intro t hat hcursor _
    have htake : t.takeToken opening = t.openBracket first := by
      cases hbracket
      · obtain ⟨hminus, hdot⟩ := marks_absent hcursor (by decide) (by decide)
        simp [takeToken, hminus, hdot]
      · obtain ⟨hminus, hdot⟩ := marks_absent hcursor (by decide) (by decide)
        simp [takeToken, hminus, hdot]
    obtain ⟨places, hkeep, hlength, hplaces, -⟩ := hat.keepKey
    rw [htake, Cutting.openBracket, hkeep]
    refine ⟨_, rfl, length_takeOne hcursor, takeOne_at hcursor hat.read hat.indents ?_ ?_, rfl⟩
    · exact congrArg (· + 1) hlength
    · intro place hplace
      exact hplaces place ((List.mem_cons.1 hplace).resolve_left (by simp))

/-- A closing bracket is taken. -/
theorem At.closeBracket (hbracket : Bracket opening first closing last)
    (h : s.At (depth + 1) tokens (closing :: rest)) :
    ∃ u, s.Leads u ∧ u.At depth (tokens ++ [last]) rest := by
  apply h.step
  · apply startsToken_cons
    cases hbracket <;> decide
  · intro t hat hcursor _
    have htake : t.takeToken closing = t.closeBracket last := by
      cases hbracket
      · obtain ⟨hminus, hdot⟩ := marks_absent hcursor (by decide) (by decide)
        simp [takeToken, hminus, hdot]
      · obtain ⟨hminus, hdot⟩ := marks_absent hcursor (by decide) (by decide)
        simp [takeToken, hminus, hdot]
    obtain ⟨places, hdrop, hlength, -, hplaces⟩ := dropKey_undemanded hat.undemanded
    rw [hat.brackets] at hlength
    obtain ⟨inner, outer, more, rfl⟩ : ∃ inner outer more, places = inner :: outer :: more := by
      match places, hlength with
      | inner :: outer :: more, _ => exact ⟨inner, outer, more, rfl⟩
    rw [htake, Cutting.closeBracket, hdrop]
    refine ⟨_, rfl, length_takeOne hcursor, takeOne_at hcursor hat.read hat.indents ?_ ?_⟩
    · exact Nat.succ_injective hlength
    · exact fun place hplace => hplaces place (List.mem_cons_of_mem _ hplace)

/-- A comma is taken, and after it a key may stand. -/
theorem At.comma (h : s.At depth tokens (',' :: rest)) :
    ∃ u, s.Leads u ∧ u.At depth (tokens ++ [.flowEntry]) rest ∧ u.keyAllowed = true := by
  apply h.step
  · exact startsToken_cons _ (by decide)
  · intro t hat hcursor _
    obtain ⟨hminus, hdot⟩ := marks_absent hcursor (by decide) (by decide)
    have htake : t.takeToken ',' = t.takeFlowEntry := by
      simp [takeToken, hminus, hdot]
    obtain ⟨places, hdrop, hlength, -, hplaces⟩ :=
      dropKey_undemanded (s := t.allowKey true) hat.undemanded
    rw [htake, takeFlowEntry, hdrop]
    refine ⟨_, rfl, length_takeOne hcursor, takeOne_at hcursor hat.read hat.indents ?_ hplaces, rfl⟩
    exact hlength.trans hat.brackets

/-! ## Scalars -/

/-- The state after a literal, with the places of possible keys. -/
def afterLiteral (s : Cutting) (places : List (Option KeyPlace)) (body : List Char)
    (codes : List Nat) : Cutting :=
  (({ s with keyPlaces := places }.allowKey false).moveTo (s.cursor.skip (body.length + 2))).push
    (.scalar (textOfCodes codes) false)

theorem At.takeLiteral {body : List Char} {codes : List Nat} (hbody : Literal body codes)
    (h : s.At depth tokens ('"' :: (body ++ '"' :: rest)))
    (hcursor : s.cursor.rest = '"' :: (body ++ '"' :: rest)) :
    ∃ places, s.takeToken '"' = .ok (s.afterLiteral places body codes) ∧
      (s.afterLiteral places body codes).At depth
        (tokens ++ [.scalar (textOfCodes codes) false]) rest ∧
      (s.afterLiteral places body codes).cursor.rest = rest ∧
      (s.keyAllowed = true → places = some s.placeHere :: s.keyPlaces.drop 1) := by
  obtain ⟨hminus, hdot⟩ := marks_absent hcursor (by decide) (by decide)
  have htake : s.takeToken '"' = s.takeAtom fun c =>
      (readQuoted true c).map fun taken => (.scalar taken.1 false, taken.2) := by
    simp [takeToken, hminus, hdot]
  obtain ⟨places, hkeep, hlength, hplaces, hhere⟩ := h.keepKey
  have hafter : (s.cursor.skip (body.length + 2)).rest = rest := by
    rw [Cursor.rest_skip, hcursor, List.drop_succ_cons, Nat.add_comm, List.drop_append]
    simp
  refine ⟨places, ?_, ⟨congrArg afterGap hafter, ?_, h.indents, hlength, hplaces⟩, hafter,
    hhere⟩
  · rw [htake, takeAtom, hkeep]
    simp only [bind, Except.bind]
    rw [hbody.readQuoted hcursor]
    rfl
  · rw [← h.read]
    exact List.reverse_cons

/-- A literal is taken. -/
theorem At.literal {body : List Char} {codes : List Nat} (hbody : Literal body codes)
    (h : s.At depth tokens ('"' :: (body ++ '"' :: rest))) :
    ∃ u, s.Leads u ∧ u.At depth (tokens ++ [.scalar (textOfCodes codes) false]) rest := by
  apply h.step
  · exact startsToken_cons _ (by decide)
  · intro t hat hcursor _
    obtain ⟨places, htake, hafter, hrest, -⟩ := hat.takeLiteral hbody hcursor
    refine ⟨_, htake, ?_, hafter⟩
    rw [hrest, hcursor]
    simp only [List.length_cons, List.length_append]
    omega

/-- The characters with which other tokens start. -/
def tokenSigns : List Char :=
  ['-', '?', ':', ',', '[', ']', '\x7b', '\x7d', '#', '&', '*', '!', '|', '>', '\'', '"', '%', '@',
    '\x60', '.', ' ', '\t', '\n', '\r', '\x85', '\u2028', '\u2029', '\uFEFF']

theorem ne_of_alphanumeric {ch : Char} (h : ch.isAlphanum = true) : ∀ sign ∈ tokenSigns, ch ≠ sign := by
  have hsigns : ∀ sign ∈ tokenSigns, sign.isAlphanum = false := by decide
  intro sign hsign heq
  subst heq
  rw [hsigns ch hsign] at h
  cases h

theorem takeToken_alphanumeric {ch : Char} (h : t.cursor.rest = ch :: rest)
    (hch : ch.isAlphanum = true) : t.takeToken ch = t.takePlain := by
  have hne := ne_of_alphanumeric hch
  simp only [tokenSigns, List.forall_mem_cons] at hne
  obtain ⟨hminus, hquery, hcolon, hcomma, hopen, hclose, hopenBrace, hcloseBrace, hhash, hand, hstar,
    hbang, hbar, hgreater, hapostrophe, hquote, hpercent, hat, htick, hdot, hblank, htab, hfeed,
    hreturn, hnext, hline, hparagraph, -, -⟩ := hne
  obtain ⟨hminuses, hdots⟩ := marks_absent h hminus hdot
  have hplain : startsPlain t.inFlow ch (t.cursor.ahead 1) = true := by
    simp [startsPlain, isGap, isBreak, hminus, hquery, hcolon, hcomma, hopen, hclose, hopenBrace,
      hcloseBrace, hhash, hand, hstar, hbang, hbar, hgreater, hapostrophe, hquote, hpercent, hat,
      htick, hblank, htab, hfeed, hreturn, hnext, hline, hparagraph]
  simp [takeToken, hminuses, hdots, hpercent, hopen, hopenBrace, hclose, hcloseBrace, hcomma, hminus,
    hquery, hcolon, hstar, hand, hbang, hbar, hgreater, hapostrophe, hquote, hplain]

theorem takeToken_minus {ch : Char} (h : t.cursor.rest = '-' :: ch :: rest)
    (hch : ch.isAlphanum = true) : t.takeToken '-' = t.takePlain := by
  have hne := ne_of_alphanumeric hch
  have hdots : t.cursor.atMark '.' = false := by
    apply Cursor.atMark_of_head
    simp [h]
  have hminuses : t.cursor.atMark '-' = false := by
    unfold Cursor.atMark
    rw [h]
    split
    · next heq =>
      cases heq
      simp [hne '-' (by decide)]
    · rfl
  have hgap : gapOrEnd (t.cursor.ahead 1) = false := by
    simp only [tokenSigns, List.forall_mem_cons] at hne
    simp [Cursor.ahead, h, gapOrEnd, isGap, isBreak, hne]
  simp [takeToken, hminuses, hdots, hgap, startsPlain]

/-- A number or name is taken, with the gap after it. -/
theorem At.plain (word : PlainWord) (hgap : IsSpacing gap) (hclose : Closes (depth != 0) rest)
    (h : s.At depth tokens (word.text ++ (gap ++ rest))) :
    ∃ u, s.Leads u ∧ u.At depth (tokens ++ [.scalar word.text true]) rest := by
  obtain ⟨first, more, hword, hfirst⟩ := word.start
  have htext : word.text ++ (gap ++ rest) = first :: (more ++ (gap ++ rest)) := by
    rw [hword, List.cons_append]
  rw [htext] at h
  apply h.step
  · apply startsToken_cons
    rcases hfirst with hfirst | ⟨rfl, -⟩
    · have hne := ne_of_alphanumeric hfirst
      simp only [tokenSigns, List.forall_mem_cons] at hne
      simp [isBreak, hne]
    · decide
  · intro t hat hcursor _
    have htake : t.takeToken first = t.takePlain := by
      rcases hfirst with hfirst | ⟨rfl, second, others, rfl, hsecond⟩
      · exact takeToken_alphanumeric hcursor hfirst
      · exact takeToken_minus hcursor hsecond
    obtain ⟨places, hkeep, hlength, hplaces, -⟩ := hat.keepKey
    rw [← htext] at hcursor
    have hflow : Cutting.inFlow { t with keyPlaces := places } = (depth != 0) := by
      rw [Cutting.inFlow, Cutting.depth, hlength, Nat.add_sub_cancel]
    obtain ⟨hread, hend⟩ := word.readPlain hclose hgap t.parent hcursor
    have hafter : (t.cursor.skip (word.text.length + gap.length)).rest = rest := by
      rw [← Cursor.skip_skip, Cursor.rest_skip, Cursor.rest_skip, hcursor, List.drop_left,
        List.drop_left]
    rw [htake, takePlain, hkeep]
    simp only [bind, Except.bind, hflow]
    change ∃ u, Except.ok ((((Cutting.allowKey _ _).moveTo
      (readPlain (depth != 0) t.parent t.cursor).cursor).push
        (.scalar (readPlain (depth != 0) t.parent t.cursor).text true))) = .ok u ∧ _
    rw [hread, hend]
    refine ⟨_, rfl, ?_, ⟨congrArg afterGap hafter, ?_, hat.indents, hlength, hplaces⟩⟩
    · change (t.cursor.skip (word.text.length + gap.length)).rest.length < t.cursor.rest.length
      rw [hafter, hcursor, hword]
      simp only [List.length_cons, List.length_append]
      omega
    · rw [← hat.read]
      exact List.reverse_cons

/-! ## Keys -/

theorem takeValue_of_kept {place : KeyPlace} {places : List (Option KeyPlace)} {scalar : Token}
    {before : List Token} (hplaces : s.keyPlaces = some place :: places) (hflow : s.inFlow = true)
    (hcount : s.count = place.number + 1) (htokens : s.tokens = scalar :: before) :
    s.takeValue = .ok { s with
      cursor := s.cursor.next
      tokens := .value :: scalar :: .key :: before
      count := s.count + 2
      keyPlaces := none :: places
      keyAllowed := false } := by
  have hflow' : Cutting.inFlow { s with keyPlaces := none :: places } = true := by
    rw [← hflow, Cutting.inFlow, Cutting.inFlow, Cutting.depth, Cutting.depth, hplaces]
    rfl
  have hinsert : (scalar :: before).insertIdx 1 Token.key = scalar :: .key :: before := rfl
  unfold takeValue
  rw [hplaces]
  simp only [insertAt, htokens, hcount, Nat.add_sub_cancel_left, hinsert]
  rw [if_pos (by exact hflow')]
  rfl

/-- A colon makes the scalar before it a key: its mark is put in front of it. -/
theorem At.colon {place : KeyPlace} {places : List (Option KeyPlace)} {scalar : Token}
    {before : List Token} (h : s.At (depth + 1) tokens (gap ++ ':' :: rest))
    (hgap : IsSpacing gap) (hcursor : s.cursor.rest = gap ++ ':' :: rest)
    (hplaces : s.keyPlaces = some place :: places) (hcount : s.count = place.number + 1)
    (htokens : s.tokens = scalar :: before)
    (hstands : KeyPlace.expired (s.cursor.skip gap.length) place = false) :
    ∃ u, s.Leads u ∧ u.At (depth + 1) (before.reverse ++ [.key, scalar, .value]) rest := by
  obtain ⟨allowed, hsettle, hat, hcolon, -⟩ :=
    ((At.afterSpacing hgap).1 h).settle (startsToken_cons _ (by decide)) hgap hcursor
  have hkept : (s.settled gap.length allowed).keyPlaces =
      some place :: standingKeys (s.cursor.skip gap.length) places := by
    rw [settled, hplaces, standingKeys, List.map_cons, Option.filter_some, hstands]
    rfl
  have hflow : (s.settled gap.length allowed).inFlow = true := hat.inFlow.trans (by simp)
  have hvalue := takeValue_of_kept hkept hflow hcount htokens
  obtain ⟨hminus, hdot⟩ := marks_absent hcolon (by decide) (by decide)
  have htake : (s.settled gap.length allowed).takeToken ':' =
      (s.settled gap.length allowed).takeValue := by
    simp [takeToken, hminus, hdot, hflow]
  have hnext : (s.settled gap.length allowed).cursor.next.rest = rest := Cursor.next_rest hcolon
  refine ⟨_, ⟨1, ?_, run_of_takeToken hsettle hat.indents hcolon (htake.trans hvalue)⟩,
    ⟨congrArg afterGap hnext, ?_, hat.indents, ?_, ?_⟩⟩
  · change 1 + (s.settled gap.length allowed).cursor.next.rest.length ≤ s.cursor.rest.length
    rw [hnext, hcursor, List.length_append, List.length_cons]
    omega
  · simp
  · rw [← hat.brackets, hkept]
    rfl
  · intro other hother
    apply hat.undemanded
    rw [hkept]
    exact List.mem_cons_of_mem _ ((List.mem_cons.1 hother).resolve_left (by simp))

/-- A key lies on one line and is short enough. -/
theorem not_expired {c : Cursor} {passed rest : List Char} {place : KeyPlace}
    (hrest : c.rest = passed ++ rest) (hpassed : ∀ ch ∈ passed, isBreak ch = false)
    (hlength : passed.length ≤ 1024) (hline : place.line = c.line) (hindex : place.index = c.index) :
    KeyPlace.expired (c.skip passed.length) place = false := by
  have hmoved : (c.skip passed.length).index = c.index + passed.length := by
    apply Cursor.index_skip
    rw [hrest, List.length_append]
    omega
  rw [KeyPlace.expired, Cursor.line_skip hrest hpassed, hmoved, hline, hindex]
  simp only [bne_self_eq_false, Bool.false_or, decide_eq_false_iff_not]
  omega

/-- A key is taken with its colon. -/
theorem At.key {name : List Char} {codes : List Nat} (hname : Literal name codes)
    (hgap : ∀ ch ∈ gap, ch = ' ') (hwidth : name.length + gap.length + 2 ≤ 1024)
    (h : s.At (depth + 1) tokens ('"' :: (name ++ '"' :: (gap ++ ':' :: rest))))
    (hallowed : s.keyAllowed = true) :
    ∃ u, s.Leads u ∧ u.At (depth + 1)
      (tokens ++ [.key, .scalar (textOfCodes codes) false, .value]) rest := by
  have hpassed : ∀ ch ∈ '"' :: (name ++ '"' :: gap), isBreak ch = false := by
    intro ch hch
    simp only [List.mem_cons, List.mem_append] at hch
    rcases hch with rfl | hch | rfl | hch
    · decide
    · exact hname.unbroken ch hch
    · decide
    · rw [hgap ch hch]
      decide
  have hlength : ('"' :: (name ++ '"' :: gap)).length = name.length + 2 + gap.length := by
    simp only [List.length_cons, List.length_append]
    omega
  have hkey : ∃ u, s.Leads u ∧ ∃ w, u.Leads w ∧ w.At (depth + 1)
      (tokens ++ [.key, .scalar (textOfCodes codes) false, .value]) rest := by
    apply h.step (startsToken_cons _ (by decide))
    intro t hat hcursor hsame
    obtain ⟨places, htake, hafter, hrest, hplaces⟩ := hat.takeLiteral hname hcursor
    have hkept := hplaces ((hsame (Nat.succ_ne_zero depth)).trans hallowed)
    have htext : t.cursor.rest = '"' :: (name ++ '"' :: gap) ++ ':' :: rest := by
      rw [hcursor]
      simp
    have hstands : KeyPlace.expired (t.cursor.skip ('"' :: (name ++ '"' :: gap)).length)
        t.placeHere = false := not_expired htext hpassed (by omega) rfl rfl
    rw [hlength, ← Cursor.skip_skip] at hstands
    rw [← hat.read]
    refine ⟨_, htake, ?_, hafter.colon (fun ch hch => .inl (hgap ch hch)) hrest hkept rfl rfl hstands⟩
    rw [hrest, hcursor]
    simp only [List.length_cons, List.length_append]
    omega
  obtain ⟨u, hu, w, hw, hat⟩ := hkey
  exact ⟨w, hu.trans hw, hat⟩

/-! ## The start and the end -/

theorem at_start (text : List Char) : (Cutting.start text).At 0 [] text where
  text := rfl
  read := rfl
  indents := rfl
  brackets := rfl
  undemanded := by simp [Undemanded, Cutting.start]

/-- At the end of the text the scanner stops with the tokens that it has read. -/
theorem At.finish (h : s.At 0 tokens []) (fuel : Nat) :
    ∃ u, run (fuel + 1) s = .ok u ∧ u.tokens.reverse = tokens := by
  have hstart : StartsToken [] := by simp [StartsToken]
  obtain ⟨gap, hgap, hrest⟩ := h.exists_gap hstart
  obtain ⟨allowed, hsettle, hat, hcursor, -⟩ := h.settle hstart hgap hrest
  generalize s.settled gap.length allowed = t at hsettle hat hcursor
  have hflow : t.inFlow = false := hat.inFlow
  have htokens : t.unwindAll.tokens = t.tokens := by
    rw [unwindAll, hflow, if_neg Bool.false_ne_true, hat.indents]
    rfl
  have hplaces : t.unwindAll.keyPlaces = t.keyPlaces := by
    rw [unwindAll, hflow, if_neg Bool.false_ne_true]
  have hundemanded : Undemanded t.unwindAll.keyPlaces := by
    rw [hplaces]
    exact hat.undemanded
  obtain ⟨places, hdrop, -⟩ := dropKey_undemanded hundemanded
  have hpeek : t.cursor.peek = none := by rw [Cursor.peek, hcursor, List.head?_nil]
  refine ⟨{ t.unwindAll with keyPlaces := places }, ?_,
    (congrArg List.reverse htokens).trans hat.read⟩
  rw [run, hsettle]
  simp only [bind, Except.bind]
  rw [hpeek]
  exact hdrop

end Cutting

end ApiShapes.Yaml
