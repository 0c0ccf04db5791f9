import ApiShapes.Proofs.Yaml.FlowTokens
import Mathlib.Tactic

/-!
# Flow text

Texts of scalars and of collections in brackets, as both formats write them: the literals are
quoted, the gaps consist of blanks and line feeds, and each key is followed by its colon on the same
line.  A scanner takes their tokens one after the other.
-/

namespace ApiShapes.Yaml

/-- A scalar, or a collection in brackets. -/
inductive Flow where
  | plain (word : PlainWord)
  | literal (text : List Char)
  | sequence (items : List Flow)
  | mapping (entries : List (List Char × Flow))

/-- What stands in front of an item or entry that is the first one, or a later one. -/
def separator (first : Bool) : List Token :=
  if first then [] else [.flowEntry]

mutual

def Flow.tokens : Flow → List Token
  | .plain word => [.scalar word.text true]
  | .literal text => [.scalar text false]
  | .sequence items => .flowSequenceStart :: (itemTokens true items ++ [.flowSequenceEnd])
  | .mapping entries => .flowMappingStart :: (entryTokens true entries ++ [.flowMappingEnd])

def itemTokens (first : Bool) : List Flow → List Token
  | [] => []
  | item :: items => separator first ++ (item.tokens ++ itemTokens false items)

def entryTokens (first : Bool) : List (List Char × Flow) → List Token
  | [] => []
  | (key, value) :: entries =>
    separator first ++
      ([.key, .scalar key false, .value] ++ (value.tokens ++ entryTokens false entries))

end

/-! ## Texts -/

/-- The text in front of an item or entry that is the first one, or a later one. -/
inductive Separates : Bool → List Char → Prop where
  | first {gap : List Char} (spacing : IsSpacing gap) : Separates true gap
  | later {gap gap' : List Char} (spacing : IsSpacing gap) (spacing' : IsSpacing gap') :
      Separates false (gap ++ ',' :: gap')

/-- The text of a key with its colon. -/
inductive KeyText : List Char → List Char → Prop where
  | mk {name gap : List Char} {codes : List Nat} (literal : Literal name codes)
      (blanks : ∀ ch ∈ gap, ch = ' ') (width : name.length + gap.length + 2 ≤ 1024) :
      KeyText (textOfCodes codes) ('"' :: (name ++ '"' :: (gap ++ [':'])))

mutual

/-- A text starts with that of a flow node, and the rest of it is left. -/
inductive FlowText : Flow → List Char → List Char → Prop where
  | plain (word : PlainWord) (left : List Char) : FlowText (.plain word) (word.text ++ left) left
  | literal {body left : List Char} {codes : List Nat} (literal : Literal body codes) :
      FlowText (.literal (textOfCodes codes)) ('"' :: (body ++ '"' :: left)) left
  | sequence {items : List Flow} {s left : List Char} (inside : ItemsText true items s left) :
      FlowText (.sequence items) ('[' :: s) left
  | mapping {entries : List (List Char × Flow)} {s left : List Char}
      (inside : EntriesText true entries s left) : FlowText (.mapping entries) ('\x7b' :: s) left

inductive ItemsText : Bool → List Flow → List Char → List Char → Prop where
  | done {first : Bool} {gap left : List Char} (spacing : IsSpacing gap) :
      ItemsText first [] (gap ++ ']' :: left) left
  | item {first : Bool} {item : Flow} {items : List Flow} {before s t left : List Char}
      (separates : Separates first before) (here : FlowText item s t)
      (more : ItemsText false items t left) :
      ItemsText first (item :: items) (before ++ s) left

inductive EntriesText :
    Bool → List (List Char × Flow) → List Char → List Char → Prop where
  | done {first : Bool} {gap left : List Char} (spacing : IsSpacing gap) :
      EntriesText first [] (gap ++ '\x7d' :: left) left
  | entry {first : Bool} {key : List Char} {value : Flow} {entries : List (List Char × Flow)}
      {before named gap s t left : List Char} (separates : Separates first before)
      (name : KeyText key named) (spacing : IsSpacing gap) (here : FlowText value s t)
      (more : EntriesText false entries t left) :
      EntriesText first ((key, value) :: entries) (before ++ (named ++ (gap ++ s))) left

end

/-- After a gap the text goes on with punctuation. -/
def GoesOn (text : List Char) : Prop :=
  ∃ gap rest, text = gap ++ rest ∧ IsSpacing gap ∧ Closes true rest

theorem goesOn_of_head {ch : Char} {gap rest : List Char} (hgap : IsSpacing gap)
    (hch : ch = ',' ∨ ch = ']' ∨ ch = '\x7d') : GoesOn (gap ++ ch :: rest) := by
  refine ⟨gap, ch :: rest, rfl, hgap, ?_⟩
  rintro x hx
  cases hx
  exact ⟨rfl, hch⟩

theorem Separates.goesOn {before rest : List Char} (h : Separates false before) :
    GoesOn (before ++ rest) := by
  cases h with
  | later spacing spacing' =>
      rw [List.append_assoc]
      exact goesOn_of_head spacing (.inl rfl)

theorem ItemsText.goesOn {items : List Flow} {s left : List Char}
    (h : ItemsText false items s left) : GoesOn s := by
  cases h with
  | done spacing => exact goesOn_of_head spacing (.inr (.inl rfl))
  | item separates here more => exact separates.goesOn

theorem EntriesText.goesOn {entries : List (List Char × Flow)} {s left : List Char}
    (h : EntriesText false entries s left) : GoesOn s := by
  cases h with
  | done spacing => exact goesOn_of_head spacing (.inr (.inr rfl))
  | entry separates name spacing here more => exact separates.goesOn

/-! ## Scanning -/

namespace Cutting

variable {s : Cutting} {depth : Nat} {tokens : List Token} {rest : List Char}

theorem At.separates {first : Bool} {before : List Char} (hbefore : Separates first before)
    (h : s.At depth tokens (before ++ rest)) (hallowed : first = true → s.keyAllowed = true) :
    ∃ u, s.Leads u ∧ u.At depth (tokens ++ separator first) rest ∧ u.keyAllowed = true := by
  cases hbefore with
  | first spacing =>
      rw [separator, if_pos rfl, List.append_nil]
      exact ⟨s, .refl s, (At.afterSpacing spacing).1 h, hallowed rfl⟩
  | later spacing spacing' =>
      rw [List.append_assoc] at h
      obtain ⟨u, hu, hat, hkey⟩ := ((At.afterSpacing spacing).1 h).comma
      exact ⟨u, hu, (At.afterSpacing spacing').1 hat, hkey⟩

theorem At.keyText {key named : List Char} (hkey : KeyText key named)
    (h : s.At (depth + 1) tokens (named ++ rest)) (hallowed : s.keyAllowed = true) :
    ∃ u, s.Leads u ∧ u.At (depth + 1) (tokens ++ [.key, .scalar key false, .value]) rest := by
  cases hkey with
  | mk literal blanks width =>
      have htext : s.At (depth + 1) tokens _ := h
      simp only [List.cons_append, List.append_assoc, List.nil_append] at htext
      exact htext.key literal blanks width hallowed

end Cutting

mutual

/-- The tokens of a flow node are taken one after the other. -/
theorem FlowText.leads {f : Flow} {text left : List Char} (h : FlowText f text left)
    {s : Cutting} {depth : Nat} {tokens : List Token} {gap rest : List Char}
    (hleft : left = gap ++ rest) (hgap : IsSpacing gap) (hclose : Closes (depth != 0) rest)
    (hat : s.At depth tokens text) :
    ∃ u, s.Leads u ∧ u.At depth (tokens ++ f.tokens) left := by
  match h with
  | .plain word _ =>
      subst hleft
      obtain ⟨u, hu, hat'⟩ := hat.plain word hgap hclose
      exact ⟨u, hu, (Cutting.At.afterSpacing hgap).2 hat'⟩
  | .literal hbody => exact hat.literal hbody
  | .sequence inside =>
      obtain ⟨u, hu, hat', hkey⟩ := hat.openBracket .sequence
      obtain ⟨w, hw, hat''⟩ := inside.leads hat' fun _ => hkey
      refine ⟨w, hu.trans hw, ?_⟩
      rw [List.append_assoc] at hat''
      exact hat''
  | .mapping inside =>
      obtain ⟨u, hu, hat', hkey⟩ := hat.openBracket .mapping
      obtain ⟨w, hw, hat''⟩ := inside.leads hat' fun _ => hkey
      refine ⟨w, hu.trans hw, ?_⟩
      rw [List.append_assoc] at hat''
      exact hat''

theorem ItemsText.leads {first : Bool} {items : List Flow} {text left : List Char}
    (h : ItemsText first items text left) {s : Cutting} {depth : Nat} {tokens : List Token}
    (hat : s.At (depth + 1) tokens text) (hallowed : first = true → s.keyAllowed = true) :
    ∃ u, s.Leads u ∧
      u.At depth (tokens ++ (itemTokens first items ++ [.flowSequenceEnd])) left := by
  match h with
  | .done spacing => exact ((Cutting.At.afterSpacing spacing).1 hat).closeBracket .sequence
  | .item separates here more =>
      obtain ⟨gap, rest, heq, hgap, hclose⟩ := more.goesOn
      replace hclose : Closes (depth + 1 != 0) rest := hclose
      obtain ⟨u, hu, hat₁, -⟩ := hat.separates separates hallowed
      obtain ⟨v, hv, hat₂⟩ := here.leads heq hgap hclose hat₁
      obtain ⟨w, hw, hat₃⟩ := more.leads hat₂ nofun
      refine ⟨w, (hu.trans hv).trans hw, ?_⟩
      simp only [itemTokens, List.append_assoc] at hat₃ ⊢
      exact hat₃

theorem EntriesText.leads {first : Bool} {entries : List (List Char × Flow)}
    {text left : List Char} (h : EntriesText first entries text left) {s : Cutting} {depth : Nat}
    {tokens : List Token} (hat : s.At (depth + 1) tokens text)
    (hallowed : first = true → s.keyAllowed = true) :
    ∃ u, s.Leads u ∧
      u.At depth (tokens ++ (entryTokens first entries ++ [.flowMappingEnd])) left := by
  match h with
  | .done spacing => exact ((Cutting.At.afterSpacing spacing).1 hat).closeBracket .mapping
  | .entry separates name spacing here more =>
      obtain ⟨gap, rest, heq, hgap, hclose⟩ := more.goesOn
      replace hclose : Closes (depth + 1 != 0) rest := hclose
      obtain ⟨u, hu, hat₁, hkey⟩ := hat.separates separates hallowed
      obtain ⟨v, hv, hat₂⟩ := hat₁.keyText name hkey
      obtain ⟨w, hw, hat₃⟩ := here.leads heq hgap hclose ((Cutting.At.afterSpacing spacing).1 hat₂)
      obtain ⟨x, hx, hat₄⟩ := more.leads hat₃ nofun
      refine ⟨x, ((hu.trans hv).trans hw).trans hx, ?_⟩
      simp only [entryTokens, List.append_assoc] at hat₄ ⊢
      exact hat₄

end

/-- The tokens of a text are those of its only flow node. -/
theorem tokensOf_flowText {f : Flow} {gap text left : List Char} (h : FlowText f text left)
    (hgap : IsSpacing gap) (hleft : IsSpacing left)
    (hprintable : (gap ++ text).all isPrintable = true) :
    tokensOf (gap ++ text) = .ok f.tokens := by
  have hstart := (Cutting.At.afterSpacing hgap).1 (Cutting.at_start (gap ++ text))
  have hclose : Closes (0 != 0) [] := by simp [Closes]
  obtain ⟨s, ⟨n, hn, hrun⟩, hat⟩ := h.leads (List.append_nil left).symm hleft hclose hstart
  have hend : s.At 0 ([] ++ f.tokens) [] := by
    rw [← List.append_nil left] at hat
    exact (Cutting.At.afterSpacing hleft).1 hat
  have hlength : n ≤ (gap ++ text).length := le_trans (Nat.le_add_right n _) hn
  obtain ⟨u, hu, htokens⟩ := hend.finish ((gap ++ text).length + 1 - n)
  have hfuel : (gap ++ text).length + 2 = (gap ++ text).length + 1 - n + 1 + n := by omega
  rw [tokensOf, if_pos hprintable, hfuel, hrun, hu]
  exact congrArg Except.ok htokens

end ApiShapes.Yaml
