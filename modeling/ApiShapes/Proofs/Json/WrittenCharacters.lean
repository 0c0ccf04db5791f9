import ApiShapes.Json.Writer
import ApiShapes.Proofs.Text.BasicCharacters
import Mathlib.Tactic

/-!
# Characters of JSON texts

A JSON text consists of basic characters and of the characters of the texts in a value, except for
the controls, which are escaped.  So no line ends by a carriage return, and a file can hold the text
if it can hold the texts of the value.
-/

namespace ApiShapes

/-- The characters of a text. -/
def Value.ownCharacters : Value → List Char
  | .text s => s.toList
  | _ => []

mutual

/-- The characters of the texts in a value; of keys only those count that are texts. -/
def Value.characters : Value → List Char
  | .list items | .set items => charactersOfItems items
  | .pair first second => first.characters ++ second.characters
  | .record entries => charactersOfEntries entries
  | v => v.ownCharacters

def charactersOfItems : List Value → List Char
  | [] => []
  | v :: rest => v.characters ++ charactersOfItems rest

def charactersOfEntries : List (Value × Value) → List Char
  | [] => []
  | (key, v) :: rest => key.ownCharacters ++ v.characters ++ charactersOfEntries rest

end

namespace Json

/-- Whether a character is a control or of a class. -/
def orControl (p : Char → Bool) (c : Char) : Bool :=
  c.toNat < 0x20 || p c

variable {p : Char → Bool}

theorem all_join {separator : List Char} (h : separator.all p = true) (parts : List (List Char)) :
    (join separator parts).all p = parts.all (·.all p) := by
  fun_induction join separator parts with
  | case1 => rfl
  | case2 part => simp
  | case3 part rest hrest ih => simp [h, ih]

section Notation

variable (hp : ∀ c, isBasic c = true → p c = true)

include hp

theorem all_escapeChar (c : Char) : (escapeChar c).all p = orControl p c := by
  have hbasic : ∀ s : List Char, s.all isBasic = true → s.all p = true := fun s => all_of_basic hp
  unfold escapeChar orControl
  split_ifs with hquote hbackslash hfeed hreturn htab hback hform hcontrol
  · rw [hbasic _ (by decide), hquote, hp '"' (by decide), Bool.or_true]
  · rw [hbasic _ (by decide), hbackslash, hp '\\' (by decide), Bool.or_true]
  · rw [hbasic _ (by decide), hfeed]
    rfl
  · rw [hbasic _ (by decide), hreturn]
    rfl
  · rw [hbasic _ (by decide), htab]
    rfl
  · rw [hbasic _ (by decide), hback]
    rfl
  · rw [hbasic _ (by decide), hform]
    rfl
  · rw [hbasic _ (by simp +decide), decide_eq_true hcontrol, Bool.true_or]
  · simp [hcontrol]

theorem all_quote (s : List Char) : (quote s).all p = s.all (orControl p) := by
  have hmark : p '"' = true := hp _ (by decide)
  have hescape : (escape s).all p = s.all (orControl p) := by
    simp only [escape, List.all_flatMap, all_escapeChar hp]
  simp [quote, hmark, hescape]

/-- Texts without other characters than the basic ones hold nothing that is escaped. -/
theorem all_quote_of_basic {s : List Char} (h : s.all isBasic = true) :
    (quote s).all p = true := by
  rw [all_quote hp]
  exact all_of_basic (fun c hc => by simp [orControl, hp c hc]) h

theorem all_scalarText (v : Value) : (scalarText v).all p = v.ownCharacters.all (orControl p) := by
  have hbasic : ∀ s : List Char, s.all isBasic = true → s.all p = true := fun s => all_of_basic hp
  cases v with
  | text s => exact all_quote hp _
  | bool b => cases b <;> exact hbasic _ (by decide)
  | int n => exact hbasic _ (Decimal.all_intDigits n)
  | float x => exact hbasic _ (Decimal.all_floatText (by decide) x)
  | bytes octets => exact all_quote_of_basic hp (by simp [List.all_flatMap])
  | date d => exact all_quote_of_basic hp d.all_isoText
  | moment t => exact all_quote_of_basic hp (t.all_isoText (by decide))
  | null => exact hbasic _ (by decide)
  | list | record | set | pair => rfl

theorem all_memberName (key : Value) :
    (memberName key).all p = key.ownCharacters.all (orControl p) := by
  unfold memberName
  split
  · exact all_quote hp _
  · next htext =>
    have hown : key.ownCharacters = [] := by
      unfold Value.ownCharacters
      split
      · exact absurd rfl (htext _)
      · rfl
    have hbasic : (scalarText key).all isBasic = true := by
      rw [all_scalarText fun _ h => h, hown]
      rfl
    rw [all_quote_of_basic hp hbasic, hown]
    rfl

theorem all_newline (level : Nat) : (newline level).all p = true :=
  all_of_basic hp (by simp +decide [newline])

theorem all_bracketed (level : Nat) {opening closing : Char} (hopening : isBasic opening = true)
    (hclosing : isBasic closing = true) (parts : List (List Char)) :
    (bracketed level opening closing parts).all p = parts.all (·.all p) := by
  have hcomma : p ',' = true := hp _ (by decide)
  have hseparator : (',' :: newline (level + 1)).all p = true := by
    simp [hcomma, all_newline hp]
  unfold bracketed
  split
  · simp_all
  · simp [hp _ hopening, hp _ hclosing, all_newline hp, all_join hseparator]

end Notation

mutual

theorem all_indented (hp : ∀ c, isBasic c = true → p c = true) (level : Nat) :
    (v : Value) → (indented level v).all p = v.characters.all (orControl p)
  | .list items => by
    rw [indented, all_bracketed hp level (by decide) (by decide), Value.characters]
    exact all_indentedItems hp (level + 1) items
  | .set items => by
    rw [indented, all_bracketed hp level (by decide) (by decide), Value.characters]
    exact all_indentedItems hp (level + 1) items
  | .pair first second => by
    rw [indented, all_bracketed hp level (by decide) (by decide), Value.characters]
    simp [all_indented hp (level + 1) first, all_indented hp (level + 1) second]
  | .record entries => by
    rw [indented, all_bracketed hp level (by decide) (by decide), Value.characters]
    exact all_indentedMembers hp (level + 1) entries
  | .null => all_scalarText hp .null
  | .bool b => all_scalarText hp (.bool b)
  | .int n => all_scalarText hp (.int n)
  | .float x => all_scalarText hp (.float x)
  | .text s => all_scalarText hp (.text s)
  | .bytes octets => all_scalarText hp (.bytes octets)
  | .date d => all_scalarText hp (.date d)
  | .moment t => all_scalarText hp (.moment t)

theorem all_indentedItems (hp : ∀ c, isBasic c = true → p c = true) (level : Nat) :
    (items : List Value) →
      (indentedItems level items).all (·.all p) = (charactersOfItems items).all (orControl p)
  | [] => rfl
  | v :: rest => by
    rw [indentedItems, List.all_cons, all_indented hp level v, all_indentedItems hp level rest,
      charactersOfItems, List.all_append]

theorem all_indentedMembers (hp : ∀ c, isBasic c = true → p c = true) (level : Nat) :
    (entries : List (Value × Value)) →
      (indentedMembers level entries).all (·.all p) =
        (charactersOfEntries entries).all (orControl p)
  | [] => rfl
  | (key, v) :: rest => by
    have hmark : p ':' = true ∧ p ' ' = true := ⟨hp _ (by decide), hp _ (by decide)⟩
    rw [indentedMembers, List.all_cons, all_indentedMembers hp level rest, charactersOfEntries]
    simp [all_memberName hp, all_indented hp level v, hmark, Bool.and_assoc]

end

end Json

end ApiShapes
