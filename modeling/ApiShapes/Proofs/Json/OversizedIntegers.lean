import ApiShapes.Json.Reader
import Mathlib.Data.List.TakeWhile
import Mathlib.Tactic

/-!
# Integers that are too long

Besides texts that depart from the grammar only one thing stops a reader: an integer with more
digits than are read.  Its digits then stand in the text one after the other.
-/

namespace ApiShapes.Json

variable {α β : Type} {text s : List Char}

/-- Somewhere in a text `n` digits follow one another, more than are read as an integer. -/
def HasLongRun (text : List Char) (n : Nat) : Prop :=
  digitLimit < n ∧ ∃ run, run <:+: text ∧ run.length = n ∧ ∀ c ∈ run, Decimal.isDigit c = true

/-- A reader that works on a part of a text leaves a suffix of it, and an integer that is too long
for it stands in the text. -/
def Within (text : List Char) : Except Obstacle (α × List Char) → Prop
  | .ok (_, left) => left <:+ text
  | .error (.oversized n) => HasLongRun text n
  | .error (.malformed _ _) => True

theorem Within.map {r : Except Obstacle (α × List Char)} {f : α × List Char → β × List Char}
    (h : Within text r) (hf : ∀ found, (f found).2 = found.2) : Within text (r.map f) := by
  cases r with
  | ok found =>
      change (f found).2 <:+ text
      rw [hf]
      exact h
  | error obstacle => cases obstacle <;> exact h

/-- An obstacle that a reader meets is passed on. -/
theorem Within.error {r : Except Obstacle (α × List Char)} {obstacle : Obstacle}
    (h : Within text r) (heq : r = .error obstacle) :
    Within text (.error obstacle : Except Obstacle (β × List Char)) := by
  subst heq
  cases obstacle <;> exact h

theorem suffix_of_cons {c : Char} (h : c :: s <:+ text) : s <:+ text :=
  (List.suffix_cons c s).trans h

theorem skipSpace_suffix (h : s <:+ text) : skipSpace s <:+ text :=
  (List.dropWhile_suffix _).trans h

theorem readCodes_within (h : s <:+ text) : Within text (readCodes s) := by
  fun_induction readCodes s with
  | case1 | case3 | case5 | case6 | case7 | case9 => exact True.intro
  | case2 rest => exact suffix_of_cons h
  | case4 a b c d e rest n hdigits ih =>
      have hrest : e :: rest <:+ text := (List.suffix_append ['\\', 'u', a, b, c, d] _).trans h
      exact (ih hrest).map fun _ => rfl
  | case8 c rest _ _ d hletter ih =>
      exact (ih (suffix_of_cons (suffix_of_cons h))).map fun _ => rfl
  | case10 c rest _ _ _ _ _ hcontrol ih => exact (ih (suffix_of_cons h)).map fun _ => rfl

theorem readString_within (h : s <:+ text) : Within text (readString s) := by
  have hcodes := readCodes_within h
  unfold readString
  split
  · next codes left heq => rwa [heq] at hcodes
  · exact True.intro
  · next heq => exact hcodes.error heq

theorem takeInteger_eq_some {whole rest : List Char} (h : takeInteger s = some (whole, rest)) :
    s = whole ++ rest ∧ ∀ c ∈ whole, Decimal.isDigit c = true := by
  unfold takeInteger at h
  split at h
  · cases h
    simp [Decimal.isDigit]
  · dsimp only at h
    split at h
    · cases h
    · cases h
      exact ⟨(List.takeWhile_append_dropWhile).symm, fun c hc => List.mem_takeWhile_imp hc⟩

theorem takeFraction_suffix (h : s <:+ text) : (takeFraction s).2 <:+ text := by
  fun_cases takeFraction s with
  | case1 rest ds hempty => exact h
  | case2 rest ds hdigits => exact (List.dropWhile_suffix _).trans (suffix_of_cons h)
  | case3 => exact h

theorem takeSign_suffix (h : s <:+ text) : (Decimal.takeSign s).2 <:+ text := by
  fun_cases Decimal.takeSign s with
  | case1 rest => exact suffix_of_cons h
  | case2 rest => exact suffix_of_cons h
  | case3 => exact h

theorem takeExponent_suffix (h : s <:+ text) : (takeExponent s).2 <:+ text := by
  fun_cases takeExponent s with
  | case1 e rest hletter negative ds hsign n hdigits =>
      have hafter := takeSign_suffix (suffix_of_cons h)
      rw [hsign] at hafter
      exact (List.dropWhile_suffix _).trans hafter
  | case2 | case3 | case4 => exact h

theorem readNumber_within (h : s <:+ text) : Within text (readNumber s) := by
  unfold readNumber
  split
  next negative body hsign =>
  have hbody : body <:+ text := by
    split at hsign
    · cases hsign
      exact suffix_of_cons h
    · cases hsign
      exact h
  split
  · exact True.intro
  · next whole rest hwhole =>
    obtain ⟨rfl, hdigits⟩ := takeInteger_eq_some hwhole
    have hrest : rest <:+ text := (List.suffix_append whole rest).trans hbody
    have hleft := takeExponent_suffix (takeFraction_suffix hrest)
    dsimp only
    split
    · split
      · next hlong =>
        exact ⟨hlong, whole, (List.prefix_append whole rest).isInfix.trans hbody.isInfix, rfl, hdigits⟩
      · exact hleft
    · exact hleft

theorem suffix_of_afterWord? {word : String} {left : List Char} (h : afterWord? word s = some left) :
    left <:+ s := by
  unfold afterWord? at h
  split at h
  · cases h
    exact List.drop_suffix _ _
  · cases h

theorem readScalar_within (h : s <:+ text) : Within text (readScalar s) := by
  unfold readScalar
  split
  · exact (readString_within (suffix_of_cons h)).map fun _ => rfl
  · split
    · next v left hfound =>
      obtain ⟨word, -, hword⟩ := List.exists_of_findSome?_eq_some hfound
      obtain ⟨rest, hrest, heq⟩ := Option.map_eq_some_iff.1 hword
      cases heq
      exact (suffix_of_afterWord? hrest).trans h
    · exact readNumber_within h

/-- The readers of values and of what is inside brackets stay within the text. -/
structure ReadersWithin (text : List Char) (fuel : Nat) : Prop where
  value : ∀ s, s <:+ text → Within text (readValue fuel s)
  items : ∀ s, s <:+ text → Within text (readItems fuel s)
  members : ∀ s, s <:+ text → Within text (readMembers fuel s)

theorem readersWithin (text : List Char) (fuel : Nat) : ReadersWithin text fuel := by
  induction fuel with
  | zero => exact ⟨fun _ _ => True.intro, fun _ _ => True.intro, fun _ _ => True.intro⟩
  | succ fuel ih =>
      refine ⟨fun s h => ?value, fun s h => ?items, fun s h => ?members⟩
      case value =>
        unfold readValue
        split
        · next heq => cases heq
        · next n rest hfuel =>
          cases hfuel
          have hrest := skipSpace_suffix (suffix_of_cons h)
          split
          · next left heq => exact suffix_of_cons (heq ▸ hrest)
          · exact (ih.items _ hrest).map fun _ => rfl
        · next n rest hfuel =>
          cases hfuel
          have hrest := skipSpace_suffix (suffix_of_cons h)
          split
          · next left heq => exact suffix_of_cons (heq ▸ hrest)
          · exact (ih.members _ hrest).map fun _ => rfl
        · exact readScalar_within h
      case items =>
        have hvalue := ih.value s h
        rw [readItems]
        split
        · next heq => exact hvalue.error heq
        · next item rest heq =>
          rw [heq] at hvalue
          have hrest := skipSpace_suffix hvalue
          split
          · next left heq => exact suffix_of_cons (heq ▸ hrest)
          · next more heq =>
            exact (ih.items _ (skipSpace_suffix (suffix_of_cons (heq ▸ hrest)))).map fun _ => rfl
          · exact True.intro
      case members =>
        unfold readMembers
        split
        · next heq => cases heq
        · next n rest hfuel =>
          cases hfuel
          have hname := readString_within (suffix_of_cons h)
          split
          · next heq => exact hname.error heq
          · next name afterName heq =>
            rw [heq] at hname
            have hcolon := skipSpace_suffix hname
            split
            · next afterColon heq =>
              have hvalue := ih.value _ (skipSpace_suffix (suffix_of_cons (heq ▸ hcolon)))
              split
              · next heq => exact hvalue.error heq
              · next value afterValue heq =>
                rw [heq] at hvalue
                have hleft := skipSpace_suffix hvalue
                dsimp only
                split
                · next left heq => exact suffix_of_cons (heq ▸ hleft)
                · next more heq =>
                  have hmore := skipSpace_suffix (suffix_of_cons (heq ▸ hleft))
                  exact (ih.members _ hmore).map fun _ => rfl
                · exact True.intro
            · exact True.intro
        · exact True.intro

/-- Reading a text fails by its syntax or on an integer with more digits than are read. -/
theorem hasLongRun_of_read {text : String} {n : Nat} (h : read text = .error (.oversized n)) :
    HasLongRun text.toList n := by
  have hvalue := (readersWithin text.toList (2 * text.toList.length + 2)).value
    (skipSpace text.toList) (skipSpace_suffix List.suffix_rfl)
  unfold read readText at h
  split at h
  · cases h
  · split at h
    · next obstacle heq =>
      cases obstacle with
      | malformed problem left => cases h
      | oversized digits =>
          cases h
          rwa [heq] at hvalue
    · split at h <;> cases h

end ApiShapes.Json
