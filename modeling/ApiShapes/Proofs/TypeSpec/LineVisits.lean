import ApiShapes.TypeSpec.Statement
import Mathlib.Tactic

/-!
# Visits of lines

The statements of a source are those of a loop over the indices of its lines.  The loop goes on
behind the line that it visits, and behind a whole service block if the line starts one.  A block
ends within the lines even if no line closes it, so each visit brings the loop closer to its end,
and each line belongs to the block of exactly one visit.
-/

namespace ApiShapes.TypeSpec

/-! ## The end of a service block -/

/-- How many lines stand before the one that ends a service block; all of them if none does. -/
def linesBeforeEnd (depth : Int) : List (List Char) → Nat
  | [] => 0
  | line :: rest =>
    if endsService (depth + parenthesisExcess line) line then 0
    else linesBeforeEnd (depth + parenthesisExcess line) rest + 1

/-- The index of the last line of the service block that starts at an index. -/
def serviceEnd (ls : List (List Char)) (start : Nat) : Nat :=
  min (start + linesBeforeEnd 0 (ls.drop start)) (ls.length - 1)

theorem serviceEnd_within {ls : List (List Char)} {start : Nat} (h : start < ls.length) :
    start ≤ serviceEnd ls start ∧ serviceEnd ls start < ls.length := by
  unfold serviceEnd
  omega

theorem serviceFrom_eq (content : List Char) (depth : Int) (ls : List (List Char)) :
    serviceFrom content depth ls =
      serviceStatement (content ++ (ls.take (linesBeforeEnd depth ls + 1)).flatten) ::
        statements (ls.drop (linesBeforeEnd depth ls + 1)) := by
  induction ls generalizing content depth with
  | nil => simp [serviceFrom, statements]
  | cons line rest ih =>
      rw [serviceFrom, linesBeforeEnd]
      by_cases hends : endsService (depth + parenthesisExcess line) line = true
      · simp [hends]
      · simp only [hends, Bool.false_eq_true, if_false]
        rw [ih, List.take_succ_cons, List.drop_succ_cons, List.flatten_cons, List.append_assoc]

/-- A service block takes its lines up to the one that ends it. -/
theorem statements_of_service {line : List Char} (h : isServiceStart line = true)
    (rest : List (List Char)) :
    statements (line :: rest) =
      serviceStatement ((line :: rest).take (linesBeforeEnd 0 (line :: rest) + 1)).flatten ::
        statements ((line :: rest).drop (linesBeforeEnd 0 (line :: rest) + 1)) := by
  rw [statements, if_pos h, linesBeforeEnd, zero_add]
  by_cases hends : endsService (parenthesisExcess line) line = true
  · simp [hends]
  · simp only [hends, Bool.false_eq_true, if_false]
    rw [serviceFrom_eq, List.take_succ_cons, List.drop_succ_cons, List.flatten_cons]

/-! ## One visit -/

section

variable (ls : List (List Char)) (i : Nat)

def startsService : Bool :=
  ls[i]?.any isServiceStart

/-- The index that is visited after an index. -/
def nextVisit : Nat :=
  if startsService ls i then serviceEnd ls i + 1 else i + 1

/-- The lines that a visit takes. -/
def blockAt : List (List Char) :=
  (ls.drop i).take (nextVisit ls i - i)

/-- What the lines of a visit declare. -/
def statementAt : Statement :=
  let text := (blockAt ls i).flatten
  if startsService ls i then serviceStatement text else ⟨text, meaningOf text⟩

end

section

variable {ls : List (List Char)} {i : Nat}

/-- A visit goes forward and not beyond the end. -/
theorem nextVisit_within (h : i < ls.length) : i < nextVisit ls i ∧ nextVisit ls i ≤ ls.length := by
  have hend := serviceEnd_within h
  unfold nextVisit
  split <;> omega

theorem statements_drop (h : i < ls.length) :
    statements (ls.drop i) = statementAt ls i :: statements (ls.drop (nextVisit ls i)) := by
  have hline : ls[i]? = some ls[i] := List.getElem?_eq_getElem h
  have hdrop : ls.drop i = ls[i] :: ls.drop (i + 1) := List.drop_eq_getElem_cons h
  by_cases hservice : isServiceStart ls[i] = true
  · have hstarts : startsService ls i = true := by
      rw [startsService, hline, Option.any_some, hservice]
    have hnext : nextVisit ls i = serviceEnd ls i + 1 := by
      rw [nextVisit, if_pos hstarts]
    -- A block that is not closed takes what is left, which is as much as there is to take.
    have hlength : (ls.drop i).length = ls.length - i := List.length_drop
    have htake : (ls.drop i).take (linesBeforeEnd 0 (ls.drop i) + 1) = blockAt ls i := by
      rw [blockAt, hnext, serviceEnd]
      rw [List.take_eq_take_iff, hlength]
      omega
    have hrest : (ls.drop i).drop (linesBeforeEnd 0 (ls.drop i) + 1) =
        ls.drop (nextVisit ls i) := by
      rw [List.drop_drop, List.drop_eq_drop_iff, hnext, serviceEnd]
      omega
    have hstatement : statementAt ls i = serviceStatement (blockAt ls i).flatten := by
      rw [statementAt, if_pos hstarts]
    have hstatements := statements_of_service hservice (ls.drop (i + 1))
    rw [← hdrop, htake, hrest] at hstatements
    rw [hstatements, hstatement]
  · have hstarts : startsService ls i = false := by
      rw [startsService, hline, Option.any_some]
      simpa using hservice
    have hnext : nextVisit ls i = i + 1 := by
      rw [nextVisit, hstarts, if_neg (by simp)]
    have hblock : blockAt ls i = [ls[i]] := by
      rw [blockAt, hnext, Nat.add_sub_cancel_left, hdrop]
      rfl
    have hstatement : statementAt ls i = ⟨ls[i], meaningOf ls[i]⟩ := by
      rw [statementAt, hstarts, hblock]
      simp
    rw [hstatement, hnext, hdrop, statements, if_neg hservice]

end

/-! ## All visits -/

/-- The indices that the loop visits from an index on. -/
def visits (ls : List (List Char)) (i : Nat) : List Nat :=
  if _h : i < ls.length then i :: visits ls (nextVisit ls i) else []
termination_by ls.length - i
decreasing_by
  have hnext := nextVisit_within ‹i < ls.length›
  omega

theorem visits_of_lt {ls : List (List Char)} {i : Nat} (h : i < ls.length) :
    visits ls i = i :: visits ls (nextVisit ls i) := by
  rw [visits, dif_pos h]

theorem visits_of_ge {ls : List (List Char)} {i : Nat} (h : ls.length ≤ i) : visits ls i = [] := by
  rw [visits, dif_neg (by omega)]

variable (ls : List (List Char)) (i : Nat)

/-- The visits go through the lines in their order and stay within them. -/
theorem visits_ordered :
    (visits ls i).Pairwise (· < ·) ∧ ∀ j ∈ visits ls i, i ≤ j ∧ j < ls.length := by
  induction i using visits.induct ls with
  | case1 i h ih =>
      obtain ⟨hpairwise, hbounds⟩ := ih
      have hnext := nextVisit_within h
      rw [visits_of_lt h]
      constructor
      · rw [List.pairwise_cons]
        refine ⟨?_, hpairwise⟩
        intro j hj
        exact hnext.1.trans_le (hbounds j hj).1
      · intro j hj
        rcases List.mem_cons.1 hj with heq | hj
        · omega
        · have hj := hbounds j hj
          omega
  | case2 i h =>
      rw [visits_of_ge (by omega)]
      simp

/-- The statements of a source are those of the visits. -/
theorem statements_eq_visits : statements (ls.drop i) = (visits ls i).map (statementAt ls) := by
  induction i using visits.induct ls with
  | case1 i h ih => rw [visits_of_lt h, statements_drop h, ih, List.map_cons]
  | case2 i h =>
      rw [visits_of_ge (by omega), List.drop_eq_nil_of_le (by omega), statements, List.map_nil]

/-- Each line is taken by one visit. -/
theorem flatMap_blockAt : (visits ls i).flatMap (blockAt ls) = ls.drop i := by
  induction i using visits.induct ls with
  | case1 i h ih =>
      have hnext := nextVisit_within h
      have hsplit : ls.drop (nextVisit ls i) = (ls.drop i).drop (nextVisit ls i - i) := by
        rw [List.drop_drop]
        congr 1
        omega
      rw [visits_of_lt h, List.flatMap_cons, ih, hsplit, blockAt, List.take_append_drop]
  | case2 i h => rw [visits_of_ge (by omega), List.drop_eq_nil_of_le (by omega), List.flatMap_nil]

end ApiShapes.TypeSpec
