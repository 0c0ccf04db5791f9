import ApiShapes.Text.Blank

/-!
# Lines of a text

A text is cut after every line boundary; the boundary itself belongs to no line, a carriage
return followed by a line feed is one boundary, and a boundary at the very end opens no further
line.
-/

namespace ApiShapes.Text

/-- The characters that end a line: the vertical controls, the three upper information
separators, the next-line control and the two Unicode separators. -/
def isLineBoundary (c : Char) : Bool :=
  let n := c.toNat
  (0x0A ≤ n && n ≤ 0x0D) || (0x1C ≤ n && n ≤ 0x1E) || n == 0x85 || n == 0x2028 || n == 0x2029

/-- Puts a character in front of the first line. -/
def consLine (c : Char) : List (List Char) → List (List Char)
  | [] => [[c]]
  | line :: rest => (c :: line) :: rest

def lines : List Char → List (List Char)
  | [] => []
  | '\r' :: '\n' :: rest => [] :: lines rest
  | c :: rest => if isLineBoundary c then [] :: lines rest else consLine c (lines rest)

/-- The lines without surrounding blanks, those that are empty left out. -/
def trimmedLines (s : List Char) : List (List Char) :=
  ((lines s).map trim).filter (!·.isEmpty)

@[simp] theorem lines_nil : lines [] = [] := rfl

theorem lines_cons_of_not_boundary {c : Char} (h : isLineBoundary c = false) (s : List Char) :
    lines (c :: s) = consLine c (lines s) := by
  have hr : c ≠ '\r' := by
    rintro rfl
    exact absurd h (by decide)
  rw [lines]
  · simp [h]
  · rintro rest rfl
    exact absurd rfl hr

/-- A text without line boundaries is one line. -/
theorem lines_of_no_boundary {s : List Char} (hs : s ≠ [])
    (h : ∀ c ∈ s, isLineBoundary c = false) : lines s = [s] := by
  induction s with
  | nil => exact absurd rfl hs
  | cons c r ih =>
    rw [lines_cons_of_not_boundary (h c (by simp))]
    cases r with
    | nil => rfl
    | cons d r =>
      rw [ih (by simp) fun x hx => h x (by simp [hx])]
      rfl

end ApiShapes.Text
