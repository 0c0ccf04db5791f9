/-!
# Blank characters

Which characters count as white space, and trimming a text at either end.  The class holds the
space separators, the line and paragraph separators, the ASCII controls from tab to carriage
return, and the four information separators below the space.  A zero-width space and a byte
order mark are not blank.
-/

namespace ApiShapes.Text

def isBlank (c : Char) : Bool :=
  let n := c.toNat
  (0x09 ≤ n && n ≤ 0x0D) || (0x1C ≤ n && n ≤ 0x20) || n == 0x85 || n == 0xA0 || n == 0x1680 ||
    (0x2000 ≤ n && n ≤ 0x200A) || n == 0x2028 || n == 0x2029 || n == 0x202F || n == 0x205F ||
    n == 0x3000

def trimStart (s : List Char) : List Char :=
  s.dropWhile isBlank

def trimEnd (s : List Char) : List Char :=
  (s.reverse.dropWhile isBlank).reverse

/-- Removes the blanks at both ends. -/
def trim (s : List Char) : List Char :=
  trimEnd (trimStart s)

@[simp] theorem trimStart_nil : trimStart [] = [] := rfl

@[simp] theorem trimEnd_nil : trimEnd [] = [] := rfl

@[simp] theorem trim_nil : trim [] = [] := rfl

theorem trimStart_cons (c : Char) (s : List Char) :
    trimStart (c :: s) = if isBlank c then trimStart s else c :: s := by
  by_cases h : isBlank c = true <;> simp [trimStart, h]

/-- The last character decides whether the end is trimmed further. -/
theorem trimEnd_append_singleton (s : List Char) (c : Char) :
    trimEnd (s ++ [c]) = if isBlank c then trimEnd s else s ++ [c] := by
  by_cases h : isBlank c = true <;> simp [trimEnd, h]

end ApiShapes.Text

namespace ApiShapes

/-- A string without the blanks at its ends. -/
def trimText (s : String) : String :=
  String.ofList (Text.trim s.toList)

end ApiShapes
