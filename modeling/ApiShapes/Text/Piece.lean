import ApiShapes.Text.ClassTable
import ApiShapes.Text.Surrogate

/-!
# Pieces of a text

Leading and trailing pieces, the text before and after a piece in the middle, and texts quoted in
messages.  A quoted text stands between single quotes, or between double quotes if it holds a single
quote but no double one; backslashes, the quote and characters that do not show are escaped.
-/

namespace ApiShapes.Text

/-- The text after a leading piece. -/
def afterPrefix? (piece s : List Char) : Option (List Char) :=
  if piece.isPrefixOf s then some (s.drop piece.length) else none

/-- The text before a trailing piece. -/
def beforeSuffix? (piece s : List Char) : Option (List Char) :=
  (afterPrefix? piece.reverse s.reverse).map List.reverse

def startsWith (piece s : List Char) : Bool :=
  piece.isPrefixOf s

/-- The text before and after the first occurrence of a piece. -/
def cut? (piece : List Char) : List Char → Option (List Char × List Char)
  | [] => if piece.isEmpty then some ([], []) else none
  | c :: rest =>
    match afterPrefix? piece (c :: rest) with
    | some after => some ([], after)
    | none => (cut? piece rest).map fun (before, after) => (c :: before, after)

/-- The text before the last occurrence of a piece. -/
def beforeLast? (piece : List Char) : List Char → Option (List Char)
  | [] => if piece.isEmpty then some [] else none
  | c :: rest =>
    match beforeLast? piece rest with
    | some before => some (c :: before)
    | none => if startsWith piece (c :: rest) then some [] else none

/-- The pieces between the occurrences of one character. -/
def splitAt (separator : Char) : List Char → List (List Char)
  | [] => [[]]
  | c :: rest =>
    if c = separator then [] :: splitAt separator rest
    else
      match splitAt separator rest with
      | [] => [[c]]
      | piece :: pieces => (c :: piece) :: pieces

/-- The text without any copies of a character at its ends. -/
def stripChar (c : Char) (s : List Char) : List Char :=
  ((s.dropWhile (· == c)).reverse.dropWhile (· == c)).reverse

theorem afterPrefix?_append (piece s : List Char) : afterPrefix? piece (piece ++ s) = some s := by
  simp [afterPrefix?]

theorem eq_append_of_afterPrefix? {piece s rest : List Char}
    (h : afterPrefix? piece s = some rest) : s = piece ++ rest := by
  unfold afterPrefix? at h
  split at h
  · next hp =>
    obtain ⟨t, rfl⟩ := List.isPrefixOf_iff_prefix.1 hp
    simp_all
  · simp at h

/-- How a character stands between quotes. -/
def quotedChar (quote c : Char) : List Char :=
  let n := codeOf c
  if c = '\\' ∨ c = quote then ['\\', c]
  else if c = '\n' then ['\\', 'n']
  else if c = '\r' then ['\\', 'r']
  else if c = '\t' then ['\\', 't']
  else if isInvisible c then
    if n ≤ 0xFF then '\\' :: 'x' :: Decimal.hexPadded 2 n
    else if n ≤ 0xFFFF then '\\' :: 'u' :: Decimal.hexPadded 4 n
    else '\\' :: 'U' :: Decimal.hexPadded 8 n
  else [c]

end ApiShapes.Text

namespace ApiShapes

/-- A text between quotes. -/
def quoted (s : String) : String :=
  let chars := s.toList
  let quote := if chars.contains '\'' && !chars.contains '"' then '"' else '\''
  String.ofList (quote :: chars.flatMap (Text.quotedChar quote) ++ [quote])

end ApiShapes
