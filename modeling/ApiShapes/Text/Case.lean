import ApiShapes.Text.CaseTable

/-!
# Capital and small letters

The full case mappings of texts.  A character may have a capital form of several characters, and
the small form of a capital sigma depends on whether it ends a word.
-/

namespace ApiShapes.Text

/-- The counterpart of a character in tables of single and multiple forms. -/
def mapCase (many : List (Nat × List Nat)) (single : List CaseShift) (c : Char) : List Char :=
  match many.lookup c.toNat with
  | some codes => codes.map Char.ofNat
  | none =>
    match single.find? (·.range.contains c.toNat) with
    | some entry => [Char.ofNat (c.toNat + entry.shift).toNat]
    | none => [c]

/-- The capital form of one character. -/
def capital (c : Char) : List Char :=
  mapCase CaseTable.toUpperMany CaseTable.toUpper c

/-- The small form of one character that stands alone. -/
def small (c : Char) : List Char :=
  mapCase CaseTable.toLowerMany CaseTable.toLower c

/-- Whether the nearest character that is not case-ignorable is a letter with a case. -/
def facesCased (s : List Char) : Bool :=
  match s.dropWhile (inRanges CaseTable.caseIgnorable) with
  | [] => false
  | c :: _ => inRanges CaseTable.cased c

/-- A capital sigma takes its final form after a cased letter unless another one follows. -/
def smallSigma (before after : List Char) : Char :=
  if facesCased before && !facesCased after then 'ς' else 'σ'

/-- The small form of a text; `before` holds the characters already passed, nearest first. -/
def lowerFrom (before : List Char) : List Char → List Char
  | [] => []
  | c :: rest =>
    (if c = 'Σ' then [smallSigma before rest] else small c) ++ lowerFrom (c :: before) rest

def lower (s : List Char) : List Char :=
  lowerFrom [] s

/-- The capital form of a text. -/
def upper (s : List Char) : List Char :=
  s.flatMap capital

end ApiShapes.Text
