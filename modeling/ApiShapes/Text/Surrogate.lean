import ApiShapes.Decimal.Digits

/-!
# Lone surrogates

The codes from U+D800 to U+DFFF name no characters: a high one and a low one together encode a
character beyond the first plane.  An escape in a document can name one of them alone; texts keep
such a code, but no file can hold it.  In a text it is held as the character thirteen planes further
on, where no characters are assigned.
-/

namespace ApiShapes.Text

def isHighSurrogate (code : Nat) : Bool :=
  0xD800 ≤ code && code < 0xDC00

def isLowSurrogate (code : Nat) : Bool :=
  0xDC00 ≤ code && code < 0xE000

/-- The character of a code, or the one that stands for a lone surrogate. -/
def charOfCode (code : Nat) : Char :=
  if isHighSurrogate code || isLowSurrogate code then Char.ofNat (code + 0xD0000)
  else Char.ofNat code

/-- Whether a character stands for a lone surrogate. -/
def isSurrogate (c : Char) : Bool :=
  0xDD800 ≤ c.toNat && c.toNat < 0xDE000

/-- The code of a character, or of the lone surrogate that it stands for. -/
def codeOf (c : Char) : Nat :=
  if isSurrogate c then c.toNat - 0xD0000 else c.toNat

/-- The escape of a lone surrogate. -/
def surrogateEscape (c : Char) : List Char :=
  '\\' :: 'u' :: Decimal.hexPadded 4 (codeOf c)

/-- A text with its lone surrogates escaped. -/
def escapeSurrogates (s : List Char) : List Char :=
  s.flatMap fun c => if isSurrogate c then surrogateEscape c else [c]

/-- Whether a file can hold a text. -/
def isEncodable (s : List Char) : Bool :=
  !s.any isSurrogate

/-- The complaint about a text that no file can hold: the first lone surrogate, or the places of the
first ones if several stand together. -/
def unencodableMessage (s : List Char) : String :=
  let number (n : Nat) := String.ofList (Decimal.digits n)
  let first := (s.takeWhile (!isSurrogate ·)).length
  let lone := (s.drop first).takeWhile isSurrogate
  let place :=
    match lone with
    | [c] => " '" ++ String.ofList (surrogateEscape c) ++ "' in position " ++ number first
    | _ => "s in position " ++ number first ++ "-" ++ number (first + lone.length - 1)
  "'utf-8' codec can't encode character" ++ place ++ ": surrogates not allowed"

end ApiShapes.Text
