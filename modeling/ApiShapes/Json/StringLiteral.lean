import ApiShapes.Json.Fault
import ApiShapes.Text.Surrogate

/-!
# JSON string literals

Writing a text between double quotes and reading it back.  Only quotes, backslashes and the
controls below the space are escaped on writing; reading also knows the escapes of other
characters by their code, two surrogates together standing for one character.
-/

namespace ApiShapes.Json

/-- How one character stands between quotes. -/
def escapeChar (c : Char) : List Char :=
  if c = '"' then ['\\', '"']
  else if c = '\\' then ['\\', '\\']
  else if c = '\n' then ['\\', 'n']
  else if c = '\r' then ['\\', 'r']
  else if c = '\t' then ['\\', 't']
  else if c = '\x08' then ['\\', 'b']
  else if c = '\x0c' then ['\\', 'f']
  else if c.toNat < 0x20 then '\\' :: 'u' :: Decimal.hexPadded 4 c.toNat
  else [c]

def escape (s : List Char) : List Char :=
  s.flatMap escapeChar

/-- The literal of a text. -/
def quote (s : List Char) : List Char :=
  '"' :: escape s ++ ['"']

/-- What an escape of one letter stands for. -/
def unescapeChar? : Char → Option Char
  | '"' => some '"'
  | '\\' => some '\\'
  | '/' => some '/'
  | 'b' => some '\x08'
  | 'f' => some '\x0c'
  | 'n' => some '\n'
  | 'r' => some '\r'
  | 't' => some '\t'
  | _ => none

def hexDigits? (ds : List Char) : Option Nat :=
  Decimal.ofDigits? 16 ds

/-- The codes in a literal, up to its closing quote, and the text after it.  The text starts
after the opening quote. -/
def readCodes : List Char → Except Obstacle (List Nat × List Char)
  | [] => .error (.malformed .unterminatedString [])
  | '"' :: rest => .ok ([], rest)
  | '\\' :: 'u' :: a :: b :: c :: d :: e :: rest =>
    match hexDigits? [a, b, c, d] with
    | none => .error (.malformed .unicodeEscape ('u' :: a :: b :: c :: d :: e :: rest))
    | some n => (readCodes (e :: rest)).map fun (codes, left) => (n :: codes, left)
  | '\\' :: 'u' :: rest => .error (.malformed .unicodeEscape ('u' :: rest))
  | ['\\'] => .error (.malformed .unterminatedString [])
  | '\\' :: c :: rest =>
    match unescapeChar? c with
    | none => .error (.malformed .escapeSequence ('\\' :: c :: rest))
    | some d => (readCodes rest).map fun (codes, left) => (d.toNat :: codes, left)
  | c :: rest =>
    if c.toNat < 0x20 then .error (.malformed .controlCharacter (c :: rest))
    else (readCodes rest).map fun (codes, left) => (c.toNat :: codes, left)

open Text in
/-- The characters of a list of codes, two surrogates joined into one character. -/
def charsOfCodes : List Nat → List Char
  | high :: low :: rest =>
    if isHighSurrogate high && isLowSurrogate low then
      Char.ofNat (0x10000 + (high - 0xD800) * 0x400 + (low - 0xDC00)) :: charsOfCodes rest
    else charOfCode high :: charsOfCodes (low :: rest)
  | [n] => [charOfCode n]
  | [] => []

/-- Reads a literal after its opening quote.  A literal without an end is at fault where it
starts. -/
def readString (s : List Char) : Except Obstacle (List Char × List Char) :=
  match readCodes s with
  | .ok (codes, left) => .ok (charsOfCodes codes, left)
  | .error (.malformed .unterminatedString _) =>
    .error (.malformed .unterminatedString ('"' :: s))
  | .error fault => .error fault

end ApiShapes.Json
