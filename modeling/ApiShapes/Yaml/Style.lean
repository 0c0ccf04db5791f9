import ApiShapes.Yaml.Cursor
import ApiShapes.Yaml.Scalar

/-!
# Styles of written scalars

A scalar is written plain where its text alone says what it is, between single quotes where that
does not do, and between double quotes where it holds characters that need escapes or blanks next
to a line break.
-/

namespace ApiShapes.Yaml

inductive Style where
  | plain
  | single
  | double
  deriving DecidableEq

/-- The line breaks that may stand in a written scalar. -/
def isWrittenBreak (c : Char) : Bool :=
  isBreak c && c != '\r'

/-- The characters that can stand in a text without an escape. -/
def isWritable (c : Char) : Bool :=
  let n := c.toNat
  c == '\n' || (0x20 ≤ n && n ≤ 0x7E) || n == 0x85 || (0xA0 ≤ n && n ≤ 0xFFFD && n != 0xFEFF) ||
    (0x10000 ≤ n && n < 0x10FFFF && !Text.isSurrogate c)

/-- Whether one character directly after another one occurs in a text. -/
def hasAdjacent (p q : Char → Bool) : List Char → Bool
  | c :: d :: rest => (p c && q d) || hasAdjacent p q (d :: rest)
  | _ => false

def isBlank (c : Char) : Bool :=
  c == ' '

/-- Only an escape can keep a character that is not writable or blanks at the end of a line. -/
def needsEscape (s : List Char) : Bool :=
  s.any (!isWritable ·) || hasAdjacent isBlank isWrittenBreak s

/-- The characters that no plain scalar starts with. -/
def leadingIndicators : List Char :=
  "#,[]\x7b\x7d&*!|>'\"%@`".toList

/-- Whether a text starts with something that reads as a part of the notation. -/
def startsWithIndicator : List Char → Bool
  | [] => false
  | '-' :: '-' :: '-' :: _ => true
  | '.' :: '.' :: '.' :: _ => true
  | c :: rest =>
    leadingIndicators.contains c ||
      ((c == '?' || c == ':' || c == '-') && gapOrEnd rest.head?)

/-- Whether a colon before a gap or a number sign after one occurs. -/
def holdsIndicator (s : List Char) : Bool :=
  hasAdjacent (· == ':') isGap s || s.getLast? == some ':' || hasAdjacent isGap (· == '#') s

def isBlankOrBreak (c : Char) : Bool :=
  isBlank c || isWrittenBreak c

/-- Whether a text can stand without quotes. -/
def allowsPlain (s : List Char) : Bool :=
  !(needsEscape s || s.any isWrittenBreak || s.head?.any isBlankOrBreak ||
    s.getLast?.any isBlankOrBreak || startsWithIndicator s || holdsIndicator s)

/-- Lines between single quotes cannot start with blanks. -/
def allowsSingle (s : List Char) : Bool :=
  !(needsEscape s || hasAdjacent isWrittenBreak isBlank s)

/-- The style of a text; it is plain only if its form reads as a text too. -/
def textStyle (s : List Char) : Style :=
  if plainTag s = .str ∧ allowsPlain s then .plain
  else if allowsSingle s then .single
  else .double

/-- A line break and blanks up to a column. -/
def freshLine (indent : Nat) : List Char :=
  '\n' :: List.replicate indent ' '

/-- Lines are folded at the first single blank past this column. -/
def margin : Nat := 80

/-- Whether to fold at a blank: in the middle of a text, with other characters on both sides. -/
def foldsAt (folding : Bool) (column : Nat) (before : Option Char) (after : List Char) : Bool :=
  folding && margin < column && before.any (!isBlank ·) && after.head?.any (!isBlank ·)

/-- A text without line breaks, folded at blanks, from a column on. -/
def plainText (folding : Bool) (indent : Nat) (before : Option Char) (column : Nat) :
    List Char → List Char
  | [] => []
  | c :: rest =>
    if isBlank c && foldsAt folding column before rest then
      freshLine indent ++ plainText folding indent (some c) indent rest
    else c :: plainText folding indent (some c) (column + 1) rest

/-- The text between single quotes, from a column on: quotes are doubled, a line feed that starts
a group of line breaks too, and blanks folded. -/
def singleText (folding : Bool) (indent : Nat) (before : Option Char) (column : Nat) :
    List Char → List Char
  | [] => []
  | c :: rest =>
    if isWrittenBreak c then
      let doubled := if c = '\n' ∧ !before.any isWrittenBreak then ['\n', c] else [c]
      if rest.head?.any isWrittenBreak then
        doubled ++ singleText folding indent (some c) 0 rest
      else
        doubled ++ List.replicate indent ' ' ++ singleText folding indent (some c) indent rest
    else if c = '\'' then '\'' :: '\'' :: singleText folding indent (some c) (column + 2) rest
    else if isBlank c && foldsAt folding column before rest then
      freshLine indent ++ singleText folding indent (some c) indent rest
    else c :: singleText folding indent (some c) (column + 1) rest

/-- Escapes of one letter. -/
def letterEscapes : List (Char × Char) :=
  [('\x00', '0'), ('\x07', 'a'), ('\x08', 'b'), ('\t', 't'), ('\n', 'n'), ('\x0b', 'v'),
    ('\x0c', 'f'), ('\r', 'r'), ('\x1b', 'e'), ('"', '"'), ('\\', '\\'), ('\x85', 'N'),
    ('\u2028', 'L'), ('\u2029', 'P')]

def upperHex (width n : Nat) : List Char :=
  (Decimal.hexPadded width n).map Char.toUpper

/-- The escape of a character, for one that does not stand for itself between double quotes. -/
def escape? (c : Char) : Option (List Char) :=
  let n := c.toNat
  match letterEscapes.lookup c with
  | some letter => some ['\\', letter]
  | none =>
    if (0x20 ≤ n && n ≤ 0x7E) || (0xA0 ≤ n && n ≤ 0xFFFD && n != 0xFEFF) then none
    else
      let code := Text.codeOf c
      if code ≤ 0xFF then some ('\\' :: 'x' :: upperHex 2 code)
      else if code ≤ 0xFFFF then some ('\\' :: 'u' :: upperHex 4 code)
      else some ('\\' :: 'U' :: upperHex 8 code)

/-- A backslash that ends a line, and another one before a blank that starts the next. -/
def escapedBreak (indent : Nat) (after : Option Char) : List Char :=
  '\\' :: freshLine indent ++ (if after.any isBlank then ['\\'] else [])

/-- The column after an escaped line break. -/
def columnAfterBreak (indent : Nat) (after : Option Char) : Nat :=
  if after.any isBlank then indent + 1 else indent

/-- The text between double quotes, from a column on.  Past the margin lines break before a
blank and next to an escape, but not next to the quotes. -/
def doubleText (folding : Bool) (indent : Nat) (atStart afterEscape : Bool) (column : Nat) :
    List Char → List Char
  | [] => []
  | c :: rest =>
    let inside := folding && !atStart && !rest.isEmpty
    match escape? c with
    | some escape =>
      let column := column + escape.length
      if inside && margin + 1 < column then
        escape ++ escapedBreak indent rest.head? ++
          doubleText folding indent false true (columnAfterBreak indent rest.head?) rest
      else escape ++ doubleText folding indent false true column rest
    | none =>
      if inside && (isBlank c || afterEscape) && margin < column then
        escapedBreak indent (some c) ++
          c :: doubleText folding indent false false (columnAfterBreak indent (some c) + 1) rest
      else c :: doubleText folding indent false false (column + 1) rest

/-- A scalar in a style, from a column on. -/
def styledText (style : Style) (folding : Bool) (indent column : Nat) (s : List Char) :
    List Char :=
  match style with
  | .plain => plainText folding indent none column s
  | .single => '\'' :: singleText folding indent none (column + 1) s ++ ['\'']
  | .double => '"' :: doubleText folding indent true false (column + 1) s ++ ['"']

end ApiShapes.Yaml
