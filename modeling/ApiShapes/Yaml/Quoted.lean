import ApiShapes.Yaml.Cursor
import ApiShapes.Yaml.Fault

/-!
# Reading quoted scalars

A single-quoted scalar has one escape, the doubled quote; a double-quoted one has escapes after a
backslash.  Line breaks inside fold: a single break reads as a blank, further ones as themselves.
Loops are bounded by the length of the text.
-/

namespace ApiShapes.Yaml

/-- The escapes of one character. -/
def shortEscapes : List (Char × Char) :=
  [('0', '\x00'), ('a', '\x07'), ('b', '\x08'), ('t', '\t'), ('\t', '\t'), ('n', '\n'),
    ('v', '\x0b'), ('f', '\x0c'), ('r', '\r'), ('e', '\x1b'), (' ', ' '), ('"', '"'),
    ('\\', '\\'), ('/', '/'), ('N', '\x85'), ('_', '\xa0'), ('L', '\u2028'), ('P', '\u2029')]

/-- The number of hexadecimal digits after the escapes that give a code point. -/
def codeEscapes : List (Char × Nat) :=
  [('x', 2), ('u', 4), ('U', 8)]

/-- Line breaks with the blanks around them, up to the next text.  No document may start or end
inside. -/
def foldedBreaks : Nat → Cursor → Except Fault (List Char × Cursor)
  | 0, c => .ok ([], c)
  | fuel + 1, c =>
    if c.atDocumentMark then .error (.malformed .quotedScalar)
    else
      let c := c.skipWhile fun ch => ch == ' ' || ch == '\t'
      match c.lineBreak with
      | ([], c) => .ok ([], c)
      | (br, c) => (foldedBreaks fuel c).map fun (more, c) => (br ++ more, c)

/-- What a line break and the breaks after it fold to. -/
def foldBreak (br more : List Char) : List Char :=
  if br != ['\n'] then br ++ more
  else if more.isEmpty then [' ']
  else more

/-- The gap between two words of a quoted scalar. -/
def quotedGap (c : Cursor) : Except Fault (List Char × Cursor) :=
  let (blanks, c) := c.span fun ch => ch == ' ' || ch == '\t'
  match c.peek with
  | none => .error (.malformed .quotedScalar)
  | some _ =>
    match c.lineBreak with
    | ([], c) => .ok (blanks, c)
    | (br, c) => (foldedBreaks (c.rest.length + 1) c).map fun (more, c) => (foldBreak br more, c)

/-- The character of a code point given in hexadecimal digits. -/
def codeEscape (width : Nat) (c : Cursor) : Except Fault (List Char × Cursor) :=
  let digits := c.rest.take width
  if digits.length < width then .error (.malformed .escape)
  else
    match Decimal.ofDigits? 16 digits with
    | none => .error (.malformed .escape)
    | some n =>
      if 0x7FFFFFFF < n then .error (.misfit .hugeCodePoint)
      else if 0x10FFFF < n then .error (.misfit .codePoint)
      else .ok ([Text.charOfCode n], c.skip width)

/-- What stands after a backslash. -/
def escapeSequence (c : Cursor) : Except Fault (List Char × Cursor) :=
  match c.peek with
  | none => .error (.malformed .escape)
  | some ch =>
    match shortEscapes.lookup ch, codeEscapes.lookup ch with
    | some d, _ => .ok ([d], c.next)
    | none, some width => codeEscape width c.next
    | none, none =>
      match c.lineBreak with
      | ([], _) => .error (.malformed .escape)
      | (_, c) => foldedBreaks (c.rest.length + 1) c

/-- A character that stands for itself in a quoted scalar, up to quotes and escapes. -/
def isOrdinary (ch : Char) : Bool :=
  ch != '\'' && ch != '"' && ch != '\\' && !isGap ch

/-- A run of text without gaps. -/
def quotedWord (double : Bool) : Nat → Cursor → Except Fault (List Char × Cursor)
  | 0, c => .ok ([], c)
  | fuel + 1, c =>
    let (ordinary, c) := c.span isOrdinary
    let continueWith (s : List Char) (c : Cursor) : Except Fault (List Char × Cursor) :=
      (quotedWord double fuel c).map fun (more, c) => (ordinary ++ s ++ more, c)
    match c.peek with
    | some '\'' =>
      if double then continueWith ['\''] c.next
      else if c.ahead 1 == some '\'' then continueWith ['\''] (c.skip 2)
      else .ok (ordinary, c)
    | some '"' => if double then .ok (ordinary, c) else continueWith ['"'] c.next
    | some '\\' =>
      if double then
        match escapeSequence c.next with
        | .error fault => .error fault
        | .ok (s, c) => continueWith s c
      else continueWith ['\\'] c.next
    | _ => .ok (ordinary, c)

/-- Words and gaps up to the closing quote. -/
def quotedRest (double : Bool) : Nat → Cursor → Except Fault (List Char × Cursor)
  | 0, _ => .error (.malformed .quotedScalar)
  | fuel + 1, c => do
    let (word, c) ← quotedWord double (c.rest.length + 1) c
    if c.peek == some (if double then '"' else '\'') then return (word, c.next)
    let (gap, c) ← quotedGap c
    let (more, c) ← quotedRest double fuel c
    return (word ++ gap ++ more, c)

/-- Reads a quoted scalar from its opening quote on. -/
def readQuoted (double : Bool) (c : Cursor) : Except Fault (List Char × Cursor) :=
  quotedRest double (c.rest.length + 1) c.next

end ApiShapes.Yaml
