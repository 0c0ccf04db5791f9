/-!
# Places in a YAML text

A cursor holds the text that is left to read with its place: the number of characters passed,
the line and the column.  A byte order mark has no width.
-/

namespace ApiShapes.Yaml

/-- The characters that end a line. -/
def isBreak (c : Char) : Bool :=
  c == '\n' || c == '\r' || c == '\x85' || c == '\u2028' || c == '\u2029'

/-- A blank, a tab or a line break. -/
def isGap (c : Char) : Bool :=
  c == ' ' || c == '\t' || isBreak c

/-- Whether a text ends here or goes on with a gap. -/
def gapOrEnd : Option Char → Bool
  | none => true
  | some c => isGap c

/-- Whether a line ends here. -/
def breakOrEnd : Option Char → Bool
  | none => true
  | some c => isBreak c

/-- Whether a word ends here: a blank or the end of the line. -/
def blankOrEnd : Option Char → Bool
  | none => true
  | some c => c == ' ' || isBreak c

structure Cursor where
  rest : List Char
  index : Nat
  line : Nat
  column : Nat

namespace Cursor

def start (text : List Char) : Cursor :=
  ⟨text, 0, 0, 0⟩

def peek (c : Cursor) : Option Char :=
  c.rest.head?

/-- The character that comes `n` characters later. -/
def ahead (c : Cursor) (n : Nat) : Option Char :=
  c.rest[n]?

/-- Passes one character.  A carriage return before a line feed does not end the line. -/
def next (c : Cursor) : Cursor :=
  match c.rest with
  | [] => c
  | ch :: rest =>
    if isBreak ch && !(ch == '\r' && rest.head? == some '\n') then
      ⟨rest, c.index + 1, c.line + 1, 0⟩
    else ⟨rest, c.index + 1, c.line, if ch == '\uFEFF' then c.column else c.column + 1⟩

def skip : Nat → Cursor → Cursor
  | 0, c => c
  | n + 1, c => skip n c.next

/-- The leading characters with a property, and the cursor after them. -/
def span (p : Char → Bool) (c : Cursor) : List Char × Cursor :=
  let taken := c.rest.takeWhile p
  (taken, c.skip taken.length)

def skipWhile (p : Char → Bool) (c : Cursor) : Cursor :=
  (c.span p).2

/-- The characters up to the end of the line. -/
def restOfLine (c : Cursor) : List Char × Cursor :=
  c.span (!isBreak ·)

/-- Passes a line break, if there is one.  All breaks but the two Unicode separators read as a
line feed. -/
def lineBreak (c : Cursor) : List Char × Cursor :=
  match c.rest with
  | '\r' :: '\n' :: _ => (['\n'], c.skip 2)
  | ch :: _ =>
    if ch == '\u2028' || ch == '\u2029' then ([ch], c.next)
    else if isBreak ch then (['\n'], c.next)
    else ([], c)
  | [] => ([], c)

/-- Whether a mark of three equal characters stands here, followed by a gap. -/
def atMark (mark : Char) (c : Cursor) : Bool :=
  match c.rest with
  | x :: y :: z :: rest => x == mark && y == mark && z == mark && gapOrEnd rest.head?
  | _ => false

/-- Whether a document starts or ends here, given that a line does. -/
def atDocumentMark (c : Cursor) : Bool :=
  c.atMark '-' || c.atMark '.'

end Cursor

end ApiShapes.Yaml
