import ApiShapes.Yaml.Cursor
import ApiShapes.Yaml.Fault

/-!
# Reading plain scalars

A plain scalar is text without quotes.  It ends before a comment, before a colon that a gap
follows, and inside brackets also before the punctuation of collections.  It may go on in further
lines that are indented enough.
-/

namespace ApiShapes.Yaml

def isFlowIndicator (c : Char) : Bool :=
  c == ',' || c == '[' || c == ']' || c == '{' || c == '}'

/-- Whether a plain scalar stops before `ch`, given the character after it. -/
def stopsPlain (inFlow : Bool) (ch : Char) (after : Option Char) : Bool :=
  isGap ch ||
    (ch == ':' && (gapOrEnd after || (inFlow && after.any isFlowIndicator))) ||
    (inFlow && (isFlowIndicator ch || ch == '?'))

/-- The length of the leading word of a plain scalar. -/
def plainWordLength (inFlow : Bool) : List Char → Nat
  | [] => 0
  | ch :: rest =>
    if stopsPlain inFlow ch rest.head? then 0 else plainWordLength inFlow rest + 1

/-- The gap after a word: the text it stands for, or nothing where the scalar ends, and whether a
line break was passed. -/
structure PlainGap where
  text : List Char
  brokeLine : Bool
  cursor : Cursor

/-- The blanks and line breaks after a first line break; none if a document mark is met. -/
def plainBreaks : Nat → Cursor → Option (List Char) × Cursor
  | 0, c => (some [], c)
  | fuel + 1, c =>
    if c.peek == some ' ' then plainBreaks fuel c.next
    else
      match c.lineBreak with
      | ([], c) => (some [], c)
      | (br, c) =>
        if c.atDocumentMark then (none, c)
        else
          let (more, c) := plainBreaks fuel c
          (more.map (br ++ ·), c)

def plainGap (c : Cursor) : PlainGap :=
  let (blanks, c) := c.span (· == ' ')
  match c.lineBreak with
  | ([], c) => ⟨blanks, false, c⟩
  | (br, c) =>
    if c.atDocumentMark then ⟨[], true, c⟩
    else
      match plainBreaks (c.rest.length + 1) c with
      | (none, c) => ⟨[], true, c⟩
      | (some more, c) =>
        let text := if br != ['\n'] then br ++ more else if more.isEmpty then [' '] else more
        ⟨text, true, c⟩

structure PlainScalar where
  text : List Char
  /-- Whether a line break was passed after the last word. -/
  brokeLine : Bool
  cursor : Cursor

/-- Reads words and the gaps between them; `gap` is the text before the word at hand. -/
def plainFrom (inFlow : Bool) (parent : Nat) (gap : List Char) (brokeLine : Bool) :
    Nat → Cursor → PlainScalar
  | 0, c => ⟨[], brokeLine, c⟩
  | fuel + 1, c =>
    let length := plainWordLength inFlow c.rest
    if c.peek == some '#' || length = 0 then ⟨[], brokeLine, c⟩
    else
      let word := c.rest.take length
      let after := plainGap (c.skip length)
      if after.text.isEmpty || after.cursor.peek == some '#' ||
          (!inFlow && after.cursor.column < parent) then
        ⟨gap ++ word, after.brokeLine, after.cursor⟩
      else
        let more := plainFrom inFlow parent after.text after.brokeLine fuel after.cursor
        { more with text := gap ++ word ++ more.text }

/-- Reads a plain scalar in a block whose own indentation is `parent - 1`. -/
def readPlain (inFlow : Bool) (parent : Nat) (c : Cursor) : PlainScalar :=
  plainFrom inFlow parent [] false (c.rest.length + 1) c

end ApiShapes.Yaml
