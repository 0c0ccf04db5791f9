import ApiShapes.Yaml.Cursor
import ApiShapes.Yaml.Fault

/-!
# Reading block scalars

A block scalar is a run of lines indented alike.  Its header tells what becomes of the line
breaks at its end and may give the indentation; a folded block joins lines of text with blanks.
-/

namespace ApiShapes.Yaml

/-- What becomes of the line breaks at the end of a block. -/
inductive Chomping where
  | strip
  | clip
  | keep
  deriving DecidableEq

structure BlockHeader where
  chomping : Chomping
  /-- The indentation relative to the surrounding block. -/
  increment : Option Nat

def chompingOf? : Option Char → Option Chomping
  | some '+' => some .keep
  | some '-' => some .strip
  | _ => none

/-- A digit from 1 to 9; a zero is refused. -/
def incrementOf? (ch : Option Char) : Except Fault (Option Nat) :=
  match ch with
  | none => .ok none
  | some ch =>
    if ch == '0' then .error (.malformed .blockScalar)
    else if '1' ≤ ch ∧ ch ≤ '9' then .ok (some (ch.toNat - '0'.toNat))
    else .ok none

/-- The header after the sign of the block: chomping and indentation in either order. -/
def blockHeader (c : Cursor) : Except Fault (BlockHeader × Cursor) := do
  let (header, c) ←
    match chompingOf? c.peek with
    | some chomping => do
      let c := c.next
      let increment ← incrementOf? c.peek
      pure (⟨chomping, increment⟩, if increment.isSome then c.next else c)
    | none => do
      let increment ← incrementOf? c.peek
      let c := if increment.isSome then c.next else c
      match increment, chompingOf? c.peek with
      | some _, some chomping => pure (BlockHeader.mk chomping increment, c.next)
      | _, _ => pure (BlockHeader.mk .clip increment, c)
  if blankOrEnd c.peek then return (header, c) else throw (.malformed .blockScalar)

/-- The rest of a line that may hold only a comment, and its break. -/
def commentLine (what : Malformation) (c : Cursor) : Except Fault Cursor :=
  let c := c.skipWhile (· == ' ')
  let c := if c.peek == some '#' then c.restOfLine.2 else c
  if breakOrEnd c.peek then .ok c.lineBreak.2 else .error (.malformed what)

/-- Passes blanks up to a column. -/
def skipIndent (indent : Nat) : Nat → Cursor → Cursor
  | 0, c => c
  | fuel + 1, c =>
    if c.column < indent && c.peek == some ' ' then skipIndent indent fuel c.next else c

/-- Empty lines before the first line of a block, and the widest indentation among them and the
first line. -/
def leadingBreaks : Nat → Nat → Cursor → List Char × Nat × Cursor
  | 0, widest, c => ([], widest, c)
  | fuel + 1, widest, c =>
    if c.peek == some ' ' then leadingBreaks fuel (max widest c.next.column) c.next
    else
      match c.lineBreak with
      | ([], c) => ([], widest, c)
      | (br, c) =>
        let (more, widest, c) := leadingBreaks fuel widest c
        (br ++ more, widest, c)

/-- Empty lines of a block with the given indentation. -/
def blockBreaks (indent : Nat) : Nat → Cursor → List Char × Cursor
  | 0, c => ([], c)
  | fuel + 1, c =>
    let c := skipIndent indent c.rest.length c
    match c.lineBreak with
    | ([], c) => ([], c)
    | (br, c) =>
      let (more, c) := blockBreaks indent fuel c
      (br ++ more, c)

def startsWithSpace (c : Cursor) : Bool :=
  c.peek == some ' ' || c.peek == some '\t'

/-- The lines of a block: the text so far, the break after the last line, and the empty lines
after that.  `breaks` are the empty lines before the line at hand. -/
def blockLines (folded : Bool) (indent : Nat) :
    Nat → List Char → List Char → List Char → Cursor → List Char × List Char × List Char × Cursor
  | 0, text, lastBreak, breaks, c => (text, lastBreak, breaks, c)
  | fuel + 1, text, lastBreak, breaks, c =>
    if c.column == indent && c.peek.isSome then
      let spaced := startsWithSpace c
      let (line, c) := c.restOfLine
      let (br, c) := c.lineBreak
      let text := text ++ breaks ++ line
      let (more, c) := blockBreaks indent (c.rest.length + 1) c
      if c.column == indent && c.peek.isSome then
        let joint :=
          if folded && br == ['\n'] && !spaced && !startsWithSpace c then
            if more.isEmpty then [' '] else []
          else br
        blockLines folded indent fuel (text ++ joint) br more c
      else (text, br, more, c)
    else (text, lastBreak, breaks, c)

/-- Reads a block scalar from its sign on, in a block whose own indentation is `parent - 1`. -/
def readBlock (folded : Bool) (parent : Nat) (c : Cursor) : Except Fault (List Char × Cursor) := do
  let (header, c) ← blockHeader c.next
  let c ← commentLine .blockScalar c
  let least := max parent 1
  let fuel := c.rest.length + 1
  let (breaks, indent, c) :=
    match header.increment with
    | none =>
      let (breaks, widest, c) := leadingBreaks fuel 0 c
      (breaks, max least widest, c)
    | some n =>
      let (breaks, c) := blockBreaks (least + n - 1) fuel c
      (breaks, least + n - 1, c)
  let (text, lastBreak, breaks, c) := blockLines folded indent fuel [] [] breaks c
  let tail :=
    match header.chomping with
    | .strip => []
    | .clip => lastBreak
    | .keep => lastBreak ++ breaks
  return (text ++ tail, c)

end ApiShapes.Yaml
