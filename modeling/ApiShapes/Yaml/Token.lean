import ApiShapes.Yaml.Block
import ApiShapes.Yaml.Plain
import ApiShapes.Yaml.Quoted
import ApiShapes.Yaml.Tag

/-!
# Tokens of a YAML text

A text is cut into tokens: indicators, properties and scalars, and marks for the starts and ends
of blocks, which follow from indentation.  Whether a scalar or collection is a key shows only at
the colon after it; its place is kept until then, and the key mark is put in front of it.
-/

namespace ApiShapes.Yaml

inductive Token where
  | directive (directive : Directive)
  | documentStart
  | documentEnd
  | sequenceStart
  | mappingStart
  | blockEnd
  | flowSequenceStart
  | flowSequenceEnd
  | flowMappingStart
  | flowMappingEnd
  | entry
  | flowEntry
  | key
  | value
  | alias (name : String)
  | anchor (name : String)
  | tag (tag : TagText)
  | scalar (text : List Char) (plain : Bool)
  deriving DecidableEq

/-- The place of a token that can turn out to be a key: its number, whether the block demands a
key there, and where it stands. -/
structure KeyPlace where
  number : Nat
  demanded : Bool
  index : Nat
  line : Nat
  column : Nat

/-- The state of cutting a text: the tokens so far, last first, the indentations of the open
blocks, innermost first, and the possible keys by depth of brackets, innermost first. -/
structure Cutting where
  cursor : Cursor
  tokens : List Token
  count : Nat
  indents : List Nat
  keyPlaces : List (Option KeyPlace)
  keyAllowed : Bool

namespace Cutting

def start (text : List Char) : Cutting :=
  ⟨.start text, [], 0, [], [none], true⟩

/-- The depth of brackets. -/
def depth (s : Cutting) : Nat :=
  s.keyPlaces.length - 1

def inFlow (s : Cutting) : Bool :=
  s.depth != 0

/-- One more than the indentation of the innermost block, zero outside of all blocks. -/
def parent (s : Cutting) : Nat :=
  match s.indents with
  | [] => 0
  | indent :: _ => indent + 1

def push (t : Token) (s : Cutting) : Cutting :=
  { s with tokens := t :: s.tokens, count := s.count + 1 }

def moveTo (c : Cursor) (s : Cutting) : Cutting :=
  { s with cursor := c }

def allowKey (allowed : Bool) (s : Cutting) : Cutting :=
  { s with keyAllowed := allowed }

/-- Puts a token in front of the token with the given number. -/
def insertAt (number : Nat) (t : Token) (s : Cutting) : Cutting :=
  { s with tokens := s.tokens.insertIdx (s.count - number) t, count := s.count + 1 }

/-- Closes the blocks that are indented further than a column. -/
def unwind (column : Nat) (s : Cutting) : Cutting :=
  if s.inFlow then s
  else
    let closed := s.indents.takeWhile (column < ·)
    { s with
      tokens := closed.map (fun _ => Token.blockEnd) ++ s.tokens
      count := s.count + closed.length
      indents := s.indents.drop closed.length }

/-- Closes all blocks. -/
def unwindAll (s : Cutting) : Cutting :=
  if s.inFlow then s
  else
    { s with
      tokens := s.indents.map (fun _ => Token.blockEnd) ++ s.tokens
      count := s.count + s.indents.length
      indents := [] }

/-- Opens a block at a column that lies further in than the innermost block. -/
def openBlock? (column : Nat) (s : Cutting) : Option Cutting :=
  if s.parent ≤ column then some { s with indents := column :: s.indents } else none

/-- Opens a block at the place of the cursor, if one starts there. -/
def startBlock (t : Token) (s : Cutting) : Cutting :=
  match s.openBlock? s.cursor.column with
  | some s => s.push t
  | none => s

/-- Gives up the possible key at the present depth; a demanded key cannot be given up. -/
def dropKey (s : Cutting) : Except Fault Cutting :=
  match s.keyPlaces with
  | some place :: rest =>
    if place.demanded then .error (.malformed .simpleKey)
    else .ok { s with keyPlaces := none :: rest }
  | _ => .ok s

/-- Keeps the place of the next token if it can be a key. -/
def keepKey (s : Cutting) : Except Fault Cutting :=
  if s.keyAllowed then do
    let s ← s.dropKey
    let c := s.cursor
    let demanded := !s.inFlow && s.parent == c.column + 1
    return { s with
      keyPlaces := some ⟨s.count, demanded, c.index, c.line, c.column⟩ :: s.keyPlaces.drop 1 }
  else .ok s

/-- A key stands on one line and is at most 1024 characters long. -/
def KeyPlace.expired (c : Cursor) (place : KeyPlace) : Bool :=
  place.line != c.line || 1024 < c.index - place.index

def expireOne (c : Cursor) : Option KeyPlace → Except Fault (Option KeyPlace)
  | none => .ok none
  | some place =>
    if KeyPlace.expired c place then
      if place.demanded then .error (.malformed .simpleKey) else .ok none
    else .ok (some place)

/-- Gives up the possible keys that lie too far back. -/
def expireKeys (s : Cutting) : Except Fault Cutting := do
  let keyPlaces ← s.keyPlaces.mapM (expireOne s.cursor)
  return { s with keyPlaces }

/-- Passes blanks, comments and line breaks.  A line break outside of brackets allows a key. -/
def skipGapsFrom (inFlow : Bool) : Nat → Bool → Cursor → Bool × Cursor
  | 0, allowed, c => (allowed, c)
  | fuel + 1, allowed, c =>
    let c := c.skipWhile (· == ' ')
    let c := if c.peek == some '#' then c.restOfLine.2 else c
    match c.lineBreak with
    | ([], c) => (allowed, c)
    | (_, c) => skipGapsFrom inFlow fuel (allowed || !inFlow) c

def skipGaps (s : Cutting) : Cutting :=
  let c := s.cursor
  let c := if c.index == 0 && c.peek == some '\uFEFF' then c.next else c
  let (allowed, c) := skipGapsFrom s.inFlow (c.rest.length + 1) s.keyAllowed c
  { s with cursor := c, keyAllowed := allowed }

/-- Takes a token of one character. -/
def takeOne (t : Token) (s : Cutting) : Cutting :=
  (s.moveTo s.cursor.next).push t

/-- Takes a mark that ends all blocks. -/
def takeMark (t : Token) (c : Cursor) (s : Cutting) : Except Fault Cutting := do
  let s ← s.unwindAll.dropKey
  return ((s.allowKey false).moveTo c).push t

def openBracket (t : Token) (s : Cutting) : Except Fault Cutting := do
  let s ← s.keepKey
  return ({ s with keyPlaces := none :: s.keyPlaces }.allowKey true).takeOne t

def closeBracket (t : Token) (s : Cutting) : Except Fault Cutting := do
  let s ← s.dropKey
  match s.keyPlaces with
  | _ :: place :: places =>
    return ({ s with keyPlaces := place :: places }.allowKey false).takeOne t
  | _ => throw (.malformed .unexpectedToken)

def takeFlowEntry (s : Cutting) : Except Fault Cutting := do
  return (← (s.allowKey true).dropKey).takeOne .flowEntry

def takeEntry (s : Cutting) : Except Fault Cutting := do
  if !s.inFlow && !s.keyAllowed then throw (.malformed .misplacedEntry)
  let s := if s.inFlow then s else s.startBlock .sequenceStart
  return (← (s.allowKey true).dropKey).takeOne .entry

def takeKey (s : Cutting) : Except Fault Cutting := do
  if !s.inFlow && !s.keyAllowed then throw (.malformed .misplacedEntry)
  let s := if s.inFlow then s else s.startBlock .mappingStart
  return (← (s.allowKey !s.inFlow).dropKey).takeOne .key

/-- Takes a colon.  If a key has been kept, its mark goes in front of it, and in front of that
the start of a mapping if the key opens one. -/
def takeValue (s : Cutting) : Except Fault Cutting := do
  match s.keyPlaces with
  | some place :: places =>
    let s := { s with keyPlaces := none :: places }.insertAt place.number .key
    let s :=
      if s.inFlow then s
      else
        match s.openBlock? place.column with
        | some s => s.insertAt place.number .mappingStart
        | none => s
    return (s.allowKey false).takeOne .value
  | _ =>
    if !s.inFlow && !s.keyAllowed then throw (.malformed .misplacedEntry)
    let s := if s.inFlow then s else s.startBlock .mappingStart
    return (← (s.allowKey !s.inFlow).dropKey).takeOne .value

/-- Takes a token that can be a key. -/
def takeAtom (read : Cursor → Except Fault (Token × Cursor)) (s : Cutting) :
    Except Fault Cutting := do
  let s ← s.keepKey
  let (t, c) ← read s.cursor
  return ((s.allowKey false).moveTo c).push t

def takeBlockScalar (folded : Bool) (s : Cutting) : Except Fault Cutting := do
  let s ← (s.allowKey true).dropKey
  let (text, c) ← readBlock folded s.parent s.cursor
  return (s.moveTo c).push (.scalar text false)

def takePlain (s : Cutting) : Except Fault Cutting := do
  let s ← s.keepKey
  let p := readPlain s.inFlow s.parent s.cursor
  return ((s.allowKey p.brokeLine).moveTo p.cursor).push (.scalar p.text true)

/-- Whether a plain scalar starts with a character, given the character after it. -/
def startsPlain (inFlow : Bool) (ch : Char) (after : Option Char) : Bool :=
  !(isGap ch || "-?:,[]\x7b\x7d#&*!|>'\"%@`".toList.contains ch) ||
    (!gapOrEnd after && (ch == '-' || (!inFlow && (ch == '?' || ch == ':'))))

/-- Takes the token that starts with a character. -/
def takeToken (ch : Char) (s : Cutting) : Except Fault Cutting :=
  let c := s.cursor
  let after := c.ahead 1
  let lineStart := c.column == 0
  if ch == '%' && lineStart then do
    let s ← s.unwindAll.dropKey
    let (d, c) ← readDirective s.cursor
    return ((s.allowKey false).moveTo c).push (.directive d)
  else if lineStart && c.atMark '-' then s.takeMark .documentStart (c.skip 3)
  else if lineStart && c.atMark '.' then s.takeMark .documentEnd (c.skip 3)
  else if ch == '[' then s.openBracket .flowSequenceStart
  else if ch == '{' then s.openBracket .flowMappingStart
  else if ch == ']' then s.closeBracket .flowSequenceEnd
  else if ch == '}' then s.closeBracket .flowMappingEnd
  else if ch == ',' then s.takeFlowEntry
  else if ch == '-' && gapOrEnd after then s.takeEntry
  else if ch == '?' && (s.inFlow || gapOrEnd after) then s.takeKey
  else if ch == ':' && (s.inFlow || gapOrEnd after) then s.takeValue
  else if ch == '*' then
    s.takeAtom fun c => (readAnchorName c).map fun (name, c) => (.alias name, c)
  else if ch == '&' then
    s.takeAtom fun c => (readAnchorName c).map fun (name, c) => (.anchor name, c)
  else if ch == '!' then s.takeAtom fun c => (readTag c).map fun (tag, c) => (.tag tag, c)
  else if ch == '|' && !s.inFlow then s.takeBlockScalar false
  else if ch == '>' && !s.inFlow then s.takeBlockScalar true
  else if ch == '\'' then
    s.takeAtom fun c => (readQuoted false c).map fun (text, c) => (.scalar text false, c)
  else if ch == '"' then
    s.takeAtom fun c => (readQuoted true c).map fun (text, c) => (.scalar text false, c)
  else if startsPlain s.inFlow ch after then s.takePlain
  else .error (.malformed .token)

/-- Takes tokens up to the end of the text. -/
def run : Nat → Cutting → Except Fault Cutting
  | 0, s => .ok s
  | fuel + 1, s => do
    let s ← s.skipGaps.expireKeys
    match s.cursor.peek with
    | none => s.unwindAll.dropKey
    | some ch =>
      let s ← (s.unwind s.cursor.column).takeToken ch
      run fuel s

end Cutting

/-- Whether a character may stand in a text: tab, line breaks and what can be printed. -/
def isPrintable (c : Char) : Bool :=
  let n := c.toNat
  n == 0x09 || n == 0x0A || n == 0x0D || (0x20 ≤ n && n ≤ 0x7E) || n == 0x85 ||
    (0xA0 ≤ n && n ≤ 0xFFFD) || (0x10000 ≤ n && !Text.isSurrogate c)

/-- The tokens of a text. -/
def tokensOf (text : List Char) : Except Fault (List Token) :=
  if text.all isPrintable then
    (Cutting.run (text.length + 2) (.start text)).map fun s => s.tokens.reverse
  else .error (.malformed .character)

end ApiShapes.Yaml
