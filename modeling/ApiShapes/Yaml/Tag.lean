import ApiShapes.Shape
import ApiShapes.Yaml.Block

/-!
# Tags, anchors and directives

Reading the properties of a node and the directives before a document.
-/

namespace ApiShapes.Yaml

def isWordChar (c : Char) : Bool :=
  ('0' ≤ c && c ≤ '9') || ('A' ≤ c && c ≤ 'Z') || ('a' ≤ c && c ≤ 'z') || c == '-' || c == '_'

def isUriChar (c : Char) : Bool :=
  isWordChar c || ";/?:@&=+$,.!~*'()[]".toList.contains c

/-- Whether an anchor's name may end before a character. -/
def endsAnchor (c : Option Char) : Bool :=
  gapOrEnd c || c.any "?:,]\x7d%@`".toList.contains

/-- The name of an anchor or alias after its indicator. -/
def readAnchorName (c : Cursor) : Except Fault (String × Cursor) :=
  let (name, c) := c.next.span isWordChar
  if name.isEmpty || !endsAnchor c.peek then .error (.malformed .anchor)
  else .ok (String.ofList name, c)

/-- Octets written as percent signs with two hexadecimal digits. -/
def uriOctets : Nat → Cursor → Except Fault (List UInt8 × Cursor)
  | 0, c => .ok ([], c)
  | fuel + 1, c =>
    match c.rest with
    | '%' :: a :: b :: _ =>
      match Decimal.ofDigits? 16 [a, b] with
      | none => .error (.malformed .tag)
      | some n => (uriOctets fuel (c.skip 3)).map fun (more, c) => (UInt8.ofNat n :: more, c)
    | '%' :: _ => .error (.malformed .tag)
    | _ => .ok ([], c)

def uriFrom : Nat → Cursor → Except Fault (List Char × Cursor)
  | 0, c => .ok ([], c)
  | fuel + 1, c => do
    let (plain, c) := c.span isUriChar
    if c.peek == some '%' then
      let (octets, c) ← uriOctets c.rest.length c
      match Shape.decodeText octets with
      | none => throw (.malformed .tag)
      | some s =>
        let (more, c) ← uriFrom fuel c
        return (plain ++ s.toList ++ more, c)
    else return (plain, c)

/-- A part of a tag's address; it has at least one character. -/
def readUri (c : Cursor) : Except Fault (List Char × Cursor) := do
  let found ← uriFrom (c.rest.length + 1) c
  if found.1.isEmpty && c.peek != some '%' then throw (.malformed .tag)
  return found

/-- A tag handle: `!`, `!!` or `!name!`. -/
def readHandle (c : Cursor) : Except Fault (List Char × Cursor) :=
  if c.peek != some '!' then .error (.malformed .tag)
  else if c.ahead 1 == some ' ' then .ok (['!'], c.next)
  else
    let (name, after) := c.next.span isWordChar
    if after.peek == some '!' then .ok ('!' :: name ++ ['!'], after.next)
    else .error (.malformed .tag)

/-- A tag as written: a handle, if there is one, and the rest of the address. -/
structure TagText where
  handle : Option String
  suffix : String
  deriving DecidableEq

def verbatimTag (c : Cursor) : Except Fault (TagText × Cursor) := do
  let (uri, c) ← readUri (c.skip 2)
  if c.peek == some '>' then return (⟨none, String.ofList uri⟩, c.next)
  else throw (.malformed .tag)

/-- A tag with a handle; the handle is `!` alone unless a second mark follows in the word. -/
def shorthandTag (c : Cursor) : Except Fault (TagText × Cursor) := do
  let word := c.next.rest.takeWhile fun ch => !(ch == ' ' || isBreak ch)
  let (handle, c) ← if word.contains '!' then readHandle c else pure (['!'], c.next)
  let (uri, c) ← readUri c
  return (⟨some (String.ofList handle), String.ofList uri⟩, c)

/-- Reads a tag from its mark on. -/
def readTag (c : Cursor) : Except Fault (TagText × Cursor) := do
  let (tag, c) ←
    if c.ahead 1 == some '<' then verbatimTag c
    else if gapOrEnd (c.ahead 1) then pure (⟨none, "!"⟩, c.next)
    else shorthandTag c
  if blankOrEnd c.peek then return (tag, c) else throw (.malformed .tag)

/-- What a directive says. -/
inductive Directive where
  | version (major : Nat)
  | tagHandle (handle address : String)
  | reserved
  deriving DecidableEq

def readNumber (c : Cursor) : Except Fault (Nat × Cursor) :=
  let (digits, c) := c.span fun ch => '0' ≤ ch && ch ≤ '9'
  match Decimal.ofDigits? 10 digits with
  | some n =>
    if Json.digitLimit < digits.length then .error (.misfit (.oversizedInteger digits.length))
    else .ok (n, c)
  | none => .error (.malformed .directive)

def versionDirective (c : Cursor) : Except Fault (Directive × Cursor) := do
  let (major, c) ← readNumber (c.skipWhile (· == ' '))
  if c.peek != some '.' then throw (.malformed .directive)
  let (_, c) ← readNumber c.next
  if blankOrEnd c.peek then return (.version major, c) else throw (.malformed .directive)

def tagDirective (c : Cursor) : Except Fault (Directive × Cursor) := do
  let (handle, c) ← readHandle (c.skipWhile (· == ' '))
  if c.peek != some ' ' then throw (.malformed .directive)
  let (address, c) ← readUri (c.skipWhile (· == ' '))
  if blankOrEnd c.peek then return (.tagHandle (String.ofList handle) (String.ofList address), c)
  else throw (.malformed .directive)

/-- Reads a directive from its mark to the end of its line. -/
def readDirective (c : Cursor) : Except Fault (Directive × Cursor) := do
  let (name, c) := c.next.span isWordChar
  if name.isEmpty || !blankOrEnd c.peek then throw (.malformed .directive)
  let (directive, c) ←
    if name = "YAML".toList then versionDirective c
    else if name = "TAG".toList then tagDirective c
    else pure (.reserved, c.restOfLine.2)
  let c ← commentLine .directive c
  return (directive, c)

end ApiShapes.Yaml
