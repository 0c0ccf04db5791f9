import ApiShapes.Decimal.Shortest
import ApiShapes.Json.StringLiteral
import ApiShapes.Value

/-!
# Writing JSON texts

Two layouts: on one line with a blank after each separator, and with one item a line indented by
two blanks per level.  Values of kinds that JSON does not know are written as texts or lists.
-/

namespace ApiShapes.Json

/-- Infinite numbers and not-a-number are written by name. -/
def specialTexts : Decimal.SpecialTexts :=
  ⟨"NaN", "Infinity", "-Infinity"⟩

/-- The text of a value that is neither a list nor a record. -/
def scalarText : Value → List Char
  | .null => "null".toList
  | .bool true => "true".toList
  | .bool false => "false".toList
  | .int n => Decimal.intDigits n
  | .float x => Decimal.floatText specialTexts x
  | .text s => quote s.toList
  | .bytes octets => quote (octets.flatMap fun b => Decimal.hexPadded 2 b.toNat)
  | .date d => quote d.isoText
  | .moment t => quote (t.isoText 'T')
  | .list _ | .record _ | .set _ | .pair _ _ => []

/-- Names of members are texts; another scalar is named by its text. -/
def memberName : Value → List Char
  | .text s => quote s.toList
  | key => quote (scalarText key)

/-- Texts joined by a separator. -/
def join (separator : List Char) : List (List Char) → List Char
  | [] => []
  | [s] => s
  | s :: rest => s ++ separator ++ join separator rest

mutual

/-- The text of a value on one line. -/
def inline : Value → List Char
  | .list items => '[' :: join [',', ' '] (inlineItems items) ++ [']']
  | .set items => '[' :: join [',', ' '] (inlineItems items) ++ [']']
  | .pair first second => '[' :: join [',', ' '] [inline first, inline second] ++ [']']
  | .record entries => '\x7b' :: join [',', ' '] (inlineMembers entries) ++ ['\x7d']
  | v => scalarText v

def inlineItems : List Value → List (List Char)
  | [] => []
  | v :: rest => inline v :: inlineItems rest

def inlineMembers : List (Value × Value) → List (List Char)
  | [] => []
  | (key, v) :: rest => (memberName key ++ ':' :: ' ' :: inline v) :: inlineMembers rest

end

/-- A line break and the indentation of a level. -/
def newline (level : Nat) : List Char :=
  '\n' :: List.replicate (2 * level) ' '

/-- Parts between brackets, one a line; no parts leave the brackets together. -/
def bracketed (level : Nat) (opening closing : Char) (parts : List (List Char)) : List Char :=
  if parts.isEmpty then [opening, closing]
  else
    opening :: newline (level + 1) ++ join (',' :: newline (level + 1)) parts ++
      newline level ++ [closing]

mutual

/-- The text of a value with one item a line. -/
def indented (level : Nat) : Value → List Char
  | .list items => bracketed level '[' ']' (indentedItems (level + 1) items)
  | .set items => bracketed level '[' ']' (indentedItems (level + 1) items)
  | .pair first second =>
    bracketed level '[' ']' [indented (level + 1) first, indented (level + 1) second]
  | .record entries => bracketed level '\x7b' '\x7d' (indentedMembers (level + 1) entries)
  | v => scalarText v

def indentedItems (level : Nat) : List Value → List (List Char)
  | [] => []
  | v :: rest => indented level v :: indentedItems level rest

def indentedMembers (level : Nat) : List (Value × Value) → List (List Char)
  | [] => []
  | (key, v) :: rest =>
    (memberName key ++ ':' :: ' ' :: indented level v) :: indentedMembers level rest

end

/-- A value on one line. -/
def writeLine (v : Value) : String :=
  String.ofList (inline v)

/-- A value as a document of its own, with a line break at the end. -/
def write (v : Value) : String :=
  String.ofList (indented 0 v ++ ['\n'])

end ApiShapes.Json
