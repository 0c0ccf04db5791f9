import ApiShapes.Decimal.Digits

/-!
# Faults of JSON texts

What can be wrong with a JSON text and where.  The place is the text that is left to read at the
fault; offset, line and column follow from it.
-/

namespace ApiShapes.Json

inductive Problem where
  | value
  | propertyName
  | colon
  | comma
  | extraData
  | unterminatedString
  | controlCharacter
  | escapeSequence
  | unicodeEscape
  | byteOrderMark
  deriving DecidableEq

def Problem.message : Problem → String
  | .value => "Expecting value"
  | .propertyName => "Expecting property name enclosed in double quotes"
  | .colon => "Expecting ':' delimiter"
  | .comma => "Expecting ',' delimiter"
  | .extraData => "Extra data"
  | .unterminatedString => "Unterminated string starting at"
  | .controlCharacter => "Invalid control character at"
  | .escapeSequence => "Invalid \\escape"
  | .unicodeEscape => "Invalid \\uXXXX escape"
  | .byteOrderMark => "Unexpected UTF-8 BOM (decode using utf-8-sig)"

/-- A fault while reading: a problem where the given text is left, or an integer with too many
digits. -/
inductive Obstacle where
  | malformed (problem : Problem) (left : List Char)
  | oversized (digits : Nat)

/-- A problem at an offset from the start of the text, in characters. -/
structure Malformed where
  problem : Problem
  offset : Nat
  line : Nat
  column : Nat
  deriving DecidableEq

inductive Fault where
  | malformed (fault : Malformed)
  | oversized (digits : Nat)
  deriving DecidableEq

/-- The place in `text` where `left` is left to read: lines and columns count from one. -/
def Malformed.locate (problem : Problem) (text left : List Char) : Malformed :=
  let passed := text.take (text.length - left.length)
  { problem
    offset := passed.length
    line := passed.count '\n' + 1
    column := (passed.reverse.takeWhile (· != '\n')).length + 1 }

def Obstacle.inText (text : List Char) : Obstacle → Fault
  | .malformed problem left => .malformed (.locate problem text left)
  | .oversized digits => .oversized digits

def Malformed.message (fault : Malformed) : String :=
  let number (n : Nat) := String.ofList (Decimal.digits n)
  fault.problem.message ++ ": line " ++ number fault.line ++ " column " ++ number fault.column ++
    " (char " ++ number fault.offset ++ ")"

/-- Integers are read up to this number of decimal digits. -/
def digitLimit : Nat := 4300

/-- The complaint about an integer with too many digits. -/
def oversizedMessage (digits : Nat) : String :=
  "an integer has " ++ String.ofList (Decimal.digits digits) ++ " digits; at most " ++
    String.ofList (Decimal.digits digitLimit) ++ " are read"

end ApiShapes.Json
