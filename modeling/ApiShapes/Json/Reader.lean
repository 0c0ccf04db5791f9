import ApiShapes.Decimal.Shortest
import ApiShapes.Json.StringLiteral
import ApiShapes.Value

/-!
# Reading JSON texts

A JSON text is one value between blanks.  The names `NaN`, `Infinity` and `-Infinity` are
numbers, and of several members with one name the last one counts.  Reading stops at the first
fault.
-/

namespace ApiShapes.Json

def isSpace (c : Char) : Bool :=
  c == ' ' || c == '\t' || c == '\n' || c == '\r'

def skipSpace (s : List Char) : List Char :=
  s.dropWhile isSpace

/-- The text after a leading word, if it leads. -/
def afterWord? (word : String) (s : List Char) : Option (List Char) :=
  if word.toList.isPrefixOf s then some (s.drop word.length) else none

/-- A number's integer part: a zero, or digits that start with another one. -/
def takeInteger : List Char → Option (List Char × List Char)
  | '0' :: rest => some (['0'], rest)
  | s =>
    let ds := s.takeWhile Decimal.isDigit
    if ds.isEmpty then none else some (ds, s.dropWhile Decimal.isDigit)

/-- A point with digits after it, or nothing. -/
def takeFraction : List Char → List Char × List Char
  | '.' :: rest =>
    let ds := rest.takeWhile Decimal.isDigit
    if ds.isEmpty then ([], '.' :: rest) else (ds, rest.dropWhile Decimal.isDigit)
  | s => ([], s)

/-- An exponent with digits, or nothing. -/
def takeExponent (s : List Char) : Option Int × List Char :=
  match s with
  | e :: rest =>
    if e == 'e' || e == 'E' then
      let (negative, ds) := Decimal.takeSign rest
      match Decimal.ofDigits? 10 (ds.takeWhile Decimal.isDigit) with
      | some n => (some (if negative then -(n : Int) else n), ds.dropWhile Decimal.isDigit)
      | none => (none, s)
    else (none, s)
  | [] => (none, s)

/-- Reads a number; one without fraction and exponent is an integer. -/
def readNumber (s : List Char) : Except Obstacle (Value × List Char) :=
  let (negative, body) :=
    match s with
    | '-' :: rest => (true, rest)
    | _ => (false, s)
  match takeInteger body with
  | none => .error (.malformed .value s)
  | some (whole, rest) =>
    let (fraction, rest) := takeFraction rest
    let (exponent, rest) := takeExponent rest
    if fraction.isEmpty && exponent.isNone then
      if digitLimit < whole.length then .error (.oversized whole.length)
      else
        let n := (Decimal.ofDigits? 10 whole).getD 0
        .ok (.int (if negative then -(n : Int) else n), rest)
    else
      .ok (.float (Decimal.Parts.value ⟨negative, whole, fraction, exponent.getD 0⟩), rest)

/-- The values that are written as words. -/
def words : List (String × Value) :=
  [("null", .null), ("true", .bool true), ("false", .bool false), ("NaN", .float .nan),
    ("Infinity", .float (.infinity false)), ("-Infinity", .float (.infinity true))]

/-- Reads a value that is neither a list nor an object. -/
def readScalar (s : List Char) : Except Obstacle (Value × List Char) :=
  match s with
  | '"' :: rest => (readString rest).map fun (t, left) => (.text (String.ofList t), left)
  | _ =>
    match words.findSome? fun (word, v) => (afterWord? word s).map fun left => (v, left) with
    | some found => .ok found
    | none => readNumber s

mutual

/-- Reads a value; the fuel bounds the number of values and separators. -/
def readValue : Nat → List Char → Except Obstacle (Value × List Char)
  | 0, s => .error (.malformed .value s)
  | fuel + 1, '[' :: rest =>
    match skipSpace rest with
    | ']' :: left => .ok (.list [], left)
    | s => (readItems fuel s).map fun (items, left) => (.list items, left)
  | fuel + 1, '{' :: rest =>
    match skipSpace rest with
    | '}' :: left => .ok (.record [], left)
    | s => (readMembers fuel s).map fun (members, left) => (.recordOf members, left)
  | _ + 1, s => readScalar s

/-- Reads the items of a list up to its closing bracket. -/
def readItems : Nat → List Char → Except Obstacle (List Value × List Char)
  | 0, s => .error (.malformed .value s)
  | fuel + 1, s =>
    match readValue fuel s with
    | .error fault => .error fault
    | .ok (item, rest) =>
      match skipSpace rest with
      | ']' :: left => .ok ([item], left)
      | ',' :: more => (readItems fuel (skipSpace more)).map fun (items, left) => (item :: items, left)
      | left => .error (.malformed .comma left)

/-- Reads the members of an object up to its closing brace. -/
def readMembers : Nat → List Char → Except Obstacle (List (Value × Value) × List Char)
  | 0, s => .error (.malformed .value s)
  | fuel + 1, '"' :: s =>
    match readString s with
    | .error fault => .error fault
    | .ok (name, rest) =>
      match skipSpace rest with
      | ':' :: rest =>
        match readValue fuel (skipSpace rest) with
        | .error fault => .error fault
        | .ok (value, rest) =>
          let member := (Value.text (String.ofList name), value)
          match skipSpace rest with
          | '}' :: left => .ok ([member], left)
          | ',' :: more =>
            (readMembers fuel (skipSpace more)).map fun (members, left) => (member :: members, left)
          | left => .error (.malformed .comma left)
      | left => .error (.malformed .colon left)
  | _ + 1, s => .error (.malformed .propertyName s)

end

/-- Reads a whole text. -/
def readText (s : List Char) : Except Fault Value :=
  if s.head? = some '\uFEFF' then .error (.malformed (.locate .byteOrderMark s s))
  else
    match readValue (2 * s.length + 2) (skipSpace s) with
    | .error obstacle => .error (obstacle.inText s)
    | .ok (v, rest) =>
      match skipSpace rest with
      | [] => .ok v
      | left => .error (.malformed (.locate .extraData s left))

def read (s : String) : Except Fault Value :=
  readText s.toList

end ApiShapes.Json
