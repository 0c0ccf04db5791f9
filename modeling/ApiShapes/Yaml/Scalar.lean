import ApiShapes.Decimal.Shortest
import ApiShapes.Text.Blank
import ApiShapes.Text.Case
import ApiShapes.Text.Piece
import ApiShapes.Value
import ApiShapes.Yaml.Fault

/-!
# Scalars

What a plain scalar means by its form alone, and the values of scalars.  The forms are those of
YAML 1.1: words for truth values, integers in four bases and in sixties, floats with a point,
dates and moments.
-/

namespace ApiShapes.Yaml

/-- The kinds of nodes that tags name. -/
inductive Tag where
  | null
  | bool
  | int
  | float
  | binary
  | timestamp
  | orderedMap
  | pairs
  | set
  | str
  | seq
  | map
  | merge
  | value
  | foreign
  deriving DecidableEq

/-- The address that the tags of the standard kinds start with. -/
def standardAddress : String := "tag:yaml.org,2002:"

def standardTags : List (String × Tag) :=
  [("null", .null), ("bool", .bool), ("int", .int), ("float", .float), ("binary", .binary),
    ("timestamp", .timestamp), ("omap", .orderedMap), ("pairs", .pairs), ("set", .set),
    ("str", .str), ("seq", .seq), ("map", .map), ("merge", .merge), ("value", .value)]

/-- The kind that an address names. -/
def Tag.ofAddress (address : String) : Tag :=
  match Text.afterPrefix? standardAddress.toList address.toList with
  | some name => (standardTags.lookup (String.ofList name)).getD .foreign
  | none => .foreign

/-- The truth value of each word, in small letters. -/
def boolWords : List (String × Bool) :=
  [("yes", true), ("no", false), ("true", true), ("false", false), ("on", true), ("off", false)]

def lowerText (s : List Char) : List Char :=
  s.map Char.toLower

/-- A word in small letters, with a capital first letter, or in capitals. -/
def wordForms (word : String) : List (List Char) :=
  let w := word.toList
  [w, w.take 1 |>.map Char.toUpper |>.append (w.drop 1), w.map Char.toUpper]

def isBoolForm (s : List Char) : Bool :=
  boolWords.any fun (word, _) => (wordForms word).contains s

def isNullForm (s : List Char) : Bool :=
  s.isEmpty || s = ['~'] || (wordForms "null").contains s

def isDigitOrUnderscore (c : Char) : Bool :=
  Decimal.isDigit c || c == '_'

/-- A non-empty text of characters of a class. -/
def isRun (p : Char → Bool) (s : List Char) : Bool :=
  !s.isEmpty && s.all p

/-- A digit, with another one from 0 to 5 before it or not: a place of a number in sixties. -/
def isSixtieth : List Char → Bool
  | [d] => Decimal.isDigit d
  | [t, d] => '0' ≤ t && t ≤ '5' && Decimal.isDigit d
  | _ => false

/-- A number without sign that starts with the digit `first` or a later one. -/
def isGrouped (first : Char) : List Char → Bool
  | d :: rest => first ≤ d && d ≤ '9' && rest.all isDigitOrUnderscore
  | [] => false

def isOctalDigit (c : Char) : Bool :=
  '0' ≤ c && c ≤ '7'

def isHexDigit (c : Char) : Bool :=
  (Decimal.digitValue? c).isSome

/-- An integer without its sign. -/
def isUnsignedInt (s : List Char) : Bool :=
  match s with
  | '0' :: 'b' :: ds => isRun (fun c => c == '0' || c == '1' || c == '_') ds
  | '0' :: 'x' :: ds => isRun (fun c => isHexDigit c || c == '_') ds
  | ['0'] => true
  | '0' :: ds => ds.all fun c => isOctalDigit c || c == '_'
  | _ =>
    match Text.splitAt ':' s with
    | [whole] => isGrouped '1' whole
    | whole :: places => isGrouped '1' whole && places.all isSixtieth
    | [] => false

def isIntForm (s : List Char) : Bool :=
  isUnsignedInt (Decimal.takeSign s).2

/-- Nothing, or an exponent with a sign and digits. -/
def isExponent : List Char → Bool
  | [] => true
  | e :: sign :: ds =>
    (e == 'e' || e == 'E') && (sign == '+' || sign == '-') && isRun Decimal.isDigit ds
  | _ => false

/-- A float's text split at its first point. -/
def splitPoint (s : List Char) : Option (List Char × List Char) :=
  Text.cut? ['.'] s

/-- A number with a point, and perhaps an exponent, that starts with a digit. -/
def isPointed (s : List Char) : Bool :=
  match splitPoint s with
  | some (whole, rest) =>
    isGrouped '0' whole && isExponent (rest.dropWhile isDigitOrUnderscore)
  | none => false

/-- A number that starts with its point. -/
def isBarePointed : List Char → Bool
  | '.' :: d :: rest => Decimal.isDigit d && isExponent (rest.dropWhile isDigitOrUnderscore)
  | _ => false

/-- A number in sixties with a point in its last place. -/
def isPointedSixties (s : List Char) : Bool :=
  match splitPoint s with
  | some (places, fraction) =>
    fraction.all isDigitOrUnderscore &&
      match Text.splitAt ':' places with
      | whole :: place :: more => isGrouped '0' whole && (place :: more).all isSixtieth
      | _ => false
  | none => false

def isInfinityForm (s : List Char) : Bool :=
  match s with
  | '.' :: word => (wordForms "inf").contains word
  | _ => false

def isNanForm (s : List Char) : Bool :=
  s = ".nan".toList || s = ".NaN".toList || s = ".NAN".toList

def isFloatForm (s : List Char) : Bool :=
  let unsigned := (Decimal.takeSign s).2
  isPointed unsigned || isBarePointed s || isPointedSixties unsigned ||
    isInfinityForm unsigned || isNanForm s

/-- The parts of a date or moment as digits. -/
structure TimestampText where
  year : List Char
  month : List Char
  day : List Char
  time : Option (List Char × List Char × List Char)
  fraction : List Char
  zone : Option (Option Char × List Char × List Char)

/-- The leading digits of a text, between `least` and `most` of them. -/
def takeDigits (least most : Nat) (s : List Char) : Option (List Char × List Char) :=
  let ds := (s.take most).takeWhile Decimal.isDigit
  if ds.length < least then none else some (ds, s.drop ds.length)

def afterChar (c : Char) : List Char → Option (List Char)
  | d :: rest => if c = d then some rest else none
  | [] => none

def isSpaceOrTab (c : Char) : Bool :=
  c == ' ' || c == '\t'

/-- An offset from universal time: `Z`, or a sign with hours and perhaps minutes. -/
def zone? (s : List Char) : Option (Option (Option Char × List Char × List Char)) :=
  match s.dropWhile isSpaceOrTab with
  | [] => if s.isEmpty then some none else none
  | ['Z'] => some (some (none, [], []))
  | sign :: rest =>
    if sign == '+' || sign == '-' then do
      let (hours, rest) ← takeDigits 1 2 rest
      match rest with
      | [] => some (some (some sign, hours, []))
      | ':' :: rest =>
        match ← takeDigits 2 2 rest with
        | (minutes, []) => some (some (some sign, hours, minutes))
        | _ => none
      | _ => none
    else none

/-- A text without a line feed at its end. -/
def beforeFinalBreak (s : List Char) : List Char :=
  if s.getLast? = some '\n' then s.dropLast else s

/-- Reads the text of a date or moment. -/
def timestampText? (s : List Char) : Option TimestampText := do
  let (year, s) ← takeDigits 4 4 s
  let (month, s) ← takeDigits 1 2 (← afterChar '-' s)
  let (day, s) ← takeDigits 1 2 (← afterChar '-' s)
  match s with
  | [] => return ⟨year, month, day, none, [], none⟩
  | c :: rest =>
    let s ←
      if c == 'T' || c == 't' then some rest
      else if isSpaceOrTab c then some (rest.dropWhile isSpaceOrTab)
      else none
    let (hour, s) ← takeDigits 1 2 s
    let (minute, s) ← takeDigits 2 2 (← afterChar ':' s)
    let (second, s) ← takeDigits 2 2 (← afterChar ':' s)
    let (fraction, s) :=
      match s with
      | '.' :: rest => (rest.takeWhile Decimal.isDigit, rest.dropWhile Decimal.isDigit)
      | _ => ([], s)
    let zone ← zone? s
    return ⟨year, month, day, some (hour, minute, second), fraction, zone⟩

/-- A date with two digits for month and day, or a moment. -/
def isTimestampForm (s : List Char) : Bool :=
  match timestampText? s with
  | some t => t.time.isSome || (t.month.length == 2 && t.day.length == 2)
  | none => false

/-- The kind of a plain scalar by its form. -/
def plainTag (s : List Char) : Tag :=
  if isBoolForm s then .bool
  else if isFloatForm s then .float
  else if isIntForm s then .int
  else if s = ['<', '<'] then .merge
  else if isNullForm s then .null
  else if isTimestampForm s then .timestamp
  else if s = ['='] then .value
  else .str

/-- The kind of a text in quotes that is to go by its form; a line feed at its end does not
count. -/
def quotedTag (s : List Char) : Tag :=
  if s = ['\n'] then .str else plainTag (beforeFinalBreak s)

def natOf (digits : List Char) : Nat :=
  (Decimal.ofDigits? 10 digits).getD 0

/-- The offset in minutes that a zone gives, if there is one. -/
def zoneOffset : Option (Option Char × List Char × List Char) → Except CalendarFault (Option Int)
  | none => .ok none
  | some (none, _, _) => .ok (some 0)
  | some (some sign, hours, minutes) =>
    let n : Int := natOf hours * 60 + natOf minutes
    (checkOffset (if sign == '-' then -n else n)).map some

/-- The date or moment of a timestamp's text. -/
def timestampValue (t : TimestampText) : Except CalendarFault Value := do
  match t.time with
  | none => return .date (← Date.make (natOf t.year) (natOf t.month) (natOf t.day))
  | some (hour, minute, second) =>
    let microsecond := natOf ((t.fraction ++ List.replicate 6 '0').take 6)
    let offset ← zoneOffset t.zone
    let date ← Date.make (natOf t.year) (natOf t.month) (natOf t.day)
    return .moment (← Moment.make date (natOf hour) (natOf minute) (natOf second) microsecond offset)

/-- The letter that marks a number of a base, after a zero. -/
def baseMark? : Nat → Option Char
  | 2 => some 'b'
  | 8 => some 'o'
  | 16 => some 'x'
  | _ => none

/-- The digits of a number without sign, after the mark of its base if it has one. -/
def withoutMark (base : Nat) : List Char → List Char
  | '0' :: c :: digits => if baseMark? base = some c.toLower then digits else '0' :: c :: digits
  | digits => digits

/-- The spaces that may stand around a number. -/
def isNumberSpace (c : Char) : Bool :=
  c == ' ' || ('\t' ≤ c && c ≤ '\r')

/-- The ASCII character that a character counts as in a number: digits of all scripts are digits,
and all blanks are spaces. -/
def numberChar (c : Char) : Char :=
  if c.toNat < 127 then c
  else if Text.isBlank c then ' '
  else
    match Text.decimalDigit? c with
    | some d => Char.ofNat ('0'.toNat + d)
    | none => '?'

/-- A text as a number is read from it: its characters are taken as ASCII ones unless they all are,
and the spaces at its ends are left out. -/
def numberText (s : List Char) : List Char :=
  let s := if s.all (·.toNat < 128) then s else s.map numberChar
  ((s.dropWhile isNumberSpace).reverse.dropWhile isNumberSpace).reverse

/-- A number in a base, or the fault of a text without one.  Spaces, a sign and the mark of the
base may come before the digits. -/
def inBase (base : Nat) (s : List Char) : Except Misfit Int :=
  let (negative, unsigned) := Decimal.takeSign (numberText s)
  let digits := withoutMark base unsigned
  match Decimal.ofDigits? base digits with
  | some n =>
    if base = 10 ∧ Json.digitLimit < digits.length then .error (.oversizedInteger digits.length)
    else .ok (if negative then -(n : Int) else n)
  | none => .error (.integer base (String.ofList s))

/-- The value of places in sixties, the first one highest. -/
def inSixties (places : List Int) : Int :=
  places.foldl (fun n place => n * 60 + place) 0

/-- The text of a number without underscores. -/
def bare (s : List Char) : List Char :=
  s.filter (· != '_')

/-- The integer that a text without sign and underscores denotes. -/
def unsignedInt (s : List Char) : Except Misfit Int :=
  match s with
  | [] => .error .emptyNumber
  | ['0'] => .ok 0
  | '0' :: 'b' :: ds => inBase 2 ds
  | '0' :: 'x' :: ds => inBase 16 ds
  | '0' :: ds => inBase 8 ('0' :: ds)
  | _ =>
    if s.contains ':' then ((Text.splitAt ':' s).mapM (inBase 10)).map inSixties
    else inBase 10 s

/-- The integer that a scalar of kind `int` denotes. -/
def intValue (s : List Char) : Except Misfit Int :=
  if (bare s).isEmpty then .error .emptyNumber
  else
    let (negative, unsigned) := Decimal.takeSign (bare s)
    (unsignedInt unsigned).map fun n => if negative then -n else n

/-- The number of places in sixties up to which every place has a weight. -/
def placeLimit : Nat := 174

/-- The sum of places in sixties, the last one first. -/
def floatSixties (places : List Binary64) : Except Misfit Binary64 :=
  if placeLimit < places.length then .error .tooManyPlaces
  else
    .ok (places.foldl (fun (sum, base) place => (sum.add (place.scale base), base * 60))
      (Binary64.zero false, 1)).1

def decimalFloat (s : List Char) : Except Misfit Binary64 :=
  match Decimal.float? (numberText s) with
  | some x => .ok x
  | none => .error (.float (String.ofList (Text.lower s)))

/-- The number that a float's text in small letters, without sign and underscores, denotes. -/
def unsignedFloat (s : List Char) : Except Misfit Binary64 :=
  if s = ".inf".toList then .ok (.infinity false)
  else if s = ".nan".toList then .ok .nan
  else if s.contains ':' then
    (Text.splitAt ':' s).mapM decimalFloat >>= fun places => floatSixties places.reverse
  else decimalFloat s

/-- The number that a scalar of kind `float` denotes.  A not-a-number has no sign. -/
def floatValue (s : List Char) : Except Misfit Binary64 :=
  let s := lowerText (bare s)
  if s.isEmpty then .error .emptyNumber
  else
    let (negative, unsigned) := Decimal.takeSign s
    (unsignedFloat unsigned).map fun x =>
      if negative && unsigned != ".nan".toList then x.negate else x

/-- The value of a base-64 digit. -/
def base64Digit? (c : Char) : Option Nat :=
  if 'A' ≤ c ∧ c ≤ 'Z' then some (c.toNat - 'A'.toNat)
  else if 'a' ≤ c ∧ c ≤ 'z' then some (c.toNat - 'a'.toNat + 26)
  else if '0' ≤ c ∧ c ≤ '9' then some (c.toNat - '0'.toNat + 52)
  else if c = '+' then some 62
  else if c = '/' then some 63
  else none

/-- Decodes base-64 text from a place in a group of four digits, with the bits left over and the
number of padding marks; other characters are passed over. -/
def base64From (place left pads : Nat) : List Char → Option (List UInt8)
  | [] => if place = 0 then some [] else none
  | c :: rest =>
    if c = '=' then
      if 2 ≤ place then
        if 4 ≤ place + pads + 1 then some [] else base64From place left (pads + 1) rest
      else base64From place left pads rest
    else
      match base64Digit? c with
      | none => base64From place left pads rest
      | some d =>
        match place with
        | 0 => base64From 1 d 0 rest
        | 1 => (base64From 2 (d % 16) 0 rest).map (UInt8.ofNat (left * 4 + d / 16) :: ·)
        | 2 => (base64From 3 (d % 4) 0 rest).map (UInt8.ofNat (left * 16 + d / 4) :: ·)
        | _ => (base64From 0 0 0 rest).map (UInt8.ofNat (left * 64 + d) :: ·)

/-- The value of a scalar of a kind. -/
def scalarValue (tag : Tag) (s : List Char) : Except Fault Value :=
  match tag with
  | .null => .ok .null
  | .str => .ok (.text (String.ofList s))
  | .bool =>
    match boolWords.lookup (String.ofList (lowerText s)) with
    | some b => .ok (.bool b)
    | none => .error (.misfit (.truth (String.ofList (Text.lower s))))
  | .int => (intValue s).map Value.int |>.mapError Fault.misfit
  | .float => (floatValue s).map Value.float |>.mapError Fault.misfit
  | .timestamp =>
    match (timestampText? s).or (timestampText? (beforeFinalBreak s)) with
    | some t => (timestampValue t).mapError fun fault => .misfit (.calendar fault)
    | none => .error (.misfit .timestamp)
  | .binary =>
    if s.all (·.toNat < 128) then
      match base64From 0 0 0 s with
      | some octets => .ok (.bytes octets)
      | none => .error (.malformed .binary)
    else .error (.malformed .binary)
  | .merge | .value | .foreign => .error (.malformed .unknownTag)
  | .seq | .map | .set | .orderedMap | .pairs => .error (.malformed .wrongKind)

end ApiShapes.Yaml
