import ApiShapes.Checked
import ApiShapes.Decimal.Shortest
import ApiShapes.Text.Blank

/-!
# Shapes of document values

Readers for the parts that the schemas are made of: texts, truth values, lists, choices from a
fixed set, and records with named fields.  Reading is lenient where the schemas are: a truth
value may be written as a number or a word, an integer as a text.
-/

namespace ApiShapes

/-- Reads a value of one shape. -/
abbrev Shape (α : Type) := Value → Checked α

namespace Shape

variable {α : Type}

def decodeText (octets : List UInt8) : Option String :=
  String.fromUTF8? ⟨octets.toArray⟩

/-- A text; bytes count as the text they encode. -/
def text : Shape String
  | .text s => .valid s
  | .bytes octets =>
    match decodeText octets with
    | some s => .valid s
    | none => .refuse .undecodableText (.bytes octets)
  | v => .refuse .notText v

/-- The ASCII letters of a text made small. -/
def lowerAscii (s : String) : String :=
  String.ofList (s.toList.map Char.toLower)

def trueWords : List String :=
  ["1", "true", "t", "yes", "y", "on"]

def falseWords : List String :=
  ["0", "false", "f", "no", "n", "off"]

/-- The truth value that a word stands for, whatever its case. -/
def boolWord? (s : String) : Option Bool :=
  let word := lowerAscii s
  if trueWords.contains word then some true
  else if falseWords.contains word then some false
  else none

def bool : Shape Bool
  | .bool b => .valid b
  | .int 0 => .valid false
  | .int 1 => .valid true
  | .int n =>
    .refuse (if -(twoTo 63 : Int) ≤ n ∧ n < twoTo 63 then .unreadableBool else .notBool) (.int n)
  | .float x =>
    match x.int? with
    | some 0 => .valid false
    | some 1 => .valid true
    | some n =>
      .refuse (if n.natAbs < twoTo 63 then .unreadableBool else .notBool) (.float x)
    | none => .refuse .notBool (.float x)
  | .text s =>
    match boolWord? s with
    | some b => .valid b
    | none => .refuse .unreadableBool (.text s)
  | .bytes octets =>
    match (decodeText octets).bind boolWord? with
    | some b => .valid b
    | none => .refuse .unreadableBool (.bytes octets)
  | v => .refuse .notBool v

/-- Digits with single underscores between them. -/
def groupedDigits? (s : List Char) : Option (List Char) :=
  let groups := s.splitBy fun a b => a != '_' && b != '_'
  let separated := groups.zipIdx.all fun (group, i) =>
    if i % 2 = 0 then group.all Decimal.isDigit else group == ['_']
  if separated && groups.length % 2 == 1 then some (s.filter (· != '_')) else none

/-- The integer that a text denotes: a sign, digits perhaps grouped by underscores, and perhaps a
point with zeros only. -/
def integerText (s : String) : Except Problem Int :=
  let (negative, body) := Decimal.takeSign (Text.trim s.toList)
  let whole := body.takeWhile (· != '.')
  let fraction := (body.dropWhile (· != '.')).drop 1
  if 4300 < s.length then .error .oversizedInteger
  else
    match (groupedDigits? whole).bind (Decimal.ofDigits? 10) with
    | some n =>
      if fraction.all (· == '0') then .ok (if negative then -(n : Int) else n)
      else .error .unreadableInteger
    | none => .error .unreadableInteger

def integer : Shape Int
  | .bool b => .valid (if b then 1 else 0)
  | .int n => .valid n
  | .float x =>
    match x.reading, x.int? with
    | .finite .., some n =>
      if n.natAbs < twoTo 63 then .valid n else .refuse .oversizedInteger (.float x)
    | .finite .., none => .refuse .fractionalInteger (.float x)
    | _, _ => .refuse .notFinite (.float x)
  | .text s =>
    match integerText s with
    | .ok n => .valid n
    | .error problem => .refuse problem (.text s)
  | v => .refuse .notInteger v

/-- One of a few texts, each with its meaning. -/
def choice (choices : List (String × α)) : Shape α := fun v =>
  match v with
  | .text s =>
    match choices.lookup s with
    | some a => .valid a
    | none => .refuse (.notAmong (choices.map (·.1))) v
  | _ => .refuse (.notAmong (choices.map (·.1))) v

/-- Nothing, or a value of the given shape. -/
def optional (shape : Shape α) : Shape (Option α)
  | .null => .valid none
  | v => some <$> shape v

def itemsFrom (shape : Shape α) (index : Nat) : List Value → Checked (List α)
  | [] => .valid []
  | v :: rest =>
    (· :: ·) <$> (shape v).under (.item index) <*> itemsFrom shape (index + 1) rest

/-- A list with items of the given shape. -/
def list (shape : Shape α) : Shape (List α)
  | .list items => itemsFrom shape 0 items
  | .set items => itemsFrom shape 0 items
  | .pair first second => itemsFrom shape 0 [first, second]
  | v => .refuse .notList v

/-- A list of values of any shape. -/
def anyList : Shape (List Value) :=
  list .valid

/-- The entries of a record of any content. -/
def entries : Shape (List (Value × Value))
  | .record entries => .valid entries
  | v => .refuse .notRecord v

/-- A record that holds the fields of a model. -/
def model (name : String) (fields : Value → Checked α) : Shape α := fun v =>
  match v with
  | .record _ => fields v
  | _ => .refuse (.notModel name) v

/-- A field that has to be present. -/
def required (key : String) (shape : Shape α) (record : Value) : Checked α :=
  match record.get? key with
  | some v => (shape v).under (.field key)
  | none => (Checked.refuse .missing record).under (.field key)

/-- A field with a value for the case that it is absent. -/
def withDefault (key : String) (default : α) (shape : Shape α) (record : Value) : Checked α :=
  match record.get? key with
  | some v => (shape v).under (.field key)
  | none => .valid default

/-- A field that may be absent or null. -/
def maybe (key : String) (shape : Shape α) (record : Value) : Checked (Option α) :=
  withDefault key none (optional shape) record

end Shape

end ApiShapes
