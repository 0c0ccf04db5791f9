import ApiShapes.Calendar
import ApiShapes.Decimal.Binary64

/-!
# Document values

What a decoded document holds.  JSON documents need only the first six kinds and lists and
records; YAML documents also hold bytes, dates, moments, sets and pairs, and their records may
have keys of any kind.  Records keep their entries in the order in which the keys first occurred.

A dumped model is a record with one entry for each field in the order of declaration.  Fields that
are not set either appear as null or are left out; values inside a field are not touched by that
choice.
-/

namespace ApiShapes

inductive Value where
  | null
  | bool (b : Bool)
  | int (n : Int)
  | float (x : Binary64)
  | text (s : String)
  | list (items : List Value)
  | record (entries : List (Value × Value))
  | bytes (octets : List UInt8)
  | date (d : Date)
  | moment (t : Moment)
  | set (items : List Value)
  | pair (first second : Value)
  deriving Inhabited

namespace Value

/-- The kinds of values that messages name. -/
inductive Kind where
  | null
  | bool
  | int
  | float
  | text
  | list
  | record
  | bytes
  | date
  | moment
  | set
  | pair
  deriving DecidableEq

def kind : Value → Kind
  | null => .null
  | bool _ => .bool
  | int _ => .int
  | float _ => .float
  | text _ => .text
  | list _ => .list
  | record _ => .record
  | bytes _ => .bytes
  | date _ => .date
  | moment _ => .moment
  | set _ => .set
  | pair _ _ => .pair

/-- Absent and empty values, zeros and `false` count as not given. -/
def isGiven : Value → Bool
  | null => false
  | bool b => b
  | int n => n != 0
  | float x => !(x.numericallyEqual (.zero false))
  | text s => !s.isEmpty
  | list items => !items.isEmpty
  | record entries => !entries.isEmpty
  | bytes octets => !octets.isEmpty
  | set items => !items.isEmpty
  | date _ | moment _ | pair _ _ => true

/-- The number that a Boolean, an integer or a whole float stands for. -/
def wholeNumber? : Value → Option Int
  | bool b => some (if b then 1 else 0)
  | int n => some n
  | float x => x.int?
  | _ => none

/-- Whether two values are one key of a record: numbers count by value, so `true`, `1` and `1.0`
are one key, and a not-a-number is never equal to another key. -/
def sameKey (v w : Value) : Bool :=
  match v, w with
  | null, null => true
  | text s, text t => s == t
  | bytes s, bytes t => s == t
  | date s, date t => s == t
  | moment s, moment t => s.sameInstant t
  | pair a b, pair c d => sameKey a c && sameKey b d
  | float x, float y => x.numericallyEqual y
  | v, w =>
    match v.wholeNumber?, w.wholeNumber? with
    | some m, some n => m == n
    | _, _ => false

/-- Collections cannot be keys of a record or members of a set. -/
def isHashable : Value → Bool
  | list _ | record _ | set _ => false
  | pair a b => a.isHashable && b.isHashable
  | _ => true

/-- Why a value cannot be used as a record, as a collection or as a key. -/
inductive AccessFault where
  | noFields (found : Kind)
  | noElements (found : Kind)
  | noKey (found : Kind)
  deriving DecidableEq

/-- The elements that a collection is walked by: the items of a list, the keys of a record, the
characters of a text. -/
def elements (v : Value) : Except AccessFault (List Value) :=
  match v with
  | list items => .ok items
  | set items => .ok items
  | pair a b => .ok [a, b]
  | record entries => .ok (entries.map (·.1))
  | text s => .ok (s.toList.map fun c => text (String.singleton c))
  | bytes octets => .ok (octets.map fun b => int b.toNat)
  | v => .error (.noElements v.kind)

/-- A value that can be a key or a member of a set. -/
def asKey (v : Value) : Except AccessFault Value :=
  if v.isHashable then .ok v else .error (.noKey v.kind)

/-- Sets a key's value; a key that is present keeps its place and its spelling. -/
def insertEntry (key value : Value) : List (Value × Value) → List (Value × Value)
  | [] => [(key, value)]
  | (k, v) :: rest =>
    if sameKey k key then (k, value) :: rest else (k, v) :: insertEntry key value rest

/-- A record from entries in the order of writing: the last value of a key stays. -/
def recordOf (entries : List (Value × Value)) : Value :=
  record (entries.foldl (fun done (k, v) => insertEntry k v done) [])

/-- Adds a member to a set unless it is there. -/
def insertMember (item : Value) (items : List Value) : List Value :=
  if items.any (sameKey item) then items else items ++ [item]

/-- The value under a key that is a text. -/
def lookup (key : String) : List (Value × Value) → Option Value
  | [] => none
  | (text k, v) :: rest => if k == key then some v else lookup key rest
  | _ :: rest => lookup key rest

/-- The entry of a record; none also if the value is no record. -/
def get? (v : Value) (key : String) : Option Value :=
  match v with
  | record entries => lookup key entries
  | _ => none

def text? : Value → Option String
  | text s => some s
  | _ => none

/-- A text that is not empty. -/
def givenText? : Value → Option String
  | text s => if s.isEmpty then none else some s
  | _ => none

/-- A record with keys that are texts. -/
def ofFields (fields : List (String × Value)) : Value :=
  record (fields.map fun (k, v) => (text k, v))

/-- A text, or nothing. -/
def ofText? : Option String → Value
  | none => null
  | some s => text s

def ofBool? : Option Bool → Value
  | none => null
  | some b => bool b

def ofTexts (texts : List String) : Value :=
  list (texts.map text)

def isNull : Value → Bool
  | null => true
  | _ => false

end Value

/-- Whether fields that are not set appear in a dump. -/
inductive Unset where
  | shown
  | hidden
  deriving DecidableEq

def dumpFields (unset : Unset) (fields : List (String × Value)) : Value :=
  .ofFields
    (match unset with
    | .shown => fields
    | .hidden => fields.filter fun (_, v) => !v.isNull)

end ApiShapes
