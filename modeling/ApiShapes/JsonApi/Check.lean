import ApiShapes.Decimal.Shortest
import ApiShapes.JsonApi.Schema
import ApiShapes.JsonApi.Strict
import ApiShapes.Text.Piece

/-!
# Structural check of serializers

Walks the record of a serializer and lists its defects: missing names, types and targets, and
members that share a name.  The check takes values of unchecked shape; it gives up only where a
group of members cannot be walked or a name cannot be a key.
-/

namespace ApiShapes.JsonApi

/-- Octets in a message: those that show stand for themselves. -/
def octetsText (octets : List UInt8) : String :=
  let chars := octets.map fun b => Char.ofNat b.toNat
  let quote := if chars.contains '\'' && !chars.contains '"' then '"' else '\''
  let octetText (c : Char) : List Char :=
    if 0x7F ≤ c.toNat then '\\' :: 'x' :: Decimal.hexPadded 2 c.toNat else Text.quotedChar quote c
  String.ofList ('b' :: quote :: chars.flatMap octetText ++ [quote])

/-- The text of a name in a message.  Of the collections only empty ones come there, and pairs stand
in lists only. -/
def nameText : Value → String
  | .null => "None"
  | .bool true => "True"
  | .bool false => "False"
  | .int n => String.ofList (Decimal.intDigits n)
  | .float x => String.ofList (Decimal.floatText Decimal.plainSpecials x)
  | .text s => s
  | .date d => String.ofList d.isoText
  | .moment t => String.ofList (t.isoText ' ')
  | .bytes octets => octetsText octets
  | .list _ => "[]"
  | .record _ => "\x7b\x7d"
  | .set _ => "set()"
  | .pair _ _ => "()"

/-- The two groups of members. -/
inductive Group where
  | attributes
  | relationships
  deriving DecidableEq

def Group.key : Group → String
  | .attributes => "attributes"
  | .relationships => "relationships"

def Group.label : Group → String
  | .attributes => "Attribute"
  | .relationships => "Relationship"

inductive Defect where
  | noName
  | noResource
  | noType
  | notAnObject (group : Group) (index : Nat)
  | memberWithoutName (group : Group) (index : Nat)
  | repeatedName (group : Group) (name : Value)
  | memberWithoutType (group : Group) (name : Value)
  | memberWithoutResource (group : Group) (name : Value)

def Defect.message : Defect → String
  | .noName => "Serializer name is required"
  | .noResource => "Serializer resource is required"
  | .noType => "Resource type is required"
  | .notAnObject group index =>
    group.label ++ " at index " ++ String.ofList (Decimal.digits index) ++ " is not an object"
  | .memberWithoutName group index =>
    group.label ++ " at index " ++ String.ofList (Decimal.digits index) ++ " is missing name"
  | .repeatedName group name =>
    group.label ++ " '" ++ nameText name ++ "' duplicates another member name"
  | .memberWithoutType group name => group.label ++ " '" ++ nameText name ++ "' is missing type"
  | .memberWithoutResource group name =>
    group.label ++ " '" ++ nameText name ++ "' is missing resource"

/-- Whether a field is present and given. -/
def hasField (key : String) (v : Value) : Bool :=
  (v.get? key).any Value.isGiven

/-- The name defects of a member and the names in use after it. -/
def checkName (group : Group) (index : Nat) (names : List Value) (name : Value) :
    Except Value.AccessFault (List Defect × List Value) :=
  if !name.isGiven then .ok ([.memberWithoutName group index], names)
  else
    name.asKey.map fun name =>
      if names.any (Value.sameKey name) then ([.repeatedName group name], names)
      else ([], name :: names)

/-- The defects of members from an index on, given the names in use. -/
def checkFrom (group : Group) (index : Nat) (names : List Value) :
    List Value → Except Value.AccessFault (List Defect × List Value)
  | [] => .ok ([], names)
  | member :: rest =>
    match member with
    | .record _ => do
      let name := (member.get? "name").getD .null
      let (nameDefects, names) ← checkName group index names name
      let typeDefects := if hasField "type" member then [] else [.memberWithoutType group name]
      let resourceDefects :=
        if group = .relationships && !hasField "resource" member then
          [.memberWithoutResource group name] else []
      let (more, names) ← checkFrom group (index + 1) names rest
      return (nameDefects ++ typeDefects ++ resourceDefects ++ more, names)
    | _ => do
      let (more, names) ← checkFrom group (index + 1) names rest
      return (.notAnObject group index :: more, names)

/-- The elements of a group; a group that is not given has none. -/
def groupElements (group : Group) (resource : Value) : Except Value.AccessFault (List Value) :=
  let v := (resource.get? group.key).getD .null
  if v.isGiven then v.elements else .ok []

/-- The defects of the record of a resource. -/
def checkResource (resource : Value) : Except Value.AccessFault (List Defect) := do
  let typeDefects := if hasField "type" resource then [] else [.noType]
  let (attributes, names) ← checkFrom .attributes 0 [] (← groupElements .attributes resource)
  let (relationships, _) ← checkFrom .relationships 0 names (← groupElements .relationships resource)
  return typeDefects ++ attributes ++ relationships

/-- The defects of a serializer given as a value. -/
def checkSerializer (v : Value) : Except Value.AccessFault (List Defect) :=
  match v with
  | .record _ =>
    let nameDefects := if hasField "name" v then [] else [.noName]
    match v.get? "resource" with
    | some (.record entries) => (checkResource (.record entries)).map (nameDefects ++ ·)
    | _ => .ok (nameDefects ++ [.noResource])
  | _ => .error (.noFields v.kind)

/-- The defects of a serializer of valid form. -/
def Serializer.check (s : Serializer) : Except Value.AccessFault (List Defect) :=
  checkSerializer (s.dump .shown AttributeKind.name)

end ApiShapes.JsonApi
