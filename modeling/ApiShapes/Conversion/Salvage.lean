import ApiShapes.Conversion.Result
import ApiShapes.JsonApi.Strict
import ApiShapes.Name

/-!
# Salvaging serializers from documents

Reads serializers from a document that need not be a valid schema.  A malformed serializer,
attribute or relationship is left out, or patched with a default, and recorded as a warning.  An
attribute whose only defect is a kind outside the known set is kept with that kind.  Every
constructed resource still passes the check of its member names.
-/

namespace ApiShapes.Conversion

open JsonApi

/-- Serializers with attribute kinds named by any text. -/
abbrev LooseSerializer := SerializerOf String
abbrev LooseResource := ResourceOf String
abbrev LooseAttribute := AttributeOf String

/-- A member that could be read, or the fault for which it is left out. -/
inductive Outcome (α : Type) where
  | kept (a : α)
  | skipped (fault : Fault)

/-- The fields that hold attribute kinds. -/
def kindFields : List String :=
  ["type", "items"]

/-- A fault in a kind field whose value is a text at least. -/
def isForeignKind (fault : Fault) : Bool :=
  match fault.path, fault.input with
  | .field name :: _, .text _ => kindFields.contains name
  | _, _ => false

/-- A record without its kind fields, declared to be of the kind `string`. -/
def withPlainKind (raw : Value) : Value :=
  match raw with
  | .record entries =>
    .record
      (entries.filter (fun (key, _) => !kindFields.any fun f => Value.sameKey (.text f) key) ++
        [(.text "type", .text "string")])
  | v => v

/-- Reads an attribute with the kinds left aside and puts them back as they are written. -/
def attributeWithForeignKind (raw : Value) : Checked LooseAttribute :=
  (fun (a : Attribute) =>
    { a.mapKind AttributeKind.name with
      kind := ((raw.get? "type").bind Value.text?).getD ""
      items := (raw.get? "items").bind Value.text? }) <$> Attribute.shape (withPlainKind raw)

def salvageAttribute (raw : Value) : Checked (Outcome LooseAttribute) :=
  match Attribute.shape raw with
  | .valid a => .valid (.kept (a.mapKind AttributeKind.name))
  | .invalid faults =>
    if faults.toList.all isForeignKind then .kept <$> attributeWithForeignKind raw
    else .valid (.skipped faults.first)

def salvageRelationship (raw : Value) : Checked (Outcome Relationship) :=
  match Relationship.shape raw with
  | .valid r => .valid (.kept r)
  | .invalid faults => .valid (.skipped faults.first)

/-- Members read so far, the names in use, and the warnings. -/
structure Members (α : Type) where
  members : List α
  seen : List String
  warnings : List Warning

/-- Reads the members from `index` on; one whose name is in use is left out. -/
def salvageFrom {α : Type} (group : MemberGroup) (serializer : String)
    (salvage : Value → Checked (Outcome α)) (nameOf : α → String) (index : Nat)
    (seen : List String) : List Value → Checked (Members α)
  | [] => .valid ⟨[], seen, []⟩
  | raw :: rest =>
    (salvage raw).andThen fun
      | .skipped fault =>
        (fun m => { m with warnings := .memberSkipped group index serializer fault :: m.warnings }) <$>
          salvageFrom group serializer salvage nameOf (index + 1) seen rest
      | .kept a =>
        if seen.contains (nameOf a) then
          (fun m => { m with warnings := .memberRepeated group (nameOf a) serializer :: m.warnings }) <$>
            salvageFrom group serializer salvage nameOf (index + 1) seen rest
        else
          (fun m => { m with members := a :: m.members }) <$>
            salvageFrom group serializer salvage nameOf (index + 1) (nameOf a :: seen) rest

/-- Reads a group of members.  Only attributes are missed if they are absent. -/
def salvageGroup {α : Type} (group : MemberGroup) (serializer : String)
    (salvage : Value → Checked (Outcome α)) (nameOf : α → String) (seen : List String)
    (resource : Value) : Checked (Members α) :=
  match (resource.get? group.name).getD .null with
  | .null =>
    .valid ⟨[], seen, if group = .attributes then [.groupMissing serializer group] else []⟩
  | .list items => salvageFrom group serializer salvage nameOf 0 seen items
  | _ => .valid ⟨[], seen, [.groupNotAList group serializer]⟩

/-- A field's text, unless it is empty. -/
def textField (key : String) (v : Value) : Option String :=
  (v.get? key).bind Value.givenText?

def metadataField (v : Value) : Option Metadata :=
  match v.get? "meta" with
  | some (.record entries) => some entries
  | _ => none

/-- A serializer with a resource of the given type, read from its record. -/
def salvageMembers (name type : String) (raw resource : Value) :
    Checked (LooseSerializer × List Warning) :=
  (salvageGroup .attributes name salvageAttribute (·.name) [] resource).andThen fun attributes =>
    (salvageGroup .relationships name salvageRelationship (·.name) attributes.seen
        resource).andThen fun relationships =>
      let r : LooseResource :=
        ⟨type, attributes.members, relationships.members, textField "description" resource,
          metadataField resource⟩
      (fun (r : LooseResource) =>
        (⟨name, r, textField "version" raw, textField "namespace" raw,
            textField "description" raw, metadataField raw⟩,
          attributes.warnings ++ relationships.warnings)) <$> r.checkMembers resource

def isRecord : Value → Bool
  | .record _ => true
  | _ => false

/-- The resource of a serializer, if it is a record. -/
def resourceRecord? (raw : Value) : Option Value :=
  (raw.get? "resource").bind fun r => if isRecord r then some r else none

/-- Reads the serializer at an index; none if it cannot carry a model.  A serializer without a
name is named after its resource type. -/
def salvageSerializer (index : Nat) (raw : Value) :
    Checked (Option LooseSerializer × List Warning) :=
  if !isRecord raw then .valid (none, [.serializerNotAnObject index])
  else
    let name := textField "name" raw
    let label := name.getD ("#" ++ numberText index)
    let unnamed := if name.isNone then [.serializerWithoutName index] else []
    match resourceRecord? raw with
    | none => .valid (none, unnamed ++ [.serializerWithoutResource label])
    | some resource =>
      match textField "type" resource with
      | none => .valid (none, unnamed ++ [.resourceWithoutType label])
      | some type =>
        (fun (s, warnings) => (some s, unnamed ++ warnings)) <$>
          salvageMembers (name.getD (serializerName (pascalCase type))) type raw resource

/-- Reads the serializers from an index on, each with its warnings. -/
def salvageSerializersFrom (index : Nat) :
    List Value → Checked (List (Option LooseSerializer × List Warning))
  | [] => .valid []
  | raw :: rest =>
    (salvageSerializer index raw).andThen fun first =>
      (first :: ·) <$> salvageSerializersFrom (index + 1) rest

end ApiShapes.Conversion
