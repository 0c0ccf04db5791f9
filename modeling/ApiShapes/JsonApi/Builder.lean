import ApiShapes.JsonApi.Check
import ApiShapes.JsonApi.Strict

/-!
# Building serializers step by step

A builder collects the parts of one serializer.  Members are valid when they are added; the
other parts are stored as they are given and checked when the serializer is built.
-/

namespace ApiShapes.JsonApi

structure Builder where
  name : Value
  type : Value
  attributes : List Attribute
  relationships : List Relationship
  description : Value
  ofNamespace : Value
  version : Value

namespace Builder

def start (name type : Value) : Builder :=
  ⟨name, type, [], [], .null, .null, .null⟩

def addAttribute (b : Builder) (a : Attribute) : Builder :=
  { b with attributes := b.attributes ++ [a] }

def addRelationship (b : Builder) (r : Relationship) : Builder :=
  { b with relationships := b.relationships ++ [r] }

def setDescription (b : Builder) (v : Value) : Builder :=
  { b with description := v }

def setNamespace (b : Builder) (v : Value) : Builder :=
  { b with ofNamespace := v }

def setVersion (b : Builder) (v : Value) : Builder :=
  { b with version := v }

/-- Why a serializer cannot be built. -/
inductive Refusal where
  | incomplete
  | faulty (faults : Faults)

def Refusal.incompleteMessage : String :=
  "Serializer name and resource type are required"

/-- The resource of a builder; its type has to be a text and its members must not share names. -/
def resource (b : Builder) : Checked Resource :=
  ((fun type => ⟨type, b.attributes, b.relationships, none, none⟩) <$>
      (Shape.text b.type).under (.field "type")).andThen
    fun (r : Resource) => r.checkMembers (r.dump .shown AttributeKind.name)

def serializer (b : Builder) (r : Resource) : Checked Serializer :=
  (fun name version ofNamespace description => ⟨name, r, version, ofNamespace, description, none⟩) <$>
      (Shape.text b.name).under (.field "name") <*>
    (Shape.optional Shape.text b.version).under (.field "version") <*>
    (Shape.optional Shape.text b.ofNamespace).under (.field "namespace") <*>
    (Shape.optional Shape.text b.description).under (.field "description")

/-- Builds the serializer.  Name and type have to be given; the resource is checked before the
serializer around it. -/
def build (b : Builder) : Except Refusal Serializer :=
  if !b.name.isGiven || !b.type.isGiven then .error .incomplete
  else
    match b.resource.andThen b.serializer with
    | .valid s => .ok s
    | .invalid faults => .error (.faulty faults)

end Builder

end ApiShapes.JsonApi
