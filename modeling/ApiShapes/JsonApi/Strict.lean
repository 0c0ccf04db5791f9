import ApiShapes.JsonApi.Schema
import ApiShapes.Shape

/-!
# Strict reading of JSON:API schemas

The strict reader refuses every document that does not have the shape of a schema.  Entries that
no field of a model claims are ignored.
-/

namespace ApiShapes.JsonApi

open Shape

def attributeKinds : List (String × AttributeKind) :=
  AttributeKind.all.map fun k => (k.name, k)

def relationshipKinds : List (String × RelationshipKind) :=
  RelationshipKind.all.map fun k => (k.name, k)

/-- An attribute, its kinds read by the given shape. -/
def attributeShape {κ : Type} (kindShape : Shape κ) : Shape (AttributeOf κ) :=
  model "JsonApiAttribute" fun v =>
    AttributeOf.mk <$> required "name" text v <*> required "type" kindShape v <*>
      maybe "nullable" bool v <*> maybe "description" text v <*> maybe "format" text v <*>
      maybe "enum" (list text) v <*> maybe "items" kindShape v

def Attribute.shape : Shape Attribute :=
  attributeShape (choice attributeKinds)

def Relationship.shape : Shape Relationship :=
  model "JsonApiRelationship" fun v =>
    Relationship.mk <$> required "name" text v <*>
      required "type" (choice relationshipKinds) v <*> required "resource" text v <*>
      maybe "nullable" bool v <*> maybe "description" text v <*> maybe "inverse" text v

def Resource.ofFields (v : Value) : Checked Resource :=
  ResourceOf.mk <$> required "type" text v <*> withDefault "attributes" [] (list Attribute.shape) v <*>
    withDefault "relationships" [] (list Relationship.shape) v <*> maybe "description" text v <*>
    maybe "meta" entries v

/-- A resource; its member names are compared only if all its fields are valid. -/
def Resource.shape : Shape Resource :=
  model "JsonApiResource" fun v => (Resource.ofFields v).andThen (·.checkMembers v)

def Serializer.shape : Shape Serializer :=
  model "JsonApiSerializer" fun v =>
    SerializerOf.mk <$> required "name" text v <*> required "resource" Resource.shape v <*>
      maybe "version" text v <*> maybe "namespace" text v <*> maybe "description" text v <*>
      maybe "meta" entries v

def Schema.shape : Shape Schema :=
  model "JsonApiSchema" fun v =>
    Schema.mk <$> withDefault "serializers" [] (list Serializer.shape) v <*> maybe "title" text v <*>
      maybe "version" text v <*> maybe "description" text v <*> maybe "meta" entries v

/-- Why a document is no schema. -/
inductive Refusal where
  | notAnObject
  | noSerializerList
  | faulty (faults : Faults)

def isList : Value → Bool
  | .list _ => true
  | _ => false

/-- Reads a schema from a document, which has to be a record with a list of serializers. -/
def Schema.read (document : Value) : Except Refusal Schema :=
  match document with
  | .record _ =>
    if (document.get? "serializers").any isList then
      match Schema.shape document with
      | .valid s => .ok s
      | .invalid faults => .error (.faulty faults)
    else .error .noSerializerList
  | _ => .error .notAnObject

end ApiShapes.JsonApi
