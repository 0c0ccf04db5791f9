import ApiShapes.Conversion.Kind
import ApiShapes.Conversion.Result
import ApiShapes.Name
import ApiShapes.TypeSpec.Definition

/-!
# JSON:API schemas of TypeSpec definitions

Each model becomes one serializer.  Properties whose type is another model, or an array of one,
become relationships; everything else becomes an attribute.
-/

namespace ApiShapes.Conversion

open JsonApi TypeSpec

/-- Enumerated values, kind, element kind and warnings of an attribute's type without null. -/
structure AttributeReading where
  enum : Option (List String)
  kind : AttributeKind
  items : Option AttributeKind
  warnings : List Warning

/-- The kind of an array's elements; a record has none and needs none. -/
def readElement (model property : String) (element : List Char) : AttributeReading :=
  let name := String.ofList element
  match kindOfPrimitive? name with
  | some kind => ⟨none, .array, some kind, []⟩
  | none =>
    ⟨none, .array, none,
      if TypeExpr.isRecord element then [] else [.elementWithoutKind name model property]⟩

/-- Reads a type as the type of an attribute. -/
def readType (model property : String) (base : List Char) : AttributeReading :=
  if TypeExpr.isUnion base then
    ⟨some ((TypeExpr.members base).map String.ofList), .string, none, []⟩
  else if TypeExpr.isRecord base then ⟨none, .object, none, []⟩
  else
    match TypeExpr.element? base with
    | some element => readElement model property element
    | none =>
      match kindOfPrimitive? (String.ofList base) with
      | some kind => ⟨none, kind, none, []⟩
      | none => ⟨none, .string, none, [.typeUnknown (String.ofList base) model property]⟩

def attributeOf (model : String) (p : Property) : Attribute × List Warning :=
  let (base, nullable) := TypeExpr.splitNull p.type.toList
  let reading := readType model p.name base
  (⟨p.name, reading.kind, some (nullable || p.optional), p.description, p.format, reading.enum,
      reading.items⟩,
    reading.warnings)

def relationshipOf (p : Property) : Relationship :=
  let (base, nullable) := TypeExpr.splitNull p.type.toList
  let kind := if (TypeExpr.element? base).isSome then RelationshipKind.hasMany else .hasOne
  let target := (TypeExpr.element? base).getD base
  ⟨p.name, kind, snakeCase (String.ofList target), some (nullable || p.optional), p.description,
    none⟩

/-- The members that the properties of a model become. -/
structure ModelMembers where
  attributes : List Attribute
  relationships : List Relationship
  warnings : List Warning

/-- Reads properties one by one; of several with one name the first is taken. -/
def membersFrom (model : String) (seen : List String) : List Property → ModelMembers
  | [] => ⟨[], [], []⟩
  | p :: rest =>
    if seen.contains p.name then
      let m := membersFrom model seen rest
      { m with warnings := .propertyRepeated p.name model :: m.warnings }
    else
      let m := membersFrom model (p.name :: seen) rest
      if isModelReference p.type then
        { m with relationships := relationshipOf p :: m.relationships }
      else
        let (a, warnings) := attributeOf model p
        { m with attributes := a :: m.attributes, warnings := warnings ++ m.warnings }

/-- The serializer of a model with its warnings. -/
def serializerOf (options : Options) (m : Model) : Checked (Serializer × List Warning) :=
  let members := membersFrom m.name [] m.properties
  let resource : Resource :=
    ⟨snakeCase m.name, members.attributes, members.relationships, m.description, none⟩
  (fun (r : Resource) =>
    (⟨serializerName m.name, r, options.version, options.ofNamespace, m.description, none⟩,
      members.warnings)) <$> resource.checkMembers (resource.dump .shown AttributeKind.name)

def serializersOf (options : Options) : List Model → Checked (List (Serializer × List Warning))
  | [] => .valid []
  | m :: rest => (· :: ·) <$> serializerOf options m <*> serializersOf options rest

/-- The schema of a definition. -/
def schemaOfDefinition (d : Definition) (options : Options) : Checked (Result Schema) :=
  (fun serializers =>
    { data :=
        { serializers := serializers.map (·.1)
          title := firstGiven [options.title, d.title]
          version := firstGiven [options.version, d.version]
          description := firstGiven [options.description, d.description]
          metadata := none }
      failures := []
      warnings := serializers.flatMap (·.2) }) <$> serializersOf options d.models

end ApiShapes.Conversion
