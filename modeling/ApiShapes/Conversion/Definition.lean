import ApiShapes.Conversion.Kind
import ApiShapes.Conversion.Operations
import ApiShapes.Conversion.Salvage

/-!
# TypeSpec definitions of JSON:API schemas

Each serializer becomes a model in a single namespace, its attributes and relationships become
properties.  A schema can be given in valid form, or as a document that is read with tolerance.
-/

namespace ApiShapes.Conversion

open JsonApi TypeSpec

def defaultNamespace : String := "JsonApi"
def defaultTitle : String := "API"
def defaultVersion : String := "1.0.0"

/-- What a converted definition imports. -/
def importedLibraries : List String :=
  ["@typespec/http", "@typespec/rest", "@typespec/openapi3"]

/-- The type without nullability of an attribute; one with enumerated values is their union. -/
def attributeType (a : LooseAttribute) : String :=
  match a.enum with
  | some (v :: vs) => literalUnion (v :: vs)
  | _ => typeOfKind a.kind a.items

/-- A warning if the kind of an attribute without enumerated values is outside the table. -/
def attributeWarnings (serializer : String) (a : LooseAttribute) : List Warning :=
  match a.enum with
  | some (_ :: _) => []
  | _ => ((unmappedKind a.kind a.items).map fun kind => .kindUnknown kind a.name serializer).toList

/-- A nullable type also allows null. -/
def withNull (nullable : Bool) (type : String) : String :=
  if nullable then makeNullable type else type

def attributeProperty (a : LooseAttribute) : Property :=
  let nullable := a.nullable.getD false
  ⟨a.name, withNull nullable (attributeType a), nullable, a.description, a.format⟩

def relationshipProperty (r : Relationship) : Property :=
  let nullable := r.nullable.getD false
  let target := pascalCase r.resource
  let type := if r.kind = .hasMany then target ++ "[]" else target
  ⟨r.name, withNull nullable type, nullable, r.description, none⟩

/-- The model of a serializer: attributes first, then relationships if they are wanted. -/
def modelOf (withRelationships : Bool) (s : LooseSerializer) : Model :=
  { name := pascalCase s.resource.type
    properties :=
      s.resource.attributes.map attributeProperty ++
        (if withRelationships then s.resource.relationships.map relationshipProperty else [])
    bases := []
    description := firstGiven [s.description, s.resource.description]
    decorators := [⟨"discriminator", [.text "type"]⟩] }

/-- Title, version and description of a schema. -/
structure Information where
  title : Option String
  version : Option String
  description : Option String

/-- The definition of serializers, each with the warnings of its reading. -/
def assemble (options : Options) (info : Information)
    (serializers : List (Option LooseSerializer × List Warning)) : Result Definition :=
  let kept := serializers.filterMap (·.1)
  let ns : Namespace :=
    { name := (firstGiven [options.ofNamespace, some defaultNamespace]).getD ""
      models := kept.map (modelOf options.withRelationships)
      operations :=
        if options.withOperations then kept.flatMap fun s => operationsFor s.resource.type else []
      imports := []
      description := none }
  { data :=
      { namespaces := [ns]
        imports := importedLibraries
        title := firstGiven [options.title, info.title, some defaultTitle]
        version := firstGiven [options.version, info.version, some defaultVersion]
        description := firstGiven [options.description, info.description] }
    failures := []
    warnings :=
      serializers.flatMap fun (s, warnings) =>
        warnings ++ (s.map fun s => s.resource.attributes.flatMap (attributeWarnings s.name)).getD [] }

/-- The definition of a valid schema. -/
def definitionOfSchema (s : Schema) (options : Options) : Result Definition :=
  assemble options ⟨s.title, s.version, s.description⟩
    (s.serializers.map fun serializer => (some (serializer.mapKind AttributeKind.name), []))

/-- The definition of a document.  Without a list of serializers there is nothing to convert. -/
def definitionOfDocument (document : Value) (options : Options) : Checked (Result Definition) :=
  match document.get? "serializers" with
  | some (.list raw) =>
    let info : Information :=
      ⟨textField "title" document, textField "version" document,
        textField "description" document⟩
    assemble options info <$> salvageSerializersFrom 0 raw
  | _ => .valid ⟨.empty, [.noSerializerList], []⟩

end ApiShapes.Conversion
