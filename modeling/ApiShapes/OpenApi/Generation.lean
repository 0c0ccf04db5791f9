import ApiShapes.OpenApi.Lowering
import ApiShapes.TypeSpec.Definition

/-!
# OpenAPI documents of TypeSpec definitions

The models of a definition become component schemas and its operations become paths.  A model, a
path with a method, a property or a response that occurs again replaces the earlier one in its
place.  References to models that the definition lacks are kept as they are.
-/

namespace ApiShapes.OpenApi

def defaultTitle : String := "TypeSpec API"
def defaultVersion : String := "1.0.0"
def defaultContentType : String := "application/json"

/-- The server named where no servers are given. -/
def defaultServer : Server :=
  ⟨"https://api.example.com/v1", some "Production server"⟩

/-- A text that is given and not empty, or else the default. -/
def textOr (default : String) : Option String → String
  | none => default
  | some s => if s.isEmpty then default else s

def propertySchema (p : TypeSpec.Property) : Schema :=
  { lowerType p.type with description := p.description }

/-- The properties by name, and the names of those that are not optional. -/
def modelSchema (m : TypeSpec.Model) : ObjectSchema :=
  { properties := .ofList (m.properties.map fun p => (p.name, propertySchema p))
    required := (m.properties.filter (!·.optional)).map (·.name)
    description := m.description }

def contentOf (type : String) (contentType : Option String) : Content :=
  [(textOr defaultContentType contentType, lowerType type)]

def parameterOf (p : TypeSpec.Parameter) : Parameter :=
  ⟨p.name, p.location.name, p.required, p.description, lowerType p.type⟩

def requestBodyOf (b : TypeSpec.RequestBody) : RequestBody :=
  ⟨b.description, contentOf b.type b.contentType⟩

def statusText : TypeSpec.StatusCode → String
  | .code n => String.ofList (Decimal.intDigits n)
  | .default => "default"

def responseOf (r : TypeSpec.Response) : String × Response :=
  let status := statusText r.statusCode
  let content :=
    match r.type with
    | none => none
    | some type => if type.isEmpty then none else some (contentOf type r.contentType)
  (status, ⟨textOr ("Response " ++ status) r.description, content⟩)

def operationOf (o : TypeSpec.Operation) : Operation :=
  { summary := o.name
    description := o.description
    operationId := o.name
    parameters := o.parameters.map parameterOf
    requestBody := o.requestBody.map requestBodyOf
    responses := .ofList (o.responses.map responseOf) }

/-- The component schemas of all models. -/
def schemasOf (d : TypeSpec.Definition) : Entries ObjectSchema :=
  .ofList (d.models.map fun m => (m.name, modelSchema m))

/-- The operations of all namespaces by path and method. -/
def pathsOf (d : TypeSpec.Definition) : Entries (Entries Operation) :=
  (d.namespaces.flatMap (·.operations)).foldl
    (fun paths o => paths.update o.path [] (·.put o.method.name (operationOf o))) []

/-- The document of a definition; without a list of servers it names the default server. -/
def generate (d : TypeSpec.Definition) (servers : Option (List Server)) : Document :=
  { info := ⟨textOr defaultTitle d.title, textOr defaultVersion d.version, d.description⟩
    servers := servers.getD [defaultServer]
    paths := pathsOf d
    schemas := schemasOf d }

end ApiShapes.OpenApi
