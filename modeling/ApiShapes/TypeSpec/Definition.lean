import ApiShapes.Checked
import ApiShapes.Value

/-!
# TypeSpec definitions

A definition holds the imports, the service information and the namespaces of a TypeSpec source,
each namespace with its models and operations.  Types of properties and parameters are kept as
type expressions.  No two namespaces of a definition share a name.
-/

namespace ApiShapes.TypeSpec

structure Decorator where
  name : String
  arguments : List Value

structure Property where
  name : String
  type : String
  optional : Bool
  description : Option String
  format : Option String

structure Model where
  name : String
  properties : List Property
  bases : List String
  description : Option String
  decorators : List Decorator

/-- Where a parameter of an operation is sent. -/
inductive Location where
  | path
  | query
  | header
  deriving DecidableEq

def Location.name : Location → String
  | .path => "path"
  | .query => "query"
  | .header => "header"

def Location.all : List Location :=
  [.path, .query, .header]

structure Parameter where
  name : String
  location : Location
  type : String
  required : Bool
  description : Option String

structure RequestBody where
  type : String
  contentType : Option String
  description : Option String

inductive StatusCode where
  | code (n : Int)
  | default
  deriving DecidableEq

structure Response where
  statusCode : StatusCode
  type : Option String
  contentType : Option String
  description : Option String

inductive Method where
  | get
  | post
  | put
  | patch
  | delete
  deriving DecidableEq

def Method.name : Method → String
  | .get => "get"
  | .post => "post"
  | .put => "put"
  | .patch => "patch"
  | .delete => "delete"

def Method.all : List Method :=
  [.get, .post, .put, .patch, .delete]

structure Operation where
  name : String
  method : Method
  path : String
  parameters : List Parameter
  requestBody : Option RequestBody
  responses : List Response
  description : Option String
  decorators : List Decorator

structure Namespace where
  name : String
  models : List Model
  operations : List Operation
  imports : List String
  description : Option String

structure Definition where
  namespaces : List Namespace
  imports : List String
  title : Option String
  version : Option String
  description : Option String

/-- The definition without content. -/
def Definition.empty : Definition :=
  ⟨[], [], none, none, none⟩

/-- All models, namespace by namespace. -/
def Definition.models (d : Definition) : List Model :=
  d.namespaces.flatMap (·.models)

/-- The names that occur more than once, each once, in ascending order. -/
def repeatedNames (names : List String) : List String :=
  ((names.filter fun n => 1 < names.count n).eraseDups).mergeSort fun a b => a ≤ b

/-- The definition itself if no two of its namespaces share a name. -/
def Definition.checkNamespaces (d : Definition) (input : Value) : Checked Definition :=
  match repeatedNames (d.namespaces.map (·.name)) with
  | [] => .valid d
  | names => .refuse (.broken ("duplicate namespace names: " ++ ", ".intercalate names)) input

def Decorator.dump (d : Decorator) : Value :=
  dumpFields .shown [("name", .text d.name), ("arguments", .list d.arguments)]

def Property.dump (p : Property) : Value :=
  dumpFields .shown
    [("name", .text p.name), ("type", .text p.type), ("optional", .bool p.optional),
      ("description", .ofText? p.description), ("format", .ofText? p.format)]

def Model.dump (m : Model) : Value :=
  dumpFields .shown
    [("name", .text m.name), ("properties", .list (m.properties.map (·.dump))),
      ("extends", .ofTexts m.bases), ("description", .ofText? m.description),
      ("decorators", .list (m.decorators.map (·.dump)))]

def Parameter.dump (p : Parameter) : Value :=
  dumpFields .shown
    [("name", .text p.name), ("location", .text p.location.name), ("type", .text p.type),
      ("required", .bool p.required), ("description", .ofText? p.description)]

def RequestBody.dump (b : RequestBody) : Value :=
  dumpFields .shown
    [("type", .text b.type), ("content_type", .ofText? b.contentType),
      ("description", .ofText? b.description)]

def StatusCode.dump : StatusCode → Value
  | .code n => .int n
  | .default => .text "default"

def Response.dump (r : Response) : Value :=
  dumpFields .shown
    [("status_code", r.statusCode.dump), ("type", .ofText? r.type),
      ("content_type", .ofText? r.contentType), ("description", .ofText? r.description)]

def Operation.dump (o : Operation) : Value :=
  dumpFields .shown
    [("name", .text o.name), ("method", .text o.method.name), ("path", .text o.path),
      ("parameters", .list (o.parameters.map (·.dump))),
      ("request_body", (o.requestBody.map (·.dump)).getD .null),
      ("responses", .list (o.responses.map (·.dump))), ("description", .ofText? o.description),
      ("decorators", .list (o.decorators.map (·.dump)))]

def Namespace.dump (n : Namespace) : Value :=
  dumpFields .shown
    [("name", .text n.name), ("models", .list (n.models.map (·.dump))),
      ("operations", .list (n.operations.map (·.dump))), ("imports", .ofTexts n.imports),
      ("description", .ofText? n.description)]

def Definition.dump (d : Definition) : Value :=
  dumpFields .shown
    [("namespaces", .list (d.namespaces.map (·.dump))), ("imports", .ofTexts d.imports),
      ("title", .ofText? d.title), ("version", .ofText? d.version),
      ("description", .ofText? d.description)]

end ApiShapes.TypeSpec
