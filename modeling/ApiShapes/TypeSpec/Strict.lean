import ApiShapes.Shape
import ApiShapes.TypeSpec.Definition

/-!
# Strict reading of TypeSpec definitions

Reads a definition from its document form.  A parameter's location is given as `in` or as
`location`, a response's status code as an integer or as the word `default`.
-/

namespace ApiShapes.TypeSpec

open Shape

def Decorator.shape : Shape Decorator :=
  model "TypeSpecDecorator" fun v =>
    Decorator.mk <$> required "name" text v <*> withDefault "arguments" [] anyList v

def Property.shape : Shape Property :=
  model "TypeSpecProperty" fun v =>
    Property.mk <$> required "name" text v <*> required "type" text v <*>
      withDefault "optional" false bool v <*> maybe "description" text v <*>
      maybe "format" text v

def Model.shape : Shape Model :=
  model "TypeSpecModel" fun v =>
    Model.mk <$> required "name" text v <*>
      withDefault "properties" [] (list Property.shape) v <*>
      withDefault "extends" [] (list text) v <*> maybe "description" text v <*>
      withDefault "decorators" [] (list Decorator.shape) v

def locations : List (String × Location) :=
  Location.all.map fun l => (l.name, l)

/-- The location under either of its two keys; `in` comes first. -/
def readLocation (record : Value) : Checked Location :=
  match record.get? "in", record.get? "location" with
  | none, some v => (choice locations v).under (.field "location")
  | _, _ => required "in" (choice locations) record

def Parameter.shape : Shape Parameter :=
  model "TypeSpecParameter" fun v =>
    Parameter.mk <$> Shape.required "name" text v <*> readLocation v <*>
      Shape.required "type" text v <*>
      withDefault "required" false bool v <*> maybe "description" text v

def RequestBody.shape : Shape RequestBody :=
  model "TypeSpecRequestBody" fun v =>
    RequestBody.mk <$> required "type" text v <*> maybe "content_type" text v <*>
      maybe "description" text v

/-- An integer or the word `default`; of another value both readings are refused. -/
def StatusCode.shape : Shape StatusCode := fun v =>
  match v with
  | .text "default" => .valid .default
  | v =>
    match integer v with
    | .valid n => .valid (.code n)
    | .invalid faults =>
      .invalid ((faults.under (.field "int")).append
        ⟨⟨.notAmong ["default"], [.field "literal['default']"], v⟩, []⟩)

def Response.shape : Shape Response :=
  model "TypeSpecResponse" fun v =>
    Response.mk <$> required "status_code" StatusCode.shape v <*> maybe "type" text v <*>
      maybe "content_type" text v <*> maybe "description" text v

def methods : List (String × Method) :=
  Method.all.map fun m => (m.name, m)

def Operation.shape : Shape Operation :=
  model "TypeSpecOperation" fun v =>
    Operation.mk <$> required "name" text v <*> required "method" (choice methods) v <*>
      required "path" text v <*> withDefault "parameters" [] (list Parameter.shape) v <*>
      maybe "request_body" RequestBody.shape v <*>
      withDefault "responses" [] (list Response.shape) v <*> maybe "description" text v <*>
      withDefault "decorators" [] (list Decorator.shape) v

def Namespace.shape : Shape Namespace :=
  model "TypeSpecNamespace" fun v =>
    Namespace.mk <$> required "name" text v <*> withDefault "models" [] (list Model.shape) v <*>
      withDefault "operations" [] (list Operation.shape) v <*>
      withDefault "imports" [] (list text) v <*> maybe "description" text v

def Definition.ofFields (v : Value) : Checked Definition :=
  Definition.mk <$> withDefault "namespaces" [] (list Namespace.shape) v <*>
    withDefault "imports" [] (list text) v <*> maybe "title" text v <*>
    maybe "version" text v <*> maybe "description" text v

/-- A definition; its namespace names are compared only if all its fields are valid. -/
def Definition.shape : Shape Definition :=
  model "TypeSpecDefinition" fun v => (Definition.ofFields v).andThen (·.checkNamespaces v)

end ApiShapes.TypeSpec
