import ApiShapes.Value
import ApiShapes.Entries
import ApiShapes.Shape

/-!
# OpenAPI documents

The part of the OpenAPI 3.0 object model that documents are generated in.  A dumped document
leaves out the fields that are not set.
-/

namespace ApiShapes.OpenApi

/-- The schema of a value. -/
structure Schema where
  ref : Option String
  type : Option String
  format : Option String
  description : Option String
  enum : Option (List String)
  items : Option Schema
  nullable : Bool

/-- The schema that says nothing. -/
def Schema.any : Schema :=
  ⟨none, none, none, none, none, none, false⟩

/-- The schema of an object with properties, some of them required. -/
structure ObjectSchema where
  properties : Entries Schema
  required : List String
  description : Option String

structure Parameter where
  name : String
  location : String
  required : Bool
  description : Option String
  schema : Schema

/-- Schemas by content type. -/
abbrev Content := Entries Schema

structure RequestBody where
  description : Option String
  content : Content

structure Response where
  description : String
  content : Option Content

structure Operation where
  summary : String
  description : Option String
  operationId : String
  parameters : List Parameter
  requestBody : Option RequestBody
  responses : Entries Response

structure Info where
  title : String
  version : String
  description : Option String

structure Server where
  url : String
  description : Option String

structure Document where
  info : Info
  servers : List Server
  paths : Entries (Entries Operation)
  schemas : Entries ObjectSchema

/-- The version of the specification that documents declare. -/
def specificationVersion : String := "3.0.3"

def Server.shape : Shape Server :=
  Shape.model "OpenApiServer" fun v =>
    Server.mk <$> Shape.required "url" Shape.text v <*> Shape.maybe "description" Shape.text v

def dumpEntries {α : Type} (dump : α → Value) (entries : Entries α) : Value :=
  .ofFields (entries.map fun (k, v) => (k, dump v))

/-- A list of texts, or nothing if there are none. -/
def dumpNonempty (items : List Value) : Value :=
  if items.isEmpty then .null else .list items

/-- The dump of a schema whose element schema is already dumped. -/
def Schema.dumpWith (s : Schema) (items : Value) : Value :=
  dumpFields .hidden
    [("$ref", .ofText? s.ref), ("type", .ofText? s.type), ("format", .ofText? s.format),
      ("description", .ofText? s.description), ("enum", (s.enum.map .ofTexts).getD .null),
      ("items", items), ("nullable", if s.nullable then .bool true else .null)]

def Schema.dump : Schema → Value
  | ⟨ref, type, format, description, enum, some items, nullable⟩ =>
    Schema.dumpWith ⟨ref, type, format, description, enum, none, nullable⟩ items.dump
  | ⟨ref, type, format, description, enum, none, nullable⟩ =>
    Schema.dumpWith ⟨ref, type, format, description, enum, none, nullable⟩ .null

def ObjectSchema.dump (s : ObjectSchema) : Value :=
  dumpFields .hidden
    [("type", .text "object"), ("description", .ofText? s.description),
      ("properties", dumpEntries Schema.dump s.properties),
      ("required", dumpNonempty (s.required.map .text))]

def dumpContent : Content → Value :=
  dumpEntries fun schema => dumpFields .hidden [("schema", schema.dump)]

def Parameter.dump (p : Parameter) : Value :=
  dumpFields .hidden
    [("name", .text p.name), ("in", .text p.location), ("required", .bool p.required),
      ("description", .ofText? p.description), ("schema", p.schema.dump)]

def RequestBody.dump (b : RequestBody) : Value :=
  dumpFields .hidden
    [("description", .ofText? b.description), ("required", .bool true),
      ("content", dumpContent b.content)]

def Response.dump (r : Response) : Value :=
  dumpFields .hidden
    [("description", .text r.description), ("content", (r.content.map dumpContent).getD .null)]

def Operation.dump (o : Operation) : Value :=
  dumpFields .hidden
    [("summary", .text o.summary), ("description", .ofText? o.description),
      ("operationId", .text o.operationId),
      ("parameters", dumpNonempty (o.parameters.map (·.dump))),
      ("requestBody", (o.requestBody.map (·.dump)).getD .null),
      ("responses", dumpEntries Response.dump o.responses)]

def Info.dump (i : Info) : Value :=
  dumpFields .hidden
    [("title", .text i.title), ("version", .text i.version),
      ("description", .ofText? i.description)]

def Server.dump (s : Server) : Value :=
  dumpFields .hidden [("url", .text s.url), ("description", .ofText? s.description)]

def Document.dump (d : Document) : Value :=
  dumpFields .hidden
    [("openapi", .text specificationVersion), ("info", d.info.dump),
      ("servers", .list (d.servers.map (·.dump))),
      ("paths", dumpEntries (dumpEntries Operation.dump) d.paths),
      ("components",
        dumpFields .hidden [("schemas", dumpEntries ObjectSchema.dump d.schemas)])]

end ApiShapes.OpenApi
