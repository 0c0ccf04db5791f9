import ApiShapes.OpenApi.Document
import ApiShapes.TypeExpr

/-!
# Schemas of type expressions

A type expression becomes a schema: a union becomes an enumeration of texts, an array holds the
schema of its elements, a primitive has a type and perhaps a format, and any other name is a
reference to the component schema of that name.
-/

namespace ApiShapes.OpenApi

/-- What references to component schemas start with. -/
def referencePrefix : String := "#/components/schemas/"

def reference (name : String) : String :=
  referencePrefix ++ name

/-- The type and format of each primitive. -/
def primitives : List (String × Option String × Option String) :=
  [("string", some "string", none), ("int32", some "integer", some "int32"),
    ("int64", some "integer", some "int64"), ("float32", some "number", some "float"),
    ("float64", some "number", some "double"), ("boolean", some "boolean", none),
    ("utcDateTime", some "string", some "date-time"), ("plainDate", some "string", some "date"),
    ("plainTime", some "string", some "time"), ("bytes", some "string", some "byte"),
    ("url", some "string", some "uri"), ("unknown", none, none)]

/-- The schema of a name: a primitive, a record, or else a reference. -/
def lowerName (name : List Char) : Schema :=
  match primitives.lookup (String.ofList name) with
  | some (type, format) => { Schema.any with type, format }
  | none =>
    if TypeExpr.isRecord name then { Schema.any with type := some "object" }
    else { Schema.any with ref := some (reference (String.ofList name)) }

/-- The schema of a type expression. -/
def lowerExpr (t : List Char) : Schema :=
  let base := (TypeExpr.splitNull t).1
  let nullable := (TypeExpr.splitNull t).2
  if TypeExpr.isUnion base then
    { Schema.any with
      type := some "string"
      enum := some ((TypeExpr.members base).map String.ofList)
      nullable }
  else
    match _h : TypeExpr.element? base with
    | some element =>
      { Schema.any with type := some "array", items := some (lowerExpr element), nullable }
    | none => { lowerName base with nullable }
termination_by t.length
decreasing_by exact TypeExpr.length_element?_lt _h

def lowerType (t : String) : Schema :=
  lowerExpr t.toList

def lowerPrimitive (name : String) : Schema :=
  lowerName name.toList

end ApiShapes.OpenApi
