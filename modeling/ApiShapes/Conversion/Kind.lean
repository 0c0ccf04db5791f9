import ApiShapes.JsonApi.Schema
import ApiShapes.TypeExpr

/-!
# Attribute kinds and primitive types

The tables between kinds of attributes and type expressions, in both directions.  A kind outside
the table becomes the type `unknown`, and so does an array of arrays as far as its elements go.
-/

namespace ApiShapes.Conversion

open JsonApi

def recordType : String := "Record<string, unknown>"
def unknownType : String := "unknown"

/-- The type of each kind; arrays depend on their elements. -/
def kindTypes : List (String × String) :=
  [("string", "string"), ("number", "float64"), ("boolean", "boolean"),
    ("date", "utcDateTime"), ("object", recordType)]

/-- The type of a kind other than an array. -/
def simpleType (kind : String) : String :=
  (kindTypes.lookup kind).getD unknownType

/-- A text that is given and not empty. -/
def given? : Option String → Option String
  | none => none
  | some s => if s.isEmpty then none else some s

/-- The type of an attribute kind.  Elements of an array are texts unless their kind is given. -/
def typeOfKind (kind : String) (items : Option String) : String :=
  if kind = "array" then
    match given? items with
    | some element => simpleType element ++ "[]"
    | none => "string[]"
  else simpleType kind

/-- The types that kinds other than arrays become. -/
def simpleTypes : List String :=
  unknownType :: kindTypes.map (·.2)

theorem simpleType_mem (kind : String) : simpleType kind ∈ simpleTypes := by
  unfold simpleType simpleTypes
  cases hkind : kindTypes.lookup kind with
  | none => exact List.mem_cons_self
  | some type =>
    obtain ⟨before, after, hsplit, -⟩ := List.lookup_eq_some_iff.1 hkind
    apply List.mem_cons_of_mem
    rw [hsplit]
    simp

theorem typeOfKind_mem (kind : String) (items : Option String) :
    typeOfKind kind items ∈ simpleTypes ++ simpleTypes.map (· ++ "[]") := by
  unfold typeOfKind
  rw [List.mem_append]
  split
  · right
    rw [List.mem_map]
    split
    · exact ⟨_, simpleType_mem _, rfl⟩
    · exact ⟨"string", simpleType_mem "string", rfl⟩
  · exact Or.inl (simpleType_mem kind)

/-- The kind, or element kind of an array, that the table lacks. -/
def unmappedKind (kind : String) (items : Option String) : Option String :=
  match given? (if kind = "array" then items else some kind) with
  | some target => if (kindTypes.lookup target).isSome then none else some target
  | none => none

/-- The kind of each primitive type. -/
def primitiveKinds : List (String × AttributeKind) :=
  [("string", .string), ("int32", .number), ("int64", .number), ("float32", .number),
    ("float64", .number), ("boolean", .boolean), ("utcDateTime", .date), ("plainDate", .date),
    ("plainTime", .string), ("bytes", .string), ("url", .string)]

def kindOfPrimitive? (name : String) : Option AttributeKind :=
  primitiveKinds.lookup name

end ApiShapes.Conversion
