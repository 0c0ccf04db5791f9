import ApiShapes.Checked
import ApiShapes.Value
import ApiShapes.Shape

/-!
# Options and results of conversions

A conversion never gives up on a defect that it can work around: it records a warning and the
data is still usable.  Errors are recorded only when no meaningful data could be produced.
-/

namespace ApiShapes.Conversion

structure Options where
  ofNamespace : Option String
  title : Option String
  version : Option String
  description : Option String
  withOperations : Bool
  withRelationships : Bool

def Options.default : Options :=
  ⟨none, none, none, none, false, true⟩

def Options.shape : Shape Options :=
  Shape.model "ConversionOptions" fun v =>
    Options.mk <$> Shape.maybe "namespace" Shape.text v <*> Shape.maybe "title" Shape.text v <*>
      Shape.maybe "version" Shape.text v <*> Shape.maybe "description" Shape.text v <*>
      Shape.withDefault "generate_operations" false Shape.bool v <*>
      Shape.withDefault "include_relationships" true Shape.bool v

/-- The two groups of members of a resource. -/
inductive MemberGroup where
  | attributes
  | relationships
  deriving DecidableEq

def MemberGroup.name : MemberGroup → String
  | .attributes => "attributes"
  | .relationships => "relationships"

/-- The word for one member of a group. -/
def MemberGroup.memberName : MemberGroup → String
  | .attributes => "attribute"
  | .relationships => "relationship"

/-- A defect that a conversion has worked around. -/
inductive Warning where
  | serializerNotAnObject (index : Nat)
  | serializerWithoutName (index : Nat)
  | serializerWithoutResource (label : String)
  | resourceWithoutType (label : String)
  | groupMissing (serializer : String) (group : MemberGroup)
  | groupNotAList (group : MemberGroup) (serializer : String)
  | memberSkipped (group : MemberGroup) (index : Nat) (serializer : String) (fault : Fault)
  | memberRepeated (group : MemberGroup) (name serializer : String)
  | kindUnknown (kind attributeName serializer : String)
  | propertyRepeated (name model : String)
  | elementWithoutKind (element model property : String)
  | typeUnknown (type model property : String)

/-- The path to a fault, its steps joined by dots. -/
def Fault.place (fault : Fault) : String :=
  let path := ".".intercalate (fault.path.map Step.text)
  if path.isEmpty then "value" else path

def numberText (n : Nat) : String :=
  String.ofList (Decimal.digits n)

def Warning.message : Warning → String
  | .serializerNotAnObject index =>
    "Serializer at index " ++ numberText index ++ " is not an object; skipped"
  | .serializerWithoutName index => "Serializer at index " ++ numberText index ++ " is missing a name"
  | .serializerWithoutResource label =>
    "Serializer '" ++ label ++ "' is missing a resource; skipped"
  | .resourceWithoutType label =>
    "Resource of serializer '" ++ label ++ "' is missing a type; skipped"
  | .groupMissing serializer group =>
    "Serializer '" ++ serializer ++ "' has no '" ++ group.name ++ "'; using an empty list"
  | .groupNotAList group serializer =>
    "'" ++ group.name ++ "' of serializer '" ++ serializer ++
      "' is not a list; using an empty list"
  | .memberSkipped group index serializer fault =>
    "Skipping " ++ group.memberName ++ " #" ++ numberText index ++ " in '" ++ serializer ++ "': " ++
      Fault.place fault ++ ": " ++ fault.problem.message
  | .memberRepeated group name serializer =>
    "Skipping duplicate " ++ group.memberName ++ " '" ++ name ++ "' in '" ++ serializer ++ "'"
  | .kindUnknown kind attributeName serializer =>
    "Unknown type '" ++ kind ++ "' for attribute '" ++ attributeName ++ "' in '" ++ serializer ++
      "'; using unknown"
  | .propertyRepeated name model =>
    "Skipping duplicate property '" ++ name ++ "' in model '" ++ model ++ "'"
  | .elementWithoutKind element model property =>
    "Array element type '" ++ element ++ "' of '" ++ model ++ "." ++ property ++
      "' has no JSON:API kind"
  | .typeUnknown type model property =>
    "Unknown type '" ++ type ++ "' for '" ++ model ++ "." ++ property ++ "'; using string"

/-- Why a conversion produced no meaningful data. -/
inductive Failure where
  | noSerializerList
  deriving DecidableEq

def Failure.message : Failure → String
  | .noSerializerList => "Invalid JSON:API schema: expected an object with a 'serializers' list"

/-- Converted data with the defects recorded while producing it. -/
structure Result (α : Type) where
  data : α
  failures : List Failure
  warnings : List Warning

def Result.succeeded {α : Type} (r : Result α) : Bool :=
  r.failures.isEmpty

def Result.dump {α : Type} (dumpData : α → Value) (r : Result α) : Value :=
  dumpFields .shown
    [("data", dumpData r.data), ("errors", .ofTexts (r.failures.map Failure.message)),
      ("warnings", .ofTexts (r.warnings.map Warning.message)), ("ok", .bool r.succeeded)]

/-- The first text that is given and not empty, or else the last one. -/
def firstGiven : List (Option String) → Option String
  | [] => none
  | [last] => last
  | some s :: rest => if s.isEmpty then firstGiven rest else some s
  | none :: rest => firstGiven rest

end ApiShapes.Conversion
