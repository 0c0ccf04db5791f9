import ApiShapes.Checked
import ApiShapes.Value

/-!
# JSON:API serializer schemas

A schema is an ordered list of serializers, each describing one resource with its attributes and
relationships.  In a valid schema the kinds of attributes come from a fixed set; a schema that is
read leniently names them by any text, so the types below are general in the kind.  Within one
resource no two members share a name.
-/

namespace ApiShapes.JsonApi

inductive AttributeKind where
  | string
  | number
  | boolean
  | date
  | array
  | object
  deriving DecidableEq

def AttributeKind.name : AttributeKind → String
  | .string => "string"
  | .number => "number"
  | .boolean => "boolean"
  | .date => "date"
  | .array => "array"
  | .object => "object"

/-- The kinds in the order of declaration. -/
def AttributeKind.all : List AttributeKind :=
  [.string, .number, .boolean, .date, .array, .object]

inductive RelationshipKind where
  | hasOne
  | hasMany
  | belongsTo
  deriving DecidableEq

def RelationshipKind.name : RelationshipKind → String
  | .hasOne => "has_one"
  | .hasMany => "has_many"
  | .belongsTo => "belongs_to"

def RelationshipKind.all : List RelationshipKind :=
  [.hasOne, .hasMany, .belongsTo]

structure AttributeOf (κ : Type) where
  name : String
  kind : κ
  nullable : Option Bool
  description : Option String
  format : Option String
  enum : Option (List String)
  /-- The kind of the elements of an array. -/
  items : Option κ

/-- A link from a resource to a resource type. -/
structure Relationship where
  name : String
  kind : RelationshipKind
  resource : String
  nullable : Option Bool
  description : Option String
  inverse : Option String

/-- Free-form entries that a schema carries along. -/
abbrev Metadata := List (Value × Value)

structure ResourceOf (κ : Type) where
  type : String
  attributes : List (AttributeOf κ)
  relationships : List Relationship
  description : Option String
  metadata : Option Metadata

structure SerializerOf (κ : Type) where
  name : String
  resource : ResourceOf κ
  version : Option String
  ofNamespace : Option String
  description : Option String
  metadata : Option Metadata

abbrev Attribute := AttributeOf AttributeKind
abbrev Resource := ResourceOf AttributeKind
abbrev Serializer := SerializerOf AttributeKind

structure Schema where
  serializers : List Serializer
  title : Option String
  version : Option String
  description : Option String
  metadata : Option Metadata

variable {κ ι : Type}

def AttributeOf.mapKind (f : κ → ι) (a : AttributeOf κ) : AttributeOf ι :=
  { a with kind := f a.kind, items := a.items.map f }

def ResourceOf.mapKind (f : κ → ι) (r : ResourceOf κ) : ResourceOf ι :=
  { r with attributes := r.attributes.map (·.mapKind f) }

def SerializerOf.mapKind (f : κ → ι) (s : SerializerOf κ) : SerializerOf ι :=
  { s with resource := s.resource.mapKind f }

/-- The names of the attributes, then those of the relationships. -/
def ResourceOf.memberNames (r : ResourceOf κ) : List String :=
  r.attributes.map (·.name) ++ r.relationships.map (·.name)

/-- The first name that occurs again after `seen` and the names before it. -/
def firstRepeated (seen : List String) : List String → Option String
  | [] => none
  | name :: rest =>
    if seen.contains name then some name else firstRepeated (name :: seen) rest

theorem firstRepeated_eq_none_iff (seen names : List String) :
    firstRepeated seen names = none ↔ names.Nodup ∧ ∀ name ∈ names, name ∉ seen := by
  induction names generalizing seen with
  | nil => simp [firstRepeated]
  | cons name rest ih =>
    simp only [firstRepeated, List.contains_iff_mem]
    split
    · next h => simp [h]
    · next h =>
      rw [ih]
      simp only [List.nodup_cons, List.mem_cons, forall_eq_or_imp]
      grind

/-- The resource itself if no two members share a name. -/
def ResourceOf.checkMembers (r : ResourceOf κ) (input : Value) : Checked (ResourceOf κ) :=
  match firstRepeated [] r.memberNames with
  | none => .valid r
  | some name =>
    .refuse (.broken ("duplicate member '" ++ name ++ "' in resource '" ++ r.type ++ "'")) input

theorem ResourceOf.checkMembers_eq_valid_iff (r s : ResourceOf κ) (input : Value) :
    r.checkMembers input = .valid s ↔ r.memberNames.Nodup ∧ r = s := by
  unfold ResourceOf.checkMembers
  cases h : firstRepeated [] r.memberNames with
  | none =>
    have := (firstRepeated_eq_none_iff [] r.memberNames).1 h
    simp [this.1]
  | some name =>
    have : ¬ r.memberNames.Nodup := fun hn => by
      have := (firstRepeated_eq_none_iff [] r.memberNames).2 ⟨hn, by simp⟩
      simp [this] at h
    simp [Checked.refuse, this]

def dumpMetadata : Option Metadata → Value
  | none => .null
  | some entries => .record entries

def dumpEnum : Option (List String) → Value
  | none => .null
  | some values => .ofTexts values

def AttributeOf.dump (unset : Unset) (kindName : κ → String) (a : AttributeOf κ) : Value :=
  dumpFields unset
    [("name", .text a.name), ("type", .text (kindName a.kind)), ("nullable", .ofBool? a.nullable),
      ("description", .ofText? a.description), ("format", .ofText? a.format),
      ("enum", dumpEnum a.enum), ("items", .ofText? (a.items.map kindName))]

def Relationship.dump (unset : Unset) (r : Relationship) : Value :=
  dumpFields unset
    [("name", .text r.name), ("type", .text r.kind.name), ("resource", .text r.resource),
      ("nullable", .ofBool? r.nullable), ("description", .ofText? r.description),
      ("inverse", .ofText? r.inverse)]

def ResourceOf.dump (unset : Unset) (kindName : κ → String) (r : ResourceOf κ) : Value :=
  dumpFields unset
    [("type", .text r.type), ("attributes", .list (r.attributes.map (·.dump unset kindName))),
      ("relationships", .list (r.relationships.map (·.dump unset))),
      ("description", .ofText? r.description), ("meta", dumpMetadata r.metadata)]

def SerializerOf.dump (unset : Unset) (kindName : κ → String) (s : SerializerOf κ) : Value :=
  dumpFields unset
    [("name", .text s.name), ("resource", s.resource.dump unset kindName),
      ("version", .ofText? s.version), ("namespace", .ofText? s.ofNamespace),
      ("description", .ofText? s.description), ("meta", dumpMetadata s.metadata)]

def Schema.dump (unset : Unset) (s : Schema) : Value :=
  dumpFields unset
    [("serializers", .list (s.serializers.map (·.dump unset AttributeKind.name))),
      ("title", .ofText? s.title), ("version", .ofText? s.version),
      ("description", .ofText? s.description), ("meta", dumpMetadata s.metadata)]

end ApiShapes.JsonApi
