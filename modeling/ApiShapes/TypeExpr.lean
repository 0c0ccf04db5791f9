import ApiShapes.Text.Blank
import ApiShapes.Text.ClassTable
import ApiShapes.Text.Piece

/-!
# Type expressions

A type expression is a text of a small grammar: a primitive such as `int32`, an array `T[]`, a
nullable type `T | null`, a union of literals `"a" | "b"`, a record `Record<…>`, or a reference,
which is any other name.  The functions here take expressions apart as texts; a union of
references looks the same as a union of literals.
-/

namespace ApiShapes

namespace TypeExpr

def nullSuffix : List Char := " | null".toList
def arraySuffix : List Char := "[]".toList
def recordPrefix : List Char := "Record<".toList

/-- An expression without blanks around it and without a last ` | null`, and whether there was
one. -/
def splitNull (t : List Char) : List Char × Bool :=
  match Text.beforeSuffix? nullSuffix (Text.trim t) with
  | some base => (Text.trim base, true)
  | none => (Text.trim t, false)

/-- The alternatives of a union: the texts between the separators ` | `. -/
def alternatives : List Char → List (List Char)
  | ' ' :: '|' :: ' ' :: rest => [] :: alternatives rest
  | c :: rest =>
    match alternatives rest with
    | [] => [[c]]
    | a :: as => (c :: a) :: as
  | [] => [[]]

/-- The alternatives without blanks and quotes around them. -/
def members (t : List Char) : List (List Char) :=
  (alternatives t).map fun a => Text.stripChar '"' (Text.trim a)

def isUnion : List Char → Bool
  | ' ' :: '|' :: ' ' :: _ => true
  | _ :: rest => isUnion rest
  | [] => false

def isRecord (t : List Char) : Bool :=
  Text.startsWith recordPrefix t

/-- The element type of an array. -/
def element? (t : List Char) : Option (List Char) :=
  Text.beforeSuffix? arraySuffix t

theorem length_trimEnd_le (s : List Char) : (Text.trimEnd s).length ≤ s.length := by
  simpa [Text.trimEnd] using (List.dropWhile_sublist Text.isBlank (l := s.reverse)).length_le

theorem length_trim_le (s : List Char) : (Text.trim s).length ≤ s.length :=
  Nat.le_trans (length_trimEnd_le _) (List.dropWhile_sublist Text.isBlank (l := s)).length_le

theorem length_of_beforeSuffix? {piece s before : List Char}
    (h : Text.beforeSuffix? piece s = some before) :
    before.length + piece.length = s.length := by
  obtain ⟨rest, hrest, rfl⟩ := Option.map_eq_some_iff.1 h
  have := congrArg List.length (Text.eq_append_of_afterPrefix? hrest)
  simp at this ⊢
  omega

theorem length_splitNull_le (t : List Char) : (splitNull t).1.length ≤ t.length := by
  unfold splitNull
  split
  · next base h =>
    have := length_of_beforeSuffix? h
    have := length_trim_le base
    have := length_trim_le t
    simp only
    omega
  · exact length_trim_le t

/-- The element type of an array is shorter than the expression. -/
theorem length_element?_lt {t e : List Char} (h : element? (splitNull t).1 = some e) :
    e.length < t.length := by
  have := length_of_beforeSuffix? h
  have := length_splitNull_le t
  simp [arraySuffix] at *
  omega

end TypeExpr

/-- An expression that also allows null. -/
def makeNullable (t : String) : String :=
  t ++ " | null"

/-- The union of texts as literals. -/
def literalUnion (values : List String) : String :=
  " | ".intercalate (values.map fun v => "\"" ++ v ++ "\"")

def splitNullable (t : String) : String × Bool :=
  let (base, nullable) := TypeExpr.splitNull t.toList
  (String.ofList base, nullable)

def unionMembers (t : String) : List String :=
  (TypeExpr.members t.toList).map String.ofList

/-- The primitive types that have a schema of their own or a kind of attribute. -/
def primitiveNames : List String :=
  ["string", "int32", "int64", "float32", "float64", "boolean", "utcDateTime", "plainDate",
    "plainTime", "bytes", "url", "unknown"]

/-- A model's name starts with an upper-case character and is alphanumeric apart from
underscores. -/
def isModelName (name : List Char) : Bool :=
  name.head?.any Text.isUpper && name.any (· != '_') &&
    name.all fun c => c == '_' || Text.isAlphanumeric c

/-- An expression without null and without one pair of array brackets. -/
def referenceBase (t : String) : List Char :=
  let base := (TypeExpr.splitNull t.toList).1
  (TypeExpr.element? base).getD base

/-- Whether an expression, apart from null and one pair of brackets, names a model. -/
def isModelReference (t : String) : Bool :=
  let base := referenceBase t
  !TypeExpr.isUnion base && !TypeExpr.isRecord base &&
    !primitiveNames.contains (String.ofList base) && isModelName base

end ApiShapes
