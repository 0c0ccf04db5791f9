import ApiShapes.Proofs.Text.Occurrence
import ApiShapes.TypeSpec.Reading
import Mathlib.Tactic

/-!
# Open blocks

Which namespace and whether a model is open between two lines of a source depends on the lines
before only.  A header of a namespace opens it and closes what is open; a header of a model is
accepted while a namespace is open; a closing brace closes the model if one is open, and else the
namespace.  The owner of a line is the block that is open there.
-/

namespace ApiShapes.TypeSpec

open Text

/-! ## What a line declares -/

def keywords : List String :=
  ["import ", "@service(", "namespace ", "model "]

/-- A line that a keyword claims, whatever else stands in it. -/
def isKeyworded (line : List Char) : Bool :=
  keywords.any fun keyword => startsWith keyword.toList line

def importOf? (line : List Char) : Option String :=
  if startsWith "import ".toList line then (importPath? line).map String.ofList else none

def namespaceHeader? (line : List Char) : Option String :=
  if startsWith "namespace ".toList line then
    (findHeader "namespace".toList line).map fun name => String.ofList (trim name)
  else none

def modelHeader? (line : List Char) : Option Model :=
  if startsWith "model ".toList line then (findHeader "model".toList line).map openModel else none

def property? (line : List Char) : Option Property :=
  if line.contains ':' && !isComment line && !isKeyworded line then some (readProperty line)
  else none

def isClosing (line : List Char) : Bool :=
  line == ['\x7d']

theorem startsWith_of_differ {a b line : List Char} (h : startsWith a line = true)
    (hab : ¬ a <+: b) (hba : ¬ b <+: a) : startsWith b line = false := by
  rw [startsWith_iff] at h
  rw [startsWith_eq_false_iff]
  intro hb
  rcases List.prefix_or_prefix_of_prefix h hb with hprefix | hprefix
  · exact hab hprefix
  · exact hba hprefix

/-- The texts of a meaning by its kind. -/
@[simp] def Meaning.import? : Meaning → Option String
  | .importPath path => path
  | _ => none

@[simp] def Meaning.namespace? : Meaning → Option String
  | .namespaceHeader name => name
  | _ => none

@[simp] def Meaning.model? : Meaning → Option Model
  | .modelHeader m => m
  | _ => none

def Meaning.property? : Meaning → Option Property
  | .property p => some p
  | _ => none

@[simp] def Meaning.isClosing : Meaning → Bool
  | .closing => true
  | _ => false

section

variable (line : List Char)

theorem importOf?_eq : importOf? line = (meaningOf line).import? := by
  unfold importOf? meaningOf
  split
  · rfl
  · repeat' split
    all_goals rfl

theorem namespaceHeader?_eq : namespaceHeader? line = (meaningOf line).namespace? := by
  unfold namespaceHeader? meaningOf
  by_cases himport : startsWith "import ".toList line = true
  · rw [if_pos himport, startsWith_of_differ himport (by decide) (by decide)]
    rfl
  · rw [if_neg himport]
    split
    · rfl
    · repeat' split
      all_goals rfl

theorem modelHeader?_eq : modelHeader? line = (meaningOf line).model? := by
  unfold modelHeader? meaningOf
  by_cases hmodel : startsWith "model ".toList line = true
  · have himport := startsWith_of_differ (b := "import ".toList) hmodel (by decide) (by decide)
    have hnamespace :=
      startsWith_of_differ (b := "namespace ".toList) hmodel (by decide) (by decide)
    simp only [himport, hnamespace, hmodel, Bool.false_eq_true, if_false, if_true]
    rfl
  · rw [if_neg hmodel]
    repeat' split
    all_goals rfl

theorem isClosing_eq : isClosing line = (meaningOf line).isClosing := by
  by_cases hclosing : line = ['\x7d']
  · subst hclosing
    decide
  · unfold isClosing meaningOf
    rw [if_neg hclosing, beq_eq_false_iff_ne.2 hclosing]
    repeat' split
    all_goals rfl

theorem property?_eq (h : isServiceStart line = false) :
    property? line = (meaningOf line).property? := by
  have hkeyworded : isKeyworded line = (startsWith "import ".toList line ||
      (startsWith "namespace ".toList line || startsWith "model ".toList line)) := by
    have hservice : startsWith "@service(".toList line = false := h
    simp only [isKeyworded, keywords, List.any_cons, List.any_nil, hservice, Bool.false_or,
      Bool.or_false]
  unfold property? meaningOf
  rw [hkeyworded]
  cases startsWith "import ".toList line with
  | true => simp [Meaning.property?]
  | false =>
      cases startsWith "namespace ".toList line with
      | true => simp [Meaning.property?]
      | false =>
          cases startsWith "model ".toList line with
          | true => simp [Meaning.property?]
          | false =>
              simp only [Bool.or_false, Bool.not_false, Bool.and_true, Bool.false_eq_true, if_false]
              split
              · rfl
              · split <;> rfl

end

/-! ## What is open -/

mutual

/-- The name of the namespace that is open behind some lines, of which the last stands first: it is
opened by its header and closed by the next header of a namespace, or by the next closing brace that
is read while no model is open. -/
def namespaceOpen : List (List Char) → Option String
  | [] => none
  | line :: before =>
    match namespaceHeader? line with
    | some name => some name
    | none => if isClosing line && !modelOpen before then none else namespaceOpen before

/-- Whether a model is open behind some lines, of which the last stands first: it is opened by a
header that is read while a namespace is open, and closed by the next closing brace or header. -/
def modelOpen : List (List Char) → Bool
  | [] => false
  | line :: before =>
    if (namespaceHeader? line).isSome || isClosing line then false
    else ((namespaceOpen before).isSome && (modelHeader? line).isSome) || modelOpen before

end

/-- The model of a header that is read while a namespace is open. -/
def acceptedModel? (before : List (List Char)) (line : List Char) : Option Model :=
  if (namespaceOpen before).isSome then modelHeader? line else none

/-- The properties up to the line that closes the model they belong to. -/
def propertiesFrom (before : List (List Char)) : List (List Char) → List Property
  | [] => []
  | line :: rest =>
    if isClosing line || (acceptedModel? before line).isSome || (namespaceHeader? line).isSome then
      []
    else (property? line).toList ++ propertiesFrom (line :: before) rest

/-- The models whose headers are read while a namespace of the given name is open. -/
def modelsFrom (name : String) (before : List (List Char)) : List (List Char) → List Model
  | [] => []
  | line :: rest =>
    let owned := if namespaceOpen before = some name then acceptedModel? before line else none
    (owned.map fun m => { m with properties := propertiesFrom (line :: before) rest }).toList ++
      modelsFrom name (line :: before) rest

end ApiShapes.TypeSpec
