import ApiShapes.Json.Reader
import ApiShapes.Text.Lines
import ApiShapes.Text.Piece
import ApiShapes.TypeSpec.Definition

/-!
# Statements of a TypeSpec source

What the lines of a source declare: an import, the service block, a namespace or model header, a
property.  Headers are found anywhere in a line that starts with their keyword, and the names in
them run to the opening brace.  A service block may span several lines, every other statement is
one line.
-/

namespace ApiShapes.TypeSpec

/-- The name part of a header whose keyword has just been passed: blanks, then a text up to an
opening brace.  The last of several blanks can be the whole name. -/
def headerName? (s : List Char) : Option (List Char) :=
  let blanks := s.takeWhile Text.isBlank
  let name := (s.dropWhile Text.isBlank).takeWhile (· != '\x7b')
  let closed := (s.dropWhile Text.isBlank).any (· == '\x7b')
  if blanks.isEmpty || !closed then none
  else if name.isEmpty then
    if 2 ≤ blanks.length then blanks.getLast?.map ([·]) else none
  else some name

/-- The name part of the first header with the given keyword. -/
def findHeader (keyword : List Char) : List Char → Option (List Char)
  | [] => none
  | c :: rest =>
    match (Text.afterPrefix? keyword (c :: rest)).bind headerName? with
    | some name => some name
    | none => findHeader keyword rest

/-- The path of an import: the text from the first opening quote to the last closing one. -/
def importPath? (line : List Char) : Option (List Char) := do
  let (_, after) ← Text.cut? "import \"".toList line
  let path ← Text.beforeLast? "\";".toList after
  if path.isEmpty then none else some path

/-- A string literal at the start of a text, quotes included. -/
def takeLiteral : List Char → Option (List Char)
  | '"' :: rest => (body rest).map ('"' :: ·)
  | _ => none
where
  body : List Char → Option (List Char)
    | '"' :: _ => some ['"']
    | '\\' :: c :: rest => (body rest).map fun s => '\\' :: c :: s
    | ['\\'] => none
    | c :: rest => (body rest).map (c :: ·)
    | [] => none

/-- The literal after the first occurrence of a key that one follows. -/
def findLiteral (key : List Char) : List Char → Option (List Char)
  | [] => none
  | c :: rest =>
    match (Text.afterPrefix? key (c :: rest)).bind fun s => takeLiteral (Text.trimStart s) with
    | some found => some found
    | none => findLiteral key rest

/-- The text of a literal, or the text between its quotes as it stands if it is malformed. -/
def literalText (found : List Char) : List Char :=
  match Json.readText found with
  | .ok (.text s) => s.toList
  | _ => (found.drop 1).dropLast

/-- The text of a service entry; an empty one counts as absent. -/
def serviceEntry (key : String) (content : List Char) : Option String := do
  let found ← findLiteral key.toList content
  let text := literalText found
  if text.isEmpty then none else some (String.ofList text)

/-- A model's name and bases from the text of its header. -/
def openModel (header : List Char) : Model :=
  let (name, bases) := (Text.cut? " extends ".toList header).getD (header, [])
  { name := String.ofList (Text.trim name)
    properties := []
    bases := (((Text.splitAt ',' bases).map Text.trim).filter (!·.isEmpty)).map String.ofList
    description := none
    decorators := [] }

/-- A text without a last semicolon and the blanks before it. -/
def dropSemicolon (s : List Char) : List Char :=
  match Text.beforeSuffix? [';'] s with
  | some before => Text.trimEnd before
  | none => s

/-- A property from its line: the name up to the first colon, optional if it ends in a question
mark, and the type after it. -/
def readProperty (line : List Char) : Property :=
  let (name, type) := (Text.cut? [':'] line).getD (line, [])
  let name := Text.trim name
  let optional := name.getLast? == some '?'
  { name := String.ofList (if optional then name.dropLast else name)
    type := String.ofList (dropSemicolon (Text.trim type))
    optional
    description := none
    format := none }

def isComment (line : List Char) : Bool :=
  Text.startsWith ['/', '/'] line || Text.startsWith ['/', '*'] line

/-- What a trimmed line, or the block of lines that a service decorator spans, declares. -/
inductive Meaning where
  | importPath (path : Option String)
  | service (title version : Option String)
  | namespaceHeader (name : Option String)
  | modelHeader (model : Option Model)
  | property (property : Property)
  | closing
  | other

/-- A declaration with its text. -/
structure Statement where
  text : List Char
  meaning : Meaning

def isServiceStart (line : List Char) : Bool :=
  Text.startsWith "@service(".toList line

/-- The meaning of a line that starts no service block. -/
def meaningOf (line : List Char) : Meaning :=
  if Text.startsWith "import ".toList line then
    .importPath ((importPath? line).map String.ofList)
  else if Text.startsWith "namespace ".toList line then
    .namespaceHeader
      ((findHeader "namespace".toList line).map fun name => String.ofList (Text.trim name))
  else if Text.startsWith "model ".toList line then
    .modelHeader ((findHeader "model".toList line).map openModel)
  else if line.contains ':' && !isComment line then .property (readProperty line)
  else if line = ['\x7d'] then .closing
  else .other

def serviceStatement (content : List Char) : Statement :=
  ⟨content, .service (serviceEntry "title:" content) (serviceEntry "version:" content)⟩

/-- How far the parentheses of a line open more than they close. -/
def parenthesisExcess (line : List Char) : Int :=
  (line.count '(' : Int) - line.count ')'

/-- A service block ends with the line that closes its last open parenthesis. -/
def endsService (depth : Int) (line : List Char) : Bool :=
  depth == 0 && line.contains ')'

mutual

/-- The statements of a source given as trimmed lines that are not empty. -/
def statements : List (List Char) → List Statement
  | [] => []
  | line :: rest =>
    if isServiceStart line then
      let depth := parenthesisExcess line
      if endsService depth line then serviceStatement line :: statements rest
      else serviceFrom line depth rest
    else ⟨line, meaningOf line⟩ :: statements rest

/-- The statements from within a service block; one that is not closed ends with the source. -/
def serviceFrom (content : List Char) (depth : Int) : List (List Char) → List Statement
  | [] => [serviceStatement content]
  | line :: rest =>
    let depth := depth + parenthesisExcess line
    if endsService depth line then serviceStatement (content ++ line) :: statements rest
    else serviceFrom (content ++ line) depth rest

end

end ApiShapes.TypeSpec
