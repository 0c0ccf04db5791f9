import ApiShapes.Json.Writer
import ApiShapes.Text.Blank
import ApiShapes.TypeSpec.Definition

/-!
# TypeSpec sources

Renders a definition as TypeSpec source: the imports, the service block if there is a title, and
one block for each namespace with its models and operations.  Descriptions become comments.
-/

namespace ApiShapes.TypeSpec

/-- The indentation of a level. -/
def indent (level : Nat) (line : String) : String :=
  String.ofList (List.replicate (2 * level) ' ') ++ line

/-- A value as a literal. -/
def literal (v : Value) : String :=
  Json.writeLine v

def isGivenText : Option String → Bool
  | none => false
  | some s => !s.isEmpty

def importLines (imports : List String) : List String :=
  if imports.isEmpty then [] else imports.map (fun path => "import \"" ++ path ++ "\";") ++ [""]

/-- A comment line for a description that is given and not empty. -/
def commentLines (level : Nat) : Option String → List String
  | none => []
  | some s => if s.isEmpty then [] else [indent level ("/** " ++ s ++ " */")]

def Decorator.source (d : Decorator) : String :=
  if d.arguments.isEmpty then "@" ++ d.name
  else "@" ++ d.name ++ "(" ++ ", ".intercalate (d.arguments.map literal) ++ ")"

def Property.lines (level : Nat) (p : Property) : List String :=
  commentLines level p.description ++
    [indent level (p.name ++ (if p.optional then "?" else "") ++ ": " ++ p.type ++ ";")]

def Model.lines (level : Nat) (m : Model) : List String :=
  let bases := if m.bases.isEmpty then "" else " extends " ++ ", ".intercalate m.bases
  commentLines level m.description ++ m.decorators.map (fun d => indent level d.source) ++
    [indent level ("model " ++ m.name ++ bases ++ " \x7b")] ++
    m.properties.flatMap (·.lines (level + 1)) ++ [indent level "\x7d"]

/-- The type of the first response with the status 200. -/
def Operation.resultType (o : Operation) : String :=
  match o.responses.find? fun r => r.statusCode == .code 200 with
  | some r => if isGivenText r.type then r.type.getD "" else "void"
  | none => "void"

def Operation.lines (level : Nat) (o : Operation) : List String :=
  let parameters := ", ".intercalate (o.parameters.map fun p => p.name ++ ": " ++ p.type)
  commentLines level o.description ++ o.decorators.map (fun d => indent level d.source) ++
    [indent level ("@route(" ++ literal (.text o.path) ++ ")"), indent level ("@" ++ o.method.name),
      indent level ("op " ++ o.name ++ "(" ++ parameters ++ "): " ++ o.resultType ++ ";")]

def Namespace.lines (n : Namespace) : List String :=
  importLines n.imports ++ ["namespace " ++ n.name ++ " \x7b"] ++ commentLines 1 n.description ++
    n.models.flatMap (fun m => m.lines 1 ++ [""]) ++
    n.operations.flatMap (fun o => o.lines 1 ++ [""]) ++ ["\x7d"]

/-- The service block; there is none without a title. -/
def serviceLines (title version : Option String) : List String :=
  match title with
  | none => []
  | some title =>
    if title.isEmpty then []
    else
      ["@service(\x7b", indent 1 ("title: " ++ literal (.text title) ++ ",")] ++
        (if isGivenText version then
          [indent 1 ("version: " ++ literal (.text (version.getD "")))] else []) ++ ["\x7d)"]

def Definition.lines (d : Definition) : List String :=
  importLines d.imports ++ serviceLines d.title d.version ++
    d.namespaces.flatMap fun n => n.lines ++ [""]

/-- The source text of a definition, without blanks at its ends. -/
def Definition.source (d : Definition) : String :=
  trimText ("\n".intercalate d.lines)

end ApiShapes.TypeSpec
