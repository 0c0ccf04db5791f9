import ApiShapes.Files.Path
import ApiShapes.Entries
import ApiShapes.TypeSpec.Balance

/-!
# Checking the syntax of files

Files are checked by the suffixes of their names, in the letters as they stand: source files for
the balance of their braces, YAML and JSON files for their syntax.  Other files pass.
-/

namespace ApiShapes

def hasSuffix (suffix name : String) : Bool :=
  (Text.beforeSuffix? suffix.toList name.toList).isSome

/-- What is wrong with the syntax of a text that is not source text. -/
def syntaxComplaint (fault : DecodeFault) : String :=
  match fault with
  | .malformedJson fault =>
    "JSONDecodeError: " ++ fault.problem.message ++ " (line " ++
      String.ofList (Decimal.digits fault.line) ++ ")"
  | .malformedYaml what => "YAMLError: " ++ what.message
  | .oversized _ | .misfit _ | .endless => fault.message

/-- The complaint about a text that has to be decodable.  A text that is well-formed and denotes
no value stops the check. -/
def checkDecodable (codec : Codec) (text : String) : Except DecodeFault (Option String) :=
  match codec.decode text with
  | .ok _ => .ok none
  | .error fault => if fault.isSyntax then .ok (some (syntaxComplaint fault)) else .error fault

/-- The complaint about one file, if there is one. -/
def checkFile (name text : String) : Except DecodeFault (Option String) :=
  if hasSuffix ".tsp" name then
    let problems := TypeSpec.validateSource text
    .ok (if problems.isEmpty then none else some ("; ".intercalate problems))
  else if hasSuffix ".yaml" name || hasSuffix ".yml" name then checkDecodable .yaml text
  else if hasSuffix ".json" name then checkDecodable .json text
  else .ok none

/-- The complaints about files, by their names. -/
def checkFiles : Entries String → Except DecodeFault (Entries String)
  | [] => .ok []
  | (name, text) :: rest => do
    let complaint ← checkFile name text
    let more ← checkFiles rest
    return (complaint.map fun message => (name, message)).toList ++ more

end ApiShapes
