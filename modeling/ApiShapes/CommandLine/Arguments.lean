import ApiShapes.Files.Load

/-!
# Arguments of the program

The program has three commands, each with options, one input path and a required output path.
Options may stand anywhere after the command and are read to the last of several; a word of two
dashes ends them.  What a command line lacks or has too much of is a usage fault.
-/

namespace ApiShapes.CommandLine

inductive OptionName where
  | verbose
  | help
  | output
  | server
  | format
  | ofNamespace
  | title
  | operations
  | noRelationships
  deriving DecidableEq

def OptionName.spellings : OptionName → List String
  | .verbose => ["-v", "--verbose"]
  | .help => ["--help"]
  | .output => ["-o", "--output"]
  | .server => ["--server"]
  | .format => ["--format"]
  | .ofNamespace => ["--namespace"]
  | .title => ["--title"]
  | .operations => ["--operations"]
  | .noRelationships => ["--no-relationships"]

def OptionName.takesValue : OptionName → Bool
  | .output | .server | .format | .ofNamespace | .title => true
  | .verbose | .help | .operations | .noRelationships => false

inductive Command where
  | toTypeSpec
  | toOpenApi
  | toJsonApi
  deriving DecidableEq

def Command.name : Command → String
  | .toTypeSpec => "to-typespec"
  | .toOpenApi => "to-openapi"
  | .toJsonApi => "to-jsonapi"

def Command.all : List Command :=
  [.toTypeSpec, .toOpenApi, .toJsonApi]

def Command.options : Command → List OptionName
  | .toTypeSpec =>
    [.output, .format, .ofNamespace, .title, .operations, .noRelationships, .help]
  | .toOpenApi =>
    [.output, .server, .format, .ofNamespace, .title, .operations, .noRelationships, .help]
  | .toJsonApi => [.output, .ofNamespace, .help]

/-- The options before the command. -/
def generalOptions : List OptionName :=
  [.verbose, .help]

inductive UsageFault where
  | missingCommand
  | noSuchCommand (name : String)
  | noSuchOption (spelling : String)
  | valueRequired (spelling : String)
  | noValueTaken (spelling : String)
  | missingInput
  | missingOutput
  | noSuchPath (written : String)
  | noSuchFormat (written : String)
  | extraArguments (arguments : List String)
  | notConvertible
  deriving DecidableEq

/-- The formats that an input can be said to have. -/
def inputFormats : List (String × Option Representation) :=
  [("auto", none), ("jsonapi", some .jsonApi), ("typespec", some .typeSpec),
    ("openapi", some .openApi)]

def UsageFault.message : UsageFault → String
  | .missingCommand => "Missing command."
  | .noSuchCommand name => "No such command " ++ quoted name ++ "."
  | .noSuchOption spelling => "No such option " ++ quoted spelling ++ "."
  | .valueRequired spelling => "Option " ++ quoted spelling ++ " requires an argument."
  | .noValueTaken spelling => "Option " ++ quoted spelling ++ " does not take a value."
  | .missingInput => "Missing argument 'DOC_PATH'."
  | .missingOutput => "Missing option '-o' / '--output'."
  | .noSuchPath written =>
    "Invalid value for 'DOC_PATH': Path " ++ quoted written ++ " does not exist."
  | .noSuchFormat written =>
    "Invalid value for '--format': " ++ quoted written ++ " is not one of " ++
      ", ".intercalate (inputFormats.map fun (name, _) => quoted name) ++ "."
  | .extraArguments arguments =>
    "Got unexpected extra argument" ++ (if arguments.length = 1 then "" else "s") ++ " (" ++
      " ".intercalate arguments ++ ")"
  | .notConvertible => "OpenAPI documents can only be produced, not converted from."

/-- Whether the complaint comes with a reminder of the usage. -/
def UsageFault.remindsOfUsage : UsageFault → Bool
  | .valueRequired _ | .noValueTaken _ => false
  | _ => true

/-- The options of a command line in the order given, those without a value with an empty one,
and the other arguments. -/
structure Arguments where
  options : List (OptionName × String)
  others : List String

/-- What a word that starts with a dash says: options with their values, and perhaps an option
whose value is the next argument. -/
structure OptionWord where
  options : List (OptionName × String)
  awaiting : Option (OptionName × String)

def findOption (known : List OptionName) (spelling : String) : Option OptionName :=
  known.find? (·.spellings.contains spelling)

/-- Reads the letters of a word of short options; a letter that takes a value takes the letters
after it. -/
def readLetters (known : List OptionName) : List Char → Except UsageFault OptionWord
  | [] => .ok ⟨[], none⟩
  | c :: rest =>
    let spelling := String.ofList ['-', c]
    match findOption known spelling with
    | none => .error (.noSuchOption spelling)
    | some option =>
      if option.takesValue then
        if rest.isEmpty then .ok ⟨[], some (option, spelling)⟩
        else .ok ⟨[(option, String.ofList rest)], none⟩
      else (readLetters known rest).map fun w => { w with options := (option, "") :: w.options }

/-- Reads a word that starts with two dashes; a value may follow an equals sign. -/
def readLongOption (known : List OptionName) (word : String) : Except UsageFault OptionWord :=
  let (spelling, value) :=
    match Text.cut? ['='] word.toList with
    | some (before, after) => (String.ofList before, some (String.ofList after))
    | none => (word, none)
  match findOption known spelling with
  | none => .error (.noSuchOption spelling)
  | some option =>
    match value, option.takesValue with
    | some value, true => .ok ⟨[(option, value)], none⟩
    | some _, false => .error (.noValueTaken spelling)
    | none, true => .ok ⟨[], some (option, spelling)⟩
    | none, false => .ok ⟨[(option, "")], none⟩

/-- Reads a word that starts with a dash. -/
def readOptionWord (known : List OptionName) (word : String) : Except UsageFault OptionWord :=
  if Text.startsWith ['-', '-'] word.toList then readLongOption known word
  else readLetters known (word.toList.drop 1)

def isOptionWord (word : String) : Bool :=
  word.toList.head? == some '-' && 1 < word.length

/-- Reads arguments.  Options may follow other arguments only if `mixed` says so. -/
def readArguments (known : List OptionName) (mixed : Bool) :
    List String → Except UsageFault Arguments
  | [] => .ok ⟨[], []⟩
  | word :: rest =>
    if word = "--" then .ok ⟨[], rest⟩
    else if isOptionWord word then
      match readOptionWord known word with
      | .error fault => .error fault
      | .ok ⟨options, none⟩ =>
        (readArguments known mixed rest).map fun a => { a with options := options ++ a.options }
      | .ok ⟨options, some (option, spelling)⟩ =>
        match rest with
        | [] => .error (.valueRequired spelling)
        | value :: rest =>
          (readArguments known mixed rest).map fun a =>
            { a with options := options ++ (option, value) :: a.options }
    else if mixed then
      (readArguments known mixed rest).map fun a => { a with others := word :: a.others }
    else .ok ⟨[], word :: rest⟩

namespace Arguments

def has (a : Arguments) (option : OptionName) : Bool :=
  a.options.any fun (o, _) => o == option

def values (a : Arguments) (option : OptionName) : List String :=
  (a.options.filter fun (o, _) => o == option).map (·.2)

/-- The value given last. -/
def value? (a : Arguments) (option : OptionName) : Option String :=
  (a.values option).getLast?

end Arguments

/-- What a command is asked to do. -/
structure Request where
  input : Path
  output : Path
  formatName : String
  format : Option Representation
  servers : List String
  ofNamespace : Option String
  title : Option String
  withOperations : Bool
  withRelationships : Bool

/-- A value that has to be there. -/
def required {α : Type} (fault : UsageFault) : Option α → Except UsageFault α
  | some a => .ok a
  | none => .error fault

def refuseIf (condition : Bool) (fault : UsageFault) : Except UsageFault Unit :=
  if condition then .error fault else .ok ()

/-- Checks the arguments of a command: the format, the input path, the output path, and last that
nothing is left over. -/
def Request.ofArguments (files : Files) (a : Arguments) : Except UsageFault Request := do
  let formatName := (a.value? .format).getD "auto"
  let format ← required (.noSuchFormat formatName) (inputFormats.lookup formatName)
  let input ← required .missingInput a.others.head?
  refuseIf (!files.leadsSomewhere input) (.noSuchPath input)
  let output ← required .missingOutput (a.value? .output)
  refuseIf (!a.others.tail.isEmpty) (.extraArguments a.others.tail)
  return {
    input := .ofText input
    output := .ofText output
    formatName
    format
    servers := a.values .server
    ofNamespace := a.value? .ofNamespace
    title := a.value? .title
    withOperations := a.has .operations
    withRelationships := !a.has .noRelationships }

end ApiShapes.CommandLine
