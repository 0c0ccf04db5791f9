import ApiShapes.CommandLine.Session
import ApiShapes.Conversion.Definition
import ApiShapes.Conversion.Schema
import ApiShapes.Files.Check
import ApiShapes.OpenApi.Generation
import ApiShapes.OpenApi.References
import ApiShapes.TypeSpec.Source

/-!
# Running commands

Each command loads its input, converts it and prepares the text of its output file.  The file is
written last.
-/

namespace ApiShapes.CommandLine

open Conversion

/-- What a run starts from. -/
structure World where
  files : Files
  environment : Entries String
  console : Console

def World.settings (w : World) : Session Settings := do
  let envFile := ((← currentFiles).read envFilePath).toOption
  match Settings.read w.environment envFile with
  | .valid settings => return settings
  | .invalid faults => stop (.aborted (.settings faults))

/-- Logs a conversion's warnings and failures, then echoes them; failures end the session. -/
def reportResult {α : Type} (threshold : Nat) (logger : Logger) (result : Result α) :
    Session Unit := do
  for failure in result.failures do
    log threshold .error logger failure.message
  for warning in result.warnings do
    log threshold .warning logger warning.message
  for warning in result.warnings do
    note ("  warning: " ++ warning.message)
  for failure in result.failures do
    note ("  error: " ++ failure.message)
  stopIf (!result.succeeded)
    (.failed ("Conversion failed with " ++ numberText result.failures.length ++ " error(s)."))

/-- Reads the definition of a source file and logs the lines passed over. -/
def loadSource (threshold : Nat) (path : Path) : Session TypeSpec.Definition := do
  let source ← orStop (fun fault => .aborted (.load (.file fault))) ((← currentFiles).read path)
  for line in (TypeSpec.readSource source).ignored do
    log threshold .debug .sourceReader ("Ignoring TypeSpec line: " ++ line)
  orAbort (TypeSpec.Definition.read source)

/-- A fault of syntax is explained, another one aborts the run. -/
def loadStop (fault : LoadFault DecodeFault) : Stop :=
  if fault.isLoadError then .failed (fault.message fun _ => "") else .aborted (.load fault)

/-- The representation that a request names, or else that of its input. -/
def inputRepresentation (request : Request) : Session Representation := do
  match request.format with
  | some representation => return representation
  | none =>
    orStop (fun fault => .aborted (.load fault))
      (detectRepresentation (← currentFiles) request.input)

/-- Loads an input of any format that definitions can be made of. -/
def loadDefinition (threshold : Nat) (command : Command) (request : Request)
    (options : Options) : Session TypeSpec.Definition := do
  match ← inputRepresentation request with
  | .openApi => stop (.usage (some command) .notConvertible)
  | .typeSpec =>
    let definition ← loadSource threshold request.input
    echo ("Parsed " ++ numberText definition.models.length ++ " models.")
    return definition
  | .jsonApi =>
    let document ← orStop loadStop (loadDocument (← currentFiles) request.input)
    let result ← orAbort (definitionOfDocument document options)
    reportResult threshold .toTypeSpec result
    echo ("Converted " ++ numberText result.data.models.length ++ " serializers.")
    return result.data

/-- The options of a conversion; empty texts count as not given. -/
def conversionOptions (request : Request) (settings : Settings) : Options :=
  { ofNamespace := firstGiven [request.ofNamespace, some settings.ofNamespace]
    title := firstGiven [request.title, settings.title]
    version := none
    description := none
    withOperations := request.withOperations
    withRelationships := request.withRelationships }

def serversOf (request : Request) (settings : Settings) : List OpenApi.Server :=
  if request.servers.isEmpty then [⟨settings.serverUrl, some settings.serverDescription⟩]
  else request.servers.map fun url => ⟨url, none⟩

/-- The definition that a command starts from, with the settings. -/
def readDefinition (w : World) (threshold : Nat) (command : Command) (request : Request) :
    Session (Settings × TypeSpec.Definition) := do
  echo ("Reading " ++ request.input.text ++ " (format: " ++ request.formatName ++ ")...")
  let settings ← w.settings
  let definition ← loadDefinition threshold command request (conversionOptions request settings)
  return (settings, definition)

/-- The text that a command writes. -/
def produce (w : World) (threshold : Nat) (command : Command) (request : Request) :
    Session String := do
  match command with
  | .toJsonApi =>
    echo ("Reading " ++ request.input.text ++ "...")
    let definition ← loadSource threshold request.input
    let options := { Options.default with ofNamespace := request.ofNamespace }
    let result ← orAbort (schemaOfDefinition definition options)
    reportResult threshold .toJsonApi result
    echo ("Converted " ++ numberText result.data.serializers.length ++ " models.")
    return request.output.codec.encode (result.data.dump .hidden)
  | .toTypeSpec =>
    let (_, definition) ← readDefinition w threshold command request
    return definition.source ++ "\n"
  | .toOpenApi =>
    let (settings, definition) ← readDefinition w threshold command request
    let document := OpenApi.generate definition (some (serversOf request settings))
    for ref in document.unresolvedReferences do
      note ("  warning: unresolved reference " ++ ref)
    return request.output.codec.encode document.dump

/-- The threshold of log lines: that of the settings, or the lowest if the run is verbose. -/
def logThreshold (w : World) (verbose : Bool) : Session Nat := do
  if verbose then return Severity.debug.weight
  else
    let level := String.ofList (Text.upper (← w.settings).logLevel.toList)
    match logLevels.lookup level with
    | some weight => return weight
    | none => stop (.aborted (.unknownLevel level))

/-- The command that a command line names and its request, with the threshold of log lines. -/
def readRequest (w : World) (arguments : List String) : Session (Nat × Command × Request) := do
  let general ← orStop (.usage none) (readArguments generalOptions false arguments)
  stopIf (arguments.isEmpty || general.has .help) (.help none)
  match general.others with
  | [] => stop (.usage none .missingCommand)
  | name :: rest =>
    match Command.all.find? (·.name == name) with
    | none =>
      stop (.usage none (if isOptionWord name then .noSuchOption name else .noSuchCommand name))
    | some command =>
      let threshold ← logThreshold w (general.has .verbose)
      let given ← orStop (.usage (some command)) (readArguments command.options true rest)
      stopIf (given.has .help) (.help (some command))
      let request ← orStop (.usage (some command)) (Request.ofArguments (← currentFiles) given)
      return (threshold, command, request)

/-- The file that a command line asks for.  Its syntax is checked, which only adds notes. -/
def prepare (w : World) (arguments : List String) : Session (Path × String) := do
  let (threshold, command, request) ← readRequest w arguments
  let text ← produce w threshold command request
  let complaints ←
    orStop (fun fault => .aborted (.check fault)) (checkFiles [(request.output.name, text)])
  for (name, complaint) in complaints do
    note ("  validation error in " ++ name ++ ": " ++ complaint)
  return (request.output, text)

/-- Writes the file that a command line asks for. -/
def session (w : World) (arguments : List String) : Session Unit := do
  let (path, text) ← prepare w arguments
  writeFile path text
  echo ("Saved " ++ path.text)

def programName : String := "typespec-bridge"

/-- The line that reminds of the usage of the program or a command. -/
def usageLine : Option Command → String
  | none => "Usage: " ++ programName ++ " [OPTIONS] COMMAND [ARGS]..."
  | some command => "Usage: " ++ programName ++ " " ++ command.name ++ " [OPTIONS] DOC_PATH"

/-- The line that points to the help. -/
def helpHint : Option Command → String
  | none => "Try '" ++ programName ++ " --help' for help."
  | some command => "Try '" ++ programName ++ " " ++ command.name ++ " --help' for help."

/-- The last notes of a session that stops. -/
def Stop.notes : Stop → List String
  | .help _ | .aborted _ => []
  | .failed message => ["Error: " ++ message]
  | .usage command fault =>
    (if fault.remindsOfUsage then [usageLine command, helpHint command, ""] else []) ++
      ["Error: " ++ fault.message]

def Stop.exitCode : Stop → Nat
  | .help _ => 0
  | .failed _ | .aborted _ => 1
  | .usage _ _ => 2

/-- The lines that help prints on the output. -/
def Stop.output : Stop → List String
  | .help command => [usageLine command]
  | _ => []

def Stop.abort? : Stop → Option Abort
  | .aborted abort => some abort
  | _ => none

/-- Prints why a session stopped. -/
def report (reason : Stop) : Session Unit := do
  for line in reason.output do
    echo line
  for line in reason.notes do
    note line

/-- A session whose stop is reported before it ends. -/
def reported (x : Session Unit) : Session Unit := do
  try x
  catch reason =>
    report reason
    stop reason

/-- How a run ended: what it printed, the files after it, and the fault that aborted it. -/
structure Outcome where
  exitCode : Nat
  output : List String
  notes : List String
  files : Files
  abort : Option Abort

/-- Runs the program. -/
def run (w : World) (arguments : List String) : Outcome :=
  let (result, effects) :=
    ((reported (session w arguments)).run w.console).run.run ⟨[], [], w.files⟩
  match result with
  | .ok () => ⟨0, effects.output, effects.notes, effects.files, none⟩
  | .error reason =>
    ⟨reason.exitCode, effects.output, effects.notes, effects.files, reason.abort?⟩

end ApiShapes.CommandLine
