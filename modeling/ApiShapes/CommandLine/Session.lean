import ApiShapes.CommandLine.Arguments
import ApiShapes.CommandLine.Settings

/-!
# Sessions of the program

A session collects what the program prints, works on the files and stops early when something is
wrong; what it has done until then remains.  Log lines and echoed notes share one stream, in the
order of time; log lines below a threshold are dropped.  A line that the console does not take stops
the session, unless it is a log line.
-/

namespace ApiShapes.CommandLine

/-- What is behind the two streams that a program prints on: whether a stream takes a line after
those that it has taken.  It does not if it has been closed, or if its encoding lacks a character of
the line. -/
structure Console where
  takesOutput (printed : List String) (line : String) : Bool
  takesNote (printed : List String) (line : String) : Bool

/-- A console that stays open and knows all characters.  Where a note holds a lone surrogate, the
stream of the notes shows its escape. -/
def Console.unicode : Console where
  takesOutput _ line := Text.isEncodable line.toList
  takesNote _ _ := true

/-- Faults that the program does not expect and does not explain. -/
inductive Abort where
  | settings (faults : Faults)
  | unknownLevel (level : String)
  | load (fault : LoadFault DecodeFault)
  | check (fault : DecodeFault)
  | write (fault : FileFault)
  | model (faults : Faults)
  | unprintable (line : String)

/-- Why a session stops before its end. -/
inductive Stop where
  | help (command : Option Command)
  | usage (command : Option Command) (fault : UsageFault)
  | failed (message : String)
  | aborted (abort : Abort)

/-- What a session has done so far: the lines printed on the output and on the error stream, and
the files as they stand. -/
structure Effects where
  output : List String
  notes : List String
  files : Files

abbrev Session (α : Type) := ReaderT Console (ExceptT Stop (StateM Effects)) α

def stop {α : Type} (reason : Stop) : Session α :=
  throw reason

def stopIf (condition : Bool) (reason : Stop) : Session Unit :=
  if condition then stop reason else pure ()

def echo (line : String) : Session Unit := do
  if (← read).takesOutput (← get).output line then
    modify fun e => { e with output := e.output ++ [line] }
  else stop (.aborted (.unprintable line))

def note (line : String) : Session Unit := do
  if (← read).takesNote (← get).notes line then
    modify fun e => { e with notes := e.notes ++ [line] }
  else stop (.aborted (.unprintable line))

/-- The files as they stand. -/
def currentFiles : Session Files :=
  return (← get).files

/-- The value of a computation, or the end of the session. -/
def orStop {ε α : Type} (reason : ε → Stop) : Except ε α → Session α
  | .ok a => pure a
  | .error e => stop (reason e)

def orAbort {α : Type} : Checked α → Session α
  | .valid a => pure a
  | .invalid faults => stop (.aborted (.model faults))

def writeFile (path : Path) (text : String) : Session Unit := do
  let (result, files) := (← currentFiles).write path text
  modify fun e => { e with files }
  orStop (fun fault => .aborted (.write fault)) result

/-- The names of the log levels with their weights. -/
def logLevels : List (String × Nat) :=
  [("CRITICAL", 50), ("FATAL", 50), ("ERROR", 40), ("WARN", 30), ("WARNING", 30), ("INFO", 20),
    ("DEBUG", 10), ("NOTSET", 0)]

inductive Severity where
  | debug
  | warning
  | error
  deriving DecidableEq

def Severity.name : Severity → String
  | .debug => "DEBUG"
  | .warning => "WARNING"
  | .error => "ERROR"

def Severity.weight (s : Severity) : Nat :=
  (logLevels.lookup s.name).getD 0

/-- The parts of the program that write log lines. -/
inductive Logger where
  | sourceReader
  | toTypeSpec
  | toJsonApi
  deriving DecidableEq

def Logger.name : Logger → String
  | .sourceReader => "typespec_bridge.parser.typespec"
  | .toTypeSpec => "typespec_bridge.converter.jsonapi_to_typespec"
  | .toJsonApi => "typespec_bridge.converter.typespec_to_jsonapi"

/-- Writes a log line unless it lies below the threshold.  One that the console does not take is
lost. -/
def log (threshold : Nat) (severity : Severity) (logger : Logger) (message : String) :
    Session Unit := do
  let line := severity.name ++ " " ++ logger.name ++ ": " ++ message
  if threshold ≤ severity.weight && (← read).takesNote (← get).notes line then
    modify fun e => { e with notes := e.notes ++ [line] }

end ApiShapes.CommandLine
