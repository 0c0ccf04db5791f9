import ApiShapes.CommandLine.EnvFile
import ApiShapes.Files.Tree
import ApiShapes.Checked

/-!
# Settings

Defaults of the commands that environment variables can change.  The names of the variables
start with a common prefix and are compared without regard to case; variables of the environment
win over those of the file `.env`.  That file may hold nothing else.
-/

namespace ApiShapes.CommandLine

structure Settings where
  ofNamespace : String
  title : Option String
  serverUrl : String
  serverDescription : String
  logLevel : String

def Settings.default : Settings :=
  ⟨"JsonApi", none, "https://api.example.com/v1", "Production server", "WARNING"⟩

def variablePrefix : String := "typespec_bridge_"

def settingNames : List String :=
  ["namespace", "title", "server_url", "server_description", "log_level"]

def envFilePath : Path :=
  .ofText ".env"

def smallText (s : String) : String :=
  String.ofList (Text.lower s.toList)

/-- Variables with their names in small letters; the last one of a name counts. -/
def smallNames {α : Type} (entries : Entries α) : Entries α :=
  .ofList (entries.map fun (name, value) => (smallText name, value))

/-- Whether a variable of the file belongs to the settings.  One without a value counts as
absent. -/
def isSettingVariable (name : String) : Bool :=
  settingNames.contains name || settingNames.any fun setting => variablePrefix ++ setting == name

/-- The faults of a file with variables that are no settings. -/
def unknownVariables (fileVariables : Entries (Option String)) : List Fault :=
  (fileVariables.filter fun (name, value) =>
      !isSettingVariable name && value.any (!·.isEmpty)).map fun (name, value) =>
    ⟨.unknownField, [.field name], .ofText? value⟩

/-- The value of a setting: that of the environment, or else that of the file. -/
def settingValue? (environment : Entries String) (fileVariables : Entries (Option String))
    (setting : String) : Option String :=
  let name := variablePrefix ++ setting
  match environment.get? name with
  | some value => some value
  | none => (fileVariables.get? name).getD none

/-- Reads the settings from the environment and the text of the file, if there is one. -/
def Settings.read (environment : Entries String) (envFile : Option String) : Checked Settings :=
  let fileVariables := smallNames ((envFile.map (readEnvFile environment)).getD [])
  let value? := settingValue? (smallNames environment) fileVariables
  match unknownVariables fileVariables with
  | first :: rest => .invalid ⟨first, rest⟩
  | [] =>
    .valid
      { ofNamespace := (value? "namespace").getD Settings.default.ofNamespace
        title := value? "title"
        serverUrl := (value? "server_url").getD Settings.default.serverUrl
        serverDescription := (value? "server_description").getD Settings.default.serverDescription
        logLevel := (value? "log_level").getD Settings.default.logLevel }

end ApiShapes.CommandLine
