import ApiShapes.CommandLine.Run

/-!
# The program

Runs the command line on the files below the working directory.  Everything that is decided is
decided by `CommandLine.run`; this module only reads the files and variables that a run can see,
prints what it reports and writes the file that it changes.
-/

namespace ApiShapes.Program

open CommandLine

/-- The beginnings of a path as written, the path itself last. -/
def beginnings (path : Path) : List Path :=
  (List.range path.names.length).map fun n => { path with names := path.names.take (n + 1) }

/-- The text of a file, or nothing if there is none that can be read. -/
def readText? (path : Path) : IO (Option String) := do
  try
    return some (← IO.FS.readFile path.text)
  catch _ => return none

/-- What a path leads to: a file with its text, a directory, for which an entry below it stands,
or nothing. -/
def entryAt (path : Path) : IO (List (Path × String)) := do
  match ← readText? path with
  | some text => return [(path, text)]
  | none =>
    let isDirectory ← ((← IO.currentDir) / path.text).isDir
    return if isDirectory then [({ path with names := path.names ++ [""] }, "")] else []

/-- The files that arguments name, wherever they stand, with the file of settings. -/
def filesFor (arguments : List String) : IO Files := do
  let words := arguments ++ arguments.map fun a => ((a.splitOn "=").drop 1).foldl (· ++ ·) ""
  let paths := (words.map Path.ofText).flatMap beginnings ++ [envFilePath]
  let mut files := Files.empty
  for path in paths do
    for (p, text) in ← entryAt path do
      files := files.put p text
  return files

/-- The variables of the settings, in small or capital letters. -/
def settingVariables : IO (Entries String) := do
  let mut found := []
  for setting in settingNames do
    let name := variablePrefix ++ setting
    for spelling in [name, name.map Char.toUpper] do
      if let some value ← IO.getEnv spelling then
        found := found ++ [(spelling, value)]
  return found

/-- Explains what stopped a run. -/
def explain : Abort → String
  | .settings faults | .model faults => "; ".intercalate (faults.toList.map (·.problem.message))
  | .unknownLevel level => "Unknown level: " ++ quoted level
  | .load fault => fault.message fun faults =>
    "; ".intercalate (faults.toList.map (·.problem.message))
  | .check fault => fault.message
  | .write fault => fault.message
  | .unprintable line => Text.unencodableMessage line.toList

end ApiShapes.Program

open ApiShapes ApiShapes.CommandLine in
/-- Runs the program and writes the file that it changed, if any. -/
def main (arguments : List String) : IO UInt32 := do
  let world : World := ⟨← Program.filesFor arguments, ← Program.settingVariables, .unicode⟩
  let outcome := run world arguments
  for line in outcome.output do
    IO.println line
  for line in outcome.notes do
    IO.eprintln (String.ofList (Text.escapeSurrogates line.toList))
  if let some abort := outcome.abort then
    IO.eprintln (Program.explain abort)
  for (path, text) in outcome.files.entries do
    if world.files.get? path != some text then
      let target := (← IO.currentDir) / path.text
      if let some directory := target.parent then
        IO.FS.createDirAll directory
      IO.FS.writeFile target text
  return outcome.exitCode.toUInt32
