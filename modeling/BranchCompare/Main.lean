import BranchCompare.CommandLine.Program
import BranchCompare.Http.Recorded

/-!
# The executable

Reads the environment and the files, runs the program, writes the file of the last selection, and
prints.  There is no network: the answers of the services are in a file of recorded answers.
-/

namespace BranchCompare.Main

def variablesFile : String := ".env"

def answersFile : String := "answers.json"

/-- What stands under a path.  What is there and cannot be read counts as a directory. -/
def readDocument (path : String) : IO Document := do
  try
    return .file (← IO.FS.readBinFile path).toList
  catch
    | .noFileOrDirectory .. => return .absent
    | _ => return .directory

/-- The text of a file, which is empty if there is none. -/
def readText (path : String) : IO (List Char) := do
  match (← readDocument path).octets with
  | .ok octets => return ((Document.textOf octets).toOption).getD []
  | .error _ => return []

def readEnvironment : IO (List (String × String)) := do
  let names := Settings.variableNames.flatMap fun name => [name, name.toUpper]
  names.filterMapM fun name => return (← IO.getEnv name).map fun value => (name, value)

def directoryOf (path : String) : String :=
  let above := path.toList.reverse.dropWhile (· != '/')
  String.ofList above.reverse

/-- Writes a document that is a file and has changed. -/
def writeDocument (path : String) (old new : Document) : IO Unit := do
  if old ≠ new then
    match new with
    | .file octets =>
      if directoryOf path ≠ "" then IO.FS.createDirAll (directoryOf path)
      IO.FS.writeBinFile path ⟨octets.toArray⟩
    | _ => return

def readRecord : IO Http.Record := do
  return ((Json.read (← readText answersFile)).toOption.map Http.Record.ofJson).getD []

/-- Runs the program with settings, and gives the exit status. -/
def runWith (settings : Settings) (arguments : List String) : IO UInt32 := do
  let selection ← readDocument settings.selectionFile
  let presets ← readDocument (settings.presetsFile.getD "")
  let record ← readRecord
  let outcome := CommandLine.runProgram settings ⟨selection, presets⟩ record.transport () arguments
  writeDocument settings.selectionFile selection outcome.selection
  IO.print outcome.printed
  for error in outcome.errors do
    IO.eprintln ("ERROR    | " ++ error)
  match outcome.misuse with
  | some (usage, misuse) => IO.eprintln (usage ++ "\n" ++ misuse)
  | none => pure ()
  match outcome.ending with
  | .ok status => return UInt32.ofNat status
  | .error breakdown =>
    IO.eprintln ((breakdown.message settings).getD "The run was broken off.")
    return 1

end BranchCompare.Main

def main (arguments : List String) : IO UInt32 := do
  let environment ← BranchCompare.Main.readEnvironment
  let file ← BranchCompare.Main.readText BranchCompare.Main.variablesFile
  match BranchCompare.Settings.ofProgram environment file with
  | .ok settings => BranchCompare.Main.runWith settings arguments
  | .issues found =>
    for issue in found do
      IO.eprintln ("Bad setting: " ++ String.intercalate "." issue.path)
    return 1
