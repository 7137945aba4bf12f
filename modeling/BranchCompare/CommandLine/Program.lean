import BranchCompare.CommandLine.Execution

/-!
# The program

A run of the program with the arguments of a command line.  The level of messages is looked up
before anything else; then the arguments are read; then the command is executed.
-/

namespace BranchCompare.CommandLine

/-- What a run of the program comes to. -/
structure Outcome (S : Type) where
  /-- What is printed. -/
  printed : String
  /-- The errors that are told of and let through. -/
  errors : List String
  /-- The usage line and the misuse of a command line that cannot be followed. -/
  misuse : Option (String × String)
  /-- The exit status, or what broke the run off. -/
  ending : Except Breakdown Nat
  /-- The file of the last selection afterwards. -/
  selection : Document
  state : S

variable {S : Type}

/-- What broke a run off, in words, where it has words of its own. -/
def Breakdown.message (settings : Settings) : Breakdown → Option String
  | .logLevel error => some error.message
  | .client fault => some fault.message
  | .selection (.decode fault) => some fault.message
  | .selection (.tooManyDigits count) => some (Json.ReadError.tooManyDigits count).message
  | .presets path error => error.message path
  | .controls error => some error.message
  | .outOfTime => none
  | .operation (.remote message) => some message
  | .operation (.notAPair error) => some error.message
  | .operation (.url fault) => some fault.message
  | .operation (.address fault) => some fault.message
  | .operation (.store error) => some (error.message settings.selectionFile)
  | .operation _ => none

def printLines (lines : List String) : String :=
  String.join (lines.map fun line => line ++ "\n")

/-- The outcome of a report, with the errors that the level lets through. -/
def Outcome.ofReport (least : LogLevel) (report : Report S) : Outcome S where
  printed := printLines report.lines
  errors := if least.passes .error then report.errors else []
  misuse := none
  ending := report.ending
  selection := report.selection
  state := report.state

/-- The outcome of an invocation. -/
def Invocation.outcome (settings : Settings) (files : Files) (transport : Http.Transport S)
    (state : S) (least : LogLevel) : Invocation → Outcome S
  | .run command => .ofReport least (command.execute settings files transport state)
  | .help text => ⟨printLines [text.render], [], none, .ok succeeded, files.selection, state⟩
  | .misuse program usage error =>
    ⟨"", [], some ("usage: " ++ usage, program ++ ": error: " ++ error.message), .ok misused,
      files.selection, state⟩

/-- Runs the program. -/
def runProgram (settings : Settings) (files : Files) (transport : Http.Transport S) (state : S)
    (arguments : List String) : Outcome S :=
  match LogLevel.ofName settings.logLevel with
  | .error error => ⟨"", [], none, .error (.logLevel error), files.selection, state⟩
  | .ok least =>
    (Invocation.ofArguments arguments).outcome settings files transport state least

end BranchCompare.CommandLine
