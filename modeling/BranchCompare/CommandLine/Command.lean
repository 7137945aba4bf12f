import BranchCompare.CommandLine.Arguments

/-!
# Commands

The four commands of the program, and the command line that asks for one of them.  Arguments that
stand before the name of a command belong to the program itself.
-/

namespace BranchCompare.CommandLine

inductive Command where
  /-- Shows the branches of a repository. -/
  | branches (repo : String) (looksForNews : Bool)
  /-- Compares two branches of a repository. -/
  | compare (repo : String) (old new : Option String)
  /-- Shows the open change requests of a repository. -/
  | requests (owner repo : Option String)
  /-- Compares the branches of a change request. -/
  | request (number : Int) (owner repo : Option String)
  deriving DecidableEq, Repr

inductive Verb where
  | branches
  | compare
  | requests
  | request
  deriving DecidableEq, Repr

def programName : String := "weight-compare"

def fetchFlag : Flag := ⟨["--fetch"], .mark, "Make the server fetch first."⟩

def oldFlag : Flag :=
  ⟨["--old"], .value "OLD", "First branch (default: last used or master)."⟩

def newFlag : Flag :=
  ⟨["--new"], .value "NEW", "Second branch (default: last used or master)."⟩

def ownerFlag : Flag := ⟨["--owner"], .value "OWNER", ""⟩

def repoFlag : Flag := ⟨["--repo"], .value "REPO", ""⟩

namespace Verb

def all : List Verb := [branches, compare, requests, request]

/-- The word for a command. -/
def word : Verb → String
  | branches => "branches"
  | compare => "compare"
  | requests => "mrs"
  | request => "mr"

def ofWord? (text : String) : Option Verb := all.find? fun verb => verb.word = text

/-- What a command does. -/
def summary : Verb → String
  | branches => "List the branches of a repository."
  | compare => "Build the compare URL for two branches."
  | requests => "List open change requests."
  | request => "Build the compare URL for one change request."

/-- What a command takes. -/
def grammar (verb : Verb) : Grammar :=
  let program := programName ++ " " ++ verb.word
  match verb with
  | branches => ⟨program, some ⟨"repo", false⟩, [fetchFlag]⟩
  | compare => ⟨program, some ⟨"repo", false⟩, [oldFlag, newFlag]⟩
  | requests => ⟨program, none, [ownerFlag, repoFlag]⟩
  | request => ⟨program, some ⟨"number", true⟩, [ownerFlag, repoFlag]⟩

/-- The command with its arguments.  The grammar has made sure that its operand is there. -/
def command (verb : Verb) (arguments : Arguments) : Command :=
  match verb, arguments.operand with
  | branches, some (.text repo) => .branches repo (arguments.has fetchFlag)
  | branches, _ => .branches "" (arguments.has fetchFlag)
  | compare, some (.text repo) =>
    .compare repo (arguments.valueOf? oldFlag) (arguments.valueOf? newFlag)
  | compare, _ => .compare "" (arguments.valueOf? oldFlag) (arguments.valueOf? newFlag)
  | requests, _ => .requests (arguments.valueOf? ownerFlag) (arguments.valueOf? repoFlag)
  | request, some (.number number) =>
    .request number (arguments.valueOf? ownerFlag) (arguments.valueOf? repoFlag)
  | request, _ => .request 0 (arguments.valueOf? ownerFlag) (arguments.valueOf? repoFlag)

end Verb

/-! ## The program -/

def programGrammar : Grammar := ⟨programName, none, []⟩

def commandWords : String :=
  "\x7b" ++ String.intercalate "," (Verb.all.map Verb.word) ++ "\x7d"

/-- The help text of the program. -/
def programHelp : HelpText where
  usage := programName ++ " [-h] " ++ commandWords ++ " ..."
  description := some "Weight compare workflow controller"
  sections :=
    [⟨Grammar.operandTitle,
      ⟨2, commandWords, ""⟩ :: Verb.all.map fun verb => ⟨4, verb.word, verb.summary⟩⟩,
    programGrammar.flagSection]

/-- What a command line asks for. -/
inductive Invocation where
  | run (command : Command)
  | help (text : HelpText)
  /-- The command line cannot be followed by the program or by one of its commands, which has this
  usage line. -/
  | misuse (program usage : String) (error : Misuse)

namespace Invocation

/-- The misuse of the program itself. -/
def refuse (error : Misuse) : Invocation := .misuse programName programHelp.usage error

/-- The invocation of a command with what stands after its name.  Arguments that belong to nothing
are refused in the end, those before the name first. -/
def ofVerb (verb : Verb) (strays rest : List String) : Invocation :=
  match Reading.ofArguments verb.grammar rest with
  | .error error => .misuse verb.grammar.program verb.grammar.usage error
  | .ok .help => .help verb.grammar.helpText
  | .ok (.arguments found) =>
    match strays ++ found.strays with
    | [] => .run (verb.command found)
    | strays => refuse (.unknownArguments strays)

/-- The invocation by a word where the name of a command is expected. -/
def ofWord (word : String) (strays rest : List String) : Invocation :=
  match Verb.ofWord? word with
  | some verb => ofVerb verb strays rest
  | none => refuse (.unknownCommand word (Verb.all.map Verb.word))

/-- The invocation by arguments, after the given ones that belong to nothing.  A double dash never
makes room for a command. -/
def after (strays : List String) : List String → Invocation
  | [] => refuse (.missingOperand "command")
  | argument :: rest =>
    if argument = "--" then
      if rest.isEmpty then refuse (.missingOperand "command") else ofWord argument strays rest
    else
      match Token.ofArgument programGrammar argument with
      | .error error => refuse error
      | .ok (.word word) => ofWord word strays rest
      | .ok (.stray text) => after (strays ++ [text]) rest
      | .ok .dash => after strays rest
      | .ok (.flag flag name value) =>
        match value.map (Reading.checkUnused programGrammar flag name) with
        | some (.error error) => refuse error
        | _ => .help programHelp

def ofArguments (arguments : List String) : Invocation := after [] arguments

end Invocation

end BranchCompare.CommandLine
