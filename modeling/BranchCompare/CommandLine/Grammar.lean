import BranchCompare.Text.Quoted
import BranchCompare.Text.Padding

/-!
# Grammars of commands

What may stand after the name of a command: flags, which begin with a dash and may have a value,
and one operand.  The usage line and the help text of a command follow from its grammar.
-/

namespace BranchCompare.CommandLine

/-- What a flag is for. -/
inductive FlagUse where
  /-- The help text is shown, and nothing else is done. -/
  | help
  /-- The flag is given or not. -/
  | mark
  /-- The flag has a value, for which the placeholder stands in help texts. -/
  | value (placeholder : String)
  deriving DecidableEq, Repr

/-- A flag of a command.  Only flags without a value have names of one letter. -/
structure Flag where
  names : List String
  use : FlagUse
  help : String
  deriving DecidableEq, Repr

/-- What stands in a command without a flag. -/
structure Operand where
  name : String
  /-- The operand is a whole number. -/
  isNumber : Bool
  deriving DecidableEq, Repr

structure Grammar where
  /-- The name of the program and of the command. -/
  program : String
  operand : Option Operand
  /-- The flags apart from the one for help. -/
  ownFlags : List Flag
  deriving DecidableEq, Repr

def helpFlag : Flag := ⟨["-h", "--help"], .help, "show this help message and exit"⟩

def Flag.label (flag : Flag) : String := String.intercalate "/" flag.names

/-- A name of the flag as help texts show it. -/
def Flag.shown (flag : Flag) (name : String) : String :=
  match flag.use with
  | .value placeholder => name ++ " " ++ placeholder
  | _ => name

namespace Grammar

def flags (grammar : Grammar) : List Flag := helpFlag :: grammar.ownFlags

def flagNames (grammar : Grammar) : List (String × Flag) :=
  grammar.flags.flatMap fun flag => flag.names.map fun name => (name, flag)

def flagNamed? (grammar : Grammar) (name : String) : Option Flag := grammar.flagNames.lookup name

end Grammar

/-! ## Help -/

/-- A line of a list in a help text: a term and what it means. -/
structure HelpLine where
  indent : Nat
  term : String
  meaning : String

structure HelpSection where
  title : String
  lines : List HelpLine

structure HelpText where
  usage : String
  description : Option String
  sections : List HelpSection

namespace HelpText

/-- The column in which meanings start at the latest. -/
def lastColumn : Nat := 24

/-- The column in which meanings start: two after the longest term. -/
def column (help : HelpText) : Nat :=
  let ends := help.sections.flatMap fun part =>
    part.lines.map fun line => line.indent + line.term.length + 2
  min lastColumn (ends.foldl max 0)

/-- The text of a line, with its meaning in the given column if the term leaves room for it and
in the next line otherwise. -/
def lineText (column : Nat) (line : HelpLine) : String :=
  let term := Text.padRight line.indent "" ++ line.term
  if line.meaning = "" then term
  else if term.length + 2 ≤ column then Text.padRight column term ++ line.meaning
  else term ++ "\n" ++ Text.padRight column "" ++ line.meaning

def sectionText (column : Nat) (part : HelpSection) : String :=
  String.intercalate "\n" ((part.title ++ ":") :: part.lines.map (lineText column))

/-- The text, in which blank lines stand between the parts. -/
def render (help : HelpText) : String :=
  let parts := ("usage: " ++ help.usage) :: help.description.toList ++
    help.sections.map (sectionText help.column)
  String.intercalate "\n\n" parts

end HelpText

namespace Grammar

/-- The usage line of a command. -/
def usage (grammar : Grammar) : String :=
  let flags := grammar.flags.filterMap fun flag =>
    flag.names.head?.map fun name => "[" ++ flag.shown name ++ "]"
  String.intercalate " " (grammar.program :: flags ++
    (grammar.operand.map fun operand => operand.name).toList)

def flagLine (flag : Flag) : HelpLine :=
  ⟨2, String.intercalate ", " (flag.names.map flag.shown), flag.help⟩

def flagSection (grammar : Grammar) : HelpSection := ⟨"options", grammar.flags.map flagLine⟩

def operandTitle : String := "positional arguments"

/-- The help text of a command. -/
def helpText (grammar : Grammar) : HelpText where
  usage := grammar.usage
  description := none
  sections :=
    (grammar.operand.map fun operand =>
      (⟨operandTitle, [⟨2, operand.name, ""⟩]⟩ : HelpSection)).toList ++ [grammar.flagSection]

end Grammar

end BranchCompare.CommandLine
