import BranchCompare.CommandLine.Grammar
import BranchCompare.Text.Digit
import BranchCompare.Text.Split

/-!
# Tokens of a command line

Every argument of a command line is one token.  A flag may be written as a beginning of its name
that belongs to no other flag, and its value after an equals sign.  Negative numbers and arguments
with a space are words, and so is everything after the first double dash.
-/

namespace BranchCompare.CommandLine

open BranchCompare.Text

inductive Misuse where
  /-- A flag is cut off where several flags fit. -/
  | ambiguous (argument : String) (names : List String)
  | missingValue (flag : Flag)
  /-- A flag that has no value is given one. -/
  | unusedValue (flag : Flag) (value : String)
  | notANumber (operand : Operand) (text : String)
  | missingOperand (name : String)
  /-- There is no such command among the known ones. -/
  | unknownCommand (name : String) (known : List String)
  /-- Arguments that no flag and no operand takes. -/
  | unknownArguments (arguments : List String)
  deriving DecidableEq, Repr

/-- The misuse in words. -/
def Misuse.message : Misuse → String
  | .ambiguous argument names =>
    let names := String.intercalate ", " names
    s!"ambiguous option: {argument} could match {names}"
  | .missingValue flag => s!"argument {flag.label}: expected one argument"
  | .unusedValue flag value =>
    s!"argument {flag.label}: ignored explicit argument {quoted value}"
  | .notANumber operand text => s!"argument {operand.name}: invalid int value: {quoted text}"
  | .missingOperand name => s!"the following arguments are required: {name}"
  | .unknownCommand name known =>
    let known := String.intercalate ", " (known.map quoted)
    s!"argument command: invalid choice: {quoted name} (choose from {known})"
  | .unknownArguments arguments =>
    "unrecognized arguments: " ++ String.intercalate " " arguments

/-- An argument in its role. -/
inductive Token where
  | word (text : String)
  /-- The first double dash. -/
  | dash
  /-- A flag under one of its names, with the value after the equals sign or directly after a name
  of one letter. -/
  | flag (flag : Flag) (name : String) (value : Option String)
  /-- What looks like a flag and is none. -/
  | stray (text : String)
  deriving DecidableEq, Repr

namespace Token

def isDigits (cs : List Char) : Bool :=
  !cs.isEmpty && cs.all fun c => (decimalDigit? c).isSome

/-- Whether the text after a dash makes a negative number: digits, among which a point may stand
that is not the last.  One line feed may follow. -/
def isNumeral (cs : List Char) : Bool :=
  let cs := if cs.getLast? = some '\n' then cs.dropLast else cs
  match cutAt (· == '.') cs with
  | (whole, none) => isDigits whole
  | (whole, some fraction) => (whole.isEmpty || isDigits whole) && isDigits fraction

/-- The flags that an argument may mean which names none in full. -/
def candidates (grammar : Grammar) (argument : List Char) : List (String × Token) :=
  match argument with
  | '-' :: '-' :: _ =>
    let (start, value) := cutAt (· == '=') argument
    grammar.flagNames.filterMap fun (name, meant) =>
      if start.isPrefixOf name.toList then
        some (name, .flag meant name (value.map String.ofList))
      else none
  | _ =>
    grammar.flagNames.filterMap fun (name, meant) =>
      if name.toList = argument.take 2 then
        some (name, .flag meant name (some (String.ofList (argument.drop 2))))
      else if argument.isPrefixOf name.toList then some (name, .flag meant name none)
      else none

/-- The flag that an argument names in full, with the value after an equals sign. -/
def namedFlag? (grammar : Grammar) (argument : List Char) : Option Token :=
  let whole := String.ofList argument
  match grammar.flagNamed? whole with
  | some meant => some (.flag meant whole none)
  | none =>
    match cutAt (· == '=') argument with
    | (name, some value) =>
      let name := String.ofList name
      (grammar.flagNamed? name).map fun meant => .flag meant name (some (String.ofList value))
    | (_, none) => none

/-- The role of an argument before the first double dash. -/
def ofArgument (grammar : Grammar) (argument : String) : Except Misuse Token :=
  match argument.toList with
  | '-' :: c :: rest =>
    let cs := '-' :: c :: rest
    match namedFlag? grammar cs with
    | some token => .ok token
    | none =>
      match candidates grammar cs with
      | [(_, token)] => .ok token
      | [] =>
        if isNumeral (c :: rest) || cs.contains ' ' then .ok (.word argument)
        else .ok (.stray argument)
      | several => .error (.ambiguous argument (several.map (·.1)))
  | _ => .ok (.word argument)

/-- The roles of arguments. -/
def ofArguments (grammar : Grammar) : List String → Except Misuse (List Token)
  | [] => .ok []
  | argument :: rest =>
    if argument = "--" then .ok (.dash :: rest.map .word)
    else do
      let token ← ofArgument grammar argument
      let tokens ← ofArguments grammar rest
      return token :: tokens

end Token

end BranchCompare.CommandLine
