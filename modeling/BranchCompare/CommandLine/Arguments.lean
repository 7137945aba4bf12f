import BranchCompare.CommandLine.Token
import BranchCompare.Decimal.Reader

/-!
# Arguments of a command

The arguments of a command are taken from left to right.  The flag for help stops at once.  What
neither a flag nor the operand takes is kept, so that the whole command line can be refused.
-/

namespace BranchCompare.CommandLine

inductive OperandValue where
  | text (text : String)
  | number (number : Int)
  deriving DecidableEq, Repr

/-- Reads an operand. -/
def Operand.read (operand : Operand) (text : String) : Except Misuse OperandValue :=
  if operand.isNumber then
    match Decimal.readInt? text with
    | some number => .ok (.number number)
    | none => .error (.notANumber operand text)
  else .ok (.text text)

structure Arguments where
  operand : Option OperandValue
  /-- The flags that are given, in order.  A flag may be given without its value. -/
  given : List (Flag × Option String)
  /-- Arguments that belong to nothing. -/
  strays : List String
  deriving DecidableEq, Repr

namespace Arguments

def none : Arguments := ⟨.none, [], []⟩

def give (arguments : Arguments) (flag : Flag) (value : Option String) : Arguments :=
  { arguments with given := arguments.given ++ [(flag, value)] }

def stray (arguments : Arguments) (text : String) : Arguments :=
  { arguments with strays := arguments.strays ++ [text] }

def has (arguments : Arguments) (flag : Flag) : Bool :=
  arguments.given.any fun entry => entry.1 = flag

/-- The value that a flag is given last. -/
def valueOf? (arguments : Arguments) (flag : Flag) : Option String :=
  ((arguments.given.filter fun entry => entry.1 = flag).getLast?).bind (·.2)

end Arguments

inductive Reading where
  /-- The help text is asked for. -/
  | help
  | arguments (arguments : Arguments)
  deriving DecidableEq, Repr

namespace Reading

/-- The flags of one letter that are written together, after the first of them. -/
def clustered (grammar : Grammar) (flag : Flag) : List Char → Except Misuse Unit
  | [] => .ok ()
  | c :: rest =>
    match grammar.flagNamed? (String.ofList ['-', c]) with
    | some next => clustered grammar next rest
    | none => .error (.unusedValue flag (String.ofList (c :: rest)))

/-- Checks the value of a flag that takes none.  After a name of one letter, it may be more such
names. -/
def checkUnused (grammar : Grammar) (flag : Flag) (name value : String) : Except Misuse Unit :=
  if value = "" || name.length ≠ 2 then .error (.unusedValue flag value)
  else clustered grammar flag value.toList

/-- Where the reading stands. -/
inductive Place where
  | between
  /-- The value of a flag is next. -/
  | atValue (flag : Flag)
  /-- The operand was the last token. -/
  | afterOperand
  deriving DecidableEq, Repr

/-- Takes the operand or, if there is none to take, a stray argument. -/
def takeWord (grammar : Grammar) (found : Arguments) (text : String) :
    Except Misuse (Arguments × Place) :=
  match grammar.operand, found.operand with
  | some operand, none =>
    (operand.read text).map fun value => ({ found with operand := some value }, .afterOperand)
  | _, _ => .ok (found.stray text, .between)

/-- Takes a double dash.  It is passed over on both sides of the operand. -/
def takeDash (grammar : Grammar) (found : Arguments) (place : Place) : Arguments × Place :=
  if (grammar.operand.isSome && found.operand.isNone) || place = .afterOperand then
    (found, .between)
  else (found.stray "--", .between)

/-- The end of the arguments. -/
def finish (grammar : Grammar) (found : Arguments) : Except Misuse Reading :=
  match grammar.operand, found.operand with
  | some operand, none => .error (.missingOperand operand.name)
  | _, _ => .ok (.arguments found)

/-- Takes tokens in order on top of what the ones before them said. -/
def take (grammar : Grammar) (found : Arguments) (place : Place) :
    List Token → Except Misuse Reading
  | [] =>
    match place with
    | .atValue flag => .error (.missingValue flag)
    | _ => finish grammar found
  | token :: rest =>
    match place, token with
    | .atValue flag, .word value => take grammar (found.give flag (some value)) .between rest
    | .atValue flag, _ => .error (.missingValue flag)
    | _, .word text => do
      let (found, place) ← takeWord grammar found text
      take grammar found place rest
    | place, .dash =>
      let (found, place) := takeDash grammar found place
      take grammar found place rest
    | _, .stray text => take grammar (found.stray text) .between rest
    | _, .flag flag name value =>
      match flag.use, value with
      | .value _, none => take grammar found (.atValue flag) rest
      | .value _, some value =>
        let value := if value = "--" then none else some value
        take grammar (found.give flag value) .between rest
      | .mark, none => take grammar (found.give flag none) .between rest
      | .mark, some value => .error (.unusedValue flag value)
      | .help, none => .ok .help
      | .help, some value => (checkUnused grammar flag name value).map fun _ => .help

def ofArguments (grammar : Grammar) (arguments : List String) : Except Misuse Reading := do
  take grammar .none .between (← Token.ofArguments grammar arguments)

end Reading

end BranchCompare.CommandLine
