import BranchCompare.Json.Reader
import BranchCompare.OrderedMap
import BranchCompare.Text.Blank

/-!
# Files of variables

The format of files that give variables their values, one on a line.  A value may stand in single
or double quotes, in which it may run over several lines; after a value without quotes and after a
closing quote a comment may follow.  A line that does not fit the format is passed over.  Values may
refer to variables in braces after a dollar sign.
-/

namespace BranchCompare.VariableFile

open BranchCompare.Text

/-- White space that does not end a line. -/
def isGap (c : Char) : Bool := isBlank c && c != '\n'

def skipGap (cs : List Char) : List Char := cs.dropWhile isGap

def isNameChar (c : Char) : Bool := c != '=' && c != '#' && !isBlank c

/-- What a part of a line was read as: the part and the text after it, or the text at which it does
not fit the format. -/
inductive Part (α : Type) where
  | found (value : α) (rest : List Char)
  | misfit (rest : List Char)

/-- A name; a comment has none. -/
def readName (cs : List Char) : Part (Option String) :=
  match cs with
  | '#' :: _ => .found none cs
  | '\'' :: more =>
    match cutAt (· == '\'') more with
    | (name, some rest) =>
      if name.isEmpty then .misfit cs else .found (some (String.ofList name)) rest
    | (_, none) => .misfit cs
  | _ =>
    let name := cs.takeWhile isNameChar
    if name.isEmpty then .misfit cs
    else .found (some (String.ofList name)) (cs.dropWhile isNameChar)

/-- The number of characters before the closing quote: the first quote that no backslash escapes, or
else the last one.  `escaped` tells whether the next character is escaped. -/
def closingAt (quote : Char) (escaped : Bool) (place : Nat) (last : Option Nat) :
    List Char → Option Nat
  | [] => last
  | c :: rest =>
    if escaped then closingAt quote false (place + 1) (if c = quote then some place else last) rest
    else if c = quote then some place
    else closingAt quote (c == '\\') (place + 1) last rest

/-- A value in quotes, after the opening quote, and the text after the closing one. -/
def splitQuoted (quote : Char) (cs : List Char) : Option (List Char × List Char) :=
  (closingAt quote false 0 none cs).map fun place => (cs.take place, cs.drop (place + 1))

/-- The character that an escape in double quotes stands for. -/
def doubleEscape? (c : Char) : Option Char :=
  match c with
  | '\\' => some '\\'
  | '\'' => some '\''
  | '"' => some '"'
  | 'a' => some '\x07'
  | 'b' => some '\x08'
  | 'f' => some '\x0c'
  | 'n' => some '\n'
  | 'r' => some '\r'
  | 't' => some '\t'
  | 'v' => some '\x0b'
  | _ => none

/-- The character that an escape in single quotes stands for. -/
def singleEscape? (c : Char) : Option Char :=
  if c = '\\' ∨ c = '\'' then some c else none

/-- Replaces escapes by what they stand for; `escaped` is set after a backslash. -/
def unescape (meaning : Char → Option Char) (escaped : Bool) : List Char → List Char
  | [] => if escaped then ['\\'] else []
  | c :: rest =>
    if escaped then
      match meaning c with
      | some d => d :: unescape meaning false rest
      | none => '\\' :: c :: unescape meaning false rest
    else if c = '\\' then unescape meaning true rest
    else c :: unescape meaning false rest

/-- A value without quotes, up to a comment, which has white space before it. -/
def dropComment (cs : List Char) : List Char :=
  match cs with
  | [] => []
  | c :: rest =>
    if isBlank c && ((cs.dropWhile isBlank).head? == some '#') then []
    else c :: dropComment rest

/-- The value after an equals sign. -/
def readValue (cs : List Char) : Part String :=
  match skipGap cs with
  | '\'' :: more =>
    match splitQuoted '\'' more with
    | some (inside, rest) => .found (String.ofList (unescape singleEscape? false inside)) rest
    | none => .misfit (skipGap cs)
  | '"' :: more =>
    match splitQuoted '"' more with
    | some (inside, rest) => .found (String.ofList (unescape doubleEscape? false inside)) rest
    | none => .misfit (skipGap cs)
  | _ =>
    let line := cs.takeWhile (· != '\n')
    .found (strip (String.ofList (dropComment line))) (cs.dropWhile (· != '\n'))

/-- The text after a comment, if there is one. -/
def skipComment (cs : List Char) : List Char :=
  match skipGap cs with
  | '#' :: rest => rest.dropWhile (· != '\n')
  | _ => cs

/-- The text after the end of the line, which has to follow. -/
def endOfLine? (cs : List Char) : Option (List Char) :=
  match skipGap cs with
  | [] => some []
  | '\n' :: rest => some rest
  | _ => none

/-- The text after the word that may stand before a name. -/
def skipExport (cs : List Char) : List Char :=
  match Json.after? "export".toList cs with
  | some (c :: rest) => if isGap c then skipGap rest else cs
  | _ => cs

def nextLine (cs : List Char) : List Char := (cs.dropWhile (· != '\n')).drop 1

/-- A name and its value; a name alone has none. -/
abbrev Binding := String × Option String

/-- The text after the rest of a line that ends a binding. -/
def finish (name : Option String) (value : Option String) (cs : List Char) :
    Option Binding × List Char :=
  match endOfLine? (skipComment cs) with
  | some rest => (name.map fun name => (name, value), rest)
  | none => (none, nextLine (skipComment cs))

/-- The binding at the front of a text that does not begin with white space, and the text after
it. -/
def readBinding (cs : List Char) : Option Binding × List Char :=
  match readName (skipExport cs) with
  | .misfit rest => (none, nextLine rest)
  | .found name rest =>
    match skipGap rest with
    | '=' :: rest =>
      match readValue rest with
      | .found value rest => finish name (some value) rest
      | .misfit rest => (none, nextLine rest)
    | rest => finish name none rest

/-- The bindings of a text.  The fuel bounds the number of bindings; each takes a character at
least. -/
def bindingsFrom : (fuel : Nat) → List Char → List Binding
  | 0, _ => []
  | fuel + 1, cs =>
    match cs.dropWhile isBlank with
    | [] => []
    | cs =>
      let (binding, rest) := readBinding cs
      binding.toList ++ bindingsFrom fuel rest

def bindings (text : List Char) : List Binding := bindingsFrom (text.length + 1) text

/-- A reference to a variable, after its dollar sign: the name, what stands in for it where it has
no value, and the number of characters. -/
def reference? (cs : List Char) : Option (String × Option String × Nat) :=
  match cs with
  | '\x7b' :: rest =>
    let name := rest.takeWhile fun c => c != '\x7d' && c != ':'
    match rest.drop name.length with
    | '\x7d' :: _ => some (String.ofList name, none, name.length + 2)
    | ':' :: '-' :: more =>
      match cutAt (· == '\x7d') more with
      | (other, some _) =>
        some (String.ofList name, some (String.ofList other), name.length + other.length + 4)
      | (_, none) => none
    | _ => none
  | _ => none

/-- Replaces references to variables by their values; `skip` characters belong to a reference that
has been read. -/
def expandFrom (valueOf : String → Option String) : (skip : Nat) → List Char → List Char
  | _, [] => []
  | skip + 1, _ :: rest => expandFrom valueOf skip rest
  | 0, c :: rest =>
    match if c = '$' then reference? rest else none with
    | some (name, other, width) =>
      (((valueOf name).or other).getD "").toList ++ expandFrom valueOf width rest
    | none => c :: expandFrom valueOf 0 rest

/-- The values of the variables of a text.  References see the variables before them in the text,
and then those of the environment. -/
def values (environment : List (String × String)) (text : List Char) :
    List (String × Option String) :=
  (bindings text).foldl (fun known binding =>
    let valueOf (name : String) : Option String :=
      match OrderedMap.get? name known with
      | some value => some (value.getD "")
      | none => OrderedMap.get? name environment
    let value := binding.2.map fun value => String.ofList (expandFrom valueOf 0 value.toList)
    OrderedMap.put binding.1 value known) []

end BranchCompare.VariableFile
