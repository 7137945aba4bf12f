import BranchCompare.Schema.Issue
import BranchCompare.Timestamp

/-!
# Fields of a value

What the value of a field may be: a text, a whole number, a truth value, a time, a choice.  Each
reader takes a JSON value and gives the value of the field or its problem.  A field may be
required, have a default, or be left empty.
-/

namespace BranchCompare.Schema

/-- A reader of a field's value. -/
abbrev Reader (α : Type) := Json → Except Problem α

def text : Reader String
  | .text value => .ok value
  | _ => .error .notText

def nonEmptyText : Reader { s : String // s ≠ "" }
  | .text value => if h : value = "" then .error .textTooShort else .ok ⟨value, h⟩
  | _ => .error .notText

/-- One of the words that stand for a value. -/
def choice {α : Type} (ofWord? : String → Option α) : Reader α
  | .text word =>
    match ofWord? word with
    | some value => .ok value
    | none => .error .notAChoice
  | _ => .error .notAChoice

/-- The longest plain form of a whole number. -/
def mostWholeChars : Nat := 4300

/-- The whole number in plain form: a minus sign or none, and digits without a zero in front.  That
a number is too long shows before what is wrong after it. -/
def plainWhole (cs : List Char) : Except Problem Int :=
  let (negative, size) := match cs with
    | '-' :: rest => (true, rest)
    | _ => (false, cs)
  match Json.wholePart? size with
  | none => .error .unreadableWhole
  | some (digits, rest) =>
    if mostWholeChars < cs.length - rest.length then .error .wholeTooLarge
    else if rest.isEmpty then .ok (Decimal.applySign negative (Json.natOf digits))
    else .error .unreadableWhole

/-- A number without the zeros and underscores in front of it, after the zero or underscore `last`,
which stays where nothing else is left before a point or the end. -/
def dropZeros (last : Char) : List Char → Option (List Char)
  | [] => some [last]
  | c :: rest =>
    if c = '0' ∨ c = '_' then dropZeros c rest
    else if c = '.' then some (last :: c :: rest)
    else if c.isDigit ∨ c = '-' then some (c :: rest)
    else none

/-- A number without zeros in front of it. -/
def withoutZeros : List Char → Option (List Char)
  | [] => none
  | c :: rest =>
    if c = '0' then dropZeros c rest
    else if c.isDigit ∨ c = '-' then some (c :: rest)
    else none

/-- A text without a fraction of zeros at its end. -/
def dropZeroFraction (cs : List Char) : List Char :=
  match Text.cutAt (· == '.') cs with
  | (whole, some fraction) => if fraction.all (· == '0') then whole else cs
  | _ => cs

/-- A text without its underscores, if each of them stands between two other characters. -/
def dropUnderscores (cs : List Char) : List Char :=
  let parts := Text.pieces '_' cs
  if parts.all fun part => !part.isEmpty then parts.flatten else cs

def trimmed (cs : List Char) : List Char := Text.trimBoth Text.isSpacing cs

def dropPlus : List Char → List Char
  | '+' :: rest => rest
  | cs => cs

/-- The whole number that a text stands for.  A text that is not in plain form is brought into it
first. -/
def wholeOfText (value : String) : Except Problem Int :=
  match plainWhole value.toList with
  | .error .unreadableWhole =>
    match withoutZeros (dropPlus (trimmed value.toList)) with
    | some cs => plainWhole (dropUnderscores (dropZeroFraction cs))
    | none => .error .unreadableWhole
  | result => result

/-- The whole number that a floating point number is.  It has to lie inside the range of
sixty-four bits. -/
def wholeOfFloat (value : Float) : Except Problem Int :=
  if value.isNaN || value.isInf then .error .notFinite
  else
    match Json.wholeNumber? value with
    | some whole =>
      if whole.natAbs < Nat.pow 2 63 then .ok whole else .error .wholeTooLarge
    | none => .error .fractionalWhole

/-- A whole number: a number, a truth value, or a text that stands for one. -/
def whole : Reader Int
  | .int value => .ok value
  | .bool value => .ok (if value then 1 else 0)
  | .float value => wholeOfFloat value
  | .text value => wholeOfText value
  | _ => .error .notWhole

/-- A whole number between two bounds. -/
def wholeBetween (least greatest : Int) : Reader Int := fun value => do
  let number ← whole value
  if number < least then throw .tooSmall
  if greatest < number then throw .tooLarge
  return number

/-- A floating point number, read from a text with white space around it or with underscores. -/
def numberOfText (value : String) : Except Problem Float :=
  let read := (Decimal.readFloat? (trimmed value.toList)).or
    (Decimal.readFloat? (dropUnderscores value.toList))
  match read with
  | some x => .ok x
  | none => .error .unreadableNumber

/-- A floating point number: a number, a truth value, or a text that stands for one. -/
def number : Reader Float
  | .float value => .ok value
  | .int value => .ok (if value < 0 then -(Decimal.toFloat value.natAbs 0)
      else Decimal.toFloat value.natAbs 0)
  | .bool value => .ok (if value then 1.0 else 0.0)
  | .text value => numberOfText value
  | _ => .error .notNumber

def trueWords : List String := ["1", "t", "true", "y", "yes", "on"]

def falseWords : List String := ["0", "f", "false", "n", "no", "off"]

/-- The truth value of a whole number. -/
def flagOfWhole (value : Int) : Except Problem Bool :=
  if value = 0 then .ok false else if value = 1 then .ok true else .error .unreadableFlag

/-- A truth value: also one and zero, and words for them in any case. -/
def flag : Reader Bool
  | .bool value => .ok value
  | .int value => flagOfWhole value
  | .float value =>
    match wholeOfFloat value with
    | .ok whole => flagOfWhole whole
    | .error _ => .error .notFlag
  | .text value =>
    let word := String.ofList (value.toList.map Char.toLower)
    if trueWords.contains word then .ok true
    else if falseWords.contains word then .ok false
    else .error .unreadableFlag
  | _ => .error .notFlag

/-- A point in time: a text that names one, or a count of seconds. -/
def time : Reader Timestamp
  | .text value =>
    match Timestamp.read? value with
    | some t => .ok t
    | none => .error .unreadableTime
  | .int value =>
    match Timestamp.ofCount? value 0 with
    | some t => .ok t
    | none => .error .timeOutOfRange
  | .float value =>
    match Timestamp.ofFloatCount? value with
    | some t => .ok t
    | none => .error .timeOutOfRange
  | _ => .error .notTime

def orNothing {α : Type} (read : Reader α) : Reader (Option α)
  | .null => .ok none
  | value => (read value).map some

/-- Reads the value of the named field. -/
def named {α : Type} (name : String) (read : Reader α) (value : Json) : Checked α :=
  match read value with
  | .ok result => .ok result
  | .error problem => .issues [⟨[name], problem⟩]

/-- A field that has to be there. -/
def required {α : Type} (name : String) (read : Reader α) (fields : List (String × Json)) :
    Checked α :=
  match OrderedMap.get? name fields with
  | some value => named name read value
  | none => .issues [⟨[name], .missing⟩]

/-- A field that has a value of its own when it is missing. -/
def withDefault {α : Type} (name : String) (read : Reader α) (default : α)
    (fields : List (String × Json)) : Checked α :=
  match OrderedMap.get? name fields with
  | some value => named name read value
  | none => .ok default

end BranchCompare.Schema
