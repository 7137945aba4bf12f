import BranchCompare.Json.Value

/-!
# Writing JSON

Values as JSON texts in ASCII: every other character is written as an escape of its UTF-16 units.
-/

namespace BranchCompare.Json

def writeUnit (unit : Nat) : List Char := '\\' :: 'u' :: Text.hex 4 unit

/-- A character inside a text. -/
def writeChar (c : Char) : List Char :=
  if c = '"' then ['\\', '"']
  else if c = '\\' then ['\\', '\\']
  else if c = '\n' then ['\\', 'n']
  else if c = '\r' then ['\\', 'r']
  else if c = '\t' then ['\\', 't']
  else if c = '\x08' then ['\\', 'b']
  else if c = '\x0c' then ['\\', 'f']
  else if 0x20 ≤ c.toNat ∧ c.toNat < 0x7F then [c]
  else if c.toNat < 0x10000 then writeUnit c.toNat
  else
    let offset := c.toNat - 0x10000
    writeUnit (0xD800 + offset / 0x400) ++ writeUnit (0xDC00 + offset % 0x400)

def writeText (text : String) : List Char :=
  '"' :: text.toList.flatMap writeChar ++ ['"']

/-- A floating point number; the infinities and not-a-number are names. -/
def writeFloat (x : Float) : List Char :=
  match Decimal.floatText x with
  | "nan" => "NaN".toList
  | "inf" => "Infinity".toList
  | "-inf" => "-Infinity".toList
  | digits => digits.toList

def newLine (depth : Nat) : List Char := '\n' :: List.replicate (2 * depth) ' '

mutual

/-- A value over several lines, each level indented by two spaces. -/
def writeIndented (depth : Nat) : Json → List Char
  | .null => "null".toList
  | .bool true => "true".toList
  | .bool false => "false".toList
  | .int value => (toString value).toList
  | .float value => writeFloat value
  | .text value => writeText value
  | .array [] => ['[', ']']
  | .array (item :: rest) =>
    '[' :: newLine (depth + 1) ++ writeIndented (depth + 1) item ++
      writeMoreItems (depth + 1) rest ++ newLine depth ++ [']']
  | .object [] => ['\x7b', '\x7d']
  | .object ((name, value) :: rest) =>
    '\x7b' :: newLine (depth + 1) ++ writeText name ++ ':' :: ' ' ::
      writeIndented (depth + 1) value ++ writeMoreFields (depth + 1) rest ++
      newLine depth ++ ['\x7d']

/-- The items of an array after the first. -/
def writeMoreItems (depth : Nat) : List Json → List Char
  | [] => []
  | item :: rest =>
    ',' :: newLine depth ++ writeIndented depth item ++ writeMoreItems depth rest

/-- The fields of an object after the first. -/
def writeMoreFields (depth : Nat) : List (String × Json) → List Char
  | [] => []
  | (name, value) :: rest =>
    ',' :: newLine depth ++ writeText name ++ ':' :: ' ' :: writeIndented depth value ++
      writeMoreFields depth rest

end

mutual

/-- A value on one line without spaces. -/
def writeCompact : Json → List Char
  | .null => "null".toList
  | .bool true => "true".toList
  | .bool false => "false".toList
  | .int value => (toString value).toList
  | .float value => writeFloat value
  | .text value => writeText value
  | .array items => '[' :: writeItems items ++ [']']
  | .object fields => '\x7b' :: writeFields fields ++ ['\x7d']

/-- The items of an array, set apart by commas. -/
def writeItems : List Json → List Char
  | [] => []
  | [item] => writeCompact item
  | item :: rest => writeCompact item ++ ',' :: writeItems rest

/-- The fields of an object, set apart by commas. -/
def writeFields : List (String × Json) → List Char
  | [] => []
  | [(name, value)] => writeText name ++ ':' :: writeCompact value
  | (name, value) :: rest =>
    writeText name ++ ':' :: writeCompact value ++ ',' :: writeFields rest

end

end BranchCompare.Json
