import BranchCompare.Json.Value
import BranchCompare.Decimal.Reader
import BranchCompare.Text.Encoding

/-!
# Reading JSON

A reader of JSON texts that stops at the first place where the text goes wrong and says where and
why.  Beyond the standard it takes the three names for the infinities and not-a-number.  Of fields
with one name the last value counts, at the place of the first.

Texts hold no half of a surrogate pair: one that stands alone is read as U+FFFD, as an escape and in
every encoding.  Values may be nested to any depth: no stack is modelled that could run out.
-/

namespace BranchCompare.Json

inductive Complaint where
  | expectingValue
  | extraData
  | expectingName
  | expectingColon
  | expectingComma
  | unterminatedText
  | controlCharacter
  | badEscape
  | badCodeEscape
  | byteOrderMark
  deriving DecidableEq, Repr

/-- The complaint in words. -/
def Complaint.message : Complaint → String
  | .expectingValue => "Expecting value"
  | .extraData => "Extra data"
  | .expectingName => "Expecting property name enclosed in double quotes"
  | .expectingColon => "Expecting ':' delimiter"
  | .expectingComma => "Expecting ',' delimiter"
  | .unterminatedText => "Unterminated string starting at"
  | .controlCharacter => "Invalid control character at"
  | .badEscape => "Invalid \\escape"
  | .badCodeEscape => "Invalid \\uXXXX escape"
  | .byteOrderMark => "Unexpected UTF-8 BOM (decode using utf-8-sig)"

/-- Where reading stopped: the complaint and the text from the place on, or a whole number with
more digits than may be read. -/
inductive Stop where
  | at (complaint : Complaint) (rest : List Char)
  | tooManyDigits (count : Nat)

/-- A reader takes characters from the front of a text and gives what it read and the rest. -/
abbrev Reading (α : Type) := Except Stop (α × List Char)

def isGap (c : Char) : Bool := c == ' ' || c == '\t' || c == '\n' || c == '\r'

def skipGap (cs : List Char) : List Char := cs.dropWhile isGap

/-- The text after the given word, if it begins with it. -/
def after? : List Char → List Char → Option (List Char)
  | [], cs => some cs
  | _ :: _, [] => none
  | w :: word, c :: cs => if w = c then after? word cs else none

/-- The value of a hexadecimal digit. -/
def hexDigit? (c : Char) : Option Nat :=
  if '0' ≤ c ∧ c ≤ '9' then some (c.toNat - 0x30)
  else if 'a' ≤ c ∧ c ≤ 'f' then some (c.toNat - 0x57)
  else if 'A' ≤ c ∧ c ≤ 'F' then some (c.toNat - 0x37)
  else none

/-- The code unit that four hexadecimal digits stand for. -/
def hexUnit? (a b c d : Char) : Option Nat := do
  let a ← hexDigit? a
  let b ← hexDigit? b
  let c ← hexDigit? c
  let d ← hexDigit? d
  return ((a * 16 + b) * 16 + c) * 16 + d

/-- Joins the second half of a surrogate pair, which has to follow the first half at once.  A half
that stands alone is no character and becomes U+FFFD. -/
def readLowHalf (high : Nat) (rest : List Char) : Except Stop (Char × Nat) :=
  match rest with
  | '\\' :: 'u' :: a :: b :: c :: d :: _ :: _ =>
    match hexUnit? a b c d with
    | some low =>
      if 0xDC00 ≤ low ∧ low < 0xE000 then
        .ok (Text.charOrReplacement (0x10000 + (high - 0xD800) * 0x400 + (low - 0xDC00)), 6)
      else .ok (Text.charOrReplacement high, 0)
    | none => .error (.at .badCodeEscape (rest.drop 1))
  | _ => .ok (Text.charOrReplacement high, 0)

/-- The character of a code escape, after its `u`, and the number of characters it takes. -/
def readCodeEscape (escape : List Char) : Except Stop (Char × Nat) :=
  match escape with
  | _ :: a :: b :: c :: d :: e :: rest =>
    match hexUnit? a b c d with
    | some unit =>
      if 0xD800 ≤ unit ∧ unit < 0xDC00 then
        (readLowHalf unit (e :: rest)).map fun (ch, width) => (ch, width + 5)
      else .ok (Text.charOrReplacement unit, 5)
    | none => .error (.at .badCodeEscape escape)
  | _ => .error (.at .badCodeEscape escape)

/-- The character of an escape, and the number of characters after the backslash that it takes.
`quote` is the text from the opening quote on and `escape` the text after the backslash. -/
def readEscape (quote escape : List Char) : Except Stop (Char × Nat) :=
  match escape with
  | [] => .error (.at .unterminatedText quote)
  | '"' :: _ => .ok ('"', 1)
  | '\\' :: _ => .ok ('\\', 1)
  | '/' :: _ => .ok ('/', 1)
  | 'b' :: _ => .ok ('\x08', 1)
  | 'f' :: _ => .ok ('\x0c', 1)
  | 'n' :: _ => .ok ('\n', 1)
  | 'r' :: _ => .ok ('\r', 1)
  | 't' :: _ => .ok ('\t', 1)
  | 'u' :: _ => readCodeEscape escape
  | _ => .error (.at .badEscape ('\\' :: escape))

/-- Reads the characters of a text up to its closing quote.  `skip` characters belong to an escape
that has been read. -/
def readChars (quote : List Char) : (skip : Nat) → List Char → Reading (List Char)
  | _, [] => .error (.at .unterminatedText quote)
  | skip + 1, _ :: rest => readChars quote skip rest
  | 0, c :: rest =>
    if c = '"' then .ok ([], rest)
    else if c = '\\' then
      match readEscape quote rest with
      | .ok (ch, width) => (readChars quote width rest).map fun (chars, rest) => (ch :: chars, rest)
      | .error stop => .error stop
    else if c.toNat < 0x20 then .error (.at .controlCharacter (c :: rest))
    else (readChars quote 0 rest).map fun (chars, rest) => (c :: chars, rest)

def readText (quote : List Char) : Reading String :=
  (readChars quote 0 (quote.drop 1)).map fun (chars, rest) => (String.ofList chars, rest)

def spanDigits (cs : List Char) : List Char × List Char :=
  (cs.takeWhile Char.isDigit, cs.dropWhile Char.isDigit)

def natOf (digits : List Char) : Nat := digits.foldl (fun n c => n * 10 + (c.toNat - 0x30)) 0

/-- The whole part of a number: a zero, or digits that begin with another one. -/
def wholePart? (cs : List Char) : Option (List Char × List Char) :=
  match cs with
  | '0' :: rest => some (['0'], rest)
  | c :: _ => if c.isDigit then some (spanDigits cs) else none
  | [] => none

/-- The fraction after a point, if a digit follows the point. -/
def fractionPart? (cs : List Char) : Option (List Char × List Char) :=
  match cs with
  | '.' :: rest => if (spanDigits rest).1.isEmpty then none else some (spanDigits rest)
  | _ => none

/-- The exponent, if a digit follows its mark and sign. -/
def exponentPart? (cs : List Char) : Option (Int × List Char) :=
  let signed (rest : List Char) : Option (Int × List Char) :=
    let (negative, size) := Decimal.splitSign rest
    let (digits, rest) := spanDigits size
    if digits.isEmpty then none else some (Decimal.applySign negative (natOf digits), rest)
  match cs with
  | 'e' :: rest => signed rest
  | 'E' :: rest => signed rest
  | _ => none

/-- Reads a number without its sign.  With a fraction or an exponent it is a floating point
number. -/
def readNumber (negative : Bool) (whole rest : List Char) : Reading Json :=
  let fraction := fractionPart? rest
  let afterFraction := match fraction with
    | some (_, rest) => rest
    | none => rest
  let exponent := exponentPart? afterFraction
  match fraction, exponent with
  | none, none =>
    if Decimal.mostDigits < whole.length then .error (.tooManyDigits whole.length)
    else .ok (.int (Decimal.applySign negative (natOf whole)), rest)
  | _, _ =>
    let digits := match fraction with
      | some (digits, _) => digits
      | none => []
    let (power, rest) := exponent.getD (0, afterFraction)
    let size := Decimal.toFloat (natOf (whole ++ digits)) (power - digits.length)
    .ok (.float (if negative then -size else size), rest)

/-- Reads a value that is neither a text nor has parts. -/
def readAtom (cs : List Char) : Reading Json :=
  let word (text : String) (value : Json) : Option (Json × List Char) :=
    (after? text.toList cs).map fun rest => (value, rest)
  let named := (word "null" .null).or <| (word "true" (.bool true)).or <|
    (word "false" (.bool false)).or <| (word "NaN" (.float (0.0 / 0.0))).or <|
    (word "Infinity" (.float (1.0 / 0.0))).or (word "-Infinity" (.float (-1.0 / 0.0)))
  match named with
  | some found => .ok found
  | none =>
    let (negative, size) := match cs with
      | '-' :: rest => (true, rest)
      | _ => (false, cs)
    match wholePart? size with
    | some (whole, rest) => readNumber negative whole rest
    | none => .error (.at .expectingValue cs)

mutual

/-- Reads a value.  The fuel bounds the number of steps; two steps take a character at
least. -/
def readValue : (fuel : Nat) → List Char → Reading Json
  | 0, cs => .error (.at .expectingValue cs)
  | fuel + 1, cs =>
    match cs with
    | '"' :: _ => (readText cs).map fun (chars, rest) => (.text chars, rest)
    | '[' :: rest =>
      match skipGap rest with
      | ']' :: rest => .ok (.array [], rest)
      | rest => (readItems fuel rest).map fun (items, rest) => (.array items, rest)
    | '\x7b' :: rest =>
      match skipGap rest with
      | '\x7d' :: rest => .ok (.object [], rest)
      | rest => (readFields fuel [] rest).map fun (fields, rest) => (.object fields, rest)
    | _ => readAtom cs

/-- Reads the items of an array and its closing bracket. -/
def readItems : (fuel : Nat) → List Char → Reading (List Json)
  | 0, cs => .error (.at .expectingValue cs)
  | fuel + 1, cs =>
    match readValue fuel cs with
    | .error stop => .error stop
    | .ok (item, rest) =>
      match skipGap rest with
      | ']' :: rest => .ok ([item], rest)
      | ',' :: rest =>
        (readItems fuel (skipGap rest)).map fun (items, rest) => (item :: items, rest)
      | rest => .error (.at .expectingComma rest)

/-- Reads the fields of an object and its closing brace, on top of the fields read before. -/
def readFields : (fuel : Nat) → List (String × Json) → List Char → Reading (List (String × Json))
  | 0, _, cs => .error (.at .expectingValue cs)
  | fuel + 1, fields, cs =>
    match cs with
    | '"' :: _ =>
      match readText cs with
      | .error stop => .error stop
      | .ok (name, rest) =>
        match skipGap rest with
        | ':' :: rest =>
          match readValue fuel (skipGap rest) with
          | .error stop => .error stop
          | .ok (value, rest) =>
            let fields := OrderedMap.put name value fields
            match skipGap rest with
            | '\x7d' :: rest => .ok (fields, rest)
            | ',' :: rest => readFields fuel fields (skipGap rest)
            | rest => .error (.at .expectingComma rest)
        | rest => .error (.at .expectingColon rest)
    | _ => .error (.at .expectingName cs)

end

inductive ReadError where
  /-- A complaint with the line and the column, counted from one, and the index, from zero. -/
  | malformed (complaint : Complaint) (line column index : Nat)
  | tooManyDigits (count : Nat)
  deriving DecidableEq, Repr

/-- The error in words. -/
def ReadError.message : ReadError → String
  | .malformed complaint line column index =>
    s!"{complaint.message}: line {line} column {column} (char {index})"
  | .tooManyDigits count =>
    s!"Exceeds the limit ({Decimal.mostDigits} digits) for integer string conversion: " ++
      s!"value has {count} digits; use sys.set_int_max_str_digits() to increase the limit"

/-- The place in a text where reading stopped. -/
def Stop.locate (text : List Char) : Stop → ReadError
  | .tooManyDigits count => .tooManyDigits count
  | .at complaint rest =>
    let index := text.length - rest.length
    let before := text.take index
    let line := before.countP (· == '\n') + 1
    let column := (before.reverse.takeWhile (· != '\n')).length + 1
    .malformed complaint line column index

/-- The value that a text consists of, with white space around it. -/
def readWhole (text : List Char) : Except Stop Json :=
  match readValue (2 * text.length + 2) (skipGap text) with
  | .error stop => .error stop
  | .ok (value, rest) =>
    match skipGap rest with
    | [] => .ok value
    | rest => .error (.at .extraData rest)

/-- The value that a text holds.  A byte order mark in front is refused under its name. -/
def read (text : List Char) : Except ReadError Json :=
  let whole : Except Stop Json := match text with
    | '\ufeff' :: _ => .error (.at .byteOrderMark text)
    | _ => readWhole text
  whole.mapError fun stop => stop.locate text

inductive OctetsError where
  | decode (fault : Text.DecodeFault)
  | read (error : ReadError)
  deriving DecidableEq, Repr

def OctetsError.message : OctetsError → String
  | .decode fault => fault.message
  | .read error => error.message

/-- The value that the octets of a text in any of the Unicode encodings hold.  The encoding may be
marked, and a second mark is a character like any other. -/
def readOctets (octets : List UInt8) : Except OctetsError Json := do
  let text ← (Text.decodeDetected octets).mapError .decode
  (readWhole text).mapError fun stop => .read (stop.locate text)

end BranchCompare.Json
