import BranchCompare.Text.Utf8
import BranchCompare.Text.Split
import BranchCompare.Json.Reader

/-!
# Form encoding

The encoding of names and values in the query of a URL: the octets of UTF-8, of which the letters,
the digits and four marks stand for themselves, a space is a plus sign and all others are a percent
sign and two hexadecimal digits.  Decoding accepts any text: a percent sign that begins no escape
stands for itself, and octets that are no UTF-8 become U+FFFD.
-/

namespace BranchCompare.Form

open BranchCompare.Text

def isUnreserved (c : Char) : Bool :=
  c.isAlphanum || c == '_' || c == '.' || c == '-' || c == '~'

def upperHexDigit (value : Nat) : Char :=
  Char.ofNat (if value < 10 then 0x30 + value else 0x37 + value)

def escapeOctet (b : UInt8) : List Char :=
  ['%', upperHexDigit (b.toNat / 16), upperHexDigit (b.toNat % 16)]

/-- A character in form encoding. -/
def encodeChar (c : Char) : List Char :=
  if isUnreserved c then [c]
  else if c = ' ' then ['+']
  else (Utf8.encodeChar c).flatMap escapeOctet

def encodeText (text : List Char) : List Char := text.flatMap encodeChar

/-- What a stretch of an encoded text stands for: an octet, or a character outside of ASCII that
was not encoded at all. -/
inductive Piece where
  | octet (b : UInt8)
  | char (c : Char)

def Piece.plain (c : Char) : Piece :=
  if c.toNat < 0x80 then .octet (UInt8.ofNat c.toNat) else .char c

/-- The octets and characters of an encoded text.  `skip` characters belong to an escape that has
been read. -/
def piecesFrom : (skip : Nat) → List Char → List Piece
  | _, [] => []
  | skip + 1, _ :: rest => piecesFrom skip rest
  | 0, c :: rest =>
    match c, rest with
    | '%', a :: b :: _ =>
      match Json.hexDigit? a, Json.hexDigit? b with
      | some high, some low => .octet (UInt8.ofNat (high * 16 + low)) :: piecesFrom 2 rest
      | _, _ => .plain c :: piecesFrom 0 rest
    | _, _ => .plain c :: piecesFrom 0 rest

/-- The characters of a list of pieces: each run of octets is decoded for itself.  `run` holds the
octets of the run so far. -/
def assemble (run : List UInt8) : List Piece → List Char
  | [] => Utf8.decodeLossy run
  | .octet b :: rest => assemble (run ++ [b]) rest
  | .char c :: rest => Utf8.decodeLossy run ++ c :: assemble [] rest

def unescape (text : List Char) : List Char :=
  if text.contains '%' then assemble [] (piecesFrom 0 text) else text

def decodeText (text : List Char) : List Char :=
  unescape (text.map fun c => if c = '+' then ' ' else c)

/-- A name and its value. -/
abbrev Pair := String × String

def encodePair (pair : Pair) : List Char :=
  encodeText pair.1.toList ++ '=' :: encodeText pair.2.toList

/-- Names and values in form encoding, set apart by ampersands. -/
def encode (pairs : List Pair) : List Char := join '&' (pairs.map encodePair)

/-- The name before the first equals sign and the value after it; without one there is only a
name. -/
def decodePair (piece : List Char) : Pair :=
  let (name, value) := cutAt (· == '=') piece
  (String.ofList (decodeText name), String.ofList (decodeText (value.getD [])))

/-- The names and values of a text in form encoding.  Nothing between two ampersands is no pair. -/
def decode (text : List Char) : List Pair :=
  ((pieces '&' text).filter fun piece => !piece.isEmpty).map decodePair

end BranchCompare.Form
