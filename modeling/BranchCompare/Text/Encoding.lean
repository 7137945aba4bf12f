import BranchCompare.Text.Utf8

/-!
# Detecting the encoding of a text

Octets that hold a text in one of the five Unicode encodings.  The encoding is told by a byte order
mark or, without one, by where the zero octets stand among the first four, since the first
characters are ASCII.

A text holds no half of a surrogate pair.  In every encoding a half that stands alone is read as
U+FFFD.
-/

namespace BranchCompare.Text

inductive Endian where
  | little
  | big
  deriving DecidableEq, Repr

inductive Encoding where
  | utf8
  | utf16 (order : Endian)
  | utf32 (order : Endian)
  deriving DecidableEq, Repr

/-- The name of an encoding. -/
def Encoding.label : Encoding → String
  | .utf8 => "utf-8"
  | .utf16 .little => "utf-16-le"
  | .utf16 .big => "utf-16-be"
  | .utf32 .little => "utf-32-le"
  | .utf32 .big => "utf-32-be"

inductive FaultReason where
  | utf8 (reason : Utf8.Reason)
  /-- The octets end inside a code unit. -/
  | truncated
  /-- A code unit lies beyond the last code point. -/
  | outOfRange
  deriving DecidableEq, Repr

/-- A run of octets that no character encodes: `width` octets from `start` on. -/
structure DecodeFault where
  encoding : Encoding
  start : Nat
  width : Nat
  first : UInt8
  reason : FaultReason
  deriving DecidableEq, Repr

/-- The reason in words. -/
def FaultReason.message : FaultReason → String
  | .utf8 .badStart => "invalid start byte"
  | .utf8 .badContinuation => "invalid continuation byte"
  | .utf8 .ended => "unexpected end of data"
  | .truncated => "truncated data"
  | .outOfRange => "code point not in range(0x110000)"

def octetHex (b : UInt8) : String :=
  let digits := String.ofList (Nat.toDigits 16 b.toNat)
  if b.toNat < 16 then "0" ++ digits else digits

/-- The fault in words: one octet is shown, of several only their places. -/
def DecodeFault.message (fault : DecodeFault) : String :=
  let place :=
    if fault.width ≤ 1 then s!"byte 0x{octetHex fault.first} in position {fault.start}"
    else s!"bytes in position {fault.start}-{fault.start + fault.width - 1}"
  s!"'{fault.encoding.label}' codec can't decode {place}: {fault.reason.message}"

/-- The character with the given code; a code that is no character becomes U+FFFD. -/
def charOrReplacement (code : Nat) : Char :=
  if h : code.isValidChar then Char.ofNatAux code h else '\ufffd'

/-- Three octets stand for half of a surrogate pair, as if it were a character. -/
def isCodedHalf (a b c : UInt8) : Bool :=
  a.toNat = 0xED && Utf8.continues 0xA0 0xBF b && Utf8.continues 0x80 0xBF c

/-- The octets with U+FFFD for each half of a surrogate pair, which takes as many octets. -/
def replaceHalves : List UInt8 → List UInt8
  | a :: b :: c :: rest =>
    if isCodedHalf a b c then 0xEF :: 0xBF :: 0xBD :: replaceHalves rest
    else a :: replaceHalves (b :: c :: rest)
  | octets => octets

def unit16 : Endian → UInt8 → UInt8 → Nat
  | .big, a, b => a.toNat * 0x100 + b.toNat
  | .little, a, b => b.toNat * 0x100 + a.toNat

/-- The sixteen-bit code units, or the octet left over with its place. -/
def units16 (order : Endian) (position : Nat) : List UInt8 → Except DecodeFault (List Nat)
  | [] => .ok []
  | [b] => .error ⟨.utf16 order, position, 1, b, .truncated⟩
  | a :: b :: rest => (units16 order (position + 2) rest).map (unit16 order a b :: ·)

/-- Joins surrogate pairs. -/
def joinSurrogates : List Nat → List Char
  | [] => []
  | [u] => [charOrReplacement u]
  | u :: v :: rest =>
    if 0xD800 ≤ u ∧ u < 0xDC00 ∧ 0xDC00 ≤ v ∧ v < 0xE000 then
      charOrReplacement (0x10000 + (u - 0xD800) * 0x400 + (v - 0xDC00)) :: joinSurrogates rest
    else charOrReplacement u :: joinSurrogates (v :: rest)

/-- The characters of thirty-two-bit code units. -/
def chars32 (order : Endian) (position : Nat) : List UInt8 → Except DecodeFault (List Char)
  | [] => .ok []
  | a :: b :: c :: d :: rest =>
    let code := match order with
      | .big => unit16 .big a b * 0x10000 + unit16 .big c d
      | .little => unit16 .little c d * 0x10000 + unit16 .little a b
    if code < 0x110000 then
      (chars32 order (position + 4) rest).map (charOrReplacement code :: ·)
    else .error ⟨.utf32 order, position, 4, a, .outOfRange⟩
  | a :: rest => .error ⟨.utf32 order, position, rest.length + 1, a, .truncated⟩

/-- The text in a known encoding; `position` is the place of the first octet. -/
def Encoding.decode (encoding : Encoding) (position : Nat) (octets : List UInt8) :
    Except DecodeFault (List Char) :=
  match encoding with
  | .utf8 => (Utf8.decodeFrom position 0 octets).mapError fun fault =>
      ⟨.utf8, fault.start, fault.width, fault.first, .utf8 fault.reason⟩
  | .utf16 order => (units16 order position octets).map joinSurrogates
  | .utf32 order => chars32 order position octets

/-- The text in a known encoding, with U+FFFD for halves of surrogate pairs also in UTF-8. -/
def Encoding.decodeLoose (encoding : Encoding) (position : Nat) (octets : List UInt8) :
    Except DecodeFault (List Char) :=
  match encoding with
  | .utf8 => Encoding.utf8.decode position (replaceHalves octets)
  | _ => encoding.decode position octets

/-- The encoding without a byte order mark, told from the zero octets. -/
def Encoding.guess : List UInt8 → Encoding
  | [a, b] => if a = 0 then .utf16 .big else if b = 0 then .utf16 .little else .utf8
  | a :: b :: c :: d :: _ =>
    if a = 0 then (if b = 0 then .utf32 .big else .utf16 .big)
    else if b = 0 then (if c = 0 ∧ d = 0 then .utf32 .little else .utf16 .little)
    else .utf8
  | _ => .utf8

/-- The text that octets of an unknown encoding hold.  A byte order mark is no part of it; places
are counted with the mark in the wide encodings and without it in UTF-8. -/
def decodeDetected (octets : List UInt8) : Except DecodeFault (List Char) :=
  match octets with
  | 0 :: 0 :: 0xFE :: 0xFF :: rest => (Encoding.utf32 .big).decodeLoose 4 rest
  | 0xFF :: 0xFE :: 0 :: 0 :: rest => (Encoding.utf32 .little).decodeLoose 4 rest
  | 0xFE :: 0xFF :: rest => (Encoding.utf16 .big).decodeLoose 2 rest
  | 0xFF :: 0xFE :: rest => (Encoding.utf16 .little).decodeLoose 2 rest
  | 0xEF :: 0xBB :: 0xBF :: rest => Encoding.utf8.decodeLoose 0 rest
  | _ => (Encoding.guess octets).decodeLoose 0 octets

end BranchCompare.Text
