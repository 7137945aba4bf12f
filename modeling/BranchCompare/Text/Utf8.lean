/-!
# UTF-8

Encoding and decoding of texts as octets.  The decoder reads one character at a time and reports
the first sequence that no text encodes, with the octets it spans and the reason.  A lossy reader
puts one replacement character for each such sequence, which spans as many octets as could have
begun a character.
-/

namespace BranchCompare.Text.Utf8

def octet (value : Nat) : UInt8 := UInt8.ofNat value

/-- The octets of a character. -/
def encodeChar (c : Char) : List UInt8 :=
  let code := c.toNat
  if code < 0x80 then [octet code]
  else if code < 0x800 then [octet (0xC0 + code / 0x40), octet (0x80 + code % 0x40)]
  else if code < 0x10000 then
    [octet (0xE0 + code / 0x1000), octet (0x80 + code / 0x40 % 0x40), octet (0x80 + code % 0x40)]
  else
    [octet (0xF0 + code / 0x40000), octet (0x80 + code / 0x1000 % 0x40),
      octet (0x80 + code / 0x40 % 0x40), octet (0x80 + code % 0x40)]

def encode (cs : List Char) : List UInt8 := cs.flatMap encodeChar

inductive Reason where
  /-- No character begins with this octet. -/
  | badStart
  /-- A character has begun and the octet after it does not go on with it. -/
  | badContinuation
  /-- The octets end inside a character. -/
  | ended
  deriving DecidableEq, Repr

/-- A run of octets that is not UTF-8: `width` octets from `start` on, and the first of them. -/
structure Fault where
  start : Nat
  width : Nat
  first : UInt8
  reason : Reason
  deriving DecidableEq, Repr

/-- The octet continues a character and lies in the given bounds. -/
def continues (low high : Nat) (b : UInt8) : Bool := low ≤ b.toNat && b.toNat ≤ high

/-- The outcome of reading one character: the character or the reason why there is none, with the
number of octets read. -/
inductive Head where
  | char (c : Char) (width : Nat)
  | fault (reason : Reason) (width : Nat)

/-- Reads the `owed` continuation octets of a character.  `value` holds the bits read so far and
`read` counts their octets; the next octet lies between `low` and `high`, later ones in the whole
range of continuation octets. -/
def readTail (value read low high : Nat) : (owed : Nat) → List UInt8 → Head
  | 0, _ => .char (Char.ofNat value) read
  | _ + 1, [] => .fault .ended read
  | owed + 1, b :: rest =>
    if continues low high b then
      readTail (value * 0x40 + (b.toNat - 0x80)) (read + 1) 0x80 0xBF owed rest
    else .fault .badContinuation read

/-- Reads the character that begins with the octet `b`. -/
def readChar (b : UInt8) (rest : List UInt8) : Head :=
  let first := b.toNat
  if first < 0x80 then .char (Char.ofNat first) 1
  else if first < 0xC2 then .fault .badStart 1
  else if first < 0xE0 then readTail (first - 0xC0) 1 0x80 0xBF 1 rest
  else if first = 0xE0 then readTail 0 1 0xA0 0xBF 2 rest
  else if first = 0xED then readTail 0xD 1 0x80 0x9F 2 rest
  else if first < 0xF0 then readTail (first - 0xE0) 1 0x80 0xBF 2 rest
  else if first = 0xF0 then readTail 0 1 0x90 0xBF 3 rest
  else if first < 0xF4 then readTail (first - 0xF0) 1 0x80 0xBF 3 rest
  else if first = 0xF4 then readTail 4 1 0x80 0x8F 3 rest
  else .fault .badStart 1

/-- Reads characters until the first fault.  `skip` octets belong to the character read last, and
`position` is the place of the next octet. -/
def decodeFrom (position : Nat) : (skip : Nat) → List UInt8 → Except Fault (List Char)
  | _, [] => .ok []
  | skip + 1, _ :: rest => decodeFrom (position + 1) skip rest
  | 0, b :: rest =>
    match readChar b rest with
    | .char c width => (decodeFrom (position + 1) (width - 1) rest).map (c :: ·)
    | .fault reason width => .error ⟨position, width, b, reason⟩

/-- The text that the octets encode, or the first place where they encode none. -/
def decode (octets : List UInt8) : Except Fault (List Char) := decodeFrom 0 0 octets

/-- The lossy reader behind `decodeLossy`; `skip` octets belong to what was read last. -/
def lossyFrom : (skip : Nat) → List UInt8 → List Char
  | _, [] => []
  | skip + 1, _ :: rest => lossyFrom skip rest
  | 0, b :: rest =>
    match readChar b rest with
    | .char c width => c :: lossyFrom (width - 1) rest
    | .fault _ width => '\ufffd' :: lossyFrom (width - 1) rest

/-- The text that the octets encode, with U+FFFD for each sequence that encodes no character. -/
def decodeLossy (octets : List UInt8) : List Char := lossyFrom 0 octets

def encodeString (text : String) : List UInt8 := encode text.toList

end BranchCompare.Text.Utf8
