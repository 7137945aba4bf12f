import BranchCompare.Text.Ascii
import BranchCompare.Text.Split

/-!
# Punycode

The ASCII form of a text: its ASCII characters, a hyphen, and then for each other character, in
ascending order of their codes, how far it is from the one before.  Distances are numbers in base
thirty-six, of which the digit below a threshold is the last; the thresholds follow the distances
before.
-/

namespace BranchCompare.Text.Punycode

/-- The digit of a value: the letters in lower case, and then the ten digits. -/
def digitOf (value : Nat) : Char :=
  Char.ofNat (if value < 26 then 0x61 + value else 0x16 + value)

/-- The value of a digit; letters count in both cases. -/
def valueOf? (c : Char) : Option Nat :=
  let code := c.toNat
  if 0x61 ≤ code ∧ code ≤ 0x7A then some (code - 0x61)
  else if 0x41 ≤ code ∧ code ≤ 0x5A then some (code - 0x41)
  else if 0x30 ≤ code ∧ code ≤ 0x39 then some (code - 0x16)
  else none

/-- The threshold below which the digit at a place is the last; `place` grows by thirty-six from
digit to digit. -/
def threshold (place bias : Nat) : Nat :=
  if place ≤ bias then 1 else if bias + 26 ≤ place then 26 else place - bias

theorem one_le_threshold (place bias : Nat) : 1 ≤ threshold place bias := by
  unfold threshold
  repeat' split
  all_goals omega

/-- What is left of a distance after a digit is smaller. -/
theorem div_lt_of_threshold_le {distance place bias : Nat}
    (h : ¬ distance < threshold place bias) :
    (distance - threshold place bias) / (36 - threshold place bias) < distance := by
  have h₁ := one_le_threshold place bias
  exact Nat.lt_of_le_of_lt (Nat.div_le_self _ _) (by omega)

/-- Divides a distance until it is small, and counts the divisions on top of `steps`. -/
def shrink (distance steps : Nat) : Nat × Nat :=
  if 455 < distance then shrink (distance / 35) (steps + 1) else (distance, steps)
termination_by distance
decreasing_by exact Nat.div_lt_self (by omega) (by omega)

/-- The bias after a distance, when so many characters are in place.  The first distance is often
large and says little of the others. -/
def biasAfter (distance : Nat) (isFirst : Bool) (count : Nat) : Nat :=
  let half := if isFirst then distance / 700 else distance / 2
  let (rest, steps) := shrink (half + half / count) 0
  36 * steps + 36 * rest / (rest + 38)

/-- The digits of a distance, the one of least weight first. -/
def writeDistance (bias place distance : Nat) : List Char :=
  if distance < threshold place bias then [digitOf distance]
  else
    let excess := distance - threshold place bias
    let base := 36 - threshold place bias
    let digit := digitOf (threshold place bias + excess % base)
    digit :: writeDistance bias (place + 36) (excess / base)
termination_by distance
decreasing_by exact div_lt_of_threshold_le ‹_›

/-- The distance that digits stand for on top of `distance`, and the text after them.  The next
digit has the given weight. -/
def readDistance (bias place weight distance : Nat) : List Char → Option (Nat × List Char)
  | [] => none
  | c :: rest =>
    match valueOf? c with
    | none => none
    | some value =>
      let distance := distance + value * weight
      if value < threshold place bias then some (distance, rest)
      else readDistance bias (place + 36) (weight * (36 - threshold place bias)) distance rest

/-- A distance takes at least one digit. -/
theorem readDistance_length {bias place weight distance : Nat} {cs rest : List Char} {read : Nat}
    (h : readDistance bias place weight distance cs = some (read, rest)) :
    rest.length < cs.length := by
  induction cs generalizing place weight distance with
  | nil => simp [readDistance] at h
  | cons c cs ih =>
    rw [readDistance] at h
    split at h
    · simp at h
    · split at h
      · simp only [Option.some.injEq, Prod.mk.injEq] at h
        simp [h.2]
      · have := ih h
        simp only [List.length_cons]
        omega

/-! ## Writing -/

/-- What has been written of the characters outside of ASCII: the digits, the distance since the
last one, the bias, and how many characters are in place. -/
structure Written where
  digits : List Char
  distance : Nat
  bias : Nat
  count : Nat

/-- Passes over a character of the text while the characters with the given code are put in
place. -/
def Written.pass (basic code : Nat) (written : Written) (c : Char) : Written :=
  if c.toNat < code then { written with distance := written.distance + 1 }
  else if c.toNat = code then
    { digits := written.digits ++ writeDistance written.bias 36 written.distance
      distance := 0
      bias := biasAfter written.distance (written.count == basic) (written.count + 1)
      count := written.count + 1 }
  else written

/-- Puts the characters with the given codes in place, which ascend from `last` on. -/
def writeCodes (text : List Char) (basic last : Nat) : List Nat → Written → Written
  | [], written => written
  | code :: codes, written =>
    let start := written.distance + (code - last) * (written.count + 1)
    let passed := text.foldl (Written.pass basic code) { written with distance := start }
    writeCodes text basic (code + 1) codes { passed with distance := passed.distance + 1 }

/-- The ASCII form of a text. -/
def encode (text : List Char) : List Char :=
  let plain := text.filter isAscii
  let codes := ((text.filter fun c => !isAscii c).map Char.toNat).mergeSort.eraseDups
  let written := writeCodes text plain.length 0x80 codes ⟨[], 0, 72, plain.length⟩
  plain ++ (if plain.isEmpty then [] else ['-']) ++ written.digits

/-! ## Reading -/

/-- Puts the characters in place that digits stand for.  `code` and `place` are those of the last
one; the first digits are those after `plain` characters. -/
def insertFrom (bias code place plain : Nat) (text : List Char) (digits : List Char) :
    Option (List Char) :=
  match digits with
  | [] => some text
  | c :: cs =>
    match h : readDistance bias 36 1 0 (c :: cs) with
    | none => none
    | some (distance, rest) =>
      let count := text.length + 1
      let code := code + (place + distance) / count
      let place := (place + distance) % count
      if code.isValidChar then
        insertFrom (biasAfter distance (text.length == plain) count) code (place + 1) plain
          (text.insertIdx place (Char.ofNat code)) rest
      else none
termination_by digits.length
decreasing_by exact readDistance_length h

/-- The text that an ASCII form stands for. -/
def decode (cs : List Char) : Option (List Char) :=
  match cutAt (· == '-') cs.reverse with
  | (_, none) => insertFrom 72 0x80 0 0 [] cs
  | (digits, some plain) => insertFrom 72 0x80 0 plain.length plain.reverse digits.reverse

end BranchCompare.Text.Punycode
