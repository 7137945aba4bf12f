import BranchCompare.Decimal.Shortest
import BranchCompare.Text.Blank
import BranchCompare.Text.Digit
import BranchCompare.Text.Split

/-!
# Reading numbers

Numbers from texts.  A whole number may have white space around it, single underscores between its
digits, and digits of any script.  A floating point number has digits of ASCII only and nothing
around it.
-/

namespace BranchCompare.Decimal

open BranchCompare.Text

/-- The floating point number nearest to `digits · 10 ^ exponent`.  Far outside the range of
magnitudes the answer is known without the power. -/
def toFloat (digits : Nat) (exponent : Int) : Float :=
  if digits = 0 then 0.0
  else
    let top := (digitCount digits : Int) + exponent
    if 330 < top then 1.0 / 0.0
    else if top < -340 then 0.0
    else if 0 ≤ exponent then Float.ofScientific (digits * Nat.pow 10 exponent.toNat) false 0
    else Float.ofScientific digits true (-exponent).toNat

/-- The value of decimal digits, read from the left on top of `value`. -/
def digitsValue (value : Nat) (digits : List Nat) : Nat :=
  digits.foldl (fun acc d => acc * 10 + d) value

/-- The digits of a text in which single underscores may stand between digits.  `afterDigit` tells
whether the character before was a digit. -/
def groupedDigits (afterDigit : Bool) : List Char → Option (List Nat)
  | [] => if afterDigit then some [] else none
  | '_' :: rest => if afterDigit then groupedDigits false rest else none
  | c :: rest => do
    let digit ← decimalDigit? c
    let digits ← groupedDigits true rest
    return digit :: digits

/-- Splits a sign off: whether the number is negative, and what follows. -/
def splitSign : List Char → Bool × List Char
  | '-' :: rest => (true, rest)
  | '+' :: rest => (false, rest)
  | cs => (false, cs)

def applySign (negative : Bool) (size : Nat) : Int := if negative then -(size : Int) else size

/-- The most digits a text may have to be read as a whole number. -/
def mostDigits : Nat := 4300

/-- The whole number that a text stands for. -/
def readInt? (text : String) : Option Int :=
  let (negative, cs) := splitSign (trimBoth isSpacing text.toList)
  match groupedDigits false cs with
  | some digits =>
    if digits.length ≤ mostDigits then some (applySign negative (digitsValue 0 digits)) else none
  | none => none

def asciiDigits (cs : List Char) : List Nat × List Char :=
  ((cs.takeWhile Char.isDigit).map fun c => c.toNat - 0x30, cs.dropWhile Char.isDigit)

/-- The exponent of a number; it is zero for an empty text. -/
def readExponent? : List Char → Option Int
  | [] => some 0
  | mark :: rest =>
    let (negative, rest) := splitSign rest
    match asciiDigits rest with
    | (digit :: digits, []) =>
      if mark = 'e' ∨ mark = 'E' then some (applySign negative (digitsValue 0 (digit :: digits)))
      else none
    | _ => none

/-- A number of the form digits, point, digits, exponent; not all digits may be missing. -/
def readDecimal? (cs : List Char) : Option Scaled := do
  let (whole, rest) := asciiDigits cs
  let (fraction, rest) := match rest with
    | '.' :: rest => asciiDigits rest
    | _ => ([], rest)
  if whole.isEmpty && fraction.isEmpty then none
  let exponent ← readExponent? rest
  return ⟨digitsValue (digitsValue 0 whole) fraction, exponent - fraction.length⟩

/-- The floating point number that a text stands for; infinities and not-a-number have names. -/
def readFloat? (cs : List Char) : Option Float :=
  let (negative, cs) := splitSign cs
  let size : Option Float := match String.ofList (cs.map Char.toLower) with
    | "inf" | "infinity" => some (1.0 / 0.0)
    | "nan" => some (0.0 / 0.0)
    | _ => (readDecimal? cs).map fun (d : Scaled) => toFloat d.digits d.exponent
  size.map fun x => if negative then -x else x

end BranchCompare.Decimal
