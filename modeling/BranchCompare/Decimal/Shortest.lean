/-!
# Shortest decimal digits

The decimal with the fewest digits that reads back as a given floating point number, and among
those the nearest one.  A finite positive number is `m · 2 ^ q`.  The reals that round to it form
an interval around it, and on each decimal grid only the two neighbours of the number have to be
tried: if any point of the grid lies in the interval, so does one of them.  All arithmetic is on
natural numbers.
-/

namespace BranchCompare.Decimal

/-- The number `numerator / denominator`, with a positive denominator. -/
structure Ratio where
  numerator : Nat
  denominator : Nat

/-- `value · 2 ^ exponent`. -/
def Ratio.ofBinary (value : Nat) (exponent : Int) : Ratio :=
  if 0 ≤ exponent then ⟨value * Nat.pow 2 exponent.toNat, 1⟩
  else ⟨value, Nat.pow 2 (-exponent).toNat⟩

/-- `value · 10 ^ exponent`. -/
def Ratio.ofDecimal (value : Nat) (exponent : Int) : Ratio :=
  if 0 ≤ exponent then ⟨value * Nat.pow 10 exponent.toNat, 1⟩
  else ⟨value, Nat.pow 10 (-exponent).toNat⟩

/-- Comparison of two numbers by cross multiplication. -/
def Ratio.less (a b : Ratio) : Bool :=
  a.numerator * b.denominator < b.numerator * a.denominator

/-- The number of decimal digits of a natural number; zero has one. -/
def digitCount (n : Nat) : Nat := (Nat.toDigits 10 n).length

/-- The exponent of the power of ten at or below a positive number. -/
def Ratio.magnitude (r : Ratio) : Int :=
  let guess := (digitCount r.numerator : Int) - digitCount r.denominator
  if r.less (Ratio.ofDecimal 1 guess) then guess - 1 else guess

/-- The reals that round to one floating point number: the ends belong to it when `closed`. -/
structure Interval where
  low : Ratio
  high : Ratio
  closed : Bool

def Interval.holds (i : Interval) (r : Ratio) : Bool :=
  if i.closed then !r.less i.low && !i.high.less r else i.low.less r && r.less i.high

/-- A finite positive floating point number, `mantissa · 2 ^ exponent`. -/
structure Binary where
  mantissa : Nat
  exponent : Int

def Binary.ratio (b : Binary) : Ratio := Ratio.ofBinary b.mantissa b.exponent

/-- The reals that round to the number.  Below a power of two the neighbours lie half as far
apart, unless the exponent is the least one. -/
def Binary.interval (b : Binary) : Interval :=
  let below := if b.mantissa = Nat.pow 2 52 ∧ -1074 < b.exponent then 1 else 2
  { low := Ratio.ofBinary (4 * b.mantissa - below) (b.exponent - 2)
    high := Ratio.ofBinary (4 * b.mantissa + 2) (b.exponent - 2)
    closed := b.mantissa % 2 = 0 }

/-- The decimal `digits · 10 ^ exponent`. -/
structure Scaled where
  digits : Nat
  exponent : Int
  deriving DecidableEq, Repr

def Scaled.ratio (d : Scaled) : Ratio := Ratio.ofDecimal d.digits d.exponent

/-- Of the two neighbours of a number on the grid of step `10 ^ exponent`, the one that rounds to
it; of two the nearer one, and the even one at a tie. -/
def Binary.onGrid? (b : Binary) (exponent : Int) : Option Scaled :=
  let value := b.ratio
  let unit := Ratio.ofDecimal 1 exponent
  let scaledTop := value.numerator * unit.denominator
  let scaledBottom := value.denominator * unit.numerator
  let below : Scaled := ⟨scaledTop / scaledBottom, exponent⟩
  let above : Scaled := ⟨below.digits + 1, exponent⟩
  let twice := 2 * (scaledTop % scaledBottom)
  match b.interval.holds below.ratio, b.interval.holds above.ratio with
  | true, true =>
    if twice < scaledBottom ∨ (twice = scaledBottom ∧ below.digits % 2 = 0) then some below
    else some above
  | true, false => some below
  | false, true => some above
  | false, false => none

/-- The shortest decimal of a number: the first grid that has one.  Seventeen digits always do. -/
def Binary.shortest (b : Binary) : Scaled :=
  let top := b.ratio.magnitude
  ((List.range 17).findSome? fun (n : Nat) => b.onGrid? (top - n)).getD ⟨0, 0⟩

/-- A floating point number by kind. -/
inductive Kind where
  | nan
  | infinite (negative : Bool)
  | zero (negative : Bool)
  | finite (negative : Bool) (size : Binary)

/-- Decodes the sixty-four bits of a floating point number. -/
def kindOf (x : Float) : Kind :=
  let bits : Nat := x.toBits.toNat
  let negative : Bool := bits / Nat.pow 2 63 = 1
  let field : Nat := bits / Nat.pow 2 52 % Nat.pow 2 11
  let fraction : Nat := bits % Nat.pow 2 52
  if field = 2047 then (if fraction = 0 then .infinite negative else .nan)
  else if field = 0 then
    (if fraction = 0 then .zero negative else .finite negative ⟨fraction, -1074⟩)
  else .finite negative ⟨Nat.pow 2 52 + fraction, (field : Int) - 1075⟩

/-- How a decimal is laid out as text. -/
structure Layout where
  /-- The least power of ten of the first digit that is written without an exponent. -/
  least : Int
  /-- The greatest such power. -/
  greatest : Int
  /-- The least number of digits of an exponent. -/
  exponentDigits : Nat

/-- Numbers from one ten thousandth up to ten to the sixteenth are written without an exponent and
always have a fraction; an exponent has a sign and two digits or more. -/
def Layout.standard : Layout := ⟨-4, 15, 2⟩

/-- The digits of a decimal without zeros at the end. -/
def significant (digits : Nat) : List Char :=
  match ((Nat.toDigits 10 digits).reverse.dropWhile (· == '0')).reverse with
  | [] => ['0']
  | cs => cs

/-- A decimal without its sign. -/
def Layout.write (layout : Layout) (d : Scaled) : List Char :=
  let first : Int := d.exponent + digitCount d.digits - 1
  let digits := significant d.digits
  if first < layout.least ∨ layout.greatest < first then
    let mantissa := match digits with
      | [c] => [c]
      | c :: rest => c :: '.' :: rest
      | [] => []
    let size := Nat.toDigits 10 first.natAbs
    mantissa ++ ['e', if first < 0 then '-' else '+'] ++
      List.replicate (layout.exponentDigits - size.length) '0' ++ size
  else if first < 0 then
    '0' :: '.' :: List.replicate (first.natAbs - 1) '0' ++ digits
  else
    let whole := digits.take (first.toNat + 1)
    let fraction := digits.drop (first.toNat + 1)
    whole ++ List.replicate (first.toNat + 1 - whole.length) '0' ++
      '.' :: (if fraction.isEmpty then ['0'] else fraction)

/-- The text of a floating point number. -/
def floatText (x : Float) : String :=
  let signed (negative : Bool) (cs : List Char) : String :=
    String.ofList (if negative then '-' :: cs else cs)
  match kindOf x with
  | .nan => "nan"
  | .infinite negative => signed negative "inf".toList
  | .zero negative => signed negative "0.0".toList
  | .finite negative size => signed negative (Layout.standard.write size.shortest)

end BranchCompare.Decimal
