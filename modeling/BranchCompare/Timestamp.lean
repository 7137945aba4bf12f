import BranchCompare.Decimal.Reader
import BranchCompare.Json.Reader
import BranchCompare.Text.Padding

/-!
# Points in time

A date and a time of day, with a distance from UTC or without one.  A time with a distance stands
for an instant; times with one and times without one cannot be compared.
-/

namespace BranchCompare

/-- A calendar date and a time of day.  `offset` is the distance from UTC in minutes. -/
structure Timestamp where
  year : Nat
  month : Nat
  day : Nat
  hour : Nat
  minute : Nat
  second : Nat
  microsecond : Nat
  offset : Option Int
  deriving DecidableEq, Repr

namespace Timestamp

/-! ## The calendar -/

/-- Every fourth year is a leap year, but of the full centuries only every fourth one. -/
def isLeap (year : Nat) : Bool := year % 4 == 0 && (year % 100 != 0 || year % 400 == 0)

/-- The number of days of a month. -/
def daysIn (year month : Nat) : Nat :=
  match month with
  | 2 => if isLeap year then 29 else 28
  | 4 | 6 | 9 | 11 => 30
  | _ => 31

def daysBeforeYear (year : Nat) : Nat :=
  let past := year - 1
  past * 365 + past / 4 - past / 100 + past / 400

def daysBeforeMonth (year month : Nat) : Nat :=
  (List.range (month - 1)).foldl (fun days m => days + daysIn year (m + 1)) 0

/-- The number of a date, counted from the first of January of year one. -/
def dayNumber (year month day : Nat) : Nat :=
  daysBeforeYear year + daysBeforeMonth year month + (day - 1)

def epochDay : Nat := dayNumber 1970 1 1

/-- Takes away whole months from the days of a year until fewer than a month is left. -/
def monthFrom (year month days : Nat) : (fuel : Nat) → Nat × Nat
  | 0 => (month, days + 1)
  | fuel + 1 =>
    if days < daysIn year month then (month, days + 1)
    else monthFrom year (month + 1) (days - daysIn year month) fuel

/-- The year that a day number falls into: the estimate by the mean length of a year is off by one
at most. -/
def yearOfDay (number : Nat) : Nat :=
  let estimate := number * 400 / 146097 + 1
  if daysBeforeYear (estimate + 1) ≤ number then estimate + 1
  else if daysBeforeYear estimate ≤ number then estimate
  else estimate - 1

/-- The year, the month and the day of a day number. -/
def dateOfDay (number : Nat) : Nat × Nat × Nat :=
  let year := yearOfDay number
  let (month, day) := monthFrom year 1 (number - daysBeforeYear year) 12
  (year, month, day)

/-! ## Instants -/

/-- Microseconds since the beginning of 1970, in UTC where the distance from it is known and as the
time itself says otherwise. -/
def instant (t : Timestamp) : Int :=
  let days : Int := (dayNumber t.year t.month t.day : Int) - epochDay
  let minutes : Int := days * 1440 + t.hour * 60 + t.minute - t.offset.getD 0
  (minutes * 60 + t.second) * 1000000 + t.microsecond

def isAware (t : Timestamp) : Bool := t.offset.isSome

/-- The seconds of the first instant of the year one. -/
def leastSeconds : Int := -62135596800

/-- The seconds of the last instant of the year 9999. -/
def greatestSeconds : Int := 253402300799

/-- Counts above this size are milliseconds. -/
def millisecondsAbove : Int := 20000000000

/-- The time in UTC so many seconds and microseconds after the beginning of 1970. -/
def ofSeconds? (seconds : Int) (microseconds : Nat) : Option Timestamp :=
  let seconds := seconds + microseconds / 1000000
  if seconds < leastSeconds ∨ greatestSeconds < seconds then none
  else
    let day := (epochDay : Int) + seconds.fdiv 86400
    let time := (seconds.fmod 86400).toNat
    let (year, month, dayOfMonth) := dateOfDay day.toNat
    some ⟨year, month, dayOfMonth, time / 3600, time / 60 % 60, time % 60, microseconds % 1000000,
      some 0⟩

/-- The time that a count of seconds, or of milliseconds if it is large, names. -/
def ofCount? (count : Int) (microseconds : Nat) : Option Timestamp :=
  if millisecondsAbove < count.natAbs then
    ofSeconds? (count.fdiv 1000) ((count.fmod 1000).toNat * 1000 + microseconds)
  else ofSeconds? count microseconds

/-- The time that a floating point count names: its floor, and the rest in microseconds. -/
def ofFloatCount? (count : Float) : Option Timestamp :=
  match Json.wholeNumber? count.floor with
  | some whole =>
    let unit := if millisecondsAbove < whole.natAbs then 1000.0 else 1000000.0
    ofCount? whole ((count - count.floor) * unit).round.toUInt64.toNat
  | none => none

/-! ## Reading -/

def twoDigits? (a b : Char) : Option Nat :=
  if a.isDigit && b.isDigit then some (Json.natOf [a, b]) else none

/-- A date of the form year, month, day, and the text after it. -/
def readDate? (cs : List Char) : Option ((Nat × Nat × Nat) × List Char) :=
  match cs with
  | y₁ :: y₂ :: y₃ :: y₄ :: '-' :: m₁ :: m₂ :: '-' :: d₁ :: d₂ :: rest => do
    let century ← twoDigits? y₁ y₂
    let years ← twoDigits? y₃ y₄
    let month ← twoDigits? m₁ m₂
    let day ← twoDigits? d₁ d₂
    let year := century * 100 + years
    if 1 ≤ year ∧ 1 ≤ month ∧ month ≤ 12 ∧ 1 ≤ day ∧ day ≤ daysIn year month then
      some ((year, month, day), rest)
    else none
  | _ => none

/-- The microseconds that the digits of a fraction stand for; digits beyond the sixth are left
out. -/
def fractionMicros (digits : List Char) : Nat :=
  Json.natOf (digits.take 6) * Nat.pow 10 (6 - digits.length)

/-- The seconds and their fraction, both of which may be missing, and the text after them. -/
def readSeconds? (cs : List Char) : Option ((Nat × Nat) × List Char) :=
  match cs with
  | ':' :: a :: b :: rest => do
    let second ← twoDigits? a b
    if 59 < second then none
    else
      match rest with
      | c :: more =>
        if c = '.' ∨ c = ',' then
          let (digits, rest) := Json.spanDigits more
          if digits.isEmpty then none else some ((second, fractionMicros digits), rest)
        else some ((second, 0), rest)
      | [] => some ((second, 0), rest)
  | _ => some ((0, 0), cs)

/-- The hours and minutes of a distance from UTC: less than a day. -/
def readDistance? (sign : Int) (h₁ h₂ m₁ m₂ : Char) : Option (Option Int) := do
  let hours ← twoDigits? h₁ h₂
  let minutes ← twoDigits? m₁ m₂
  if hours < 24 ∧ minutes < 60 then some (some (sign * (hours * 60 + minutes))) else none

def distanceSign? (c : Char) : Option Int :=
  if c = '+' then some 1 else if c = '-' ∨ c = '\u2212' then some (-1) else none

/-- The whole of a text as a distance from UTC; an empty one says that it is not known. -/
def readOffset? (cs : List Char) : Option (Option Int) :=
  match cs with
  | [] => some none
  | ['Z'] => some (some 0)
  | ['z'] => some (some 0)
  | [c, h₁, h₂, ':', m₁, m₂] => do readDistance? (← distanceSign? c) h₁ h₂ m₁ m₂
  | [c, h₁, h₂, m₁, m₂] => do readDistance? (← distanceSign? c) h₁ h₂ m₁ m₂
  | _ => none

def separators : List Char := ['T', 't', ' ', '_']

/-- A date, a separator and a time of day. -/
def readFull? (cs : List Char) : Option Timestamp := do
  let ((year, month, day), rest) ← readDate? cs
  match rest with
  | separator :: h₁ :: h₂ :: ':' :: m₁ :: m₂ :: rest =>
    if !separators.contains separator then none
    else
      let hour ← twoDigits? h₁ h₂
      let minute ← twoDigits? m₁ m₂
      if 23 < hour ∨ 59 < minute then none
      else
        let ((second, microsecond), rest) ← readSeconds? rest
        let offset ← readOffset? rest
        some ⟨year, month, day, hour, minute, second, microsecond, offset⟩
  | _ => none

/-- A count of seconds in decimal digits, with a point or without.  Only after a point may there be
an exponent. -/
def readCount? (cs : List Char) : Option Timestamp :=
  let (negative, size) := Decimal.splitSign cs
  let (whole, rest) := Json.spanDigits size
  if Nat.pow 2 63 ≤ Json.natOf whole then none
  else
    match rest with
    | [] =>
      if whole.isEmpty then none else ofCount? (Decimal.applySign negative (Json.natOf whole)) 0
    | '.' :: _ => (Decimal.readFloat? cs).bind ofFloatCount?
    | _ => none

/-- The time that a text names: a date with a time of day, a count of seconds, or a date alone,
which is its midnight. -/
def read? (text : String) : Option Timestamp :=
  let cs := text.toList
  (readFull? cs).or <| (readCount? cs).or <|
    match readDate? cs with
    | some ((year, month, day), []) => some ⟨year, month, day, 0, 0, 0, 0, none⟩
    | _ => none

/-! ## Writing -/

/-- The distance from UTC as hours and minutes with a sign. -/
def offsetText : Option Int → String
  | none => ""
  | some minutes =>
    let sign := if minutes < 0 then "-" else "+"
    sign ++ Text.zeroPad 2 (minutes.natAbs / 60) ++ ":" ++ Text.zeroPad 2 (minutes.natAbs % 60)

def dateText (t : Timestamp) : String :=
  Text.zeroPad 4 t.year ++ "-" ++ Text.zeroPad 2 t.month ++ "-" ++ Text.zeroPad 2 t.day

/-- The date as lists show it, with the digits that the year has. -/
def shortDate (t : Timestamp) : String :=
  toString t.year ++ "-" ++ Text.zeroPad 2 t.month ++ "-" ++ Text.zeroPad 2 t.day

/-- The time in the format of ISO 8601; a fraction has six digits and is left out when zero. -/
def isoText (t : Timestamp) : String :=
  let fraction := if t.microsecond = 0 then "" else "." ++ Text.zeroPad 6 t.microsecond
  dateText t ++ "T" ++ Text.zeroPad 2 t.hour ++ ":" ++ Text.zeroPad 2 t.minute ++ ":" ++
    Text.zeroPad 2 t.second ++ fraction ++ offsetText t.offset

end Timestamp

end BranchCompare
