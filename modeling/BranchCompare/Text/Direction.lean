import BranchCompare.Text.Mark

/-!
# Writing direction

The directions of the characters that may stand in a name, and the rule of names in which some are
written from right to left: the first character tells the direction of the name, only characters
that fit it may follow, and the last one, marks apart, has to be a letter or a digit.
-/

namespace BranchCompare.Text

inductive Direction where
  | leftToRight
  | rightToLeft
  /-- A letter of Arabic and of scripts like it, which are written from right to left. -/
  | arabicLetter
  | arabicNumber
  | europeanNumber
  /-- A mark, which goes along with the character before it. -/
  | mark
  /-- A character that goes along with those on its two sides. -/
  | neutral
  deriving DecidableEq, Repr

/-- The letters written from right to left, as inclusive ranges in ascending order. -/
def rightToLeftRanges : List (Nat × Nat) :=
  [(0x5D0, 0x5EA), (0x5EF, 0x5F4), (0x7C0, 0x7EA), (0x7F4, 0x7F5), (0x800, 0x815), (0x81A, 0x81A),
   (0x824, 0x824), (0x828, 0x828), (0x840, 0x858), (0x10800, 0x10805), (0x10808, 0x10808),
   (0x1080A, 0x10835), (0x10837, 0x10838), (0x1083C, 0x1083C), (0x1083F, 0x10855),
   (0x10860, 0x10876), (0x10880, 0x1089E), (0x108E0, 0x108F2), (0x108F4, 0x108F5),
   (0x10900, 0x10915), (0x10920, 0x10939), (0x10980, 0x109B7), (0x109BE, 0x109BF),
   (0x10A00, 0x10A00), (0x10A10, 0x10A13), (0x10A15, 0x10A17), (0x10A19, 0x10A35),
   (0x10A60, 0x10A7C), (0x10A80, 0x10A9C), (0x10AC0, 0x10AC7), (0x10AC9, 0x10AE4),
   (0x10B00, 0x10B35), (0x10B40, 0x10B55), (0x10B60, 0x10B72), (0x10B80, 0x10B91),
   (0x10C00, 0x10C48), (0x10CC0, 0x10CF2), (0x10E80, 0x10EA9), (0x10EB0, 0x10EB1),
   (0x10F00, 0x10F1C), (0x10F27, 0x10F27), (0x10F70, 0x10F81), (0x10FB0, 0x10FC4),
   (0x10FE0, 0x10FF6), (0x1E800, 0x1E8C4), (0x1E922, 0x1E943), (0x1E94B, 0x1E94B),
   (0x1E950, 0x1E959)]

/-- The letters of Arabic and of scripts like it, as inclusive ranges in ascending order. -/
def arabicLetterRanges : List (Nat × Nat) :=
  [(0x620, 0x63F), (0x641, 0x64A), (0x66E, 0x66F), (0x671, 0x674), (0x679, 0x6D3), (0x6D5, 0x6D5),
   (0x6E5, 0x6E6), (0x6EE, 0x6EF), (0x6FA, 0x6FF), (0x710, 0x710), (0x712, 0x72F), (0x74D, 0x7A5),
   (0x7B1, 0x7B1), (0x860, 0x86A), (0x870, 0x887), (0x889, 0x88E), (0x8A0, 0x8C9), (0xFE73, 0xFE73),
   (0x10D00, 0x10D23), (0x10F30, 0x10F45)]

/-- The Arabic numbers, as inclusive ranges in ascending order. -/
def arabicNumberRanges : List (Nat × Nat) :=
  [(0x660, 0x669), (0x10D30, 0x10D39)]

/-- The European numbers, as inclusive ranges in ascending order. -/
def europeanNumberRanges : List (Nat × Nat) :=
  [(0x30, 0x39), (0x6F0, 0x6F9)]

/-- The neutral characters, as inclusive ranges in ascending order. -/
def neutralRanges : List (Nat × Nat) :=
  [(0x2D, 0x2D), (0xB7, 0xB7), (0x2B9, 0x2BA), (0x2C6, 0x2CF), (0x2EC, 0x2EC), (0x375, 0x375),
   (0x200C, 0x200D), (0x2E2F, 0x2E2F), (0x30FB, 0x30FB), (0xA67F, 0xA67F), (0xA717, 0xA71F),
   (0xA788, 0xA788)]

/-- The marks that are written from left to right, as inclusive ranges in ascending order. -/
def leftToRightMarkRanges : List (Nat × Nat) :=
  [(0xCBF, 0xCBF), (0xCC6, 0xCC6), (0x11A07, 0x11A08), (0x11C3F, 0x11C3F)]

/-- The direction of a character that may stand in a name. -/
def direction (c : Char) : Direction :=
  let code := c.toNat
  if inRanges europeanNumberRanges code then .europeanNumber
  else if inRanges neutralRanges code then .neutral
  else if inRanges rightToLeftRanges code then .rightToLeft
  else if inRanges arabicLetterRanges code then .arabicLetter
  else if inRanges arabicNumberRanges code then .arabicNumber
  else if isNonspacing c && !inRanges leftToRightMarkRanges code then .mark
  else .leftToRight

/-- The directions of characters that are written from right to left, numbers included. -/
def Direction.isReversed (direction : Direction) : Bool :=
  direction = .rightToLeft || direction = .arabicLetter || direction = .arabicNumber

/-- The directions that fit a name: all but those of the other way. -/
def Direction.fits (reversed : Bool) (direction : Direction) : Bool :=
  if reversed then direction ≠ .leftToRight else !direction.isReversed

/-- The directions that a name may end in, marks apart. -/
def Direction.mayEnd (reversed : Bool) (direction : Direction) : Bool :=
  direction = .europeanNumber ||
    (if reversed then direction.isReversed else direction = .leftToRight)

/-- Whether a number is of the other kind than the numbers before it. -/
def Direction.mixes (numbers : Option Direction) (direction : Direction) : Bool :=
  match numbers with
  | some kind =>
    (direction = .arabicNumber || direction = .europeanNumber) && kind ≠ direction
  | none => false

inductive DirectionFault where
  /-- The first character tells no direction. -/
  | noDirection (name : String)
  /-- A character does not fit the direction of the name. -/
  | misfit (place : Nat) (reversed : Bool)
  | mixedNumbers
  | badEnd
  deriving DecidableEq, Repr

/-- The kind of numbers that a name has after a character. -/
def Direction.numbersAfter (numbers : Option Direction) (direction : Direction) :
    Option Direction :=
  if direction = .arabicNumber || direction = .europeanNumber then numbers.or (some direction)
  else numbers

/-- Checks the characters of a name of known direction, from the given place on.  `ends` tells
whether the name might end here, and `numbers` the kind of the numbers so far. -/
def checkDirections (reversed : Bool) (place : Nat) (ends : Bool) (numbers : Option Direction) :
    List Direction → Except DirectionFault Unit
  | [] => if ends then .ok () else .error .badEnd
  | direction :: rest =>
    if !direction.fits reversed then .error (.misfit place reversed)
    else if direction.mixes numbers then .error .mixedNumbers
    else
      let ends := if direction = .mark then ends else direction.mayEnd reversed
      checkDirections reversed (place + 1) ends (direction.numbersAfter numbers) rest

/-- Checks the directions of a name.  A name without characters from right to left is not bound to
any. -/
def checkDirection (name : List Char) : Except DirectionFault Unit :=
  let directions := name.map direction
  if directions.any Direction.isReversed then
    match directions.head? with
    | some .leftToRight => checkDirections false 1 false none directions
    | some .rightToLeft | some .arabicLetter => checkDirections true 1 false none directions
    | _ => .error (.noDirection (String.ofList name))
  else .ok ()

end BranchCompare.Text
