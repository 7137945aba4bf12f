import BranchCompare.Http.HostName.Letters
import BranchCompare.Text.Composition
import BranchCompare.Text.Direction
import BranchCompare.Text.LowerCase
import BranchCompare.Text.Punycode

/-!
# Names of hosts

A host name is a row of labels.  A label with characters outside of ASCII is sent in its ASCII form,
which begins with `xn--`.  Only small letters and digits may stand in a label, a hyphen inside of
it, and a few other characters beside certain neighbours.
-/

namespace BranchCompare.Http.HostName

open BranchCompare.Text

inductive Fault where
  | nameTooLong
  | noName
  | labelTooLong
  | emptyLabel
  | notComposed
  /-- Hyphens at the third and the fourth place, which are kept for ASCII forms. -/
  | reservedHyphens
  | hyphenAtEnd
  | markAtFront
  /-- A joiner where nothing is to be joined. -/
  | badJoiner (c : Char) (place : Nat) (label : String)
  /-- A character beside neighbours that it may not stand beside. -/
  | badNeighbours (c : Char) (place : Nat) (label : String)
  | notPermitted (c : Char) (place : Nat) (label : String)
  | direction (fault : DirectionFault)
  /-- Nothing after the mark of an ASCII form. -/
  | emptyForm
  | hyphenAfterForm
  | unreadableForm
  deriving DecidableEq, Repr

/-- The code of a character with four digits at least. -/
def codeText (c : Char) : String :=
  String.ofList ('U' :: '+' :: (hex 4 c.toNat).map Char.toUpper)

/-- The fault of a direction in words. -/
def directionMessage : DirectionFault → String
  | .noDirection label =>
    s!"First codepoint in label {quoted label} must be directionality L, R or AL"
  | .misfit place reversed =>
    let side := if reversed then "right-to-left" else "left-to-right"
    s!"Invalid direction for codepoint at position {place} in a {side} label"
  | .mixedNumbers => "Can not mix numeral types in a right-to-left label"
  | .badEnd => "Label ends with illegal codepoint directionality"

/-- The fault in words. -/
def Fault.message : Fault → String
  | .nameTooLong => "Domain too long"
  | .noName => "Empty domain"
  | .labelTooLong => "Label too long"
  | .emptyLabel => "Empty Label"
  | .notComposed => "Label must be in Normalization Form C"
  | .reservedHyphens => "Label has disallowed hyphens in 3rd and 4th position"
  | .hyphenAtEnd => "Label must not start or end with a hyphen"
  | .markAtFront => "Label begins with an illegal combining character"
  | .badJoiner c place label =>
    s!"Unknown codepoint adjacent to joiner {codeText c} at position {place} in {quoted label}"
  | .badNeighbours c place label =>
    s!"Codepoint {codeText c} not allowed at position {place} in {quoted label}"
  | .notPermitted c place label =>
    s!"Codepoint {codeText c} at position {place} of {quoted label} not allowed"
  | .direction fault => directionMessage fault
  | .emptyForm => "Malformed A-label, no Punycode eligible content found"
  | .hyphenAfterForm => "A-label must not end with a hyphen"
  | .unreadableForm => "Invalid A-label"

/-! ## Labels -/

/-- The first character that letters do not join through. -/
def joinedLetter? (cs : List Char) : Option Joining :=
  (cs.map joining).find? (· ≠ .through)

/-- Whether a joiner or its opposite may stand between the characters before it, the last one first,
and those after it: after a mark that silences a vowel.  The opposite of a joiner may also keep two
letters apart that would join. -/
def mayJoin (c : Char) (before after : List Char) : Bool :=
  before.head?.any (combiningClass · == silencerClass) ||
    (c == '\u200c' &&
      [some .onTheLeft, some .onBothSides].contains (joinedLetter? before) &&
      [some .onTheRight, some .onBothSides].contains (joinedLetter? after))

def isJoiner (c : Char) : Bool := c == '\u200c' || c == '\u200d'

def isArabicDigit (c : Char) : Bool := '\u0660' ≤ c && c ≤ '\u0669'

def isEasternDigit (c : Char) : Bool := '\u06f0' ≤ c && c ≤ '\u06f9'

/-- Whether one of the characters that depend on others may stand between the characters before it,
the last one first, and those after it; nothing for a character that is none of them. -/
def fitsNeighbours? (c : Char) (before after : List Char) : Option Bool :=
  let others := before ++ after
  if c = '\u00b7' then some (before.head? == some 'l' && after.head? == some 'l')
  else if c = '\u0375' then some (after.head?.any fun d => inRanges greekRanges d.toNat)
  else if c = '\u05f3' ∨ c = '\u05f4' then
    some (before.head?.any fun d => inRanges hebrewRanges d.toNat)
  else if c = '\u30fb' then
    some (others.any fun d => d != c && inRanges japaneseRanges d.toNat)
  else if isArabicDigit c then some (!others.any isEasternDigit)
  else if isEasternDigit c then some (!others.any isArabicDigit)
  else none

/-- Checks a character between those before it, the last one first, and those after it. -/
def checkChar (label : List Char) (c : Char) (before after : List Char) : Except Fault Unit :=
  let text := String.ofList label
  let place := before.length + 1
  if isPermitted c then .ok ()
  else if isJoiner c then
    if mayJoin c before after then .ok () else .error (.badJoiner c place text)
  else
    match fitsNeighbours? c before after with
    | some true => .ok ()
    | some false => .error (.badNeighbours c place text)
    | none => .error (.notPermitted c place text)

/-- Checks the characters of a label from left to right. -/
def checkChars (label before : List Char) : List Char → Except Fault Unit
  | [] => .ok ()
  | c :: after => do
    checkChar label c before after
    checkChars label (c :: before) after

/-- The most characters of a name without its last dot. -/
def mostChars : Nat := 253

/-- The most characters of a label in ASCII form. -/
def mostLabelChars : Nat := 63

/-- Checks a label that is not in ASCII form. -/
def checkLabel (label : List Char) : Except Fault Unit := do
  if label.isEmpty then throw .emptyLabel
  if mostChars + 1 < label.length then throw .labelTooLong
  if !isComposed label then throw .notComposed
  if (label.drop 2).take 2 = ['-', '-'] then throw .reservedHyphens
  if label.head? = some '-' ∨ label.getLast? = some '-' then throw .hyphenAtEnd
  if label.head?.any isMark then throw .markAtFront
  checkChars label [] label
  (checkDirection label).mapError .direction

/-- The mark at the front of ASCII forms. -/
def formMark : List Char := ['x', 'n', '-', '-']

/-- The text of a label in ASCII. -/
def decodeLabel (label : List Char) : Except Fault (List Char) := do
  let label := label.map Char.toLower
  if formMark.isPrefixOf label then
    let form := label.drop formMark.length
    if form.isEmpty then throw .emptyForm
    if form.getLast? = some '-' then throw .hyphenAfterForm
    match Punycode.decode form with
    | some text =>
      checkLabel text
      return text
    | none => throw .unreadableForm
  else
    checkLabel label
    return label

/-- The label in ASCII. -/
def encodeLabel (label : List Char) : Except Fault (List Char) := do
  let form ←
    if label.all isAscii then
      let _ ← decodeLabel label
      pure label
    else
      checkLabel label
      pure (formMark ++ Punycode.encode label)
  if mostLabelChars < form.length then throw .labelTooLong
  return form

/-! ## Names -/

/-- The dots between labels: that of ASCII, and those of East Asian scripts. -/
def isDot (c : Char) : Bool := ['.', '\u3002', '\uff0e', '\uff61'].contains c

/-- The labels of a name, and whether a dot is at its end.  That dot ends no label. -/
def labelsOf (name : List Char) : Except Fault (List (List Char) × Bool) := do
  if mostChars + 1 < name.length then throw .nameTooLong
  if name.isEmpty then throw .noName
  let labels := pieces '.' (name.map fun c => if isDot c then '.' else c)
  if labels.getLast? = some [] then return (labels.dropLast, true) else return (labels, false)

/-- Labels with dots between them, and one at the end if there was one. -/
def ofLabels (labels : List (List Char)) (isDotted : Bool) : List Char :=
  join '.' labels ++ if isDotted then ['.'] else []

/-- A name in ASCII. -/
def encode (name : List Char) : Except Fault (List Char) := do
  let (labels, isDotted) ← labelsOf (lower (String.ofList name)).toList
  let name := ofLabels (← labels.mapM encodeLabel) isDotted
  if (if isDotted then mostChars + 1 else mostChars) < name.length then throw .nameTooLong
  return name

def decode (name : List Char) : Except Fault (List Char) := do
  let (labels, isDotted) ← labelsOf name
  return ofLabels (← labels.mapM decodeLabel) isDotted

end BranchCompare.Http.HostName
