import BranchCompare.Text.Composition.Table
import BranchCompare.Text.Mark

/-!
# Composed texts

A character with marks may be written in several ways: as one composite character, or as one
character and marks after it.  In a composed text the marks of a character stand in the order of
their classes, and each is part of a composite character where there is one.  Syllables of Hangul
are composites of two or three letters by their numbers.
-/

namespace BranchCompare.Text

/-! ## Syllables -/

def firstSyllable : Nat := 0xAC00

def firstLead : Nat := 0x1100

def firstVowel : Nat := 0x1161

/-- The code before the first trailing consonant. -/
def noTrail : Nat := 0x11A7

/-- The parts of a syllable: a syllable and the consonant that trails it, or a consonant and a
vowel. -/
def syllableParts? (code : Nat) : Option (Nat × Nat) :=
  let index := code - firstSyllable
  if code < firstSyllable ∨ 19 * 21 * 28 ≤ index then none
  else if index % 28 = 0 then some (firstLead + index / (21 * 28), firstVowel + index / 28 % 21)
  else some (code - index % 28, noTrail + index % 28)

/-- The syllable of a consonant and a vowel, or of a syllable and a trailing consonant. -/
def syllable? (first second : Nat) : Option Nat :=
  let lead := first - firstLead
  let vowel := second - firstVowel
  let index := first - firstSyllable
  let trail := second - noTrail
  if firstLead ≤ first ∧ lead < 19 ∧ firstVowel ≤ second ∧ vowel < 21 then
    some (firstSyllable + (lead * 21 + vowel) * 28)
  else if firstSyllable ≤ first ∧ index < 19 * 21 * 28 ∧ index % 28 = 0 ∧ noTrail < second ∧
      trail < 28 then
    some (first + trail)
  else none

/-! ## Composition -/

/-- The character and the mark that a composite stands for. -/
def partsOf? (c : Char) : Option (Char × Char) :=
  let parts := (syllableParts? c.toNat).or
    ((composites.find? fun entry => entry.1 = c.toNat).map (·.2))
  parts.map fun (first, second) => (Char.ofNat first, Char.ofNat second)

/-- The composite of a character and a mark. -/
def compositeOf? (first second : Char) : Option Char :=
  let code := (syllable? first.toNat second.toNat).or
    ((composites.find? fun entry => entry.2 = (first.toNat, second.toNat)).map (·.1))
  code.map Char.ofNat

/-- The most parts, but one, that a composite stands for. -/
def mostMarks : Nat := 3

/-- A character taken apart, `depth` times at most. -/
def takeApart : (depth : Nat) → Char → List Char
  | 0, c => [c]
  | depth + 1, c =>
    match partsOf? c with
    | some (first, mark) => takeApart depth first ++ [mark]
    | none => [c]

/-- Puts a character before marks in order; a mark moves behind those of lower classes. -/
def insertMark (c : Char) : List Char → List Char
  | [] => [c]
  | d :: rest =>
    if 0 < combiningClass d ∧ combiningClass d < combiningClass c then d :: insertMark c rest
    else c :: d :: rest

/-- A text with all composites taken apart and all marks in order. -/
def decompose (text : List Char) : List Char :=
  (text.flatMap (takeApart mostMarks)).foldr insertMark []

/-- What has been composed of a text: the characters before the last one that takes marks, that
character, and the marks after it that are not part of it.  Both lists are in reverse. -/
structure Composing where
  before : List Char
  bearer : Option Char
  marks : List Char

def Composing.text (composing : Composing) : List Char :=
  composing.before.reverse ++ composing.bearer.toList ++ composing.marks.reverse

/-- Adds a character.  It becomes a part of the last one that takes marks if nothing between the two
is in its way: a mark of the same class or a higher one, or any mark if it is none itself. -/
def Composing.add (composing : Composing) (c : Char) : Composing :=
  let isFree := match composing.marks with
    | [] => true
    | mark :: _ => decide (combiningClass mark < combiningClass c)
  let composite := if isFree then composing.bearer.bind (compositeOf? · c) else none
  match composite with
  | some d => { composing with bearer := some d }
  | none =>
    if combiningClass c = 0 then ⟨composing.text.reverse, some c, []⟩
    else { composing with marks := c :: composing.marks }

/-- A text in composed form.  Characters that composed texts do not hold stay as they are. -/
def compose (text : List Char) : List Char :=
  ((decompose text).foldl Composing.add ⟨[], none, []⟩).text

def isComposed (text : List Char) : Bool :=
  text.all (fun c => !inRanges unstableRanges c.toNat) && compose text == text

example : isComposed ['\u00e4'] = true ∧ isComposed ['a', '\u0308'] = false ∧
    isComposed ['\uac01'] = true ∧ isComposed ['\uac00', '\u11a8'] = false := by
  decide +kernel

end BranchCompare.Text
