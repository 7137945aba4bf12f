import BranchCompare.Text.CodeRange

/-!
# White space

The white space characters, and the removal of them from both ends of a text.  The class is wider
than ASCII: it holds the separators U+001C to U+001F, NEL, the no-break space and the spaces of
the general punctuation block, but not the zero width space U+200B nor the byte order mark.
-/

namespace BranchCompare.Text

/-- The white space code points, as inclusive ranges in ascending order. -/
def blankRanges : List (Nat × Nat) :=
  [(0x9, 0xD), (0x1C, 0x20), (0x85, 0x85), (0xA0, 0xA0), (0x1680, 0x1680), (0x2000, 0x200A),
   (0x2028, 0x2029), (0x202F, 0x202F), (0x205F, 0x205F), (0x3000, 0x3000)]

def isBlank (c : Char) : Bool := inRanges blankRanges c.toNat

/-- Whether a character is white space and none of the four information separators, which number
readers do not skip. -/
def isSpacing (c : Char) : Bool := isBlank c && !(0x1C ≤ c.toNat && c.toNat ≤ 0x1F)

/-- The characters between the first and the last one that is not in the class `p`. -/
def trimBoth (p : Char → Bool) (cs : List Char) : List Char :=
  ((cs.dropWhile p).reverse.dropWhile p).reverse

def strip (text : String) : String := String.ofList (trimBoth isBlank text.toList)

def stripEnd (p : Char → Bool) (text : String) : String :=
  String.ofList (text.toList.reverse.dropWhile p).reverse

example : isBlank '\u3000' = true ∧ isBlank '\u200b' = false ∧ isBlank '\ufeff' = false := by
  decide

end BranchCompare.Text
