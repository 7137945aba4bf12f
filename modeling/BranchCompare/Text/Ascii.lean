import BranchCompare.Text.Quoted

/-!
# ASCII

Texts that have to be ASCII.  Of any other text the check tells the first stretch of characters
outside of ASCII.
-/

namespace BranchCompare.Text

def isAscii (c : Char) : Bool := c.toNat < 0x80

/-- A stretch of characters outside of ASCII: its first character, its place and its length. -/
structure NotAscii where
  first : Char
  start : Nat
  width : Nat
  deriving DecidableEq, Repr

/-- The fault in words: one character is shown, of several only their places. -/
def NotAscii.message (fault : NotAscii) : String :=
  let place :=
    if fault.width ≤ 1 then
      s!"character '{String.ofList (escapeCode fault.first)}' in position {fault.start}"
    else s!"characters in position {fault.start}-{fault.start + fault.width - 1}"
  s!"'ascii' codec can't encode {place}: ordinal not in range(128)"

/-- Checks that a text is ASCII. -/
def checkAscii (text : List Char) : Except NotAscii Unit :=
  match text.dropWhile isAscii with
  | [] => .ok ()
  | c :: rest =>
    .error ⟨c, (text.takeWhile isAscii).length, (rest.takeWhile fun d => !isAscii d).length + 1⟩

end BranchCompare.Text
