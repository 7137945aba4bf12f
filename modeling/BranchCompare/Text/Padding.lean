/-!
# Columns

Texts in columns: the width counts characters.
-/

namespace BranchCompare.Text

/-- The text, followed by as many spaces as it lacks of the width. -/
def padRight (width : Nat) (text : String) : String :=
  text ++ String.ofList (List.replicate (width - text.length) ' ')

/-- The number of at least `width` digits that stands for the value. -/
def zeroPad (width value : Nat) : String :=
  let digits := toString value
  String.ofList (List.replicate (width - digits.length) '0') ++ digits

def truncate (count : Nat) (text : String) : String := String.ofList (text.toList.take count)

end BranchCompare.Text
