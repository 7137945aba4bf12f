import BranchCompare.Decimal.Reader

/-!
# Spans of time

A span in seconds, whole or not, which is shown the way it was given.
-/

namespace BranchCompare

inductive Seconds where
  | whole (count : Int)
  | real (count : Float)

namespace Seconds

/-- The number as a floating point number. -/
def toFloat : Seconds → Float
  | .whole count =>
    let size := Decimal.toFloat count.natAbs 0
    if count < 0 then -size else size
  | .real count => count

def display : Seconds → String
  | .whole count => toString count
  | .real count => Decimal.floatText count

/-- The span has passed before it has begun. -/
def isOver (span : Seconds) : Bool := span.toFloat ≤ 0.0

def standard : Seconds := .real 30.0

end Seconds

end BranchCompare
