/-!
# Sorting

A stable sort by a comparison that may fail.  The sort fails with the first comparison that does.
-/

namespace BranchCompare.StableSort

variable {α ε : Type}

/-- Puts an element in front of the first one that does not come before it. -/
def insert (before : α → α → Except ε Bool) (a : α) : List α → Except ε (List α)
  | [] => .ok [a]
  | b :: rest => do
    if ← before b a then
      let others ← insert before a rest
      return b :: others
    else
      return a :: b :: rest

/-- Sorts a list; elements of which none comes before the other keep their order. -/
def sort (before : α → α → Except ε Bool) : List α → Except ε (List α)
  | [] => .ok []
  | a :: rest => do
    let others ← sort before rest
    insert before a others

end BranchCompare.StableSort
