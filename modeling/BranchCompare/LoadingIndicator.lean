/-!
# The loading indicator

Counts the phases of loading that are under way, and notes each time it is switched on or off.
-/

namespace BranchCompare

/-- The number of phases entered and not left, and the switches so far. -/
structure LoadingIndicator where
  depth : Int
  toggles : List Bool
  deriving DecidableEq, Repr

namespace LoadingIndicator

def off : LoadingIndicator := ⟨0, []⟩

def isActive (indicator : LoadingIndicator) : Bool := 0 < indicator.depth

def enter (indicator : LoadingIndicator) : LoadingIndicator :=
  let depth := indicator.depth + 1
  ⟨depth, if depth = 1 then indicator.toggles ++ [true] else indicator.toggles⟩

def exit (indicator : LoadingIndicator) : LoadingIndicator :=
  let depth := indicator.depth - 1
  ⟨depth, if depth = 0 then indicator.toggles ++ [false] else indicator.toggles⟩

end LoadingIndicator

end BranchCompare
