import BranchCompare.Seconds

/-!
# Deadlines

A clock that is moved by hand, and what is to happen at which time.  Deadlines that have come are
seen to in their order; of equal ones the older goes first.
-/

namespace BranchCompare

/-- A clock and the deadlines ahead of it, each with its owner, in order. -/
structure Timeline (O : Type) where
  clock : Float
  deadlines : List (Float × O)

namespace Timeline

variable {O : Type}

def start : Timeline O := ⟨0.0, []⟩

/-- Puts a deadline behind those that come no later. -/
def insert (time : Float) (owner : O) : List (Float × O) → List (Float × O)
  | [] => [(time, owner)]
  | deadline :: rest =>
    if time < deadline.1 then (time, owner) :: deadline :: rest
    else deadline :: insert time owner rest

/-- Sets a deadline that comes when the span has passed. -/
def arm (timeline : Timeline O) (span : Seconds) (owner : O) : Timeline O :=
  { timeline with
    deadlines := insert (timeline.clock + span.toFloat) owner timeline.deadlines }

/-- Moves the clock on, and gives the owners of the deadlines that have come. -/
def advance (timeline : Timeline O) (span : Seconds) : Timeline O × List O :=
  let clock := timeline.clock + span.toFloat
  let (due, ahead) := timeline.deadlines.partition fun deadline => deadline.1 ≤ clock
  (⟨clock, ahead⟩, due.map (·.2))

end Timeline

end BranchCompare
