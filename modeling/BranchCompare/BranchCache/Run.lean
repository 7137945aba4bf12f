import BranchCompare.BranchCache
import BranchCompare.Timeline

/-!
# Runs of the branch cache

Callers that load branches from one cache.  A run is a sequence of events from outside, each of
which may put signals in line, and of turns, each of which does what one signal of the line says.
Which signal is next is for the one who runs: `turn` takes any, `settle` always takes the first.
-/

namespace BranchCompare

/-- Where a caller stands. -/
inductive CallerState where
  /-- The load is in line to begin. -/
  | begins (repo : String) (forced : Bool)
  /-- The load waits for a fetch; it may be in line to end because it was cancelled. -/
  | waits (waiting : Waiting) (cancelled : Bool)
  | ended (result : LoadEnd)
  | cancelled

/-- A cache, its callers, and the signals in line. -/
structure CacheRun where
  cache : BranchCache
  callers : List CallerState
  line : List CacheSignal
  timeline : Timeline FetchId

namespace CacheRun

def start (cache : BranchCache) : CacheRun := ⟨cache, [], [], .start⟩

def enqueue (run : CacheRun) (outcome : BranchCache × List CacheSignal) : CacheRun :=
  { run with cache := outcome.1, line := run.line ++ outcome.2 }

def setCaller (run : CacheRun) (caller : CallerId) (state : CallerState) : CacheRun :=
  { run with callers := run.callers.set caller state }

/-- What a turn of a load comes to. -/
def settleTurn (run : CacheRun) (caller : CallerId)
    (outcome : BranchCache × LoadTurn × List CacheSignal) : CacheRun :=
  let (cache, turn, signals) := outcome
  let state := match turn with
    | .ended result => CallerState.ended result
    | .waits waiting => .waits waiting false
  (run.setCaller caller state).enqueue (cache, signals)

/-- A turn of a caller. -/
def callerTurn (run : CacheRun) (caller : CallerId) : CacheRun :=
  match run.callers[caller]? with
  | some (.begins repo forced) => run.settleTurn caller (run.cache.load repo forced caller)
  | some (.waits waiting false) => run.settleTurn caller (run.cache.resume waiting caller)
  | some (.waits _ true) => run.setCaller caller .cancelled
  | _ => run

/-- Does what a signal says. -/
def perform (run : CacheRun) (signal : CacheSignal) : CacheRun :=
  match signal with
  | .caller caller => run.callerTurn caller
  | .start fetch =>
    let run := run.enqueue (run.cache.perform signal)
    if run.cache.limit.isOver then run
    else { run with timeline := run.timeline.arm run.cache.limit fetch }
  | _ => run.enqueue (run.cache.perform signal)

/-- Does what the signal at a place of the line says. -/
def turn (run : CacheRun) (place : Nat) : CacheRun :=
  match run.line[place]? with
  | some signal => { run with line := run.line.eraseIdx place }.perform signal
  | none => run

/-- Takes the first signal of the line until none is left.  The fuel bounds the number of turns. -/
def settleWithin : (fuel : Nat) → CacheRun → CacheRun
  | 0, run => run
  | fuel + 1, run => if run.line.isEmpty then run else settleWithin fuel (run.turn 0)

/-- More turns than a line can lead to: a fetch takes eight at most, and a caller two for each fetch
that it waits for. -/
def turnBound (run : CacheRun) : Nat :=
  let parties := run.callers.length + run.cache.fetches.length
  (parties + 1) * (2 * parties + 16)

/-- Takes the first signal of the line until none is left. -/
def settle (run : CacheRun) : CacheRun := settleWithin run.turnBound run

/-! ## Events -/

/-- A caller starts a load. -/
def load (run : CacheRun) (repo : String) (forced : Bool) : CacheRun :=
  { run with
    callers := run.callers ++ [.begins repo forced]
    line := run.line ++ [.caller run.callers.length] }

/-- The answer to the call of a fetch comes in. -/
def answer (run : CacheRun) (fetch : FetchId) (result : CallEnd (List Branch)) : CacheRun :=
  run.enqueue (run.cache.answer fetch result)

/-- A reply to a held call comes in.  Without such a call nothing happens. -/
def reply (run : CacheRun) (number : Nat) (reply : Reply) : Option CacheRun := do
  let fetch ← run.cache.heldCall? number
  let state ← run.cache.fetches[fetch]?
  return run.answer fetch (reply.toEnd state.repo readBranches)

def expire (run : CacheRun) (fetch : FetchId) : CacheRun := run.enqueue (run.cache.expire fetch)

def advance (run : CacheRun) (span : Seconds) : CacheRun :=
  let (timeline, due) := run.timeline.advance span
  due.foldl expire { run with timeline := timeline }

/-- A caller that waits is cancelled.  Without such a caller nothing happens. -/
def cancel (run : CacheRun) (caller : CallerId) : Option CacheRun :=
  match run.callers[caller]? with
  | some (.waits waiting _) =>
    some ((run.setCaller caller (.waits waiting true)).enqueue (run.cache.abandon waiting caller))
  | _ => none

def setReady (run : CacheRun) (key : String) (reply : Option Reply) : CacheRun :=
  { run with cache := { run.cache with server := run.cache.server.setReady key reply } }

end CacheRun

end BranchCompare
