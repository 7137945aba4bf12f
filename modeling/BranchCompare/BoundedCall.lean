import BranchCompare.Remote

/-!
# Calls with a time limit

A call of a service on behalf of one who waits for its end.  The call and the one who waits take
turns: each step of one of them is put in line behind all steps that are in line already, so that a
call which ends and the news of it are two steps.  When time runs out, or the one who waits is
cancelled, the call is called off first and the wait goes on until the call is over.

A limit that is over from the start calls the call off before it is made.
-/

namespace BranchCompare

/-- Where a call stands. -/
inductive CallPhase (α : Type) where
  /-- The call is in line to be made. -/
  | unmade
  /-- The call is in line to be made and has been called off. -/
  | doomed
  /-- The call was made and is held. -/
  | held
  /-- The answer has come and is in line to be taken up. -/
  | answered (result : CallEnd α)
  /-- The call was called off after it was made. -/
  | stopping
  /-- The call is over, with its end unless it was called off. -/
  | over (result : Option (CallEnd α))

/-- Why a call was called off. -/
inductive Stop where
  | timeLimit
  | cancelled
  deriving DecidableEq, Repr

/-- What the one who waits is waiting for. -/
inductive Watch where
  /-- The end of the call or of the time. -/
  | result
  /-- Nothing any more: the next turn is in line. -/
  | woken
  /-- Nothing any more: the next turn is in line, and there is a cancellation to see to. -/
  | interrupted
  /-- The end of a call that was called off. -/
  | stop (why : Stop)
  deriving DecidableEq, Repr

/-- A call with a time limit.  It has a number once it was made. -/
structure BoundedCall (α : Type) where
  phase : CallPhase α
  watch : Watch
  number : Option Nat

/-- A step of a call that is to be put in line. -/
inductive CallTurn where
  /-- The call is made. -/
  | make
  /-- The answer, or the news that the call was called off, reaches the call. -/
  | takeUp
  /-- The end of the call reaches the one who waits. -/
  | notify
  /-- The one who waits goes on. -/
  | wake
  deriving DecidableEq, Repr

/-- How a wait ends. -/
inductive WaitEnd (α : Type) where
  | ended (result : CallEnd α)
  | stopped (why : Stop)

namespace BoundedCall

variable {α : Type}

/-- A call that is to be made, and its first turn. -/
def start (limitIsOver : Bool) : BoundedCall α :=
  if limitIsOver then ⟨.doomed, .stop .timeLimit, none⟩ else ⟨.unmade, .result, none⟩

/-- A call that is in line to be made is called off. -/
def isDoomed (call : BoundedCall α) : Bool :=
  match call.phase with
  | .doomed => true
  | _ => false

/-- The call is held: an answer may come. -/
def isHeld (call : BoundedCall α) : Bool :=
  match call.phase with
  | .held => true
  | _ => false

/-- The call is made under its number: a reply that is ready ends it, otherwise it is held. -/
def make (call : BoundedCall α) (ready : Option (CallEnd α)) (number : Nat) :
    BoundedCall α × List CallTurn :=
  match call.phase with
  | .unmade =>
    match ready with
    | some result => ({ call with phase := .over (some result), number := some number }, [.notify])
    | none => ({ call with phase := .held, number := some number }, [])
  | .doomed => ({ call with phase := .over none }, [.notify])
  | _ => (call, [])

/-- An answer comes in. -/
def answer (call : BoundedCall α) (result : CallEnd α) : BoundedCall α × List CallTurn :=
  match call.phase with
  | .held => ({ call with phase := .answered result }, [.takeUp])
  | _ => (call, [])

/-- The answer is taken up, or the call ends because it was called off. -/
def takeUp (call : BoundedCall α) : BoundedCall α × List CallTurn :=
  match call.phase with
  | .answered result => ({ call with phase := .over (some result) }, [.notify])
  | .stopping => ({ call with phase := .over none }, [.notify])
  | _ => (call, [])

/-- The one who waits learns that the call is over. -/
def notify (call : BoundedCall α) : BoundedCall α × List CallTurn :=
  match call.watch with
  | .result => ({ call with watch := .woken }, [.wake])
  | .stop _ => (call, [.wake])
  | _ => (call, [])

/-- The time is up. -/
def expire (call : BoundedCall α) : BoundedCall α × List CallTurn :=
  match call.watch with
  | .result => ({ call with watch := .woken }, [.wake])
  | _ => (call, [])

/-- The one who waits is cancelled. -/
def cancel (call : BoundedCall α) : BoundedCall α × List CallTurn :=
  match call.watch with
  | .result => ({ call with watch := .interrupted }, [.wake])
  | .woken => ({ call with watch := .interrupted }, [])
  | .interrupted => (call, [])
  | .stop _ => ({ call with watch := .stop .cancelled }, [])

/-- Calls the call off. -/
def callOff (call : BoundedCall α) (why : Stop) : BoundedCall α × List CallTurn :=
  let stopped := { call with watch := .stop why }
  match call.phase with
  | .unmade => ({ stopped with phase := .doomed }, [])
  | .held => ({ stopped with phase := .stopping }, [.takeUp])
  | .answered _ => ({ stopped with phase := .stopping }, [])
  | _ => (stopped, [])

/-- The one who waits goes on: either the wait is over, or the call is called off. -/
def wake (call : BoundedCall α) : BoundedCall α × List CallTurn × Option (WaitEnd α) :=
  match call.watch, call.phase with
  | .stop why, _ => (call, [], some (.stopped why))
  | _, .over (some result) => (call, [], some (.ended result))
  | .interrupted, _ =>
    let (call, turns) := call.callOff .cancelled
    (call, turns, none)
  | _, _ =>
    let (call, turns) := call.callOff .timeLimit
    (call, turns, none)

/-- The status that the record of a call gets by a turn of it. -/
def statusAfter (call : BoundedCall α) : CallStatus :=
  match call.phase with
  | .over (some result) => result.status
  | .over none => .cancelled
  | _ => .pending

end BoundedCall

end BranchCompare
