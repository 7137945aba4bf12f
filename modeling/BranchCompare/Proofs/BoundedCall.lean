import BranchCompare.BoundedCall
import Mathlib.Algebra.Order.Ring.Nat

/-!
# The turns of a bounded call

A bounded call and the one who waits for it move by turns that stand in line.  `Paced` says which
turns stand in line for a call in a given state: one to make it while it is ahead, one to take up
its answer or its stop, at most one to notify, and one to wake the waiter once it is to go on.
Every step of a call keeps it.  A wait ends at most once: `Paced.wake` takes the only turn that can
end the wait, and leaves none.
-/

namespace BranchCompare

variable {α : Type}

/-- The call is in line to be made. -/
@[simp] def CallPhase.isAhead : CallPhase α → Bool
  | .unmade | .doomed => true
  | _ => false

/-- The answer of the call, or its stop, is in line to be taken up. -/
@[simp] def CallPhase.isMoving : CallPhase α → Bool
  | .answered _ | .stopping => true
  | _ => false

/-- The call is over. -/
@[simp] def CallPhase.isOver : CallPhase α → Bool
  | .over _ => true
  | _ => false

/-- The call was called off. -/
@[simp] def CallPhase.isCalledOff : CallPhase α → Bool
  | .doomed | .stopping | .over none => true
  | _ => false

/-- The one who waits only waits for a call to be over that was called off. -/
@[simp] def Watch.isStop : Watch → Bool
  | .stop _ => true
  | _ => false

namespace BoundedCall

/-- The turns in line for a call, given by their number, fit its state.  `waits` says that the wait
for the call has not ended. -/
structure Paced (call : BoundedCall α) (waits : Bool) (due : CallTurn → Nat) : Prop where
  made : due .make = call.phase.isAhead.toNat
  takenUp : due .takeUp = call.phase.isMoving.toNat
  notified : due .notify ≤ call.phase.isOver.toNat
  calledOff : call.watch.isStop = call.phase.isCalledOff
  /-- A waiter that waits for the result has no turn to wake; one that is to go on has one until its
  wait has ended; and one that waits for the stop has one after the call has notified it. -/
  woken : match call.watch with
    | .result => due .wake = 0 ∧ waits = true
    | .woken | .interrupted => due .wake = waits.toNat
    | .stop _ => due .notify + due .wake = (call.phase.isOver && waits).toNat
  ended : waits = false → call.phase.isOver = true

/-- The number of turns of a kind among new turns and those in line already. -/
def tally (turns : List CallTurn) (rest : CallTurn → Nat) (turn : CallTurn) : Nat :=
  turns.count turn + rest turn

@[simp] theorem tally_nil (rest : CallTurn → Nat) : tally [] rest = rest := by
  funext turn
  simp [tally]

/-- A new call has one turn in line. -/
theorem start_paced (limitIsOver : Bool) {rest : CallTurn → Nat} (h : ∀ turn, rest turn = 0) :
    (start limitIsOver : BoundedCall α).Paced true (tally [.make] rest) := by
  cases limitIsOver <;> constructor <;> simp [start, tally, h]

/-- A wait that ends puts no turn in line. -/
theorem wake_turns {call : BoundedCall α} {ended : WaitEnd α} (h : call.wake.2.2 = some ended) :
    call.wake.2.1 = [] := by
  unfold wake at h ⊢
  split <;> simp_all

namespace Paced

variable {call : BoundedCall α} {waits : Bool} {rest : CallTurn → Nat}

theorem make (h : call.Paced waits (tally [.make] rest)) (ready : Option (CallEnd α))
    (number : Nat) :
    (call.make ready number).1.Paced waits (tally (call.make ready number).2 rest) := by
  obtain ⟨phase, watch, numbered⟩ := call
  obtain ⟨hmade, htaken, hnotified, hoff, hwoken, hended⟩ := h
  cases phase with
  | unmade =>
    cases ready <;> cases watch <;> constructor <;> simp_all [BoundedCall.make, tally]
  | doomed => cases watch <;> constructor <;> simp_all [BoundedCall.make, tally]
  | _ => simp [tally] at hmade

/-- An answer that comes in keeps the pace. -/
theorem answer (h : call.Paced waits rest) (result : CallEnd α) :
    (call.answer result).1.Paced waits (tally (call.answer result).2 rest) := by
  obtain ⟨phase, watch, numbered⟩ := call
  cases phase with
  | held =>
    obtain ⟨hmade, htaken, hnotified, hoff, hwoken, hended⟩ := h
    cases watch <;> constructor <;> simp_all [BoundedCall.answer, tally]
  | _ => simpa [BoundedCall.answer] using h

theorem takeUp (h : call.Paced waits (tally [.takeUp] rest)) :
    call.takeUp.1.Paced waits (tally call.takeUp.2 rest) := by
  obtain ⟨phase, watch, numbered⟩ := call
  obtain ⟨hmade, htaken, hnotified, hoff, hwoken, hended⟩ := h
  cases phase with
  | answered => cases watch <;> constructor <;> simp_all [BoundedCall.takeUp, tally]
  | stopping => cases watch <;> constructor <;> simp_all [BoundedCall.takeUp, tally]
  | _ => simp [tally] at htaken

theorem notify (h : call.Paced waits (tally [.notify] rest)) :
    call.notify.1.Paced waits (tally call.notify.2 rest) := by
  obtain ⟨phase, watch, numbered⟩ := call
  obtain ⟨hmade, htaken, hnotified, hoff, hwoken, hended⟩ := h
  cases phase with
  | «over» result =>
    cases result <;> cases watch <;> constructor <;>
      simp_all [BoundedCall.notify, tally]
  | _ => simp [tally] at hnotified

theorem expire (h : call.Paced waits rest) :
    call.expire.1.Paced waits (tally call.expire.2 rest) := by
  obtain ⟨phase, watch, numbered⟩ := call
  cases watch with
  | result =>
    obtain ⟨hmade, htaken, hnotified, hoff, hwoken, hended⟩ := h
    constructor <;> simp_all [BoundedCall.expire, tally]
  | _ => simpa [BoundedCall.expire] using h

/-- The turn of the waiter.  It can come only while the wait goes on, and if it ends the wait, no
turn is left that could end it again. -/
theorem wake (h : call.Paced waits (tally [.wake] rest)) :
    waits = true ∧ call.wake.1.Paced call.wake.2.2.isNone (tally call.wake.2.1 rest) := by
  obtain ⟨phase, watch, numbered⟩ := call
  obtain ⟨hmade, htaken, hnotified, hoff, hwoken, hended⟩ := h
  have hwaits : waits = true := by
    cases watch <;> cases waits <;> simp_all [tally]
  subst hwaits
  refine ⟨rfl, ?_⟩
  cases watch with
  | result => simp [tally] at hwoken
  | _ =>
    cases phase with
    | «over» result =>
      cases result <;> constructor <;>
        simp_all [BoundedCall.wake, tally] <;> omega
    | _ => constructor <;> simp_all [BoundedCall.wake, BoundedCall.callOff, tally]

end Paced

end BoundedCall

end BranchCompare
