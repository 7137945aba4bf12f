import BranchCompare.Failure

/-!
# Remotes

A service that answers calls with listings.  A call that the service has an answer ready for is
answered at once; any other call is held until its answer comes or it is called off.  The service
keeps a record of all calls in order.
-/

namespace BranchCompare

/-- What a service says. -/
inductive Reply where
  /-- The items of a listing, as they were received. -/
  | items (values : List Json)
  /-- The listing cannot be had. -/
  | unavailable (reason : String)
  | outOfTime
  | broken (message : String)

/-- Where a call stands. -/
inductive CallStatus where
  | pending
  | done
  | failed
  | cancelled
  deriving DecidableEq, Repr

/-- How a call ends that a service answers with a reply. -/
def Reply.toEnd {α : Type} (target : String) (read : List Json → Except Crash α) :
    Reply → CallEnd α
  | .items values =>
    match read values with
    | .ok value => .answer value
    | .error crash => .crashed crash
  | .unavailable reason => .unavailable ⟨target, reason⟩
  | .outOfTime => .outOfTime
  | .broken message => .crashed (.remote message)

def readBranches (values : List Json) : Except Crash (List Branch) :=
  (Branch.ofPairs values).mapError .notAPair

def readRequests (values : List Json) : Except Crash (List ChangeRequest) :=
  (values.mapM ChangeRequest.ofListing).mapError .malformedRequest

/-- Where a call stands that has ended. -/
def CallEnd.status {α : Type} : CallEnd α → CallStatus
  | .answer _ => .done
  | _ => .failed

/-- A call with its arguments, of type `A`. -/
structure Call (A : Type) where
  arguments : A
  status : CallStatus
  deriving DecidableEq, Repr

/-- A service: the replies it has ready by key, and the calls made so far. -/
structure Remote (A : Type) where
  ready : List (String × Reply)
  calls : List (Call A)

namespace Remote

variable {A : Type}

def fresh (ready : List (String × Reply)) : Remote A := ⟨ready, []⟩

/-- The reply that is ready for a key, or else for all keys. -/
def readyFor (remote : Remote A) (key : String) : Option Reply :=
  (OrderedMap.get? key remote.ready).or (OrderedMap.get? "*" remote.ready)

/-- Makes or takes away a reply that is ready for a key. -/
def setReady (remote : Remote A) (key : String) (reply : Option Reply) : Remote A :=
  { remote with
    ready := match reply with
      | some reply => OrderedMap.put key reply remote.ready
      | none => OrderedMap.erase key remote.ready }

def record (remote : Remote A) (arguments : A) (status : CallStatus) : Remote A :=
  { remote with calls := remote.calls ++ [⟨arguments, status⟩] }

def mark (remote : Remote A) (number : Nat) (status : CallStatus) : Remote A :=
  { remote with calls := remote.calls.modify number fun call => { call with status := status } }

end Remote

end BranchCompare
