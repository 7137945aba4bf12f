import BranchCompare.Branch
import BranchCompare.ChangeRequest.Row
import BranchCompare.Document
import BranchCompare.Http.Address

/-!
# Failures

How a remote listing fails.  That it cannot be had is expected, and every operation copes with it;
anything else breaks off the operation that meets it.
-/

namespace BranchCompare

/-- A listing that cannot be had: what was to be listed, and why it failed. -/
structure FetchFailure where
  target : String
  reason : String
  deriving DecidableEq, Repr

def FetchFailure.message (failure : FetchFailure) : String :=
  s!"Failed to fetch {failure.target}: {failure.reason}"

/-- What breaks off an operation. -/
inductive Crash where
  /-- A remote went wrong in an unexpected way. -/
  | remote (message : String)
  /-- A listing of branches holds something else. -/
  | notAPair (error : NotAPair)
  /-- A listing of change requests holds something else. -/
  | malformedRequest (error : MalformedRequest)
  /-- The times of change requests cannot be compared. -/
  | mixedTimes
  /-- A text that should be a URL is none. -/
  | url (fault : Url.Fault)
  /-- The address of a request is none. -/
  | address (fault : Http.AddressFault)
  /-- A comparison with these issues was to be started. -/
  | invalidRequest (issues : List Schema.Issue)
  /-- The last selection cannot be written. -/
  | store (error : AccessError)

/-- How a load ends that does not give a list. -/
inductive LoadFault where
  | unavailable (failure : FetchFailure)
  | crashed (crash : Crash)

/-- How a load ends. -/
abbrev LoadEnd := Except LoadFault (List Branch)

/-- How a call of a remote ends. -/
inductive CallEnd (α : Type) where
  | answer (value : α)
  | unavailable (failure : FetchFailure)
  /-- The remote itself ran out of time. -/
  | outOfTime
  | crashed (crash : Crash)

end BranchCompare
