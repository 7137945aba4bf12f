import BranchCompare.ChangeRequest
import BranchCompare.StableSort
import BranchCompare.Text.LowerCase
import BranchCompare.Text.Padding

/-!
# The list of change requests

Change requests as a list shows them: newest first, each with two marks.  A request from a fork
cannot be compared; one that speaks of weights is worth comparing.
-/

namespace BranchCompare

/-- A change request in the list. -/
structure ChangeRequest.Row where
  request : ChangeRequest
  highlighted : Bool
  disabled : Bool
  deriving DecidableEq, Repr

inductive MixedTimes where
  | mixedTimes
  deriving DecidableEq, Repr

namespace ChangeRequest

/-- The word that makes a request worth comparing. -/
def keyword : String := "weight"

def holds (word : List Char) : List Char → Bool
  | [] => word.isEmpty
  | c :: cs => word.isPrefixOf (c :: cs) || holds word cs

/-- Whether a text speaks of weights, in any case. -/
def mentionsKeyword (text : String) : Bool := holds keyword.toList (Text.lower text).toList

/-- The head branch is in a fork, or in one that is gone. -/
def isForked (request : ChangeRequest) : Bool := request.headOwner ≠ some request.baseOwner

/-- One of the texts of the request speaks of weights. -/
def speaksOfKeyword (request : ChangeRequest) : Bool :=
  [request.title, request.body, request.headRef, request.baseRef].any mentionsKeyword

namespace Row

/-- The row of a request. -/
def ofRequest (request : ChangeRequest) : Row where
  request := request
  disabled := request.isForked
  highlighted := !request.isForked && request.speaksOfKeyword

def displayTitle (row : Row) : String := Text.truncate 100 row.request.title

/-- Whether the first request was updated before the second one.  A time with a known distance from
UTC cannot be compared with one without. -/
def olderThan (a b : ChangeRequest) : Except MixedTimes Bool :=
  if a.updatedAt.isAware = b.updatedAt.isAware then
    .ok (a.updatedAt.instant < b.updatedAt.instant)
  else
    .error .mixedTimes

/-- The rows of a list of requests, newest first.  The list is sorted from its end and turned round,
so that requests of one instant keep their order. -/
def build (requests : List ChangeRequest) : Except MixedTimes (List Row) := do
  let ordered ← StableSort.sort olderThan requests.reverse
  return ordered.reverse.map ofRequest

def countHighlighted (rows : List Row) : Nat := rows.countP (·.highlighted)

end Row

end ChangeRequest

end BranchCompare
