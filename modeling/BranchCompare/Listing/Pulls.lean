import BranchCompare.Listing.Branches

/-!
# Listing change requests

Asks the service of change requests for the open ones of a repository, those updated last first,
and reads its answer.  Items that describe no change request are passed over.
-/

namespace BranchCompare.Listing

open Http

/-- The client of the service.  A token lifts the limit on anonymous requests. -/
def pullsClient (base : String) (token : Option String) (timeout : Seconds) :
    Except ClientFault Client :=
  Client.make base fun base => {
    base := base
    authorization := (token.filter (· ≠ "")).map fun token => "Bearer " ++ token
    accept := "application/vnd.github+json"
    userAgent := userAgent
    timeout := timeout
    followsRedirections := true }

/-- The change requests among the items of a listing.  An item that is broken in its outline breaks
the listing off, and any other item that describes none is passed over. -/
def readItems : List Json → Except Crash (List ChangeRequest)
  | [] => .ok []
  | item :: rest =>
    match ChangeRequest.ofListing item with
    | .ok request => (readItems rest).map (request :: ·)
    | .error .notAnObject => .error (.malformedRequest .notAnObject)
    | .error _ => readItems rest

/-- The change requests in the answer of the service. -/
def requestsOf (target : String) : Json → CallEnd (List ChangeRequest)
  | .array items =>
    match readItems items with
    | .ok requests => .answer requests
    | .error crash => .crashed crash
  | _ => .unavailable ⟨target, "expected a JSON array"⟩

/-- The query of a request for change requests. -/
def pullsParams (limit : Int) : List Form.Pair :=
  [("state", "open"), ("per_page", toString limit), ("sort", "updated"), ("direction", "desc")]

/-- Lists the open change requests of a repository, so many at most. -/
def pulls {S : Type} (client : Client) (transport : Transport S) (owner repo : String)
    (limit : Int) (state : S) : Listed S (List ChangeRequest) :=
  let path := "/repos/" ++ owner ++ "/" ++ repo ++ "/pulls"
  let sent := client.get transport path (pullsParams limit) state
  let target := owner ++ "/" ++ repo
  ⟨endOf target (requestsOf target) sent.result, sent.requests, sent.state⟩

end BranchCompare.Listing
