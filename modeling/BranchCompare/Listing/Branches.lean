import BranchCompare.Failure
import BranchCompare.Http.Client
import BranchCompare.Json.Reader
import BranchCompare.Settings

/-!
# Listing branches

Asks the branch server for the branches of a repository and reads its answer.
-/

namespace BranchCompare.Listing

open Http

inductive BodyFault where
  /-- The status of the response is none of success. -/
  | status (code : Nat)
  | noResponse (failure : RequestFailure)
  | lost (fault : ExchangeFault)
  | malformed (error : Json.OctetsError)

/-- The fault in words. -/
def BodyFault.message : BodyFault → String
  | .status code => s!"HTTP {code}"
  | .noResponse failure => s!"request error: {failure.message}"
  | .lost fault => s!"invalid JSON: {fault.message}"
  | .malformed error => s!"invalid JSON: {error.message}"

/-- The JSON value in the body of a response, or the fault of the response.  A request that cannot
be made breaks the listing off. -/
def valueOf (result : Except SendError Response) : Except Crash (Except BodyFault Json) :=
  match result with
  | .error (.address fault) => .error (.address fault)
  | .error (.exchange fault) => .ok (.error (.lost fault))
  | .error (.request failure) => .ok (.error (.noResponse failure))
  | .ok response =>
    if Client.isSuccess response.status then
      .ok ((Json.readOctets response.body).mapError .malformed)
    else .ok (.error (.status response.status))

/-- How a listing ends whose result has the body that `read` understands. -/
def endOf {α : Type} (target : String) (read : Json → CallEnd α)
    (result : Except SendError Response) : CallEnd α :=
  match valueOf result with
  | .ok (.ok value) => read value
  | .ok (.error fault) => .unavailable ⟨target, fault.message⟩
  | .error crash => .crashed crash

def userAgent : String := "weight-compare-controller/1.0"

/-- The client of the branch server. -/
def branchClient (base : String) (timeout : Seconds) : Except ClientFault Client :=
  Client.make base fun base => {
    base := base
    authorization := none
    accept := "application/json"
    userAgent := userAgent
    timeout := timeout
    followsRedirections := false }

/-- The branches in the answer of the branch server. -/
def branchesOf (repo : String) (value : Json) : CallEnd (List Branch) :=
  let listed := match value with
    | .object fields => OrderedMap.get? "branch" fields
    | _ => none
  match listed with
  | some (.array pairs) =>
    match Branch.ofPairs pairs with
    | .ok branches => .answer branches
    | .error error => .unavailable ⟨repo, error.message⟩
  | _ => .unavailable ⟨repo, "response has no 'branch' list"⟩

/-- The query of a request for branches.  The server may be asked to look for news first. -/
def branchParams (repo : String) (looksForNews : Bool) : List Form.Pair :=
  [("repo", repo), ("fetch", if looksForNews then "true" else "false")]

/-- What a listing comes to, with the requests that were made and the state of the transport. -/
structure Listed (S α : Type) where
  result : CallEnd α
  requests : List Request
  state : S

/-- Lists the branches of a repository. -/
def branches {S : Type} (client : Client) (transport : Transport S) (repo : String)
    (looksForNews : Bool) (state : S) : Listed S (List Branch) :=
  let sent := client.get transport "/branches" (branchParams repo looksForNews) state
  ⟨endOf repo (branchesOf repo) sent.result, sent.requests, sent.state⟩

end BranchCompare.Listing
