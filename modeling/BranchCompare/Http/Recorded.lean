import BranchCompare.Http.Client
import BranchCompare.Json.Value
import BranchCompare.Text.Utf8

/-!
# Recorded answers

A transport that answers from a record instead of a network.  A record is a JSON object: under the
URL of a request stands an object with the status and the body of the answer.
-/

namespace BranchCompare.Http

/-- Recorded answers by URL. -/
abbrev Record := List (String × Response)

namespace Record

/-- The response that a value of a record describes: status 200 and an empty body are left out. -/
def responseOf (value : Json) : Response :=
  let field (name : String) : Option Json :=
    match value with
    | .object fields => OrderedMap.get? name fields
    | _ => none
  let status := match field "status" with
    | some (.int status) => status.toNat
    | _ => 200
  let body := ((field "body").bind Json.text?).getD ""
  ⟨status, Text.Utf8.encodeString body, (field "location").bind Json.text?⟩

def ofJson : Json → Record
  | .object fields => fields.map fun (url, value) => (url, responseOf value)
  | _ => []

/-- The transport that answers from a record. -/
def transport (record : Record) : Transport Unit := fun request state =>
  match OrderedMap.get? request.url.text record with
  | some response => (.response response, state)
  | none => (.failure "All connection attempts failed", state)

end Record

end BranchCompare.Http
