import BranchCompare.Preset.Table
import BranchCompare.Query

/-!
# Requests for a comparison

All that one comparison takes, its URL, and the reading of such a URL.
-/

namespace BranchCompare

/-- A comparison of two branches of a repository.  Two filters and the wish that the server pulls
first may be given. -/
structure CompareRequest where
  preset : Preset
  old : String
  new : String
  pallet : Option String
  extrinsic : Option String
  gitPull : Option Bool
  deriving DecidableEq

namespace CompareRequest

open Schema

/-- A request whose branches and options have not been checked. -/
structure Draft where
  preset : Preset
  old : Json
  new : Json
  pallet : Json
  extrinsic : Json
  gitPull : Json

/-- The request that a draft stands for. -/
def Draft.check (draft : Draft) : Checked CompareRequest :=
  (fun old new pallet extrinsic gitPull =>
    ⟨draft.preset, old.1, new.1, pallet, extrinsic, gitPull⟩) <$>
    named "old" nonEmptyText draft.old <*>
    named "new" nonEmptyText draft.new <*>
    named "pallet" (orNothing text) draft.pallet <*>
    named "extrinsic" (orNothing text) draft.extrinsic <*>
    named "git_pull" (orNothing flag) draft.gitPull

def path : String := "/compare"

/-- A pair for a text that is there and not empty. -/
def optionalPair (name : String) (value : Option String) : List (String × String) :=
  match value with
  | some text => if text = "" then [] else [(name, text)]
  | none => []

/-- The names and values of a request in order. -/
def pairs (request : CompareRequest) : List (String × String) :=
  request.preset.pairs ++ [("old", request.old), ("new", request.new)] ++
    optionalPair "pallet" request.pallet ++ optionalPair "extrinsic" request.extrinsic ++
    (request.gitPull.map fun value => [("git_pull", flagWord value)]).getD []

def url (request : CompareRequest) : String := Query.build path request.pairs

def Draft.url (draft : Draft) : Except (List Issue) String :=
  draft.check.toExcept.map CompareRequest.url

/-- A draft of two branches without options. -/
def Draft.ofBranches (preset : Preset) (old new : String) : Draft :=
  ⟨preset, .text old, .text new, .null, .null, .null⟩

inductive ReadError where
  | url (fault : Url.Fault)
  /-- These fields are missing or empty. -/
  | lacks (fields : List String)
  | invalid (issues : List Issue)
  | notBoolean (error : Query.NotBoolean)
  deriving DecidableEq, Repr

/-- The error in words, where it is not a list of issues. -/
def ReadError.message : ReadError → Option String
  | .url fault => some fault.message
  | .lacks fields => some ("Compare URL lacks " ++ ", ".intercalate fields)
  | .invalid _ => none
  | .notBoolean error => some error.message

/-- The fields of a preset in a URL. -/
def presetFields : List String :=
  ["repo", "threshold", "path_pattern", "method", "ignore_errors", "unit"]

/-- A value that is there and not empty. -/
def nonEmpty? (name : String) (params : List (String × String)) : Option String :=
  (OrderedMap.get? name params).filter (· ≠ "")

def jsonOf (value : Option String) : Json := (value.map Json.text).getD .null

/-- The request that a URL stands for.  Of values with one name the last counts. -/
def ofUrl (url : String) : Except ReadError CompareRequest := do
  let params := OrderedMap.ofPairs (← (Query.pairs url).mapError .url)
  let missing := (presetFields ++ ["old", "new"]).filter fun name =>
    (nonEmpty? name params).isNone
  if !missing.isEmpty then throw (.lacks missing)
  let fields := params.map fun pair => (pair.1, Json.text pair.2)
  let preset ← ((Preset.check fields).toExcept).mapError .invalid
  let gitPull ← match nonEmpty? "git_pull" params with
    | some text => ((Query.flag text).map some).mapError .notBoolean
    | none => .ok none
  let draft : Draft := {
    preset := preset
    old := jsonOf (OrderedMap.get? "old" params)
    new := jsonOf (OrderedMap.get? "new" params)
    pallet := jsonOf (nonEmpty? "pallet" params)
    extrinsic := jsonOf (nonEmpty? "extrinsic" params)
    gitPull := (gitPull.map Json.bool).getD .null }
  draft.check.toExcept.mapError .invalid

end CompareRequest

end BranchCompare
