import BranchCompare.BranchCache
import BranchCompare.CompareRequest
import BranchCompare.LoadingIndicator
import BranchCompare.Page
import BranchCompare.SelectionStore
import BranchCompare.Settings
import BranchCompare.Timeline

/-!
# The state of the workflow

There are two ways to a comparison.  By hand, a repository is chosen, its branches are loaded, and
two of them are picked.  From the list of open change requests, one is picked, and its branches are
compared.  Operations run side by side: each runs until it waits for a fetch or a listing, and its
next turn is put in line when what it waits for has ended.
-/

namespace BranchCompare

/-- How far a comparison by hand has come. -/
inductive Stage where
  | idle
  | repoSelected
  | branchesLoading
  | branchesReady
  | launching
  deriving DecidableEq, Repr

/-- What the workflow shows. -/
structure Flow where
  stage : Stage
  repo : Option String
  branches : List Branch
  first : Option String
  second : Option String
  /-- The repository of the change requests in the list. -/
  requestsRepo : Option String
  rows : List ChangeRequest.Row
  highlighted : Nat
  /-- What went wrong last.  Every operation clears it when it begins. -/
  error : Option String
  /-- The URL of the comparison that was started last. -/
  launchedUrl : Option String
  deriving DecidableEq, Repr

namespace Flow

def idle : Flow := ⟨.idle, none, [], none, none, none, [], 0, none, none⟩

end Flow

/-- What a control tells of a change to. -/
inductive FlowListener where
  /-- A repository is chosen. -/
  | pickRepo
  | pickFirst
  | pickSecond
  /-- The page is led to the URL with the named value changed. -/
  | redirect (name : ControlName)
  deriving DecidableEq, Repr

/-- A control of the page of the workflow.  Some controls have no list of options. -/
structure FlowControl where
  control : Control FlowListener
  hasOptions : Bool

/-- An operation that may take a while. -/
inductive Operation where
  /-- Goes back to the repository in the URL or the one chosen last. -/
  | restore
  | selectRepo (repo : String)
  /-- Loads the branches of the repository anew. -/
  | refresh
  | list (owner repo : Option String)
  | compare (row : ChangeRequest.Row) (repo : Option String)
  deriving DecidableEq, Repr

/-- What branches are loaded for. -/
inductive Purpose where
  /-- To choose among them. -/
  | choice (repo : String) (restoring : Bool)
  /-- To compare the branches of a change request. -/
  | comparison (row : ChangeRequest.Row) (preset : Preset)
  deriving DecidableEq

inductive OperationValue where
  | restored
  | ready (isReady : Bool)
  | rows (rows : List ChangeRequest.Row)
  | launched (url : Option String)
  deriving DecidableEq, Repr

inductive OperationEnd where
  | value (value : OperationValue)
  | crashed (crash : Crash)
  | cancelled

/-- An operation by its place among all operations. -/
abbrev TaskId := Nat

/-- Where an operation stands. -/
inductive TaskState where
  /-- It is in line to begin. -/
  | begins (operation : Operation)
  /-- It waits for branches; it may be in line to end because it was cancelled. -/
  | loading (waiting : Waiting) (purpose : Purpose) (cancelled : Bool)
  /-- It waits for a listing of change requests. -/
  | listing (call : BoundedCall (List ChangeRequest)) (owner repo : String)
  | ended (result : OperationEnd)

/-- What is put in line. -/
inductive Signal where
  /-- A signal of the branch cache.  The callers of the cache are the operations; their turns are
  in line under the same signal also when they wait for something else. -/
  | cache (signal : CacheSignal)
  /-- A turn of the call for a listing. -/
  | listing (task : TaskId) (turn : CallTurn)
  deriving DecidableEq, Repr

/-- Whose time may be up. -/
inductive DeadlineOwner where
  | fetch (fetch : FetchId)
  | task (task : TaskId)
  deriving DecidableEq, Repr

/-- The arguments of a call for change requests: the owner and the repository. -/
abbrev PullsCall := String × String

/-- The workflow with all it works on. -/
structure Session where
  /-- The owner and the repository that are listed where no other ones are given. -/
  defaultOwner : String
  defaultRepo : String
  /-- The longest time that a listing of change requests may take. -/
  limit : Seconds
  table : PresetTable
  cache : BranchCache
  /-- The service that lists change requests, if there is one. -/
  hasPulls : Bool
  pulls : Remote PullsCall
  store : SelectionStore
  /-- The file of the store. -/
  document : Document
  page : Page
  controls : List (ControlName × FlowControl)
  indicator : LoadingIndicator
  flow : Flow
  /-- The controls have their listeners. -/
  isBound : Bool
  tasks : List TaskState
  line : List Signal
  timeline : Timeline DeadlineOwner

structure MissingControls where
  names : List ControlName
  deriving DecidableEq, Repr

/-- The error in words, with the names in alphabetical order. -/
def MissingControls.message (error : MissingControls) : String :=
  let names := (error.names.map fun name => name.label).mergeSort fun a b => a ≤ b
  "Missing controls: " ++ (Json.array (names.map .text)).display

namespace Session

def control? (session : Session) (name : ControlName) : Option FlowControl :=
  session.controls.lookup name

/-- Changes the control of a name. -/
def modifyControl (session : Session) (name : ControlName)
    (change : FlowControl → FlowControl) : Session :=
  { session with
    controls := session.controls.map fun entry =>
      if entry.1 = name then (name, change entry.2) else entry }

def enqueue (session : Session) (signals : List Signal) : Session :=
  { session with line := session.line ++ signals }

def setTask (session : Session) (task : TaskId) (state : TaskState) : Session :=
  { session with tasks := session.tasks.set task state }

/-- Puts an operation in line to begin. -/
def begin (session : Session) (operation : Operation) : Session :=
  { session with
    tasks := session.tasks ++ [.begins operation]
    line := session.line ++ [.cache (.caller session.tasks.length)] }

/-- The controls that a session cannot do without. -/
def neededControls : List ControlName := [.repo, .old, .new]

/-- What a session is made of. -/
structure Parts where
  defaultOwner : String
  defaultRepo : String
  limit : Seconds
  table : PresetTable
  cache : BranchCache
  hasPulls : Bool
  pulls : Remote PullsCall
  store : SelectionStore
  document : Document
  page : Page
  /-- The names of the controls, and whether each has a list of options. -/
  controls : List (ControlName × Bool)

/-- A session in which nothing has happened. -/
def make (parts : Parts) : Except MissingControls Session :=
  let missing := neededControls.filter fun name => (parts.controls.lookup name).isNone
  if missing.isEmpty then
    .ok {
      defaultOwner := parts.defaultOwner
      defaultRepo := parts.defaultRepo
      limit := parts.limit
      table := parts.table
      cache := parts.cache
      hasPulls := parts.hasPulls
      pulls := parts.pulls
      store := parts.store
      document := parts.document
      page := parts.page
      controls := parts.controls.map fun (name, hasOptions) => (name, ⟨.empty, hasOptions⟩)
      indicator := .off
      flow := .idle
      isBound := false
      tasks := []
      line := []
      timeline := .start }
  else .error ⟨missing⟩

end Session

end BranchCompare
