import BranchCompare.CommandLine.Command
import BranchCompare.Listing.Pulls
import BranchCompare.LogLevel
import BranchCompare.Preset.File
import BranchCompare.Workflow.Run

/-!
# Execution of commands

A command works on a session of the workflow and asks two services.  It prints lines when it
succeeds, and otherwise says what went wrong.  The last selection is kept in a file from one
command to the next.
-/

namespace BranchCompare.CommandLine

/-- The services that commands ask, with a state of their own. -/
structure Services (S : Type) where
  /-- Lists the branches of a repository, after looking for news or not. -/
  branches : String → Bool → S → CallEnd (List Branch) × S
  /-- Lists the open change requests of an owner's repository. -/
  pulls : String → String → S → CallEnd (List ChangeRequest) × S

/-- The files that commands read and write. -/
structure Files where
  /-- The file of the last selection. -/
  selection : Document
  /-- The file of presets, where the settings name one. -/
  presets : Document

/-- What breaks a command off. -/
inductive Breakdown where
  | logLevel (error : LogLevel.Unknown)
  /-- There is no client of a service. -/
  | client (fault : Http.ClientFault)
  | selection (error : SelectionStore.OpenError)
  | presets (path : String) (error : PresetTable.FileError)
  | controls (error : MissingControls)
  /-- A service itself ran out of time, and nobody waited for that. -/
  | outOfTime
  | operation (crash : Crash)

/-- What a command comes to. -/
structure Report (S : Type) where
  /-- The lines that are printed. -/
  lines : List String
  /-- The errors that are told of, in order. -/
  errors : List String
  /-- The exit status, or what broke the command off. -/
  ending : Except Breakdown Nat
  /-- The file of the last selection afterwards. -/
  selection : Document
  state : S

def succeeded : Nat := 0

def failed : Nat := 1

def misused : Nat := 2

/-! ## Sessions of commands -/

/-- The table of presets that the settings choose. -/
def presetTable (settings : Settings) (presets : Document) : Except Breakdown PresetTable :=
  match settings.presetsFile.filter (· ≠ "") with
  | some path => (PresetTable.ofDocument presets).mapError (.presets (normalPath path))
  | none => .ok .standard

/-- A session on a page, with all controls and the last selection. -/
def openSession (settings : Settings) (files : Files) (url : String) :
    Except Breakdown Session := do
  let store ← (SelectionStore.ofDocument files.selection).mapError .selection
  let table ← presetTable settings files.presets
  (Session.make {
    defaultOwner := settings.owner
    defaultRepo := settings.repo
    limit := settings.fetchTimeout
    table := table
    cache := .fresh settings.fetchTimeout []
    hasPulls := true
    pulls := .fresh []
    store := store
    document := files.selection
    page := .ofUrl url
    controls := ControlName.all.map fun name => (name, true) }).mapError .controls

/-- The first operation whose listing is held, with what it lists. -/
def heldListing? (session : Session) : Option (TaskId × String × String) := do
  let task ← session.tasks.findIdx? fun
    | .listing call _ _ => call.isHeld
    | _ => false
  match session.tasks[task]? with
  | some (.listing _ owner repo) => some (task, owner, repo)
  | _ => none

/-- The first fetch whose call is held, with what it asks for. -/
def heldFetch? (session : Session) : Option (FetchId × String × Bool) := do
  let fetch ← session.cache.fetches.findIdx? fun fetch => fetch.call.isHeld
  let state ← session.cache.fetches[fetch]?
  return (fetch, state.repo, state.forced)

variable {S : Type}

/-- Has a service answer the call that the session waits for, if there is one. -/
def serve (services : Services S) (session : Session) (state : S) : Session × S :=
  match heldFetch? session, heldListing? session with
  | some (fetch, repo, forced), _ =>
    let (result, state) := services.branches repo forced state
    (session.answerFetch fetch result, state)
  | none, some (task, owner, repo) =>
    let (result, state) := services.pulls owner repo state
    (session.answerListing task result, state)
  | none, none => (session, state)

/-- How an operation has ended. -/
def endOf (session : Session) (task : TaskId) : OperationEnd :=
  match session.tasks[task]? with
  | some (.ended result) => result
  | _ => .cancelled

/-- What is left of an operation that has been carried out alone: the session, the state of the
services, and the way it ended. -/
structure Completed (S : Type) where
  session : Session
  state : S
  result : OperationEnd

/-- Carries out an operation.  On its own, no operation waits for more than one call. -/
def complete (services : Services S) (session : Session) (state : S) (operation : Operation) :
    Completed S :=
  let task := session.tasks.length
  let (session, state) := serve services (session.begin operation).settle state
  let session := session.settle
  ⟨session, state, endOf session task⟩

/-! ## The commands -/

def absoluteUrl (settings : Settings) (url : String) : String :=
  Text.stripEnd (· == '/') settings.baseUrl ++ url

/-- The report of a command that could not begin. -/
def notBegun (files : Files) (state : S) (breakdown : Breakdown) : Report S :=
  ⟨[], [], .error breakdown, files.selection, state⟩

/-- The report of a command that ends with a session. -/
def report (session : Session) (state : S) (lines errors : List String)
    (ending : Except Breakdown Nat) : Report S :=
  ⟨lines, errors, ending, session.document, state⟩

/-- The report of a command that ends with a comparison, or with the error that the workflow
shows. -/
def reportUrl (settings : Settings) (session : Session) (state : S) : Option String → Report S
  | some url => report session state [absoluteUrl settings url] [] (.ok succeeded)
  | none => report session state [] session.flow.error.toList (.ok failed)

def branchLine (branch : Branch) : String :=
  Text.padRight 60 branch.name ++ " " ++ branch.lastCommit

/-- Shows the branches of a repository, which were asked for without a session. -/
def runBranches (files : Files) (listed : CallEnd (List Branch)) (state : S) : Report S :=
  match listed with
  | .answer branches => ⟨branches.map branchLine, [], .ok succeeded, files.selection, state⟩
  | .unavailable failure => ⟨[], [failure.message], .ok failed, files.selection, state⟩
  | .outOfTime => notBegun files state .outOfTime
  | .crashed crash => notBegun files state (.operation crash)

/-- The page on which branches are compared. -/
def comparisonPage (repo : String) (old new : Option String) : String :=
  let pairs := [("repo", some repo), ("old", old), ("new", new)].filterMap fun (name, value) =>
    (Action.nonEmpty value).map fun value => (name, value)
  Query.build "/" pairs

/-- Compares two branches: the session goes back to the repository of the page, or to the last one,
and then starts the comparison. -/
def runCompare (services : Services S) (settings : Settings) (session : Session) (state : S) :
    Report S :=
  let restored := complete services session state .restore
  match restored.result with
  | .crashed crash =>
    report restored.session restored.state [] [] (.error (.operation crash))
  | _ =>
    match restored.session.flow.error with
    | some message => report restored.session restored.state [] [message] (.ok failed)
    | none =>
      match restored.session.run Action.launch with
      | (session, .ok url) => reportUrl settings session restored.state url
      | (session, .error crash) =>
        report session restored.state [] [] (.error (.operation crash))

def markOf (row : ChangeRequest.Row) : String :=
  if row.disabled then "x" else if row.highlighted then "*" else " "

/-- The line of a change request. -/
def requestLine (row : ChangeRequest.Row) : String :=
  let request := row.request
  let title := Text.padRight 60 (Text.truncate 60 row.displayTitle)
  markOf row ++ " #" ++ Text.padRight 6 (toString request.number) ++ " " ++ title ++ " " ++
    Text.padRight 16 request.author ++ " " ++ request.headRef ++ " -> " ++ request.baseRef ++
    "  " ++ request.updatedAt.shortDate

def requestsPage : String := "/compare-mr"

/-- Shows the open change requests of a repository, and how many are highlighted. -/
def runRequests (services : Services S) (owner repo : Option String) (session : Session)
    (state : S) : Report S :=
  let listed := complete services session state (.list owner repo)
  match listed.result, listed.session.flow.error with
  | .crashed crash, _ => report listed.session listed.state [] [] (.error (.operation crash))
  | _, some message => report listed.session listed.state [] [message] (.ok failed)
  | _, none =>
    let flow := listed.session.flow
    let lines := flow.rows.map requestLine ++ [s!"{flow.highlighted} highlighted"]
    report listed.session listed.state lines [] (.ok succeeded)

/-- Compares the branches of the first row with a number. -/
def runRequest (services : Services S) (settings : Settings) (number : Int)
    (owner repo : Option String) (session : Session) (state : S) : Report S :=
  let listed := complete services session state (.list owner repo)
  match listed.result with
  | .crashed crash => report listed.session listed.state [] [] (.error (.operation crash))
  | _ =>
    match listed.session.flow.rows.find? fun row => row.request.number = number with
    | none =>
      report listed.session listed.state []
        (listed.session.flow.error.toList ++ [s!"No open change request #{number}"]) (.ok failed)
    | some row =>
      let compared := complete services listed.session listed.state (.compare row none)
      match compared.result with
      | .value (.launched url) => reportUrl settings compared.session compared.state url
      | .crashed crash =>
        report compared.session compared.state [] [] (.error (.operation crash))
      | _ => reportUrl settings compared.session compared.state none

/-! ## Services over a transport -/

/-- The listing of branches over a transport. -/
def branchService (client : Http.Client) (transport : Http.Transport S) (repo : String)
    (looksForNews : Bool) (state : S) : CallEnd (List Branch) × S :=
  let listed := Listing.branches client transport repo looksForNews state
  (listed.result, listed.state)

/-- The services over a transport, at the addresses in the settings. -/
def servicesOver (settings : Settings) (transport : Http.Transport S) :
    Except Http.ClientFault (Services S) := do
  let branchClient ← Listing.branchClient settings.baseUrl settings.fetchTimeout
  let pullsClient ← Listing.pullsClient settings.apiUrl settings.token settings.fetchTimeout
  return {
    branches := branchService branchClient transport
    pulls := fun owner repo state =>
      let listed := Listing.pulls pullsClient transport owner repo settings.requestLimit state
      (listed.result, listed.state) }

/-- Runs a command with the services and a session on the page. -/
def withSession (settings : Settings) (files : Files) (transport : Http.Transport S) (state : S)
    (url : String) (run : Services S → Session → S → Report S) : Report S :=
  match (servicesOver settings transport).mapError Breakdown.client with
  | .error breakdown => notBegun files state breakdown
  | .ok services =>
    match openSession settings files url with
    | .error breakdown => notBegun files state breakdown
    | .ok session => run services session state

/-- Executes a command. -/
def Command.execute (settings : Settings) (files : Files) (transport : Http.Transport S)
    (state : S) : Command → Report S
  | .branches repo looksForNews =>
    match Listing.branchClient settings.baseUrl settings.fetchTimeout with
    | .error fault => notBegun files state (.client fault)
    | .ok client =>
      let (listed, state) := branchService client transport repo looksForNews state
      runBranches files listed state
  | .compare repo old new =>
    withSession settings files transport state (comparisonPage repo old new) fun services =>
      runCompare services settings
  | .requests owner repo =>
    withSession settings files transport state requestsPage fun services =>
      runRequests services owner repo
  | .request number owner repo =>
    withSession settings files transport state requestsPage fun services =>
      runRequest services settings number owner repo

end BranchCompare.CommandLine
