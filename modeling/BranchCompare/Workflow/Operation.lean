import BranchCompare.Workflow.State

/-!
# Operations of the workflow

What each operation does with the session, up to the point where it waits and after it.  A crash
breaks an operation off and leaves what was done before it.
-/

namespace BranchCompare

/-- A stretch of an operation on the session, which a crash may break off. -/
abbrev Action (α : Type) := EStateM Crash Session α

/-- What a stretch of an operation comes to. -/
inductive Turn where
  | ended (value : OperationValue)
  | waits (state : TaskState)

namespace Action

def modifyFlow (change : Flow → Flow) : Action Unit :=
  modify fun session => { session with flow := change session.flow }

def fail (message : String) : Action Unit :=
  modifyFlow fun flow => { flow with error := some message }

def clearError : Action Unit := modifyFlow fun flow => { flow with error := none }

def setControl (name : ControlName) (value : Json) : Action Unit :=
  modify fun session => session.modifyControl name fun control =>
    { control with control := control.control.set value }

/-- Remembers a selection.  It is remembered also when the file cannot be written. -/
def remember (key : SelectionKey) (value : Option String) : Action Unit := do
  let session ← get
  let (store, written) := session.store.set key value session.document
  match written with
  | .ok document => set { session with store := store, document := document }
  | .error error =>
    set { session with store := store }
    throw (.store error)

/-- A value that depends on the page's URL. -/
def readPage {α : Type} (read : Page → Except Url.Fault α) : Action α := do
  match read (← get).page with
  | .ok value => return value
  | .error fault => throw (.url fault)

def editPage (edit : Page → Except Url.Fault Page) : Action Unit := do
  let page ← readPage edit
  modify fun session => { session with page := page }

def param (name : String) (default : Option String) : Action (Option String) :=
  readPage fun page => page.param name default

def enterLoading : Action Unit :=
  modify fun session => { session with indicator := session.indicator.enter }

def exitLoading : Action Unit :=
  modify fun session => { session with indicator := session.indicator.exit }

def openUrl (url : String) : Action Unit := do
  modifyFlow fun flow => { flow with launchedUrl := some url }
  modify fun session => { session with page := session.page.navigate url }

/-- The URL of the comparison of two branches. -/
def compareUrl (preset : Preset) (old new : String) : Action String :=
  match (CompareRequest.Draft.ofBranches preset old new).url with
  | .ok url => return url
  | .error issues => throw (.invalidRequest issues)

def nonEmpty (text : Option String) : Option String := text.filter (· ≠ "")

/-- The first of the texts that is there and not empty; of the last one also an empty one. -/
def orElse (text other : Option String) : Option String := (nonEmpty text).or other

def valueOf (text : Option String) : Json := (text.map Json.text).getD .null

/-! ## Branches -/

/-- Gives the two selectors of branches their options. -/
def offerBranches (name : ControlName) (branches : List Branch) : Action Unit :=
  modify fun session => session.modifyControl name fun control =>
    if control.hasOptions then
      { control with control := control.control.setOptions (branches.map fun b => .text b.name) }
    else control

/-- Shows a list of branches, and chooses two of them. -/
def applyBranches (branches : List Branch) : Action Unit := do
  offerBranches .old branches
  offerBranches .new branches
  let oldInUrl ← param "old" none
  let first := Branch.choose branches oldInUrl ((← get).store.get? .first)
  let newInUrl ← param "new" none
  let second := Branch.choose branches newInUrl ((← get).store.get? .second)
  setControl .old (valueOf first)
  setControl .new (valueOf second)
  modifyFlow fun flow => { flow with branches := branches, first := first, second := second }

/-- What a load for a choice gives. -/
def choiceValue (restoring isReady : Bool) : OperationValue :=
  if restoring then .restored else .ready isReady

/-- A load for a choice has ended.  If another repository was selected meanwhile the list is
dropped. -/
def endChoice (repo : String) (restoring : Bool) (result : LoadEnd) : Action Turn := do
  let isCurrent := (← get).flow.repo = some repo
  match result with
  | .ok branches =>
    exitLoading
    if isCurrent then
      applyBranches branches
      modifyFlow fun flow => { flow with stage := .branchesReady }
      return .ended (choiceValue restoring true)
    else return .ended (choiceValue restoring false)
  | .error (.unavailable failure) =>
    if isCurrent then
      modifyFlow fun flow => { flow with stage := .repoSelected }
      fail failure.message
    exitLoading
    return .ended (choiceValue restoring false)
  | .error (.crashed crash) =>
    exitLoading
    throw crash

/-- A load for a change request has ended: its branches are compared. -/
def endComparison (row : ChangeRequest.Row) (preset : Preset) (result : LoadEnd) :
    Action Turn := do
  match result with
  | .ok _ =>
    exitLoading
    let url ← compareUrl preset row.request.baseRef row.request.headRef
    openUrl url
    return .ended (.launched (some url))
  | .error (.unavailable failure) =>
    fail failure.message
    exitLoading
    return .ended (.launched none)
  | .error (.crashed crash) =>
    exitLoading
    throw crash

/-- A load has ended. -/
def endLoading (purpose : Purpose) (result : LoadEnd) : Action Turn :=
  match purpose with
  | .choice repo restoring => endChoice repo restoring result
  | .comparison row preset => endComparison row preset result

/-- Takes over what the cache did for a load. -/
def followLoad (purpose : Purpose) (outcome : BranchCache × LoadTurn × List CacheSignal) :
    Action Turn := do
  let (cache, turn, signals) := outcome
  modify fun session => ({ session with cache := cache }).enqueue (signals.map .cache)
  match turn with
  | .ended result => endLoading purpose result
  | .waits waiting => return .waits (.loading waiting purpose false)

/-- Loads the branches of a repository. -/
def beginLoading (task : TaskId) (repo : String) (forced : Bool) (purpose : Purpose) :
    Action Turn := do
  enterLoading
  followLoad purpose ((← get).cache.load repo forced task)

def loadBranches (task : TaskId) (repo : String) (forced restoring : Bool) : Action Turn := do
  modifyFlow fun flow => { flow with stage := .branchesLoading }
  beginLoading task repo forced (.choice repo restoring)

/-! ## The operations -/

/-- Selects a repository and loads its branches. -/
def selectRepo (task : TaskId) (repo : String) (restoring : Bool) : Action Turn := do
  modifyFlow fun flow =>
    { flow with error := none, repo := some repo, stage := .repoSelected }
  setControl .repo (.text repo)
  remember .repo (some repo)
  editPage fun page => page.replaceParam ControlName.repo.label (.text repo)
  loadBranches task repo false restoring

/-- Gives three controls their listeners, once. -/
def bindControls : Action Unit := do
  let session ← get
  if !session.isBound then
    let listen (name : ControlName) (listener : FlowListener) (session : Session) : Session :=
      session.modifyControl name fun control =>
        { control with control := control.control.listen listener }
    set (listen .new .pickSecond (listen .old .pickFirst (listen .repo .pickRepo
      { session with isBound := true })))

/-- Goes back to the repository in the URL or the one chosen last. -/
def restore (task : TaskId) : Action Turn := do
  bindControls
  let inUrl ← param "repo" none
  match nonEmpty (orElse inUrl ((← get).store.get? .repo)) with
  | some repo => selectRepo task repo true
  | none => return .ended .restored

/-- Loads the branches of the selected repository anew. -/
def refresh (task : TaskId) : Action Turn := do
  match nonEmpty (← get).flow.repo with
  | some repo =>
    clearError
    loadBranches task repo true false
  | none => return .ended (.ready false)

/-- Lists the open change requests of a repository. -/
def list (task : TaskId) (owner repo : Option String) : Action Turn := do
  let session ← get
  let owner ← match nonEmpty owner with
    | some owner => pure owner
    | none => (·.getD "") <$> param "owner" (some session.defaultOwner)
  let repo ← match nonEmpty repo with
    | some repo => pure repo
    | none => (·.getD "") <$> param "repo" (some session.defaultRepo)
  clearError
  if !session.hasPulls then
    fail "No change-request source configured"
    return .ended (.rows [])
  enterLoading
  let call : BoundedCall (List ChangeRequest) := .start session.limit.isOver
  modify fun session => session.enqueue [.listing task .make]
  if !session.limit.isOver then
    modify fun session =>
      { session with timeline := session.timeline.arm session.limit (.task task) }
  return .waits (.listing call owner repo)

/-- A listing has ended without a list. -/
def endListingBadly (message : String) : Action Turn := do
  fail message
  exitLoading
  return .ended (.rows [])

/-- Shows a list of change requests. -/
def showRequests (repo : String) (requests : List ChangeRequest) : Action Turn := do
  match ChangeRequest.Row.build requests with
  | .ok rows =>
    modifyFlow fun flow =>
      { flow with
        requestsRepo := some repo
        rows := rows
        highlighted := ChangeRequest.Row.countHighlighted rows }
    return .ended (.rows rows)
  | .error .mixedTimes => throw .mixedTimes

/-- A listing has ended. -/
def endListing (owner repo : String) (result : CallEnd (List ChangeRequest)) : Action Turn :=
  match result with
  | .answer requests => do
    exitLoading
    showRequests repo requests
  | .unavailable failure => endListingBadly failure.message
  | .outOfTime => endListingBadly s!"Listing change requests of {owner}/{repo} timed out"
  | .crashed crash => do
    exitLoading
    throw crash

/-- Compares the branches of a change request. -/
def compare (task : TaskId) (row : ChangeRequest.Row) (repo : Option String) : Action Turn := do
  clearError
  if row.disabled then
    fail s!"#{row.request.number} comes from a fork and cannot be compared"
    return .ended (.launched none)
  let session ← get
  let repo ← match (nonEmpty repo).or (nonEmpty session.flow.requestsRepo) with
    | some repo => pure (some repo)
    | none => param "repo" (some session.defaultRepo)
  match session.table.resolve repo with
  | .ok preset => beginLoading task (repo.getD "") true (.comparison row preset)
  | .error error =>
    fail error.message
    return .ended (.launched none)

/-- The first stretch of an operation. -/
def first (task : TaskId) : Operation → Action Turn
  | .restore => restore task
  | .selectRepo repo => selectRepo task repo false
  | .refresh => refresh task
  | .list owner repo => list task owner repo
  | .compare row repo => compare task row repo

/-! ## Operations that do not wait -/

/-- One of the two branches of a comparison. -/
inductive Side where
  | old
  | new
  deriving DecidableEq, Repr

def Side.control : Side → ControlName
  | old => .old
  | new => .new

def Side.key : Side → SelectionKey
  | old => .first
  | new => .second

/-- Picks a branch.  A name that is not in the list of branches is refused; no name takes the pick
back. -/
def pick (side : Side) (name : Option String) : Action Bool := do
  let name := nonEmpty name
  let branches := (← get).flow.branches
  match name.map fun name => Branch.named name branches with
  | some false => return false
  | _ =>
    setControl side.control (valueOf name)
    remember side.key name
    editPage fun page => page.replaceParam side.control.label (valueOf name)
    modifyFlow fun flow => match side with
      | .old => { flow with first := name }
      | .new => { flow with second := name }
    return true

/-- Starts the comparison of the two branches that were picked. -/
def launch : Action (Option String) := do
  clearError
  let flow := (← get).flow
  match flow.stage, nonEmpty flow.first, nonEmpty flow.second with
  | .branchesReady, some first, some second =>
    match (← get).table.resolve flow.repo with
    | .ok preset =>
      let url ← compareUrl preset first second
      modifyFlow fun flow => { flow with stage := .launching }
      openUrl url
      return some url
    | .error error =>
      fail error.message
      return none
  | _, _, _ =>
    fail "Select a repository and two branches first"
    return none

/-- Tells a listener of a change. -/
def tell (value : Json) (listener : FlowListener) : Action Unit :=
  let pickValue (side : Side) : Action Unit := do
    match value with
    | .text name => discard (pick side (some name))
    | _ => if value.isEmpty then discard (pick side none)
  match listener with
  | .pickRepo =>
    match value with
    | .text repo =>
      if repo = "" then pure () else modify fun session => session.begin (.selectRepo repo)
    | _ => pure ()
  | .pickFirst => pickValue .old
  | .pickSecond => pickValue .new
  | .redirect name => editPage fun page => page.redirect name.label value

/-- A change of a control by the user: its listeners are told in order. -/
def change (name : ControlName) (value : Json) : Action Unit := do
  let listeners := (((← get).control? name).map fun control => control.control.listeners).getD []
  setControl name value
  listeners.forM (tell value)

/-- Gives the controls their first values from the URL and makes them lead the page. -/
def bindToPage : Action Unit := do
  let names := (← get).controls.map (·.1)
  names.forM fun name => do
    match ← param name.label none with
    | some text =>
      match Page.seed name text with
      | some value => setControl name value
      | none => pure ()
    | none => pure ()
    modify fun session => session.modifyControl name fun control =>
      { control with control := control.control.listen (.redirect name) }

end Action

end BranchCompare
