import BranchCompare.Workflow.Operation

/-!
# Runs of the workflow

Turns and events of a session.  A turn does what one signal of the line says; `turn` takes any
signal and `settle` always the first.  Events come from outside: an operation begins or is
cancelled, an answer comes in, time passes, the user changes a control.
-/

namespace BranchCompare.Session

/-- Takes over what a stretch of an operation came to. -/
def follow (session : Session) (task : TaskId) (action : Action Turn) : Session :=
  match action session with
  | .ok (.ended value) session => session.setTask task (.ended (.value value))
  | .ok (.waits state) session => session.setTask task state
  | .error crash session => session.setTask task (.ended (.crashed crash))

/-- Ends an operation that was cancelled while it waited. -/
def endCancelled (session : Session) (task : TaskId) : Session :=
  { session with indicator := session.indicator.exit }.setTask task (.ended .cancelled)

/-- Puts turns of a call for a listing in line. -/
def enqueueTurns (session : Session) (task : TaskId) (turns : List CallTurn) : Session :=
  session.enqueue (turns.map fun turn =>
    match turn with
    | .wake => .cache (.caller task)
    | turn => .listing task turn)

/-- The operation that waits for a listing goes on. -/
def wakeListing (session : Session) (task : TaskId) (call : BoundedCall (List ChangeRequest))
    (owner repo : String) : Session :=
  let (call, turns, ended) := call.wake
  match ended with
  | none => (session.setTask task (.listing call owner repo)).enqueueTurns task turns
  | some (.ended result) => session.follow task (Action.endListing owner repo result)
  | some (.stopped .timeLimit) => session.follow task (Action.endListing owner repo .outOfTime)
  | some (.stopped .cancelled) => session.endCancelled task

/-- A turn of an operation. -/
def taskTurn (session : Session) (task : TaskId) : Session :=
  match session.tasks[task]? with
  | some (.begins operation) => session.follow task (Action.first task operation)
  | some (.loading waiting purpose false) =>
    session.follow task (Action.followLoad purpose (session.cache.resume waiting task))
  | some (.loading _ _ true) => session.endCancelled task
  | some (.listing call owner repo) => session.wakeListing task call owner repo
  | _ => session

def readyEnd (session : Session) (owner repo : String) : Option (CallEnd (List ChangeRequest)) :=
  let target := owner ++ "/" ++ repo
  (session.pulls.readyFor target).map (Reply.toEnd target readRequests)

/-- A turn of the call for a listing. -/
def listingTurn (session : Session) (task : TaskId) (turn : CallTurn) : Session :=
  match session.tasks[task]? with
  | some (.listing call owner repo) =>
    match turn with
    | .make =>
      let (made, turns) := call.make (session.readyEnd owner repo) session.pulls.calls.length
      let pulls := if call.isDoomed then session.pulls
        else session.pulls.record (owner, repo) made.statusAfter
      ({ session with pulls := pulls }.setTask task (.listing made owner repo)).enqueueTurns
        task turns
    | .takeUp =>
      let (taken, turns) := call.takeUp
      let pulls := match taken.number with
        | some number => session.pulls.mark number taken.statusAfter
        | none => session.pulls
      ({ session with pulls := pulls }.setTask task (.listing taken owner repo)).enqueueTurns
        task turns
    | .notify =>
      let (notified, turns) := call.notify
      (session.setTask task (.listing notified owner repo)).enqueueTurns task turns
    | .wake => session.wakeListing task call owner repo
  | _ => session

/-- Takes over what the cache did. -/
def withCache (session : Session) (outcome : BranchCache × List CacheSignal) : Session :=
  { session with cache := outcome.1 }.enqueue (outcome.2.map .cache)

/-- Does what a signal says. -/
def perform (session : Session) (signal : Signal) : Session :=
  match signal with
  | .cache (.caller task) => session.taskTurn task
  | .cache (.start fetch) =>
    let session := session.withCache (session.cache.perform (.start fetch))
    if session.cache.limit.isOver then session
    else { session with
      timeline := session.timeline.arm session.cache.limit (.fetch fetch) }
  | .cache signal => session.withCache (session.cache.perform signal)
  | .listing task turn => session.listingTurn task turn

/-- Does what the signal at a place of the line says. -/
def turn (session : Session) (place : Nat) : Session :=
  match session.line[place]? with
  | some signal => { session with line := session.line.eraseIdx place }.perform signal
  | none => session

/-- Takes the first signal of the line until none is left.  The fuel bounds the number of turns. -/
def settleWithin : (fuel : Nat) → Session → Session
  | 0, session => session
  | fuel + 1, session =>
    if session.line.isEmpty then session else settleWithin fuel (session.turn 0)

/-- More turns than a line can lead to: a fetch and a listing take eight at most, and an operation
two for each fetch that it waits for. -/
def turnBound (session : Session) : Nat :=
  let parties := session.tasks.length + session.cache.fetches.length
  (parties + 1) * (2 * parties + 24)

def settle (session : Session) : Session := settleWithin session.turnBound session

/-! ## Events -/

def answerFetch (session : Session) (fetch : FetchId) (result : CallEnd (List Branch)) : Session :=
  session.withCache (session.cache.answer fetch result)

/-- The answer to the call for a listing comes in. -/
def answerListing (session : Session) (task : TaskId) (result : CallEnd (List ChangeRequest)) :
    Session :=
  match session.tasks[task]? with
  | some (.listing call owner repo) =>
    let (answered, turns) := call.answer result
    (session.setTask task (.listing answered owner repo)).enqueueTurns task turns
  | _ => session

/-- The operation whose listing has the number, if its call is held. -/
def heldListing? (session : Session) (number : Nat) : Option TaskId :=
  session.tasks.findIdx? fun
    | .listing call _ _ => call.isHeld && call.number == some number
    | _ => false

/-- A reply to a held call for branches comes in.  Without such a call nothing happens. -/
def replyFetch (session : Session) (number : Nat) (reply : Reply) : Option Session := do
  let fetch ← session.cache.heldCall? number
  let state ← session.cache.fetches[fetch]?
  return session.answerFetch fetch (reply.toEnd state.repo readBranches)

/-- A reply to a held call for change requests comes in.  Without such a call nothing happens. -/
def replyListing (session : Session) (number : Nat) (reply : Reply) : Option Session := do
  let task ← session.heldListing? number
  let call ← session.pulls.calls[number]?
  let target := call.arguments.1 ++ "/" ++ call.arguments.2
  return session.answerListing task (reply.toEnd target readRequests)

/-- The time of a fetch or of a listing is up. -/
def expire (session : Session) (owner : DeadlineOwner) : Session :=
  match owner with
  | .fetch fetch => session.withCache (session.cache.expire fetch)
  | .task task =>
    match session.tasks[task]? with
    | some (.listing call owner repo) =>
      let (expired, turns) := call.expire
      (session.setTask task (.listing expired owner repo)).enqueueTurns task turns
    | _ => session

def advance (session : Session) (span : Seconds) : Session :=
  let (timeline, due) := session.timeline.advance span
  due.foldl expire { session with timeline := timeline }

/-- An operation that waits is cancelled.  Without such an operation nothing happens. -/
def cancel (session : Session) (task : TaskId) : Option Session :=
  match session.tasks[task]? with
  | some (.loading waiting purpose _) =>
    some ((session.setTask task (.loading waiting purpose true)).withCache
      (session.cache.abandon waiting task))
  | some (.listing call owner repo) =>
    let (stopped, turns) := call.cancel
    some ((session.setTask task (.listing stopped owner repo)).enqueueTurns task turns)
  | _ => none

def setReadyBranches (session : Session) (key : String) (reply : Option Reply) : Session :=
  { session with
    cache := { session.cache with server := session.cache.server.setReady key reply } }

def setReadyPulls (session : Session) (key : String) (reply : Option Reply) : Session :=
  { session with pulls := session.pulls.setReady key reply }

/-- Runs an action that does not wait.  What was done before a crash stays. -/
def run {α : Type} (session : Session) (action : Action α) : Session × Except Crash α :=
  match action session with
  | .ok value session => (session, .ok value)
  | .error crash session => (session, .error crash)

end BranchCompare.Session
