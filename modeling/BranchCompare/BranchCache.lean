import BranchCompare.BoundedCall
import BranchCompare.Seconds

/-!
# The branch cache

The branches of repositories, fetched on demand.  A repository without an entry was not loaded yet,
and an empty list says that it has no branches.

At most one fetch of a repository is under way at any time: it is recorded, and later callers wait
for it.  A plain fetch lists what the server knows; a forced one makes the server look for news
first.  A forced load never settles for a plain fetch.  If one is under way it waits for it and then
starts a forced fetch, which other forced loads share.

The cache does one thing at a time.  What is to be done next is put in line as a signal: a turn of a
fetch, or of a caller that waits for one.
-/

namespace BranchCompare

/-- A fetch, by its place among all fetches. -/
abbrev FetchId := Nat

/-- A caller, by a number that whoever starts loads gives to it. -/
abbrev CallerId := Nat

/-- A fetch of the branches of a repository. -/
structure Fetch where
  repo : String
  forced : Bool
  call : BoundedCall (List Branch)
  /-- Those who will be told of the end, in the order in which they began to wait. -/
  waiting : List CallerId
  result : Option LoadEnd

/-- A caller that waits for a fetch. -/
structure Waiting where
  repo : String
  forced : Bool
  fetch : FetchId
  /-- The end of the fetch is the end of the load.  Otherwise it only makes room for another
  fetch. -/
  settles : Bool
  deriving DecidableEq, Repr

/-- What a load comes to for now. -/
inductive LoadTurn where
  | ended (result : LoadEnd)
  | waits (waiting : Waiting)

/-- The arguments of a call of the branch server: the repository, and whether to look for news. -/
abbrev BranchCall := String × Bool

/-- The branch cache with the server it asks. -/
structure BranchCache where
  /-- The longest time that a fetch may take. -/
  limit : Seconds
  entries : List (String × List Branch)
  /-- The fetch of each repository that is under way, and whether it is a forced one. -/
  inFlight : List (String × FetchId × Bool)
  /-- All fetches ever started. -/
  fetches : List Fetch
  server : Remote BranchCall

/-- What is put in line. -/
inductive CacheSignal where
  /-- The fetch begins. -/
  | start (fetch : FetchId)
  /-- A turn of the call of the fetch. -/
  | turn (fetch : FetchId) (turn : CallTurn)
  /-- The record of the fetch is removed. -/
  | forget (fetch : FetchId)
  /-- The end of the fetch is handed to a caller. -/
  | deliver (fetch : FetchId) (caller : CallerId)
  /-- The caller goes on. -/
  | caller (caller : CallerId)
  deriving DecidableEq, Repr

namespace BranchCache

/-- A cache that has loaded nothing. -/
def fresh (limit : Seconds) (ready : List (String × Reply)) : BranchCache :=
  ⟨limit, [], [], [], .fresh ready⟩

def get? (cache : BranchCache) (repo : String) : Option (List Branch) :=
  OrderedMap.get? repo cache.entries

def isLoaded (cache : BranchCache) (repo : String) : Bool := OrderedMap.has repo cache.entries

/-- A fetch of the repository is recorded. -/
def isLoading (cache : BranchCache) (repo : String) : Bool := OrderedMap.has repo cache.inFlight

def modifyFetch (cache : BranchCache) (fetch : FetchId) (change : Fetch → Fetch) : BranchCache :=
  { cache with fetches := cache.fetches.modify fetch change }

/-- Removes the record of a fetch, but not the record of another fetch of its repository. -/
def forget (cache : BranchCache) (repo : String) (fetch : FetchId) : BranchCache :=
  match OrderedMap.get? repo cache.inFlight with
  | some (recorded, _) =>
    if recorded = fetch then { cache with inFlight := OrderedMap.erase repo cache.inFlight }
    else cache
  | none => cache

/-! ## Loads -/

/-- Starts a fetch and waits for it. -/
def startFetch (cache : BranchCache) (repo : String) (forced : Bool) (caller : CallerId) :
    BranchCache × LoadTurn × List CacheSignal :=
  let fetch := cache.fetches.length
  let started : Fetch := ⟨repo, forced, .start cache.limit.isOver, [caller], none⟩
  ({ cache with
      fetches := cache.fetches ++ [started]
      inFlight := OrderedMap.put repo (fetch, forced) cache.inFlight },
    .waits ⟨repo, forced, fetch, true⟩, [.start fetch])

/-- Whether the end of a load may be passed over by a load that only waits for room. -/
def leavesRoom : LoadEnd → Bool
  | .error (.crashed _) => false
  | _ => true

/-- Joins the fetch of the repository that is under way, or starts one. -/
def join (cache : BranchCache) (repo : String) (forced : Bool) (caller : CallerId) :
    BranchCache × LoadTurn × List CacheSignal :=
  match OrderedMap.get? repo cache.inFlight with
  | none => cache.startFetch repo forced caller
  | some (fetch, fetchForced) =>
    let settles := fetchForced || !forced
    match cache.fetches[fetch]?.bind (·.result) with
    | none =>
      (cache.modifyFetch fetch fun f => { f with waiting := f.waiting ++ [caller] },
        .waits ⟨repo, forced, fetch, settles⟩, [])
    | some result =>
      if settles || !leavesRoom result then (cache, .ended result, [])
      else (cache.forget repo fetch).startFetch repo forced caller

/-- Loads the branches of a repository for a caller.  A plain load takes them from the cache if they
are there. -/
def load (cache : BranchCache) (repo : String) (forced : Bool) (caller : CallerId) :
    BranchCache × LoadTurn × List CacheSignal :=
  match if forced then none else cache.get? repo with
  | some branches => (cache, .ended (.ok branches), [])
  | none => cache.join repo forced caller

/-- A caller goes on after the fetch that it waits for has ended. -/
def resume (cache : BranchCache) (waiting : Waiting) (caller : CallerId) :
    BranchCache × LoadTurn × List CacheSignal :=
  match cache.fetches[waiting.fetch]?.bind (·.result) with
  | none => (cache, .waits waiting, [])
  | some result =>
    if waiting.settles || !leavesRoom result then (cache, .ended result, [])
    else (cache.forget waiting.repo waiting.fetch).join waiting.repo waiting.forced caller

/-- A caller waits no more.  The fetch goes on for the others.  The caller gets a turn to end,
unless it has one in line already. -/
def abandon (cache : BranchCache) (waiting : Waiting) (caller : CallerId) :
    BranchCache × List CacheSignal :=
  match cache.fetches[waiting.fetch]? with
  | some fetch =>
    if fetch.waiting.contains caller then
      (cache.modifyFetch waiting.fetch fun f => { f with waiting := f.waiting.erase caller },
        [.caller caller])
    else (cache, [])
  | none => (cache, [])

/-! ## Fetches -/

def turnsOf (fetch : FetchId) (turns : List CallTurn) : List CacheSignal :=
  turns.map (.turn fetch)

/-- How the load ends whose call has ended. -/
def loadEnd (cache : BranchCache) (repo : String) : WaitEnd (List Branch) → LoadEnd
  | .ended (.answer branches) => .ok branches
  | .ended (.unavailable failure) => .error (.unavailable failure)
  | .ended (.crashed crash) => .error (.crashed crash)
  | .ended .outOfTime | .stopped _ =>
    .error (.unavailable ⟨repo, s!"timed out after {cache.limit.display}s"⟩)

/-- A fetch ends: a list becomes the entry of its repository, the record is to be removed, and then
all who wait are to be told. -/
def finish (cache : BranchCache) (fetch : FetchId) (state : Fetch) (result : LoadEnd) :
    BranchCache × List CacheSignal :=
  let entries := match result with
    | .ok branches => OrderedMap.put state.repo branches cache.entries
    | .error _ => cache.entries
  let cache := cache.modifyFetch fetch fun f => { f with result := some result }
  ({ cache with entries := entries }, .forget fetch :: state.waiting.map (.deliver fetch))

def readyEnd (cache : BranchCache) (repo : String) : Option (CallEnd (List Branch)) :=
  (cache.server.readyFor repo).map (Reply.toEnd repo readBranches)

/-- A turn of the call of a fetch. -/
def takeTurn (cache : BranchCache) (fetch : FetchId) (state : Fetch) (turn : CallTurn) :
    BranchCache × List CacheSignal :=
  let withCall (cache : BranchCache) (call : BoundedCall (List Branch)) : BranchCache :=
    cache.modifyFetch fetch fun f => { f with call := call }
  match turn with
  | .make =>
    let number := cache.server.calls.length
    let (call, turns) := state.call.make (cache.readyEnd state.repo) number
    let server := if state.call.isDoomed then cache.server
      else cache.server.record (state.repo, state.forced) call.statusAfter
    (withCall { cache with server := server } call, turnsOf fetch turns)
  | .takeUp =>
    let (call, turns) := state.call.takeUp
    let server := match call.number with
      | some number => cache.server.mark number call.statusAfter
      | none => cache.server
    (withCall { cache with server := server } call, turnsOf fetch turns)
  | .notify =>
    let (call, turns) := state.call.notify
    (withCall cache call, turnsOf fetch turns)
  | .wake =>
    let (call, turns, ended) := state.call.wake
    let cache := withCall cache call
    match ended with
    | none => (cache, turnsOf fetch turns)
    | some ended => cache.finish fetch state (cache.loadEnd state.repo ended)

/-- Does what a signal says.  A turn of a caller is for whoever started the load. -/
def perform (cache : BranchCache) (signal : CacheSignal) : BranchCache × List CacheSignal :=
  match signal with
  | .start fetch => (cache, [.turn fetch .make])
  | .turn fetch turn =>
    match cache.fetches[fetch]? with
    | some state => cache.takeTurn fetch state turn
    | none => (cache, [])
  | .forget fetch =>
    match cache.fetches[fetch]? with
    | some state => (cache.forget state.repo fetch, [])
    | none => (cache, [])
  | .deliver fetch caller =>
    match cache.fetches[fetch]? with
    | some state =>
      if state.waiting.contains caller then
        (cache.modifyFetch fetch fun f => { f with waiting := f.waiting.erase caller },
          [.caller caller])
      else (cache, [])
    | none => (cache, [])
  | .caller _ => (cache, [])

/-! ## The server and the time -/

/-- The fetch whose call has the number, if the call is held. -/
def heldCall? (cache : BranchCache) (number : Nat) : Option FetchId :=
  cache.fetches.findIdx? fun f => f.call.isHeld && f.call.number == some number

/-- The answer to a held call comes in. -/
def answer (cache : BranchCache) (fetch : FetchId) (result : CallEnd (List Branch)) :
    BranchCache × List CacheSignal :=
  match cache.fetches[fetch]? with
  | some state =>
    let (call, turns) := state.call.answer result
    (cache.modifyFetch fetch fun f => { f with call := call }, turnsOf fetch turns)
  | none => (cache, [])

/-- The time of a fetch is up. -/
def expire (cache : BranchCache) (fetch : FetchId) : BranchCache × List CacheSignal :=
  match cache.fetches[fetch]? with
  | some state =>
    let (call, turns) := state.call.expire
    (cache.modifyFetch fetch fun f => { f with call := call }, turnsOf fetch turns)
  | none => (cache, [])

end BranchCache

end BranchCompare
