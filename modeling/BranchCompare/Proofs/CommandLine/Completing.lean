import BranchCompare.CommandLine.Execution
import BranchCompare.Proofs.CommandLine.LoneFetch
import BranchCompare.Proofs.Workflow.LastSelection

/-!
# Operations that are carried out alone

A command has operations carried out in a session in which nothing else goes on.  An operation may
be over with its first stretch (`complete_of_closes`).  Or it starts the only fetch of the session
and waits for it, and what the service replies within the time limit ends it
(`complete_of_fetches`).
-/

namespace BranchCompare

open BranchCompare.Action (Leads)
open BranchCompare.BranchCache (EndsAs)

namespace Session

/-- A session without its controls and what loads are indicated by. -/
structure Core where
  front : Front
  cache : BranchCache
  tasks : List TaskState
  line : List Signal

def core (session : Session) : Core :=
  ⟨session.front, session.cache, session.tasks, session.line⟩

theorem core_withLine (session : Session) (line : List Signal) :
    { session with line := line }.core = { session.core with line := line } := rfl

theorem core_setTask (session : Session) (task : TaskId) (state : TaskState) :
    (session.setTask task state).core =
      { session.core with tasks := session.core.tasks.set task state } := rfl

theorem core_begin (session : Session) (operation : Operation) :
    (session.begin operation).core = { session.core with
      tasks := session.core.tasks ++ [.begins operation]
      line := session.core.line ++ [.cache (.caller session.tasks.length)] } := rfl

/-- A session with one fetch and nothing else under way is alone with it. -/
theorem alone_of_core {session : Session} {front : Front} {cache : BranchCache}
    {tasks : List TaskState} {fetch : Fetch} {line : List CacheSignal}
    (hcore : session.core = ⟨front, cache, tasks, line.map .cache⟩) (hlone : cache.Lone fetch) :
    session.Alone front tasks fetch line where
  front := congrArg Core.front hcore
  lone := by
    have hcache : session.cache = cache := congrArg Core.cache hcore
    exact hcache ▸ hlone
  line := congrArg Core.line hcore
  tasks := congrArg Core.tasks hcore

/-- A cache that has loaded nothing starts a fetch. -/
theorem load_fresh (limit : Seconds) (repo : String) (forced : Bool) (caller : CallerId) :
    ∃ cache, (BranchCache.fresh limit []).load repo forced caller =
        (cache, .waits ⟨repo, forced, 0, true⟩, [.start 0]) ∧
      cache.Lone ⟨repo, forced, .start limit.isOver, [caller], none⟩ := by
  cases forced <;> exact ⟨_, rfl, rfl, rfl⟩

end Session

namespace Action

open BranchCompare.Session (Core Front)

variable {action : Action Turn} {session : Session} {front : Front} {purpose : Purpose}
  {waiting : Waiting} {cache : BranchCache} {signals : List CacheSignal} {result : OperationEnd}

/-- The stretch is the last one of its operation: with this front it ends so. -/
def Closes (action : Action Turn) (session : Session) (front : Front) (result : OperationEnd) :
    Prop :=
  Leads action session
    (fun turn after => turn.state = .ended result ∧
      after.core = { session.core with front := front })
    fun crash after => result = .crashed crash ∧
      after.core = { session.core with front := front }

/-- With this front the stretch comes to wait for a fetch of branches. -/
def Waits (action : Action Turn) (session : Session) (front : Front) (waiting : Waiting)
    (purpose : Purpose) (cache : BranchCache) (signals : List CacheSignal) : Prop :=
  Leads action session
    (fun turn after => turn = .waits (.loading waiting purpose false) ∧
      after.core = ⟨front, cache, session.core.tasks, session.core.line ++ signals.map .cache⟩)
    fun _ _ => False

/-- An operation that closes leaves its result and nothing in line. -/
theorem Closes.follow (h : action.Closes session front result) (task : TaskId) :
    (session.follow task action).core =
      ⟨front, session.cache, session.tasks.set task (.ended result), session.line⟩ := by
  refine Session.follow_of_leads (motive := fun after => after.core =
    ⟨front, session.cache, session.tasks.set task (.ended result), session.line⟩) ?_
  refine Leads.mono h (fun turn after hclosed => ?_) fun crash after hclosed => ?_
  · rw [Session.core_setTask, hclosed.1, hclosed.2]
    rfl
  · rw [Session.core_setTask, ← hclosed.1, hclosed.2]
    rfl

/-- An operation that waits leaves the signals of its fetch in line. -/
theorem Waits.follow (h : action.Waits session front waiting purpose cache signals)
    (task : TaskId) :
    (session.follow task action).core = ⟨front, cache,
      session.tasks.set task (.loading waiting purpose false),
      session.line ++ signals.map .cache⟩ := by
  refine Session.follow_of_leads (motive := fun after => after.core = ⟨front, cache,
    session.tasks.set task (.loading waiting purpose false),
    session.line ++ signals.map .cache⟩) ?_
  refine Leads.mono h (fun turn after hwaits => ?_) fun _ _ => False.elim
  obtain ⟨rfl, hafter⟩ := hwaits
  rw [Session.core_setTask, hafter]
  rfl

/-- The operation starts a fetch of the repository with this front, and the end of the fetch ends it
so. -/
structure Fetches (task : TaskId) (operation : Operation) (front shown : Front) (repo : String)
    (forced : Bool) (purpose : Purpose) (ends : LoadEnd → Front × OperationEnd) : Prop where
  begins : ∀ {session : Session} {cache : BranchCache} {waiting : Waiting}
    {signals : List CacheSignal}, session.front = front →
    session.cache.load repo forced task = (cache, .waits waiting, signals) →
    (first task operation).Waits session shown waiting purpose cache signals
  closes : ∀ {session : Session} (result : LoadEnd), session.front = shown →
    (endLoading purpose result).Closes session (ends result).1 (ends result).2

end Action

namespace Session

open BranchCompare.Action (Fetches Closes)

variable {session : Session} {front shown : Front} {cache : BranchCache} {tasks : List TaskState}
  {operation : Operation} {repo : String} {forced : Bool} {purpose : Purpose}
  {ends : LoadEnd → Front × OperationEnd} {limit : Seconds} {call : BoundedCall (List Branch)}
  {result : LoadEnd}

/-! ## Turns -/

/-- The session settles by what the first signal says, and by all that comes after it. -/
theorem settleWithin_cons {signal : Signal} {line : List Signal}
    (hline : session.line = signal :: line) (fuel : Nat) :
    session.settleWithin (fuel + 1) =
      ({ session with line := line }.perform signal).settleWithin fuel := by
  have hne : session.line ≠ [] := by
    rw [hline]
    exact List.cons_ne_nil _ _
  rw [settleWithin_turn hne, turn_cons hline]

theorem set_last (tasks : List TaskState) (old new : TaskState) :
    (tasks ++ [old]).set tasks.length new = tasks ++ [new] := by
  rw [List.set_append_right _ _ (Nat.le_refl _), Nat.sub_self]
  rfl

/-- The session in which the operation takes its first stretch. -/
def begun (session : Session) (operation : Operation) : Session :=
  { session.begin operation with line := [] }

theorem core_begun (hcore : session.core = ⟨front, cache, tasks, []⟩) (operation : Operation) :
    (session.begun operation).core = ⟨front, cache, tasks ++ [.begins operation], []⟩ := by
  unfold begun
  rw [core_withLine, core_begin, hcore]

/-- The first turn of a session in which nothing else is under way begins the operation. -/
theorem settleWithin_begin (hcore : session.core = ⟨front, cache, tasks, []⟩)
    (operation : Operation) (fuel : Nat) :
    (session.begin operation).settleWithin (fuel + 1) =
      ((session.begun operation).follow tasks.length
        (Action.first tasks.length operation)).settleWithin fuel := by
  have htasks : session.tasks = tasks := congrArg Core.tasks hcore
  have hidle : session.line = [] := congrArg Core.line hcore
  have hline : (session.begin operation).line = [.cache (.caller tasks.length)] := by
    show session.line ++ [.cache (.caller session.tasks.length)] = _
    rw [hidle, htasks]
    rfl
  have hstate : (session.tasks ++ [TaskState.begins operation])[tasks.length]? =
      some (.begins operation) := by rw [← htasks, List.getElem?_concat_length]
  rw [settleWithin_cons hline]
  congr 1
  unfold perform taskTurn
  dsimp only [begin]
  rw [hstate]
  rfl

/-- In its first stretch the operation starts a fetch. -/
theorem settleWithin_fetches (hcore : session.core = ⟨front, .fresh limit [], tasks, []⟩)
    (h : Fetches tasks.length operation front shown repo forced purpose ends) :
    ∃ after,
      Alone shown (tasks ++ [.loading ⟨repo, forced, 0, true⟩ purpose false])
        ⟨repo, forced, .start limit.isOver, [tasks.length], none⟩ [.start 0] after ∧
      ∀ fuel, (session.begin operation).settleWithin (fuel + 1) = after.settleWithin fuel := by
  obtain ⟨cache, hload, hlone⟩ := load_fresh limit repo forced tasks.length
  have hbegun := core_begun hcore operation
  have hcache : (session.begun operation).cache = .fresh limit [] := congrArg Core.cache hbegun
  have htasks : (session.begun operation).tasks = tasks ++ [.begins operation] :=
    congrArg Core.tasks hbegun
  have hline : (session.begun operation).line = [] := congrArg Core.line hbegun
  have hwaits := (h.begins (congrArg Core.front hbegun) (hcache ▸ hload)).follow tasks.length
  rw [htasks, hline, set_last] at hwaits
  exact ⟨_, alone_of_core hwaits hlone, settleWithin_begin hcore operation⟩

/-- In its last stretch the operation learns of the end of the fetch. -/
theorem Alone.closed (h : session.Alone shown
      (tasks ++ [.loading ⟨repo, forced, 0, true⟩ purpose false])
      ⟨repo, forced, call, [], some result⟩ [.caller tasks.length])
    (hcloses : ∀ {session : Session}, session.front = shown →
      (Action.endLoading purpose result).Closes session (ends result).1 (ends result).2) :
    ∃ after : Session,
      after.core = ⟨(ends result).1, session.cache, tasks ++ [.ended (ends result).2], []⟩ ∧
      ∀ fuel, session.settleWithin (fuel + 1) = after := by
  have hline : session.line = [.cache (.caller tasks.length)] := h.line
  have hresume : session.cache.resume ⟨repo, forced, 0, true⟩ tasks.length =
      (session.cache, .ended result, []) := by
    unfold BranchCache.resume
    rw [h.lone.fetches]
    rfl
  have hturn : { session with line := [] }.perform (.cache (.caller tasks.length)) =
      { session with line := [] }.follow tasks.length
        (Action.followLoad purpose (session.cache, .ended result, [])) := by
    have hstate : session.tasks[tasks.length]? =
        some (.loading ⟨repo, forced, 0, true⟩ purpose false) := by
      rw [h.tasks, List.getElem?_concat_length]
    rw [← hresume]
    unfold perform taskTurn
    dsimp only
    rw [hstate]
  -- what the cache did for the load is nothing more
  have hends : (Action.followLoad purpose (session.cache, .ended result, [])).Closes
      { session with line := [] } (ends result).1 (ends result).2 :=
    @hcloses { session with line := [] ++ [] } h.front
  have hlast : session.tasks.set tasks.length (.ended (ends result).2) =
      tasks ++ [.ended (ends result).2] := by rw [h.tasks, set_last]
  have hafter := hlast ▸ hends.follow tasks.length
  refine ⟨_, hafter, fun fuel => ?_⟩
  rw [settleWithin_cons hline, hturn]
  exact settleWithin_idle (congrArg Core.line hafter) fuel

end Session

namespace CommandLine

open BranchCompare.Action (Closes Fetches)
open BranchCompare.Session (Core Front)

variable {S : Type} {services : Services S} {state : S} {session : Session} {front shown : Front}
  {cache : BranchCache} {tasks : List TaskState} {operation : Operation} {repo : String}
  {forced : Bool} {purpose : Purpose} {ends : LoadEnd → Front × OperationEnd} {limit : Seconds}

/-- What the service of branches replies, if it has any time to do so. -/
def Services.reply (services : Services S) (limit : Seconds) (repo : String) (forced : Bool)
    (state : S) : CallEnd (List Branch) × S :=
  if limit.isOver then (.outOfTime, state) else services.branches repo forced state

/-- There is enough fuel for the turns of one operation. -/
theorem exists_settle (session : Session) :
    ∃ fuel, session.settle = session.settleWithin (fuel + 24) := by
  have henough : 24 ≤ session.turnBound := by
    unfold Session.turnBound
    dsimp only
    exact (Nat.le_add_left 24 _).trans (Nat.le_mul_of_pos_left _ (Nat.succ_pos _))
  obtain ⟨fuel, hfuel⟩ := Nat.exists_eq_add_of_le' henough
  exact ⟨fuel, congrArg (Session.settleWithin · session) hfuel⟩

/-- The service answers the call that is held. -/
theorem serve_held {phase : BoundedCall (List Branch)} {waiting : List CallerId}
    (h : session.Alone front tasks ⟨repo, forced, phase, waiting, none⟩ [])
    (hheld : phase.isHeld = true) :
    serve services session state = (session.answerFetch 0 (services.branches repo forced state).1,
      (services.branches repo forced state).2) := by
  have hfetch : heldFetch? session = some (0, repo, forced) := by
    unfold heldFetch?
    rw [h.lone.fetches]
    simp [hheld]
  unfold serve
  rw [hfetch]

/-- Where all has ended, there is nothing to answer. -/
theorem serve_ended (hfetches : ∀ fetch ∈ session.cache.fetches, fetch.call.isHeld = false)
    (htasks : ∀ state ∈ session.tasks, state.isOver = true) :
    serve services session state = (session, state) := by
  have hfetch : heldFetch? session = none := by
    have hnone : session.cache.fetches.findIdx? (fun fetch => fetch.call.isHeld) = none :=
      List.findIdx?_eq_none_iff.mpr hfetches
    unfold heldFetch?
    rw [hnone]
    rfl
  have hlisting : heldListing? session = none := by
    refine Option.bind_eq_none_iff.mpr fun task htask => ?_
    obtain ⟨hbound, hheld, -⟩ := List.findIdx?_eq_some_iff_getElem.mp htask
    have hover := htasks _ (List.getElem_mem hbound)
    cases hstate : session.tasks[task] <;> rw [hstate] at hheld hover
    case listing => cases hover
    all_goals cases hheld
  unfold serve
  rw [hfetch, hlisting]

/-- The services see to what the operation waits for, and it comes to its end. -/
theorem complete_of_serve {answered : Session} {later : S} {last : OperationEnd}
    (htasks : session.tasks = tasks)
    (hserve : serve services (session.begin operation).settle state = (answered, later))
    (hdone : answered.settle.core = ⟨front, cache, tasks ++ [.ended last], []⟩) :
    complete services session state operation = ⟨answered.settle, later, last⟩ := by
  have hended : answered.settle.tasks = tasks ++ [.ended last] := congrArg Core.tasks hdone
  have hlast : endOf answered.settle session.tasks.length = last := by
    unfold endOf
    rw [hended, htasks, List.getElem?_concat_length]
  unfold complete
  rw [hserve]
  dsimp only
  rw [hlast]

/-- The operation comes to its end without the services. -/
theorem complete_of_settle {last : OperationEnd} (htasks : session.tasks = tasks)
    (hfetches : ∀ fetch ∈ cache.fetches, fetch.call.isHeld = false)
    (hover : ∀ state ∈ tasks, state.isOver = true)
    (hdone : (session.begin operation).settle.core =
      ⟨front, cache, tasks ++ [.ended last], []⟩) :
    complete services session state operation =
      ⟨(session.begin operation).settle, state, last⟩ := by
  have hcache : (session.begin operation).settle.cache = cache := congrArg Core.cache hdone
  have hended : (session.begin operation).settle.tasks = tasks ++ [.ended last] :=
    congrArg Core.tasks hdone
  have hidle : (session.begin operation).settle.settle = (session.begin operation).settle :=
    Session.settleWithin_idle (congrArg Core.line hdone) _
  have hserve : serve services (session.begin operation).settle state =
      ((session.begin operation).settle, state) := by
    refine serve_ended (hcache ▸ hfetches) fun state hmem => ?_
    rw [hended] at hmem
    rcases List.mem_append.mp hmem with hmem | hmem
    · exact hover state hmem
    · rw [List.mem_singleton.mp hmem]
      rfl
  have hcomplete := complete_of_serve htasks hserve (hidle.symm ▸ hdone)
  rwa [hidle] at hcomplete

/-! ## Operations as a whole -/

/-- The operation is over with its first stretch. -/
theorem complete_of_closes (services : Services S) (state : S) {final : Front}
    {last : OperationEnd} (hcore : session.core = ⟨front, .fresh limit [], tasks, []⟩)
    (hover : ∀ state ∈ tasks, state.isOver = true)
    (h : (Action.first tasks.length operation).Closes (session.begun operation) final last) :
    (complete services session state operation).session.core =
        ⟨final, .fresh limit [], tasks ++ [.ended last], []⟩ ∧
      (complete services session state operation).result = last ∧
      (complete services session state operation).state = state := by
  obtain ⟨fuel, hsettle⟩ := exists_settle (session.begin operation)
  have hfirst := Session.settleWithin_begin hcore operation
  have hbegun := Session.core_begun hcore operation
  have hcache : (session.begun operation).cache = .fresh limit [] := congrArg Core.cache hbegun
  have htasks : (session.begun operation).tasks = tasks ++ [.begins operation] :=
    congrArg Core.tasks hbegun
  have hline : (session.begun operation).line = [] := congrArg Core.line hbegun
  have hdone := h.follow tasks.length
  rw [hcache, htasks, hline, Session.set_last] at hdone
  have hidle := Session.settleWithin_idle (congrArg Core.line hdone) (fuel + 23)
  have hbegin : (session.begin operation).settle =
      (session.begun operation).follow tasks.length (Action.first tasks.length operation) := by
    rw [hsettle]
    exact (hfirst (fuel + 23)).trans hidle
  rw [← hbegin] at hdone
  rw [complete_of_settle (congrArg Core.tasks hcore) (List.forall_mem_nil _) hover hdone]
  exact ⟨hdone, rfl, rfl⟩

/-- Where the time limit is over from the start, the operation ends without the service. -/
theorem settle_doomed (hcore : session.core = ⟨front, .fresh limit [], tasks, []⟩)
    (h : Fetches tasks.length operation front shown repo forced purpose ends)
    (hlimit : limit.isOver = true) :
    ∃ result cache fetch, EndsAs .outOfTime result ∧
      (session.begin operation).settle.core =
        ⟨(ends result).1, cache, tasks ++ [.ended (ends result).2], []⟩ ∧
      cache.fetches = [fetch] ∧ fetch.call.isHeld = false := by
  obtain ⟨fuel, hsettle⟩ := exists_settle (session.begin operation)
  obtain ⟨s1, h1, hfirst⟩ := Session.settleWithin_fetches hcore h
  rw [hlimit] at h1
  obtain ⟨s2, result, h2, hends, hsecond⟩ := h1.doomed
  obtain ⟨s3, h3, hthird⟩ := h2.closed (h.closes result)
  have hdone : (session.begin operation).settle = s3 := by
    rw [hsettle]
    exact (hfirst (fuel + 23)).trans ((hsecond (fuel + 17)).trans (hthird (fuel + 16)))
  exact ⟨result, s2.cache, _, hends, by rw [hdone, h3], h2.lone.fetches, rfl⟩

/-- Otherwise the operation waits for the service. -/
theorem settle_held (hcore : session.core = ⟨front, .fresh limit [], tasks, []⟩)
    (h : Fetches tasks.length operation front shown repo forced purpose ends)
    (hlimit : limit.isOver = false) :
    ∃ number, (session.begin operation).settle.Alone shown
      (tasks ++ [.loading ⟨repo, forced, 0, true⟩ purpose false])
      ⟨repo, forced, ⟨.held, .result, some number⟩, [tasks.length], none⟩ [] := by
  obtain ⟨fuel, hsettle⟩ := exists_settle (session.begin operation)
  obtain ⟨s1, h1, hfirst⟩ := Session.settleWithin_fetches hcore h
  rw [hlimit] at h1
  obtain ⟨s2, number, h2, hsecond⟩ := h1.held
  have hwaits : (session.begin operation).settle = s2 := by
    rw [hsettle]
    exact (hfirst (fuel + 23)).trans (hsecond (fuel + 21))
  exact ⟨number, hwaits ▸ h2⟩

/-- The operation ends as the service answers. -/
theorem settle_answered {number : Nat}
    (hwaits : session.Alone shown (tasks ++ [.loading ⟨repo, forced, 0, true⟩ purpose false])
      ⟨repo, forced, ⟨.held, .result, some number⟩, [tasks.length], none⟩ [])
    (h : Fetches tasks.length operation front shown repo forced purpose ends)
    (answer : CallEnd (List Branch)) :
    ∃ result cache, EndsAs answer result ∧ (session.answerFetch 0 answer).settle.core =
      ⟨(ends result).1, cache, tasks ++ [.ended (ends result).2], []⟩ := by
  obtain ⟨fuel, hsettle⟩ := exists_settle (session.answerFetch 0 answer)
  obtain ⟨s1, call, result, h1, hends, hfirst⟩ := hwaits.answered answer
  obtain ⟨s2, h2, hsecond⟩ := h1.closed (h.closes result)
  have hdone : (session.answerFetch 0 answer).settle = s2 := by
    rw [hsettle]
    exact (hfirst (fuel + 19)).trans (hsecond (fuel + 18))
  exact ⟨result, s1.cache, hends, by rw [hdone, h2]⟩

/-- The operation ends as the service replies to its only fetch. -/
theorem complete_of_fetches (services : Services S) (state : S)
    (hcore : session.core = ⟨front, .fresh limit [], tasks, []⟩)
    (hover : ∀ state ∈ tasks, state.isOver = true)
    (h : Fetches tasks.length operation front shown repo forced purpose ends) :
    ∃ result, EndsAs (services.reply limit repo forced state).1 result ∧
      (complete services session state operation).session.front = (ends result).1 ∧
      (complete services session state operation).result = (ends result).2 ∧
      (complete services session state operation).state =
        (services.reply limit repo forced state).2 := by
  have htasks : session.tasks = tasks := congrArg Core.tasks hcore
  unfold Services.reply
  cases hlimit : limit.isOver with
  | true =>
    obtain ⟨result, cache, fetch, hends, hdone, hfetches, hheld⟩ := settle_doomed hcore h hlimit
    have hnone : ∀ fetch ∈ cache.fetches, fetch.call.isHeld = false := by
      rw [hfetches]
      exact List.forall_mem_singleton.mpr hheld
    rw [complete_of_settle htasks hnone hover hdone]
    exact ⟨result, hends, congrArg Core.front hdone, rfl, rfl⟩
  | false =>
    obtain ⟨number, hwaits⟩ := settle_held hcore h hlimit
    obtain ⟨result, cache, hends, hdone⟩ :=
      settle_answered hwaits h (services.branches repo forced state).1
    rw [complete_of_serve htasks (serve_held hwaits rfl) hdone]
    exact ⟨result, hends, congrArg Core.front hdone, rfl, rfl⟩

end CommandLine

end BranchCompare
