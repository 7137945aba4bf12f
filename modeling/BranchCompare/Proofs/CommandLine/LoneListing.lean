import BranchCompare.Proofs.CommandLine.Completing
import BranchCompare.Proofs.Page
import BranchCompare.Proofs.Workflow.Fixtures

/-!
# The only listing of a session

A command has the open change requests of a repository listed in a session in which nothing else
goes on.  The session waits for the listing (`Session.Pends`) while the call of it is made, held,
answered and taken up, or called off at once where the time limit is over.  What the service says
within the limit is shown (`complete_list`).
-/

namespace BranchCompare

open BranchCompare.Action (Leads nonEmpty)

namespace Session

/-- What the session was opened with and cannot change. -/
structure Means where
  defaultOwner : String
  defaultRepo : String
  limit : Seconds
  hasPulls : Bool
  ready : List (String × Reply)

def means (session : Session) : Means :=
  ⟨session.defaultOwner, session.defaultRepo, session.limit, session.hasPulls,
    session.pulls.ready⟩

theorem fixed_means : Fixed means where
  toBeside := ⟨fun _ _ => rfl, fun _ _ _ => rfl, fun _ _ => rfl, fun _ _ _ => rfl, fun _ _ => rfl,
    fun _ _ _ _ => rfl⟩
  loads _ _ _ := rfl

/-- What a stretch of an operation comes to leaves the means as they are. -/
theorem means_follow {action : Action Turn} (h : Action.Leaves means action) (session : Session)
    (task : TaskId) : (session.follow task action).means = session.means :=
  @part_follow _ means (· = session.means) session _ task (fun _ _ => rfl) (h session)

def Front.cleared (front : Front) : Front :=
  { front with flow := { front.flow with error := none } }

def Front.failed (front : Front) (message : String) : Front :=
  { front with flow := { front.flow with error := some message } }

/-- The change requests of a repository are shown, or why they cannot be had. -/
def Front.listed (front : Front) (owner repo : String) :
    CallEnd (List ChangeRequest) → Front × OperationEnd
  | .answer requests =>
    match ChangeRequest.Row.build requests with
    | .ok rows =>
      ({ front with flow := { front.flow with
          requestsRepo := some repo
          rows := rows
          highlighted := ChangeRequest.Row.countHighlighted rows } }, .value (.rows rows))
    | .error .mixedTimes => (front, .crashed .mixedTimes)
  | .unavailable failure => (front.failed failure.message, .value (.rows []))
  | .outOfTime =>
    (front.failed s!"Listing change requests of {owner}/{repo} timed out", .value (.rows []))
  | .crashed crash => (front, .crashed crash)

end Session

namespace Action

variable {session : Session}

def orDefault (given : Option String) (default : String) : String := (nonEmpty given).getD default

/-- The text that is given or the default is empty only if the default is. -/
theorem default_of_orDefault {given : Option String} {default : String}
    (h : orDefault given default = "") : default = "" := by
  unfold orDefault at h
  cases hgiven : nonEmpty given with
  | none =>
    rw [hgiven] at h
    exact h
  | some text =>
    rw [hgiven] at h
    exact absurd h (mem_of_nonEmpty hgiven).2

/-- A page without a query says nothing. -/
theorem leads_orParam_plain (hplain : Query.pairs session.page.url = .ok [])
    (given : Option String) (name default : String) :
    Leads (orParam given name default) session
      (fun text after => text = orDefault given default ∧ after = session) fun _ _ => False := by
  have hparam : session.page.param name (some default) = .ok (some default) :=
    session.page.param_of_pairs hplain name (some default)
  unfold orParam orDefault
  cases nonEmpty given with
  | some text => exact ⟨rfl, rfl⟩
  | none =>
    dsimp only
    unfold param
    rw [map_eq_pure_bind, leads_bind, leads_readPage, hparam]
    exact ⟨rfl, rfl⟩

/-- The listing begins, and its call is to be made. -/
theorem leads_list (hplain : Query.pairs session.page.url = .ok [])
    (hpulls : session.hasPulls = true) (task : TaskId) (owner repo : Option String) :
    Leads (list task owner repo) session
      (fun turn after => turn = .waits (.listing (.start session.limit.isOver)
          (orDefault owner session.defaultOwner) (orDefault repo session.defaultRepo)) ∧
        after.core = ⟨session.front.cleared, session.cache, session.tasks,
          session.line ++ [.listing task .make]⟩)
      fun _ _ => False := by
  rw [list_eq, leads_bind, leads_get, leads_bind]
  refine (leads_orParam_plain hplain owner _ _).mono (fun _ _ h => ?_) fun _ _ => False.elim
  rw [h.1, h.2, leads_bind]
  refine (leads_orParam_plain hplain repo _ _).mono (fun _ _ h => ?_) fun _ _ => False.elim
  rw [h.1, h.2]
  unfold beginListing clearError enterLoading
  rw [hpulls, leads_bind, leads_modifyFlow]
  dsimp only [Bool.not_true, Bool.false_eq_true, if_false]
  cases session.limit.isOver <;> exact ⟨rfl, rfl⟩

/-- The listing ends, and what the service says is shown. -/
theorem endListing_closes (session : Session) (owner repo : String)
    (result : CallEnd (List ChangeRequest)) :
    (endListing owner repo result).Closes session (session.front.listed owner repo result).1
      (session.front.listed owner repo result).2 := by
  cases result with
  | answer requests =>
    unfold Closes endListing showRequests Session.Front.listed
    dsimp only
    cases ChangeRequest.Row.build requests with
    | ok rows => exact ⟨rfl, rfl⟩
    | error mixed => exact ⟨rfl, rfl⟩
  | unavailable failure => exact ⟨rfl, rfl⟩
  | outOfTime => exact ⟨rfl, rfl⟩
  | crashed crash => exact ⟨rfl, rfl⟩

end Action

namespace Session

variable {session : Session} {front : Front} {cache : BranchCache} {tasks : List TaskState}
  {means : Means} {call next : BoundedCall (List ChangeRequest)} {owner repo : String}
  {line : List Signal} {turns : List CallTurn}

/-- The listing pends: the session does nothing but wait for it. -/
structure Pends (front : Front) (cache : BranchCache) (tasks : List TaskState) (means : Means)
    (call : BoundedCall (List ChangeRequest)) (owner repo : String) (line : List Signal)
    (session : Session) : Prop where
  core : session.core = ⟨front, cache, tasks ++ [.listing call owner repo], line⟩
  means : session.means = means

def turnSignal (task : TaskId) : CallTurn → Signal
  | .wake => .cache (.caller task)
  | turn => .listing task turn

theorem line_enqueueTurns (session : Session) (task : TaskId) (turns : List CallTurn) :
    (session.enqueueTurns task turns).line = session.line ++ turns.map (turnSignal task) := by
  refine congrArg (session.line ++ ·) (List.map_congr_left fun turn _ => ?_)
  cases turn <;> rfl

theorem Pends.task (h : session.Pends front cache tasks means call owner repo line) :
    session.tasks[tasks.length]? = some (.listing call owner repo) := by
  have htasks : session.tasks = tasks ++ [.listing call owner repo] := congrArg Core.tasks h.core
  rw [htasks, List.getElem?_concat_length]

/-- The call comes so far, and its turns are put in line. -/
theorem Pends.goesOn (h : session.Pends front cache tasks means call owner repo line)
    {pulls : Remote PullsCall} (hready : pulls.ready = session.pulls.ready)
    (next : BoundedCall (List ChangeRequest)) (turns : List CallTurn) :
    Pends front cache tasks means next owner repo (line ++ turns.map (turnSignal tasks.length))
      (({ session with pulls := pulls }.setTask tasks.length
        (.listing next owner repo)).enqueueTurns tasks.length turns) where
  core := by
    have hfront : session.front = front := congrArg Core.front h.core
    have hcache : session.cache = cache := congrArg Core.cache h.core
    have htasks : session.tasks = tasks ++ [.listing call owner repo] := congrArg Core.tasks h.core
    have hline : session.line = line := congrArg Core.line h.core
    have hset : session.tasks.set tasks.length (.listing next owner repo) =
        tasks ++ [.listing next owner repo] := by rw [htasks, set_last]
    rw [← hfront, ← hcache, ← hset, ← hline]
    exact congrArg (Core.mk _ _ _) (line_enqueueTurns ..)
  means := by
    rw [← h.means]
    exact congrArg (Means.mk _ _ _ _) hready

/-- What a turn of a call comes to where no answer is ready. -/
def callAfter (call : BoundedCall (List ChangeRequest)) (number : Nat) :
    CallTurn → BoundedCall (List ChangeRequest) × List CallTurn
  | .make => call.make none number
  | .takeUp => call.takeUp
  | .notify => call.notify
  | .wake => (call, [])

/-- The session settles by the turn of the call and by all that comes after it. -/
theorem Pends.advances {turn : CallTurn}
    (h : session.Pends front cache tasks means call owner repo [.listing tasks.length turn])
    (hready : means.ready = []) (hturn : turn ≠ .wake)
    (hnext : callAfter call session.pulls.calls.length turn = (next, turns)) :
    ∃ after,
      Pends front cache tasks means next owner repo (turns.map (turnSignal tasks.length)) after ∧
      ∀ fuel, session.settleWithin (fuel + 1) = after.settleWithin fuel := by
  have hline : session.line = [.listing tasks.length turn] := congrArg Core.line h.core
  have hout : Pends front cache tasks means call owner repo [] { session with line := [] } :=
    ⟨by rw [core_withLine, h.core], h.means⟩
  have hnone : { session with line := [] }.readyEnd owner repo = none := by
    have hempty : session.pulls.ready = [] := (congrArg Means.ready h.means).trans hready
    unfold readyEnd Remote.readyFor
    dsimp only
    rw [hempty]
    rfl
  have hafter : ∃ after, Pends front cache tasks means next owner repo
      (turns.map (turnSignal tasks.length)) after ∧
      { session with line := [] }.listingTurn tasks.length turn = after := by
    unfold listingTurn
    rw [hout.task]
    unfold callAfter at hnext
    cases turn with
    | make =>
      dsimp only at hnext ⊢
      rw [hnone, hnext]
      refine ⟨_, hout.goesOn ?_ next turns, rfl⟩
      cases call.isDoomed <;> rfl
    | takeUp =>
      dsimp only at hnext ⊢
      rw [hnext]
      refine ⟨_, hout.goesOn ?_ next turns, rfl⟩
      cases next.number <;> rfl
    | notify =>
      dsimp only at hnext ⊢
      rw [hnext]
      exact ⟨_, hout.goesOn (Eq.refl session.pulls.ready) next turns, rfl⟩
    | wake => exact absurd rfl hturn
  obtain ⟨after, hlists, heq⟩ := hafter
  refine ⟨after, hlists, fun fuel => ?_⟩
  rw [settleWithin_cons hline, ← heq]
  rfl

/-- The operation that waits goes on by the end of the listing. -/
theorem Pends.closed {result : CallEnd (List ChangeRequest)}
    (h : session.Pends front cache tasks means call owner repo [.cache (.caller tasks.length)])
    (hwakes : ∀ session : Session, session.wakeListing tasks.length call owner repo =
      session.follow tasks.length (Action.endListing owner repo result)) :
    ∃ after : Session,
      after.core = ⟨(front.listed owner repo result).1, cache,
        tasks ++ [.ended (front.listed owner repo result).2], []⟩ ∧
      after.means = means ∧ ∀ fuel, session.settleWithin (fuel + 1) = after := by
  have hline : session.line = [.cache (.caller tasks.length)] := congrArg Core.line h.core
  have hfront : session.front = front := congrArg Core.front h.core
  have hcache : session.cache = cache := congrArg Core.cache h.core
  have htasks : session.tasks = tasks ++ [.listing call owner repo] := congrArg Core.tasks h.core
  have hset : session.tasks.set tasks.length (.ended (front.listed owner repo result).2) =
      tasks ++ [.ended (front.listed owner repo result).2] := by rw [htasks, set_last]
  have hturn : { session with line := [] }.perform (.cache (.caller tasks.length)) =
      { session with line := [] }.follow tasks.length (Action.endListing owner repo result) := by
    rw [← hwakes]
    unfold perform taskTurn
    dsimp only
    rw [h.task]
  have hcloses := Action.endListing_closes { session with line := [] } owner repo result
  have hcore := hcloses.follow tasks.length
  have hmeans := means_follow (Action.beside_endListing fixed_means.toBeside owner repo result)
    { session with line := [] } tasks.length
  refine ⟨_, ?_, hmeans.trans h.means, fun fuel => ?_⟩
  · rw [hcore, ← hset, ← hcache, ← hfront]
    rfl
  · rw [settleWithin_cons hline, hturn]
    exact settleWithin_idle (congrArg Core.line hcore) fuel

/-- The call of the listing is made and held. -/
theorem Pends.held
    (h : session.Pends front cache tasks means (.start false) owner repo
      [.listing tasks.length .make]) (hready : means.ready = []) :
    ∃ after number,
      Pends front cache tasks means ⟨.held, .result, some number⟩ owner repo [] after ∧
      ∀ fuel, session.settleWithin (fuel + 1) = after := by
  obtain ⟨after, hlists, hsettles⟩ := h.advances hready nofun rfl
  refine ⟨after, _, hlists, fun fuel => ?_⟩
  rw [hsettles, settleWithin_idle (congrArg Core.line hlists.core)]

/-- A call whose time limit is over from the start is called off, and so ends the listing. -/
theorem Pends.doomed
    (h : session.Pends front cache tasks means (.start true) owner repo
      [.listing tasks.length .make]) (hready : means.ready = []) :
    ∃ after : Session,
      after.core = ⟨(front.listed owner repo .outOfTime).1, cache,
        tasks ++ [.ended (front.listed owner repo .outOfTime).2], []⟩ ∧
      after.means = means ∧ ∀ fuel, session.settleWithin (fuel + 3) = after := by
  have hwakes : ∀ session : Session, session.wakeListing tasks.length
      ⟨.over none, .stop .timeLimit, none⟩ owner repo =
      session.follow tasks.length (Action.endListing owner repo .outOfTime) := fun _ => rfl
  obtain ⟨s1, h1, hfirst⟩ := h.advances hready nofun rfl
  obtain ⟨s2, h2, hsecond⟩ := h1.advances hready nofun rfl
  obtain ⟨s3, hcore, hmeans, hthird⟩ := h2.closed hwakes
  refine ⟨s3, hcore, hmeans, fun fuel => ?_⟩
  rw [hfirst, hsecond, hthird]

/-- The answer to a call that is held ends the listing. -/
theorem Pends.answered {number : Nat}
    (h : session.Pends front cache tasks means ⟨.held, .result, some number⟩ owner repo [])
    (hready : means.ready = []) (result : CallEnd (List ChangeRequest)) :
    ∃ after : Session,
      after.core = ⟨(front.listed owner repo result).1, cache,
        tasks ++ [.ended (front.listed owner repo result).2], []⟩ ∧
      after.means = means ∧
      ∀ fuel, (session.answerListing tasks.length result).settleWithin (fuel + 3) = after := by
  have h0 : Pends front cache tasks means ⟨.answered result, .result, some number⟩ owner repo
      [.listing tasks.length .takeUp] (session.answerListing tasks.length result) := by
    unfold answerListing
    rw [h.task]
    exact h.goesOn (Eq.refl session.pulls.ready) _ [.takeUp]
  obtain ⟨s1, h1, hfirst⟩ := h0.advances hready nofun rfl
  obtain ⟨s2, h2, hsecond⟩ := h1.advances hready nofun rfl
  obtain ⟨s3, hcore, hmeans, hthird⟩ := h2.closed fun _ => rfl
  refine ⟨s3, hcore, hmeans, fun fuel => ?_⟩
  rw [hfirst, hsecond, hthird]

/-- In its first stretch the operation starts a listing. -/
theorem settleWithin_lists (hcore : session.core = ⟨front, cache, tasks, []⟩)
    (hplain : Query.pairs session.page.url = .ok []) (hpulls : session.hasPulls = true)
    (owner repo : Option String) :
    ∃ after,
      Pends front.cleared cache tasks session.means (.start session.limit.isOver)
        (Action.orDefault owner session.defaultOwner) (Action.orDefault repo session.defaultRepo)
        [.listing tasks.length .make] after ∧
      ∀ fuel, (session.begin (.list owner repo)).settleWithin (fuel + 1) =
        after.settleWithin fuel := by
  have hbegun := core_begun hcore (.list owner repo)
  have hleads := @Action.leads_list (session.begun (.list owner repo)) hplain hpulls tasks.length
    owner repo
  refine ⟨_, ⟨?_, ?_⟩, settleWithin_begin hcore _⟩
  · refine follow_of_leads (motive := fun after => after.core = _)
      (hleads.mono (fun turn after h => ?_) fun _ _ => False.elim)
    have hfront : (session.begun (.list owner repo)).front = front := congrArg Core.front hbegun
    have hcache : (session.begun (.list owner repo)).cache = cache := congrArg Core.cache hbegun
    have htasks : (session.begun (.list owner repo)).tasks =
        tasks ++ [.begins (.list owner repo)] := congrArg Core.tasks hbegun
    have hline : (session.begun (.list owner repo)).line = [] := congrArg Core.line hbegun
    rw [core_setTask, h.1, h.2, hfront, hcache, htasks, hline]
    dsimp only
    rw [set_last]
    rfl
  · exact means_follow (Action.fixed_list fixed_means tasks.length owner repo) _ tasks.length

end Session

namespace CommandLine

open BranchCompare.Action (orDefault)
open BranchCompare.Session (Core Front)

variable {S : Type} {session : Session} {front : Front} {cache : BranchCache}
  {tasks : List TaskState}

/-- What the service of change requests says, if it has any time to do so. -/
def Services.listing (services : Services S) (limit : Seconds) (owner repo : String) (state : S) :
    CallEnd (List ChangeRequest) × S :=
  if limit.isOver then (.outOfTime, state) else services.pulls owner repo state

/-- A listing that was answered had time. -/
theorem limit_of_listing {services : Services S} {state : S} {limit : Seconds}
    {owner repo : String} {requests : List ChangeRequest}
    (h : (services.listing limit owner repo state).1 = .answer requests) :
    limit.isOver = false := by
  unfold Services.listing at h
  split at h
  · cases h
  · next hover => simpa using hover

/-- The service answers the call for the listing that is held. -/
theorem serve_listing {services : Services S} {state : S} {means : Session.Means}
    {owner repo : String} {call : BoundedCall (List ChangeRequest)} (hfetches : cache.fetches = [])
    (hover : ∀ state ∈ tasks, state.isOver = true)
    (h : session.Pends front cache tasks means call owner repo []) (hheld : call.isHeld = true) :
    serve services session state =
      (session.answerListing tasks.length (services.pulls owner repo state).1,
        (services.pulls owner repo state).2) := by
  have hcache : session.cache = cache := congrArg Core.cache h.core
  have htasks : session.tasks = tasks ++ [.listing call owner repo] := congrArg Core.tasks h.core
  have hfetch : heldFetch? session = none := by
    unfold heldFetch?
    rw [hcache, hfetches]
    rfl
  have hlisting : heldListing? session = some (tasks.length, owner, repo) := by
    refine Option.bind_eq_some_iff.mpr ⟨tasks.length, ?_, by rw [h.task]⟩
    refine List.findIdx?_eq_some_iff_getElem.mpr ⟨?_, ?_, fun place hplace => ?_⟩
    · rw [htasks, List.length_append]
      exact Nat.lt_succ_self _
    · simp only [htasks, List.getElem_concat_length]
      exact hheld
    · have hmem := List.getElem_mem hplace
      simp only [htasks, List.getElem_append_left hplace]
      have hended := hover _ hmem
      cases hstate : tasks[place] <;> rw [hstate] at hended
      case ended => exact Bool.false_ne_true
      all_goals cases hended
  unfold serve
  rw [hfetch, hlisting]

/-- Where the time limit is over from the start, the listing ends without the service. -/
theorem settle_unlisted (hcore : session.core = ⟨front, cache, tasks, []⟩)
    (hplain : Query.pairs session.page.url = .ok []) (hpulls : session.hasPulls = true)
    (hready : session.pulls.ready = []) (owner repo : Option String)
    (hlimit : session.limit.isOver = true) :
    let shown := front.cleared.listed (orDefault owner session.defaultOwner)
      (orDefault repo session.defaultRepo) .outOfTime
    (session.begin (.list owner repo)).settle.core =
        ⟨shown.1, cache, tasks ++ [.ended shown.2], []⟩ ∧
      (session.begin (.list owner repo)).settle.means = session.means := by
  intro shown
  obtain ⟨fuel, hsettle⟩ := exists_settle (session.begin (.list owner repo))
  obtain ⟨s1, h1, hfirst⟩ := Session.settleWithin_lists hcore hplain hpulls owner repo
  rw [hlimit] at h1
  obtain ⟨s2, hdone, hmeans, hsecond⟩ := h1.doomed hready
  have hends : (session.begin (.list owner repo)).settle = s2 := by
    rw [hsettle]
    exact (hfirst (fuel + 23)).trans (hsecond (fuel + 20))
  rw [hends]
  exact ⟨hdone, hmeans⟩

/-- Otherwise the listing ends as the service answers. -/
theorem settle_listed (services : Services S) (state : S)
    (hcore : session.core = ⟨front, cache, tasks, []⟩) (hfetches : cache.fetches = [])
    (hover : ∀ state ∈ tasks, state.isOver = true)
    (hplain : Query.pairs session.page.url = .ok []) (hpulls : session.hasPulls = true)
    (hready : session.pulls.ready = []) (owner repo : Option String)
    (hlimit : session.limit.isOver = false) :
    let ownerName := orDefault owner session.defaultOwner
    let repoName := orDefault repo session.defaultRepo
    let listing := services.pulls ownerName repoName state
    let shown := front.cleared.listed ownerName repoName listing.1
    ∃ answered, serve services (session.begin (.list owner repo)).settle state =
        (answered, listing.2) ∧
      answered.settle.core = ⟨shown.1, cache, tasks ++ [.ended shown.2], []⟩ ∧
      answered.settle.means = session.means := by
  intro ownerName repoName listing shown
  obtain ⟨fuel, hsettle⟩ := exists_settle (session.begin (.list owner repo))
  obtain ⟨s1, h1, hfirst⟩ := Session.settleWithin_lists hcore hplain hpulls owner repo
  rw [hlimit] at h1
  obtain ⟨s2, number, h2, hsecond⟩ := h1.held hready
  have hwaits : (session.begin (.list owner repo)).settle = s2 := by
    rw [hsettle]
    exact (hfirst (fuel + 23)).trans (hsecond (fuel + 22))
  obtain ⟨s3, hdone, hmeans, hthird⟩ := h2.answered hready listing.1
  obtain ⟨more, hanswered⟩ := exists_settle (s2.answerListing tasks.length listing.1)
  have hends : (s2.answerListing tasks.length listing.1).settle = s3 :=
    hanswered.trans (hthird (more + 21))
  refine ⟨s2.answerListing tasks.length listing.1, ?_, ?_⟩
  · rw [hwaits, serve_listing hfetches hover h2 rfl]
  · rw [hends]
    exact ⟨hdone, hmeans⟩

/-- What the service says of the open change requests is shown. -/
theorem complete_list (services : Services S) (state : S)
    (hcore : session.core = ⟨front, cache, tasks, []⟩) (hfetches : cache.fetches = [])
    (hover : ∀ state ∈ tasks, state.isOver = true)
    (hplain : Query.pairs session.page.url = .ok []) (hpulls : session.hasPulls = true)
    (hready : session.pulls.ready = []) (owner repo : Option String) :
    let listed := complete services session state (.list owner repo)
    let ownerName := orDefault owner session.defaultOwner
    let repoName := orDefault repo session.defaultRepo
    let listing := services.listing session.limit ownerName repoName state
    let shown := front.cleared.listed ownerName repoName listing.1
    listed.session.core = ⟨shown.1, cache, tasks ++ [.ended shown.2], []⟩ ∧
      listed.session.means = session.means ∧ listed.result = shown.2 ∧
      listed.state = listing.2 := by
  intro listed ownerName repoName listing shown
  have htasks : session.tasks = tasks := congrArg Core.tasks hcore
  cases hlimit : session.limit.isOver with
  | true =>
    have hlisting : listing = (.outOfTime, state) := if_pos hlimit
    obtain ⟨hdone, hmeans⟩ := settle_unlisted hcore hplain hpulls hready owner repo hlimit
    have hnone : ∀ fetch ∈ cache.fetches, fetch.call.isHeld = false := by
      rw [hfetches]
      exact List.forall_mem_nil _
    have hlisted : listed = _ := complete_of_settle htasks hnone hover hdone
    have hshown : shown = _ := congrArg (front.cleared.listed ownerName repoName ·.1) hlisting
    rw [hlisted, hshown, hlisting]
    exact ⟨hdone, hmeans, rfl, rfl⟩
  | false =>
    have hlisting : listing = services.pulls ownerName repoName state := if_neg (by simp [hlimit])
    obtain ⟨answered, hserve, hdone, hmeans⟩ :=
      settle_listed services state hcore hfetches hover hplain hpulls hready owner repo hlimit
    have hlisted : listed = _ := complete_of_serve htasks hserve hdone
    have hshown : shown = _ := congrArg (front.cleared.listed ownerName repoName ·.1) hlisting
    rw [hlisted, hshown, hlisting]
    exact ⟨hdone, hmeans, rfl, rfl⟩

end CommandLine

end BranchCompare
