import BranchCompare.Proofs.BranchCache.Refreshes
import BranchCompare.Proofs.CompareRequest.Tables
import BranchCompare.Proofs.Workflow.Failures
import BranchCompare.Proofs.Workflow.TrafficSteps

/-!
# What the comparison of a row comes to

The comparison of a row is refused, or it has the branches of its repository fetched anew, and then
leads the page to the URL of the two branches or shows why they could not be fetched.  `Verdict`
lists what a turn of it may come to, with all that the turn changes of what is shown, of the
controls, of the page and of the store.  One of its cases is a fault: where the repository would
have to be taken from a URL of the page that cannot be read, the comparison crashes and shows no
error (`Verdict.strays`, `crashed_unreadablePage`).

In every session that can be reached a comparison that is to begin has its turn in line, each of its
turns comes to a verdict, and when all signals have had their turn it is over or waits for a fetch
that has not ended (`TakesTurns`, `verdict_of_comparison`).
-/

namespace BranchCompare

open BranchCompare.Action (Leads nonEmpty)

namespace Session

/-- The repository that a comparison settles on: the one that is given, that of the rows, or the one
in the URL of the page. -/
def settled (session : Session) (repo : Option String) : Except Url.Fault (Option String) :=
  match (nonEmpty repo).or (nonEmpty session.flow.requestsRepo) with
  | some name => .ok (some name)
  | none => session.page.param "repo" (some session.defaultRepo)

/-- The comparison of the row is refused, with this message. -/
inductive Refuses (session : Session) (row : ChangeRequest.Row) (repo : Option String) :
    String → Prop where
  | fork (hdisabled : row.disabled = true) :
      Refuses session row repo s!"#{row.request.number} comes from a fork and cannot be compared"
  | unknown {found : Option String} {error : UnknownRepository} (hopen : row.disabled = false)
      (hrepo : session.settled repo = .ok found)
      (herror : session.table.resolve found = .error error) :
      Refuses session row repo error.message

/-- The row is compared in the repository, by its preset. -/
structure Accepts (session : Session) (row : ChangeRequest.Row) (repo : Option String)
    (name : String) (preset : Preset) : Prop where
  isOpen : row.disabled = false
  repo : session.settled repo = .ok (some name)
  preset : session.table.resolve (some name) = .ok preset

/-- Of all that the user sees and of the store, at most what is shown and the page have changed, to
these. -/
structure ShowsOnly (before after : Session) (flow : Flow) (page : Page) : Prop where
  flow : after.flow = flow
  page : after.page = page
  controls : after.controls = before.controls
  store : after.store = before.store
  document : after.document = before.document

def cleared (session : Session) : Session :=
  { session with flow := { session.flow with error := none } }

/-- What a turn of the comparison of a row comes to that begins in the first session: what the turn
changes, and where it leaves the operation. -/
inductive Verdict (begun : Session) (row : ChangeRequest.Row) (repo : Option String)
    (before after : Session) : TaskState → Prop where
  /-- Nothing is fetched. -/
  | refuses {message : String} (h : begun.Refuses row repo message)
      (hcache : after.cache = before.cache)
      (hshows : before.ShowsOnly after { before.flow with error := some message } before.page) :
      Verdict begun row repo before after (.ended (.value (.launched none)))
  /-- The fetch has not ended that the comparison needs. -/
  | waits {name : String} {preset : Preset} {waiting : Waiting}
      (h : begun.Accepts row repo name preset)
      (hload : begun.cache.Refreshes after.cache name (.waits waiting))
      (hshows : before.ShowsOnly after before.flow before.page) :
      Verdict begun row repo before after (.loading waiting (.comparison row preset) false)
  /-- A forced fetch has succeeded, and the page is led to the URL of the two branches. -/
  | opens {name : String} {preset : Preset} {branches : List Branch} {url : String}
      (h : begun.Accepts row repo name preset)
      (hload : begun.cache.Refreshed after.cache name (.ok branches))
      (hurl : (CompareRequest.Draft.ofBranches preset row.request.baseRef row.request.headRef).url =
        .ok url)
      (hshows : before.ShowsOnly after { before.flow with launchedUrl := some url }
        (before.page.navigate url)) :
      Verdict begun row repo before after (.ended (.value (.launched (some url))))
  /-- A forced fetch has failed or run out of time. -/
  | fails {name : String} {preset : Preset} {failure : FetchFailure}
      (h : begun.Accepts row repo name preset)
      (hload : begun.cache.Refreshed after.cache name (.error (.unavailable failure)))
      (hshows : before.ShowsOnly after { before.flow with error := some failure.message }
        before.page) :
      Verdict begun row repo before after (.ended (.value (.launched none)))
  /-- A forced fetch has succeeded, but there is no URL without the names of both branches. -/
  | rejects {name : String} {preset : Preset} {branches : List Branch} {issues : List Schema.Issue}
      (h : begun.Accepts row repo name preset)
      (hload : begun.cache.Refreshed after.cache name (.ok branches)) (hlacks : row.LacksName)
      (hshows : before.ShowsOnly after before.flow before.page) :
      Verdict begun row repo before after (.ended (.crashed (.invalidRequest issues)))
  /-- A fetch was broken off by neither. -/
  | breaks {name : String} {preset : Preset} {crash : Crash}
      (h : begun.Accepts row repo name preset)
      (hload : after.cache.Ended name (.error (.crashed crash)))
      (hshows : before.ShowsOnly after before.flow before.page) :
      Verdict begun row repo before after (.ended (.crashed crash))
  /-- No repository is given or beside the rows, and the URL of the page cannot be read.  The
  comparison should be refused, but it crashes. -/
  | strays {fault : Url.Fault} (hopen : row.disabled = false)
      (hrepo : begun.settled repo = .error fault) (hcache : after.cache = before.cache)
      (hshows : before.ShowsOnly after before.flow before.page) :
      Verdict begun row repo before after (.ended (.crashed (.url fault)))

/-- What a session comes to as time goes on. -/
inductive Onward (start : Session) : Session → Prop where
  | refl : Onward start start
  | step {session : Session} (h : Onward start session) (event : FlowEvent) :
      Onward start (session.step event)
  | binds {session : Session} (h : Onward start session) :
      Onward start (session.run Action.bindToPage).1
  | leads {session : Session} (h : Onward start session) (page : Page) :
      Onward start { session with page := page }

variable {parts : Parts} {start session begun before now : Session}
  {row : ChangeRequest.Row} {repo : Option String} {name : String} {preset : Preset}
  {task : TaskId} {state new : TaskState}

/-- Time goes on with any events. -/
theorem Onward.after (h : start.Onward session) (events : List FlowEvent) :
    start.Onward (session.after events) := by
  induction events generalizing session with
  | nil => exact h
  | cons event events ih => exact ih (h.step event)

/-- As time goes on the traffic goes by steps. -/
theorem Onward.travels (h : start.Onward now) : start.Travels now := by
  induction h with
  | refl => exact .refl
  | step _ event ih => exact ih.trans (traffic_step _ event)
  | binds _ ih =>
    have hbinds := travels_of_leaves (Action.beside_bindToPage beside_traffic)
    exact ih.trans (tracks_run hbinds _)
  | leads _ page ih => exact ih

/-! ## Verdicts -/

theorem ShowsOnly.setTask {after : Session} {flow : Flow} {page : Page}
    (h : before.ShowsOnly after flow page) (task : TaskId) (state : TaskState) :
    before.ShowsOnly (after.setTask task state) flow page :=
  ⟨h.flow, h.page, h.controls, h.store, h.document⟩

theorem Verdict.setTask {after : Session} (h : Verdict begun row repo before after state)
    (task : TaskId) (new : TaskState) :
    Verdict begun row repo before (after.setTask task new) state := by
  cases h with
  | refuses h hcache hshows => exact .refuses h hcache (hshows.setTask task new)
  | waits h hload hshows => exact .waits h hload (hshows.setTask task new)
  | opens h hload hurl hshows => exact .opens h hload hurl (hshows.setTask task new)
  | rejects h hload hlacks hshows => exact .rejects h hload hlacks (hshows.setTask task new)
  | fails h hload hshows => exact .fails h hload (hshows.setTask task new)
  | breaks h hload hshows => exact .breaks h hload (hshows.setTask task new)
  | strays hopen hrepo hcache hshows => exact .strays hopen hrepo hcache (hshows.setTask task new)

/-- A stretch that comes to a verdict leaves its operation there. -/
theorem verdict_follow {action : Action Turn} (hthere : task < session.tasks.length)
    (htasks : Action.Leaves tasks action)
    (h : Leads action session (fun turn after => Verdict begun row repo before after turn.state)
      fun crash after => Verdict begun row repo before after (.ended (.crashed crash))) :
    ∃ state, (session.follow task action).tasks[task]? = some state ∧
      Verdict begun row repo before (session.follow task action) state := by
  have hstands : ∀ {after : Session} {state : TaskState}, after.tasks = session.tasks →
      Verdict begun row repo before after state →
      ∃ new, (after.setTask task state).tasks[task]? = some new ∧
        Verdict begun row repo before (after.setTask task state) new :=
    fun {_ state} hsame hverdict =>
      ⟨state, List.getElem?_set_self (hsame ▸ hthere), hverdict.setTask task state⟩
  refine follow_of_leads (motive := fun after => ∃ state, after.tasks[task]? = some state ∧
    Verdict begun row repo before after state) ?_
  exact ((htasks session).and h).mono (fun _ _ ⟨hsame, hverdict⟩ => hstands hsame hverdict)
    fun _ _ ⟨hsame, hverdict⟩ => hstands hsame hverdict

end Session

namespace Action

open BranchCache (leavesRoom)
open Session (Verdict)

variable {begun before session : Session} {row : ChangeRequest.Row} {repo : Option String}
  {name : String} {preset : Preset} {task : TaskId}

/-- The load of a comparison has ended. -/
theorem verdict_endComparison {result : LoadEnd} (h : begun.Accepts row repo name preset)
    (hsame : before.ShowsOnly session before.flow before.page)
    (hload : leavesRoom result = true → begun.cache.Refreshed session.cache name result)
    (hended : session.cache.Ended name result) :
    Leads (endComparison row preset result) session
      (fun turn after => Verdict begun row repo before after turn.state)
      fun crash after => Verdict begun row repo before after (.ended (.crashed crash)) := by
  obtain ⟨hflow, hpage, hcontrols, hstore, hdocument⟩ := hsame
  unfold endComparison
  cases result with
  | ok branches =>
    unfold exitLoading compareUrl
    rw [leads_bind, leads_modify, leads_bind]
    cases hurl : (CompareRequest.Draft.ofBranches preset row.request.baseRef
        row.request.headRef).url with
    | ok url =>
      dsimp only
      rw [leads_pure, leads_bind, leads_openUrl, leads_pure]
      exact .opens h (hload rfl) hurl
        ⟨by dsimp only; rw [hflow], by dsimp only; rw [hpage], hcontrols, hstore, hdocument⟩
    | error issues =>
      exact .rejects h (hload rfl) (CompareRequest.Draft.names_of_error hurl)
        ⟨hflow, hpage, hcontrols, hstore, hdocument⟩
  | error error =>
    cases error with
    | unavailable failure =>
      unfold fail exitLoading
      rw [leads_bind, leads_modifyFlow, leads_bind, leads_modify, leads_pure]
      exact .fails h (hload rfl) ⟨by dsimp only; rw [hflow], hpage, hcontrols, hstore, hdocument⟩
    | crashed crash => exact .breaks h hended ⟨hflow, hpage, hcontrols, hstore, hdocument⟩

/-- The load of a comparison comes further. -/
theorem verdict_followComparison {outcome : BranchCache × LoadTurn × List CacheSignal}
    (h : begun.Accepts row repo name preset)
    (hsame : before.ShowsOnly session before.flow before.page)
    (hload : begun.cache.Refreshes outcome.1 name outcome.2.1)
    (hallows : outcome.1.Allows name true outcome.2.1) :
    Leads (followLoad (.comparison row preset) outcome) session
      (fun turn after => Verdict begun row repo before after turn.state)
      fun crash after => Verdict begun row repo before after (.ended (.crashed crash)) := by
  obtain ⟨cache, turn, signals⟩ := outcome
  have htaken : before.ShowsOnly ({ session with cache := cache }.enqueue (signals.map .cache))
      before.flow before.page :=
    ⟨hsame.flow, hsame.page, hsame.controls, hsame.store, hsame.document⟩
  unfold followLoad
  rw [leads_bind, leads_modify]
  cases turn with
  | waits waiting => exact leads_pure.mpr (.waits h hload htaken)
  | ended result => exact verdict_endComparison h htaken hload hallows

/-- A comparison begins, after its turn was taken out of the line. -/
theorem verdict_compare {place : Nat} {line : List CacheSignal} (hcache : begun.cache.Sound line) :
    Leads (compare task row repo) (begun.without place)
      (fun turn after => Verdict begun row repo begun.cleared after turn.state)
      fun crash after => Verdict begun row repo begun.cleared after (.ended (.crashed crash)) := by
  -- from where the repository is known
  have hbegins : ∀ {found : Option String}, row.disabled = false → begun.settled repo = .ok found →
      Leads (beginComparison task row begun.table found)
        { begun.without place with flow := begun.cleared.flow }
        (fun turn after => Verdict begun row repo begun.cleared after turn.state)
        fun crash after => Verdict begun row repo begun.cleared after (.ended (.crashed crash)) := by
    intro found hopen hrepo
    unfold beginComparison
    cases hresolve : begun.table.resolve found with
    | error error =>
      dsimp only
      unfold fail
      rw [leads_bind, leads_modifyFlow, leads_pure]
      exact .refuses (.unknown hopen hrepo hresolve) rfl ⟨rfl, rfl, rfl, rfl, rfl⟩
    | ok preset =>
      cases found with
      | none => cases hresolve
      | some name =>
        unfold beginLoading enterLoading
        rw [leads_bind, leads_modify, leads_bind, leads_get]
        exact verdict_followComparison ⟨hopen, hrepo, hresolve⟩
          ⟨rfl, rfl, rfl, rfl, rfl⟩ (hcache.refreshes_join (.refl _) name task)
          (hcache.join name true task).2.2
  rw [compare_eq]
  unfold clearError
  rw [leads_bind, leads_modifyFlow]
  by_cases hdisabled : row.disabled = true
  · rw [if_pos hdisabled]
    unfold fail
    rw [leads_bind, leads_modifyFlow, leads_pure]
    exact .refuses (.fork hdisabled) rfl ⟨rfl, rfl, rfl, rfl, rfl⟩
  · rw [if_neg hdisabled, leads_bind, leads_get]
    rw [Bool.not_eq_true] at hdisabled
    dsimp only [Session.without]
    cases hgiven : (nonEmpty repo).or (nonEmpty begun.flow.requestsRepo) with
    | some name =>
      have hsettled : begun.settled repo = .ok (some name) := by rw [Session.settled, hgiven]
      dsimp only
      rw [leads_bind, leads_pure]
      exact hbegins hdisabled hsettled
    | none =>
      have hsettled : begun.settled repo = begun.page.param "repo" (some begun.defaultRepo) := by
        rw [Session.settled, hgiven]
      unfold param
      dsimp only
      rw [leads_bind, leads_readPage]
      dsimp only
      cases hparam : begun.page.param "repo" (some begun.defaultRepo) with
      | ok found =>
        rw [hparam] at hsettled
        exact hbegins hdisabled hsettled
      | error fault =>
        rw [hparam] at hsettled
        exact .strays hdisabled hsettled rfl ⟨rfl, rfl, rfl, rfl, rfl⟩

end Action

namespace Session

variable {parts : Parts} {begun now : Session} {row : ChangeRequest.Row} {repo : Option String}
  {task : TaskId} {state new : TaskState}

/-! ## Turns -/

/-- The comparison that began in the first session is over, or it waits for a fetch that it needs. -/
inductive Pursues (begun now : Session) (row : ChangeRequest.Row) (repo : Option String) :
    TaskState → Prop where
  | waits {name : String} {preset : Preset} {waiting : Waiting} (cancelled : Bool)
      (h : begun.Accepts row repo name preset)
      (hload : begun.cache.Refreshes now.cache name (.waits waiting)) :
      Pursues begun now row repo (.loading waiting (.comparison row preset) cancelled)
  | ends (result : OperationEnd) : Pursues begun now row repo (.ended result)

/-- After a verdict the comparison is over or pursues its load. -/
theorem Verdict.pursues {before : Session} (h : Verdict begun row repo before now state) :
    Pursues begun now row repo state := by
  cases h with
  | waits h hload => exact .waits false h hload
  | refuses | opens | fails | rejects | breaks | strays => exact .ends _

theorem Pursues.drifts (h : Pursues begun now row repo state) (hdrifts : state.Drifts new) :
    Pursues begun now row repo new := by
  cases hdrifts with
  | same => exact h
  | cancels => cases h with | waits cancelled h hload => exact .waits true h hload
  | leaves => exact .ends _
  | listens | stops => cases h

theorem Pursues.later {later : Session} (h : Pursues begun now row repo state)
    (hl : now.cache.Later later.cache) : Pursues begun later row repo state := by
  cases h with
  | waits cancelled h hload => exact .waits cancelled h (hload.later hl)
  | ends result => exact .ends result

/-- The event is a turn of the operation, which waits for branches and was not cancelled. -/
def Resumes (session : Session) (task : TaskId) (event : FlowEvent) : Prop :=
  ∃ place waiting purpose, event = .turn place ∧
    session.line[place]? = some (.cache (.caller task)) ∧
    session.tasks[task]? = some (.loading waiting purpose false)

/-- What an event makes of the operation: by a turn of it such an end, and by anything else it
drifts. -/
structure Decides (ends : Session → Session → TaskState → Prop) (task : TaskId) (now : Session)
    (event : FlowEvent) (old new : TaskState) : Prop where
  resumes : now.Resumes task event → ends now (now.step event) new
  drifts : ¬ now.Resumes task event → old.Drifts new

theorem Decides.pursues {event : FlowEvent}
    (h : Decides (Verdict begun row repo) task now event state new)
    (hl : now.cache.Later (now.step event).cache) (hpursues : Pursues begun now row repo state) :
    Pursues begun (now.step event) row repo new := by
  by_cases hresumes : now.Resumes task event
  · exact (h.resumes hresumes).pursues
  · exact (hpursues.drifts (h.drifts hresumes)).later hl

/-- What is in line for the cache when a turn was taken out. -/
theorem sound_without (h : now.traffic.Sound) {place : Nat} {signal : Signal}
    (hsignal : now.line[place]? = some signal) (hcalls : Calls task signal) :
    now.cache.Sound (now.without place).cacheLine := by
  have hperm := h.cache.perm (cacheLine_perm hsignal).symm
  rcases hcalls with rfl | ⟨turn, rfl⟩
  · exact hperm.tail fun fetch => CacheSignal.callTurn?_caller fetch task
  · exact hperm

/-- A comparison that goes on comes to a verdict. -/
theorem verdict_resumes (h : now.traffic.Sound) {waiting : Waiting} {purpose : Purpose}
    (hs : now.tasks[task]? = some (.loading waiting purpose false))
    (hpursues : Pursues begun now row repo (.loading waiting purpose false))
    (hlater : begun.cache.Later now.cache) {place : Nat}
    (hline : now.line[place]? = some (.cache (.caller task))) :
    ∃ new, (now.step (.turn place)).tasks[task]? = some new ∧
      Verdict begun row repo now (now.step (.turn place)) new := by
  have hcache := sound_without h hline (.inl rfl)
  have hturn : now.step (.turn place) = (now.without place).follow task
      (Action.followLoad purpose ((now.without place).cache.resume waiting task)) := by
    have hwaits : (now.without place).tasks[task]? = some (.loading waiting purpose false) := hs
    rw [step, turn_caller hline, taskTurn, hwaits]
  rw [hturn]
  cases hpursues with
  | waits _ haccepts hload =>
    have hrefreshes := hcache.refreshes_resume hlater hload task
    obtain ⟨rfl, hforced, hfits, -⟩ := hload
    have hallows := (hcache.resume hfits task).2.2
    rw [hforced] at hallows
    have hsame : now.ShowsOnly (now.without place) now.flow now.page := ⟨rfl, rfl, rfl, rfl, rfl⟩
    exact verdict_follow (List.getElem?_eq_some_iff.mp hs).1
      (Action.fixed_followLoad fixed_tasks _ _)
      (Action.verdict_followComparison haccepts hsame hrefreshes hallows)

/-- By each event the comparison comes to a verdict or drifts. -/
theorem decides_step (h : now.traffic.Sound) (hs : now.tasks[task]? = some state)
    (hpursues : Pursues begun now row repo state) (hlater : begun.cache.Later now.cache)
    (event : FlowEvent) :
    ∃ new, (now.step event).tasks[task]? = some new ∧
      Decides (Verdict begun row repo) task now event state new := by
  by_cases hresumes : now.Resumes task event
  · obtain ⟨place, waiting, purpose, rfl, hline, hloading⟩ := id hresumes
    obtain rfl := Option.some.inj (hs.symm.trans hloading)
    obtain ⟨new, hnew, hverdict⟩ := verdict_resumes h hs hpursues hlater hline
    exact ⟨new, hnew, fun _ => hverdict, fun hnot => absurd hresumes hnot⟩
  · have hdrifted : (∃ new, (now.step event).tasks[task]? = some new ∧ state.Drifts new) →
        ∃ new, (now.step event).tasks[task]? = some new ∧
          Decides (Verdict begun row repo) task now event state new := fun ⟨new, hnew, hdrifts⟩ =>
      ⟨new, hnew, fun hgoes => absurd hgoes hresumes, fun _ => hdrifts⟩
    refine hdrifted ?_
    rcases task_step hs event with
      hdrifts | ⟨place, signal, action, rfl, hsignal, hcalls, hstretch, hstep⟩
    · exact hdrifts
    -- The comparison has begun and lists nothing, so that its load is what would go on.
    cases hstretch with
    | @resumes waiting purpose hother =>
      obtain rfl := Option.some.inj (hs.symm.trans hother)
      rcases hcalls with rfl | ⟨turn, rfl⟩
      · exact absurd ⟨place, waiting, purpose, rfl, hsignal, hs⟩ hresumes
      · have hidle : now.turn place = now.without place :=
          turn_notListing hsignal fun call owner repo hlisting => by
            cases hs.symm.trans hlisting
        exact ⟨_, (congrArg (·.tasks[task]?) hidle).trans hs, .same _⟩
    | begins hother | answers hother | expires hother =>
      obtain rfl := Option.some.inj (hs.symm.trans hother)
      cases hpursues

/-- By its first turn the comparison comes to a verdict. -/
theorem verdict_begins (h : begun.traffic.Sound)
    (hs : begun.tasks[task]? = some (.begins (.compare row repo))) {place : Nat}
    (hline : begun.line[place]? = some (.cache (.caller task))) :
    ∃ state, (begun.step (.turn place)).tasks[task]? = some state ∧
      Verdict begun row repo begun.cleared (begun.step (.turn place)) state := by
  have hturn : begun.step (.turn place) =
      (begun.without place).follow task (Action.compare task row repo) := by
    have hbegins : (begun.without place).tasks[task]? = some (.begins (.compare row repo)) := hs
    rw [step, turn_caller hline, taskTurn, hbegins]
    rfl
  rw [hturn]
  exact verdict_follow (List.getElem?_eq_some_iff.mp hs).1
    (Action.fixed_compare fixed_tasks task row repo)
    (Action.verdict_compare (sound_without h hline (.inl rfl)))

/-- Once it has begun the comparison is over or waits for a fetch that it needs. -/
theorem pursues_onward {start : Session} (h : start.traffic.Sound)
    (hs : start.tasks[task]? = some state) (hpursues : Pursues begun start row repo state)
    (hlater : begun.cache.Later start.cache) (hnow : start.Onward now) :
    ∃ state, now.tasks[task]? = some state ∧ Pursues begun now row repo state := by
  induction hnow with
  | refl => exact ⟨state, hs, hpursues⟩
  | @step session hsession event ih =>
    obtain ⟨old, hold, hpursues⟩ := ih
    have hmoves := h.steps hsession.travels
    obtain ⟨new, hnew, hdecides⟩ := decides_step hmoves.sound hold hpursues
      (hlater.trans hmoves.later) event
    exact ⟨new, hnew, hdecides.pursues (hmoves.sound.steps (traffic_step session event)).later
      hpursues⟩
  | @binds session _ ih =>
    obtain ⟨old, hold, hpursues⟩ := ih
    have hsame : (session.run Action.bindToPage).1.traffic = session.traffic :=
      @part_run _ _ traffic (· = session.traffic) _ _
        (Action.beside_bindToPage beside_traffic session)
    refine ⟨old, (congrArg (·.tasks[task]?) hsame).trans hold, hpursues.later ?_⟩
    rw [show (session.run Action.bindToPage).1.cache = session.cache from
      congrArg Traffic.cache hsame]
    exact .refl _
  | leads _ page ih =>
    obtain ⟨old, hold, hpursues⟩ := ih
    exact ⟨old, hold, hpursues.later (.refl _)⟩

/-! ## Waiting -/

/-- An operation that is to begin has its turn in line. -/
theorem exists_turn (h : now.traffic.Sound) {operation : Operation}
    (hs : now.tasks[task]? = some (.begins operation)) :
    ∃ place : Nat, now.line[place]? = some (.cache (.caller task)) := by
  have hattended : now.cache.AttendsTo now.cacheLine task now.tasks[task]? := h.attended task
  rw [hs] at hattended
  have hstands : now.cache.Stands now.cacheLine task 1 none := hattended
  have hmem : CacheSignal.caller task ∈ now.cacheLine := by
    rw [← List.count_pos_iff, hstands.turns]
    exact Nat.one_pos
  obtain ⟨signal, hsignal, hcache⟩ := List.mem_filterMap.mp hmem
  cases signal with
  | listing => cases hcache
  | cache signal =>
    obtain rfl := Option.some.inj hcache
    exact List.getElem?_of_mem hsignal

/-- When all signals have had their turn, an operation that waits for branches waits for a fetch that
has not ended. -/
theorem open_of_line_nil (h : now.traffic.Sound) {waiting : Waiting} {purpose : Purpose}
    {cancelled : Bool} (hs : now.tasks[task]? = some (.loading waiting purpose cancelled))
    (hline : now.line = []) : cancelled = false ∧ now.cache.resultOf waiting.fetch = none := by
  have hattended : now.cache.AttendsTo now.cacheLine task now.tasks[task]? := h.attended task
  rw [hs, cacheLine, hline] at hattended
  have hstarved : ¬ now.cache.Stands [] task 1 none := fun hstands => by
    have hturns := hstands.turns
    cases hturns
  cases cancelled with
  | true => exact absurd hattended hstarved
  | false =>
    rcases hattended with ⟨-, hopen | htold⟩ | ⟨hstands, -⟩
    · exact ⟨rfl, hopen⟩
    · cases htold
    · exact absurd hstands hstarved

/-- The operation that is to begin has its turn in line, and the last error is cleared when it takes
it.  Each of its turns comes to such an end, whatever happens in between, and it is never forgotten:
when all signals have had their turn it is over, or it waits for a fetch that has not ended. -/
structure TakesTurns (begun : Session) (task : TaskId)
    (ends : Session → Session → TaskState → Prop) : Prop where
  inLine : ∃ place : Nat, begun.line[place]? = some (.cache (.caller task))
  first : ∀ place : Nat, begun.line[place]? = some (.cache (.caller task)) →
    ∃ state, (begun.step (.turn place)).tasks[task]? = some state ∧
      ends begun.cleared (begun.step (.turn place)) state
  later : ∀ place : Nat, begun.line[place]? = some (.cache (.caller task)) →
    ∀ now, (begun.step (.turn place)).Onward now → ∃ state, now.tasks[task]? = some state ∧
      (now.line = [] → state.isOver = true ∨ ∃ waiting purpose,
        state = .loading waiting purpose false ∧ now.cache.resultOf waiting.fetch = none) ∧
      ∀ event, ∃ new, (now.step event).tasks[task]? = some new ∧
        Decides ends task now event state new

theorem TakesTurns.imp {ends others : Session → Session → TaskState → Prop}
    (h : begun.TakesTurns task ends)
    (himp : ∀ before after state, ends before after state → others before after state) :
    begun.TakesTurns task others where
  inLine := h.inLine
  first place hline := by
    obtain ⟨state, hs, hends⟩ := h.first place hline
    exact ⟨state, hs, himp _ _ _ hends⟩
  later place hline now honward := by
    obtain ⟨state, hs, hsettles, hevents⟩ := h.later place hline now honward
    refine ⟨state, hs, hsettles, fun event => ?_⟩
    obtain ⟨new, hnew, hdecides⟩ := hevents event
    exact ⟨new, hnew, fun hresumes => himp _ _ _ (hdecides.resumes hresumes), hdecides.drifts⟩

/-- The turn by which an operation returns a URL comes to such an end. -/
theorem TakesTurns.ends_of_url {ends : Session → Session → TaskState → Prop} {url : String}
    (h : begun.TakesTurns task ends) {place : Nat}
    (hline : begun.line[place]? = some (.cache (.caller task)))
    (honward : (begun.step (.turn place)).Onward now)
    (hopen : now.tasks[task]?.map TaskState.isOver = some false) {event : FlowEvent}
    (hurl : (now.step event).tasks[task]?.bind TaskState.url? = some url) :
    (now.step event).tasks[task]? = some (.ended (.value (.launched (some url)))) ∧
      ends now (now.step event) (.ended (.value (.launched (some url)))) := by
  obtain ⟨state, hs, -, hevents⟩ := h.later place hline now honward
  obtain ⟨new, hnew, hdecides⟩ := hevents event
  rw [hs, Option.map_some] at hopen
  rw [hnew, Option.bind_some] at hurl
  obtain rfl := TaskState.eq_of_url? hurl
  refine ⟨hnew, hdecides.resumes ?_⟩
  by_contra hrests
  exact not_returns_of_drifts (hdecides.drifts hrests) (Option.some.inj hopen) rfl

/-- The comparison of a row takes turns that come to verdicts. -/
theorem takesTurns_compare (h : begun.traffic.Sound)
    (hs : begun.tasks[task]? = some (.begins (.compare row repo))) :
    begun.TakesTurns task (Verdict begun row repo) where
  inLine := exists_turn h hs
  first _ hline := verdict_begins h hs hline
  later place hline now honward := by
    obtain ⟨first, hfirst, hverdict⟩ := verdict_begins h hs hline
    have hmoves := h.steps (traffic_step begun (.turn place))
    have hnow := hmoves.sound.steps honward.travels
    obtain ⟨state, hstate, hpursues⟩ :=
      pursues_onward hmoves.sound hfirst hverdict.pursues hmoves.later honward
    refine ⟨state, hstate, fun hempty => ?_, fun event => ?_⟩
    · cases hpursues with
      | ends result => exact .inl rfl
      | @waits name preset waiting cancelled haccepts hload =>
        obtain ⟨rfl, hopen⟩ := open_of_line_nil hnow.sound hstate hempty
        exact .inr ⟨waiting, _, rfl, hopen⟩
    · exact decides_step hnow.sound hstate hpursues (hmoves.later.trans hnow.later) event

/-- The comparison of a row in any session of a fresh cache that can be reached takes turns that
come to verdicts, unless it is cancelled.  So it leads the page to a URL only when a forced fetch of
the repository that it settles on has succeeded, and is refused or fails with an error otherwise,
unless a fetch was broken off, the row lacks the name of a branch, or the URL of the page cannot be
read, where it should be refused and crashes (`Verdict.strays`). -/
theorem verdict_of_comparison (hreach : Reachable parts begun) {limit : Seconds}
    {ready : List (String × Reply)} (hcache : parts.cache = .fresh limit ready)
    (hs : begun.tasks[task]? = some (.begins (.compare row repo))) :
    begun.TakesTurns task (Verdict begun row repo) :=
  takesTurns_compare (hreach.sound_traffic hcache) hs

def openRow : ChangeRequest.Row := .ofRequest (newYear 7 (some 0))

def toBegin? : TaskState → Option Operation
  | .begins operation => some operation
  | _ => none

theorem eq_of_toBegin? {tasks : List TaskState} {operation : Operation}
    (h : tasks[task]?.bind toBegin? = some operation) :
    tasks[task]? = some (.begins operation) := by
  obtain ⟨state, hs, hbegins⟩ := Option.bind_eq_some_iff.mp h
  cases state with
  | begins other => exact hs.trans (congrArg (some ∘ TaskState.begins) (Option.some.inj hbegins))
  | loading | listing | ended => cases hbegins

/-- A repository is selected, and a row is to be compared while its branches are loaded. -/
def besideLoad : List FlowEvent :=
  .begin (.selectRepo "polkadot") :: turns 3 ++ [.begin (.compare openRow (some "polkadot"))]

/-- The load of the repository ends, and then the forced fetch of the comparison. -/
def bothAnswers : List FlowEvent :=
  .answerFetch 0 (.answer [⟨"master", "a1"⟩]) :: turns 12 ++
    [.answerFetch 1 (.answer [⟨"master", "a1"⟩, ⟨"bench", "c3"⟩])] ++ turns 5

theorem verdict_of_comparison_besideLoad : ∃ session url, make listingParts = .ok session ∧
    let begun := session.after besideLoad
    let now := (begun.step (.turn 0)).after bothAnswers
    begun.cache.isLoading "polkadot" = true ∧
      (now.step (.turn 0)).tasks[1]? = some (.ended (.value (.launched (some url)))) ∧
      Verdict begun openRow (some "polkadot") now (now.step (.turn 0))
        (.ended (.value (.launched (some url)))) := by
  have hrun : ((make listingParts).toOption.any fun session =>
      let begun := session.after besideLoad
      let now := (begun.step (.turn 0)).after bothAnswers
      begun.cache.isLoading "polkadot" = true ∧
        begun.line[0]? = some (.cache (.caller 1)) ∧
        begun.tasks[1]?.bind toBegin? = some (.compare openRow (some "polkadot")) ∧
        now.tasks[1]?.map TaskState.isOver = some false ∧
        ((now.step (.turn 0)).tasks[1]?.bind TaskState.url?).isSome = true) = true := by
    decide +kernel
  obtain ⟨session, hmake, hchecks⟩ := exists_make_of_any hrun
  obtain ⟨hloading, hline, hbegins, hopen, hreturned⟩ := of_decide_eq_true hchecks
  obtain ⟨url, hurl⟩ := Option.isSome_iff_exists.mp hreturned
  have hcache : listingParts.cache = .fresh (.whole 30) [] := rfl
  have hturns := verdict_of_comparison ((Reachable.made hmake).after besideLoad) hcache
    (eq_of_toBegin? hbegins)
  obtain ⟨hnew, hverdict⟩ := hturns.ends_of_url hline (Onward.refl.after bothAnswers) hopen hurl
  exact ⟨session, url, hmake, hloading, hnew, hverdict⟩

def unreadableParts : Parts := { listingParts with page := .ofUrl "http://[" }

/-- A comparison for which no repository is given may crash before anything is fetched. -/
theorem crashed_unreadablePage : ¬ ∀ (parts : Parts) (begun : Session) (limit : Seconds)
    (row : ChangeRequest.Row) (repo : Option String) (task : TaskId) (place : Nat),
    Reachable parts begun → parts.cache = .fresh limit [] → row.request.baseRef ≠ "" →
    row.request.headRef ≠ "" → begun.tasks[task]? = some (.begins (.compare row repo)) →
    begun.line[place]? = some (.cache (.caller task)) → begun.cache.fetches = [] →
    ∀ crash, (begun.step (.turn place)).tasks[task]? ≠ some (.ended (.crashed crash)) := by
  intro hall
  obtain ⟨session, hmake, hcrashes⟩ : ∃ session, make unreadableParts = .ok session ∧
      let begun := session.after [.begin (.compare openRow none)]
      begun.tasks[0]? = some (.begins (.compare openRow none)) ∧
        begun.line[0]? = some (.cache (.caller 0)) ∧ begun.cache.fetches = [] ∧
        (begun.step (.turn 0)).tasks[0]? = some (.ended (.crashed (.url .badBrackets))) :=
    ⟨_, rfl, rfl, rfl, rfl, rfl⟩
  obtain ⟨hbegins, hline, hfetches, hcrashed⟩ := hcrashes
  exact hall unreadableParts _ (.whole 30) openRow none 0 0 ((Reachable.made hmake).after _) rfl
    (by decide) (by decide) hbegins hline hfetches _ hcrashed

end Session

end BranchCompare
