import BranchCompare.Proofs.Workflow.Choices
import BranchCompare.Proofs.Workflow.Crashes

/-!
# What becomes of failures

`Session.failure?` says which failure an operation meets at its next turn: a load or a listing that
has failed or run out of time, a repository without a preset, a row from a fork.  In a session in
order that turn is the last one of the operation.  It returns, and the failure is shown, unless it is
that of a load for a repository which is not the selected one any more (`Sound.returned_taskTurn`).
-/

namespace BranchCompare

/-! ## Failures -/

def LoadTurn.failure? : LoadTurn → Option String
  | .ended (.error (.unavailable failure)) => some failure.message
  | _ => none

/-- The failure of a listing that has ended. -/
def CallEnd.listingFailure? (owner repo : String) : CallEnd (List ChangeRequest) → Option String
  | .unavailable failure => some failure.message
  | .outOfTime => some s!"Listing change requests of {owner}/{repo} timed out"
  | .answer _ | .crashed _ => none

/-- The failure of a listing that is waited for no more. -/
def WaitEnd.listingFailure? (owner repo : String) : WaitEnd (List ChangeRequest) → Option String
  | .ended result => result.listingFailure? owner repo
  | .stopped .timeLimit => CallEnd.outOfTime.listingFailure? owner repo
  | .stopped .cancelled => none

namespace Session

/-- The repository whose branches are compared for a row. -/
def compared? (session : Session) (repo : Option String) : Option String :=
  match (Action.nonEmpty repo).or (Action.nonEmpty session.flow.requestsRepo) with
  | some repo => some repo
  | none => (session.page.param "repo" (some session.defaultRepo)).toOption.join

/-- The failure that a comparison meets as it begins. -/
def comparisonFailure? (session : Session) (task : TaskId) (repo : Option String) : Option String :=
  match session.table.resolve repo with
  | .ok _ => (session.cache.load (repo.getD "") true task).2.1.failure?
  | .error error => some error.message

/-- The failure that an operation meets as it begins. -/
def failureOf? (session : Session) (task : TaskId) : Operation → Option String
  | .restore =>
    session.restored?.bind fun repo => (session.cache.load repo false task).2.1.failure?
  | .selectRepo repo => (session.cache.load repo false task).2.1.failure?
  | .refresh => (Action.nonEmpty session.flow.repo).bind fun repo =>
    (session.cache.load repo true task).2.1.failure?
  | .list _ _ => if session.hasPulls then none else some "No change-request source configured"
  | .compare row repo =>
    if row.disabled then some s!"#{row.request.number} comes from a fork and cannot be compared"
    else session.comparisonFailure? task (session.compared? repo)

/-- The failure that an operation meets at its next turn. -/
def failure? (session : Session) (task : TaskId) : Option String :=
  match session.tasks[task]? with
  | some (.begins operation) => session.failureOf? task operation
  | some (.loading waiting _ false) => (session.cache.resume waiting task).2.1.failure?
  | some (.listing call owner repo) => call.wake.2.2.bind (WaitEnd.listingFailure? owner repo)
  | _ => none

/-- The operation loads the branches of another repository than the selected one, to choose among
them. -/
def Stale (session : Session) (task : TaskId) : Prop :=
  ∃ waiting repo restoring,
    session.tasks[task]? = some (.loading waiting (.choice repo restoring) false) ∧
      session.flow.repo ≠ some repo

end Session

theorem LoadTurn.eq_of_failure? {turn : LoadTurn} {message : String}
    (h : turn.failure? = some message) :
    ∃ failure, turn = .ended (.error (.unavailable failure)) ∧ failure.message = message := by
  unfold LoadTurn.failure? at h
  split at h
  · next failure => exact ⟨failure, rfl, Option.some.inj h⟩
  · cases h

/-- The failure of a load for a choice is shown if its repository is the selected one. -/
theorem Session.Chooses.failure {before after : Session} {repo message : String} {restoring : Bool}
    {outcome : BranchCache × LoadTurn × List CacheSignal} {given : Turn}
    (h : before.Chooses repo restoring outcome given after)
    (hfailure : outcome.2.1.failure? = some message) :
    (∃ value, given = .ended value) ∧
      if before.flow.repo = some repo then after.flow.error = some message
      else after.flow = before.flow := by
  obtain ⟨failure, hended, rfl⟩ := LoadTurn.eq_of_failure? hfailure
  obtain ⟨flow, hcomes, hagrees⟩ := h
  rw [hended] at hcomes
  obtain ⟨hvalue, hconcludes⟩ := hcomes
  refine ⟨hvalue, ?_⟩
  have hflow : after.flow = flow := hagrees.flow
  unfold Flow.Concludes at hconcludes
  rw [hflow]
  split
  · next hcurrent =>
    rw [if_pos hcurrent] at hconcludes
    rw [hconcludes]
  · next hother => rwa [if_neg hother] at hconcludes

/-! ## Operations that return -/

namespace Action

variable {session : Session} {task : TaskId} {message : String} {shown : Flow → Prop}

/-- The action returns, and what it leaves shown is so. -/
def Returns (action : Action Turn) (session : Session) (shown : Flow → Prop) : Prop :=
  Leads action session (fun given after => (∃ value, given = .ended value) ∧ shown after.flow)
    fun _ _ => False

/-- An action that returns if it is not broken off does so where nothing can break it off. -/
theorem Sustains.returns {action : Action Turn}
    (h : Sustains action Turn.Expected (NamesNothing none)) (hfine : session.Fine)
    {ends : Turn → Session → Prop} {breaks : Crash → Session → Prop}
    (hleads : Leads action session ends breaks)
    (hends : ∀ given after, ends given after →
      (∃ value, given = .ended value) ∧ shown after.flow) : Returns action session shown := by
  refine ((h session hfine).and hleads).mono (fun given after hboth => hends given after hboth.2) ?_
  rintro crash after ⟨⟨⟨row, issues, hrow, -⟩, -⟩, -⟩
  cases hrow

/-- A choice whose load has failed shows the failure. -/
theorem returns_followChoice (hfine : session.Fine) (repo : String) (restoring : Bool)
    {outcome : BranchCache × LoadTurn × List CacheSignal} (hcache : outcome.1.Expected)
    (hturn : outcome.2.1.Expected) (hfailure : outcome.2.1.failure? = some message) :
    Returns (followLoad (.choice repo restoring) outcome) session fun flow =>
      if session.flow.repo = some repo then flow.error = some message else flow = session.flow := by
  have hsustains := sustains_followLoad (.choice repo restoring) hcache hturn
  exact hsustains.returns hfine (leads_followChoice session repo restoring outcome)
    fun _ _ hchooses => hchooses.failure hfailure

theorem returns_followComparison (session : Session) (row : ChangeRequest.Row) (preset : Preset)
    {outcome : BranchCache × LoadTurn × List CacheSignal}
    (hfailure : outcome.2.1.failure? = some message) :
    Returns (followLoad (.comparison row preset) outcome) session fun flow =>
      flow.error = some message := by
  obtain ⟨cache, turn, signals⟩ := outcome
  obtain ⟨failure, hended, rfl⟩ := LoadTurn.eq_of_failure? hfailure
  obtain rfl : turn = _ := hended
  exact ⟨⟨_, rfl⟩, rfl⟩

theorem returns_restore (hfine : session.Fine) {repo : String}
    (hrepo : session.restored? = some repo)
    (hfailure : (session.cache.load repo false task).2.1.failure? = some message) :
    Returns (restore task) session fun flow => flow.error = some message := by
  refine (sustains_restore task).returns hfine (leads_restore session task) ?_
  rintro given after (⟨found, hfound, -, hchooses⟩ | ⟨hnone, -⟩)
  · obtain rfl := Option.some.inj (hrepo.symm.trans hfound)
    exact (hchooses.failure hfailure).imp_right fun h => by rwa [if_pos rfl] at h
  · cases hrepo.symm.trans hnone

theorem returns_selectRepo (hfine : session.Fine) {repo : String}
    (hfailure : (session.cache.load repo false task).2.1.failure? = some message) :
    Returns (selectRepo task repo false) session fun flow => flow.error = some message := by
  refine (sustains_selectRepo task repo false).returns hfine
    (leads_selectRepo session task repo false) fun given after hchooses => ?_
  exact (hchooses.failure hfailure).imp_right fun h => by rwa [if_pos rfl] at h

theorem returns_refresh (hfine : session.Fine) {repo : String}
    (hrepo : nonEmpty session.flow.repo = some repo)
    (hfailure : (session.cache.load repo true task).2.1.failure? = some message) :
    Returns (refresh task) session fun flow => flow.error = some message := by
  have hleads : Leads (refresh task) session
      ({ session with flow := { session.flow with
          error := none, stage := .branchesLoading } }.Chooses repo false
        (session.cache.load repo true task)) fun _ _ => True := by
    unfold refresh clearError
    rw [leads_bind, leads_get, hrepo]
    dsimp only
    rw [leads_bind, leads_modifyFlow]
    exact leads_loadBranches _ task repo true false
  have hcurrent : session.flow.repo = some repo := (mem_of_nonEmpty hrepo).1
  refine (sustains_refresh task).returns hfine hleads fun given after hchooses => ?_
  exact (hchooses.failure hfailure).imp_right fun h => by rwa [if_pos hcurrent] at h

/-- Without a service that lists change requests there is nothing to wait for. -/
theorem returns_list (hfine : session.Fine) (owner repo : Option String)
    (hpulls : session.hasPulls = false) :
    Returns (list task owner repo) session fun flow =>
      flow.error = some "No change-request source configured" := by
  have hparam : ∀ (given : Option String) (name default : String),
      Sustains (orParam given name default) (fun _ => True) fun _ => False :=
    fun given name default => sustains_orParam given name default
  rw [list_eq]
  unfold Returns
  rw [leads_bind, leads_get, leads_bind, hpulls]
  refine (hparam owner _ _ session hfine).mono (fun owner s1 h1 => ?_) fun _ _ h => h.1
  rw [leads_bind]
  refine (hparam repo _ _ s1 h1.2).mono (fun repo s2 h2 => ?_) fun _ _ h => h.1
  exact ⟨⟨_, rfl⟩, rfl⟩

/-- A comparison that fails at once shows why. -/
theorem returns_beginComparison (session : Session) (row : ChangeRequest.Row)
    {found : Option String} (hfailure : session.comparisonFailure? task found = some message) :
    Returns (beginComparison task row session.table found) session fun flow =>
      flow.error = some message := by
  unfold Session.comparisonFailure? at hfailure
  unfold beginComparison
  cases hpreset : session.table.resolve found with
  | ok preset =>
    rw [hpreset] at hfailure
    let entered := { session with indicator := session.indicator.enter }
    have hfollow := returns_followComparison entered row preset hfailure
    unfold beginLoading Returns
    rw [leads_bind]
    exact hfollow
  | error error =>
    rw [hpreset] at hfailure
    exact ⟨⟨_, rfl⟩, hfailure⟩

theorem returns_compare (hfine : session.Fine) {row : ChangeRequest.Row} {repo : Option String}
    (hfailure : session.failureOf? task (.compare row repo) = some message) :
    Returns (compare task row repo) session fun flow => flow.error = some message := by
  let cleared := { session with flow := { session.flow with error := none } }
  have hbegins : ∀ found, session.comparisonFailure? task found = some message →
      Returns (beginComparison task row session.table found) cleared fun flow =>
        flow.error = some message := fun found hmet => returns_beginComparison cleared row hmet
  unfold Session.failureOf? Session.compared? at hfailure
  rw [compare_eq]
  unfold clearError Returns
  rw [leads_bind, leads_modifyFlow]
  dsimp only at hfailure ⊢
  by_cases hdisabled : row.disabled
  · rw [if_pos hdisabled] at hfailure ⊢
    exact ⟨⟨_, rfl⟩, hfailure⟩
  · rw [if_neg hdisabled] at hfailure ⊢
    rw [leads_bind, leads_get]
    dsimp only
    cases hgiven : (nonEmpty repo).or (nonEmpty session.flow.requestsRepo) with
    | some found =>
      rw [hgiven] at hfailure
      exact hbegins (some found) hfailure
    | none =>
      obtain ⟨found, hfound⟩ :=
        Page.param_of_wellFormed hfine.page "repo" (some session.defaultRepo)
      rw [hgiven, hfound] at hfailure
      dsimp only
      unfold param
      rw [leads_bind, leads_readPage]
      dsimp only
      rw [hfound]
      exact hbegins found hfailure

/-- The first stretch of an operation that meets a failure is the only one. -/
theorem returns_first (hfine : session.Fine) {operation : Operation}
    (hfailure : session.failureOf? task operation = some message) :
    Returns (first task operation) session fun flow => flow.error = some message := by
  cases operation with
  | restore =>
    obtain ⟨repo, hrepo, hload⟩ := Option.bind_eq_some_iff.mp hfailure
    exact returns_restore hfine hrepo hload
  | selectRepo repo => exact returns_selectRepo hfine hfailure
  | refresh =>
    obtain ⟨repo, hrepo, hload⟩ := Option.bind_eq_some_iff.mp hfailure
    exact returns_refresh hfine hrepo hload
  | list owner repo =>
    unfold Session.failureOf? at hfailure
    cases hpulls : session.hasPulls with
    | true =>
      rw [hpulls] at hfailure
      cases hfailure
    | false =>
      rw [hpulls] at hfailure
      obtain rfl := Option.some.inj hfailure
      exact returns_list hfine owner repo hpulls
  | compare row repo => exact returns_compare hfine hfailure

/-- The last stretch of a listing that has failed. -/
theorem returns_endListing (session : Session) {owner repo : String}
    {result : CallEnd (List ChangeRequest)}
    (hfailure : result.listingFailure? owner repo = some message) :
    Returns (endListing owner repo result) session fun flow => flow.error = some message := by
  cases result with
  | unavailable failure => exact ⟨⟨_, rfl⟩, hfailure⟩
  | outOfTime => exact ⟨⟨_, rfl⟩, hfailure⟩
  | answer requests => cases hfailure
  | crashed crash => cases hfailure

end Action

/-! ## Turns -/

namespace Session

variable {session : Session} {task : TaskId} {message : String} {shown : Flow → Prop}

def Returned (session : Session) (task : TaskId) (shown : Flow → Prop) : Prop :=
  (∃ value, session.tasks[task]? = some (.ended (.value value))) ∧ shown session.flow

/-- What a stretch shows is shown when its operation has returned. -/
theorem returned_follow {action : Action Turn} (h : Action.Returns action session shown)
    (hkeeps : Action.Keeps session action) (htask : task < session.tasks.length) :
    (session.follow task action).Returned task shown := by
  rcases follow_cases session task action with
    ⟨given, after, heq, hfollow⟩ | ⟨crash, after, heq, hfollow⟩ <;> rw [hfollow]
  · obtain ⟨⟨value, rfl⟩, hshown⟩ := h.ok heq
    exact ⟨⟨value, (hkeeps.ok heq).1.tasks_setTask htask _⟩, hshown⟩
  · exact (h.error heq).elim

/-- The turn of an operation that meets a failure is its last one, and the failure is shown.  Only that
of a load for a repository which is not the selected one is dropped. -/
theorem Sound.returned_taskTurn (h : session.Sound) (hfine : session.Fine)
    (hfailure : session.failure? task = some message) :
    (session.taskTurn task).Returned task fun flow =>
      flow.error = some message ∨ session.Stale task ∧ flow = session.flow := by
  unfold Session.failure? at hfailure
  unfold Session.taskTurn
  split at hfailure
  · next operation hs =>
    rw [hs]
    have hreturns := Action.returns_first hfine hfailure
    refine (returned_follow hreturns (Action.keeps_first h task operation) ?_).imp_right .inl
    exact (List.getElem?_eq_some_iff.mp hs).1
  · next waiting purpose hs =>
    rw [hs]
    obtain ⟨hfits, hpurpose⟩ := h.fits hs
    obtain ⟨hcache, hlater, hallows⟩ := h.cache.resume hfits task
    have hkeeps := Action.keeps_followLoad h hpurpose hcache hlater hallows
    have htask : task < session.tasks.length := (List.getElem?_eq_some_iff.mp hs).1
    -- another repository may have been selected while this one was loading for a choice
    cases purpose with
    | choice repo restoring =>
      obtain ⟨hexpected, hturn⟩ := hfine.cache.resume waiting task
      have hreturns := Action.returns_followChoice hfine repo restoring hexpected hturn hfailure
      obtain ⟨hvalue, hshown⟩ := returned_follow hreturns hkeeps htask
      refine ⟨hvalue, ?_⟩
      dsimp only at hshown ⊢
      by_cases hcurrent : session.flow.repo = some repo
      · rw [if_pos hcurrent] at hshown
        exact .inl hshown
      · rw [if_neg hcurrent] at hshown
        exact .inr ⟨⟨waiting, repo, restoring, hs, hcurrent⟩, hshown⟩
    | comparison row preset =>
      have hreturns := Action.returns_followComparison session row preset hfailure
      exact (returned_follow hreturns hkeeps htask).imp_right .inl
  · next call owner repo hs =>
    rw [hs]
    have htask : task < session.tasks.length := (List.getElem?_eq_some_iff.mp hs).1
    have hreturned : ∀ result : CallEnd (List ChangeRequest),
        result.listingFailure? owner repo = some message →
        (session.follow task (Action.endListing owner repo result)).Returned task fun flow =>
          flow.error = some message ∨ session.Stale task ∧ flow = session.flow :=
      fun result hresult => (returned_follow (Action.returns_endListing session hresult)
        (Action.keeps_endListing h owner repo result) htask).imp_right .inl
    dsimp only
    unfold Session.wakeListing
    rcases hwake : call.wake with ⟨moved, turns, ended⟩
    rw [hwake] at hfailure
    cases ended with
    | none => cases hfailure
    | some ended =>
      cases ended with
      | ended result => exact hreturned result hfailure
      | stopped why =>
        cases why with
        | timeLimit => exact hreturned .outOfTime hfailure
        | cancelled => cases hfailure
  · cases hfailure

/-- The turn of an operation that is in line. -/
theorem Sound.returned_turn (h : session.Sound) (hfine : session.Fine) {place : Nat}
    (hline : session.line[place]? = some (.cache (.caller task)))
    (hfailure : session.failure? task = some message) :
    (session.turn place).Returned task fun flow =>
      flow.error = some message ∨ session.Stale task ∧ flow = session.flow := by
  let out := { session with line := session.line.eraseIdx place }
  have hsound : out.Sound := by
    have htail := (h.takeOut hline).tail fun fetch => CacheSignal.callTurn?_caller fetch task
    exact (h.setCache htail (.refl _)).sound
  have hout : out.Fine := ⟨hfine.writable, hfine.page, hfine.cache, hfine.pulls, hfine.tasks⟩
  have hmet : out.failure? task = some message := hfailure
  have hreturned := hsound.returned_taskTurn hout hmet
  unfold Session.turn
  rw [hline]
  exact hreturned

/-! ## Runs -/

/-- An operation is broken off only where it trips: by a listing whose times cannot be compared, or by
a row without the name of a branch.  An operation that meets a failure returns, and the failure is
shown or was that of a stale load. -/
theorem failures_of_run {parts : Parts} {session : Session} (hmake : make parts = .ok session)
    {limit : Seconds} {ready : List (String × Reply)} (hcache : parts.cache = .fresh limit ready)
    (hready : (Remote.fresh ready : Remote BranchCall).Expected readBranches)
    (hpulls : parts.pulls.Expected readRequests) (hwritable : parts.document ≠ .directory)
    (hpage : Url.WellFormed parts.page.url) {events : List FlowEvent}
    (hevents : ∀ event ∈ events, event.Expected) :
    let now := session.after events
    (∀ task crash, now.tasks[task]? = some (.ended (.crashed crash)) →
      ∃ earlier place rest, events = earlier ++ .turn place :: rest ∧
        (session.after earlier).Trips task crash ∧
        ((session.after earlier).turn place).tasks[task]? = some (.ended (.crashed crash))) ∧
    ∀ place task message, now.line[place]? = some (.cache (.caller task)) →
      now.failure? task = some message →
      (now.turn place).Returned task fun flow =>
        flow.error = some message ∨ now.Stale task ∧ flow = now.flow := by
  intro now
  have hsound := (sound_of_make hmake hcache).1
  obtain ⟨hfine, htasks⟩ := fine_of_make hmake hcache hready hpulls hwritable hpage
  refine ⟨fun task crash hcrashed => ?_, fun place task message hline hfailure => ?_⟩
  · rcases hsound.crashed_after hfine hevents hcrashed with hfirst | htripped
    · rw [htasks] at hfirst
      cases hfirst
    · exact htripped
  · have hnow := (hsound.after events).sound
    exact hnow.returned_turn (hsound.fine_after hfine hevents) hline hfailure

theorem wellFormed_standard : Url.WellFormed standardParts.page.url :=
  ⟨⟨"", "", "/", "", ""⟩, by decide +kernel, fun _ h => absurd h (by decide)⟩

def failedFetch : List FlowEvent :=
  [.begin (.selectRepo "polkadot"), .turn 0, .turn 0, .turn 0,
    .answerFetch 0 (.unavailable ⟨"polkadot", "down"⟩)] ++ List.replicate 5 (.turn 0)

theorem failures_of_run_failedFetch : ∃ session, make standardParts = .ok session ∧
    ((session.after failedFetch).turn 0).Returned 0 fun flow =>
      flow.error = some "Failed to fetch polkadot: down" := by
  have hrun : ((make standardParts).toOption.any fun session =>
      let now := session.after failedFetch
      now.line[0]? = some (.cache (.caller 0)) ∧
        now.failure? 0 = some "Failed to fetch polkadot: down" ∧
        now.tasks[0]?.bind TaskState.choice? = some ("polkadot", false) ∧
        now.flow.repo = some "polkadot") = true := by decide +kernel
  cases hmake : make standardParts with
  | error missing =>
    rw [hmake] at hrun
    cases hrun
  | ok session =>
    simp only [hmake, Except.toOption, Option.any_some, decide_eq_true_eq] at hrun
    obtain ⟨hline, hfailure, hchoice, hrepo⟩ := hrun
    have hcache : standardParts.cache = .fresh (.whole 30) [] := rfl
    have hevents : ∀ event ∈ failedFetch, event.Expected := by
      simp [failedFetch, FlowEvent.Expected, CallEnd.Expected]
    obtain ⟨-, hreturns⟩ :=
      failures_of_run hmake hcache (Remote.expected_empty _) (Remote.expected_empty _) (by decide)
        wellFormed_standard hevents
    obtain ⟨hvalue, hshown⟩ := hreturns 0 0 _ hline hfailure
    refine ⟨session, rfl, hvalue, hshown.resolve_right ?_⟩
    rintro ⟨⟨waiting, repo, restoring, hs, hother⟩, -⟩
    rw [hs] at hchoice
    obtain ⟨rfl, -⟩ := Prod.mk.inj (Option.some.inj hchoice)
    exact hother hrepo

def listingParts : Parts := { standardParts with hasPulls := true }

/-- A change request that was updated at the beginning of 2024. -/
def newYear (number : Int) (offset : Option Int) : ChangeRequest where
  number := number
  title := "Benchmarks"
  body := ""
  author := "alice"
  headRef := "bench"
  baseRef := "master"
  headOwner := some "paritytech"
  baseOwner := "paritytech"
  updatedAt := ⟨2024, 1, 1, 0, 0, 0, 0, offset⟩
  url := none

/-- The service lists two change requests, one updated at a time in UTC and one at a time without a
distance from it. -/
def mixedListing : List FlowEvent :=
  [.begin (.list none none), .turn 0, .turn 0,
    .answerListing 0 (.answer [newYear 1 (some 0), newYear 2 none]), .turn 0, .turn 0, .turn 0]

def mixesTimes : TaskState → Bool
  | .ended (.crashed .mixedTimes) => true
  | _ => false

theorem eq_of_mixesTimes {state : TaskState} (h : mixesTimes state = true) :
    state = .ended (.crashed .mixedTimes) := by
  unfold mixesTimes at h
  split at h
  · rfl
  · cases h

/-- A listing may break off, though the store can be written, the page has a well-formed URL, and all
remotes answer as expected. -/
theorem crashed_mixedListing : ¬ ∀ (parts : Parts) (session : Session) (limit : Seconds)
    (events : List FlowEvent) (task : TaskId) (crash : Crash), make parts = .ok session →
    parts.cache = .fresh limit [] → parts.pulls = .fresh [] → parts.document ≠ .directory →
    Url.WellFormed parts.page.url → (∀ event ∈ events, event.Expected) →
    (session.after events).tasks[task]? ≠ some (.ended (.crashed crash)) := by
  intro hall
  have hrun : ((make listingParts).toOption.any fun session =>
      (session.after mixedListing).tasks[0]?.any mixesTimes) = true := by decide +kernel
  cases hmake : make listingParts with
  | error missing =>
    rw [hmake] at hrun
    cases hrun
  | ok session =>
    simp only [hmake, Except.toOption, Option.any_some] at hrun
    obtain ⟨state, hs, hmixes⟩ := (Option.any_eq_true _ _).mp hrun
    obtain rfl := eq_of_mixesTimes hmixes
    have hevents : ∀ event ∈ mixedListing, event.Expected := by
      simp [mixedListing, FlowEvent.Expected, CallEnd.Expected]
    exact hall listingParts session (.whole 30) mixedListing 0 .mixedTimes hmake rfl rfl
      (by decide) wellFormed_standard hevents hs

end Session

end BranchCompare
