import BranchCompare.Proofs.Workflow.Selections

/-!
# Turns of the choice by hand

An operation that selects, refreshes or restores a repository has a turn when it begins, and one each
time that a fetch has ended for which it waits.  By each of them it shows what has become of its load
(`Chose`), and so `Steady` is kept, unless the operation ends by a crash (`Steady.first`,
`Steady.next`).
-/

namespace BranchCompare

open BranchCache (FirstCome Serves)

namespace Session

/-- The repository that an operation selects when it begins. -/
def selects? (session : Session) : Operation → Option String
  | .selectRepo repo => some repo
  | .restore => session.restored?
  | _ => none

variable {session before middle after : Session} {chosen : Option String} {task : TaskId}
  {repo : String} {restoring : Bool}

/-! ## Turns of operations -/

/-- The session with the turn of an operation in front of the line. -/
def ahead (session : Session) (task : TaskId) : Session :=
  { session with line := .cache (.caller task) :: session.line }

/-- The operation has had its turn, by which the load for its choice has come to this. -/
structure Chose (before : Session) (task : TaskId) (repo : String) (restoring : Bool)
    (outcome : BranchCache × LoadTurn × List CacheSignal) (flow : Flow) (after : Session) :
    Prop where
  comes : ∃ given, Comes repo restoring flow outcome.2.1 given after.flow ∧
    after.tasks = before.tasks.set task given.state
  cache : after.cache = outcome.1
  cacheLine : after.cacheLine = before.cacheLine ++ outcome.2.2

theorem Chooses.chose {outcome : BranchCache × LoadTurn × List CacheSignal} {flow : Flow}
    {given : Turn}
    (h : { session with flow := flow }.Chooses repo restoring outcome given after)
    (task : TaskId) :
    session.Chose task repo restoring outcome flow (after.setTask task given.state) := by
  obtain ⟨shown, hcomes, hagrees⟩ := h
  have hflow : after.flow = shown := hagrees.flow
  refine ⟨⟨given, ?_, ?_⟩, hagrees.cache, ?_⟩
  · rw [← hflow] at hcomes
    exact hcomes
  · exact congrArg (List.set · task given.state) hagrees.tasks
  · have hline : (after.setTask task given.state).cacheLine =
        (session.line ++ outcome.2.2.map Signal.cache).filterMap Signal.cache? :=
      congrArg (List.filterMap Signal.cache?) hagrees.line
    rw [hline, cacheLine_append_cache]
    rfl

/-- The turn leaves the operation where its load stands. -/
theorem Comes.state {before shown : Flow} {turn : LoadTurn} {given : Turn}
    (h : Comes repo restoring before turn given shown) :
    given.state.caller = turn.standing ∧ given.state.isByHand = true := by
  cases turn with
  | waits waiting =>
    obtain ⟨rfl, -⟩ := h
    exact ⟨rfl, rfl⟩
  | ended result =>
    obtain ⟨⟨value, rfl⟩, -⟩ := h
    exact ⟨rfl, rfl⟩

theorem Awaits.caller {waiting : Waiting} (h : session.Awaits task waiting repo restoring) :
    session.callers[task]? = some (.waits waiting false) := by
  unfold Awaits at h
  rw [callers, List.getElem?_map, h]
  rfl

theorem Awaits.unique {waiting found : Waiting} {name : String} {kind : Bool}
    (h : session.Awaits task found name kind) (hw : session.Awaits task waiting repo restoring) :
    found = waiting ∧ name = repo ∧ kind = restoring := by
  unfold Awaits at h hw
  rw [h] at hw
  obtain ⟨rfl, hpurpose, -⟩ := TaskState.loading.inj (Option.some.inj hw)
  exact ⟨rfl, Purpose.choice.inj hpurpose⟩

section Chose

variable {outcome : BranchCache × LoadTurn × List CacheSignal} {flow : Flow} {forced : Bool}

/-- The operation comes to stand where its load stands, and no other moves. -/
theorem Chose.callers (h : session.Chose task repo restoring outcome flow after) :
    after.callers = session.callers.set task outcome.2.1.standing := by
  obtain ⟨given, hcomes, htasks⟩ := h.comes
  rw [Session.callers, htasks, List.map_set, hcomes.state.1, Session.callers]

theorem Chose.awaits (h : session.Chose task repo restoring outcome flow after)
    (hlt : task < session.tasks.length) {waiting : Waiting} (hturn : outcome.2.1 = .waits waiting) :
    after.Awaits task waiting repo restoring ∧ after.flow = flow := by
  obtain ⟨given, hcomes, htasks⟩ := h.comes
  rw [hturn] at hcomes
  obtain ⟨rfl, hflow⟩ := hcomes
  refine ⟨?_, hflow⟩
  unfold Awaits
  rw [htasks, List.getElem?_set_self hlt]
  rfl

/-- When the load has ended, its end is shown. -/
theorem Chose.concludes (h : session.Chose task repo restoring outcome flow after)
    {result : LoadEnd} (hturn : outcome.2.1 = .ended result) :
    flow.Concludes repo result after.flow := by
  obtain ⟨given, hcomes, -⟩ := h.comes
  rw [hturn] at hcomes
  exact hcomes.2

/-- The other operations go on waiting. -/
theorem Chose.others (h : session.Chose task repo restoring outcome flow after) {other : TaskId}
    (hne : other ≠ task) {waiting : Waiting} {name : String} {kind : Bool}
    (hw : session.Awaits other waiting name kind) : after.Awaits other waiting name kind := by
  obtain ⟨given, -, htasks⟩ := h.comes
  unfold Awaits
  rw [htasks, List.getElem?_set_ne (Ne.symm hne)]
  exact hw

/-- The load changes no entry of the cache. -/
theorem Chose.get? (h : session.Chose task repo restoring outcome flow after)
    (hserves : session.cache.Serves repo forced outcome) (name : String) :
    after.cache.get? name = session.cache.get? name := by
  rw [BranchCache.get?, h.cache, hserves.entries, BranchCache.get?]

theorem Chose.byHand (h : session.Chose task repo restoring outcome flow after)
    (hbyHand : ∀ state ∈ session.tasks, state.isByHand = true) :
    ∀ state ∈ after.tasks, state.isByHand = true := by
  intro state hmem
  obtain ⟨given, hcomes, htasks⟩ := h.comes
  rw [htasks] at hmem
  rcases List.mem_or_eq_of_mem_set hmem with hold | rfl
  · exact hbyHand state hold
  · exact hcomes.state.2

theorem Steady.front (h : (session.ahead task).Steady chosen) :
    FirstCome session.cache session.callers (.caller task :: session.cacheLine) := h.firstCome

/-- An operation whose turn is the next one has waited for a fetch that has ended. -/
theorem Steady.ended_of_turn (h : (session.ahead task).Steady chosen) {waiting : Waiting}
    (hw : session.Awaits task waiting repo restoring) :
    (session.cache.resultOf waiting.fetch).isSome = true :=
  (h.front.attends task).turn.2 waiting hw.caller

/-- After the turn every operation that waits was started for the repository that is selected. -/
theorem Steady.started_of_chose (h : (session.ahead task).Steady chosen)
    (hchose : session.Chose task repo restoring outcome flow after)
    (hserves : session.cache.Serves repo forced outcome) (hlt : task < session.tasks.length) :
    after.Started := by
  intro fetch name hopen
  rw [hchose.cache] at hopen
  rcases hserves.outcomes hopen with hold | ⟨rfl, -, hturn, -⟩
  · -- the operation itself has its turn because its fetch has ended
    obtain ⟨other, waiting, kind, hw, rfl, hsettles⟩ := h.started _ _ hold
    have hne : other ≠ task := by
      rintro rfl
      have hended := h.ended_of_turn hw
      rw [BranchCache.isSome_resultOf_iff hold] at hended
      cases hended
    exact ⟨other, waiting, kind, hchose.others hne hw, rfl, hsettles⟩
  · exact ⟨task, _, restoring, (hchose.awaits hlt hturn).1, rfl, rfl⟩

/-- The end of a load leaves the selection alone. -/
theorem concludes_repo {before shown : Flow} {result : LoadEnd}
    (h : before.Concludes repo result shown) : shown.repo = before.repo := by
  unfold Flow.Concludes at h
  split at h
  · cases result with
    | ok branches =>
      obtain ⟨first, second, rfl⟩ := h
      rfl
    | error error =>
      cases error with
      | unavailable failure => rw [h]
      | crashed crash => exact h.elim
  · rw [h]

/-- The end of a load of the selected repository is shown, and nothing is to be shown after it. -/
theorem shows_of_concludes (hcurrent : flow.repo = some repo) {result : LoadEnd}
    (hconcludes : flow.Concludes repo result after.flow)
    (hfresh : ∀ branches, result = .ok branches → after.cache.get? repo = some branches) :
    after.Shows := by
  unfold Flow.Concludes at hconcludes
  rw [if_pos hcurrent] at hconcludes
  cases result with
  | ok branches =>
    obtain ⟨first, second, heq⟩ := hconcludes
    constructor <;> rw [heq]
    · nofun
    · nofun
    · nofun
    · exact fun _ => ⟨repo, hcurrent, .inl (hfresh branches rfl)⟩
  | error error =>
    cases error with
    | crashed crash => exact hconcludes.elim
    | unavailable failure =>
      constructor <;> rw [hconcludes]
      · nofun
      · exact fun _ => rfl
      · nofun
      · rintro (hstage | hstage) <;> cases hstage

/-- A load for the choice begins, which is shown. -/
theorem Steady.loaded (h : (session.ahead task).Steady chosen) (hlt : task < session.tasks.length)
    (hchose : session.Chose task repo restoring (session.cache.load repo forced task) flow after)
    (hstage : flow.stage = .branchesLoading) (hcurrent : flow.repo = some repo)
    (hsound : after.Sound) (hremembered : after.remembered = some repo) :
    after.Steady (some repo) := by
  have hcaller : task < session.callers.length := by rwa [callers, List.length_map]
  obtain ⟨hfirst, hserves⟩ := h.front.load repo forced hcaller
  rw [← hchose.callers, ← hchose.cache, ← hchose.cacheLine] at hfirst
  have hshows : after.Shows ∧ after.flow.repo = some repo := by
    cases hturn : (session.cache.load repo forced task).2.1 with
    | waits waiting =>
      obtain ⟨hawaits, hflow⟩ := hchose.awaits hlt hturn
      rw [hflow]
      refine ⟨⟨?_, ?_, ?_, ?_⟩, hcurrent⟩ <;> rw [hflow, hstage]
      · nofun
      · nofun
      · exact fun _ => ⟨task, waiting, repo, restoring, hawaits, hcurrent⟩
      · rintro (hready | hready) <;> cases hready
    | ended result =>
      have hconcludes := hchose.concludes hturn
      refine ⟨shows_of_concludes hcurrent hconcludes fun branches heq => ?_,
        (concludes_repo hconcludes).trans hcurrent⟩
      rw [hchose.get? hserves]
      exact hserves.fresh (heq ▸ hturn)
  refine ⟨hsound, hfirst, hchose.byHand h.byHand, h.started_of_chose hchose hserves hlt, hshows.2,
    fun heq => ?_, hshows.1⟩
  obtain rfl := Option.some.inj heq
  exact hremembered

/-- Nothing new is shown.  If the load of the operation is the one that is to be shown, then it goes
on and has not come to an end that settles it. -/
theorem Chose.shows (h : session.Chose task repo restoring outcome flow after)
    (hserves : session.cache.Serves repo forced outcome) (hlater : session.cache.Later outcome.1)
    (hshows : session.Shows) {waiting : Waiting}
    (hw : session.Awaits task waiting repo restoring) (hflow : after.flow = session.flow)
    (hcurrent : session.flow.repo = some repo →
      waiting.settles = false ∧ ∃ new, after.Awaits task new repo restoring) : after.Shows := by
  have hshown : after.shown = session.shown := by
    rw [shown, hflow, shown]
  refine hshows.mono hshown (fun {other found name kind} hrepo hother => ?_)
    fun {name} hrepo hready => ?_
  · by_cases heq : other = task
    · subst heq
      obtain ⟨-, rfl, rfl⟩ := hother.unique hw
      exact (hcurrent hrepo).2
    · exact ⟨found, h.others heq hother⟩
  · rcases hready with hentry | ⟨other, found, kind, branches, hother, hsettles, hended⟩
    · exact .inl ((h.get? hserves name).trans hentry)
    · -- what is pending settles a load, so it is not this one
      have hne : other ≠ task := by
        rintro rfl
        obtain ⟨rfl, rfl, -⟩ := hother.unique hw
        rw [(hcurrent hrepo).1] at hsettles
        cases hsettles
      refine .inr ⟨other, found, kind, branches, h.others hne hother, hsettles, ?_⟩
      rw [h.cache]
      exact hlater.resultOf hended

/-- A load for the choice goes on. -/
theorem Steady.resumed (h : (session.ahead task).Steady chosen) {waiting : Waiting}
    (hw : session.Awaits task waiting repo restoring) (hname : waiting.repo = repo)
    (hchose : session.Chose task repo restoring (session.cache.resume waiting task) session.flow
      after)
    (hsound : after.Sound) (hremembered : after.remembered = session.remembered) :
    after.Steady chosen := by
  have hlt : task < session.tasks.length := (List.getElem?_eq_some_iff.mp hw).1
  obtain ⟨hfirst, hserves, hended⟩ := h.front.resume hw.caller
  obtain ⟨-, hlater, -⟩ := h.front.tail.resume (h.front.fits hw.caller) task
  rw [hname] at hserves
  rw [← hchose.callers, ← hchose.cache, ← hchose.cacheLine] at hfirst
  have hshown : session.Shows :=
    ⟨h.shows.idle, h.shows.selected, h.shows.loading, h.shows.ready⟩
  have hshows : after.Shows ∧ after.flow.repo = session.flow.repo := by
    cases hturn : (session.cache.resume waiting task).2.1 with
    | waits new =>
      obtain ⟨hawaits, hflow⟩ := hchose.awaits hlt hturn
      have hroom := BranchCache.resume_waits hended hturn
      exact ⟨hchose.shows hserves hlater hshown hw hflow fun _ => ⟨hroom, new, hawaits⟩,
        congrArg Flow.repo hflow⟩
    | ended result =>
      have hconcludes := hchose.concludes hturn
      refine ⟨?_, concludes_repo hconcludes⟩
      -- the end of a load of another repository is dropped
      by_cases hcurrent : session.flow.repo = some repo
      · refine shows_of_concludes hcurrent hconcludes fun branches heq => ?_
        rw [hchose.get? hserves]
        exact hserves.fresh (heq ▸ hturn)
      · unfold Flow.Concludes at hconcludes
        rw [if_neg hcurrent] at hconcludes
        exact hchose.shows hserves hlater hshown hw hconcludes fun hrepo => absurd hrepo hcurrent
  exact ⟨hsound, hfirst, hchose.byHand h.byHand, h.started_of_chose hchose hserves hlt,
    hshows.2.trans h.repo, fun hchosen => hremembered.trans (h.remembered hchosen), hshows.1⟩

end Chose

/-! ## A turn of an operation -/

def Crashed (session : Session) : Prop :=
  ∃ (task : TaskId) (crash : Crash), session.tasks[task]? = some (.ended (.crashed crash))

theorem Steady.behind (h : (session.ahead task).Steady chosen) : session.Sound :=
  (h.sound.setCache h.front.tail (.refl _)).sound

/-- The operation returns without a load. -/
theorem Steady.left (h : (session.ahead task).Steady chosen) {operation : Operation}
    (hs : session.tasks[task]? = some (.begins operation)) (hagrees : session.Agrees middle)
    (hremembered : middle.remembered = session.remembered) {value : OperationValue}
    (hafter : after = middle.setTask task (.ended (.value value))) (hsound : after.Sound) :
    after.Steady chosen := by
  have htasks : after.tasks = session.tasks.set task (.ended (.value value)) := by
    rw [hafter, setTask, hagrees.tasks]
  have hcache : after.cache = session.cache := by
    rw [hafter]
    exact hagrees.cache
  have hflow : after.flow = session.flow := by
    rw [hafter]
    exact hagrees.flow
  have hline : after.cacheLine = session.cacheLine := by
    rw [hafter]
    exact congrArg (List.filterMap Signal.cache?) hagrees.line
  have hsame : after.remembered = session.remembered := by
    rw [hafter]
    exact hremembered
  have hwaiting : KeepsWaiting (session.ahead task) after := by
    refine ⟨fun {other waiting name kind} hw => ?_⟩
    have hne : other ≠ task := by
      rintro rfl
      cases hs.symm.trans hw
    unfold Awaits
    rw [htasks, List.getElem?_set_ne (Ne.symm hne)]
    exact hw
  have hlater : (session.ahead task).cache.Later after.cache := by
    rw [hcache]
    exact .refl _
  have hshown : after.shown = (session.ahead task).shown := by
    rw [shown, hflow]
    rfl
  refine ⟨hsound, ?_, fun state hmem => ?_, h.started.mono hwaiting ?_,
    (congrArg Flow.repo hflow).trans h.repo, fun hchosen => hsame.trans (h.remembered hchosen),
    h.shows.mono hshown (fun _ hw => ⟨_, hwaiting.awaits hw⟩) fun _ hready => ?_⟩
  · have hleft := h.front.leave
    rw [hcache, hline, callers, htasks, List.map_set]
    exact hleft
  · rw [htasks] at hmem
    rcases List.mem_or_eq_of_mem_set hmem with hold | rfl
    · exact h.byHand state hold
    · rfl
  · rw [hcache]
    exact id
  · refine hready.imp (fun hentry => ?_) (·.mono hwaiting hlater)
    rw [hcache]
    exact hentry

/-- A stretch of an operation has come to something, or the operation has ended by a crash. -/
theorem follow_or_crashed {action : Action Turn} {old : TaskState}
    (hs : session.tasks[task]? = some old) (hkeeps : Action.Keeps session action) :
    (∃ given after, action session = .ok given after ∧
      session.follow task action = after.setTask task given.state) ∨
    (session.follow task action).Crashed := by
  rcases follow_cases session task action with hok | ⟨crash, after, heq, hfollow⟩
  · exact .inl hok
  · refine .inr ⟨task, crash, ?_⟩
    have hgoes : session.Goes after [] := hkeeps.error heq
    rw [hfollow]
    exact hgoes.tasks_setTask (List.getElem?_eq_some_iff.mp hs).1 _

/-- An operation begins. -/
theorem Steady.first (h : (session.ahead task).Steady chosen) {operation : Operation}
    (hs : session.tasks[task]? = some (.begins operation)) (hoperation : operation.isByHand = true)
    (hsound : (session.follow task (Action.first task operation)).Sound) :
    (session.follow task (Action.first task operation)).Steady
      ((session.selects? operation).or chosen) ∨
    (session.follow task (Action.first task operation)).Crashed := by
  have hlt : task < session.tasks.length := (List.getElem?_eq_some_iff.mp hs).1
  rcases follow_or_crashed hs (Action.keeps_first h.behind task operation) with
    ⟨given, after, heq, hfollow⟩ | hcrashed
  · refine .inl ?_
    rw [hfollow] at hsound ⊢
    cases operation with
    | selectRepo repo =>
      obtain ⟨hchooses, hremembered⟩ := ((Action.leads_selectRepo session task repo false).and
        (Action.remembered_selectRepo session task repo false)).ok heq
      exact h.loaded hlt (hchooses.chose task) rfl rfl hsound hremembered
    | refresh =>
      have hsame : after.remembered = session.remembered :=
        (Action.remembered_refresh task session).ok heq
      rcases (Action.leads_refresh session task).ok heq with
        ⟨repo, hrepo, hchooses⟩ | ⟨⟨value, rfl⟩, rfl⟩
      · obtain ⟨hcurrent, -⟩ := Action.mem_of_nonEmpty hrepo
        obtain rfl : chosen = some repo := h.repo.symm.trans hcurrent
        exact h.loaded hlt (hchooses.chose task) rfl hcurrent hsound
          (hsame.trans (h.remembered rfl))
      · exact h.left hs (.refl _) rfl rfl hsound
    | restore =>
      rcases (Action.leads_restore session task).ok heq with
        ⟨repo, hrestored, hremembered, hchooses⟩ | ⟨hnone, ⟨value, rfl⟩, hagrees, hsame⟩
      · rw [selects?, hrestored]
        exact h.loaded hlt (hchooses.chose task) rfl rfl hsound hremembered
      · rw [selects?, hnone]
        exact h.left hs hagrees hsame rfl hsound
    | list | compare => cases hoperation
  · exact .inr hcrashed

/-- An operation goes on that waits for branches to choose among. -/
theorem Steady.next (h : (session.ahead task).Steady chosen) {waiting : Waiting}
    (hw : session.Awaits task waiting repo restoring)
    (hsound : (session.follow task (Action.followLoad (.choice repo restoring)
      (session.cache.resume waiting task))).Sound) :
    (session.follow task (Action.followLoad (.choice repo restoring)
      (session.cache.resume waiting task))).Steady chosen ∨
    (session.follow task (Action.followLoad (.choice repo restoring)
      (session.cache.resume waiting task))).Crashed := by
  obtain ⟨hfits, hname⟩ := h.behind.fits hw
  obtain ⟨hcache, hlater, hallows⟩ := h.behind.cache.resume hfits task
  have hkeeps := Action.keeps_followLoad h.behind hname hcache hlater hallows
  rcases follow_or_crashed hw hkeeps with ⟨given, after, heq, hfollow⟩ | hcrashed
  · refine .inl ?_
    rw [hfollow] at hsound ⊢
    have hchooses := (Action.leads_followChoice session repo restoring _).ok heq
    have hsame : after.remembered = session.remembered :=
      (Action.remembered_followChoice repo restoring _ session).ok heq
    exact h.resumed hw hname.symm (hchooses.chose task) hsound hsame
  · exact .inr hcrashed

end Session

end BranchCompare
