import BranchCompare.Proofs.BranchCache.InOrder
import BranchCompare.Proofs.Workflow.Launching

/-!
# What is shown while repositories are selected

`Steady` gathers what holds at all times while repositories are selected and refreshed by hand,
branches are picked and comparisons launched.  Its heart is `Shows`: as long as branches are shown as
loading, an operation waits for those of the selected repository; and the branches that are shown as
ready are the entry of the repository, or an operation is still to show a newer list.

Everything keeps this that is no turn of an operation: what comes from outside for the cache,
operations that are put in line, and actions that do not wait.
-/

namespace BranchCompare

open BranchCache (FirstCome Proceeds)

/-- Where an operation stands as a caller of the branch cache. -/
def TaskState.caller : TaskState → CallerState
  | .begins _ => .begins "" false
  | .loading waiting _ cancelled => .waits waiting cancelled
  | .listing _ _ _ | .ended _ => .cancelled

/-- The operation belongs to the choice by hand and was not cancelled. -/
def TaskState.isByHand : TaskState → Bool
  | .begins operation => operation.isByHand
  | .loading _ (.choice _ _) false => true
  | .ended _ => true
  | _ => false

namespace Session

def callers (session : Session) : List CallerState := session.tasks.map TaskState.caller

/-- The operation waits for branches to choose among. -/
def Awaits (session : Session) (task : TaskId) (waiting : Waiting) (repo : String)
    (restoring : Bool) : Prop :=
  session.tasks[task]? = some (.loading waiting (.choice repo restoring) false)

/-- A list has come in that an operation is still to show for the repository. -/
def Pending (session : Session) (repo : String) : Prop :=
  ∃ task waiting restoring branches, session.Awaits task waiting repo restoring ∧
    waiting.settles = true ∧ session.cache.resultOf waiting.fetch = some (.ok branches)

/-- What is shown goes with what is under way. -/
structure Shows (session : Session) : Prop where
  idle : session.flow.stage = .idle → session.flow.repo = none
  selected : session.flow.stage = .repoSelected → session.flow.error.isSome = true
  loading : session.flow.stage = .branchesLoading → ∃ task waiting repo restoring,
    session.Awaits task waiting repo restoring ∧ session.flow.repo = some repo
  ready : session.flow.stage = .branchesReady ∨ session.flow.stage = .launching →
    ∃ repo, session.flow.repo = some repo ∧
      (session.cache.get? repo = some session.flow.branches ∨ session.Pending repo)

/-- A fetch that has not ended is one whose list an operation will show. -/
def Started (session : Session) : Prop :=
  ∀ (fetch : Nat) (repo : String), session.cache.outcomes[fetch]? = some (repo, none) →
    ∃ task waiting restoring, session.Awaits task waiting repo restoring ∧
      waiting.fetch = fetch ∧ waiting.settles = true

/-- What holds at all times while repositories are chosen by hand, the last one of which was this. -/
structure Steady (session : Session) (chosen : Option String) : Prop where
  sound : session.Sound
  firstCome : FirstCome session.cache session.callers session.cacheLine
  byHand : ∀ state ∈ session.tasks, state.isByHand = true
  started : session.Started
  repo : session.flow.repo = chosen
  remembered : ∀ {repo : String}, chosen = some repo → session.remembered = some repo
  shows : session.Shows

variable {session before middle after : Session} {chosen : Option String} {task : TaskId}
  {repo : String} {restoring : Bool}

/-- An operation of the choice by hand is to begin, waits for branches or has ended. -/
theorem isByHand_cases {state : TaskState} (h : state.isByHand = true) :
    (∃ operation, state = .begins operation ∧ operation.isByHand = true) ∨
    (∃ waiting repo restoring, state = .loading waiting (.choice repo restoring) false) ∨
    ∃ result, state = .ended result := by
  unfold TaskState.isByHand at h
  split at h
  · exact .inl ⟨_, rfl, h⟩
  · exact .inr (.inl ⟨_, _, _, rfl⟩)
  · exact .inr (.inr ⟨_, rfl⟩)
  · cases h

/-! ## What goes on -/

/-- The operations that wait for branches to choose among go on waiting. -/
structure KeepsWaiting (before after : Session) : Prop where
  awaits : ∀ {task : TaskId} {waiting : Waiting} {repo : String} {restoring : Bool},
    before.Awaits task waiting repo restoring → after.Awaits task waiting repo restoring

theorem Started.mono (h : session.Started) (hwaiting : KeepsWaiting session after)
    (hopen : ∀ {fetch : Nat} {repo : String}, after.cache.outcomes[fetch]? = some (repo, none) →
      session.cache.outcomes[fetch]? = some (repo, none)) : after.Started := by
  intro fetch repo hnone
  obtain ⟨task, waiting, restoring, hw, hfetch, hsettles⟩ := h _ _ (hopen hnone)
  exact ⟨task, waiting, restoring, hwaiting.awaits hw, hfetch, hsettles⟩

theorem Pending.mono (h : session.Pending repo) (hwaiting : KeepsWaiting session after)
    (hlater : session.cache.Later after.cache) : after.Pending repo := by
  obtain ⟨task, waiting, restoring, branches, hw, hsettles, hended⟩ := h
  exact ⟨task, waiting, restoring, branches, hwaiting.awaits hw, hsettles,
    hlater.resultOf hended⟩

/-- What is shown stays, and goes with what is under way for the selected repository. -/
theorem Shows.mono (h : session.Shows) (hshown : after.shown = session.shown)
    (hloading : ∀ {task : TaskId} {waiting : Waiting} {repo : String} {restoring : Bool},
      session.flow.repo = some repo → session.Awaits task waiting repo restoring →
      ∃ new, after.Awaits task new repo restoring)
    (hready : ∀ {repo : String}, session.flow.repo = some repo →
      session.cache.get? repo = some session.flow.branches ∨ session.Pending repo →
      after.cache.get? repo = some session.flow.branches ∨ after.Pending repo) :
    after.Shows := by
  simp only [shown, Prod.mk.injEq] at hshown
  obtain ⟨hstage, hrepo, hbranches, herror⟩ := hshown
  constructor <;> rw [hstage]
  · rw [hrepo]
    exact h.idle
  · rw [herror]
    exact h.selected
  · intro hstage
    obtain ⟨task, waiting, repo, restoring, hw, hcurrent⟩ := h.loading hstage
    obtain ⟨new, hnew⟩ := hloading hcurrent hw
    exact ⟨task, new, repo, restoring, hnew, hrepo.trans hcurrent⟩
  · intro hstage
    obtain ⟨repo, hcurrent, hentry⟩ := h.ready hstage
    rw [hbranches]
    exact ⟨repo, hrepo.trans hcurrent, hready hcurrent hentry⟩

/-! ## Events that only the cache answers to -/

/-- The cache goes on, and nothing changes of what is shown apart from the picks. -/
theorem Steady.goesOn (h : session.Steady chosen) (hsound : after.Sound)
    (hfirst : FirstCome after.cache after.callers after.cacheLine)
    (htasks : after.tasks = session.tasks) (hshown : after.shown = session.shown)
    (hremembered : after.remembered = session.remembered)
    (hlater : session.cache.Later after.cache) {signals : List CacheSignal}
    (hproceeds : Proceeds session.cache after.cache signals)
    (hlength : after.cache.fetches.length = session.cache.fetches.length) :
    after.Steady chosen := by
  have hrepo : after.flow.repo = session.flow.repo := congrArg (fun part => part.2.1) hshown
  have hwaiting : KeepsWaiting session after := by
    refine ⟨fun hw => ?_⟩
    unfold Awaits
    rwa [htasks]
  have hopen : ∀ {fetch : Nat} {repo : String},
      after.cache.outcomes[fetch]? = some (repo, none) →
      session.cache.outcomes[fetch]? = some (repo, none) := by
    intro fetch repo hnone
    obtain ⟨old, hold⟩ := hlater.known hlength hnone
    cases old with
    | none => exact hold
    | some result =>
      rw [hproceeds.ended hold] at hnone
      cases hnone
  refine ⟨hsound, hfirst, ?_, h.started.mono hwaiting hopen, hrepo.trans h.repo,
    fun hchosen => hremembered.trans (h.remembered hchosen),
    h.shows.mono hshown (fun _ hw => ⟨_, hwaiting.awaits hw⟩) fun {repo} _ hready => ?_⟩
  · rw [htasks]
    exact h.byHand
  · rcases hready with hentry | hpending
    · rcases hproceeds.entry_cases h.firstCome.kept repo with
        hsame | ⟨fetch, branches, hnone, hended, -, -⟩
      · exact .inl (hsame.trans hentry)
      · -- the entry changes by a fetch that was under way, for which an operation waits
        obtain ⟨old, hold⟩ := hlater.known hlength hended
        rw [BranchCache.resultOf_eq, hold, Option.bind_some] at hnone
        dsimp only at hnone
        subst hnone
        obtain ⟨task, waiting, restoring, hw, rfl, hsettles⟩ := h.started _ _ hold
        refine .inr ⟨task, waiting, restoring, branches, hwaiting.awaits hw, hsettles, ?_⟩
        rw [BranchCache.resultOf_eq, hended, Option.bind_some]
    · exact .inr (hpending.mono hwaiting hlater)

/-- Nothing changes apart from the picks. -/
theorem Steady.same (h : session.Steady chosen) (hsound : after.Sound)
    (hwork : after.work = session.work) (hshown : after.shown = session.shown) :
    after.Steady chosen := by
  simp only [work, Prod.mk.injEq] at hwork
  obtain ⟨hcache, htasks, hline, hremembered⟩ := hwork
  have hproceeds : Proceeds session.cache after.cache [] := by
    rw [hcache]
    exact .refl _ _
  refine h.goesOn hsound ?_ htasks hshown hremembered ?_ hproceeds (by rw [hcache])
  · unfold callers cacheLine
    rw [hcache, htasks, hline]
    exact h.firstCome
  · rw [hcache]
    exact .refl _

/-- The cache does something for others than callers. -/
theorem Steady.withCache (h : session.Steady chosen) {line : List Signal}
    {outcome : BranchCache × List CacheSignal}
    (hsound : ({ session with line := line }.withCache outcome).Sound)
    (hfirst : FirstCome outcome.1 session.callers (line.filterMap Signal.cache? ++ outcome.2))
    (hlater : session.cache.Later outcome.1)
    (hproceeds : Proceeds session.cache outcome.1 outcome.2)
    (hlength : outcome.1.fetches.length = session.cache.fetches.length) :
    ({ session with line := line }.withCache outcome).Steady chosen := by
  refine h.goesOn hsound ?_ rfl rfl rfl hlater hproceeds hlength
  have hline : ({ session with line := line }.withCache outcome).cacheLine =
      line.filterMap Signal.cache? ++ outcome.2 := cacheLine_append_cache ..
  rw [hline]
  exact hfirst

theorem Steady.expire (h : session.Steady chosen) (owner : DeadlineOwner) :
    (session.expire owner).Steady chosen := by
  have hsound := (h.sound.expire owner).moves.sound
  unfold Session.expire at hsound ⊢
  cases owner with
  | fetch fetch =>
    have hfirst := h.firstCome.expire fetch
    have hlater := (h.sound.cache.expire fetch).2
    have hproceeds := BranchCache.proceeds_expire session.cache fetch
    exact h.withCache hsound hfirst hlater hproceeds (BranchCache.length_expire ..)
  | task task =>
    dsimp only at hsound ⊢
    split
    · next call owner repo hs =>
      have hbyHand := h.byHand _ (List.mem_of_getElem? hs)
      cases hbyHand
    · exact h

theorem Steady.expireAll (h : session.Steady chosen) (owners : List DeadlineOwner) :
    (owners.foldl Session.expire session).Steady chosen := by
  induction owners generalizing session with
  | nil => exact h
  | cons owner owners ih => exact ih (h.expire owner)

theorem Steady.setTimeline (h : session.Steady chosen) (timeline : Timeline DeadlineOwner) :
    Steady { session with timeline := timeline } chosen :=
  h.same (h.sound.alike ⟨rfl, rfl, rfl, rfl, rfl, rfl, rfl⟩) rfl rfl

theorem Steady.answerFetch (h : session.Steady chosen) (fetch : FetchId)
    (result : CallEnd (List Branch)) : (session.answerFetch fetch result).Steady chosen := by
  have hmoves := h.sound.cache.answer fetch result
  have hfirst := h.firstCome.answer fetch result
  have hproceeds := BranchCache.proceeds_answer session.cache fetch result
  exact h.withCache (h.sound.cacheMoves hmoves).moves.sound hfirst hmoves.2 hproceeds
    (BranchCache.length_answer ..)

theorem Steady.advance (h : session.Steady chosen) (span : Seconds) :
    (session.advance span).Steady chosen :=
  (h.setTimeline (session.timeline.advance span).1).expireAll _

theorem Steady.setReadyBranches (h : session.Steady chosen) (key : String) (reply : Option Reply) :
    (session.setReadyBranches key reply).Steady chosen := by
  have hfirst := h.firstCome.server (session.cache.server.setReady key reply)
  have hproceeds : Proceeds session.cache (session.setReadyBranches key reply).cache [] :=
    .rest [] rfl rfl rfl
  exact h.goesOn (h.sound.setReadyBranches key reply).moves.sound hfirst rfl rfl rfl
    ⟨fun hf => ⟨_, hf, .refl _⟩, .inl⟩ hproceeds rfl

/-! ## Operations that begin -/

theorem Steady.begin (h : session.Steady chosen) {operation : Operation}
    (hoperation : operation.isByHand = true) : (session.begin operation).Steady chosen := by
  have hwaiting : KeepsWaiting session (session.begin operation) := by
    refine ⟨fun hw => ?_⟩
    unfold Awaits Session.begin
    rw [List.getElem?_append_left (List.getElem?_eq_some_iff.mp hw).1]
    exact hw
  have hshows : (session.begin operation).Shows :=
    h.shows.mono rfl (fun _ hw => ⟨_, hwaiting.awaits hw⟩) fun _ hready =>
      hready.imp_right (·.mono hwaiting (.refl _))
  refine ⟨(h.sound.begin operation).sound, ?_, fun state hmem => ?_,
    h.started.mono hwaiting id, h.repo, h.remembered, hshows⟩
  · have hbegin := h.firstCome.begin "" false
    have hcallers : (session.begin operation).callers = session.callers ++ [.begins "" false] :=
      List.map_append ..
    have hlength : session.callers.length = session.tasks.length := List.length_map ..
    rw [hlength] at hbegin
    rw [cacheLine_begin, hcallers]
    exact hbegin
  · rcases List.mem_append.mp hmem with hold | hnew
    · exact h.byHand state hold
    · rw [List.mem_singleton.mp hnew]
      exact hoperation

/-! ## Actions that do not wait -/

/-- The action keeps what holds of the session, however it ends. -/
def Holds {α : Type} (chosen : Option String) (session : Session) (action : Action α) : Prop :=
  Action.Leads action session (fun _ after => after.Steady chosen) fun _ after =>
    after.Steady chosen

section Holds

variable {α β : Type} {action : Action α}

theorem Holds.bind (h : Holds chosen session action) {next : α → Action β}
    (hnext : ∀ value after, after.Steady chosen → Holds chosen after (next value)) :
    Holds chosen session (action >>= next) := by
  unfold Holds
  rw [Action.leads_bind]
  exact Action.Leads.mono h (fun value after hafter => hnext value after hafter)
    fun _ _ hcrash => hcrash

theorem Holds.run (h : Holds chosen session action) :
    (session.run action).1.Steady chosen := by
  unfold Holds Action.Leads at h
  unfold Session.run
  cases hresult : action session <;> rw [hresult] at h <;> exact h

/-- A stretch keeps a session steady that leaves work and list alone. -/
theorem Steady.holds_same (h : session.Steady chosen) (hstays : Action.Stays session action)
    (hleaves : Action.Leaves (fun session => (session.work, session.shown)) action) :
    Holds chosen session action := by
  have hboth := Action.Leads.and hstays (hleaves session)
  have hsteady : ∀ after : Session, session.Goes after [] ∧
      (after.work, after.shown) = (session.work, session.shown) → after.Steady chosen := by
    intro after hafter
    obtain ⟨hwork, hshown⟩ := Prod.mk.inj hafter.2
    exact h.same hafter.1.sound hwork hshown
  exact hboth.mono (fun _ => hsteady) fun _ => hsteady

theorem Steady.pick (h : session.Steady chosen) (side : Action.Side) (name : Option String) :
    Holds chosen session (Action.pick side name) :=
  h.holds_same (Action.stays_pick h.sound side name) (Action.leaves_pick side name)

/-- A listener picks a branch or begins the selection of a repository at most. -/
theorem Steady.tell (h : session.Steady chosen) (value : Json) {listener : FlowListener}
    (hlistener : ∀ name, listener ≠ .redirect name) :
    Holds chosen session (Action.tell value listener) := by
  rcases Action.tell_cases value hlistener with heq | ⟨side, name, heq⟩ | ⟨repo, heq⟩ <;> rw [heq]
  · exact h
  · have hpick : Holds chosen session (Action.pick side name >>= fun _ => pure ()) :=
      (h.pick side name).bind fun _ _ hafter => hafter
    exact hpick
  · exact h.begin rfl

theorem Steady.tellAll (h : session.Steady chosen) (value : Json) {listeners : List FlowListener}
    (hlisteners : ∀ name, .redirect name ∉ listeners) :
    Holds chosen session (listeners.forM (Action.tell value)) := by
  induction listeners generalizing session with
  | nil => exact h
  | cons listener listeners ih =>
    simp only [List.mem_cons, not_or] at hlisteners
    have hfirst := h.tell value fun name heq => (hlisteners name).1 heq.symm
    exact hfirst.bind fun _ _ hafter => ih hafter fun name => (hlisteners name).2

theorem Steady.change (h : session.Steady chosen) (name : ControlName) (value : Json) :
    Holds chosen session (Action.change name value) := by
  unfold Action.change Holds
  rw [Action.leads_bind, Action.leads_get]
  have hset := h.holds_same ((Action.aside_setControl name value).stays h.sound)
    (Action.leaves_modify fun _ => rfl)
  refine hset.bind fun _ after hafter => hafter.tellAll value fun other => ?_
  cases hcontrol : session.control? name with
  | none => exact List.not_mem_nil
  | some control => exact h.sound.quiet_control hcontrol other

/-- A launch is shown, or why there is none. -/
theorem Steady.launched (h : session.Steady chosen) (hsound : after.Sound)
    (hwork : after.work = session.work) (hrepo : after.flow.repo = session.flow.repo)
    (hbranches : after.flow.branches = session.flow.branches)
    (hstage : after.flow.stage = session.flow.stage ∧
        (session.flow.stage ≠ .branchesReady → after.flow.error.isSome = true) ∨
      session.flow.stage = .branchesReady ∧ after.flow.stage = .launching) :
    after.Steady chosen := by
  have hcache : after.cache = session.cache := congrArg Prod.fst hwork
  have hready : session.flow.Ready after.cache := by
    rw [hcache]
    exact h.sound.ready
  have hunshown : Steady { after with flow := session.flow } chosen :=
    h.same (hsound.goes.setFlow session.flow hready).sound hwork rfl
  have hshows := hunshown.shows
  refine ⟨hsound, hunshown.firstCome, hunshown.byHand, hunshown.started, hrepo.trans h.repo,
    hunshown.remembered, ?_⟩
  rcases hstage with ⟨hstage, herror⟩ | ⟨hbefore, hlaunching⟩
  · constructor <;> rw [hstage]
    · rw [hrepo]
      exact hshows.idle
    · exact fun hselected => herror (by rw [hselected]; decide)
    · rw [hrepo]
      exact hshows.loading
    · rw [hrepo, hbranches]
      exact hshows.ready
  · constructor <;> rw [hlaunching]
    · nofun
    · nofun
    · nofun
    · rw [hrepo, hbranches]
      exact fun _ => hshows.ready (.inl hbefore)

theorem Steady.launch (h : session.Steady chosen) : Holds chosen session Action.launch := by
  have hlaunch := ((Action.leads_launch h.sound).and (Action.work_launch session)).and
    (Action.leads_launchShown session)
  refine hlaunch.mono (fun _ after hafter => ?_) fun _ after hafter => ?_
  · obtain ⟨⟨⟨hgoes, -⟩, hwork⟩, hrepo, hbranches, hstage⟩ := hafter
    exact h.launched hgoes.sound hwork hrepo hbranches hstage
  · obtain ⟨⟨hgoes, hwork⟩, hrepo, hbranches, hstage, hready⟩ := hafter
    exact h.launched hgoes.sound hwork hrepo hbranches
      (.inl ⟨hstage, fun hne => absurd hready hne⟩)

end Holds

end Session

end BranchCompare
