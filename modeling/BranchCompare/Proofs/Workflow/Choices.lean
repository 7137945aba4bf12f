import BranchCompare.Proofs.Workflow.Leaves

/-!
# Loads for a choice

What the operations come to that load branches to choose among: the selection of a repository, its
refresh, and the restoring of the last one.  Each shows that branches are loading and then follows
the cache (`Session.Chooses`): it waits, or the load has ended and is shown if its repository is the
selected one (`Flow.Concludes`).
-/

namespace BranchCompare

/-- The end of a load for a choice is shown if the repository is the selected one: a list with two
branches picked, or the failure. -/
def Flow.Concludes (before : Flow) (repo : String) (result : LoadEnd) (after : Flow) : Prop :=
  if before.repo = some repo then
    match result with
    | .ok branches => ∃ first second, after =
        { before with
          stage := .branchesReady, branches := branches, first := first, second := second }
    | .error (.unavailable failure) =>
      after = { before with stage := .repoSelected, error := some failure.message }
    | .error (.crashed _) => False
  else after = before

namespace Session

/-- The two sessions show the same and have the same before them. -/
structure Agrees (before after : Session) : Prop where
  cache : after.cache = before.cache
  flow : after.flow = before.flow
  tasks : after.tasks = before.tasks
  line : after.line = before.line

theorem Agrees.refl (session : Session) : Agrees session session := ⟨rfl, rfl, rfl, rfl⟩

theorem Agrees.trans {first second third : Session} (h : Agrees first second)
    (h' : Agrees second third) : Agrees first third :=
  ⟨h'.cache.trans h.cache, h'.flow.trans h.flow, h'.tasks.trans h.tasks, h'.line.trans h.line⟩

theorem Agrees.setFlow {before after : Session} (h : Agrees before after) (flow : Flow) :
    Agrees { before with flow := flow } { after with flow := flow } :=
  ⟨h.cache, rfl, h.tasks, h.line⟩

/-- Sessions that are alike agree. -/
theorem Alike.agrees {before after : Session} (h : Alike before after) : Agrees before after :=
  ⟨h.cache, h.flow, h.tasks, h.line⟩

/-- The repository that is gone back to: the one in the URL of the page, or the one chosen last. -/
def restored? (session : Session) : Option String :=
  match session.page.param "repo" none with
  | .ok inUrl => Action.nonEmpty (Action.orElse inUrl session.remembered)
  | .error _ => none

/-- What a load for a choice comes to that is shown so. -/
def Comes (repo : String) (restoring : Bool) (before : Flow) (turn : LoadTurn) (given : Turn)
    (after : Flow) : Prop :=
  match turn with
  | .waits waiting => given = .waits (.loading waiting (.choice repo restoring) false) ∧
      after = before
  | .ended result => (∃ value, given = .ended value) ∧ before.Concludes repo result after

/-- The session has taken over what the cache did for a choice. -/
def Chooses (before : Session) (repo : String) (restoring : Bool)
    (outcome : BranchCache × LoadTurn × List CacheSignal) (given : Turn) (after : Session) : Prop :=
  ∃ flow, Comes repo restoring before.flow outcome.2.1 given flow ∧
    Agrees ({ before with cache := outcome.1, flow := flow }.enqueue
      (outcome.2.2.map .cache)) after

/-- A choice from a session that agrees is the same choice. -/
theorem Agrees.chooses {before middle after : Session} (h : Agrees before middle) {repo : String}
    {restoring : Bool} {outcome : BranchCache × LoadTurn × List CacheSignal} {given : Turn}
    (hchooses : middle.Chooses repo restoring outcome given after) :
    before.Chooses repo restoring outcome given after := by
  obtain ⟨flow, hcomes, hafter⟩ := hchooses
  rw [h.flow] at hcomes
  have hmiddle : Agrees
      ({ before with cache := outcome.1, flow := flow }.enqueue (outcome.2.2.map .cache))
      ({ middle with cache := outcome.1, flow := flow }.enqueue (outcome.2.2.map .cache)) :=
    ⟨rfl, rfl, h.tasks, congrArg (· ++ outcome.2.2.map Signal.cache) h.line⟩
  exact ⟨flow, hcomes, hmiddle.trans hafter⟩

end Session

namespace Action

variable {session : Session}

/-- The end of a load for a choice.  The load of another repository than the selected one shows
nothing, however it ends. -/
theorem leads_endChoice (session : Session) (repo : String) (restoring : Bool)
    (result : LoadEnd) :
    Leads (endChoice repo restoring result) session
      (fun given after => (∃ value, given = .ended value) ∧ ∃ flow,
        session.flow.Concludes repo result flow ∧
        Session.Agrees { session with flow := flow } after)
      fun _ after => session.flow.repo ≠ some repo → after.flow = session.flow := by
  unfold endChoice Flow.Concludes
  rw [leads_bind, leads_get]
  by_cases hcurrent : session.flow.repo = some repo
  · simp only [if_pos hcurrent]
    cases result with
    | ok branches =>
      refine aside_exitLoading.leads_bind (fun _ s1 h1 => ?_) fun _ _ h _ => h.flow
      rw [leads_bind]
      refine (leads_applyBranches branches s1).mono (fun _ s2 hshown => ?_)
        fun _ _ _ hne => absurd hcurrent hne
      obtain ⟨first, second, -, -, h2⟩ := hshown
      rw [leads_bind, leads_modifyFlow, leads_pure, h2.flow, h1.flow]
      refine ⟨⟨_, rfl⟩, _, ⟨first, second, rfl⟩, ?_⟩
      exact (h1.setFlow _).agrees.trans (h2.setFlow _).agrees
    | error error =>
      cases error with
      | unavailable failure =>
        dsimp only
        unfold fail
        rw [leads_bind, leads_modifyFlow, leads_bind, leads_modifyFlow]
        refine aside_exitLoading.leads_bind (fun _ s1 h1 => ?_) fun _ _ _ hne =>
          absurd hcurrent hne
        exact ⟨⟨_, rfl⟩, _, rfl, h1.agrees⟩
      | crashed crash =>
        refine aside_exitLoading.leads_bind (fun _ s1 h1 => ?_) fun _ _ h _ => h.flow
        exact fun _ => h1.flow
  · simp only [if_neg hcurrent]
    have hdropped : Leads (do exitLoading; return Turn.ended (choiceValue restoring false))
        session (fun given after => (∃ value, given = Turn.ended value) ∧ ∃ flow,
          flow = session.flow ∧ Session.Agrees { session with flow := flow } after)
        fun _ after => session.flow.repo ≠ some repo → after.flow = session.flow := by
      refine aside_exitLoading.leads_bind (fun _ s1 h1 => ?_) fun _ _ h _ => h.flow
      exact ⟨⟨_, rfl⟩, _, rfl, h1.agrees⟩
    cases result with
    | ok branches => exact hdropped
    | error error =>
      cases error with
      | unavailable failure => exact hdropped
      | crashed crash =>
        refine aside_exitLoading.leads_bind (fun _ s1 h1 => ?_) fun _ _ h _ => h.flow
        exact fun _ => h1.flow

/-- The session takes over what the cache did for a choice. -/
theorem leads_followChoice (session : Session) (repo : String) (restoring : Bool)
    (outcome : BranchCache × LoadTurn × List CacheSignal) :
    Leads (followLoad (.choice repo restoring) outcome) session
      (session.Chooses repo restoring outcome)
      fun _ after => session.flow.repo ≠ some repo → after.flow = session.flow := by
  obtain ⟨cache, turn, signals⟩ := outcome
  unfold followLoad
  rw [leads_bind, leads_modify]
  cases turn with
  | ended result =>
    refine (leads_endChoice _ repo restoring result).mono (fun given after h => ?_)
      fun _ _ h => h
    obtain ⟨hended, flow, hconcludes, hagrees⟩ := h
    exact ⟨flow, ⟨hended, hconcludes⟩, hagrees⟩
  | waits waiting =>
    exact leads_pure.mpr ⟨session.flow, ⟨rfl, rfl⟩, .refl _⟩

/-- The session after a selection is shown as loading. -/
theorem leads_loadBranches (session : Session) (task : TaskId) (repo : String)
    (forced restoring : Bool) :
    Leads (loadBranches task repo forced restoring) session
      ({ session with flow := { session.flow with stage := .branchesLoading } }.Chooses repo
        restoring (session.cache.load repo forced task))
      fun _ _ => True := by
  unfold loadBranches beginLoading
  rw [leads_bind, leads_modifyFlow]
  refine aside_enterLoading.leads_bind (fun _ s1 h1 => ?_) fun _ _ _ => trivial
  rw [leads_bind, leads_get]
  have hcache : s1.cache = session.cache := h1.cache
  rw [hcache]
  exact (leads_followChoice s1 repo restoring _).mono (fun _ _ h => h1.agrees.chooses h)
    fun _ _ _ => trivial

/-- The repository is selected, also if it is the selected one already. -/
theorem leads_selectRepo (session : Session) (task : TaskId) (repo : String) (restoring : Bool) :
    Leads (selectRepo task repo restoring) session
      ({ session with flow := { session.flow with
          error := none, repo := some repo, stage := .branchesLoading } }.Chooses repo restoring
        (session.cache.load repo false task))
      fun _ _ => True := by
  unfold selectRepo
  rw [leads_bind, leads_modifyFlow]
  refine (aside_setControl _ _).leads_bind (fun _ s1 h1 => ?_) fun _ _ _ => trivial
  refine (aside_remember _ _).leads_bind (fun _ s2 h2 => ?_) fun _ _ _ => trivial
  refine (aside_replaceParam _ _).leads_bind (fun _ s3 h3 => ?_) fun _ _ _ => trivial
  have h13 := (h1.trans h2).trans h3
  refine (leads_loadBranches s3 task repo false restoring).mono (fun _ _ h => ?_)
    fun _ _ _ => trivial
  have hcache : s3.cache = session.cache := h13.cache
  rw [hcache, h13.flow] at h
  exact (h13.setFlow _).agrees.chooses h

/-- A refresh loads the branches of the selected repository anew. -/
theorem leads_refresh (session : Session) (task : TaskId) :
    Leads (refresh task) session
      (fun given after =>
        (∃ repo, nonEmpty session.flow.repo = some repo ∧
          { session with flow := { session.flow with
              error := none, stage := .branchesLoading } }.Chooses repo false
            (session.cache.load repo true task) given after) ∨
        (∃ value, given = .ended value) ∧ after = session)
      fun _ _ => True := by
  unfold refresh clearError
  rw [leads_bind, leads_get]
  cases hrepo : nonEmpty session.flow.repo with
  | none => exact .inr ⟨⟨_, rfl⟩, rfl⟩
  | some repo =>
    dsimp only
    rw [leads_bind, leads_modifyFlow]
    exact (leads_loadBranches _ task repo true false).mono (fun _ _ h => .inl ⟨repo, rfl, h⟩)
      fun _ _ _ => trivial

/-- Binding the controls leaves all that counts for a choice alone. -/
theorem leads_bindControls_agrees (session : Session) :
    Leads bindControls session
      (fun _ after => session.Agrees after ∧ after.page = session.page ∧
        after.remembered = session.remembered)
      fun _ _ => True := by
  unfold bindControls
  rw [leads_bind, leads_get]
  dsimp only
  split
  · rw [leads_set]
    exact ⟨⟨rfl, rfl, rfl, rfl⟩, rfl, rfl⟩
  · exact ⟨.refl session, rfl, rfl⟩

/-- A restore selects the repository of the URL or the one that was remembered. -/
theorem leads_restore (session : Session) (task : TaskId) :
    Leads (restore task) session
      (fun given after =>
        (∃ repo, session.restored? = some repo ∧ after.remembered = some repo ∧
          { session with flow := { session.flow with
              error := none, repo := some repo, stage := .branchesLoading } }.Chooses repo true
            (session.cache.load repo false task) given after) ∨
        session.restored? = none ∧ (∃ value, given = .ended value) ∧ session.Agrees after ∧
          after.remembered = session.remembered)
      fun _ _ => True := by
  unfold restore param
  rw [leads_bind]
  refine (leads_bindControls_agrees session).mono (fun _ s1 hbound => ?_) fun _ _ _ => trivial
  obtain ⟨hagrees, hpage, hsame⟩ := hbound
  rw [leads_bind, leads_readPage, hpage]
  unfold Session.restored?
  cases session.page.param "repo" none with
  | error fault => trivial
  | ok inUrl =>
    dsimp only
    have hstored : s1.store.get? .repo = s1.remembered := rfl
    rw [leads_bind, leads_get, ← hsame, hstored]
    cases nonEmpty (orElse inUrl s1.remembered) with
    | none => exact .inr ⟨rfl, ⟨_, rfl⟩, hagrees, rfl⟩
    | some repo =>
      have hselect := (leads_selectRepo s1 task repo true).and
        (remembered_selectRepo s1 task repo true)
      refine hselect.mono (fun given after h => .inl ⟨repo, rfl, h.2, ?_⟩) fun _ _ _ => trivial
      have hchooses := h.1
      rw [hagrees.flow, hagrees.cache] at hchooses
      exact (hagrees.setFlow _).chooses hchooses

/-- A launch clears the last error or shows a new one, and at most takes branches that are ready to be
launched. -/
theorem leads_launchShown (session : Session) :
    Leads launch session
      (fun _ after => after.flow.repo = session.flow.repo ∧
        after.flow.branches = session.flow.branches ∧
        (after.flow.stage = session.flow.stage ∧
            (session.flow.stage ≠ .branchesReady → after.flow.error.isSome = true) ∨
          session.flow.stage = .branchesReady ∧ after.flow.stage = .launching))
      fun _ after => after.flow.repo = session.flow.repo ∧
        after.flow.branches = session.flow.branches ∧
        after.flow.stage = session.flow.stage ∧ session.flow.stage = .branchesReady := by
  unfold launch clearError
  rw [leads_bind, leads_modifyFlow, leads_bind, leads_get]
  dsimp only
  split
  · next hready _ _ =>
    rw [leads_bind, leads_get]
    dsimp only
    split
    · unfold compareUrl
      rw [leads_bind]
      split
      · rw [leads_pure, leads_bind, leads_modifyFlow, leads_bind, leads_openUrl, leads_pure]
        exact ⟨rfl, rfl, .inr ⟨hready, rfl⟩⟩
      · exact ⟨rfl, rfl, rfl, hready⟩
    · exact ⟨rfl, rfl, .inl ⟨rfl, fun _ => rfl⟩⟩
  · exact ⟨rfl, rfl, .inl ⟨rfl, fun _ => rfl⟩⟩

theorem work_launch : Leaves Session.work launch := by
  have hflow : ∀ change, Leaves Session.work (modifyFlow change) :=
    fun change => leaves_modify fun _ => rfl
  have hfail : ∀ message, Leaves Session.work (do fail message; return (none : Option String)) :=
    fun message => (hflow _).bind fun _ => leaves_pure _
  unfold launch
  refine (hflow _).bind fun _ => leaves_get_bind fun session => ?_
  dsimp only
  split
  · refine leaves_get_bind fun session => ?_
    split
    · have hurl : ∀ preset first second, Leaves Session.work (compareUrl preset first second) := by
        intro preset first second
        unfold compareUrl
        split
        · exact leaves_pure _
        · exact leaves_throw _
      refine (hurl _ _ _).bind fun url => (hflow _).bind fun _ => ?_
      have hopen : Leaves Session.work (openUrl url) := fun _ => rfl
      exact hopen.bind fun _ => leaves_pure _
    · exact hfail _
  · exact hfail _

end Action

end BranchCompare
