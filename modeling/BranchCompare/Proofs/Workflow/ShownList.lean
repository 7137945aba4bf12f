import BranchCompare.Proofs.Workflow.Launching

/-!
# Which list of branches is shown

A list of branches stays shown until branches are ready again (`Flow.Shifts`): the selection of
another repository, a load that fails and a load that is broken off all leave it there.  So the list
at any time is that of the repository which was selected when branches were ready last
(`shown_from`), and a pick is looked up in this list (`picked_from`).  While the branches of another
repository are loading, or have failed to come, a pick may therefore be one of the repository that
was left (`picked_stale`).
-/

namespace BranchCompare

namespace Flow

/-- The list of branches stays.  The workflow stays where it is, a choice begins anew or has failed,
or a comparison of branches that were ready is launched. -/
structure Retains (before after : Flow) : Prop where
  branches : after.branches = before.branches
  course : after.stage = before.stage ∧ after.repo = before.repo ∨
    after.stage = .repoSelected ∨ after.stage = .branchesLoading ∨
    before.stage = .branchesReady ∧ after.stage = .launching ∧ after.repo = before.repo

/-- The list of branches stays, or branches are ready. -/
def Shifts (before after : Flow) : Prop := before.Retains after ∨ after.stage = .branchesReady

variable {before middle after : Flow}

theorem Retains.refl (flow : Flow) : flow.Retains flow := ⟨rfl, .inl ⟨rfl, rfl⟩⟩

theorem Retains.trans (h : before.Retains middle) (h' : middle.Retains after) :
    before.Retains after := by
  refine ⟨h'.branches.trans h.branches, ?_⟩
  rcases h'.course with ⟨hstage, hrepo⟩ | hchoice | hchoice | ⟨hready, hlaunched, hrepo⟩
  · rw [hstage, hrepo]
    exact h.course
  · exact .inr (.inl hchoice)
  · exact .inr (.inr (.inl hchoice))
  · rcases h.course with ⟨hstage, hsame⟩ | hother | hother | ⟨-, hother, -⟩
    · exact .inr (.inr (.inr ⟨hstage ▸ hready, hlaunched, hrepo.trans hsame⟩))
    · rw [hready] at hother
      cases hother
    · rw [hready] at hother
      cases hother
    · rw [hready] at hother
      cases hother

/-- A list may be retained first and shift then. -/
theorem Retains.shifts (h : before.Retains middle) (h' : middle.Shifts after) :
    before.Shifts after := h'.imp_left h.trans

end Flow

namespace Action

variable {α β : Type}

/-! ## Actions that keep the list -/

/-- The action keeps the list of branches, however it ends. -/
def Retains (action : Action α) : Prop :=
  ∀ session, Leads action session (fun _ after => session.flow.Retains after.flow)
    fun _ after => session.flow.Retains after.flow

theorem retains_pure (value : α) : Retains (pure value) := fun session => .refl session.flow

theorem retains_throw (crash : Crash) : Retains (throw crash : Action α) :=
  fun session => .refl session.flow

theorem Retains.bind {action : Action α} (h : Retains action) {next : α → Action β}
    (hnext : ∀ value, Retains (next value)) : Retains (action >>= next) := by
  intro session
  rw [leads_bind]
  refine (h session).mono (fun value after hfirst => ?_) fun _ _ hfirst => hfirst
  exact (hnext value after).mono (fun _ _ h' => hfirst.trans h') fun _ _ h' => hfirst.trans h'

theorem retains_get_bind {next : Session → Action β} (hnext : ∀ value, Retains (next value)) :
    Retains (get >>= next) := fun session => hnext session session

/-- A stretch aside retains the list. -/
theorem Aside.retains {action : Action α} (h : Aside action) : Retains action := by
  intro session
  refine (h session).mono (fun _ after halike => ?_) fun _ after halike => ?_
  · rw [halike.flow]
    exact .refl _
  · rw [halike.flow]
    exact .refl _

theorem retains_modify {change : Session → Session}
    (h : ∀ session, (change session).flow = session.flow) :
    Retains (modify change : Action PUnit) := by
  intro session
  rw [leads_modify, h]
  exact .refl _

theorem retains_modifyFlow {change : Flow → Flow} (h : ∀ flow : Flow, flow.Retains (change flow)) :
    Retains (modifyFlow change) := fun session => h session.flow

/-- A choice begins anew, or has failed. -/
theorem retains_toChoice {change : Flow → Flow}
    (hbranches : ∀ flow : Flow, (change flow).branches = flow.branches)
    (hstage : ∀ flow : Flow, (change flow).stage = .repoSelected ∨
      (change flow).stage = .branchesLoading) : Retains (modifyFlow change) :=
  retains_modifyFlow fun flow => ⟨hbranches flow, .inr ((hstage flow).imp_right .inl)⟩

theorem retains_fail (message : String) : Retains (fail message) :=
  retains_modifyFlow fun _ => ⟨rfl, .inl ⟨rfl, rfl⟩⟩

theorem retains_clearError : Retains clearError :=
  retains_modifyFlow fun _ => ⟨rfl, .inl ⟨rfl, rfl⟩⟩

theorem retains_compareUrl (preset : Preset) (old new : String) :
    Retains (compareUrl preset old new) := by
  unfold compareUrl
  split
  · exact retains_pure _
  · exact retains_throw _

theorem retains_openUrl (url : String) : Retains (openUrl url) :=
  fun _ => ⟨rfl, .inl ⟨rfl, rfl⟩⟩

theorem retains_list (task : TaskId) (owner repo : Option String) :
    Retains (list task owner repo) := by
  rw [list_eq]
  refine retains_get_bind fun session => ?_
  refine (aside_orParam _ _ _).retains.bind fun owner => ?_
  refine (aside_orParam _ _ _).retains.bind fun repo => ?_
  unfold beginListing
  refine retains_clearError.bind fun _ => ?_
  split
  · exact (retains_fail _).bind fun _ => retains_pure _
  refine aside_enterLoading.retains.bind fun _ => ?_
  have henqueue : Retains
      (modify fun session => session.enqueue [.listing task .make] : Action PUnit) :=
    retains_modify fun _ => rfl
  refine henqueue.bind fun _ => ?_
  dsimp only
  split
  · have harm : Retains (modify fun session =>
        { session with timeline := session.timeline.arm session.limit (.task task) } :
          Action PUnit) := retains_modify fun _ => rfl
    exact harm.bind fun _ => retains_pure _
  · exact retains_pure _

theorem retains_endListing (owner repo : String) (result : CallEnd (List ChangeRequest)) :
    Retains (endListing owner repo result) := by
  have hbadly : ∀ message, Retains (endListingBadly message) := fun message =>
    (retains_fail message).bind fun _ => aside_exitLoading.retains.bind fun _ => retains_pure _
  cases result with
  | answer requests =>
    refine aside_exitLoading.retains.bind fun _ => ?_
    unfold showRequests
    split
    · refine Retains.bind (retains_modifyFlow fun flow => ?_) fun _ => retains_pure _
      exact ⟨rfl, .inl ⟨rfl, rfl⟩⟩
    · exact retains_throw _
  | unavailable failure => exact hbadly failure.message
  | outOfTime => exact hbadly _
  | crashed crash => exact aside_exitLoading.retains.bind fun _ => retains_throw crash

theorem retains_endComparison (row : ChangeRequest.Row) (preset : Preset) (result : LoadEnd) :
    Retains (endComparison row preset result) := by
  unfold endComparison
  cases result with
  | ok branches =>
    refine aside_exitLoading.retains.bind fun _ => ?_
    refine (retains_compareUrl _ _ _).bind fun url => ?_
    exact (retains_openUrl url).bind fun _ => retains_pure _
  | error error =>
    cases error with
    | unavailable failure =>
      refine (retains_fail _).bind fun _ => ?_
      exact aside_exitLoading.retains.bind fun _ => retains_pure _
    | crashed crash => exact aside_exitLoading.retains.bind fun _ => retains_throw crash

theorem retains_pick (side : Side) (name : Option String) : Retains (pick side name) := by
  unfold pick
  extract_lets picked
  refine retains_get_bind fun session => ?_
  dsimp only
  split
  · exact retains_pure _
  refine (aside_setControl _ _).retains.bind fun _ => ?_
  refine (aside_remember _ _).retains.bind fun _ => ?_
  refine (aside_replaceParam _ _).retains.bind fun _ => ?_
  refine (retains_modifyFlow fun flow => ?_).bind fun _ => retains_pure _
  cases side with
  | old => exact ⟨rfl, .inl ⟨rfl, rfl⟩⟩
  | new => exact ⟨rfl, .inl ⟨rfl, rfl⟩⟩

theorem retains_tell (value : Json) (listener : FlowListener) : Retains (tell value listener) := by
  have hpick : ∀ side name, Retains (discard (pick side name)) := fun side name =>
    (retains_pick side name).bind fun _ => retains_pure ()
  unfold tell
  cases listener with
  | pickRepo =>
    dsimp only
    split
    · split
      · exact retains_pure ()
      · exact retains_modify fun _ => rfl
    · exact retains_pure ()
  | pickFirst | pickSecond =>
    dsimp only
    split
    · exact hpick _ _
    · split
      · exact hpick _ _
      · exact retains_pure ()
  | redirect name =>
    intro session
    rw [leads_editPage]
    split
    · exact .refl session.flow
    · exact .refl session.flow

theorem retains_change (name : ControlName) (value : Json) : Retains (change name value) := by
  have htellAll : ∀ listeners : List FlowListener, Retains (listeners.forM (tell value)) := by
    intro listeners
    induction listeners with
    | nil => exact retains_pure ()
    | cons listener listeners ih => exact (retains_tell value listener).bind fun _ => ih
  unfold change
  refine retains_get_bind fun session => ?_
  exact (aside_setControl name value).retains.bind fun _ => htellAll _

theorem retains_launch (session : Session) :
    Leads launch session (fun _ after => session.flow.Retains after.flow)
      fun _ after => session.flow.Retains after.flow := by
  refine (leads_launchShown session).mono (fun _ after h => ?_) fun _ after h => ?_
  · obtain ⟨hrepo, hbranches, ⟨hstage, -⟩ | ⟨hready, hlaunched⟩⟩ := h
    · exact ⟨hbranches, .inl ⟨hstage, hrepo⟩⟩
    · exact ⟨hbranches, .inr (.inr (.inr ⟨hready, hlaunched, hrepo⟩))⟩
  · exact ⟨h.2.1, .inl ⟨h.2.2.1, h.1⟩⟩

/-! ## Actions that may show another list -/

/-- The action keeps the list of branches, or branches are ready after it. -/
def Shifts (action : Action α) : Prop :=
  ∀ session, Leads action session (fun _ after => session.flow.Shifts after.flow)
    fun _ after => session.flow.Shifts after.flow

theorem Retains.shifts {action : Action α} (h : Retains action) : Shifts action := fun session =>
  (h session).mono (fun _ _ hretains => .inl hretains) fun _ _ hretains => .inl hretains

theorem Retains.shifts_bind {action : Action α} (h : Retains action) {next : α → Action β}
    (hnext : ∀ value, Shifts (next value)) : Shifts (action >>= next) := by
  intro session
  rw [leads_bind]
  refine (h session).mono (fun value after hfirst => ?_) fun _ _ hfirst => .inl hfirst
  exact (hnext value after).mono (fun _ _ h' => hfirst.shifts h') fun _ _ h' => hfirst.shifts h'

theorem shifts_get_bind {next : Session → Action β} (hnext : ∀ value, Shifts (next value)) :
    Shifts (get >>= next) := fun session => hnext session session

/-- The end of a load for a choice. -/
theorem shifts_endChoice (repo : String) (restoring : Bool) (result : LoadEnd) :
    Shifts (endChoice repo restoring result) := by
  unfold endChoice
  refine shifts_get_bind fun session => ?_
  cases result with
  | ok branches =>
    refine aside_exitLoading.retains.shifts_bind fun _ => ?_
    split
    · intro before
      rw [leads_bind]
      refine (leads_applyBranches branches before).mono (fun _ after _ => ?_) fun _ after halike => ?_
      · exact .inr rfl
      · rw [halike.flow]
        exact .inl (.refl _)
    · exact (retains_pure _).shifts
  | error error =>
    refine Retains.shifts ?_
    cases error with
    | unavailable failure =>
      dsimp only
      split
      · refine Retains.bind (retains_toChoice ?_ ?_) fun _ => ?_
        · exact fun _ => rfl
        · exact fun _ => .inl rfl
        refine (retains_fail _).bind fun _ => ?_
        exact aside_exitLoading.retains.bind fun _ => retains_pure _
      · exact aside_exitLoading.retains.bind fun _ => retains_pure _
    | crashed crash => exact aside_exitLoading.retains.bind fun _ => retains_throw crash

/-- A load that goes on may replace the list, and then branches are ready. -/
theorem shifts_followLoad (purpose : Purpose)
    (outcome : BranchCache × LoadTurn × List CacheSignal) : Shifts (followLoad purpose outcome) := by
  obtain ⟨cache, turn, signals⟩ := outcome
  have htake : Retains (modify fun session =>
      ({ session with cache := cache } : Session).enqueue (signals.map .cache) : Action PUnit) :=
    retains_modify fun _ => rfl
  unfold followLoad
  refine htake.shifts_bind fun _ => ?_
  cases turn with
  | waits waiting => exact (retains_pure _).shifts
  | ended result =>
    cases purpose with
    | choice repo restoring => exact shifts_endChoice repo restoring result
    | comparison row preset => exact (retains_endComparison row preset result).shifts

theorem shifts_beginLoading (task : TaskId) (repo : String) (forced : Bool) (purpose : Purpose) :
    Shifts (beginLoading task repo forced purpose) := by
  unfold beginLoading
  refine aside_enterLoading.retains.shifts_bind fun _ => ?_
  exact shifts_get_bind fun session => shifts_followLoad purpose _

theorem shifts_loadBranches (task : TaskId) (repo : String) (forced restoring : Bool) :
    Shifts (loadBranches task repo forced restoring) := by
  unfold loadBranches
  refine Retains.shifts_bind (retains_toChoice ?_ ?_) fun _ => shifts_beginLoading _ _ _ _
  · exact fun _ => rfl
  · exact fun _ => .inr rfl

theorem shifts_selectRepo (task : TaskId) (repo : String) (restoring : Bool) :
    Shifts (selectRepo task repo restoring) := by
  unfold selectRepo
  refine Retains.shifts_bind (retains_toChoice ?_ ?_) fun _ => ?_
  · exact fun _ => rfl
  · exact fun _ => .inl rfl
  refine (aside_setControl _ _).retains.shifts_bind fun _ => ?_
  refine (aside_remember _ _).retains.shifts_bind fun _ => ?_
  refine (aside_replaceParam _ _).retains.shifts_bind fun _ => ?_
  exact shifts_loadBranches task repo false restoring

theorem retains_bindControls : Retains bindControls := by
  intro session
  unfold bindControls
  rw [leads_bind, leads_get]
  dsimp only
  split
  · exact .refl session.flow
  · exact .refl session.flow

theorem shifts_beginComparison (task : TaskId) (row : ChangeRequest.Row) (table : PresetTable)
    (repo : Option String) : Shifts (beginComparison task row table repo) := by
  unfold beginComparison
  split
  · exact shifts_beginLoading _ _ _ _
  · exact ((retains_fail _).bind fun _ => retains_pure _).shifts

/-- The first stretch of an operation. -/
theorem shifts_first (task : TaskId) (operation : Operation) : Shifts (first task operation) := by
  cases operation with
  | restore =>
    show Shifts (restore task)
    unfold restore
    refine retains_bindControls.shifts_bind fun _ => ?_
    refine (aside_param _ _).retains.shifts_bind fun inUrl => ?_
    refine shifts_get_bind fun session => ?_
    split
    · exact shifts_selectRepo task _ true
    · exact (retains_pure _).shifts
  | selectRepo repo => exact shifts_selectRepo task repo false
  | refresh =>
    show Shifts (refresh task)
    unfold refresh
    refine shifts_get_bind fun session => ?_
    split
    · exact retains_clearError.shifts_bind fun _ => shifts_loadBranches _ _ _ _
    · exact (retains_pure _).shifts
  | list owner repo => exact (retains_list task owner repo).shifts
  | compare row repo =>
    show Shifts (compare task row repo)
    rw [compare_eq]
    refine retains_clearError.shifts_bind fun _ => ?_
    split
    · exact ((retains_fail _).bind fun _ => retains_pure _).shifts
    refine shifts_get_bind fun session => ?_
    split
    · exact (retains_pure _).shifts_bind fun found => shifts_beginComparison task row _ found
    · exact (aside_param _ _).retains.shifts_bind fun found =>
        shifts_beginComparison task row _ found

end Action

namespace Session

variable {session : Session} {task : TaskId}

/-! ## Turns and events -/

theorem shifts_same {after : Session} (hflow : after.flow = session.flow) :
    session.flow.Shifts after.flow := by
  rw [hflow]
  exact .inl (.refl _)

theorem shifts_follow (session : Session) (task : TaskId) {action : Action Turn}
    (h : Action.Shifts action) : session.flow.Shifts (session.follow task action).flow :=
  follow_of_leads (motive := fun after => session.flow.Shifts after.flow) (h session)

theorem shifts_wakeListing (session : Session) (task : TaskId)
    (call : BoundedCall (List ChangeRequest)) (owner repo : String) :
    session.flow.Shifts (session.wakeListing task call owner repo).flow := by
  unfold wakeListing
  rcases call.wake with ⟨moved, turns, ended⟩
  dsimp only
  split
  · exact shifts_same rfl
  · exact shifts_follow session task (Action.retains_endListing _ _ _).shifts
  · exact shifts_follow session task (Action.retains_endListing _ _ _).shifts
  · exact shifts_same rfl

theorem shifts_listingTurn (session : Session) (task : TaskId) (turn : CallTurn) :
    session.flow.Shifts (session.listingTurn task turn).flow := by
  unfold listingTurn
  split
  · cases turn with
    | make | takeUp | notify => exact shifts_same rfl
    | wake => exact shifts_wakeListing ..
  · exact shifts_same rfl

theorem shifts_taskTurn (session : Session) (task : TaskId) :
    session.flow.Shifts (session.taskTurn task).flow := by
  unfold taskTurn
  split
  · exact shifts_follow session task (Action.shifts_first _ _)
  · exact shifts_follow session task (Action.shifts_followLoad _ _)
  · exact shifts_same rfl
  · exact shifts_wakeListing ..
  · exact shifts_same rfl

theorem shifts_turn (session : Session) (place : Nat) :
    session.flow.Shifts (session.turn place).flow := by
  unfold Session.turn
  split
  · next signal _ =>
    let rest : Session := { session with line := session.line.eraseIdx place }
    cases signal with
    | listing task turn => exact shifts_listingTurn rest task turn
    | cache signal =>
      cases signal with
      | caller task => exact shifts_taskTurn rest task
      | start fetch =>
        unfold perform
        dsimp only
        split
        · exact shifts_same rfl
        · exact shifts_same rfl
      | turn fetch turn | forget fetch | deliver fetch caller => exact shifts_same rfl
  · exact shifts_same rfl

theorem retains_run {α : Type} {action : Action α}
    (h : Action.Leads action session (fun _ after => session.flow.Retains after.flow)
      fun _ after => session.flow.Retains after.flow) :
    session.flow.Retains (session.run action).1.flow := by
  unfold Action.Leads at h
  unfold run
  cases hresult : action session with
  | ok value after =>
    rw [hresult] at h
    exact h
  | error crash after =>
    rw [hresult] at h
    exact h

theorem flow_expire (session : Session) (owner : DeadlineOwner) :
    (session.expire owner).flow = session.flow := by
  unfold expire
  cases owner with
  | fetch fetch => rfl
  | task task =>
    dsimp only
    split
    · rfl
    · rfl

theorem flow_expireAll (session : Session) (owners : List DeadlineOwner) :
    (owners.foldl expire session).flow = session.flow := by
  induction owners generalizing session with
  | nil => rfl
  | cons owner owners ih => exact (ih _).trans (flow_expire session owner)

/-- By an event the list of branches stays, or branches are ready. -/
theorem shifts_step (session : Session) (event : FlowEvent) :
    session.flow.Shifts (session.step event).flow := by
  cases event with
  | turn place => exact shifts_turn session place
  | pick side name => exact .inl (retains_run (Action.retains_pick side name session))
  | launch => exact .inl (retains_run (Action.retains_launch session))
  | change name value => exact .inl (retains_run (Action.retains_change name value session))
  | expire owner => exact shifts_same (flow_expire session owner)
  | advance span => exact shifts_same (flow_expireAll _ _)
  | answerListing task result =>
    simp only [step, answerListing]
    split
    · exact shifts_same rfl
    · exact shifts_same rfl
  | cancel task =>
    simp only [step, cancel]
    split
    · exact shifts_same rfl
    · exact shifts_same rfl
    · exact shifts_same rfl
  | begin | answerFetch | setReadyBranches | setReadyPulls => exact shifts_same rfl

/-! ## Runs -/

/-- The list that is shown after the events is that of the repository, which was the selected one when
branches were ready last. -/
def ShownFrom (session : Session) (events : List FlowEvent) (repo : String) : Prop :=
  ∃ earlier later, events = earlier ++ later ∧
    (session.after earlier).course = (.branchesReady, some repo) ∧
    (session.after earlier).flow.branches = (session.after events).flow.branches ∧
    ∀ middle rest, later = middle ++ rest → middle ≠ [] →
      (session.after (earlier ++ middle)).flow.stage ≠ .branchesReady

/-- Branches are ready after the last event. -/
theorem shownFrom_ready {events : List FlowEvent} {repo : String}
    (h : (session.after events).course = (.branchesReady, some repo)) :
    session.ShownFrom events repo := by
  refine ⟨events, [], (List.append_nil _).symm, h, rfl, fun middle rest heq hne => ?_⟩
  exact absurd (List.append_eq_nil_iff.mp heq.symm).1 hne

/-- The list stays by an event after which branches are not ready. -/
theorem ShownFrom.concat {events : List FlowEvent} {repo : String}
    (h : session.ShownFrom events repo) {event : FlowEvent}
    (hbranches : (session.after (events ++ [event])).flow.branches =
      (session.after events).flow.branches)
    (hstage : (session.after (events ++ [event])).flow.stage ≠ .branchesReady) :
    session.ShownFrom (events ++ [event]) repo := by
  obtain ⟨earlier, later, rfl, hready, hsame, hlast⟩ := h
  refine ⟨earlier, later ++ [event], List.append_assoc .., hready, hsame.trans hbranches.symm, ?_⟩
  intro middle rest heq hne
  rcases List.append_eq_append_iff.mp heq with ⟨more, rfl, hmore⟩ | ⟨more, rfl, -⟩
  · rcases List.singleton_eq_append_iff.mp hmore with ⟨rfl, -⟩ | ⟨rfl, -⟩
    · rw [List.append_nil] at hne ⊢
      exact hlast later [] (List.append_nil _).symm hne
    · rwa [← List.append_assoc]
  · exact hlast middle more rfl hne

/-- Nothing is shown yet, or the list of a repository that is still the selected one, unless a choice
has begun anew or failed. -/
def ListShown (session : Session) (events : List FlowEvent) : Prop :=
  let now := session.after events
  now.flow.branches = [] ∧ now.flow.stage ≠ .branchesReady ∧ now.flow.stage ≠ .launching ∨
  ∃ repo, session.ShownFrom events repo ∧
    (now.flow.repo = some repo ∨ now.flow.stage = .repoSelected ∨
      now.flow.stage = .branchesLoading)

/-- Each event keeps account of the list that is shown. -/
theorem Sound.listShown_step (h : session.Sound) {events : List FlowEvent}
    (hshown : session.ListShown events) (event : FlowEvent) :
    session.ListShown (events ++ [event]) := by
  have hsound := (h.after (events ++ [event])).sound
  have hshift := shifts_step (session.after events) event
  have hnext : session.after (events ++ [event]) = (session.after events).step event :=
    after_append ..
  rw [← hnext] at hshift
  by_cases hready : (session.after (events ++ [event])).flow.stage = .branchesReady
  · obtain ⟨repo, hrepo, -⟩ := hsound.ready hready
    exact .inr ⟨repo, shownFrom_ready (Prod.ext hready hrepo), .inl hrepo⟩
  have hretains := hshift.resolve_right hready
  rcases hshown with ⟨hnone, hnotReady, hnotLaunched⟩ | ⟨repo, hfrom, hcurrent⟩
  · refine .inl ⟨hretains.branches.trans hnone, hready, fun hlaunched => ?_⟩
    rcases hretains.course with ⟨hsame, -⟩ | hchoice | hchoice | ⟨hbefore, -, -⟩
    · exact hnotLaunched (hsame.symm.trans hlaunched)
    · cases hchoice.symm.trans hlaunched
    · cases hchoice.symm.trans hlaunched
    · exact hnotReady hbefore
  · refine .inr ⟨repo, hfrom.concat hretains.branches hready, ?_⟩
    rcases hretains.course with ⟨hstage, hrepo⟩ | hchoice | hchoice | ⟨hbefore, -, hrepo⟩
    · rw [hstage, hrepo]
      exact hcurrent
    · exact .inr (.inl hchoice)
    · exact .inr (.inr hchoice)
    · -- only what was ready is launched, and that is a list of the selected repository
      rw [hrepo]
      rcases hcurrent with hcurrent | hother | hother
      · exact .inl hcurrent
      · cases hbefore.symm.trans hother
      · cases hbefore.symm.trans hother

theorem Sound.listShown_append (h : session.Sound) {events : List FlowEvent}
    (hshown : session.ListShown events) (more : List FlowEvent) :
    session.ListShown (events ++ more) := by
  induction more generalizing events with
  | nil => rwa [List.append_nil]
  | cons event more ih =>
    have hstep := ih (h.listShown_step hshown event)
    rwa [List.append_assoc] at hstep

/-- Nothing is shown in a new session. -/
theorem listShown_of_make {parts : Parts} (hmake : make parts = .ok session) :
    session.ListShown [] := by
  have hflow : session.flow = .idle := by
    unfold make at hmake
    dsimp only at hmake
    split at hmake
    · obtain rfl := Except.ok.inj hmake
      rfl
    · cases hmake
  refine .inl ?_
  show session.flow.branches = [] ∧ session.flow.stage ≠ .branchesReady ∧
    session.flow.stage ≠ .launching
  rw [hflow]
  decide

/-! ## Picks -/

/-- A pick that is accepted is in the list. -/
theorem named_of_pick {side : Action.Side} {name : String} (hname : name ≠ "")
    (hpick : (session.run (Action.pick side (some name))).2 = .ok true) :
    Branch.named name session.flow.branches = true := by
  by_contra hnot
  rw [Bool.not_eq_true] at hnot
  have hgiven : Action.nonEmpty (some name) = some name := by simp [Action.nonEmpty, hname]
  have hrefused : Action.pick side (some name) session = .ok false session := by
    unfold Action.pick
    rw [hgiven]
    dsimp only [bind, EStateM.bind, get, getThe, MonadStateOf.get, EStateM.get, Option.map_some]
    rw [hnot]
    rfl
  unfold run at hpick
  rw [hrefused] at hpick
  cases hpick

/-- A name that is picked is in the list of the repository that was selected when branches were ready
last.  This is the selected one, unless branches are loading or have failed to come. -/
theorem picked_from {parts : Parts} {session : Session} (hmake : make parts = .ok session)
    {limit : Seconds} {ready : List (String × Reply)} (hcache : parts.cache = .fresh limit ready)
    (events : List FlowEvent) (side : Action.Side) {name : String} (hname : name ≠ "")
    (hpick : ((session.after events).run (Action.pick side (some name))).2 = .ok true) :
    let now := session.after events
    ∃ repo, session.ShownFrom events repo ∧ now.cache.Ended repo (.ok now.flow.branches) ∧
      Branch.named name now.flow.branches = true ∧
      (now.flow.repo = some repo ∨ now.flow.stage = .repoSelected ∨
        now.flow.stage = .branchesLoading) := by
  intro now
  have hsound := (sound_of_make hmake hcache).1
  have hnamed := named_of_pick hname hpick
  have hshown := hsound.listShown_append (listShown_of_make hmake) events
  rw [List.nil_append] at hshown
  rcases hshown with ⟨hnone, -⟩ | ⟨repo, hfrom, hcurrent⟩
  · rw [hnone] at hnamed
    cases hnamed
  refine ⟨repo, hfrom, ?_, hnamed, hcurrent⟩
  -- the list had come in when branches were ready, and a fetch that has ended stays
  obtain ⟨earlier, later, rfl, hready, hsame, -⟩ := hfrom
  have hearlier := (hsound.after earlier).sound
  obtain ⟨hstage, hrepo⟩ := Prod.mk.inj hready
  obtain ⟨other, hother, hended, -⟩ := hearlier.ready hstage
  obtain rfl := Option.some.inj (hrepo.symm.trans hother)
  have hlater := (hearlier.after later).later
  rw [← after_append] at hlater
  rw [hsame] at hended
  exact hlater.ended hended

/-- The list of a repository has come in, another repository is selected, and its branches are
loading. -/
def leftBehind : List FlowEvent :=
  [.begin (.selectRepo "polkadot"), .turn 0, .turn 0, .turn 0,
    .answerFetch 0 (.answer [⟨"master", "a1"⟩, ⟨"gav-xcm", "b2"⟩])] ++
    List.replicate 6 (.turn 0) ++
    [.begin (.selectRepo "substrate"), .turn 0, .turn 0, .turn 0]

def affirms : Except Crash Bool → Bool
  | .ok given => given
  | .error _ => false

theorem eq_of_affirms {result : Except Crash Bool} (h : affirms result = true) :
    result = .ok true := by
  cases result with
  | ok given => exact congrArg Except.ok h
  | error crash => cases h

/-- A branch of the repository that was left is picked and remembered, though no fetch of the selected
repository has ended. -/
theorem pick_leftBehind : ∃ session, make standardParts = .ok session ∧
    let now := session.after leftBehind
    let picked := now.run (Action.pick .old (some "gav-xcm"))
    picked.2 = .ok true ∧ picked.1.store.get? .first = some "gav-xcm" ∧
      now.flow.repo = some "substrate" ∧ ∀ result, ¬ now.cache.Ended "substrate" result := by
  have hrun : ((make standardParts).toOption.any fun session =>
      let now := session.after leftBehind
      let picked := now.run (Action.pick .old (some "gav-xcm"))
      affirms picked.2 = true ∧ picked.1.store.get? .first = some "gav-xcm" ∧
        now.flow.repo = some "substrate" ∧
        (now.cache.fetches.all fun fetch =>
          fetch.repo ≠ "substrate" || fetch.result.isNone) = true) = true := by decide +kernel
  cases hmake : make standardParts with
  | error missing =>
    rw [hmake] at hrun
    cases hrun
  | ok session =>
    simp only [hmake, Except.toOption, Option.any_some, decide_eq_true_eq] at hrun
    obtain ⟨hpicked, hstored, hrepo, hfetches⟩ := hrun
    refine ⟨session, rfl, eq_of_affirms hpicked, hstored, hrepo, ?_⟩
    rintro result ⟨fetch, hmem, hname, hresult⟩
    have hopen := List.all_eq_true.mp hfetches fetch hmem
    rw [hname, hresult] at hopen
    cases hopen

/-- A pick need not be in a list that was fetched for the selected repository. -/
theorem picked_stale : ¬ ∀ (session : Session) (events : List FlowEvent) (side : Action.Side)
    (name : String), make standardParts = .ok session → name ≠ "" →
    ((session.after events).run (Action.pick side (some name))).2 = .ok true →
    ∃ repo branches, (session.after events).flow.repo = some repo ∧
      (session.after events).cache.Ended repo (.ok branches) ∧
      Branch.named name branches = true := by
  intro hall
  obtain ⟨session, hmake, hpicked, -, hrepo, hnever⟩ := pick_leftBehind
  obtain ⟨repo, branches, hsame, hended, -⟩ :=
    hall session leftBehind .old "gav-xcm" hmake (by decide) hpicked
  obtain rfl := Option.some.inj (hrepo.symm.trans hsame)
  exact hnever _ hended

theorem picked_from_leftBehind : ∃ session repo, make standardParts = .ok session ∧
    session.ShownFrom leftBehind repo ∧
    Branch.named "gav-xcm" (session.after leftBehind).flow.branches = true ∧
    (session.after leftBehind).flow.repo ≠ some repo := by
  obtain ⟨session, hmake, hpicked, -, hrepo, hnever⟩ := pick_leftBehind
  have hcache : standardParts.cache = .fresh (.whole 30) [] := rfl
  have hname : "gav-xcm" ≠ "" := by decide
  obtain ⟨repo, hfrom, hended, hnamed, -⟩ :=
    picked_from hmake hcache leftBehind .old hname hpicked
  refine ⟨session, repo, hmake, hfrom, hnamed, fun hsame => ?_⟩
  obtain rfl := Option.some.inj (hrepo.symm.trans hsame)
  exact hnever _ hended

end Session

end BranchCompare
