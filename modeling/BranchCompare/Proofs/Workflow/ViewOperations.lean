import BranchCompare.Proofs.Workflow.Views

/-!
# How operations change what is shown

The stretches of operations one by one, from the loads that they end with to their beginnings: all
of them change the view by steps (`tends_first`, `tends_followLoad`).  The end of a listing leaves
the view alone (`view_endListing`), and the selection of a repository begins by showing it
(`leads_selectRepo_view`).
-/

namespace BranchCompare

open BranchCompare.Action (Side)

namespace Action

variable {β : Type}

/-! ## Loads -/

/-- A selection is kept, and then the branches are loaded. -/
theorem selectRepo_eq (task : TaskId) (repo : String) (restoring : Bool) :
    selectRepo task repo restoring = (do
      modifyFlow fun flow =>
        { flow with error := none, repo := some repo, stage := .repoSelected }
      keep .repo .repo (some repo)
      loadBranches task repo false restoring) := by
  simp only [selectRepo, keep, bind_assoc]
  rfl

/-- The view of a session shows the selection that was kept. -/
theorem leads_keepRepo {session : Session} (h : session.view.Tidy) (repo : String) :
    Leads (do
        modifyFlow fun flow =>
          { flow with error := none, repo := some repo, stage := .repoSelected }
        keep .repo .repo (some repo)) session
      (fun _ after => View.Selects repo session.view after.view) fun _ _ => False := by
  rw [leads_bind, leads_modifyFlow]
  let chosen : Session := { session with flow := { session.flow with
    error := none, repo := some repo, stage := .repoSelected } }
  have htidy : chosen.view.Tidy := ⟨h.writable, h.page, h.wired, h.there⟩
  refine Leads.mono (leads_keep htidy .repo .repo (some repo)) ?_ fun _ _ hfalse => hfalse
  rintro _ after ⟨document, page, hdocument, hpage, -, -, hview⟩
  rw [hview]
  exact .intro hdocument hpage

/-- The picks are made from a list of branches and shown. -/
def choosePicks (branches : List Branch) : Action Unit := do
  let oldInUrl ← param "old" none
  let first := Branch.choose branches oldInUrl ((← get).store.get? .first)
  let newInUrl ← param "new" none
  let second := Branch.choose branches newInUrl ((← get).store.get? .second)
  setControl .old (valueOf first)
  setControl .new (valueOf second)
  modifyFlow fun flow => { flow with branches := branches, first := first, second := second }

/-- The picks are made by what the URL and the store say of the sides. -/
theorem leads_choosePicks {session : Session} (branches : List Branch)
    {inUrl : Side → Option String}
    (h : ∀ side, session.page.param side.control.label none = .ok (inUrl side)) :
    Leads (choosePicks branches) session
      (fun _ after => after.view = session.view.apply branches inUrl) fun _ _ => False := by
  have hold : session.page.param "old" none = .ok (inUrl .old) := h .old
  have hnew : session.page.param "new" none = .ok (inUrl .new) := h .new
  unfold choosePicks param setControl
  rw [leads_bind, leads_readPage, hold]
  dsimp only
  rw [leads_bind, leads_get, leads_bind, leads_readPage, hnew]
  dsimp only
  rw [leads_bind, leads_get, leads_bind, leads_modify, leads_bind, leads_modify, leads_modifyFlow]
  unfold View.apply
  dsimp only
  rw [← Session.view_setControl, ← Session.view_setControl]
  refine View.ext rfl rfl ?_ rfl rfl rfl rfl rfl rfl
  funext side
  cases side <;> rfl

/-- New options matter no more once the control is given a value. -/
theorem leads_offerBranches (session : Session) (name : ControlName) (branches : List Branch) :
    Leads (offerBranches name branches) session
      (fun _ after => ∀ value, after.view.set name value = session.view.set name value)
      fun _ _ => False := by
  unfold offerBranches
  rw [leads_modify]
  intro value
  refine View.ext rfl rfl rfl rfl rfl rfl rfl ?_ ?_
  · funext other
    simp only [View.set, Session.view, Session.control?_modifyControl]
    split <;> simp [Function.comp_def]
  · funext other
    simp only [View.set, Session.view, Session.control?_modifyControl]
    split
    · rw [Option.map_map]
      congr 2
      funext control
      simp only [Function.comp]
      split <;> rfl
    · rfl

/-- The view shows branches that have come. -/
theorem leads_applyBranches_view {session : Session} (branches : List Branch)
    {inUrl : Side → Option String}
    (h : ∀ side, session.page.param side.control.label none = .ok (inUrl side)) :
    Leads (applyBranches branches) session
      (fun _ after => after.view = session.view.apply branches inUrl) fun _ _ => False := by
  show Leads (do
    offerBranches .old branches
    offerBranches .new branches
    choosePicks branches) session _ _
  rw [leads_bind]
  refine (leads_offerBranches session .old branches).mono (fun _ s1 h1 => ?_) fun _ _ hfalse => hfalse
  rw [leads_bind]
  refine (leads_offerBranches s1 .new branches).mono (fun _ s2 h2 => ?_) fun _ _ hfalse => hfalse
  have hboth : ∀ first second, (s2.view.set .old first).set .new second =
      (session.view.set .old first).set .new second := by
    intro first second
    rw [View.set_comm _ (by decide), h2, View.set_comm _ (by decide), h1]
  have hsame := hboth .null .null
  have hpage : s2.page = session.page := by
    simpa only [View.set, Session.view] using congrArg View.page hsame
  rw [← hpage] at h
  rw [← View.apply_congr hboth]
  exact leads_choosePicks branches h

theorem tends_applyBranches (branches : List Branch) : Tends (applyBranches branches) := by
  intro session
  refine Leads.tends ?_ fun htidy => ?_
  · refine (leads_applyBranches branches session).mono ?_ fun _ _ halike => ?_
    · rintro _ after ⟨first, second, -, -, halike⟩
      rw [halike.flow]
    · rw [halike.flow]
  · choose inUrl hurl using fun side : Side =>
      Page.param_of_wellFormed htidy.page side.control.label none
    refine (leads_applyBranches_view branches hurl).mono (fun _ after hview => ?_)
      fun _ _ hfalse => hfalse.elim
    rw [hview]
    exact .single (.applies branches hurl)

theorem tends_endChoice (repo : String) (restoring : Bool) (result : LoadEnd) :
    Tends (endChoice repo restoring result) := by
  unfold endChoice
  refine tends_get_bind fun session => ?_
  cases result with
  | ok branches =>
    refine tends_exitLoading.bind fun _ => ?_
    split
    · refine (tends_applyBranches branches).bind fun _ => ?_
      exact (tends_stage _).bind fun _ => tends_pure _
    · exact tends_pure _
  | error error =>
    cases error with
    | unavailable failure =>
      dsimp only
      split
      · refine (tends_stage _).bind fun _ => (tends_fail _).bind fun _ => ?_
        exact tends_exitLoading.bind fun _ => tends_pure _
      · exact tends_exitLoading.bind fun _ => tends_pure _
    | crashed crash => exact tends_exitLoading.bind fun _ => tends_throw crash

theorem tends_compareUrl (preset : Preset) (old new : String) {next : String → Action β}
    (hnext : ∀ url, Url.WellFormed url → Tends (next url)) :
    Tends (compareUrl preset old new >>= next) := by
  intro session
  rw [leads_bind]
  unfold compareUrl CompareRequest.Draft.url
  cases (CompareRequest.Draft.ofBranches preset old new).check with
  | ok request => exact hnext request.url (Url.wellFormed_compare request) session
  | issues found => exact Session.Tends.refl session

theorem tends_openUrl {url : String} (h : Url.WellFormed url) : Tends (openUrl url) := by
  intro session
  rw [leads_openUrl]
  exact ⟨rfl, fun _ => .single (.opens h)⟩

theorem tends_endComparison (row : ChangeRequest.Row) (preset : Preset) (result : LoadEnd) :
    Tends (endComparison row preset result) := by
  unfold endComparison
  cases result with
  | ok branches =>
    refine tends_exitLoading.bind fun _ => ?_
    refine tends_compareUrl _ _ _ fun url hurl => ?_
    exact (tends_openUrl hurl).bind fun _ => tends_pure _
  | error error =>
    cases error with
    | unavailable failure =>
      refine (tends_fail _).bind fun _ => ?_
      exact tends_exitLoading.bind fun _ => tends_pure _
    | crashed crash => exact tends_exitLoading.bind fun _ => tends_throw crash

theorem tends_followLoad (purpose : Purpose)
    (outcome : BranchCache × LoadTurn × List CacheSignal) : Tends (followLoad purpose outcome) := by
  obtain ⟨cache, turn, signals⟩ := outcome
  have htake : Tends (modify fun session =>
      ({ session with cache := cache } : Session).enqueue (signals.map .cache) : Action PUnit) :=
    Leaves.tends (leaves_modify fun _ => rfl)
  unfold followLoad
  refine htake.bind fun _ => ?_
  cases turn with
  | waits waiting => exact tends_pure _
  | ended result =>
    cases purpose with
    | choice repo restoring => exact tends_endChoice repo restoring result
    | comparison row preset => exact tends_endComparison row preset result

theorem tends_beginLoading (task : TaskId) (repo : String) (forced : Bool) (purpose : Purpose) :
    Tends (beginLoading task repo forced purpose) := by
  unfold beginLoading
  refine tends_enterLoading.bind fun _ => ?_
  exact tends_get_bind fun session => tends_followLoad purpose _

theorem tends_loadBranches (task : TaskId) (repo : String) (forced restoring : Bool) :
    Tends (loadBranches task repo forced restoring) := by
  unfold loadBranches
  exact (tends_stage _).bind fun _ => tends_beginLoading _ _ _ _

/-! ## The operations -/

/-- A selection is seen before anything else is. -/
theorem leads_selectRepo_view (session : Session) (task : TaskId) (repo : String)
    (restoring : Bool) :
    Leads (selectRepo task repo restoring) session
      (fun _ after => session.view.Tidy →
        ∃ middle, View.Selects repo session.view middle ∧ middle.Goes after.view)
      fun _ after => session.view.Tidy →
        ∃ middle, View.Selects repo session.view middle ∧ middle.Goes after.view := by
  by_cases htidy : session.view.Tidy
  · rw [selectRepo_eq, ← bind_assoc, leads_bind]
    refine (leads_keepRepo htidy repo).mono (fun _ s1 hselects => ?_) fun _ _ hfalse => hfalse.elim
    have h1 : s1.view.Tidy := (View.Step.selects repo hselects).tidy htidy
    exact (tends_loadBranches task repo false restoring s1).mono
      (fun _ _ h _ => ⟨_, hselects, h.goes h1⟩) fun _ _ h _ => ⟨_, hselects, h.goes h1⟩
  · unfold Leads
    split
    · exact fun h => absurd h htidy
    · exact fun h => absurd h htidy

theorem tends_selectRepo (task : TaskId) (repo : String) (restoring : Bool) :
    Tends (selectRepo task repo restoring) := by
  intro session
  refine Leads.tends ?_ fun htidy => ?_
  · unfold selectRepo
    rw [leads_bind, leads_modifyFlow]
    have hrest : Leaves (fun session : Session => session.flow.requestsRepo) (do
        setControl .repo (.text repo)
        remember .repo (some repo)
        editPage fun page => page.replaceParam ControlName.repo.label (.text repo)
        loadBranches task repo false restoring) := by
      refine (aside_setControl _ _).requests.bind fun _ => ?_
      refine (aside_remember _ _).requests.bind fun _ => ?_
      refine (aside_replaceParam _ _).requests.bind fun _ => ?_
      exact fun session => (tends_loadBranches task repo false restoring session).mono
        (fun _ _ h => h.requests) fun _ _ h => h.requests
    exact hrest _
  · refine (leads_selectRepo_view session task repo restoring).mono (fun _ _ h => ?_)
      fun _ _ h => ?_
    · obtain ⟨middle, hselects, hgoes⟩ := h htidy
      exact .head (.selects repo hselects) hgoes
    · obtain ⟨middle, hselects, hgoes⟩ := h htidy
      exact .head (.selects repo hselects) hgoes

/-- A listener that is added to a control is seen at the control. -/
theorem view_listen (session : Session) (name : ControlName) (listener : FlowListener)
    (hthere : (session.view.value name).isSome = true) :
    (session.modifyControl name fun control =>
      { control with control := control.control.listen listener }).view =
      session.view.listen name listener := by
  obtain ⟨control, hcontrol⟩ : ∃ control, session.control? name = some control := by
    rw [← Option.isSome_iff_exists]
    simpa [Session.view] using hthere
  refine View.ext rfl rfl rfl rfl rfl rfl rfl ?_ ?_
  · funext other
    simp only [Session.view, View.listen, Session.control?_modifyControl]
    split
    · rw [Option.map_map]
      rfl
    · rfl
  · funext other
    simp only [Session.view, View.listen, Session.control?_modifyControl]
    split
    · next heq =>
      rw [heq, hcontrol]
      rfl
    · rfl

theorem tends_bindControls : Tends bindControls := by
  intro session
  unfold bindControls
  rw [leads_bind, leads_get]
  dsimp only
  split
  · next hbound =>
    rw [leads_set]
    refine ⟨rfl, fun htidy => .single ?_⟩
    have hthere : ∀ name ∈ Session.neededControls, (session.view.value name).isSome = true :=
      htidy.there
    have hrepo := view_listen { session with isBound := true } .repo .pickRepo
      (hthere .repo (by decide))
    have hold := view_listen _ .old .pickFirst (by rw [hrepo]; exact hthere .old (by decide))
    rw [view_listen, hold, hrepo]
    · exact .binds (by simpa [Session.view] using hbound)
    · rw [hold, hrepo]
      exact hthere .new (by decide)
  · exact .refl session

theorem tends_restore (task : TaskId) : Tends (restore task) := by
  unfold restore
  refine tends_bindControls.bind fun _ => (tends_param _ _).bind fun inUrl => ?_
  refine tends_get_bind fun session => ?_
  split
  · exact tends_selectRepo task _ true
  · exact tends_pure _

theorem tends_refresh (task : TaskId) : Tends (refresh task) := by
  unfold refresh
  refine tends_get_bind fun session => ?_
  split
  · exact tends_clearError.bind fun _ => tends_loadBranches _ _ _ _
  · exact tends_pure _

theorem tends_orParam (given : Option String) (name default : String) :
    Tends (orParam given name default) := by
  unfold orParam
  split
  · exact tends_pure _
  · rw [map_eq_pure_bind]
    exact (tends_param _ _).bind fun _ => tends_pure _

theorem tends_list (task : TaskId) (owner repo : Option String) : Tends (list task owner repo) := by
  rw [list_eq]
  refine tends_get_bind fun session => ?_
  refine (tends_orParam _ _ _).bind fun owner => (tends_orParam _ _ _).bind fun repo => ?_
  unfold beginListing
  refine tends_clearError.bind fun _ => ?_
  split
  · exact (tends_fail _).bind fun _ => tends_pure _
  refine tends_enterLoading.bind fun _ => ?_
  have henqueue : Tends
      (modify fun session => session.enqueue [.listing task .make] : Action PUnit) :=
    Leaves.tends (leaves_modify fun _ => rfl)
  refine henqueue.bind fun _ => ?_
  dsimp only
  split
  · have harm : Tends (modify fun session =>
        { session with timeline := session.timeline.arm session.limit (.task task) } :
          Action PUnit) := Leaves.tends (leaves_modify fun _ => rfl)
    exact harm.bind fun _ => tends_pure _
  · exact tends_pure _

theorem tends_beginComparison (task : TaskId) (row : ChangeRequest.Row) (table : PresetTable)
    (repo : Option String) : Tends (beginComparison task row table repo) := by
  unfold beginComparison
  split
  · exact tends_beginLoading _ _ _ _
  · exact (tends_fail _).bind fun _ => tends_pure _

theorem tends_compare (task : TaskId) (row : ChangeRequest.Row) (repo : Option String) :
    Tends (compare task row repo) := by
  rw [compare_eq]
  refine tends_clearError.bind fun _ => ?_
  split
  · exact (tends_fail _).bind fun _ => tends_pure _
  refine tends_get_bind fun session => ?_
  split
  · exact (tends_pure _).bind fun found => tends_beginComparison task row _ found
  · exact (tends_param _ _).bind fun found => tends_beginComparison task row _ found

theorem tends_first (task : TaskId) (operation : Operation) : Tends (first task operation) := by
  cases operation with
  | restore => exact tends_restore task
  | selectRepo repo => exact tends_selectRepo task repo false
  | refresh => exact tends_refresh task
  | list owner repo => exact tends_list task owner repo
  | compare row repo => exact tends_compare task row repo

theorem tends_launch : Tends launch := by
  unfold launch
  refine tends_clearError.bind fun _ => ?_
  refine tends_get_bind fun session => ?_
  dsimp only
  split
  · refine tends_get_bind fun session => ?_
    split
    · refine tends_compareUrl _ _ _ fun url hurl => ?_
      refine (tends_stage _).bind fun _ => ?_
      exact (tends_openUrl hurl).bind fun _ => tends_pure _
    · exact (tends_fail _).bind fun _ => tends_pure _
  · exact (tends_fail _).bind fun _ => tends_pure _

theorem view_endListing (owner repo : String) (result : CallEnd (List ChangeRequest)) :
    Leaves Session.view (endListing owner repo result) := by
  have hfail : ∀ message, Leaves Session.view (fail message) := fun message =>
    leaves_modify fun _ => rfl
  have hexit : Leaves Session.view exitLoading := leaves_modify fun _ => rfl
  have hbadly : ∀ message, Leaves Session.view (endListingBadly message) := fun message =>
    (hfail message).bind fun _ => hexit.bind fun _ => leaves_pure _
  cases result with
  | answer requests =>
    refine hexit.bind fun _ => ?_
    unfold showRequests
    split
    · refine Leaves.bind (fun session => ?_) fun _ => leaves_pure _
      rw [leads_modifyFlow]
      rfl
    · exact leaves_throw _
  | unavailable failure => exact hbadly failure.message
  | outOfTime => exact hbadly _
  | crashed crash => exact hexit.bind fun _ => leaves_throw crash

end Action

end BranchCompare
