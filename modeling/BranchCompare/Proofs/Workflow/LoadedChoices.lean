import BranchCompare.Proofs.Workflow.Candidates
import BranchCompare.Proofs.Workflow.Choices
import BranchCompare.Proofs.Workflow.Fixtures
import BranchCompare.Proofs.Workflow.KeptPicks

/-!
# What a load makes shown

A load returns true when the list of its repository has come and the repository is still the selected
one (`Lands.returns`).  Then the list is presented (`Session.Presents`): its names are the options of
both selectors, and each selector has the first candidate that names a branch of it.  The candidates
are the value in the URL as it is then, the branch remembered then, and the standard one.

The list is also presented if the load was begun in order to go back to a repository, which itself
returns nothing (`Session.LoadReturnsTrue`).
-/

namespace BranchCompare

open BranchCompare.Action (Side nonEmpty valueOf choiceValue)

def LoadTurn.endOf? (repo : String) : LoadTurn → Option (String × LoadEnd)
  | .ended result => some (repo, result)
  | .waits _ => none

def TaskState.returned? : TaskState → Option OperationValue
  | .ended (.value value) => some value
  | _ => none

theorem TaskState.eq_of_returned? {state : TaskState} {value : OperationValue}
    (h : state.returned? = some value) : state = .ended (.value value) := by
  unfold returned? at h
  split at h
  · exact Option.some.inj h ▸ rfl
  · cases h

namespace Session

/-- The end of the load for a choice that an operation begins with, if the load ends at once. -/
def loadedFirst? (session : Session) (task : TaskId) : Operation → Option (String × LoadEnd)
  | .restore => session.restored?.bind fun repo =>
    (session.cache.load repo false task).2.1.endOf? repo
  | .selectRepo repo => (session.cache.load repo false task).2.1.endOf? repo
  | .refresh => (nonEmpty session.flow.repo).bind fun repo =>
    (session.cache.load repo true task).2.1.endOf? repo
  | .list _ _ | .compare _ _ => none

/-- The end of a load for a choice that the operation learns of at its next turn, with the repository
whose branches are loaded. -/
def loaded? (session : Session) (task : TaskId) : Option (String × LoadEnd) :=
  match session.tasks[task]? with
  | some (.begins operation) => session.loadedFirst? task operation
  | some (.loading waiting (.choice repo _) false) =>
    (session.cache.resume waiting task).2.1.endOf? repo
  | _ => none

/-- The names of the branches are the options of the two selectors, as far as these have options. -/
def Offers (session : Session) (branches : List Branch) : Prop :=
  ∀ (side : Side) control, session.control? side.control = some control →
    control.hasOptions = true →
    control.control.options = branches.map fun branch => .text branch.name

/-- The branches are shown and offered.  Each selector has the first candidate that names one of
them. -/
structure Presents (session : Session) (branches : List Branch) : Prop where
  list : session.flow.branches = branches
  offers : session.Offers branches
  value : ∀ (side : Side) control, session.control? side.control = some control →
    control.control.value = valueOf (session.view.picked side)
  picked : ∃ found, Query.pairs session.page.url = .ok found ∧ ∀ side : Side,
    session.view.picked side = Branch.firstNamed? branches (found.lookup side.control.label)
      (session.store.get? side.key)

/-- A stretch that learns of this end of a load returns true only with a list of the selected
repository, and presents such a list. -/
structure Lands (loaded? : Option (String × LoadEnd)) (given : Turn) (after : Session) : Prop where
  returns : given.state = .ended (.value (.ready true)) →
    ∃ repo branches, loaded? = some (repo, .ok branches) ∧ after.flow.repo = some repo
  presents : ∀ repo branches, loaded? = some (repo, .ok branches) →
    after.flow.repo = some repo → after.Presents branches

variable {session after : Session} {branches : List Branch} {given : Turn}

/-- One change for each of the two selectors. -/
theorem control?_modifyBoth (session : Session) (change : Side → FlowControl → FlowControl)
    (side : Side) :
    ((session.modifyControl .old (change .old)).modifyControl .new (change .new)).control?
      side.control = (session.control? side.control).map (change side) := by
  rw [control?_modifyControl, control?_modifyControl]
  cases side <;> rfl

/-- The stage does not matter for what is presented. -/
theorem Presents.setStage (h : session.Presents branches) (stage : Stage) :
    { session with flow := { session.flow with stage := stage } }.Presents branches :=
  ⟨h.list, h.offers, h.value, h.picked⟩

/-- Without the end of a load there is nothing to present. -/
theorem lands_none (h : given.state ≠ .ended (.value (.ready true))) : Lands none given after :=
  ⟨fun hgiven => absurd hgiven h, nofun⟩

/-- A list that is dropped returns false. -/
theorem ready_ne_dropped (restoring : Bool) :
    (Turn.ended (choiceValue restoring false)).state ≠ .ended (.value (.ready true)) := by
  cases restoring <;> nofun

end Session

namespace Action

variable {session : Session} {task : TaskId}

/-! ## Lists that are presented -/

/-- A selector with the names of the branches as its options, if it has options. -/
def offer (branches : List Branch) (control : FlowControl) : FlowControl :=
  if control.hasOptions then
    { control with control := control.control.setOptions (branches.map fun b => .text b.name) }
  else control

/-- The options of a selector are the names of the branches. -/
theorem options_offer {branches : List Branch} {control : FlowControl}
    (h : (offer branches control).hasOptions = true) :
    (offer branches control).control.options = branches.map fun branch => .text branch.name := by
  unfold offer at h ⊢
  split
  · rfl
  · next hnone =>
    rw [if_neg hnone] at h
    exact absurd h hnone

/-- Both selectors are offered the branches. -/
theorem leads_offerBoth (session : Session) (branches : List Branch) :
    Leads (do
        offerBranches .old branches
        offerBranches .new branches) session
      (fun _ after => after.Offers branches ∧ after.flow = session.flow)
      fun _ _ => False := by
  unfold offerBranches
  rw [leads_bind, leads_modify, leads_modify]
  refine ⟨fun side control hcontrol hoptions => ?_, rfl⟩
  have hoffered := session.control?_modifyBoth (fun _ => offer branches) side
  obtain ⟨before, -, rfl⟩ := Option.map_eq_some_iff.mp (hoffered.symm.trans hcontrol)
  exact options_offer hoptions

/-- The picks are made among the branches and shown. -/
theorem leads_choosePicks_presents {branches : List Branch} (hoffers : session.Offers branches) :
    Leads (choosePicks branches) session
      (fun _ after => after.Presents branches ∧ after.flow.repo = session.flow.repo)
      fun _ _ => True := by
  unfold choosePicks param setControl
  rw [leads_bind, leads_readPage]
  cases hfound : Query.pairs session.page.url with
  | error fault =>
    have hparam : session.page.param "old" none = .error fault := by
      unfold Page.param
      rw [hfound]
      rfl
    rw [hparam]
    trivial
  | ok found =>
    rw [Page.param_of_pairs session.page hfound]
    dsimp only
    rw [leads_bind, leads_get, leads_bind, leads_readPage, Page.param_of_pairs session.page hfound]
    dsimp only
    rw [leads_bind, leads_get, leads_bind, leads_modify, leads_bind, leads_modify, leads_modifyFlow]
    let chosen : Side → Option String := fun side =>
      Branch.choose branches (Page.paramOf side.control.label none found)
        (session.store.get? side.key)
    have hset := session.control?_modifyBoth fun side control =>
      { control with control := control.control.set (valueOf (chosen side)) }
    refine ⟨⟨rfl, fun side control hcontrol hoptions => ?_, fun side control hcontrol => ?_,
      found, hfound, fun side => ?_⟩, rfl⟩
    · obtain ⟨before, hbefore, rfl⟩ := Option.map_eq_some_iff.mp ((hset side).symm.trans hcontrol)
      exact hoffers side before hbefore hoptions
    · obtain ⟨before, -, rfl⟩ := Option.map_eq_some_iff.mp ((hset side).symm.trans hcontrol)
      cases side <;> rfl
    · cases side with
      | old => exact Branch.choose_paramOf ..
      | new => exact Branch.choose_paramOf ..

/-- Branches that have come are presented. -/
theorem leads_applyBranches_presents (session : Session) (branches : List Branch) :
    Leads (applyBranches branches) session
      (fun _ after => after.Presents branches ∧ after.flow.repo = session.flow.repo)
      fun _ _ => True := by
  show Leads (do
    (do
      offerBranches .old branches
      offerBranches .new branches)
    choosePicks branches) session _ _
  rw [leads_bind]
  refine (leads_offerBoth session branches).mono ?_ fun _ _ _ => trivial
  rintro _ offered ⟨hoffers, hflow⟩
  rw [← hflow]
  exact leads_choosePicks_presents hoffers

/-! ## Ends of loads -/

/-- The end of a choice lands: only its own list makes it return true. -/
theorem leads_endChoice_lands (session : Session) (repo : String) (restoring : Bool)
    (result : LoadEnd) :
    Leads (endChoice repo restoring result) session
      (fun given after => Session.Lands (some (repo, result)) given after) fun _ _ => True := by
  unfold endChoice
  rw [leads_bind, leads_get]
  cases result with
  | ok branches =>
    refine aside_exitLoading.leads_bind (fun _ s1 h1 => ?_) fun _ _ _ => trivial
    have hrepo : s1.flow.repo = session.flow.repo := congrArg Flow.repo h1.flow
    split
    · next hcurrent =>
      rw [leads_bind]
      refine (leads_applyBranches_presents s1 branches).mono ?_ fun _ _ _ => trivial
      rintro _ s2 ⟨hpresents, hsame⟩
      rw [leads_bind, leads_modifyFlow]
      refine ⟨fun _ => ⟨repo, branches, rfl, ?_⟩, ?_⟩
      · exact (hsame.trans hrepo).trans hcurrent
      · rintro _ _ heq -
        cases heq
        exact hpresents.setStage _
    · next hdropped =>
      -- another repository was selected meanwhile, and still is
      refine leads_pure.mpr ⟨fun hgiven => absurd hgiven (Session.ready_ne_dropped restoring), ?_⟩
      rintro _ _ heq hcurrent
      cases heq
      exact absurd (hrepo.symm.trans hcurrent) hdropped
  | error error =>
    have hnothing : ∀ after : Session, Session.Lands (some (repo, .error error))
        (Turn.ended (choiceValue restoring false)) after := fun after =>
      ⟨fun hgiven => absurd hgiven (Session.ready_ne_dropped restoring), nofun⟩
    cases error with
    | unavailable failure =>
      dsimp only
      split <;> exact hnothing _
    | crashed crash => trivial

theorem leads_followChoice_lands (session : Session) (repo : String) (restoring : Bool)
    (outcome : BranchCache × LoadTurn × List CacheSignal) :
    Leads (followLoad (.choice repo restoring) outcome) session
      (fun given after => Session.Lands (outcome.2.1.endOf? repo) given after) fun _ _ => True := by
  obtain ⟨cache, turn, signals⟩ := outcome
  unfold followLoad
  rw [leads_bind, leads_modify]
  cases turn with
  | ended result => exact leads_endChoice_lands _ repo restoring result
  | waits waiting => exact leads_pure.mpr (Session.lands_none nofun)

theorem leads_loadBranches_lands (session : Session) (task : TaskId) (repo : String)
    (forced restoring : Bool) :
    Leads (loadBranches task repo forced restoring) session
      (fun given after =>
        Session.Lands ((session.cache.load repo forced task).2.1.endOf? repo) given after)
      fun _ _ => True := by
  unfold loadBranches beginLoading
  rw [leads_bind, leads_modifyFlow]
  refine aside_enterLoading.leads_bind (fun _ s1 h1 => ?_) fun _ _ _ => trivial
  rw [leads_bind, leads_get]
  have hcache : s1.cache = session.cache := h1.cache
  rw [hcache]
  exact leads_followChoice_lands s1 repo restoring _

/-! ## Operations -/

/-- The action does not return what a load for a choice does when its list is presented. -/
def Apart (action : Action Turn) : Prop :=
  ∀ session, Leads action session
    (fun given _ => given.state ≠ .ended (.value (.ready true))) fun _ _ => True

theorem apart_bind {α : Type} {action : Action α} {next : α → Action Turn}
    (hnext : ∀ value, Apart (next value)) : Apart (action >>= next) := by
  intro session
  rw [leads_bind]
  unfold Leads
  split
  · next value after _ => exact hnext value after
  · trivial

theorem apart_pure {given : Turn} (h : given.state ≠ .ended (.value (.ready true))) :
    Apart (pure given) := fun _ => h

/-- What stays apart lands without a load. -/
theorem Apart.lands {action : Action Turn} (h : Apart action) (session : Session) :
    Leads action session (fun given after => Session.Lands none given after) fun _ _ => True :=
  (h session).mono (fun _ _ hgiven => Session.lands_none hgiven) fun _ _ _ => trivial

theorem apart_endComparison (row : ChangeRequest.Row) (preset : Preset) (result : LoadEnd) :
    Apart (endComparison row preset result) := by
  unfold endComparison
  cases result with
  | ok branches => exact apart_bind fun _ => apart_bind fun _ => apart_bind fun _ => apart_pure nofun
  | error error =>
    cases error with
    | unavailable failure => exact apart_bind fun _ => apart_bind fun _ => apart_pure nofun
    | crashed crash => exact apart_bind fun _ _ => trivial

theorem apart_followComparison (row : ChangeRequest.Row) (preset : Preset)
    (outcome : BranchCache × LoadTurn × List CacheSignal) :
    Apart (followLoad (.comparison row preset) outcome) := by
  obtain ⟨cache, turn, signals⟩ := outcome
  refine apart_bind fun _ => ?_
  cases turn with
  | ended result => exact apart_endComparison row preset result
  | waits waiting => exact apart_pure nofun

/-- A listing stays apart from choices. -/
theorem apart_list (task : TaskId) (owner repo : Option String) : Apart (list task owner repo) := by
  rw [list_eq]
  refine apart_bind fun _ => apart_bind fun _ => apart_bind fun _ => apart_bind fun _ => ?_
  split
  · exact apart_bind fun _ => apart_pure nofun
  refine apart_bind fun _ => apart_bind fun _ => ?_
  split
  · exact apart_bind fun _ => apart_pure nofun
  · exact apart_pure nofun

theorem apart_compare (task : TaskId) (row : ChangeRequest.Row) (repo : Option String) :
    Apart (compare task row repo) := by
  have hbegin : ∀ table found, Apart (beginComparison task row table found) := by
    intro table found
    unfold beginComparison
    split
    · exact apart_bind fun _ => apart_bind fun _ => apart_followComparison row _ _
    · exact apart_bind fun _ => apart_pure nofun
  rw [compare_eq]
  refine apart_bind fun _ => ?_
  split
  · exact apart_bind fun _ => apart_pure nofun
  refine apart_bind fun _ => ?_
  split <;> exact apart_bind fun _ => hbegin _ _

theorem apart_endListing (owner repo : String) (result : CallEnd (List ChangeRequest)) :
    Apart (endListing owner repo result) := by
  have hbadly : ∀ message, Apart (endListingBadly message) := fun message =>
    apart_bind fun _ => apart_bind fun _ => apart_pure nofun
  cases result with
  | answer requests =>
    refine apart_bind fun _ => ?_
    unfold showRequests
    split
    · exact apart_bind fun _ => apart_pure nofun
    · exact fun _ => trivial
  | unavailable failure => exact hbadly failure.message
  | outOfTime => exact hbadly _
  | crashed crash => exact apart_bind fun _ _ => trivial

/-- A selection lands if its load ends at once. -/
theorem leads_selectRepo_lands (session : Session) (task : TaskId) (repo : String)
    (restoring : Bool) :
    Leads (selectRepo task repo restoring) session
      (fun given after =>
        Session.Lands ((session.cache.load repo false task).2.1.endOf? repo) given after)
      fun _ _ => True := by
  unfold selectRepo
  rw [leads_bind, leads_modifyFlow]
  refine (aside_setControl _ _).leads_bind (fun _ s1 h1 => ?_) fun _ _ _ => trivial
  refine (aside_remember _ _).leads_bind (fun _ s2 h2 => ?_) fun _ _ _ => trivial
  refine (aside_replaceParam _ _).leads_bind (fun _ s3 h3 => ?_) fun _ _ _ => trivial
  have hcache : s3.cache = session.cache := ((h1.trans h2).trans h3).cache
  rw [← hcache]
  exact leads_loadBranches_lands s3 task repo false restoring

/-- Each operation lands by its first turn, or waits. -/
theorem leads_first_lands (session : Session) (task : TaskId) (operation : Operation) :
    Leads (first task operation) session
      (fun given after => Session.Lands (session.loadedFirst? task operation) given after)
      fun _ _ => True := by
  cases operation with
  | selectRepo repo => exact leads_selectRepo_lands session task repo false
  | refresh =>
    show Leads (refresh task) session _ _
    unfold refresh clearError Session.loadedFirst?
    rw [leads_bind, leads_get]
    cases nonEmpty session.flow.repo with
    | none => exact leads_pure.mpr (Session.lands_none nofun)
    | some repo =>
      dsimp only
      rw [leads_bind, leads_modifyFlow]
      exact leads_loadBranches_lands _ task repo true false
  | restore =>
    show Leads (restore task) session _ _
    unfold restore param Session.loadedFirst? Session.restored?
    rw [leads_bind]
    refine (leads_bindControls_agrees session).mono ?_ fun _ _ _ => trivial
    rintro _ s1 ⟨hagrees, hpage, hsame⟩
    rw [leads_bind, leads_readPage, hpage]
    cases session.page.param "repo" none with
    | error fault => trivial
    | ok inUrl =>
      have hstored : s1.store.get? .repo = s1.remembered := rfl
      dsimp only
      rw [leads_bind, leads_get, hstored, hsame]
      cases nonEmpty (orElse inUrl session.remembered) with
      | none => exact leads_pure.mpr (Session.lands_none nofun)
      | some repo =>
        dsimp only [Option.bind_some]
        rw [← hagrees.cache]
        exact leads_selectRepo_lands s1 task repo true
  | list owner repo => exact (apart_list task owner repo).lands session
  | compare row repo => exact (apart_compare task row repo).lands session

end Action

namespace Session

variable {session now after : Session} {task : TaskId} {action : Action Turn} {given : Turn}

/-- Each stretch lands by the load that ends with it. -/
theorem Stretch.lands (hstretch : session.Stretch task action)
    (heq : action session = .ok given after) : Lands (session.loaded? task) given after := by
  unfold loaded?
  cases hstretch with
  | begins hs =>
    rw [hs]
    exact (Action.leads_first_lands session task _).ok heq
  | @resumes waiting purpose hs =>
    rw [hs]
    cases purpose with
    | choice repo restoring =>
      exact (Action.leads_followChoice_lands session repo restoring _).ok heq
    | comparison row preset =>
      exact ((Action.apart_followComparison row preset _).lands session).ok heq
  | answers hs hwake | expires hs hwake =>
    rw [hs]
    exact ((Action.apart_endListing _ _ _).lands session).ok heq

def returnedBy? (session : Session) (task : TaskId) : Option OperationValue :=
  session.tasks[task]?.bind TaskState.returned?

theorem ended_of_returnedBy? {value : OperationValue} (h : session.returnedBy? task = some value) :
    session.tasks[task]? = some (.ended (.value value)) := by
  obtain ⟨state, hstate, hvalue⟩ := Option.bind_eq_some_iff.mp h
  rw [hstate, TaskState.eq_of_returned? hvalue]

/-- A load for a choice has returned true.  The one with which an operation goes back to a repository
has if its list has come and the repository is the selected one; the operation itself returns
nothing. -/
def LoadReturnsTrue (before : Session) (task : TaskId) (after : Session) : Prop :=
  after.returnedBy? task = some (.ready true) ∨
  after.returnedBy? task = some .restored ∧
    ∃ repo branches, before.loaded? task = some (repo, .ok branches) ∧ after.flow.repo = some repo

/-- A load that returns true has the list of the selected repository, which is presented then: its
names are offered by both selectors, and each of these has the first that names a branch among the
value in the URL as it is then, the branch that is remembered then, and the standard one. -/
theorem presents_of_load {parts : Parts} (hreachable : Reachable parts now) {state : TaskState}
    {event : FlowEvent} (hs : now.tasks[task]? = some state) (hopen : state.isOver = false)
    (hreturns : now.LoadReturnsTrue task (now.step event)) :
    ∃ repo branches, now.loaded? task = some (repo, .ok branches) ∧
      (now.step event).flow.repo = some repo ∧ (now.step event).Presents branches ∧
      ∀ side : Side, ∃ control, (now.step event).control? side.control = some control := by
  have hthere : ∀ side : Side, ∃ control,
      (now.step event).control? side.control = some control := fun side =>
    (hreachable.step event).exists_control (by cases side <;> decide)
  obtain ⟨value, hvalue⟩ : ∃ value, (now.step event).returnedBy? task = some value :=
    hreturns.elim (fun hready => ⟨_, hready⟩) fun hrestored => ⟨_, hrestored.1⟩
  obtain ⟨place, action, given, after, rfl, hstretch, heq, hgiven, hstep⟩ :=
    returns_step hs hopen (ended_of_returnedBy? hvalue)
  have hlands : Lands (now.loaded? task) given after := hstretch.lands heq
  have hflow : (now.step (.turn place)).flow = after.flow := by
    rw [hstep]
    rfl
  have hloaded : ∃ repo branches, now.loaded? task = some (repo, .ok branches) ∧
      after.flow.repo = some repo := by
    rcases hreturns with hready | ⟨-, repo, branches, hload, hrepo⟩
    · obtain rfl : value = .ready true := Option.some.inj (hvalue.symm.trans hready)
      exact hlands.returns hgiven
    · exact ⟨repo, branches, hload, hflow ▸ hrepo⟩
  obtain ⟨repo, branches, hload, hrepo⟩ := hloaded
  obtain ⟨hlist, hoffers, hvalues, hpicked⟩ := hlands.presents repo branches hload hrepo
  refine ⟨repo, branches, hload, by rw [hflow, hrepo], ?_, hthere⟩
  -- after its stretch only the state of the operation is set
  rw [hstep]
  exact ⟨hlist, hoffers, hvalues, hpicked⟩

def rememberingParts : Parts := { standardParts with store := ⟨[("selected_second", "bench")]⟩ }

def namingPage : Page := .ofUrl "https://host/a?old=gav-xcm&new=gone"

theorem presents_of_load_namingPage : ∃ session, make rememberingParts = .ok session ∧
    let before := { session.after shownBranches.dropLast with page := namingPage }
    let now := before.step (.turn 0)
    now.Presents [⟨"master", "a1"⟩, ⟨"gav-xcm", "b2"⟩, ⟨"bench", "c3"⟩] ∧
      now.view.picked .old = some "gav-xcm" ∧ now.view.picked .new = some "bench" := by
  have hrun : ((make rememberingParts).toOption.any fun session =>
      let before := { session.after shownBranches.dropLast with page := namingPage }
      let now := before.step (.turn 0)
      (before.tasks[0]?.map TaskState.isOver) = some false ∧
        now.returnedBy? 0 = some (.ready true) ∧
        now.flow.branches = [⟨"master", "a1"⟩, ⟨"gav-xcm", "b2"⟩, ⟨"bench", "c3"⟩] ∧
        now.view.picked .old = some "gav-xcm" ∧ now.view.picked .new = some "bench") = true := by
    decide +kernel
  obtain ⟨session, hmake, hchecks⟩ := exists_make_of_any hrun
  obtain ⟨hopen, hready, hshown, hfirst, hsecond⟩ := of_decide_eq_true hchecks
  have hreachable := ((Reachable.made hmake).after shownBranches.dropLast).leads namingPage
  refine ⟨session, hmake, ?_⟩
  generalize session.after shownBranches.dropLast = loading at *
  obtain ⟨state, hs, hstate⟩ := Option.map_eq_some_iff.mp hopen
  obtain ⟨repo, branches, -, -, hpresents, -⟩ :=
    presents_of_load hreachable hs hstate (.inl hready)
  have hlist : branches = _ := hpresents.list.symm.trans hshown
  exact ⟨hlist ▸ hpresents, hfirst, hsecond⟩

end Session

end BranchCompare
