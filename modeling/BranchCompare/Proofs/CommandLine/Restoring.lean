import BranchCompare.Proofs.CommandLine.Completing

/-!
# A session goes back to a repository

In a new session nothing else goes on.  The session goes back to the repository in the URL of its
page: the repository is remembered, its branches are fetched, and what the service says of them
within the time limit is shown (`complete_restore`).
-/

namespace BranchCompare

open BranchCompare.Action (Leads Side)
open BranchCompare.BranchCache (EndsAs)

namespace Session

/-- A repository is selected, and its branches are awaited. -/
def Front.select (front : Front) (repo : String) (document : Document) (page : Page) : Front :=
  { front with
    store := front.store.assign .repo (some repo)
    document := document
    page := page
    flow := { front.flow with error := none, repo := some repo, stage := .branchesLoading } }

/-- The URL of the page names a repository and maybe branches, and the repository can be remembered
and written in the URL, which says the same of the branches afterwards. -/
structure Front.Names (front : Front) (repo : String) (inUrl : Side → Option String)
    (document : Document) (page : Page) : Prop where
  repo_ne : repo ≠ ""
  given : front.page.param "repo" none = .ok (some repo)
  written : front.document.write (front.store.assign .repo (some repo)).fileText = .ok document
  edited : front.page.replaceParam "repo" (.text repo) = .ok page
  sides : ∀ side : Side, page.param side.control.label none = .ok (inUrl side)

/-- The branches are there, or why they cannot be had. -/
def Front.conclude (front : Front) (inUrl : Side → Option String) : LoadEnd → Front
  | .ok branches =>
    let chosen (side : Side) := Branch.choose branches (inUrl side) (front.store.get? side.key)
    { front with flow := { front.flow with
        branches := branches
        first := chosen .old
        second := chosen .new
        stage := .branchesReady } }
  | .error (.unavailable failure) =>
    { front with flow := { front.flow with
        stage := .repoSelected
        error := some failure.message } }
  | .error (.crashed _) => front

/-- How going back to a repository ends. -/
def restoredBy : LoadEnd → OperationEnd
  | .error (.crashed crash) => .crashed crash
  | _ => .value .restored

end Session

namespace Action

open BranchCompare.Session (Core Front restoredBy)

variable {session : Session} {core : Core} {front : Front} {repo : String} {document : Document}
  {page : Page} {inUrl : Side → Option String} {task : TaskId} {cache : BranchCache}
  {waiting : Waiting} {signals : List CacheSignal}

/-- The controls are bound and nothing else happens. -/
theorem leads_bindControls_core (session : Session) :
    Leads bindControls session (fun _ after => after.core = session.core) fun _ _ => False := by
  unfold bindControls
  rw [leads_bind, leads_get]
  dsimp only
  split
  · rw [leads_set]
    rfl
  · rfl

/-- The branches of a repository are awaited once it is shown, remembered and in the URL. -/
theorem selectRepo_waits (hnames : session.front.Names repo inUrl document page)
    (hload : session.cache.load repo false task = (cache, .waits waiting, signals)) :
    (selectRepo task repo true).Waits session (session.front.select repo document page) waiting
      (.choice repo true) cache signals := by
  have hset : session.store.set .repo (some repo) session.document =
      (session.store.assign .repo (some repo), .ok document) :=
    congrArg (Prod.mk _) hnames.written
  unfold Waits selectRepo setControl
  rw [leads_bind, leads_modifyFlow, leads_bind, leads_modify, leads_bind, leads_remember]
  dsimp only [Session.modifyControl]
  rw [hset]
  dsimp only
  rw [leads_bind, leads_editPage]
  dsimp only
  have hedit : session.page.replaceParam ControlName.repo.label (.text repo) = .ok page :=
    hnames.edited
  rw [hedit]
  dsimp only
  unfold loadBranches beginLoading followLoad enterLoading
  rw [leads_bind, leads_modifyFlow, leads_bind, leads_modify, leads_bind, leads_get]
  dsimp only
  rw [hload, leads_bind, leads_modify]
  exact ⟨rfl, rfl⟩

/-- The session goes back to the repository in the URL. -/
theorem restore_waits (hnames : session.front.Names repo inUrl document page)
    (hload : session.cache.load repo false task = (cache, .waits waiting, signals)) :
    (restore task).Waits session (session.front.select repo document page) waiting
      (.choice repo true) cache signals := by
  have hgiven : nonEmpty (some repo) = some repo := if_pos (decide_eq_true hnames.repo_ne)
  have hfirst : ∀ other, nonEmpty (orElse (some repo) other) = some repo := by
    intro other
    unfold orElse
    rw [hgiven, Option.some_or, hgiven]
  unfold Waits restore param
  rw [leads_bind]
  refine (leads_bindControls_core session).mono (fun _ bound hbound => ?_) fun _ _ => False.elim
  have hfront : bound.front = session.front := congrArg Core.front hbound
  have hcache : bound.cache = session.cache := congrArg Core.cache hbound
  have hgives : bound.page.param "repo" none = .ok (some repo) :=
    (congrArg (fun front : Front => front.page.param "repo" none) hfront).trans hnames.given
  rw [leads_bind, leads_readPage, hgives]
  dsimp only
  rw [leads_bind, leads_get, hfirst, ← hbound, ← hfront]
  exact selectRepo_waits (hfront ▸ hnames) (hcache ▸ hload)

/-- The branches that have come are chosen by what the URL and the store say. -/
theorem leads_applyBranches_core (hcore : session.core = core)
    (hurl : ∀ side : Side, core.front.page.param side.control.label none = .ok (inUrl side))
    (branches : List Branch) :
    Leads (applyBranches branches) session
      (fun _ after => { after with flow := { after.flow with stage := .branchesReady } }.core =
        { core with front := core.front.conclude inUrl (.ok branches) })
      fun _ _ => False := by
  subst hcore
  have hold : session.page.param "old" none = .ok (inUrl .old) := hurl .old
  have hnew : session.page.param "new" none = .ok (inUrl .new) := hurl .new
  unfold applyBranches offerBranches param setControl
  rw [leads_bind, leads_modify, leads_bind, leads_modify, leads_bind, leads_readPage]
  dsimp only [Session.modifyControl]
  rw [hold]
  dsimp only
  rw [leads_bind, leads_get, leads_bind, leads_readPage]
  dsimp only
  rw [hnew]
  dsimp only
  rw [leads_bind, leads_get, leads_bind, leads_modify, leads_bind, leads_modify, leads_modifyFlow]
  rfl

/-- The load of the selected repository ends. -/
theorem endChoice_closes (hrepo : session.flow.repo = some repo)
    (hurl : ∀ side : Side, session.page.param side.control.label none = .ok (inUrl side))
    (result : LoadEnd) :
    (endChoice repo true result).Closes session (session.front.conclude inUrl result)
      (restoredBy result) := by
  unfold Closes endChoice exitLoading fail
  rw [leads_bind, leads_get]
  match result with
  | .ok branches =>
    dsimp only
    rw [if_pos hrepo, leads_bind, leads_modify, leads_bind]
    have hlater : { session with indicator := session.indicator.exit }.core = session.core := rfl
    refine (leads_applyBranches_core hlater hurl branches).mono (fun _ shown hshown => ?_)
      fun _ _ => False.elim
    rw [leads_bind, leads_modifyFlow]
    exact ⟨rfl, hshown⟩
  | .error (.unavailable failure) =>
    dsimp only
    rw [if_pos hrepo, leads_bind, leads_modifyFlow, leads_bind, leads_modifyFlow, leads_bind,
      leads_modify]
    exact ⟨rfl, rfl⟩
  | .error (.crashed crash) =>
    dsimp only
    rw [leads_bind, leads_modify]
    exact ⟨rfl, rfl⟩

/-- Going back to a repository is a matter of one fetch. -/
theorem restore_fetches (hnames : front.Names repo inUrl document page) (task : TaskId) :
    Fetches task .restore front (front.select repo document page) repo false (.choice repo true)
      fun result =>
        ((front.select repo document page).conclude inUrl result, restoredBy result) where
  begins := by
    rintro session cache waiting signals rfl hload
    exact restore_waits hnames hload
  closes := by
    intro session result hshown
    have hrepo : session.flow.repo = some repo := congrArg (·.flow.repo) hshown
    have hpage : session.page = page := congrArg Front.page hshown
    have hcloses := endChoice_closes hrepo (hpage ▸ hnames.sides) result
    rwa [hshown] at hcloses

end Action

namespace CommandLine

open BranchCompare.Session (Core Front)

variable {S : Type} {session : Session} {front : Front} {repo : String} {document : Document}
  {page : Page} {inUrl : Side → Option String} {limit : Seconds}

/-- What the service says of a repository, if it has any time to do so. -/
def Services.heard (services : Services S) (limit : Seconds) (repo : String) (state : S) :
    CallEnd (List Branch) :=
  if limit.isOver then .outOfTime else (services.branches repo false state).1

theorem Services.reply_unforced (services : Services S) (limit : Seconds) (repo : String)
    (state : S) : (services.reply limit repo false state).1 = services.heard limit repo state :=
  apply_ite Prod.fst ..

/-- The session goes back to the repository in its URL, and shows what is heard of it. -/
theorem complete_restore (services : Services S) (state : S)
    (hcore : session.core = ⟨front, .fresh limit [], [], []⟩)
    (hnames : front.Names repo inUrl document page)
    (hheard : ∀ crash, services.heard limit repo state ≠ .crashed crash) :
    ∃ result, EndsAs (services.heard limit repo state) result ∧
      (complete services session state .restore).session.front =
        (front.select repo document page).conclude inUrl result ∧
      (complete services session state .restore).result = .value .restored := by
  obtain ⟨result, hends, hfront, hresult, -⟩ :=
    complete_of_fetches services state hcore (List.forall_mem_nil _)
      (Action.restore_fetches hnames 0)
  rw [services.reply_unforced] at hends
  refine ⟨result, hends, hfront, hresult.trans ?_⟩
  match result, hends.not_crashed hheard with
  | .ok _, _ => rfl
  | .error (.unavailable _), _ => rfl
  | .error (.crashed crash), hcrashed => exact absurd rfl (hcrashed crash)

end CommandLine

end BranchCompare
