import BranchCompare.Proofs.ChangeRequest.Rows
import BranchCompare.Proofs.CommandLine.LoneListing

/-!
# The requests that a command has listed

A command has the open change requests of a repository listed (`complete_requests`).  Where the rows
of the listing are shown (`Presents`), a row can have its branches compared: it is refused if it is
disabled or the repository has no preset (`Presents.refused`), and otherwise the branches of the
repository are fetched anew (`Presents.compared`).
-/

namespace BranchCompare

open BranchCompare.Action (Closes Fetches Leads nonEmpty orDefault)
open BranchCompare.ChangeRequest (Row)

namespace Session

/-- The comparison is started, or the branches of the repository cannot be had. -/
def Front.compared (front : Front) (url : String) : LoadEnd → Front × OperationEnd
  | .ok _ =>
    ({ front with
      page := front.page.navigate url
      flow := { front.flow with launchedUrl := some url } }, .value (.launched (some url)))
  | .error (.unavailable failure) => (front.failed failure.message, .value (.launched none))
  | .error (.crashed crash) => (front, .crashed crash)

end Session

namespace Action

open BranchCompare.Session (Core Front)

variable {session : Session} {front : Front} {row : Row} {preset : Preset} {repo url : String}
  {task : TaskId} {cache : BranchCache} {waiting : Waiting} {signals : List CacheSignal}

/-- The load of the repository ends. -/
theorem endComparison_closes (hurl : (CompareRequest.Draft.ofBranches preset row.request.baseRef
    row.request.headRef).url = .ok url) (session : Session) (result : LoadEnd) :
    (endComparison row preset result).Closes session (session.front.compared url result).1
      (session.front.compared url result).2 := by
  match result with
  | .ok branches =>
    unfold Closes endComparison exitLoading compareUrl
    rw [leads_bind, leads_modify, hurl]
    exact ⟨rfl, rfl⟩
  | .error (.unavailable failure) => exact ⟨rfl, rfl⟩
  | .error (.crashed crash) => exact ⟨rfl, rfl⟩

/-- The comparison of a row that is not disabled begins with the repository of the listing. -/
theorem leads_compare {ends : Turn → Session → Prop} {breaks : Crash → Session → Prop}
    (hrow : row.disabled = false) (hrepo : session.flow.requestsRepo = some repo)
    (hempty : repo = "" → session.defaultRepo = "")
    (hplain : Query.pairs session.page.url = .ok [])
    (h : Leads (beginComparison task row session.table (some repo))
      { session with flow := { session.flow with error := none } } ends breaks) :
    Leads (compare task row none) session ends breaks := by
  rw [compare_eq]
  unfold clearError
  rw [leads_bind, leads_modifyFlow, if_neg (hrow ▸ Bool.false_ne_true), leads_bind, leads_get]
  have hgiven : (nonEmpty none).or (nonEmpty session.flow.requestsRepo) = nonEmpty (some repo) := by
    rw [hrepo]
    rfl
  dsimp only
  rw [hgiven]
  by_cases hname : repo = ""
  · subst hname
    have hparam : session.page.param "repo" (some session.defaultRepo) = .ok (some "") := by
      rw [hempty rfl]
      exact session.page.param_of_pairs hplain "repo" (some "")
    have hnone : nonEmpty (some "") = none := rfl
    rw [hnone]
    unfold param
    rw [leads_bind, leads_readPage]
    dsimp only
    rw [hparam]
    exact h
  · have hsome : nonEmpty (some repo) = some repo := if_pos (decide_eq_true hname)
    rw [hsome]
    exact h

/-- The comparison of a row that can be compared is a matter of one fetch. -/
theorem compare_fetches (hrow : row.disabled = false) (hrepo : front.flow.requestsRepo = some repo)
    (hplain : Query.pairs front.page.url = .ok [])
    (hpreset : front.table.resolve (some repo) = .ok preset)
    (hurl : (CompareRequest.Draft.ofBranches preset row.request.baseRef
      row.request.headRef).url = .ok url) (task : TaskId) :
    Fetches task (.compare row none) front front.cleared repo true (.comparison row preset)
      (front.cleared.compared url) where
  begins := by
    rintro session cache waiting signals rfl hload
    refine leads_compare hrow hrepo (fun hempty => ?_) hplain ?_
    · rw [hempty] at hpreset
      cases hpreset
    · have hresolve : session.table.resolve (some repo) = .ok preset := hpreset
      unfold beginComparison beginLoading followLoad enterLoading
      rw [hresolve]
      dsimp only [Option.getD_some]
      rw [leads_bind, leads_modify, leads_bind, leads_get]
      dsimp only
      rw [hload, leads_bind, leads_modify]
      exact ⟨rfl, rfl⟩
  closes := by
    intro session result hshown
    rw [← hshown]
    exact endComparison_closes hurl session result

/-- A row whose head branch is in a fork is refused. -/
theorem compare_forked (hrow : row.disabled = true) (session : Session) (task : TaskId) :
    ∃ message, (compare task row none).Closes session (session.front.cleared.failed message)
      (.value (.launched none)) := by
  refine ⟨s!"#{row.request.number} comes from a fork and cannot be compared", ?_⟩
  rw [compare_eq]
  unfold Closes clearError fail
  rw [leads_bind, leads_modifyFlow, if_pos hrow, leads_bind, leads_modifyFlow]
  exact ⟨rfl, rfl⟩

/-- A row is refused where the repository has no preset. -/
theorem compare_unknown (hrow : row.disabled = false)
    (hrepo : session.flow.requestsRepo = some repo) (hempty : repo = "" → session.defaultRepo = "")
    (hplain : Query.pairs session.page.url = .ok [])
    (hpreset : ∀ preset, session.table.resolve (some repo) ≠ .ok preset) (task : TaskId) :
    ∃ message, (compare task row none).Closes session (session.front.cleared.failed message)
      (.value (.launched none)) := by
  cases hresolve : session.table.resolve (some repo) with
  | ok preset => exact absurd hresolve (hpreset preset)
  | error unknown =>
    refine ⟨unknown.message, leads_compare hrow hrepo hempty hplain ?_⟩
    unfold beginComparison fail
    rw [hresolve]
    dsimp only
    rw [leads_bind, leads_modifyFlow]
    exact ⟨rfl, rfl⟩

end Action

namespace CommandLine

open BranchCompare.BranchCache (EndsAs)
open BranchCompare.Session (Core Front Means)

variable {S : Type} {services : Services S} {state : S} {settings : Settings} {files : Files}
  {session : Session} {table : PresetTable} {number : Int} {owner repo : Option String}
  {repoName url : String} {rows : List Row} {row : Row} {preset : Preset}

/-! ## The session of the command -/

theorem of_openSession {url : String} (hopen : openSession settings files url = .ok session) :
    ∃ store, session.core = ⟨⟨session.table, store, files.selection, .ofUrl url, .idle⟩,
        .fresh settings.fetchTimeout [], [], []⟩ ∧
      session.means = ⟨settings.owner, settings.repo, settings.fetchTimeout, true, []⟩ := by
  unfold openSession at hopen
  cases hstore : SelectionStore.ofDocument files.selection with
  | error fault =>
    rw [hstore] at hopen
    cases hopen
  | ok store =>
    rw [hstore] at hopen
    cases htable : presetTable settings files.presets with
    | error breakdown =>
      rw [htable] at hopen
      cases hopen
    | ok table =>
      rw [htable] at hopen
      obtain rfl := Except.ok.inj hopen
      exact ⟨store, rfl, rfl⟩

theorem pairs_requestsPage : Query.pairs requestsPage = .ok [] := rfl

/-- The rows of a repository are shown, and nothing goes on. -/
structure Presents (settings : Settings) (table : PresetTable) (repo : String) (rows : List Row)
    (session : Session) : Prop where
  idle : ∃ last,
    session.core = ⟨session.front, .fresh settings.fetchTimeout [], [.ended last], []⟩
  table : session.table = table
  rows : session.flow.rows = rows
  repo : session.flow.requestsRepo = some repo
  default : session.defaultRepo = settings.repo
  plain : Query.pairs session.page.url = .ok []

/-- What the listing of a repository comes to as the service answers. -/
inductive Heard (settings : Settings) (table : PresetTable) (repo : String)
    (answer : CallEnd (List ChangeRequest)) (listed : Completed S) : Prop where
  | listed {requests : List ChangeRequest} {rows : List Row} (answer : answer = .answer requests)
      (result : listed.result = .value (.rows rows)) (shows : Row.Shows rows requests)
      (presents : Presents settings table repo rows listed.session)
  | failed (unlisted : ∀ requests, answer ≠ .answer requests)
      (result : listed.result = .value (.rows [])) (nothing : listed.session.flow.rows = [])
  | crashed {crash : Crash} (answer : answer = .crashed crash)
      (result : listed.result = .crashed crash)

/-- Requests whose times all have a known distance from UTC have their rows. -/
theorem exists_rows {requests : List ChangeRequest}
    (haware : ∀ request ∈ requests, request.updatedAt.isAware = true) :
    ∃ rows, Row.build requests = .ok rows ∧ Row.Shows rows requests := by
  obtain ⟨rows, hbuild⟩ := Row.exists_build ((Row.comparableTimes_iff requests).mpr (.inl haware))
  exact ⟨rows, hbuild, Row.shows_of_build hbuild⟩

theorem heard_of_core {front : Front} {ownerName : String} {answer : CallEnd (List ChangeRequest)}
    {listed : Completed S} (hfront : front.table = table) (hpage : front.page = .ofUrl requestsPage)
    (hrows : front.flow.rows = []) (hdefault : listed.session.defaultRepo = settings.repo)
    (haware : ∀ requests, answer = .answer requests →
      ∀ request ∈ requests, request.updatedAt.isAware = true)
    (hdone : listed.session.core = ⟨(front.listed ownerName repoName answer).1,
      .fresh settings.fetchTimeout [], [.ended (front.listed ownerName repoName answer).2], []⟩)
    (hresult : listed.result = (front.listed ownerName repoName answer).2) :
    Heard settings table repoName answer listed := by
  have hshown : listed.session.front = (front.listed ownerName repoName answer).1 :=
    congrArg Core.front hdone
  cases answer with
  | answer requests =>
    obtain ⟨rows, hbuild, hshows⟩ := exists_rows (haware requests rfl)
    unfold Front.listed at hdone hshown hresult
    dsimp only at hdone hshown hresult
    rw [hbuild] at hdone hshown hresult
    have hplain : Query.pairs listed.session.page.url = .ok [] := by
      have hsame : listed.session.page = .ofUrl requestsPage :=
        (congrArg Front.page hshown).trans hpage
      rw [hsame]
      exact pairs_requestsPage
    exact .listed rfl hresult hshows ⟨⟨_, hshown ▸ hdone⟩,
      (congrArg Front.table hshown).trans hfront, congrArg (·.flow.rows) hshown,
      congrArg (·.flow.requestsRepo) hshown, hdefault, hplain⟩
  | unavailable failure =>
    exact .failed nofun hresult ((congrArg (·.flow.rows) hshown).trans hrows)
  | outOfTime => exact .failed nofun hresult ((congrArg (·.flow.rows) hshown).trans hrows)
  | crashed crash => exact .crashed rfl hresult

/-- What the service says of the open change requests has been shown, or has broken the command
off. -/
theorem complete_requests (hopen : openSession settings files requestsPage = .ok session)
    (services : Services S) (state : S) (owner repo : Option String) :
    let repoName := orDefault repo settings.repo
    let listing :=
      services.listing settings.fetchTimeout (orDefault owner settings.owner) repoName state
    let listed := complete services session state (.list owner repo)
    (∀ requests, listing.1 = .answer requests →
      ∀ request ∈ requests, request.updatedAt.isAware = true) →
    listed.state = listing.2 ∧ Heard settings session.table repoName listing.1 listed := by
  intro repoName listing listed haware
  obtain ⟨store, hcore, hmeans⟩ := of_openSession hopen
  have hpage : session.page = .ofUrl requestsPage := congrArg (·.front.page) hcore
  have hplain : Query.pairs session.page.url = .ok [] := by
    rw [hpage]
    exact pairs_requestsPage
  have howner : session.defaultOwner = settings.owner := congrArg Means.defaultOwner hmeans
  have hrepo : session.defaultRepo = settings.repo := congrArg Means.defaultRepo hmeans
  have hlimit : session.limit = settings.fetchTimeout := congrArg Means.limit hmeans
  have hlisted := complete_list services state hcore rfl (List.forall_mem_nil _) hplain
    (congrArg Means.hasPulls hmeans) (congrArg Means.ready hmeans) owner repo
  rw [howner, hrepo, hlimit] at hlisted
  obtain ⟨hdone, hkept, hresult, hstate⟩ := hlisted
  refine ⟨hstate, ?_⟩
  have hdefault : listed.session.defaultRepo = settings.repo :=
    (congrArg Means.defaultRepo hkept).trans hrepo
  exact heard_of_core rfl rfl rfl hdefault haware hdone hresult

/-! ## The comparison of a row -/

section Presents

variable (h : Presents settings table repoName rows session)

include h

/-- A row that cannot be compared is refused, and no service is asked. -/
theorem Presents.refused (hdefault : repoName = "" → settings.repo = "")
    (hrow : row.disabled = true ∨ ∀ preset, table.resolve (some repoName) ≠ .ok preset)
    (services : Services S) (state : S) :
    (complete services session state (.compare row none)).result = .value (.launched none) ∧
      (complete services session state (.compare row none)).state = state := by
  obtain ⟨last, hcore⟩ := h.idle
  have hover : ∀ state ∈ [TaskState.ended last], state.isOver = true := by simp [TaskState.isOver]
  have hrefused : ∃ message,
      (Action.first [TaskState.ended last].length (.compare row none)).Closes
        (session.begun (.compare row none)) (session.front.cleared.failed message)
        (.value (.launched none)) := by
    cases hdisabled : row.disabled with
    | true => exact Action.compare_forked hdisabled (session.begun (.compare row none)) _
    | false =>
      have hpreset := hrow.resolve_left (by simp [hdisabled])
      have hempty : repoName = "" → session.defaultRepo = "" := fun hname =>
        h.default.trans (hdefault hname)
      exact @Action.compare_unknown (session.begun (.compare row none)) row repoName hdisabled
        h.repo hempty h.plain (h.table ▸ hpreset) _
  obtain ⟨message, hcloses⟩ := hrefused
  exact (complete_of_closes services state hcore hover hcloses).2

/-- The branches of a row that can be compared are compared as the service replies. -/
theorem Presents.compared (hrow : row.disabled = false)
    (hpreset : table.resolve (some repoName) = .ok preset)
    (hurl : (CompareRequest.Draft.ofBranches preset row.request.baseRef
      row.request.headRef).url = .ok url)
    (services : Services S) (state : S) :
    let reply := services.reply settings.fetchTimeout repoName true state
    let compared := complete services session state (.compare row none)
    ∃ result, EndsAs reply.1 result ∧
      compared.result = (session.front.cleared.compared url result).2 ∧
      compared.state = reply.2 := by
  intro reply compared
  obtain ⟨last, hcore⟩ := h.idle
  have hover : ∀ state ∈ [TaskState.ended last], state.isOver = true := by simp [TaskState.isOver]
  have hrepo : session.front.flow.requestsRepo = some repoName := h.repo
  have hplain : Query.pairs session.front.page.url = .ok [] := h.plain
  have hresolve : session.front.table.resolve (some repoName) = .ok preset := by
    rw [← hpreset, ← h.table]
    rfl
  have hfetches := Action.compare_fetches hrow hrepo hplain hresolve hurl
    [TaskState.ended last].length
  obtain ⟨result, hends, -, hresult, hstate⟩ :=
    complete_of_fetches services state hcore hover hfetches
  exact ⟨result, hends, hresult, hstate⟩

end Presents

end CommandLine

end BranchCompare
