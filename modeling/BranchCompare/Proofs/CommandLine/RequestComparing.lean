import BranchCompare.Proofs.ChangeRequest.Newest
import BranchCompare.Proofs.CommandLine.Comparing
import BranchCompare.Proofs.CommandLine.ListedRequests

/-!
# The command that compares the branches of a change request

The open change requests are listed, the newest one with the number is looked up, and its branches
are compared: the branches of the repository are fetched anew and the URL of the comparison is
printed.  That takes a request that is from no fork and a repository that has a preset
(`Comparable`); only then the branches are asked for (`runRequest_outcome`).
-/

namespace BranchCompare

open BranchCompare.Action (orDefault)
open BranchCompare.ChangeRequest (IsNewest Row)
open BranchCompare.CompareRequest (Draft)

namespace CommandLine

open BranchCompare.BranchCache (EndsAs)

variable {S : Type} {services : Services S} {state : S} {settings : Settings} {files : Files}
  {session : Session} {table : PresetTable} {number : Int} {owner repo : Option String}
  {repoName url : String} {rows : List Row} {row : Row} {preset : Preset}

/-! ## The report -/

/-- The number is that of a listed request, the newest of these is from no fork, and the repository
has a preset. -/
structure Comparable (table : PresetTable) (listing : CallEnd (List ChangeRequest)) (number : Int)
    (repo : String) (request : ChangeRequest) (preset : Preset) : Prop where
  newest : ∃ requests, listing = .answer requests ∧ IsNewest requests number request
  unforked : request.headOwner = some request.baseOwner
  preset : table.resolve (some repo) = .ok preset

/-- Nothing is printed, and the command fails unless a service has broken it off. -/
structure Fails {α : Type} (answer : CallEnd α) (report : Report S) : Prop where
  lines : report.lines = []
  ending : report.ending = .ok failed ∨
    ∃ crash, answer = .crashed crash ∧ report.ending = .error (.operation crash)

/-- A command that fails does not succeed. -/
theorem Fails.ending_ne {α : Type} {answer : CallEnd α} {report : Report S}
    (h : Fails answer report) : report.ending ≠ .ok succeeded := by
  rcases h.ending with hfailed | ⟨crash, -, hbroken⟩
  · rw [hfailed]
    exact nofun
  · rw [hbroken]
    exact nofun

section Comparable

variable {listing : CallEnd (List ChangeRequest)} {requests : List ChangeRequest}
  {request other : ChangeRequest} {otherPreset : Preset}

theorem Comparable.isNewest (h : Comparable table listing number repoName request preset)
    (hanswer : listing = .answer requests) : IsNewest requests number request := by
  obtain ⟨_, hsame, hnewest⟩ := h.newest
  obtain rfl := CallEnd.answer.inj (hanswer.symm.trans hsame)
  exact hnewest

theorem not_comparable (h : ∀ requests, listing ≠ .answer requests) :
    ¬ Comparable table listing number repoName request preset := by
  rintro ⟨⟨requests, hanswer, -⟩, -, -⟩
  exact h requests hanswer

theorem Comparable.unique (h : Comparable table listing number repoName request preset)
    (h' : Comparable table listing number repoName other otherPreset) :
    request = other ∧ preset = otherPreset := by
  obtain ⟨requests, hanswer, hnewest⟩ := h.newest
  exact ⟨hnewest.unique (h'.isNewest hanswer), Except.ok.inj (h.preset.symm.trans h'.preset)⟩

end Comparable

/-- The report is that of a comparison of the request, or of none. -/
structure Decides (settings : Settings) (table : PresetTable) (number : Int) (repo : String)
    (listing : CallEnd (List ChangeRequest) × S) (branched : CallEnd (List Branch) × S)
    (report : Report S) : Prop where
  compared : ∀ {request preset branches}, Comparable table listing.1 number repo request preset →
    branched.1 = .answer branches → report.ending = .ok succeeded ∧
      ∃ url, (Draft.ofBranches preset request.baseRef request.headRef).url = .ok url ∧
        report.lines = [absoluteUrl settings url]
  unbranched : ∀ {request preset}, Comparable table listing.1 number repo request preset →
    (∀ branches, branched.1 ≠ .answer branches) → Fails branched.1 report
  asked : ∀ {request preset}, Comparable table listing.1 number repo request preset →
    report.state = branched.2
  refused : (∀ request preset, ¬ Comparable table listing.1 number repo request preset) →
    Fails listing.1 report ∧ report.state = listing.2

section Decides

variable {listing : CallEnd (List ChangeRequest) × S} {branched : CallEnd (List Branch) × S}
  {report : Report S} {request : ChangeRequest}

/-- A command without a request that can be compared fails. -/
theorem decides_of_none
    (hnone : ∀ request preset, ¬ Comparable table listing.1 number repoName request preset)
    (hfails : Fails listing.1 report) (hstate : report.state = listing.2) :
    Decides settings table number repoName listing branched report where
  compared h _ := absurd h (hnone _ _)
  unbranched h _ := absurd h (hnone _ _)
  asked h := absurd h (hnone _ _)
  refused _ := ⟨hfails, hstate⟩

/-- A command with such a request asks for its branches and goes by the answer. -/
theorem decides_of_comparable
    (hcomparable : Comparable table listing.1 number repoName request preset)
    (hcompared : ∀ branches, branched.1 = .answer branches → report.ending = .ok succeeded ∧
      ∃ url, (Draft.ofBranches preset request.baseRef request.headRef).url = .ok url ∧
        report.lines = [absoluteUrl settings url])
    (hunbranched : (∀ branches, branched.1 ≠ .answer branches) → Fails branched.1 report)
    (hstate : report.state = branched.2) :
    Decides settings table number repoName listing branched report where
  compared {other otherPreset} {branches} h hanswer := by
    obtain ⟨rfl, rfl⟩ := h.unique hcomparable
    exact hcompared branches hanswer
  unbranched _ := hunbranched
  asked _ := hstate
  refused h := absurd hcomparable (h _ _)

variable (h : Decides settings table number repoName listing branched report)

include h

/-- A report that is none of a comparison is one of a failure. -/
theorem Decides.compared_or_fails :
    (∃ request preset branches, Comparable table listing.1 number repoName request preset ∧
      branched.1 = .answer branches) ∨ Fails listing.1 report ∨ Fails branched.1 report := by
  by_cases hfound : ∃ request preset, Comparable table listing.1 number repoName request preset
  · obtain ⟨request, preset, hcomparable⟩ := hfound
    by_cases hanswer : ∃ branches, branched.1 = .answer branches
    · obtain ⟨branches, hanswer⟩ := hanswer
      exact .inl ⟨request, preset, branches, hcomparable, hanswer⟩
    · exact .inr (.inr (h.unbranched hcomparable (not_exists.mp hanswer)))
  · exact .inr (.inl (h.refused fun request preset hcomparable =>
      hfound ⟨request, preset, hcomparable⟩).1)

/-- The command succeeds only for a request that can be compared and whose branches have come. -/
theorem Decides.succeeds_iff : report.ending = .ok succeeded ↔ ∃ request preset branches,
    Comparable table listing.1 number repoName request preset ∧
      branched.1 = .answer branches := by
  constructor
  · intro hending
    rcases h.compared_or_fails with hfound | hfails | hfails
    · exact hfound
    · exact absurd hending hfails.ending_ne
    · exact absurd hending hfails.ending_ne
  · rintro ⟨request, preset, branches, hcomparable, hanswer⟩
    exact (h.compared hcomparable hanswer).1

/-- A command that fails prints nothing, and crashes only where a service did. -/
theorem Decides.fails (hending : report.ending ≠ .ok succeeded) :
    report.lines = [] ∧ (report.ending = .ok failed ∨
      ∃ crash, report.ending = .error (.operation crash) ∧
        (listing.1 = .crashed crash ∨ branched.1 = .crashed crash)) := by
  rcases h.compared_or_fails with ⟨_, _, _, hcomparable, hanswer⟩ | hfails | hfails
  · exact absurd (h.compared hcomparable hanswer).1 hending
  · exact ⟨hfails.lines, hfails.ending.imp_right fun ⟨crash, hcrash, hbroken⟩ =>
      ⟨crash, hbroken, .inl hcrash⟩⟩
  · exact ⟨hfails.lines, hfails.ending.imp_right fun ⟨crash, hcrash, hbroken⟩ =>
      ⟨crash, hbroken, .inr hcrash⟩⟩

end Decides

/-! ## What the command comes to -/

variable {listed compared : Completed S}

theorem runRequest_crashed {crash : Crash}
    (hlisted : complete services session state (.list owner repo) = listed)
    (hresult : listed.result = .crashed crash) :
    runRequest services settings number owner repo session state =
      report listed.session listed.state [] [] (.error (.operation crash)) := by
  unfold runRequest
  dsimp only
  rw [hlisted, hresult]

/-- Without a row of the number the command fails. -/
theorem runRequest_missing {value : OperationValue}
    (hlisted : complete services session state (.list owner repo) = listed)
    (hresult : listed.result = .value value)
    (hnone : (listed.session.flow.rows.find? fun row => row.request.number = number) = none) :
    ∃ errors, runRequest services settings number owner repo session state =
      report listed.session listed.state [] errors (.ok failed) := by
  unfold runRequest
  dsimp only
  rw [hlisted, hresult]
  dsimp only
  rw [hnone]
  exact ⟨_, rfl⟩

section Found

variable {value : OperationValue}
  (hlisted : complete services session state (.list owner repo) = listed)
  (hresult : listed.result = .value value)
  (hfound : (listed.session.flow.rows.find? fun row => row.request.number = number) = some row)
  (hcompared : complete services listed.session listed.state (.compare row none) = compared)

include hlisted hresult hfound hcompared

/-- A comparison that was launched is printed. -/
theorem runRequest_launched {given : Option String}
    (hlaunched : compared.result = .value (.launched given)) :
    runRequest services settings number owner repo session state =
      reportUrl settings compared.session compared.state given := by
  unfold runRequest
  dsimp only
  rw [hlisted, hresult]
  dsimp only
  rw [hfound]
  dsimp only
  rw [hcompared, hlaunched]

/-- A comparison that crashes ends the command. -/
theorem runRequest_broken {crash : Crash} (hbroken : compared.result = .crashed crash) :
    runRequest services settings number owner repo session state =
      report compared.session compared.state [] [] (.error (.operation crash)) := by
  unfold runRequest
  dsimp only
  rw [hlisted, hresult]
  dsimp only
  rw [hfound]
  dsimp only
  rw [hcompared, hbroken]

end Found

section Shown

variable {value : OperationValue} {requests : List ChangeRequest}
  {listing : CallEnd (List ChangeRequest) × S}
  (hlisted : complete services session state (.list owner repo) = listed)
  (hresult : listed.result = .value value) (hstate : listed.state = listing.2)
  (hpresents : Presents settings table repoName rows listed.session)
  (hfound : (rows.find? fun row => row.request.number = number) = some row)
  (hanswer : listing.1 = .answer requests) (hnewest : IsNewest requests number row.request)
  (hmarked : row.Marked)

include hlisted hresult hstate hpresents hfound hanswer hnewest hmarked

/-- The branches of the row that is found are compared. -/
theorem decides_of_enabled (hlimit : settings.fetchTimeout.isOver = false)
    (hrow : row.disabled = false) (hpreset : table.resolve (some repoName) = .ok preset)
    (hurl : (Draft.ofBranches preset row.request.baseRef
      row.request.headRef).url = .ok url) :
    Decides settings table number repoName listing (services.branches repoName true listing.2)
      (runRequest services settings number owner repo session state) := by
  rw [← hpresents.rows] at hfound
  obtain ⟨result, hends, hcompared, hasked⟩ :=
    hpresents.compared hrow hpreset hurl services listed.state
  have hreply : services.reply settings.fetchTimeout repoName true listed.state =
      services.branches repoName true listing.2 := by
    rw [hstate]
    exact if_neg (by simp [hlimit])
  rw [hreply] at hends hasked
  generalize services.branches repoName true listing.2 = branched at hends hasked ⊢
  obtain ⟨answer, later⟩ := branched
  have hcomparable : Comparable table listing.1 number repoName row.request preset :=
    ⟨⟨requests, hanswer, hnewest⟩, hmarked.enabled_iff.mp hrow, hpreset⟩
  cases hends with
  | listed branches =>
    rw [runRequest_launched hlisted hresult hfound rfl hcompared]
    exact decides_of_comparable hcomparable (fun _ _ => ⟨rfl, url, hurl, rfl⟩)
      (fun hnone => absurd rfl (hnone branches)) hasked
  | unavailable failure | outOfTime failure =>
    rw [runRequest_launched hlisted hresult hfound rfl hcompared]
    exact decides_of_comparable hcomparable nofun (fun _ => ⟨rfl, .inl rfl⟩) hasked
  | crashed crash =>
    rw [runRequest_broken hlisted hresult hfound rfl hcompared]
    exact decides_of_comparable hcomparable nofun (fun _ => ⟨rfl, .inr ⟨crash, rfl, rfl⟩⟩) hasked

/-- The row that is found cannot be compared, and no branches are asked for. -/
theorem decides_of_refused (hdefault : repoName = "" → settings.repo = "")
    (hrow : row.disabled = true ∨ ∀ preset, table.resolve (some repoName) ≠ .ok preset) :
    Decides settings table number repoName listing (services.branches repoName true listing.2)
      (runRequest services settings number owner repo session state) := by
  rw [← hpresents.rows] at hfound
  obtain ⟨hrefused, hunasked⟩ := hpresents.refused hdefault hrow services listed.state
  rw [runRequest_launched hlisted hresult hfound rfl hrefused]
  refine decides_of_none (fun request preset h => ?_) ⟨rfl, .inl rfl⟩ (hunasked.trans hstate)
  obtain rfl := hnewest.unique (h.isNewest hanswer)
  rcases hrow with hdisabled | hunknown
  · rw [hmarked.enabled_iff.mpr h.unforked] at hdisabled
    cases hdisabled
  · exact hunknown preset h.preset

end Shown

/-- The requests are listed, and the first row with the number is looked up. -/
theorem decides_of_listed {value : OperationValue} {requests : List ChangeRequest}
    {listing : CallEnd (List ChangeRequest) × S}
    (hlisted : complete services session state (.list owner repo) = listed)
    (hresult : listed.result = .value value) (hstate : listed.state = listing.2)
    (hpresents : Presents settings table repoName rows listed.session)
    (hanswer : listing.1 = .answer requests) (hshows : Row.Shows rows requests)
    (hlimit : settings.fetchTimeout.isOver = false)
    (hrefs : ∀ request ∈ requests, request.headRef ≠ "" ∧ request.baseRef ≠ "")
    (hdefault : repoName = "" → settings.repo = "") :
    Decides settings table number repoName listing (services.branches repoName true listing.2)
      (runRequest services settings number owner repo session state) := by
  cases hfound : rows.find? fun row => row.request.number = number with
  | none =>
    obtain ⟨errors, hreport⟩ := runRequest_missing hlisted hresult (hpresents.rows ▸ hfound)
    rw [hreport]
    refine decides_of_none (fun request preset h => ?_) ⟨rfl, .inl rfl⟩ hstate
    have hnewest := h.isNewest hanswer
    exact hshows.find?_eq_none hfound request hnewest.mem hnewest.number_eq
  | some row =>
    have hnewest := hshows.isNewest_of_find? hfound
    have hmarked := hshows.marked row (List.mem_of_find?_eq_some hfound)
    obtain ⟨hhead, hbase⟩ := hrefs row.request hnewest.mem
    by_cases hcan : row.disabled = false ∧ ∃ preset, table.resolve (some repoName) = .ok preset
    · obtain ⟨hrow, preset, hpreset⟩ := hcan
      exact decides_of_enabled hlisted hresult hstate hpresents hfound hanswer hnewest hmarked
        hlimit hrow hpreset (Draft.url_ofBranches preset hbase hhead)
    · have hrow : row.disabled = true ∨ ∀ preset, table.resolve (some repoName) ≠ .ok preset := by
        rcases not_and_or.mp hcan with hdisabled | hunknown
        · exact .inl (Bool.not_eq_false _ ▸ hdisabled)
        · exact .inr (not_exists.mp hunknown)
      exact decides_of_refused hlisted hresult hstate hpresents hfound hanswer hnewest hmarked
        hdefault hrow

/-- The command compares the branches of the request if it can be compared, and fails otherwise. -/
theorem runRequest_decides (hopen : openSession settings files requestsPage = .ok session)
    {listing : CallEnd (List ChangeRequest) × S}
    (hlisting : services.listing settings.fetchTimeout (orDefault owner settings.owner)
      (orDefault repo settings.repo) state = listing)
    (hrequests : ∀ requests, listing.1 = .answer requests → ∀ request ∈ requests,
      request.updatedAt.isAware = true ∧ request.headRef ≠ "" ∧ request.baseRef ≠ "")
    (number : Int) :
    Decides settings session.table number (orDefault repo settings.repo) listing
      (services.branches (orDefault repo settings.repo) true listing.2)
      (runRequest services settings number owner repo session state) := by
  subst hlisting
  obtain ⟨hstate, hheard⟩ := complete_requests hopen services state owner repo
    fun requests hanswer request hmem => (hrequests requests hanswer request hmem).1
  cases hheard with
  | listed hanswer hresult hshows hpresents =>
    exact decides_of_listed rfl hresult hstate hpresents hanswer hshows (limit_of_listing hanswer)
      (fun request hmem => (hrequests _ hanswer request hmem).2) Action.default_of_orDefault
  | failed hunlisted hresult hnothing =>
    obtain ⟨errors, hreport⟩ := @runRequest_missing S services state settings session number owner
      repo _ _ rfl hresult (by rw [hnothing]; rfl)
    rw [hreport]
    exact decides_of_none (fun _ _ => not_comparable hunlisted) ⟨rfl, .inl rfl⟩ hstate
  | crashed hanswer hresult =>
    rw [runRequest_crashed rfl hresult]
    refine decides_of_none (fun _ _ => not_comparable ?_) ⟨rfl, .inr ⟨_, hanswer, rfl⟩⟩ hstate
    rw [hanswer]
    exact nofun

/-! ## The calls of the services -/

/-- A call of one of the services. -/
inductive ServiceCall where
  | branches (repo : String) (looksForNews : Bool)
  | pulls (owner repo : String)
  deriving DecidableEq, Repr

/-- The services, which note each call behind those before it. -/
def Services.noting (services : Services S) : Services (S × List ServiceCall) where
  branches repo looksForNews state :=
    let (answer, later) := services.branches repo looksForNews state.1
    (answer, later, state.2 ++ [.branches repo looksForNews])
  pulls owner repo state :=
    let (answer, later) := services.pulls owner repo state.1
    (answer, later, state.2 ++ [.pulls owner repo])

/-- Services that note their calls say the same. -/
theorem Services.listing_noting (services : Services S) (limit : Seconds) (owner repo : String)
    (state : S) : ∃ calls, (∀ name looksForNews, .branches name looksForNews ∉ calls) ∧
      services.noting.listing limit owner repo (state, []) =
        ((services.listing limit owner repo state).1,
          (services.listing limit owner repo state).2, calls) := by
  unfold Services.listing
  split
  · exact ⟨[], nofun, rfl⟩
  · exact ⟨[.pulls owner repo], by simp, rfl⟩

/-- The branches are asked for just where the request can be compared. -/
theorem noted_iff (hopen : openSession settings files requestsPage = .ok session)
    {listing : CallEnd (List ChangeRequest) × S}
    (hlisting : services.listing settings.fetchTimeout (orDefault owner settings.owner)
      (orDefault repo settings.repo) state = listing)
    (hrequests : ∀ requests, listing.1 = .answer requests → ∀ request ∈ requests,
      request.updatedAt.isAware = true ∧ request.headRef ≠ "" ∧ request.baseRef ≠ "")
    (number : Int) (name : String) (looksForNews : Bool) :
    ServiceCall.branches name looksForNews ∈
        (runRequest services.noting settings number owner repo session (state, [])).state.2 ↔
      name = orDefault repo settings.repo ∧ looksForNews = true ∧ ∃ request preset, Comparable
        session.table listing.1 number (orDefault repo settings.repo) request preset := by
  obtain ⟨calls, hcalls, hnoted⟩ := services.listing_noting settings.fetchTimeout
    (orDefault owner settings.owner) (orDefault repo settings.repo) state
  rw [hlisting] at hnoted
  have hdecides := runRequest_decides hopen hnoted hrequests number
  by_cases hfound : ∃ request preset,
      Comparable session.table listing.1 number (orDefault repo settings.repo) request preset
  · obtain ⟨request, preset, hcomparable⟩ := hfound
    have hstate : (runRequest services.noting settings number owner repo session
        (state, [])).state.2 = calls ++ [.branches (orDefault repo settings.repo) true] :=
      congrArg Prod.snd (hdecides.asked hcomparable)
    rw [hstate, List.mem_append, List.mem_singleton, ServiceCall.branches.injEq]
    constructor
    · rintro (hmem | ⟨rfl, rfl⟩)
      · exact absurd hmem (hcalls name looksForNews)
      · exact ⟨rfl, rfl, request, preset, hcomparable⟩
    · rintro ⟨rfl, rfl, -⟩
      exact .inr ⟨rfl, rfl⟩
  · have hstate : (runRequest services.noting settings number owner repo session
        (state, [])).state.2 = calls :=
      congrArg Prod.snd (hdecides.refused fun request preset h => hfound ⟨request, preset, h⟩).2
    rw [hstate]
    exact iff_of_false (hcalls name looksForNews) fun h => hfound h.2.2

/-- The command succeeds if the newest listed request of the number is from no fork, the repository
has a preset, and its branches can be had anew.  It then prints the URL of the comparison of the
base branch and the head branch.  Otherwise, also if nothing can be listed, it fails and prints
nothing.  The branches are asked for only where the request and the preset are there. -/
theorem runRequest_outcome (hopen : openSession settings files requestsPage = .ok session)
    (services : Services S) (state : S) (number : Int) (owner repo : Option String) :
    let repoName := orDefault repo settings.repo
    let listing :=
      services.listing settings.fetchTimeout (orDefault owner settings.owner) repoName state
    let branched := services.branches repoName true listing.2
    let report := runRequest services settings number owner repo session state
    let noted := runRequest services.noting settings number owner repo session (state, [])
    (∀ requests, listing.1 = .answer requests → ∀ request ∈ requests,
      request.updatedAt.isAware = true ∧ request.headRef ≠ "" ∧ request.baseRef ≠ "") →
    (report.ending = .ok succeeded ↔ ∃ request preset branches,
      Comparable session.table listing.1 number repoName request preset ∧
        branched.1 = .answer branches) ∧
    (∀ request preset branches,
      Comparable session.table listing.1 number repoName request preset →
      branched.1 = .answer branches →
      ∃ url line,
        (Draft.ofBranches preset request.baseRef request.headRef).url = .ok url ∧
        IsLineOf settings url line ∧ report.lines = [line]) ∧
    (report.ending ≠ .ok succeeded → report.lines = [] ∧ (report.ending = .ok failed ∨
      ∃ crash, report.ending = .error (.operation crash) ∧
        (listing.1 = .crashed crash ∨ branched.1 = .crashed crash))) ∧
    (∀ name looksForNews, ServiceCall.branches name looksForNews ∈ noted.state.2 ↔
      name = repoName ∧ looksForNews = true ∧
        ∃ request preset, Comparable session.table listing.1 number repoName request preset) := by
  intro repoName listing branched report noted hrequests
  have hdecides : Decides settings session.table number repoName listing branched report :=
    runRequest_decides hopen rfl hrequests number
  refine ⟨hdecides.succeeds_iff, fun request preset branches hcomparable hanswer => ?_,
    hdecides.fails, noted_iff hopen rfl hrequests number⟩
  obtain ⟨-, url, hurl, hline⟩ := hdecides.compared hcomparable hanswer
  exact ⟨url, _, hurl, isLineOf_absoluteUrl settings url, hline⟩

/-- Three requests of one number.  The last one was updated when the second one was. -/
def mayRequests : List ChangeRequest :=
  [{ Row.updatedInMay 9 (some 0) with headOwner := some "fork" }, Row.updatedInMay 12 (some 0),
    { Row.updatedInMay 12 (some 0) with headOwner := none }]

def mayServices : Services Unit where
  branches _ _ state := (.answer [], state)
  pulls _ _ state := (.answer mayRequests, state)

def mayLine : String :=
  "http://h/compare?repo=substrate&threshold=10&path_pattern=frame%2F%2A%2Fsrc%2Fweights.rs" ++
    "&method=guess-worst&ignore_errors=true&unit=weight&old=master&new=gav-xcm"

theorem isNewest_mayRequests : IsNewest mayRequests 7 (Row.updatedInMay 12 (some 0)) :=
  ⟨[{ Row.updatedInMay 9 (some 0) with headOwner := some "fork" }],
    [{ Row.updatedInMay 12 (some 0) with headOwner := none }], rfl, rfl, by decide, by decide⟩

/-- The branches of the second request are compared, and a number that is not listed is refused. -/
theorem runRequest_outcome_inMay :
    ∃ session, openSession hostSettings ⟨.absent, .absent⟩ requestsPage = .ok session ∧
      let found := runRequest mayServices hostSettings 7 none (some "substrate") session ()
      let missing := runRequest mayServices hostSettings 8 none (some "substrate") session ()
      found.ending = .ok succeeded ∧ found.lines = [mayLine] ∧
        missing.ending = .ok failed ∧ missing.lines = [] ∧
        .branches "substrate" true ∉ (runRequest mayServices.noting hostSettings 8 none
          (some "substrate") session ((), [])).state.2 := by
  obtain ⟨session, hopen, hcore⟩ := @openSession_core hostSettings ⟨.absent, .absent⟩ .standard ⟨[]⟩
    rfl rfl requestsPage
  have htable : session.table = .standard := congrArg (·.front.table) hcore
  have hrequests : ∀ requests, CallEnd.answer mayRequests = .answer requests →
      ∀ request ∈ requests,
        request.updatedAt.isAware = true ∧ request.headRef ≠ "" ∧ request.baseRef ≠ "" := by
    rintro _ ⟨⟩
    decide
  have hcomparable : Comparable session.table (.answer mayRequests) 7 "substrate"
      (Row.updatedInMay 12 (some 0)) PresetTable.substrate :=
    ⟨⟨_, rfl, isNewest_mayRequests⟩, rfl, by rw [htable]; rfl⟩
  have hunlisted : ∀ request preset,
      ¬ Comparable session.table (.answer mayRequests) 8 "substrate" request preset := by
    rintro request preset ⟨⟨_, ⟨⟩, hnewest⟩, -, -⟩
    have hothers : ∀ request ∈ mayRequests, request.number ≠ 8 := by decide
    exact hothers request hnewest.mem hnewest.number_eq
  obtain ⟨hfound, hprints, -, -⟩ := runRequest_outcome hopen mayServices () 7 none
    (some "substrate") hrequests
  obtain ⟨hmissing, -, hfails, hasked⟩ := runRequest_outcome hopen mayServices () 8 none
    (some "substrate") hrequests
  obtain ⟨url, line, hurl, hisLine, hline⟩ := hprints _ _ [] hcomparable rfl
  have hprinted : line = mayLine := by
    have hline : (Draft.ofBranches PresetTable.substrate "master"
        "gav-xcm").url.map (absoluteUrl hostSettings) = .ok mayLine := by decide +kernel
    have hsame : (Draft.ofBranches PresetTable.substrate "master" "gav-xcm").url =
      .ok url := hurl
    rw [hsame] at hline
    exact hisLine.eq_absoluteUrl.trans (Except.ok.inj hline)
  obtain ⟨hnothing, hending⟩ := hfails fun hsucceeded => by
    obtain ⟨request, preset, -, hcomparable, -⟩ := hmissing.mp hsucceeded
    exact hunlisted request preset hcomparable
  refine ⟨session, hopen, hfound.mpr ⟨_, _, [], hcomparable, rfl⟩, ?_, ?_, hnothing, fun hmem => ?_⟩
  · rw [hline, hprinted]
  · rcases hending with hfailed | ⟨crash, -, hlisting | hbranches⟩
    · exact hfailed
    · cases hlisting
    · cases hbranches
  · obtain ⟨-, -, request, preset, hcomparable⟩ := (hasked _ _).mp hmem
    exact hunlisted request preset hcomparable

end CommandLine

end BranchCompare
