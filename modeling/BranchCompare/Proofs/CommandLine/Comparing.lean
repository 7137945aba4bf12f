import BranchCompare.Proofs.CommandLine.Restoring
import BranchCompare.Proofs.Listing.Pulls
import BranchCompare.Proofs.SelectionStore
import BranchCompare.Proofs.Workflow.Candidates
import BranchCompare.Proofs.Workflow.EmittedUrls

/-!
# The command that compares two branches

The branches that are given stand in the URL of the page from which the session goes back to the
repository.  For each of them the first candidate is taken that names a branch: the one that is
given, the one that was chosen last, and the standard one (`Branch.firstNamed?`).  With a preset and
two branches the command succeeds and prints the URL of their comparison, and otherwise it fails
(`execute_compare`).
-/

namespace BranchCompare

open BranchCompare.Action (Side nonEmpty)

namespace CommandLine

open BranchCompare.Session (Core Front)

variable {S : Type} {settings : Settings} {files : Files} {table : PresetTable}
  {store : SelectionStore} {repo : String} {old new : Option String}

/-! ## The session of the command -/

/-- A session that is opened has the page, the store and nothing else. -/
theorem openSession_core (hstore : SelectionStore.ofDocument files.selection = .ok store)
    (htable : presetTable settings files.presets = .ok table) (url : String) :
    ∃ session, openSession settings files url = .ok session ∧
      session.core = ⟨⟨table, store, files.selection, .ofUrl url, .idle⟩,
        .fresh settings.fetchTimeout [], [], []⟩ := by
  unfold openSession
  rw [hstore, htable]
  exact ⟨_, rfl, rfl⟩

def givenFor (old new : Option String) : Side → Option String
  | .old => old
  | .new => new

theorem wellFormed_comparisonPage (repo : String) (old new : Option String) :
    Url.WellFormed (comparisonPage repo old new) := by
  have hquery : ∀ {items : List Form.Pair}, ∀ c ∈ Form.encode items,
      Url.isDropped c = false ∧ c ≠ '#' := fun c hc => Query.encode_kept hc
  refine ⟨_, @Url.split_rooted [] _ nofun nofun hquery, fun _ hprefix => ?_⟩
  have hpath : ¬ ['/', '/'] <+: ['/'] := by decide
  rw [String.toList_ofList] at hprefix
  exact absurd hprefix hpath

/-- The query of named texts says those that are not empty. -/
theorem paramOf_named {entries : List (String × Option String)}
    (h : (OrderedMap.keys entries).Nodup) (name : String) :
    Page.paramOf name none (entries.filterMap fun (key, given) =>
      (nonEmpty given).map fun text => (key, text)) =
      (OrderedMap.get? name entries).bind nonEmpty := by
  induction entries with
  | nil => rfl
  | cons entry rest ih =>
    obtain ⟨key, given⟩ := entry
    obtain ⟨hfresh, hrest⟩ := List.nodup_cons.mp h
    specialize ih hrest
    rw [List.filterMap_cons, OrderedMap.get?]
    dsimp only
    by_cases hkey : key = name
    · subst hkey
      rw [if_pos rfl, Option.bind_some]
      cases hgiven : nonEmpty given with
      | none =>
        rw [OrderedMap.get?_of_not_mem hfresh] at ih
        exact ih
      | some text =>
        have hne := (Action.mem_of_nonEmpty hgiven).2
        simp [Page.paramOf, hne]
    · rw [if_neg hkey, ← ih]
      cases nonEmpty given with
      | none => rfl
      | some text => exact Page.paramOf_congr (List.find?_cons_of_neg (by simpa using hkey))

/-- The page of a comparison names the repository and the branches that are given. -/
theorem param_comparisonPage (hrepo : repo ≠ "") (old new : Option String) :
    let page := Page.ofUrl (comparisonPage repo old new)
    page.param "repo" none = .ok (some repo) ∧ ∀ side : Side,
      page.param side.control.label none = .ok (nonEmpty (givenFor old new side)) := by
  intro page
  have hgiven : nonEmpty (some repo) = some repo := if_pos (decide_eq_true hrepo)
  have hkeys : (OrderedMap.keys [("repo", some repo), ("old", old), ("new", new)]).Nodup := by
    show ["repo", "old", "new"].Nodup
    decide
  have hparam : ∀ name, page.param name none = .ok
      ((OrderedMap.get? name [("repo", some repo), ("old", old), ("new", new)]).bind nonEmpty) := by
    intro name
    rw [← paramOf_named hkeys name]
    exact page.param_of_pairs (Query.pairs_build [] nofun nofun _) name none
  refine ⟨(hparam "repo").trans (congrArg Except.ok hgiven), fun side => ?_⟩
  cases side with
  | old => exact hparam "old"
  | new => exact hparam "new"

/-- The page of the command names the repository and the branches that are given. -/
theorem names_comparisonPage (hrepo : repo ≠ "") (hwritable : files.selection ≠ .directory)
    (table : PresetTable) (store : SelectionStore) (old new : Option String) :
    ∃ page, Front.Names ⟨table, store, files.selection, .ofUrl (comparisonPage repo old new), .idle⟩
      repo (fun side => nonEmpty (givenFor old new side))
      (.ofText (store.assign .repo (some repo)).fileText) page := by
  obtain ⟨hgiven, hsides⟩ := param_comparisonPage hrepo old new
  obtain ⟨page, hpage, -, -, -, hothers⟩ := @Page.replaceParam_spec
    (.ofUrl (comparisonPage repo old new)) (wellFormed_comparisonPage repo old new) "repo"
    (.text repo)
  have hwritten : ∀ text, files.selection.write text = .ok (.ofText text) := by
    intro text
    cases hdocument : files.selection with
    | directory => exact absurd hdocument hwritable
    | absent | file => rfl
  refine ⟨page, hrepo, hgiven, hwritten _, hpage, fun side => ?_⟩
  have hother : side.control.label ≠ "repo" := by cases side <;> decide
  rw [hothers _ hother, hsides side]

/-! ## The comparison -/

/-- The repository has a preset, and each of the two branches has a candidate that names one. -/
structure Finds (table : PresetTable) (store : SelectionStore) (repo : String)
    (old new : Option String) (branches : List Branch) (preset : Preset) (first second : String) :
    Prop where
  preset : table.resolve (some repo) = .ok preset
  first : Branch.firstNamed? branches old (store.get? .first) = some first
  second : Branch.firstNamed? branches new (store.get? .second) = some second

/-- The branches are shown with the candidates that name one, and the repository is remembered. -/
structure Shows (table : PresetTable) (store : SelectionStore) (repo : String)
    (old new : Option String) (branches : List Branch) (session : Session) : Prop where
  table : session.table = table
  error : session.flow.error = none
  stage : session.flow.stage = .branchesReady
  repo : session.flow.repo = some repo
  first : session.flow.first = Branch.firstNamed? branches old (store.get? .first)
  second : session.flow.second = Branch.firstNamed? branches new (store.get? .second)

variable {branches : List Branch} {preset : Preset} {first second : String} {session : Session}

/-- Once the branches of the repository have come, the session shows the choice of both sides. -/
theorem shows_of_front {document kept : Document} {page shown : Page}
    (h : session.front = (Front.select ⟨table, store, document, page, .idle⟩ repo kept
      shown).conclude (fun side => nonEmpty (givenFor old new side)) (.ok branches)) :
    Shows table store repo old new branches session := by
  have hflow : session.flow = _ := congrArg Front.flow h
  have hpick : ∀ (given : Option String) {key : SelectionKey}, key ≠ .repo →
      Branch.choose branches (nonEmpty given)
        ((store.assign .repo (some repo)).get? key) =
      Branch.firstNamed? branches given (store.get? key) := by
    intro given key hkey
    rw [SelectionStore.get?_assign, if_neg hkey, Branch.choose_eq_firstNamed]
    unfold Branch.firstNamed?
    rw [Branch.candidates_nonEmpty]
  refine ⟨congrArg Front.table h, ?_, ?_, ?_, ?_, ?_⟩ <;> rw [hflow]
  · rfl
  · rfl
  · rfl
  · exact hpick old (by decide)
  · exact hpick new (by decide)

/-- With two branches and a preset the comparison is launched. -/
theorem Shows.launch_found (h : Shows table store repo old new branches session)
    (hfinds : Finds table store repo old new branches preset first second) :
    ∃ url, (CompareRequest.Draft.ofBranches preset first second).url = .ok url ∧
      (session.run Action.launch).2 = .ok (some url) ∧
      (session.run Action.launch).1.document = session.document := by
  have hkept : ∀ {name : String}, name ≠ "" → nonEmpty (some name) = some name :=
    fun hne => if_pos (decide_eq_true hne)
  have hfirst : nonEmpty session.flow.first = some first := by
    rw [h.first, hfinds.first]
    exact hkept (Branch.firstNamed?_ne hfinds.first)
  have hsecond : nonEmpty session.flow.second = some second := by
    rw [h.second, hfinds.second]
    exact hkept (Branch.firstNamed?_ne hfinds.second)
  have hpreset : session.table.resolve session.flow.repo = .ok preset := by
    rw [h.table, h.repo, hfinds.preset]
  obtain ⟨given, hgiven, url, rfl, hurl, -, hdocument⟩ :=
    Session.of_run (Action.leads_launch_ready h.stage hfirst hsecond hpreset)
  exact ⟨url, hurl, hgiven, hdocument⟩

/-- Without them nothing is launched. -/
theorem Shows.launch_refused (h : Shows table store repo old new branches session)
    (hnone : ∀ preset first second,
      ¬ Finds table store repo old new branches preset first second) :
    (session.run Action.launch).2 = .ok none ∧
      (session.run Action.launch).1.document = session.document := by
  have hmissing : ∀ preset first second, session.flow.stage = .branchesReady →
      nonEmpty session.flow.first = some first → nonEmpty session.flow.second = some second →
      session.table.resolve session.flow.repo ≠ .ok preset := by
    intro preset first second _ hfirst hsecond hpreset
    rw [h.first] at hfirst
    rw [h.second] at hsecond
    rw [h.table, h.repo] at hpreset
    exact hnone preset first second
      ⟨hpreset, (Action.mem_of_nonEmpty hfirst).1, (Action.mem_of_nonEmpty hsecond).1⟩
  obtain ⟨given, hgiven, rfl, hdocument⟩ := Session.of_run (Action.leads_launch_refused hmissing)
  exact ⟨hgiven, hdocument⟩

/-! ## The report -/

/-- The line of a URL is the address of the server, without the slashes at its end, and the URL. -/
def IsLineOf (settings : Settings) (url line : String) : Prop :=
  ∃ base count, settings.baseUrl.toList = base ++ List.replicate count '/' ∧
    base.getLast? ≠ some '/' ∧ line = String.ofList base ++ url

theorem isLineOf_absoluteUrl (settings : Settings) (url : String) :
    IsLineOf settings url (absoluteUrl settings url) := by
  let address := settings.baseUrl.toList.reverse
  have hslashes : address.takeWhile (· == '/') =
      List.replicate (address.takeWhile (· == '/')).length '/' := by
    refine List.eq_replicate_length.mpr fun c hc => ?_
    have hslash : (c == '/') = true := @List.mem_takeWhile_imp _ (· == '/') address c hc
    exact eq_of_beq hslash
  refine ⟨(address.dropWhile (· == '/')).reverse, (address.takeWhile (· == '/')).length,
    ?_, ?_, rfl⟩
  · rw [← List.reverse_replicate, ← hslashes, ← List.reverse_append,
      List.takeWhile_append_dropWhile, List.reverse_reverse]
  · have hfirst := List.head?_dropWhile_not (· == '/') address
    rw [List.getLast?_reverse]
    intro hslash
    rw [hslash] at hfirst
    cases hfirst

/-- No two lines are lines of one URL. -/
theorem IsLineOf.eq_absoluteUrl {url line : String} (h : IsLineOf settings url line) :
    line = absoluteUrl settings url := by
  obtain ⟨base, count, haddress, hbase, rfl⟩ := h
  have hkept : base.reverse.dropWhile (· == '/') = base.reverse := by
    cases hlast : base.reverse with
    | nil => rfl
    | cons c rest =>
      refine List.dropWhile_cons_of_neg fun hslash => hbase ?_
      rw [← List.head?_reverse, hlast, ← eq_of_beq hslash]
      rfl
  unfold absoluteUrl Text.stripEnd
  rw [haddress, List.reverse_append, List.reverse_replicate,
    List.dropWhile_append_of_pos fun c hc => by simp [List.eq_of_mem_replicate hc], hkept,
    List.reverse_reverse]

variable {services : Services S} {state : S} {restored : Completed S}

/-- An error that is shown is told of. -/
theorem runCompare_error {message : String} {value : OperationValue}
    (h : complete services session state .restore = restored)
    (hresult : restored.result = .value value)
    (herror : restored.session.flow.error = some message) :
    runCompare services settings session state =
      report restored.session restored.state [] [message] (.ok failed) := by
  unfold runCompare
  dsimp only
  rw [h, hresult]
  dsimp only
  rw [herror]

/-- Otherwise the comparison is launched. -/
theorem runCompare_launch {given : Option String} {value : OperationValue}
    (h : complete services session state .restore = restored)
    (hresult : restored.result = .value value)
    (herror : restored.session.flow.error = none)
    (hrun : (restored.session.run Action.launch).2 = .ok given) :
    runCompare services settings session state =
      reportUrl settings (restored.session.run Action.launch).1 restored.state given := by
  have hboth : restored.session.run Action.launch =
      ((restored.session.run Action.launch).1, .ok given) := Prod.ext rfl hrun
  unfold runCompare
  dsimp only
  rw [h, hresult]
  dsimp only
  rw [herror]
  dsimp only
  rw [hboth]

/-- The report is that of a comparison of the two branches that are found, or of none.  The
repository is remembered. -/
structure Concludes (settings : Settings) (table : PresetTable) (store : SelectionStore)
    (repo : String) (old new : Option String) (heard : CallEnd (List Branch)) (report : Report S) :
    Prop where
  found : ∀ branches preset first second, heard = .answer branches →
    Finds table store repo old new branches preset first second →
    report.ending = .ok succeeded ∧
      ∃ url, (CompareRequest.Draft.ofBranches preset first second).url = .ok url ∧
        report.lines = [absoluteUrl settings url]
  refused : (∀ branches preset first second, heard = .answer branches →
      ¬ Finds table store repo old new branches preset first second) →
    report.ending = .ok failed ∧ report.lines = []
  selection : report.selection = .ofText (store.assign .repo (some repo)).fileText

variable {value : OperationValue} {heard : CallEnd (List Branch)}

/-- The command concludes when the branches have come. -/
theorem concludes_of_shows (hrestored : complete services session state .restore = restored)
    (hresult : restored.result = .value value)
    (hshows : Shows table store repo old new branches restored.session)
    (hdocument : restored.session.document =
      .ofText (store.assign .repo (some repo)).fileText) :
    Concludes settings table store repo old new (.answer branches)
      (runCompare services settings session state) := by
  have hlaunches := fun given =>
    @runCompare_launch S settings session services state restored given value hrestored hresult
      hshows.error
  by_cases hfinds : ∃ preset first second,
      Finds table store repo old new branches preset first second
  · obtain ⟨preset, first, second, hfinds⟩ := hfinds
    obtain ⟨url, hurl, hrun, hsame⟩ := hshows.launch_found hfinds
    rw [hlaunches _ hrun]
    refine ⟨?_, fun hnone => absurd hfinds (hnone _ _ _ _ rfl), hsame.trans hdocument⟩
    rintro _ preset' first' second' ⟨⟩ hfinds'
    obtain rfl := Except.ok.inj (hfinds.preset.symm.trans hfinds'.preset)
    obtain rfl := Option.some.inj (hfinds.first.symm.trans hfinds'.first)
    obtain rfl := Option.some.inj (hfinds.second.symm.trans hfinds'.second)
    exact ⟨rfl, url, hurl, rfl⟩
  · have hnone : ∀ preset first second,
        ¬ Finds table store repo old new branches preset first second :=
      fun preset first second h => hfinds ⟨preset, first, second, h⟩
    obtain ⟨hrun, hsame⟩ := hshows.launch_refused hnone
    rw [hlaunches _ hrun]
    refine ⟨?_, fun _ => ⟨rfl, rfl⟩, hsame.trans hdocument⟩
    rintro _ preset first second ⟨⟩ hfinds'
    exact absurd hfinds' (hnone _ _ _)

theorem concludes_of_error (hrestored : complete services session state .restore = restored)
    (hresult : restored.result = .value value) {message : String}
    (herror : restored.session.flow.error = some message)
    (hheard : ∀ branches, heard ≠ .answer branches)
    (hdocument : restored.session.document =
      .ofText (store.assign .repo (some repo)).fileText) :
    Concludes settings table store repo old new heard
      (runCompare services settings session state) := by
  rw [runCompare_error hrestored hresult herror]
  refine ⟨?_, fun _ => ⟨rfl, rfl⟩, hdocument⟩
  intro branches preset first second hanswer _
  exact absurd hanswer (hheard branches)

theorem runCompare_concludes (services : Services S) (state : S)
    (hcore : session.core = ⟨⟨table, store, files.selection, .ofUrl (comparisonPage repo old new),
      .idle⟩, .fresh settings.fetchTimeout [], [], []⟩)
    (hrepo : repo ≠ "") (hwritable : files.selection ≠ .directory)
    (hheard : ∀ crash, services.heard settings.fetchTimeout repo state ≠ .crashed crash) :
    Concludes settings table store repo old new
      (services.heard settings.fetchTimeout repo state)
      (runCompare services settings session state) := by
  obtain ⟨page, hnames⟩ := names_comparisonPage hrepo hwritable table store old new
  obtain ⟨result, hends, hfront, hresult⟩ := complete_restore services state hcore hnames hheard
  generalize services.heard settings.fetchTimeout repo state = heard at hends hheard
  generalize hrestored : complete services session state .restore = restored at hfront hresult
  have hdocument : restored.session.document = _ := congrArg Front.document hfront
  have hflow : restored.session.flow = _ := congrArg Front.flow hfront
  cases hends with
  | listed branches =>
    exact concludes_of_shows hrestored hresult (shows_of_front hfront) hdocument
  | unavailable failure | outOfTime failure =>
    have herror : restored.session.flow.error = some failure.message := by rw [hflow]; rfl
    exact concludes_of_error hrestored hresult herror nofun hdocument
  | crashed crash => exact absurd rfl (hheard crash)

/-- The command succeeds only by a comparison that was found. -/
theorem Concludes.succeeds_iff {report : Report S}
    (h : Concludes settings table store repo old new heard report) :
    report.ending = .ok succeeded ↔ ∃ branches preset first second, heard = .answer branches ∧
      Finds table store repo old new branches preset first second := by
  constructor
  · intro hending
    by_contra hnone
    have hrefused := h.refused fun branches preset first second hanswer hfinds =>
      hnone ⟨branches, preset, first, second, hanswer, hfinds⟩
    rw [hrefused.1] at hending
    cases hending
  · rintro ⟨branches, preset, first, second, hanswer, hfinds⟩
    exact (h.found branches preset first second hanswer hfinds).1

/-- The whole command concludes, from the files on. -/
theorem execute_concludes {transport : Http.Transport S} {state : S} (hrepo : repo ≠ "")
    (hservices : servicesOver settings transport = .ok services)
    (hstore : SelectionStore.ofDocument files.selection = .ok store)
    (hwritable : files.selection ≠ .directory)
    (htable : presetTable settings files.presets = .ok table)
    (hheard : ∀ crash, services.heard settings.fetchTimeout repo state ≠ .crashed crash)
    (old new : Option String) :
    Concludes settings table store repo old new
      (services.heard settings.fetchTimeout repo state)
      ((Command.compare repo old new).execute settings files transport state) := by
  obtain ⟨session, hopen, hcore⟩ := openSession_core hstore htable (comparisonPage repo old new)
  have hexecute : (Command.compare repo old new).execute settings files transport state =
      runCompare services settings session state := by
    show withSession settings files transport state (comparisonPage repo old new) _ = _
    unfold withSession
    rw [hservices, CompareRequest.mapError_ok]
    dsimp only
    rw [hopen]
  rw [hexecute]
  exact runCompare_concludes services state hcore hrepo hwritable hheard

/-- The command succeeds if the repository has a preset and both branches are found, and then
prints the URL of their comparison.  Otherwise, also if no branches can be had, it fails and prints
nothing.  The repository is remembered in any case. -/
theorem execute_compare {transport : Http.Transport S} {state : S} (hrepo : repo ≠ "")
    (hservices : servicesOver settings transport = .ok services)
    (hstore : SelectionStore.ofDocument files.selection = .ok store)
    (hwritable : files.selection ≠ .directory)
    (htable : presetTable settings files.presets = .ok table)
    (hheard : ∀ crash, services.heard settings.fetchTimeout repo state ≠ .crashed crash)
    (old new : Option String) :
    let heard := services.heard settings.fetchTimeout repo state
    let report := (Command.compare repo old new).execute settings files transport state
    (report.ending = .ok succeeded ↔ ∃ branches preset first second, heard = .answer branches ∧
      Finds table store repo old new branches preset first second) ∧
    (∀ branches preset first second, heard = .answer branches →
      Finds table store repo old new branches preset first second →
      ∃ url line, (CompareRequest.Draft.ofBranches preset first second).url = .ok url ∧
        IsLineOf settings url line ∧ report.lines = [line]) ∧
    (report.ending ≠ .ok succeeded → report.ending = .ok failed ∧ report.lines = []) ∧
    ∃ kept, SelectionStore.ofDocument report.selection = .ok kept ∧
      kept.get? .repo = some repo := by
  intro heard report
  have hconcludes : Concludes settings table store repo old new heard report :=
    execute_concludes hrepo hservices hstore hwritable htable hheard old new
  have hsucceeds := hconcludes.succeeds_iff
  have horderly := (SelectionStore.ofDocument_spec hstore).1.assign .repo (some repo)
  have hreopens := SelectionStore.ofDocument_fileText horderly
  rw [← hconcludes.selection] at hreopens
  refine ⟨hsucceeds, ?_, fun hfailed => hconcludes.refused ?_, _, hreopens,
    (SelectionStore.get?_assign ..).trans (if_pos rfl)⟩
  · intro branches preset first second hanswer hfinds
    obtain ⟨-, url, hurl, hline⟩ := hconcludes.found branches preset first second hanswer hfinds
    exact ⟨url, _, hurl, isLineOf_absoluteUrl settings url, hline⟩
  · intro branches preset first second hanswer hfinds
    exact hfailed (hsucceeds.mpr ⟨branches, preset, first, second, hanswer, hfinds⟩)

def hostSettings : Settings := { Settings.standard with baseUrl := "http://h//" }

def devListing : String := "\x7b\"branch\": [[\"dev\", \"a1\"], [\"master\", \"b2\"]]\x7d"

def listedIn? : CallEnd (List Branch) → Option (List Branch)
  | .answer branches => some branches
  | _ => none

theorem services_devListing : ∃ services,
    servicesOver hostSettings (Listing.answering devListing) = .ok services ∧
      (services.branches "substrate" false ()).1 = .answer [⟨"dev", "a1"⟩, ⟨"master", "b2"⟩] := by
  have hlisted : ((servicesOver hostSettings (Listing.answering devListing)).toOption.any
      fun services => listedIn? (services.branches "substrate" false ()).1 =
        some [⟨"dev", "a1"⟩, ⟨"master", "b2"⟩]) = true := by decide +kernel
  cases hservices : servicesOver hostSettings (Listing.answering devListing) with
  | error fault =>
    rw [hservices] at hlisted
    cases hlisted
  | ok services =>
    simp only [hservices, Except.toOption, Option.any_some, decide_eq_true_eq] at hlisted
    refine ⟨services, rfl, ?_⟩
    unfold listedIn? at hlisted
    split at hlisted
    · next branches hanswer =>
      rw [hanswer, Option.some.inj hlisted]
    · cases hlisted

def devLine : String :=
  "http://h/compare?repo=substrate&threshold=10&path_pattern=frame%2F%2A%2Fsrc%2Fweights.rs" ++
    "&method=guess-worst&ignore_errors=true&unit=weight&old=dev&new=master"

/-- The first branch is given, and the second one is the standard one. -/
theorem execute_compare_dev :
    let report := (Command.compare "substrate" (some "dev") (some "")).execute hostSettings
      ⟨.absent, .absent⟩ (Listing.answering devListing) ()
    report.ending = .ok succeeded ∧ report.lines = [devLine] ∧
    ∃ kept, SelectionStore.ofDocument report.selection = .ok kept ∧
      kept.get? .repo = some "substrate" := by
  obtain ⟨services, hservices, hlisted⟩ := services_devListing
  have hheard : ∀ crash,
      services.heard hostSettings.fetchTimeout "substrate" () ≠ .crashed crash := by
    intro crash
    unfold Services.heard
    rw [hlisted]
    split <;> exact nofun
  obtain ⟨hending, hlines, -, hkept⟩ := @execute_compare Unit hostSettings ⟨.absent, .absent⟩
    .standard ⟨[]⟩ "substrate" services _ () (by decide) hservices rfl nofun rfl hheard
    (some "dev") (some "")
  have hover : hostSettings.fetchTimeout.isOver = false := by decide +kernel
  have hanswer : services.heard hostSettings.fetchTimeout "substrate" () =
      .answer [⟨"dev", "a1"⟩, ⟨"master", "b2"⟩] := by
    unfold Services.heard
    rw [hover, hlisted]
    rfl
  have hfinds : Finds .standard ⟨[]⟩ "substrate" (some "dev") (some "")
      [⟨"dev", "a1"⟩, ⟨"master", "b2"⟩] PresetTable.substrate "dev" "master" :=
    ⟨rfl, by decide, by decide⟩
  obtain ⟨url, line, hurl, hisLine, hline⟩ := hlines _ _ _ _ hanswer hfinds
  have hprinted : (CompareRequest.Draft.ofBranches PresetTable.substrate "dev" "master").url.map
      (absoluteUrl hostSettings) = .ok devLine := by decide +kernel
  rw [hurl] at hprinted
  refine ⟨hending.mpr ⟨_, _, _, _, hanswer, hfinds⟩, ?_, hkept⟩
  rw [hline, hisLine.eq_absoluteUrl, Except.ok.inj hprinted]

end CommandLine

end BranchCompare
