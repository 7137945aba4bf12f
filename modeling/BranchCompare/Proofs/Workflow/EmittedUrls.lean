import BranchCompare.Proofs.CompareRequest.Tables
import BranchCompare.Proofs.Workflow.Stretches

/-!
# The URLs that a session leads the page to

Every operation that compares a row does so with a preset that the table gave (`TaskState.Draws`), and
so does every launch.  In a run the page is led only to the URLs of such presets
(`Sound.emits_of_returnedBy`), which are read back unless the preset has no pattern.
-/

namespace BranchCompare

/-- The URL of the comparison of two branches with a preset that the table gives. -/
def PresetTable.Emits (table : PresetTable) (url : String) : Prop :=
  ∃ repo preset old new, table.resolve repo = .ok preset ∧
    (CompareRequest.Draft.ofBranches preset old new).url = .ok url

/-- The purpose is no comparison, or one with a preset that the table gives. -/
def Purpose.Draws (table : PresetTable) : Purpose → Prop
  | .choice _ _ => True
  | .comparison _ preset => ∃ repo, table.resolve repo = .ok preset

/-- What the operation compares, or has compared, it compares with a preset that the table gives. -/
def TaskState.Draws (table : PresetTable) : TaskState → Prop
  | .loading _ purpose _ => purpose.Draws table
  | .ended (.value (.launched (some url))) => table.Emits url
  | _ => True

namespace TaskState

variable {table : PresetTable} {state new : TaskState} {url : String}

/-- An operation that drifts draws on the table as before. -/
theorem Draws.drifts (h : state.Draws table) (hdrifts : state.Drifts new) : new.Draws table := by
  cases hdrifts with
  | same => exact h
  | cancels => exact h
  | leaves | listens | stops => trivial

/-- A URL that is returned is drawn from the table. -/
theorem Draws.emits (h : state.Draws table) (hurl : state.url? = some url) : table.Emits url := by
  obtain rfl := eq_of_url? hurl
  exact h

end TaskState

namespace Action

variable {α : Type} {good : TaskState → Prop} {table : PresetTable} {session : Session}

/-- However it begins, the stretch ends in a good state, or it is broken off. -/
def Yields (good : TaskState → Prop) (action : Action Turn) : Prop :=
  ∀ session, Leads action session (fun turn _ => good turn.state) fun _ _ => True

theorem yields_pure {turn : Turn} (h : good turn.state) : Yields good (pure turn) := fun _ => h

theorem Yields.after (action : Action α) {next : α → Action Turn}
    (h : ∀ value, Yields good (next value)) : Yields good (action >>= next) := by
  intro session
  rw [leads_bind]
  unfold Leads
  split
  · next value after _ => exact h value after
  · trivial

theorem yields_throw (crash : Crash) : Yields good (throw crash) := fun _ => trivial

theorem yields_endChoice (repo : String) (restoring : Bool) (result : LoadEnd) :
    Yields (TaskState.Draws table) (endChoice repo restoring result) := by
  have hchoice : ∀ isReady, Yields (TaskState.Draws table)
      (pure (.ended (choiceValue restoring isReady))) := by
    intro isReady
    refine yields_pure ?_
    cases restoring <;> trivial
  refine .after _ fun session => ?_
  cases result with
  | ok branches =>
    refine .after _ fun _ => ?_
    split
    · exact .after _ fun _ => .after _ fun _ => hchoice true
    · exact hchoice false
  | error fault =>
    cases fault with
    | unavailable failure =>
      dsimp only
      split
      · exact .after _ fun _ => .after _ fun _ => .after _ fun _ => hchoice false
      · exact .after _ fun _ => hchoice false
    | crashed crash => exact .after _ fun _ => yields_throw crash

/-- A comparison returns the URL of a preset of the table. -/
theorem yields_endComparison (row : ChangeRequest.Row) {repo : Option String} {preset : Preset}
    (hpreset : table.resolve repo = .ok preset) (result : LoadEnd) :
    Yields (TaskState.Draws table) (endComparison row preset result) := by
  cases result with
  | ok branches =>
    refine .after _ fun _ => ?_
    intro session
    rw [leads_bind]
    unfold compareUrl
    split
    · next url hurl => exact ⟨repo, preset, _, _, hpreset, hurl⟩
    · trivial
  | error fault =>
    cases fault with
    | unavailable failure => exact .after _ fun _ => .after _ fun _ => yields_pure trivial
    | crashed crash => exact .after _ fun _ => yields_throw crash

theorem yields_followLoad {purpose : Purpose} (h : purpose.Draws table)
    (outcome : BranchCache × LoadTurn × List CacheSignal) :
    Yields (TaskState.Draws table) (followLoad purpose outcome) := by
  obtain ⟨cache, turn, signals⟩ := outcome
  refine .after _ fun _ => ?_
  cases turn with
  | ended result =>
    cases purpose with
    | choice repo restoring => exact yields_endChoice repo restoring result
    | comparison row preset =>
      obtain ⟨repo, hpreset⟩ := h
      exact yields_endComparison row hpreset result
  | waits waiting => exact yields_pure h

theorem yields_beginLoading {purpose : Purpose} (h : purpose.Draws table) (task : TaskId)
    (repo : String) (forced : Bool) :
    Yields (TaskState.Draws table) (beginLoading task repo forced purpose) :=
  .after _ fun _ => .after _ fun _ => yields_followLoad h _

theorem yields_loadBranches (task : TaskId) (repo : String) (forced restoring : Bool) :
    Yields (TaskState.Draws table) (loadBranches task repo forced restoring) := by
  have hchoice : Purpose.Draws table (.choice repo restoring) := trivial
  exact .after _ fun _ => yields_beginLoading hchoice task repo forced

theorem yields_selectRepo (task : TaskId) (repo : String) (restoring : Bool) :
    Yields (TaskState.Draws table) (selectRepo task repo restoring) :=
  .after _ fun _ => .after _ fun _ => .after _ fun _ => .after _ fun _ =>
    yields_loadBranches task repo false restoring

theorem yields_restore (task : TaskId) : Yields (TaskState.Draws table) (restore task) := by
  refine .after _ fun _ => .after _ fun inUrl => .after _ fun session => ?_
  split
  · exact yields_selectRepo task _ true
  · exact yields_pure trivial

theorem yields_refresh (task : TaskId) : Yields (TaskState.Draws table) (refresh task) := by
  refine .after _ fun session => ?_
  split
  · exact .after _ fun _ => yields_loadBranches task _ true false
  · exact yields_pure trivial

theorem yields_list (task : TaskId) (owner repo : Option String) :
    Yields (TaskState.Draws table) (list task owner repo) := by
  rw [list_eq]
  refine .after _ fun session => .after _ fun owner => .after _ fun repo => .after _ fun _ => ?_
  split
  · exact .after _ fun _ => yields_pure trivial
  · refine .after _ fun _ => .after _ fun _ => ?_
    dsimp only
    split
    · exact .after _ fun _ => yields_pure trivial
    · exact yields_pure trivial

/-- The preset of a comparison is looked up in the table of the session. -/
theorem leads_compare_draws (task : TaskId) (row : ChangeRequest.Row) (repo : Option String) :
    Leads (compare task row repo) session (fun turn _ => turn.state.Draws session.table)
      fun _ _ => True := by
  have hbegins : ∀ repo, Yields (TaskState.Draws session.table)
      (beginComparison task row session.table repo) := by
    intro repo
    unfold beginComparison
    split
    · next preset hpreset =>
      have hcomparison : Purpose.Draws session.table (.comparison row preset) := ⟨repo, hpreset⟩
      exact yields_beginLoading hcomparison task _ true
    · exact .after _ fun _ => yields_pure trivial
  rw [compare_eq]
  unfold clearError
  rw [leads_bind, leads_modifyFlow]
  split
  · exact leads_bind.mpr trivial
  · rw [leads_bind, leads_get]
    dsimp only
    split <;> exact Yields.after _ hbegins _

/-- Each operation draws on the table from its first turn on. -/
theorem leads_first_draws (task : TaskId) (operation : Operation) :
    Leads (first task operation) session (fun turn _ => turn.state.Draws session.table)
      fun _ _ => True := by
  cases operation with
  | restore => exact yields_restore task session
  | selectRepo repo => exact yields_selectRepo task repo false session
  | refresh => exact yields_refresh task session
  | list owner repo => exact yields_list task owner repo session
  | compare row repo => exact leads_compare_draws task row repo

theorem yields_endListing (owner repo : String) (result : CallEnd (List ChangeRequest)) :
    Yields (TaskState.Draws table) (endListing owner repo result) := by
  cases result with
  | answer requests =>
    refine .after _ fun _ => ?_
    unfold showRequests
    split
    · exact .after _ fun _ => yields_pure trivial
    · exact yields_throw _
  | unavailable failure => exact .after _ fun _ => .after _ fun _ => yields_pure trivial
  | outOfTime => exact .after _ fun _ => .after _ fun _ => yields_pure trivial
  | crashed crash => exact .after _ fun _ => yields_throw crash

/-! ## Launches -/

/-- Two picks that are ready are launched with the preset of their repository. -/
theorem leads_launch_ready {preset : Preset} {old new : String}
    (hstage : session.flow.stage = .branchesReady) (hfirst : nonEmpty session.flow.first = some old)
    (hsecond : nonEmpty session.flow.second = some new)
    (hpreset : session.table.resolve session.flow.repo = .ok preset) :
    Leads launch session
      (fun given after => ∃ url, given = some url ∧
        (CompareRequest.Draft.ofBranches preset old new).url = .ok url ∧
        after.page = session.page.navigate url ∧ after.document = session.document)
      fun _ _ => False := by
  have hdraft := CompareRequest.Draft.url_ofBranches preset (mem_of_nonEmpty hfirst).2
    (mem_of_nonEmpty hsecond).2
  unfold launch clearError
  rw [leads_bind, leads_modifyFlow, leads_bind, leads_get]
  dsimp only
  rw [hstage, hfirst, hsecond]
  dsimp only
  rw [leads_bind, leads_get]
  dsimp only
  rw [hpreset]
  dsimp only
  rw [leads_bind]
  unfold compareUrl
  rw [hdraft]
  exact ⟨_, rfl, rfl, rfl, rfl⟩

/-- Where two picks or the preset are missing, nothing is launched. -/
theorem leads_launch_refused
    (h : ∀ preset old new, session.flow.stage = .branchesReady →
      nonEmpty session.flow.first = some old → nonEmpty session.flow.second = some new →
      session.table.resolve session.flow.repo ≠ .ok preset) :
    Leads launch session (fun given after => given = none ∧ after.document = session.document)
      fun _ _ => False := by
  unfold launch clearError
  rw [leads_bind, leads_modifyFlow, leads_bind, leads_get]
  dsimp only
  split
  · next old new hstage hfirst hsecond =>
    rw [leads_bind, leads_get]
    dsimp only
    split
    · next preset hpreset => exact absurd hpreset (h preset old new hstage hfirst hsecond)
    · exact ⟨rfl, rfl⟩
  · exact ⟨rfl, rfl⟩

end Action

open BranchCompare.Action (Leads)

namespace Session

variable {session before after : Session} {task : TaskId} {state : TaskState} {url : String}

/-! ## Every operation -/

/-- All operations draw on the table of the session. -/
def Draws (session : Session) : Prop :=
  ∀ (task : TaskId) (state : TaskState), session.tasks[task]? = some state →
    state.Draws session.table

/-- What is new among the operations is in line to begin. -/
theorem begins_of_goes {urls : List String} (h : before.Goes after urls)
    (hnew : before.tasks.length ≤ task) (hs : after.tasks[task]? = some state) :
    ∃ operation, state = .begins operation := by
  obtain ⟨operations, htasks⟩ := h.tasks
  rw [htasks, List.getElem?_append_right hnew] at hs
  obtain ⟨operation, -, rfl⟩ := List.mem_map.mp (List.mem_of_getElem? hs)
  exact ⟨operation, rfl⟩

theorem Still.not_new (h : before.Still after) (hnew : before.tasks.length ≤ task) :
    after.tasks[task]? = none :=
  List.getElem?_eq_none (h.length ▸ hnew)

theorem Stretch.begins_of_new {other : TaskId} {action : Action Turn}
    (hstretch : session.Stretch other action) (h : session.Sound)
    (hnew : session.tasks.length ≤ task)
    (hs : (session.follow other action).tasks[task]? = some state) :
    ∃ operation, state = .begins operation := by
  have hkeeps := hstretch.keeps h
  have hother : other < session.tasks.length := by
    cases hstretch with
    | begins hother | resumes hother | answers hother | expires hother =>
      exact (List.getElem?_eq_some_iff.mp hother).1
  have hne : other ≠ task := Nat.ne_of_lt (Nat.lt_of_lt_of_le hother hnew)
  have hset : ∀ (after : Session) (new : TaskState),
      (after.setTask other new).tasks[task]? = after.tasks[task]? :=
    fun _ _ => List.getElem?_set_ne hne
  rcases follow_cases session other action with
    ⟨given, after, heq, hfollow⟩ | ⟨crash, after, heq, hfollow⟩ <;> rw [hfollow, hset] at hs
  · exact begins_of_goes (hkeeps.ok heq).1 hnew hs
  · have hgoes : session.Goes after [] := hkeeps.error heq
    exact begins_of_goes hgoes hnew hs

/-- What the user does puts operations in line, and nothing else. -/
theorem begins_of_run {α : Type} {action : Action α} (h : Action.Stays session action)
    (hnew : session.tasks.length ≤ task)
    (hs : (session.run action).1.tasks[task]? = some state) :
    ∃ operation, state = .begins operation := by
  have hstays : Leads action session (fun _ after => session.Goes after [])
    fun _ after => session.Goes after [] := h
  refine @part_run _ _ id (fun after => after.tasks[task]? = some state →
    ∃ operation, state = .begins operation) session action ?_ hs
  exact hstays.mono (fun _ _ hgoes => begins_of_goes hgoes hnew)
    fun _ _ hgoes => begins_of_goes hgoes hnew

/-- By an event no operation comes up that has already begun. -/
theorem Sound.begins_of_new (h : session.Sound) {event : FlowEvent}
    (hnew : session.tasks.length ≤ task)
    (hs : (session.step event).tasks[task]? = some state) :
    ∃ operation, state = .begins operation := by
  cases event with
  | begin operation => exact begins_of_goes (h.begin operation) hnew hs
  | turn place =>
    rcases turn_cases session place with
      hstill | ⟨signal, other, action, hsignal, hcalls, hstretch, hturn⟩
    · cases (hstill.not_new hnew).symm.trans hs
    · change (session.turn place).tasks[task]? = some state at hs
      rw [hturn] at hs
      exact hstretch.begins_of_new (h.without hsignal hcalls) hnew hs
  | pick side name => exact begins_of_run (Action.stays_pick h side name) hnew hs
  | change name value => exact begins_of_run (Action.stays_change h name value) hnew hs
  | launch =>
    refine @part_run _ _ id (fun after => after.tasks[task]? = some state →
      ∃ operation, state = .begins operation) session Action.launch ?_ hs
    exact (Action.leads_launch h).mono (fun _ _ hgoes => begins_of_goes hgoes.1 hnew)
      fun _ _ hgoes => begins_of_goes hgoes hnew
  | answerFetch | answerListing | expire | advance | cancel | setReadyBranches | setReadyPulls =>
    cases ((still_step session rfl).not_new hnew).symm.trans hs

theorem Stretch.draws {action : Action Turn} (hstretch : session.Stretch task action)
    (hdraws : session.Draws) :
    Leads action session (fun turn _ => turn.state.Draws session.table) fun _ _ => True := by
  cases hstretch with
  | begins hs => exact Action.leads_first_draws task _
  | @resumes waiting purpose hs =>
    have hpurpose : purpose.Draws session.table := hdraws task _ hs
    exact Action.yields_followLoad hpurpose _ session
  | answers hs hwake => exact Action.yields_endListing _ _ _ session
  | expires hs hwake => exact Action.yields_endListing _ _ _ session

/-- Each event keeps the operations drawing on the table. -/
theorem Sound.draws_step (h : session.Sound) (hdraws : session.Draws) (event : FlowEvent) :
    (session.step event).Draws := by
  intro task state hs
  have htable := (h.step event).table
  rw [htable]
  by_cases hnew : session.tasks.length ≤ task
  · obtain ⟨operation, rfl⟩ := h.begins_of_new hnew hs
    trivial
  · have hlt := Nat.lt_of_not_le hnew
    have hold : session.tasks[task]? = some session.tasks[task] := List.getElem?_eq_getElem hlt
    rcases h.task_step hold event with
      ⟨new, hnew, hdrifts⟩ | ⟨place, action, rfl, hsound, hstretch, hstep⟩
    · obtain rfl := Option.some.inj (hs.symm.trans hnew)
      exact (hdraws task _ hold).drifts hdrifts
    · rw [hstep] at hs
      have hleads := @Stretch.draws (session.without place) task action hstretch hdraws
      rcases state_follow (hstretch.keeps hsound) hlt hleads with
        ⟨turn, after, hgood, -, hstate⟩ | ⟨crash, after, -, -, hstate⟩
      · obtain rfl := Option.some.inj (hs.symm.trans hstate)
        exact hgood
      · obtain rfl := Option.some.inj (hs.symm.trans hstate)
        trivial

/-! ## Every URL -/

theorem Draws.emits_of_returned (h : session.Sound) {event : FlowEvent}
    (hafter : (session.step event).Draws) (hurl : url ∈ session.returned event) :
    session.table.Emits url := by
  have hoperation : url ∈ TaskState.urlsBetween session.tasks (session.step event).tasks →
      session.table.Emits url := by
    intro hmem
    unfold TaskState.urlsBetween at hmem
    obtain ⟨⟨old, new⟩, hzip, hgiven⟩ := List.mem_filterMap.mp hmem
    obtain ⟨task, hs⟩ := List.getElem?_of_mem (List.of_mem_zip hzip).2
    dsimp only at hgiven
    split at hgiven
    · cases hgiven
    · have hemits := (hafter task _ hs).emits hgiven
      rwa [(h.step event).table] at hemits
  cases event with
  | launch =>
    obtain ⟨repo, preset, old, new, -, -, hpreset, hdraft, -⟩ :=
      h.launch.2 url (Option.mem_toList.mp hurl)
    exact ⟨_, preset, old, new, hpreset, hdraft⟩
  | _ => exact hoperation hurl

/-- In a run every URL that is given back is that of a preset of the table. -/
theorem Sound.emits_of_returnedBy (h : session.Sound) (hdraws : session.Draws)
    {events : List FlowEvent} (hurl : url ∈ session.returnedBy events) :
    session.table.Emits url := by
  induction events generalizing session with
  | nil => cases hurl
  | cons event events ih =>
    have hnext := h.draws_step hdraws event
    have hmoves := h.step event
    rcases List.mem_append.mp hurl with hfirst | hrest
    · exact Draws.emits_of_returned h hnext hfirst
    · exact hmoves.table ▸ ih hmoves.sound hnext hrest

end Session

/-! ## Tables from files -/

/-- The URL compares two branches of a repository with the preset that the table has for it, and is
read back unless the preset has no pattern. -/
structure PresetTable.Compares (table : PresetTable) (repo old new url : String) (preset : Preset) :
    Prop where
  resolve : table.resolve (some repo) = .ok preset
  own : preset.repo = repo
  draft : (CompareRequest.Draft.ofBranches preset old new).url = .ok url
  read : CompareRequest.ofUrl url = CompareRequest.readBack preset old new

namespace Session

/-- With a table from a file, two branches of any repository that it lists have a URL, which is the
one that the page is led to when they are launched.  In every run the page is led to such URLs
only. -/
theorem emitted_of_document {document : Document} {table : PresetTable}
    (htable : PresetTable.ofDocument document = .ok table) :
    (∀ repo ∈ table.repos, ∀ old new : String, old ≠ "" → new ≠ "" → ∃ url preset,
      table.Compares repo old new url preset ∧
      ∀ session : Session, session.table = table → session.flow.stage = .branchesReady →
        session.flow.repo = some repo → session.flow.first = some old →
        session.flow.second = some new →
        session.launched? = some url ∧
          (session.run Action.launch).1.page = session.page.navigate url) ∧
    ∀ parts session limit ready start, make parts = .ok session → parts.table = table →
      parts.cache = .fresh limit ready → parts.page = .ofUrl start →
      ∀ events, ∀ url ∈ (session.after events).page.history, ∃ repo old new preset,
        repo ∈ table.repos ∧ old ≠ "" ∧ new ≠ "" ∧ table.Compares repo old new url preset := by
  have hown := PresetTable.own_ofDocument htable
  constructor
  · intro repo hrepo old new hold hnew
    obtain ⟨preset, hresolve, hpreset⟩ := hown.exists_resolve hrepo
    have hdraft := CompareRequest.Draft.url_ofBranches preset hold hnew
    refine ⟨_, preset, ⟨hresolve, hpreset, hdraft, CompareRequest.ofUrl_draft hdraft⟩, ?_⟩
    intro session htable hstage hselected hfirst hsecond
    have hkept : ∀ {name : String}, name ≠ "" → Action.nonEmpty (some name) = some name :=
      fun hne => if_pos (decide_eq_true hne)
    have hlaunch := @Action.leads_launch_ready session preset old new hstage
      (hfirst ▸ hkept hold) (hsecond ▸ hkept hnew) (by rw [htable, hselected, hresolve])
    obtain ⟨given, hgiven, url, rfl, hurl, hpage, -⟩ := of_run hlaunch
    obtain rfl := Except.ok.inj (hurl.symm.trans hdraft)
    unfold launched?
    rw [hgiven]
    exact ⟨rfl, hpage⟩
  · intro parts session limit ready start hmake hparts hcache hpage events url hurl
    obtain ⟨hsound, hsame⟩ := sound_of_make hmake hcache
    have hfresh : session.tasks = [] ∧ session.table = table := by
      unfold make at hmake
      dsimp only at hmake
      split at hmake
      · obtain rfl := Except.ok.inj hmake
        exact ⟨rfl, hparts⟩
      · cases hmake
    have hdraws : session.Draws := by
      intro task state hs
      rw [hfresh.1] at hs
      cases hs
    rw [(hsound.after events).history, hsame, hpage] at hurl
    obtain ⟨given, preset, old, new, hresolve, hdraft⟩ := hsound.emits_of_returnedBy hdraws hurl
    rw [hfresh.2] at hresolve
    obtain ⟨repo, rfl, hrepo⟩ := PresetTable.mem_repos_of_resolve hresolve
    obtain ⟨hold, hnew, -⟩ := CompareRequest.Draft.request_of_url hdraft
    exact ⟨repo, old, new, preset, hrepo, hold, hnew, hresolve,
      PresetTable.repo_of_resolve hown hresolve, hdraft, CompareRequest.ofUrl_draft hdraft⟩

/-- A file of two presets, one of which has no pattern. -/
def presetsFile : Document :=
  .ofText ("\x7b\"version\": 1, \"presets\": \x7b\"demo\": \x7b\"path_pattern\": \"\"\x7d, " ++
    "\"kusama\": \x7b\"path_pattern\": \"*.rs\", \"unit\": \"time\"\x7d\x7d\x7d").toList

def demoPreset : Preset :=
  ⟨"demo", by decide, Preset.standardThreshold, "", .guessWorst, true, .weight⟩

def demoTable : PresetTable :=
  ⟨[("demo", demoPreset),
    ("kusama", ⟨"kusama", by decide, Preset.standardThreshold, "*.rs", .guessWorst, true, .time⟩)]⟩

theorem ofDocument_presetsFile : PresetTable.ofDocument presetsFile = .ok demoTable := by
  decide +kernel

def demoParts : Parts := { standardParts with table := demoTable }

/-- The branches of a repository come in and two of them are ready to be compared. -/
def demoReady : List FlowEvent :=
  .begin (.selectRepo "kusama") :: turns 3 ++
    [.answerFetch 0 (.answer [⟨"master", "a1"⟩, ⟨"gav&xcm", "b2"⟩])] ++ turns 6 ++
    [.pick .new (some "gav&xcm")]

theorem emitted_of_document_presetsFile : ∃ session url preset,
    PresetTable.ofDocument presetsFile = .ok demoTable ∧ make demoParts = .ok session ∧
    demoTable.Compares "kusama" "master" "gav&xcm" url preset ∧
    (session.after demoReady).launched? = some url ∧
    url ∈ (session.after (demoReady ++ [.launch])).page.history ∧
    ∃ repo old new preset, repo ∈ demoTable.repos ∧ old ≠ "" ∧ new ≠ "" ∧
      demoTable.Compares repo old new url preset := by
  have hrun : ((make demoParts).toOption.any fun session =>
      let ready := session.after demoReady
      ready.table = demoTable ∧ ready.flow.stage = .branchesReady ∧
        ready.flow.repo = some "kusama" ∧ ready.flow.first = some "master" ∧
        ready.flow.second = some "gav&xcm" ∧ ready.page.history = []) = true := by decide +kernel
  obtain ⟨session, hmake, hchecks⟩ := exists_make_of_any hrun
  obtain ⟨htable, hstage, hrepo, hfirst, hsecond, hhistory⟩ := of_decide_eq_true hchecks
  obtain ⟨hlaunches, hleads⟩ := emitted_of_document ofDocument_presetsFile
  obtain ⟨url, preset, hcompares, hlaunched⟩ := hlaunches "kusama" (by decide) "master" "gav&xcm"
    (by decide) (by decide)
  obtain ⟨hgiven, hpage⟩ := hlaunched (session.after demoReady) htable hstage hrepo hfirst hsecond
  have hlaunch : ∀ events, session.after (events ++ [.launch]) =
      ((session.after events).run Action.launch).1 := fun events => after_append session events _
  have hmem : url ∈ (session.after (demoReady ++ [.launch])).page.history := by
    rw [hlaunch, hpage]
    exact List.mem_append_right _ List.mem_cons_self
  have hcache : demoParts.cache = .fresh (.whole 30) [] := rfl
  have hstart : demoParts.page = .ofUrl "/" := rfl
  exact ⟨session, url, preset, ofDocument_presetsFile, hmake, hcompares, hgiven, hmem,
    hleads demoParts session _ _ _ hmake rfl hcache hstart _ url hmem⟩

def noPatternUrl : String :=
  "/compare?repo=demo&threshold=10&path_pattern=&method=guess-worst&ignore_errors=true" ++
    "&unit=weight&old=master&new=dev"

/-- The URL of a preset in a file may be refused. -/
theorem refused_noPattern : PresetTable.ofDocument presetsFile = .ok demoTable ∧
    demoTable.resolve (some "demo") = .ok demoPreset ∧
    (CompareRequest.Draft.ofBranches demoPreset "master" "dev").url = .ok noPatternUrl ∧
    CompareRequest.ofUrl noPatternUrl = .error (.lacks ["path_pattern"]) := by
  have hdraft : (CompareRequest.Draft.ofBranches demoPreset "master" "dev").url =
      .ok noPatternUrl := by decide +kernel
  exact ⟨ofDocument_presetsFile, rfl, hdraft, CompareRequest.ofUrl_draft hdraft⟩

end Session

end BranchCompare
