import BranchCompare.Proofs.BranchCache.Operations
import BranchCompare.Proofs.Workflow.Action

/-!
# What the operations of the workflow keep

A session is `Sound` if its cache is, if every operation that waits for branches waits for a fetch
that it wants, and if the branches that are ready are a list that was fetched for the selected
repository, with both picks among them (`Flow.Ready`).  `Goes` says that a session has come to a
sound one by leading the page to certain URLs.  Each operation does so by the URLs that it gives back
(`Keeps`).
-/

namespace BranchCompare

/-! ## Sound sessions -/

/-- If branches are ready to be compared, they are a list that was fetched for the selected
repository, and the picks are among them. -/
def Flow.Ready (cache : BranchCache) (flow : Flow) : Prop :=
  flow.stage = .branchesReady → ∃ repo, flow.repo = some repo ∧
    cache.Ended repo (.ok flow.branches) ∧
    (∀ name, flow.first = some name → Branch.named name flow.branches = true) ∧
    ∀ name, flow.second = some name → Branch.named name flow.branches = true

theorem Flow.Ready.later {cache after : BranchCache} {flow : Flow} (h : flow.Ready cache)
    (hl : cache.Later after) : flow.Ready after := by
  intro hstage
  obtain ⟨repo, hrepo, hended, hfirst, hsecond⟩ := h hstage
  exact ⟨repo, hrepo, hl.ended hended, hfirst, hsecond⟩

/-- The branches of the repository may be loaded for the purpose in this way. -/
def Purpose.Loads (repo : String) (forced : Bool) : Purpose → Prop
  | .choice name _ => name = repo
  | .comparison _ _ => forced = true

/-- An operation that waits for branches waits for a fetch that it wants. -/
def TaskState.Fits (cache : BranchCache) : TaskState → Prop
  | .loading waiting purpose _ =>
    cache.Fits waiting ∧ purpose.Loads waiting.repo waiting.forced
  | _ => True

theorem TaskState.Fits.later {cache after : BranchCache} {state : TaskState}
    (h : state.Fits cache) (hl : cache.Later after) : state.Fits after := by
  cases state with
  | loading waiting purpose cancelled => exact ⟨h.1.later hl, h.2⟩
  | begins | listing | ended => trivial

def TaskState.url? : TaskState → Option String
  | .ended (.value (.launched url)) => url
  | _ => none

theorem TaskState.eq_of_url? {state : TaskState} {url : String} (h : state.url? = some url) :
    state = .ended (.value (.launched (some url))) := by
  unfold TaskState.url? at h
  split at h
  · rw [h]
  · cases h

def Signal.cache? : Signal → Option CacheSignal
  | .cache signal => some signal
  | .listing _ _ => none

namespace Session

def cacheLine (session : Session) : List CacheSignal := session.line.filterMap Signal.cache?

/-- What holds of a session at all times. -/
structure Sound (session : Session) : Prop where
  cache : session.cache.Sound session.cacheLine
  fits : ∀ {task : TaskId} {state : TaskState}, session.tasks[task]? = some state →
    state.Fits session.cache
  ready : session.flow.Ready session.cache
  /-- No control leads the page. -/
  quiet : ∀ entry ∈ session.listeners, ∀ name, .redirect name ∉ entry.2

/-- A sound session has come to a sound one.  The page was led to the URLs, and operations may have
been put in line. -/
structure Goes (before after : Session) (urls : List String) : Prop where
  sound : after.Sound
  later : before.cache.Later after.cache
  table : after.table = before.table
  history : after.page.history = before.page.history ++ urls
  tasks : ∃ operations : List Operation,
    after.tasks = before.tasks ++ operations.map TaskState.begins

variable {before middle after session : Session} {urls more : List String}

theorem Sound.alike (h : before.Sound) (halike : before.Alike after) : after.Sound := by
  have hline : after.cacheLine = before.cacheLine := by rw [cacheLine, halike.line, cacheLine]
  refine ⟨?_, fun hs => ?_, ?_, ?_⟩
  · rw [hline, halike.cache]
    exact h.cache
  · rw [halike.tasks] at hs
    rw [halike.cache]
    exact h.fits hs
  · rw [halike.flow, halike.cache]
    exact h.ready
  · rw [halike.listeners]
    exact h.quiet

theorem Sound.goes (h : session.Sound) : session.Goes session [] :=
  ⟨h, .refl _, rfl, (List.append_nil _).symm, [], (List.append_nil _).symm⟩

theorem Goes.alike (h : before.Goes middle urls) (halike : middle.Alike after) :
    before.Goes after urls where
  sound := h.sound.alike halike
  later := by rw [halike.cache]; exact h.later
  table := halike.table.trans h.table
  history := halike.history.trans h.history
  tasks := by rw [halike.tasks]; exact h.tasks

theorem Goes.trans (h : before.Goes middle urls) (h' : middle.Goes after more) :
    before.Goes after (urls ++ more) where
  sound := h'.sound
  later := h.later.trans h'.later
  table := h'.table.trans h.table
  history := by rw [h'.history, h.history, List.append_assoc]
  tasks := by
    obtain ⟨operations, hops⟩ := h.tasks
    obtain ⟨others, hothers⟩ := h'.tasks
    refine ⟨operations ++ others, ?_⟩
    rw [hothers, hops, List.append_assoc, List.map_append]

/-- What is shown changes. -/
theorem Goes.setFlow (h : before.Goes after urls) (flow : Flow) (hready : flow.Ready after.cache) :
    before.Goes { after with flow := flow } urls :=
  ⟨⟨h.sound.cache, h.sound.fits, hready, h.sound.quiet⟩, h.later, h.table, h.history, h.tasks⟩

/-- The page may be led to one more URL. -/
theorem Goes.navigate (h : before.Goes after urls) (url : String) :
    before.Goes { after with page := after.page.navigate url } (urls ++ [url]) := by
  refine ⟨⟨h.sound.cache, h.sound.fits, h.sound.ready, h.sound.quiet⟩, h.later, h.table, ?_,
    h.tasks⟩
  rw [← List.append_assoc, ← h.history]
  rfl

/-- The cache may go on, with its signals in line. -/
theorem Sound.setCache (h : session.Sound) {cache : BranchCache} {line : List Signal}
    (hcache : cache.Sound (line.filterMap Signal.cache?)) (hlater : session.cache.Later cache) :
    session.Goes { session with cache := cache, line := line } [] :=
  ⟨⟨hcache, fun hs => (h.fits hs).later hlater, h.ready.later hlater, h.quiet⟩, hlater, rfl,
    (List.append_nil _).symm, [], (List.append_nil _).symm⟩

theorem cacheLine_append_cache (line : List Signal) (signals : List CacheSignal) :
    (line ++ signals.map Signal.cache).filterMap Signal.cache? =
      line.filterMap Signal.cache? ++ signals := by
  rw [List.filterMap_append, List.filterMap_map]
  exact congrArg _ List.filterMap_some

theorem cacheLine_begin (session : Session) (operation : Operation) :
    (session.begin operation).cacheLine = session.cacheLine ++ [.caller session.tasks.length] := by
  unfold cacheLine Session.begin
  rw [List.filterMap_append]
  rfl

/-- The signals for the cache without the one at a place of the line. -/
theorem cacheLine_perm {signals : List Signal} {place : Nat} {signal : Signal}
    (hs : signals[place]? = some signal) :
    (signals.filterMap Signal.cache?).Perm
      (signal.cache?.toList ++ (signals.eraseIdx place).filterMap Signal.cache?) := by
  obtain ⟨hlt, rfl⟩ := List.getElem?_eq_some_iff.mp hs
  have hperm := (List.getElem_cons_eraseIdx_perm hlt).symm.filterMap Signal.cache?
  rw [List.filterMap_cons] at hperm
  cases hcache : signals[place].cache? <;> rwa [hcache] at hperm

/-- Nothing changes for the cache when a signal is taken out of the line that is not for it. -/
theorem cacheLine_eraseIdx {signals : List Signal} {place : Nat} {signal : Signal}
    (hs : signals[place]? = some signal) (hnone : signal.cache? = none) :
    (signals.eraseIdx place).filterMap Signal.cache? = signals.filterMap Signal.cache? := by
  obtain ⟨hlt, rfl⟩ := List.getElem?_eq_some_iff.mp hs
  conv_rhs => rw [← List.take_append_drop place signals, List.drop_eq_getElem_cons hlt]
  rw [List.eraseIdx_eq_take_drop_succ, List.filterMap_append, List.filterMap_append,
    List.filterMap_cons_none hnone]

/-- What the cache does keeps the session sound. -/
theorem Sound.withCache (h : session.Sound) {cache : BranchCache} {signals : List CacheSignal}
    (hcache : cache.Sound (session.cacheLine ++ signals)) (hlater : session.cache.Later cache) :
    session.Goes (({ session with cache := cache }).enqueue (signals.map .cache)) [] := by
  refine h.setCache ?_ hlater
  rw [cacheLine_append_cache]
  exact hcache

/-- A control gets a listener that does not lead the page. -/
theorem Sound.listen (h : session.Sound) (name : ControlName) (listener : FlowListener)
    (hlistener : ∀ other, listener ≠ .redirect other) :
    session.Goes (session.modifyControl name fun control =>
      { control with control := control.control.listen listener }) [] := by
  refine ⟨⟨h.cache, h.fits, h.ready, ?_⟩, .refl _, rfl, (List.append_nil _).symm, [],
    (List.append_nil _).symm⟩
  unfold listeners modifyControl
  intro entry hentry other hmem
  obtain ⟨changed, hchanged, rfl⟩ := List.mem_map.mp hentry
  obtain ⟨old, hold, rfl⟩ := List.mem_map.mp hchanged
  have hquiet : .redirect other ∉ old.2.control.listeners :=
    h.quiet _ (List.mem_map_of_mem hold) other
  by_cases heq : old.1 = name
  · simp only [if_pos heq, Control.listen, List.mem_append, List.mem_singleton] at hmem
    exact hmem.elim hquiet fun hnew => hlistener other hnew.symm
  · simp only [if_neg heq] at hmem
    exact hquiet hmem

/-- Signals are put in line that tell the cache nothing. -/
theorem Sound.enqueue (h : session.Sound) (signals : List Signal)
    (hsignals : ∀ signal ∈ signals.filterMap Signal.cache?,
      (∀ fetch, signal.callTurn? fetch = none) ∧ signal.ended? = none) :
    session.Goes (session.enqueue signals) [] := by
  have hline : (session.enqueue signals).cacheLine =
      session.cacheLine ++ signals.filterMap Signal.cache? := by
    unfold cacheLine Session.enqueue
    rw [List.filterMap_append]
  refine ⟨⟨?_, h.fits, h.ready, h.quiet⟩, .refl _, rfl, (List.append_nil _).symm, [],
    (List.append_nil _).symm⟩
  rw [hline]
  exact h.cache.append hsignals

end Session

def Turn.state : Turn → TaskState
  | .ended value => .ended (.value value)
  | .waits state => state

namespace Action

/-- A stretch of an operation leads to a sound session.  It leads the page to the URL that it gives
back and to no other one. -/
def Keeps (session : Session) (action : Action Turn) : Prop :=
  Leads action session
    (fun turn after => session.Goes after turn.state.url?.toList ∧ turn.state.Fits after.cache)
    fun _ after => session.Goes after []

variable {session : Session}

theorem Keeps.onward {middle : Session} {action : Action Turn} (h : session.Goes middle [])
    (hk : Keeps middle action) :
    Leads action middle
      (fun turn after => session.Goes after turn.state.url?.toList ∧ turn.state.Fits after.cache)
      fun _ after => session.Goes after [] := by
  refine Leads.mono hk (fun turn after hturn => ⟨?_, hturn.2⟩) fun _ after hcrash => ?_
  · simpa using h.trans hturn.1
  · simpa using h.trans hcrash

/-- What follows an aside keeps a session sound if it does so by itself. -/
theorem Aside.keeps {α : Type} {action : Action α} (haside : Aside action)
    {next : α → Action Turn} (h : session.Sound)
    (hnext : ∀ value after, session.Alike after → after.Sound → Keeps after (next value)) :
    Keeps session (action >>= next) := by
  refine haside.leads_bind (fun value after halike => ?_) fun _ after halike => h.goes.alike halike
  exact Keeps.onward (h.goes.alike halike) (hnext value after halike (h.alike halike))

/-- A change of what is shown that leaves no branches ready keeps a session sound. -/
theorem keeps_modifyFlow {change : Flow → Flow} {next : Unit → Action Turn} (h : session.Sound)
    (hready : (change session.flow).Ready session.cache)
    (hnext : ∀ after, after.Sound → after = { session with flow := change session.flow } →
      Keeps after (next ())) : Keeps session (modifyFlow change >>= next) := by
  unfold Keeps
  rw [leads_bind, leads_modifyFlow]
  have hgoes := h.goes.setFlow _ hready
  exact Keeps.onward hgoes (hnext _ hgoes.sound rfl)

theorem keeps_fail {message : String} {next : Unit → Action Turn} (h : session.Sound)
    (hnext : ∀ after, after.Sound → Keeps after (next ())) :
    Keeps session (fail message >>= next) :=
  keeps_modifyFlow h h.ready fun after hsound _ => hnext after hsound

theorem keeps_clearError {next : Unit → Action Turn} (h : session.Sound)
    (hnext : ∀ after, after.Sound → Keeps after (next ())) :
    Keeps session (clearError >>= next) :=
  keeps_modifyFlow h h.ready fun after hsound _ => hnext after hsound

theorem keeps_ended (h : session.Sound) {value : OperationValue}
    (hurl : (Turn.ended value).state.url? = none) :
    Keeps session (pure (Turn.ended value)) := by
  refine leads_pure.mpr ⟨?_, trivial⟩
  rw [hurl]
  exact h.goes

theorem keeps_throw (h : session.Sound) (crash : Crash) : Keeps session (throw crash) := h.goes

/-! ## The end of a load -/

/-- What is chosen is among the branches. -/
theorem choose_named {branches : List Branch} {fromUrl chosenLast : Option String} {name : String}
    (h : Branch.choose branches fromUrl chosenLast = some name) :
    Branch.named name branches = true := by
  have haccepts := List.find?_some h
  unfold Branch.accepts at haccepts
  exact (Bool.and_eq_true _ _ ▸ haccepts).2

/-- A list of branches is shown with two of them chosen, unless the URL of the page is bad. -/
theorem leads_applyBranches (branches : List Branch) (session : Session) :
    Leads (applyBranches branches) session
      (fun _ after => ∃ first second,
        (∀ name, first = some name → Branch.named name branches = true) ∧
        (∀ name, second = some name → Branch.named name branches = true) ∧
        Session.Alike { session with flow :=
          { session.flow with branches := branches, first := first, second := second } } after)
      fun _ after => session.Alike after := by
  unfold applyBranches
  refine (aside_offerBranches _ _).leads_bind (fun _ s1 h1 => ?_) fun _ _ h => h
  refine (aside_offerBranches _ _).leads_bind (fun _ s2 h2 => ?_) fun _ _ h => h1.trans h
  have h12 := h1.trans h2
  refine (aside_param _ _).leads_bind (fun oldInUrl s3 h3 => ?_) fun _ _ h => h12.trans h
  rw [leads_bind, leads_get]
  have h13 := h12.trans h3
  refine (aside_param _ _).leads_bind (fun newInUrl s4 h4 => ?_) fun _ _ h => h13.trans h
  rw [leads_bind, leads_get]
  have h14 := h13.trans h4
  refine (aside_setControl _ _).leads_bind (fun _ s5 h5 => ?_) fun _ _ h => h14.trans h
  have h15 := h14.trans h5
  refine (aside_setControl _ _).leads_bind (fun _ s6 h6 => ?_) fun _ _ h => h15.trans h
  have h16 := h15.trans h6
  rw [leads_modifyFlow]
  refine ⟨Branch.choose branches oldInUrl (s3.store.get? .first),
    Branch.choose branches newInUrl (s4.store.get? .second), fun _ => choose_named,
    fun _ => choose_named, ?_⟩
  rw [h16.flow]
  exact h16.setFlow _

theorem url?_choiceValue (restoring isReady : Bool) :
    (Turn.ended (choiceValue restoring isReady)).state.url? = none := by
  cases restoring <;> rfl

/-- No branches are ready in any other stage. -/
theorem ready_of_stage {cache : BranchCache} {flow : Flow} (h : flow.stage ≠ .branchesReady) :
    flow.Ready cache := fun hstage => absurd hstage h

/-- The end of a choice keeps the session sound and leads the page nowhere. -/
theorem keeps_endChoice (h : session.Sound) {repo : String} (restoring : Bool) {result : LoadEnd}
    (hresult : session.cache.Ended repo result) :
    Keeps session (endChoice repo restoring result) := by
  unfold endChoice Keeps
  rw [leads_bind, leads_get]
  cases result with
  | ok branches =>
    refine aside_exitLoading.keeps h fun _ s1 h1 hsound => ?_
    by_cases hcurrent : session.flow.repo = some repo
    · -- the list belongs to the repository that is selected now, not only when the load began
      rw [if_pos hcurrent]
      unfold Keeps
      rw [leads_bind]
      refine (leads_applyBranches branches s1).mono (fun _ s2 hshown => ?_)
        fun _ s2 h2 => hsound.goes.alike h2
      obtain ⟨first, second, hfirst, hsecond, h2⟩ := hshown
      let shown : Flow := { s1.flow with
        branches := branches, first := first, second := second, stage := .branchesReady }
      have hready : shown.Ready s1.cache := by
        refine fun _ => ⟨repo, ?_, ?_, hfirst, hsecond⟩
        · exact (congrArg Flow.repo h1.flow).trans hcurrent
        · rw [h1.cache]
          exact hresult
      have hgoes := (hsound.goes.setFlow shown hready).alike (h2.setFlow shown)
      rw [leads_bind, leads_modifyFlow, leads_pure, url?_choiceValue, h2.flow]
      exact ⟨hgoes, trivial⟩
    · rw [if_neg hcurrent]
      exact keeps_ended hsound (url?_choiceValue restoring false)
  | error error =>
    cases error with
    | unavailable failure =>
      dsimp only
      by_cases hcurrent : session.flow.repo = some repo
      · rw [if_pos hcurrent]
        refine keeps_modifyFlow h (ready_of_stage (by simp)) fun s1 h1 _ => ?_
        refine keeps_fail h1 fun s2 h2 => ?_
        refine aside_exitLoading.keeps h2 fun _ s3 _ h3 => ?_
        exact keeps_ended h3 (url?_choiceValue restoring false)
      · rw [if_neg hcurrent]
        refine aside_exitLoading.keeps h fun _ s1 h1 hsound => ?_
        exact keeps_ended hsound (url?_choiceValue restoring false)
    | crashed crash =>
      exact aside_exitLoading.keeps h fun _ _ _ hsound => keeps_throw hsound crash

/-- The end of a comparison leads the page to the URL that it returns. -/
theorem keeps_endComparison (h : session.Sound) (row : ChangeRequest.Row) (preset : Preset)
    (result : LoadEnd) : Keeps session (endComparison row preset result) := by
  unfold endComparison
  cases result with
  | ok branches =>
    refine aside_exitLoading.keeps h fun _ s1 _ h1 => ?_
    unfold Keeps compareUrl
    rw [leads_bind]
    split
    · next url _ =>
      rw [leads_pure, leads_bind, leads_openUrl, leads_pure]
      have hflow : Flow.Ready s1.cache { s1.flow with launchedUrl := some url } := h1.ready
      exact ⟨(h1.goes.setFlow _ hflow).navigate url, trivial⟩
    · exact h1.goes
  | error error =>
    cases error with
    | unavailable failure =>
      refine keeps_fail h fun s1 h1 => ?_
      refine aside_exitLoading.keeps h1 fun _ s2 _ h2 => ?_
      exact keeps_ended h2 rfl
    | crashed crash =>
      exact aside_exitLoading.keeps h fun _ _ _ hsound => keeps_throw hsound crash

theorem keeps_endLoading (h : session.Sound) {repo : String} {forced : Bool} {purpose : Purpose}
    (hpurpose : purpose.Loads repo forced) {result : LoadEnd}
    (hresult : session.cache.Ended repo result) : Keeps session (endLoading purpose result) := by
  cases purpose with
  | choice name restoring =>
    subst hpurpose
    exact keeps_endChoice h restoring hresult
  | comparison row preset => exact keeps_endComparison h row preset result

/-! ## Loads -/

/-- The session takes over what the cache did for a load. -/
theorem keeps_followLoad (h : session.Sound) {repo : String} {forced : Bool} {purpose : Purpose}
    (hpurpose : purpose.Loads repo forced) {outcome : BranchCache × LoadTurn × List CacheSignal}
    (hcache : outcome.1.Sound (session.cacheLine ++ outcome.2.2))
    (hlater : session.cache.Later outcome.1) (hallows : outcome.1.Allows repo forced outcome.2.1) :
    Keeps session (followLoad purpose outcome) := by
  obtain ⟨cache, turn, signals⟩ := outcome
  dsimp only at hcache hlater hallows
  have hgoes := h.withCache hcache hlater
  unfold followLoad Keeps
  rw [leads_bind, leads_modify]
  cases turn with
  | ended result => exact Keeps.onward hgoes (keeps_endLoading hgoes.sound hpurpose hallows)
  | waits waiting =>
    obtain ⟨rfl, rfl, hfits⟩ := hallows
    exact leads_pure.mpr ⟨hgoes, hfits, hpurpose⟩

theorem keeps_beginLoading (h : session.Sound) (task : TaskId) {repo : String} {forced : Bool}
    {purpose : Purpose} (hpurpose : purpose.Loads repo forced) :
    Keeps session (beginLoading task repo forced purpose) := by
  refine aside_enterLoading.keeps h fun _ s1 _ h1 => ?_
  obtain ⟨hcache, hlater, hallows⟩ := h1.cache.load repo forced task
  exact keeps_followLoad h1 hpurpose hcache hlater hallows

theorem keeps_loadBranches (h : session.Sound) (task : TaskId) (repo : String)
    (forced restoring : Bool) : Keeps session (loadBranches task repo forced restoring) := by
  refine keeps_modifyFlow h (ready_of_stage (by simp)) fun s1 h1 _ => ?_
  exact keeps_beginLoading h1 task rfl

/-! ## The operations -/

theorem keeps_selectRepo (h : session.Sound) (task : TaskId) (repo : String) (restoring : Bool) :
    Keeps session (selectRepo task repo restoring) := by
  refine keeps_modifyFlow h (ready_of_stage (by simp)) fun s1 h1 _ => ?_
  refine (aside_setControl _ _).keeps h1 fun _ s2 _ h2 => ?_
  refine (aside_remember _ _).keeps h2 fun _ s3 _ h3 => ?_
  refine (aside_replaceParam _ _).keeps h3 fun _ s4 _ h4 => ?_
  exact keeps_loadBranches h4 task repo false restoring

theorem leads_bindControls (h : session.Sound) :
    Leads bindControls session (fun _ after => session.Goes after []) fun _ _ => False := by
  unfold bindControls
  rw [leads_bind, leads_get]
  dsimp only
  split
  · rw [leads_set]
    have hbound : session.Goes { session with isBound := true } [] :=
      h.goes.alike ⟨rfl, rfl, rfl, rfl, rfl, rfl, rfl⟩
    have hrepo := hbound.sound.listen .repo .pickRepo nofun
    have hfirst := hrepo.sound.listen .old .pickFirst nofun
    have hsecond := hfirst.sound.listen .new .pickSecond nofun
    exact ((hbound.trans hrepo).trans hfirst).trans hsecond
  · exact h.goes

theorem keeps_restore (h : session.Sound) (task : TaskId) : Keeps session (restore task) := by
  unfold restore Keeps
  rw [leads_bind]
  refine (leads_bindControls h).mono (fun _ s1 hgoes => ?_) fun _ _ hfalse => hfalse.elim
  refine Keeps.onward hgoes ?_
  refine (aside_param _ _).keeps hgoes.sound fun inUrl s2 _ h2 => ?_
  unfold Keeps
  rw [leads_bind, leads_get]
  split
  · exact keeps_selectRepo h2 task _ true
  · exact keeps_ended h2 rfl

theorem keeps_refresh (h : session.Sound) (task : TaskId) : Keeps session (refresh task) := by
  unfold refresh Keeps
  rw [leads_bind, leads_get]
  split
  · refine keeps_clearError h fun s1 h1 => ?_
    exact keeps_loadBranches h1 task _ true false
  · exact keeps_ended h rfl

/-- The text that was given, or else the value of the name in the URL of the page. -/
def orParam (given : Option String) (name default : String) : Action String :=
  match nonEmpty given with
  | some text => pure text
  | none => (·.getD "") <$> param name (some default)

theorem aside_orParam (given : Option String) (name default : String) :
    Aside (orParam given name default) := by
  unfold orParam
  split
  · exact aside_pure _
  · rw [map_eq_pure_bind]
    exact (aside_param _ _).bind fun _ => aside_pure _

/-- The listing of the change requests of a repository begins. -/
def beginListing (task : TaskId) (hasPulls limitIsOver : Bool) (owner repo : String) :
    Action Turn := do
  clearError
  if !hasPulls then
    fail "No change-request source configured"
    return .ended (.rows [])
  enterLoading
  modify fun session => session.enqueue [.listing task .make]
  if !limitIsOver then
    modify fun session =>
      { session with timeline := session.timeline.arm session.limit (.task task) }
  return .waits (.listing (.start limitIsOver) owner repo)

/-- A listing first settles on its owner and its repository. -/
theorem list_eq (task : TaskId) (owner repo : Option String) :
    list task owner repo = (do
      let session ← get
      let owner ← orParam owner "owner" session.defaultOwner
      let repo ← orParam repo "repo" session.defaultRepo
      beginListing task session.hasPulls session.limit.isOver owner repo) := by
  unfold list orParam beginListing
  cases nonEmpty owner <;> cases nonEmpty repo <;> rfl

theorem keeps_beginListing (h : session.Sound) (task : TaskId) (hasPulls limitIsOver : Bool)
    (owner repo : String) : Keeps session (beginListing task hasPulls limitIsOver owner repo) := by
  refine keeps_clearError h fun s1 h1 => ?_
  split
  · exact keeps_fail h1 fun s2 h2 => keeps_ended h2 rfl
  refine aside_enterLoading.keeps h1 fun _ s2 _ h2 => ?_
  unfold Keeps
  rw [leads_bind, leads_modify]
  have hgoes := h2.enqueue [.listing task .make] nofun
  refine Keeps.onward hgoes ?_
  -- a deadline is nothing that the workflow shows
  have hwaits : ∀ after : Session, after.Sound →
      Keeps after (pure (.waits (.listing (.start limitIsOver) owner repo))) :=
    fun after h => leads_pure.mpr ⟨h.goes, trivial⟩
  dsimp only
  split
  · have harm : Aside (modify fun session =>
        { session with timeline := session.timeline.arm session.limit (.task task) }) :=
      aside_modify fun _ => ⟨rfl, rfl, rfl, rfl, rfl, rfl, rfl⟩
    exact harm.keeps hgoes.sound fun _ s3 _ h3 => hwaits s3 h3
  · exact hwaits _ hgoes.sound

/-- A listing leads the page nowhere. -/
theorem keeps_list (h : session.Sound) (task : TaskId) (owner repo : Option String) :
    Keeps session (list task owner repo) := by
  rw [list_eq]
  unfold Keeps
  rw [leads_bind, leads_get]
  refine (aside_orParam _ _ _).keeps h fun owner s1 _ h1 => ?_
  refine (aside_orParam _ _ _).keeps h1 fun repo s2 _ h2 => ?_
  exact keeps_beginListing h2 task _ _ owner repo

/-- The comparison of a row begins whose repository is known. -/
def beginComparison (task : TaskId) (row : ChangeRequest.Row) (table : PresetTable)
    (repo : Option String) : Action Turn :=
  match table.resolve repo with
  | .ok preset => beginLoading task (repo.getD "") true (.comparison row preset)
  | .error error => do
    fail error.message
    return .ended (.launched none)

/-- A comparison first looks at its row, and then for its repository. -/
theorem compare_eq (task : TaskId) (row : ChangeRequest.Row) (repo : Option String) :
    compare task row repo = (do
      clearError
      if row.disabled then
        fail s!"#{row.request.number} comes from a fork and cannot be compared"
        return .ended (.launched none)
      let session ← get
      let repo ← match (nonEmpty repo).or (nonEmpty session.flow.requestsRepo) with
        | some repo => pure (some repo)
        | none => param "repo" (some session.defaultRepo)
      beginComparison task row session.table repo) := rfl

theorem keeps_compare (h : session.Sound) (task : TaskId) (row : ChangeRequest.Row)
    (repo : Option String) : Keeps session (compare task row repo) := by
  unfold compare
  refine keeps_clearError h fun s1 h1 => ?_
  split
  · exact keeps_fail h1 fun s2 h2 => keeps_ended h2 rfl
  unfold Keeps
  rw [leads_bind, leads_get]
  dsimp only
  split
  · rw [leads_bind, leads_pure]
    split
    · exact keeps_beginLoading h1 task rfl
    · exact keeps_fail h1 fun s2 h2 => keeps_ended h2 rfl
  · refine (aside_param _ _).keeps h1 fun repo s2 _ h2 => ?_
    split
    · exact keeps_beginLoading h2 task rfl
    · exact keeps_fail h2 fun s3 h3 => keeps_ended h3 rfl

/-- The first stretch of an operation. -/
theorem keeps_first (h : session.Sound) (task : TaskId) (operation : Operation) :
    Keeps session (first task operation) := by
  cases operation with
  | restore => exact keeps_restore h task
  | selectRepo repo => exact keeps_selectRepo h task repo false
  | refresh => exact keeps_refresh h task
  | list owner repo => exact keeps_list h task owner repo
  | compare row repo => exact keeps_compare h task row repo

theorem keeps_showRequests (h : session.Sound) (repo : String) (requests : List ChangeRequest) :
    Keeps session (showRequests repo requests) := by
  unfold showRequests
  split
  · exact keeps_modifyFlow h h.ready fun s1 h1 _ => keeps_ended h1 rfl
  · exact keeps_throw h _

/-- The last stretch of a listing. -/
theorem keeps_endListing (h : session.Sound) (owner repo : String)
    (result : CallEnd (List ChangeRequest)) : Keeps session (endListing owner repo result) := by
  have hbadly : ∀ message, Keeps session (endListingBadly message) := fun message =>
    keeps_fail h fun s1 h1 => aside_exitLoading.keeps h1 fun _ s2 _ h2 => keeps_ended h2 rfl
  cases result with
  | answer requests =>
    exact aside_exitLoading.keeps h fun _ s1 _ h1 => keeps_showRequests h1 repo requests
  | unavailable failure => exact hbadly failure.message
  | outOfTime => exact hbadly _
  | crashed crash => exact aside_exitLoading.keeps h fun _ s1 _ h1 => keeps_throw h1 crash

end Action

end BranchCompare
