import BranchCompare.Proofs.BranchCache.Expected
import BranchCompare.Proofs.ChangeRequest.Rows
import BranchCompare.Proofs.CompareRequest
import BranchCompare.Proofs.Page
import BranchCompare.Proofs.Workflow.Endings

/-!
# What operations are broken off by

A session is `Fine` while the store can be written, the URL of the page is well-formed and no remote
has gone wrong in an unexpected way.  Every event keeps it so (`Fine.step`), and the operations are
broken off by two things only (`TaskState.Trips`): a listing whose times cannot be compared, and a
row without the name of a branch.  Each action is taken apart by `Sustains`, which says what it leaves
behind however it ends.
-/

namespace BranchCompare

/-! ## Pages -/

namespace Url

/-- The URL of a comparison is well formed. -/
theorem wellFormed_compare (request : CompareRequest) : WellFormed request.url := by
  have hquery : ∀ c ∈ Form.encode request.pairs, isDropped c = false ∧ c ≠ '#' :=
    fun c hc => Query.encode_kept hc
  have hname : ∀ c ∈ "compare".toList, isDropped c = false ∧ c ≠ '?' ∧ c ≠ '#' := by
    simp [isDropped]
  refine ⟨_, split_rooted (by decide) hname hquery, fun _ hprefix => ?_⟩
  have hpath : ¬ ['/', '/'] <+: '/' :: "compare".toList := by decide
  rw [String.toList_ofList] at hprefix
  exact absurd hprefix hpath

end Url

namespace Page

variable {page : Page}

/-- A URL that is well formed can be read. -/
theorem param_of_wellFormed (h : Url.WellFormed page.url) (name : String)
    (default : Option String) : ∃ value, page.param name default = .ok value := by
  obtain ⟨url, hsplit, -⟩ := h
  unfold param Query.pairs
  rw [hsplit]
  exact ⟨_, rfl⟩

theorem replaceParam_of_wellFormed (h : Url.WellFormed page.url) (name : String) (value : Json) :
    ∃ edited, page.replaceParam name value = .ok edited ∧ Url.WellFormed edited.url := by
  obtain ⟨edited, hedited, hwell, -⟩ := replaceParam_spec h name value
  exact ⟨edited, hedited, hwell⟩

/-- A page with such a URL can be led to any value. -/
theorem redirect_of_wellFormed (h : Url.WellFormed page.url) (name : String) (value : Json) :
    ∃ led, page.redirect name value = .ok led ∧ Url.WellFormed led.url := by
  obtain ⟨hstays, hleads⟩ := redirect_spec h name value
  cases hentry : Query.entry? value with
  | none => exact ⟨page, hstays hentry, h⟩
  | some text =>
    obtain ⟨-, url, -, hled, hwell, -⟩ := hleads text hentry
    exact ⟨page.navigate url, hled, hwell⟩

end Page

/-! ## Sessions in order -/

/-- The call for a listing ends as expected. -/
def TaskState.Expected : TaskState → Prop
  | .listing call _ _ => call.Expected
  | _ => True

/-- The store can be written, the page has a well-formed URL, and all that remotes answer is
expected. -/
structure Session.Fine (session : Session) : Prop where
  writable : session.document ≠ .directory
  page : Url.WellFormed session.page.url
  cache : session.cache.Expected
  pulls : session.pulls.Expected readRequests
  tasks : ∀ state ∈ session.tasks, state.Expected

namespace Action

variable {α β : Type} {ends : α → Prop} {breaks : Crash → Prop}

/-- The action leaves a session in order that is in order; it gives such a value, or is broken off by
such a crash. -/
def Sustains (action : Action α) (ends : α → Prop) (breaks : Crash → Prop) : Prop :=
  ∀ session, session.Fine → Leads action session (fun value after => ends value ∧ after.Fine)
    fun crash after => breaks crash ∧ after.Fine

theorem sustains_pure {value : α} (h : ends value) : Sustains (pure value) ends breaks :=
  fun _ hfine => ⟨h, hfine⟩

theorem sustains_throw {crash : Crash} (h : breaks crash) :
    Sustains (throw crash : Action α) ends breaks := fun _ hfine => ⟨h, hfine⟩

theorem Sustains.bind {action : Action α} (h : Sustains action ends breaks) {next : α → Action β}
    {ends' : β → Prop} (hnext : ∀ value, ends value → Sustains (next value) ends' breaks) :
    Sustains (action >>= next) ends' breaks := by
  intro session hfine
  rw [leads_bind]
  exact (h session hfine).mono (fun value after hafter => hnext value hafter.1 after hafter.2)
    fun _ _ hafter => hafter

theorem sustains_get_bind {next : Session → Action β} {ends : β → Prop}
    (hnext : ∀ value : Session, value.Fine → Sustains (next value) ends breaks) :
    Sustains (get >>= next) ends breaks := fun session h => hnext session h session h

theorem sustains_modify {change : Session → Session} {ends : PUnit → Prop} (hends : ends ⟨⟩)
    (h : ∀ session : Session, session.Fine → (change session).Fine) :
    Sustains (modify change : Action PUnit) ends breaks := fun session hfine =>
  ⟨hends, h session hfine⟩

/-- The action never fails in a session in order, and leaves it so. -/
def Succeeds (action : Action Unit) : Prop := ∀ breaks, Sustains action (fun _ => True) breaks

theorem succeeds_modify {change : Session → Session}
    (h : ∀ session : Session, session.Fine → (change session).Fine) :
    Succeeds (modify change) := fun _ => sustains_modify trivial h

theorem Succeeds.bind {action : Action Unit} (h : Succeeds action) {next : Unit → Action β}
    {ends : β → Prop} (hnext : Sustains (next ()) ends breaks) :
    Sustains (action >>= next) ends breaks := (h breaks).bind fun _ _ => hnext

theorem succeeds_modifyFlow (change : Flow → Flow) : Succeeds (modifyFlow change) :=
  succeeds_modify fun _ h => ⟨h.writable, h.page, h.cache, h.pulls, h.tasks⟩

theorem succeeds_modifyControl (name : ControlName) (change : FlowControl → FlowControl) :
    Succeeds (modify fun session => session.modifyControl name change) :=
  succeeds_modify fun _ h => ⟨h.writable, h.page, h.cache, h.pulls, h.tasks⟩

theorem succeeds_enterLoading : Succeeds enterLoading :=
  succeeds_modify fun _ h => ⟨h.writable, h.page, h.cache, h.pulls, h.tasks⟩

theorem succeeds_exitLoading : Succeeds exitLoading :=
  succeeds_modify fun _ h => ⟨h.writable, h.page, h.cache, h.pulls, h.tasks⟩

/-- The store can be written, and what was written can be written again. -/
theorem succeeds_remember (key : SelectionKey) (value : Option String) :
    Succeeds (remember key value) := by
  intro breaks session h
  rw [leads_remember]
  unfold SelectionStore.set
  dsimp only
  cases hdocument : session.document with
  | directory => exact absurd hdocument h.writable
  | absent | file octets =>
    exact ⟨trivial, nofun, h.page, h.cache, h.pulls, h.tasks⟩

theorem succeeds_replaceParam (name : String) (value : Json) :
    Succeeds (editPage fun page => page.replaceParam name value) := by
  intro breaks session h
  rw [leads_editPage]
  obtain ⟨page, hedit, hwell⟩ := Page.replaceParam_of_wellFormed h.page name value
  rw [hedit]
  exact ⟨trivial, h.writable, hwell, h.cache, h.pulls, h.tasks⟩

theorem succeeds_redirect (name : String) (value : Json) :
    Succeeds (editPage fun page => page.redirect name value) := by
  intro breaks session h
  rw [leads_editPage]
  obtain ⟨page, hedit, hwell⟩ := Page.redirect_of_wellFormed h.page name value
  rw [hedit]
  exact ⟨trivial, h.writable, hwell, h.cache, h.pulls, h.tasks⟩

theorem sustains_param (name : String) (default : Option String) :
    Sustains (param name default) (fun _ => True) breaks := by
  intro session h
  unfold param
  rw [leads_readPage]
  obtain ⟨value, hvalue⟩ := Page.param_of_wellFormed h.page name default
  rw [hvalue]
  exact ⟨trivial, h⟩

end Action

/-! ## What operations trip over -/

namespace ChangeRequest.Row

/-- One of the two branches of the request has no name. -/
def LacksName (row : Row) : Prop := row.request.baseRef = "" ∨ row.request.headRef = ""

end ChangeRequest.Row

def Operation.row? : Operation → Option ChangeRequest.Row
  | .compare row _ => some row
  | _ => none

def Purpose.row? : Purpose → Option ChangeRequest.Row
  | .comparison row _ => some row
  | .choice _ _ => none

/-- The comparison of the row is no request. -/
def NamesNothing (row? : Option ChangeRequest.Row) (crash : Crash) : Prop :=
  ∃ row issues, row? = some row ∧ row.LacksName ∧ crash = .invalidRequest issues

/-- The times of the change requests cannot be compared. -/
def MixesTimes (result : CallEnd (List ChangeRequest)) (crash : Crash) : Prop :=
  ∃ requests, result = .answer requests ∧
    ChangeRequest.Row.comparableTimes requests = false ∧ crash = .mixedTimes

/-- By its next turn an operation that stands so may be broken off by this crash. -/
def TaskState.Trips : TaskState → Crash → Prop
  | .begins operation, crash => NamesNothing operation.row? crash
  | .loading _ purpose _, crash => NamesNothing purpose.row? crash
  | .listing call _ _, crash => ∃ result, call.wake.2.2 = some (.ended result) ∧
      MixesTimes result crash
  | .ended _, _ => False

/-- The operation returns, or goes on waiting for what will end as expected. -/
def Turn.Expected : Turn → Prop
  | .ended _ => True
  | .waits state => state.Expected ∧ state.isOver = false

theorem Turn.Expected.state {turn : Turn} (h : turn.Expected) :
    turn.state.Expected ∧ ∀ crash, turn.state ≠ .ended (.crashed crash) := by
  cases turn with
  | ended value => exact ⟨trivial, nofun⟩
  | waits state =>
    refine ⟨h.1, fun crash heq => ?_⟩
    have hopen := h.2
    rw [show state = _ from heq] at hopen
    cases hopen

namespace Action

variable {breaks : Crash → Prop}

/-! ## The operations -/

theorem succeeds_applyBranches (branches : List Branch) : Succeeds (applyBranches branches) := by
  intro breaks
  unfold applyBranches
  refine (succeeds_modifyControl _ _).bind ?_
  refine (succeeds_modifyControl _ _).bind ?_
  refine (sustains_param _ _).bind fun oldInUrl _ => ?_
  refine sustains_get_bind fun _ _ => ?_
  refine (sustains_param _ _).bind fun newInUrl _ => ?_
  refine sustains_get_bind fun _ _ => ?_
  refine (succeeds_modifyControl _ _).bind ?_
  refine (succeeds_modifyControl _ _).bind ?_
  exact succeeds_modifyFlow _ breaks

theorem succeeds_fail (message : String) : Succeeds (fail message) := succeeds_modifyFlow _

theorem sustains_endChoice (repo : String) (restoring : Bool) {result : LoadEnd}
    (hresult : (LoadTurn.ended result).Expected) :
    Sustains (endChoice repo restoring result) Turn.Expected breaks := by
  unfold endChoice
  refine sustains_get_bind fun session _ => ?_
  cases result with
  | ok branches =>
    refine succeeds_exitLoading.bind ?_
    split
    · refine (succeeds_applyBranches branches).bind ?_
      exact (succeeds_modifyFlow _).bind (sustains_pure trivial)
    · exact sustains_pure trivial
  | error error =>
    cases error with
    | unavailable failure =>
      dsimp only
      split
      · refine (succeeds_modifyFlow _).bind ?_
        refine (succeeds_fail _).bind ?_
        exact succeeds_exitLoading.bind (sustains_pure trivial)
      · exact succeeds_exitLoading.bind (sustains_pure trivial)
    | crashed crash => exact hresult.elim

/-- The URL of a comparison is well-formed.  There is none only if a branch has no name. -/
theorem sustains_compareUrl (preset : Preset) (old new : String)
    (hbreaks : ∀ issues, old = "" ∨ new = "" → breaks (.invalidRequest issues)) :
    Sustains (compareUrl preset old new) Url.WellFormed breaks := by
  unfold compareUrl CompareRequest.Draft.url
  cases hcheck : (CompareRequest.Draft.ofBranches preset old new).check with
  | ok request => exact sustains_pure (Url.wellFormed_compare request)
  | issues found =>
    refine sustains_throw (hbreaks found ?_)
    by_contra hnames
    rw [not_or] at hnames
    have hok : (CompareRequest.Draft.ofBranches preset old new).check =
        .ok ⟨preset, old, new, none, none, none⟩ :=
      CompareRequest.Draft.check_ofTexts preset hnames.1 hnames.2 none none none
    cases hcheck.symm.trans hok

theorem sustains_openUrl {url : String} (h : Url.WellFormed url) :
    Sustains (openUrl url) (fun _ => True) breaks := by
  intro session hfine
  rw [leads_openUrl]
  exact ⟨trivial, hfine.writable, h, hfine.cache, hfine.pulls, hfine.tasks⟩

/-- The load of a comparison crashes only where a name is missing. -/
theorem sustains_endComparison (row : ChangeRequest.Row) (preset : Preset) {result : LoadEnd}
    (hresult : (LoadTurn.ended result).Expected) :
    Sustains (endComparison row preset result) Turn.Expected (NamesNothing (some row)) := by
  unfold endComparison
  cases result with
  | ok branches =>
    refine succeeds_exitLoading.bind ?_
    have hbreaks : ∀ issues, row.LacksName → NamesNothing (some row) (.invalidRequest issues) :=
      fun issues hlacks => ⟨row, issues, rfl, hlacks, rfl⟩
    refine (sustains_compareUrl preset _ _ hbreaks).bind fun url hurl => ?_
    exact (sustains_openUrl hurl).bind fun _ _ => sustains_pure trivial
  | error error =>
    cases error with
    | unavailable failure =>
      refine (succeeds_fail _).bind ?_
      exact succeeds_exitLoading.bind (sustains_pure trivial)
    | crashed crash => exact hresult.elim

theorem sustains_followLoad (purpose : Purpose) {outcome : BranchCache × LoadTurn × List CacheSignal}
    (hcache : outcome.1.Expected) (hturn : outcome.2.1.Expected) :
    Sustains (followLoad purpose outcome) Turn.Expected (NamesNothing purpose.row?) := by
  obtain ⟨cache, turn, signals⟩ := outcome
  have htake : Succeeds (modify fun session =>
      ({ session with cache := cache } : Session).enqueue (signals.map .cache)) :=
    succeeds_modify fun _ h => ⟨h.writable, h.page, hcache, h.pulls, h.tasks⟩
  unfold followLoad
  refine htake.bind ?_
  cases turn with
  | waits waiting => exact sustains_pure ⟨trivial, rfl⟩
  | ended result =>
    cases purpose with
    | choice repo restoring => exact sustains_endChoice repo restoring hturn
    | comparison row preset => exact sustains_endComparison row preset hturn

theorem sustains_beginLoading (task : TaskId) (repo : String) (forced : Bool) (purpose : Purpose) :
    Sustains (beginLoading task repo forced purpose) Turn.Expected (NamesNothing purpose.row?) := by
  unfold beginLoading
  refine succeeds_enterLoading.bind ?_
  refine sustains_get_bind fun session h => ?_
  obtain ⟨hcache, hturn⟩ := h.cache.load repo forced task
  exact sustains_followLoad purpose hcache hturn

theorem sustains_loadBranches (task : TaskId) (repo : String) (forced restoring : Bool) :
    Sustains (loadBranches task repo forced restoring) Turn.Expected (NamesNothing none) := by
  unfold loadBranches
  exact (succeeds_modifyFlow _).bind (sustains_beginLoading task repo forced _)

theorem sustains_selectRepo (task : TaskId) (repo : String) (restoring : Bool) :
    Sustains (selectRepo task repo restoring) Turn.Expected (NamesNothing none) := by
  unfold selectRepo
  refine (succeeds_modifyFlow _).bind ?_
  refine (succeeds_modifyControl _ _).bind ?_
  refine (succeeds_remember _ _).bind ?_
  refine (succeeds_replaceParam _ _).bind ?_
  exact sustains_loadBranches task repo false restoring

theorem succeeds_bindControls : Succeeds bindControls := by
  intro breaks session h
  unfold bindControls
  rw [leads_bind, leads_get]
  dsimp only
  split
  · rw [leads_set]
    exact ⟨trivial, h.writable, h.page, h.cache, h.pulls, h.tasks⟩
  · exact ⟨trivial, h⟩

theorem sustains_restore (task : TaskId) :
    Sustains (restore task) Turn.Expected (NamesNothing none) := by
  unfold restore
  refine succeeds_bindControls.bind ?_
  refine (sustains_param _ _).bind fun inUrl _ => ?_
  refine sustains_get_bind fun session _ => ?_
  split
  · exact sustains_selectRepo task _ true
  · exact sustains_pure trivial

theorem sustains_refresh (task : TaskId) :
    Sustains (refresh task) Turn.Expected (NamesNothing none) := by
  unfold refresh
  refine sustains_get_bind fun session _ => ?_
  split
  · exact (succeeds_modifyFlow _).bind (sustains_loadBranches task _ true false)
  · exact sustains_pure trivial

theorem sustains_orParam (given : Option String) (name default : String) :
    Sustains (orParam given name default) (fun _ => True) breaks := by
  unfold orParam
  split
  · exact sustains_pure trivial
  · rw [map_eq_pure_bind]
    exact (sustains_param _ _).bind fun _ _ => sustains_pure trivial

theorem sustains_list (task : TaskId) (owner repo : Option String) :
    Sustains (list task owner repo) Turn.Expected breaks := by
  rw [list_eq]
  refine sustains_get_bind fun session _ => ?_
  refine (sustains_orParam _ _ _).bind fun owner _ => ?_
  refine (sustains_orParam _ _ _).bind fun repo _ => ?_
  have hwaits : Sustains (pure (.waits (.listing (.start session.limit.isOver) owner repo)))
      Turn.Expected breaks := sustains_pure ⟨BoundedCall.expected_start _, rfl⟩
  unfold beginListing
  refine (succeeds_modifyFlow _).bind ?_
  split
  · exact (succeeds_fail _).bind (sustains_pure trivial)
  refine succeeds_enterLoading.bind ?_
  have hline : Succeeds (modify fun session => session.enqueue [.listing task .make]) :=
    succeeds_modify fun _ h => ⟨h.writable, h.page, h.cache, h.pulls, h.tasks⟩
  refine hline.bind ?_
  dsimp only
  split
  · have harm : Succeeds (modify fun session =>
        { session with timeline := session.timeline.arm session.limit (.task task) }) :=
      succeeds_modify fun _ h => ⟨h.writable, h.page, h.cache, h.pulls, h.tasks⟩
    exact harm.bind hwaits
  · exact hwaits

theorem sustains_beginComparison (task : TaskId) (row : ChangeRequest.Row) (table : PresetTable)
    (repo : Option String) :
    Sustains (beginComparison task row table repo) Turn.Expected (NamesNothing (some row)) := by
  unfold beginComparison
  split
  · exact sustains_beginLoading task _ true _
  · exact (succeeds_fail _).bind (sustains_pure trivial)

/-- A comparison crashes only where its row lacks a name. -/
theorem sustains_compare (task : TaskId) (row : ChangeRequest.Row) (repo : Option String) :
    Sustains (compare task row repo) Turn.Expected (NamesNothing (some row)) := by
  rw [compare_eq]
  refine (succeeds_modifyFlow _).bind ?_
  split
  · exact (succeeds_fail _).bind (sustains_pure trivial)
  refine sustains_get_bind fun session _ => ?_
  split
  · exact sustains_beginComparison task row _ _
  · exact (sustains_param _ _).bind fun found _ => sustains_beginComparison task row _ found

/-- The first stretch of an operation. -/
theorem sustains_first (task : TaskId) (operation : Operation) :
    Sustains (first task operation) Turn.Expected (NamesNothing operation.row?) := by
  cases operation with
  | restore => exact sustains_restore task
  | selectRepo repo => exact sustains_selectRepo task repo false
  | refresh => exact sustains_refresh task
  | list owner repo => exact sustains_list task owner repo
  | compare row repo => exact sustains_compare task row repo

/-- The last stretch of a listing. -/
theorem sustains_endListing (owner repo : String) {result : CallEnd (List ChangeRequest)}
    (hresult : result.Expected) :
    Sustains (endListing owner repo result) Turn.Expected (MixesTimes result) := by
  have hbadly : ∀ message, Sustains (endListingBadly message) Turn.Expected (MixesTimes result) :=
    fun message => (succeeds_fail message).bind
      (succeeds_exitLoading.bind (sustains_pure trivial))
  cases result with
  | answer requests =>
    refine succeeds_exitLoading.bind ?_
    unfold showRequests
    rw [ChangeRequest.Row.build_eq]
    cases hcomparable : ChangeRequest.Row.comparableTimes requests with
    | true => exact (succeeds_modifyFlow _).bind (sustains_pure trivial)
    | false => exact sustains_throw ⟨requests, rfl, hcomparable, rfl⟩
  | unavailable failure => exact hbadly failure.message
  | outOfTime => exact hbadly _
  | crashed crash => exact hresult.elim

/-! ## Actions that do not wait -/

theorem sustains_pick (side : Side) (name : Option String) :
    Sustains (pick side name) (fun _ => True) breaks := by
  unfold pick
  extract_lets picked
  refine sustains_get_bind fun session _ => ?_
  dsimp only
  split
  · exact sustains_pure trivial
  refine (succeeds_modifyControl _ _).bind ?_
  refine (succeeds_remember _ _).bind ?_
  refine (succeeds_replaceParam _ _).bind ?_
  exact (succeeds_modifyFlow _).bind (sustains_pure trivial)

theorem succeeds_tell (value : Json) (listener : FlowListener) :
    Succeeds (tell value listener) := by
  have hpick : ∀ side name, Succeeds (discard (pick side name)) := fun side name breaks =>
    (sustains_pick side name).bind fun _ _ => sustains_pure trivial
  intro breaks
  unfold tell
  cases listener with
  | pickRepo =>
    dsimp only
    split
    · next repo =>
      split
      · exact sustains_pure trivial
      · refine sustains_modify trivial fun session h => ?_
        refine ⟨h.writable, h.page, h.cache, h.pulls, fun state hs => ?_⟩
        rcases List.mem_append.mp hs with hs | hs
        · exact h.tasks state hs
        · rw [List.mem_singleton.mp hs]
          trivial
    · exact sustains_pure trivial
  | pickFirst | pickSecond =>
    dsimp only
    split
    · exact hpick _ _ breaks
    · split
      · exact hpick _ _ breaks
      · exact sustains_pure trivial
  | redirect name => exact succeeds_redirect _ value breaks

theorem succeeds_change (name : ControlName) (value : Json) : Succeeds (change name value) := by
  have htellAll : ∀ listeners : List FlowListener, Succeeds (listeners.forM (tell value)) := by
    intro listeners
    induction listeners with
    | nil => exact fun _ => sustains_pure trivial
    | cons listener listeners ih => exact fun breaks => (succeeds_tell value listener).bind (ih breaks)
  intro breaks
  unfold change
  refine sustains_get_bind fun session _ => ?_
  exact (succeeds_modifyControl _ _).bind (htellAll _ breaks)

theorem sustains_launch : Sustains launch (fun _ => True) breaks := by
  unfold launch
  refine (succeeds_modifyFlow _).bind ?_
  refine sustains_get_bind fun session _ => ?_
  dsimp only
  split
  · next first second _ hfirst hsecond =>
    obtain ⟨-, hfirst⟩ := mem_of_nonEmpty hfirst
    obtain ⟨-, hsecond⟩ := mem_of_nonEmpty hsecond
    refine sustains_get_bind fun session _ => ?_
    split
    · next preset _ =>
      -- a launch takes no picks without a name, so the comparison has no issues
      have hnames : ∀ issues, first = "" ∨ second = "" → breaks (.invalidRequest issues) :=
        fun _ h => (h.elim hfirst hsecond).elim
      refine (sustains_compareUrl preset first second hnames).bind fun url hurl => ?_
      refine (succeeds_modifyFlow _).bind ?_
      exact (sustains_openUrl hurl).bind fun _ _ => sustains_pure trivial
    · exact (succeeds_fail _).bind (sustains_pure trivial)
  · exact (succeeds_fail _).bind (sustains_pure trivial)

end Action

/-! ## Turns -/

/-- What comes from outside by the event is expected. -/
def FlowEvent.Expected : FlowEvent → Prop
  | .answerFetch _ result => result.Expected
  | .answerListing _ result => result.Expected
  | .setReadyBranches _ reply => ∀ given, reply = some given → given.Expected readBranches
  | .setReadyPulls _ reply => ∀ given, reply = some given → given.Expected readRequests
  | _ => True

namespace Session

/-- The operation may be broken off by the crash at its next turn. -/
def Trips (session : Session) (task : TaskId) (crash : Crash) : Prop :=
  ∃ state, session.tasks[task]? = some state ∧ state.Trips crash

/-- The session is in order, and operations were broken off in between only by what they tripped
over. -/
structure Sustained (before after : Session) (trips : TaskId → Crash → Prop) : Prop where
  fine : after.Fine
  crashed : ∀ {task : TaskId} {crash : Crash},
    after.tasks[task]? = some (.ended (.crashed crash)) →
    before.tasks[task]? = some (.ended (.crashed crash)) ∨ trips task crash

variable {session before middle after : Session} {trips : TaskId → Crash → Prop} {task : TaskId}
  {state old : TaskState}

theorem Fine.same (h : after.Fine) (htasks : after.tasks = before.tasks) :
    before.Sustained after trips := by
  refine ⟨h, fun hcrashed => .inl ?_⟩
  rwa [← htasks]

theorem Sustained.of_tasks (h : middle.Sustained after trips)
    (htasks : middle.tasks = before.tasks) : before.Sustained after trips := by
  refine ⟨h.fine, fun hcrashed => ?_⟩
  rw [← htasks]
  exact h.crashed hcrashed

theorem Sustained.trans (h : before.Sustained middle trips) (h' : middle.Sustained after trips) :
    before.Sustained after trips :=
  ⟨h'.fine, fun hcrashed => (h'.crashed hcrashed).elim h.crashed .inr⟩

/-- Operations that begin have not been broken off. -/
theorem crashed_of_begins {tasks : List TaskState} {operations : List Operation} {crash : Crash}
    (h : (tasks ++ operations.map TaskState.begins)[task]? = some (.ended (.crashed crash))) :
    tasks[task]? = some (.ended (.crashed crash)) := by
  by_cases hlt : task < tasks.length
  · rwa [List.getElem?_append_left hlt] at h
  · rw [List.getElem?_append_right (Nat.le_of_not_lt hlt)] at h
    obtain ⟨operation, -, heq⟩ := List.mem_map.mp (List.mem_of_getElem? h)
    cases heq

theorem Goes.sustained {urls : List String} (h : before.Goes after urls) (hfine : after.Fine) :
    before.Sustained after trips := by
  obtain ⟨operations, htasks⟩ := h.tasks
  refine ⟨hfine, fun hcrashed => .inl ?_⟩
  rw [htasks] at hcrashed
  exact crashed_of_begins hcrashed

/-- An operation has crashed that had crashed before, or the one that was set. -/
theorem crashed_of_set {tasks : List TaskState} {other : TaskId} {crash : Crash}
    (h : (tasks.set task state)[other]? = some (.ended (.crashed crash))) :
    tasks[other]? = some (.ended (.crashed crash)) ∨
      other = task ∧ state = .ended (.crashed crash) := by
  by_cases heq : other = task
  · subst heq
    rw [List.getElem?_set] at h
    split at h
    · split at h
      · exact .inr ⟨rfl, Option.some.inj h⟩
      · cases h
    · exact .inl h
  · rw [List.getElem?_set_ne (Ne.symm heq)] at h
    exact .inl h

theorem Fine.setTask (h : session.Fine) (task : TaskId) (hstate : state.Expected) :
    (session.setTask task state).Fine := by
  refine ⟨h.writable, h.page, h.cache, h.pulls, fun found hfound => ?_⟩
  rcases List.mem_or_eq_of_mem_set hfound with hold | rfl
  · exact h.tasks found hold
  · exact hstate

/-- An operation goes on that is not broken off. -/
theorem Fine.move (h : session.Fine) (task : TaskId) (hstate : state.Expected)
    (hgoes : ∀ crash, state ≠ .ended (.crashed crash)) :
    session.Sustained (session.setTask task state) trips := by
  refine ⟨h.setTask task hstate, fun hcrashed => ?_⟩
  rcases crashed_of_set hcrashed with hold | ⟨-, heq⟩
  · exact .inl hold
  · exact absurd heq (hgoes _)

theorem Sustained.enqueue (h : before.Sustained after trips) (signals : List Signal) :
    before.Sustained (after.enqueue signals) trips :=
  ⟨⟨h.fine.writable, h.fine.page, h.fine.cache, h.fine.pulls, h.fine.tasks⟩, h.crashed⟩

/-- What a stretch of an operation comes to is taken over. -/
theorem Fine.follow (h : session.Fine) {breaks : Crash → Prop} {action : Action Turn}
    (hkeeps : Action.Keeps session action)
    (hsustains : Action.Sustains action Turn.Expected breaks)
    (htrips : ∀ crash, breaks crash → trips task crash) :
    session.Sustained (session.follow task action) trips := by
  rcases follow_cases session task action with
    ⟨given, after, heq, hfollow⟩ | ⟨crash, after, heq, hfollow⟩ <;> rw [hfollow]
  · obtain ⟨hgoes, hfine⟩ := (hsustains session h).ok heq
    obtain ⟨operations, htasks⟩ := (hkeeps.ok heq).1.tasks
    refine ⟨hfine.setTask task hgoes.state.1, fun hcrashed => ?_⟩
    -- other operations stand as before, apart from new ones that are in line to begin
    rcases crashed_of_set hcrashed with hold | ⟨-, hgiven⟩
    · rw [htasks] at hold
      exact .inl (crashed_of_begins hold)
    · exact absurd hgiven (hgoes.state.2 _)
  · obtain ⟨hbreaks, hfine⟩ := (hsustains session h).error heq
    have hgoes : session.Goes after [] := hkeeps.error heq
    obtain ⟨operations, htasks⟩ := hgoes.tasks
    refine ⟨hfine.setTask task trivial, fun hcrashed => ?_⟩
    rcases crashed_of_set hcrashed with hold | ⟨rfl, hcrash⟩
    · rw [htasks] at hold
      exact .inl (crashed_of_begins hold)
    · cases hcrash
      exact .inr (htrips _ hbreaks)

theorem Fine.withPulls (h : session.Fine) {pulls : Remote PullsCall}
    (hpulls : pulls.Expected readRequests) : Fine { session with pulls := pulls } :=
  ⟨h.writable, h.page, h.cache, hpulls, h.tasks⟩

theorem Fine.withCache (h : session.Fine) {outcome : BranchCache × List CacheSignal}
    (hcache : outcome.1.Expected) : (session.withCache outcome).Fine :=
  ⟨h.writable, h.page, hcache, h.pulls, h.tasks⟩

theorem Sustained.withCache (h : before.Sustained after trips)
    {outcome : BranchCache × List CacheSignal} (hcache : outcome.1.Expected) :
    before.Sustained (after.withCache outcome) trips := ⟨h.fine.withCache hcache, h.crashed⟩

variable {call : BoundedCall (List ChangeRequest)} {owner repo : String}

/-- The call of a listing is one that is expected. -/
theorem Fine.listing (h : session.Fine)
    (hs : session.tasks[task]? = some (.listing call owner repo)) : call.Expected :=
  h.tasks _ (List.mem_of_getElem? hs)

/-- A listing goes on, and turns of it are put in line. -/
theorem Fine.moveListing (h : session.Fine) {moved : BoundedCall (List ChangeRequest)}
    (hmoved : moved.Expected) (turns : List CallTurn) :
    session.Sustained ((session.setTask task (.listing moved owner repo)).enqueueTurns task turns)
      trips := by
  have hstate : TaskState.Expected (.listing moved owner repo) := hmoved
  exact (h.move task hstate nofun).enqueue _

theorem Fine.endCancelled (h : session.Fine) (task : TaskId) :
    session.Sustained (session.endCancelled task) trips := by
  have hexit : Fine { session with indicator := session.indicator.exit } :=
    ⟨h.writable, h.page, h.cache, h.pulls, h.tasks⟩
  have hstate : TaskState.Expected (.ended .cancelled) := trivial
  exact (hexit.move task hstate nofun).of_tasks rfl

/-- A listing that goes on crashes only where its times cannot be compared. -/
theorem Sound.sustained_wakeListing (h : session.Sound) (hfine : session.Fine)
    (hs : session.tasks[task]? = some (.listing call owner repo)) :
    session.Sustained (session.wakeListing task call owner repo) session.Trips := by
  obtain ⟨hmoved, hends⟩ := (hfine.listing hs).wake
  have htrips : ∀ {result}, call.wake.2.2 = some (.ended result) → ∀ crash,
      MixesTimes result crash → session.Trips task crash :=
    fun hended _ hmixes => ⟨_, hs, _, hended, hmixes⟩
  unfold Session.wakeListing
  rcases hwake : call.wake with ⟨moved, turns, ended⟩
  rw [hwake] at hmoved hends htrips
  dsimp only
  split
  · exact hfine.moveListing hmoved turns
  · next result =>
    exact hfine.follow (Action.keeps_endListing h owner repo result)
      (Action.sustains_endListing owner repo (hends result rfl)) (htrips rfl)
  · have hlate : (CallEnd.outOfTime : CallEnd (List ChangeRequest)).Expected := trivial
    refine hfine.follow (Action.keeps_endListing h owner repo _)
      (Action.sustains_endListing owner repo hlate) ?_
    rintro crash ⟨requests, heq, -⟩
    cases heq
  · exact hfine.endCancelled task

theorem Sound.sustained_listingTurn (h : session.Sound) (hfine : session.Fine) (task : TaskId)
    (turn : CallTurn) : session.Sustained (session.listingTurn task turn) session.Trips := by
  unfold Session.listingTurn
  split
  · next call owner repo hs =>
    have hcall := hfine.listing hs
    cases turn with
    | make =>
      have hready : ∀ result, session.readyEnd owner repo = some result → result.Expected :=
        fun result hr => hfine.pulls.readyEnd hr
      have hmade := hcall.make hready session.pulls.calls.length
      dsimp only
      refine Sustained.of_tasks ((hfine.withPulls ?_).moveListing hmade _) rfl
      split
      · exact hfine.pulls
      · exact hfine.pulls
    | takeUp =>
      dsimp only
      refine Sustained.of_tasks ((hfine.withPulls ?_).moveListing hcall.takeUp _) rfl
      split
      · exact hfine.pulls
      · exact hfine.pulls
    | notify => exact hfine.moveListing hcall.notify _
    | wake => exact h.sustained_wakeListing hfine hs
  · exact hfine.same rfl

/-- The turn of an operation sustains the session. -/
theorem Sound.sustained_taskTurn (h : session.Sound) (hfine : session.Fine) (task : TaskId) :
    session.Sustained (session.taskTurn task) session.Trips := by
  unfold Session.taskTurn
  split
  · next operation hs =>
    exact hfine.follow (Action.keeps_first h task operation)
      (Action.sustains_first task operation) fun _ hnames => ⟨_, hs, hnames⟩
  · next waiting purpose hs =>
    obtain ⟨hfits, hpurpose⟩ := h.fits hs
    obtain ⟨hcache, hlater, hallows⟩ := h.cache.resume hfits task
    obtain ⟨hexpected, hturn⟩ := hfine.cache.resume waiting task
    exact hfine.follow (Action.keeps_followLoad h hpurpose hcache hlater hallows)
      (Action.sustains_followLoad purpose hexpected hturn) fun _ hnames => ⟨_, hs, hnames⟩
  · exact hfine.endCancelled task
  · next call owner repo hs => exact h.sustained_wakeListing hfine hs
  · exact hfine.same rfl

theorem Sound.sustained_turn (h : session.Sound) (hfine : session.Fine) (place : Nat) :
    session.Sustained (session.turn place) session.Trips := by
  unfold Session.turn
  split
  · next signal hs =>
    have hline := h.takeOut hs
    have hout : Fine { session with line := session.line.eraseIdx place } :=
      ⟨hfine.writable, hfine.page, hfine.cache, hfine.pulls, hfine.tasks⟩
    cases signal with
    | listing task turn =>
      have hsound := (h.setCache hline (.refl _)).sound
      have hturn := hsound.sustained_listingTurn hout task turn
      exact ⟨hturn.fine, hturn.crashed⟩
    | cache signal =>
      have hperformed : ∀ signal, Fine ({ session with line := session.line.eraseIdx place }.withCache
          (session.cache.perform signal)) := fun signal => hout.withCache (hfine.cache.perform signal)
      cases signal with
      | caller task =>
        have htail := hline.tail fun fetch => CacheSignal.callTurn?_caller fetch task
        have hsound := (h.setCache htail (.refl _)).sound
        have hturn := hsound.sustained_taskTurn hout task
        exact ⟨hturn.fine, hturn.crashed⟩
      | start fetch =>
        have hstarted := hperformed (.start fetch)
        unfold Session.perform
        dsimp only
        split
        · exact hstarted.same rfl
        · exact Fine.same ⟨hstarted.writable, hstarted.page, hstarted.cache, hstarted.pulls,
            hstarted.tasks⟩ rfl
      | turn fetch turn | forget fetch | deliver fetch caller => exact (hperformed _).same rfl
  · exact hfine.same rfl

/-! ## Events -/

theorem Fine.expire (h : session.Fine) (owner : DeadlineOwner) :
    session.Sustained (session.expire owner) trips := by
  unfold Session.expire
  cases owner with
  | fetch fetch => exact (h.withCache (h.cache.expire fetch)).same rfl
  | task task =>
    dsimp only
    split
    · next call owner repo hs => exact h.moveListing (h.listing hs).expire _
    · exact h.same rfl

theorem Fine.expireAll (h : session.Fine) (owners : List DeadlineOwner) :
    session.Sustained (owners.foldl Session.expire session) trips := by
  induction owners generalizing session with
  | nil => exact h.same rfl
  | cons owner owners ih =>
    have hfirst : session.Sustained (session.expire owner) trips := h.expire owner
    have hrest := ih hfirst.fine
    exact hfirst.trans hrest

/-- A stretch of the user sustains the session. -/
theorem Fine.run {α : Type} (h : session.Fine) {action : Action α} {ends : α → Prop}
    {urls : α → List String}
    (hgoes : Action.Leads action session (fun value after => session.Goes after (urls value))
      fun _ after => session.Goes after [])
    (hsustains : Action.Sustains action ends fun _ => False) :
    session.Sustained (session.run action).1 trips := by
  have hboth := hgoes.and (hsustains session h)
  unfold Session.run
  cases hresult : action session with
  | ok value after =>
    obtain ⟨hgoes, -, hfine⟩ := hboth.ok hresult
    exact hgoes.sustained hfine
  | error crash after => exact (hboth.error hresult).2.1.elim

/-- What one event preserves.  Operations are broken off only by their turns. -/
theorem Sound.sustained_step (h : session.Sound) (hfine : session.Fine) {event : FlowEvent}
    (hevent : event.Expected) :
    session.Sustained (session.step event) fun task crash =>
      (∃ place, event = .turn place) ∧ session.Trips task crash := by
  cases event with
  | begin operation =>
    refine (h.begin operation).sustained
      ⟨hfine.writable, hfine.page, hfine.cache, hfine.pulls, fun state hs => ?_⟩
    rcases List.mem_append.mp hs with hold | hnew
    · exact hfine.tasks state hold
    · rw [List.mem_singleton.mp hnew]
      trivial
  | turn place =>
    have hturn := h.sustained_turn hfine place
    exact ⟨hturn.fine, fun hcrashed => (hturn.crashed hcrashed).imp_right fun htrips =>
      ⟨⟨place, rfl⟩, htrips⟩⟩
  | pick side name =>
    exact hfine.run (Action.stays_pick h side name) (Action.sustains_pick side name)
  | launch =>
    have hgoes := (Action.leads_launch h).mono (fun _ _ hgoes => hgoes.1) fun _ _ hgoes => hgoes
    exact hfine.run hgoes Action.sustains_launch
  | change name value =>
    exact hfine.run (Action.stays_change h name value) (Action.succeeds_change name value _)
  | answerFetch fetch result =>
    exact (hfine.withCache (hfine.cache.answer fetch hevent)).same rfl
  | answerListing task result =>
    simp only [Session.step, Session.answerListing]
    split
    · next call owner repo hs => exact hfine.moveListing ((hfine.listing hs).answer hevent) _
    · exact hfine.same rfl
  | expire owner => exact hfine.expire owner
  | advance span =>
    have htimed : Fine { session with timeline := (session.timeline.advance span).1 } :=
      ⟨hfine.writable, hfine.page, hfine.cache, hfine.pulls, hfine.tasks⟩
    exact (htimed.expireAll (session.timeline.advance span).2).of_tasks rfl
  | cancel task =>
    simp only [Session.step, Session.cancel]
    split
    · next waiting purpose _ hs =>
      have hstate : TaskState.Expected (.loading waiting purpose true) := trivial
      have hgoes : ∀ crash, TaskState.loading waiting purpose true ≠ .ended (.crashed crash) := by
        intro crash heq
        cases heq
      exact (hfine.move task hstate hgoes).withCache (hfine.cache.abandon waiting task)
    · next call owner repo hs => exact hfine.moveListing (hfine.listing hs).cancel _
    · exact hfine.same rfl
  | setReadyBranches key reply =>
    have hcache : BranchCache.Expected { session.cache with
        server := session.cache.server.setReady key reply } :=
      ⟨hfine.cache.ready.setReady key hevent, hfine.cache.fetches⟩
    exact Fine.same ⟨hfine.writable, hfine.page, hcache, hfine.pulls, hfine.tasks⟩ rfl
  | setReadyPulls key reply =>
    exact (hfine.withPulls (hfine.pulls.setReady key hevent)).same rfl

/-! ## Runs -/

/-- What a run preserves. -/
theorem Sound.fine_after (h : session.Sound) (hfine : session.Fine) {events : List FlowEvent}
    (hevents : ∀ event ∈ events, event.Expected) : (session.after events).Fine := by
  induction events generalizing session with
  | nil => exact hfine
  | cons event events ih =>
    obtain ⟨hevent, hrest⟩ := List.forall_mem_cons.mp hevents
    exact ih (h.step event).sound (h.sustained_step hfine hevent).fine hrest

/-- An operation that has been broken off by the end of a run was so from the beginning, or by a turn
of the run at which it tripped over something. -/
theorem Sound.crashed_after (h : session.Sound) (hfine : session.Fine) {events : List FlowEvent}
    (hevents : ∀ event ∈ events, event.Expected) {crash : Crash}
    (hcrashed : (session.after events).tasks[task]? = some (.ended (.crashed crash))) :
    session.tasks[task]? = some (.ended (.crashed crash)) ∨
    ∃ earlier place rest, events = earlier ++ .turn place :: rest ∧
      (session.after earlier).Trips task crash ∧
      ((session.after earlier).turn place).tasks[task]? = some (.ended (.crashed crash)) := by
  -- the rest of the run is looked at first: only if it is not to blame, its first event is
  induction events generalizing session with
  | nil => exact .inl hcrashed
  | cons event events ih =>
    obtain ⟨hevent, hrest⟩ := List.forall_mem_cons.mp hevents
    have hstep := h.sustained_step hfine hevent
    rcases ih (h.step event).sound hstep.fine hrest hcrashed with
      hnow | ⟨earlier, place, rest, rfl, htrips, hturn⟩
    · rcases hstep.crashed hnow with hbefore | ⟨⟨place, rfl⟩, htrips⟩
      · exact .inl hbefore
      · exact .inr ⟨[], place, events, rfl, htrips, hnow⟩
    · exact .inr ⟨event :: earlier, place, rest, rfl, htrips, hturn⟩

/-- A session is in order at first if what it is made of is. -/
theorem fine_of_make {parts : Parts} (hmake : make parts = .ok session) {limit : Seconds}
    {ready : List (String × Reply)} (hcache : parts.cache = .fresh limit ready)
    (hready : (Remote.fresh ready : Remote BranchCall).Expected readBranches)
    (hpulls : parts.pulls.Expected readRequests) (hwritable : parts.document ≠ .directory)
    (hpage : Url.WellFormed parts.page.url) : session.Fine ∧ session.tasks = [] := by
  unfold make at hmake
  dsimp only at hmake
  split at hmake
  · obtain rfl := Except.ok.inj hmake
    have hfresh : parts.cache.Expected := by
      rw [hcache]
      exact BranchCache.expected_fresh limit hready
    exact ⟨⟨hwritable, hpage, hfresh, hpulls, fun _ hs => absurd hs List.not_mem_nil⟩, rfl⟩
  · cases hmake

end Session

end BranchCompare
