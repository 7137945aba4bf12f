import BranchCompare.Proofs.Workflow.Picks

/-!
# What actions leave alone

`Leaves` says that an action does not touch a part of the session.  Listings and comparisons of
change requests do not touch how far the comparison by hand has come (`Session.course`), nor do they
wait for branches to choose among (`Aloof`).  A pick touches nothing of what is shown apart from the
picks, and only the selection of a repository changes which one is remembered.
-/

namespace BranchCompare

def TaskState.choice? : TaskState → Option (String × Bool)
  | .loading _ (.choice repo restoring) false => some (repo, restoring)
  | _ => none

/-- An operation that was cancelled awaits no choice. -/
theorem TaskState.choice?_cancelled (waiting : Waiting) (purpose : Purpose) :
    (TaskState.loading waiting purpose true).choice? = none := by
  cases purpose <;> rfl

theorem TaskState.choice?_eq_some {state : TaskState} {repo : String} {restoring : Bool}
    (h : state.choice? = some (repo, restoring)) :
    ∃ waiting, state = .loading waiting (.choice repo restoring) false := by
  unfold TaskState.choice? at h
  split at h
  · next waiting name kind =>
    obtain ⟨rfl, rfl⟩ := Prod.mk.inj (Option.some.inj h)
    exact ⟨waiting, rfl⟩
  · cases h

namespace Session

/-- How far the comparison by hand has come, and of which repository. -/
def course (session : Session) : Stage × Option String := (session.flow.stage, session.flow.repo)

/-- What is shown of the repository, apart from the picks. -/
def shown (session : Session) : Stage × Option String × List Branch × Option String :=
  (session.flow.stage, session.flow.repo, session.flow.branches, session.flow.error)

def remembered (session : Session) : Option String := session.store.get? .repo

/-- The loads that are under way, what stands in line, and which repository is remembered. -/
def work (session : Session) : BranchCache × List TaskState × List Signal × Option String :=
  (session.cache, session.tasks, session.line, session.remembered)

end Session

namespace Action

variable {α β γ : Type} {part : Session → γ}

/-- The action leaves this part of the session as it is, however it ends. -/
def Leaves (part : Session → γ) (action : Action α) : Prop :=
  ∀ session, Leads action session (fun _ after => part after = part session)
    fun _ after => part after = part session

theorem leaves_pure (value : α) : Leaves part (pure value) := fun _ => rfl

theorem leaves_throw (crash : Crash) : Leaves part (throw crash : Action α) := fun _ => rfl

theorem leaves_modify {change : Session → Session}
    (h : ∀ session, part (change session) = part session) :
    Leaves part (modify change : Action PUnit) := h

theorem Leaves.bind {action : Action α} (h : Leaves part action) {next : α → Action β}
    (hnext : ∀ value, Leaves part (next value)) : Leaves part (action >>= next) := by
  intro session
  rw [leads_bind]
  refine (h session).mono (fun value after hsame => ?_) fun _ _ hsame => hsame
  exact (hnext value after).mono (fun _ _ h' => h'.trans hsame) fun _ _ h' => h'.trans hsame

theorem leaves_get_bind {next : Session → Action β} (hnext : ∀ value, Leaves part (next value)) :
    Leaves part (get >>= next) := fun session => hnext session session

/-- What depends on the part is left alone as well. -/
theorem Leaves.of {δ : Type} {action : Action α} (h : Leaves part action) {other : Session → δ}
    (f : γ → δ) (hother : ∀ session, other session = f (part session)) : Leaves other action := by
  intro session
  simp only [hother]
  exact (h session).mono (fun _ _ => congrArg f) fun _ _ => congrArg f

/-- A stretch aside leaves alone what sessions that are alike have in common. -/
theorem Aside.leaves {action : Action α} (h : Aside action)
    (hpart : ∀ before after : Session, before.Alike after → part after = part before) :
    Leaves part action := fun session =>
  (h session).mono (fun _ _ => hpart session _) fun _ _ => hpart session _

theorem leaves_readPage (read : Page → Except Url.Fault α) : Leaves part (readPage read) := by
  intro session
  rw [leads_readPage]
  split <;> rfl

theorem leaves_editPage {edit : Page → Except Url.Fault Page}
    (h : ∀ (session : Session) page, part { session with page := page } = part session) :
    Leaves part (editPage edit) := by
  intro session
  rw [leads_editPage]
  split
  · exact h session _
  · rfl

/-! ## Change requests -/

/-- The action leaves the comparison by hand alone, and does not wait for branches to choose
among. -/
def Aloof (action : Action Turn) : Prop :=
  ∀ session, Leads action session
    (fun turn after => after.course = session.course ∧ turn.state.choice? = none)
    fun _ after => after.course = session.course

/-- A stretch stays aloof after one that leaves the course alone. -/
theorem Leaves.aloof {action : Action α} (h : Leaves Session.course action)
    {next : α → Action Turn} (hnext : ∀ value, Aloof (next value)) : Aloof (action >>= next) := by
  intro session
  rw [leads_bind]
  refine (h session).mono (fun value after hsame => ?_) fun _ _ hsame => hsame
  exact (hnext value after).mono (fun _ _ h' => ⟨h'.1.trans hsame, h'.2⟩)
    fun _ _ h' => h'.trans hsame

theorem aloof_pure {turn : Turn} (h : turn.state.choice? = none) : Aloof (pure turn) :=
  fun _ => ⟨rfl, h⟩

theorem aloof_throw (crash : Crash) : Aloof (throw crash) := fun _ => rfl

theorem aloof_get_bind {next : Session → Action Turn} (hnext : ∀ value, Aloof (next value)) :
    Aloof (get >>= next) := fun session => hnext session session

/-- A stretch aside leaves the course alone. -/
theorem Aside.course {action : Action α} (h : Aside action) : Leaves Session.course action :=
  h.leaves fun _ _ halike => by rw [Session.course, halike.flow, Session.course]

theorem course_fail (message : String) : Leaves Session.course (fail message) :=
  leaves_modify fun _ => rfl

theorem course_clearError : Leaves Session.course clearError := leaves_modify fun _ => rfl

theorem aloof_list (task : TaskId) (owner repo : Option String) : Aloof (list task owner repo) := by
  rw [list_eq]
  refine aloof_get_bind fun session => ?_
  refine (aside_orParam _ _ _).course.aloof fun owner => ?_
  refine (aside_orParam _ _ _).course.aloof fun repo => ?_
  unfold beginListing
  refine course_clearError.aloof fun _ => ?_
  split
  · exact (course_fail _).aloof fun _ => aloof_pure rfl
  refine aside_enterLoading.course.aloof fun _ => ?_
  have henqueue : Leaves Session.course
      (modify fun session => session.enqueue [.listing task .make] : Action PUnit) :=
    leaves_modify fun _ => rfl
  refine henqueue.aloof fun _ => ?_
  dsimp only
  split
  · have harm : Leaves Session.course (modify fun session =>
        { session with timeline := session.timeline.arm session.limit (.task task) } :
          Action PUnit) := leaves_modify fun _ => rfl
    exact harm.aloof fun _ => aloof_pure rfl
  · exact aloof_pure rfl

theorem aloof_endListing (owner repo : String) (result : CallEnd (List ChangeRequest)) :
    Aloof (endListing owner repo result) := by
  have hbadly : ∀ message, Aloof (endListingBadly message) := fun message =>
    (course_fail message).aloof fun _ => aside_exitLoading.course.aloof fun _ => aloof_pure rfl
  cases result with
  | answer requests =>
    refine aside_exitLoading.course.aloof fun _ => ?_
    unfold showRequests
    split
    · have hshow : ∀ change : Flow → Flow,
          (∀ flow, (change flow).stage = flow.stage ∧ (change flow).repo = flow.repo) →
          Leaves Session.course (modifyFlow change) := fun change hchange =>
        leaves_modify fun session => Prod.ext (hchange session.flow).1 (hchange session.flow).2
      exact (hshow _ fun _ => ⟨rfl, rfl⟩).aloof fun _ => aloof_pure rfl
    · exact aloof_throw _
  | unavailable failure => exact hbadly failure.message
  | outOfTime => exact hbadly _
  | crashed crash => exact aside_exitLoading.course.aloof fun _ => aloof_throw crash

theorem aloof_endComparison (row : ChangeRequest.Row) (preset : Preset) (result : LoadEnd) :
    Aloof (endComparison row preset result) := by
  unfold endComparison
  cases result with
  | ok branches =>
    refine aside_exitLoading.course.aloof fun _ => ?_
    have hurl : Leaves Session.course
        (compareUrl preset row.request.baseRef row.request.headRef) := by
      unfold compareUrl
      split
      · exact leaves_pure _
      · exact leaves_throw _
    refine hurl.aloof fun url => ?_
    have hopen : Leaves Session.course (openUrl url) := fun _ => rfl
    exact hopen.aloof fun _ => aloof_pure rfl
  | error error =>
    cases error with
    | unavailable failure =>
      refine (course_fail _).aloof fun _ => ?_
      exact aside_exitLoading.course.aloof fun _ => aloof_pure rfl
    | crashed crash => exact aside_exitLoading.course.aloof fun _ => aloof_throw crash

theorem aloof_followLoad (row : ChangeRequest.Row) (preset : Preset)
    (outcome : BranchCache × LoadTurn × List CacheSignal) :
    Aloof (followLoad (.comparison row preset) outcome) := by
  obtain ⟨cache, turn, signals⟩ := outcome
  unfold followLoad
  have htake : Leaves Session.course (modify fun session =>
      ({ session with cache := cache } : Session).enqueue (signals.map .cache) : Action PUnit) :=
    leaves_modify fun _ => rfl
  refine htake.aloof fun _ => ?_
  cases turn with
  | ended result => exact aloof_endComparison row preset result
  | waits waiting => exact aloof_pure rfl

theorem aloof_compare (task : TaskId) (row : ChangeRequest.Row) (repo : Option String) :
    Aloof (compare task row repo) := by
  have hfail : ∀ message, Aloof (do fail message; return .ended (.launched none)) :=
    fun message => (course_fail message).aloof fun _ => aloof_pure rfl
  have hload : ∀ name preset, Aloof (beginLoading task name true (.comparison row preset)) :=
    fun name preset => aside_enterLoading.course.aloof fun _ => aloof_get_bind fun _ =>
      aloof_followLoad row preset _
  unfold compare
  refine course_clearError.aloof fun _ => ?_
  split
  · exact hfail _
  refine aloof_get_bind fun session => ?_
  dsimp only
  split
  · refine (leaves_pure _).aloof fun repo => ?_
    split
    · exact hload _ _
    · exact hfail _
  · refine (aside_param _ _).course.aloof fun repo => ?_
    split
    · exact hload _ _
    · exact hfail _

/-! ## Picks -/

/-- A pick remembers a branch and no repository. -/
theorem work_remember {key : SelectionKey} (hkey : key ≠ .repo) (value : Option String) :
    Leaves Session.work (remember key value) := by
  have hlabel : SelectionKey.repo.label ≠ key.label := by
    cases key with
    | repo => exact absurd rfl hkey
    | first | second => decide
  have hget : ∀ store : SelectionStore, (store.assign key value).get? .repo = store.get? .repo := by
    intro store
    unfold SelectionStore.assign SelectionStore.get?
    cases value with
    | some text => exact OrderedMap.get?_put_of_ne hlabel ..
    | none => exact OrderedMap.get?_erase_of_ne hlabel ..
  intro session
  rw [leads_remember]
  split
  · next store document heq =>
    obtain ⟨rfl, -⟩ := Prod.mk.inj heq
    simp only [Session.work, Session.remembered, hget]
  · next store error heq =>
    obtain ⟨rfl, -⟩ := Prod.mk.inj heq
    simp only [Session.work, Session.remembered, hget]

/-- A pick changes only what is shown of the picks, and what stands beside the workflow. -/
theorem leaves_pick (side : Side) (name : Option String) :
    Leaves (fun session => (session.work, session.shown)) (pick side name) := by
  have hremember : ∀ value,
      Leaves (fun session => (session.work, session.shown)) (remember side.key value) := by
    intro value session
    have hkey : side.key ≠ .repo := by
      cases side <;> decide
    have hwork := work_remember hkey value session
    have haside := aside_remember side.key value session
    unfold Leads at hwork haside ⊢
    split <;> next heq =>
      rw [heq] at hwork haside
      refine Prod.ext hwork ?_
      simp only [Session.shown, haside.flow]
  unfold pick
  extract_lets picked
  refine leaves_get_bind fun session => ?_
  dsimp only
  split
  · exact leaves_pure _
  · have hcontrol : Leaves (fun session => (session.work, session.shown))
        (setControl side.control (valueOf picked)) := leaves_modify fun _ => rfl
    refine hcontrol.bind fun _ => (hremember _).bind fun _ => ?_
    refine Leaves.bind (leaves_editPage fun _ _ => rfl) fun _ => ?_
    refine Leaves.bind (fun session => ?_) fun _ => leaves_pure _
    rw [leads_modifyFlow]
    cases side <;> rfl

theorem course_pick (side : Side) (name : Option String) :
    Leaves Session.course (pick side name) :=
  (leaves_pick side name).of (fun part => (part.2.1, part.2.2.1)) fun _ => rfl

/-- However the action ends, the session has come to one that is related so. -/
def Tracks (rel : Session → Session → Prop) (action : Action α) : Prop :=
  ∀ session, Leads action session (fun _ after => rel session after) fun _ after =>
    rel session after

section Tracks

variable {rel : Session → Session → Prop}

theorem tracks_pure [Std.Refl rel] (value : α) : Tracks rel (pure value) :=
  fun session => refl_of rel session

theorem Tracks.bind [IsTrans Session rel] {action : Action α} (h : Tracks rel action)
    {next : α → Action β} (hnext : ∀ value, Tracks rel (next value)) :
    Tracks rel (action >>= next) := by
  intro session
  rw [leads_bind]
  refine (h session).mono (fun value after hfirst => ?_) fun _ _ hfirst => hfirst
  exact (hnext value after).mono (fun _ _ h' => trans_of rel hfirst h')
    fun _ _ h' => trans_of rel hfirst h'

/-- By a change of a control the user picks, begins an operation or leads the page. -/
theorem tracks_change [Std.Refl rel] [IsTrans Session rel]
    (hpick : ∀ side name, Tracks rel (pick side name))
    (hset : ∀ name value, Tracks rel (setControl name value))
    (hbegin : ∀ (session : Session) repo, rel session (session.begin (.selectRepo repo)))
    (hpage : ∀ (session : Session) page, rel session { session with page := page })
    (name : ControlName) (value : Json) : Tracks rel (change name value) := by
  have htellPick : ∀ side name, Tracks rel (pick side name >>= fun _ => pure ()) :=
    fun side name => (hpick side name).bind fun _ => tracks_pure ()
  have htell : ∀ listener, Tracks rel (tell value listener) := by
    intro listener
    unfold tell
    cases listener with
    | pickRepo =>
      dsimp only
      split
      · next repo =>
        split
        · exact tracks_pure ()
        · exact fun session => hbegin session repo
      · exact tracks_pure ()
    | pickFirst | pickSecond =>
      dsimp only
      split
      · exact htellPick _ _
      · split
        · exact htellPick _ _
        · exact tracks_pure ()
    | redirect name =>
      intro session
      rw [leads_editPage]
      split
      · exact hpage session _
      · exact refl_of rel session
  have htellAll : ∀ listeners : List FlowListener, Tracks rel (listeners.forM (tell value)) := by
    intro listeners
    induction listeners with
    | nil => exact tracks_pure ()
    | cons listener listeners ih => exact (htell listener).bind fun _ => ih
  unfold change
  intro session
  exact ((hset name value).bind fun _ => htellAll _) session

end Tracks

/-- The sessions agree in the part. -/
def Same (part : Session → γ) (before after : Session) : Prop := part after = part before

/-- A change of a control by the user leaves alone what picks, the values of controls, the page and the
line of operations have nothing to do with. -/
theorem leaves_change (hpick : ∀ side name, Leaves part (pick side name))
    (hset : ∀ name value, Leaves part (setControl name value))
    (hbegin : ∀ (session : Session) repo, part (session.begin (.selectRepo repo)) = part session)
    (hpage : ∀ (session : Session) page, part { session with page := page } = part session)
    (name : ControlName) (value : Json) : Leaves part (change name value) :=
  tracks_change (hpick : ∀ side name, Tracks (Same part) (pick side name)) hset hbegin hpage name
    value

/-- A change of a control leaves the comparison by hand where it is; an operation that begins by it
does so later. -/
theorem course_change (name : ControlName) (value : Json) :
    Leaves Session.course (change name value) :=
  leaves_change course_pick (fun name value => (aside_setControl name value).course)
    (fun _ _ => rfl) (fun _ _ => rfl) name value

/-! ## The remembered repository -/

theorem remembered_modifyFlow (change : Flow → Flow) :
    Leaves Session.remembered (modifyFlow change) := leaves_modify fun _ => rfl

theorem remembered_setControl (name : ControlName) (value : Json) :
    Leaves Session.remembered (setControl name value) := leaves_modify fun _ => rfl

theorem remembered_offerBranches (name : ControlName) (branches : List Branch) :
    Leaves Session.remembered (offerBranches name branches) := leaves_modify fun _ => rfl

theorem remembered_enterLoading : Leaves Session.remembered enterLoading :=
  leaves_modify fun _ => rfl

theorem remembered_exitLoading : Leaves Session.remembered exitLoading :=
  leaves_modify fun _ => rfl

theorem remembered_applyBranches (branches : List Branch) :
    Leaves Session.remembered (applyBranches branches) := by
  unfold applyBranches
  refine (remembered_offerBranches _ _).bind fun _ => ?_
  refine (remembered_offerBranches _ _).bind fun _ => ?_
  refine (leaves_readPage _).bind fun _ => leaves_get_bind fun _ => ?_
  refine (leaves_readPage _).bind fun _ => leaves_get_bind fun _ => ?_
  refine (remembered_setControl _ _).bind fun _ => ?_
  exact (remembered_setControl _ _).bind fun _ => remembered_modifyFlow _

theorem remembered_endChoice (repo : String) (restoring : Bool) (result : LoadEnd) :
    Leaves Session.remembered (endChoice repo restoring result) := by
  unfold endChoice
  refine leaves_get_bind fun session => ?_
  cases result with
  | ok branches =>
    refine remembered_exitLoading.bind fun _ => ?_
    split
    · refine (remembered_applyBranches branches).bind fun _ => ?_
      exact (remembered_modifyFlow _).bind fun _ => leaves_pure _
    · exact leaves_pure _
  | error error =>
    cases error with
    | unavailable failure =>
      dsimp only
      split
      · refine (remembered_modifyFlow _).bind fun _ => ?_
        refine (remembered_modifyFlow _).bind fun _ => ?_
        exact remembered_exitLoading.bind fun _ => leaves_pure _
      · exact remembered_exitLoading.bind fun _ => leaves_pure _
    | crashed crash => exact remembered_exitLoading.bind fun _ => leaves_throw crash

theorem remembered_followChoice (repo : String) (restoring : Bool)
    (outcome : BranchCache × LoadTurn × List CacheSignal) :
    Leaves Session.remembered (followLoad (.choice repo restoring) outcome) := by
  obtain ⟨cache, turn, signals⟩ := outcome
  have htake : Leaves Session.remembered (modify fun session =>
      ({ session with cache := cache } : Session).enqueue (signals.map .cache) : Action PUnit) :=
    leaves_modify fun _ => rfl
  unfold followLoad
  refine htake.bind fun _ => ?_
  cases turn with
  | ended result => exact remembered_endChoice repo restoring result
  | waits waiting => exact leaves_pure _

theorem remembered_loadBranches (task : TaskId) (repo : String) (forced restoring : Bool) :
    Leaves Session.remembered (loadBranches task repo forced restoring) := by
  unfold loadBranches beginLoading
  refine (remembered_modifyFlow _).bind fun _ => ?_
  refine remembered_enterLoading.bind fun _ => leaves_get_bind fun _ => ?_
  exact remembered_followChoice _ _ _

theorem remembered_refresh (task : TaskId) : Leaves Session.remembered (refresh task) := by
  unfold refresh
  refine leaves_get_bind fun session => ?_
  split
  · refine (remembered_modifyFlow _).bind fun _ => ?_
    exact remembered_loadBranches _ _ _ _
  · exact leaves_pure _

/-- The repository that is selected is remembered. -/
theorem remembered_selectRepo (session : Session) (task : TaskId) (repo : String)
    (restoring : Bool) :
    Leads (selectRepo task repo restoring) session
      (fun _ after => after.remembered = some repo) fun _ _ => True := by
  unfold selectRepo setControl
  rw [leads_bind, leads_modifyFlow, leads_bind, leads_modify, leads_bind, leads_remember]
  split
  · next store document heq =>
    obtain ⟨rfl, -⟩ := Prod.mk.inj heq
    have hput : ∀ values : List (String × String),
        OrderedMap.get? SelectionKey.repo.label
          (OrderedMap.put SelectionKey.repo.label repo values) = some repo :=
      fun values => OrderedMap.get?_put_self ..
    have hrest : Leaves Session.remembered (do
        editPage fun page => page.replaceParam ControlName.repo.label (.text repo)
        loadBranches task repo false restoring) :=
      Leaves.bind (leaves_editPage fun _ _ => rfl) fun _ =>
        remembered_loadBranches _ _ _ _
    exact (hrest _).mono (fun _ _ h => h.trans (hput _)) fun _ _ _ => trivial
  · trivial

end Action

end BranchCompare
