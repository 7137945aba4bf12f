import BranchCompare.Proofs.Workflow.Stretches

/-!
# What operations cannot reach

A part of a session is `Fixed` if it is made of nothing that actions write to, and it stands `Beside`
if only loads and listings do.  Whatever an operation does leaves a fixed part as it is
(`fixed_first`, `Stretch.fixed`), and what the user does leaves alone what stands beside
(`beside_pick`, `beside_launch`).  Where operations stand is fixed: each changes its own state only,
by a stretch of its own (`task_step`).  Which controls there are, and which of them have a list of
options, is fixed in every session that can be reached (`Reachable.fittings`).
-/

namespace BranchCompare

namespace Session

variable {γ : Type}

/-- Nothing is in the part that actions write to which load no branches and list nothing. -/
structure Beside (part : Session → γ) : Prop where
  shows : ∀ (session : Session) flow, part { session with flow := flow } = part session
  keeps : ∀ (session : Session) store document,
    part { session with store := store, document := document } = part session
  leads : ∀ (session : Session) page, part { session with page := page } = part session
  waits : ∀ (session : Session) indicator timeline,
    part { session with indicator := indicator, timeline := timeline } = part session
  binds : ∀ (session : Session) isBound, part { session with isBound := isBound } = part session
  fills : ∀ (session : Session) name change,
    (∀ control : FlowControl, (change control).hasOptions = control.hasOptions) →
    part (session.modifyControl name change) = part session

/-- Nothing that actions write to is in the part. -/
structure Fixed (part : Session → γ) : Prop extends Beside part where
  loads : ∀ (session : Session) cache line,
    part { session with cache := cache, line := line } = part session

/-- The controls that there are, and whether they have a list of options. -/
def fittings (session : Session) : List (ControlName × Bool) :=
  session.controls.map fun entry => (entry.1, entry.2.hasOptions)

/-- A change that leaves a control its options leaves the fittings alone. -/
theorem fittings_modifyControl (session : Session) (name : ControlName)
    {change : FlowControl → FlowControl}
    (h : ∀ control, (change control).hasOptions = control.hasOptions) :
    (session.modifyControl name change).fittings = session.fittings := by
  unfold fittings modifyControl
  rw [List.map_map]
  refine List.map_congr_left fun entry _ => ?_
  simp only [Function.comp]
  split
  · next heq => rw [h, heq]
  · rfl

theorem fixed_tasks : Fixed tasks where
  toBeside := ⟨fun _ _ => rfl, fun _ _ _ => rfl, fun _ _ => rfl, fun _ _ _ => rfl, fun _ _ => rfl,
    fun _ _ _ _ => rfl⟩
  loads _ _ _ := rfl

theorem fixed_fittings : Fixed fittings where
  toBeside := ⟨fun _ _ => rfl, fun _ _ _ => rfl, fun _ _ => rfl, fun _ _ _ => rfl, fun _ _ => rfl,
    fun session name _ h => fittings_modifyControl session name h⟩
  loads _ _ _ := rfl

theorem lookup_fittings (session : Session) (name : ControlName) :
    session.fittings.lookup name = (session.control? name).map (·.hasOptions) := by
  unfold fittings control?
  induction session.controls with
  | nil => rfl
  | cons entry rest ih =>
    rw [List.map_cons, List.lookup_cons, List.lookup_cons]
    cases name == entry.1 with
    | true => rfl
    | false => exact ih

end Session

namespace Action

variable {α γ : Type} {part : Session → γ}

/-! ## Single changes -/

theorem beside_modifyFlow (h : Session.Beside part) (change : Flow → Flow) :
    Leaves part (modifyFlow change) := leaves_modify fun session => h.shows session _

theorem beside_setControl (h : Session.Beside part) (name : ControlName) (value : Json) :
    Leaves part (setControl name value) :=
  leaves_modify fun session => h.fills session name _ fun _ => rfl

theorem beside_offerBranches (h : Session.Beside part) (name : ControlName) (branches : List Branch) :
    Leaves part (offerBranches name branches) := by
  refine leaves_modify fun session => h.fills session name _ fun control => ?_
  split <;> rfl

theorem beside_remember (h : Session.Beside part) (key : SelectionKey) (value : Option String) :
    Leaves part (remember key value) := by
  intro session
  rw [leads_remember]
  split
  · exact h.keeps session _ _
  · exact h.keeps session _ session.document

theorem beside_editPage (h : Session.Beside part) (edit : Page → Except Url.Fault Page) :
    Leaves part (editPage edit) := leaves_editPage h.leads

theorem beside_enterLoading (h : Session.Beside part) : Leaves part enterLoading :=
  leaves_modify fun session => h.waits session _ session.timeline

theorem beside_exitLoading (h : Session.Beside part) : Leaves part exitLoading :=
  leaves_modify fun session => h.waits session _ session.timeline

/-- The URL of a comparison is only computed. -/
theorem leaves_compareUrl (preset : Preset) (old new : String) :
    Leaves part (compareUrl preset old new) := by
  unfold compareUrl
  split
  · exact leaves_pure _
  · exact leaves_throw _

theorem beside_openUrl (h : Session.Beside part) (url : String) : Leaves part (openUrl url) := by
  refine (beside_modifyFlow h _).bind fun _ => ?_
  exact leaves_modify fun session => h.leads session _

/-! ## Loads -/

theorem beside_applyBranches (h : Session.Beside part) (branches : List Branch) :
    Leaves part (applyBranches branches) := by
  unfold applyBranches
  refine (beside_offerBranches h _ _).bind fun _ => ?_
  refine (beside_offerBranches h _ _).bind fun _ => ?_
  refine (leaves_readPage _).bind fun _ => leaves_get_bind fun _ => ?_
  refine (leaves_readPage _).bind fun _ => leaves_get_bind fun _ => ?_
  refine (beside_setControl h _ _).bind fun _ => ?_
  exact (beside_setControl h _ _).bind fun _ => beside_modifyFlow h _

theorem beside_endChoice (h : Session.Beside part) (repo : String) (restoring : Bool)
    (result : LoadEnd) : Leaves part (endChoice repo restoring result) := by
  unfold endChoice
  refine leaves_get_bind fun session => ?_
  cases result with
  | ok branches =>
    refine (beside_exitLoading h).bind fun _ => ?_
    split
    · refine (beside_applyBranches h branches).bind fun _ => ?_
      exact (beside_modifyFlow h _).bind fun _ => leaves_pure _
    · exact leaves_pure _
  | error error =>
    cases error with
    | unavailable failure =>
      dsimp only
      split
      · refine (beside_modifyFlow h _).bind fun _ => (beside_modifyFlow h _).bind fun _ => ?_
        exact (beside_exitLoading h).bind fun _ => leaves_pure _
      · exact (beside_exitLoading h).bind fun _ => leaves_pure _
    | crashed crash => exact (beside_exitLoading h).bind fun _ => leaves_throw crash

theorem beside_endComparison (h : Session.Beside part) (row : ChangeRequest.Row) (preset : Preset)
    (result : LoadEnd) : Leaves part (endComparison row preset result) := by
  unfold endComparison
  cases result with
  | ok branches =>
    refine (beside_exitLoading h).bind fun _ => (leaves_compareUrl _ _ _).bind fun url => ?_
    exact (beside_openUrl h url).bind fun _ => leaves_pure _
  | error error =>
    cases error with
    | unavailable failure =>
      refine (beside_modifyFlow h _).bind fun _ => ?_
      exact (beside_exitLoading h).bind fun _ => leaves_pure _
    | crashed crash => exact (beside_exitLoading h).bind fun _ => leaves_throw crash

/-- No turn of a load writes to the part. -/
theorem fixed_followLoad (h : Session.Fixed part) (purpose : Purpose)
    (outcome : BranchCache × LoadTurn × List CacheSignal) :
    Leaves part (followLoad purpose outcome) := by
  obtain ⟨cache, turn, signals⟩ := outcome
  unfold followLoad
  refine Leaves.bind (leaves_modify fun session => h.loads session cache _) fun _ => ?_
  cases turn with
  | waits waiting => exact leaves_pure _
  | ended result =>
    cases purpose with
    | choice repo restoring => exact beside_endChoice h.toBeside repo restoring result
    | comparison row preset => exact beside_endComparison h.toBeside row preset result

theorem fixed_beginLoading (h : Session.Fixed part) (task : TaskId) (repo : String) (forced : Bool)
    (purpose : Purpose) : Leaves part (beginLoading task repo forced purpose) :=
  (beside_enterLoading h.toBeside).bind fun _ => leaves_get_bind fun _ =>
    fixed_followLoad h purpose _

theorem fixed_loadBranches (h : Session.Fixed part) (task : TaskId) (repo : String)
    (forced restoring : Bool) : Leaves part (loadBranches task repo forced restoring) :=
  (beside_modifyFlow h.toBeside _).bind fun _ => fixed_beginLoading h task repo forced _

/-! ## Operations -/

theorem fixed_selectRepo (h : Session.Fixed part) (task : TaskId) (repo : String)
    (restoring : Bool) : Leaves part (selectRepo task repo restoring) := by
  unfold selectRepo
  refine (beside_modifyFlow h.toBeside _).bind fun _ => ?_
  refine (beside_setControl h.toBeside _ _).bind fun _ => ?_
  refine (beside_remember h.toBeside _ _).bind fun _ => ?_
  refine (beside_editPage h.toBeside _).bind fun _ => ?_
  exact fixed_loadBranches h task repo false restoring

theorem beside_bindControls (h : Session.Beside part) : Leaves part bindControls := by
  have hlisten : ∀ (session : Session) name listener,
      part (session.modifyControl name fun control =>
        { control with control := control.control.listen listener }) = part session :=
    fun session name listener => h.fills session name _ fun _ => rfl
  intro session
  unfold bindControls
  rw [leads_bind, leads_get]
  dsimp only
  split
  · rw [leads_set, hlisten, hlisten, hlisten, h.binds]
  · rfl

theorem fixed_restore (h : Session.Fixed part) (task : TaskId) : Leaves part (restore task) := by
  unfold restore
  refine (beside_bindControls h.toBeside).bind fun _ => (leaves_readPage _).bind fun inUrl => ?_
  refine leaves_get_bind fun session => ?_
  split
  · exact fixed_selectRepo h task _ true
  · exact leaves_pure _

theorem fixed_refresh (h : Session.Fixed part) (task : TaskId) : Leaves part (refresh task) := by
  unfold refresh
  refine leaves_get_bind fun session => ?_
  split
  · exact (beside_modifyFlow h.toBeside _).bind fun _ => fixed_loadBranches h task _ true false
  · exact leaves_pure _

theorem leaves_orParam (given : Option String) (name default : String) :
    Leaves part (orParam given name default) := by
  unfold orParam
  split
  · exact leaves_pure _
  · rw [map_eq_pure_bind]
    exact (leaves_readPage _).bind fun _ => leaves_pure _

theorem fixed_list (h : Session.Fixed part) (task : TaskId) (owner repo : Option String) :
    Leaves part (list task owner repo) := by
  rw [list_eq]
  refine leaves_get_bind fun session => ?_
  refine (leaves_orParam _ _ _).bind fun owner => (leaves_orParam _ _ _).bind fun repo => ?_
  unfold beginListing
  refine (beside_modifyFlow h.toBeside _).bind fun _ => ?_
  split
  · exact (beside_modifyFlow h.toBeside _).bind fun _ => leaves_pure _
  refine (beside_enterLoading h.toBeside).bind fun _ => ?_
  refine Leaves.bind (leaves_modify fun session => h.loads session session.cache _) fun _ => ?_
  dsimp only
  split
  · refine Leaves.bind (leaves_modify fun session => ?_) fun _ => leaves_pure _
    exact h.waits session session.indicator _
  · exact leaves_pure _

theorem fixed_compare (h : Session.Fixed part) (task : TaskId) (row : ChangeRequest.Row)
    (repo : Option String) : Leaves part (compare task row repo) := by
  have hbegin : ∀ table found, Leaves part (beginComparison task row table found) := by
    intro table found
    unfold beginComparison
    split
    · exact fixed_beginLoading h task _ true _
    · exact (beside_modifyFlow h.toBeside _).bind fun _ => leaves_pure _
  rw [compare_eq]
  refine (beside_modifyFlow h.toBeside _).bind fun _ => ?_
  split
  · exact (beside_modifyFlow h.toBeside _).bind fun _ => leaves_pure _
  refine leaves_get_bind fun session => ?_
  split
  · exact (leaves_pure _).bind fun found => hbegin _ found
  · exact (leaves_readPage _).bind fun found => hbegin _ found

theorem fixed_first (h : Session.Fixed part) (task : TaskId) (operation : Operation) :
    Leaves part (first task operation) := by
  cases operation with
  | restore => exact fixed_restore h task
  | selectRepo repo => exact fixed_selectRepo h task repo false
  | refresh => exact fixed_refresh h task
  | list owner repo => exact fixed_list h task owner repo
  | compare row repo => exact fixed_compare h task row repo

theorem beside_endListing (h : Session.Beside part) (owner repo : String)
    (result : CallEnd (List ChangeRequest)) : Leaves part (endListing owner repo result) := by
  have hbadly : ∀ message, Leaves part (endListingBadly message) := fun message =>
    (beside_modifyFlow h _).bind fun _ => (beside_exitLoading h).bind fun _ => leaves_pure _
  cases result with
  | answer requests =>
    refine (beside_exitLoading h).bind fun _ => ?_
    unfold showRequests
    split
    · exact (beside_modifyFlow h _).bind fun _ => leaves_pure _
    · exact leaves_throw _
  | unavailable failure => exact hbadly failure.message
  | outOfTime => exact hbadly _
  | crashed crash => exact (beside_exitLoading h).bind fun _ => leaves_throw crash

/-! ## The user -/

theorem beside_pick (h : Session.Beside part) (side : Side) (name : Option String) :
    Leaves part (pick side name) := by
  rw [pick_eq]
  refine leaves_get_bind fun session => ?_
  split
  · exact leaves_pure _
  · unfold keep
    refine Leaves.bind ?_ fun _ => (beside_modifyFlow h _).bind fun _ => leaves_pure _
    refine (beside_setControl h _ _).bind fun _ => ?_
    exact (beside_remember h _ _).bind fun _ => beside_editPage h _

/-- Launching writes to the page and to what is shown only. -/
theorem beside_launch (h : Session.Beside part) : Leaves part launch := by
  have hfail : ∀ message, Leaves part (do fail message; return (none : Option String)) :=
    fun message => (beside_modifyFlow h _).bind fun _ => leaves_pure _
  unfold launch
  refine (beside_modifyFlow h _).bind fun _ => leaves_get_bind fun session => ?_
  dsimp only
  split
  · refine leaves_get_bind fun session => ?_
    split
    · refine (leaves_compareUrl _ _ _).bind fun url => (beside_modifyFlow h _).bind fun _ => ?_
      exact (beside_openUrl h url).bind fun _ => leaves_pure _
    · exact hfail _
  · exact hfail _

theorem beside_bindToPage (h : Session.Beside part) : Leaves part bindToPage := by
  have hlisten : ∀ name, Leaves part (modify fun session : Session =>
      session.modifyControl name fun control =>
        { control with control := control.control.listen (.redirect name) }) := fun name =>
    leaves_modify fun session => h.fills session name _ fun _ => rfl
  unfold bindToPage
  refine leaves_get_bind fun session => ?_
  dsimp only
  induction session.controls.map (·.1) with
  | nil => exact leaves_pure _
  | cons name names ih =>
    refine Leaves.bind ?_ fun _ => ih
    refine (leaves_readPage _).bind fun given => ?_
    split
    · split
      · exact (beside_setControl h _ _).bind fun _ => hlisten name
      · exact hlisten name
    · exact hlisten name

/-- Operations may have been put in line, and nothing else has become of operations. -/
def Grown (before after : Session) : Prop := before.tasks <+: after.tasks

instance : Std.Refl Grown := ⟨fun session => List.prefix_refl session.tasks⟩

instance : IsTrans Session Grown := ⟨fun _ _ _ h h' => List.IsPrefix.trans h h'⟩

theorem grown_of_eq {before after : Session} (h : after.tasks = before.tasks) :
    Grown before after := ⟨[], by rw [List.append_nil, h]⟩

theorem Leaves.grows {action : Action α} (h : Leaves Session.tasks action) : Tracks Grown action :=
  fun session => (h session).mono (fun _ _ => grown_of_eq) fun _ _ => grown_of_eq

/-- A change by the user may put an operation in line. -/
theorem grows_change (name : ControlName) (value : Json) : Tracks Grown (change name value) :=
  tracks_change (fun side name => (beside_pick Session.fixed_tasks.toBeside side name).grows)
    (fun name value => (beside_setControl Session.fixed_tasks.toBeside name value).grows)
    (fun _ _ => List.prefix_append ..) (fun session _ => List.prefix_refl session.tasks) name value

end Action

namespace Session

variable {γ : Type} {part : Session → γ} {session : Session} {task : TaskId}

/-- No stretch of an operation writes to the part. -/
theorem Stretch.fixed {action : Action Turn} (hstretch : session.Stretch task action)
    (h : Fixed part) : Action.Leaves part action := by
  cases hstretch with
  | begins hs => exact Action.fixed_first h task _
  | resumes hs => exact Action.fixed_followLoad h _ _
  | answers hs hwake => exact Action.beside_endListing h.toBeside _ _ _
  | expires hs hwake => exact Action.beside_endListing h.toBeside _ _ _

/-! ## Operations that go on -/

section Moves

variable {state new : TaskState} {event : FlowEvent} {value : OperationValue}

/-- An operation that stands where it stood drifts. -/
theorem drifts_of_front {after : Session} (hfront : session.tasks <+: after.tasks)
    (hs : session.tasks[task]? = some state) :
    ∃ new, after.tasks[task]? = some new ∧ state.Drifts new := by
  obtain ⟨more, hmore⟩ := hfront
  refine ⟨state, ?_, .same state⟩
  rw [← hmore, List.getElem?_append_left (List.getElem?_eq_some_iff.mp hs).1, hs]

/-- Where an operation stands after a stretch of one. -/
theorem Stretch.tasks_follow {action : Action Turn} (hstretch : session.Stretch task action) :
    ∃ new, (session.follow task action).tasks = session.tasks.set task new := by
  have htasks := hstretch.fixed fixed_tasks session
  refine follow_of_leads
    (motive := fun after => ∃ new, after.tasks = session.tasks.set task new) ?_
  have hset : ∀ {after : Session} (state : TaskState), after.tasks = session.tasks →
      ∃ new, (after.setTask task state).tasks = session.tasks.set task new :=
    fun state hsame => ⟨state, congrArg (·.set task state) hsame⟩
  exact htasks.mono (fun turn _ hsame => hset turn.state hsame) fun _ _ hsame => hset _ hsame

/-- By an event an operation drifts, or it goes on by a stretch of its own. -/
theorem task_step (hs : session.tasks[task]? = some state) (event : FlowEvent) :
    (∃ new, (session.step event).tasks[task]? = some new ∧ state.Drifts new) ∨
    ∃ place signal action, event = .turn place ∧ session.line[place]? = some signal ∧
      Calls task signal ∧ (session.without place).Stretch task action ∧
      session.step event = (session.without place).follow task action := by
  have hgrown : ∀ {α : Type} {action : Action α}, Action.Tracks Action.Grown action →
      ∃ new, (session.run action).1.tasks[task]? = some new ∧ state.Drifts new := fun hgrows =>
    drifts_of_front (tracks_run hgrows session) hs
  cases event with
  | begin operation =>
    have hfront : session.tasks <+: (session.begin operation).tasks := List.prefix_append ..
    exact .inl (drifts_of_front hfront hs)
  | pick side name => exact .inl (hgrown (Action.beside_pick fixed_tasks.toBeside side name).grows)
  | launch => exact .inl (hgrown (Action.beside_launch fixed_tasks.toBeside).grows)
  | change name value => exact .inl (hgrown (Action.grows_change name value))
  | answerFetch | answerListing | expire | advance | cancel | setReadyBranches | setReadyPulls =>
    exact .inl ((still_step session rfl).drifts hs)
  | turn place =>
    rcases turn_cases session place with
      hstill | ⟨signal, other, action, hsignal, hcalls, hstretch, hturn⟩
    · exact .inl (hstill.drifts hs)
    by_cases hother : other = task
    · subst hother
      exact .inr ⟨place, signal, action, rfl, hsignal, hcalls, hstretch, hturn⟩
    · obtain ⟨new, htasks⟩ := hstretch.tasks_follow
      refine .inl ⟨state, ?_, .same state⟩
      simp only [step, hturn, htasks]
      exact (List.getElem?_set_ne hother).trans hs

/-- An operation that drifts does not return. -/
theorem not_returns_of_drifts (hdrifts : state.Drifts new) (hopen : state.isOver = false) :
    new ≠ .ended (.value value) := by
  rintro rfl
  cases hdrifts with
  | same => cases hopen

/-- An operation returns by a turn only, at the end of a stretch of its own. -/
theorem returns_step (hs : session.tasks[task]? = some state) (hopen : state.isOver = false)
    (hreturns : (session.step event).tasks[task]? = some (.ended (.value value))) :
    ∃ place action given after, event = .turn place ∧ (session.without place).Stretch task action ∧
      action (session.without place) = .ok given after ∧ given.state = .ended (.value value) ∧
      session.step event = after.setTask task given.state := by
  rcases task_step hs event with
    ⟨new, hnew, hdrifts⟩ | ⟨place, signal, action, rfl, -, -, hstretch, hstep⟩
  · exact absurd (Option.some.inj (hnew.symm.trans hreturns)) (not_returns_of_drifts hdrifts hopen)
  · have htasks := hstretch.fixed fixed_tasks (session.without place)
    have hthere := (List.getElem?_eq_some_iff.mp hs).1
    rw [hstep] at hreturns ⊢
    rcases follow_cases (session.without place) task action with
      ⟨given, after, heq, hfollow⟩ | ⟨crash, after, heq, hfollow⟩
    · have hsame : after.tasks = session.tasks := htasks.ok heq
      rw [hfollow, setTask, hsame, List.getElem?_set_self hthere] at hreturns
      exact ⟨place, action, given, after, rfl, hstretch, heq, Option.some.inj hreturns, hfollow⟩
    · have hsame : after.tasks = session.tasks := htasks.error heq
      rw [hfollow, setTask, hsame, List.getElem?_set_self hthere] at hreturns
      cases hreturns

end Moves

/-! ## Sessions that can be reached -/

section Fittings

variable {event : FlowEvent}

theorem fittings_follow {action : Action Turn} (h : Action.Leaves fittings action) (task : TaskId) :
    (session.follow task action).fittings = session.fittings :=
  @part_follow _ fittings (· = session.fittings) _ _ task (fun _ _ => rfl) (h session)

theorem fittings_wakeListing (session : Session) (task : TaskId)
    (call : BoundedCall (List ChangeRequest)) (owner repo : String) :
    (session.wakeListing task call owner repo).fittings = session.fittings := by
  unfold wakeListing
  dsimp only
  split
  · rfl
  · exact fittings_follow (Action.beside_endListing fixed_fittings.toBeside _ _ _) task
  · exact fittings_follow (Action.beside_endListing fixed_fittings.toBeside _ _ _) task
  · rfl

/-- No signal changes which controls there are. -/
theorem fittings_perform (session : Session) (signal : Signal) :
    (session.perform signal).fittings = session.fittings := by
  unfold perform
  split
  · next task =>
    unfold taskTurn
    split
    · exact fittings_follow (Action.fixed_first fixed_fittings _ _) task
    · exact fittings_follow (Action.fixed_followLoad fixed_fittings _ _) task
    · rfl
    · exact fittings_wakeListing session task _ _ _
    · rfl
  · dsimp only
    split <;> rfl
  · rfl
  · next task turn =>
    unfold listingTurn
    split
    · cases turn with
      | make | takeUp | notify => rfl
      | wake => exact fittings_wakeListing session task _ _ _
    · rfl

theorem fittings_expire (session : Session) (owner : DeadlineOwner) :
    (session.expire owner).fittings = session.fittings := by
  unfold expire
  cases owner with
  | fetch fetch => rfl
  | task task =>
    dsimp only
    split <;> rfl

theorem fittings_expireAll (session : Session) (owners : List DeadlineOwner) :
    (owners.foldl expire session).fittings = session.fittings := by
  induction owners generalizing session with
  | nil => rfl
  | cons owner owners ih => exact (ih _).trans (fittings_expire session owner)

theorem fittings_run {α : Type} {action : Action α} (h : Action.Leaves fittings action)
    (session : Session) : (session.run action).1.fittings = session.fittings :=
  @part_run _ _ fittings (· = session.fittings) _ _ (h session)

theorem fittings_step (session : Session) (event : FlowEvent) :
    (session.step event).fittings = session.fittings := by
  cases event with
  | begin | answerFetch | setReadyBranches | setReadyPulls => rfl
  | turn place =>
    simp only [step, turn]
    split
    · exact fittings_perform _ _
    · rfl
  | pick side name =>
    exact fittings_run (Action.beside_pick fixed_fittings.toBeside side name) session
  | launch => exact fittings_run (Action.beside_launch fixed_fittings.toBeside) session
  | change name value =>
    refine fittings_run ?_ session
    exact Action.leaves_change (Action.beside_pick fixed_fittings.toBeside)
      (Action.beside_setControl fixed_fittings.toBeside) (fun _ _ => rfl) (fun _ _ => rfl) name
      value
  | expire owner => exact fittings_expire session owner
  | advance span => exact fittings_expireAll _ _
  | answerListing task result =>
    simp only [step, answerListing]
    split <;> rfl
  | cancel task =>
    simp only [step, cancel]
    split <;> rfl

end Fittings

/-- What a session can come to: by events, when controls are made to lead the page, and when the page
is led somewhere else from outside. -/
inductive Reachable (parts : Parts) : Session → Prop where
  | made {session : Session} (h : make parts = .ok session) : Reachable parts session
  | step {session : Session} (h : Reachable parts session) (event : FlowEvent) :
      Reachable parts (session.step event)
  | binds {session : Session} (h : Reachable parts session) :
      Reachable parts (session.run Action.bindToPage).1
  | leads {session : Session} (h : Reachable parts session) (page : Page) :
      Reachable parts { session with page := page }

variable {parts : Parts}

/-- What events lead to can be reached. -/
theorem Reachable.after (h : Reachable parts session) (events : List FlowEvent) :
    Reachable parts (session.after events) := by
  induction events generalizing session with
  | nil => exact h
  | cons event events ih => exact ih (h.step event)

/-- A session has the controls that it was made of, the needed ones among them. -/
theorem fittings_of_make (hmake : make parts = .ok session) :
    session.fittings = parts.controls ∧
      ∀ name ∈ neededControls, (parts.controls.lookup name).isSome = true := by
  unfold make at hmake
  dsimp only at hmake
  split at hmake
  · next hmissing =>
    obtain rfl := Except.ok.inj hmake
    refine ⟨?_, fun name hname => ?_⟩
    · simp [fittings, Function.comp_def]
    · have hthere := List.filter_eq_nil_iff.mp (List.isEmpty_iff.mp hmissing) name hname
      rwa [Bool.not_eq_true, Option.isNone_eq_false_iff] at hthere
  · cases hmake

/-- The controls of a session are those that it was made with. -/
theorem Reachable.fittings (h : Reachable parts session) :
    session.fittings = parts.controls ∧
      ∀ name ∈ neededControls, (parts.controls.lookup name).isSome = true := by
  induction h with
  | made hmake => exact fittings_of_make hmake
  | step _ event ih =>
    rw [fittings_step]
    exact ih
  | binds _ ih =>
    rw [fittings_run (Action.beside_bindToPage fixed_fittings.toBeside)]
    exact ih
  | leads _ page ih => exact ih

/-- The controls are there that a session cannot do without. -/
theorem Reachable.exists_control (h : Reachable parts session) {name : ControlName}
    (hname : name ∈ neededControls) : ∃ control, session.control? name = some control := by
  obtain ⟨hfittings, hneeded⟩ := h.fittings
  have hthere := hneeded name hname
  rw [← hfittings, lookup_fittings, Option.isSome_map] at hthere
  exact Option.isSome_iff_exists.mp hthere

end Session

end BranchCompare
