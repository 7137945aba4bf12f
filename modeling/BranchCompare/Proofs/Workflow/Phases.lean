import BranchCompare.Proofs.LoadingIndicator
import BranchCompare.Proofs.Workflow.Fixtures

/-!
# Phases of loading

An operation is inside a phase of loading while it waits for branches or for a listing
(`TaskState.isInside`).  A stretch of it `Paces` through the phases: it is inside at the end just if
it waits then, and outside if it is broken off.  Only the end of a listing touches the list of
change requests on its way (`leads_endListing_listed`).  By an event at most one operation goes on,
and `Session.Advances` says what becomes of the indicator and of the list (`advances_step`).
-/

namespace BranchCompare

open LoadingIndicator (Phase Phases)

/-- The operation waits for branches or for a listing. -/
def TaskState.isInside : TaskState → Bool
  | .loading .. | .listing .. => true
  | .begins _ | .ended _ => false

def Turn.isInside (turn : Turn) : Bool := turn.state.isInside

namespace Session

/-- The list of change requests: its repository, its rows, and how many of them are highlighted. -/
def listed (session : Session) : Option String × List ChangeRequest.Row × Nat :=
  (session.flow.requestsRepo, session.flow.rows, session.flow.highlighted)

def posted (session : Session) :
    (Option String × List ChangeRequest.Row × Nat) × LoadingIndicator :=
  (session.listed, session.indicator)

/-- An operation that was inside or not has gone through phases of loading, and has left the list of
change requests as it was. -/
structure Paced (before : Session) (inside : Bool) (after : Session) (still : Bool) : Prop where
  listed : after.listed = before.listed
  phases : Phases (inside, before.indicator) (still, after.indicator)

theorem Paced.trans {before middle after : Session} {inside between still : Bool}
    (h : before.Paced inside middle between) (h' : middle.Paced between after still) :
    before.Paced inside after still :=
  ⟨h'.listed.trans h.listed, Relation.ReflTransGen.trans h.phases h'.phases⟩

/-- Who leaves the indicator alone neither goes in nor out. -/
theorem paced_of_posted {before after : Session} (h : after.posted = before.posted)
    (inside : Bool) : before.Paced inside after inside := by
  obtain ⟨hlisted, hindicator⟩ := Prod.mk.inj h
  refine ⟨hlisted, ?_⟩
  rw [hindicator]
  exact .refl

end Session

namespace Action

open BranchCompare.Session (posted Paced paced_of_posted)

variable {α β : Type} {inside between : Bool}

/-! ## What touches neither the list nor the indicator -/

theorem posted_fail (message : String) : Leaves posted (fail message) := leaves_modify fun _ => rfl

theorem posted_clearError : Leaves posted clearError := leaves_modify fun _ => rfl

theorem posted_setControl (name : ControlName) (value : Json) :
    Leaves posted (setControl name value) := leaves_modify fun _ => rfl

theorem posted_offerBranches (name : ControlName) (branches : List Branch) :
    Leaves posted (offerBranches name branches) := leaves_modify fun _ => rfl

theorem posted_remember (key : SelectionKey) (value : Option String) :
    Leaves posted (remember key value) := by
  intro session
  rw [leads_remember]
  split <;> rfl

theorem posted_editPage (edit : Page → Except Url.Fault Page) : Leaves posted (editPage edit) :=
  leaves_editPage fun _ _ => rfl

theorem posted_openUrl (url : String) : Leaves posted (openUrl url) := fun _ => rfl

theorem posted_applyBranches (branches : List Branch) : Leaves posted (applyBranches branches) := by
  unfold applyBranches
  refine (posted_offerBranches _ _).bind fun _ => (posted_offerBranches _ _).bind fun _ => ?_
  refine (leaves_readPage _).bind fun _ => leaves_get_bind fun _ => ?_
  refine (leaves_readPage _).bind fun _ => leaves_get_bind fun _ => ?_
  refine (posted_setControl _ _).bind fun _ => (posted_setControl _ _).bind fun _ => ?_
  exact leaves_modify fun _ => rfl

theorem posted_bindControls : Leaves posted bindControls := by
  intro session
  unfold bindControls
  rw [leads_bind, leads_get]
  dsimp only
  split <;> rfl

theorem posted_pick (side : Side) (name : Option String) : Leaves posted (pick side name) := by
  rw [pick_eq]
  refine leaves_get_bind fun session => ?_
  split
  · exact leaves_pure _
  · have hkeep : ∀ value, Leaves posted (keep side.control side.key value) := fun value =>
      (posted_setControl _ _).bind fun _ => (posted_remember _ _).bind fun _ => posted_editPage _
    refine (hkeep _).bind fun _ => Leaves.bind (fun session => ?_) fun _ => leaves_pure _
    cases side <;> rfl

theorem posted_launch : Leaves posted launch := by
  have hfail : ∀ message, Leaves posted (do fail message; return (none : Option String)) :=
    fun message => (posted_fail message).bind fun _ => leaves_pure _
  unfold launch
  refine posted_clearError.bind fun _ => leaves_get_bind fun session => ?_
  dsimp only
  split
  · refine leaves_get_bind fun session => ?_
    split
    · refine (leaves_compareUrl _ _ _).bind fun url => ?_
      refine Leaves.bind (leaves_modify fun _ => ?_) fun _ => ?_
      · rfl
      · exact (posted_openUrl url).bind fun _ => leaves_pure _
    · exact hfail _
  · exact hfail _

theorem posted_bindToPage : Leaves posted bindToPage := by
  have hlisten : ∀ name, Leaves posted (modify fun session : Session =>
      session.modifyControl name fun control =>
        { control with control := control.control.listen (.redirect name) }) := fun name =>
    leaves_modify fun _ => rfl
  unfold bindToPage
  refine leaves_get_bind fun session => ?_
  dsimp only
  induction session.controls.map (·.1) with
  | nil => exact leaves_pure _
  | cons name names ih =>
    refine Leaves.bind ?_ fun _ => ih
    refine (leaves_readPage _).bind fun given => ?_
    split
    · split
      · exact (posted_setControl _ _).bind fun _ => hlisten name
      · exact hlisten name
    · exact hlisten name

/-! ## Pacing -/

/-- The action of an operation that is inside or not goes through phases of loading, and leaves the
operation inside just if this holds of what it gives.  If it is broken off the operation is
outside. -/
def Paces (inside : Bool) (action : Action α) (still : α → Bool) : Prop :=
  ∀ session, Leads action session (fun value after => session.Paced inside after (still value))
    fun _ after => session.Paced inside after false

section Paces

variable {still : β → Bool}

theorem paces_pure {value : β} (h : still value = inside) : Paces inside (pure value) still := by
  subst h
  exact fun _ => paced_of_posted rfl _

theorem paces_throw (crash : Crash) : Paces false (throw crash) still :=
  fun _ => paced_of_posted rfl false

theorem Paces.bind {action : Action α} (h : Paces inside action fun _ => between)
    {next : α → Action β} (hnext : ∀ value, Paces between (next value) still) :
    Paces inside (action >>= next) still := by
  intro session
  rw [leads_bind]
  refine (h session).mono (fun value after hfirst => ?_) fun _ _ hfirst => hfirst
  exact (hnext value after).mono (fun _ _ h' => hfirst.trans h') fun _ _ h' => hfirst.trans h'

theorem paces_get_bind {next : Session → Action β}
    (hnext : ∀ value, Paces inside (next value) still) : Paces inside (get >>= next) still :=
  fun session => hnext session session

/-- What touches neither the list nor the indicator may be broken off outside only. -/
theorem Leaves.paces {action : Action α} (h : Leaves posted action) :
    Paces false action fun _ => false := fun session =>
  (h session).mono (fun _ _ hsame => paced_of_posted hsame false)
    fun _ _ hsame => paced_of_posted hsame false

/-- A single change of something else. -/
theorem paces_modify_bind {change : Session → Session} {next : PUnit → Action β}
    (h : ∀ session, (change session).posted = session.posted)
    (hnext : Paces inside (next ⟨⟩) still) : Paces inside (modify change >>= next) still := by
  have hchange : Paces inside (modify change : Action PUnit) fun _ => inside :=
    fun session => leads_modify.mpr (paced_of_posted (h session) inside)
  exact hchange.bind fun _ => hnext

theorem paces_enterLoading : Paces false enterLoading fun _ => true :=
  fun session => ⟨rfl, .single (.enters session.indicator)⟩

theorem paces_exitLoading : Paces true exitLoading fun _ => false :=
  fun session => ⟨rfl, .single (.exits session.indicator)⟩

end Paces

/-! ## Loads -/

/-- A choice goes out when its load has ended. -/
theorem paces_endChoice (repo : String) (restoring : Bool) (result : LoadEnd) :
    Paces true (endChoice repo restoring result) Turn.isInside := by
  unfold endChoice
  refine paces_get_bind fun session => ?_
  cases result with
  | ok branches =>
    refine paces_exitLoading.bind fun _ => ?_
    split
    · refine (posted_applyBranches branches).paces.bind fun _ => ?_
      exact paces_modify_bind (fun _ => rfl) (paces_pure rfl)
    · exact paces_pure rfl
  | error error =>
    cases error with
    | unavailable failure =>
      dsimp only
      split
      · refine paces_modify_bind (fun _ => rfl) ?_
        refine paces_modify_bind (fun _ => rfl) ?_
        exact paces_exitLoading.bind fun _ => paces_pure rfl
      · exact paces_exitLoading.bind fun _ => paces_pure rfl
    | crashed crash => exact paces_exitLoading.bind fun _ => paces_throw crash

theorem paces_endComparison (row : ChangeRequest.Row) (preset : Preset) (result : LoadEnd) :
    Paces true (endComparison row preset result) Turn.isInside := by
  unfold endComparison
  cases result with
  | ok branches =>
    refine paces_exitLoading.bind fun _ => (leaves_compareUrl _ _ _).paces.bind fun url => ?_
    exact (posted_openUrl url).paces.bind fun _ => paces_pure rfl
  | error error =>
    cases error with
    | unavailable failure =>
      refine paces_modify_bind (fun _ => rfl) ?_
      exact paces_exitLoading.bind fun _ => paces_pure rfl
    | crashed crash => exact paces_exitLoading.bind fun _ => paces_throw crash

/-- An operation stays inside as long as its load waits. -/
theorem paces_followLoad (purpose : Purpose)
    (outcome : BranchCache × LoadTurn × List CacheSignal) :
    Paces true (followLoad purpose outcome) Turn.isInside := by
  obtain ⟨cache, turn, signals⟩ := outcome
  unfold followLoad
  refine paces_modify_bind (fun _ => rfl) ?_
  cases turn with
  | waits waiting => exact paces_pure rfl
  | ended result =>
    cases purpose with
    | choice repo restoring => exact paces_endChoice repo restoring result
    | comparison row preset => exact paces_endComparison row preset result

theorem paces_beginLoading (task : TaskId) (repo : String) (forced : Bool) (purpose : Purpose) :
    Paces false (beginLoading task repo forced purpose) Turn.isInside :=
  paces_enterLoading.bind fun _ => paces_get_bind fun _ => paces_followLoad purpose _

theorem paces_loadBranches (task : TaskId) (repo : String) (forced restoring : Bool) :
    Paces false (loadBranches task repo forced restoring) Turn.isInside :=
  paces_modify_bind (fun _ => rfl) (paces_beginLoading task repo forced _)

/-! ## Operations -/

theorem paces_selectRepo (task : TaskId) (repo : String) (restoring : Bool) :
    Paces false (selectRepo task repo restoring) Turn.isInside := by
  unfold selectRepo
  refine paces_modify_bind (fun _ => rfl) ?_
  refine (posted_setControl _ _).paces.bind fun _ => (posted_remember _ _).paces.bind fun _ => ?_
  exact (posted_editPage _).paces.bind fun _ => paces_loadBranches task repo false restoring

theorem paces_restore (task : TaskId) : Paces false (restore task) Turn.isInside := by
  unfold restore
  refine posted_bindControls.paces.bind fun _ => (leaves_readPage _).paces.bind fun inUrl => ?_
  refine paces_get_bind fun session => ?_
  split
  · exact paces_selectRepo task _ true
  · exact paces_pure rfl

theorem paces_refresh (task : TaskId) : Paces false (refresh task) Turn.isInside := by
  unfold refresh
  refine paces_get_bind fun session => ?_
  split
  · refine paces_modify_bind (fun _ => rfl) ?_
    exact paces_loadBranches task _ true false
  · exact paces_pure rfl

theorem paces_list (task : TaskId) (owner repo : Option String) :
    Paces false (list task owner repo) Turn.isInside := by
  rw [list_eq]
  refine paces_get_bind fun session => (leaves_orParam _ _ _).paces.bind fun owner => ?_
  refine (leaves_orParam _ _ _).paces.bind fun repo => ?_
  unfold beginListing
  refine paces_modify_bind (fun _ => rfl) ?_
  split
  · exact paces_modify_bind (fun _ => rfl) (paces_pure rfl)
  refine paces_enterLoading.bind fun _ => paces_modify_bind (fun _ => rfl) ?_
  dsimp only
  split
  · exact paces_modify_bind (fun _ => rfl) (paces_pure rfl)
  · exact paces_pure rfl

theorem paces_compare (task : TaskId) (row : ChangeRequest.Row) (repo : Option String) :
    Paces false (compare task row repo) Turn.isInside := by
  have hfail : ∀ message, Paces false (do fail message; return .ended (.launched none))
      Turn.isInside := fun message =>
    paces_modify_bind (fun _ => rfl) (paces_pure rfl)
  have hbegin : ∀ table found,
      Paces false (beginComparison task row table found) Turn.isInside := by
    intro table found
    unfold beginComparison
    split
    · exact paces_beginLoading task _ true _
    · exact hfail _
  rw [compare_eq]
  refine paces_modify_bind (fun _ => rfl) ?_
  split
  · exact hfail _
  refine paces_get_bind fun session => ?_
  split
  · exact (leaves_pure _).paces.bind fun found => hbegin _ found
  · exact (leaves_readPage _).paces.bind fun found => hbegin _ found

/-- The first stretch of an operation. -/
theorem paces_first (task : TaskId) (operation : Operation) :
    Paces false (first task operation) Turn.isInside := by
  cases operation with
  | restore => exact paces_restore task
  | selectRepo repo => exact paces_selectRepo task repo false
  | refresh => exact paces_refresh task
  | list owner repo => exact paces_list task owner repo
  | compare row repo => exact paces_compare task row repo

/-- The end of a listing.  What is listed changes by an answer whose rows can be put in order, and
by nothing else. -/
theorem leads_endListing_listed (session : Session) (owner repo : String)
    (result : CallEnd (List ChangeRequest)) :
    Leads (endListing owner repo result) session
      (fun turn after =>
        Phases (true, session.indicator) (turn.isInside, after.indicator) ∧
        ((∃ requests rows, result = .answer requests ∧ ChangeRequest.Row.build requests = .ok rows ∧
            turn = .ended (.rows rows) ∧
            after.listed = (some repo, rows, ChangeRequest.Row.countHighlighted rows)) ∨
          (∀ requests, result ≠ .answer requests) ∧ after.listed = session.listed))
      fun _ after => Phases (true, session.indicator) (false, after.indicator) ∧
        after.listed = session.listed := by
  have hexits : Phases (true, session.indicator) (false, session.indicator.exit) :=
    .single (.exits session.indicator)
  cases result with
  | answer requests =>
    show Leads (exitLoading >>= fun _ => showRequests repo requests) session _ _
    unfold exitLoading showRequests
    rw [leads_bind, leads_modify]
    split
    · next rows hrows =>
      rw [leads_bind, leads_modifyFlow, leads_pure]
      exact ⟨hexits, .inl ⟨requests, rows, rfl, hrows, rfl, rfl⟩⟩
    · exact ⟨hexits, rfl⟩
  | unavailable failure => exact ⟨hexits, .inr ⟨nofun, rfl⟩⟩
  | outOfTime => exact ⟨hexits, .inr ⟨nofun, rfl⟩⟩
  | crashed crash => exact ⟨hexits, rfl⟩

end Action

/-- The listing of the repository has been answered, and it ends with the rows of the answer. -/
inductive TaskState.Fulfils : TaskState → TaskState → String → List ChangeRequest.Row → Prop where
  | answers {call : BoundedCall (List ChangeRequest)} {requests : List ChangeRequest}
      {rows : List ChangeRequest.Row} (owner repo : String)
      (hwake : call.wake.2.2 = some (.ended (.answer requests)))
      (hrows : ChangeRequest.Row.build requests = .ok rows) :
      Fulfils (.listing call owner repo) (.ended (.value (.rows rows))) repo rows

theorem TaskState.Fulfils.answered {call : BoundedCall (List ChangeRequest)}
    {owner name repo : String} {new : TaskState} {rows : List ChangeRequest.Row}
    (h : Fulfils (.listing call owner name) new repo rows) :
    ∃ requests, call.wake.2.2 = some (.ended (.answer requests)) := by
  cases h with
  | answers _ _ hwake => exact ⟨_, hwake⟩

namespace Session

/-- What is listed after an operation has gone on: the rows of a listing that succeeds, otherwise
what was listed before. -/
def Relists (before after : Session) (old new : TaskState) : Prop :=
  (∃ repo rows, old.Fulfils new repo rows ∧
    after.listed = (some repo, rows, ChangeRequest.Row.countHighlighted rows)) ∨
  (∀ repo rows, ¬ old.Fulfils new repo rows) ∧ after.listed = before.listed

/-- No operation has gone in or out.  Operations may have been put in line. -/
structure Dwells (before after : Session) : Prop where
  posted : after.posted = before.posted
  inside : ∃ begun : Nat, after.tasks.map TaskState.isInside =
    before.tasks.map TaskState.isInside ++ List.replicate begun false

/-- What an event may change of the indicator and the list of change requests: nothing, or what one
operation does that goes on. -/
inductive Advances (before after : Session) : Prop where
  | dwells (h : before.Dwells after)
  | moves {task : TaskId} {old new : TaskState} (hs : before.tasks[task]? = some old)
      (htasks : after.tasks = before.tasks.set task new)
      (hphases : Phases (old.isInside, before.indicator) (new.isInside, after.indicator))
      (hlisted : before.Relists after old new)

variable {before after session : Session} {task : TaskId} {old new : TaskState}
  {call : BoundedCall (List ChangeRequest)} {owner repo : String}

/-! ## Where nothing goes in or out -/

theorem dwells_of_same (hposted : after.posted = before.posted)
    (htasks : after.tasks = before.tasks) : before.Dwells after :=
  ⟨hposted, 0, by rw [htasks, List.replicate_zero, List.append_nil]⟩

theorem Dwells.refl (session : Session) : session.Dwells session := dwells_of_same rfl rfl

theorem Dwells.trans {middle : Session} (h : before.Dwells middle) (h' : middle.Dwells after) :
    before.Dwells after := by
  obtain ⟨first, hfirst⟩ := h.inside
  obtain ⟨second, hsecond⟩ := h'.inside
  refine ⟨h'.posted.trans h.posted, first + second, ?_⟩
  rw [hsecond, hfirst, List.append_assoc, List.replicate_append_replicate]

instance : Std.Refl Dwells := ⟨Dwells.refl⟩

instance : IsTrans Session Dwells := ⟨fun _ _ _ => Dwells.trans⟩

theorem dwells_begin (session : Session) (operation : Operation) :
    session.Dwells (session.begin operation) := by
  refine ⟨rfl, 1, ?_⟩
  show (session.tasks ++ [TaskState.begins operation]).map TaskState.isInside = _
  rw [List.map_append]
  rfl

/-- An operation stands elsewhere, but goes neither in nor out. -/
theorem dwells_set (hs : before.tasks[task]? = some old) (hposted : after.posted = before.posted)
    (htasks : after.tasks = before.tasks.set task new) (hinside : new.isInside = old.isInside) :
    before.Dwells after := by
  obtain ⟨hthere, rfl⟩ := List.getElem?_eq_some_iff.mp hs
  refine ⟨hposted, 0, ?_⟩
  rw [htasks, List.map_set, hinside, ← List.map_set, List.set_getElem_self, List.replicate_zero,
    List.append_nil]

theorem dwells_moveListing (hs : session.tasks[task]? = some (.listing call owner repo))
    (moved : BoundedCall (List ChangeRequest)) (turns : List CallTurn) :
    session.Dwells ((session.setTask task (.listing moved owner repo)).enqueueTurns task turns) :=
  dwells_set hs rfl rfl rfl

theorem dwells_of_leaves {α : Type} {action : Action α} (h : Action.Leaves posted action)
    (htasks : Action.Leaves tasks action) : Action.Tracks Dwells action := fun session =>
  ((h session).and (htasks session)).mono (fun _ _ hsame => dwells_of_same hsame.1 hsame.2)
    fun _ _ hsame => dwells_of_same hsame.1 hsame.2

theorem dwells_change (name : ControlName) (value : Json) :
    Action.Tracks Dwells (Action.change name value) :=
  Action.tracks_change
    (fun side name => dwells_of_leaves (Action.posted_pick side name)
      (Action.beside_pick fixed_tasks.toBeside side name))
    (fun name value => dwells_of_leaves (Action.posted_setControl name value)
      (Action.beside_setControl fixed_tasks.toBeside name value))
    (fun session _ => dwells_begin session _) (fun _ _ => dwells_of_same rfl rfl) name value

theorem dwells_expire (session : Session) (owner : DeadlineOwner) :
    session.Dwells (session.expire owner) := by
  unfold expire
  cases owner with
  | fetch fetch => exact dwells_of_same rfl rfl
  | task task =>
    dsimp only
    split
    · next hs => exact dwells_moveListing hs _ _
    · exact .refl session

theorem dwells_expireAll (session : Session) (owners : List DeadlineOwner) :
    session.Dwells (owners.foldl expire session) := by
  induction owners generalizing session with
  | nil => exact .refl session
  | cons owner owners ih => exact (dwells_expire session owner).trans (ih _)

/-! ## One operation goes on -/

/-- One operation goes on, and the indicator counts it. -/
theorem advances_setTask (hs : session.tasks[task]? = some old)
    (hsame : after.tasks = session.tasks)
    (hphases : Phases (old.isInside, session.indicator) (new.isInside, after.indicator))
    (hlisted : session.Relists after old new) : session.Advances (after.setTask task new) :=
  .moves hs (congrArg (·.set task new) hsame) hphases hlisted

/-- An operation that lists nothing goes on. -/
theorem advances_follow {action : Action Turn} (hs : session.tasks[task]? = some old)
    (hnone : ∀ new repo rows, ¬ old.Fulfils new repo rows) (htasks : Action.Leaves tasks action)
    (h : Action.Paces old.isInside action Turn.isInside) :
    session.Advances (session.follow task action) := by
  have hleads := (htasks session).and (h session)
  refine follow_of_leads (motive := session.Advances) <| hleads.mono ?_ ?_
  · rintro turn after ⟨hsame, hpaced⟩
    exact advances_setTask hs hsame hpaced.phases (.inr ⟨hnone _, hpaced.listed⟩)
  · rintro crash after ⟨hsame, hpaced⟩
    exact advances_setTask hs hsame hpaced.phases (.inr ⟨hnone _, hpaced.listed⟩)

/-- A listing ends.  It has been answered just if the result is an answer. -/
theorem advances_endListing {result : CallEnd (List ChangeRequest)}
    (hs : session.tasks[task]? = some (.listing call owner repo))
    (hanswer : ∀ requests,
      call.wake.2.2 = some (.ended (.answer requests)) ↔ result = .answer requests) :
    session.Advances (session.follow task (Action.endListing owner repo result)) := by
  have htasks := Action.beside_endListing fixed_tasks.toBeside owner repo result session
  have hlisting := Action.leads_endListing_listed session owner repo result
  refine follow_of_leads (motive := session.Advances) <| (htasks.and hlisting).mono ?_ ?_
  · rintro turn after ⟨hsame, hphases, hlisted⟩
    refine advances_setTask hs hsame hphases ?_
    rcases hlisted with ⟨requests, rows, hresult, hrows, rfl, hlisted⟩ | ⟨hother, hlisted⟩
    · exact .inl ⟨repo, rows, .answers owner repo ((hanswer requests).mpr hresult) hrows, hlisted⟩
    · refine .inr ⟨fun name rows hfulfils => ?_, hlisted⟩
      obtain ⟨requests, hwake⟩ := hfulfils.answered
      exact hother requests ((hanswer requests).mp hwake)
  · rintro crash after ⟨hsame, hphases, hlisted⟩
    exact advances_setTask hs hsame hphases (.inr ⟨nofun, hlisted⟩)

/-- By each stretch its operation advances. -/
theorem Stretch.advances {action : Action Turn} (hstretch : session.Stretch task action) :
    session.Advances (session.follow task action) := by
  cases hstretch with
  | begins hs =>
    have htasks := Action.fixed_first fixed_tasks task
    exact advances_follow hs (fun _ _ _ h => by cases h) (htasks _) (Action.paces_first task _)
  | resumes hs =>
    have htasks := Action.fixed_followLoad fixed_tasks
    exact advances_follow hs (fun _ _ _ h => by cases h) (htasks _ _) (Action.paces_followLoad _ _)
  | answers hs hwake =>
    refine advances_endListing hs fun requests => ?_
    rw [hwake, Option.some.injEq, WaitEnd.ended.injEq]
  | expires hs hwake =>
    refine advances_endListing hs fun requests => ?_
    rw [hwake]
    exact ⟨nofun, nofun⟩

/-- A cancelled operation goes out. -/
theorem advances_endCancelled (hs : session.tasks[task]? = some old)
    (hinside : old.isInside = true) : session.Advances (session.endCancelled task) := by
  refine .moves hs rfl ?_ (.inr ⟨nofun, rfl⟩)
  rw [hinside]
  exact .single (.exits session.indicator)

/-- A listing advances when it is woken. -/
theorem advances_wakeListing (hs : session.tasks[task]? = some (.listing call owner repo)) :
    session.Advances (session.wakeListing task call owner repo) := by
  unfold wakeListing
  cases hwake : call.wake with
  | mk moved rest =>
    obtain ⟨turns, ended⟩ := rest
    have hended : call.wake.2.2 = ended := by rw [hwake]
    dsimp only
    split
    · exact .dwells (dwells_moveListing hs moved turns)
    · exact (Stretch.answers hs hended).advances
    · exact (Stretch.expires hs hended).advances
    · exact advances_endCancelled hs rfl

/-! ## Turns and events -/

/-- By the turn of an operation it advances or nobody moves. -/
theorem advances_taskTurn (session : Session) (task : TaskId) :
    session.Advances (session.taskTurn task) := by
  unfold taskTurn
  split
  · next operation hs => exact (Stretch.begins hs).advances
  · next waiting purpose hs => exact (Stretch.resumes hs).advances
  · next waiting purpose hs => exact advances_endCancelled hs rfl
  · next call owner repo hs => exact advances_wakeListing hs
  · exact .dwells (.refl session)

theorem advances_listingTurn (session : Session) (task : TaskId) (turn : CallTurn) :
    session.Advances (session.listingTurn task turn) := by
  unfold listingTurn
  split
  · next call owner repo hs =>
    cases turn with
    | make | takeUp | notify => exact .dwells (dwells_set hs rfl rfl rfl)
    | wake => exact advances_wakeListing hs
  · exact .dwells (.refl session)

/-- Whatever a signal says, at most one operation advances. -/
theorem advances_perform (session : Session) (signal : Signal) :
    session.Advances (session.perform signal) := by
  unfold perform
  split
  · exact advances_taskTurn session _
  · dsimp only
    split <;> exact .dwells (dwells_of_same rfl rfl)
  · exact .dwells (dwells_of_same rfl rfl)
  · exact advances_listingTurn session _ _

theorem Advances.ofLine {place : Nat} (h : (session.without place).Advances after) :
    session.Advances after := by
  cases h with
  | dwells h => exact .dwells ⟨h.posted, h.inside⟩
  | moves hs htasks hphases hlisted => exact .moves hs htasks hphases hlisted

/-- By an event at most one operation goes on. -/
theorem advances_step (session : Session) (event : FlowEvent) :
    session.Advances (session.step event) := by
  cases event with
  | turn place =>
    simp only [step, turn]
    split
    · exact (advances_perform (session.without place) _).ofLine
    · exact .dwells (.refl session)
  | begin operation => exact .dwells (dwells_begin session operation)
  | pick side name =>
    have hpick := dwells_of_leaves (Action.posted_pick side name)
      (Action.beside_pick fixed_tasks.toBeside side name)
    exact .dwells (tracks_run hpick session)
  | launch =>
    have hlaunch := dwells_of_leaves Action.posted_launch
      (Action.beside_launch fixed_tasks.toBeside)
    exact .dwells (tracks_run hlaunch session)
  | change name value => exact .dwells (tracks_run (dwells_change name value) session)
  | answerFetch | setReadyBranches | setReadyPulls => exact .dwells (dwells_of_same rfl rfl)
  | expire owner => exact .dwells (dwells_expire session owner)
  | advance span =>
    have htimed : session.Dwells
        { session with timeline := (session.timeline.advance span).1 } := dwells_of_same rfl rfl
    exact .dwells (htimed.trans (dwells_expireAll _ _))
  | answerListing task result =>
    simp only [step, answerListing]
    split
    · next hs => exact .dwells (dwells_moveListing hs _ _)
    · exact .dwells (.refl session)
  | cancel task =>
    simp only [step, cancel]
    split
    · next waiting purpose cancelled hs => exact .dwells (dwells_set hs rfl rfl rfl)
    · next hs => exact .dwells (dwells_moveListing hs _ _)
    · exact .dwells (.refl session)

theorem dwells_bindToPage (session : Session) :
    session.Dwells (session.run Action.bindToPage).1 :=
  tracks_run (dwells_of_leaves Action.posted_bindToPage
    (Action.beside_bindToPage fixed_tasks.toBeside)) session

/-- In a new session nothing is listed, and the indicator is off. -/
theorem posted_of_make {parts : Parts} (hmake : make parts = .ok session) :
    session.posted = ((none, [], 0), .off) ∧ session.tasks = [] := by
  unfold make at hmake
  dsimp only at hmake
  split at hmake
  · obtain rfl := Except.ok.inj hmake
    exact ⟨rfl, rfl⟩
  · cases hmake

end Session

end BranchCompare
