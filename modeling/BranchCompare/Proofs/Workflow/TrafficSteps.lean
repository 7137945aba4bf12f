import BranchCompare.Proofs.Workflow.Traffic

/-!
# What happens in a session to its loads

Whatever happens in a session is made of steps of its traffic (`traffic_step`): what is shown, the
controls, the page and the store stand beside it, and a stretch of an operation takes over what the
cache did for its load, or loads nothing (`Begins`, `leads_followLoad_traffic`).  So the traffic of
every session that can be reached is sound (`Reachable.sound_traffic`).
-/

namespace BranchCompare

namespace Session

def traffic (session : Session) : Traffic := ⟨session.cache, session.cacheLine, session.tasks⟩

theorem beside_traffic : Beside traffic :=
  ⟨fun _ _ => rfl, fun _ _ _ => rfl, fun _ _ => rfl, fun _ _ _ => rfl, fun _ _ => rfl,
    fun _ _ _ _ => rfl⟩

/-- The traffic of the second session comes from that of the first by steps. -/
def Travels (before after : Session) : Prop := before.traffic.Steps after.traffic

instance : Std.Refl Travels := ⟨fun _ => .refl⟩

instance : IsTrans Session Travels := ⟨fun _ _ _ h h' => h.trans h'⟩

end Session

/-- An operation has begun: it has loaded branches, or it waits for none. -/
inductive Traffic.Starts (traffic : Traffic) (task : TaskId) (state : TaskState) :
    Traffic → Prop where
  | loads {repo : String} {forced : Bool} {purpose : Purpose}
      (hstate : (traffic.cache.load repo forced task).2.1.Brings purpose state) :
      Starts traffic task state (traffic.takeLoad (traffic.cache.load repo forced task))
  | parts (hstate : state.isAside = true) : Starts traffic task state traffic

namespace Action

open BranchCompare.Session (beside_traffic)

variable {α : Type} {task : TaskId}

/-! ## Stretches of operations -/

/-- The action leaves the traffic as it is, and its operation waits for no branches after it. -/
def Parts (action : Action Turn) : Prop :=
  ∀ session, Leads action session
    (fun turn after => after.traffic = session.traffic ∧ turn.state.isAside = true)
    fun _ after => after.traffic = session.traffic

/-- The action is the first stretch of an operation. -/
def Begins (task : TaskId) (action : Action Turn) : Prop :=
  ∀ session, Leads action session
    (fun turn after => session.traffic.Starts task turn.state after.traffic)
    fun crash after => session.traffic.Starts task (.ended (.crashed crash)) after.traffic

theorem Parts.bind {action : Action α} (h : Leaves Session.traffic action) {next : α → Action Turn}
    (hnext : ∀ value, Parts (next value)) : Parts (action >>= next) := by
  intro session
  rw [leads_bind]
  refine (h session).mono (fun value after hsame => ?_) fun _ _ hsame => hsame
  exact (hnext value after).mono (fun _ _ h' => ⟨h'.1.trans hsame, h'.2⟩)
    fun _ _ h' => h'.trans hsame

theorem parts_get_bind {next : Session → Action Turn} (hnext : ∀ value, Parts (next value)) :
    Parts (get >>= next) := fun session => hnext session session

theorem parts_pure {turn : Turn} (h : turn.state.isAside = true) : Parts (pure turn) :=
  fun _ => ⟨rfl, h⟩

theorem parts_throw (crash : Crash) : Parts (throw crash) := fun _ => rfl

/-- What parts from the traffic may be a first stretch. -/
theorem Parts.begins {action : Action Turn} (h : Parts action) : Begins task action :=
  fun session => (h session).mono (fun _ _ h' => h'.1 ▸ .parts h'.2) fun _ _ h' => h' ▸ .parts rfl

theorem Begins.bind {action : Action α} (h : Leaves Session.traffic action)
    {next : α → Action Turn} (hnext : ∀ value, Begins task (next value)) :
    Begins task (action >>= next) := by
  intro session
  rw [leads_bind]
  refine (h session).mono (fun value after hsame => ?_) fun _ _ hsame => hsame ▸ .parts rfl
  rw [← hsame]
  exact hnext value after

theorem begins_get_bind {next : Session → Action Turn} (hnext : ∀ value, Begins task (next value)) :
    Begins task (get >>= next) := fun session => hnext session session

theorem parts_endChoice (repo : String) (restoring : Bool) (result : LoadEnd) :
    Parts (endChoice repo restoring result) := by
  unfold endChoice
  refine parts_get_bind fun session => ?_
  cases result with
  | ok branches =>
    refine .bind (beside_exitLoading beside_traffic) fun _ => ?_
    split
    · refine .bind (beside_applyBranches beside_traffic branches) fun _ => ?_
      exact .bind (beside_modifyFlow beside_traffic _) fun _ => parts_pure rfl
    · exact parts_pure rfl
  | error error =>
    cases error with
    | unavailable failure =>
      dsimp only
      split
      · refine .bind (beside_modifyFlow beside_traffic _) fun _ => ?_
        refine .bind (beside_modifyFlow beside_traffic _) fun _ => ?_
        exact .bind (beside_exitLoading beside_traffic) fun _ => parts_pure rfl
      · exact .bind (beside_exitLoading beside_traffic) fun _ => parts_pure rfl
    | crashed crash => exact .bind (beside_exitLoading beside_traffic) fun _ => parts_throw crash

theorem parts_endComparison (row : ChangeRequest.Row) (preset : Preset) (result : LoadEnd) :
    Parts (endComparison row preset result) := by
  unfold endComparison
  cases result with
  | ok branches =>
    refine .bind (beside_exitLoading beside_traffic) fun _ => ?_
    refine .bind (leaves_compareUrl _ _ _) fun url => ?_
    exact .bind (beside_openUrl beside_traffic url) fun _ => parts_pure rfl
  | error error =>
    cases error with
    | unavailable failure =>
      refine .bind (beside_modifyFlow beside_traffic _) fun _ => ?_
      exact .bind (beside_exitLoading beside_traffic) fun _ => parts_pure rfl
    | crashed crash => exact .bind (beside_exitLoading beside_traffic) fun _ => parts_throw crash

/-- An operation whose load has ended waits for branches no more. -/
theorem parts_endLoading (purpose : Purpose) (result : LoadEnd) :
    Parts (endLoading purpose result) := by
  cases purpose with
  | choice repo restoring => exact parts_endChoice repo restoring result
  | comparison row preset => exact parts_endComparison row preset result

theorem parts_list (task : TaskId) (owner repo : Option String) : Parts (list task owner repo) := by
  have hfail : ∀ message, Parts (do fail message; return .ended (.rows [])) := fun message =>
    .bind (beside_modifyFlow beside_traffic _) fun _ => parts_pure rfl
  rw [list_eq]
  refine parts_get_bind fun session => ?_
  refine .bind (leaves_orParam _ _ _) fun owner => .bind (leaves_orParam _ _ _) fun repo => ?_
  unfold beginListing
  refine .bind (beside_modifyFlow beside_traffic _) fun _ => ?_
  split
  · exact hfail _
  refine .bind (beside_enterLoading beside_traffic) fun _ => ?_
  -- the call for a listing is in line, but not for the cache
  have henqueue : Leaves Session.traffic
      (modify fun session => session.enqueue [.listing task .make] : Action PUnit) := by
    refine leaves_modify fun session => ?_
    unfold Session.traffic Session.cacheLine Session.enqueue
    rw [List.filterMap_append]
    exact congrArg (Traffic.mk _ · _) (List.append_nil _)
  refine .bind henqueue fun _ => ?_
  dsimp only
  split
  · refine .bind (leaves_modify fun session => ?_) fun _ => parts_pure rfl
    exact beside_traffic.waits session session.indicator _
  · exact parts_pure rfl

theorem parts_endListing (owner repo : String) (result : CallEnd (List ChangeRequest)) :
    Parts (endListing owner repo result) := by
  have hbadly : ∀ message, Parts (endListingBadly message) := fun message =>
    .bind (beside_modifyFlow beside_traffic _) fun _ =>
      .bind (beside_exitLoading beside_traffic) fun _ => parts_pure rfl
  cases result with
  | answer requests =>
    refine .bind (beside_exitLoading beside_traffic) fun _ => ?_
    unfold showRequests
    split
    · exact .bind (beside_modifyFlow beside_traffic _) fun _ => parts_pure rfl
    · exact parts_throw _
  | unavailable failure => exact hbadly failure.message
  | outOfTime => exact hbadly _
  | crashed crash => exact .bind (beside_exitLoading beside_traffic) fun _ => parts_throw crash

/-- The action takes over what the cache did for a load. -/
theorem leads_followLoad_traffic (session : Session) (purpose : Purpose)
    (outcome : BranchCache × LoadTurn × List CacheSignal) :
    Leads (followLoad purpose outcome) session
      (fun turn after => after.traffic = session.traffic.takeLoad outcome ∧
        outcome.2.1.Brings purpose turn.state)
      fun crash after => after.traffic = session.traffic.takeLoad outcome ∧
        outcome.2.1.Brings purpose (.ended (.crashed crash)) := by
  obtain ⟨cache, turn, signals⟩ := outcome
  have htaken : (({ session with cache := cache }).enqueue (signals.map .cache)).traffic =
      session.traffic.takeLoad (cache, turn, signals) :=
    congrArg (Traffic.mk _ · _) (Session.cacheLine_append_cache session.line signals)
  unfold followLoad
  rw [leads_bind, leads_modify]
  cases turn with
  | waits waiting => exact ⟨htaken, rfl⟩
  | ended result =>
    exact (parts_endLoading purpose result _).mono
      (fun _ _ h' => ⟨h'.1.trans htaken, h'.2⟩) fun _ _ h' => ⟨h'.trans htaken, rfl⟩

/-- An operation may begin by loading branches. -/
theorem begins_beginLoading (task : TaskId) (repo : String) (forced : Bool) (purpose : Purpose) :
    Begins task (beginLoading task repo forced purpose) := by
  refine .bind (beside_enterLoading beside_traffic) fun _ session => ?_
  rw [leads_bind, leads_get]
  exact (leads_followLoad_traffic session purpose _).mono
    (fun _ _ ⟨htaken, hbrings⟩ => htaken ▸ .loads hbrings)
    fun _ _ ⟨htaken, hbrings⟩ => htaken ▸ .loads hbrings

theorem begins_loadBranches (task : TaskId) (repo : String) (forced restoring : Bool) :
    Begins task (loadBranches task repo forced restoring) :=
  .bind (beside_modifyFlow beside_traffic _) fun _ => begins_beginLoading task repo forced _

theorem begins_selectRepo (task : TaskId) (repo : String) (restoring : Bool) :
    Begins task (selectRepo task repo restoring) := by
  unfold selectRepo
  refine .bind (beside_modifyFlow beside_traffic _) fun _ => ?_
  refine .bind (beside_setControl beside_traffic _ _) fun _ => ?_
  refine .bind (beside_remember beside_traffic _ _) fun _ => ?_
  refine .bind (beside_editPage beside_traffic _) fun _ => ?_
  exact begins_loadBranches task repo false restoring

theorem begins_compare (task : TaskId) (row : ChangeRequest.Row) (repo : Option String) :
    Begins task (compare task row repo) := by
  have hfail : ∀ message, Begins task (do fail message; return .ended (.launched none)) :=
    fun message => .bind (beside_modifyFlow beside_traffic _) fun _ => (parts_pure rfl).begins
  have hbegin : ∀ table found, Begins task (beginComparison task row table found) := by
    intro table found
    unfold beginComparison
    split
    · exact begins_beginLoading task _ true _
    · exact hfail _
  rw [compare_eq]
  refine .bind (beside_modifyFlow beside_traffic _) fun _ => ?_
  split
  · exact hfail _
  refine begins_get_bind fun session => ?_
  split
  · exact .bind (leaves_pure _) fun found => hbegin _ found
  · exact .bind (leaves_readPage _) fun found => hbegin _ found

/-- What becomes of the traffic by the first stretch of an operation. -/
theorem begins_first (task : TaskId) (operation : Operation) :
    Begins task (first task operation) := by
  cases operation with
  | restore =>
    refine .bind (beside_bindControls beside_traffic) fun _ => ?_
    refine .bind (leaves_readPage _) fun inUrl => begins_get_bind fun session => ?_
    split
    · exact begins_selectRepo task _ true
    · exact (parts_pure rfl).begins
  | selectRepo repo => exact begins_selectRepo task repo false
  | refresh =>
    refine begins_get_bind fun session => ?_
    split
    · refine .bind (beside_modifyFlow beside_traffic _) fun _ => ?_
      exact begins_loadBranches task _ true false
    · exact (parts_pure rfl).begins
  | list owner repo => exact (parts_list task owner repo).begins
  | compare row repo => exact begins_compare task row repo

end Action

namespace Session

open Traffic (Step)

variable {session : Session} {task : TaskId} {call : BoundedCall (List ChangeRequest)}
  {owner repo : String}

/-! ## Turns -/

/-- By its first turn an operation comes to wait, or is aside. -/
theorem turned_begins {operation : Operation}
    (hs : session.tasks[task]? = some (.begins operation)) :
    session.traffic.Turned task (session.follow task (Action.first task operation)).traffic := by
  have hbegins := Action.begins_first task operation session
  have hstarts : ∀ {state : TaskState} {after : Session},
      session.traffic.Starts task state after.traffic →
      session.traffic.Turned task (after.setTask task state).traffic := by
    intro state after hstarts
    show session.traffic.Turned task (after.traffic.setTask task state)
    generalize after.traffic = moved at hstarts ⊢
    cases hstarts with
    | loads hstate => exact .loads hs hstate
    | parts hstate => exact .parts hs hstate
  exact follow_of_leads (motive := fun after => session.traffic.Turned task after.traffic)
    (hbegins.mono (fun _ _ => hstarts) fun _ _ => hstarts)

/-- By a later turn it waits again, or is aside. -/
theorem turned_resumes {waiting : Waiting} {purpose : Purpose}
    (hs : session.tasks[task]? = some (.loading waiting purpose false)) :
    session.traffic.Turned task (session.follow task
      (Action.followLoad purpose (session.cache.resume waiting task))).traffic := by
  have hleads := Action.leads_followLoad_traffic session purpose
    (session.cache.resume waiting task)
  have hturned : ∀ {state : TaskState} {after : Session},
      after.traffic = session.traffic.takeLoad (session.cache.resume waiting task) ∧
        (session.cache.resume waiting task).2.1.Brings purpose state →
      session.traffic.Turned task (after.setTask task state).traffic := by
    rintro state after ⟨htaken, hbrings⟩
    show session.traffic.Turned task (after.traffic.setTask task state)
    rw [htaken]
    exact .resumes hs hbrings
  exact follow_of_leads (motive := fun after => session.traffic.Turned task after.traffic)
    (hleads.mono (fun _ _ => hturned) fun _ _ => hturned)

theorem traffic_withCache (session : Session) (outcome : BranchCache × List CacheSignal) :
    (session.withCache outcome).traffic = session.traffic.take outcome :=
  congrArg (Traffic.mk _ · _) (cacheLine_append_cache session.line outcome.2)

/-- A listing puts turns of its operation in line, and tells the cache nothing. -/
theorem traffic_enqueueTurns (session : Session) (task : TaskId) (turns : List CallTurn) :
    (session.enqueueTurns task turns).traffic = session.traffic.take
      (session.cache, List.replicate (turns.count .wake) (.caller task)) := by
  have hline : (session.enqueueTurns task turns).cacheLine =
      session.cacheLine ++ List.replicate (turns.count .wake) (.caller task) := by
    unfold cacheLine enqueueTurns enqueue
    rw [List.filterMap_append]
    congr 1
    induction turns with
    | nil => rfl
    | cons turn turns ih =>
      rw [List.map_cons, List.filterMap_cons, ih, List.count_cons]
      cases turn <;> rfl
  exact congrArg (Traffic.mk _ · _) hline

section Listing

variable (hs : session.tasks[task]? = some (.listing call owner repo))
include hs

/-- A listing comes further. -/
theorem travels_listing {state : TaskState} (hstate : state.isAside = true)
    (turns : List CallTurn) :
    session.Travels ((session.setTask task state).enqueueTurns task turns) := by
  have hstep := Step.listens (turns.count .wake) (show session.traffic.tasks[task]? = _ from hs)
    rfl hstate
  have htraffic := traffic_enqueueTurns (session.setTask task state) task turns
  exact .single (htraffic ▸ hstep)

/-- A listing ends. -/
theorem travels_setTask {after : Session} {state : TaskState} (hstate : state.isAside = true)
    (hafter : after.traffic = session.traffic.setTask task state) : session.Travels after := by
  have hstep := Step.listens 0 (show session.traffic.tasks[task]? = _ from hs) rfl hstate
  refine .single ?_
  rw [hafter]
  rwa [List.replicate_zero, Traffic.take, List.append_nil] at hstep

theorem travels_endListing {action : Action Turn} (h : Action.Parts action) :
    session.Travels (session.follow task action) := by
  refine follow_of_leads (motive := session.Travels) ((h session).mono ?_ ?_)
  · rintro turn after ⟨hsame, haside⟩
    exact travels_setTask hs haside (congrArg (·.setTask task turn.state) hsame)
  · intro crash after hsame
    exact travels_setTask hs rfl (congrArg (·.setTask task (.ended (.crashed crash))) hsame)

/-- A listing that is woken is aside before and after. -/
theorem travels_wakeListing : session.Travels (session.wakeListing task call owner repo) := by
  unfold wakeListing
  rcases call.wake with ⟨moved, turns, ended⟩
  dsimp only
  split
  · exact travels_listing hs rfl turns
  · exact travels_endListing hs (Action.parts_endListing owner repo _)
  · exact travels_endListing hs (Action.parts_endListing owner repo _)
  · exact travels_setTask hs rfl rfl

end Listing

theorem travels_listingTurn (session : Session) (task : TaskId) (turn : CallTurn) :
    session.Travels (session.listingTurn task turn) := by
  unfold listingTurn
  split
  · next call owner repo hs =>
    have hrecorded : ∀ (pulls : Remote PullsCall) moved turns, session.Travels
        (({ session with pulls := pulls }.setTask task
          (.listing moved owner repo)).enqueueTurns task turns) := fun pulls moved turns =>
      have hpulls : { session with pulls := pulls }.tasks[task]? =
          some (.listing call owner repo) := hs
      travels_listing hpulls rfl turns
    cases turn with
    | make | takeUp => exact hrecorded _ _ _
    | notify => exact travels_listing hs rfl _
    | wake => exact travels_wakeListing hs
  · exact .refl

/-- What becomes of the traffic by a turn of an operation. -/
theorem turned_taskTurn (session : Session) (task : TaskId) :
    ∃ turned, session.traffic.Turned task turned ∧
      turned.Steps (session.taskTurn task).traffic := by
  unfold taskTurn
  split
  · next operation hs => exact ⟨_, turned_begins hs, .refl⟩
  · next waiting purpose hs => exact ⟨_, turned_resumes hs, .refl⟩
  · next waiting purpose hs => exact ⟨_, .leaves hs, .refl⟩
  · next call owner repo hs =>
    refine ⟨session.traffic, .rests fun state hstate => ?_, travels_wakeListing hs⟩
    obtain rfl := Option.some.inj (hs.symm.trans hstate)
    rfl
  · next hbegins hloads hleaves hlists =>
    refine ⟨session.traffic, .rests fun state hstate => ?_, .refl⟩
    cases state with
    | begins operation => exact absurd hstate (hbegins operation)
    | loading waiting purpose cancelled =>
      cases cancelled with
      | false => exact absurd hstate (hloads waiting purpose)
      | true => exact absurd hstate (hleaves waiting purpose)
    | listing | ended => rfl

/-- By any turn the traffic goes by steps. -/
theorem travels_turn (session : Session) (place : Nat) : session.Travels (session.turn place) := by
  unfold Session.turn
  cases hs : session.line[place]? with
  | none => exact .refl
  | some signal =>
    have hperm := cacheLine_perm hs
    cases signal with
    | listing task turn =>
      have hline : (session.line.eraseIdx place).filterMap Signal.cache? = session.cacheLine :=
        cacheLine_eraseIdx hs rfl
      have htravels := travels_listingTurn (session.without place) task turn
      have hsame : (session.without place).traffic = session.traffic :=
        congrArg (Traffic.mk _ · _) hline
      show session.traffic.Steps _
      rw [← hsame]
      exact htravels
    | cache signal =>
      have hperforms : ∀ {after : Session}, (∀ task, signal ≠ .caller task) →
          after.traffic = ((session.without place).withCache
            (session.cache.perform signal)).traffic → session.Travels after := by
        intro after hsignal hafter
        refine .single ?_
        rw [hafter, traffic_withCache]
        exact .performs hperm hsignal
      cases signal with
      | caller task =>
        obtain ⟨turned, hturned, hsteps⟩ := turned_taskTurn (session.without place) task
        exact .head (.turns hperm hturned) hsteps
      | start fetch =>
        refine hperforms nofun ?_
        unfold perform
        dsimp only
        split <;> rfl
      | turn | forget | deliver => exact hperforms nofun rfl

/-! ## Events -/

theorem travels_withCache {outcome : BranchCache × List CacheSignal}
    (h : session.traffic.Step (session.traffic.take outcome)) :
    session.Travels (session.withCache outcome) :=
  .single ((traffic_withCache session outcome).symm ▸ h)

theorem travels_expire (session : Session) (owner : DeadlineOwner) :
    session.Travels (session.expire owner) := by
  unfold expire
  cases owner with
  | fetch fetch => exact travels_withCache (.expires fetch)
  | task task =>
    dsimp only
    split
    · next hs => exact travels_listing hs rfl _
    · exact .refl

theorem travels_expireAll (session : Session) (owners : List DeadlineOwner) :
    session.Travels (owners.foldl expire session) := by
  induction owners generalizing session with
  | nil => exact .refl
  | cons owner owners ih => exact (travels_expire session owner).trans (ih _)

theorem travels_begin (session : Session) (operation : Operation) :
    session.Travels (session.begin operation) := by
  have hbegun : (session.begin operation).traffic = { session.traffic with
      tasks := session.tasks ++ [.begins operation]
      line := session.cacheLine ++ [.caller session.tasks.length] } :=
    congrArg (Traffic.mk _ · _) (cacheLine_begin session operation)
  exact .single (hbegun ▸ .begins operation)

theorem travels_cancel (session : Session) (task : TaskId) :
    session.Travels ((session.cancel task).getD session) := by
  unfold cancel
  split
  · next waiting purpose cancelled hs =>
    refine .single ?_
    rw [Option.getD_some, traffic_withCache]
    exact .abandons hs
  · next hs => exact travels_listing hs rfl _
  · exact .refl

theorem travels_of_eq {after : Session} (h : after.traffic = session.traffic) :
    session.Travels after := by
  show session.traffic.Steps after.traffic
  rw [h]

theorem travels_of_leaves {α : Type} {action : Action α} (h : Action.Leaves traffic action) :
    Action.Tracks Travels action := fun session =>
  (h session).mono (fun _ _ => travels_of_eq) fun _ _ => travels_of_eq

theorem travels_change (name : ControlName) (value : Json) :
    Action.Tracks Travels (Action.change name value) :=
  Action.tracks_change
    (fun side name => travels_of_leaves (Action.beside_pick beside_traffic side name))
    (fun name value => travels_of_leaves (Action.beside_setControl beside_traffic name value))
    (fun session repo => travels_begin session (.selectRepo repo)) (fun _ _ => .refl) name value

/-- Whatever happens in a session is made of steps of its traffic. -/
theorem traffic_step (session : Session) (event : FlowEvent) :
    session.traffic.Steps (session.step event).traffic := by
  cases event with
  | begin operation => exact travels_begin session operation
  | turn place => exact travels_turn session place
  | pick side name =>
    exact tracks_run (travels_of_leaves (Action.beside_pick beside_traffic side name)) session
  | launch => exact tracks_run (travels_of_leaves (Action.beside_launch beside_traffic)) session
  | change name value => exact tracks_run (travels_change name value) session
  | answerFetch fetch result => exact travels_withCache (.answers fetch result)
  | answerListing task result =>
    simp only [step, answerListing]
    split
    · next hs => exact travels_listing hs rfl _
    · exact .refl
  | expire owner => exact travels_expire session owner
  | advance span =>
    exact travels_expireAll { session with timeline := (session.timeline.advance span).1 } _
  | cancel task => exact travels_cancel session task
  | setReadyBranches key reply => exact .single (.serves _)
  | setReadyPulls key reply => exact .refl

variable {parts : Parts}

/-- In a new session there is no traffic. -/
theorem traffic_of_make (hmake : make parts = .ok session) :
    session.traffic = ⟨parts.cache, [], []⟩ := by
  unfold make at hmake
  dsimp only at hmake
  split at hmake
  · obtain rfl := Except.ok.inj hmake
    rfl
  · cases hmake

/-- In every session of a fresh cache that can be reached no operation that waits is forgotten. -/
theorem Reachable.sound_traffic (h : Reachable parts session) {limit : Seconds}
    {ready : List (String × Reply)} (hcache : parts.cache = .fresh limit ready) :
    session.traffic.Sound := by
  induction h with
  | made hmake =>
    rw [traffic_of_make hmake, hcache]
    exact Traffic.sound_fresh limit ready
  | step _ event ih => exact (ih.steps (traffic_step _ event)).sound
  | binds _ ih =>
    have htravels := travels_of_leaves (Action.beside_bindToPage beside_traffic)
    exact (ih.steps (tracks_run htravels _)).sound
  | leads _ page ih => exact ih

end Session

end BranchCompare
