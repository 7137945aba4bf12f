import BranchCompare.Proofs.Workflow.ViewChanges
import BranchCompare.Proofs.Workflow.ViewOperations

/-!
# Stretches of operations

What is shown changes by a pick, a change of a control, a launch, or a stretch of an operation
(`Session.Stretch`): its beginning, what it does after a turn of the load that it waits for, and the
end of its listing.  By anything else operations at most drift, and the session is `Still`
(`turn_cases`, `still_step`).  `moves_step` says what an event changes of a tidy view.
-/

namespace BranchCompare

/-- Where an operation stands after a turn that is no stretch of it: it may have been cancelled, and
a listing may have come a step further. -/
inductive TaskState.Drifts : TaskState → TaskState → Prop where
  | same (state : TaskState) : Drifts state state
  | cancels (waiting : Waiting) (purpose : Purpose) (cancelled : Bool) :
      Drifts (.loading waiting purpose cancelled) (.loading waiting purpose true)
  | leaves (waiting : Waiting) (purpose : Purpose) (cancelled : Bool) :
      Drifts (.loading waiting purpose cancelled) (.ended .cancelled)
  | listens (call moved : BoundedCall (List ChangeRequest)) (owner repo : String) :
      Drifts (.listing call owner repo) (.listing moved owner repo)
  | stops (call : BoundedCall (List ChangeRequest)) (owner repo : String) :
      Drifts (.listing call owner repo) (.ended .cancelled)

theorem TaskState.Drifts.trans {first second third : TaskState} (h : first.Drifts second)
    (h' : second.Drifts third) : first.Drifts third := by
  cases h with
  | same => exact h'
  | cancels waiting purpose cancelled =>
    cases h' with
    | same | cancels => exact .cancels waiting purpose cancelled
    | leaves => exact .leaves waiting purpose cancelled
  | leaves waiting purpose cancelled =>
    cases h' with
    | same => exact .leaves waiting purpose cancelled
  | listens call moved owner repo =>
    cases h' with
    | same => exact .listens call moved owner repo
    | listens _ moved => exact .listens call moved owner repo
    | stops => exact .stops call owner repo
  | stops call owner repo =>
    cases h' with
    | same => exact .stops call owner repo

/-- The event is none that an operation or the user acts by. -/
def FlowEvent.isStill : FlowEvent → Bool
  | .begin _ | .turn _ | .pick .. | .launch | .change .. => false
  | _ => true

namespace Session

/-- Operations may have drifted, and nothing has changed that they show. -/
structure Still (before after : Session) : Prop where
  seen : after.seen = before.seen
  length : after.tasks.length = before.tasks.length
  drifts : ∀ {task : TaskId} {old : TaskState}, before.tasks[task]? = some old →
    ∃ new, after.tasks[task]? = some new ∧ old.Drifts new

def without (session : Session) (place : Nat) : Session :=
  { session with line := session.line.eraseIdx place }

/-- The operation goes on by the action. -/
inductive Stretch (session : Session) (task : TaskId) : Action Turn → Prop where
  | begins {operation : Operation} (hs : session.tasks[task]? = some (.begins operation)) :
      Stretch session task (Action.first task operation)
  | resumes {waiting : Waiting} {purpose : Purpose}
      (hs : session.tasks[task]? = some (.loading waiting purpose false)) :
      Stretch session task (Action.followLoad purpose (session.cache.resume waiting task))
  | answers {call : BoundedCall (List ChangeRequest)} {owner repo : String}
      {result : CallEnd (List ChangeRequest)}
      (hs : session.tasks[task]? = some (.listing call owner repo))
      (hwake : call.wake.2.2 = some (.ended result)) :
      Stretch session task (Action.endListing owner repo result)
  | expires {call : BoundedCall (List ChangeRequest)} {owner repo : String}
      (hs : session.tasks[task]? = some (.listing call owner repo))
      (hwake : call.wake.2.2 = some (.stopped .timeLimit)) :
      Stretch session task (Action.endListing owner repo .outOfTime)

/-! ## Parts of a session -/

section Part

variable {α γ : Type} {part : Session → γ} {shows : γ → Prop} {session : Session}

/-- A part of the session after an action that the user has done. -/
theorem part_run {action : Action α}
    (h : Action.Leads action session (fun _ after => shows (part after))
      fun _ after => shows (part after)) : shows (part (session.run action).1) := by
  unfold Action.Leads at h
  unfold run
  cases hresult : action session <;> rw [hresult] at h <;> exact h

/-- How the session is related to the one after an action that the user has done. -/
theorem tracks_run {rel : Session → Session → Prop} {action : Action α}
    (h : Action.Tracks rel action) (session : Session) : rel session (session.run action).1 :=
  @part_run _ _ id (rel session) _ _ (h session)

/-- A part of the session after a stretch of an operation, where the operation stands apart. -/
theorem part_follow {action : Action Turn} (task : TaskId)
    (hpart : ∀ (session : Session) state, part (session.setTask task state) = part session)
    (h : Action.Leads action session (fun _ after => shows (part after))
      fun _ after => shows (part after)) : shows (part (session.follow task action)) := by
  refine follow_of_leads (motive := fun after => shows (part after)) ?_
  simpa only [hpart] using h

end Part

section Still

variable {before middle after session : Session} {task : TaskId} {old new : TaskState}
  {call : BoundedCall (List ChangeRequest)} {owner repo : String}

theorem still_of_same (hseen : after.seen = before.seen) (htasks : after.tasks = before.tasks) :
    before.Still after :=
  ⟨hseen, congrArg _ htasks, fun {_ old} hs => ⟨old, htasks ▸ hs, .same old⟩⟩

theorem Still.refl (session : Session) : session.Still session := still_of_same rfl rfl

theorem Still.trans (h : before.Still middle) (h' : middle.Still after) : before.Still after := by
  refine ⟨h'.seen.trans h.seen, h'.length.trans h.length, fun hs => ?_⟩
  obtain ⟨state, hmiddle, hfirst⟩ := h.drifts hs
  obtain ⟨new, hafter, hsecond⟩ := h'.drifts hmiddle
  exact ⟨new, hafter, hfirst.trans hsecond⟩

/-- One operation may drift. -/
theorem still_set (hs : before.tasks[task]? = some old) (hdrifts : old.Drifts new)
    (hseen : after.seen = before.seen) (htasks : after.tasks = before.tasks.set task new) :
    before.Still after := by
  refine ⟨hseen, by rw [htasks, List.length_set], fun {other state} hother => ?_⟩
  rw [htasks]
  by_cases heq : other = task
  · subst heq
    obtain rfl := Option.some.inj (hs.symm.trans hother)
    exact ⟨new, List.getElem?_set_self (List.getElem?_eq_some_iff.mp hs).1, hdrifts⟩
  · exact ⟨state, (List.getElem?_set_ne (Ne.symm heq)).trans hother, .same state⟩

theorem still_moveListing (hs : session.tasks[task]? = some (.listing call owner repo))
    (moved : BoundedCall (List ChangeRequest)) (turns : List CallTurn) :
    session.Still ((session.setTask task (.listing moved owner repo)).enqueueTurns task turns) :=
  still_set hs (.listens call moved owner repo) rfl rfl

/-! ## Turns -/

/-- A listing that is woken is still, or it goes on by a stretch. -/
theorem wakeListing_cases (hs : session.tasks[task]? = some (.listing call owner repo)) :
    session.Still (session.wakeListing task call owner repo) ∨
    ∃ action, session.Stretch task action ∧
      session.wakeListing task call owner repo = session.follow task action := by
  unfold wakeListing
  cases hwake : call.wake with
  | mk moved rest =>
    obtain ⟨turns, ended⟩ := rest
    have hended : call.wake.2.2 = ended := by rw [hwake]
    dsimp only
    split
    · exact .inl (still_moveListing hs moved turns)
    · exact .inr ⟨_, .answers hs hended, rfl⟩
    · exact .inr ⟨_, .expires hs hended, rfl⟩
    · exact .inl (still_set hs (.stops call owner repo) rfl rfl)

theorem listingTurn_cases (session : Session) (task : TaskId) (turn : CallTurn) :
    session.Still (session.listingTurn task turn) ∨
    ∃ action, session.Stretch task action ∧
      session.listingTurn task turn = session.follow task action := by
  unfold listingTurn
  split
  · next call owner repo hs =>
    cases turn with
    | make | takeUp => exact .inl (still_set hs (.listens call _ owner repo) rfl rfl)
    | notify => exact .inl (still_moveListing hs _ _)
    | wake => exact wakeListing_cases hs
  · exact .inl (.refl session)

/-- An operation that has its turn is still, or it goes on by a stretch. -/
theorem taskTurn_cases (session : Session) (task : TaskId) :
    session.Still (session.taskTurn task) ∨
    ∃ action, session.Stretch task action ∧ session.taskTurn task = session.follow task action := by
  unfold taskTurn
  split
  · next operation hs => exact .inr ⟨_, .begins hs, rfl⟩
  · next waiting purpose hs => exact .inr ⟨_, .resumes hs, rfl⟩
  · next waiting purpose hs => exact .inl (still_set hs (.leaves waiting purpose true) rfl rfl)
  · next call owner repo hs => exact wakeListing_cases hs
  · exact .inl (.refl session)

/-- The signal tells the operation to go on. -/
def Calls (task : TaskId) (signal : Signal) : Prop :=
  signal = .cache (.caller task) ∨ ∃ turn, signal = .listing task turn

/-- By a turn an operation goes on, or the session is still.  The signal that had the turn is out of
the line before. -/
theorem turn_cases (session : Session) (place : Nat) :
    session.Still (session.turn place) ∨
    ∃ signal task action, session.line[place]? = some signal ∧ Calls task signal ∧
      (session.without place).Stretch task action ∧
      session.turn place = (session.without place).follow task action := by
  unfold Session.turn
  split
  · next signal hsignal =>
    have hout : ∀ {after : Session}, (session.without place).Still after → session.Still after :=
      fun h => ⟨h.seen, h.length, h.drifts⟩
    cases signal with
    | listing task turn =>
      exact (listingTurn_cases (session.without place) task turn).imp hout
        fun ⟨action, h⟩ => ⟨_, task, action, hsignal, .inr ⟨turn, rfl⟩, h⟩
    | cache signal =>
      cases signal with
      | caller task =>
        exact (taskTurn_cases (session.without place) task).imp hout
          fun ⟨action, h⟩ => ⟨_, task, action, hsignal, .inl rfl, h⟩
      | start fetch =>
        refine .inl ?_
        unfold perform
        dsimp only
        split <;> exact still_of_same rfl rfl
      | turn | forget | deliver => exact .inl (still_of_same rfl rfl)
  · exact .inl (.refl session)

/-- A turn of an operation. -/
theorem turn_caller {place : Nat} (hline : session.line[place]? = some (.cache (.caller task))) :
    session.turn place = (session.without place).taskTurn task := by
  unfold Session.turn
  rw [hline]
  rfl

/-- An operation that lists nothing has no turns of a listing. -/
theorem turn_notListing {place : Nat} {turn : CallTurn}
    (hline : session.line[place]? = some (.listing task turn))
    (hs : ∀ call owner repo, session.tasks[task]? ≠ some (.listing call owner repo)) :
    session.turn place = session.without place := by
  unfold Session.turn
  rw [hline]
  show (session.without place).listingTurn task turn = _
  unfold listingTurn
  split
  · next call owner repo hlisting => exact absurd hlisting (hs call owner repo)
  · rfl

/-! ## Other events -/

theorem still_expire (session : Session) (owner : DeadlineOwner) :
    session.Still (session.expire owner) := by
  unfold expire
  cases owner with
  | fetch fetch => exact still_of_same rfl rfl
  | task task =>
    dsimp only
    split
    · next hs => exact still_moveListing hs _ _
    · exact .refl session

theorem still_expireAll (session : Session) (owners : List DeadlineOwner) :
    session.Still (owners.foldl expire session) := by
  induction owners generalizing session with
  | nil => exact .refl session
  | cons owner owners ih => exact (still_expire session owner).trans (ih _)

/-- An event by which nobody acts leaves all still. -/
theorem still_step (session : Session) {event : FlowEvent} (h : event.isStill = true) :
    session.Still (session.step event) := by
  cases event with
  | begin | turn | pick | launch | change => cases h
  | answerFetch | setReadyBranches | setReadyPulls => exact still_of_same rfl rfl
  | expire owner => exact still_expire session owner
  | advance span =>
    have htimed : session.Still
        { session with timeline := (session.timeline.advance span).1 } := still_of_same rfl rfl
    exact htimed.trans (still_expireAll _ _)
  | answerListing task result =>
    simp only [step, answerListing]
    split
    · next hs => exact still_moveListing hs _ _
    · exact .refl session
  | cancel task =>
    simp only [step, cancel]
    split
    · next waiting purpose cancelled hs =>
      exact still_set hs (.cancels waiting purpose cancelled) rfl rfl
    · next hs => exact still_moveListing hs _ _
    · exact .refl session

end Still

/-! ## One operation -/

section Operation

variable {session : Session} {task : TaskId} {old : TaskState}

/-- The signal that has its turn may be taken out of the line. -/
theorem Sound.without (h : session.Sound) {place : Nat} {signal : Signal}
    (hsignal : session.line[place]? = some signal) (hcalls : Calls task signal) :
    (session.without place).Sound := by
  have hline := h.takeOut hsignal
  rcases hcalls with rfl | ⟨turn, rfl⟩
  · have htail := hline.tail fun fetch => CacheSignal.callTurn?_caller fetch task
    exact (h.setCache htail (.refl _)).sound
  · exact (h.setCache hline (.refl _)).sound

theorem Stretch.keeps {action : Action Turn} (hstretch : session.Stretch task action)
    (h : session.Sound) : Action.Keeps session action := by
  cases hstretch with
  | begins hs => exact Action.keeps_first h task _
  | resumes hs =>
    obtain ⟨hfits, hpurpose⟩ := h.fits hs
    obtain ⟨hcache, hlater, hallows⟩ := h.cache.resume hfits task
    exact Action.keeps_followLoad h hpurpose hcache hlater hallows
  | answers hs hwake => exact Action.keeps_endListing h _ _ _
  | expires hs hwake => exact Action.keeps_endListing h _ _ _

/-- An operation that is to begin goes on by its first stretch. -/
theorem Stretch.of_begins {action : Action Turn} {operation : Operation}
    (hstretch : session.Stretch task action)
    (hs : session.tasks[task]? = some (.begins operation)) :
    action = Action.first task operation := by
  cases hstretch with
  | begins hbegins =>
    obtain rfl := TaskState.begins.inj (Option.some.inj (hs.symm.trans hbegins))
    rfl
  | resumes hother => cases hs.symm.trans hother
  | answers hother => cases hs.symm.trans hother
  | expires hother => cases hs.symm.trans hother

theorem drifts_of_goes {after : Session} {urls : List String} (h : session.Goes after urls)
    (hs : session.tasks[task]? = some old) :
    ∃ new, after.tasks[task]? = some new ∧ old.Drifts new := by
  obtain ⟨operations, htasks⟩ := h.tasks
  refine ⟨old, ?_, .same old⟩
  rw [htasks, List.getElem?_append_left (List.getElem?_eq_some_iff.mp hs).1]
  exact hs

/-- After a stretch the operation stands where the stretch leaves it. -/
theorem state_follow {action : Action Turn} (hkeeps : Action.Keeps session action)
    (hthere : task < session.tasks.length) {ends : Turn → Session → Prop}
    {breaks : Crash → Session → Prop} (h : Action.Leads action session ends breaks) :
    (∃ turn after, ends turn after ∧ session.follow task action = after.setTask task turn.state ∧
      (session.follow task action).tasks[task]? = some turn.state) ∨
    ∃ crash after, breaks crash after ∧
      session.follow task action = after.setTask task (.ended (.crashed crash)) ∧
      (session.follow task action).tasks[task]? = some (.ended (.crashed crash)) := by
  rcases follow_cases session task action with
    ⟨turn, after, heq, hfollow⟩ | ⟨crash, after, heq, hfollow⟩
  · have hends := h.ok heq
    have hgoes := (hkeeps.ok heq).1
    exact .inl ⟨turn, after, hends, hfollow, hfollow ▸ hgoes.tasks_setTask hthere _⟩
  · have hbreaks := h.error heq
    have hgoes : session.Goes after [] := hkeeps.error heq
    exact .inr ⟨crash, after, hbreaks, hfollow, hfollow ▸ hgoes.tasks_setTask hthere _⟩

/-- By a stretch of one operation the others drift. -/
theorem Stretch.others {other : TaskId} {action : Action Turn}
    (hstretch : session.Stretch other action) (h : session.Sound) (hne : other ≠ task)
    (hs : session.tasks[task]? = some old) :
    ∃ new, (session.follow other action).tasks[task]? = some new ∧ old.Drifts new := by
  have hkeeps := hstretch.keeps h
  have hset : ∀ (after : Session) (state : TaskState),
      (∃ new, after.tasks[task]? = some new ∧ old.Drifts new) →
      ∃ new, (after.setTask other state).tasks[task]? = some new ∧ old.Drifts new :=
    fun after state ⟨new, hnew, hdrifts⟩ => ⟨new, (List.getElem?_set_ne hne).trans hnew, hdrifts⟩
  refine follow_of_leads
    (motive := fun after => ∃ new, after.tasks[task]? = some new ∧ old.Drifts new) ?_
  exact hkeeps.mono (fun _ _ h => hset _ _ (drifts_of_goes h.1 hs))
    fun _ _ hgoes => hset _ _ (drifts_of_goes hgoes hs)

/-- By what the user does all operations drift. -/
theorem drifts_run {α : Type} {action : Action α} (h : Action.Stays session action)
    (hs : session.tasks[task]? = some old) :
    ∃ new, (session.run action).1.tasks[task]? = some new ∧ old.Drifts new :=
  @part_run _ _ tasks (fun tasks => ∃ new, tasks[task]? = some new ∧ old.Drifts new) _ _
    (h.mono (fun _ _ hgoes => drifts_of_goes hgoes hs) fun _ _ hgoes => drifts_of_goes hgoes hs)

/-- By an event an operation drifts, or it goes on by a stretch of its own. -/
theorem Sound.task_step (h : session.Sound) (hs : session.tasks[task]? = some old)
    (event : FlowEvent) :
    (∃ new, (session.step event).tasks[task]? = some new ∧ old.Drifts new) ∨
    ∃ place action, event = .turn place ∧ (session.without place).Sound ∧
      (session.without place).Stretch task action ∧
      session.step event = (session.without place).follow task action := by
  cases event with
  | begin operation => exact .inl (drifts_of_goes (h.begin operation) hs)
  | turn place =>
    rcases turn_cases session place with
      hstill | ⟨signal, other, action, hsignal, hcalls, hstretch, hturn⟩
    · exact .inl (hstill.drifts hs)
    · have hsound := h.without hsignal hcalls
      by_cases heq : other = task
      · subst heq
        exact .inr ⟨place, action, rfl, hsound, hstretch, hturn⟩
      · simp only [Session.step, hturn]
        exact .inl (hstretch.others hsound heq hs)
  | pick side name => exact .inl (drifts_run (Action.stays_pick h side name) hs)
  | change name value => exact .inl (drifts_run (Action.stays_change h name value) hs)
  | launch =>
    have hlaunch := (Action.leads_launch h).mono (fun _ _ hgoes => drifts_of_goes hgoes.1 hs)
      fun _ _ hgoes => drifts_of_goes hgoes hs
    exact .inl (@part_run _ _ tasks (fun tasks => ∃ new, tasks[task]? = some new ∧ old.Drifts new) _ _
      hlaunch)
  | answerFetch | answerListing | expire | advance | cancel | setReadyBranches | setReadyPulls =>
    exact .inl ((still_step session rfl).drifts hs)

end Operation

end Session

/-! ## What is shown after an event -/

/-- What an event changes of a view. -/
def View.Moves (before : View) (event : FlowEvent) (after : View) : Prop :=
  match event with
  | .pick side name => after = before ∨ before.Picks side (Action.nonEmpty name) after
  | .change name value => before.Changes name value after
  | _ => before.Goes after

namespace Session

variable {session : Session} {task : TaskId}

theorem Still.view {after : Session} (h : session.Still after) : after.view = session.view :=
  congrArg Prod.fst h.seen

/-- By a stretch the view goes by steps. -/
theorem Stretch.goes {action : Action Turn} (h : session.Stretch task action)
    (htidy : session.view.Tidy) : session.view.Goes (session.follow task action).view := by
  have hlisting : ∀ owner repo result,
      session.view.Goes (session.follow task (Action.endListing owner repo result)).view := by
    intro owner repo result
    have hview := Action.view_endListing owner repo result session
    exact @part_follow _ view session.view.Goes _ _ task (fun _ _ => rfl)
      (hview.mono (fun _ _ h => h ▸ .refl) fun _ _ h => h ▸ .refl)
  have htends : ∀ {action : Action Turn}, Action.Tends action →
      session.view.Goes (session.follow task action).view := fun h =>
    @part_follow _ view session.view.Goes _ _ task (fun _ _ => rfl)
      ((h session).mono (fun _ _ h => h.goes htidy) fun _ _ h => h.goes htidy)
  cases h with
  | begins hs => exact htends (Action.tends_first task _)
  | resumes hs => exact htends (Action.tends_followLoad _ _)
  | answers hs hwake => exact hlisting _ _ _
  | expires hs hwake => exact hlisting _ _ _

/-- By any turn the view goes by steps. -/
theorem goes_turn (h : session.view.Tidy) (place : Nat) :
    session.view.Goes (session.turn place).view := by
  rcases turn_cases session place with hstill | ⟨_, task, action, -, -, hstretch, hturn⟩
  · rw [hstill.view]
    exact .refl
  · rw [hturn]
    exact hstretch.goes h

theorem of_run {α : Type} {action : Action α} {ends : α → Session → Prop}
    (h : Action.Leads action session ends fun _ _ => False) :
    ∃ value, (session.run action).2 = .ok value ∧ ends value (session.run action).1 := by
  unfold Action.Leads at h
  unfold run
  cases hresult : action session with
  | ok value after =>
    rw [hresult] at h
    exact ⟨value, rfl, h⟩
  | error crash after =>
    rw [hresult] at h
    exact h.elim

/-- By any event the view moves in the way of the event. -/
theorem moves_step (h : session.view.Tidy) (event : FlowEvent) :
    session.view.Moves event (session.step event).view := by
  cases event with
  | turn place => exact goes_turn h place
  | pick side name =>
    obtain ⟨given, -, hpicked⟩ := of_run (Action.leads_pick_view h side name)
    cases given with
    | true => exact .inr hpicked.1
    | false => exact .inl (congrArg Session.view hpicked.1)
  | change name value =>
    obtain ⟨-, -, hchanges, -⟩ := of_run (Action.leads_change_view h name value)
    exact hchanges
  | launch =>
    exact @part_run _ _ view session.view.Goes _ _
      ((Action.tends_launch session).mono (fun _ _ h' => h'.goes h) fun _ _ h' => h'.goes h)
  | begin operation => exact .refl
  | answerFetch | answerListing | expire | advance | cancel | setReadyBranches | setReadyPulls =>
    show session.view.Goes _
    rw [(still_step session rfl).view]
    exact .refl

end Session

namespace View

variable {before after : View} {event : FlowEvent}

theorem Changes.tidy {name : ControlName} {value : Json} (h : before.Changes name value after)
    (htidy : before.Tidy) : after.Tidy := by
  cases h with
  | picks _ _ hpicks => exact hpicks.tidy (htidy.set name value)
  | stays _ => exact htidy.set name value

theorem Moves.tidy (h : before.Moves event after) (htidy : before.Tidy) : after.Tidy := by
  cases event with
  | pick side name =>
    rcases h with rfl | hpicks
    · exact htidy
    · exact hpicks.tidy htidy
  | change name value => exact Changes.tidy h htidy
  | _ => exact Goes.tidy h htidy

end View

namespace Session

variable {session : Session}

theorem tidy_after (h : session.view.Tidy) (events : List FlowEvent) :
    (session.after events).view.Tidy := by
  induction events generalizing session with
  | nil => exact h
  | cons event events ih => exact ih ((moves_step h event).tidy h)

theorem lookup_fresh (controls : List (ControlName × Bool)) (name : ControlName) :
    (controls.map fun (name, hasOptions) => (name, (⟨.empty, hasOptions⟩ : FlowControl))).lookup
      name = (controls.lookup name).map fun hasOptions => ⟨.empty, hasOptions⟩ := by
  induction controls with
  | nil => rfl
  | cons entry rest ih =>
    rw [List.map_cons, List.lookup_cons, List.lookup_cons]
    cases name == entry.1 with
    | true => rfl
    | false => exact ih

/-- A new session is tidy if its store can be written and its page has a well-formed URL. -/
theorem tidy_of_make {parts : Parts} (hmake : make parts = .ok session)
    (hwritable : parts.document ≠ .directory) (hpage : Url.WellFormed parts.page.url) :
    session.view.Tidy := by
  unfold make at hmake
  dsimp only at hmake
  split at hmake
  · next hmissing =>
    obtain rfl := Except.ok.inj hmake
    refine ⟨hwritable, hpage, fun name => ?_, fun name hname => ?_⟩
    · simp only [view, control?, lookup_fresh, Option.map_map]
      cases parts.controls.lookup name <;> rfl
    · have hthere := List.filter_eq_nil_iff.mp (List.isEmpty_iff.mp hmissing) name hname
      rw [Bool.not_eq_true, Option.isNone_eq_false_iff] at hthere
      simp only [view, control?, lookup_fresh, Option.map_map, Option.isSome_map]
      exact hthere
  · cases hmake

end Session

end BranchCompare
