import BranchCompare.Proofs.Workflow.Choices
import BranchCompare.Proofs.Workflow.Runs
import Mathlib.Data.List.Infix

/-!
# How long a comparison stays launched

A comparison that was launched stays launched until an operation of the choice by hand begins, or
until a load ends that was under way for the selected repository when the comparison was launched
(`launched_until`).  Such a load is not told from one that began later: its end is shown as if
nothing had been launched (`launched_overtaken`).  Loads of other repositories, listings, comparisons
of change requests, picks and changes of controls leave the comparison launched.
-/

namespace BranchCompare

/-- The operation belongs to the choice by hand. -/
def Operation.isByHand : Operation → Bool
  | .restore | .selectRepo _ | .refresh => true
  | .list _ _ | .compare _ _ => false

namespace Session

/-- The comparison by hand stays where it is, and no load for a choice begins. -/
structure Persists (before after : Session) : Prop where
  course : after.course = before.course
  choices : ∀ {task : TaskId} {choice : String × Bool},
    after.tasks[task]?.bind TaskState.choice? = some choice →
    before.tasks[task]?.bind TaskState.choice? = some choice

/-- By this turn an operation of the choice by hand begins, or a load for the choice of the selected
repository ends. -/
def Departs (session : Session) (place : Nat) : Prop :=
  ∃ task, session.line[place]? = some (.cache (.caller task)) ∧
    ((∃ operation, session.tasks[task]? = some (.begins operation) ∧ operation.isByHand = true) ∨
    ∃ waiting repo restoring,
      session.tasks[task]? = some (.loading waiting (.choice repo restoring) false) ∧
      session.flow.repo = some repo ∧
      ∃ result, (session.turn place).tasks[task]? = some (.ended result))

variable {before middle after session : Session} {task : TaskId}

theorem Persists.refl (session : Session) : Persists session session := ⟨rfl, id⟩

theorem Persists.trans (h : Persists before middle) (h' : Persists middle after) :
    Persists before after :=
  ⟨h'.course.trans h.course, fun hchoice => h.choices (h'.choices hchoice)⟩

theorem persists_of_same (hcourse : after.course = before.course)
    (htasks : after.tasks = before.tasks) : Persists before after := by
  refine ⟨hcourse, fun hchoice => ?_⟩
  rwa [htasks] at hchoice

/-- Operations that are put in line to begin wait for nothing yet. -/
theorem persists_of_begins (hcourse : after.course = before.course) {operations : List Operation}
    (htasks : after.tasks = before.tasks ++ operations.map TaskState.begins) :
    Persists before after := by
  refine ⟨hcourse, fun {task choice} hchoice => ?_⟩
  rw [htasks] at hchoice
  by_cases hlt : task < before.tasks.length
  · rwa [List.getElem?_append_left hlt] at hchoice
  · obtain ⟨state, hstate, heq⟩ := Option.bind_eq_some_iff.mp hchoice
    rw [List.getElem?_append_right (Nat.le_of_not_lt hlt)] at hstate
    obtain ⟨operation, -, rfl⟩ := List.mem_map.mp (List.mem_of_getElem? hstate)
    cases heq

/-- Operations that go on leave the comparison where it is if its course stays. -/
theorem Goes.persists {urls : List String} (h : before.Goes after urls)
    (hcourse : after.course = before.course) : Persists before after := by
  obtain ⟨operations, htasks⟩ := h.tasks
  exact persists_of_begins hcourse htasks

/-- An operation comes to stand where it waits for no new choice. -/
theorem persists_setTask {state : TaskState}
    (hstate : ∀ choice, state.choice? = some choice →
      session.tasks[task]?.bind TaskState.choice? = some choice) :
    Persists session (session.setTask task state) := by
  refine ⟨rfl, fun {other choice} hchoice => ?_⟩
  unfold setTask at hchoice
  by_cases heq : other = task
  · subst heq
    rw [List.getElem?_set] at hchoice
    split at hchoice
    · split at hchoice
      · exact hstate choice hchoice
      · cases hchoice
    · exact hchoice
  · rwa [List.getElem?_set_ne (Ne.symm heq)] at hchoice

theorem persists_setTask_of_none {state : TaskState} (hnone : state.choice? = none) :
    Persists session (session.setTask task state) := by
  refine persists_setTask fun choice hchoice => ?_
  rw [hnone] at hchoice
  cases hchoice

section Turns

/-- A stretch that stays aloof leaves the comparison where it is. -/
theorem persists_follow {action : Action Turn} (haloof : Action.Aloof action)
    (hkeeps : Action.Keeps session action) : Persists session (session.follow task action) := by
  rcases follow_cases session task action with
    ⟨given, after, heq, hfollow⟩ | ⟨crash, after, heq, hfollow⟩ <;> rw [hfollow]
  · obtain ⟨hcourse, hnone⟩ := (haloof session).ok heq
    exact ((hkeeps.ok heq).1.persists hcourse).trans (persists_setTask_of_none hnone)
  · exact ((hkeeps.error heq).persists ((haloof session).error heq)).trans
      (persists_setTask_of_none rfl)

/-- A load for a choice goes on: it waits again, or it ends, and then this is shown only for the
selected repository. -/
theorem Sound.persists_followChoice (h : session.Sound) {waiting : Waiting} {repo : String}
    {restoring : Bool}
    (hs : session.tasks[task]? = some (.loading waiting (.choice repo restoring) false)) :
    let next := session.follow task
      (Action.followLoad (.choice repo restoring) (session.cache.resume waiting task))
    Persists session next ∨
      session.flow.repo = some repo ∧ ∃ result, next.tasks[task]? = some (.ended result) := by
  intro next
  obtain ⟨hfits, hpurpose⟩ := h.fits hs
  obtain ⟨hcache, hlater, hallows⟩ := h.cache.resume hfits task
  have hkeeps := Action.keeps_followLoad h hpurpose hcache hlater hallows
  have hleads := Action.leads_followChoice session repo restoring
    (session.cache.resume waiting task)
  have hlt : task < session.tasks.length := (List.getElem?_eq_some_iff.mp hs).1
  -- the operation is still there when it ends, with those behind it that have begun meanwhile
  have hended : ∀ {after : Session} {urls : List String}, session.Goes after urls →
      ∀ result, (after.setTask task (.ended result)).tasks[task]? = some (.ended result) :=
    fun hgoes result => hgoes.tasks_setTask hlt (.ended result)
  have hcourse : ∀ {after : Session}, after.flow = session.flow →
      after.course = session.course := by
    intro after hflow
    rw [course, hflow, course]
  rcases follow_cases session task _ with
    ⟨given, after, heq, hfollow⟩ | ⟨crash, after, heq, hfollow⟩
  · obtain ⟨flow, hcomes, hagrees⟩ := hleads.ok heq
    have hgoes := (hkeeps.ok heq).1
    have hflow : after.flow = flow := hagrees.flow
    cases hturn : (session.cache.resume waiting task).2.1 with
    | waits new =>
      rw [hturn] at hcomes
      obtain ⟨rfl, rfl⟩ := hcomes
      refine .inl ?_
      simp only [next, hfollow]
      refine (hgoes.persists (hcourse hflow)).trans (persists_setTask fun choice hchoice => ?_)
      obtain ⟨operations, htasks⟩ := hgoes.tasks
      rw [htasks, List.getElem?_append_left hlt, hs]
      exact hchoice
    | ended result =>
      rw [hturn] at hcomes
      obtain ⟨⟨value, rfl⟩, hconcludes⟩ := hcomes
      simp only [next, hfollow]
      by_cases hcurrent : session.flow.repo = some repo
      · exact .inr ⟨hcurrent, _, hended hgoes _⟩
      · simp only [Flow.Concludes, if_neg hcurrent] at hconcludes
        exact .inl ((hgoes.persists (hcourse (hflow.trans hconcludes))).trans
          (persists_setTask_of_none rfl))
  · have hgoes := hkeeps.error heq
    simp only [next, hfollow]
    by_cases hcurrent : session.flow.repo = some repo
    · exact .inr ⟨hcurrent, _, hended hgoes _⟩
    · exact .inl ((hgoes.persists (hcourse (hleads.error heq hcurrent))).trans
        (persists_setTask_of_none rfl))

theorem persists_endCancelled (session : Session) (task : TaskId) :
    Persists session (session.endCancelled task) :=
  have hexit : Persists session { session with indicator := session.indicator.exit } :=
    persists_of_same rfl rfl
  hexit.trans (persists_setTask_of_none rfl)

theorem persists_moveListing (session : Session) (task : TaskId)
    (call : BoundedCall (List ChangeRequest)) (owner repo : String) (turns : List CallTurn) :
    Persists session ((session.setTask task (.listing call owner repo)).enqueueTurns task turns) :=
  (persists_setTask_of_none rfl).trans (persists_of_same rfl rfl)

theorem Sound.persists_wakeListing (h : session.Sound) (task : TaskId)
    (call : BoundedCall (List ChangeRequest)) (owner repo : String) :
    Persists session (session.wakeListing task call owner repo) := by
  unfold Session.wakeListing
  rcases call.wake with ⟨moved, turns, ended⟩
  dsimp only
  split
  · exact persists_moveListing ..
  · exact persists_follow (Action.aloof_endListing _ _ _) (Action.keeps_endListing h ..)
  · exact persists_follow (Action.aloof_endListing _ _ _) (Action.keeps_endListing h ..)
  · exact persists_endCancelled session task

theorem Sound.persists_listingTurn (h : session.Sound) (task : TaskId) (turn : CallTurn) :
    Persists session (session.listingTurn task turn) := by
  unfold Session.listingTurn
  split
  · next call owner repo hs =>
    have hrecord : ∀ pulls moved turns, Persists session
        (({ session with pulls := pulls }.setTask task
          (.listing moved owner repo)).enqueueTurns task turns) := by
      intro pulls moved turns
      have hpulls : Persists session { session with pulls := pulls } := persists_of_same rfl rfl
      exact hpulls.trans (persists_moveListing ..)
    cases turn with
    | make | takeUp => exact hrecord ..
    | notify => exact persists_moveListing ..
    | wake => exact h.persists_wakeListing task call owner repo
  · exact .refl session

/-- A turn of an operation that neither begins by hand nor ends the load of the selected
repository. -/
theorem Sound.persists_taskTurn (h : session.Sound) (task : TaskId) :
    Persists session (session.taskTurn task) ∨
    (∃ operation, session.tasks[task]? = some (.begins operation) ∧ operation.isByHand = true) ∨
    ∃ waiting repo restoring,
      session.tasks[task]? = some (.loading waiting (.choice repo restoring) false) ∧
      session.flow.repo = some repo ∧
      ∃ result, (session.taskTurn task).tasks[task]? = some (.ended result) := by
  unfold Session.taskTurn
  split
  · next operation hs =>
    cases operation with
    | restore | selectRepo | refresh => exact .inr (.inl ⟨_, hs, rfl⟩)
    | list owner repo =>
      exact .inl (persists_follow (Action.aloof_list _ _ _) (Action.keeps_list h ..))
    | compare row repo =>
      exact .inl (persists_follow (Action.aloof_compare _ _ _) (Action.keeps_compare h ..))
  · next waiting purpose hs =>
    cases purpose with
    | choice repo restoring =>
      refine (h.persists_followChoice hs).imp_right fun hended => ?_
      exact .inr ⟨waiting, repo, restoring, hs, hended⟩
    | comparison row preset =>
      obtain ⟨hfits, hpurpose⟩ := h.fits hs
      obtain ⟨hcache, hlater, hallows⟩ := h.cache.resume hfits task
      exact .inl (persists_follow (Action.aloof_followLoad _ _ _)
        (Action.keeps_followLoad h hpurpose hcache hlater hallows))
  · exact .inl (persists_endCancelled session task)
  · next call owner repo hs => exact .inl (h.persists_wakeListing task call owner repo)
  · exact .inl (.refl session)

/-- The comparison persists by any turn, unless by this turn it departs. -/
theorem Sound.persists_turn (h : session.Sound) (place : Nat) :
    Persists session (session.turn place) ∨ session.Departs place := by
  unfold Departs
  simp only [Session.turn]
  cases hs : session.line[place]? with
  | none => exact .inl (.refl session)
  | some signal =>
    have hout : Persists session { session with line := session.line.eraseIdx place } :=
      persists_of_same rfl rfl
    have hline := h.takeOut hs
    cases signal with
    | listing task turn =>
      have hsound := (h.setCache hline (.refl _)).sound
      exact .inl (hout.trans (hsound.persists_listingTurn task turn))
    | cache signal =>
      cases signal with
      | caller task =>
        have htail := hline.tail fun fetch => CacheSignal.callTurn?_caller fetch task
        have hsound := (h.setCache htail (.refl _)).sound
        exact (hsound.persists_taskTurn task).imp hout.trans fun hdeparts => ⟨task, rfl, hdeparts⟩
      | start fetch =>
        refine .inl (hout.trans ?_)
        unfold Session.perform
        dsimp only
        split <;> exact persists_of_same rfl rfl
      | turn fetch turn | forget fetch | deliver fetch caller =>
        exact .inl (hout.trans (persists_of_same rfl rfl))

/-! ## Events -/

/-- What the user does otherwise leaves the comparison where it is. -/
theorem persists_run {α : Type} {action : Action α} (hstays : Action.Stays session action)
    (hleaves : Action.Leaves Session.course action) :
    Persists session (session.run action).1 := by
  have hcourse := hleaves session
  unfold Action.Stays Action.Leads at hstays
  unfold Action.Leads at hcourse
  unfold Session.run
  cases hresult : action session <;> rw [hresult] at hstays hcourse <;>
    exact hstays.persists hcourse

theorem persists_expire (session : Session) (owner : DeadlineOwner) :
    Persists session (session.expire owner) := by
  unfold expire
  cases owner with
  | fetch fetch => exact persists_of_same rfl rfl
  | task task =>
    dsimp only
    split
    · exact persists_moveListing ..
    · exact .refl session

theorem persists_expireAll (session : Session) (owners : List DeadlineOwner) :
    Persists session (owners.foldl expire session) := by
  induction owners generalizing session with
  | nil => exact .refl session
  | cons owner owners ih => exact (persists_expire session owner).trans (ih _)

/-- Without branches that are ready nothing is launched. -/
theorem course_launch (hstage : session.flow.stage ≠ .branchesReady) :
    Action.Leads Action.launch session (fun _ after => after.course = session.course)
      fun _ after => after.course = session.course := by
  unfold Action.launch Action.clearError
  rw [Action.leads_bind, Action.leads_modifyFlow, Action.leads_bind, Action.leads_get]
  dsimp only
  split
  · next hready _ _ => exact absurd hready hstage
  · rfl

theorem Sound.persists_launch (h : session.Sound) (hstage : session.flow.stage ≠ .branchesReady) :
    Persists session (session.run Action.launch).1 := by
  have hlaunch := Action.leads_launch h
  have hcourse := course_launch hstage
  unfold Action.Leads at hlaunch hcourse
  unfold Session.run
  cases hresult : Action.launch session with
  | ok given after =>
    rw [hresult] at hlaunch hcourse
    exact hlaunch.1.persists hcourse
  | error crash after =>
    rw [hresult] at hlaunch hcourse
    exact hlaunch.persists hcourse

/-- By an event a comparison stays launched, unless the event is a turn of the kind described. -/
theorem Sound.persists_step (h : session.Sound) (hstage : session.flow.stage = .launching)
    (event : FlowEvent) :
    Persists session (session.step event) ∨
      ∃ place, event = .turn place ∧ session.Departs place := by
  cases event with
  | begin operation => exact .inl ((h.begin operation).persists rfl)
  | turn place =>
    exact (h.persists_turn place).imp_right fun hdeparts => ⟨place, rfl, hdeparts⟩
  | pick side name =>
    exact .inl (persists_run (Action.stays_pick h side name) (Action.course_pick side name))
  | launch => exact .inl (h.persists_launch (by rw [hstage]; decide))
  | change name value =>
    exact .inl (persists_run (Action.stays_change h name value) (Action.course_change name value))
  | answerFetch fetch result => exact .inl (persists_of_same rfl rfl)
  | answerListing task result =>
    refine .inl ?_
    simp only [Session.step, Session.answerListing]
    split
    · exact persists_moveListing ..
    · exact .refl session
  | expire owner => exact .inl (persists_expire session owner)
  | advance span =>
    have htimed : Persists session
        { session with timeline := (session.timeline.advance span).1 } := persists_of_same rfl rfl
    exact .inl (htimed.trans (persists_expireAll _ _))
  | cancel task =>
    refine .inl ?_
    simp only [Session.step, Session.cancel]
    split
    · next waiting purpose cancelled _ =>
      exact (persists_setTask_of_none (TaskState.choice?_cancelled waiting purpose)).trans
        (persists_of_same rfl rfl)
    · exact persists_moveListing ..
    · exact .refl session
  | setReadyBranches key reply => exact .inl (persists_of_same rfl rfl)
  | setReadyPulls key reply => exact .inl (persists_of_same rfl rfl)

/-- A comparison stays launched up to the first turn of the kind described. -/
theorem Sound.persists_after (h : session.Sound) (hstage : session.flow.stage = .launching)
    (events : List FlowEvent) :
    Persists session (session.after events) ∨
    ∃ earlier place later, events = earlier ++ .turn place :: later ∧
      Persists session (session.after earlier) ∧ (session.after earlier).Departs place := by
  induction events generalizing session with
  | nil => exact .inl (.refl session)
  | cons event events ih =>
    rcases h.persists_step hstage event with hfirst | ⟨place, rfl, hdeparts⟩
    · have hnext : (session.step event).flow.stage = .launching :=
        (congrArg Prod.fst hfirst.course).trans hstage
      rcases ih (h.step event).sound hnext with
        hrest | ⟨earlier, place, later, rfl, hrest, hdeparts⟩
      · exact .inl (hfirst.trans hrest)
      · exact .inr ⟨event :: earlier, place, later, rfl, hfirst.trans hrest, hdeparts⟩
    · exact .inr ⟨[], place, events, rfl, .refl session, hdeparts⟩

end Turns

/-- A comparison that was launched stays so, with its repository, up to the first turn by which an
operation of the choice by hand begins, or by which a load of this repository ends that waited already
when the comparison was launched. -/
theorem launched_until {parts : Parts} {session : Session} (hmake : make parts = .ok session)
    {limit : Seconds} {ready : List (String × Reply)} (hcache : parts.cache = .fresh limit ready)
    (events more : List FlowEvent)
    (hlaunched : (session.after events).flow.stage = .launching) :
    let launched := session.after events
    (launched.after more).course = launched.course ∨
    ∃ earlier place later task, more = earlier ++ .turn place :: later ∧
      let moment := launched.after earlier
      moment.course = launched.course ∧ moment.line[place]? = some (.cache (.caller task)) ∧
      ((∃ operation, moment.tasks[task]? = some (.begins operation) ∧
          operation.isByHand = true) ∨
        ∃ waiting old repo restoring,
          moment.tasks[task]? = some (.loading waiting (.choice repo restoring) false) ∧
          launched.tasks[task]? = some (.loading old (.choice repo restoring) false) ∧
          launched.flow.repo = some repo ∧
          ∃ result, (moment.turn place).tasks[task]? = some (.ended result)) := by
  intro launched
  have hsound : launched.Sound := ((sound_of_make hmake hcache).1.after events).sound
  rcases hsound.persists_after hlaunched more with
    hkept | ⟨earlier, place, later, rfl, hkept, task, hline, hdeparts⟩
  · exact .inl hkept.course
  · refine .inr ⟨earlier, place, later, task, rfl, hkept.course, hline, ?_⟩
    refine hdeparts.imp_right ?_
    rintro ⟨waiting, repo, restoring, hs, hrepo, hended⟩
    -- a load that waits at this moment has waited since the launch
    have hchoice : launched.tasks[task]?.bind TaskState.choice? = some (repo, restoring) := by
      refine hkept.choices ?_
      rw [hs]
      rfl
    obtain ⟨state, hstate, hchoice⟩ := Option.bind_eq_some_iff.mp hchoice
    have hsame : launched.flow.repo = some repo := by
      rw [← hrepo]
      exact (congrArg Prod.snd hkept.course).symm
    obtain ⟨old, rfl⟩ := TaskState.choice?_eq_some hchoice
    exact ⟨waiting, old, repo, restoring, hs, hstate, hsame, hended⟩

/-- A repository is selected and refreshed, its branches come in, and the comparison of two of them is
launched while the refresh waits for its own fetch. -/
def launchedEarly : List FlowEvent :=
  [.begin (.selectRepo "polkadot"), .turn 0, .turn 0, .turn 0, .begin .refresh, .turn 0,
    .answerFetch 0 (.answer [⟨"master", "a1"⟩, ⟨"gav-xcm", "b2"⟩])] ++
    List.replicate 10 (.turn 0) ++ [.launch]

/-- The fetch of the refresh fails. -/
def lateAnswer : List FlowEvent :=
  .answerFetch 1 (.unavailable ⟨"polkadot", "down"⟩) :: List.replicate 6 (.turn 0)

/-- The refresh that began before the launch takes the comparison back to the repository. -/
theorem launched_overtaken : ∃ session, make standardParts = .ok session ∧
    (session.after launchedEarly).course = (.launching, some "polkadot") ∧
    (∀ state ∈ (session.after launchedEarly).tasks, ∀ operation, state ≠ .begins operation) ∧
    ((session.after launchedEarly).after lateAnswer).course =
      (.repoSelected, some "polkadot") := by
  have hcourse : ((make standardParts).toOption.any fun session =>
      (session.after launchedEarly).course = (.launching, some "polkadot") ∧
      (session.after launchedEarly).tasks.all (fun state => match state with
        | .begins _ => false
        | _ => true) = true ∧
      ((session.after launchedEarly).after lateAnswer).course =
        (.repoSelected, some "polkadot")) = true := by decide +kernel
  cases hmake : make standardParts with
  | error missing =>
    rw [hmake] at hcourse
    cases hcourse
  | ok session =>
    simp only [hmake, Except.toOption, Option.any_some, decide_eq_true_eq] at hcourse
    obtain ⟨hbefore, htasks, hafter⟩ := hcourse
    refine ⟨session, rfl, hbefore, fun state hmem operation heq => ?_, hafter⟩
    have hnot := List.all_eq_true.mp htasks state hmem
    rw [heq] at hnot
    cases hnot

/-- It is the refresh, which waited when the comparison was launched, whose end takes it back. -/
theorem launched_until_lateAnswer : ∃ session, make standardParts = .ok session ∧
    let launched := session.after launchedEarly
    ∃ earlier place later, ∃ task : TaskId, lateAnswer = earlier ++ .turn place :: later ∧
      let moment := launched.after earlier
      moment.course = (.launching, some "polkadot") ∧
      ∃ waiting old restoring result,
        moment.tasks[task]? = some (.loading waiting (.choice "polkadot" restoring) false) ∧
        launched.tasks[task]? = some (.loading old (.choice "polkadot" restoring) false) ∧
        (moment.turn place).tasks[task]? = some (.ended result) := by
  have hrun : ((make standardParts).toOption.any fun session =>
      let launched := session.after launchedEarly
      launched.course = (.launching, some "polkadot") ∧
      (launched.after lateAnswer).course ≠ (.launching, some "polkadot") ∧
      ∀ earlier ∈ lateAnswer.inits, ∀ state ∈ (launched.after earlier).tasks,
        state.choice?.isSome ∨ state.isOver) = true := by decide +kernel
  obtain ⟨session, hmake, hchecks⟩ := exists_make_of_any hrun
  obtain ⟨hbefore, hafter, hnobegins⟩ := of_decide_eq_true hchecks
  have hcache : standardParts.cache = .fresh (.whole 30) [] := rfl
  obtain ⟨hstage, hpolkadot⟩ : (session.after launchedEarly).flow.stage = .launching ∧
      (session.after launchedEarly).flow.repo = some "polkadot" := by
    rwa [course, Prod.mk.injEq] at hbefore
  rcases launched_until hmake hcache launchedEarly lateAnswer hstage with
    hkept | ⟨earlier, place, later, task, heq, hmoment, -, hbegins | hended⟩
  · exact absurd (hkept.trans hbefore) hafter
  · -- the select is over and the refresh waits, so that nothing is to begin
    obtain ⟨operation, hs, -⟩ := hbegins
    have hprefix : earlier ∈ lateAnswer.inits := (List.mem_inits ..).mpr ⟨_, heq.symm⟩
    rcases hnobegins earlier hprefix _ (List.mem_of_getElem? hs) with hchoice | hover
    · cases hchoice
    · cases hover
  · obtain ⟨waiting, old, repo, restoring, hs, hold, hrepo, result, hresult⟩ := hended
    obtain rfl := Option.some.inj (hrepo.symm.trans hpolkadot)
    exact ⟨session, hmake, earlier, place, later, task, heq, hmoment.trans hbefore,
      waiting, old, restoring, result, hs, hold, hresult⟩

end Session

end BranchCompare
