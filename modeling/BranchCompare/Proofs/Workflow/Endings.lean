import BranchCompare.Proofs.Workflow.Launching

/-!
# Operations that have ended

An operation that has ended stays so, whatever happens in the session (`Sound.lasts_after`).  So a
crash of an operation is still seen when all operations have returned.
-/

namespace BranchCompare

namespace Session

/-- The operations that had ended have ended in the same way. -/
structure Lasts (before after : Session) : Prop where
  ended : ∀ {task : TaskId} {result : OperationEnd}, before.tasks[task]? = some (.ended result) →
    after.tasks[task]? = some (.ended result)

variable {before middle after session : Session} {task : TaskId} {old : TaskState}

theorem Lasts.refl (session : Session) : Lasts session session := ⟨id⟩

theorem Lasts.trans (h : Lasts before middle) (h' : Lasts middle after) : Lasts before after :=
  ⟨fun hended => h'.ended (h.ended hended)⟩

theorem lasts_of_same (htasks : after.tasks = before.tasks) : Lasts before after := by
  refine ⟨fun hended => ?_⟩
  rwa [htasks]

theorem Goes.lasts {urls : List String} (h : before.Goes after urls) : Lasts before after := by
  refine ⟨fun hended => ?_⟩
  obtain ⟨operations, htasks⟩ := h.tasks
  rw [htasks, List.getElem?_append_left (List.getElem?_eq_some_iff.mp hended).1]
  exact hended

/-- An operation moves that had not ended. -/
theorem Lasts.set (h : Lasts before middle) (hs : before.tasks[task]? = some old)
    (hopen : old.isOver = false) {state : TaskState}
    (htasks : after.tasks = middle.tasks.set task state) : Lasts before after := by
  refine ⟨fun {other result} hended => ?_⟩
  rw [htasks]
  by_cases heq : other = task
  · subst heq
    obtain rfl := Option.some.inj (hs.symm.trans hended)
    cases hopen
  · rw [List.getElem?_set_ne (Ne.symm heq)]
    exact h.ended hended

/-- A stretch of one operation leaves the ends of the others alone. -/
theorem lasts_follow {action : Action Turn} (hs : session.tasks[task]? = some old)
    (hopen : old.isOver = false) (hkeeps : Action.Keeps session action) :
    Lasts session (session.follow task action) :=
  follow_of_leads (motive := Lasts session) <| hkeeps.mono
    (fun _ _ ⟨hgoes, _⟩ => hgoes.lasts.set hs hopen rfl)
    fun _ _ hgoes => hgoes.lasts.set hs hopen rfl

theorem lasts_endCancelled (hs : session.tasks[task]? = some old) (hopen : old.isOver = false) :
    Lasts session (session.endCancelled task) := (Lasts.refl session).set hs hopen rfl

variable {call : BoundedCall (List ChangeRequest)} {owner repo : String}

theorem lasts_moveListing (hs : session.tasks[task]? = some (.listing call owner repo))
    (moved : BoundedCall (List ChangeRequest)) (turns : List CallTurn) :
    Lasts session ((session.setTask task (.listing moved owner repo)).enqueueTurns task turns) :=
  (Lasts.refl session).set hs rfl rfl

theorem Sound.lasts_wakeListing (h : session.Sound)
    (hs : session.tasks[task]? = some (.listing call owner repo)) :
    Lasts session (session.wakeListing task call owner repo) := by
  unfold Session.wakeListing
  rcases call.wake with ⟨moved, turns, ended⟩
  dsimp only
  split
  · exact lasts_moveListing hs moved turns
  · exact lasts_follow hs rfl (Action.keeps_endListing h ..)
  · exact lasts_follow hs rfl (Action.keeps_endListing h ..)
  · exact lasts_endCancelled hs rfl

theorem Sound.lasts_listingTurn (h : session.Sound) (task : TaskId) (turn : CallTurn) :
    Lasts session (session.listingTurn task turn) := by
  unfold Session.listingTurn
  split
  · next call owner repo hs =>
    cases turn with
    | make | takeUp | notify => exact (Lasts.refl session).set hs rfl rfl
    | wake => exact h.lasts_wakeListing hs
  · exact .refl session

theorem Sound.lasts_taskTurn (h : session.Sound) (task : TaskId) :
    Lasts session (session.taskTurn task) := by
  unfold Session.taskTurn
  split
  · next operation hs => exact lasts_follow hs rfl (Action.keeps_first h task operation)
  · next waiting purpose hs =>
    obtain ⟨hfits, hpurpose⟩ := h.fits hs
    obtain ⟨hcache, hlater, hallows⟩ := h.cache.resume hfits task
    exact lasts_follow hs rfl (Action.keeps_followLoad h hpurpose hcache hlater hallows)
  · next hs => exact lasts_endCancelled hs rfl
  · next hs => exact h.lasts_wakeListing hs
  · exact .refl session

theorem Sound.lasts_turn (h : session.Sound) (place : Nat) :
    Lasts session (session.turn place) := by
  unfold Session.turn
  cases hs : session.line[place]? with
  | none => exact .refl session
  | some signal =>
    have hout : Lasts session { session with line := session.line.eraseIdx place } :=
      lasts_of_same rfl
    have hline := h.takeOut hs
    cases signal with
    | listing task turn =>
      have hsound := (h.setCache hline (.refl _)).sound
      exact hout.trans (hsound.lasts_listingTurn task turn)
    | cache signal =>
      cases signal with
      | caller task =>
        have htail := hline.tail fun fetch => CacheSignal.callTurn?_caller fetch task
        have hsound := (h.setCache htail (.refl _)).sound
        exact hout.trans (hsound.lasts_taskTurn task)
      | start fetch =>
        unfold Session.perform
        dsimp only
        split <;> exact lasts_of_same rfl
      | turn fetch turn | forget fetch | deliver fetch caller => exact lasts_of_same rfl

/-- What the user does ends no operation. -/
theorem lasts_run {α : Type} {action : Action α} (h : Action.Stays session action) :
    Lasts session (session.run action).1 := by
  unfold Action.Stays Action.Leads at h
  unfold Session.run
  cases hresult : action session <;> rw [hresult] at h <;> exact h.lasts

theorem Sound.lasts_launch (h : session.Sound) :
    Lasts session (session.run Action.launch).1 := by
  have hlaunch := Action.leads_launch h
  unfold Action.Leads at hlaunch
  unfold Session.run
  cases hresult : Action.launch session <;> rw [hresult] at hlaunch
  · exact hlaunch.1.lasts
  · exact hlaunch.lasts

theorem lasts_expire (session : Session) (owner : DeadlineOwner) :
    Lasts session (session.expire owner) := by
  unfold Session.expire
  cases owner with
  | fetch fetch => exact lasts_of_same rfl
  | task task =>
    dsimp only
    split
    · next hs => exact lasts_moveListing hs _ _
    · exact .refl session

theorem lasts_expireAll (session : Session) (owners : List DeadlineOwner) :
    Lasts session (owners.foldl Session.expire session) := by
  induction owners generalizing session with
  | nil => exact .refl session
  | cons owner owners ih => exact (lasts_expire session owner).trans (ih _)

/-- By an event nothing changes for the operations that had ended before. -/
theorem Sound.lasts_step (h : session.Sound) (event : FlowEvent) :
    Lasts session (session.step event) := by
  cases event with
  | begin operation => exact (h.begin operation).lasts
  | turn place => exact h.lasts_turn place
  | pick side name => exact lasts_run (Action.stays_pick h side name)
  | launch => exact h.lasts_launch
  | change name value => exact lasts_run (Action.stays_change h name value)
  | answerFetch fetch result => exact lasts_of_same rfl
  | answerListing task result =>
    simp only [Session.step, Session.answerListing]
    split
    · next hs => exact lasts_moveListing hs _ _
    · exact .refl session
  | expire owner => exact lasts_expire session owner
  | advance span =>
    have htimed : Lasts session
        { session with timeline := (session.timeline.advance span).1 } := lasts_of_same rfl
    exact htimed.trans (lasts_expireAll _ _)
  | cancel task =>
    simp only [Session.step, Session.cancel]
    split
    · next hs => exact (Lasts.refl session).set hs rfl rfl
    · next hs => exact lasts_moveListing hs _ _
    · exact .refl session
  | setReadyBranches key reply => exact lasts_of_same rfl
  | setReadyPulls key reply => exact lasts_of_same rfl

/-- An operation that has ended stays so. -/
theorem Sound.lasts_after (h : session.Sound) (events : List FlowEvent) :
    Lasts session (session.after events) := by
  induction events generalizing session with
  | nil => exact .refl session
  | cons event events ih => exact (h.lasts_step event).trans (ih (h.step event).sound)

end Session

end BranchCompare
