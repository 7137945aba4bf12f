import BranchCompare.Proofs.Workflow.Stretches

/-!
# The listing that succeeded last

A listing that succeeds puts its repository beside the rows (`Session.Lists`), and nothing else
changes that repository (`Sound.requests_step`).  However listings overlap, it is the repository of
the one that was the last to succeed (`requests_of_lastListed`).
-/

namespace BranchCompare

open BranchCompare.Action (Side valueOf Leaves Leads)

namespace Action

variable {session : Session}

theorem requests_pick (side : Side) (name : Option String) :
    Leaves (fun session => session.flow.requestsRepo) (pick side name) := by
  unfold pick
  extract_lets picked
  refine leaves_get_bind fun session => ?_
  dsimp only
  split
  · exact leaves_pure _
  · refine (aside_setControl _ _).requests.bind fun _ => ?_
    refine (aside_remember _ _).requests.bind fun _ => ?_
    refine (aside_replaceParam _ _).requests.bind fun _ => ?_
    refine Leaves.bind (fun session => ?_) fun _ => leaves_pure _
    rw [leads_modifyFlow]
    cases side <;> rfl

theorem requests_change (name : ControlName) (value : Json) :
    Leaves (fun session => session.flow.requestsRepo) (change name value) :=
  leaves_change requests_pick (fun name value => (aside_setControl name value).requests)
    (fun _ _ => rfl) (fun _ _ => rfl) name value

/-- The end of a listing.  Only an answer whose rows can be put in order changes the repository. -/
theorem leads_endListing (session : Session) (owner repo : String)
    (result : CallEnd (List ChangeRequest)) :
    Leads (endListing owner repo result) session
      (fun turn after => (∃ requests rows, result = .answer requests ∧ turn = .ended (.rows rows) ∧
          after.flow.requestsRepo = some repo) ∨
        (∀ requests, result ≠ .answer requests) ∧
          after.flow.requestsRepo = session.flow.requestsRepo)
      fun _ after => after.flow.requestsRepo = session.flow.requestsRepo := by
  have hbadly : ∀ message, Leads (endListingBadly message) session
      (fun _ after => after.flow.requestsRepo = session.flow.requestsRepo) fun _ _ => False :=
    fun message => rfl
  cases result with
  | answer requests =>
    show Leads (exitLoading >>= fun _ => showRequests repo requests) session _ _
    unfold exitLoading showRequests
    rw [leads_bind, leads_modify]
    split
    · next rows hrows =>
      rw [leads_bind, leads_modifyFlow, leads_pure]
      exact .inl ⟨requests, rows, rfl, rfl, rfl⟩
    · exact rfl
  | unavailable failure => exact (hbadly _).mono (fun _ _ h => .inr ⟨nofun, h⟩) fun _ _ => False.elim
  | outOfTime => exact (hbadly _).mono (fun _ _ h => .inr ⟨nofun, h⟩) fun _ _ => False.elim
  | crashed crash => exact rfl

end Action

namespace TaskState

/-- The repository of a listing that has been answered. -/
def answered? : TaskState → Option String
  | .listing call _ repo =>
    match call.wake.2.2 with
    | some (.ended (.answer _)) => some repo
    | _ => none
  | _ => none

def rows? : TaskState → Option (List ChangeRequest.Row)
  | .ended (.value (.rows rows)) => some rows
  | _ => none

theorem eq_of_answered? {state : TaskState} {repo : String} (h : state.answered? = some repo) :
    ∃ (call : BoundedCall (List ChangeRequest)) (owner : String) (requests : List ChangeRequest),
      state = .listing call owner repo ∧ call.wake.2.2 = some (.ended (.answer requests)) := by
  unfold answered? at h
  split at h
  · next call owner other =>
    split at h
    · next requests hwake =>
      obtain rfl := Option.some.inj h
      exact ⟨call, owner, requests, rfl, hwake⟩
    · cases h
  · cases h

theorem eq_of_rows? {state : TaskState} {rows : List ChangeRequest.Row}
    (h : state.rows? = some rows) : state = .ended (.value (.rows rows)) := by
  unfold rows? at h
  split at h
  · obtain rfl := Option.some.inj h
    rfl
  · cases h

end TaskState

namespace Session

variable {session : Session} {event : FlowEvent} {task : TaskId} {owner repo : String}
  {call : BoundedCall (List ChangeRequest)}

/-- In between a listing of the repository succeeds, and gives the rows. -/
def Lists (before after : Session) (repo : String) (rows : List ChangeRequest.Row) : Prop :=
  ∃ task : TaskId, before.tasks[task]?.bind TaskState.answered? = some repo ∧
    after.tasks[task]?.bind TaskState.rows? = some rows

/-- The listing of the repository was the last one to succeed. -/
def LastListed (session : Session) (events : List FlowEvent) (repo : String) : Prop :=
  ∃ earlier event later rows, events = earlier ++ event :: later ∧
    (session.after earlier).Lists ((session.after earlier).step event) repo rows ∧
    ∀ done next rest, later = done ++ next :: rest →
      let now := session.after (earlier ++ event :: done)
      ∀ other rows, ¬ now.Lists (now.step next) other rows

/-- A listing that goes on to its end succeeds, or it leaves the repository of the rows alone. -/
theorem Stretch.listing {action : Action Turn} (hstretch : session.Stretch task action)
    (h : session.Sound) (hs : session.tasks[task]? = some (.listing call owner repo)) :
    let done := session.follow task action
    (∃ requests rows, call.wake.2.2 = some (.ended (.answer requests)) ∧
      done.tasks[task]? = some (.ended (.value (.rows rows))) ∧
      done.flow.requestsRepo = some repo) ∨
    ((∀ requests, call.wake.2.2 ≠ some (.ended (.answer requests))) ∨
        ∃ crash, done.tasks[task]? = some (.ended (.crashed crash))) ∧
      done.flow.requestsRepo = session.flow.requestsRepo := by
  have hkeeps := hstretch.keeps h
  obtain ⟨result, rfl, hanswer⟩ : ∃ result, action = Action.endListing owner repo result ∧
      ∀ requests, call.wake.2.2 = some (.ended (.answer requests)) ↔
        result = .answer requests := by
    cases hstretch with
    | begins hother => cases hs.symm.trans hother
    | resumes hother => cases hs.symm.trans hother
    | answers hsame hwake =>
      obtain ⟨rfl, rfl, rfl⟩ := TaskState.listing.inj (Option.some.inj (hs.symm.trans hsame))
      refine ⟨_, rfl, fun requests => ?_⟩
      rw [hwake, Option.some.injEq, WaitEnd.ended.injEq]
    | expires hsame hwake =>
      obtain ⟨rfl, rfl, rfl⟩ := TaskState.listing.inj (Option.some.inj (hs.symm.trans hsame))
      refine ⟨_, rfl, fun requests => ?_⟩
      rw [hwake]
      exact ⟨nofun, nofun⟩
  have hthere := (List.getElem?_eq_some_iff.mp hs).1
  rcases state_follow hkeeps hthere (Action.leads_endListing session owner repo result) with
    ⟨_, after, ⟨requests, rows, hresult, rfl, hrequests⟩ | ⟨hother, hsame⟩, hfollow, hstate⟩ |
    ⟨crash, after, hsame, hfollow, hstate⟩
  · exact .inl ⟨requests, rows, (hanswer requests).mpr hresult, hstate, hfollow ▸ hrequests⟩
  · exact .inr ⟨.inl fun requests hwake => hother requests ((hanswer requests).mp hwake),
      hfollow ▸ hsame⟩
  · exact .inr ⟨.inr ⟨crash, hstate⟩, hfollow ▸ hsame⟩

/-- A stretch of an operation changes the repository of the rows only where a listing succeeds. -/
theorem Stretch.requests {action : Action Turn} (hstretch : session.Stretch task action)
    (h : session.Sound) :
    (session.follow task action).flow.requestsRepo = session.flow.requestsRepo ∨
    ∃ repo rows, session.Lists (session.follow task action) repo rows := by
  have htends : ∀ {action : Action Turn}, Action.Tends action →
      (session.follow task action).flow.requestsRepo = session.flow.requestsRepo := fun htends =>
    @part_follow _ (·.flow.requestsRepo) (· = session.flow.requestsRepo) _ _ task (fun _ _ => rfl)
      ((htends session).mono (fun _ _ h => h.requests) fun _ _ h => h.requests)
  by_cases hlisting : ∃ call owner repo, session.tasks[task]? = some (.listing call owner repo)
  · obtain ⟨call, owner, repo, hs⟩ := hlisting
    rcases hstretch.listing h hs with ⟨requests, rows, hwake, hstate, -⟩ | ⟨-, hsame⟩
    · refine .inr ⟨repo, rows, task, ?_, ?_⟩
      · rw [hs, Option.bind_some, TaskState.answered?, hwake]
      · rw [hstate, Option.bind_some, TaskState.rows?]
    · exact .inl hsame
  · cases hstretch with
    | begins hs => exact .inl (htends (Action.tends_first task _))
    | resumes hs => exact .inl (htends (Action.tends_followLoad _ _))
    | answers hs | expires hs => exact absurd ⟨_, _, _, hs⟩ hlisting

/-- Only a listing that succeeds changes the repository of the rows. -/
theorem Sound.requests_step (h : session.Sound) (event : FlowEvent) :
    (session.step event).flow.requestsRepo = session.flow.requestsRepo ∨
    ∃ repo rows, session.Lists (session.step event) repo rows := by
  have hrun : ∀ {α : Type} {action : Action α},
      Leaves (fun session => session.flow.requestsRepo) action →
      (session.run action).1.flow.requestsRepo = session.flow.requestsRepo := fun h =>
    @part_run _ _ (·.flow.requestsRepo) (· = session.flow.requestsRepo) _ _ (h session)
  cases event with
  | turn place =>
    rcases turn_cases session place with
      hstill | ⟨signal, task, action, hsignal, hcalls, hstretch, hturn⟩
    · exact .inl (congrArg Prod.snd hstill.seen)
    · have hrequests := hstretch.requests (h.without hsignal hcalls)
      rw [← hturn] at hrequests
      exact hrequests
  | pick side name => exact .inl (hrun (Action.requests_pick side name))
  | change name value => exact .inl (hrun (Action.requests_change name value))
  | launch =>
    refine .inl (hrun fun session => ?_)
    exact (Action.tends_launch session).mono (fun _ _ h => h.requests) fun _ _ h => h.requests
  | begin operation => exact .inl rfl
  | answerFetch | answerListing | expire | advance | cancel | setReadyBranches | setReadyPulls =>
    exact .inl (congrArg Prod.snd (still_step session rfl).seen)

/-- A listing that succeeds leaves its repository beside the rows. -/
theorem Sound.requests_of_lists (h : session.Sound) {rows : List ChangeRequest.Row}
    (hlists : session.Lists (session.step event) repo rows) :
    (session.step event).flow.requestsRepo = some repo := by
  obtain ⟨task, hanswered, hrows⟩ := hlists
  obtain ⟨_, hs, hanswered⟩ := Option.bind_eq_some_iff.mp hanswered
  obtain ⟨call, owner, requests, rfl, hwake⟩ := TaskState.eq_of_answered? hanswered
  obtain ⟨_, hstate, hrows⟩ := Option.bind_eq_some_iff.mp hrows
  obtain rfl := TaskState.eq_of_rows? hrows
  rcases h.task_step hs event with
    ⟨new, hnew, hdrifts⟩ | ⟨place, action, rfl, hsound, hstretch, hstep⟩
  · obtain rfl := Option.some.inj (hnew.symm.trans hstate)
    cases hdrifts
  · rw [hstep] at hstate ⊢
    rcases hstretch.listing hsound hs with
      ⟨-, -, -, -, hrequests⟩ | ⟨hother | ⟨crash, hcrashed⟩, -⟩
    · exact hrequests
    · exact absurd hwake (hother requests)
    · cases hcrashed.symm.trans hstate

/-- Nothing else changes this repository. -/
theorem Sound.requests_after (h : session.Sound) {events : List FlowEvent}
    (hnone : ∀ done next rest, events = done ++ next :: rest → ∀ repo rows,
      ¬ (session.after done).Lists ((session.after done).step next) repo rows) :
    (session.after events).flow.requestsRepo = session.flow.requestsRepo := by
  induction events generalizing session with
  | nil => rfl
  | cons event events ih =>
    have hrest := ih (h.step event).sound fun done next rest heq =>
      hnone (event :: done) next rest (congrArg (event :: ·) heq)
    rcases h.requests_step event with hsame | ⟨repo, rows, hlists⟩
    · exact hrest.trans hsame
    · exact absurd hlists (hnone [] event events rfl repo rows)

/-- The repository beside the rows is that of the listing that was the last to succeed. -/
theorem Sound.requests_of_lastListed (h : session.Sound) {events : List FlowEvent}
    (hlast : session.LastListed events repo) :
    (session.after events).flow.requestsRepo = some repo := by
  obtain ⟨earlier, event, later, rows, rfl, hlists, hnone⟩ := hlast
  have hearlier := (h.after earlier).sound
  have hsplit : ∀ done : List FlowEvent, session.after (earlier ++ event :: done) =
      ((session.after earlier).step event).after done := fun done =>
    after_append session earlier (event :: done)
  rw [hsplit, (hearlier.step event).sound.requests_after, hearlier.requests_of_lists hlists]
  intro done next rest heq
  rw [← hsplit]
  exact hnone done next rest heq

end Session

end BranchCompare
