import BranchCompare.Proofs.Workflow.ChoiceTurns
import BranchCompare.Proofs.Workflow.Endings

/-!
# The last selection wins

Repositories are selected and refreshed by hand, branches are picked and comparisons launched, while
the line is worked off from its front and nothing is cancelled.  When all operations have returned,
what is shown belongs to the repository that was selected last: its branches as the cache has them, or
why they could not be loaded (`shown_of_run`).

By each event the session stays `Steady` or an operation ends by a crash (`Steady.step`), and a crash
would still be seen at the end of the run.
-/

namespace BranchCompare

/-- The operation has not begun, or it has returned. -/
def TaskState.isAtRest : TaskState → Bool
  | .begins _ => true
  | .ended result => match result with
    | .value _ => true
    | .crashed _ | .cancelled => false
  | .loading _ _ _ | .listing _ _ _ => false

/-- The event belongs to the choice by hand, and the line is worked off from its front. -/
def FlowEvent.isByHand : FlowEvent → Bool
  | .begin operation => operation.isByHand
  | .turn place => place == 0
  | .pick _ _ | .launch | .change _ _ => true
  | .answerFetch _ _ | .expire _ | .advance _ | .setReadyBranches _ _ => true
  | .answerListing _ _ | .cancel _ | .setReadyPulls _ _ => false

namespace Session

/-- The repository that is selected by an event. -/
def selectedBy (session : Session) : FlowEvent → Option String
  | .turn place =>
    match session.line[place]? with
    | some (.cache (.caller task)) =>
      match session.tasks[task]? with
      | some (.begins operation) => session.selects? operation
      | _ => none
    | _ => none
  | _ => none

/-- The repository of the last selection among the events. -/
def lastSelected (session : Session) : List FlowEvent → Option String
  | [] => none
  | event :: events => ((session.step event).lastSelected events).or (session.selectedBy event)

variable {session : Session} {chosen : Option String} {task : TaskId} {line : List Signal}

/-! ## Turns -/

/-- An operation that has ended has no turn. -/
theorem Steady.not_ended (h : (session.ahead task).Steady chosen) :
    ∃ state, session.tasks[task]? = some state ∧ ∀ result, state ≠ .ended result := by
  have hattends := h.front.attends task
  have hturns : 0 < (CacheSignal.caller task :: session.cacheLine).count (.caller task) :=
    List.count_pos_iff.mpr List.mem_cons_self
  -- where no operation is left to wait, none stands in line
  rw [callers, List.getElem?_map] at hattends
  cases hs : session.tasks[task]? with
  | none =>
    rw [hs] at hattends
    have hnone := BranchCache.Stands.turns hattends
    omega
  | some state =>
    refine ⟨state, rfl, ?_⟩
    rintro result rfl
    rw [hs] at hattends
    have hnone := BranchCache.Stands.turns hattends
    omega

/-- The turn of an operation keeps a session steady, unless the operation crashes. -/
theorem Steady.taskTurn (h : (session.ahead task).Steady chosen) :
    (session.taskTurn task).Steady (((session.ahead task).selectedBy (.turn 0)).or chosen) ∨
    (session.taskTurn task).Crashed := by
  have hsound : (session.taskTurn task).Sound := (h.sound.turn 0).sound
  obtain ⟨state, hs, hopen⟩ := h.not_ended
  unfold Session.taskTurn at hsound ⊢
  unfold selectedBy ahead
  simp only [List.getElem?_cons_zero, hs] at hsound ⊢
  rcases isByHand_cases (h.byHand state (List.mem_of_getElem? hs)) with
    ⟨operation, rfl, hoperation⟩ | ⟨waiting, repo, restoring, rfl⟩ | ⟨result, rfl⟩
  · have hfirst := h.first hs hoperation hsound
    cases operation <;> exact hfirst
  · exact h.next hs hsound
  · exact absurd rfl (hopen result)

/-- The signal in front of the line has its turn. -/
theorem turn_cons {signal : Signal} (hline : session.line = signal :: line) :
    session.turn 0 = { session with line := line }.perform signal := by
  unfold Session.turn
  rw [hline]
  rfl

/-- The turns of the cache select nothing. -/
theorem selectedBy_of_ne {signal : Signal} (hline : session.line = signal :: line)
    (hne : ∀ task, signal ≠ .cache (.caller task)) : session.selectedBy (.turn 0) = none := by
  simp only [selectedBy, hline, List.getElem?_cons_zero]
  split
  · next task hcaller => exact absurd (Option.some.inj hcaller) (hne task)
  · rfl

/-- The signal in front has its turn, which is no turn of an operation. -/
theorem Steady.perform (h : session.Steady chosen) {signal : CacheSignal}
    (hline : session.line = .cache signal :: line) (hsignal : ∀ task, signal ≠ .caller task) :
    ({ session with line := line }.withCache (session.cache.perform signal)).Steady chosen := by
  have hcacheLine : session.cacheLine = signal :: line.filterMap Signal.cache? := by
    rw [cacheLine, hline]
    rfl
  have hcome := h.firstCome
  have hcache := h.sound.cache
  rw [hcacheLine] at hcome hcache
  have hsound := (h.sound.performCache hcache).moves.sound
  have hfirst := hcome.perform hsignal
  have hlater := hcache.perform.2
  exact h.withCache hsound hfirst hlater hcache.proceeds_perform (BranchCache.length_perform ..)

/-- No operation of the choice by hand lists change requests. -/
theorem Steady.perform_listing (h : session.Steady chosen) {turn : CallTurn}
    (hline : session.line = .listing task turn :: line) :
    ({ session with line := line }.perform (.listing task turn)).Steady chosen := by
  have hsound := (h.sound.turn 0).sound
  have hnone : { session with line := line }.perform (.listing task turn) =
      { session with line := line } := by
    unfold Session.perform
    dsimp only
    unfold Session.listingTurn
    split
    · next hs => cases h.byHand _ (List.mem_of_getElem? hs)
    · rfl
  rw [turn_cons hline, hnone] at hsound
  rw [hnone]
  have hfirst := h.firstCome
  rw [cacheLine, hline] at hfirst
  exact h.goesOn hsound hfirst rfl rfl rfl (.refl _) (.refl _ []) rfl

/-- Any turn keeps a session steady, unless an operation crashes by it. -/
theorem Steady.turn (h : session.Steady chosen) :
    (session.turn 0).Steady ((session.selectedBy (.turn 0)).or chosen) ∨
    (session.turn 0).Crashed := by
  cases hline : session.line with
  | nil =>
    have hturn : session.turn 0 = session := by
      unfold Session.turn
      rw [hline]
      rfl
    have hselected : session.selectedBy (.turn 0) = none := by
      unfold selectedBy
      rw [hline]
      rfl
    rw [hturn, hselected]
    exact .inl h
  | cons signal line =>
    rw [turn_cons hline]
    cases signal with
    | listing task turn =>
      rw [selectedBy_of_ne hline (by simp)]
      exact .inl (h.perform_listing hline)
    | cache signal =>
      cases signal with
      | caller task =>
        have hahead : { session with line := line }.ahead task = session := by
          unfold ahead
          rw [← hline]
        have hfront : ({ session with line := line }.ahead task).Steady chosen := by
          rw [hahead]
          exact h
        have htaken := hfront.taskTurn
        rw [hahead] at htaken
        exact htaken
      | start fetch =>
        rw [selectedBy_of_ne hline (by simp)]
        have hstarted := h.perform hline (by simp)
        unfold Session.perform
        dsimp only
        split
        · exact .inl hstarted
        · exact .inl (hstarted.setTimeline _)
      | turn fetch turn | forget fetch | deliver fetch caller =>
        rw [selectedBy_of_ne hline (by simp)]
        exact .inl (h.perform hline (by simp))

/-! ## Runs -/

/-- What one event preserves, as long as no operation ends by a crash. -/
theorem Steady.step (h : session.Steady chosen) {event : FlowEvent}
    (hevent : event.isByHand = true) :
    (session.step event).Steady ((session.selectedBy event).or chosen) ∨
      (session.step event).Crashed := by
  cases event with
  | begin operation => exact .inl (h.begin hevent)
  | turn place =>
    obtain rfl : place = 0 := eq_of_beq hevent
    exact h.turn
  | pick side name => exact .inl (h.pick side name).run
  | launch => exact .inl h.launch.run
  | change name value => exact .inl (h.change name value).run
  | answerFetch fetch result => exact .inl (h.answerFetch fetch result)
  | expire owner => exact .inl (h.expire owner)
  | advance span => exact .inl (h.advance span)
  | setReadyBranches key reply => exact .inl (h.setReadyBranches key reply)
  | answerListing | cancel | setReadyPulls => cases hevent

/-- What a run preserves in which no operation ends by a crash. -/
theorem Steady.run (h : session.Steady chosen) {events : List FlowEvent}
    (hevents : ∀ event ∈ events, event.isByHand = true)
    (hcrash : ¬ (session.after events).Crashed) :
    (session.after events).Steady ((session.lastSelected events).or chosen) := by
  induction events generalizing session chosen with
  | nil => exact h
  | cons event events ih =>
    rcases h.step (hevents event List.mem_cons_self) with hnext | ⟨task, crash, hended⟩
    · have hrest := ih hnext (fun other hmem => hevents other (List.mem_cons_of_mem _ hmem)) hcrash
      rw [lastSelected, Option.or_assoc]
      exact hrest
    · -- a crash would still be seen at the end
      have hlasts := (h.sound.step event).sound.lasts_after events
      exact absurd ⟨task, crash, hlasts.ended hended⟩ hcrash

/-- Nothing has happened in a session that was just made. -/
theorem idle_of_make {parts : Parts} (hmake : make parts = .ok session) :
    session.cache = parts.cache ∧ session.tasks = [] ∧ session.line = [] ∧
      session.flow = .idle := by
  unfold make at hmake
  dsimp only at hmake
  split at hmake
  · obtain rfl := Except.ok.inj hmake
    exact ⟨rfl, rfl, rfl, rfl⟩
  · cases hmake

/-- A new session is steady: nothing was selected. -/
theorem steady_of_make {parts : Parts} (hmake : make parts = .ok session) {limit : Seconds}
    {ready : List (String × Reply)} (hcache : parts.cache = .fresh limit ready) :
    session.Steady none := by
  obtain ⟨hsame, htasks, hline, hflow⟩ := idle_of_make hmake
  refine ⟨(sound_of_make hmake hcache).1, ?_, ?_, fun {fetch name} hopen => ?_, ?_,
    fun hnone => (by cases hnone), ?_⟩
  · rw [callers, cacheLine, hsame, hcache, htasks, hline]
    exact BranchCache.firstCome_fresh limit ready
  · rw [htasks]
    exact fun state hmem => absurd hmem List.not_mem_nil
  · rw [hsame, hcache] at hopen
    cases hopen
  · rw [hflow]
    rfl
  · constructor <;> rw [hflow]
    · exact fun _ => rfl
    · exact fun hstage => by cases hstage
    · exact fun hstage => by cases hstage
    · rintro (hstage | hstage) <;> cases hstage

/-- When all operations that have begun have returned, the repository that was selected last is shown
and remembered: its branches as the cache has them, or why they could not be loaded. -/
theorem shown_of_run {parts : Parts} {session : Session} (hmake : make parts = .ok session)
    {limit : Seconds} {ready : List (String × Reply)} (hcache : parts.cache = .fresh limit ready)
    {events : List FlowEvent} (hevents : ∀ event ∈ events, event.isByHand = true)
    (hreturned : ∀ state ∈ (session.after events).tasks, state.isAtRest = true)
    {repo : String} (hselected : session.lastSelected events = some repo) :
    let done := session.after events
    done.flow.repo = some repo ∧ done.store.get? .repo = some repo ∧
      done.flow.stage ≠ .branchesLoading ∧
      ((done.flow.stage = .branchesReady ∨ done.flow.stage = .launching) ∧
          done.cache.get? repo = some done.flow.branches ∨
        done.flow.stage = .repoSelected ∧ done.flow.error.isSome = true) := by
  intro done
  have hcrash : ¬ done.Crashed := by
    rintro ⟨task, crash, hended⟩
    cases hreturned _ (List.mem_of_getElem? hended)
  have hawaits : ∀ {task waiting name restoring},
      ¬ done.Awaits task waiting name restoring := by
    intro task waiting name restoring hw
    cases hreturned _ (List.mem_of_getElem? hw)
  have hdone := (steady_of_make hmake hcache).run hevents hcrash
  rw [hselected] at hdone
  have hloading : done.flow.stage ≠ .branchesLoading := by
    intro hstage
    obtain ⟨task, waiting, name, restoring, hw, -⟩ := hdone.shows.loading hstage
    exact hawaits hw
  have hready : done.flow.stage = .branchesReady ∨ done.flow.stage = .launching →
      done.cache.get? repo = some done.flow.branches := by
    intro hstage
    obtain ⟨name, hrepo, hentry | ⟨task, waiting, restoring, branches, hw, -⟩⟩ :=
      hdone.shows.ready hstage
    · obtain rfl := Option.some.inj (hrepo.symm.trans hdone.repo)
      exact hentry
    · exact absurd hw hawaits
  refine ⟨hdone.repo, hdone.remembered rfl, hloading, ?_⟩
  cases hstage : done.flow.stage with
  | idle => cases (hdone.shows.idle hstage).symm.trans hdone.repo
  | repoSelected => exact .inr ⟨rfl, hdone.shows.selected hstage⟩
  | branchesLoading => exact absurd hstage hloading
  | branchesReady => exact .inl ⟨.inl rfl, hready (.inl hstage)⟩
  | launching => exact .inl ⟨.inr rfl, hready (.inr hstage)⟩

/-- Two repositories are selected one after the other, and the branches of the first come in last. -/
def overlappingSelections : List FlowEvent :=
  [.begin (.selectRepo "substrate"), .begin (.selectRepo "polkadot")] ++
    List.replicate 6 (.turn 0) ++
    [.answerFetch 1 (.answer [⟨"master", "a1"⟩])] ++ List.replicate 8 (.turn 0) ++
    [.answerFetch 0 (.answer [⟨"main", "b2"⟩])] ++ List.replicate 8 (.turn 0)

theorem shown_of_run_overlapping : ∃ session, make standardParts = .ok session ∧
    let done := session.after overlappingSelections
    done.flow.repo = some "polkadot" ∧ done.store.get? .repo = some "polkadot" ∧
      done.cache.get? "substrate" = some [⟨"main", "b2"⟩] ∧
      done.cache.get? "polkadot" = some done.flow.branches := by
  have hrun : ((make standardParts).toOption.any fun session =>
      (session.after overlappingSelections).tasks.all TaskState.isAtRest = true ∧
      session.lastSelected overlappingSelections = some "polkadot" ∧
      (session.after overlappingSelections).flow.stage = .branchesReady ∧
      (session.after overlappingSelections).cache.get? "substrate" =
        some [⟨"main", "b2"⟩]) = true := by decide +kernel
  have hevents : ∀ event ∈ overlappingSelections, event.isByHand = true :=
    List.all_eq_true.mp (by decide +kernel)
  cases hmake : make standardParts with
  | error missing =>
    rw [hmake] at hrun
    cases hrun
  | ok session =>
    simp only [hmake, Except.toOption, Option.any_some, decide_eq_true_eq] at hrun
    obtain ⟨hreturned, hselected, hstage, hfirst⟩ := hrun
    have hcache : standardParts.cache = .fresh (.whole 30) [] := rfl
    obtain ⟨hrepo, hremembered, -, hentry | ⟨hfailed, -⟩⟩ :=
      shown_of_run hmake hcache hevents (List.all_eq_true.mp hreturned) hselected
    · exact ⟨session, rfl, hrepo, hremembered, hfirst, hentry.2⟩
    · rw [hstage] at hfailed
      cases hfailed

end Session

end BranchCompare
