import BranchCompare.Proofs.Workflow.Failures
import BranchCompare.Proofs.Workflow.Phases

/-!
# When the loading indicator is on

In every session that can be reached the indicator counts the operations that are inside a phase of
loading (`Reachable.counts`), however they overlap and however each of them ends.  So it is on just
while one is inside, it was switched on and off in turn, and it is off when none is under way
(`indicator_of_reachable`).
-/

namespace BranchCompare.Session

open LoadingIndicator (Alternates Counts)

variable {parts : Parts} {before after session : Session} {task : TaskId}

def countInside (tasks : List TaskState) : Nat := tasks.countP TaskState.isInside

theorem countInside_eq (tasks : List TaskState) :
    countInside tasks = (tasks.map TaskState.isInside).countP id := by
  rw [List.countP_map]
  rfl

theorem countInside_of_dwells (h : before.Dwells after) :
    countInside after.tasks = countInside before.tasks := by
  obtain ⟨begun, hinside⟩ := h.inside
  rw [countInside_eq, countInside_eq, hinside, List.countP_append, List.countP_replicate]
  rfl

/-- One operation among all. -/
theorem countInside_set {tasks : List TaskState} {old : TaskState} (hs : tasks[task]? = some old)
    (new : TaskState) : ∃ others, countInside tasks = others + old.isInside.toNat ∧
      countInside (tasks.set task new) = others + new.isInside.toNat := by
  obtain ⟨hthere, rfl⟩ := List.getElem?_eq_some_iff.mp hs
  obtain ⟨left, right, htasks, -, hset⟩ := @List.exists_of_set _ _ new _ hthere
  have hcount : ∀ state, countInside (left ++ state :: right) =
      countInside left + countInside right + state.isInside.toNat := by
    intro state
    unfold countInside
    rw [List.countP_append, List.countP_cons, Nat.add_assoc]
    cases state.isInside <;> rfl
  exact ⟨_, (congrArg countInside htasks).trans (hcount _),
    (congrArg countInside hset).trans (hcount new)⟩

/-- What an event preserves. -/
theorem Advances.counts (h : before.Advances after)
    (hcounts : before.indicator.Counts (countInside before.tasks)) :
    after.indicator.Counts (countInside after.tasks) := by
  cases h with
  | dwells h =>
    have hindicator : after.indicator = before.indicator := congrArg Prod.snd h.posted
    rw [hindicator, countInside_of_dwells h]
    exact hcounts
  | @moves task old new hs htasks hphases _ =>
    obtain ⟨others, hbefore, hafter⟩ := countInside_set hs new
    rw [hbefore] at hcounts
    rw [htasks, hafter]
    exact Counts.phases hcounts hphases

/-- The indicator counts the operations that are inside. -/
theorem Reachable.counts (h : Reachable parts session) :
    session.indicator.Counts (countInside session.tasks) := by
  induction h with
  | made hmake =>
    obtain ⟨hposted, htasks⟩ := posted_of_make hmake
    have hindicator : Session.indicator _ = .off := congrArg Prod.snd hposted
    rw [hindicator, htasks]
    exact LoadingIndicator.counts_off
  | step _ event ih => exact (advances_step _ event).counts ih
  | binds _ ih => exact (Advances.dwells (dwells_bindToPage _)).counts ih
  | leads _ page ih => exact ih

/-- The indicator is on just while an operation is inside a phase of loading.  It was switched on
and off in turn, beginning with on, and it is on just if it was switched on last.  It is off when
every operation is over or has not begun. -/
theorem indicator_of_reachable (h : Reachable parts session) :
    (session.indicator.isActive = true ↔ ∃ state ∈ session.tasks, state.isInside = true) ∧
    Alternates session.indicator.toggles ∧
    (session.indicator.isActive = true ↔ session.indicator.toggles.getLast? = some true) ∧
    ((∀ state ∈ session.tasks, state.isOver = true ∨ ∃ operation, state = .begins operation) →
      session.indicator.isActive = false) := by
  have hcounts := h.counts
  have hpositive := hcounts.isActive_iff
  have hactive := hpositive.trans List.countP_pos_iff
  refine ⟨hactive, hcounts.alternates, hpositive.trans hcounts.last.symm, fun hidle => ?_⟩
  refine Bool.eq_false_iff.mpr fun hon => ?_
  obtain ⟨state, hmem, hinside⟩ := hactive.mp hon
  rcases hidle state hmem with hover | ⟨operation, rfl⟩
  · cases state with
    | begins | loading | listing => cases hover
    | ended result => cases hinside
  · cases hinside

/-- A selection and a listing overlap, the selection is cancelled, the listing fails, and the
branches are loaded anew. -/
def overlappingPhases : List FlowEvent :=
  [.begin (.selectRepo "polkadot"), .begin (.list none none)] ++ turns 4 ++
    [.cancel 0] ++ turns 4 ++ [.answerListing 1 .outOfTime] ++ turns 4 ++ [.begin .refresh, .turn 0]

theorem indicator_of_reachable_overlapping : ∃ session, make listingParts = .ok session ∧
    let now := session.after overlappingPhases
    now.indicator.toggles = [true, false, true] ∧ Alternates now.indicator.toggles ∧
      now.indicator.isActive = true ∧ ∃ state ∈ now.tasks, state.isInside = true := by
  have hrun : ((make listingParts).toOption.any fun session =>
      (session.after overlappingPhases).indicator.toggles = [true, false, true]) = true := by
    decide +kernel
  obtain ⟨session, hmake, hchecks⟩ := exists_make_of_any hrun
  have htoggles := of_decide_eq_true hchecks
  obtain ⟨hactive, halternates, hlast, -⟩ :=
    indicator_of_reachable ((Reachable.made hmake).after overlappingPhases)
  have hon := hlast.mpr (congrArg List.getLast? htoggles)
  exact ⟨session, hmake, htoggles, halternates, hon, hactive.mp hon⟩

end BranchCompare.Session
