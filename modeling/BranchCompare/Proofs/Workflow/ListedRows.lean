import BranchCompare.Proofs.ChangeRequest.Rows
import BranchCompare.Proofs.Workflow.LastListing
import BranchCompare.Proofs.Workflow.Phases
import BranchCompare.Proofs.Workflow.RowVerdicts

/-!
# What the list of change requests shows

The repository, the rows and the number of highlighted rows change together, by a listing that
succeeds (`Session.Fulfils`), and by nothing else (`Advances.moves_of_fulfils`,
`Advances.listed_of_none`).  So in every session that can be reached they are those of a new session
or all come from one listing (`Reachable.listedFrom`), whose rows are newest first and carry their
marks.  Listings may overlap in any way, and a listing that ends otherwise leaves the three alone
(`listed_of_reachable`).
-/

namespace BranchCompare

open BranchCompare.ChangeRequest (Row)

/-! ## Listings that succeed -/

namespace TaskState

variable {old new : TaskState} {repo other : String} {rows more : List Row}

theorem Fulfils.unique (h : old.Fulfils new repo rows) (h' : old.Fulfils new other more) :
    other = repo ∧ more = rows := by
  cases h with
  | answers => cases h' with | answers => exact ⟨rfl, rfl⟩

/-- By its end a listing goes out. -/
theorem Fulfils.isInside (h : old.Fulfils new repo rows) :
    old.isInside = true ∧ new.isInside = false := by
  cases h with
  | answers => exact ⟨rfl, rfl⟩

theorem Fulfils.answered? (h : old.Fulfils new repo rows) : old.answered? = some repo := by
  cases h with
  | answers owner _ hwake => rw [TaskState.answered?, hwake]

/-- The rows show the requests of the answer. -/
theorem Fulfils.shows (h : old.Fulfils new repo rows) : ∃ requests, Row.Shows rows requests := by
  cases h with
  | answers _ _ _ hrows => exact ⟨_, Row.shows_of_build hrows⟩

end TaskState

namespace Session

variable {parts : Parts} {before after session : Session} {task : TaskId} {old new : TaskState}
  {repo : String} {rows : List Row}

/-- In between the operation's listing of the repository succeeds and gives the rows. -/
def Fulfils (before after : Session) (task : TaskId) (repo : String) (rows : List Row) : Prop :=
  ∃ old new, before.tasks[task]? = some old ∧ after.tasks[task]? = some new ∧
    old.Fulfils new repo rows

/-- Where nothing goes in or out, every operation is inside as before. -/
theorem Dwells.isInside (h : before.Dwells after) (hs : before.tasks[task]? = some old)
    (hnew : after.tasks[task]? = some new) : new.isInside = old.isInside := by
  obtain ⟨begun, hinside⟩ := h.inside
  have hthere := (List.getElem?_eq_some_iff.mp hs).1
  have hsame := congrArg (·[task]?) hinside
  rw [List.getElem?_append_left (by rwa [List.length_map]), List.getElem?_map, List.getElem?_map,
    hs, hnew] at hsame
  exact Option.some.inj hsame

/-- The listing that succeeds is the operation that has gone on. -/
theorem Advances.moves_of_fulfils (h : before.Advances after)
    (hfulfils : before.Fulfils after task repo rows) :
    (∃ old new, before.tasks[task]? = some old ∧ after.tasks = before.tasks.set task new ∧
      old.Fulfils new repo rows) ∧
    after.listed = (some repo, rows, Row.countHighlighted rows) := by
  obtain ⟨old, new, hs, hnew, hfulfils⟩ := hfulfils
  obtain ⟨hinside, houtside⟩ := hfulfils.isInside
  cases h with
  | dwells h =>
    have hsame := h.isInside hs hnew
    rw [hinside, houtside] at hsame
    cases hsame
  | @moves mover state moved hmover htasks _ hlisted =>
    rw [htasks] at hnew
    by_cases heq : mover = task
    · subst heq
      obtain rfl := Option.some.inj (hmover.symm.trans hs)
      rw [List.getElem?_set_self (List.getElem?_eq_some_iff.mp hs).1] at hnew
      obtain rfl := Option.some.inj hnew
      refine ⟨⟨state, moved, hs, htasks, hfulfils⟩, ?_⟩
      rcases hlisted with ⟨other, more, hother, hlisted⟩ | ⟨hnone, -⟩
      · obtain ⟨rfl, rfl⟩ := hfulfils.unique hother
        exact hlisted
      · exact absurd hfulfils (hnone repo rows)
    · -- the listing would have stayed where it was
      rw [List.getElem?_set_ne heq, hs] at hnew
      obtain rfl := Option.some.inj hnew
      cases hinside.symm.trans houtside

/-- Unless a listing succeeds the list stays as it is. -/
theorem Advances.listed_of_none (h : before.Advances after)
    (hnone : ∀ task repo rows, ¬ before.Fulfils after task repo rows) :
    after.listed = before.listed := by
  cases h with
  | dwells h => exact congrArg Prod.fst h.posted
  | @moves mover old new hmover htasks _ hlisted =>
    rcases hlisted with ⟨repo, rows, hfulfils, -⟩ | ⟨-, hsame⟩
    · have hnew : after.tasks[mover]? = some new := by
        rw [htasks, List.getElem?_set_self (List.getElem?_eq_some_iff.mp hmover).1]
      exact absurd ⟨old, new, hmover, hnew, hfulfils⟩ (hnone mover repo rows)
    · exact hsame

/-- At most one operation goes on by an event.  If it is none that succeeds in listing, nothing else
is listed. -/
theorem Advances.listed_of_other (h : before.Advances after) (hs : before.tasks[task]? = some old)
    (hnew : after.tasks[task]? = some new) (hmoved : old ≠ new)
    (hnone : ∀ repo rows, ¬ old.Fulfils new repo rows) : after.listed = before.listed := by
  refine h.listed_of_none fun other repo rows hfulfils => ?_
  obtain ⟨⟨state, ended, hstate, htasks, hfulfils⟩, -⟩ := h.moves_of_fulfils hfulfils
  rw [htasks] at hnew
  by_cases heq : other = task
  · subst heq
    obtain rfl := Option.some.inj (hs.symm.trans hstate)
    rw [List.getElem?_set_self (List.getElem?_eq_some_iff.mp hs).1] at hnew
    obtain rfl := Option.some.inj hnew
    exact hnone repo rows hfulfils
  · rw [List.getElem?_set_ne heq, hs] at hnew
    exact hmoved (Option.some.inj hnew)

/-! ## Sessions that can be reached -/

/-- All that is listed comes from one listing, which has succeeded by an event. -/
def ListedFrom (parts : Parts) (session : Session) : Prop :=
  ∃ before event task repo rows, Reachable parts before ∧
    before.Fulfils (before.step event) task repo rows ∧ (before.step event).Onward session ∧
    session.listed = (some repo, rows, Row.countHighlighted rows)

theorem ListedFrom.later {start : Session} (h : start.ListedFrom parts)
    (hlisted : session.listed = start.listed)
    (honward : ∀ {first : Session}, first.Onward start → first.Onward session) :
    session.ListedFrom parts := by
  obtain ⟨before, event, task, repo, rows, hreach, hfulfils, hstart, hsame⟩ := h
  exact ⟨before, event, task, repo, rows, hreach, hfulfils, honward hstart, hlisted.trans hsame⟩

theorem Reachable.listedFrom (h : Reachable parts session) :
    session.listed = (none, [], 0) ∨ session.ListedFrom parts := by
  induction h with
  | made hmake => exact .inl (congrArg Prod.fst (posted_of_make hmake).1)
  | @step now hreach event ih =>
    have hadvances := advances_step now event
    by_cases hany : ∃ task repo rows, now.Fulfils (now.step event) task repo rows
    · obtain ⟨task, repo, rows, hfulfils⟩ := hany
      have hlisted := (hadvances.moves_of_fulfils hfulfils).2
      exact .inr ⟨now, event, task, repo, rows, hreach, hfulfils, .refl, hlisted⟩
    · have hsame := hadvances.listed_of_none fun task repo rows h => hany ⟨task, repo, rows, h⟩
      rw [hsame]
      exact ih.imp id fun hfrom => hfrom.later hsame fun honward => honward.step event
  | @binds now hreach ih =>
    have hsame : _ = now.listed := congrArg Prod.fst (dwells_bindToPage now).posted
    exact ih.imp hsame.trans fun hfrom => hfrom.later hsame fun honward => honward.binds
  | leads hreach page ih =>
    exact ih.imp id fun hfrom => hfrom.later rfl fun honward => honward.leads page

theorem eq_of_listed {name : Option String} {count : Nat}
    (h : session.listed = (name, rows, count)) :
    session.flow.rows = rows ∧ session.flow.highlighted = count :=
  Prod.mk.inj (Prod.mk.inj h).2

/-- The rows that are listed are those of a list of requests, and the highlighted ones are
counted. -/
theorem Reachable.rows_shown (h : Reachable parts session) :
    (∃ requests, Row.Shows session.flow.rows requests) ∧
      session.flow.highlighted = Row.countHighlighted session.flow.rows := by
  rcases h.listedFrom with hnone | ⟨before, event, task, repo, rows, -, hfulfils, -, hlisted⟩
  · obtain ⟨hrows, hhighlighted⟩ := eq_of_listed hnone
    rw [hrows, hhighlighted]
    exact ⟨⟨[], .nil, .nil, fun _ => rfl, nofun⟩, rfl⟩
  · obtain ⟨old, new, -, -, hfulfils⟩ := hfulfils
    obtain ⟨hrows, hhighlighted⟩ := eq_of_listed hlisted
    rw [hrows, hhighlighted]
    exact ⟨hfulfils.shows, rfl⟩

/-- What is listed is as in a new session, or all of it comes from one listing that has succeeded.
The highlighted rows are counted, the rows are newest first, and none is both highlighted and
disabled.  By an event in which a listing succeeds its repository and its rows are listed.  Otherwise
the same is listed as before, so also by an event in which a listing goes on and does not succeed. -/
theorem listed_of_reachable (h : Reachable parts session) :
    (session.listed = (none, [], 0) ∨ session.ListedFrom parts) ∧
    session.flow.highlighted = (session.flow.rows.filter (·.highlighted)).length ∧
    (session.flow.rows.Pairwise fun a b =>
      b.request.updatedAt.instant ≤ a.request.updatedAt.instant) ∧
    (∀ row ∈ session.flow.rows, ¬ (row.highlighted = true ∧ row.disabled = true)) ∧
    ∀ event,
      (∀ task repo rows, session.Fulfils (session.step event) task repo rows →
        (session.step event).listed = (some repo, rows, Row.countHighlighted rows)) ∧
      ((∀ task repo rows, ¬ session.Fulfils (session.step event) task repo rows) →
        (session.step event).listed = session.listed) ∧
      ∀ (task : TaskId) old new, session.tasks[task]? = some old →
        (session.step event).tasks[task]? = some new → old ≠ new →
        (∀ repo rows, ¬ old.Fulfils new repo rows) →
        (session.step event).listed = session.listed := by
  obtain ⟨⟨requests, hshows⟩, hhighlighted⟩ := h.rows_shown
  refine ⟨h.listedFrom, hhighlighted.trans List.countP_eq_length_filter, hshows.newestFirst,
    fun row hrow => (hshows.marked row hrow).not_both, fun event => ?_⟩
  have hadvances := advances_step session event
  exact ⟨fun task repo rows hfulfils => (hadvances.moves_of_fulfils hfulfils).2,
    hadvances.listed_of_none, fun task old new => hadvances.listed_of_other⟩

/-- Two listings overlap, the second one succeeds, and the first one is about to fail. -/
def failingListing : List FlowEvent :=
  [.begin (.list (some "paritytech") (some "polkadot")),
    .begin (.list (some "paritytech") (some "substrate"))] ++ turns 4 ++
    [.answerListing 1 (.answer [newYear 7 (some 0)])] ++ turns 3 ++
    [.answerListing 0 .outOfTime] ++ turns 2

theorem listed_of_reachable_overlapping : ∃ session, make listingParts = .ok session ∧
    let now := session.after failingListing
    now.ListedFrom listingParts ∧ now.listed = (some "substrate", [openRow], 0) ∧
      (now.step (.turn 0)).tasks[0]?.bind TaskState.rows? = some [] ∧
      (now.step (.turn 0)).listed = now.listed := by
  have hrun : ((make listingParts).toOption.any fun session =>
      let now := session.after failingListing
      now.listed = (some "substrate", [openRow], 0) ∧
        now.tasks[0]?.map (fun state => (state.isInside, state.answered?)) = some (true, none) ∧
        (now.step (.turn 0)).tasks[0]?.bind TaskState.rows? = some []) = true := by
    decide +kernel
  obtain ⟨session, hmake, hchecks⟩ := exists_make_of_any hrun
  obtain ⟨hlisted, hstands, hrows⟩ := of_decide_eq_true hchecks
  obtain ⟨old, hs, hold⟩ := Option.map_eq_some_iff.mp hstands
  obtain ⟨hinside, hanswered⟩ := Prod.mk.inj hold
  obtain ⟨new, hnew, hgiven⟩ := Option.bind_eq_some_iff.mp hrows
  obtain rfl := TaskState.eq_of_rows? hgiven
  obtain ⟨hfrom, -, -, -, hevents⟩ :=
    listed_of_reachable ((Reachable.made hmake).after failingListing)
  have hsame := (hevents (.turn 0)).2.2 0 old _ hs hnew (fun heq => by cases heq; cases hinside)
    fun repo rows hfulfils => by cases hanswered.symm.trans hfulfils.answered?
  refine ⟨session, hmake, hfrom.resolve_left fun hnone => ?_, hlisted, hrows, hsame⟩
  cases hlisted.symm.trans hnone

end Session

end BranchCompare
