import BranchCompare.Proofs.Workflow.Failures
import BranchCompare.Proofs.Workflow.ShownList
import BranchCompare.Proofs.Workflow.Stretches

/-!
# Controls and what the workflow holds

The controls of the repository and of the two branches show what the workflow holds
(`View.Agrees`), with one exception: a control keeps a value to which the user has changed it also
if the value is refused or ignored (`Session.LeftBy`).  In between, the control of the repository
is ahead of the workflow while the selection that it has told of is in line to begin
(`Session.Awaited`). `agrees_of_run` puts this together for the time when all operations are over.
-/

namespace BranchCompare

open BranchCompare.Action (Side valueOf)

namespace View

variable {before after view : View} {name : ControlName} {event : FlowEvent}

/-- What the workflow holds of a control that it sets. -/
def held (view : View) : ControlName → Option String
  | .repo => view.repo
  | .old => view.picked .old
  | .new => view.picked .new
  | _ => none

/-- The control shows what the workflow holds. -/
def Agrees (view : View) (name : ControlName) : Prop :=
  view.value name = some (valueOf (view.held name))

/-- The control and what the workflow holds of it are the same as before. -/
structure Keeps (name : ControlName) (before after : View) : Prop where
  value : after.value name = before.value name
  held : after.held name = before.held name

theorem Keeps.trans {middle : View} (h : before.Keeps name middle) (h' : middle.Keeps name after) :
    before.Keeps name after :=
  ⟨h'.value.trans h.value, h'.held.trans h.held⟩

/-- A control that agreed goes on agreeing while it is kept. -/
theorem Keeps.agrees (h : before.Keeps name after) (hagrees : before.Agrees name) :
    after.Agrees name := by
  unfold Agrees
  rw [h.value, h.held]
  exact hagrees

theorem value_set_of_there (hthere : (view.value name).isSome = true) (value : Json) :
    (view.set name value).value name = some value := by
  obtain ⟨old, hold⟩ := Option.isSome_iff_exists.mp hthere
  rw [value_set_self, hold]
  rfl

theorem held_side (view : View) (side : Side) : view.held side.control = view.picked side := by
  cases side <;> rfl

/-- After a selection the control of the repository shows it. -/
theorem Selects.agrees {repo : String} (h : Selects repo before after) (htidy : before.Tidy) :
    after.Agrees .repo := by
  obtain ⟨hdocument, hpage⟩ := h
  exact value_set_of_there (htidy.there .repo (by decide)) _

theorem Selects.keeps {repo : String} (h : Selects repo before after) (hname : name ≠ .repo) :
    before.Keeps name after := by
  obtain ⟨hdocument, hpage⟩ := h
  refine ⟨value_set_of_ne before hname _, ?_⟩
  cases name with
  | repo => exact absurd rfl hname
  | _ => rfl

/-- After a pick the control of its side shows it. -/
theorem Picks.agrees {side : Side} {given : Option String} (h : before.Picks side given after)
    (htidy : before.Tidy) : after.Agrees side.control := by
  obtain ⟨hdocument, hpage⟩ := h
  unfold Agrees
  rw [held_side]
  dsimp only
  rw [if_pos rfl]
  exact value_set_of_there (htidy.there side.control (by cases side <;> decide)) _

theorem Picks.keeps {side : Side} {given : Option String} (h : before.Picks side given after)
    (hname : name ≠ side.control) : before.Keeps name after := by
  obtain ⟨hdocument, hpage⟩ := h
  refine ⟨value_set_of_ne before hname _, ?_⟩
  cases name with
  | old | new =>
    cases side with
    | old | new => first | rfl | exact absurd rfl hname
  | _ => rfl

/-- Branches that have come are chosen on both sides and shown there. -/
theorem agrees_apply (htidy : view.Tidy) (branches : List Branch) (inUrl : Side → Option String)
    (side : Side) : (view.apply branches inUrl).Agrees side.control := by
  obtain ⟨old, hold⟩ := Option.isSome_iff_exists.mp (htidy.there .old (by decide))
  obtain ⟨new, hnew⟩ := Option.isSome_iff_exists.mp (htidy.there .new (by decide))
  cases side with
  | old => simp [Agrees, apply, set, held, Side.control, hold]
  | new => simp [Agrees, apply, set, held, Side.control, hnew]

theorem keeps_apply (view : View) (branches : List Branch) (inUrl : Side → Option String)
    (h : ∀ side : Side, name ≠ side.control) : view.Keeps name (view.apply branches inUrl) := by
  have hold : name ≠ .old := h .old
  have hnew : name ≠ .new := h .new
  refine ⟨by simp [apply, set, hold, hnew], ?_⟩
  cases name with
  | old => exact absurd rfl hold
  | new => exact absurd rfl hnew
  | _ => rfl

/-- A step leaves a control alone or makes it agree. -/
theorem Step.keeps_or_agrees (h : before.Step after) (htidy : before.Tidy) (name : ControlName) :
    before.Keeps name after ∨ after.Agrees name := by
  cases h with
  | binds | opens => exact .inl ⟨rfl, by cases name <;> rfl⟩
  | selects repo hselects =>
    by_cases hname : name = .repo
    · exact .inr (hname ▸ hselects.agrees htidy)
    · exact .inl (hselects.keeps hname)
  | @applies branches inUrl hurl =>
    by_cases hside : ∃ side : Side, name = side.control
    · obtain ⟨side, rfl⟩ := hside
      exact .inr (agrees_apply htidy branches inUrl side)
    · exact .inl (keeps_apply before branches inUrl fun side heq => hside ⟨side, heq⟩)

theorem Goes.keeps_or_agrees (h : before.Goes after) (htidy : before.Tidy) (name : ControlName) :
    before.Keeps name after ∨ after.Agrees name := by
  induction h with
  | refl => exact .inl ⟨rfl, rfl⟩
  | tail hgoes hstep ih =>
    rcases hstep.keeps_or_agrees (Goes.tidy hgoes htidy) name with hkeeps | hagrees
    · exact ih.imp (·.trans hkeeps) hkeeps.agrees
    · exact .inr hagrees

theorem keeps_set {other : ControlName} (view : View) (h : name ≠ other) (value : Json) :
    view.Keeps name (view.set other value) := by
  refine ⟨value_set_of_ne view h value, ?_⟩
  cases name <;> rfl

/-- An event leaves a control alone or makes it agree, unless the user changes this control. -/
theorem Moves.keeps_or_agrees (h : before.Moves event after) (htidy : before.Tidy)
    (hother : ∀ value, event ≠ .change name value) :
    before.Keeps name after ∨ after.Agrees name := by
  cases event with
  | pick side given =>
    rcases h with rfl | hpicks
    · exact .inl ⟨rfl, rfl⟩
    · by_cases hname : name = side.control
      · exact .inr (hname ▸ hpicks.agrees htidy)
      · exact .inl (hpicks.keeps hname)
  | change changed value =>
    have hne : name ≠ changed := fun heq => hother value (heq ▸ rfl)
    refine .inl ((keeps_set before hne value).trans ?_)
    cases h with
    | picks hside _ hpicks => exact hpicks.keeps (hside ▸ hne)
    | stays _ => exact ⟨rfl, rfl⟩
  | _ => exact Goes.keeps_or_agrees h htidy name

/-- A change of the control to the value has no effect but this one: the control has no listener
yet, or the value is none that it picks.  The control of the repository takes any text that is not
empty. -/
def Ignores (view : View) (name : ControlName) (value : Json) : Prop :=
  view.isBound = true →
    match name with
    | .repo => ∀ repo, value = .text repo → repo = ""
    | _ => view.Refuses value

/-- A control that the user changes agrees then, or it has a value that is ignored. -/
theorem Changes.agrees_or_ignored {side : Side} {value : Json}
    (h : before.Changes side.control value after) (htidy : before.Tidy) :
    after.Agrees side.control ∨
      before.Ignores side.control value ∧ after = before.set side.control value := by
  cases h with
  | @picks other given after hname hgiven hpicks =>
    have hagrees := hpicks.agrees (htidy.set side.control value)
    rw [← hname] at hagrees
    exact .inl hagrees
  | stays hrefuses =>
    refine .inr ⟨fun hbound => ?_, rfl⟩
    have hrefused := hrefuses hbound side rfl
    cases side <;> exact hrefused

theorem Changes.eq_set_repo {value : Json} (h : before.Changes .repo value after) :
    after = before.set .repo value := by
  cases h with
  | @picks side _ _ hside => cases side <;> cases hside
  | stays _ => rfl

end View

namespace Session

variable {session : Session} {events : List FlowEvent} {name : ControlName}

/-- The control shows a value to which the user has changed it, and which was ignored: what the
workflow holds is what it held before. -/
def LeftBy (session : Session) (events : List FlowEvent) (name : ControlName) : Prop :=
  ∃ earlier value later, events = earlier ++ .change name value :: later ∧
    (session.after earlier).view.Ignores name value ∧
    ∀ done rest, later = done ++ rest →
      let now := (session.after (earlier ++ .change name value :: done)).view
      now.value name = some value ∧ now.held name = (session.after earlier).view.held name

/-- The selection of the repository that its control shows is in line to begin. -/
def Awaited (session : Session) : Prop :=
  ∃ (task : TaskId) (repo : String), session.tasks[task]? = some (.begins (.selectRepo repo)) ∧
    session.view.value .repo = some (.text repo)

/-- The control agrees, or there is a reason for what it shows. -/
def Accounts (session : Session) (events : List FlowEvent) (name : ControlName) : Prop :=
  (session.after events).view.Agrees name ∨ session.LeftBy events name ∨
    name = .repo ∧ (session.after events).Awaited

theorem after_concat (session : Session) (events : List FlowEvent) (event : FlowEvent) :
    session.after (events ++ [event]) = (session.after events).step event :=
  after_append session events [event]

/-- A change that is ignored leaves its value in the control. -/
theorem leftBy_change {value : Json} (hignores : (session.after events).view.Ignores name value)
    (hthere : ((session.after events).view.value name).isSome = true)
    (hset : (session.after (events ++ [.change name value])).view =
      (session.after events).view.set name value) :
    session.LeftBy (events ++ [.change name value]) name := by
  refine ⟨events, value, [], rfl, hignores, fun done rest heq => ?_⟩
  obtain ⟨rfl, rfl⟩ := List.append_eq_nil_iff.mp heq.symm
  simp only [hset]
  refine ⟨View.value_set_of_there hthere value, ?_⟩
  cases name <;> rfl

theorem LeftBy.concat (h : session.LeftBy events name) {event : FlowEvent}
    (hkeeps : (session.after events).view.Keeps name (session.after (events ++ [event])).view) :
    session.LeftBy (events ++ [event]) name := by
  obtain ⟨earlier, value, later, rfl, hignores, hlater⟩ := h
  refine ⟨earlier, value, later ++ [event], by simp, hignores, fun done rest heq => ?_⟩
  rcases List.append_eq_append_iff.mp heq with ⟨more, rfl, hmore⟩ | ⟨more, rfl, -⟩
  · rcases List.singleton_eq_append_iff.mp hmore with ⟨rfl, -⟩ | ⟨rfl, -⟩
    · rw [List.append_nil]
      exact hlater later [] (List.append_nil _).symm
    · obtain ⟨hvalue, hheld⟩ := hlater later [] (List.append_nil _).symm
      have hsame : earlier ++ .change name value :: (later ++ [event]) =
          earlier ++ .change name value :: later ++ [event] := by simp
      rw [hsame]
      exact ⟨hkeeps.value.trans hvalue, hkeeps.held.trans hheld⟩
  · exact hlater done more rfl

/-- The user has changed the control of the repository to a text: its selection is in line. -/
theorem awaited_change (htidy : session.view.Tidy) (hbound : session.isBound = true) {repo : String}
    (hrepo : repo ≠ "") : (session.step (.change .repo (.text repo))).Awaited := by
  obtain ⟨-, -, hchanges, htasks⟩ := of_run (Action.leads_change_view htidy .repo (.text repo))
  refine ⟨session.tasks.length, repo, ?_, ?_⟩
  · simp only [step, htasks rfl hbound repo rfl hrepo]
    exact List.getElem?_concat_length ..
  · simp only [step, hchanges.eq_set_repo]
    exact View.value_set_of_there (htidy.there .repo (by decide)) _

/-- What is in line to begin is the selection of the repository that its control shows, until the
selection begins and is shown. -/
theorem Sound.awaited_step (h : session.Sound) (htidy : session.view.Tidy)
    (hawaited : session.Awaited) {event : FlowEvent}
    (hkeeps : session.view.Keeps .repo (session.step event).view) :
    (session.step event).Awaited ∨ (session.step event).view.Agrees .repo := by
  obtain ⟨task, repo, hs, hvalue⟩ := hawaited
  rcases h.task_step hs event with ⟨new, hnew, hdrifts⟩ | ⟨place, action, rfl, -, hstretch, hstep⟩
  · cases hdrifts with
    | same => exact .inl ⟨task, repo, hnew, hkeeps.value.trans hvalue⟩
  · refine .inr ?_
    obtain rfl := hstretch.of_begins hs
    have hselects := Action.leads_selectRepo_view (session.without place) task repo false
    have hview : ∀ after : View,
        (∃ middle, View.Selects repo session.view middle ∧ middle.Goes after) →
        after.Agrees .repo := by
      rintro after ⟨middle, hmiddle, hgoes⟩
      have hshown := hmiddle.agrees htidy
      rcases hgoes.keeps_or_agrees ((View.Step.selects repo hmiddle).tidy htidy) .repo with
        hkept | hagrees
      · exact hkept.agrees hshown
      · exact hagrees
    rw [hstep]
    exact @part_follow _ view (·.Agrees .repo) _ _ task (fun _ _ => rfl)
      (hselects.mono (fun _ _ h => hview _ (h htidy)) fun _ _ h => hview _ (h htidy))

variable {session : Session} {events : List FlowEvent} {name : ControlName}

/-- Each event keeps account of a control that does not agree. -/
theorem Sound.accounts_step (h : session.Sound) (htidy : session.view.Tidy)
    (hname : name ∈ neededControls)
    (haccounts : session.Accounts events name) (event : FlowEvent) :
    session.Accounts (events ++ [event]) name := by
  have hnow := (h.after events).sound
  have htidyNow := tidy_after htidy events
  have hmoves := moves_step htidyNow event
  have hnext := after_concat session events event
  -- Only a change of this very control can put it at odds with the workflow.
  by_cases hchange : ∃ value, event = .change name value
  · obtain ⟨value, rfl⟩ := hchange
    have hchanges : (session.after events).view.Changes name value
        ((session.after events).step (.change name value)).view := hmoves
    have hleft : (session.after events).view.Ignores name value →
        ((session.after events).step (.change name value)).view =
          (session.after events).view.set name value →
        session.Accounts (events ++ [.change name value]) name := by
      intro hignores hset
      rw [← hnext] at hset
      exact .inr (.inl (leftBy_change hignores (htidyNow.there name hname) hset))
    have hside : ∀ side : Side, name = side.control →
        session.Accounts (events ++ [.change name value]) name := by
      rintro side rfl
      rcases hchanges.agrees_or_ignored htidyNow with hagrees | ⟨hignores, hset⟩
      · rw [← hnext] at hagrees
        exact .inl hagrees
      · exact hleft hignores hset
    cases name with
    | old => exact hside .old rfl
    | new => exact hside .new rfl
    | repo =>
      by_cases hrepo : (session.after events).isBound = true ∧ ∃ repo, value = .text repo ∧ repo ≠ ""
      · -- The listener has put the selection in line; until it begins, the control is ahead.
        obtain ⟨hbound, repo, rfl, hne⟩ := hrepo
        refine .inr (.inr ⟨rfl, ?_⟩)
        rw [hnext]
        exact awaited_change htidyNow hbound hne
      · refine hleft (fun hbound repo heq => ?_) hchanges.eq_set_repo
        by_contra hne
        exact hrepo ⟨hbound, repo, heq, hne⟩
    | _ => simp [neededControls] at hname
  · rcases hmoves.keeps_or_agrees htidyNow fun value heq => hchange ⟨value, heq⟩ with
      hkeeps | hagrees
    · rcases haccounts with hagrees | hleft | ⟨rfl, hawaited⟩
      · refine .inl ?_
        rw [hnext]
        exact hkeeps.agrees hagrees
      · rw [← hnext] at hkeeps
        exact .inr (.inl (hleft.concat hkeeps))
      · rcases hnow.awaited_step htidyNow hawaited hkeeps with hawaited | hagrees
        · rw [← hnext] at hawaited
          exact .inr (.inr ⟨rfl, hawaited⟩)
        · rw [← hnext] at hagrees
          exact .inl hagrees
    · rw [← hnext] at hagrees
      exact .inl hagrees

theorem Sound.accounts_append (h : session.Sound) (htidy : session.view.Tidy)
    (hname : name ∈ neededControls) (haccounts : session.Accounts events name)
    (more : List FlowEvent) : session.Accounts (events ++ more) name := by
  induction more generalizing events with
  | nil => rwa [List.append_nil]
  | cons event more ih =>
    have hrest := ih (h.accounts_step htidy hname haccounts event)
    rwa [List.append_assoc] at hrest

/-- The controls of a new session are empty, and it holds nothing. -/
theorem agrees_of_make {parts : Parts} (hmake : make parts = .ok session)
    (hthere : (session.view.value name).isSome = true) : session.view.Agrees name := by
  unfold make at hmake
  dsimp only at hmake
  split at hmake
  · obtain rfl := Except.ok.inj hmake
    simp only [view, control?, lookup_fresh, Option.map_map, Option.isSome_map] at hthere
    obtain ⟨hasOptions, hlookup⟩ := Option.isSome_iff_exists.mp hthere
    simp only [View.Agrees, view, control?, lookup_fresh, hlookup]
    cases name <;> rfl
  · cases hmake

/-- When all operations are over, the controls of the repository and of the branches agree, except
for one that still shows a value to which the user has changed it and which was ignored. -/
theorem agrees_of_run {parts : Parts} (hmake : make parts = .ok session) {limit : Seconds}
    {ready : List (String × Reply)} (hcache : parts.cache = .fresh limit ready)
    (hwritable : parts.document ≠ .directory) (hpage : Url.WellFormed parts.page.url)
    (events : List FlowEvent)
    (hover : ∀ state ∈ (session.after events).tasks, state.isOver = true) :
    ∀ name ∈ neededControls,
      (session.after events).view.Agrees name ∨ session.LeftBy events name := by
  intro name hname
  have hsound := (sound_of_make hmake hcache).1
  have htidy := tidy_of_make hmake hwritable hpage
  have hfirst : session.Accounts [] name :=
    .inl (agrees_of_make hmake (htidy.there name hname))
  rcases hsound.accounts_append htidy hname hfirst events with
    hagrees | hleft | ⟨-, task, repo, hs, -⟩
  · exact .inl hagrees
  · exact .inr hleft
  · cases hover _ (List.mem_of_getElem? hs)

/-- The controls are bound, and a repository is selected and its branches come in. -/
def boundSelection : List FlowEvent :=
  [.begin .restore, .turn 0, .begin (.selectRepo "polkadot")] ++ turns 3 ++
    [.answerFetch 0 (.answer [⟨"master", "a1"⟩, ⟨"gav-xcm", "b2"⟩])] ++ turns 6

/-- Then the user changes the first branch to one that does not exist. -/
def unknownBranch : List FlowEvent := boundSelection ++ [.change .old (.text "nope")]

theorem not_leftBy_unknownBranch {name : ControlName} (hname : name ≠ .old) :
    ¬ session.LeftBy unknownBranch name := by
  rintro ⟨earlier, value, later, heq, -⟩
  have hmem : FlowEvent.change name value ∈ unknownBranch := heq ▸ by simp
  simp [unknownBranch, boundSelection, turns, hname] at hmem

theorem agrees_of_run_unknownBranch : ∃ session, make standardParts = .ok session ∧
    let now := (session.after unknownBranch).view
    now.Agrees .repo ∧ now.Agrees .new ∧ ¬ now.Agrees .old ∧
      session.LeftBy unknownBranch .old := by
  have hrun : ((make standardParts).toOption.any fun session =>
      let now := session.after unknownBranch
      now.tasks.all TaskState.isOver = true ∧
        (now.view.value .old).bind Json.text? = some "nope" ∧
        now.view.held .old = some "master") = true := by decide +kernel
  obtain ⟨session, hmake, hchecks⟩ := exists_make_of_any hrun
  obtain ⟨hover, hshown, hheld⟩ := of_decide_eq_true hchecks
  have hcache : standardParts.cache = .fresh (.whole 30) [] := rfl
  have hcontrols := agrees_of_run hmake hcache (by decide) wellFormed_standard unknownBranch
    (List.all_eq_true.mp hover)
  have hagrees : ∀ name ∈ neededControls, name ≠ .old →
      (session.after unknownBranch).view.Agrees name := fun name hname hne =>
    (hcontrols name hname).resolve_right (not_leftBy_unknownBranch hne)
  have hrefused : ¬ (session.after unknownBranch).view.Agrees .old := by
    intro hagrees
    rw [hagrees, hheld] at hshown
    exact absurd hshown (by decide)
  exact ⟨session, hmake, hagrees .repo (by decide) (by decide), hagrees .new (by decide) (by decide),
    hrefused, (hcontrols .old (by decide)).resolve_left hrefused⟩

/-- A bound control may show what the workflow does not hold, when all operations are over. -/
theorem disagrees_unknownBranch : ¬ ∀ (parts : Parts) (session : Session) (limit : Seconds)
    (opening events : List FlowEvent) (name : ControlName), make parts = .ok session →
    parts.cache = .fresh limit [] → parts.document ≠ .directory →
    Url.WellFormed parts.page.url → (session.after opening).isBound = true →
    (∀ state ∈ ((session.after opening).after events).tasks, state.isOver = true) →
    name ∈ neededControls → ((session.after opening).after events).view.Agrees name := by
  intro hall
  have hrun : ((make standardParts).toOption.any fun session =>
      let bound := session.after boundSelection
      let now := bound.after [.change .old (.text "nope")]
      bound.isBound = true ∧ now.tasks.all TaskState.isOver = true ∧
        (now.view.value .old).bind Json.text? = some "nope" ∧
        now.view.held .old = some "master") = true := by decide +kernel
  obtain ⟨session, hmake, hchecks⟩ := exists_make_of_any hrun
  obtain ⟨hbound, hover, hshown, hheld⟩ := of_decide_eq_true hchecks
  have hagrees := hall standardParts session (.whole 30) boundSelection _ .old hmake rfl
    (by decide) wellFormed_standard hbound (List.all_eq_true.mp hover) (by decide)
  rw [hagrees, hheld] at hshown
  exact absurd hshown (by decide)

end Session

end BranchCompare
