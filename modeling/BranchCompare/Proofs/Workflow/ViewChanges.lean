import BranchCompare.Proofs.Workflow.Views

/-!
# How picks and the user change what is shown

A pick of a branch that is in the list is shown, remembered and written in the URL, and any other
one changes nothing (`leads_pick_view`).  A change of a control by the user is shown first, and
then the value is picked or refused (`leads_change_view`).
-/

namespace BranchCompare.Action

/-- A pick is refused, or it is kept. -/
theorem pick_eq (side : Side) (name : Option String) :
    pick side name = (do
      let session ← get
      match (nonEmpty name).map fun text => Branch.named text session.flow.branches with
      | some false => return false
      | _ =>
        keep side.control side.key (nonEmpty name)
        modifyFlow fun flow => match side with
          | .old => { flow with first := nonEmpty name }
          | .new => { flow with second := nonEmpty name }
        return true) := by
  unfold pick keep
  refine bind_congr fun session => ?_
  dsimp only
  cases (nonEmpty name).map fun text => Branch.named text session.flow.branches with
  | none => cases side <;> simp only [bind_assoc]
  | some listed => cases listed <;> cases side <;> simp only [bind_assoc]

theorem view_takePick (session : Session) (side : Side) (name : Option String) :
    ({ session with flow := match side with
        | .old => { session.flow with first := name }
        | .new => { session.flow with second := name } } : Session).view =
      { session.view with
        picked := fun other => if other = side then name else session.view.picked other } := by
  cases side <;>
    exact View.ext rfl rfl (funext fun other => by cases other <;> rfl) rfl rfl rfl rfl rfl rfl

/-- A name that is in the list of branches is picked, and no name takes the pick back. -/
theorem leads_pick_view {session : Session} (h : session.view.Tidy) (side : Side)
    (name : Option String) :
    Leads (pick side name) session
      (fun given after =>
        if given then
          session.view.Picks side (nonEmpty name) after.view ∧
            ∀ text, nonEmpty name = some text → Branch.named text session.flow.branches = true
        else
          after = session ∧
            ∃ text, nonEmpty name = some text ∧ Branch.named text session.flow.branches = false)
      fun _ _ => False := by
  rw [pick_eq, leads_bind, leads_get]
  split
  · next hrefused =>
    obtain ⟨text, htext, hnamed⟩ := Option.map_eq_some_iff.mp hrefused
    exact ⟨rfl, text, htext, hnamed⟩
  · next haccepted =>
    rw [leads_bind]
    refine (leads_keep h side.control side.key (nonEmpty name)).mono ?_ fun _ _ hfalse => hfalse
    rintro _ kept ⟨document, page, hdocument, hpage, -, -, hview⟩
    have hpicks : session.view.Picks side (nonEmpty name) { kept.view with
        picked := fun other => if other = side then nonEmpty name else kept.view.picked other } := by
      rw [hview]
      exact .intro hdocument hpage
    rw [← view_takePick] at hpicks
    have hnamed : ∀ text, nonEmpty name = some text →
        Branch.named text session.flow.branches = true := by
      intro text htext
      by_contra hnot
      rw [Bool.not_eq_true] at hnot
      exact haccepted (by rw [htext, Option.map_some, hnot])
    rw [leads_bind, leads_modifyFlow, leads_pure, if_pos rfl]
    exact ⟨hpicks, hnamed⟩

theorem nonEmpty_nonEmpty (text : Option String) : nonEmpty (nonEmpty text) = nonEmpty text := by
  unfold nonEmpty
  rw [Option.filter_filter]
  simp only [Bool.and_self]

theorem nonEmpty_chosen {value : Json} {given : Option String}
    (h : View.chosen? value = some given) : nonEmpty given = given := by
  unfold View.chosen? at h
  split at h
  · rw [← Option.some.inj h, nonEmpty_nonEmpty]
  · split at h
    · rw [← Option.some.inj h]
      rfl
    · cases h

def Side.listener : Side → FlowListener
  | .old => .pickFirst
  | .new => .pickSecond

/-- The control of a side tells of a pick, if the value is one. -/
theorem leads_tell_pick {session : Session} (h : session.view.Tidy) (side : Side) (value : Json) :
    Leads (tell value side.listener) session
      (fun _ after =>
        (∃ given, View.chosen? value = some given ∧ session.view.Picks side given after.view) ∨
        after = session ∧ session.view.Refuses value)
      fun _ _ => False := by
  have hpick : ∀ name, pick side (some name) = pick side (nonEmpty (some name)) := by
    intro name
    unfold pick
    rw [nonEmpty_nonEmpty]
  have htell : tell value side.listener =
      (View.chosen? value).elim (pure ()) fun given => discard (pick side given) := by
    cases value with
    | text name =>
      cases side with
      | old | new => exact congrArg discard (hpick name)
    | _ =>
      cases side with
      | old | new =>
        simp only [tell, Side.listener, View.chosen?]
        split <;> rfl
  rw [htell]
  cases hchosen : View.chosen? value with
  | none =>
    refine .inr ⟨rfl, fun given hgiven => ?_⟩
    rw [hchosen] at hgiven
    cases hgiven
  | some given =>
    show Leads (pick side given >>= fun _ => pure ()) session _ _
    rw [leads_bind]
    refine (leads_pick_view h side given).mono (fun accepted after hpicked => ?_)
      fun _ _ hfalse => hfalse
    rw [nonEmpty_chosen hchosen] at hpicked
    rw [leads_pure]
    cases accepted with
    | true => exact .inl ⟨given, rfl, hpicked.1⟩
    | false =>
      obtain ⟨rfl, text, htext, hnamed⟩ := hpicked
      refine .inr ⟨rfl, fun other hother => ⟨text, ?_, hnamed⟩⟩
      rw [hchosen] at hother
      exact (Option.some.inj hother).symm.trans htext

/-- A change of a control changes the view as its value says. -/
theorem leads_change_view {session : Session} (h : session.view.Tidy) (name : ControlName)
    (value : Json) :
    Leads (change name value) session
      (fun _ after => session.view.Changes name value after.view ∧
        (name = .repo → session.isBound = true → ∀ repo, value = .text repo → repo ≠ "" →
          after.tasks = session.tasks ++ [.begins (.selectRepo repo)]))
      fun _ _ => False := by
  let shown : Session := session.modifyControl name fun control =>
    { control with control := control.control.set value }
  have hshown : shown.view = session.view.set name value := session.view_setControl name value
  have htidy : shown.view.Tidy := hshown ▸ h.set name value
  have hlisteners : ((session.control? name).map fun control => control.control.listeners).getD [] =
      if session.isBound then View.wiring name else [] := h.wired name
  have hstays : (session.isBound = true → ∀ side : Side, name = side.control →
      session.view.Refuses value) → session.view.Changes name value shown.view := by
    intro hrefuses
    rw [hshown]
    exact .stays hrefuses
  have hside : ∀ side : Side, name = side.control →
      Leads ([side.listener].forM (tell value)) shown
        (fun _ after => session.view.Changes name value after.view) fun _ _ => False := by
    intro side hname
    show Leads (tell value side.listener >>= fun _ => pure ()) shown _ _
    rw [leads_bind]
    refine (leads_tell_pick htidy side value).mono (fun _ after htold => ?_)
      fun _ _ hfalse => hfalse
    rw [leads_pure]
    rcases htold with ⟨given, hgiven, hpicks⟩ | ⟨rfl, hrefuses⟩
    · rw [hshown] at hpicks
      exact .picks hname hgiven hpicks
    · rw [hshown] at hrefuses
      exact hstays fun _ _ _ => hrefuses
  unfold change setControl
  rw [leads_bind, leads_get, leads_bind, leads_modify, hlisteners]
  cases hbound : session.isBound with
  | false =>
    rw [if_neg Bool.false_ne_true]
    refine leads_pure.mpr ⟨hstays fun htrue => ?_, nofun⟩
    rw [hbound] at htrue
    cases htrue
  | true =>
    rw [if_pos rfl]
    cases name with
    | old => exact (hside .old rfl).mono (fun _ _ hchanges => ⟨hchanges, nofun⟩) fun _ _ => id
    | new => exact (hside .new rfl).mono (fun _ _ hchanges => ⟨hchanges, nofun⟩) fun _ _ => id
    | repo =>
      have hother : session.view.Changes .repo value shown.view :=
        hstays fun _ side hname => absurd hname (by cases side <;> decide)
      show Leads (tell value .pickRepo >>= fun _ => pure ()) shown _ _
      rw [leads_bind]
      unfold tell
      dsimp only
      split
      · next repo =>
        split
        · next hempty =>
          refine leads_pure.mpr (leads_pure.mpr ⟨hother, fun _ _ other heq hne => ?_⟩)
          obtain rfl := Json.text.inj heq
          exact absurd hempty hne
        · refine leads_modify.mpr (leads_pure.mpr ⟨hother, fun _ _ other heq _ => ?_⟩)
          obtain rfl := Json.text.inj heq
          rfl
      · next hnone =>
        refine leads_pure.mpr (leads_pure.mpr ⟨hother, fun _ _ other heq _ => ?_⟩)
        exact absurd heq (hnone other)
    | _ =>
      refine leads_pure.mpr ⟨hstays fun _ side hname => ?_, nofun⟩
      exact absurd hname (by cases side <;> decide)

end BranchCompare.Action
