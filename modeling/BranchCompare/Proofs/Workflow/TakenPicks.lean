import BranchCompare.Proofs.Query.Placed
import BranchCompare.Proofs.Workflow.Fixtures
import BranchCompare.Proofs.Workflow.KeptPicks

/-!
# What a pick changes

A pick that is not refused is shown by the workflow and in its control, remembered in the store and
written in the URL, and nothing else is touched: neither the other branch, with its control, its value
in the store and its pairs in the query, nor the other parts of the URL (`Session.Takes`).  This holds
in every session that can be reached, whatever the workflow is at, as long as the store can be written
and the place of the URL can be read (`pick_of_reachable`).
-/

namespace BranchCompare

open BranchCompare.Action (Side nonEmpty valueOf)

namespace Query

variable {name : String} {given : Option String} {pairs : List Form.Pair}

/-- The pairs with the name set to the text, or without the name. -/
def give (name : String) (given : Option String) : List Form.Pair → List Form.Pair :=
  match given with
  | some text => setName name text
  | none => dropName name

/-- The pairs of the other names stay as they are, in order. -/
theorem dropName_give : dropName name (give name given pairs) = dropName name pairs := by
  have hdropped : ∀ rest, dropName name (dropName name rest) = dropName name rest := fun rest => by
    simp [dropName, List.filter_filter]
  cases given with
  | none => exact hdropped pairs
  | some text =>
    unfold give
    dsimp only
    induction pairs with
    | nil => simp [setName, dropName]
    | cons pair rest ih =>
      unfold setName
      split
      · next heq =>
        have hout : ∀ more (found : Form.Pair), found.1 = name →
            dropName name (found :: more) = dropName name more := fun more found hfound =>
          List.filter_cons_of_neg (by simp [hfound])
        rw [hout _ _ rfl, hout _ _ heq, hdropped]
      · next hne =>
        have hin : ∀ more, dropName name (pair :: more) = pair :: dropName name more := fun more =>
          List.filter_cons_of_pos (by simpa using hne)
        rw [hin, hin, ih]

end Query

namespace Page

variable {page : Page} {name : String} {given : Option String} {pairs : List Form.Pair}

/-- A name that was given its text has it. -/
theorem paramOf_give (hgiven : given ≠ some "") :
    paramOf name none (Query.give name given pairs) = given := by
  cases given with
  | none => exact paramOf_dropName_self
  | some text => exact paramOf_setName_self fun hempty => hgiven (congrArg some hempty)

/-- A pick in the URL is an edit of its pairs. -/
theorem replaceParam_valueOf (hgiven : given ≠ some "") : page.replaceParam name (valueOf given) =
    (Query.edit (Query.give name given) page.url).map page.replace := by
  cases given with
  | none => rfl
  | some text =>
    have hne : text ≠ "" := fun hempty => hgiven (congrArg some hempty)
    exact congrArg (Except.map page.replace) (if_neg hne)

end Page

namespace Session

/-- A branch of the side has been picked, or the pick has been taken back, and nothing else is
changed. -/
structure Takes (side : Side) (name : Option String) (before after : Session) : Prop where
  flow : after.flow = match side with
    | .old => { before.flow with first := name }
    | .new => { before.flow with second := name }
  control : ∃ control, before.control? side.control = some control ∧
    after.control? side.control =
      some { control with control := control.control.set (valueOf name) }
  controls : ∀ other ≠ side.control, after.control? other = before.control? other
  store : ∀ key, after.store.get? key = if key = side.key then name else before.store.get? key
  document : after.document = .ofText after.store.fileText
  history : after.page.history = before.page.history
  param : after.page.param side.control.label none = .ok name
  url : ∃ parts query, Url.split before.page.url = .ok parts ∧
    Url.split after.page.url = .ok { parts with query := query }
  pairs : ∃ found changed, Query.pairs before.page.url = .ok found ∧
    Query.pairs after.page.url = .ok changed ∧
    changed.filter (·.1 ≠ side.control.label) = found.filter (·.1 ≠ side.control.label)
  rest : after = { before with
    flow := after.flow, controls := after.controls, store := after.store,
    document := after.document, page := after.page }

variable {session now : Session} {parts : Url} {side : Side} {name : Option String}
  {control : FlowControl}

/-- The session in which a pick is shown, remembered and written in the URL. -/
def taken (session : Session) (side : Side) (name : Option String) (url : String) : Session :=
  let store := session.store.assign side.key name
  { session.modifyControl side.control fun control =>
      { control with control := control.control.set (valueOf name) } with
    store := store
    document := .ofText store.fileText
    page := session.page.replace url
    flow := match side with
      | .old => { session.flow with first := name }
      | .new => { session.flow with second := name } }

/-- The session of a pick that was taken is what a pick takes. -/
theorem takes_taken (hsplit : Url.split session.page.url = .ok parts) (hplaced : parts.Placed)
    (hcontrol : session.control? side.control = some control) (hname : name ≠ some "") :
    ∃ url, session.page.replaceParam side.control.label (valueOf name) =
        .ok (session.page.replace url) ∧
      session.Takes side name (session.taken side name url) := by
  obtain ⟨found, url, query, hfound, hedit, hpairs, hparts⟩ :=
    Query.split_edit (Query.give side.control.label name) hsplit hplaced
  refine ⟨url, ?_, ?_⟩
  · rw [Page.replaceParam_valueOf hname, hedit]
    rfl
  have hcontrols : ∀ other, (session.taken side name url).control? other =
      if other = side.control then (session.control? other).map fun control =>
        { control with control := control.control.set (valueOf name) }
      else session.control? other := fun other =>
    session.control?_modifyControl side.control (fun control =>
      { control with control := control.control.set (valueOf name) }) other
  exact
    { flow := rfl
      control := ⟨control, hcontrol, by rw [hcontrols, if_pos rfl, hcontrol, Option.map_some]⟩
      controls := fun other hother => (hcontrols other).trans (if_neg hother)
      store := fun key => SelectionStore.get?_assign ..
      document := rfl
      history := rfl
      param := (Page.param_of_pairs (session.page.replace url) hpairs ..).trans
        (congrArg Except.ok (Page.paramOf_give hname))
      url := ⟨parts, query, hsplit, hparts⟩
      pairs := ⟨found, _, hfound, hpairs, Query.dropName_give⟩
      rest := rfl }

theorem nonEmpty_ne_empty (name : Option String) : nonEmpty name ≠ some "" := fun hempty =>
  (Action.mem_of_nonEmpty hempty).2 rfl

end Session

namespace Action

variable {session : Session} {parts : Url} {side : Side} {control : FlowControl}

/-- What is remembered is written where the file can be. -/
theorem leads_remember_written (h : session.document ≠ .directory) {key : SelectionKey}
    {value : Option String} {ends : Unit → Session → Prop} {breaks : Crash → Session → Prop} :
    Leads (remember key value) session ends breaks ↔
      ends () { session with
        store := session.store.assign key value
        document := .ofText (session.store.assign key value).fileText } := by
  rw [leads_remember]
  unfold SelectionStore.set
  cases hdocument : session.document with
  | directory => exact absurd hdocument h
  | absent | file octets => exact Iff.rfl

/-- A pick takes place as a whole, or it is refused. -/
theorem leads_pick_takes (hwritable : session.document ≠ .directory)
    (hsplit : Url.split session.page.url = .ok parts) (hplaced : parts.Placed)
    (hcontrol : session.control? side.control = some control) (name : Option String) :
    Leads (pick side name) session
      (fun given after =>
        (given = false ↔ ∃ text, nonEmpty name = some text ∧
          Branch.named text session.flow.branches = false) ∧
        (given = false → after = session) ∧
        (given = true → session.Takes side (nonEmpty name) after))
      fun _ _ => False := by
  obtain ⟨url, hpage, htakes⟩ :=
    Session.takes_taken hsplit hplaced hcontrol (Session.nonEmpty_ne_empty name)
  rw [pick_eq, leads_bind, leads_get]
  split
  · next hrefused =>
    obtain ⟨text, htext, hnamed⟩ := Option.map_eq_some_iff.mp hrefused
    exact leads_pure.mpr ⟨iff_of_true rfl ⟨text, htext, hnamed⟩, fun _ => rfl, nofun⟩
  · next haccepted =>
    have hlisted : ¬ ∃ text, nonEmpty name = some text ∧
        Branch.named text session.flow.branches = false := by
      rintro ⟨text, htext, hnamed⟩
      exact haccepted (by rw [htext, Option.map_some, hnamed])
    let shown : Session := session.modifyControl side.control fun control =>
      { control with control := control.control.set (valueOf (nonEmpty name)) }
    have hshown : shown.document ≠ .directory := hwritable
    have hedit : shown.page.replaceParam side.control.label (valueOf (nonEmpty name)) =
        .ok (session.page.replace url) := hpage
    unfold keep setControl
    rw [leads_bind, leads_bind, leads_modify, leads_bind, leads_remember_written hshown,
      leads_editPage]
    dsimp only
    rw [hedit]
    dsimp only
    rw [leads_bind, leads_modifyFlow, leads_pure]
    exact ⟨iff_of_false nofun hlisted, nofun, fun _ => htakes⟩

end Action

/-- A name is not in the list if no branch has it. -/
theorem Branch.named_eq_false_iff {name : String} {branches : List Branch} :
    Branch.named name branches = false ↔ ∀ branch ∈ branches, branch.name ≠ name := by
  simp [Branch.named]

namespace Session

variable {now : Session}

/-- A pick is refused if it is a name that no branch of the list has, and then nothing is changed.
Otherwise it is shown, remembered and written in the URL, and nothing else is changed. -/
theorem pick_of_reachable {parts : Parts} {url : Url} (hreachable : Reachable parts now)
    (hwritable : now.document ≠ .directory) (hsplit : Url.split now.page.url = .ok url)
    (hplaced : url.Placed) (side : Side) (name : Option String) :
    ∃ after given, now.run (Action.pick side name) = (after, .ok given) ∧
      (given = false ↔ ∃ text, name = some text ∧ text ≠ "" ∧
        ∀ branch ∈ now.flow.branches, branch.name ≠ text) ∧
      (given = false → after = now) ∧
      (given = true → now.Takes side (nonEmpty name) after) := by
  have hneeded : side.control ∈ neededControls := by cases side <;> decide
  obtain ⟨control, hcontrol⟩ := hreachable.exists_control hneeded
  obtain ⟨given, hgiven, hrefused, hstays, htakes⟩ :=
    of_run (Action.leads_pick_takes hwritable hsplit hplaced hcontrol name)
  refine ⟨_, given, Prod.ext rfl hgiven, hrefused.trans ?_, hstays, htakes⟩
  constructor
  · rintro ⟨text, htext, hnamed⟩
    obtain ⟨hname, hne⟩ := Action.mem_of_nonEmpty htext
    exact ⟨text, hname, hne, Branch.named_eq_false_iff.mp hnamed⟩
  · rintro ⟨text, rfl, hne, hnone⟩
    exact ⟨text, if_pos (decide_eq_true hne), Branch.named_eq_false_iff.mpr hnone⟩

/-- A page whose URL names both branches, and the first one twice. -/
def repeatingPage : Page := .ofUrl "https://host/a?old=x&unit=time&new=bench&old=y#row"

theorem pick_of_reachable_repeatingPage : ∃ session, make standardParts = .ok session ∧
    let now := { session.after shownBranches with page := repeatingPage }
    ∃ after, now.run (Action.pick .old (some "gav-xcm")) = (after, .ok true) ∧
      now.Takes .old (some "gav-xcm") after := by
  have hrun : ((make standardParts).toOption.any fun session =>
      let now := session.after shownBranches
      now.document ≠ .directory ∧ Branch.named "gav-xcm" now.flow.branches = true) = true := by
    decide +kernel
  obtain ⟨session, hmake, hchecks⟩ := exists_make_of_any hrun
  obtain ⟨hwritable, hnamed⟩ := of_decide_eq_true hchecks
  have hsplit : Url.split repeatingPage.url =
      .ok ⟨"https", "host", "/a", "old=x&unit=time&new=bench&old=y", "row"⟩ := by decide +kernel
  have hplaced : Url.Placed ⟨"https", "host", "/a", "old=x&unit=time&new=bench&old=y", "row"⟩ := by
    decide
  have hname : nonEmpty (some "gav-xcm") = some "gav-xcm" := by decide
  have hreachable := ((Reachable.made hmake).after shownBranches).leads repeatingPage
  refine ⟨session, hmake, ?_⟩
  generalize session.after shownBranches = shown at *
  obtain ⟨after, given, hpick, hrefused, -, htakes⟩ :=
    pick_of_reachable hreachable hwritable hsplit hplaced .old (some "gav-xcm")
  cases given with
  | true => exact ⟨after, hpick, hname ▸ htakes rfl⟩
  | false =>
    obtain ⟨text, htext, -, hnone⟩ := hrefused.mp rfl
    cases htext
    exact absurd hnamed (Bool.eq_false_iff.mp (Branch.named_eq_false_iff.mpr hnone))

end Session

end BranchCompare
