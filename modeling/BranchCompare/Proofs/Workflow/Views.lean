import BranchCompare.Proofs.Workflow.Crashes

/-!
# What the page shows of the choices

`View` is the part of a session that picks are made from and that shows them: the repository, the
branches and the picks of the workflow, the remembered selection, the page and the values of the
controls.  An operation changes it in four ways (`View.Step`): controls are bound, a repository is
selected, branches are shown, or the page is led to a comparison.  This holds while the view is
`Tidy`, that is, while the store can be written and the URL can be changed; `Session.Tends` says it
of two sessions, and `Action.Tends` of an action.  Picks and changes by the user are told apart
(`View.Picks`, `View.Changes`).
-/

namespace BranchCompare

open BranchCompare.Action (Side valueOf nonEmpty)

/-- What a session shows of the choices, and what they are made from. -/
@[ext]
structure View where
  repo : Option String
  branches : List Branch
  picked : Side → Option String
  store : SelectionStore
  document : Document
  page : Page
  isBound : Bool
  value : ControlName → Option Json
  listeners : ControlName → List FlowListener

namespace View

/-- A control is given a value. -/
def set (view : View) (name : ControlName) (value : Json) : View :=
  { view with
    value := fun other =>
      if other = name then (view.value other).map fun _ => value else view.value other }

/-- Branches are shown, with two of them chosen. -/
def apply (view : View) (branches : List Branch) (inUrl : Side → Option String) : View :=
  let chosen := fun side : Side => Branch.choose branches (inUrl side) (view.store.get? side.key)
  { (view.set .old (valueOf (chosen .old))).set .new (valueOf (chosen .new)) with
    branches := branches
    picked := chosen }

/-- A control gets a listener. -/
def listen (view : View) (name : ControlName) (listener : FlowListener) : View :=
  { view with
    listeners := fun other =>
      if other = name then view.listeners other ++ [listener] else view.listeners other }

def bind (view : View) : View :=
  ((({ view with isBound := true }).listen .repo .pickRepo).listen .old .pickFirst).listen .new
    .pickSecond

/-- The listeners of the three controls that a session cannot do without. -/
def wiring : ControlName → List FlowListener
  | .repo => [.pickRepo]
  | .old => [.pickFirst]
  | .new => [.pickSecond]
  | _ => []

/-- The selection can be remembered, the URL can be changed, and the controls are there and have the
listeners that belong to them. -/
structure Tidy (view : View) : Prop where
  writable : view.document ≠ .directory
  page : Url.WellFormed view.page.url
  wired : ∀ name, view.listeners name = if view.isBound then wiring name else []
  there : ∀ name ∈ Session.neededControls, (view.value name).isSome = true

/-- A repository is selected. -/
inductive Selects (repo : String) (view : View) : View → Prop where
  | intro {document : Document} {page : Page} (hdocument : document ≠ .directory)
      (hpage : view.page.replaceParam ControlName.repo.label (.text repo) = .ok page) :
      Selects repo view { view.set .repo (.text repo) with
        repo := some repo
        store := view.store.assign .repo (some repo)
        document := document
        page := page }

/-- A branch is picked, or a pick is taken back. -/
inductive Picks (side : Side) (name : Option String) (view : View) : View → Prop where
  | intro {document : Document} {page : Page} (hdocument : document ≠ .directory)
      (hpage : view.page.replaceParam side.control.label (valueOf name) = .ok page) :
      Picks side name view { view.set side.control (valueOf name) with
        picked := fun other => if other = side then name else view.picked other
        store := view.store.assign side.key name
        document := document
        page := page }

/-- What an operation does at once. -/
inductive Step (view : View) : View → Prop where
  | binds (h : view.isBound = false) : Step view view.bind
  | selects (repo : String) {after : View} (h : Selects repo view after) : Step view after
  | applies (branches : List Branch) {inUrl : Side → Option String}
      (hurl : ∀ side, view.page.param side.control.label none = .ok (inUrl side)) :
      Step view (view.apply branches inUrl)
  | opens {url : String} (hurl : Url.WellFormed url) :
      Step view { view with page := view.page.navigate url }

/-- What operations do one after the other. -/
def Goes : View → View → Prop := Relation.ReflTransGen Step

/-- The pick that the user makes by a value: a branch, or none.  Other values are no picks. -/
def chosen? : Json → Option (Option String)
  | .text name => some (nonEmpty (some name))
  | value => if value.isEmpty then some none else none

/-- The value is no pick, or one of a branch that is not in the list. -/
def Refuses (view : View) (value : Json) : Prop :=
  ∀ given, chosen? value = some given →
    ∃ text, given = some text ∧ Branch.named text view.branches = false

/-- The user changes a control.  It has the new value, and if it is bound the value is picked or
refused. -/
inductive Changes (name : ControlName) (value : Json) (view : View) : View → Prop where
  | picks {side : Side} {given : Option String} {after : View} (hname : name = side.control)
      (hgiven : chosen? value = some given) (h : (view.set name value).Picks side given after) :
      Changes name value view after
  | stays (h : view.isBound = true → ∀ side : Side, name = side.control → view.Refuses value) :
      Changes name value view (view.set name value)

variable {view after : View} {name other : ControlName} {value : Json}

theorem value_set_self (view : View) (name : ControlName) (value : Json) :
    (view.set name value).value name = (view.value name).map fun _ => value := if_pos rfl

theorem value_set_of_ne (view : View) (h : other ≠ name) (value : Json) :
    (view.set name value).value other = view.value other := if_neg h

/-- Values of different controls may be set in any order. -/
theorem set_comm (view : View) (h : other ≠ name) (value given : Json) :
    (view.set name value).set other given = (view.set other given).set name value := by
  refine View.ext rfl rfl rfl rfl rfl rfl rfl ?_ rfl
  funext found
  unfold set
  dsimp only
  by_cases hname : found = name
  · rw [if_pos hname, if_neg (hname ▸ Ne.symm h), if_pos hname, if_neg (hname ▸ Ne.symm h)]
  · rw [if_neg hname, if_neg hname]

theorem apply_congr {view other : View}
    (h : ∀ first second,
      (view.set .old first).set .new second = (other.set .old first).set .new second)
    (branches : List Branch) (inUrl : Side → Option String) :
    view.apply branches inUrl = other.apply branches inUrl := by
  have hsame := h .null .null
  have hstore : view.store = other.store := by simpa only [set] using congrArg View.store hsame
  unfold apply
  rw [hstore]
  dsimp only
  rw [h]

theorem Tidy.set (h : view.Tidy) (name : ControlName) (value : Json) :
    (view.set name value).Tidy := by
  refine ⟨h.writable, h.page, h.wired, fun other hother => ?_⟩
  by_cases heq : other = name
  · rw [heq, value_set_self, Option.isSome_map]
    exact h.there name (heq ▸ hother)
  · rw [value_set_of_ne view heq]
    exact h.there other hother

theorem Step.tidy (hstep : view.Step after) (h : view.Tidy) : after.Tidy := by
  cases hstep with
  | binds hbound =>
    refine ⟨h.writable, h.page, fun name => ?_, h.there⟩
    have hnone := h.wired name
    rw [hbound, if_neg Bool.false_ne_true] at hnone
    cases name <;> simp [bind, listen, wiring, hnone]
  | selects repo hselects =>
    obtain ⟨hdocument, hpage⟩ := hselects
    obtain ⟨edited, hedited, hwell, -⟩ := Page.replaceParam_spec h.page ControlName.repo.label
      (.text repo)
    obtain rfl := Except.ok.inj (hedited.symm.trans hpage)
    have hshown := h.set .repo (.text repo)
    exact ⟨hdocument, hwell, hshown.wired, hshown.there⟩
  | @applies branches inUrl hurl =>
    let chosen := fun side => Branch.choose branches (inUrl side) (view.store.get? side.key)
    have hshown := (h.set .old (valueOf (chosen .old))).set .new (valueOf (chosen .new))
    exact ⟨hshown.writable, hshown.page, hshown.wired, hshown.there⟩
  | opens hurl => exact ⟨h.writable, hurl, h.wired, h.there⟩

theorem Goes.tidy (hgoes : view.Goes after) (h : view.Tidy) : after.Tidy := by
  induction hgoes with
  | refl => exact h
  | tail _ hstep ih => exact hstep.tidy ih

theorem Picks.tidy {side : Side} {name : Option String} (hpicks : view.Picks side name after)
    (h : view.Tidy) : after.Tidy := by
  obtain ⟨hdocument, hpage⟩ := hpicks
  obtain ⟨edited, hedited, hwell, -⟩ := Page.replaceParam_spec h.page side.control.label
    (valueOf name)
  obtain rfl := Except.ok.inj (hedited.symm.trans hpage)
  have hshown := h.set side.control (valueOf name)
  exact ⟨hdocument, hwell, hshown.wired, hshown.there⟩

end View

namespace Session

/-- The view of a session. -/
def view (session : Session) : View where
  repo := session.flow.repo
  branches := session.flow.branches
  picked
    | .old => session.flow.first
    | .new => session.flow.second
  store := session.store
  document := session.document
  page := session.page
  isBound := session.isBound
  value name := (session.control? name).map fun control => control.control.value
  listeners name := ((session.control? name).map fun control => control.control.listeners).getD []

/-- A change of one control leaves the others alone. -/
theorem control?_modifyControl (session : Session) (name : ControlName)
    (change : FlowControl → FlowControl) (other : ControlName) :
    (session.modifyControl name change).control? other =
      if other = name then (session.control? other).map change else session.control? other := by
  unfold modifyControl control?
  dsimp only
  induction session.controls with
  | nil => simp
  | cons entry rest ih =>
    obtain ⟨key, control⟩ := entry
    rw [List.map_cons, List.lookup_cons, List.lookup_cons]
    by_cases hother : other = key
    · subst hother
      by_cases hname : other = name <;> simp [hname]
    · have hskip : (other == key) = false := beq_eq_false_iff_ne.mpr hother
      have hkey : (if key = name then (name, change control) else (key, control)).1 = key := by
        split
        · next heq => exact heq.symm
        · rfl
      simp only [hkey, hskip]
      exact ih

theorem view_setControl (session : Session) (name : ControlName) (value : Json) :
    (session.modifyControl name fun control =>
      { control with control := control.control.set value }).view = session.view.set name value := by
  refine View.ext rfl rfl rfl rfl rfl rfl rfl ?_ ?_
  · funext other
    simp only [view, View.set, control?_modifyControl]
    split <;> simp [Control.set, Function.comp_def]
  · funext other
    simp only [view, View.set, control?_modifyControl]
    split <;> simp [Control.set, Function.comp_def]

/-- The session has come to another one by what operations do.  Whatever state it was in, the
repository of the change requests in the list is the same. -/
structure Tends (before after : Session) : Prop where
  requests : after.flow.requestsRepo = before.flow.requestsRepo
  goes : before.view.Tidy → before.view.Goes after.view

theorem Tends.refl (session : Session) : session.Tends session := ⟨rfl, fun _ => .refl⟩

theorem Tends.trans {first second third : Session} (h : first.Tends second)
    (h' : second.Tends third) : first.Tends third :=
  ⟨h'.requests.trans h.requests, fun htidy =>
    (h.goes htidy).trans (h'.goes ((h.goes htidy).tidy htidy))⟩

def seen (session : Session) : View × Option String := (session.view, session.flow.requestsRepo)

/-- Who changes nothing that is seen does what operations do. -/
theorem tends_of_seen {before after : Session} (h : after.seen = before.seen) :
    before.Tends after := by
  obtain ⟨hview, hrequests⟩ := Prod.mk.inj h
  exact ⟨hrequests, fun _ => hview ▸ .refl⟩

end Session

namespace Action

variable {α β : Type}

/-- The action does what operations do, however it ends. -/
def Tends (action : Action α) : Prop :=
  ∀ session, Leads action session (fun _ after => session.Tends after)
    fun _ after => session.Tends after

theorem tends_pure (value : α) : Tends (pure value) := fun session => .refl session

theorem tends_throw (crash : Crash) : Tends (throw crash : Action α) := fun session => .refl session

theorem Tends.bind {action : Action α} (h : Tends action) {next : α → Action β}
    (hnext : ∀ value, Tends (next value)) : Tends (action >>= next) := by
  intro session
  rw [leads_bind]
  refine (h session).mono (fun value after hfirst => ?_) fun _ _ hfirst => hfirst
  exact (hnext value after).mono (fun _ _ h' => hfirst.trans h') fun _ _ h' => hfirst.trans h'

theorem tends_get_bind {next : Session → Action β} (hnext : ∀ value, Tends (next value)) :
    Tends (get >>= next) := fun session => hnext session session

theorem Leaves.tends {action : Action α} (h : Leaves Session.seen action) : Tends action :=
  fun session => (h session).mono (fun _ _ => Session.tends_of_seen) fun _ _ => Session.tends_of_seen

theorem tends_fail (message : String) : Tends (fail message) :=
  Leaves.tends (leaves_modify fun _ => rfl)

theorem tends_clearError : Tends clearError := Leaves.tends (leaves_modify fun _ => rfl)

theorem tends_stage (stage : Stage) :
    Tends (modifyFlow fun flow => { flow with stage := stage }) :=
  Leaves.tends (leaves_modify fun _ => rfl)

theorem tends_enterLoading : Tends enterLoading := Leaves.tends (leaves_modify fun _ => rfl)

theorem tends_exitLoading : Tends exitLoading := Leaves.tends (leaves_modify fun _ => rfl)

theorem tends_param (name : String) (default : Option String) : Tends (param name default) :=
  Leaves.tends (leaves_readPage _)

/-- An action that is known in a tidy session, and of which else only is known that the repository
of the change requests is the same. -/
theorem Leads.tends {action : Action α} {session : Session}
    (hrequests : Leads action session
      (fun _ after => after.flow.requestsRepo = session.flow.requestsRepo)
      fun _ after => after.flow.requestsRepo = session.flow.requestsRepo)
    (hgoes : session.view.Tidy → Leads action session
      (fun _ after => session.view.Goes after.view) fun _ after => session.view.Goes after.view) :
    Leads action session (fun _ after => session.Tends after) fun _ after => session.Tends after := by
  by_cases htidy : session.view.Tidy
  · exact (hrequests.and (hgoes htidy)).mono (fun _ _ h => ⟨h.1, fun _ => h.2⟩)
      fun _ _ h => ⟨h.1, fun _ => h.2⟩
  · exact hrequests.mono (fun _ _ h => ⟨h, fun h => absurd h htidy⟩)
      fun _ _ h => ⟨h, fun h => absurd h htidy⟩

theorem Aside.requests {action : Action α} (h : Aside action) :
    Leaves (fun session => session.flow.requestsRepo) action :=
  h.leaves fun _ _ halike => congrArg Flow.requestsRepo halike.flow

/-! ## Writing -/

section Writing

variable {session : Session}

/-- Where the file can be written, what is remembered is written. -/
theorem leads_remember_of_writable (h : session.document ≠ .directory) (key : SelectionKey)
    (value : Option String) :
    Leads (remember key value) session
      (fun _ after => ∃ document, document ≠ .directory ∧
        after = { session with store := session.store.assign key value, document := document })
      fun _ _ => False := by
  rw [leads_remember]
  unfold SelectionStore.set
  dsimp only
  cases hdocument : session.document with
  | directory => exact absurd hdocument h
  | absent | file octets =>
    exact ⟨.ofText (session.store.assign key value).fileText, nofun, rfl⟩

/-- A value is shown, remembered and written in the URL. -/
def keep (name : ControlName) (key : SelectionKey) (value : Option String) : Action Unit := do
  setControl name (valueOf value)
  remember key value
  editPage fun page => page.replaceParam name.label (valueOf value)

/-- A value that is kept is shown, remembered and written in the URL. -/
theorem leads_keep (h : session.view.Tidy) (name : ControlName) (key : SelectionKey)
    (value : Option String) :
    Leads (keep name key value) session
      (fun _ after => ∃ document page, document ≠ .directory ∧
        session.page.replaceParam name.label (valueOf value) = .ok page ∧
        after.flow = session.flow ∧ after.tasks = session.tasks ∧
        after.view = { session.view.set name (valueOf value) with
          store := session.store.assign key value, document := document, page := page })
      fun _ _ => False := by
  let shown : Session := session.modifyControl name fun control =>
    { control with control := control.control.set (valueOf value) }
  have hshown : shown.view = session.view.set name (valueOf value) := session.view_setControl ..
  have hwritable : shown.document ≠ .directory := h.writable
  unfold keep setControl
  rw [leads_bind, leads_modify, leads_bind]
  refine (leads_remember_of_writable hwritable key value).mono ?_ fun _ _ hfalse => hfalse
  rintro _ after ⟨document, hdocument, rfl⟩
  obtain ⟨page, hpage, -⟩ := Page.replaceParam_spec h.page name.label (valueOf value)
  have hedit : shown.page.replaceParam name.label (valueOf value) = .ok page := hpage
  rw [leads_editPage]
  dsimp only
  rw [hedit]
  refine ⟨document, page, hdocument, hpage, rfl, rfl, ?_⟩
  rw [← hshown]
  rfl

end Writing

end Action

end BranchCompare
