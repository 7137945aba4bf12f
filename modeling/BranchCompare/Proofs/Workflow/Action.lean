import BranchCompare.Workflow.Run

/-!
# Reasoning about actions

`Leads` says what an action comes to: what holds of its value and the session when it ends, and of
the crash and the session when it is broken off.  Most actions touch only what stands beside the
workflow, such as the values of controls or the remembered selection: they are asides (`Aside`),
after which the session is `Alike`.  An operation is taken apart into asides and the few actions that
change what the workflow shows, the cache or the history of the page.
-/

namespace BranchCompare

def Session.listeners (session : Session) : List (ControlName × List FlowListener) :=
  session.controls.map fun entry => (entry.1, entry.2.control.listeners)

/-- The two sessions differ at most in what stands beside the workflow. -/
structure Session.Alike (before after : Session) : Prop where
  table : after.table = before.table
  cache : after.cache = before.cache
  flow : after.flow = before.flow
  tasks : after.tasks = before.tasks
  line : after.line = before.line
  history : after.page.history = before.page.history
  listeners : after.listeners = before.listeners

namespace Session.Alike

theorem refl (session : Session) : Alike session session := ⟨rfl, rfl, rfl, rfl, rfl, rfl, rfl⟩

theorem trans {first second third : Session} (h : Alike first second) (h' : Alike second third) :
    Alike first third :=
  ⟨h'.table.trans h.table, h'.cache.trans h.cache, h'.flow.trans h.flow, h'.tasks.trans h.tasks,
    h'.line.trans h.line, h'.history.trans h.history, h'.listeners.trans h.listeners⟩

/-- The same change of what is shown leaves sessions alike. -/
theorem setFlow {before after : Session} (h : Alike before after) (flow : Flow) :
    Alike { before with flow := flow } { after with flow := flow } :=
  ⟨h.table, h.cache, rfl, h.tasks, h.line, h.history, h.listeners⟩

end Session.Alike

namespace Action

variable {α β : Type}

/-- The action, taken in the session, ends so or is broken off so. -/
def Leads (action : Action α) (session : Session) (ends : α → Session → Prop)
    (breaks : Crash → Session → Prop) : Prop :=
  match action session with
  | .ok value after => ends value after
  | .error crash after => breaks crash after

section Leads

variable {action : Action α} {next : α → Action β} {session : Session}
  {ends : α → Session → Prop} {then' : β → Session → Prop} {breaks : Crash → Session → Prop}

theorem Leads.mono {ends' : α → Session → Prop} {breaks' : Crash → Session → Prop}
    (h : Leads action session ends breaks)
    (hends : ∀ value after, ends value after → ends' value after)
    (hbreaks : ∀ crash after, breaks crash after → breaks' crash after) :
    Leads action session ends' breaks' := by
  unfold Leads at h ⊢
  split
  · next heq =>
    rw [heq] at h
    exact hends _ _ h
  · next heq =>
    rw [heq] at h
    exact hbreaks _ _ h

/-- What a stretch leads to holds when it ends. -/
theorem Leads.ok {value : α} {after : Session} (h : Leads action session ends breaks)
    (heq : action session = .ok value after) : ends value after := by
  unfold Leads at h
  rwa [heq] at h

/-- What a crash leads to holds when it crashes. -/
theorem Leads.error {crash : Crash} {after : Session} (h : Leads action session ends breaks)
    (heq : action session = .error crash after) : breaks crash after := by
  unfold Leads at h
  rwa [heq] at h

theorem Leads.and {ends' : α → Session → Prop} {breaks' : Crash → Session → Prop}
    (h : Leads action session ends breaks) (h' : Leads action session ends' breaks') :
    Leads action session (fun value after => ends value after ∧ ends' value after)
      fun crash after => breaks crash after ∧ breaks' crash after := by
  unfold Leads at h h' ⊢
  split <;> next heq =>
    rw [heq] at h h'
    exact ⟨h, h'⟩

theorem leads_pure {value : α} : Leads (pure value) session ends breaks ↔ ends value session :=
  Iff.rfl

/-- One stretch after another leads on from where the first one leads. -/
theorem leads_bind : Leads (action >>= next) session then' breaks ↔
    Leads action session (fun value after => Leads (next value) after then' breaks) breaks := by
  unfold Leads
  show (match EStateM.bind action next session with
    | .ok value after => then' value after
    | .error crash after => breaks crash after) ↔ _
  unfold EStateM.bind
  cases action session <;> exact Iff.rfl

theorem leads_get {ends : Session → Session → Prop} :
    Leads (get : Action Session) session ends breaks ↔ ends session session := Iff.rfl

theorem leads_set {ends : PUnit → Session → Prop} {new : Session} :
    Leads (set new : Action PUnit) session ends breaks ↔ ends ⟨⟩ new := Iff.rfl

theorem leads_modify {ends : PUnit → Session → Prop} {change : Session → Session} :
    Leads (modify change : Action PUnit) session ends breaks ↔ ends ⟨⟩ (change session) := Iff.rfl

theorem leads_modifyFlow {change : Flow → Flow} {ends : Unit → Session → Prop} :
    Leads (modifyFlow change) session ends breaks ↔
      ends () { session with flow := change session.flow } := Iff.rfl

theorem leads_openUrl {url : String} {ends : Unit → Session → Prop} :
    Leads (openUrl url) session ends breaks ↔
      ends () { session with
        flow := { session.flow with launchedUrl := some url }
        page := session.page.navigate url } := Iff.rfl

/-- What is remembered is written to the file, which may crash. -/
theorem leads_remember {key : SelectionKey} {value : Option String}
    {ends : Unit → Session → Prop} :
    Leads (remember key value) session ends breaks ↔
      match session.store.set key value session.document with
      | (store, .ok document) => ends () { session with store := store, document := document }
      | (store, .error error) => breaks (.store error) { session with store := store } := by
  unfold remember
  rw [leads_bind, leads_get]
  rcases session.store.set key value session.document with ⟨store, document | error⟩ <;>
    exact Iff.rfl

theorem leads_readPage {read : Page → Except Url.Fault α} :
    Leads (readPage read) session ends breaks ↔
      match read session.page with
      | .ok value => ends value session
      | .error fault => breaks (.url fault) session := by
  unfold readPage
  rw [leads_bind, leads_get]
  cases read session.page <;> exact Iff.rfl

theorem leads_editPage {edit : Page → Except Url.Fault Page} {ends : Unit → Session → Prop} :
    Leads (editPage edit) session ends breaks ↔
      match edit session.page with
      | .ok page => ends () { session with page := page }
      | .error fault => breaks (.url fault) session := by
  unfold editPage
  rw [leads_bind, leads_readPage]
  cases edit session.page <;> exact Iff.rfl

end Leads

/-! ## Asides -/

/-- The action touches only what stands beside the workflow, however it ends. -/
def Aside (action : Action α) : Prop :=
  ∀ session, Leads action session (fun _ after => session.Alike after)
    fun _ after => session.Alike after

theorem aside_pure (value : α) : Aside (pure value) := fun session => Session.Alike.refl session

theorem aside_modify {change : Session → Session}
    (h : ∀ session : Session, session.Alike (change session)) :
    Aside (modify change : Action PUnit) := h

/-- What follows an aside does so in a session that is alike. -/
theorem Aside.leads_bind {action : Action α} (h : Aside action) {next : α → Action β}
    {session : Session} {ends : β → Session → Prop} {breaks : Crash → Session → Prop}
    (hnext : ∀ value after, session.Alike after → Leads (next value) after ends breaks)
    (hbreaks : ∀ crash after, session.Alike after → breaks crash after) :
    Leads (action >>= next) session ends breaks :=
  Action.leads_bind.mpr ((h session).mono hnext hbreaks)

theorem Aside.bind {action : Action α} (h : Aside action) {next : α → Action β}
    (hnext : ∀ value, Aside (next value)) : Aside (action >>= next) := by
  intro session
  refine h.leads_bind (fun value after halike => ?_) fun _ _ halike => halike
  exact (hnext value after).mono (fun _ _ h => halike.trans h) fun _ _ h => halike.trans h

/-- A change of a control that keeps its listeners is an aside. -/
theorem aside_modifyControl (name : ControlName) {change : FlowControl → FlowControl}
    (h : ∀ control, (change control).control.listeners = control.control.listeners) :
    Aside (modify fun session => session.modifyControl name change) := by
  refine aside_modify fun session => ⟨rfl, rfl, rfl, rfl, rfl, rfl, ?_⟩
  unfold Session.listeners Session.modifyControl
  rw [List.map_map]
  refine List.map_congr_left fun entry _ => ?_
  simp only [Function.comp]
  split
  · next heq => rw [h, heq]
  · rfl

theorem aside_setControl (name : ControlName) (value : Json) : Aside (setControl name value) :=
  aside_modifyControl name fun _ => rfl

theorem aside_offerBranches (name : ControlName) (branches : List Branch) :
    Aside (offerBranches name branches) := by
  refine aside_modifyControl name fun control => ?_
  split <;> rfl

theorem aside_enterLoading : Aside enterLoading :=
  aside_modify fun _ => ⟨rfl, rfl, rfl, rfl, rfl, rfl, rfl⟩

theorem aside_exitLoading : Aside exitLoading :=
  aside_modify fun _ => ⟨rfl, rfl, rfl, rfl, rfl, rfl, rfl⟩

theorem aside_remember (key : SelectionKey) (value : Option String) :
    Aside (remember key value) := by
  intro session
  rw [leads_remember]
  split <;> exact ⟨rfl, rfl, rfl, rfl, rfl, rfl, rfl⟩

theorem aside_readPage (read : Page → Except Url.Fault α) : Aside (readPage read) := by
  intro session
  rw [leads_readPage]
  split <;> exact Session.Alike.refl session

theorem aside_param (name : String) (default : Option String) : Aside (param name default) :=
  aside_readPage _

/-- An edit in place leaves the history alone. -/
theorem history_replaceParam {page edited : Page} {name : String} {value : Json}
    (h : page.replaceParam name value = .ok edited) : edited.history = page.history := by
  unfold Page.replaceParam at h
  dsimp only at h
  split at h
  · cases hurl : Query.remove name page.url with
    | error fault => rw [hurl] at h; cases h
    | ok url => rw [hurl] at h; cases h; rfl
  · cases hurl : Query.set name ((Query.textOf value).getD "") page.url with
    | error fault => rw [hurl] at h; cases h
    | ok url => rw [hurl] at h; cases h; rfl

theorem aside_replaceParam (name : String) (value : Json) :
    Aside (editPage fun page => page.replaceParam name value) := by
  intro session
  rw [leads_editPage]
  split
  · next page hedit => exact ⟨rfl, rfl, rfl, rfl, rfl, history_replaceParam hedit, rfl⟩
  · exact Session.Alike.refl session

end Action

end BranchCompare
