import BranchCompare.Proofs.Workflow.Operations

/-!
# Picks and launches

What the actions do that do not wait: a branch is picked, the user changes a control, and the
comparison of the two picks is launched.  A pick and a change lead the page nowhere (`Stays`).  A
launch that gives a URL back compares two branches of the selected repository (`Session.Compares`).
-/

namespace BranchCompare

namespace Session

variable {session : Session}

/-- The URL is that of the comparison of two branches which were fetched for the selected
repository. -/
def Compares (session : Session) (url : String) : Prop :=
  ∃ repo preset first second branches,
    session.flow.repo = some repo ∧ session.table.resolve session.flow.repo = .ok preset ∧
    (CompareRequest.Draft.ofBranches preset first second).url = .ok url ∧
    first ≠ "" ∧ second ≠ "" ∧ session.cache.Ended repo (.ok branches) ∧
    Branch.named first branches = true ∧ Branch.named second branches = true

/-- An operation is put in line to begin. -/
theorem Sound.begin (h : session.Sound) (operation : Operation) :
    session.Goes (session.begin operation) [] := by
  refine ⟨⟨?_, fun {task state} hs => ?_, h.ready, h.quiet⟩, .refl _, rfl,
    (List.append_nil _).symm, [operation], rfl⟩
  · rw [cacheLine_begin]
    exact h.cache.append (by simp)
  · rcases List.mem_append.mp (List.mem_of_getElem? hs) with hold | hnew
    · obtain ⟨old, hold⟩ := List.getElem?_of_mem hold
      exact h.fits hold
    · rw [List.mem_singleton.mp hnew]
      trivial

/-- The listeners of a control do not lead the page. -/
theorem Sound.quiet_control (h : session.Sound) {name : ControlName} {control : FlowControl}
    (hcontrol : session.control? name = some control) (other : ControlName) :
    .redirect other ∉ control.control.listeners := by
  obtain ⟨before, after, heq, -⟩ := List.lookup_eq_some_iff.mp hcontrol
  have hmem : (name, control.control.listeners) ∈ session.listeners :=
    List.mem_map.mpr ⟨(name, control), by rw [heq]; simp, rfl⟩
  exact h.quiet _ hmem other

end Session

namespace Action

variable {α β : Type} {session : Session}

/-- The action keeps the session sound and leads the page nowhere. -/
def Stays (session : Session) (action : Action α) : Prop :=
  Leads action session (fun _ after => session.Goes after []) fun _ after => session.Goes after []

theorem Stays.bind {action : Action α} {next : α → Action β} (h : Stays session action)
    (hnext : ∀ value after, after.Sound → Stays after (next value)) :
    Stays session (action >>= next) := by
  unfold Stays
  rw [leads_bind]
  refine Leads.mono h (fun value after hgoes => ?_) fun _ _ hgoes => hgoes
  exact Leads.mono (hnext value after hgoes.sound) (fun _ _ h' => hgoes.trans h')
    fun _ _ h' => hgoes.trans h'

theorem Aside.stays {action : Action α} (haside : Aside action) (h : session.Sound) :
    Stays session action :=
  Leads.mono (haside session) (fun _ _ halike => h.goes.alike halike)
    fun _ _ halike => h.goes.alike halike

theorem stays_pure (h : session.Sound) (value : α) : Stays session (pure value) := h.goes

/-- A pick is among the branches that are shown, or there is none. -/
theorem stays_takePick (h : session.Sound) (side : Side) {name : Option String}
    (hname : ∀ picked, name = some picked → Branch.named picked session.flow.branches = true) :
    Stays session (modifyFlow fun flow => match side with
      | .old => { flow with first := name }
      | .new => { flow with second := name }) := by
  unfold Stays
  rw [leads_modifyFlow]
  refine h.goes.setFlow _ fun hstage => ?_
  cases side with
  | old =>
    obtain ⟨repo, hrepo, hended, -, hsecond⟩ := h.ready hstage
    exact ⟨repo, hrepo, hended, hname, hsecond⟩
  | new =>
    obtain ⟨repo, hrepo, hended, hfirst, -⟩ := h.ready hstage
    exact ⟨repo, hrepo, hended, hfirst, hname⟩

/-- A pick ends no operation and leads the page nowhere. -/
theorem stays_pick (h : session.Sound) (side : Side) (name : Option String) :
    Stays session (pick side name) := by
  unfold pick Stays
  extract_lets picked
  rw [leads_bind, leads_get]
  dsimp only
  split
  · exact h.goes
  · next hnamed =>
    -- only a name that is not in the list is refused
    have hpicked : ∀ name, picked = some name →
        Branch.named name session.flow.branches = true := by
      intro name heq
      rw [heq] at hnamed
      by_contra hnot
      exact hnamed (congrArg some (Bool.eq_false_iff.mpr hnot))
    refine (aside_setControl _ _).leads_bind (fun _ s1 h1 => ?_) fun _ _ h1 => h.goes.alike h1
    refine (aside_remember _ _).leads_bind (fun _ s2 h2 => ?_)
      fun _ _ h2 => h.goes.alike (h1.trans h2)
    have h12 := h1.trans h2
    refine (aside_replaceParam _ _).leads_bind (fun _ s3 h3 => ?_)
      fun _ _ h3 => h.goes.alike (h12.trans h3)
    have h13 := h12.trans h3
    have hstays : Stays s3 ((modifyFlow fun flow => match side with
        | .old => { flow with first := picked }
        | .new => { flow with second := picked }) >>= fun _ => pure true) := by
      refine Stays.bind (stays_takePick (h.alike h13) side ?_) fun _ s4 h4 => stays_pure h4 true
      rw [h13.flow]
      exact hpicked
    exact Leads.mono hstays (fun _ _ hgoes => (h.goes.alike h13).trans hgoes)
      fun _ _ hgoes => (h.goes.alike h13).trans hgoes

/-! ## Changes by the user -/

/-- A listener that does not lead the page does nothing, picks a branch, or begins the selection of a
repository. -/
theorem tell_cases (value : Json) {listener : FlowListener}
    (hlistener : ∀ name, listener ≠ .redirect name) :
    tell value listener = pure () ∨
    (∃ side name, tell value listener = discard (pick side name)) ∨
    ∃ repo, tell value listener = modify fun session => session.begin (.selectRepo repo) := by
  unfold tell
  cases listener with
  | pickRepo =>
    dsimp only
    split
    · split
      · exact .inl rfl
      · exact .inr (.inr ⟨_, rfl⟩)
    · exact .inl rfl
  | pickFirst | pickSecond =>
    dsimp only
    split
    · exact .inr (.inl ⟨_, _, rfl⟩)
    · split
      · exact .inr (.inl ⟨_, _, rfl⟩)
      · exact .inl rfl
  | redirect name => exact absurd rfl (hlistener name)

theorem stays_tell (h : session.Sound) (value : Json) {listener : FlowListener}
    (hlistener : ∀ name, listener ≠ .redirect name) : Stays session (tell value listener) := by
  rcases tell_cases value hlistener with heq | ⟨side, name, heq⟩ | ⟨repo, heq⟩ <;> rw [heq]
  · exact stays_pure h ()
  · show Stays session (pick side name >>= fun _ => pure ())
    exact (stays_pick h side name).bind fun _ s1 h1 => stays_pure h1 ()
  · exact h.begin (.selectRepo repo)

theorem stays_tellAll (h : session.Sound) (value : Json) {listeners : List FlowListener}
    (hlisteners : ∀ name, .redirect name ∉ listeners) :
    Stays session (listeners.forM (tell value)) := by
  induction listeners generalizing session with
  | nil => exact stays_pure h ()
  | cons listener listeners ih =>
    simp only [List.mem_cons, not_or] at hlisteners
    have hfirst := stays_tell h value fun name heq => (hlisteners name).1 heq.symm
    exact hfirst.bind fun _ s1 h1 => ih h1 fun name => (hlisteners name).2

theorem stays_change (h : session.Sound) (name : ControlName) (value : Json) :
    Stays session (change name value) := by
  unfold change Stays
  rw [leads_bind, leads_get]
  refine ((aside_setControl name value).stays h).bind fun _ s1 h1 => stays_tellAll h1 value ?_
  intro other
  cases hcontrol : session.control? name with
  | none => exact List.not_mem_nil
  | some control => exact h.quiet_control hcontrol other

/-! ## Launches -/

theorem mem_of_nonEmpty {text : Option String} {value : String} (h : nonEmpty text = some value) :
    text = some value ∧ value ≠ "" := by
  obtain ⟨hmem, hne⟩ := Option.filter_eq_some_iff.mp h
  exact ⟨hmem, of_decide_eq_true hne⟩

/-- A launch leads the page to the URL that it gives back and to no other one. -/
theorem leads_launch (h : session.Sound) :
    Leads launch session
      (fun given after => session.Goes after given.toList ∧
        ∀ url, given = some url → session.Compares url)
      fun _ after => session.Goes after [] := by
  unfold launch clearError
  rw [leads_bind, leads_modifyFlow, leads_bind, leads_get]
  have hcleared := h.goes.setFlow { session.flow with error := none } h.ready
  have hfailed : ∀ message, session.Goes
      { session with flow := { session.flow with error := some message } } [] :=
    fun message => h.goes.setFlow _ h.ready
  dsimp only
  split
  · next first second hstage hfirst hsecond =>
    obtain ⟨hfirst, hfirstNe⟩ := mem_of_nonEmpty hfirst
    obtain ⟨hsecond, hsecondNe⟩ := mem_of_nonEmpty hsecond
    obtain ⟨repo, hrepo, hended, hfirstNamed, hsecondNamed⟩ := h.ready hstage
    rw [leads_bind, leads_get]
    dsimp only
    split
    · next preset hpreset =>
      unfold compareUrl
      rw [leads_bind]
      split
      · next url hurl =>
        rw [leads_pure, leads_bind, leads_modifyFlow, leads_bind, leads_openUrl, leads_pure]
        have hlaunched : Flow.Ready session.cache { session.flow with
            error := none, stage := .launching, launchedUrl := some url } :=
          ready_of_stage (by simp)
        refine ⟨(h.goes.navigate url).setFlow _ hlaunched, fun other heq => ?_⟩
        obtain rfl := Option.some.inj heq
        exact ⟨repo, preset, first, second, session.flow.branches, hrepo, hpreset, hurl, hfirstNe,
          hsecondNe, hended, hfirstNamed first hfirst, hsecondNamed second hsecond⟩
      · exact hcleared
    · exact ⟨hfailed _, nofun⟩
  · exact ⟨hfailed _, nofun⟩

end Action

end BranchCompare
