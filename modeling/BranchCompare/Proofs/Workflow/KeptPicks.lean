import BranchCompare.Proofs.SelectionStore
import BranchCompare.Proofs.Workflow.Controls

/-!
# How long a pick is kept

A branch that the user picks is remembered, and it stands in the URL of the page (`View.Carries`).
When branches are shown again, the URL has the say: a pick is kept until the page is led to a
comparison, and from then on the branch of that comparison may be shown in its place
(`kept_of_pick`).
-/

namespace BranchCompare

open BranchCompare.Action (Side valueOf nonEmpty)

theorem Branch.choose_of_named {branches : List Branch} {inUrl : Option String} {name : String}
    (hname : name ≠ "") (hnamed : Branch.named name branches = true) :
    ∃ shown, Branch.choose branches inUrl (some name) = some shown ∧
      (shown = name ∨ inUrl = some shown) := by
  have haccepts : Branch.accepts branches name = true := by simp [Branch.accepts, hname, hnamed]
  unfold Branch.choose
  cases inUrl with
  | none => exact ⟨name, List.find?_cons_of_pos haccepts, .inl rfl⟩
  | some text =>
    by_cases htext : Branch.accepts branches text = true
    · exact ⟨text, List.find?_cons_of_pos htext, .inr rfl⟩
    · refine ⟨name, ?_, .inl rfl⟩
      exact (List.find?_cons_of_neg htext).trans (List.find?_cons_of_pos haccepts)

namespace View

variable {before after : View} {side other : Side} {name : String} {urls : List String}

/-- The name, or what one of the URLs says of the side. -/
def Given (side : Side) (name : String) (urls : List String) (given : Option String) : Prop :=
  given = some name ∨
    ∃ url ∈ urls, (Page.ofUrl url).param side.control.label none = .ok given

/-- The name is remembered for the side.  It stands in the URL of the page and is shown while it is
in the list of branches, or what one of the URLs says of the side has its place. -/
structure Carries (side : Side) (name : String) (urls : List String) (view : View) : Prop where
  stored : view.store.get? side.key = some name
  inUrl : ∃ given, view.page.param side.control.label none = .ok given ∧ Given side name urls given
  shown : Branch.named name view.branches = true → ∃ shown, Given side name urls (some shown) ∧
    view.picked side = some shown ∧ view.value side.control = some (.text shown)

theorem Given.append {given : Option String} (h : Given side name urls given) (more : List String) :
    Given side name (urls ++ more) given :=
  h.imp_right fun ⟨url, hmem, hurl⟩ => ⟨url, List.mem_append_left more hmem, hurl⟩

theorem Carries.same (h : before.Carries side name urls)
    (hstore : after.store.get? side.key = before.store.get? side.key)
    (hpage : after.page.param side.control.label none = before.page.param side.control.label none)
    (hbranches : after.branches = before.branches) (hkeeps : before.Keeps side.control after) :
    after.Carries side name urls := by
  have hpicked : after.picked side = before.picked side := by
    rw [← held_side, ← held_side, hkeeps.held]
  refine ⟨hstore.trans h.stored, hpage ▸ h.inUrl, fun hnamed => ?_⟩
  rw [hpicked, hkeeps.value]
  exact h.shown (hbranches ▸ hnamed)

/-- A selection of a repository carries the name on. -/
theorem Selects.carries {repo : String} (hselects : before.Selects repo after)
    (htidy : before.Tidy) (h : before.Carries side name urls) :
    after.Carries side name urls ∧ after.page.history = before.page.history := by
  have hkeeps : before.Keeps side.control after := hselects.keeps (by cases side <;> decide)
  obtain ⟨hdocument, hpage⟩ := hselects
  obtain ⟨edited, hedited, -, hhistory, -, hothers⟩ := Page.replaceParam_spec htidy.page
    ControlName.repo.label (.text repo)
  obtain rfl := Except.ok.inj (hedited.symm.trans hpage)
  refine ⟨h.same ?_ (hothers _ (by cases side <;> decide)) rfl hkeeps, hhistory⟩
  exact (SelectionStore.get?_assign ..).trans (if_neg (by cases side <;> decide))

/-- The other branch is picked. -/
theorem Picks.carries {given : Option String} (hpicks : before.Picks other given after)
    (hne : side ≠ other) (htidy : before.Tidy) (h : before.Carries side name urls) :
    after.Carries side name urls ∧ after.page.history = before.page.history := by
  obtain ⟨hcontrol, hkey⟩ : side.control ≠ other.control ∧ side.key ≠ other.key := by
    cases side with
    | old | new =>
      cases other with
      | old | new => first | exact absurd rfl hne | decide
  have hkeeps := hpicks.keeps hcontrol
  obtain ⟨hdocument, hpage⟩ := hpicks
  obtain ⟨edited, hedited, -, hhistory, -, hothers⟩ := Page.replaceParam_spec htidy.page
    other.control.label (valueOf given)
  obtain rfl := Except.ok.inj (hedited.symm.trans hpage)
  refine ⟨h.same ?_ (hothers _ ?_) rfl hkeeps, hhistory⟩
  · exact (SelectionStore.get?_assign ..).trans (if_neg hkey)
  · exact fun hlabel => hcontrol (ControlName.label_injective hlabel)

/-- The URL has the say when branches are shown, and then what is remembered. -/
theorem carries_apply {branches : List Branch} {inUrl : Side → Option String}
    (hurl : ∀ side, before.page.param side.control.label none = .ok (inUrl side))
    (hname : name ≠ "") (htidy : before.Tidy) (h : before.Carries side name urls) :
    (before.apply branches inUrl).Carries side name urls := by
  obtain ⟨given, hparam, hgiven⟩ := h.inUrl
  obtain rfl := Except.ok.inj (hparam.symm.trans (hurl side))
  refine ⟨h.stored, h.inUrl, fun hnamed => ?_⟩
  obtain ⟨shown, hchosen, hfrom⟩ := @Branch.choose_of_named branches (inUrl side) name hname hnamed
  have hpicked : (before.apply branches inUrl).picked side = some shown := by
    rw [← hchosen, ← h.stored]
    rfl
  have hagrees := agrees_apply htidy branches inUrl side
  unfold Agrees at hagrees
  rw [held_side, hpicked] at hagrees
  refine ⟨shown, ?_, hpicked, hagrees⟩
  rcases hfrom with rfl | hfrom
  · exact .inl rfl
  · exact hfrom ▸ hgiven

/-- The page is led to a URL, which has the say from then on. -/
theorem Carries.opens (h : before.Carries side name urls) {url : String}
    (hurl : Url.WellFormed url) :
    ({ before with page := before.page.navigate url } : View).Carries side name (urls ++ [url]) := by
  obtain ⟨given, hgiven⟩ :=
    (Page.ofUrl url).param_of_wellFormed hurl side.control.label none
  refine ⟨h.stored, ⟨given, hgiven, .inr ⟨url, by simp, hgiven⟩⟩, fun hnamed => ?_⟩
  obtain ⟨shown, hshown, hpicked, hvalue⟩ := h.shown hnamed
  exact ⟨shown, hshown.append [url], hpicked, hvalue⟩

/-- The page has been led to more URLs, if to any, and the name is carried on. -/
def CarriesOn (side : Side) (name : String) (urls : List String) (before after : View) : Prop :=
  ∃ more, after.page.history = before.page.history ++ more ∧
    after.Carries side name (urls ++ more)

theorem Carries.still (h : after.Carries side name urls)
    (hhistory : after.page.history = before.page.history) :
    CarriesOn side name urls before after :=
  ⟨[], by rw [hhistory, List.append_nil], by rwa [List.append_nil]⟩

theorem CarriesOn.trans {middle : View} (h : CarriesOn side name urls before middle)
    (h' : ∀ {more}, middle.Carries side name more → CarriesOn side name more middle after) :
    CarriesOn side name urls before after := by
  obtain ⟨first, hfirst, hmiddle⟩ := h
  obtain ⟨second, hsecond, hafter⟩ := h' hmiddle
  rw [List.append_assoc] at hafter
  exact ⟨first ++ second, by rw [hsecond, hfirst, List.append_assoc], hafter⟩

/-- Each step carries the name on. -/
theorem Step.carries (hstep : before.Step after) (hname : name ≠ "") (htidy : before.Tidy)
    (h : before.Carries side name urls) : CarriesOn side name urls before after := by
  cases hstep with
  | binds =>
    have hbound : before.bind.Carries side name urls :=
      h.same rfl rfl rfl ⟨rfl, by cases side <;> rfl⟩
    exact hbound.still rfl
  | selects repo hselects =>
    obtain ⟨hcarries, hhistory⟩ := hselects.carries htidy h
    exact hcarries.still hhistory
  | applies branches hurl => exact (carries_apply hurl hname htidy h).still rfl
  | @opens url hurl => exact ⟨[url], rfl, h.opens hurl⟩

theorem Goes.carries (hgoes : before.Goes after) (hname : name ≠ "") (htidy : before.Tidy)
    (h : before.Carries side name urls) : CarriesOn side name urls before after := by
  induction hgoes with
  | refl => exact h.still rfl
  | tail hgoes hstep ih => exact ih.trans (hstep.carries hname (Goes.tidy hgoes htidy))

end View

/-- The user neither picks a branch of the side nor changes its control. -/
def FlowEvent.spares (side : Side) : FlowEvent → Bool
  | .pick other _ => other ≠ side
  | .change name _ => name ≠ side.control
  | _ => true

namespace View

variable {before after : View} {side : Side} {name : String} {urls : List String}

/-- An event carries it on if it spares the side. -/
theorem Moves.carries {event : FlowEvent} (hmoves : before.Moves event after)
    (hspares : event.spares side = true) (hname : name ≠ "") (htidy : before.Tidy)
    (h : before.Carries side name urls) : CarriesOn side name urls before after := by
  cases event with
  | pick other given =>
    rcases hmoves with rfl | hpicks
    · exact h.still rfl
    · have hne : side ≠ other := Ne.symm (of_decide_eq_true hspares)
      obtain ⟨hcarries, hhistory⟩ := hpicks.carries hne htidy h
      exact hcarries.still hhistory
  | change changed value =>
    have hchanged : changed ≠ side.control := of_decide_eq_true hspares
    have hset : (before.set changed value).Carries side name urls :=
      h.same rfl rfl rfl (keeps_set before (Ne.symm hchanged) value)
    cases hmoves with
    | @picks other _ _ hother _ hpicks =>
      have hne : side ≠ other := fun heq => hchanged (heq ▸ hother)
      obtain ⟨hcarries, hhistory⟩ := hpicks.carries hne (htidy.set changed value) hset
      exact hcarries.still hhistory
    | stays _ => exact hset.still rfl
  | _ => exact Goes.carries hmoves hname htidy h

theorem Picks.picked_self {given : Option String} (hpicks : before.Picks side given after) :
    after.picked side = given := by
  obtain ⟨hdocument, hpage⟩ := hpicks
  exact if_pos rfl

/-- The name that is picked is carried from then on. -/
theorem Picks.carried (hpicks : before.Picks side (some name) after) (hname : name ≠ "")
    (htidy : before.Tidy) : after.Carries side name [] := by
  have hpicked := hpicks.picked_self
  have hvalue := hpicks.agrees htidy
  unfold Agrees at hvalue
  rw [held_side, hpicked] at hvalue
  obtain ⟨hdocument, hpage⟩ := hpicks
  obtain ⟨edited, hedited, -, -, hparam, -⟩ := Page.replaceParam_spec htidy.page
    side.control.label (valueOf (some name))
  obtain rfl := Except.ok.inj (hedited.symm.trans hpage)
  have hstored : (before.store.assign side.key (some name)).get? side.key = some name :=
    (SelectionStore.get?_assign ..).trans (if_pos rfl)
  have hentry : Query.entry? (valueOf (some name)) = some name :=
    Query.entry?_eq_some_iff.mpr ⟨rfl, hname⟩
  exact ⟨hstored, ⟨some name, hparam.trans (congrArg Except.ok hentry), .inl rfl⟩,
    fun _ => ⟨name, .inl rfl, hpicked, hvalue⟩⟩

end View

namespace Session

variable {session : Session} {side : Side} {name : String} {events : List FlowEvent}

/-- Events that spare the side carry the name on. -/
theorem carries_after {urls : List String} (hname : name ≠ "") (htidy : session.view.Tidy)
    (h : session.view.Carries side name urls) (hevents : ∀ event ∈ events, event.spares side = true) :
    View.CarriesOn side name urls session.view (session.after events).view := by
  induction events generalizing session urls with
  | nil => exact h.still rfl
  | cons event events ih =>
    obtain ⟨hfirst, hrest⟩ := List.forall_mem_cons.mp hevents
    have hmoves := moves_step htidy event
    exact (hmoves.carries hfirst hname htidy h).trans fun hnext =>
      ih (hmoves.tidy htidy) hnext hrest

/-- A branch that was picked is shown whenever it is in the list of branches, unless the page has
been led to a comparison since: then the branch may be shown that stands in the URL of the
comparison. -/
theorem kept_of_pick {parts : Parts} (hmake : make parts = .ok session)
    (hwritable : parts.document ≠ .directory) (hpage : Url.WellFormed parts.page.url)
    (hname : name ≠ "")
    (hpicked : ((session.after events).run (Action.pick side (some name))).2 = .ok true)
    {later : List FlowEvent} (hlater : ∀ event ∈ later, event.spares side = true) :
    let picked := (session.after events).step (.pick side (some name))
    let now := picked.after later
    ∃ urls, now.page.history = picked.page.history ++ urls ∧
      (Branch.named name now.flow.branches = true → ∃ shown,
        View.Given side name urls (some shown) ∧ now.view.picked side = some shown ∧
        now.view.value side.control = some (.text shown)) := by
  intro picked now
  have htidy := tidy_after (tidy_of_make hmake hwritable hpage) events
  obtain ⟨given, hgiven, hends⟩ := of_run (Action.leads_pick_view htidy side (some name))
  obtain rfl := Except.ok.inj (hgiven.symm.trans hpicked)
  have hpicks : (session.after events).view.Picks side (some name) picked.view := by
    have hpicks := hends.1
    rwa [nonEmpty, Option.filter_some, decide_eq_true hname, if_pos rfl] at hpicks
  obtain ⟨urls, hhistory, hcarries⟩ :=
    carries_after hname (hpicks.tidy htidy) (hpicks.carried hname htidy) hlater
  exact ⟨urls, hhistory, hcarries.shown⟩

/-- The branches of a repository are shown. -/
def shownBranches : List FlowEvent :=
  [.begin (.selectRepo "polkadot"), .turn 0, .turn 0, .turn 0,
    .answerFetch 0 (.answer [⟨"master", "a1"⟩, ⟨"gav-xcm", "b2"⟩, ⟨"bench", "c3"⟩])] ++
    turns 6

/-- The branches are loaded anew, by the fetch of the number. -/
def refreshed (fetch : FetchId) : List FlowEvent :=
  .begin .refresh :: turns 3 ++
    [.answerFetch fetch (.answer [⟨"bench", "c3"⟩, ⟨"gav-xcm", "b4"⟩, ⟨"master", "a1"⟩])] ++
    turns 6

theorem kept_of_pick_refreshed : ∃ session, make standardParts = .ok session ∧
    let now := ((session.after shownBranches).step (.pick .old (some "gav-xcm"))).after (refreshed 1)
    now.flow.branches.map (·.lastCommit) = ["c3", "b4", "a1"] ∧
      now.view.picked .old = some "gav-xcm" ∧ now.view.value .old = some (.text "gav-xcm") := by
  have hrun : ((make standardParts).toOption.any fun session =>
      let picked := (session.after shownBranches).step (.pick .old (some "gav-xcm"))
      let now := picked.after (refreshed 1)
      affirms ((session.after shownBranches).run (Action.pick .old (some "gav-xcm"))).2 = true ∧
        now.flow.branches.map (·.lastCommit) = ["c3", "b4", "a1"] ∧
        now.page.history = picked.page.history ∧
        Branch.named "gav-xcm" now.flow.branches = true) = true := by decide +kernel
  obtain ⟨session, hmake, hchecks⟩ := exists_make_of_any hrun
  obtain ⟨hpicked, hbranches, hhistory, hnamed⟩ := of_decide_eq_true hchecks
  have hlater : ∀ event ∈ refreshed 1, event.spares .old = true :=
    List.all_eq_true.mp (by decide)
  obtain ⟨urls, hmore, hshown⟩ := kept_of_pick hmake (by decide) wellFormed_standard (by decide)
    (eq_of_affirms hpicked) hlater
  obtain ⟨shown, hgiven, hfirst, hvalue⟩ := hshown hnamed
  -- no URL was opened since
  obtain rfl := List.append_cancel_left (hmore.symm.trans (hhistory.trans (List.append_nil _).symm))
  rcases hgiven with hname | ⟨url, hmem, -⟩
  · obtain rfl := Option.some.inj hname
    exact ⟨session, hmake, hbranches, hfirst, hvalue⟩
  · cases hmem

/-- A change request of two other branches is compared. -/
def comparedRequest : List FlowEvent :=
  .begin (.compare (.ofRequest (newYear 7 (some 0))) (some "polkadot")) ::
    turns 3 ++
    [.answerFetch 1 (.answer [⟨"master", "a1"⟩, ⟨"gav-xcm", "b2"⟩, ⟨"bench", "c3"⟩])] ++
    turns 6

/-- A pick need not be kept, though its branch is in the list. -/
theorem displaced_comparedRequest : ¬ ∀ (parts : Parts) (session : Session) (limit : Seconds)
    (events later : List FlowEvent) (side : Side) (name : String), make parts = .ok session →
    parts.cache = .fresh limit [] → parts.document ≠ .directory →
    Url.WellFormed parts.page.url → name ≠ "" →
    ((session.after events).run (Action.pick side (some name))).2 = .ok true →
    (∀ event ∈ later, event.spares side = true) →
    let now := ((session.after events).step (.pick side (some name))).after later
    Branch.named name now.flow.branches = true → now.view.picked side = some name := by
  intro hall
  have hrun : ((make standardParts).toOption.any fun session =>
      let picked := (session.after shownBranches).step (.pick .old (some "gav-xcm"))
      let now := picked.after (comparedRequest ++ refreshed 2)
      affirms ((session.after shownBranches).run (Action.pick .old (some "gav-xcm"))).2 = true ∧
        Branch.named "gav-xcm" now.flow.branches = true ∧
        now.view.picked .old = some "master") = true := by decide +kernel
  obtain ⟨session, hmake, hchecks⟩ := exists_make_of_any hrun
  obtain ⟨hpicked, hnamed, hfirst⟩ := of_decide_eq_true hchecks
  have hlater : ∀ event ∈ comparedRequest ++ refreshed 2, event.spares .old = true :=
    List.all_eq_true.mp (by decide)
  have hkept := hall standardParts session (.whole 30) shownBranches _ .old
    "gav-xcm" hmake rfl (by decide) wellFormed_standard (by decide) (eq_of_affirms hpicked) hlater
    hnamed
  have hsame := hfirst.symm.trans hkept
  exact absurd hsame (by decide)

end Session

end BranchCompare
