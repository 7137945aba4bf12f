import BranchCompare.Proofs.Page

/-!
# Controls that lead the page

A bound control has one listener, which leads the page by the control's own name.  `BoundPage.Leads`
says this of a list of controls and that the page can be led at all; binding establishes it
(`bind_spec`) and a change of one of the controls keeps it (`Leads.change`).  The page says of a
control what the control was last changed to, whatever the other controls were changed to since
(`Leads.param_after`), so that controls which are bound again show it.
-/

namespace BranchCompare

namespace Page

variable {page before after : Page} {name other : ControlName} {value : Json} {text : String}

/-- The value that a new control takes from the query. -/
def seedOf (page : Page) (name : ControlName) : Json :=
  match page.param name.label none with
  | .ok (some text) => (seed name text).getD .null
  | _ => .null

theorem seeded_empty {L : Type} (h : Url.WellFormed page.url) (name : ControlName) :
    page.seeded name (.empty : Control L) = .ok (Control.empty.set (page.seedOf name)) := by
  obtain ⟨found, -, hfound, -⟩ := Query.pairs_edit id h
  unfold seeded seedOf
  rw [param_of_pairs page hfound]
  dsimp only [bind, Except.bind]
  cases paramOf name.label none found with
  | none => rfl
  | some text => cases hseed : seed name text <;> simp only [hseed] <;> rfl

/-- The page after a change of a control that leads it: it was led to a URL whose query differs in
the value of the control's name, or nothing happened since the value has no text. -/
def Follows (before : Page) (name : ControlName) (value : Json) (after : Page) : Prop :=
  match Query.entry? value with
  | none => after = before
  | some text => ∃ url found changed,
      after = ⟨url, before.history ++ [url]⟩ ∧ Query.pairs before.url = .ok found ∧
      Query.pairs url = .ok changed ∧ Query.SetsName name.label text found changed

/-- The page can always be led to a value if its URL is well formed. -/
theorem redirect_follows (h : Url.WellFormed page.url) (name : ControlName) (value : Json) :
    ∃ led, page.redirect name.label value = .ok led ∧ Url.WellFormed led.url ∧
      page.Follows name value led := by
  obtain ⟨hignored, hled⟩ := redirect_spec h name.label value
  unfold Follows
  cases hentry : Query.entry? value with
  | none => exact ⟨page, hignored hentry, h, rfl⟩
  | some text =>
    obtain ⟨found, url, hfound, hredirect, hwell, hpairs⟩ := hled text hentry
    exact ⟨_, hredirect, hwell, url, found, _, rfl, hfound, hpairs, Query.setName_sets ..⟩

/-- The URL that a page was led to names the value. -/
theorem Follows.param_self (h : before.Follows name value after)
    (hentry : Query.entry? value = some text) : after.param name.label none = .ok (some text) := by
  unfold Follows at h
  rw [hentry] at h
  obtain ⟨url, found, changed, rfl, -, hpairs, hsets⟩ := h
  rw [param_of_pairs ⟨url, _⟩ hpairs, hsets.eq,
    paramOf_setName_self (Query.entry?_eq_some_iff.mp hentry).2]

/-- What the URL says of other controls stays as it was. -/
theorem Follows.param_of_ne (h : before.Follows name value after) (hne : other ≠ name) :
    after.param other.label none = before.param other.label none := by
  unfold Follows at h
  split at h
  · rw [h]
  · obtain ⟨url, found, changed, rfl, hfound, hpairs, hsets⟩ := h
    rw [param_of_pairs ⟨url, _⟩ hpairs, param_of_pairs before hfound, hsets.eq,
      paramOf_setName_of_ne fun heq => hne (ControlName.label_injective heq)]

end Page

namespace BoundPage

variable {state : BoundPage} {names : List ControlName} {changes : List (ControlName × Json)}

def after (state : BoundPage) (changes : List (ControlName × Json)) : BoundPage :=
  changes.foldl (fun state change => (state.change change.1.label change.2).1) state

/-- The page can be led on, and each of the controls leads it by its own name. -/
structure Leads (names : List ControlName) (state : BoundPage) : Prop where
  page : Url.WellFormed state.page.url
  listeners : ∀ name ∈ names, ∃ control,
    OrderedMap.get? name.label state.controls = some control ∧ control.listeners = [⟨name⟩]

/-! ## Binding -/

/-- A control as it is when it has been bound. -/
def boundControl (page : Page) (name : ControlName) : Control Redirector :=
  ⟨page.seedOf name, [], [⟨name⟩]⟩

/-- A control that is bound has the value that the URL gives it and leads the page. -/
theorem bindOne_spec (h : Url.WellFormed state.page.url) {name : ControlName}
    (hfresh : OrderedMap.get? name.label state.controls = some .empty) :
    state.bindOne name.label = .ok { state with
      controls := OrderedMap.put name.label (boundControl state.page name) state.controls } := by
  unfold bindOne
  rw [ControlName.ofLabel_label, hfresh, Option.getD_some]
  simp only [Except.mapError, Page.seeded_empty h]
  rfl

theorem bindAll_spec {labels : List String} (h : Url.WellFormed state.page.url)
    (hnodup : labels.Nodup) (hnames : ∀ label ∈ labels, ∃ name : ControlName, name.label = label)
    (hfresh : ∀ label ∈ labels, OrderedMap.get? label state.controls = some .empty) :
    ∃ controls, state.bindAll labels = ({ state with controls := controls }, none) ∧
      (∀ name : ControlName, name.label ∈ labels →
        OrderedMap.get? name.label controls = some (boundControl state.page name)) ∧
      ∀ label, label ∉ labels →
        OrderedMap.get? label controls = OrderedMap.get? label state.controls := by
  induction labels generalizing state with
  | nil => exact ⟨state.controls, rfl, nofun, fun _ _ => rfl⟩
  | cons label labels ih =>
    obtain ⟨hnew, hrest⟩ := List.nodup_cons.mp hnodup
    obtain ⟨⟨name, rfl⟩, hothers⟩ := List.forall_mem_cons.mp hnames
    obtain ⟨hempty, hfresh⟩ := List.forall_mem_cons.mp hfresh
    let bound : BoundPage := { state with
      controls := OrderedMap.put name.label (boundControl state.page name) state.controls }
    have hwaiting : ∀ label ∈ labels, OrderedMap.get? label bound.controls = some .empty := by
      intro label hmem
      have hne : label ≠ name.label := fun heq => hnew (heq ▸ hmem)
      exact (OrderedMap.get?_put_of_ne hne ..).trans (hfresh label hmem)
    have hpage : Url.WellFormed bound.page.url := h
    obtain ⟨controls, hall, hbound, hkept⟩ := ih hpage hrest hothers hwaiting
    refine ⟨controls, ?_, fun other hmem => ?_, fun label hmem => ?_⟩
    · rw [bindAll, bindOne_spec h hempty]
      exact hall
    · rcases List.mem_cons.mp hmem with heq | hmem
      · obtain rfl := ControlName.label_injective heq
        rw [hkept _ hnew, OrderedMap.get?_put_self]
      · exact hbound other hmem
    · obtain ⟨hne, hmem⟩ := not_or.mp (mt List.mem_cons.mpr hmem)
      rw [hkept label hmem, OrderedMap.get?_put_of_ne hne]

theorem get?_fresh (labels : List String) (controls : List (String × Control Redirector))
    {label : String} (h : label ∈ labels) :
    OrderedMap.get? label (labels.foldl (fun controls name => OrderedMap.put name .empty controls)
      controls) = some .empty := by
  have hkept : ∀ (labels : List String) (controls : List (String × Control Redirector)),
      OrderedMap.get? label controls = some .empty →
      OrderedMap.get? label (labels.foldl (fun controls name => OrderedMap.put name .empty controls)
        controls) = some .empty := by
    intro labels
    induction labels with
    | nil => exact fun _ h => h
    | cons other labels ih =>
      intro controls h
      refine ih _ ?_
      by_cases heq : label = other
      · rw [heq, OrderedMap.get?_put_self]
      · rwa [OrderedMap.get?_put_of_ne heq]
  induction labels generalizing controls with
  | nil => cases h
  | cons other labels ih =>
    rcases List.mem_cons.mp h with rfl | h
    · exact hkept labels _ (OrderedMap.get?_put_self ..)
    · exact ih _ h

/-- New controls are bound: each has its value from the query and leads the page. -/
theorem bind_spec (h : Url.WellFormed state.page.url) (names : List ControlName) :
    ∃ bound, state.bind (names.map ControlName.label) = (bound, none) ∧ bound.page = state.page ∧
      ∀ name ∈ names,
        OrderedMap.get? name.label bound.controls = some (boundControl state.page name) := by
  have hkeys : OrderedMap.keys ((names.map ControlName.label).map fun name => (name, ())) =
      names.map ControlName.label := by
    simp [OrderedMap.keys]
  obtain ⟨hnodup, hmem⟩ := OrderedMap.keys_ofPairs
    ((names.map ControlName.label).map fun name => (name, ()))
  rw [hkeys] at hmem
  let fresh : BoundPage := { state with
    controls := (names.map ControlName.label).foldl
      (fun controls name => OrderedMap.put name .empty controls) state.controls }
  have hpage : Url.WellFormed fresh.page.url := h
  obtain ⟨controls, hall, hbound, -⟩ := bindAll_spec hpage hnodup
    (fun label hlabel => (List.mem_map.mp ((hmem label).mp hlabel)).imp fun _ h => h.2)
    fun label hlabel => get?_fresh _ _ ((hmem label).mp hlabel)
  exact ⟨_, hall, rfl, fun name hname =>
    hbound name ((hmem _).mpr (List.mem_map_of_mem hname))⟩

/-- Controls that were bound lead the page. -/
theorem leads_bind (h : Url.WellFormed state.page.url) (names : List ControlName) :
    ∃ bound, state.bind (names.map ControlName.label) = (bound, none) ∧ bound.Leads names := by
  obtain ⟨bound, hbind, hpage, hcontrols⟩ := bind_spec h names
  exact ⟨bound, hbind, by rwa [hpage], fun name hname => ⟨_, hcontrols name hname, rfl⟩⟩

/-! ## Changes -/

/-- A change is followed by the page, and the controls lead it as before. -/
theorem Leads.change (h : state.Leads names) {name : ControlName} (hname : name ∈ names)
    (value : Json) : ∃ next, state.change name.label value = (next, none) ∧ next.Leads names ∧
      state.page.Follows name value next.page := by
  obtain ⟨control, hcontrol, hlisteners⟩ := h.listeners name hname
  obtain ⟨led, hled, hwell, hfollows⟩ := Page.redirect_follows h.page name value
  have htell : Control.tell act value control.listeners (.ok state.page) = .ok led := by
    rw [hlisteners]
    exact hled
  refine ⟨⟨led, OrderedMap.put name.label (control.set value) state.controls⟩, ?_,
    ⟨hwell, fun other hother => ?_⟩, hfollows⟩
  · unfold BoundPage.change
    rw [hcontrol]
    dsimp only
    rw [htell]
  · by_cases heq : other = name
    · subst heq
      exact ⟨_, OrderedMap.get?_put_self .., hlisteners⟩
    · obtain ⟨found, hfound, hlead⟩ := h.listeners other hother
      refine ⟨found, ?_, hlead⟩
      rwa [OrderedMap.get?_put_of_ne fun hlabel => heq (ControlName.label_injective hlabel)]

theorem after_cons (state : BoundPage) (change : ControlName × Json) :
    state.after (change :: changes) = (state.change change.1.label change.2).1.after changes := rfl

theorem after_append (state : BoundPage) (earlier later : List (ControlName × Json)) :
    state.after (earlier ++ later) = (state.after earlier).after later := List.foldl_append ..

theorem Leads.after (h : state.Leads names) (hchanges : ∀ change ∈ changes, change.1 ∈ names) :
    (state.after changes).Leads names := by
  induction changes generalizing state with
  | nil => exact h
  | cons change changes ih =>
    obtain ⟨hfirst, hrest⟩ := List.forall_mem_cons.mp hchanges
    obtain ⟨next, hchange, hnext, -⟩ := h.change hfirst change.2
    rw [after_cons, hchange]
    exact ih hnext hrest

/-- The page says of a control what it was last changed to, up to changes to values without a
text. -/
theorem Leads.param_after (h : state.Leads names) (hchanges : ∀ change ∈ changes, change.1 ∈ names)
    {name : ControlName} {given : Option String}
    (hgiven : state.page.param name.label none = .ok given)
    (hlater : ∀ change ∈ changes, change.1 = name → Query.entry? change.2 = none) :
    (state.after changes).page.param name.label none = .ok given := by
  induction changes generalizing state with
  | nil => exact hgiven
  | cons change changes ih =>
    obtain ⟨hfirst, hrest⟩ := List.forall_mem_cons.mp hchanges
    obtain ⟨hsilent, hlater⟩ := List.forall_mem_cons.mp hlater
    obtain ⟨next, hchange, hnext, hfollows⟩ := h.change hfirst change.2
    rw [after_cons, hchange]
    refine ih hnext hrest ?_ hlater
    by_cases heq : change.1 = name
    · unfold Page.Follows at hfollows
      rw [hsilent heq] at hfollows
      rw [show next.page = state.page from hfollows]
      exact hgiven
    · rw [hfollows.param_of_ne (Ne.symm heq)]
      exact hgiven

/-- What a control shows that takes over a change to a value with a text: the text, and for a truth
value the one that was given or that the text names. -/
def takenOver (name : ControlName) (value : Json) (text : String) : Json :=
  match name, value with
  | .ignoreErrors, .bool flag => .bool flag
  | .ignoreErrors, _ =>
    match Query.flag text with
    | .ok flag => .bool flag
    | .error _ => .null
  | _, _ => .text text

/-- The value with which a control begins is the text of the URL, or what a flag makes of it. -/
theorem seed_takenOver {name : ControlName} {value : Json} {text : String}
    (h : Query.entry? value = some text) :
    (Page.seed name text).getD .null = takenOver name value text := by
  have hflag : (Page.seed .ignoreErrors text).getD .null =
      match Query.flag text with
      | .ok flag => .bool flag
      | .error _ => .null := by
    unfold Page.seed
    cases Query.flag text <;> rfl
  unfold takenOver
  split
  · next flag =>
    -- the text of a truth value names it
    obtain rfl : (if flag then "true" else "false") = text :=
      Option.some.inj (Query.entry?_eq_some_iff.mp h).1
    have hnamed : Query.flag (if flag then "true" else "false") = .ok flag := by
      cases flag <;> decide +kernel
    rw [hflag, hnamed]
  · exact hflag
  · next hother _ =>
    cases name with
    | ignoreErrors => exact absurd rfl hother
    | _ => rfl

/-- Changes of bound controls, in any order and number.  Each change to a value with a text leads
the page to the URL in which the first pair of the control's name has the text, later pairs of the
name are dropped, and nothing else of the query differs; any other change leaves the page as it is.
Controls that are bound afterwards take over what was last changed to. -/
theorem bind_changes (h : Url.WellFormed state.page.url) (names : List ControlName)
    (changes : List (ControlName × Json)) (hchanges : ∀ change ∈ changes, change.1 ∈ names) :
    ∃ bound, state.bind (names.map ControlName.label) = (bound, none) ∧
      (∀ earlier name value later, changes = earlier ++ (name, value) :: later →
        ∃ next, (bound.after earlier).change name.label value = (next, none) ∧
          (bound.after earlier).page.Follows name value next.page) ∧
      ∀ earlier name value later text, changes = earlier ++ (name, value) :: later →
        Query.entry? value = some text →
        (∀ change ∈ later, change.1 = name → Query.entry? change.2 = none) →
        ∀ others : List ControlName, name ∈ others →
          ∃ rebound control,
            (bound.after changes).bind (others.map ControlName.label) = (rebound, none) ∧
            OrderedMap.get? name.label rebound.controls = some control ∧
            control.value = takenOver name value text := by
  obtain ⟨bound, hbind, hleads⟩ := leads_bind h names
  have hstep : ∀ earlier name value later, changes = earlier ++ (name, value) :: later →
      (∀ change ∈ later, change.1 ∈ names) ∧
      ∃ next, (bound.after earlier).change name.label value = (next, none) ∧ next.Leads names ∧
        (bound.after earlier).page.Follows name value next.page := by
    rintro earlier name value later rfl
    obtain ⟨hearlier, hrest⟩ := List.forall_mem_append.mp hchanges
    obtain ⟨hname, hlater⟩ := List.forall_mem_cons.mp hrest
    exact ⟨hlater, (hleads.after hearlier).change hname value⟩
  refine ⟨bound, hbind, fun earlier name value later hsplit => ?_,
    fun earlier name value later text hsplit hentry hsilent others hmem => ?_⟩
  · obtain ⟨-, next, hchange, -, hfollows⟩ := hstep earlier name value later hsplit
    exact ⟨next, hchange, hfollows⟩
  · obtain ⟨hlater, next, hchange, hnext, hfollows⟩ := hstep earlier name value later hsplit
    have hafter : bound.after changes = next.after later := by
      rw [hsplit, after_append, after_cons, hchange]
    have hparam := hnext.param_after hlater (hfollows.param_self hentry) hsilent
    obtain ⟨rebound, hrebind, -, hcontrols⟩ := bind_spec (hnext.after hlater).page others
    rw [hafter]
    refine ⟨rebound, _, hrebind, hcontrols name hmem, ?_⟩
    show (next.after later).page.seedOf name = _
    unfold Page.seedOf
    rw [hparam]
    exact seed_takenOver hentry

/-- Two pairs of one name, and a change of another name in between. -/
def twoChanges : List (ControlName × Json) :=
  [(.old, .text "gav-xcm&new=1"), (.ignoreErrors, .bool false), (.old, .null)]

theorem bind_twoChanges : ∃ bound rebound control,
    (BoundPage.mk (.ofUrl "/?old=a&repo=polkadot&old=b") []).bind ["old", "ignore_errors"] =
      (bound, none) ∧
    (bound.after twoChanges).bind ["old"] = (rebound, none) ∧
    OrderedMap.get? "old" rebound.controls = some control ∧
    control.value = .text "gav-xcm&new=1" := by
  have hwell : Url.WellFormed (BoundPage.mk (.ofUrl "/?old=a&repo=polkadot&old=b") []).page.url :=
    ⟨⟨"", "", "/", "old=a&repo=polkadot&old=b", ""⟩, by decide +kernel,
      fun _ h => absurd h (by decide)⟩
  obtain ⟨bound, hbind, -, hrebind⟩ := bind_changes hwell [.old, .ignoreErrors] twoChanges
    (by decide)
  obtain ⟨rebound, control, hbound, hcontrol, hvalue⟩ := hrebind [] .old _ _ "gav-xcm&new=1" rfl
    (by decide) (by decide) [.old] List.mem_cons_self
  exact ⟨bound, rebound, control, hbind, hbound, hcontrol, hvalue⟩

/-- A text that names no truth value is not taken over as the value of the control that shows
one. -/
theorem not_takenOver_maybe :
    let bound := ((BoundPage.mk (.ofUrl "/") []).bind ["ignore_errors"]).1
    let rebound := ((bound.after [(.ignoreErrors, .text "maybe")]).bind ["ignore_errors"]).1
    Query.entry? (.text "maybe") = some "maybe" ∧
    ((OrderedMap.get? "ignore_errors" rebound.controls).map fun control => control.value.text?) =
      some none := by
  decide +kernel

end BoundPage

end BranchCompare
