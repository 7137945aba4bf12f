import BranchCompare.Proofs.PresetTable
import BranchCompare.Proofs.Workflow.LastListing
import BranchCompare.Proofs.Workflow.RowVerdicts

/-!
# Comparisons without a repository of their own

A comparison of a row for which no repository is given settles on the repository of the listing that
was the last to succeed, whichever listing the row is from.  Each of its turns stays with it
(`ComparesIn`): unless the row is refused the branches of this repository are fetched anew, and the
page is led nowhere but to its URL (`comparing_of_lastListed`).
-/

namespace BranchCompare

/-- The URL of a comparison names the repository of its preset. -/
theorem Page.param_of_draft_url {draft : CompareRequest.Draft} {url : String}
    (h : draft.url = .ok url) :
    (Page.ofUrl url).param "repo" none = .ok (some draft.preset.repo) := by
  unfold CompareRequest.Draft.url at h
  cases hcheck : draft.check with
  | issues found =>
    rw [hcheck] at h
    cases h
  | ok request =>
    rw [hcheck] at h
    obtain rfl := Except.ok.inj h
    have hfirst : request.pairs.find? (fun pair => pair.1 = "repo") =
        some ("repo", request.preset.repo) := List.find?_cons_of_pos rfl
    rw [Page.param_of_pairs (.ofUrl request.url) request.pairs_url, paramOf, hfirst]
    dsimp only
    rw [if_neg request.preset.repo_ne, CompareRequest.Draft.preset_of_check hcheck]

namespace Session

variable {parts : Parts} {session begun before after : Session} {repo : String} {task : TaskId}
  {row : ChangeRequest.Row} {state : TaskState}

/-- A forced fetch of the repository is waited for that is recent, or has ended, or a fetch of the
repository was broken off, which breaks off the operation. -/
def RefreshesIn (repo : String) (begun after : Session) (state : TaskState) : Prop :=
  (∃ waiting purpose, state = .loading waiting purpose false ∧
      begun.cache.Refreshes after.cache repo (.waits waiting)) ∨
    (∃ result, begun.cache.Refreshed after.cache repo result) ∨
    ∃ crash, state = .ended (.crashed crash) ∧ after.cache.Ended repo (.error (.crashed crash))

/-- What a turn of a comparison comes to that stays with the repository. -/
structure ComparesIn (table : PresetTable) (repo : String) (begun : Session)
    (row : ChangeRequest.Row) (before after : Session) (state : TaskState) : Prop where
  verdict : Verdict begun row none before after state
  /-- Unless the row is refused, the branches of the repository are fetched anew. -/
  refreshes : row.disabled = false → ∀ preset, table.resolve (some repo) = .ok preset →
    RefreshesIn repo begun after state
  /-- The page stays, or is led to the URL of the preset of the repository once that is done. -/
  page : after.page = before.page ∨ ∃ preset url branches,
    table.resolve (some repo) = .ok preset ∧
    (CompareRequest.Draft.ofBranches preset row.request.baseRef row.request.headRef).url =
      .ok url ∧
    begun.cache.Refreshed after.cache repo (.ok branches) ∧
    after.page = before.page.navigate url ∧
    (table.Own → (Page.ofUrl url).param "repo" none = .ok (some repo))

/-- A verdict on a comparison that settles on the repository stays with it. -/
theorem Verdict.comparesIn (h : Verdict begun row none before after state)
    (hsettled : begun.settled none = .ok (some repo)) :
    ComparesIn begun.table repo begun row before after state := by
  have hsame : ∀ {name : String} {preset : Preset}, begun.Accepts row none name preset →
      name = repo := fun haccepts =>
    Option.some.inj (Except.ok.inj (haccepts.repo.symm.trans hsettled))
  refine ⟨h, ?_, ?_⟩
  · intro hopen preset hpreset
    cases h with
    | refuses hrefuses =>
      cases hrefuses with
      | fork hdisabled => exact absurd hdisabled (hopen ▸ Bool.false_ne_true)
      | unknown _ hrepo herror =>
        obtain rfl := Except.ok.inj (hrepo.symm.trans hsettled)
        cases hpreset.symm.trans herror
    | waits haccepts hload => exact .inl ⟨_, _, rfl, hsame haccepts ▸ hload⟩
    | opens haccepts hload | rejects haccepts hload | fails haccepts hload =>
      exact .inr (.inl ⟨_, hsame haccepts ▸ hload⟩)
    | breaks haccepts hload => exact .inr (.inr ⟨_, rfl, hsame haccepts ▸ hload⟩)
    | strays _ hrepo => cases hrepo.symm.trans hsettled
  · cases h with
    | opens haccepts hload hurl hshows =>
      obtain rfl := hsame haccepts
      refine .inr ⟨_, _, _, haccepts.preset, hurl, hload, hshows.page, fun hown => ?_⟩
      rw [Page.param_of_draft_url hurl]
      exact congrArg (Except.ok ∘ some) (PresetTable.repo_of_resolve hown haccepts.preset)
    | refuses _ _ hshows | waits _ _ hshows | rejects _ _ _ hshows | fails _ _ hshows
    | breaks _ _ hshows | strays _ _ _ hshows => exact .inl hshows.page

/-- Where no repository is given, a comparison settles on the one beside the rows. -/
theorem settled_of_requests (hrequests : begun.flow.requestsRepo = some repo) (hrepo : repo ≠ "") :
    begun.settled none = .ok (some repo) := by
  have hgiven : (Action.nonEmpty none).or (Action.nonEmpty begun.flow.requestsRepo) = some repo := by
    rw [hrequests]
    exact if_pos (decide_eq_true hrepo)
  rw [settled, hgiven]

/-- A session keeps the presets that it was made of. -/
theorem table_of_make (hmake : make parts = .ok session) : session.table = parts.table := by
  unfold make at hmake
  dsimp only at hmake
  split at hmake
  · obtain rfl := Except.ok.inj hmake
    rfl
  · cases hmake

/-- A comparison for which no repository is given settles on the repository whose listing was the
last one to succeed before it began, and each of its turns stays with this repository: its branches
are fetched anew, and the page is led nowhere but to its URL. -/
theorem comparing_of_lastListed (hmake : make parts = .ok session) {limit : Seconds}
    {ready : List (String × Reply)} (hcache : parts.cache = .fresh limit ready)
    {events : List FlowEvent} (hlast : session.LastListed events repo) (hrepo : repo ≠ "")
    (hs : (session.after events).tasks[task]? = some (.begins (.compare row none))) :
    (session.after events).settled none = .ok (some repo) ∧
      (session.after events).TakesTurns task
        (ComparesIn parts.table repo (session.after events) row) := by
  have hsound := (sound_of_make hmake hcache).1
  have htable : (session.after events).table = parts.table :=
    (hsound.after events).table.trans (table_of_make hmake)
  have hsettled := settled_of_requests (hsound.requests_of_lastListed hlast) hrepo
  have htraffic := ((Reachable.made hmake).after events).sound_traffic hcache
  refine ⟨hsettled, (takesTurns_compare htraffic hs).imp fun before after state hverdict => ?_⟩
  rw [← htable]
  exact hverdict.comparesIn hsettled

/-- Two listings overlap, the second ends first, and a row of it is to be compared when the first
is about to end. -/
def overlappingListings : List FlowEvent :=
  [.begin (.list (some "paritytech") (some "polkadot")),
    .begin (.list (some "paritytech") (some "substrate"))] ++ turns 4 ++
    [.answerListing 1 (.answer [newYear 7 (some 0)])] ++ turns 3 ++
    [.answerListing 0 (.answer [newYear 8 (some 0)]), .turn 0, .turn 0,
      .begin (.compare openRow none)]

/-- The branches come in that a comparison loads, and so many signals have their turn.  The sixth
one is the last turn of the comparison. -/
def comparedBranches (count : Nat) : List FlowEvent :=
  turns 3 ++ [.answerFetch 0 (.answer [⟨"master", "a1"⟩, ⟨"bench", "c3"⟩])] ++ turns count

theorem comparing_of_lastListed_overlapping : ∃ session url, make listingParts = .ok session ∧
    let begun := session.after (overlappingListings ++ [.turn 0])
    let now := (begun.step (.turn 0)).after (comparedBranches 5)
    begun.settled none = .ok (some "polkadot") ∧
      (now.step (.turn 0)).page = now.page.navigate url ∧
      (Page.ofUrl url).param "repo" none = .ok (some "polkadot") := by
  have hrun : ((make listingParts).toOption.any fun session =>
      let earlier := session.after overlappingListings
      let begun := session.after (overlappingListings ++ [.turn 0])
      let now := (begun.step (.turn 0)).after (comparedBranches 5)
      earlier.tasks[0]?.bind TaskState.answered? = some "polkadot" ∧
        ((earlier.step (.turn 0)).tasks[0]?.bind TaskState.rows?).isSome = true ∧
        begun.line[0]? = some (.cache (.caller 2)) ∧
        begun.tasks[2]?.bind toBegin? = some (.compare openRow none) ∧
        now.tasks[2]?.map TaskState.isOver = some false ∧
        ((now.step (.turn 0)).tasks[2]?.bind TaskState.url?).isSome = true ∧
        (now.step (.turn 0)).page ≠ now.page) = true := by decide +kernel
  obtain ⟨session, hmake, hchecks⟩ := exists_make_of_any hrun
  obtain ⟨hanswered, hlisted, hline, hbegins, hopen, hreturned, hled⟩ := of_decide_eq_true hchecks
  obtain ⟨rows, hrows⟩ := Option.isSome_iff_exists.mp hlisted
  obtain ⟨url, hurl⟩ := Option.isSome_iff_exists.mp hreturned
  have hlast : session.LastListed (overlappingListings ++ [.turn 0]) "polkadot" :=
    ⟨overlappingListings, .turn 0, [], rows, rfl, ⟨0, hanswered, hrows⟩,
      fun done next rest heq => by simp at heq⟩
  have hcache : listingParts.cache = .fresh (.whole 30) [] := rfl
  obtain ⟨hsettled, hturns⟩ := comparing_of_lastListed hmake hcache hlast (by decide)
    (eq_of_toBegin? hbegins)
  obtain ⟨-, hcompares⟩ :=
    hturns.ends_of_url hline (Onward.refl.after (comparedBranches 5)) hopen hurl
  rcases hcompares.page with hsame | ⟨_, url, _, -, -, -, hpage, hrepo⟩
  · exact absurd hsame hled
  · exact ⟨session, url, hmake, hsettled, hpage, hrepo PresetTable.own_standard⟩

/-- A listing is about to succeed. -/
def firstListing : List FlowEvent :=
  .begin (.list (some "paritytech") (some "polkadot")) :: turns 2 ++
    [.answerListing 0 (.answer [newYear 7 (some 0)])] ++ turns 2

/-- Another listing succeeds, and then a row of the first one is to be compared. -/
def secondListing : List FlowEvent :=
  .begin (.list (some "paritytech") (some "substrate")) :: turns 2 ++
    [.answerListing 1 (.answer [])] ++ turns 3 ++
    [.begin (.compare openRow none)]

def substrateDraft : CompareRequest.Draft := .ofBranches PresetTable.substrate "master" "bench"

/-- A row of one repository may be compared in another one. -/
theorem strays_secondListing : ¬ ∀ (parts : Parts) (session : Session) (limit : Seconds)
    (earlier later rest : List FlowEvent) (event : FlowEvent) (repo url : String)
    (rows : List ChangeRequest.Row) (row : ChangeRequest.Row) (task : TaskId) (place : Nat),
    make parts = .ok session → parts.cache = .fresh limit [] → parts.table = .standard →
    (session.after earlier).Lists ((session.after earlier).step event) repo rows → row ∈ rows →
    let begun := ((session.after earlier).step event).after later
    begun.tasks[task]? = some (.begins (.compare row none)) →
    begun.line[place]? = some (.cache (.caller task)) →
    ((begun.step (.turn place)).after rest).tasks[task]?.bind TaskState.url? = some url →
    (Page.ofUrl url).param "repo" none = .ok (some repo) := by
  intro hall
  have hrun : ((make listingParts).toOption.any fun session =>
      let earlier := session.after firstListing
      let begun := (earlier.step (.turn 0)).after secondListing
      let now := (begun.step (.turn 0)).after (comparedBranches 6)
      earlier.tasks[0]?.bind TaskState.answered? = some "polkadot" ∧
        (earlier.step (.turn 0)).tasks[0]?.bind TaskState.rows? = some [openRow] ∧
        begun.tasks[2]?.bind toBegin? = some (.compare openRow none) ∧
        begun.line[0]? = some (.cache (.caller 2)) ∧
        now.tasks[2]?.bind TaskState.url? = substrateDraft.url.toOption) = true := by
    decide +kernel
  obtain ⟨session, hmake, hchecks⟩ := exists_make_of_any hrun
  obtain ⟨hanswered, hrows, hbegins, hline, hreturned⟩ := of_decide_eq_true hchecks
  obtain ⟨url, hdraft⟩ : ∃ url, substrateDraft.url = .ok url := ⟨_, rfl⟩
  rw [hdraft] at hreturned
  have hpolkadot := hall listingParts session (.whole 30) firstListing secondListing
    (comparedBranches 6) (.turn 0) "polkadot" url [openRow] openRow 2 0 hmake rfl rfl
    ⟨0, hanswered, hrows⟩ (List.mem_singleton.mpr rfl) (eq_of_toBegin? hbegins) hline hreturned
  have hsame := (Page.param_of_draft_url hdraft).symm.trans hpolkadot
  exact absurd hsame (by decide)

end Session

end BranchCompare
