import BranchCompare.Proofs.BranchCache.Answers
import BranchCompare.Proofs.BranchCache.Course

/-!
# The entries of a branch cache

The entry of a repository is the list of the fetch that was started last among those that have
returned one, and the list has come to this fetch as an answer (`entry_of_run`).  This rests on one
fetch at a time: the recorded fetch of a repository is the newest (`Kept.newest`), so that a fetch
that ends is newer than all that have ended before, and its list comes last.
-/

namespace BranchCompare

namespace BranchCache

def listOf? (repo : String) : String × Option LoadEnd → Option (List Branch)
  | (name, some (.ok branches)) => if name = repo then some branches else none
  | _ => none

/-- The lists that fetches of the repository have returned, in the order in which the fetches were
started. -/
def lists (cache : BranchCache) (repo : String) : List (List Branch) :=
  cache.outcomes.filterMap (listOf? repo)

/-- Only a fetch of the repository that has returned a list counts. -/
theorem listOf?_eq_some_iff {repo : String} {outcome : String × Option LoadEnd}
    {branches : List Branch} :
    listOf? repo outcome = some branches ↔ outcome = (repo, some (.ok branches)) := by
  unfold listOf?
  split
  · next name list => simp
  · next hother =>
    refine ⟨nofun, ?_⟩
    rintro rfl
    exact absurd rfl (hother repo branches)

theorem listOf?_of_ne {repo name : String} (h : name ≠ repo) (result : Option LoadEnd) :
    listOf? repo (name, result) = none := by
  unfold listOf?
  split
  · next heq =>
    obtain ⟨rfl, -⟩ := Prod.mk.inj heq
    exact if_neg h
  · rfl

/-- The entry of each repository is the last of its lists, and its record is that of its newest
fetch. -/
structure Kept (cache : BranchCache) : Prop where
  entry : ∀ repo, cache.get? repo = (cache.lists repo).getLast?
  newest : ∀ {repo : String} {fetch later : Nat} {forced : Bool} {result : Option LoadEnd},
    OrderedMap.get? repo cache.inFlight = some (fetch, forced) →
    cache.outcomes[later]? = some (repo, result) → later ≤ fetch

/-- A fresh cache has neither entries nor lists. -/
theorem kept_fresh (limit : Seconds) (ready : List (String × Reply)) :
    Kept (.fresh limit ready) := ⟨fun _ => rfl, nofun⟩

section Keep

variable {before after : BranchCache} {signals : List CacheSignal}

/-- The list of a fetch that ends comes last. -/
theorem Kept.lists_finish (h : before.Kept) {repo : String} {fetch : FetchId} {forced : Bool}
    {result : LoadEnd} (hopen : before.outcomes[fetch]? = some (repo, none))
    (hrecord : OrderedMap.get? repo before.inFlight = some (fetch, forced))
    (houtcomes : after.outcomes = before.outcomes.set fetch (repo, some result)) (name : String) :
    after.lists name = before.lists name ++ (listOf? name (repo, some result)).toList := by
  obtain ⟨hlt, hget⟩ := List.getElem?_eq_some_iff.mp hopen
  -- the fetches after this one are fetches of other repositories
  have hrest : (listOf? name (repo, some result)).isSome = true →
      (before.outcomes.drop (fetch + 1)).filterMap (listOf? name) = [] := by
    intro hsome
    obtain ⟨list, hlist⟩ := Option.isSome_iff_exists.mp hsome
    obtain ⟨rfl, -⟩ := Prod.mk.inj (listOf?_eq_some_iff.mp hlist)
    rw [List.filterMap_eq_nil_iff]
    rintro ⟨other, ended⟩ hmem
    refine listOf?_of_ne ?_ ended
    rintro rfl
    obtain ⟨place, hplace⟩ := List.getElem?_of_mem hmem
    rw [List.getElem?_drop] at hplace
    have := h.newest hrecord hplace
    omega
  have hbefore : before.outcomes = before.outcomes.take fetch ++
      (repo, none) :: before.outcomes.drop (fetch + 1) := by
    rw [← hget, List.getElem_cons_drop, List.take_append_drop]
  have hopenList : listOf? name (repo, none) = none := rfl
  unfold lists
  rw [houtcomes, List.set_eq_take_append_cons_drop, if_pos hlt]
  conv_rhs => rw [hbefore]
  rw [List.filterMap_append, List.filterMap_append, List.filterMap_cons_none hopenList,
    List.filterMap_cons]
  cases hlist : listOf? name (repo, some result) with
  | none => simp
  | some list =>
    rw [hrest (by rw [hlist]; rfl)]
    simp

/-- The end of a fetch keeps entries and records: it was the newest fetch of its repository. -/
theorem Kept.finish (h : before.Kept) {repo : String} {fetch : FetchId} {forced : Bool}
    {result : LoadEnd} (hopen : before.outcomes[fetch]? = some (repo, none))
    (hrecord : OrderedMap.get? repo before.inFlight = some (fetch, forced))
    (hentries : after.entries = match result with
      | .ok branches => OrderedMap.put repo branches before.entries
      | .error _ => before.entries)
    (houtcomes : after.outcomes = before.outcomes.set fetch (repo, some result))
    (hrecords : after.inFlight = before.inFlight) : after.Kept := by
  constructor
  · intro name
    rw [h.lists_finish hopen hrecord houtcomes]
    have hold := h.entry name
    unfold get? at hold ⊢
    rw [hentries]
    cases result with
    | error error =>
      have hlist : listOf? name (repo, some (.error error)) = none := rfl
      rw [hlist, Option.toList_none, List.append_nil]
      exact hold
    | ok branches =>
      by_cases hname : name = repo
      · subst hname
        have hlist : listOf? name (name, some (.ok branches)) = some branches :=
          listOf?_eq_some_iff.mpr rfl
        rw [hlist, Option.toList_some, List.getLast?_concat]
        exact OrderedMap.get?_put_self ..
      · rw [listOf?_of_ne (Ne.symm hname), Option.toList_none, List.append_nil, ← hold]
        exact OrderedMap.get?_put_of_ne hname ..
  · intro name recorded later kind ended hrec houtcome
    rw [hrecords] at hrec
    rw [houtcomes, List.getElem?_set] at houtcome
    split at houtcome
    · next heq =>
      subst heq
      split at houtcome
      · obtain ⟨rfl, -⟩ := Prod.mk.inj (Option.some.inj houtcome)
        exact h.newest hrec hopen
      · cases houtcome
    · exact h.newest hrec houtcome

/-- What the cache does keeps entries and records. -/
theorem Proceeds.kept (h : Proceeds before after signals) (hkept : before.Kept) : after.Kept := by
  induction h with
  | rest signals houtcomes hentries hrecords =>
    refine ⟨fun repo => ?_, fun hrec => ?_⟩
    · rw [get?, hentries, lists, houtcomes]
      exact hkept.entry repo
    · rw [hrecords] at hrec
      rw [houtcomes]
      exact hkept.newest hrec
  | @forget before repo fetch result hended =>
    have houtcomes := outcomes_of_fetches (forget_fetches before repo fetch)
    refine ⟨fun name => ?_, fun hrec => ?_⟩
    · rw [get?, forget_entries, lists, houtcomes]
      exact hkept.entry name
    · rw [houtcomes]
      exact hkept.newest (record_of_forget hrec)
  | @start before after repo forced hnone houtcomes hentries hrecords =>
    constructor
    · intro name
      have hlist : listOf? name (repo, none) = none := rfl
      rw [get?, hentries, lists, houtcomes, List.filterMap_append, List.filterMap_cons_none hlist,
        List.filterMap_nil, List.append_nil]
      exact hkept.entry name
    · intro name fetch later kind result hrec houtcome
      rw [hrecords] at hrec
      rw [houtcomes] at houtcome
      have hle : later < before.outcomes.length + 1 := by
        have := (List.getElem?_eq_some_iff.mp houtcome).1
        simpa using this
      by_cases hname : name = repo
      · subst hname
        rw [OrderedMap.get?_put_self] at hrec
        obtain ⟨rfl, -⟩ := Prod.mk.inj (Option.some.inj hrec)
        omega
      · rw [OrderedMap.get?_put_of_ne hname] at hrec
        by_cases hlt : later < before.outcomes.length
        · rw [List.getElem?_append_left hlt] at houtcome
          exact hkept.newest hrec houtcome
        · obtain rfl : later = before.outcomes.length := by omega
          rw [List.getElem?_concat_length] at houtcome
          obtain ⟨rfl, -⟩ := Prod.mk.inj (Option.some.inj houtcome)
          exact absurd rfl hname
  | finish hopen hrecord hentries houtcomes hrecords =>
    exact hkept.finish hopen hrecord hentries houtcomes hrecords
  | trans hfirst hnext ih ih' => exact ih' (ih hkept)

/-- An entry changes only when a fetch of its repository returns a list, and then this list is the
entry and the fetch is newer than all that have ended before. -/
theorem Proceeds.entry_cases (h : Proceeds before after signals) (hkept : before.Kept)
    (repo : String) :
    after.get? repo = before.get? repo ∨
    ∃ (fetch : Nat) (branches : List Branch), before.resultOf fetch = none ∧
      after.outcomes[fetch]? = some (repo, some (.ok branches)) ∧
      after.get? repo = some branches ∧
      ∀ (older : Nat) (result : LoadEnd),
        before.outcomes[older]? = some (repo, some result) → older < fetch := by
  induction h with
  | rest signals houtcomes hentries => exact .inl (by rw [get?, hentries, get?])
  | forget => exact .inl (by rw [get?, forget_entries, get?])
  | start hnone houtcomes hentries => exact .inl (by rw [get?, hentries, get?])
  | @finish before after name fetch forced result signals hopen hrecord hentries houtcomes =>
    cases result with
    | error => exact .inl (by rw [get?, hentries, get?])
    | ok branches =>
      by_cases hname : repo = name
      · subst hname
        refine .inr ⟨fetch, branches, ?_, ?_, ?_, fun older ended holder => ?_⟩
        · rw [resultOf_eq, hopen, Option.bind_some]
        · rw [houtcomes, List.getElem?_set_self (List.getElem?_eq_some_iff.mp hopen).1]
        · rw [get?, hentries]
          exact OrderedMap.get?_put_self ..
        · refine Nat.lt_of_le_of_ne (hkept.newest hrecord holder) ?_
          rintro rfl
          rw [hopen] at holder
          cases holder
      · refine .inl ?_
        rw [get?, hentries, get?]
        exact OrderedMap.get?_put_of_ne hname ..
  | @trans before middle after signals more hfirst hnext ih ih' =>
    rcases ih' (hfirst.kept hkept) with hsame | ⟨fetch, branches, hopen, hended, hget, hnewer⟩
    · rw [hsame]
      refine (ih hkept).imp_right ?_
      rintro ⟨fetch, branches, hopen, hended, hget, hnewer⟩
      exact ⟨fetch, branches, hopen, hnext.ended hended, hget, hnewer⟩
    · refine .inr ⟨fetch, branches, ?_, hended, hget,
        fun older result holder => hnewer older result (hfirst.ended holder)⟩
      -- a fetch that has not ended in between had not ended before
      rw [← Option.not_isSome_iff_eq_none] at hopen ⊢
      refine fun hsome => hopen ?_
      obtain ⟨result, hresult⟩ := Option.isSome_iff_exists.mp hsome
      rw [resultOf_eq, Option.bind_eq_some_iff] at hresult
      obtain ⟨⟨name, ended⟩, houtcome, heq⟩ := hresult
      dsimp only at heq
      subst heq
      rw [resultOf_eq, hfirst.ended houtcome]
      rfl

end Keep

section Entry

variable {cache : BranchCache}

/-- There is no entry as long as no fetch has returned a list. -/
theorem Kept.entry_none_iff (h : cache.Kept) (repo : String) :
    cache.get? repo = none ↔ ∀ branches, ¬ cache.Ended repo (.ok branches) := by
  rw [h.entry, List.getLast?_eq_none_iff, lists, List.filterMap_eq_nil_iff]
  constructor
  · rintro hnone branches ⟨state, hmem, rfl, hresult⟩
    have hlist : listOf? state.repo state.outcome = some branches :=
      listOf?_eq_some_iff.mpr (by rw [Fetch.outcome, hresult])
    rw [hnone _ (List.mem_map_of_mem hmem)] at hlist
    cases hlist
  · intro hnone outcome hmem
    obtain ⟨state, hstate, rfl⟩ := List.mem_map.mp hmem
    cases hlist : listOf? repo state.outcome with
    | none => rfl
    | some branches =>
      obtain ⟨hrepo, hresult⟩ := Prod.mk.inj (listOf?_eq_some_iff.mp hlist)
      exact absurd ⟨state, hstate, hrepo, hresult⟩ (hnone branches)

/-- The entry is the list of the newest fetch that has returned one. -/
theorem Kept.entry_some_iff (h : cache.Kept) (repo : String) (branches : List Branch) :
    cache.get? repo = some branches ↔
      ∃ (fetch : Nat) (state : Fetch), cache.fetches[fetch]? = some state ∧ state.repo = repo ∧
        state.result = some (.ok branches) ∧
        ∀ (later : Nat) (other : Fetch) (list : List Branch), fetch < later →
          cache.fetches[later]? = some other → other.repo = repo →
          other.result ≠ some (.ok list) := by
  rw [h.entry, lists, List.getLast?_filterMap, List.findSome?_eq_some_iff]
  constructor
  · rintro ⟨newer, outcome, older, hsplit, hlist, hnewer⟩
    have hforward : cache.outcomes = older.reverse ++ outcome :: newer.reverse := by
      rw [← List.reverse_reverse cache.outcomes, hsplit]
      simp
    obtain rfl := listOf?_eq_some_iff.mp hlist
    have hplace : cache.outcomes[older.length]? = some (repo, some (.ok branches)) := by
      rw [hforward, List.getElem?_append_right (by simp)]
      simp
    obtain ⟨state, hf, hrepo, hresult⟩ := fetch_of_outcome hplace
    refine ⟨older.length, state, hf, hrepo, hresult, ?_⟩
    rintro later other list hlt hother rfl hended
    have houtcome := outcome_of_fetch hother
    rw [hforward, List.getElem?_append_right (by simp; omega), List.length_reverse,
      List.getElem?_cons, if_neg (by omega)] at houtcome
    have hmem := List.mem_reverse.mp (List.mem_of_getElem? houtcome)
    have hnone := hnewer _ hmem
    rw [hended, listOf?_eq_some_iff.mpr rfl] at hnone
    cases hnone
  · rintro ⟨fetch, state, hf, hrepo, hresult, hlast⟩
    have houtcome := outcome_of_fetch hf
    rw [hrepo, hresult] at houtcome
    obtain ⟨hlt, hget⟩ := List.getElem?_eq_some_iff.mp houtcome
    refine ⟨(cache.outcomes.drop (fetch + 1)).reverse, (repo, some (.ok branches)),
      (cache.outcomes.take fetch).reverse, ?_, listOf?_eq_some_iff.mpr rfl, ?_⟩
    · have hsplit : cache.outcomes = cache.outcomes.take fetch ++
          (repo, some (.ok branches)) :: cache.outcomes.drop (fetch + 1) := by
        rw [← hget, List.getElem_cons_drop, List.take_append_drop]
      conv_lhs => rw [hsplit]
      simp
    · intro outcome hmem
      obtain ⟨place, hplace⟩ := List.getElem?_of_mem (List.mem_reverse.mp hmem)
      rw [List.getElem?_drop] at hplace
      cases hlist : listOf? repo outcome with
      | none => rfl
      | some list =>
        obtain rfl := listOf?_eq_some_iff.mp hlist
        obtain ⟨other, hother, hname, hended⟩ := fetch_of_outcome hplace
        exact absurd hended (hlast _ other list (by omega) hother hname)

end Entry

end BranchCache

namespace CacheRun

theorem Sound.kept_after {run : CacheRun} (h : run.Sound) (hkept : run.cache.Kept)
    (events : List CacheEvent) : (run.after events).cache.Kept := by
  induction events generalizing run with
  | nil => exact hkept
  | cons event events ih =>
    obtain ⟨signals, hproceeds, -⟩ := h.proceeds_step event
    exact ih (h.step event) (hproceeds.kept hkept)

/-- Entries and records are kept along every run. -/
theorem kept_after (limit : Seconds) (ready : List (String × Reply)) (events : List CacheEvent) :
    ((start (.fresh limit ready)).after events).cache.Kept :=
  (sound_start limit ready).kept_after (BranchCache.kept_fresh limit ready) events

/-- At every moment of every run a repository has no entry as long as no fetch of it has returned a
list, and then its entry is the list of the fetch that was started last among those that have
returned one.  A fetch returns a list only if this list has come to it as the answer to its call.  An
event changes an entry only if by it a fetch of this repository returns a list; this list is then the
entry, and the fetch was started after all that have returned one before. -/
theorem entry_of_run (limit : Seconds) (ready : List (String × Reply))
    (events : List CacheEvent) :
    let run := (start (.fresh limit ready)).after events
    (∀ repo, run.cache.get? repo = none ↔
      ∀ state ∈ run.cache.fetches, state.repo = repo →
        ∀ branches, state.result ≠ some (.ok branches)) ∧
    (∀ repo branches, run.cache.get? repo = some branches ↔
      ∃ (fetch : Nat) (state : Fetch), run.cache.fetches[fetch]? = some state ∧ state.repo = repo ∧
        state.result = some (.ok branches) ∧
        ∀ (later : Nat) (other : Fetch) (list : List Branch), fetch < later →
          run.cache.fetches[later]? = some other → other.repo = repo →
          other.result ≠ some (.ok list)) ∧
    (∀ (fetch : Nat) (state : Fetch) (branches : List Branch),
      run.cache.fetches[fetch]? = some state → state.result = some (.ok branches) →
      (start (.fresh limit ready)).Came events fetch (.answer branches)) ∧
    (∀ event repo, (run.step event).cache.get? repo ≠ run.cache.get? repo →
      ∃ (fetch : Nat) (state : Fetch) (branches : List Branch),
        (run.step event).cache.fetches[fetch]? = some state ∧ state.repo = repo ∧
        run.cache.resultOf fetch = none ∧ state.result = some (.ok branches) ∧
        (run.step event).cache.get? repo = some branches ∧
        ∀ (older : Nat) (other : Fetch) (list : List Branch),
          run.cache.fetches[older]? = some other → other.repo = repo →
          other.result = some (.ok list) → older < fetch) := by
  intro run
  have hsound : run.Sound := sound_after limit ready events
  have hkept : run.cache.Kept := kept_after limit ready events
  refine ⟨fun repo => ?_, hkept.entry_some_iff, fun fetch state branches hf hresult => ?_,
    fun event repo hchanged => ?_⟩
  · rw [hkept.entry_none_iff]
    constructor
    · exact fun hnone state hmem hrepo branches hresult =>
        hnone branches ⟨state, hmem, hrepo, hresult⟩
    · rintro hnone branches ⟨state, hmem, hrepo, hresult⟩
      exact hnone state hmem hrepo branches hresult
  · exact ((hears_of_run limit ready events).result hf hresult).told
  · obtain ⟨signals, hproceeds, -⟩ := hsound.proceeds_step event
    rcases hproceeds.entry_cases hkept repo with
      hsame | ⟨fetch, branches, hopen, hended, hget, hnewer⟩
    · exact absurd hsame hchanged
    · obtain ⟨state, hf, hrepo, hresult⟩ := BranchCache.fetch_of_outcome hended
      refine ⟨fetch, state, branches, hf, hrepo, hopen, hresult, hget, ?_⟩
      rintro older other list hother rfl hlist
      have houtcome := BranchCache.outcome_of_fetch hother
      rw [hlist] at houtcome
      exact hnewer older _ houtcome

end CacheRun

end BranchCompare
