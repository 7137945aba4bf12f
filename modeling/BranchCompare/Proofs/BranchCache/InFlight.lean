import BranchCompare.Proofs.BranchCache.Runs

/-!
# One fetch at a time

A repository has at most one fetch that has started and not ended, and this is the fetch that is
recorded for it (`open_fetch_recorded`).  The record of a fetch is removed late, by a signal of its
own; until then another fetch may have been recorded, and its record stays.
-/

namespace BranchCompare

namespace BranchCache

/-- Two fetches of one repository that have not ended are the same. -/
theorem Sound.open_unique {cache : BranchCache} {line : List CacheSignal} (h : Sound cache line)
    {fetch other : FetchId} {state otherState : Fetch}
    (hf : cache.fetches[fetch]? = some state) (ho : cache.fetches[other]? = some otherState)
    (hopen : state.result = none) (hopen' : otherState.result = none)
    (hrepo : state.repo = otherState.repo) : fetch = other := by
  have hrec := h.recorded hf hopen
  have hrec' := h.recorded ho hopen'
  rw [hrepo, hrec'] at hrec
  exact (Prod.mk.inj (Option.some.inj hrec)).1.symm

/-- To do what the removal of a record says leaves the records of other fetches. -/
theorem record_perform_forget {cache : BranchCache} {repo : String} {fetch old : FetchId}
    {forced : Bool} (h : OrderedMap.get? repo cache.inFlight = some (fetch, forced))
    (hne : fetch ≠ old) :
    OrderedMap.get? repo (cache.perform (.forget old)).1.inFlight = some (fetch, forced) := by
  simp only [perform]
  split
  · exact record_forget h hne
  · exact h

end BranchCache

namespace CacheRun

/-- At every moment of every run, each fetch that has not ended is the one recorded for its
repository, so that a repository has at most one, and the late removal of the record of an older
fetch leaves the record of a newer one. -/
theorem open_fetch_recorded (limit : Seconds) (ready : List (String × Reply))
    (events : List CacheEvent) :
    let run := (start (.fresh limit ready)).after events
    (∀ (fetch : FetchId) (state : Fetch), run.cache.fetches[fetch]? = some state →
      state.result = none →
      OrderedMap.get? state.repo run.cache.inFlight = some (fetch, state.forced)) ∧
    (∀ (fetch other : FetchId) (state otherState : Fetch),
      run.cache.fetches[fetch]? = some state → run.cache.fetches[other]? = some otherState →
      state.result = none → otherState.result = none → state.repo = otherState.repo →
      fetch = other) ∧
    (∀ (place : Nat) (old : FetchId) (repo : String) (fetch : FetchId) (forced : Bool),
      run.line[place]? = some (.forget old) →
      OrderedMap.get? repo run.cache.inFlight = some (fetch, forced) → fetch ≠ old →
      OrderedMap.get? repo (run.turn place).cache.inFlight = some (fetch, forced)) := by
  intro run
  have h : run.Sound := sound_after limit ready events
  refine ⟨fun fetch state hf hopen => h.cache.recorded hf hopen,
    fun fetch other state otherState hf ho hopen hopen' hrepo =>
      h.cache.open_unique hf ho hopen hopen' hrepo, ?_⟩
  intro place old repo fetch forced hs hrec hne
  rcases turn_cases run place with heq | ⟨caller, hs', -⟩ | ⟨signal, hs', -, hcache, -, -⟩
  · rw [heq]
    exact hrec
  · rw [hs] at hs'
    cases hs'
  · rw [hs] at hs'
    obtain rfl := Option.some.inj hs'
    rw [hcache]
    exact BranchCache.record_perform_forget hrec hne

/-- A plain fetch fails, and a forced load that has waited for it starts a fetch before the record
of the plain one is removed. -/
def lateRemoval : List CacheEvent :=
  [.load "polkadot" false, .turn 0, .turn 0, .turn 0, .load "polkadot" true, .turn 0,
    .answer 0 (.unavailable ⟨"polkadot", "down"⟩), .turn 0, .turn 0, .turn 0, .turn 2, .turn 2]

theorem open_fetch_recorded_lateRemoval :
    OrderedMap.get? "polkadot" (halfMinute.after lateRemoval).cache.inFlight = some (1, true) ∧
      (halfMinute.after lateRemoval).line[0]? = some (.forget 0) ∧
      OrderedMap.get? "polkadot" ((halfMinute.after lateRemoval).turn 0).cache.inFlight =
        some (1, true) := by
  obtain ⟨hrecorded, -, hkept⟩ := open_fetch_recorded (.whole 30) [] lateRemoval
  have hline : (halfMinute.after lateRemoval).line[0]? = some (.forget 0) := rfl
  have hrec : OrderedMap.get? "polkadot" (halfMinute.after lateRemoval).cache.inFlight =
      some (1, true) := hrecorded 1 _ rfl rfl
  exact ⟨hrec, hline, hkept 0 0 "polkadot" 1 true hline hrec (by decide)⟩

end CacheRun

end BranchCompare
