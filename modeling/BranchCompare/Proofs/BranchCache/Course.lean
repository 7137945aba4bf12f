import BranchCompare.Proofs.BranchCache.Runs

/-!
# The course of a branch cache

What becomes of the records, the entries and the ends of fetches.  `Proceeds` lists all that can
happen to them: nothing, the removal of the record of a fetch that has ended, a new fetch for a
repository without a record, and the end of a recorded fetch.  Whatever a sound cache does is one or
more of these (`Sound.proceeds_perform`, `Sound.proceeds_load`, `Sound.proceeds_step`), so that a
property of records, entries and ends is kept at all times if it is kept by these four.
-/

namespace BranchCompare

def Fetch.outcome (fetch : Fetch) : String × Option LoadEnd := (fetch.repo, fetch.result)

namespace BranchCache

def outcomes (cache : BranchCache) : List (String × Option LoadEnd) :=
  cache.fetches.map Fetch.outcome

/-- How the records, the entries and the ends of fetches pass while signals are put in line. -/
inductive Proceeds : BranchCache → BranchCache → List CacheSignal → Prop where
  /-- They stay as they are. -/
  | rest {before after : BranchCache} (signals : List CacheSignal)
    (houtcomes : after.outcomes = before.outcomes) (hentries : after.entries = before.entries)
    (hrecords : after.inFlight = before.inFlight) : Proceeds before after signals
  /-- The record of a fetch is removed that has ended. -/
  | forget {before : BranchCache} {repo : String} {fetch : FetchId} {result : LoadEnd}
    (hended : before.outcomes[fetch]? = some (repo, some result)) :
    Proceeds before (before.forget repo fetch) []
  /-- A fetch is started. -/
  | start {before after : BranchCache} {repo : String} {forced : Bool}
    (hnone : OrderedMap.get? repo before.inFlight = none)
    (houtcomes : after.outcomes = before.outcomes ++ [(repo, none)])
    (hentries : after.entries = before.entries)
    (hrecords : after.inFlight =
      OrderedMap.put repo (before.outcomes.length, forced) before.inFlight) :
    Proceeds before after [.start before.outcomes.length]
  /-- A fetch ends.  A list becomes the entry of its repository. -/
  | finish {before after : BranchCache} {repo : String} {fetch : FetchId} {forced : Bool}
    {result : LoadEnd} {signals : List CacheSignal}
    (hopen : before.outcomes[fetch]? = some (repo, none))
    (hrecord : OrderedMap.get? repo before.inFlight = some (fetch, forced))
    (hentries : after.entries = match result with
      | .ok branches => OrderedMap.put repo branches before.entries
      | .error _ => before.entries)
    (houtcomes : after.outcomes = before.outcomes.set fetch (repo, some result))
    (hrecords : after.inFlight = before.inFlight) (hsignal : .forget fetch ∈ signals) :
    Proceeds before after signals
  | trans {before middle after : BranchCache} {signals more : List CacheSignal}
    (hfirst : Proceeds before middle signals) (hnext : Proceeds middle after more) :
    Proceeds before after (signals ++ more)

section Outcomes

variable {cache : BranchCache} {fetch : FetchId} {state : Fetch}

theorem outcome_of_fetch (hf : cache.fetches[fetch]? = some state) :
    cache.outcomes[fetch]? = some (state.repo, state.result) := by
  simp [outcomes, hf, Fetch.outcome]

/-- Each outcome is that of a fetch. -/
theorem fetch_of_outcome {repo : String} {result : Option LoadEnd}
    (h : cache.outcomes[fetch]? = some (repo, result)) :
    ∃ state, cache.fetches[fetch]? = some state ∧ state.repo = repo ∧ state.result = result := by
  rw [outcomes, List.getElem?_map] at h
  obtain ⟨state, hf, houtcome⟩ := Option.map_eq_some_iff.mp h
  obtain ⟨hrepo, hresult⟩ := Prod.mk.inj houtcome
  exact ⟨state, hf, hrepo, hresult⟩

theorem resultOf_eq (cache : BranchCache) (fetch : FetchId) :
    cache.resultOf fetch = cache.outcomes[fetch]?.bind (·.2) := by
  rw [resultOf, outcomes, List.getElem?_map]
  cases cache.fetches[fetch]? <;> rfl

@[simp] theorem length_outcomes (cache : BranchCache) :
    cache.outcomes.length = cache.fetches.length := List.length_map ..

theorem outcomes_of_fetches {after : BranchCache} (h : after.fetches = cache.fetches) :
    after.outcomes = cache.outcomes :=
  congrArg (List.map Fetch.outcome) h

/-- One fetch changes. -/
theorem outcomes_modifyFetch (hf : cache.fetches[fetch]? = some state) (change : Fetch → Fetch) :
    (cache.modifyFetch fetch change).outcomes =
      cache.outcomes.set fetch ((change state).repo, (change state).result) := by
  obtain ⟨hlt, rfl⟩ := List.getElem?_eq_some_iff.mp hf
  unfold outcomes modifyFetch
  rw [List.modify_eq_set_getElem?, hf]
  exact List.map_set

theorem outcomes_modifyFetch_of_same (hf : cache.fetches[fetch]? = some state)
    {change : Fetch → Fetch} (hrepo : (change state).repo = state.repo)
    (hresult : (change state).result = state.result) :
    (cache.modifyFetch fetch change).outcomes = cache.outcomes := by
  have houtcome := outcome_of_fetch hf
  obtain ⟨hlt, heq⟩ := List.getElem?_eq_some_iff.mp houtcome
  rw [outcomes_modifyFetch hf, hrepo, hresult, ← heq, List.set_getElem_self]

end Outcomes

/-! ## What the operations do -/

section Operations

variable {cache : BranchCache} {line : List CacheSignal}

/-- A cache that keeps its records, entries and ends proceeds in the first of the four ways. -/
theorem Proceeds.refl (cache : BranchCache) (signals : List CacheSignal) :
    Proceeds cache cache signals := .rest signals rfl rfl rfl

/-- A change of one fetch that is not its end. -/
theorem proceeds_modifyFetch {fetch : FetchId} {state : Fetch} {change : Fetch → Fetch}
    {after : BranchCache} {signals : List CacheSignal} (hf : cache.fetches[fetch]? = some state)
    (hafter : after.fetches = cache.fetches.modify fetch change)
    (hrepo : (change state).repo = state.repo) (hresult : (change state).result = state.result)
    (hentries : after.entries = cache.entries) (hrecords : after.inFlight = cache.inFlight) :
    Proceeds cache after signals :=
  .rest signals ((congrArg _ hafter).trans (outcomes_modifyFetch_of_same hf hrepo hresult))
    hentries hrecords

/-- A fetch may end when its turn has come. -/
theorem Sound.proceeds_finish (h : Sound cache line) {fetch : FetchId} {state : Fetch}
    (hf : cache.fetches[fetch]? = some state) (hopen : state.result = none)
    (call : BoundedCall (List Branch)) (result : LoadEnd) :
    let called := cache.modifyFetch fetch fun f => { f with call := call }
    Proceeds cache (called.finish fetch state result).1 (called.finish fetch state result).2 := by
  intro called
  have houtcome := outcome_of_fetch hf
  rw [hopen] at houtcome
  have houtcomes : (called.finish fetch state result).1.outcomes =
      cache.outcomes.set fetch (state.repo, some result) := by
    have hmodify := outcomes_modifyFetch hf
      fun f => { f with call := call, result := some result }
    rw [← hmodify]
    refine outcomes_of_fetches ?_
    simp only [BranchCache.finish, called, modifyFetch_modifyFetch]
    rfl
  exact .finish houtcome (h.recorded hf hopen) rfl houtcomes rfl List.mem_cons_self

/-- By a turn of its call a fetch may end, and nothing else happens. -/
theorem Sound.proceeds_takeTurn {fetch : FetchId} {state : Fetch} {turn : CallTurn}
    (h : Sound cache (.turn fetch turn :: line)) (hf : cache.fetches[fetch]? = some state) :
    Proceeds cache (cache.takeTurn fetch state turn).1 (cache.takeTurn fetch state turn).2 := by
  cases turn with
  | make | takeUp | notify => exact proceeds_modifyFetch hf rfl rfl rfl rfl rfl
  | wake =>
    have hpaced : state.call.Paced state.result.isNone
        (BoundedCall.tally [.wake] (due fetch line)) := by
      have := h.paced hf
      rwa [due_cons, CacheSignal.callTurn?_turn, if_pos rfl] at this
    have hopen : state.result = none := Option.isNone_iff_eq_none.mp hpaced.wake.1
    rcases hw : state.call.wake with ⟨call, turns, ended⟩
    simp only [BranchCache.takeTurn, hw]
    cases ended with
    | none => exact proceeds_modifyFetch hf rfl rfl rfl rfl rfl
    | some ended => exact h.proceeds_finish hf hopen call _

/-- Removing the record of a fetch of the repository that has ended. -/
theorem proceeds_forget {fetch : FetchId} {state : Fetch}
    (hf : cache.fetches[fetch]? = some state) (hended : (cache.resultOf fetch).isSome = true) :
    Proceeds cache (cache.forget state.repo fetch) [] := by
  rw [resultOf, hf, Option.bind_some] at hended
  obtain ⟨result, hresult⟩ := Option.isSome_iff_exists.mp hended
  have houtcome := outcome_of_fetch hf
  rw [hresult] at houtcome
  exact .forget houtcome

/-- Whatever a signal says, the cache proceeds by it. -/
theorem Sound.proceeds_perform {signal : CacheSignal} (h : Sound cache (signal :: line)) :
    Proceeds cache (cache.perform signal).1 (cache.perform signal).2 := by
  cases signal with
  | start fetch => exact .refl cache _
  | turn fetch turn =>
    simp only [BranchCache.perform]
    split
    · next state hf => exact h.proceeds_takeTurn hf
    · exact .refl cache _
  | forget fetch =>
    have hended := h.announced List.mem_cons_self rfl
    simp only [BranchCache.perform]
    split
    · next state hf => exact proceeds_forget hf hended
    · exact .refl cache _
  | deliver fetch caller =>
    simp only [BranchCache.perform]
    split
    · next state hf =>
      split
      · exact proceeds_modifyFetch hf rfl rfl rfl rfl rfl
      · exact .refl cache _
    · exact .refl cache _
  | caller caller => exact .refl cache _

theorem proceeds_answer (cache : BranchCache) (fetch : FetchId) (result : CallEnd (List Branch)) :
    Proceeds cache (cache.answer fetch result).1 (cache.answer fetch result).2 := by
  unfold answer
  split
  · next state hf => exact proceeds_modifyFetch hf rfl rfl rfl rfl rfl
  · exact .refl cache _

theorem proceeds_expire (cache : BranchCache) (fetch : FetchId) :
    Proceeds cache (cache.expire fetch).1 (cache.expire fetch).2 := by
  unfold expire
  split
  · next state hf => exact proceeds_modifyFetch hf rfl rfl rfl rfl rfl
  · exact .refl cache _

theorem proceeds_abandon (cache : BranchCache) (waiting : Waiting) (caller : CallerId) :
    Proceeds cache (cache.abandon waiting caller).1 (cache.abandon waiting caller).2 := by
  unfold abandon
  split
  · next state hf =>
    split
    · exact proceeds_modifyFetch hf rfl rfl rfl rfl rfl
    · exact .refl cache _
  · exact .refl cache _

/-- A fetch may be started for a repository without a record. -/
theorem proceeds_startFetch {repo : String} (forced : Bool) (caller : CallerId)
    (hnone : OrderedMap.get? repo cache.inFlight = none) :
    Proceeds cache (cache.startFetch repo forced caller).1
      (cache.startFetch repo forced caller).2.2 := by
  have houtcomes : (cache.startFetch repo forced caller).1.outcomes =
      cache.outcomes ++ [(repo, none)] := List.map_append ..
  have hrecords : (cache.startFetch repo forced caller).1.inFlight =
      OrderedMap.put repo (cache.outcomes.length, forced) cache.inFlight := by
    rw [length_outcomes]
    rfl
  have hstart := Proceeds.start hnone houtcomes rfl hrecords
  rwa [length_outcomes] at hstart

/-- A load that finds no entry may start a fetch, in the place of one that has ended. -/
theorem Sound.proceeds_join (h : Sound cache line) (repo : String) (forced : Bool)
    (caller : CallerId) :
    Proceeds cache (cache.join repo forced caller).1 (cache.join repo forced caller).2.2 := by
  rcases join_cases cache repo forced caller with
    ⟨fetch, fetchForced, hrec, -, heq⟩ | ⟨fetch, fetchForced, result, -, -, -, heq⟩ |
    ⟨cleared, hnone, heq, hcleared⟩
  · obtain ⟨state, hf, -⟩ := h.known hrec
    rw [heq]
    exact proceeds_modifyFetch hf rfl rfl rfl rfl rfl
  · rw [heq]
    exact .refl cache _
  · rw [heq]
    have hstart := proceeds_startFetch forced caller hnone
    rcases hcleared with rfl | ⟨-, fetch, result, hrec, hended, rfl⟩
    · exact hstart
    · obtain ⟨state, hf, rfl, -⟩ := h.known hrec
      exact (proceeds_forget hf (Option.isSome_iff_exists.mpr ⟨result, hended⟩)).trans hstart

theorem Sound.proceeds_load (h : Sound cache line) (repo : String) (forced : Bool)
    (caller : CallerId) :
    Proceeds cache (cache.load repo forced caller).1 (cache.load repo forced caller).2.2 := by
  rcases load_cases cache repo forced caller with ⟨branches, -, -, heq⟩ | ⟨-, heq⟩
  · rw [heq]
    exact .refl cache _
  · rw [heq]
    exact h.proceeds_join repo forced caller

theorem Sound.proceeds_resume (h : Sound cache line) {waiting : Waiting}
    (hw : cache.Fits waiting) (caller : CallerId) :
    Proceeds cache (cache.resume waiting caller).1 (cache.resume waiting caller).2.2 := by
  rcases resume_cases cache caller waiting with
    ⟨-, heq⟩ | ⟨result, -, -, heq⟩ | ⟨result, hended, -, heq⟩
  · rw [heq]
    exact .refl cache _
  · rw [heq]
    exact .refl cache _
  · have hsome : (cache.resultOf waiting.fetch).isSome = true :=
      Option.isSome_iff_exists.mpr ⟨result, hended⟩
    obtain ⟨state, hf, hrepo, -⟩ := hw
    have hforget := proceeds_forget hf hsome
    rw [hrepo] at hforget
    have hjoin := (h.forget hsome waiting.repo).proceeds_join waiting.repo waiting.forced caller
    rw [heq]
    exact hforget.trans hjoin

end Operations

/-! ## What is kept -/

section Keep

variable {before after : BranchCache} {signals : List CacheSignal}

/-- A fetch that has ended stays as it is. -/
theorem Proceeds.ended (h : Proceeds before after signals) {fetch : FetchId} {repo : String}
    {result : LoadEnd} (hended : before.outcomes[fetch]? = some (repo, some result)) :
    after.outcomes[fetch]? = some (repo, some result) := by
  induction h with
  | rest signals houtcomes => rwa [houtcomes]
  | @forget before name other =>
    rwa [outcomes_of_fetches (forget_fetches before name other)]
  | start hnone houtcomes =>
    rwa [houtcomes, List.getElem?_append_left (List.getElem?_eq_some_iff.mp hended).1]
  | @finish before after name other forced last signals hopen hrecord hentries houtcomes =>
    have hne : other ≠ fetch := by
      rintro rfl
      rw [hopen] at hended
      cases hended
    rwa [houtcomes, List.getElem?_set_ne hne]
  | trans hfirst hnext ih ih' => exact ih' (ih hended)

end Keep

end BranchCache

namespace CacheRun

open BranchCache (Proceeds)

/-! ## Runs -/

theorem proceeds_expireAll (run : CacheRun) (fetches : List FetchId) :
    ∃ signals, Proceeds run.cache (fetches.foldl expire run).cache signals ∧
      (fetches.foldl expire run).line = run.line ++ signals := by
  induction fetches generalizing run with
  | nil => exact ⟨[], .refl _ _, (List.append_nil _).symm⟩
  | cons fetch fetches ih =>
    obtain ⟨more, hrest, hline⟩ := ih (run.expire fetch)
    refine ⟨_, (BranchCache.proceeds_expire run.cache fetch).trans hrest, ?_⟩
    rw [List.foldl_cons, hline]
    exact List.append_assoc ..

/-- By a turn the cache proceeds, and the signals take the place of the one whose turn it was. -/
theorem Sound.proceeds_turn {run : CacheRun} (h : run.Sound) (place : Nat) :
    run.turn place = run ∨
    ∃ signal signals, run.line[place]? = some signal ∧
      Proceeds run.cache (run.turn place).cache signals ∧
      (run.turn place).line = run.line.eraseIdx place ++ signals ∧
      ∀ fetch, signal = .forget fetch →
        (run.turn place).cache = (run.cache.perform (.forget fetch)).1 := by
  rcases turn_cases run place with
    heq | ⟨caller, hs, heq⟩ | ⟨signal, hs, -, hcache, hline, -⟩
  · exact .inl heq
  · refine .inr ⟨.caller caller, ?_⟩
    rw [heq]
    rcases callerTurn_cases { run with line := run.line.eraseIdx place } caller with
      heq | ⟨waiting, -, heq⟩ | ⟨repo, forced, -, heq⟩ | ⟨waiting, hw, heq⟩ <;> rw [heq]
    · exact ⟨[], hs, .refl _ _, (List.append_nil _).symm, nofun⟩
    · exact ⟨[], hs, .refl _ _, (List.append_nil _).symm, nofun⟩
    · exact ⟨_, hs, h.cache.proceeds_load repo forced caller, rfl, nofun⟩
    · exact ⟨_, hs, h.cache.proceeds_resume (h.waits hw) caller, rfl, nofun⟩
  · refine .inr ⟨signal, _, hs, ?_, hline, ?_⟩
    · rw [hcache]
      exact (h.cache.perm (perm_eraseIdx hs)).proceeds_perform
    · rintro fetch rfl
      exact hcache

/-- By any event the cache proceeds, and the signals are put in line. -/
theorem Sound.proceeds_step {run : CacheRun} (h : run.Sound) (event : CacheEvent) :
    ∃ signals, Proceeds run.cache (run.step event).cache signals ∧
      ((run.step event).line = run.line ++ signals ∨
        ∃ place signal, run.line[place]? = some signal ∧
          (run.step event).line = run.line.eraseIdx place ++ signals ∧
          ∀ fetch, signal = .forget fetch →
            (run.step event).cache = (run.cache.perform (.forget fetch)).1) := by
  cases event with
  | load repo forced => exact ⟨_, .refl _ _, .inl rfl⟩
  | turn place =>
    rcases h.proceeds_turn place with heq | ⟨signal, signals, hs, hproceeds, hline, hforget⟩
    · refine ⟨[], ?_⟩
      simp only [CacheRun.step, heq]
      exact ⟨.refl _ _, .inl (List.append_nil _).symm⟩
    · exact ⟨signals, hproceeds, .inr ⟨place, signal, hs, hline, hforget⟩⟩
  | answer fetch result => exact ⟨_, BranchCache.proceeds_answer run.cache fetch result, .inl rfl⟩
  | expire fetch => exact ⟨_, BranchCache.proceeds_expire run.cache fetch, .inl rfl⟩
  | advance span =>
    obtain ⟨signals, hproceeds, hline⟩ := proceeds_expireAll
      { run with timeline := (run.timeline.advance span).1 } (run.timeline.advance span).2
    exact ⟨signals, hproceeds, .inl hline⟩
  | cancel caller =>
    simp only [CacheRun.step, cancel]
    split
    · next waiting cancelled hw =>
      exact ⟨_, BranchCache.proceeds_abandon run.cache waiting caller, .inl rfl⟩
    · exact ⟨[], .refl _ _, .inl (List.append_nil _).symm⟩
  | setReady key reply => exact ⟨[], .rest [] rfl rfl rfl, .inl (List.append_nil _).symm⟩

end CacheRun

end BranchCompare
