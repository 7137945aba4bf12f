import BranchCompare.Proofs.BranchCache.Wakeups

/-!
# Where the outcome of a load comes from

A load that is called without taking an entry joins a fetch, at once or, if it is forced, after the
plain fetches in its way have made room.  `Joins` is the turn by which it does so.  From then on the
caller follows the fetch (`Follows`), and a forced load that has not joined yet can only be cancelled
or crash (`Yields`).  Each is kept by every event but the turn that leads from the second to the
first, and `load_outcome` reads the outcome of each load off this.
-/

namespace BranchCompare

/-- A caller that has joined the fetch waits for it, has ended as it did, or was cancelled. -/
def CallerState.Follows (cache : BranchCache) (fetch : FetchId) : CallerState → Prop
  | .begins _ _ => False
  | .waits waiting _ => waiting.settles = true ∧ waiting.fetch = fetch
  | .ended result => cache.resultOf fetch = some result
  | .cancelled => True

/-- A forced load that has not joined a fetch waits for room, has crashed, or was cancelled. -/
def CallerState.Yields (repo : String) : CallerState → Prop
  | .begins _ _ => False
  | .waits waiting _ => waiting.repo = repo ∧ waiting.forced = true ∧ waiting.settles = false
  | .ended result => BranchCache.leavesRoom result = false
  | .cancelled => True

theorem CallerState.Follows.result {cache : BranchCache} {fetch : FetchId} {result : LoadEnd}
    (h : (CallerState.ended result).Follows cache fetch) {state : Fetch}
    (hf : cache.fetches[fetch]? = some state) : state.result = some result := by
  simpa only [CallerState.Follows, BranchCache.resultOf, hf, Option.bind_some] using h

/-- The caller was cancelled. -/
def CallerState.isCancelled : CallerState → Bool
  | .waits _ off => off
  | .cancelled => true
  | _ => false

namespace BranchCache

/-- A load that finds no entry leaves a fetch recorded: it has joined this fetch, or it is forced and
waits for this fetch, which is a plain one, to make room. -/
theorem join_outcome (cache : BranchCache) (repo : String) (forced : Bool) (caller : CallerId) :
    let joined := cache.join repo forced caller
    ∃ fetch fetchForced,
      OrderedMap.get? repo joined.1.inFlight = some (fetch, fetchForced) ∧
      (OrderedMap.get? repo cache.inFlight = some (fetch, fetchForced) ∨
        fetch = cache.fetches.length ∧
          (OrderedMap.get? repo cache.inFlight = none ∨ forced = true)) ∧
      ((fetchForced || !forced) = true ∧ joined.2.1.state.Follows joined.1 fetch ∨
        (fetchForced || !forced) = false ∧ joined.2.1.state.Yields repo) := by
  have hforced : ∀ {fetchForced : Bool}, (fetchForced || !forced) = false → forced = true := by
    simp
  rcases join_cases cache repo forced caller with
    ⟨fetch, fetchForced, hrec, -, heq⟩ | ⟨fetch, fetchForced, result, hrec, hended, hend, heq⟩ |
    ⟨cleared, hnone, heq, hcleared⟩
  · rw [heq]
    refine ⟨fetch, fetchForced, hrec, .inl hrec, ?_⟩
    cases hsettles : fetchForced || !forced with
    | true => exact .inl ⟨rfl, rfl, rfl⟩
    | false => exact .inr ⟨rfl, rfl, hforced hsettles, rfl⟩
  · rw [heq]
    refine ⟨fetch, fetchForced, hrec, .inl hrec, ?_⟩
    cases hsettles : fetchForced || !forced with
    | true => exact .inl ⟨rfl, hended⟩
    | false => exact .inr ⟨rfl, hend.resolve_left (by simp [hsettles])⟩
  · have hfetches : cleared.fetches = cache.fetches := by
      rcases hcleared with rfl | ⟨-, fetch, result, -, -, rfl⟩
      · rfl
      · exact forget_fetches ..
    rw [heq]
    refine ⟨cleared.fetches.length, forced, startFetch_record .., .inr ⟨by rw [hfetches], ?_⟩,
      .inl ⟨by simp, rfl, rfl⟩⟩
    rcases hcleared with rfl | ⟨hforced, -⟩
    · exact .inl hnone
    · exact .inr hforced

end BranchCache

namespace CacheRun

open BranchCache (leavesRoom)

/-! ## Calls and joins -/

/-- By the turn at the place the caller calls its load. -/
def Calls (run : CacheRun) (place : Nat) (caller : CallerId) (repo : String) (forced : Bool) :
    Prop :=
  run.line[place]? = some (.caller caller) ∧ run.callers[caller]? = some (.begins repo forced)

/-- The caller goes on by looking for a fetch to join. -/
inductive Seeks (run : CacheRun) (caller : CallerId) : String → Bool → Prop where
  /-- The load is called, and does not take an entry. -/
  | call (repo : String) (forced : Bool)
    (hs : run.callers[caller]? = some (.begins repo forced))
    (hentry : forced = true ∨ run.cache.get? repo = none) : Seeks run caller repo forced
  /-- The plain fetch in the way of a forced load has ended. -/
  | again (waiting : Waiting) (result : LoadEnd)
    (hs : run.callers[caller]? = some (.waits waiting false)) (hroom : waiting.settles = false)
    (hended : run.cache.resultOf waiting.fetch = some result)
    (hleaves : leavesRoom result = true) : Seeks run caller waiting.repo waiting.forced

/-- By the turn at the place the caller joins the fetch: it looks for one, and this one is recorded
then and of a kind that it takes. -/
def Joins (run : CacheRun) (place : Nat) (caller : CallerId) (fetch : FetchId) : Prop :=
  run.line[place]? = some (.caller caller) ∧
    ∃ repo forced fetchForced, run.Seeks caller repo forced ∧
      OrderedMap.get? repo (run.turn place).cache.inFlight = some (fetch, fetchForced) ∧
      (fetchForced || !forced) = true

/-- By one of the events the caller joins the fetch. -/
def Joined (run : CacheRun) (events : List CacheEvent) (caller : CallerId) (fetch : FetchId) :
    Prop :=
  ∃ before place rest, events = before ++ .turn place :: rest ∧
    (run.after before).Joins place caller fetch

/-! ## The turn of a caller -/

section Turn

variable {run : CacheRun} {place : Nat} {caller : CallerId} {repo : String} {forced : Bool}

/-- The turn of a caller is taken out of the line first. -/
theorem turn_of_caller (hline : run.line[place]? = some (.caller caller)) :
    run.turn place = { run with line := run.line.eraseIdx place }.callerTurn caller := by
  simp only [turn, hline, perform]

/-- By its turn a caller comes to stand where its load leaves it. -/
theorem Calls.turn (h : run.Calls place caller repo forced) :
    (run.turn place).cache = (run.cache.load repo forced caller).1 ∧
      (run.turn place).callers[caller]? =
        some (run.cache.load repo forced caller).2.1.state := by
  obtain ⟨hline, hs⟩ := h
  have hlt := (List.getElem?_eq_some_iff.mp hs).1
  rw [turn_of_caller hline]
  simp only [callerTurn, hs]
  exact ⟨rfl, by rw [settleTurn_callers, List.getElem?_set_self hlt]⟩

/-- A caller that looks for a fetch goes on as a load that finds no entry, in a cache in which the
record of a fetch may have been removed. -/
theorem Seeks.turn (h : run.Seeks caller repo forced)
    (hline : run.line[place]? = some (.caller caller)) :
    ∃ cleared : BranchCache, (run.turn place).cache = (cleared.join repo forced caller).1 ∧
      (run.turn place).callers[caller]? =
        some (cleared.join repo forced caller).2.1.state := by
  cases h with
  | call repo forced hs hentry =>
    obtain ⟨hcache, hcallers⟩ := Calls.turn ⟨hline, hs⟩
    rcases BranchCache.load_cases run.cache repo forced caller with
      ⟨branches, rfl, hget, -⟩ | ⟨-, heq⟩
    · rcases hentry with hfalse | hnone
      · cases hfalse
      · rw [hnone] at hget
        cases hget
    · rw [heq] at hcache hcallers
      exact ⟨run.cache, hcache, hcallers⟩
  | again waiting result hs hroom hended hleaves =>
    have hlt := (List.getElem?_eq_some_iff.mp hs).1
    rw [turn_of_caller hline]
    simp only [callerTurn, hs]
    rcases BranchCache.resume_cases run.cache caller waiting with
      ⟨hopen, -⟩ | ⟨other, hended', hend, -⟩ | ⟨other, -, -, heq⟩
    · rw [hended] at hopen
      cases hopen
    · obtain rfl := Option.some.inj (hended.symm.trans hended')
      rcases hend with hsettles | hcrash
      · rw [hroom] at hsettles
        cases hsettles
      · rw [hleaves] at hcrash
        cases hcrash
    · rw [heq]
      exact ⟨_, rfl, by rw [settleTurn_callers, List.getElem?_set_self hlt]⟩

/-- A caller that looks for a fetch joins one by its turn, or yields to a plain one. -/
theorem Seeks.joins (h : run.Seeks caller repo forced)
    (hline : run.line[place]? = some (.caller caller)) :
    ∃ fetch fetchForced next,
      OrderedMap.get? repo (run.turn place).cache.inFlight = some (fetch, fetchForced) ∧
      (run.turn place).callers[caller]? = some next ∧
      ((fetchForced || !forced) = true ∧ run.Joins place caller fetch ∧
          next.Follows (run.turn place).cache fetch ∨
        (fetchForced || !forced) = false ∧ next.Yields repo) := by
  obtain ⟨cleared, hcache, hcallers⟩ := h.turn hline
  obtain ⟨fetch, fetchForced, hrec, -, hnext⟩ := cleared.join_outcome repo forced caller
  rw [← hcache] at hrec hnext
  refine ⟨fetch, fetchForced, _, hrec, hcallers, ?_⟩
  rcases hnext with ⟨htakes, hfollows⟩ | ⟨hleaves, hyields⟩
  · exact .inl ⟨htakes, ⟨hline, repo, forced, fetchForced, h, hrec, htakes⟩, hfollows⟩
  · exact .inr ⟨hleaves, hyields⟩

/-- Whoever joins a fetch follows it. -/
theorem Joins.follows {fetch : FetchId} (h : run.Joins place caller fetch) :
    ∃ next, (run.turn place).callers[caller]? = some next ∧
      next.Follows (run.turn place).cache fetch := by
  obtain ⟨hline, repo, forced, fetchForced, hseeks, hrec, htakes⟩ := h
  obtain ⟨other, otherForced, next, hrec', hnext, hend⟩ := hseeks.joins hline
  obtain ⟨rfl, rfl⟩ := Prod.mk.inj (Option.some.inj (hrec.symm.trans hrec'))
  rcases hend with ⟨-, -, hfollows⟩ | ⟨hleaves, -⟩
  · exact ⟨next, hnext, hfollows⟩
  · rw [htakes] at hleaves
    cases hleaves

end Turn

/-! ## What a caller keeps -/

section Keep

variable {run : CacheRun} {caller : CallerId} {state : CallerState}

/-- Whoever follows a fetch goes on following it. -/
theorem Sound.follows_step (h : run.Sound) (hs : run.callers[caller]? = some state)
    {fetch : FetchId} (hf : state.Follows run.cache fetch) (event : CacheEvent) :
    ∃ next, (run.step event).callers[caller]? = some next ∧
      next.Follows (run.step event).cache fetch := by
  obtain ⟨next, hnext, hmove⟩ := move_of_step event hs
  have hl := (h.step_cache event).2
  refine ⟨next, hnext, ?_⟩
  cases hmove with
  | stay =>
    match state with
    | .waits waiting cancelled => exact hf
    | .ended result => exact hl.resultOf hf
    | .cancelled => trivial
  | cancel waiting cancelled => exact hf
  | leave => trivial
  | start => exact hf.elim
  | resume waiting place hevent hline hcache =>
    obtain ⟨hsettles, rfl⟩ := hf
    rcases BranchCache.resume_cases run.cache caller waiting with
      ⟨-, heq⟩ | ⟨result, hended, -, heq⟩ | ⟨result, -, ⟨hroom, -⟩, -⟩
    · rw [heq]
      exact ⟨hsettles, rfl⟩
    · rw [heq]
      exact hl.resultOf hended
    · rw [hsettles] at hroom
      cases hroom

/-- An event leaves a forced load yielding, or is the turn by which it joins a forced fetch. -/
theorem yields_step (hs : run.callers[caller]? = some state) {repo : String}
    (hy : state.Yields repo) (event : CacheEvent) :
    ∃ next, (run.step event).callers[caller]? = some next ∧
      (next.Yields repo ∨ ∃ place fetch, event = .turn place ∧ run.Joins place caller fetch ∧
        OrderedMap.get? repo (run.step event).cache.inFlight = some (fetch, true) ∧
        next.Follows (run.step event).cache fetch) := by
  obtain ⟨next, hnext, hmove⟩ := move_of_step event hs
  refine ⟨next, hnext, ?_⟩
  cases hmove with
  | stay => exact .inl hy
  | cancel waiting cancelled => exact .inl hy
  | leave => exact .inl trivial
  | start => exact hy.elim
  | resume waiting place hevent hline hcache =>
    subst hevent
    obtain ⟨rfl, hforced, hroom⟩ := hy
    rcases BranchCache.resume_cases run.cache caller waiting with
      ⟨-, heq⟩ | ⟨result, -, hend, heq⟩ | ⟨result, hended, ⟨-, hleaves⟩, -⟩
    · rw [heq]
      exact .inl ⟨rfl, hforced, hroom⟩
    · rw [heq]
      exact .inl (hend.resolve_left (by simp [hroom]))
    · have hseeks : run.Seeks caller waiting.repo waiting.forced :=
        .again waiting result hs hroom hended hleaves
      obtain ⟨fetch, fetchForced, turned, hrec, hturned, hend⟩ := hseeks.joins hline
      obtain rfl := Option.some.inj (hnext.symm.trans hturned)
      rcases hend with ⟨htakes, hjoins, hfollows⟩ | ⟨-, hyields⟩
      · obtain rfl : fetchForced = true := by simpa [hforced] using htakes
        exact .inr ⟨place, fetch, rfl, hjoins, hrec, hfollows⟩
      · exact .inl hyields

end Keep

/-! ## Runs -/

section Runs

variable {run : CacheRun} {caller : CallerId} {state : CallerState} {fetch : FetchId}

theorem Joined.append (before : List CacheEvent) {rest : List CacheEvent}
    (h : (run.after before).Joined rest caller fetch) :
    run.Joined (before ++ rest) caller fetch := by
  obtain ⟨start, place, tail, rfl, hjoins⟩ := h
  exact ⟨before ++ start, place, tail, (List.append_assoc ..).symm, by rwa [after_append]⟩

theorem Sound.follows_after (h : run.Sound) (hs : run.callers[caller]? = some state)
    (hf : state.Follows run.cache fetch) (events : List CacheEvent) :
    ∃ next, (run.after events).callers[caller]? = some next ∧
      next.Follows (run.after events).cache fetch := by
  induction events generalizing run state with
  | nil => exact ⟨state, hs, hf⟩
  | cons event events ih =>
    obtain ⟨next, hnext, hfollows⟩ := h.follows_step hs hf event
    exact ih (h.step event) hnext hfollows

theorem Sound.follows_of_joined (h : run.Sound) {events : List CacheEvent}
    (hj : run.Joined events caller fetch) :
    ∃ next, (run.after events).callers[caller]? = some next ∧
      next.Follows (run.after events).cache fetch := by
  obtain ⟨before, place, rest, rfl, hjoins⟩ := hj
  obtain ⟨next, hnext, hfollows⟩ := hjoins.follows
  rw [after_append]
  exact Sound.follows_after ((h.after before).1.step (.turn place)) hnext hfollows rest

/-- A recorded fetch stays a fetch of the repository and of its kind. -/
theorem Sound.known_after (h : run.Sound) {repo : String} {forced : Bool}
    (hrec : OrderedMap.get? repo run.cache.inFlight = some (fetch, forced))
    (events : List CacheEvent) :
    ∃ later, (run.after events).cache.fetches[fetch]? = some later ∧ later.repo = repo ∧
      later.forced = forced := by
  obtain ⟨found, hfound, hrepo, hforced⟩ := h.cache.known hrec
  obtain ⟨later, hlater, hsame⟩ := (h.after events).2.fetch hfound
  exact ⟨later, hlater, hsame.repo.trans hrepo, hsame.forced.trans hforced⟩

/-- A forced load that has not joined a fetch goes on yielding, or joins a forced fetch of its
repository that is recorded or yet to be started. -/
theorem Sound.yields_after (h : run.Sound) (hs : run.callers[caller]? = some state)
    {repo : String} (hy : state.Yields repo) (events : List CacheEvent) :
    ∃ next, (run.after events).callers[caller]? = some next ∧
      (next.Yields repo ∨ ∃ fetch later, run.Joined events caller fetch ∧
        (run.after events).cache.fetches[fetch]? = some later ∧
        later.repo = repo ∧ later.forced = true ∧
        (OrderedMap.get? repo run.cache.inFlight = some (fetch, true) ∨
          run.cache.fetches.length ≤ fetch) ∧
        next.Follows (run.after events).cache fetch) := by
  induction events generalizing run state with
  | nil => exact ⟨state, hs, .inl hy⟩
  | cons event events ih =>
    have hl := (h.step_cache event).2
    obtain ⟨next, hnext, hend⟩ := yields_step hs hy event
    rcases hend with hyields | ⟨place, fetch, rfl, hjoins, hrec, hfollows⟩
    · obtain ⟨last, hlast, hend⟩ := ih (h.step event) hnext hyields
      refine ⟨last, hlast, hend.imp_right ?_⟩
      rintro ⟨fetch, later, hjoined, hlater, hrepo, hforced, hnew, hfollows⟩
      refine ⟨fetch, later, Joined.append [event] hjoined, hlater, hrepo, hforced, ?_,
        hfollows⟩
      rcases hnew with hrec | hle
      · exact hl.record hrec
      · exact .inr (Nat.le_trans hl.length_le hle)
    · obtain ⟨last, hlast, hfollows⟩ := (h.step _).follows_after hnext hfollows events
      obtain ⟨later, hlater, hrepo, hforced⟩ := (h.step _).known_after hrec events
      exact ⟨last, hlast, .inr ⟨fetch, later, ⟨[], place, events, rfl, hjoins⟩, hlater, hrepo,
        hforced, hl.record hrec, hfollows⟩⟩

/-- A load that has ended stays as it is. -/
theorem ended_after {result : LoadEnd} (hs : run.callers[caller]? = some (.ended result))
    (events : List CacheEvent) : (run.after events).callers[caller]? = some (.ended result) := by
  induction events generalizing run with
  | nil => exact hs
  | cons event events ih =>
    obtain ⟨next, hnext, hmove⟩ := move_of_step event hs
    cases hmove with
    | stay => exact ih hnext

/-- A caller that is not cancelled by the events is not cancelled after them. -/
theorem uncancelled_after {events : List CacheEvent} (hevents : .cancel caller ∉ events)
    (h : ∀ state, run.callers[caller]? = some state → state.isCancelled = false) :
    ∀ state, (run.after events).callers[caller]? = some state → state.isCancelled = false := by
  induction events generalizing run with
  | nil => exact h
  | cons event events ih =>
    refine ih (fun hm => hevents (List.mem_cons_of_mem _ hm)) fun next hnext => ?_
    cases hs : run.callers[caller]? with
    | none =>
      obtain ⟨repo, forced, rfl⟩ := begins_of_step event hs hnext
      rfl
    | some state =>
      obtain ⟨moved, hmoved, hmove⟩ := move_of_step event hs
      obtain rfl := Option.some.inj (hnext.symm.trans hmoved)
      have hold := h state hs
      cases hmove with
      | stay => exact hold
      | cancel waiting cancelled hevent => exact absurd (hevent ▸ List.mem_cons_self) hevents
      | leave => exact hold
      | start repo forced => cases (run.cache.load repo forced caller).2.1 <;> rfl
      | resume waiting => cases (run.cache.resume waiting caller).2.1 <;> rfl

/-- A load that has gone on from its beginning was called. -/
theorem called_after {events : List CacheEvent}
    (h : ∀ state, run.callers[caller]? = some state → ∃ repo forced, state = .begins repo forced)
    (hs : (run.after events).callers[caller]? = some state) :
    (∃ repo forced, state = .begins repo forced) ∨
      ∃ before place rest repo forced, events = before ++ .turn place :: rest ∧
        (run.after before).Calls place caller repo forced := by
  induction events generalizing run with
  | nil => exact .inl (h state hs)
  | cons event events ih =>
    by_cases hnext : ∀ next, (run.step event).callers[caller]? = some next →
        ∃ repo forced, next = .begins repo forced
    · refine (ih hnext hs).imp_right ?_
      rintro ⟨before, place, rest, repo, forced, rfl, hcalls⟩
      exact ⟨event :: before, place, rest, repo, forced, rfl, hcalls⟩
    · obtain ⟨next, hnext⟩ := not_forall.mp hnext
      obtain ⟨hnext, hgone⟩ := Classical.not_imp.mp hnext
      cases hold : run.callers[caller]? with
      | none => exact absurd (begins_of_step event hold hnext) hgone
      | some old =>
        obtain ⟨repo, forced, rfl⟩ := h old hold
        obtain ⟨moved, hmoved, hmove⟩ := move_of_step event hold
        obtain rfl := Option.some.inj (hnext.symm.trans hmoved)
        cases hmove with
        | stay => exact absurd ⟨repo, forced, rfl⟩ hgone
        | start _ _ place hevent hline =>
          subst hevent
          exact .inr ⟨[], place, events, repo, forced, rfl, hline, hold⟩

end Runs

/-! ## The outcome of a load -/

/-- A plain load that finds an entry ends with it at once, and nothing else happens. -/
theorem Calls.entry {run : CacheRun} {place : Nat} {caller : CallerId} {repo : String}
    (h : run.Calls place caller repo false) {branches : List Branch}
    (hget : run.cache.get? repo = some branches) :
    (run.turn place).cache = run.cache ∧
      (run.turn place).callers[caller]? = some (.ended (.ok branches)) := by
  obtain ⟨hcache, hcallers⟩ := h.turn
  have hload : run.cache.load repo false caller = (run.cache, .ended (.ok branches), []) := by
    simp [BranchCache.load, hget]
  rw [hload] at hcache hcallers
  exact ⟨hcache, hcallers⟩

/-- A plain load that finds no entry joins the recorded fetch, or the one that it starts. -/
theorem Calls.plain {run : CacheRun} {place : Nat} {caller : CallerId} {repo : String}
    (h : run.Calls place caller repo false) (hnone : run.cache.get? repo = none) :
    ∃ fetch fetchForced, run.Joins place caller fetch ∧
      OrderedMap.get? repo (run.turn place).cache.inFlight = some (fetch, fetchForced) ∧
      (OrderedMap.get? repo run.cache.inFlight = some (fetch, fetchForced) ∨
        OrderedMap.get? repo run.cache.inFlight = none ∧ fetch = run.cache.fetches.length) := by
  obtain ⟨hcache, -⟩ := h.turn
  have hload : run.cache.load repo false caller = run.cache.join repo false caller := by
    simp [BranchCache.load, hnone]
  obtain ⟨fetch, fetchForced, hrec, hold, -⟩ := run.cache.join_outcome repo false caller
  rw [hload] at hcache
  rw [← hcache] at hrec
  refine ⟨fetch, fetchForced,
    ⟨h.1, repo, false, fetchForced, .call repo false h.2 (.inr hnone), hrec, by simp⟩, hrec, ?_⟩
  rcases hold with hold | ⟨hfetch, hnew | hfalse⟩
  · exact .inl hold
  · exact .inr ⟨hnew, hfetch⟩
  · cases hfalse

/-- A forced load joins a forced fetch when it is called, or yields to a plain one. -/
theorem Calls.forced {run : CacheRun} {place : Nat} {caller : CallerId} {repo : String}
    (h : run.Calls place caller repo true) :
    ∃ next, (run.turn place).callers[caller]? = some next ∧
      (next.Yields repo ∨ ∃ fetch, run.Joins place caller fetch ∧
        OrderedMap.get? repo (run.turn place).cache.inFlight = some (fetch, true)) := by
  have hseeks : run.Seeks caller repo true := .call repo true h.2 (.inl rfl)
  obtain ⟨fetch, fetchForced, next, hrec, hnext, hend⟩ := hseeks.joins h.1
  refine ⟨next, hnext, ?_⟩
  rcases hend with ⟨htakes, hjoins, -⟩ | ⟨-, hyields⟩
  · obtain rfl : fetchForced = true := by simpa using htakes
    exact .inr ⟨fetch, hjoins, hrec⟩
  · exact .inl hyields

/-- What a forced load ends with is the outcome of a forced fetch of its repository that it has
joined, and that was recorded when the load was called or started later. -/
theorem Sound.forced_outcome {first : CacheRun} (h : first.Sound) {before rest : List CacheEvent}
    {place : Nat} {caller : CallerId} {repo : String} {result : LoadEnd}
    (hcalls : (first.after before).Calls place caller repo true)
    (hend : (first.after (before ++ .turn place :: rest)).callers[caller]? =
      some (.ended result)) (hcrash : ∀ crash, result ≠ .error (.crashed crash)) :
    ∃ fetch state, first.Joined (before ++ .turn place :: rest) caller fetch ∧
      (first.after (before ++ .turn place :: rest)).cache.fetches[fetch]? = some state ∧
      state.repo = repo ∧ state.forced = true ∧ state.result = some result ∧
      (OrderedMap.get? repo (first.after before).cache.inFlight = some (fetch, true) ∨
        (first.after before).cache.fetches.length ≤ fetch) := by
  have hcall := (h.after before).1
  have hturn := hcall.step (.turn place)
  have hl := (hcall.step_cache (.turn place)).2
  rw [after_append] at hend
  obtain ⟨next, hnext, hyields | ⟨fetch, hjoins, hrec⟩⟩ := hcalls.forced
  · obtain ⟨last, hlast, hyields | ⟨fetch, later, hjoined, hlater, hrepo, hforced, hnew, hf⟩⟩ :=
      hturn.yields_after hnext hyields rest
    · obtain rfl := Option.some.inj (hend.symm.trans hlast)
      have hleaves : leavesRoom result = true := by
        unfold leavesRoom
        split
        · exact absurd rfl (hcrash _)
        · rfl
      rw [show leavesRoom result = false from hyields] at hleaves
      cases hleaves
    · obtain rfl := Option.some.inj (hend.symm.trans hlast)
      refine ⟨fetch, later, Joined.append _ (Joined.append [.turn place] hjoined),
        by rwa [after_append], hrepo, hforced, hf.result hlater, ?_⟩
      rcases hnew with hrec | hle
      · exact hl.record hrec
      · exact .inr (Nat.le_trans hl.length_le hle)
  · obtain ⟨turned, hturned, hfollows⟩ := hjoins.follows
    obtain ⟨last, hlast, hf⟩ := hturn.follows_after hturned hfollows rest
    obtain rfl := Option.some.inj (hend.symm.trans hlast)
    obtain ⟨later, hlater, hrepo, hforced⟩ := hturn.known_after hrec rest
    exact ⟨fetch, later, ⟨before, place, rest, rfl, hjoins⟩, by rwa [after_append], hrepo,
      hforced, hf.result hlater, hl.record hrec⟩

/-- What a plain load ends with is the entry that it found, or else the outcome of the fetch that was
recorded when it was called or that it started. -/
theorem Sound.plain_outcome {first : CacheRun} (h : first.Sound) {before rest : List CacheEvent}
    {place : Nat} {caller : CallerId} {repo : String} {result : LoadEnd}
    (hcalls : (first.after before).Calls place caller repo false)
    (hend : (first.after (before ++ .turn place :: rest)).callers[caller]? =
      some (.ended result)) :
    let call := first.after before
    (∃ branches, call.cache.get? repo = some branches ∧ result = .ok branches ∧
      (call.turn place).cache = call.cache ∧
      (call.turn place).callers[caller]? = some (.ended (.ok branches))) ∨
    (call.cache.get? repo = none ∧ ∃ fetch state, call.Joins place caller fetch ∧
      (first.after (before ++ .turn place :: rest)).cache.fetches[fetch]? = some state ∧
      state.repo = repo ∧ state.result = some result ∧
      ((∃ fetchForced,
          OrderedMap.get? repo call.cache.inFlight = some (fetch, fetchForced)) ∨
        OrderedMap.get? repo call.cache.inFlight = none ∧ fetch = call.cache.fetches.length)) := by
  intro call
  have hturn := (h.after before).1.step (.turn place)
  rw [after_append] at hend
  cases hget : call.cache.get? repo with
  | some branches =>
    obtain ⟨hcache, hended⟩ := hcalls.entry hget
    obtain rfl := CallerState.ended.inj (Option.some.inj (hend.symm.trans (ended_after hended rest)))
    exact .inl ⟨branches, rfl, rfl, hcache, hended⟩
  | none =>
    obtain ⟨fetch, fetchForced, hjoins, hrec, hold⟩ := hcalls.plain hget
    obtain ⟨turned, hturned, hfollows⟩ := hjoins.follows
    obtain ⟨last, hlast, hf⟩ := hturn.follows_after hturned hfollows rest
    obtain rfl := Option.some.inj (hend.symm.trans hlast)
    obtain ⟨later, hlater, hrepo, -⟩ := hturn.known_after hrec rest
    refine .inr ⟨rfl, fetch, later, hjoins, by rwa [after_append], hrepo, ?_, ?_⟩
    · exact hf.result hlater
    · exact hold.imp_left fun hrec => ⟨fetchForced, hrec⟩

/-- A caller that follows a fetch that has ended, that was not cancelled and for which nothing is left
in line has ended as the fetch did. -/
theorem Attentive.ended_of_follows {run : CacheRun} (h : run.Attentive) {caller : CallerId}
    {state : CallerState} {fetch : FetchId} {result : LoadEnd}
    (hs : run.callers[caller]? = some state) (hf : state.Follows run.cache fetch)
    (hcancel : state.isCancelled = false) (hresult : run.cache.resultOf fetch = some result)
    (hturn : .caller caller ∉ run.line) (htold : .deliver fetch caller ∉ run.line) :
    state = .ended result := by
  have hattends := h caller
  rw [hs] at hattends
  match state with
  | .waits waiting true => cases hcancel
  | .cancelled => cases hcancel
  | .ended other => rw [Option.some.inj (hresult.symm.trans hf)]
  | .waits waiting false =>
    obtain ⟨-, rfl⟩ := hf
    rcases hattends with ⟨-, hopen | hin⟩ | ⟨hstands, -⟩
    · rw [hresult] at hopen
      cases hopen
    · exact absurd hin htold
    · have hone := hstands.turns
      rw [List.count_eq_zero_of_not_mem hturn] at hone
      cases hone

/-- Where the outcome of each load comes from, in every run of a fresh cache.  A load that has ended
was called.  A forced one has ended, unless it crashed, as a forced fetch of its repository that was
recorded when it was called or started later.  A plain one has ended with the entry that it found
when it was called, and then without any fetch, or else as the fetch that was recorded then or that
it started.  All who have joined one fetch and end do so alike, and they end once the fetch has ended
and nothing is left in line for them, unless they are cancelled. -/
theorem load_outcome (limit : Seconds) (ready : List (String × Reply))
    (events : List CacheEvent) :
    let first := start (.fresh limit ready)
    let run := first.after events
    (∀ (caller : CallerId) (result : LoadEnd), run.callers[caller]? = some (.ended result) →
      ∃ before place rest repo forced, events = before ++ .turn place :: rest ∧
        (first.after before).Calls place caller repo forced) ∧
    (∀ (before rest : List CacheEvent) (place : Nat) (caller : CallerId) (repo : String)
      (result : LoadEnd), events = before ++ .turn place :: rest →
      let call := first.after before
      call.Calls place caller repo true → run.callers[caller]? = some (.ended result) →
      (∀ crash, result ≠ .error (.crashed crash)) →
      ∃ fetch state, first.Joined events caller fetch ∧
        run.cache.fetches[fetch]? = some state ∧ state.repo = repo ∧ state.forced = true ∧
        state.result = some result ∧
        (OrderedMap.get? repo call.cache.inFlight = some (fetch, true) ∨
          call.cache.fetches.length ≤ fetch)) ∧
    (∀ (before rest : List CacheEvent) (place : Nat) (caller : CallerId) (repo : String)
      (result : LoadEnd), events = before ++ .turn place :: rest →
      let call := first.after before
      call.Calls place caller repo false → run.callers[caller]? = some (.ended result) →
      (∃ branches, call.cache.get? repo = some branches ∧ result = .ok branches ∧
        (call.turn place).cache = call.cache ∧
        (call.turn place).callers[caller]? = some (.ended (.ok branches))) ∨
      (call.cache.get? repo = none ∧ ∃ fetch state, call.Joins place caller fetch ∧
        run.cache.fetches[fetch]? = some state ∧ state.repo = repo ∧
        state.result = some result ∧
        ((∃ fetchForced,
            OrderedMap.get? repo call.cache.inFlight = some (fetch, fetchForced)) ∨
          OrderedMap.get? repo call.cache.inFlight = none ∧
            fetch = call.cache.fetches.length))) ∧
    (∀ (caller other : CallerId) (fetch : FetchId) (result otherResult : LoadEnd),
      first.Joined events caller fetch → first.Joined events other fetch →
      run.callers[caller]? = some (.ended result) →
      run.callers[other]? = some (.ended otherResult) → result = otherResult) ∧
    (∀ (caller : CallerId) (fetch : FetchId) (result : LoadEnd),
      first.Joined events caller fetch → .cancel caller ∉ events →
      run.cache.resultOf fetch = some result → .caller caller ∉ run.line →
      .deliver fetch caller ∉ run.line → run.callers[caller]? = some (.ended result)) := by
  intro first run
  have h : first.Sound := sound_start limit ready
  have hnobody : ∀ {caller : CallerId} {state : CallerState},
      first.callers[caller]? ≠ some state := by simp [first, start]
  refine ⟨?_, ?_, ?_, ?_, ?_⟩
  · intro caller result hend
    refine (called_after (fun state hs => absurd hs hnobody) hend).resolve_left ?_
    rintro ⟨repo, forced, heq⟩
    cases heq
  · rintro before rest place caller repo result rfl call hcalls hend hcrash
    exact h.forced_outcome hcalls hend hcrash
  · rintro before rest place caller repo result rfl call hcalls hend
    exact h.plain_outcome hcalls hend
  · intro caller other fetch result otherResult hjoined hjoined' hend hend'
    obtain ⟨last, hlast, hf⟩ := h.follows_of_joined hjoined
    obtain ⟨last', hlast', hf'⟩ := h.follows_of_joined hjoined'
    obtain rfl := Option.some.inj (hend.symm.trans hlast)
    obtain rfl := Option.some.inj (hend'.symm.trans hlast')
    exact Option.some.inj (hf.symm.trans hf')
  · intro caller fetch result hjoined hcancel hresult hturn htold
    obtain ⟨last, hlast, hf⟩ := h.follows_of_joined hjoined
    have hoff := uncancelled_after hcancel (fun state hs => absurd hs hnobody) last hlast
    rw [hlast, (attentive_after limit ready events).ended_of_follows hlast hf hoff hresult hturn
      htold]

/-- A plain fetch fails that a forced load has waited for, and the forced fetch that is started then
is shared by a second forced load.  A plain load finds the entry afterwards. -/
def sharedRefresh : List CacheEvent :=
  [.load "polkadot" false, .turn 0, .turn 0, .turn 0, .load "polkadot" true, .turn 0,
    .answer 0 (.unavailable ⟨"polkadot", "down"⟩), .turn 0, .turn 0, .turn 0, .turn 2, .turn 2,
    .turn 0, .turn 0, .turn 1, .load "polkadot" true, .turn 1, .turn 0, .turn 0,
    .answer 1 (.answer [⟨"master", "abc"⟩]), .turn 0, .turn 0, .turn 0, .turn 0, .turn 0, .turn 0,
    .turn 0, .turn 0, .load "polkadot" false, .turn 0]

-- The run is of thirty events, and `rfl` goes through each of them.
set_option maxRecDepth 4000 in
theorem load_outcome_sharedRefresh :
    (∃ fetch state, halfMinute.Joined sharedRefresh 1 fetch ∧
      (halfMinute.after sharedRefresh).cache.fetches[fetch]? = some state ∧
      state.repo = "polkadot" ∧ state.forced = true ∧
      state.result = some (.ok [⟨"master", "abc"⟩]) ∧
      (OrderedMap.get? "polkadot" (halfMinute.after (sharedRefresh.take 5)).cache.inFlight =
          some (fetch, true) ∨
        (halfMinute.after (sharedRefresh.take 5)).cache.fetches.length ≤ fetch)) ∧
    (halfMinute.after sharedRefresh).callers[2]? = some (.ended (.ok [⟨"master", "abc"⟩])) := by
  obtain ⟨-, hforced, -, -, hquiet⟩ := load_outcome (.whole 30) [] sharedRefresh
  have hsplit : sharedRefresh = sharedRefresh.take 5 ++ .turn 0 :: sharedRefresh.drop 6 := rfl
  have hcalls : (halfMinute.after (sharedRefresh.take 5)).Calls 0 1 "polkadot" true := ⟨rfl, rfl⟩
  have hend : (halfMinute.after sharedRefresh).callers[1]? =
      some (.ended (.ok [⟨"master", "abc"⟩])) := rfl
  have hjoined : halfMinute.Joined sharedRefresh 2 1 :=
    ⟨sharedRefresh.take 16, 1, sharedRefresh.drop 17, rfl, rfl, "polkadot", true, true,
      .call _ _ rfl (.inl rfl), rfl, rfl⟩
  have hresult : (halfMinute.after sharedRefresh).cache.resultOf 1 =
      some (.ok [⟨"master", "abc"⟩]) := rfl
  have hline : ∀ signal, signal ∉ (halfMinute.after sharedRefresh).line :=
    fun _ => List.not_mem_nil
  exact ⟨hforced _ _ 0 1 "polkadot" _ hsplit hcalls hend nofun,
    hquiet 2 1 _ hjoined (by simp [sharedRefresh]) hresult (hline _) (hline _)⟩

end CacheRun

end BranchCompare
