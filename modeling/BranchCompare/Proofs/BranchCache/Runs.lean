import BranchCompare.BranchCache.Run
import BranchCompare.Proofs.BranchCache.Operations

/-!
# All runs of the branch cache

`CacheEvent` lists what may happen in a run: a caller starts a load or is cancelled, any signal of
the line gets its turn, an answer comes in, time passes.  `CacheRun.after` is the run after a list of
events.  `Sound.step` is what one event preserves and `sound_after` what a whole run does;
`move_of_step` says how a caller may move by one event.
-/

namespace BranchCompare

/-- What may happen in a run. -/
inductive CacheEvent where
  /-- A caller starts a load. -/
  | load (repo : String) (forced : Bool)
  /-- The signal at a place of the line gets its turn. -/
  | turn (place : Nat)
  /-- The answer to the call of a fetch comes in. -/
  | answer (fetch : FetchId) (result : CallEnd (List Branch))
  /-- The time of a fetch is up. -/
  | expire (fetch : FetchId)
  /-- The clock moves on. -/
  | advance (span : Seconds)
  /-- A caller is cancelled. -/
  | cancel (caller : CallerId)
  /-- A reply is made ready, or taken away. -/
  | setReady (key : String) (reply : Option Reply)

/-- Where a caller stands after a turn of its load. -/
def LoadTurn.state : LoadTurn → CallerState
  | .ended result => .ended result
  | .waits waiting => .waits waiting false

namespace CacheRun

/-- The run after an event. -/
def step (run : CacheRun) : CacheEvent → CacheRun
  | .load repo forced => run.load repo forced
  | .turn place => run.turn place
  | .answer fetch result => run.answer fetch result
  | .expire fetch => run.expire fetch
  | .advance span => run.advance span
  | .cancel caller => (run.cancel caller).getD run
  | .setReady key reply => run.setReady key reply

def after (run : CacheRun) (events : List CacheEvent) : CacheRun := events.foldl step run

theorem after_append (run : CacheRun) (events more : List CacheEvent) :
    run.after (events ++ more) = (run.after events).after more :=
  List.foldl_append

/-! ## What a turn does -/

/-- A turn of a caller does nothing, ends a cancelled load, or goes on with a load. -/
theorem callerTurn_cases (run : CacheRun) (caller : CallerId) :
    run.callerTurn caller = run ∨
    (∃ waiting, run.callers[caller]? = some (.waits waiting true) ∧
      run.callerTurn caller = run.setCaller caller .cancelled) ∨
    (∃ repo forced, run.callers[caller]? = some (.begins repo forced) ∧
      run.callerTurn caller = run.settleTurn caller (run.cache.load repo forced caller)) ∨
    (∃ waiting, run.callers[caller]? = some (.waits waiting false) ∧
      run.callerTurn caller = run.settleTurn caller (run.cache.resume waiting caller)) := by
  unfold callerTurn
  split
  · next repo forced h => exact .inr (.inr (.inl ⟨repo, forced, h, rfl⟩))
  · next waiting h => exact .inr (.inr (.inr ⟨waiting, h, rfl⟩))
  · next waiting h => exact .inr (.inl ⟨waiting, h, rfl⟩)
  · exact .inl rfl

/-- What a turn of the line does: it is the turn of a caller, or the cache does what the signal
says. -/
theorem turn_cases (run : CacheRun) (place : Nat) :
    run.turn place = run ∨
    (∃ caller, run.line[place]? = some (.caller caller) ∧
      run.turn place = { run with line := run.line.eraseIdx place }.callerTurn caller) ∨
    (∃ signal, run.line[place]? = some signal ∧ (∀ caller, signal ≠ .caller caller) ∧
      (run.turn place).cache = (run.cache.perform signal).1 ∧
      (run.turn place).line = run.line.eraseIdx place ++ (run.cache.perform signal).2 ∧
      (run.turn place).callers = run.callers) := by
  unfold turn
  cases hs : run.line[place]? with
  | none => exact .inl rfl
  | some signal =>
    cases signal with
    | caller caller => exact .inr (.inl ⟨caller, rfl, rfl⟩)
    | start fetch =>
      refine .inr (.inr ⟨_, rfl, nofun, ?_⟩)
      simp only [perform]
      split <;> exact ⟨rfl, rfl, rfl⟩
    | turn fetch turn => exact .inr (.inr ⟨_, rfl, nofun, rfl, rfl, rfl⟩)
    | forget fetch => exact .inr (.inr ⟨_, rfl, nofun, rfl, rfl, rfl⟩)
    | deliver fetch caller => exact .inr (.inr ⟨_, rfl, nofun, rfl, rfl, rfl⟩)

@[simp] theorem settleTurn_cache (run : CacheRun) (caller : CallerId)
    (outcome : BranchCache × LoadTurn × List CacheSignal) :
    (run.settleTurn caller outcome).cache = outcome.1 := rfl

@[simp] theorem settleTurn_line (run : CacheRun) (caller : CallerId)
    (outcome : BranchCache × LoadTurn × List CacheSignal) :
    (run.settleTurn caller outcome).line = run.line ++ outcome.2.2 := rfl

@[simp] theorem settleTurn_callers (run : CacheRun) (caller : CallerId)
    (outcome : BranchCache × LoadTurn × List CacheSignal) :
    (run.settleTurn caller outcome).callers = run.callers.set caller outcome.2.1.state := by
  obtain ⟨cache, turn, signals⟩ := outcome
  cases turn <;> rfl

/-- Time that passes only ends the time of fetches. -/
theorem foldl_expire_callers (run : CacheRun) (fetches : List FetchId) :
    (fetches.foldl expire run).callers = run.callers := by
  induction fetches generalizing run with
  | nil => rfl
  | cons fetch fetches ih => exact ih (run.expire fetch)

/-! ## How callers move -/

/-- How a caller may move by an event. -/
inductive Move (run : CacheRun) (event : CacheEvent) (caller : CallerId) :
    CallerState → CallerState → Prop where
  | stay (state : CallerState) : Move run event caller state state
  | cancel (waiting : Waiting) (cancelled : Bool) (hevent : event = .cancel caller) :
    Move run event caller (.waits waiting cancelled) (.waits waiting true)
  | leave (waiting : Waiting) : Move run event caller (.waits waiting true) .cancelled
  | start (repo : String) (forced : Bool) (place : Nat) (hevent : event = .turn place)
    (hs : run.line[place]? = some (.caller caller))
    (hcache : (run.step event).cache = (run.cache.load repo forced caller).1) :
    Move run event caller (.begins repo forced) (run.cache.load repo forced caller).2.1.state
  | resume (waiting : Waiting) (place : Nat) (hevent : event = .turn place)
    (hs : run.line[place]? = some (.caller caller))
    (hcache : (run.step event).cache = (run.cache.resume waiting caller).1) :
    Move run event caller (.waits waiting false) (run.cache.resume waiting caller).2.1.state

/-- One caller moves, if any, and then it is the one whose turn it is. -/
theorem move_of_turn {run : CacheRun} {place : Nat} {caller : CallerId} {state : CallerState}
    (h : run.callers[caller]? = some state) :
    ∃ next, (run.turn place).callers[caller]? = some next ∧
      Move run (.turn place) caller state next := by
  rcases turn_cases run place with hrun | ⟨turned, hs, hrun⟩ | ⟨signal, -, -, -, -, hcallers⟩
  · rw [hrun]
    exact ⟨state, h, .stay state⟩
  · by_cases hc : turned = caller
    · subst hc
      rcases callerTurn_cases { run with line := run.line.eraseIdx place } turned with
        heq | ⟨waiting, hw, heq⟩ | ⟨repo, forced, hb, heq⟩ | ⟨waiting, hw, heq⟩
      · rw [hrun, heq]
        exact ⟨state, h, .stay state⟩
      · obtain rfl := Option.some.inj (h.symm.trans hw)
        rw [hrun, heq]
        exact ⟨_, by simp [setCaller, (List.getElem?_eq_some_iff.mp h).1],
          .leave waiting⟩
      · obtain rfl := Option.some.inj (h.symm.trans hb)
        rw [hrun, heq, settleTurn_callers]
        exact ⟨_, by simp [(List.getElem?_eq_some_iff.mp h).1],
          .start repo forced place rfl hs (by rw [step, hrun, heq, settleTurn_cache])⟩
      · obtain rfl := Option.some.inj (h.symm.trans hw)
        rw [hrun, heq, settleTurn_callers]
        exact ⟨_, by simp [(List.getElem?_eq_some_iff.mp h).1],
          .resume waiting place rfl hs (by rw [step, hrun, heq, settleTurn_cache])⟩
    · refine ⟨state, ?_, .stay state⟩
      rcases callerTurn_cases { run with line := run.line.eraseIdx place } turned with
        heq | ⟨waiting, -, heq⟩ | ⟨repo, forced, -, heq⟩ | ⟨waiting, -, heq⟩ <;> rw [hrun, heq]
      · exact h
      · simpa [setCaller, List.getElem?_set_ne hc] using h
      · simpa [List.getElem?_set_ne hc] using h
      · simpa [List.getElem?_set_ne hc] using h
  · rw [hcallers]
    exact ⟨state, h, .stay state⟩

/-- Each caller moves by each event in one of these ways. -/
theorem move_of_step {run : CacheRun} (event : CacheEvent) {caller : CallerId}
    {state : CallerState} (h : run.callers[caller]? = some state) :
    ∃ next, (run.step event).callers[caller]? = some next ∧ Move run event caller state next := by
  have hlt : caller < run.callers.length := (List.getElem?_eq_some_iff.mp h).1
  cases event with
  | load repo forced =>
    refine ⟨state, ?_, .stay state⟩
    simp only [step, load]
    rw [List.getElem?_append_left hlt, h]
  | turn place => exact move_of_turn h
  | answer fetch result => exact ⟨state, h, .stay state⟩
  | expire fetch => exact ⟨state, h, .stay state⟩
  | advance span =>
    refine ⟨state, ?_, .stay state⟩
    simp only [step, advance, foldl_expire_callers]
    exact h
  | cancel other =>
    simp only [step, cancel]
    split
    · next waiting cancelled hw =>
      by_cases hc : other = caller
      · subst hc
        obtain rfl := Option.some.inj (h.symm.trans hw)
        exact ⟨_, by simp [setCaller, enqueue, hlt], .cancel waiting cancelled rfl⟩
      · refine ⟨state, ?_, .stay state⟩
        simpa [setCaller, enqueue, List.getElem?_set_ne hc] using h
    · exact ⟨state, h, .stay state⟩
  | setReady key reply => exact ⟨state, h, .stay state⟩

/-- A caller that is new after an event has not begun. -/
theorem begins_of_step {run : CacheRun} (event : CacheEvent) {caller : CallerId}
    {next : CallerState} (hnone : run.callers[caller]? = none)
    (h : (run.step event).callers[caller]? = some next) :
    ∃ repo forced, next = .begins repo forced := by
  have hle : run.callers.length ≤ caller := List.getElem?_eq_none_iff.mp hnone
  have hold : ∀ other : CacheRun, other.callers.length = run.callers.length →
      other.callers[caller]? ≠ some next := by
    intro other hlen hsome
    have := (List.getElem?_eq_some_iff.mp hsome).1
    omega
  cases event with
  | load repo forced =>
    simp only [step, load] at h
    rw [List.getElem?_append_right hle] at h
    exact ⟨repo, forced, (List.mem_singleton.mp (List.mem_of_getElem? h))⟩
  | turn place =>
    refine absurd h (hold _ ?_)
    rcases turn_cases run place with heq | ⟨turned, -, heq⟩ | ⟨signal, -, -, -, -, hcallers⟩
    · simp only [step, heq]
    · simp only [step, heq]
      rcases callerTurn_cases { run with line := run.line.eraseIdx place } turned with
        heq | ⟨waiting, -, heq⟩ | ⟨repo, forced, -, heq⟩ | ⟨waiting, -, heq⟩ <;>
        rw [heq] <;> simp [setCaller]
    · simp only [step, hcallers]
  | answer fetch result => exact absurd h (hold _ rfl)
  | expire fetch => exact absurd h (hold _ rfl)
  | advance span =>
    refine absurd h (hold _ ?_)
    simp only [step, advance, foldl_expire_callers]
  | cancel other =>
    refine absurd h (hold _ ?_)
    simp only [step, cancel]
    split <;> simp [setCaller, enqueue]
  | setReady key reply => exact absurd h (hold _ rfl)

/-! ## What holds at every moment -/

/-- The cache is sound, and every caller that waits does so for a fetch that it wants. -/
structure Sound (run : CacheRun) : Prop where
  cache : run.cache.Sound run.line
  waits : ∀ {caller : CallerId} {waiting : Waiting} {cancelled : Bool},
    run.callers[caller]? = some (.waits waiting cancelled) → run.cache.Fits waiting

/-- A signal of the line, taken out and put in front. -/
theorem perm_eraseIdx {signals : List CacheSignal} {place : Nat} {signal : CacheSignal}
    (h : signals[place]? = some signal) : (signal :: signals.eraseIdx place).Perm signals := by
  obtain ⟨hlt, rfl⟩ := List.getElem?_eq_some_iff.mp h
  exact List.getElem_cons_eraseIdx_perm hlt

theorem Sound.callerTurn {run : CacheRun} (h : run.Sound) (caller : CallerId) :
    (run.callerTurn caller).cache.Sound (run.callerTurn caller).line ∧
      run.cache.Later (run.callerTurn caller).cache := by
  rcases callerTurn_cases run caller with
    heq | ⟨waiting, -, heq⟩ | ⟨repo, forced, -, heq⟩ | ⟨waiting, hw, heq⟩ <;> rw [heq]
  · exact ⟨h.cache, .refl _⟩
  · exact ⟨h.cache, .refl _⟩
  · obtain ⟨hsound, hlater, -⟩ := h.cache.load repo forced caller
    exact ⟨hsound, hlater⟩
  · obtain ⟨hsound, hlater, -⟩ := h.cache.resume (h.waits hw) caller
    exact ⟨hsound, hlater⟩

/-- A turn keeps the cache sound and leads to a later one. -/
theorem Sound.turn {run : CacheRun} (h : run.Sound) (place : Nat) :
    (run.turn place).cache.Sound (run.turn place).line ∧
      run.cache.Later (run.turn place).cache := by
  rcases turn_cases run place with
    heq | ⟨caller, hs, heq⟩ | ⟨signal, hs, -, hcache, hline, -⟩
  · rw [heq]
    exact ⟨h.cache, .refl _⟩
  · have htail : run.cache.Sound (run.line.eraseIdx place) :=
      (h.cache.perm (perm_eraseIdx hs)).tail fun fetch => CacheSignal.callTurn?_caller fetch caller
    have hrun : Sound { run with line := run.line.eraseIdx place } := ⟨htail, h.waits⟩
    rw [heq]
    exact hrun.callerTurn caller
  · rw [hcache, hline]
    exact (h.cache.perm (perm_eraseIdx hs)).perform

/-- The end of the time of several fetches keeps the cache sound. -/
theorem foldl_expire (run : CacheRun) (h : run.cache.Sound run.line) (fetches : List FetchId) :
    (fetches.foldl expire run).cache.Sound (fetches.foldl expire run).line ∧
      run.cache.Later (fetches.foldl expire run).cache := by
  induction fetches generalizing run with
  | nil => exact ⟨h, .refl _⟩
  | cons fetch fetches ih =>
    obtain ⟨hsound, hlater⟩ := h.expire fetch
    obtain ⟨hsound', hlater'⟩ := ih (run.expire fetch) hsound
    exact ⟨hsound', hlater.trans hlater'⟩

/-- Any event keeps the cache sound and leads to a later one. -/
theorem Sound.step_cache {run : CacheRun} (h : run.Sound) (event : CacheEvent) :
    (run.step event).cache.Sound (run.step event).line ∧
      run.cache.Later (run.step event).cache := by
  cases event with
  | load repo forced => exact ⟨h.cache.append (by simp), .refl _⟩
  | turn place => exact h.turn place
  | answer fetch result => exact h.cache.answer fetch result
  | expire fetch => exact h.cache.expire fetch
  | advance span =>
    simp only [step, advance]
    exact foldl_expire { run with timeline := (run.timeline.advance span).1 } h.cache _
  | cancel caller =>
    simp only [step, cancel]
    split
    · next waiting cancelled _ => exact h.cache.abandon waiting caller
    · exact ⟨h.cache, .refl _⟩
  | setReady key reply => exact ⟨h.cache.server _, fun hf => ⟨_, hf, .refl _⟩, .inl⟩

/-- A caller that waits after it has moved waits for a fetch that it wants. -/
theorem Sound.fits_of_move {run : CacheRun} (h : run.Sound) {event : CacheEvent}
    {caller : CallerId} {state next : CallerState} (hs : run.callers[caller]? = some state)
    (hm : Move run event caller state next) {waiting : Waiting} {cancelled : Bool}
    (hw : next = .waits waiting cancelled) : (run.step event).cache.Fits waiting := by
  have hl := (h.step_cache event).2
  cases hm with
  | stay =>
    subst hw
    exact (h.waits hs).later hl
  | cancel old =>
    obtain ⟨rfl, -⟩ := CallerState.waits.inj hw
    exact (h.waits hs).later hl
  | leave => cases hw
  | start repo forced place hevent hline hcache =>
    obtain ⟨-, -, hallows⟩ := h.cache.load repo forced caller
    rw [hcache]
    cases hturn : (run.cache.load repo forced caller).2.1 with
    | ended result => simp [hturn, LoadTurn.state] at hw
    | waits new =>
      rw [hturn] at hallows hw
      obtain ⟨rfl, -⟩ := CallerState.waits.inj hw
      exact hallows.2.2
  | resume old place hevent hline hcache =>
    obtain ⟨-, -, hallows⟩ := h.cache.resume (h.waits hs) caller
    rw [hcache]
    cases hturn : (run.cache.resume old caller).2.1 with
    | ended result => simp [hturn, LoadTurn.state] at hw
    | waits new =>
      rw [hturn] at hallows hw
      obtain ⟨rfl, -⟩ := CallerState.waits.inj hw
      exact hallows.2.2

/-- What one event preserves. -/
theorem Sound.step {run : CacheRun} (h : run.Sound) (event : CacheEvent) :
    (run.step event).Sound := by
  refine ⟨(h.step_cache event).1, fun {caller waiting cancelled} hw => ?_⟩
  cases hold : run.callers[caller]? with
  | none =>
    obtain ⟨repo, forced, heq⟩ := begins_of_step event hold hw
    cases heq
  | some state =>
    obtain ⟨next, hnext, hmove⟩ := move_of_step event hold
    obtain rfl := Option.some.inj (hw.symm.trans hnext)
    exact h.fits_of_move hold hmove rfl

/-- What a run preserves, and how the cache passes. -/
theorem Sound.after {run : CacheRun} (h : run.Sound) (events : List CacheEvent) :
    (run.after events).Sound ∧ run.cache.Later (run.after events).cache := by
  induction events generalizing run with
  | nil => exact ⟨h, .refl _⟩
  | cons event events ih =>
    obtain ⟨hsound, hlater⟩ := ih (h.step event)
    exact ⟨hsound, (h.step_cache event).2.trans hlater⟩

theorem sound_start (limit : Seconds) (ready : List (String × Reply)) :
    (start (.fresh limit ready)).Sound := ⟨BranchCache.sound_fresh limit ready, nofun⟩

theorem sound_after (limit : Seconds) (ready : List (String × Reply))
    (events : List CacheEvent) : ((start (.fresh limit ready)).after events).Sound :=
  ((sound_start limit ready).after events).1

def halfMinute : CacheRun := start (.fresh (.whole 30) [])

end CacheRun

end BranchCompare
