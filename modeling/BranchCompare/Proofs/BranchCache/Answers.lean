import BranchCompare.Proofs.BranchCache.Runs

/-!
# What the fetches of a branch cache are told

The end of a fetch is what its call was told, or it is out of time.  `Hears` says of a cache that all
that its calls and fetches were told is among such answers.  It is kept by whatever the cache does
(`Hears.perform`, `Hears.load`, `Hears.resume`), and an answer is new only if it comes in for a call
that is held, or is ready when the call is made (`CacheRun.Comes`).  So a list that a fetch returns
is one that has come to this fetch (`hears_of_run`).
-/

namespace BranchCompare

namespace BoundedCall

variable {α : Type} {call : BoundedCall α} {answer : CallEnd α}

/-- The answer that has come to a call. -/
def answer? (call : BoundedCall α) : Option (CallEnd α) :=
  match call.phase with
  | .answered result | .over (some result) => some result
  | _ => none

theorem answer?_start (limitIsOver : Bool) : (start limitIsOver : BoundedCall α).answer? = none := by
  cases limitIsOver <;> rfl

/-- A call learns an answer when it is made only if the answer is ready. -/
theorem answer?_make {ready : Option (CallEnd α)} {number : Nat}
    (h : (call.make ready number).1.answer? = some answer) :
    call.answer? = some answer ∨ ready = some answer := by
  obtain ⟨phase, watch, made⟩ := call
  cases phase with
  | unmade =>
    cases ready with
    | none => cases h
    | some result => exact .inr h
  | doomed => cases h
  | held | answered | stopping | «over» => exact .inl h

/-- An answer that comes in is learned only by a call that is held. -/
theorem answer?_answer {result : CallEnd α} (h : (call.answer result).1.answer? = some answer) :
    call.answer? = some answer ∨ call.isHeld = true ∧ result = answer := by
  obtain ⟨phase, watch, made⟩ := call
  cases phase with
  | held => exact .inr ⟨rfl, Option.some.inj h⟩
  | unmade | doomed | answered | stopping | «over» => exact .inl h

theorem answer?_takeUp (call : BoundedCall α) : call.takeUp.1.answer? = call.answer? := by
  obtain ⟨phase, watch, made⟩ := call
  cases phase <;> rfl

theorem answer?_notify (call : BoundedCall α) : call.notify.1.answer? = call.answer? := by
  obtain ⟨phase, watch, made⟩ := call
  cases watch <;> rfl

theorem answer?_expire (call : BoundedCall α) : call.expire.1.answer? = call.answer? := by
  obtain ⟨phase, watch, made⟩ := call
  cases watch <;> rfl

theorem answer?_callOff {why : Stop} (h : (call.callOff why).1.answer? = some answer) :
    call.answer? = some answer := by
  obtain ⟨phase, watch, made⟩ := call
  cases phase with
  | «over» result => exact h
  | unmade | doomed | held | answered | stopping => cases h

/-- A call may forget its answer when it is called off, but learns none by it. -/
theorem answer?_wake (h : call.wake.1.answer? = some answer) : call.answer? = some answer := by
  unfold wake at h
  split at h
  · exact h
  · exact h
  · exact answer?_callOff h
  · exact answer?_callOff h

/-- The end of a call is the answer that has come to it. -/
theorem answer?_of_ended (h : call.wake.2.2 = some (.ended answer)) :
    call.answer? = some answer := by
  unfold wake at h
  split at h
  · cases h
  · next hphase _ =>
    obtain rfl := WaitEnd.ended.inj (Option.some.inj h)
    unfold answer?
    rw [hphase]
  · cases h
  · cases h

end BoundedCall

namespace BranchCache

variable {heard : FetchId → CallEnd (List Branch) → Prop} {cache after : BranchCache}

/-- A fetch of the repository may end so: by an answer that it has heard, or because its call was
called off. -/
def EndsBy (cache : BranchCache) (heard : CallEnd (List Branch) → Prop) (repo : String)
    (result : LoadEnd) : Prop :=
  ∃ ended, result = cache.loadEnd repo ended ∧ ∀ answer, ended = .ended answer → heard answer

/-- The answers that have come to the calls of the fetches are among these, and the fetches have
ended by them or out of time. -/
structure Hears (heard : FetchId → CallEnd (List Branch) → Prop) (cache : BranchCache) : Prop where
  answer : ∀ {fetch : FetchId} {state : Fetch} {answer : CallEnd (List Branch)},
    cache.fetches[fetch]? = some state → state.call.answer? = some answer → heard fetch answer
  result : ∀ {fetch : FetchId} {state : Fetch} {result : LoadEnd},
    cache.fetches[fetch]? = some state → state.result = some result →
    cache.EndsBy (heard fetch) state.repo result

theorem EndsBy.of_limit {told : CallEnd (List Branch) → Prop} {repo : String} {result : LoadEnd}
    (h : cache.EndsBy told repo result) (hlimit : after.limit = cache.limit) :
    after.EndsBy told repo result := by
  obtain ⟨ended, rfl, htold⟩ := h
  refine ⟨ended, ?_, htold⟩
  unfold loadEnd
  rw [hlimit]

/-- A list is returned only as it was told. -/
theorem EndsBy.told {told : CallEnd (List Branch) → Prop} {repo : String} {branches : List Branch}
    (h : cache.EndsBy told repo (.ok branches)) : told (.answer branches) := by
  obtain ⟨ended, heq, htold⟩ := h
  cases ended with
  | stopped why => cases heq
  | ended answer =>
    cases answer with
    | answer list =>
      obtain rfl := Except.ok.inj heq
      exact htold _ rfl
    | unavailable | outOfTime | crashed => cases heq

/-- A fresh cache was told nothing. -/
theorem hears_fresh (limit : Seconds) (ready : List (String × Reply)) :
    (fresh limit ready).Hears heard :=
  ⟨fun hf => (List.not_mem_nil (List.mem_of_getElem? hf)).elim,
    fun hf => (List.not_mem_nil (List.mem_of_getElem? hf)).elim⟩

/-- What was told depends on the fetches alone. -/
theorem Hears.of_fetches (h : cache.Hears heard) (hfetches : after.fetches = cache.fetches)
    (hlimit : after.limit = cache.limit) : after.Hears heard := by
  refine ⟨fun hf => ?_, fun hf hresult => ?_⟩
  · rw [hfetches] at hf
    exact h.answer hf
  · rw [hfetches] at hf
    exact (h.result hf hresult).of_limit hlimit

/-- One fetch changes. -/
theorem Hears.modifyFetch (h : cache.Hears heard) {fetch : FetchId} {change : Fetch → Fetch}
    (hfetches : after.fetches = cache.fetches.modify fetch change)
    (hlimit : after.limit = cache.limit) (hrepo : ∀ state, (change state).repo = state.repo)
    (hanswer : ∀ state, cache.fetches[fetch]? = some state → ∀ answer,
      (change state).call.answer? = some answer → heard fetch answer)
    (hresult : ∀ state, cache.fetches[fetch]? = some state → ∀ result,
      (change state).result = some result →
      state.result = some result ∨ cache.EndsBy (heard fetch) state.repo result) :
    after.Hears heard := by
  have hcases : ∀ {other : FetchId} {state : Fetch}, after.fetches[other]? = some state →
      cache.fetches[other]? = some state ∨
        other = fetch ∧ ∃ old, cache.fetches[other]? = some old ∧ change old = state := by
    intro other state hf
    rw [hfetches, List.getElem?_modify] at hf
    obtain ⟨old, hold, rfl⟩ := Option.map_eq_some_iff.mp hf
    split
    · next heq => exact .inr ⟨heq.symm, old, hold, rfl⟩
    · exact .inl hold
  constructor
  · intro other state answer hf hcome
    rcases hcases hf with hold | ⟨rfl, old, hold, rfl⟩
    · exact h.answer hold hcome
    · exact hanswer old hold answer hcome
  · intro other state result hf hended
    refine EndsBy.of_limit ?_ hlimit
    rcases hcases hf with hold | ⟨rfl, old, hold, rfl⟩
    · exact h.result hold hended
    · rw [hrepo]
      exact (hresult old hold result hended).elim (h.result hold) id

/-- Only who waits for a fetch changes. -/
theorem Hears.setWaiting (h : cache.Hears heard) {fetch : FetchId}
    (change : List CallerId → List CallerId) :
    (cache.modifyFetch fetch fun f => { f with waiting := change f.waiting }).Hears heard :=
  h.modifyFetch rfl rfl (fun _ => rfl) (fun _ hf _ hcome => h.answer hf hcome)
    fun _ _ _ => .inl

/-- The call of a fetch changes. -/
theorem Hears.setCall (h : cache.Hears heard) {fetch : FetchId} {call : BoundedCall (List Branch)}
    (hfetches : after.fetches = cache.fetches.modify fetch fun f => { f with call := call })
    (hlimit : after.limit = cache.limit)
    (hanswer : ∀ answer, call.answer? = some answer → heard fetch answer) : after.Hears heard :=
  h.modifyFetch hfetches hlimit (fun _ => rfl) (fun _ _ => hanswer) fun _ _ _ => .inl

/-! ## What the operations keep -/

/-- A new fetch was told nothing. -/
theorem Hears.startFetch (h : cache.Hears heard) (repo : String) (forced : Bool)
    (caller : CallerId) : (cache.startFetch repo forced caller).1.Hears heard := by
  obtain ⟨started, hfetches, -, -, hopen, hcall⟩ := startFetch_state cache repo forced caller
  have hcases : ∀ {fetch : FetchId} {state : Fetch},
      (cache.startFetch repo forced caller).1.fetches[fetch]? = some state →
      cache.fetches[fetch]? = some state ∨ state = started := by
    intro fetch state hf
    rw [hfetches] at hf
    by_cases hlt : fetch < cache.fetches.length
    · exact .inl (by rwa [List.getElem?_append_left hlt] at hf)
    · rw [List.getElem?_append_right (Nat.le_of_not_lt hlt)] at hf
      exact .inr (List.mem_singleton.mp (List.mem_of_getElem? hf))
  refine ⟨fun {fetch state answer} hf hcome => ?_, fun {fetch state result} hf hended => ?_⟩
  · rcases hcases hf with hold | rfl
    · exact h.answer hold hcome
    · rw [hcall, BoundedCall.answer?_start] at hcome
      cases hcome
  · rcases hcases hf with hold | rfl
    · exact (h.result hold hended).of_limit rfl
    · rw [hopen] at hended
      cases hended

theorem Hears.forget (h : cache.Hears heard) (repo : String) (fetch : FetchId) :
    (cache.forget repo fetch).Hears heard := by
  refine h.of_fetches (forget_fetches cache repo fetch) ?_
  unfold BranchCache.forget
  split
  · split <;> rfl
  · rfl

theorem Hears.join (h : cache.Hears heard) (repo : String) (forced : Bool) (caller : CallerId) :
    (cache.join repo forced caller).1.Hears heard := by
  rcases join_cases cache repo forced caller with
    ⟨fetch, fetchForced, -, -, heq⟩ | ⟨fetch, fetchForced, result, -, -, -, heq⟩ |
    ⟨cleared, -, heq, hcleared⟩ <;> rw [heq]
  · exact h.setWaiting (· ++ [caller])
  · exact h
  · rcases hcleared with rfl | ⟨-, fetch, result, -, -, rfl⟩
    · exact h.startFetch repo forced caller
    · exact (h.forget repo fetch).startFetch repo forced caller

theorem Hears.load (h : cache.Hears heard) (repo : String) (forced : Bool) (caller : CallerId) :
    (cache.load repo forced caller).1.Hears heard := by
  rcases load_cases cache repo forced caller with ⟨branches, -, -, heq⟩ | ⟨-, heq⟩ <;> rw [heq]
  · exact h
  · exact h.join repo forced caller

theorem Hears.resume (h : cache.Hears heard) (waiting : Waiting) (caller : CallerId) :
    (cache.resume waiting caller).1.Hears heard := by
  rcases resume_cases cache caller waiting with
    ⟨-, heq⟩ | ⟨result, -, -, heq⟩ | ⟨result, -, -, heq⟩ <;> rw [heq]
  · exact h
  · exact h
  · exact (h.forget _ _).join _ _ _

theorem Hears.abandon (h : cache.Hears heard) (waiting : Waiting) (caller : CallerId) :
    (cache.abandon waiting caller).1.Hears heard := by
  unfold BranchCache.abandon
  split
  · split
    · exact h.setWaiting (·.erase caller)
    · exact h
  · exact h

/-- A fetch ends as it was told. -/
theorem Hears.finish (h : cache.Hears heard) {fetch : FetchId} {state : Fetch} {result : LoadEnd}
    (hrepo : ∀ found, cache.fetches[fetch]? = some found → found.repo = state.repo)
    (hends : cache.EndsBy (heard fetch) state.repo result) :
    (cache.finish fetch state result).1.Hears heard := by
  refine h.modifyFetch rfl rfl (fun _ => rfl) (fun _ hf _ hcome => h.answer hf hcome)
    fun found hf other hother => ?_
  obtain rfl := Option.some.inj hother
  rw [hrepo found hf]
  exact .inr hends

/-- A turn of the call of a fetch.  An answer is new only if it is ready when the call is made. -/
theorem Hears.takeTurn (h : cache.Hears heard) {fetch : FetchId} {state : Fetch} {turn : CallTurn}
    (hf : cache.fetches[fetch]? = some state)
    (hready : turn = .make → ∀ answer, cache.readyEnd state.repo = some answer →
      heard fetch answer) :
    (cache.takeTurn fetch state turn).1.Hears heard := by
  cases turn with
  | make =>
    exact h.setCall rfl rfl fun answer hcome =>
      (BoundedCall.answer?_make hcome).elim (h.answer hf) (hready rfl answer)
  | takeUp =>
    exact h.setCall rfl rfl fun answer hcome =>
      h.answer hf ((BoundedCall.answer?_takeUp state.call).symm.trans hcome)
  | notify =>
    exact h.setCall rfl rfl fun answer hcome =>
      h.answer hf ((BoundedCall.answer?_notify state.call).symm.trans hcome)
  | wake =>
    rcases hw : state.call.wake with ⟨call, turns, ended⟩
    have hcalled : (cache.modifyFetch fetch fun f => { f with call := call }).Hears heard := by
      refine h.setCall rfl rfl fun answer hcome => h.answer hf (BoundedCall.answer?_wake ?_)
      rwa [hw]
    simp only [BranchCache.takeTurn, hw]
    cases ended with
    | none => exact hcalled
    | some ended =>
      refine hcalled.finish (fun found hfound => ?_) ⟨ended, rfl, fun answer hended => ?_⟩
      · simp only [BranchCache.modifyFetch, List.getElem?_modify_eq, hf] at hfound
        obtain rfl := Option.some.inj hfound
        rfl
      · refine h.answer hf (BoundedCall.answer?_of_ended ?_)
        rw [hw, hended]

/-- Whatever a signal says is done. -/
theorem Hears.perform (h : cache.Hears heard) {signal : CacheSignal}
    (hready : ∀ fetch state answer, signal = .turn fetch .make →
      cache.fetches[fetch]? = some state → cache.readyEnd state.repo = some answer →
      heard fetch answer) :
    (cache.perform signal).1.Hears heard := by
  cases signal with
  | start | caller => exact h
  | turn fetch turn =>
    simp only [BranchCache.perform]
    split
    · next state hf =>
      refine h.takeTurn hf ?_
      rintro rfl answer
      exact hready fetch state answer rfl hf
    · exact h
  | forget fetch =>
    simp only [BranchCache.perform]
    split
    · exact h.forget _ _
    · exact h
  | deliver fetch caller =>
    simp only [BranchCache.perform]
    split
    · split
      · exact h.setWaiting (·.erase caller)
      · exact h
    · exact h

/-- An answer comes in. -/
theorem Hears.comes (h : cache.Hears heard) {fetch : FetchId} {result : CallEnd (List Branch)}
    (hheld : ∀ state, cache.fetches[fetch]? = some state → state.call.isHeld = true →
      heard fetch result) :
    (cache.answer fetch result).1.Hears heard := by
  unfold BranchCache.answer
  split
  · next state hf =>
    refine h.setCall rfl rfl fun answer hcome => ?_
    rcases BoundedCall.answer?_answer hcome with hold | ⟨hholds, rfl⟩
    · exact h.answer hf hold
    · exact hheld state hf hholds
  · exact h

theorem Hears.expire (h : cache.Hears heard) (fetch : FetchId) :
    (cache.expire fetch).1.Hears heard := by
  unfold BranchCache.expire
  split
  · next state hf =>
    exact h.setCall rfl rfl fun answer hcome =>
      h.answer hf ((BoundedCall.answer?_expire state.call).symm.trans hcome)
  · exact h

end BranchCache

namespace CacheRun

open BranchCache (Hears)

/-- By the event such an answer comes to the fetch. -/
inductive Comes (run : CacheRun) (fetch : FetchId) (result : CallEnd (List Branch)) :
    CacheEvent → Prop where
  /-- It comes in for the call, which is held. -/
  | held {state : Fetch} (hf : run.cache.fetches[fetch]? = some state)
    (hheld : state.call.isHeld = true) : Comes run fetch result (.answer fetch result)
  /-- It is ready when the call is made. -/
  | ready {place : Nat} {state : Fetch} (hline : run.line[place]? = some (.turn fetch .make))
    (hf : run.cache.fetches[fetch]? = some state)
    (hready : run.cache.readyEnd state.repo = some result) : Comes run fetch result (.turn place)

/-- By one of the events such an answer has come to the fetch. -/
def Came (run : CacheRun) (events : List CacheEvent) (fetch : FetchId)
    (result : CallEnd (List Branch)) : Prop :=
  ∃ before event rest, events = before ++ event :: rest ∧
    (run.after before).Comes fetch result event

variable {heard : FetchId → CallEnd (List Branch) → Prop} {run : CacheRun}

theorem hears_expireAll (h : run.cache.Hears heard) (fetches : List FetchId) :
    (fetches.foldl expire run).cache.Hears heard := by
  induction fetches generalizing run with
  | nil => exact h
  | cons fetch fetches ih => exact ih (h.expire fetch)

/-- By a turn nothing is told but what comes by it. -/
theorem hears_turn (h : run.cache.Hears heard) {place : Nat}
    (hcomes : ∀ fetch answer, run.Comes fetch answer (.turn place) → heard fetch answer) :
    (run.turn place).cache.Hears heard := by
  rcases turn_cases run place with heq | ⟨caller, -, heq⟩ | ⟨signal, hline, -, hcache, -, -⟩
  · rwa [heq]
  · rw [heq]
    rcases callerTurn_cases { run with line := run.line.eraseIdx place } caller with
      heq | ⟨waiting, -, heq⟩ | ⟨repo, forced, -, heq⟩ | ⟨waiting, -, heq⟩ <;> rw [heq]
    · exact h
    · exact h
    · exact h.load repo forced caller
    · exact h.resume waiting caller
  · rw [hcache]
    refine h.perform ?_
    rintro fetch state answer rfl hf hready
    exact hcomes fetch answer (.ready hline hf hready)

/-- An event brings no other answers than those that come by it. -/
theorem hears_step (h : run.cache.Hears heard) {event : CacheEvent}
    (hcomes : ∀ fetch answer, run.Comes fetch answer event → heard fetch answer) :
    (run.step event).cache.Hears heard := by
  cases event with
  | load repo forced => exact h
  | turn place => exact hears_turn h hcomes
  | answer fetch result => exact h.comes fun state hf hheld => hcomes fetch result (.held hf hheld)
  | expire fetch => exact h.expire fetch
  | advance span =>
    exact @hears_expireAll _ { run with timeline := (run.timeline.advance span).1 } h _
  | cancel caller =>
    simp only [CacheRun.step, cancel]
    split
    · exact h.abandon _ caller
    · exact h
  | setReady key reply => exact h.of_fetches rfl rfl

/-- By any events nothing is told but what has come by them. -/
theorem hears_after (h : run.cache.Hears heard) (events : List CacheEvent)
    (hcame : ∀ fetch answer, run.Came events fetch answer → heard fetch answer) :
    (run.after events).cache.Hears heard := by
  induction events generalizing run with
  | nil => exact h
  | cons event events ih =>
    refine ih (hears_step h fun fetch answer hcomes => ?_) fun fetch answer hlater => ?_
    · exact hcame fetch answer ⟨[], event, events, rfl, hcomes⟩
    · obtain ⟨before, other, rest, rfl, hcomes⟩ := hlater
      exact hcame fetch answer ⟨event :: before, other, rest, rfl, hcomes⟩

/-- What the fetches of a run are told has come in or was ready. -/
theorem hears_of_run (limit : Seconds) (ready : List (String × Reply)) (events : List CacheEvent) :
    let run := start (.fresh limit ready)
    (run.after events).cache.Hears (run.Came events) :=
  hears_after (BranchCache.hears_fresh limit ready) events fun _ _ => id

end CacheRun

end BranchCompare
