import BranchCompare.Proofs.BranchCache.Operations

/-!
# Calls that end as expected

A call of a remote may give a list, fail or run out of time: every operation copes with that.  A cache
is `Expected` as long as no call of it has ended in another way and no reply is ready that would end
one so.  Each operation keeps this, and a load comes to no crash then (`Expected.load`,
`Expected.resume`).
-/

namespace BranchCompare

variable {α A : Type}

/-- The call ends in one of the ways that every operation copes with. -/
def CallEnd.Expected : CallEnd α → Prop
  | .crashed _ => False
  | _ => True

/-- The reply ends a call as expected, whatever was to be listed. -/
def Reply.Expected (read : List Json → Except Crash α) (reply : Reply) : Prop :=
  ∀ target, (reply.toEnd target read).Expected

/-- All replies that are ready are expected. -/
def Remote.Expected (read : List Json → Except Crash α) (remote : Remote A) : Prop :=
  ∀ key reply, OrderedMap.get? key remote.ready = some reply → reply.Expected read

/-- The load does not end by a crash. -/
def LoadTurn.Expected : LoadTurn → Prop
  | .ended (.error (.crashed _)) => False
  | _ => True

theorem Remote.expected_empty (read : List Json → Except Crash α) :
    (Remote.fresh [] : Remote A).Expected read := by
  intro key reply hready
  cases hready

namespace Remote.Expected

variable {read : List Json → Except Crash α} {remote : Remote A}

/-- A reply that is ready is one that is expected. -/
theorem readyEnd (h : remote.Expected read) {key target : String} {result : CallEnd α}
    (hresult : (remote.readyFor key).map (Reply.toEnd target read) = some result) :
    result.Expected := by
  obtain ⟨reply, hready, rfl⟩ := Option.map_eq_some_iff.mp hresult
  rcases Option.or_eq_some_iff.mp hready with hkey | ⟨-, hall⟩
  · exact h key reply hkey target
  · exact h "*" reply hall target

theorem setReady (h : remote.Expected read) (key : String) {reply : Option Reply}
    (hreply : ∀ given, reply = some given → given.Expected read) :
    (remote.setReady key reply).Expected read := by
  intro other found hfound
  cases reply with
  | some given =>
    by_cases heq : other = key
    · subst heq
      simp only [Remote.setReady, OrderedMap.get?_put_self] at hfound
      obtain rfl := Option.some.inj hfound
      exact hreply given rfl
    · simp only [Remote.setReady, OrderedMap.get?_put_of_ne heq] at hfound
      exact h other found hfound
  | none =>
    by_cases heq : other = key
    · subst heq
      simp only [Remote.setReady, OrderedMap.get?_erase_self] at hfound
      cases hfound
    · simp only [Remote.setReady, OrderedMap.get?_erase_of_ne heq] at hfound
      exact h other found hfound

end Remote.Expected

/-! ## Calls -/

namespace BoundedCall

/-- If the call has an end, it is an expected one. -/
def Expected (call : BoundedCall α) : Prop :=
  ∀ result, call.phase = .answered result ∨ call.phase = .over (some result) → result.Expected

variable {call : BoundedCall α}

theorem expected_start (limitIsOver : Bool) : (start limitIsOver : BoundedCall α).Expected := by
  cases limitIsOver <;> rintro result (h | h) <;> cases h

theorem Expected.make (h : call.Expected) {ready : Option (CallEnd α)}
    (hready : ∀ result, ready = some result → result.Expected) (number : Nat) :
    (call.make ready number).1.Expected := by
  obtain ⟨phase, watch, numbered⟩ := call
  cases phase with
  | unmade =>
    cases ready with
    | none => rintro result (hr | hr) <;> cases hr
    | some given =>
      rintro result (hr | hr)
      · cases hr
      · cases hr
        exact hready given rfl
  | doomed => rintro result (hr | hr) <;> cases hr
  | _ => exact h

theorem Expected.answer (h : call.Expected) {result : CallEnd α} (hresult : result.Expected) :
    (call.answer result).1.Expected := by
  obtain ⟨phase, watch, numbered⟩ := call
  cases phase with
  | held =>
    rintro found (hr | hr)
    · cases hr
      exact hresult
    · cases hr
  | _ => exact h

theorem Expected.takeUp (h : call.Expected) : call.takeUp.1.Expected := by
  obtain ⟨phase, watch, numbered⟩ := call
  cases phase with
  | answered given =>
    rintro result (hr | hr)
    · cases hr
    · cases hr
      exact h given (.inl rfl)
  | stopping => rintro result (hr | hr) <;> cases hr
  | _ => exact h

theorem Expected.notify (h : call.Expected) : call.notify.1.Expected := by
  obtain ⟨phase, watch, numbered⟩ := call
  cases watch <;> exact h

theorem Expected.expire (h : call.Expected) : call.expire.1.Expected := by
  obtain ⟨phase, watch, numbered⟩ := call
  cases watch <;> exact h

theorem Expected.cancel (h : call.Expected) : call.cancel.1.Expected := by
  obtain ⟨phase, watch, numbered⟩ := call
  cases watch <;> exact h

/-- A call that is called off has no answer that is not expected. -/
theorem Expected.callOff (h : call.Expected) (why : Stop) : (call.callOff why).1.Expected := by
  obtain ⟨phase, watch, numbered⟩ := call
  cases phase with
  | unmade | held | answered => rintro result (hr | hr) <;> cases hr
  | _ => exact h

/-- The wait for a call ends by an expected answer, if by any. -/
theorem Expected.wake (h : call.Expected) :
    call.wake.1.Expected ∧ ∀ result, call.wake.2.2 = some (.ended result) → result.Expected := by
  unfold BoundedCall.wake
  split
  · exact ⟨h, nofun⟩
  · next given hphase _ =>
    refine ⟨h, fun result hr => ?_⟩
    cases hr
    exact h given (.inr hphase)
  · exact ⟨h.callOff _, nofun⟩
  · exact ⟨h.callOff _, nofun⟩

end BoundedCall

/-! ## Fetches -/

/-- The call of the fetch ends as expected, and so does the fetch. -/
structure Fetch.Expected (state : Fetch) : Prop where
  call : state.call.Expected
  result : ∀ result, state.result = some result → (LoadTurn.ended result).Expected

namespace BranchCache

/-- The fetches end as expected. -/
structure Expected (cache : BranchCache) : Prop where
  ready : cache.server.Expected readBranches
  fetches : ∀ {fetch : FetchId} {state : Fetch}, cache.fetches[fetch]? = some state →
    state.Expected

variable {cache : BranchCache}

theorem expected_fresh (limit : Seconds) {ready : List (String × Reply)}
    (hready : (Remote.fresh ready : Remote BranchCall).Expected readBranches) :
    Expected (.fresh limit ready) := ⟨hready, nofun⟩

theorem Expected.server (h : cache.Expected) {server : Remote BranchCall}
    (hserver : server.ready = cache.server.ready) :
    Expected { cache with server := server } := by
  refine ⟨?_, h.fetches⟩
  unfold Remote.Expected
  rw [hserver]
  exact h.ready

/-- One fetch may change to an expected one. -/
theorem Expected.modifyFetch (h : cache.Expected) {fetch : FetchId} {change : Fetch → Fetch}
    (hchange : ∀ state, cache.fetches[fetch]? = some state → (change state).Expected) :
    (cache.modifyFetch fetch change).Expected := by
  refine ⟨h.ready, fun {other found} hfound => ?_⟩
  rw [getElem?_modifyFetch] at hfound
  split at hfound
  · next heq =>
    subst heq
    obtain ⟨state, hs, rfl⟩ := Option.map_eq_some_iff.mp hfound
    exact hchange state hs
  · exact h.fetches hfound

theorem Expected.setCall (h : cache.Expected) (fetch : FetchId)
    {call : BoundedCall (List Branch)} (hcall : call.Expected) :
    (cache.modifyFetch fetch fun f => { f with call := call }).Expected :=
  h.modifyFetch fun _ hs => ⟨hcall, (h.fetches hs).result⟩

theorem Expected.setResult (h : cache.Expected) (fetch : FetchId) {result : LoadEnd}
    (hresult : (LoadTurn.ended result).Expected) :
    (cache.modifyFetch fetch fun f => { f with result := some result }).Expected := by
  refine h.modifyFetch fun _ hs => ⟨(h.fetches hs).call, fun found heq => ?_⟩
  rw [← Option.some.inj heq]
  exact hresult

theorem Expected.setWaiting (h : cache.Expected) (fetch : FetchId)
    (change : Fetch → List CallerId) :
    (cache.modifyFetch fetch fun f => { f with waiting := change f }).Expected :=
  h.modifyFetch fun _ hs => ⟨(h.fetches hs).call, (h.fetches hs).result⟩

/-- The removal of a record changes no fetch. -/
theorem Expected.forget (h : cache.Expected) (repo : String) (fetch : FetchId) :
    (cache.forget repo fetch).Expected := by
  unfold BranchCache.forget
  split
  · split
    · exact ⟨h.ready, h.fetches⟩
    · exact h
  · exact h

/-- A load ends as expected when its call does. -/
theorem expected_loadEnd (cache : BranchCache) (repo : String) {ended : WaitEnd (List Branch)}
    (hended : ∀ result, ended = .ended result → result.Expected) :
    (LoadTurn.ended (cache.loadEnd repo ended)).Expected := by
  cases ended with
  | stopped why => trivial
  | ended result =>
    cases result with
    | crashed crash => exact hended _ rfl
    | answer | unavailable | outOfTime => trivial

theorem Expected.takeTurn (h : cache.Expected) {fetch : FetchId} {state : Fetch}
    (hs : cache.fetches[fetch]? = some state) (turn : CallTurn) :
    (cache.takeTurn fetch state turn).1.Expected := by
  have hcall := (h.fetches hs).call
  cases turn with
  | make =>
    have hready : ∀ result, cache.readyEnd state.repo = some result → result.Expected :=
      fun result hr => h.ready.readyEnd hr
    have hmade := hcall.make hready cache.server.calls.length
    refine Expected.setCall (h.server ?_) fetch hmade
    split <;> rfl
  | takeUp =>
    refine Expected.setCall (h.server ?_) fetch hcall.takeUp
    split <;> rfl
  | notify => exact h.setCall fetch hcall.notify
  | wake =>
    obtain ⟨hwoken, hends⟩ := hcall.wake
    rcases hw : state.call.wake with ⟨call, turns, ended⟩
    rw [hw] at hwoken hends
    have hset := h.setCall fetch hwoken
    simp only [BranchCache.takeTurn, hw]
    cases ended with
    | none => exact hset
    | some ended =>
      have hresult := expected_loadEnd (cache.modifyFetch fetch fun f => { f with call := call })
        state.repo fun result heq => hends result (congrArg some heq)
      have hfinished := hset.setResult fetch hresult
      exact ⟨hfinished.ready, hfinished.fetches⟩

/-- Whatever a signal says, what is expected stays so. -/
theorem Expected.perform (h : cache.Expected) (signal : CacheSignal) :
    (cache.perform signal).1.Expected := by
  cases signal with
  | start fetch | caller who => exact h
  | turn fetch turn =>
    simp only [BranchCache.perform]
    split
    · next state hs => exact h.takeTurn hs turn
    · exact h
  | forget fetch =>
    simp only [BranchCache.perform]
    split
    · exact h.forget _ fetch
    · exact h
  | deliver fetch who =>
    simp only [BranchCache.perform]
    split
    · split
      · exact h.setWaiting fetch _
      · exact h
    · exact h

/-! ## From outside -/

theorem Expected.answer (h : cache.Expected) (fetch : FetchId) {result : CallEnd (List Branch)}
    (hresult : result.Expected) : (cache.answer fetch result).1.Expected := by
  unfold BranchCache.answer
  split
  · next state hs => exact h.setCall fetch ((h.fetches hs).call.answer hresult)
  · exact h

theorem Expected.expire (h : cache.Expected) (fetch : FetchId) :
    (cache.expire fetch).1.Expected := by
  unfold BranchCache.expire
  split
  · next state hs => exact h.setCall fetch (h.fetches hs).call.expire
  · exact h

theorem Expected.abandon (h : cache.Expected) (waiting : Waiting) (caller : CallerId) :
    (cache.abandon waiting caller).1.Expected := by
  unfold BranchCache.abandon
  split
  · split
    · exact h.setWaiting waiting.fetch _
    · exact h
  · exact h

/-! ## Loads -/

theorem Expected.startFetch (h : cache.Expected) (repo : String) (forced : Bool)
    (caller : CallerId) : (cache.startFetch repo forced caller).1.Expected := by
  refine ⟨h.ready, fun {fetch found} hfound => ?_⟩
  rcases List.mem_append.mp (List.mem_of_getElem? hfound) with hold | hnew
  · obtain ⟨place, hold⟩ := List.getElem?_of_mem hold
    exact h.fetches hold
  · rw [List.mem_singleton.mp hnew]
    exact ⟨BoundedCall.expected_start _, nofun⟩

/-- A fetch has ended as expected, if it has. -/
theorem Expected.resultOf (h : cache.Expected) {fetch : FetchId} {result : LoadEnd}
    (hended : cache.resultOf fetch = some result) : (LoadTurn.ended result).Expected := by
  obtain ⟨state, hs, hresult⟩ := Option.bind_eq_some_iff.mp hended
  exact (h.fetches hs).result result hresult

/-- A load that joins a fetch comes to an expected turn. -/
theorem Expected.join (h : cache.Expected) (repo : String) (forced : Bool) (caller : CallerId) :
    (cache.join repo forced caller).1.Expected ∧
      (cache.join repo forced caller).2.1.Expected := by
  rcases join_cases cache repo forced caller with
    ⟨fetch, fetchForced, -, -, heq⟩ | ⟨fetch, fetchForced, result, -, hended, -, heq⟩ |
    ⟨cleared, -, heq, hcleared⟩ <;> rw [heq]
  · exact ⟨h.setWaiting fetch _, trivial⟩
  · exact ⟨h, h.resultOf hended⟩
  · rcases hcleared with rfl | ⟨-, fetch, result, -, -, rfl⟩
    · exact ⟨h.startFetch repo forced caller, trivial⟩
    · exact ⟨(h.forget repo fetch).startFetch repo forced caller, trivial⟩

theorem Expected.load (h : cache.Expected) (repo : String) (forced : Bool) (caller : CallerId) :
    (cache.load repo forced caller).1.Expected ∧
      (cache.load repo forced caller).2.1.Expected := by
  rcases load_cases cache repo forced caller with ⟨branches, -, -, heq⟩ | ⟨-, heq⟩ <;> rw [heq]
  · exact ⟨h, trivial⟩
  · exact h.join repo forced caller

theorem Expected.resume (h : cache.Expected) (waiting : Waiting) (caller : CallerId) :
    (cache.resume waiting caller).1.Expected ∧
      (cache.resume waiting caller).2.1.Expected := by
  rcases resume_cases cache caller waiting with
    ⟨-, heq⟩ | ⟨result, hended, -, heq⟩ | ⟨result, -, -, heq⟩ <;> rw [heq]
  · exact ⟨h, trivial⟩
  · exact ⟨h, h.resultOf hended⟩
  · exact (h.forget waiting.repo waiting.fetch).join waiting.repo waiting.forced caller

end BranchCache

end BranchCompare
