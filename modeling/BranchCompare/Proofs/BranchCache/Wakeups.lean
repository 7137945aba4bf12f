import BranchCompare.Proofs.BranchCache.Runs

/-!
# No caller is left waiting

A caller that waits is either among those whom its fetch is still to tell of its end, or has exactly
one turn in line; `Attends` says so for every place where a caller may stand.  A fetch that ends
puts in line that each of them is to be told, so that nobody waits for a fetch that has ended once
the line has been worked off (`attends_after`).

The proof goes by what is done for a caller: `Spares` holds of everything that is done for others.
-/

namespace BranchCompare

namespace BranchCache

/-- Those who are still to be told of the end of a fetch. -/
def waitingFor (cache : BranchCache) (fetch : FetchId) : List CallerId :=
  (cache.fetches[fetch]?.map (·.waiting)).getD []

/-- A caller has so many turns in line, and is to be told of the end of this fetch only, if any. -/
structure Stands (cache : BranchCache) (line : List CacheSignal) (caller : CallerId) (turns : Nat)
    (awaited : Option FetchId) : Prop where
  turns : line.count (.caller caller) = turns
  waits : ∀ fetch, (cache.waitingFor fetch).count caller = if awaited = some fetch then 1 else 0

/-- What is in line and in the cache for a caller fits where it stands. -/
def Attends (cache : BranchCache) (line : List CacheSignal) (caller : CallerId) :
    Option CallerState → Prop
  | some (.begins _ _) => cache.Stands line caller 1 none
  | some (.waits _ true) => cache.Stands line caller 1 none
  | some (.waits waiting false) =>
    (cache.Stands line caller 0 (some waiting.fetch) ∧
      (cache.resultOf waiting.fetch = none ∨ .deliver waiting.fetch caller ∈ line)) ∨
    (cache.Stands line caller 1 none ∧ (cache.resultOf waiting.fetch).isSome = true)
  | _ => cache.Stands line caller 0 none

/-- The cache changes and puts signals in line, but not for the caller, except that it will be told
of the end of a fetch that it waits for. -/
structure Spares (cache after : BranchCache) (signals : List CacheSignal) (caller : CallerId) :
    Prop where
  turns : .caller caller ∉ signals
  waits : ∀ fetch, (after.waitingFor fetch).count caller = (cache.waitingFor fetch).count caller
  told : ∀ fetch, caller ∈ cache.waitingFor fetch → cache.resultOf fetch = none →
    after.resultOf fetch = none ∨ .deliver fetch caller ∈ signals

section Attends

variable {cache after : BranchCache} {line line' signals : List CacheSignal} {caller : CallerId}
  {state : Option CallerState} {turns : Nat} {awaited : Option FetchId}

/-- A caller is among those who wait for the fetch that it awaits, and for no other. -/
theorem Stands.mem_waitingFor (h : cache.Stands line caller turns awaited) {fetch : FetchId} :
    caller ∈ cache.waitingFor fetch ↔ awaited = some fetch := by
  rw [← List.count_pos_iff, h.waits]
  split <;> simp [*]

/-- A caller stands where it did if the cache spares it. -/
theorem Stands.spares (h : cache.Stands line caller turns awaited)
    (hs : cache.Spares after signals caller) :
    after.Stands (line ++ signals) caller turns awaited := by
  refine ⟨?_, fun fetch => (hs.waits fetch).trans (h.waits fetch)⟩
  rw [List.count_append, List.count_eq_zero_of_not_mem hs.turns, h.turns, Nat.add_zero]

theorem Stands.congr (h : cache.Stands line caller turns awaited)
    (hline : line'.count (.caller caller) = line.count (.caller caller)) :
    cache.Stands line' caller turns awaited :=
  ⟨hline.trans h.turns, h.waits⟩

/-- A caller is attended to as before when something is done for others. -/
theorem Attends.spares (h : cache.Attends line caller state)
    (hs : cache.Spares after signals caller) (hl : Later cache after) :
    after.Attends (line ++ signals) caller state := by
  match state with
  | none | some (.begins _ _) | some (.waits _ true) | some (.ended _) | some .cancelled =>
    exact Stands.spares h hs
  | some (.waits waiting false) =>
    rcases h with ⟨hstands, htold⟩ | ⟨hstands, hended⟩
    · refine .inl ⟨hstands.spares hs, ?_⟩
      rcases htold with hopen | hin
      · rcases hs.told _ (hstands.mem_waitingFor.mpr rfl) hopen with hopen | hin
        · exact .inl hopen
        · exact .inr (List.mem_append_right _ hin)
      · exact .inr (List.mem_append_left _ hin)
    · obtain ⟨result, hr⟩ := Option.isSome_iff_exists.mp hended
      exact .inr ⟨hstands.spares hs, Option.isSome_iff_exists.mpr ⟨result, hl.resultOf hr⟩⟩

/-- Only the turns of the caller and the telling of it matter of a line. -/
theorem Attends.congr (h : cache.Attends line caller state)
    (hline : line'.count (.caller caller) = line.count (.caller caller))
    (hdeliver : ∀ fetch, caller ∈ cache.waitingFor fetch → .deliver fetch caller ∈ line →
      .deliver fetch caller ∈ line') : cache.Attends line' caller state := by
  match state with
  | none | some (.begins _ _) | some (.waits _ true) | some (.ended _) | some .cancelled =>
    exact Stands.congr h hline
  | some (.waits waiting false) =>
    rcases h with ⟨hstands, htold⟩ | ⟨hstands, hended⟩
    · exact .inl ⟨hstands.congr hline,
        htold.imp_right (hdeliver _ (hstands.mem_waitingFor.mpr rfl))⟩
    · exact .inr ⟨hstands.congr hline, hended⟩

theorem Attends.perm (h : cache.Attends line caller state) (hp : line'.Perm line) :
    cache.Attends line' caller state :=
  h.congr (hp.count_eq _) fun _ _ hm => hp.mem_iff.mpr hm

/-- A signal that is not for the caller can be taken out of the line. -/
theorem Attends.tail {signal : CacheSignal} (h : cache.Attends (signal :: line) caller state)
    (hturn : signal ≠ .caller caller)
    (hdeliver : ∀ fetch, signal = .deliver fetch caller → caller ∉ cache.waitingFor fetch) :
    cache.Attends line caller state := by
  refine h.congr (List.count_cons_of_ne hturn).symm fun fetch hw hm => ?_
  rcases List.mem_cons.mp hm with heq | hm
  · exact absurd hw (hdeliver fetch heq.symm)
  · exact hm

end Attends

/-! ## What is done for others -/

section Spares

variable {cache after : BranchCache} {signals : List CacheSignal} {caller : CallerId}

theorem waitingFor_of_fetches (h : after.fetches = cache.fetches) (fetch : FetchId) :
    after.waitingFor fetch = cache.waitingFor fetch := by
  simp only [waitingFor, h]

/-- A change that leaves the fetches alone spares all callers. -/
theorem spares_of_fetches (h : after.fetches = cache.fetches) (hturns : .caller caller ∉ signals) :
    cache.Spares after signals caller where
  turns := hturns
  waits fetch := by rw [waitingFor_of_fetches h]
  told fetch _ hopen := .inl (by rwa [resultOf, h])

theorem Spares.of_fetches {before : BranchCache} (h : before.Spares after signals caller)
    (hfetches : before.fetches = cache.fetches) : cache.Spares after signals caller where
  turns := h.turns
  waits fetch := by rw [h.waits, waitingFor_of_fetches hfetches]
  told fetch hw hopen :=
    h.told fetch (by rwa [waitingFor_of_fetches hfetches]) (by rwa [resultOf, hfetches])

/-- One fetch changes, for others than the caller. -/
theorem spares_of_modify {fetch : FetchId} {state : Fetch} {change : Fetch → Fetch}
    (hf : cache.fetches[fetch]? = some state)
    (hafter : after.fetches = cache.fetches.modify fetch change)
    (hturns : .caller caller ∉ signals)
    (hwaits : (change state).waiting.count caller = state.waiting.count caller)
    (htold : caller ∈ state.waiting → state.result = none →
      (change state).result = none ∨ .deliver fetch caller ∈ signals) :
    cache.Spares after signals caller := by
  have hget : ∀ other, after.fetches[other]? =
      if fetch = other then cache.fetches[other]?.map change else cache.fetches[other]? := by
    intro other
    rw [hafter]
    exact getElem?_modifyFetch cache fetch other change
  refine ⟨hturns, fun other => ?_, fun other => ?_⟩
  · simp only [waitingFor, hget]
    split
    · next heq =>
      subst heq
      simpa [hf] using hwaits
    · rfl
  · simp only [waitingFor, resultOf, hget]
    split
    · next heq =>
      subst heq
      simpa [hf] using htold
    · exact fun _ hopen => .inl hopen

/-- A fetch that is started for one caller spares the others. -/
theorem spares_startFetch (repo : String) (forced : Bool) {other : CallerId}
    (hne : caller ≠ other) :
    cache.Spares (cache.startFetch repo forced other).1 (cache.startFetch repo forced other).2.2
      caller := by
  refine ⟨by simp [startFetch], fun fetch => ?_, fun fetch hw hopen => .inl ?_⟩
  · simp only [waitingFor, startFetch]
    rcases Nat.lt_trichotomy fetch cache.fetches.length with hlt | rfl | hgt
    · rw [List.getElem?_append_left hlt]
    · simp [hne.symm]
    · rw [List.getElem?_eq_none (by simp; omega), List.getElem?_eq_none (by omega)]
  · simp only [resultOf, startFetch] at hopen ⊢
    rcases Nat.lt_trichotomy fetch cache.fetches.length with hlt | rfl | hgt
    · rwa [List.getElem?_append_left hlt]
    · simp
    · rw [List.getElem?_eq_none (by simp; omega)]
      rfl

variable (cache) (caller)

/-- Turns of a call are no turns of a caller. -/
theorem turn_not_mem_turnsOf (fetch : FetchId) (turns : List CallTurn) :
    CacheSignal.caller caller ∉ turnsOf fetch turns := by
  simp [turnsOf]

/-- A fetch that ends puts in line that all who wait for it are to be told. -/
theorem spares_finish {fetch : FetchId} {state : Fetch} {call : BoundedCall (List Branch)}
    (hf : cache.fetches[fetch]? = some state) (result : LoadEnd) :
    let called := cache.modifyFetch fetch fun f => { f with call := call }
    cache.Spares (called.finish fetch state result).1 (called.finish fetch state result).2
      caller := by
  refine spares_of_modify hf (List.modify_modify_eq ..) ?_ rfl fun hw _ => .inr ?_
  · simp [finish]
  · simp only [finish, List.mem_cons, reduceCtorEq, false_or]
    exact List.mem_map_of_mem hw

/-- A turn of a call spares the callers: they are told of its end by signals of their own. -/
theorem spares_takeTurn {fetch : FetchId} {state : Fetch} (turn : CallTurn)
    (hf : cache.fetches[fetch]? = some state) :
    cache.Spares (cache.takeTurn fetch state turn).1 (cache.takeTurn fetch state turn).2
      caller := by
  cases turn with
  | make => exact spares_of_modify hf rfl (turn_not_mem_turnsOf _ _ _) rfl fun _ => .inl
  | takeUp => exact spares_of_modify hf rfl (turn_not_mem_turnsOf _ _ _) rfl fun _ => .inl
  | notify => exact spares_of_modify hf rfl (turn_not_mem_turnsOf _ _ _) rfl fun _ => .inl
  | wake =>
    rcases hw : state.call.wake with ⟨call, turns, ended⟩
    simp only [takeTurn, hw]
    cases ended with
    | none => exact spares_of_modify hf rfl (turn_not_mem_turnsOf _ _ _) rfl fun _ => .inl
    | some ended => exact spares_finish cache caller hf _

/-- What a signal says is done, and not for the caller unless the signal tells it of an end. -/
theorem spares_perform {signal : CacheSignal}
    (hdeliver : ∀ fetch, signal = .deliver fetch caller → caller ∉ cache.waitingFor fetch) :
    cache.Spares (cache.perform signal).1 (cache.perform signal).2 caller := by
  cases signal with
  | start fetch => exact spares_of_fetches rfl (by simp [perform])
  | turn fetch turn =>
    simp only [perform]
    split
    · next state hf => exact spares_takeTurn cache caller turn hf
    · exact spares_of_fetches rfl (by simp)
  | forget fetch =>
    simp only [perform]
    split
    · exact spares_of_fetches (forget_fetches ..) (by simp)
    · exact spares_of_fetches rfl (by simp)
  | deliver fetch told =>
    simp only [perform]
    split
    · next state hf =>
      split
      · next hcontains =>
        have hne : told ≠ caller := by
          rintro rfl
          refine hdeliver fetch rfl ?_
          simpa [waitingFor, hf] using hcontains
        refine spares_of_modify hf rfl (by simpa using hne.symm) ?_ fun _ => .inl
        exact List.count_erase_of_ne hne.symm
      · exact spares_of_fetches rfl (by simp)
    · exact spares_of_fetches rfl (by simp)
  | caller other => exact spares_of_fetches rfl (by simp [perform])

theorem spares_answer (fetch : FetchId) (result : CallEnd (List Branch)) :
    cache.Spares (cache.answer fetch result).1 (cache.answer fetch result).2 caller := by
  unfold answer
  split
  · next state hf => exact spares_of_modify hf rfl (turn_not_mem_turnsOf _ _ _) rfl fun _ => .inl
  · exact spares_of_fetches rfl (by simp)

theorem spares_expire (fetch : FetchId) :
    cache.Spares (cache.expire fetch).1 (cache.expire fetch).2 caller := by
  unfold expire
  split
  · next state hf => exact spares_of_modify hf rfl (turn_not_mem_turnsOf _ _ _) rfl fun _ => .inl
  · exact spares_of_fetches rfl (by simp)

variable {other : CallerId} (hne : caller ≠ other)
include hne

theorem spares_abandon (waiting : Waiting) :
    cache.Spares (cache.abandon waiting other).1 (cache.abandon waiting other).2 caller := by
  unfold abandon
  split
  · next state hf =>
    split
    · refine spares_of_modify hf rfl (by simpa using hne) ?_ fun _ => .inl
      exact List.count_erase_of_ne hne
    · exact spares_of_fetches rfl (by simp)
  · exact spares_of_fetches rfl (by simp)

/-- A load spares the other callers. -/
theorem spares_join (repo : String) (forced : Bool) :
    cache.Spares (cache.join repo forced other).1 (cache.join repo forced other).2.2 caller := by
  rcases join_cases cache repo forced other with
    ⟨fetch, fetchForced, -, -, heq⟩ | ⟨fetch, fetchForced, result, -, -, -, heq⟩ |
    ⟨cleared, -, heq, hcleared⟩
  · rw [heq]
    cases hf : cache.fetches[fetch]? with
    | none =>
      refine spares_of_fetches ?_ (by simp)
      simp [modifyFetch, List.modify_eq_self (List.getElem?_eq_none_iff.mp hf)]
    | some state =>
      refine spares_of_modify hf rfl (by simp) ?_ fun _ => .inl
      simp [hne.symm]
  · rw [heq]
    exact spares_of_fetches rfl (by simp)
  · have hfetches : cleared.fetches = cache.fetches := by
      rcases hcleared with rfl | ⟨-, fetch, result, -, -, rfl⟩
      · rfl
      · exact forget_fetches ..
    rw [heq]
    exact (spares_startFetch repo forced hne).of_fetches hfetches

theorem spares_load (repo : String) (forced : Bool) :
    cache.Spares (cache.load repo forced other).1 (cache.load repo forced other).2.2 caller := by
  rcases load_cases cache repo forced other with ⟨branches, -, -, heq⟩ | ⟨-, heq⟩
  · rw [heq]
    exact spares_of_fetches rfl (by simp)
  · rw [heq]
    exact spares_join cache caller hne repo forced

theorem spares_resume (waiting : Waiting) :
    cache.Spares (cache.resume waiting other).1 (cache.resume waiting other).2.2 caller := by
  rcases resume_cases cache other waiting with
    ⟨-, heq⟩ | ⟨result, -, -, heq⟩ | ⟨result, -, -, heq⟩
  · rw [heq]
    exact spares_of_fetches rfl (by simp)
  · rw [heq]
    exact spares_of_fetches rfl (by simp)
  · rw [heq]
    exact (spares_join _ caller hne waiting.repo waiting.forced).of_fetches (forget_fetches ..)

end Spares

/-! ## What is done for the caller -/

section Own

variable {cache : BranchCache} {line : List CacheSignal} {caller : CallerId}

theorem waitingFor_modifyFetch {fetch : FetchId} {state : Fetch}
    (hf : cache.fetches[fetch]? = some state) (change : Fetch → Fetch) (other : FetchId) :
    (cache.modifyFetch fetch change).waitingFor other =
      if fetch = other then (change state).waiting else cache.waitingFor other := by
  simp only [waitingFor, getElem?_modifyFetch]
  split
  · next heq =>
    subst heq
    simp [hf]
  · rfl

/-- A caller that begins to wait for a fetch awaits it. -/
theorem Stands.enter (h : cache.Stands line caller 0 none) {fetch : FetchId} {state : Fetch}
    (hf : cache.fetches[fetch]? = some state) :
    (cache.modifyFetch fetch fun f => { f with waiting := f.waiting ++ [caller] }).Stands line
      caller 0 (some fetch) := by
  refine ⟨h.turns, fun other => ?_⟩
  have hold := h.waits other
  rw [waitingFor_modifyFetch hf]
  by_cases heq : fetch = other
  · subst heq
    simp only [waitingFor, hf] at hold
    simpa using hold
  · simpa [heq] using hold

/-- The caller no longer waits for the fetch, and gets a turn. -/
theorem Stands.leave {fetch : FetchId} (h : cache.Stands line caller 0 (some fetch))
    {state : Fetch} (hf : cache.fetches[fetch]? = some state) :
    (cache.modifyFetch fetch fun f => { f with waiting := f.waiting.erase caller }).Stands
      (line ++ [.caller caller]) caller 1 none := by
  refine ⟨by simp [List.count_append, h.turns], fun other => ?_⟩
  have hold := h.waits other
  rw [waitingFor_modifyFetch hf]
  by_cases heq : fetch = other
  · subst heq
    have hone : state.waiting.count caller = 1 := by simpa [waitingFor, hf] using hold
    simp [hone]
  · simpa [heq] using hold

/-- A caller that is told of the end has its turn in line. -/
theorem Attends.deliver {fetch : FetchId} {state : Option CallerState}
    (h : cache.Attends (.deliver fetch caller :: line) caller state)
    (hw : caller ∈ cache.waitingFor fetch) (hended : (cache.resultOf fetch).isSome = true) :
    (cache.perform (.deliver fetch caller)).1.Attends
      (line ++ (cache.perform (.deliver fetch caller)).2) caller state := by
  match state with
  | none | some (.begins _ _) | some (.waits _ true) | some (.ended _) | some .cancelled =>
    exact absurd (Stands.mem_waitingFor h |>.mp hw) (by simp)
  | some (.waits waiting false) =>
    rcases h with ⟨hstands, -⟩ | ⟨hstands, -⟩
    · obtain rfl := Option.some.inj (hstands.mem_waitingFor.mp hw)
      cases hf : cache.fetches[waiting.fetch]? with
      | none => simp [waitingFor, hf] at hw
      | some found =>
        have hcontains : found.waiting.contains caller = true := by simpa [waitingFor, hf] using hw
        simp only [perform, hf, hcontains, if_true]
        have hrest := hstands.congr (List.count_cons_of_ne (by simp)).symm
        refine .inr ⟨hrest.leave hf, ?_⟩
        simpa [resultOf, getElem?_modifyFetch, hf] using hended
    · exact absurd (hstands.mem_waitingFor.mp hw) (by simp)

/-- A caller that waits no more has its turn in line. -/
theorem Attends.abandon {waiting : Waiting} {cancelled : Bool}
    (h : cache.Attends line caller (some (.waits waiting cancelled))) :
    (cache.abandon waiting caller).1.Attends (line ++ (cache.abandon waiting caller).2) caller
      (some (.waits waiting true)) := by
  have hcases : cache.Stands line caller 0 (some waiting.fetch) ∨
      cache.Stands line caller 1 none := by
    cases cancelled with
    | true => exact .inr h
    | false => exact h.imp And.left And.left
  rcases hcases with hstands | hstands
  · have hw := hstands.mem_waitingFor.mpr rfl
    cases hf : cache.fetches[waiting.fetch]? with
    | none => simp [waitingFor, hf] at hw
    | some found =>
      have hcontains : found.waiting.contains caller = true := by simpa [waitingFor, hf] using hw
      simp only [BranchCache.abandon, hf, hcontains, if_true]
      exact hstands.leave hf
  · have hsame : cache.abandon waiting caller = (cache, []) := by
      unfold BranchCache.abandon
      split
      · next found hf =>
        refine if_neg fun hcontains => ?_
        have hw : caller ∈ cache.waitingFor waiting.fetch := by
          simpa [waitingFor, hf] using hcontains
        exact absurd (hstands.mem_waitingFor.mp hw) (by simp)
      · rfl
    rw [hsame, List.append_nil]
    exact hstands

theorem attends_startFetch (h : cache.Stands line caller 0 none) (repo : String) (forced : Bool) :
    (cache.startFetch repo forced caller).1.Attends
      (line ++ (cache.startFetch repo forced caller).2.2) caller
      (some (cache.startFetch repo forced caller).2.1.state) := by
  have hstands : (cache.startFetch repo forced caller).1.Stands
      (line ++ (cache.startFetch repo forced caller).2.2) caller 0 (some cache.fetches.length) := by
    refine ⟨by simp [startFetch, List.count_append, h.turns], fun fetch => ?_⟩
    have hold := h.waits fetch
    simp only [waitingFor, startFetch] at hold ⊢
    rcases Nat.lt_trichotomy fetch cache.fetches.length with hlt | rfl | hgt
    · rw [List.getElem?_append_left hlt, if_neg (by simpa using Nat.ne_of_gt hlt)]
      simpa using hold
    · simp
    · rw [List.getElem?_eq_none (by simp; omega), if_neg (by simpa using Nat.ne_of_lt hgt)]
      rfl
  exact .inl ⟨hstands, .inl (by simp [resultOf, startFetch])⟩

/-- A load that finds no entry has ended or awaits an open fetch. -/
theorem attends_join (h : cache.Stands line caller 0 none) (hsound : cache.Sound line)
    (repo : String) (forced : Bool) :
    (cache.join repo forced caller).1.Attends (line ++ (cache.join repo forced caller).2.2) caller
      (some (cache.join repo forced caller).2.1.state) := by
  rcases join_cases cache repo forced caller with
    ⟨fetch, fetchForced, hrec, hopen, heq⟩ | ⟨fetch, fetchForced, result, -, -, -, heq⟩ |
    ⟨cleared, -, heq, hcleared⟩
  · obtain ⟨found, hf, -⟩ := hsound.known hrec
    rw [heq, List.append_nil]
    refine .inl ⟨h.enter hf, .inl ?_⟩
    simpa [resultOf, getElem?_modifyFetch, hf] using hopen
  · rw [heq, List.append_nil]
    exact h
  · have hfetches : cleared.fetches = cache.fetches := by
      rcases hcleared with rfl | ⟨-, fetch, result, -, -, rfl⟩
      · rfl
      · exact forget_fetches ..
    have hstands : cleared.Stands line caller 0 none :=
      ⟨h.turns, fun fetch => by rw [waitingFor_of_fetches hfetches, h.waits]⟩
    rw [heq]
    exact attends_startFetch hstands repo forced

theorem attends_load (h : cache.Stands line caller 0 none) (hsound : cache.Sound line)
    (repo : String) (forced : Bool) :
    (cache.load repo forced caller).1.Attends (line ++ (cache.load repo forced caller).2.2) caller
      (some (cache.load repo forced caller).2.1.state) := by
  rcases load_cases cache repo forced caller with ⟨branches, -, -, heq⟩ | ⟨-, heq⟩
  · rw [heq, List.append_nil]
    exact h
  · rw [heq]
    exact attends_join h hsound repo forced

theorem attends_resume (h : cache.Stands line caller 0 none) (hsound : cache.Sound line)
    {waiting : Waiting} (hended : (cache.resultOf waiting.fetch).isSome = true) :
    (cache.resume waiting caller).1.Attends (line ++ (cache.resume waiting caller).2.2) caller
      (some (cache.resume waiting caller).2.1.state) := by
  rcases resume_cases cache caller waiting with
    ⟨hopen, -⟩ | ⟨result, -, -, heq⟩ | ⟨result, -, -, heq⟩
  · rw [hopen] at hended
    cases hended
  · rw [heq, List.append_nil]
    exact h
  · have hfetches := forget_fetches cache waiting.repo waiting.fetch
    have hstands : (cache.forget waiting.repo waiting.fetch).Stands line caller 0 none :=
      ⟨h.turns, fun fetch => by rw [waitingFor_of_fetches hfetches, h.waits]⟩
    rw [heq]
    exact attends_join hstands (hsound.forget hended _) waiting.repo waiting.forced

end Own

/-- A caller whose turn is in line has no other, waits for nothing, and may go on. -/
theorem Attends.turn {cache : BranchCache} {line : List CacheSignal} {caller : CallerId}
    {state : Option CallerState} (h : cache.Attends (.caller caller :: line) caller state) :
    cache.Stands line caller 0 none ∧
      ∀ waiting, state = some (.waits waiting false) →
        (cache.resultOf waiting.fetch).isSome = true := by
  have hone : ∀ {turns awaited}, cache.Stands (.caller caller :: line) caller turns awaited →
      turns = line.count (.caller caller) + 1 := by
    intro turns awaited hs
    rw [← hs.turns, List.count_cons_self]
  have hrest : cache.Stands (.caller caller :: line) caller 1 none →
      cache.Stands line caller 0 none := fun hs => ⟨Nat.succ.inj (hone hs).symm, hs.waits⟩
  match state with
  | none | some (.ended _) | some .cancelled => exact absurd (hone h) (by simp)
  | some (.begins _ _) | some (.waits _ true) => exact ⟨hrest h, by simp⟩
  | some (.waits waiting false) =>
    rcases h with ⟨hstands, -⟩ | ⟨hstands, hended⟩
    · exact absurd (hone hstands) (by simp)
    · refine ⟨hrest hstands, ?_⟩
      rintro _ heq
      cases heq
      exact hended

end BranchCache

namespace CacheRun

open BranchCache

/-- Every caller is attended to. -/
def Attentive (run : CacheRun) : Prop :=
  ∀ caller, run.cache.Attends run.line caller run.callers[caller]?

/-- All stay attended to when the cache spares them. -/
theorem Attentive.enqueue {run : CacheRun} (h : run.Attentive)
    (outcome : BranchCache × List CacheSignal)
    (hs : ∀ caller, run.cache.Spares outcome.1 outcome.2 caller)
    (hl : run.cache.Later outcome.1) : (run.enqueue outcome).Attentive :=
  fun caller => (h caller).spares (hs caller) hl

/-- After the turn of one caller all are attended to. -/
theorem attentive_settleTurn {run : CacheRun} {caller : CallerId}
    {outcome : BranchCache × LoadTurn × List CacheSignal} (hlt : caller < run.callers.length)
    (hown : outcome.1.Attends (run.line ++ outcome.2.2) caller (some outcome.2.1.state))
    (hothers : ∀ other, other ≠ caller →
      outcome.1.Attends (run.line ++ outcome.2.2) other run.callers[other]?) :
    (run.settleTurn caller outcome).Attentive := by
  intro other
  rw [settleTurn_cache, settleTurn_line, settleTurn_callers]
  by_cases heq : other = caller
  · subst heq
    rwa [List.getElem?_set_self hlt]
  · rw [List.getElem?_set_ne (Ne.symm heq)]
    exact hothers other heq

/-- The caller whose turn it is goes on, and all are attended to. -/
theorem Sound.attentive_callerTurn {run : CacheRun} (h : run.Sound) {caller : CallerId}
    (hstands : run.cache.Stands run.line caller 0 none)
    (hready : ∀ waiting, run.callers[caller]? = some (.waits waiting false) →
      (run.cache.resultOf waiting.fetch).isSome = true)
    (hothers : ∀ other, other ≠ caller → run.cache.Attends run.line other run.callers[other]?) :
    (run.callerTurn caller).Attentive := by
  have hrest : ∀ state, run.callers[caller]? = state →
      run.cache.Attends run.line caller state → run.Attentive := by
    rintro state rfl hown other
    by_cases heq : other = caller
    · rwa [heq]
    · exact hothers other heq
  cases hstate : run.callers[caller]? with
  | none =>
    simp only [CacheRun.callerTurn, hstate]
    exact hrest none hstate hstands
  | some state =>
    have hlt := (List.getElem?_eq_some_iff.mp hstate).1
    match state with
    | .begins repo forced =>
      simp only [CacheRun.callerTurn, hstate]
      obtain ⟨-, hlater, -⟩ := h.cache.load repo forced caller
      refine attentive_settleTurn hlt (attends_load hstands h.cache repo forced) ?_
      exact fun other hne => (hothers other hne).spares (spares_load _ _ hne repo forced) hlater
    | .waits waiting false =>
      simp only [CacheRun.callerTurn, hstate]
      obtain ⟨-, hlater, -⟩ := h.cache.resume (h.waits hstate) caller
      refine attentive_settleTurn hlt (attends_resume hstands h.cache (hready _ hstate)) ?_
      exact fun other hne => (hothers other hne).spares (spares_resume _ _ hne waiting) hlater
    | .waits waiting true =>
      simp only [CacheRun.callerTurn, hstate]
      intro other
      by_cases heq : other = caller
      · subst heq
        simp only [setCaller, List.getElem?_set_self hlt]
        exact hstands
      · simp only [setCaller, List.getElem?_set_ne (Ne.symm heq)]
        exact hothers other heq
    | .ended result =>
      simp only [CacheRun.callerTurn, hstate]
      exact hrest _ hstate hstands
    | .cancelled =>
      simp only [CacheRun.callerTurn, hstate]
      exact hrest _ hstate hstands

/-- After any turn all are attended to. -/
theorem Sound.attentive_turn {run : CacheRun} (h : run.Sound) (ha : run.Attentive) (place : Nat) :
    (run.turn place).Attentive := by
  rcases turn_cases run place with
    heq | ⟨caller, hs, heq⟩ | ⟨signal, hs, hsignal, hcache, hline, hcallers⟩
  · rwa [heq]
  · have hperm := perm_eraseIdx hs
    have htail : run.cache.Sound (run.line.eraseIdx place) :=
      (h.cache.perm hperm).tail fun fetch => CacheSignal.callTurn?_caller fetch caller
    have hrun : Sound { run with line := run.line.eraseIdx place } := ⟨htail, h.waits⟩
    obtain ⟨hstands, hready⟩ := ((ha caller).perm hperm).turn
    rw [heq]
    refine hrun.attentive_callerTurn hstands hready fun other hne => ?_
    exact ((ha other).perm hperm).tail (by simpa using hne.symm) (by simp)
  · intro caller
    rw [hcache, hline, hcallers]
    have hin := (ha caller).perm (perm_eraseIdx hs)
    by_cases htold : ∃ fetch, signal = .deliver fetch caller ∧ caller ∈ run.cache.waitingFor fetch
    · obtain ⟨fetch, rfl, hw⟩ := htold
      exact hin.deliver hw (h.cache.announced (List.mem_of_getElem? hs) rfl)
    · have hdeliver : ∀ fetch, signal = .deliver fetch caller →
          caller ∉ run.cache.waitingFor fetch := fun fetch hsig hw => htold ⟨fetch, hsig, hw⟩
      have hl := (h.cache.perm (perm_eraseIdx hs)).perform.2
      exact (hin.tail (hsignal caller) hdeliver).spares (spares_perform _ _ hdeliver) hl

theorem Sound.attentive_expire (run : CacheRun) (h : run.cache.Sound run.line)
    (ha : run.Attentive) (fetches : List FetchId) : (fetches.foldl expire run).Attentive := by
  induction fetches generalizing run with
  | nil => exact ha
  | cons fetch fetches ih =>
    obtain ⟨hsound, hlater⟩ := h.expire fetch
    have hin := ha.enqueue _ (fun caller => spares_expire run.cache caller fetch) hlater
    exact ih (run.expire fetch) hsound hin

theorem Sound.attentive_step {run : CacheRun} (h : run.Sound) (ha : run.Attentive)
    (event : CacheEvent) : (run.step event).Attentive := by
  have hl := (h.step_cache event).2
  cases event with
  | load repo forced =>
    intro caller
    have hin := ha caller
    simp only [CacheRun.step, CacheRun.load]
    by_cases heq : caller = run.callers.length
    · subst heq
      rw [List.getElem?_eq_none (Nat.le_refl _)] at hin
      rw [List.getElem?_concat_length]
      refine ⟨?_, hin.waits⟩
      rw [List.count_append, hin.turns]
      simp
    · have hsame : (run.callers ++ [.begins repo forced])[caller]? = run.callers[caller]? := by
        rcases Nat.lt_or_gt_of_ne heq with hlt | hgt
        · rw [List.getElem?_append_left hlt]
        · rw [List.getElem?_eq_none (by simp; omega), List.getElem?_eq_none (by omega)]
      rw [hsame]
      exact hin.spares (spares_of_fetches rfl (by simpa using heq)) hl
  | turn place => exact h.attentive_turn ha place
  | answer fetch result => exact ha.enqueue _ (fun caller => spares_answer _ caller fetch result) hl
  | expire fetch => exact ha.enqueue _ (fun caller => spares_expire _ caller fetch) hl
  | advance span =>
    simp only [CacheRun.step, CacheRun.advance]
    exact attentive_expire { run with timeline := (run.timeline.advance span).1 } h.cache ha _
  | cancel caller =>
    simp only [CacheRun.step, CacheRun.cancel]
    split
    · next waiting cancelled hw =>
      have hlt := (List.getElem?_eq_some_iff.mp hw).1
      obtain ⟨-, hlater⟩ := h.cache.abandon waiting caller
      intro other
      by_cases heq : other = caller
      · subst heq
        simp only [Option.getD_some, enqueue, setCaller, List.getElem?_set_self hlt]
        exact Attends.abandon (hw ▸ ha other)
      · simp only [Option.getD_some, enqueue, setCaller, List.getElem?_set_ne (Ne.symm heq)]
        exact (ha other).spares (spares_abandon _ _ heq waiting) hlater
    · exact ha
  | setReady key reply =>
    have hs := ha.enqueue ((run.setReady key reply).cache, [])
      (fun caller => spares_of_fetches rfl (by simp)) hl
    simp only [Attentive, enqueue, List.append_nil] at hs
    exact hs

theorem Sound.attentive_after {run : CacheRun} (h : run.Sound) (ha : run.Attentive)
    (events : List CacheEvent) : (run.after events).Attentive := by
  induction events generalizing run with
  | nil => exact ha
  | cons event events ih => exact ih (h.step event) (h.attentive_step ha event)

/-- In every run of a fresh cache every caller is attended to. -/
theorem attentive_after (limit : Seconds) (ready : List (String × Reply))
    (events : List CacheEvent) : ((start (.fresh limit ready)).after events).Attentive := by
  refine (sound_start limit ready).attentive_after (fun caller => ⟨rfl, fun fetch => ?_⟩) events
  simp [start, BranchCache.fresh, BranchCache.waitingFor]

end CacheRun

end BranchCompare
