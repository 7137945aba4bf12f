import BranchCompare.Proofs.BranchCache.Soundness

/-!
# What the operations of a branch cache do

Each operation takes a sound cache to a sound and later one: the removal of a record, a new fetch, a
load and its later turns, the turns of a fetch, and what comes from outside.  `join_cases` says what
a load may come to that finds no entry, and `resume_cases` what a later turn of it may come to.
-/

namespace BranchCompare.BranchCache

open BoundedCall (tally tally_nil)

variable {cache : BranchCache} {line : List CacheSignal}

/-- A fresh cache is sound. -/
theorem sound_fresh (limit : Seconds) (ready : List (String × Reply)) :
    Sound (.fresh limit ready) [] := by
  constructor <;> simp [fresh, BranchCache.get?, due, OrderedMap.get?]

/-! ## Records -/

@[simp] theorem forget_fetches (cache : BranchCache) (repo : String) (fetch : FetchId) :
    (cache.forget repo fetch).fetches = cache.fetches := by
  unfold forget
  split
  · split <;> rfl
  · rfl

@[simp] theorem forget_entries (cache : BranchCache) (repo : String) (fetch : FetchId) :
    (cache.forget repo fetch).entries = cache.entries := by
  unfold forget
  split
  · split <;> rfl
  · rfl

/-- What is recorded after a record was removed was recorded before. -/
theorem record_of_forget {repo other : String} {fetch : FetchId} {record : FetchId × Bool}
    (h : OrderedMap.get? other (cache.forget repo fetch).inFlight = some record) :
    OrderedMap.get? other cache.inFlight = some record := by
  unfold forget at h
  split at h
  · split at h
    · by_cases ho : other = repo
      · subst ho
        rw [OrderedMap.get?_erase_self] at h
        cases h
      · rwa [OrderedMap.get?_erase_of_ne ho] at h
    · exact h
  · exact h

/-- Removing the record of a fetch leaves the records of other fetches. -/
theorem record_forget {repo other : String} {fetch : FetchId} {record : FetchId × Bool}
    (h : OrderedMap.get? other cache.inFlight = some record) (hne : record.1 ≠ fetch) :
    OrderedMap.get? other (cache.forget repo fetch).inFlight = some record := by
  unfold forget
  split
  · next recorded forced hrec =>
    split
    · next heq =>
      have ho : other ≠ repo := by
        rintro rfl
        rw [hrec] at h
        obtain rfl := Option.some.inj h
        exact hne heq
      rw [OrderedMap.get?_erase_of_ne ho, h]
    · exact h
  · exact h

/-- After its record was removed a fetch is not recorded for the repository. -/
theorem forget_recorded {repo : String} {fetch : FetchId} {forced : Bool}
    (h : OrderedMap.get? repo cache.inFlight = some (fetch, forced)) :
    OrderedMap.get? repo (cache.forget repo fetch).inFlight = none := by
  simp only [forget, h, if_true, OrderedMap.get?_erase_self]

/-- The removal of a record leads to a later cache. -/
theorem later_forget (cache : BranchCache) (repo : String) (fetch : FetchId) :
    Later cache (cache.forget repo fetch) :=
  ⟨fun hf => ⟨_, by rwa [forget_fetches], .refl _⟩, fun hr => .inl (record_of_forget hr)⟩

/-- The record of a fetch that has ended may be removed. -/
theorem Sound.forget (h : Sound cache line) {fetch : FetchId}
    (hended : (cache.resultOf fetch).isSome = true) (repo : String) :
    Sound (cache.forget repo fetch) line := by
  constructor
  · intro other state hf hnone
    rw [forget_fetches] at hf
    refine record_forget (h.recorded hf hnone) fun heq => ?_
    subst heq
    simp [resultOf, hf, hnone] at hended
  · intro other found forced hrec
    rw [forget_fetches]
    exact h.known (record_of_forget hrec)
  · intro signal other hm he
    simp only [resultOf, forget_fetches]
    exact h.announced hm he
  · intro other state hf
    rw [forget_fetches] at hf
    exact h.paced hf
  · intro other hf
    rw [forget_fetches] at hf
    exact h.started hf
  · intro other branches he
    simp only [get?, forget_entries] at he
    simpa only [Ended, forget_fetches] using h.fetched he

/-! ## New fetches -/

section StartFetch

variable (cache : BranchCache) (repo : String) (forced : Bool) (caller : CallerId)

theorem startFetch_record : OrderedMap.get? repo (cache.startFetch repo forced caller).1.inFlight =
    some (cache.fetches.length, forced) :=
  OrderedMap.get?_put_self ..

/-- The new fetch is the last one, and it is open. -/
theorem startFetch_state : ∃ state,
    (cache.startFetch repo forced caller).1.fetches = cache.fetches ++ [state] ∧
      state.repo = repo ∧ state.forced = forced ∧ state.result = none ∧
      state.call = .start cache.limit.isOver :=
  ⟨_, rfl, rfl, rfl, rfl, rfl⟩

/-- A new fetch leads to a later cache. -/
theorem later_startFetch : Later cache (cache.startFetch repo forced caller).1 := by
  obtain ⟨state, hfetches, -⟩ := startFetch_state cache repo forced caller
  constructor
  · intro fetch found hf
    have hlt : fetch < cache.fetches.length := (List.getElem?_eq_some_iff.mp hf).1
    exact ⟨found, by rw [hfetches, List.getElem?_append_left hlt, hf], .refl found⟩
  · intro other fetch foundForced hr
    by_cases ho : other = repo
    · subst ho
      rw [startFetch_record] at hr
      obtain ⟨rfl, -⟩ := Prod.mk.inj (Option.some.inj hr)
      exact .inr (Nat.le_refl _)
    · exact .inl (by rwa [startFetch, OrderedMap.get?_put_of_ne ho] at hr)

variable {cache} {repo}

/-- A fetch may be started for a repository without a record. -/
theorem Sound.startFetch (h : Sound cache line)
    (hnone : OrderedMap.get? repo cache.inFlight = none) :
    Sound (cache.startFetch repo forced caller).1
      (line ++ (cache.startFetch repo forced caller).2.2) := by
  obtain ⟨new, hfetches, hrepo, hforced, hresult, hcall⟩ := startFetch_state cache repo forced caller
  have hlater := later_startFetch cache repo forced caller
  have hsignals : (cache.startFetch repo forced caller).2.2 = [.start cache.fetches.length] := rfl
  -- a fetch of the new cache is an old one or the new one at the end
  have hcases : ∀ {fetch state},
      (cache.startFetch repo forced caller).1.fetches[fetch]? = some state →
        cache.fetches[fetch]? = some state ∨ fetch = cache.fetches.length ∧ state = new := by
    intro fetch state hf
    rw [hfetches] at hf
    rcases Nat.lt_trichotomy fetch cache.fetches.length with hlt | rfl | hgt
    · exact .inl (by rwa [List.getElem?_append_left hlt] at hf)
    · rw [List.getElem?_concat_length] at hf
      exact .inr ⟨rfl, (Option.some.inj hf).symm⟩
    · rw [List.getElem?_eq_none (by simp; omega)] at hf
      cases hf
  have hfresh : ∀ turn, due cache.fetches.length line turn = 0 :=
    h.started (List.getElem?_eq_none (Nat.le_refl _))
  have hother : ∀ fetch, fetch ≠ cache.fetches.length →
      due fetch (line ++ [.start cache.fetches.length]) = due fetch line := by
    intro fetch hne
    rw [due_append]
    simp [Ne.symm hne]
  rw [hsignals]
  constructor
  · intro fetch state hf hopen
    rcases hcases hf with hf | ⟨rfl, rfl⟩
    · have hold := h.recorded hf hopen
      have hne : state.repo ≠ repo := by
        rintro rfl
        rw [hnone] at hold
        cases hold
      rw [BranchCache.startFetch, OrderedMap.get?_put_of_ne hne, hold]
    · rw [hrepo, hforced, startFetch_record]
  · intro other fetch foundForced hr
    by_cases ho : other = repo
    · subst ho
      rw [startFetch_record] at hr
      obtain ⟨rfl, rfl⟩ := Prod.mk.inj (Option.some.inj hr)
      exact ⟨new, by rw [hfetches, List.getElem?_concat_length], hrepo, hforced⟩
    · rw [BranchCache.startFetch, OrderedMap.get?_put_of_ne ho] at hr
      obtain ⟨state, hf, hs, hk⟩ := h.known hr
      obtain ⟨later, hl, hsame⟩ := hlater.fetch hf
      exact ⟨later, hl, hsame.repo.trans hs, hsame.forced.trans hk⟩
  · intro signal fetch hm he
    rcases List.mem_append.mp hm with hold | hnew
    · obtain ⟨result, hr⟩ := Option.isSome_iff_exists.mp (h.announced hold he)
      exact Option.isSome_iff_exists.mpr ⟨result, hlater.resultOf hr⟩
    · rw [List.mem_singleton.mp hnew] at he
      cases he
  · intro fetch state hf
    rcases hcases hf with hf | ⟨rfl, rfl⟩
    · have hne : fetch ≠ cache.fetches.length :=
        Nat.ne_of_lt (List.getElem?_eq_some_iff.mp hf).1
      rw [hother fetch hne]
      exact h.paced hf
    · rw [hcall, hresult, due_append]
      simpa using BoundedCall.start_paced cache.limit.isOver hfresh
  · intro fetch hf
    have hlen : cache.fetches.length < fetch := by
      have := List.getElem?_eq_none_iff.mp hf
      simp only [hfetches, List.length_append, List.length_singleton] at this
      omega
    rw [hother fetch (by omega)]
    exact h.started (List.getElem?_eq_none (by omega))
  · intro other branches he
    exact hlater.ended (h.fetched he)

end StartFetch

/-! ## Turns of a fetch -/

section Turn

variable {fetch : FetchId} {state : Fetch}

theorem Sound.server (h : Sound cache line) (server : Remote BranchCall) :
    Sound { cache with server := server } line :=
  ⟨h.recorded, h.known, h.announced, h.paced, h.started, h.fetched⟩

/-- The call of a fetch moves on by the old turns and puts the new ones in line. -/
theorem Sound.setCall {old new : List CallTurn} {call : BoundedCall (List Branch)}
    (h : Sound cache (turnsOf fetch old ++ line)) (hf : cache.fetches[fetch]? = some state)
    (hcall : state.call.Paced state.result.isNone (tally old (due fetch line)) →
      call.Paced state.result.isNone (tally new (due fetch line))) :
    Sound (cache.modifyFetch fetch fun f => { f with call := call })
      (line ++ turnsOf fetch new) := by
  have hold : ∀ other, due other (turnsOf fetch old ++ line) =
      tally (if fetch = other then old else []) (due other line) := by
    intro other
    have hp : (turnsOf fetch old ++ line).Perm (line ++ turnsOf fetch old) := List.perm_append_comm
    funext turn
    rw [due, (hp.filterMap _).count_eq, ← due, due_append, filterMap_turnsOf]
  have hnew : ∀ other, due other (line ++ turnsOf fetch new) =
      tally (if fetch = other then new else []) (due other line) := by
    intro other
    rw [due_append, filterMap_turnsOf]
  refine h.modifyFetch hf ⟨rfl, rfl, id⟩ ?_ ?_ ?_ .inl
  · rw [hnew, if_pos rfl]
    refine hcall ?_
    simpa only [hold, if_pos] using h.paced hf
  · intro other hne
    rw [hold, hnew, if_neg (Ne.symm hne), if_neg (Ne.symm hne)]
  · intro signal hm
    rcases List.mem_append.mp hm with hm | hm
    · exact .inr (.inl (List.mem_append_right _ hm))
    · exact .inl (ended?_of_mem_turnsOf hm)

theorem later_setCall {after : BranchCache} {call : BoundedCall (List Branch)}
    (hf : cache.fetches[fetch]? = some state)
    (hfetches : after.fetches = cache.fetches.modify fetch fun f => { f with call := call })
    (hrecords : after.inFlight = cache.inFlight) : Later cache after := by
  have h : Later cache (cache.modifyFetch fetch fun f => { f with call := call }) :=
    later_modifyFetch hf ⟨rfl, rfl, id⟩ cache.entries
  exact ⟨fun hb => hfetches ▸ h.fetch hb, fun hr => h.record (hrecords ▸ hr)⟩

/-- The end of a fetch keeps a cache sound, with the news of it in line. -/
theorem Sound.finish {call : BoundedCall (List Branch)}
    (h : Sound cache (.turn fetch .wake :: line)) (hf : cache.fetches[fetch]? = some state)
    (hopen : state.result = none) (hcall : call.Paced false (due fetch line)) (result : LoadEnd) :
    let called := cache.modifyFetch fetch fun f => { f with call := call }
    Sound (called.finish fetch state result).1 (line ++ (called.finish fetch state result).2) ∧
      Later cache (called.finish fetch state result).1 := by
  intro called
  have hl : Fetch.Later state { state with call := call, result := some result } :=
    ⟨rfl, rfl, fun hr => by rw [hopen] at hr; cases hr⟩
  have hcache : ∃ entries, (called.finish fetch state result).1 =
      { cache.modifyFetch fetch fun f => { f with call := call, result := some result } with
        entries := entries } ∧
      ∀ {repo branches}, OrderedMap.get? repo entries = some branches →
        cache.get? repo = some branches ∨ repo = state.repo ∧ some result = some (.ok branches) := by
    refine ⟨_, by
      simp only [BranchCache.finish, called, modifyFetch_modifyFetch]; rfl, fun {repo} {bs} he => ?_⟩
    cases result with
    | error _ => exact .inl he
    | ok list =>
      by_cases hr : repo = state.repo
      · subst hr
        simp only [OrderedMap.get?_put_self] at he
        obtain rfl := Option.some.inj he
        exact .inr ⟨rfl, rfl⟩
      · simp only [OrderedMap.get?_put_of_ne hr] at he
        exact .inl he
  obtain ⟨entries, hcache, hentries⟩ := hcache
  have hquiet : ∀ other, (called.finish fetch state result).2.filterMap
      (CacheSignal.callTurn? other) = [] := by
    intro other
    simp [BranchCache.finish]
  rw [hcache]
  refine ⟨h.modifyFetch hf hl ?_ ?_ ?_ hentries, later_modifyFetch hf hl entries⟩
  · rw [due_append, hquiet, tally_nil]
    exact hcall
  · intro other hne
    rw [due_append, hquiet, tally_nil, due_cons]
    simp [Ne.symm hne]
  · intro signal hm
    rcases List.mem_append.mp hm with hm | hm
    · exact .inr (.inl (List.mem_cons_of_mem _ hm))
    · refine .inr (.inr ⟨?_, rfl⟩)
      rcases List.mem_cons.mp hm with rfl | hm
      · rfl
      · obtain ⟨caller, -, rfl⟩ := List.mem_map.mp hm
        rfl

theorem Sound.takeTurn {turn : CallTurn} (h : Sound cache (.turn fetch turn :: line))
    (hf : cache.fetches[fetch]? = some state) :
    Sound (cache.takeTurn fetch state turn).1 (line ++ (cache.takeTurn fetch state turn).2) ∧
      Later cache (cache.takeTurn fetch state turn).1 := by
  -- the turn as a list of old turns of the call
  have hline : Sound cache (turnsOf fetch [turn] ++ line) := h
  cases turn with
  | make =>
    exact ⟨(hline.server _).setCall hf fun hp => hp.make _ _, later_setCall hf rfl rfl⟩
  | takeUp =>
    exact ⟨(hline.server _).setCall hf fun hp => hp.takeUp, later_setCall hf rfl rfl⟩
  | notify =>
    exact ⟨hline.setCall hf fun hp => hp.notify, later_setCall hf rfl rfl⟩
  | wake =>
    have hpaced : state.call.Paced state.result.isNone (tally [.wake] (due fetch line)) := by
      have := h.paced hf
      rwa [due_cons, CacheSignal.callTurn?_turn, if_pos rfl] at this
    obtain ⟨hopen, hnext⟩ := hpaced.wake
    have hturns := @BoundedCall.wake_turns _ state.call
    rcases hw : state.call.wake with ⟨call, turns, ended⟩
    rw [hw] at hnext hturns
    simp only [BranchCache.takeTurn, hw]
    cases ended with
    | none => exact ⟨hline.setCall hf fun _ => by rw [hopen]; exact hnext, later_setCall hf rfl rfl⟩
    | some ended =>
      obtain rfl : turns = [] := hturns rfl
      rw [tally_nil] at hnext
      exact h.finish hf (Option.isNone_iff_eq_none.mp hopen) hnext _

theorem Sound.setWaiting (h : Sound cache line) (hf : cache.fetches[fetch]? = some state)
    (change : Fetch → List CallerId) :
    Sound (cache.modifyFetch fetch fun f => { f with waiting := change f }) line ∧
      Later cache (cache.modifyFetch fetch fun f => { f with waiting := change f }) := by
  have hp := h.paced hf
  exact ⟨h.modifyFetch hf ⟨rfl, rfl, id⟩ hp (fun _ _ => rfl) (fun _ hm => .inr (.inl hm)) .inl,
    later_modifyFetch hf ⟨rfl, rfl, id⟩ cache.entries⟩

/-- Whatever a signal says keeps the cache sound. -/
theorem Sound.perform {signal : CacheSignal} (h : Sound cache (signal :: line)) :
    Sound (cache.perform signal).1 (line ++ (cache.perform signal).2) ∧
      Later cache (cache.perform signal).1 := by
  cases signal with
  | start fetch =>
    refine ⟨h.congr (fun other => ?_) fun signal ho => ?_, .refl cache⟩
    · rw [due_cons, BranchCache.perform, due_append]
      by_cases heq : fetch = other <;> simp [heq]
    · rcases List.mem_append.mp ho with hm | hm
      · exact .inr (List.mem_cons_of_mem _ hm)
      · exact .inl (by rw [List.mem_singleton.mp hm]; rfl)
  | turn fetch turn =>
    simp only [BranchCache.perform]
    split
    · next state hf => exact h.takeTurn hf
    · next hf =>
      have := h.started hf turn
      simp [due_cons, tally] at this
  | forget fetch =>
    have hended := h.announced List.mem_cons_self rfl
    have htail := h.tail fun other => CacheSignal.callTurn?_forget other fetch
    simp only [BranchCache.perform]
    split
    · next state hf =>
      rw [List.append_nil]
      exact ⟨htail.forget hended _, later_forget _ _ _⟩
    · exact ⟨by rwa [List.append_nil], .refl cache⟩
  | deliver fetch caller =>
    have htail := h.tail fun other => CacheSignal.callTurn?_deliver other fetch caller
    simp only [BranchCache.perform]
    split
    · next state hf =>
      split
      · have hset := htail.setWaiting hf fun f => f.waiting.erase caller
        exact ⟨hset.1.append (by simp), hset.2⟩
      · exact ⟨by rwa [List.append_nil], .refl cache⟩
    · exact ⟨by rwa [List.append_nil], .refl cache⟩
  | caller caller =>
    have htail := h.tail fun other => CacheSignal.callTurn?_caller other caller
    exact ⟨by rwa [BranchCache.perform, List.append_nil], .refl cache⟩

/-! ## From outside -/

theorem Sound.answer (h : Sound cache line) (fetch : FetchId) (result : CallEnd (List Branch)) :
    Sound (cache.answer fetch result).1 (line ++ (cache.answer fetch result).2) ∧
      Later cache (cache.answer fetch result).1 := by
  have hline : Sound cache (turnsOf fetch [] ++ line) := h
  unfold BranchCache.answer
  split
  · next state hf =>
    refine ⟨hline.setCall hf fun hp => ?_, later_setCall hf rfl rfl⟩
    rw [tally_nil] at hp
    exact hp.answer result
  · exact ⟨by rwa [List.append_nil], .refl cache⟩

theorem Sound.expire (h : Sound cache line) (fetch : FetchId) :
    Sound (cache.expire fetch).1 (line ++ (cache.expire fetch).2) ∧
      Later cache (cache.expire fetch).1 := by
  have hline : Sound cache (turnsOf fetch [] ++ line) := h
  unfold BranchCache.expire
  split
  · next state hf =>
    refine ⟨hline.setCall hf fun hp => ?_, later_setCall hf rfl rfl⟩
    rw [tally_nil] at hp
    exact hp.expire
  · exact ⟨by rwa [List.append_nil], .refl cache⟩

theorem Sound.abandon (h : Sound cache line) (waiting : Waiting) (caller : CallerId) :
    Sound (cache.abandon waiting caller).1 (line ++ (cache.abandon waiting caller).2) ∧
      Later cache (cache.abandon waiting caller).1 := by
  unfold BranchCache.abandon
  split
  · next state hf =>
    split
    · have hset := h.setWaiting hf fun f => f.waiting.erase caller
      exact ⟨hset.1.append (by simp), hset.2⟩
    · exact ⟨by rwa [List.append_nil], .refl cache⟩
  · exact ⟨by rwa [List.append_nil], .refl cache⟩

end Turn

/-! ## Loads -/

section Load

variable (cache : BranchCache) (repo : String) (forced : Bool) (caller : CallerId)

/-- What a load comes to that finds no entry: it waits for the recorded fetch, it takes the end of a
recorded fetch that has ended, or it starts a fetch for want of a record. -/
theorem join_cases :
    (∃ fetch fetchForced, OrderedMap.get? repo cache.inFlight = some (fetch, fetchForced) ∧
      cache.resultOf fetch = none ∧
      cache.join repo forced caller =
        (cache.modifyFetch fetch fun f => { f with waiting := f.waiting ++ [caller] },
          .waits ⟨repo, forced, fetch, fetchForced || !forced⟩, [])) ∨
    (∃ fetch fetchForced result,
      OrderedMap.get? repo cache.inFlight = some (fetch, fetchForced) ∧
      cache.resultOf fetch = some result ∧
      ((fetchForced || !forced) = true ∨ leavesRoom result = false) ∧
      cache.join repo forced caller = (cache, .ended result, [])) ∨
    (∃ cleared, OrderedMap.get? repo cleared.inFlight = none ∧
      cache.join repo forced caller = cleared.startFetch repo forced caller ∧
      (cleared = cache ∨ forced = true ∧ ∃ fetch result,
        OrderedMap.get? repo cache.inFlight = some (fetch, false) ∧
        cache.resultOf fetch = some result ∧ cleared = cache.forget repo fetch)) := by
  unfold join
  split
  · next hnone => exact .inr (.inr ⟨cache, hnone, rfl, .inl rfl⟩)
  · next fetch fetchForced hrec =>
    dsimp only
    split
    · next hopen => exact .inl ⟨fetch, fetchForced, hrec, hopen, rfl⟩
    · next result hended =>
      split
      · next hsettles =>
        refine .inr (.inl ⟨fetch, fetchForced, result, hrec, hended, ?_, rfl⟩)
        simpa using hsettles
      · next hwaits =>
        simp only [Bool.or_eq_true, Bool.not_eq_true', not_or, Bool.not_eq_true,
          Bool.not_eq_false] at hwaits
        obtain ⟨⟨rfl, rfl⟩, -⟩ := hwaits
        exact .inr (.inr ⟨cache.forget repo fetch, forget_recorded hrec, rfl,
          .inr ⟨rfl, fetch, result, hrec, hended, rfl⟩⟩)

/-- What a later turn of a load comes to: nothing before the fetch has ended, then the end of the
fetch, or a load anew. -/
theorem resume_cases (waiting : Waiting) :
    (cache.resultOf waiting.fetch = none ∧
      cache.resume waiting caller = (cache, .waits waiting, [])) ∨
    (∃ result, cache.resultOf waiting.fetch = some result ∧
      (waiting.settles = true ∨ leavesRoom result = false) ∧
      cache.resume waiting caller = (cache, .ended result, [])) ∨
    (∃ result, cache.resultOf waiting.fetch = some result ∧
      (waiting.settles = false ∧ leavesRoom result = true) ∧
      cache.resume waiting caller =
        (cache.forget waiting.repo waiting.fetch).join waiting.repo waiting.forced caller) := by
  unfold resume
  split
  · next hopen => exact .inl ⟨hopen, rfl⟩
  · next result hended =>
    split
    · next hsettles =>
      refine .inr (.inl ⟨result, hended, ?_, rfl⟩)
      simpa using hsettles
    · next hwaits =>
      simp only [Bool.or_eq_true, Bool.not_eq_true', not_or, Bool.not_eq_true,
        Bool.not_eq_false] at hwaits
      exact .inr (.inr ⟨result, hended, hwaits, rfl⟩)

/-- What a load comes to: the entry for a plain load that finds one, otherwise what joining comes
to. -/
theorem load_cases :
    (∃ branches, forced = false ∧ cache.get? repo = some branches ∧
      cache.load repo forced caller = (cache, .ended (.ok branches), [])) ∨
    ((forced = true ∨ cache.get? repo = none) ∧
      cache.load repo forced caller = cache.join repo forced caller) := by
  unfold load
  cases forced with
  | true => exact .inr ⟨.inl rfl, rfl⟩
  | false =>
    cases hget : cache.get? repo with
    | none => exact .inr ⟨.inr rfl, by simp⟩
    | some branches => exact .inl ⟨branches, rfl, rfl, by simp⟩

end Load

/-- A caller waits for a fetch of the repository that it wants, and the end of the fetch is the end
of its load unless it wants a forced fetch and waits for a plain one. -/
def Fits (cache : BranchCache) (waiting : Waiting) : Prop :=
  ∃ state, cache.fetches[waiting.fetch]? = some state ∧ state.repo = waiting.repo ∧
    waiting.settles = (state.forced || !waiting.forced)

theorem Fits.later {after : BranchCache} {waiting : Waiting} (h : cache.Fits waiting)
    (hl : Later cache after) : after.Fits waiting := by
  obtain ⟨state, hf, hrepo, hsettles⟩ := h
  obtain ⟨later, hf', hsame⟩ := hl.fetch hf
  exact ⟨later, hf', hsame.repo.trans hrepo, by rw [hsame.forced, hsettles]⟩

/-- A load of the repository may come to this: it waits for a fetch of it, or a fetch of it has
ended so. -/
def Allows (cache : BranchCache) (repo : String) (forced : Bool) : LoadTurn → Prop
  | .waits waiting => waiting.repo = repo ∧ waiting.forced = forced ∧ cache.Fits waiting
  | .ended result => cache.Ended repo result

/-- A recorded fetch that has ended has ended as a fetch of its repository. -/
theorem Sound.ended (h : Sound cache line) {repo : String} {fetch : FetchId} {forced : Bool}
    {result : LoadEnd} (hrec : OrderedMap.get? repo cache.inFlight = some (fetch, forced))
    (hended : cache.resultOf fetch = some result) : cache.Ended repo result := by
  obtain ⟨state, hf, hrepo, -⟩ := h.known hrec
  rw [resultOf, hf, Option.bind_some] at hended
  exact ⟨state, List.mem_of_getElem? hf, hrepo, hended⟩

/-- A new fetch is waited for. -/
theorem Sound.startFetch_turn (h : Sound cache line) {repo : String} (forced : Bool)
    (caller : CallerId) (hnone : OrderedMap.get? repo cache.inFlight = none) :
    Sound (cache.startFetch repo forced caller).1
        (line ++ (cache.startFetch repo forced caller).2.2) ∧
      Later cache (cache.startFetch repo forced caller).1 ∧
      (cache.startFetch repo forced caller).1.Allows repo forced
        (cache.startFetch repo forced caller).2.1 := by
  refine ⟨h.startFetch forced caller hnone, later_startFetch .., rfl, rfl, ?_⟩
  obtain ⟨state, hfetches, hrepo, hforced, -⟩ := startFetch_state cache repo forced caller
  refine ⟨state, ?_, hrepo, ?_⟩
  · rw [hfetches]
    exact List.getElem?_concat_length
  · simp [hforced]

/-- A load that finds no entry keeps the cache sound and comes to a turn that fits. -/
theorem Sound.join (h : Sound cache line) (repo : String) (forced : Bool) (caller : CallerId) :
    Sound (cache.join repo forced caller).1 (line ++ (cache.join repo forced caller).2.2) ∧
      Later cache (cache.join repo forced caller).1 ∧
      (cache.join repo forced caller).1.Allows repo forced (cache.join repo forced caller).2.1 := by
  rcases join_cases cache repo forced caller with
    ⟨fetch, fetchForced, hrec, -, heq⟩ | ⟨fetch, fetchForced, result, hrec, hended, -, heq⟩ |
    ⟨cleared, hnone, heq, hcleared⟩
  · obtain ⟨state, hf, hrepo, hforced⟩ := h.known hrec
    obtain ⟨hsound, hlater⟩ := h.setWaiting hf fun f => f.waiting ++ [caller]
    obtain ⟨later, hf', hsame⟩ := hlater.fetch hf
    rw [heq]
    refine ⟨by rwa [List.append_nil], hlater, rfl, rfl, later, hf', hsame.repo.trans hrepo, ?_⟩
    rw [hsame.forced, hforced]
  · rw [heq]
    exact ⟨by rwa [List.append_nil], .refl cache, h.ended hrec hended⟩
  · rw [heq]
    rcases hcleared with rfl | ⟨-, fetch, result, hrec, hended, rfl⟩
    · exact h.startFetch_turn forced caller hnone
    · have hforget : Sound (cache.forget repo fetch) line :=
        h.forget (Option.isSome_iff_exists.mpr ⟨result, hended⟩) repo
      obtain ⟨hsound, hlater, hallows⟩ := hforget.startFetch_turn forced caller hnone
      exact ⟨hsound, (later_forget cache repo fetch).trans hlater, hallows⟩

theorem Sound.load (h : Sound cache line) (repo : String) (forced : Bool) (caller : CallerId) :
    Sound (cache.load repo forced caller).1 (line ++ (cache.load repo forced caller).2.2) ∧
      Later cache (cache.load repo forced caller).1 ∧
      (cache.load repo forced caller).1.Allows repo forced (cache.load repo forced caller).2.1 := by
  rcases load_cases cache repo forced caller with ⟨branches, -, hget, heq⟩ | ⟨-, heq⟩
  · rw [heq]
    exact ⟨by rwa [List.append_nil], .refl cache, h.fetched hget⟩
  · rw [heq]
    exact h.join repo forced caller

theorem Sound.resume (h : Sound cache line) {waiting : Waiting} (hw : cache.Fits waiting)
    (caller : CallerId) :
    Sound (cache.resume waiting caller).1 (line ++ (cache.resume waiting caller).2.2) ∧
      Later cache (cache.resume waiting caller).1 ∧
      (cache.resume waiting caller).1.Allows waiting.repo waiting.forced
        (cache.resume waiting caller).2.1 := by
  rcases resume_cases cache caller waiting with
    ⟨-, heq⟩ | ⟨result, hended, -, heq⟩ | ⟨result, hended, -, heq⟩
  · rw [heq]
    exact ⟨by rwa [List.append_nil], .refl cache, rfl, rfl, hw⟩
  · obtain ⟨state, hf, hrepo, -⟩ := hw
    rw [resultOf, hf, Option.bind_some] at hended
    rw [heq]
    exact ⟨by rwa [List.append_nil], .refl cache, state, List.mem_of_getElem? hf, hrepo, hended⟩
  · have hforget : Sound (cache.forget waiting.repo waiting.fetch) line :=
      h.forget (Option.isSome_iff_exists.mpr ⟨result, hended⟩) _
    obtain ⟨hsound, hlater, hallows⟩ := hforget.join waiting.repo waiting.forced caller
    rw [heq]
    exact ⟨hsound, (later_forget ..).trans hlater, hallows⟩

end BranchCompare.BranchCache
