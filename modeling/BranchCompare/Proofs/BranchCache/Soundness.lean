import BranchCompare.BranchCache
import BranchCompare.Proofs.BoundedCall
import Mathlib.Data.List.Perm.Basic

/-!
# What holds of a branch cache at all times

`Sound` ties the fetches of a cache, their records and the signals in line together: a fetch that
has not ended is the recorded one of its repository, a record can only be removed once its fetch has
ended, the turns in line for a fetch fit the state of its call, and every entry is a list that a
fetch of its repository has returned.  `Later` says what never changes as time goes on: a fetch keeps
its repository, its kind and its end, and a record that is new is that of a new fetch.

Each operation of the cache keeps `Sound` and leads to a later cache.
-/

namespace BranchCompare

/-- The turn of the call of a fetch that a signal leads to. -/
def CacheSignal.callTurn? (fetch : FetchId) : CacheSignal → Option CallTurn
  | .start started => if started = fetch then some .make else none
  | .turn turned step => if turned = fetch then some step else none
  | _ => none

namespace CacheSignal

@[simp] theorem callTurn?_start (fetch other : FetchId) :
    (start other).callTurn? fetch = if other = fetch then some .make else none := rfl

@[simp] theorem callTurn?_turn (fetch other : FetchId) (step : CallTurn) :
    (turn other step).callTurn? fetch = if other = fetch then some step else none := rfl

@[simp] theorem callTurn?_forget (fetch other : FetchId) :
    (forget other).callTurn? fetch = none := rfl

@[simp] theorem callTurn?_deliver (fetch other : FetchId) (who : CallerId) :
    (deliver other who).callTurn? fetch = none := rfl

@[simp] theorem callTurn?_caller (fetch : FetchId) (who : CallerId) :
    (caller who).callTurn? fetch = none := rfl

/-- The fetch that must have ended for the signal to be in line. -/
def ended? : CacheSignal → Option FetchId
  | forget fetch => some fetch
  | deliver fetch _ => some fetch
  | _ => none

@[simp] theorem ended?_caller (who : CallerId) : (caller who).ended? = none := rfl

end CacheSignal

/-- A fetch at a later time. -/
structure Fetch.Later (before after : Fetch) : Prop where
  repo : after.repo = before.repo
  forced : after.forced = before.forced
  result : ∀ {result : LoadEnd}, before.result = some result → after.result = some result

namespace Fetch.Later

theorem refl (state : Fetch) : Fetch.Later state state := ⟨rfl, rfl, id⟩

theorem trans {first second third : Fetch} (h : Fetch.Later first second)
    (h' : Fetch.Later second third) : Fetch.Later first third :=
  ⟨h'.repo.trans h.repo, h'.forced.trans h.forced, fun hr => h'.result (h.result hr)⟩

end Fetch.Later

namespace BranchCache

open BoundedCall (tally tally_nil)

def resultOf (cache : BranchCache) (fetch : FetchId) : Option LoadEnd :=
  cache.fetches[fetch]?.bind (·.result)

/-- A fetch of the repository has ended so. -/
def Ended (cache : BranchCache) (repo : String) (result : LoadEnd) : Prop :=
  ∃ state ∈ cache.fetches, state.repo = repo ∧ state.result = some result

/-! ## Turns in line -/

/-- The number of turns in line for the call of a fetch. -/
def due (fetch : FetchId) (line : List CacheSignal) (turn : CallTurn) : Nat :=
  (line.filterMap (CacheSignal.callTurn? fetch)).count turn

/-- The turns in line are those that were, and those that are put there. -/
theorem due_append (fetch : FetchId) (line signals : List CacheSignal) :
    due fetch (line ++ signals) =
      tally (signals.filterMap (CacheSignal.callTurn? fetch)) (due fetch line) := by
  funext turn
  simp only [due, tally, List.filterMap_append, List.count_append]
  omega

theorem due_cons (fetch : FetchId) (signal : CacheSignal) (line : List CacheSignal) :
    due fetch (signal :: line) = tally (signal.callTurn? fetch).toList (due fetch line) := by
  funext turn
  simp only [due, tally, List.filterMap_cons]
  cases CacheSignal.callTurn? fetch signal with
  | none => simp
  | some made => simp only [Option.toList_some, List.count_cons, List.count_nil]; omega

/-- Turns of a call are turns of its fetch only. -/
theorem filterMap_turnsOf (fetch other : FetchId) (turns : List CallTurn) :
    (turnsOf other turns).filterMap (CacheSignal.callTurn? fetch) =
      if other = fetch then turns else [] := by
  unfold turnsOf
  rw [List.filterMap_map]
  by_cases h : other = fetch
  · have : CacheSignal.callTurn? fetch ∘ CacheSignal.turn other = some := by
      funext turn
      simp [h]
    rw [this, List.filterMap_some, if_pos h]
  · rw [if_neg h, List.filterMap_eq_nil_iff]
    intro turn _
    simp [h]

/-- A turn of a call says nothing of an end. -/
theorem ended?_of_mem_turnsOf {fetch : FetchId} {turns : List CallTurn} {signal : CacheSignal}
    (h : signal ∈ turnsOf fetch turns) : signal.ended? = none := by
  obtain ⟨turn, -, rfl⟩ := List.mem_map.mp h
  rfl

/-! ## The state and its passing -/

/-- The fetches, the records, the entries and the signals in line fit together. -/
structure Sound (cache : BranchCache) (line : List CacheSignal) : Prop where
  /-- A fetch that has not ended is recorded. -/
  recorded : ∀ {fetch : FetchId} {state : Fetch}, cache.fetches[fetch]? = some state →
    state.result = none → OrderedMap.get? state.repo cache.inFlight = some (fetch, state.forced)
  /-- What is recorded for a repository is a fetch of it. -/
  known : ∀ {repo : String} {fetch : FetchId} {forced : Bool},
    OrderedMap.get? repo cache.inFlight = some (fetch, forced) →
    ∃ state, cache.fetches[fetch]? = some state ∧ state.repo = repo ∧ state.forced = forced
  /-- Only a fetch that has ended is told of, and only its record is to be removed. -/
  announced : ∀ {signal : CacheSignal} {fetch : FetchId}, signal ∈ line →
    signal.ended? = some fetch → (cache.resultOf fetch).isSome = true
  /-- The turns in line for a fetch fit its call. -/
  paced : ∀ {fetch : FetchId} {state : Fetch}, cache.fetches[fetch]? = some state →
    state.call.Paced state.result.isNone (due fetch line)
  /-- There is no turn in line for a fetch that was never started. -/
  started : ∀ {fetch : FetchId}, cache.fetches[fetch]? = none → ∀ turn, due fetch line turn = 0
  /-- An entry is a list that was fetched. -/
  fetched : ∀ {repo : String} {branches : List Branch}, cache.get? repo = some branches →
    cache.Ended repo (.ok branches)

/-- A cache at a later time. -/
structure Later (before after : BranchCache) : Prop where
  fetch : ∀ {fetch : FetchId} {state : Fetch}, before.fetches[fetch]? = some state →
    ∃ later, after.fetches[fetch]? = some later ∧ state.Later later
  record : ∀ {repo : String} {fetch : FetchId} {forced : Bool},
    OrderedMap.get? repo after.inFlight = some (fetch, forced) →
    OrderedMap.get? repo before.inFlight = some (fetch, forced) ∨ before.fetches.length ≤ fetch

/-! ## Later caches -/

namespace Later

theorem refl (cache : BranchCache) : Later cache cache :=
  ⟨fun h => ⟨_, h, .refl _⟩, .inl⟩

theorem length_le {before after : BranchCache} (h : Later before after) :
    before.fetches.length ≤ after.fetches.length := by
  by_contra hlt
  have hlen : after.fetches.length < before.fetches.length := by omega
  obtain ⟨later, hlater, -⟩ := h.fetch (List.getElem?_eq_getElem hlen)
  simp at hlater

theorem trans {first second third : BranchCache} (h : Later first second)
    (h' : Later second third) : Later first third := by
  refine ⟨fun hf => ?_, fun hr => ?_⟩
  · obtain ⟨middle, hm, hl⟩ := h.fetch hf
    obtain ⟨last, ht, hl'⟩ := h'.fetch hm
    exact ⟨last, ht, hl.trans hl'⟩
  · rcases h'.record hr with hr | hr
    · exact h.record hr
    · exact .inr (Nat.le_trans h.length_le hr)

/-- The end of a fetch does not change. -/
theorem resultOf {before after : BranchCache} (h : Later before after) {fetch : FetchId}
    {result : LoadEnd} (hr : before.resultOf fetch = some result) :
    after.resultOf fetch = some result := by
  obtain ⟨state, hs, hr⟩ := Option.bind_eq_some_iff.mp hr
  obtain ⟨later, hl, hlater⟩ := h.fetch hs
  exact Option.bind_eq_some_iff.mpr ⟨later, hl, hlater.result hr⟩

/-- What has ended stays ended. -/
theorem ended {before after : BranchCache} (h : Later before after) {repo : String}
    {result : LoadEnd} (hr : before.Ended repo result) : after.Ended repo result := by
  obtain ⟨state, hs, hrepo, hresult⟩ := hr
  obtain ⟨fetch, hf⟩ := List.getElem?_of_mem hs
  obtain ⟨later, hl, hlater⟩ := h.fetch hf
  exact ⟨later, List.mem_of_getElem? hl, hlater.repo.trans hrepo, hlater.result hresult⟩

end Later

section Update

variable {cache : BranchCache} {line line' : List CacheSignal} {fetch : FetchId} {state : Fetch}
  {change : Fetch → Fetch}

theorem getElem?_modifyFetch (cache : BranchCache) (fetch other : FetchId)
    (change : Fetch → Fetch) :
    (cache.modifyFetch fetch change).fetches[other]? =
      if fetch = other then cache.fetches[other]?.map change else cache.fetches[other]? := by
  simp only [modifyFetch, List.getElem?_modify]
  split <;> simp

theorem modifyFetch_modifyFetch (cache : BranchCache) (fetch : FetchId)
    (change after : Fetch → Fetch) :
    (cache.modifyFetch fetch change).modifyFetch fetch after =
      cache.modifyFetch fetch (after ∘ change) := by
  simp [modifyFetch, List.modify_modify_eq]

/-- A fetch that changes in a lawful way, and entries, make a later cache. -/
theorem later_modifyFetch (hf : cache.fetches[fetch]? = some state)
    (hl : Fetch.Later state (change state)) (entries : List (String × List Branch)) :
    Later cache { cache.modifyFetch fetch change with entries := entries } := by
  refine ⟨fun {other found} hfound => ?_, .inl⟩
  simp only [getElem?_modifyFetch]
  by_cases h : fetch = other
  · subst h
    obtain rfl : state = found := Option.some.inj (hf.symm.trans hfound)
    exact ⟨change state, by simp [hf], hl⟩
  · exact ⟨found, by simp [h, hfound], .refl found⟩

/-- Only the turns in line and what tells of ends matter of a line. -/
theorem Sound.congr (h : Sound cache line) (hdue : ∀ fetch, due fetch line' = due fetch line)
    (hends : ∀ signal ∈ line', signal.ended? = none ∨ signal ∈ line) : Sound cache line' where
  recorded := h.recorded
  known := h.known
  announced hm he := by
    rcases hends _ hm with hnone | hold
    · rw [hnone] at he
      cases he
    · exact h.announced hold he
  paced hf := by rw [hdue]; exact h.paced hf
  started hf := by rw [hdue]; exact h.started hf
  fetched := h.fetched

theorem Sound.perm (h : Sound cache line) (hp : line'.Perm line) : Sound cache line' :=
  h.congr (fun _ => funext fun turn => (hp.filterMap _).count_eq turn)
    fun _ hm => .inr (hp.mem_iff.mp hm)

/-- A signal that is no turn of a call can be taken out of the line. -/
theorem Sound.tail {signal : CacheSignal} (h : Sound cache (signal :: line))
    (hs : ∀ fetch, signal.callTurn? fetch = none) : Sound cache line :=
  h.congr (fun fetch => by simp [due_cons, hs]) fun _ hm => .inr (List.mem_cons_of_mem _ hm)

/-- Signals that are no turns of calls and tell of no end can be put in line. -/
theorem Sound.append {signals : List CacheSignal} (h : Sound cache line)
    (hs : ∀ signal ∈ signals, (∀ fetch, signal.callTurn? fetch = none) ∧ signal.ended? = none) :
    Sound cache (line ++ signals) := by
  refine h.congr (fun fetch => ?_) fun signal hm => ?_
  · have : signals.filterMap (CacheSignal.callTurn? fetch) = [] :=
      List.filterMap_eq_nil_iff.mpr fun signal hm => (hs signal hm).1 fetch
    rw [due_append, this, tally_nil]
  · rcases List.mem_append.mp hm with hm | hm
    · exact .inr hm
    · exact .inl (hs _ hm).2

/-- One fetch changes: it stays the same fetch, the turns in line for it fit its call again, and if
it ends, its record may be removed and its list may become an entry. -/
theorem Sound.modifyFetch (h : Sound cache line) (hf : cache.fetches[fetch]? = some state)
    (hl : Fetch.Later state (change state)) {entries : List (String × List Branch)}
    (hcall : (change state).call.Paced (change state).result.isNone (due fetch line'))
    (hdue : ∀ other, other ≠ fetch → due other line' = due other line)
    (hends : ∀ signal ∈ line', signal.ended? = none ∨ signal ∈ line ∨
      signal.ended? = some fetch ∧ (change state).result.isSome = true)
    (hentries : ∀ {repo branches}, OrderedMap.get? repo entries = some branches →
      cache.get? repo = some branches ∨
        repo = state.repo ∧ (change state).result = some (.ok branches)) :
    Sound { cache.modifyFetch fetch change with entries := entries } line' := by
  have hlater := later_modifyFetch hf hl entries
  have hchanged : (cache.modifyFetch fetch change).fetches[fetch]? = some (change state) := by
    simp [getElem?_modifyFetch, hf]
  constructor
  · intro other found hfound hnone
    simp only [getElem?_modifyFetch] at hfound
    split at hfound
    · next heq =>
      subst heq
      rw [hf] at hfound
      obtain rfl : change state = found := Option.some.inj hfound
      have hopen : state.result = none := by
        cases hr : state.result with
        | none => rfl
        | some result => rw [hl.result hr] at hnone; cases hnone
      rw [hl.repo, hl.forced]
      exact h.recorded hf hopen
    · exact h.recorded hfound hnone
  · intro repo other forced hrec
    obtain ⟨found, hfound, hrepo, hforced⟩ := h.known hrec
    obtain ⟨later, hl', hsame⟩ := hlater.fetch hfound
    exact ⟨later, hl', hsame.repo.trans hrepo, hsame.forced.trans hforced⟩
  · intro signal other hm he
    rcases hends signal hm with hnone | hold | ⟨heq, hsome⟩
    · rw [hnone] at he
      cases he
    · obtain ⟨result, hr⟩ := Option.isSome_iff_exists.mp (h.announced hold he)
      exact Option.isSome_iff_exists.mpr ⟨result, hlater.resultOf hr⟩
    · obtain rfl := Option.some.inj (heq.symm.trans he)
      simp only [resultOf, hchanged, Option.bind_some, hsome]
  · intro other found hfound
    simp only [getElem?_modifyFetch] at hfound
    split at hfound
    · next heq =>
      subst heq
      rw [hf] at hfound
      obtain rfl : change state = found := Option.some.inj hfound
      exact hcall
    · next hne =>
      rw [hdue other (Ne.symm hne)]
      exact h.paced hfound
  · intro other hnone turn
    simp only [getElem?_modifyFetch] at hnone
    split at hnone
    · next heq =>
      subst heq
      simp [hf] at hnone
    · next hne =>
      rw [hdue other (Ne.symm hne)]
      exact h.started hnone turn
  · intro repo branches hentry
    rcases hentries hentry with hold | ⟨rfl, hresult⟩
    · exact hlater.ended (h.fetched hold)
    · exact ⟨change state, List.mem_of_getElem? hchanged, hl.repo, hresult⟩

end Update

end BranchCache

end BranchCompare
