import BranchCompare.Proofs.BranchCache.Course
import BranchCompare.Proofs.BranchCache.Wakeups

/-!
# When all news has been passed on

A run is quiet when nothing is in line that a fetch has left behind when it ended: the removal of its
record, the telling of those who wait, and the turns of those who were told.  In a quiet run the
records are those of the fetches that have not ended, and everybody who waits does so for one of
these (`loading_of_quiet`): no record of an ended fetch stays behind and blocks its repository, and
nobody is left waiting for an end that has passed.

The first rests on `Listed`: as long as the record of an ended fetch stands, its removal is in line.
The second is what `Attends` comes to when nothing is in line for the caller.
-/

namespace BranchCompare

namespace BranchCache

/-- The record of a fetch that has ended stands only as long as its removal is in line. -/
def Listed (cache : BranchCache) (line : List CacheSignal) : Prop :=
  ∀ {repo : String} {fetch : FetchId} {forced : Bool},
    OrderedMap.get? repo cache.inFlight = some (fetch, forced) →
    cache.resultOf fetch = none ∨ .forget fetch ∈ line

section Listed

variable {before after : BranchCache} {signals : List CacheSignal}

/-- Where a record comes from: its fetch has not ended, or its removal was put in line, or the record
is an old one of a fetch that had ended before. -/
theorem Proceeds.record_cases (h : Proceeds before after signals) {repo : String} {fetch : Nat}
    {forced : Bool} (hrec : OrderedMap.get? repo after.inFlight = some (fetch, forced)) :
    after.resultOf fetch = none ∨ .forget fetch ∈ signals ∨
    (OrderedMap.get? repo before.inFlight = some (fetch, forced) ∧
      before.resultOf fetch ≠ none) := by
  induction h with
  | rest signals houtcomes hentries hrecords =>
    rw [hrecords] at hrec
    rw [resultOf_eq, houtcomes, ← resultOf_eq]
    exact (Classical.em _).imp_right fun hended => .inr ⟨hrec, hended⟩
  | @forget before name other result hended =>
    rw [resultOf, forget_fetches, ← resultOf]
    exact (Classical.em _).imp_right fun hended => .inr ⟨record_of_forget hrec, hended⟩
  | @start before after name kind hnone houtcomes hentries hrecords =>
    rw [hrecords] at hrec
    by_cases hname : repo = name
    · subst hname
      rw [OrderedMap.get?_put_self] at hrec
      obtain ⟨rfl, -⟩ := Prod.mk.inj (Option.some.inj hrec)
      refine .inl ?_
      rw [resultOf_eq, houtcomes, List.getElem?_concat_length, Option.bind_some]
    · rw [OrderedMap.get?_put_of_ne hname] at hrec
      cases hresult : before.resultOf fetch with
      | some result => exact .inr (.inr ⟨hrec, Option.some_ne_none result⟩)
      | none =>
        refine .inl ?_
        rw [resultOf_eq] at hresult ⊢
        rw [houtcomes]
        rcases Nat.lt_trichotomy fetch before.outcomes.length with hlt | rfl | hgt
        · rwa [List.getElem?_append_left hlt]
        · rw [List.getElem?_concat_length, Option.bind_some]
        · rw [List.getElem?_eq_none (by simp at hgt ⊢; omega), Option.bind_none]
  | @finish before after name other kind result signals hopen hrecord hentries houtcomes hrecords
      hsignal =>
    rw [hrecords] at hrec
    by_cases hother : other = fetch
    · subst hother
      exact .inr (.inl hsignal)
    · rw [resultOf_eq, houtcomes, List.getElem?_set_ne hother, ← resultOf_eq]
      exact (Classical.em _).imp_right fun hended => .inr ⟨hrec, hended⟩
  | trans hfirst hnext ih ih' =>
    rcases ih' hrec with hopen | hin | ⟨hrec, hended⟩
    · exact .inl hopen
    · exact .inr (.inl (List.mem_append_right _ hin))
    · rcases ih hrec with hopen | hin | hold
      · exact absurd hopen hended
      · exact .inr (.inl (List.mem_append_left _ hin))
      · exact .inr (.inr hold)

/-- Whatever the cache does, the records that are to go are listed in the line. -/
theorem Listed.proceeds {line : List CacheSignal} (hlisted : before.Listed line)
    (h : Proceeds before after signals) : after.Listed (line ++ signals) := by
  intro repo fetch forced hrec
  rcases h.record_cases hrec with hopen | hin | ⟨hold, hended⟩
  · exact .inl hopen
  · exact .inr (List.mem_append_right _ hin)
  · exact .inr (List.mem_append_left _ ((hlisted hold).resolve_left hended))

/-- After its removal the record is gone. -/
theorem Sound.unrecorded_perform_forget {cache : BranchCache} {line : List CacheSignal}
    (h : Sound cache line) {repo : String} {fetch : FetchId} {forced : Bool} :
    OrderedMap.get? repo (cache.perform (.forget fetch)).1.inFlight ≠ some (fetch, forced) := by
  intro hrec
  simp only [BranchCache.perform] at hrec
  split at hrec
  · next state hf =>
    have hold := record_of_forget hrec
    obtain ⟨found, hfound, rfl, -⟩ := h.known hold
    obtain rfl := Option.some.inj (hf.symm.trans hfound)
    rw [forget_recorded hold] at hrec
    cases hrec
  · next hf =>
    obtain ⟨found, hfound, -⟩ := h.known hrec
    rw [hf] at hfound
    cases hfound

end Listed

/-! ## Loads that find nothing -/

section Load

variable {cache : BranchCache} {repo : String} {forced : Bool} (caller : CallerId)

/-- A load that must ask the server and finds no fetch under way starts one. -/
theorem load_of_unrecorded (hentry : forced = true ∨ cache.get? repo = none)
    (hnone : OrderedMap.get? repo cache.inFlight = none) :
    cache.load repo forced caller = cache.startFetch repo forced caller := by
  have hfound : (if forced = true then none else cache.get? repo) = none := by
    rcases hentry with rfl | hnone
    · rfl
    · rw [hnone, ite_self]
  rw [load, hfound]
  simp only [join, hnone]

end Load

end BranchCache

namespace CacheRun

open BranchCache

theorem Sound.listed_step {run : CacheRun} (h : run.Sound) (hlisted : run.cache.Listed run.line)
    (event : CacheEvent) : (run.step event).cache.Listed (run.step event).line := by
  obtain ⟨signals, hproceeds, hline | ⟨place, signal, hs, hline, hforget⟩⟩ := h.proceeds_step event
  · rw [hline]
    exact hlisted.proceeds hproceeds
  · rw [hline]
    intro repo fetch forced hrec
    rcases hproceeds.record_cases hrec with hopen | hin | ⟨hold, hended⟩
    · exact .inl hopen
    · exact .inr (List.mem_append_right _ hin)
    · have hin := (hlisted hold).resolve_left hended
      -- the signal whose turn it was is not the removal of a record that still stands
      rcases List.mem_cons.mp ((perm_eraseIdx hs).mem_iff.mpr hin) with heq | hrest
      · rw [hforget fetch heq.symm] at hrec
        exact absurd hrec h.cache.unrecorded_perform_forget
      · exact .inr (List.mem_append_left _ hrest)

theorem Sound.listed_after {run : CacheRun} (h : run.Sound) (hlisted : run.cache.Listed run.line)
    (events : List CacheEvent) : (run.after events).cache.Listed (run.after events).line := by
  induction events generalizing run with
  | nil => exact hlisted
  | cons event events ih => exact ih (h.step event) (h.listed_step hlisted event)

/-- A signal that a fetch has left in line when it ended: the removal of its record, the telling of a
caller, or the turn of a caller that was told. -/
def isNews (run : CacheRun) : CacheSignal → Bool
  | .forget _ | .deliver _ _ => true
  | .caller caller =>
    match run.callers[caller]? with
    | some (.waits _ false) => true
    | _ => false
  | .start _ | .turn _ _ => false

/-- All that fetches have left in line when they ended has had its turn. -/
def Quiet (run : CacheRun) : Prop := ∀ signal ∈ run.line, run.isNews signal = false

instance (run : CacheRun) : Decidable run.Quiet :=
  inferInstanceAs (Decidable (∀ signal ∈ run.line, run.isNews signal = false))

section Quiet

variable {run : CacheRun}

/-- In a quiet run the record of a repository is that of a fetch that has not ended. -/
theorem Quiet.open_of_record (hquiet : run.Quiet) (hlisted : run.cache.Listed run.line)
    {repo : String} {fetch : FetchId} {forced : Bool}
    (hrec : OrderedMap.get? repo run.cache.inFlight = some (fetch, forced)) :
    run.cache.resultOf fetch = none := by
  refine (hlisted hrec).resolve_right fun hin => ?_
  cases hquiet _ hin

/-- When the line is quiet only open fetches are recorded. -/
theorem Quiet.isLoading_iff (hquiet : run.Quiet) (h : run.Sound)
    (hlisted : run.cache.Listed run.line) (repo : String) :
    run.cache.isLoading repo = true ↔
      ∃ state ∈ run.cache.fetches, state.repo = repo ∧ state.result = none := by
  rw [isLoading, OrderedMap.has, Option.isSome_iff_exists]
  constructor
  · rintro ⟨⟨fetch, forced⟩, hrec⟩
    obtain ⟨state, hf, hrepo, -⟩ := h.cache.known hrec
    have hopen := hquiet.open_of_record hlisted hrec
    rw [resultOf, hf, Option.bind_some] at hopen
    exact ⟨state, List.mem_of_getElem? hf, hrepo, hopen⟩
  · rintro ⟨state, hmem, rfl, hopen⟩
    obtain ⟨fetch, hf⟩ := List.getElem?_of_mem hmem
    exact ⟨_, h.cache.recorded hf hopen⟩

/-- In a quiet run everybody who waits does so for a fetch that has not ended. -/
theorem Quiet.open_of_waits (hquiet : run.Quiet) (h : run.Sound) (ha : run.Attentive)
    {caller : CallerId} {waiting : Waiting}
    (hw : run.callers[caller]? = some (.waits waiting false)) :
    ∃ state, run.cache.fetches[waiting.fetch]? = some state ∧ state.repo = waiting.repo ∧
      state.result = none ∧ caller ∈ state.waiting := by
  obtain ⟨state, hf, hrepo, -⟩ := h.waits hw
  have hattends := ha caller
  rw [hw] at hattends
  rcases hattends with ⟨hstands, hopen | hin⟩ | ⟨hstands, -⟩
  · rw [resultOf, hf, Option.bind_some] at hopen
    have hmem := hstands.mem_waitingFor.mpr rfl
    rw [waitingFor, hf] at hmem
    exact ⟨state, hf, hrepo, hopen, hmem⟩
  · cases hquiet _ hin
  · -- a caller that was told has its turn in line, which is news
    have hin : .caller caller ∈ run.line := by
      rw [← List.count_pos_iff, hstands.turns]
      exact Nat.one_pos
    have hnews := hquiet _ hin
    simp only [isNews, hw] at hnews
    cases hnews

end Quiet

/-- At every quiet moment of every run, a repository is being loaded just when it has a fetch that
has not ended; everybody who waits does so for such a fetch, which will tell of its end; and where no
fetch is under way nobody waits, and a load that is forced or finds no entry starts a fetch. -/
theorem loading_of_quiet (limit : Seconds) (ready : List (String × Reply))
    (events : List CacheEvent) :
    let run := (start (.fresh limit ready)).after events
    run.Quiet →
    (∀ repo, run.cache.isLoading repo = true ↔
      ∃ state ∈ run.cache.fetches, state.repo = repo ∧ state.result = none) ∧
    (∀ (caller : CallerId) (waiting : Waiting),
      run.callers[caller]? = some (.waits waiting false) →
      ∃ state, run.cache.fetches[waiting.fetch]? = some state ∧ state.repo = waiting.repo ∧
        state.result = none ∧ caller ∈ state.waiting) ∧
    (∀ (caller : CallerId) (waiting : Waiting),
      run.callers[caller]? = some (.waits waiting true) → .caller caller ∈ run.line) ∧
    (∀ repo, (∀ state ∈ run.cache.fetches, state.repo = repo → state.result ≠ none) →
      (∀ (caller : CallerId) (waiting : Waiting),
        run.callers[caller]? = some (.waits waiting false) → waiting.repo ≠ repo) ∧
      ∀ forced, forced = true ∨ run.cache.get? repo = none →
        let next := (run.load repo forced).turn run.line.length
        ∃ state, next.cache.fetches = run.cache.fetches ++ [state] ∧ state.repo = repo ∧
          state.forced = forced ∧ state.result = none ∧
          .start run.cache.fetches.length ∈ next.line ∧
          next.callers[run.callers.length]? =
            some (.waits ⟨repo, forced, run.cache.fetches.length, true⟩ false)) := by
  intro run hquiet
  have h : run.Sound := sound_after limit ready events
  have ha : run.Attentive := attentive_after limit ready events
  have hlisted : run.cache.Listed run.line := (sound_start limit ready).listed_after nofun events
  refine ⟨hquiet.isLoading_iff h hlisted, fun caller waiting => hquiet.open_of_waits h ha,
    fun caller waiting hw => ?_, fun repo hended => ⟨fun caller waiting hw => ?_, ?_⟩⟩
  · have hattends := ha caller
    rw [hw] at hattends
    rw [← List.count_pos_iff, Stands.turns hattends]
    exact Nat.one_pos
  · rintro rfl
    obtain ⟨state, hf, hrepo, hopen, -⟩ := hquiet.open_of_waits h ha hw
    exact hended state (List.mem_of_getElem? hf) hrepo hopen
  · intro forced hentry next
    have hnone : OrderedMap.get? repo run.cache.inFlight = none := by
      rw [← Option.not_isSome_iff_eq_none]
      intro hloading
      obtain ⟨state, hmem, hrepo, hopen⟩ := (hquiet.isLoading_iff h hlisted repo).mp hloading
      exact hended state hmem hrepo hopen
    have hnext : next = { run.load repo forced with line := run.line }.settleTurn
        run.callers.length (run.cache.startFetch repo forced run.callers.length) := by
      have hcaller : (run.callers ++ [.begins repo forced])[run.callers.length]? =
          some (.begins repo forced) := List.getElem?_concat_length ..
      have hline : (run.line ++ [CacheSignal.caller run.callers.length]).eraseIdx run.line.length =
          run.line := by
        rw [List.eraseIdx_append_of_length_le (Nat.le_refl _), Nat.sub_self,
          List.eraseIdx_cons_zero, List.append_nil]
      rw [← load_of_unrecorded _ hentry hnone]
      simp [next, CacheRun.turn, CacheRun.load, CacheRun.perform, CacheRun.callerTurn, hline]
    obtain ⟨state, hfetches, hrepo, hforced, hopen, -⟩ :=
      startFetch_state run.cache repo forced run.callers.length
    rw [hnext]
    refine ⟨state, hfetches, hrepo, hforced, hopen, ?_, ?_⟩
    · rw [settleTurn_line]
      exact List.mem_append_right _ List.mem_cons_self
    · rw [settleTurn_callers]
      exact List.getElem?_set_self (by simp [CacheRun.load])

/-- A plain fetch fails for which one caller waits; another has been cancelled. -/
def failedFetch : List CacheEvent :=
  [.load "polkadot" false, .turn 0, .load "polkadot" false, .turn 0, .turn 0, .turn 0, .cancel 1,
    .answer 0 (.unavailable ⟨"polkadot", "down"⟩), .turn 0, .turn 0, .turn 0, .turn 0, .turn 0,
    .turn 0, .turn 0]

theorem loading_of_quiet_failedFetch :
    (halfMinute.after failedFetch).Quiet ∧
      (halfMinute.after failedFetch).cache.isLoading "polkadot" = false ∧
      ∃ state, (((halfMinute.after failedFetch).load "polkadot" false).turn 0).cache.fetches =
        (halfMinute.after failedFetch).cache.fetches ++ [state] ∧ state.result = none := by
  have hmain := loading_of_quiet (.whole 30) [] failedFetch
  rw [show start (.fresh (.whole 30) []) = halfMinute from rfl] at hmain
  have hquiet : (halfMinute.after failedFetch).Quiet := by decide +kernel
  have hall : (halfMinute.after failedFetch).cache.fetches.all (·.result.isSome) = true := by
    decide +kernel
  have hentry : (halfMinute.after failedFetch).cache.get? "polkadot" = none :=
    Option.isNone_iff_eq_none.mp (by decide +kernel)
  have hline : (halfMinute.after failedFetch).line.length = 0 := by decide +kernel
  generalize halfMinute.after failedFetch = run at hmain hquiet hall hentry hline ⊢
  obtain ⟨hloading, -, -, hnext⟩ := hmain hquiet
  have hended : ∀ state ∈ run.cache.fetches, state.repo = "polkadot" → state.result ≠ none :=
    fun state hmem _ => Option.isSome_iff_ne_none.mp (List.all_eq_true.mp hall state hmem)
  obtain ⟨state, hfetches, -, -, hopen, -⟩ := (hnext "polkadot" hended).2 false (.inr hentry)
  rw [hline] at hfetches
  refine ⟨hquiet, ?_, state, hfetches, hopen⟩
  rw [← Bool.not_eq_true, hloading]
  rintro ⟨other, hmem, hrepo, hopen'⟩
  exact hended other hmem hrepo hopen'

end CacheRun

end BranchCompare
