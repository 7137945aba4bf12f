import BranchCompare.Proofs.BranchCache.Operations

/-!
# What a forced load comes to

A forced load of a repository does not settle for what is there when it starts: it waits for a
forced fetch that was recorded for the repository at its start or came later (`Refreshes`), and ends
as that fetch does (`Refreshed`).  A load that starts is such a load (`Sound.refreshes_join`), and
stays one at each of its turns (`Sound.refreshes_resume`).
-/

namespace BranchCompare.BranchCache

variable {start cache after : BranchCache} {line : List CacheSignal} {repo : String}
  {fetch : FetchId} {result : LoadEnd}

/-- The fetch was recorded for the repository at the start, as a forced one, or it came later. -/
def Recent (start : BranchCache) (repo : String) (fetch : FetchId) : Prop :=
  OrderedMap.get? repo start.inFlight = some (fetch, true) ∨ start.fetches.length ≤ fetch

/-- A forced fetch of the repository has ended so, which had not been told of at the start. -/
def Refreshed (start now : BranchCache) (repo : String) (result : LoadEnd) : Prop :=
  ∃ fetch state, start.Recent repo fetch ∧ now.fetches[fetch]? = some state ∧
    state.repo = repo ∧ state.forced = true ∧ state.result = some result

/-- What a forced load of the repository may come to since the start: it waits for such a fetch, or
for another one to make room, or such a fetch has ended so. -/
def Refreshes (start now : BranchCache) (repo : String) : LoadTurn → Prop
  | .waits waiting => waiting.repo = repo ∧ waiting.forced = true ∧ now.Fits waiting ∧
      (waiting.settles = true → start.Recent repo waiting.fetch)
  | .ended result => leavesRoom result = true → start.Refreshed now repo result

theorem Refreshed.later (h : start.Refreshed cache repo result) (hl : cache.Later after) :
    start.Refreshed after repo result := by
  obtain ⟨fetch, state, hrecent, hf, hrepo, hforced, hresult⟩ := h
  obtain ⟨later, hf', hsame⟩ := hl.fetch hf
  exact ⟨fetch, later, hrecent, hf', hsame.repo.trans hrepo, hsame.forced.trans hforced,
    hsame.result hresult⟩

theorem Refreshes.later {turn : LoadTurn} (h : start.Refreshes cache repo turn)
    (hl : cache.Later after) : start.Refreshes after repo turn := by
  cases turn with
  | waits waiting =>
    obtain ⟨hrepo, hforced, hfits, hrecent⟩ := h
    exact ⟨hrepo, hforced, hfits.later hl, hrecent⟩
  | ended result => exact fun hroom => (h hroom).later hl

/-- A forced load joins a forced fetch that is recent, or waits for room. -/
theorem Sound.refreshes_join (h : Sound cache line) (hl : start.Later cache) (repo : String)
    (caller : CallerId) :
    start.Refreshes (cache.join repo true caller).1 repo (cache.join repo true caller).2.1 := by
  have hallows := (h.join repo true caller).2.2
  rcases join_cases cache repo true caller with
    ⟨fetch, fetchForced, hrec, -, heq⟩ | ⟨fetch, fetchForced, result, hrec, hended, hsettles, heq⟩ |
    ⟨cleared, -, heq, hcleared⟩ <;> rw [heq] at hallows ⊢
  · obtain ⟨hrepo, hforced, hfits⟩ := hallows
    refine ⟨hrepo, hforced, hfits, fun hsettles => hl.record ?_⟩
    obtain rfl : fetchForced = true := by simpa using hsettles
    exact hrec
  · intro hroom
    obtain rfl : fetchForced = true := by simpa [hroom] using hsettles
    obtain ⟨state, hf, hrepo, hforced⟩ := h.known hrec
    rw [resultOf, hf, Option.bind_some] at hended
    exact ⟨fetch, state, hl.record hrec, hf, hrepo, hforced, hended⟩
  · obtain ⟨hrepo, hforced, hfits⟩ := hallows
    refine ⟨hrepo, hforced, hfits, fun _ => .inr ?_⟩
    have hlength : cleared.fetches.length = cache.fetches.length := by
      rcases hcleared with rfl | ⟨-, fetch, result, -, -, rfl⟩
      · rfl
      · rw [forget_fetches]
    show start.fetches.length ≤ cleared.fetches.length
    exact hlength ▸ hl.length_le

/-- A load that was waiting for room does the same. -/
theorem Sound.refreshes_resume (h : Sound cache line) (hl : start.Later cache) {waiting : Waiting}
    (hw : start.Refreshes cache repo (.waits waiting)) (caller : CallerId) :
    start.Refreshes (cache.resume waiting caller).1 repo (cache.resume waiting caller).2.1 := by
  obtain ⟨rfl, hforced, ⟨state, hf, hrepo, hsettles⟩, hrecent⟩ := hw
  rcases resume_cases cache caller waiting with
    ⟨-, heq⟩ | ⟨result, hended, hend, heq⟩ | ⟨result, hended, -, heq⟩ <;> rw [heq]
  · exact ⟨rfl, hforced, ⟨state, hf, hrepo, hsettles⟩, hrecent⟩
  · intro hroom
    have hsettled : waiting.settles = true := by simpa [hroom] using hend
    rw [resultOf, hf, Option.bind_some] at hended
    refine ⟨waiting.fetch, state, hrecent hsettled, hf, hrepo, ?_, hended⟩
    rw [hsettled, hforced] at hsettles
    simpa using hsettles.symm
  · have hforget : Sound (cache.forget waiting.repo waiting.fetch) line :=
      h.forget (Option.isSome_iff_exists.mpr ⟨result, hended⟩) _
    rw [hforced]
    exact hforget.refreshes_join (hl.trans (later_forget ..)) waiting.repo caller

end BranchCompare.BranchCache
