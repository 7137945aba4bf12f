import BranchCompare.Proofs.BranchCache.Entries
import BranchCompare.Proofs.BranchCache.Wakeups

/-!
# First come, first served

When the line is worked off from its front, a caller learns of the end of its fetch before any later
fetch of the repository can end (`InOrder`).  So the list that a load ends with is the entry of its
repository at this moment (`Serves.fresh`), and not one that a later fetch has replaced already.

`FirstCome` gathers what holds of a cache, its callers and its line at all times then.  It is kept
when a caller comes, when the signal in front is no turn of a caller, when it is one, and when
something comes from outside.
-/

namespace BranchCompare

/-- Where a caller stands after a turn of its load, whatever the load has come to. -/
def LoadTurn.standing : LoadTurn → CallerState
  | .ended _ => .cancelled
  | .waits waiting => .waits waiting false

namespace BranchCache

/-! ## Places in line -/

/-- One signal stands in line somewhere before another. -/
def Precedes (line : List CacheSignal) (first second : CacheSignal) : Prop :=
  [first, second].Sublist line

section Precedes

variable {line more : List CacheSignal} {first second signal : CacheSignal}

theorem Precedes.append (h : Precedes line first second) (more : List CacheSignal) :
    Precedes (line ++ more) first second := h.trans (List.sublist_append_left ..)

/-- What was in line comes before what is put in line. -/
theorem precedes_append (hfirst : first ∈ line) (hsecond : second ∈ more) :
    Precedes (line ++ more) first second :=
  (List.singleton_sublist.mpr hfirst).append (List.singleton_sublist.mpr hsecond)

theorem Precedes.tail (h : Precedes (signal :: line) first second) (hne : signal ≠ first) :
    Precedes line first second := by
  cases h with
  | cons _ h => exact h
  | cons_cons _ h => exact absurd rfl hne

/-- What stands behind another signal does not stand in front. -/
theorem Precedes.mem_tail (h : Precedes (signal :: line) first second) : second ∈ line := by
  cases h with
  | cons _ h => exact h.subset (by simp)
  | cons_cons _ h => exact h.subset (by simp)

end Precedes

/-- A later fetch has its first turn behind the turn by which the caller goes on. -/
def Behind (cache : BranchCache) (line : List CacheSignal) (caller : CallerId)
    (fetch later : FetchId) : Prop :=
  if caller ∈ cache.waitingFor fetch then
    Precedes line (.deliver fetch caller) (.start later)
  else .start later ∈ line ∨ Precedes line (.caller caller) (.turn later .make)

/-- As long as a caller has not gone on after the end of its fetch, all later fetches of the
repository have their first turn behind that of the caller. -/
def InOrder (cache : BranchCache) (line : List CacheSignal) (caller : CallerId) :
    Option CallerState → Prop
  | some (.waits waiting false) => ∀ (later : Nat) (result : Option LoadEnd),
      waiting.fetch < later → cache.outcomes[later]? = some (waiting.repo, result) →
      (cache.resultOf waiting.fetch).isSome = true →
      cache.Behind line caller waiting.fetch later
  | _ => True

/-- The cache goes on: a fetch that is new has its start put in line, and a fetch that ends is the
newest of its repository. -/
structure Continues (before after : BranchCache) (signals : List CacheSignal) : Prop where
  known : ∀ {fetch : Nat} {repo : String} {result : Option LoadEnd},
    after.outcomes[fetch]? = some (repo, result) →
    (∃ old, before.outcomes[fetch]? = some (repo, old)) ∨ .start fetch ∈ signals
  newest : ∀ {fetch later : Nat} {repo : String} {result : LoadEnd} {other : Option LoadEnd},
    after.outcomes[fetch]? = some (repo, some result) → fetch < later →
    after.outcomes[later]? = some (repo, other) → (before.resultOf fetch).isSome = true

section Continues

variable {before after : BranchCache} {line signals : List CacheSignal}

theorem isSome_resultOf_iff {cache : BranchCache} {fetch : FetchId} {repo : String}
    {result : Option LoadEnd} (h : cache.outcomes[fetch]? = some (repo, result)) :
    (cache.resultOf fetch).isSome = result.isSome := by
  rw [resultOf_eq, h, Option.bind_some]

/-- A fetch keeps its repository. -/
theorem Later.outcome (h : Later before after) {fetch : FetchId} {repo : String}
    {result : Option LoadEnd} (houtcome : before.outcomes[fetch]? = some (repo, result)) :
    ∃ ended, after.outcomes[fetch]? = some (repo, ended) := by
  obtain ⟨state, hf, rfl, rfl⟩ := fetch_of_outcome houtcome
  obtain ⟨later, hl, hsame⟩ := h.fetch hf
  exact ⟨later.result, by rw [outcome_of_fetch hl, hsame.repo]⟩

/-- Without a new fetch every fetch was known before. -/
theorem Later.known (h : Later before after)
    (hlength : after.fetches.length = before.fetches.length) {fetch : Nat} {repo : String}
    {result : Option LoadEnd} (houtcome : after.outcomes[fetch]? = some (repo, result)) :
    ∃ old, before.outcomes[fetch]? = some (repo, old) := by
  have hlt := (List.getElem?_eq_some_iff.mp houtcome).1
  rw [length_outcomes, hlength, ← length_outcomes] at hlt
  have hold : before.outcomes[fetch]? = some (before.outcomes[fetch].1, before.outcomes[fetch].2) :=
    List.getElem?_eq_getElem hlt
  obtain ⟨ended, hsame⟩ := h.outcome hold
  obtain ⟨hrepo, -⟩ := Prod.mk.inj (Option.some.inj (houtcome.symm.trans hsame))
  exact ⟨_, by rw [hold, hrepo]⟩

/-- A cache in which no fetch was started continues. -/
theorem Sound.continues (h : Sound before line) (hkept : before.Kept) (hlater : Later before after)
    (hlength : after.fetches.length = before.fetches.length) : Continues before after signals := by
  refine ⟨fun houtcome => .inl (hlater.known hlength houtcome),
    fun {fetch later repo result other} hended hlt hother => ?_⟩
  obtain ⟨old, hold⟩ := hlater.known hlength hended
  obtain ⟨last, hlast⟩ := hlater.known hlength hother
  rw [isSome_resultOf_iff hold]
  by_contra hopen
  rw [Bool.not_eq_true, Option.isSome_eq_false_iff, Option.isNone_iff_eq_none] at hopen
  subst hopen
  obtain ⟨state, hf, rfl, hnone⟩ := fetch_of_outcome hold
  have := hkept.newest (h.recorded hf hnone) hlast
  omega

end Continues

/-! ## What keeps the order -/

section InOrder

variable {cache after : BranchCache} {line more signals : List CacheSignal} {caller : CallerId}
  {state : Option CallerState} {fetch later : FetchId}

theorem Behind.append (h : cache.Behind line caller fetch later) (more : List CacheSignal) :
    cache.Behind (line ++ more) caller fetch later := by
  unfold Behind at h ⊢
  split at h
  · next hw =>
    rw [if_pos hw]
    exact h.append more
  · next hw =>
    rw [if_neg hw]
    exact h.imp (List.mem_append_left more) (·.append more)

theorem Behind.tail {signal : CacheSignal} (h : cache.Behind (signal :: line) caller fetch later)
    (hturn : signal ≠ .caller caller)
    (hdeliver : signal = .deliver fetch caller → caller ∉ cache.waitingFor fetch)
    (hstart : signal ≠ .start later) : cache.Behind line caller fetch later := by
  unfold Behind at h ⊢
  split at h
  · next hw =>
    rw [if_pos hw]
    exact h.tail fun heq => hdeliver heq hw
  · next hw =>
    rw [if_neg hw]
    refine h.imp (fun hin => ?_) (·.tail hturn)
    exact (List.mem_cons.mp hin).resolve_left (Ne.symm hstart)

theorem InOrder.append (h : cache.InOrder line caller state) (more : List CacheSignal) :
    cache.InOrder (line ++ more) caller state := by
  unfold InOrder at h ⊢
  split
  · exact fun later result hlt houtcome hended => (h later result hlt houtcome hended).append more
  · trivial

/-- There is no order yet to keep while the fetch that is waited for is open. -/
theorem inOrder_of_open (hopen : ∀ waiting, state = some (.waits waiting false) →
    cache.resultOf waiting.fetch = none) : cache.InOrder line caller state := by
  unfold InOrder
  split
  · next waiting =>
    intro later result hlt houtcome hended
    rw [hopen waiting rfl] at hended
    cases hended
  · trivial

/-- A caller that has been told of the end of its fetch has its turn in line. -/
theorem Attends.mem_of_told {waiting : Waiting}
    (h : cache.Attends line caller (some (.waits waiting false)))
    (hw : caller ∉ cache.waitingFor waiting.fetch) : .caller caller ∈ line := by
  rcases h with ⟨hstands, -⟩ | ⟨hstands, -⟩
  · exact absurd (hstands.mem_waitingFor.mpr rfl) hw
  · rw [← List.count_pos_iff, hstands.turns]
    exact Nat.one_pos

/-- A caller that is still to be told of the end of its fetch will be. -/
theorem Attends.mem_of_waiting {waiting : Waiting}
    (h : cache.Attends line caller (some (.waits waiting false)))
    (hw : caller ∈ cache.waitingFor waiting.fetch)
    (hended : (cache.resultOf waiting.fetch).isSome = true) :
    .deliver waiting.fetch caller ∈ line := by
  rcases h with ⟨-, hopen | hin⟩ | ⟨hstands, -⟩
  · rw [hopen] at hended
    cases hended
  · exact hin
  · exact absurd (hstands.mem_waitingFor.mp hw) (by simp)

/-- Something is done for others than the caller. -/
theorem InOrder.spares (h : cache.InOrder line caller state)
    (ha : cache.Attends line caller state) (hs : cache.Spares after signals caller)
    (hl : Later cache after) (hc : Continues cache after signals)
    (hrepo : ∀ waiting, state = some (.waits waiting false) → cache.Fits waiting) :
    after.InOrder (line ++ signals) caller state := by
  unfold InOrder at h ⊢
  split
  · next waiting =>
    intro later result hlt houtcome hended
    -- the fetch of the caller had ended before, for it is not the newest
    obtain ⟨found, hf, hname, -⟩ := (hrepo waiting rfl).later hl
    have hfound := outcome_of_fetch hf
    rw [isSome_resultOf_iff hfound] at hended
    obtain ⟨ended, hresult⟩ := Option.isSome_iff_exists.mp hended
    rw [hname, hresult] at hfound
    have hold := hc.newest hfound hlt houtcome
    have hwaits : caller ∈ after.waitingFor waiting.fetch ↔
        caller ∈ cache.waitingFor waiting.fetch := by
      rw [← List.count_pos_iff, ← List.count_pos_iff, hs.waits]
    rcases hc.known houtcome with ⟨before, hbefore⟩ | hin
    · have hbehind := (h later before hlt hbefore hold).append signals
      unfold Behind at hbehind ⊢
      simp only [hwaits]
      exact hbehind
    · unfold Behind
      simp only [hwaits]
      split
      · next hw => exact precedes_append (ha.mem_of_waiting hw hold) hin
      · exact .inl (List.mem_append_right _ hin)
  · trivial

/-- A fetch begins. -/
theorem InOrder.start {started : FetchId}
    (h : cache.InOrder (.start started :: line) caller state)
    (ha : cache.Attends (.start started :: line) caller state) :
    cache.InOrder (line ++ [.turn started .make]) caller state := by
  unfold InOrder at h ⊢
  split
  · next waiting =>
    intro later result hlt houtcome hended
    have hbehind := h later result hlt houtcome hended
    by_cases heq : started = later
    · subst heq
      unfold Behind at hbehind ⊢
      split at hbehind
      · next hw =>
        rw [if_pos hw]
        exact (hbehind.tail (by simp)).append _
      · next hw =>
        rw [if_neg hw]
        have hturn := (List.mem_cons.mp (ha.mem_of_told hw)).resolve_left (by simp)
        exact .inr (precedes_append hturn List.mem_cons_self)
    · exact (hbehind.tail (by simp) (by simp) (by simpa using heq)).append _
  · trivial

/-- The caller is told of the end of its fetch. -/
theorem InOrder.deliver {ended : FetchId}
    (h : cache.InOrder (.deliver ended caller :: line) caller state)
    (ha : cache.Attends (.deliver ended caller :: line) caller state)
    (hw : caller ∈ cache.waitingFor ended) (houtcomes : after.outcomes = cache.outcomes)
    (ha' : after.Attends (line ++ signals) caller state) (hin : .caller caller ∈ signals) :
    after.InOrder (line ++ signals) caller state := by
  unfold InOrder at h ⊢
  split
  · next waiting =>
    intro later result hlt houtcome hsome
    rw [houtcomes] at houtcome
    rw [resultOf_eq, houtcomes, ← resultOf_eq] at hsome
    have hbehind := h later result hlt houtcome hsome
    -- once it is told, nothing but its own turn is left for it
    have htold : caller ∉ after.waitingFor waiting.fetch := by
      rcases ha' with ⟨hstands, -⟩ | ⟨hstands, -⟩
      · have hcount := List.count_pos_iff.mpr (List.mem_append_right line hin)
        rw [hstands.turns] at hcount
        cases hcount
      · exact fun hmem => absurd (hstands.mem_waitingFor.mp hmem) (by simp)
    have hfetch : waiting.fetch = ended := by
      rcases ha with ⟨hstands, -⟩ | ⟨hstands, -⟩
      · exact Option.some.inj (hstands.mem_waitingFor.mp hw)
      · exact absurd (hstands.mem_waitingFor.mp hw) (by simp)
    unfold Behind at hbehind ⊢
    rw [hfetch, if_pos hw] at hbehind
    rw [if_neg htold]
    exact .inl (List.mem_append_left _ hbehind.mem_tail)
  · trivial

theorem InOrder.tail {signal : CacheSignal} (h : cache.InOrder (signal :: line) caller state)
    (hturn : signal ≠ .caller caller)
    (hdeliver : ∀ fetch, signal = .deliver fetch caller → caller ∉ cache.waitingFor fetch)
    (hstart : ∀ fetch, signal ≠ .start fetch) : cache.InOrder line caller state := by
  unfold InOrder at h ⊢
  split
  · exact fun later result hlt houtcome hended =>
      (h later result hlt houtcome hended).tail hturn (hdeliver _) (hstart _)
  · trivial

end InOrder

/-! ## What loads come to -/

/-- What a load comes to, or a later turn of it.  If it ends with a list, this list is the entry. -/
structure Serves (cache : BranchCache) (repo : String) (forced : Bool)
    (outcome : BranchCache × LoadTurn × List CacheSignal) : Prop where
  entries : outcome.1.entries = cache.entries
  outcomes : ∀ {fetch : Nat} {name : String} {result : Option LoadEnd},
    outcome.1.outcomes[fetch]? = some (name, result) →
    cache.outcomes[fetch]? = some (name, result) ∨
    name = repo ∧ result = none ∧ outcome.2.1 = .waits ⟨repo, forced, fetch, true⟩ ∧
      .start fetch ∈ outcome.2.2
  waits : ∀ {waiting : Waiting}, outcome.2.1 = .waits waiting →
    outcome.1.resultOf waiting.fetch = none
  fresh : ∀ {branches : List Branch}, outcome.2.1 = .ended (.ok branches) →
    cache.get? repo = some branches

section Serves

variable {cache : BranchCache} {line : List CacheSignal} {repo : String} {forced : Bool}

theorem Serves.continues {outcome : BranchCache × LoadTurn × List CacheSignal}
    (h : cache.Serves repo forced outcome) : Continues cache outcome.1 outcome.2.2 := by
  refine ⟨fun houtcome => ?_, fun hended _ _ => ?_⟩
  · rcases h.outcomes houtcome with hold | ⟨-, -, -, hin⟩
    · exact .inl ⟨_, hold⟩
    · exact .inr hin
  · rcases h.outcomes hended with hold | ⟨-, hnone, -⟩
    · rw [isSome_resultOf_iff hold]
      rfl
    · cases hnone

/-- A fetch that is started serves the load. -/
theorem serves_startFetch (caller : CallerId) :
    cache.Serves repo forced (cache.startFetch repo forced caller) := by
  have houtcomes : (cache.startFetch repo forced caller).1.outcomes =
      cache.outcomes ++ [(repo, none)] := List.map_append ..
  refine ⟨rfl, fun {fetch name result} houtcome => ?_, fun {waiting} heq => ?_, nofun⟩
  · rw [houtcomes] at houtcome
    by_cases hlt : fetch < cache.outcomes.length
    · rw [List.getElem?_append_left hlt] at houtcome
      exact .inl houtcome
    · have hmem := (List.getElem?_eq_some_iff.mp houtcome).1
      rw [List.length_append, List.length_singleton] at hmem
      obtain rfl : fetch = cache.outcomes.length := by omega
      rw [List.getElem?_concat_length] at houtcome
      obtain ⟨rfl, rfl⟩ := Prod.mk.inj (Option.some.inj houtcome)
      refine .inr ⟨rfl, rfl, ?_⟩
      rw [length_outcomes]
      exact ⟨rfl, List.mem_cons_self⟩
  · obtain rfl := LoadTurn.waits.inj heq
    rw [resultOf_eq, houtcomes, ← length_outcomes, List.getElem?_concat_length, Option.bind_some]

/-- The list of a fetch that is still recorded is the entry. -/
theorem Kept.get?_of_record (h : cache.Kept) (hsound : Sound cache line) {fetch : FetchId}
    {kind : Bool} {branches : List Branch}
    (hrec : OrderedMap.get? repo cache.inFlight = some (fetch, kind))
    (hended : cache.resultOf fetch = some (.ok branches)) : cache.get? repo = some branches := by
  obtain ⟨state, hf, hrepo, -⟩ := hsound.known hrec
  rw [resultOf, hf, Option.bind_some] at hended
  rw [h.entry_some_iff]
  refine ⟨fetch, state, hf, hrepo, hended, fun later other list hlt hother hname _ => ?_⟩
  have houtcome := outcome_of_fetch hother
  rw [hname] at houtcome
  have := h.newest hrec houtcome
  omega

/-- To remove the record of a fetch changes nothing of what a load comes to. -/
theorem Serves.of_forget {fetch : FetchId}
    {outcome : BranchCache × LoadTurn × List CacheSignal}
    (h : (cache.forget repo fetch).Serves repo forced outcome) :
    cache.Serves repo forced outcome := by
  have houtcomes := outcomes_of_fetches (forget_fetches cache repo fetch)
  refine ⟨h.entries.trans (forget_entries ..), fun houtcome => ?_, h.waits, fun heq => ?_⟩
  · rw [← houtcomes]
    exact h.outcomes houtcome
  · have hget := h.fresh heq
    rwa [get?, forget_entries] at hget

theorem Kept.serves_join (h : cache.Kept) (hsound : Sound cache line) (caller : CallerId) :
    cache.Serves repo forced (cache.join repo forced caller) := by
  rcases join_cases cache repo forced caller with
    ⟨fetch, fetchForced, hrec, hopen, heq⟩ | ⟨fetch, fetchForced, result, hrec, hended, -, heq⟩ |
    ⟨cleared, hnone, heq, hcleared⟩
  · obtain ⟨state, hf, -⟩ := hsound.known hrec
    have houtcomes : (cache.modifyFetch fetch fun f =>
        { f with waiting := f.waiting ++ [caller] }).outcomes = cache.outcomes :=
      outcomes_modifyFetch_of_same hf rfl rfl
    rw [heq]
    refine ⟨rfl, fun houtcome => .inl ?_, fun {waiting} hturn => ?_, nofun⟩
    · rwa [houtcomes] at houtcome
    · obtain rfl := LoadTurn.waits.inj hturn
      rw [resultOf_eq, houtcomes, ← resultOf_eq]
      exact hopen
  · rw [heq]
    refine ⟨rfl, .inl, nofun, fun {branches} hturn => ?_⟩
    obtain rfl := LoadTurn.ended.inj hturn
    exact h.get?_of_record hsound hrec hended
  · rw [heq]
    rcases hcleared with rfl | ⟨-, fetch, result, -, -, rfl⟩
    · exact serves_startFetch caller
    · exact (serves_startFetch caller).of_forget

theorem Kept.serves_load (h : cache.Kept) (hsound : Sound cache line) (caller : CallerId) :
    cache.Serves repo forced (cache.load repo forced caller) := by
  rcases load_cases cache repo forced caller with ⟨branches, -, hget, heq⟩ | ⟨-, heq⟩
  · rw [heq]
    refine ⟨rfl, .inl, nofun, fun {list} hturn => ?_⟩
    obtain rfl := Except.ok.inj (LoadTurn.ended.inj hturn)
    exact hget
  · rw [heq]
    exact h.serves_join hsound caller

/-- A fetch whose first turn is in line has not ended. -/
theorem Sound.open_of_due (h : Sound cache line) {fetch : FetchId} {state : Fetch}
    (hf : cache.fetches[fetch]? = some state)
    (hdue : .start fetch ∈ line ∨ .turn fetch .make ∈ line) : state.result = none := by
  have hmake : .make ∈ line.filterMap (CacheSignal.callTurn? fetch) := by
    rcases hdue with hin | hin
    · exact List.mem_filterMap.mpr ⟨_, hin, by simp⟩
    · exact List.mem_filterMap.mpr ⟨_, hin, by simp⟩
  have hpaced := h.paced hf
  have hpos : 0 < due fetch line .make := List.count_pos_iff.mpr hmake
  rw [hpaced.made] at hpos
  by_contra hended
  rw [← ne_eq, ← Option.isSome_iff_ne_none] at hended
  have hover := hpaced.ended (by rw [← Option.not_isSome, hended]; rfl)
  cases hphase : state.call.phase <;> simp [hphase] at hpos hover

/-- The list of the fetch that a caller has waited for is the entry when the caller goes on. -/
theorem InOrder.fresh {caller : CallerId} {waiting : Waiting} {branches : List Branch}
    (h : cache.InOrder (.caller caller :: line) caller (some (.waits waiting false)))
    (ha : cache.Attends (.caller caller :: line) caller (some (.waits waiting false)))
    (hsound : Sound cache line) (hkept : cache.Kept) (hfits : cache.Fits waiting)
    (hended : cache.resultOf waiting.fetch = some (.ok branches)) :
    cache.get? waiting.repo = some branches := by
  obtain ⟨state, hf, hrepo, -⟩ := hfits
  have hresult := hended
  rw [resultOf, hf, Option.bind_some] at hresult
  rw [hkept.entry_some_iff]
  refine ⟨waiting.fetch, state, hf, hrepo, hresult, fun later other list hlt hother hname => ?_⟩
  have houtcome := outcome_of_fetch hother
  rw [hname] at houtcome
  have hbehind := h later _ hlt houtcome (by rw [hended]; rfl)
  have htold : caller ∉ cache.waitingFor waiting.fetch := fun hmem =>
    absurd (ha.turn.1.mem_waitingFor.mp hmem) (by simp)
  unfold Behind at hbehind
  rw [if_neg htold] at hbehind
  have hopen : other.result = none := by
    refine hsound.open_of_due hother (hbehind.imp (fun hin => ?_) fun hpre => ?_)
    · exact (List.mem_cons.mp hin).resolve_left (by simp)
    · exact hpre.mem_tail
  rw [hopen]
  exact (Option.some_ne_none _).symm

/-- A load that goes on is served by the newest fetch. -/
theorem Kept.serves_resume (h : cache.Kept) (hsound : Sound cache line) {caller : CallerId}
    {waiting : Waiting} (hfits : cache.Fits waiting)
    (ha : cache.Attends (.caller caller :: line) caller (some (.waits waiting false)))
    (horder : cache.InOrder (.caller caller :: line) caller (some (.waits waiting false))) :
    cache.Serves waiting.repo waiting.forced (cache.resume waiting caller) := by
  rcases resume_cases cache caller waiting with
    ⟨hopen, heq⟩ | ⟨result, hended, -, heq⟩ | ⟨result, hended, -, heq⟩
  · rw [heq]
    refine ⟨rfl, .inl, fun {other} hturn => ?_, nofun⟩
    obtain rfl := LoadTurn.waits.inj hturn
    exact hopen
  · rw [heq]
    refine ⟨rfl, .inl, nofun, fun {branches} hturn => ?_⟩
    obtain rfl := LoadTurn.ended.inj hturn
    exact horder.fresh ha hsound h hfits hended
  · have hsome : (cache.resultOf waiting.fetch).isSome = true := by
      rw [hended]
      rfl
    obtain ⟨state, hf, hrepo, -⟩ := hfits
    have hforget := proceeds_forget hf hsome
    rw [hrepo] at hforget
    rw [heq]
    exact ((hforget.kept h).serves_join (hsound.forget hsome _) caller).of_forget

end Serves

/-! ## The cache with its callers -/

/-- What holds of a cache, its callers and its line at all times when the line is worked off from its
front. -/
structure FirstCome (cache : BranchCache) (callers : List CallerState)
    (line : List CacheSignal) : Prop where
  sound : cache.Sound line
  fits : ∀ {caller : CallerId} {waiting : Waiting} {cancelled : Bool},
    callers[caller]? = some (.waits waiting cancelled) → cache.Fits waiting
  attends : ∀ caller, cache.Attends line caller callers[caller]?
  kept : cache.Kept
  inOrder : ∀ caller, cache.InOrder line caller callers[caller]?

/-- In a fresh cache nobody waits. -/
theorem firstCome_fresh (limit : Seconds) (ready : List (String × Reply)) :
    FirstCome (.fresh limit ready) [] [] := by
  refine ⟨sound_fresh limit ready, nofun, fun caller => ⟨rfl, fun fetch => ?_⟩,
    kept_fresh limit ready, fun caller => trivial⟩
  simp [fresh, waitingFor]

section FirstCome

variable {cache : BranchCache} {callers : List CallerState} {line : List CacheSignal}

/-- A caller comes. -/
theorem FirstCome.begin (h : FirstCome cache callers line) (repo : String) (forced : Bool) :
    FirstCome cache (callers ++ [.begins repo forced]) (line ++ [.caller callers.length]) := by
  have hget : ∀ {caller : Nat}, caller ≠ callers.length →
      (callers ++ [.begins repo forced])[caller]? = callers[caller]? := by
    intro caller hne
    rcases Nat.lt_or_gt_of_ne hne with hlt | hgt
    · rw [List.getElem?_append_left hlt]
    · rw [List.getElem?_eq_none (by simp; omega), List.getElem?_eq_none (by omega)]
  refine ⟨h.sound.append (by simp), fun {caller waiting cancelled} hw => ?_, fun caller => ?_,
    h.kept, fun caller => ?_⟩
  · by_cases heq : caller = callers.length
    · subst heq
      rw [List.getElem?_concat_length] at hw
      cases hw
    · rw [hget heq] at hw
      exact h.fits hw
  · have hin := h.attends caller
    by_cases heq : caller = callers.length
    · subst heq
      rw [List.getElem?_eq_none (Nat.le_refl _)] at hin
      rw [List.getElem?_concat_length]
      refine ⟨?_, hin.waits⟩
      rw [List.count_append, hin.turns]
      simp
    · rw [hget heq]
      exact hin.spares (spares_of_fetches rfl (by simpa using heq)) (.refl _)
  · by_cases heq : caller = callers.length
    · subst heq
      rw [List.getElem?_concat_length]
      trivial
    · rw [hget heq]
      exact (h.inOrder caller).append _

/-- Something comes from outside for a fetch. -/
theorem FirstCome.outside (h : FirstCome cache callers line)
    {outcome : BranchCache × List CacheSignal}
    (hsound : outcome.1.Sound (line ++ outcome.2) ∧ Later cache outcome.1)
    (hproceeds : Proceeds cache outcome.1 outcome.2)
    (hlength : outcome.1.fetches.length = cache.fetches.length)
    (hspares : ∀ caller, cache.Spares outcome.1 outcome.2 caller) :
    FirstCome outcome.1 callers (line ++ outcome.2) where
  sound := hsound.1
  fits hw := (h.fits hw).later hsound.2
  attends caller := (h.attends caller).spares (hspares caller) hsound.2
  kept := hproceeds.kept h.kept
  inOrder caller := (h.inOrder caller).spares (h.attends caller) (hspares caller) hsound.2
    (h.sound.continues h.kept hsound.2 hlength) fun _ hw => h.fits hw

theorem length_answer (cache : BranchCache) (fetch : FetchId) (result : CallEnd (List Branch)) :
    (cache.answer fetch result).1.fetches.length = cache.fetches.length := by
  unfold answer
  split
  · exact List.length_modify ..
  · rfl

theorem length_expire (cache : BranchCache) (fetch : FetchId) :
    (cache.expire fetch).1.fetches.length = cache.fetches.length := by
  unfold expire
  split
  · exact List.length_modify ..
  · rfl

theorem length_takeTurn (cache : BranchCache) (fetch : FetchId) (state : Fetch)
    (turn : CallTurn) :
    (cache.takeTurn fetch state turn).1.fetches.length = cache.fetches.length := by
  cases turn with
  | make | takeUp | notify => exact List.length_modify ..
  | wake =>
    rcases hw : state.call.wake with ⟨call, turns, ended⟩
    simp only [takeTurn, hw]
    cases ended with
    | none => exact List.length_modify ..
    | some ended => exact (List.length_modify ..).trans (List.length_modify ..)

/-- No signal starts a fetch. -/
theorem length_perform (cache : BranchCache) (signal : CacheSignal) :
    (cache.perform signal).1.fetches.length = cache.fetches.length := by
  cases signal with
  | start | caller => rfl
  | turn fetch turn =>
    simp only [perform]
    split
    · exact length_takeTurn ..
    · rfl
  | forget fetch =>
    simp only [perform]
    split
    · rw [forget_fetches]
    · rfl
  | deliver fetch caller =>
    simp only [perform]
    split
    · split
      · exact List.length_modify ..
      · rfl
    · rfl

theorem FirstCome.answer (h : FirstCome cache callers line) (fetch : FetchId)
    (result : CallEnd (List Branch)) :
    FirstCome (cache.answer fetch result).1 callers (line ++ (cache.answer fetch result).2) :=
  h.outside (h.sound.answer fetch result) (proceeds_answer ..) (length_answer ..)
    fun caller => spares_answer cache caller fetch result

theorem FirstCome.expire (h : FirstCome cache callers line) (fetch : FetchId) :
    FirstCome (cache.expire fetch).1 callers (line ++ (cache.expire fetch).2) :=
  h.outside (h.sound.expire fetch) (proceeds_expire ..) (length_expire ..)
    fun caller => spares_expire cache caller fetch

theorem FirstCome.server (h : FirstCome cache callers line) (server : Remote BranchCall) :
    FirstCome { cache with server := server } callers line where
  sound := h.sound.server server
  fits := h.fits
  attends caller := by
    have hspares : cache.Spares { cache with server := server } [] caller :=
      spares_of_fetches rfl List.not_mem_nil
    have hattends := (h.attends caller).spares hspares ⟨fun hf => ⟨_, hf, .refl _⟩, .inl⟩
    rwa [List.append_nil] at hattends
  kept := ⟨h.kept.entry, h.kept.newest⟩
  inOrder := h.inOrder

/-- What becomes of a caller that is told of the end of its fetch. -/
theorem perform_deliver {fetch : FetchId} {caller : CallerId}
    (hw : caller ∈ cache.waitingFor fetch) :
    (cache.perform (.deliver fetch caller)).1.outcomes = cache.outcomes ∧
      .caller caller ∈ (cache.perform (.deliver fetch caller)).2 := by
  cases hf : cache.fetches[fetch]? with
  | none => simp [waitingFor, hf] at hw
  | some found =>
    have hcontains : found.waiting.contains caller = true := by simpa [waitingFor, hf] using hw
    simp only [perform, hf, hcontains, if_true]
    exact ⟨outcomes_modifyFetch_of_same hf rfl rfl, List.mem_cons_self⟩

/-- The signal in front has its turn, which is no turn of a caller. -/
theorem FirstCome.perform {signal : CacheSignal} (h : FirstCome cache callers (signal :: line))
    (hsignal : ∀ caller, signal ≠ .caller caller) :
    FirstCome (cache.perform signal).1 callers (line ++ (cache.perform signal).2) := by
  obtain ⟨hsound, hlater⟩ := h.sound.perform
  have hown : ∀ {fetch caller}, signal = .deliver fetch caller →
      caller ∈ cache.waitingFor fetch →
      (cache.perform signal).1.Attends (line ++ (cache.perform signal).2) caller
        callers[caller]? := by
    rintro fetch caller rfl hw
    exact (h.attends caller).deliver hw (h.sound.announced List.mem_cons_self rfl)
  refine ⟨hsound, fun hw => (h.fits hw).later hlater, fun caller => ?_,
    h.sound.proceeds_perform.kept h.kept, fun caller => ?_⟩
  all_goals by_cases htold : ∃ fetch, signal = .deliver fetch caller ∧
    caller ∈ cache.waitingFor fetch
  · obtain ⟨fetch, heq, hw⟩ := htold
    exact hown heq hw
  · have hdeliver : ∀ fetch, signal = .deliver fetch caller →
        caller ∉ cache.waitingFor fetch := fun fetch heq hw => htold ⟨fetch, heq, hw⟩
    exact ((h.attends caller).tail (hsignal caller) hdeliver).spares
      (spares_perform cache caller hdeliver) hlater
  · obtain ⟨fetch, rfl, hw⟩ := htold
    obtain ⟨houtcomes, hin⟩ := perform_deliver hw
    exact (h.inOrder caller).deliver (h.attends caller) hw houtcomes (hown rfl hw) hin
  · have hdeliver : ∀ fetch, signal = .deliver fetch caller →
        caller ∉ cache.waitingFor fetch := fun fetch heq hw => htold ⟨fetch, heq, hw⟩
    by_cases hstart : ∃ fetch, signal = .start fetch
    · obtain ⟨fetch, rfl⟩ := hstart
      exact (h.inOrder caller).start (h.attends caller)
    · have hrest := (h.inOrder caller).tail (hsignal caller) hdeliver
        fun fetch heq => hstart ⟨fetch, heq⟩
      exact hrest.spares ((h.attends caller).tail (hsignal caller) hdeliver)
        (spares_perform cache caller hdeliver) hlater
        (h.sound.continues h.kept hlater (length_perform ..)) fun _ hw => h.fits hw

variable {caller : CallerId}

/-- The caller in front goes on. -/
theorem FirstCome.serve (h : FirstCome cache callers (.caller caller :: line)) {repo : String}
    {forced : Bool} {outcome : BranchCache × LoadTurn × List CacheSignal}
    (hlt : caller < callers.length) (hsound : outcome.1.Sound (line ++ outcome.2.2))
    (hlater : Later cache outcome.1) (hallows : outcome.1.Allows repo forced outcome.2.1)
    (hproceeds : Proceeds cache outcome.1 outcome.2.2) (hserves : cache.Serves repo forced outcome)
    (hown : outcome.1.Attends (line ++ outcome.2.2) caller (some outcome.2.1.state))
    (hspares : ∀ other, other ≠ caller → cache.Spares outcome.1 outcome.2.2 other) :
    FirstCome outcome.1 (callers.set caller outcome.2.1.standing) (line ++ outcome.2.2) := by
  have hturn : ∀ {other}, other ≠ caller → CacheSignal.caller caller ≠ .caller other := by
    intro other hne
    simpa using hne.symm
  refine ⟨hsound, fun {other waiting cancelled} hw => ?_, fun other => ?_,
    hproceeds.kept h.kept, fun other => ?_⟩
  all_goals by_cases heq : other = caller
  · subst heq
    rw [List.getElem?_set_self hlt] at hw
    cases hcome : outcome.2.1 with
    | ended result =>
      rw [hcome] at hw
      cases hw
    | waits new =>
      rw [hcome] at hw hallows
      obtain ⟨rfl, -⟩ := CallerState.waits.inj (Option.some.inj hw)
      exact hallows.2.2
  · rw [List.getElem?_set_ne (Ne.symm heq)] at hw
    exact (h.fits hw).later hlater
  · subst heq
    rw [List.getElem?_set_self hlt]
    cases hcome : outcome.2.1 with
    | ended result =>
      rw [hcome] at hown
      exact hown
    | waits new =>
      rw [hcome] at hown
      exact hown
  · rw [List.getElem?_set_ne (Ne.symm heq)]
    exact ((h.attends other).tail (hturn heq) (by simp)).spares (hspares other heq) hlater
  · subst heq
    rw [List.getElem?_set_self hlt]
    refine inOrder_of_open fun waiting hw => ?_
    cases hcome : outcome.2.1 with
    | ended result =>
      rw [hcome] at hw
      cases hw
    | waits new =>
      rw [hcome] at hw
      obtain ⟨rfl, -⟩ := CallerState.waits.inj (Option.some.inj hw)
      exact hserves.waits hcome
  · rw [List.getElem?_set_ne (Ne.symm heq)]
    exact ((h.inOrder other).tail (hturn heq) (by simp) (by simp)).spares
      ((h.attends other).tail (hturn heq) (by simp)) (hspares other heq) hlater hserves.continues
      fun _ hw => h.fits hw

theorem FirstCome.tail (h : FirstCome cache callers (.caller caller :: line)) :
    cache.Sound line := h.sound.tail fun fetch => CacheSignal.callTurn?_caller fetch caller

/-- The caller in front begins its load, whatever it had in mind when it came. -/
theorem FirstCome.load (h : FirstCome cache callers (.caller caller :: line)) (repo : String)
    (forced : Bool) (hlt : caller < callers.length) :
    FirstCome (cache.load repo forced caller).1
        (callers.set caller (cache.load repo forced caller).2.1.standing)
        (line ++ (cache.load repo forced caller).2.2) ∧
      cache.Serves repo forced (cache.load repo forced caller) := by
  have hserves : cache.Serves repo forced (cache.load repo forced caller) :=
    h.kept.serves_load h.tail caller
  obtain ⟨hsound, hlater, hallows⟩ := h.tail.load repo forced caller
  obtain ⟨hstands, -⟩ := (h.attends caller).turn
  exact ⟨h.serve hlt hsound hlater hallows (h.tail.proceeds_load repo forced caller) hserves
    (attends_load hstands h.tail repo forced)
    fun other hne => spares_load cache other hne repo forced, hserves⟩

/-- The caller in front goes on after the end of its fetch. -/
theorem FirstCome.resume (h : FirstCome cache callers (.caller caller :: line)) {waiting : Waiting}
    (hw : callers[caller]? = some (.waits waiting false)) :
    FirstCome (cache.resume waiting caller).1
        (callers.set caller (cache.resume waiting caller).2.1.standing)
        (line ++ (cache.resume waiting caller).2.2) ∧
      cache.Serves waiting.repo waiting.forced (cache.resume waiting caller) ∧
      (cache.resultOf waiting.fetch).isSome = true := by
  have ha := h.attends caller
  have horder := h.inOrder caller
  rw [hw] at ha horder
  have hserves := h.kept.serves_resume h.tail (h.fits hw) ha horder
  obtain ⟨hsound, hlater, hallows⟩ := h.tail.resume (h.fits hw) caller
  obtain ⟨hstands, hready⟩ := ha.turn
  have hended := hready waiting rfl
  refine ⟨h.serve (List.getElem?_eq_some_iff.mp hw).1 hsound hlater hallows
    (h.tail.proceeds_resume (h.fits hw) caller) hserves (attends_resume hstands h.tail hended)
    fun other hne => spares_resume cache other hne waiting, hserves, hended⟩

/-- A load that waits again after the end of its fetch has waited for room only. -/
theorem resume_waits {waiting new : Waiting}
    (hended : (cache.resultOf waiting.fetch).isSome = true)
    (hturn : (cache.resume waiting caller).2.1 = .waits new) : waiting.settles = false := by
  rcases resume_cases cache caller waiting with
    ⟨hopen, -⟩ | ⟨result, -, -, heq⟩ | ⟨result, -, ⟨hroom, -⟩, -⟩
  · rw [hopen] at hended
    cases hended
  · rw [heq] at hturn
    cases hturn
  · exact hroom

/-- The caller in front leaves without a load. -/
theorem FirstCome.leave (h : FirstCome cache callers (.caller caller :: line)) :
    FirstCome cache (callers.set caller .cancelled) line := by
  obtain ⟨hstands, -⟩ := (h.attends caller).turn
  refine ⟨h.tail, fun {other waiting cancelled} hw => ?_, fun other => ?_, h.kept,
    fun other => ?_⟩
  · rcases List.mem_or_eq_of_mem_set (List.mem_of_getElem? hw) with hold | heq
    · obtain ⟨place, hold⟩ := List.getElem?_of_mem hold
      exact h.fits hold
    · cases heq
  all_goals by_cases heq : other = caller
  · subst heq
    rw [List.getElem?_set_self']
    cases callers[other]? <;> exact hstands
  · rw [List.getElem?_set_ne (Ne.symm heq)]
    exact (h.attends other).tail (by simpa using Ne.symm heq) (by simp)
  · subst heq
    rw [List.getElem?_set_self']
    cases callers[other]? <;> trivial
  · rw [List.getElem?_set_ne (Ne.symm heq)]
    exact (h.inOrder other).tail (by simpa using Ne.symm heq) (by simp) (by simp)

end FirstCome

end BranchCache

end BranchCompare
