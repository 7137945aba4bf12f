import BranchCompare.Proofs.Workflow.Action

/-!
# The only fetch of a session

A session in which one operation waits for the one fetch that was ever started (`Session.Alone`).
Its turns are those of the fetch: the call is made and held, or called off at once where the time
limit is over; an answer is taken up, and the one who waits is told of the end.  What is shown stays
the same meanwhile.
-/

namespace BranchCompare

namespace BranchCache

variable {cache : BranchCache} {fetch : Fetch} {repo : String} {forced : Bool}
  {call : BoundedCall (List Branch)} {waiting : List CallerId} {result : Option LoadEnd}
  {number : Option Nat} {why : Stop}

/-- One fetch was ever started, and the server answers no call at once. -/
structure Lone (cache : BranchCache) (fetch : Fetch) : Prop where
  fetches : cache.fetches = [fetch]
  ready : cache.server.ready = []

/-- By the signal the fetch comes so far, and the signals are put in line. -/
structure Comes (cache : BranchCache) (signal : CacheSignal) (fetch : Fetch)
    (signals : List CacheSignal) : Prop where
  lone : (cache.perform signal).1.Lone fetch
  signals : (cache.perform signal).2 = signals

/-- The only fetch takes the turns of its call. -/
theorem Lone.perform_turn (h : cache.Lone fetch) (turn : CallTurn) :
    cache.perform (.turn 0 turn) = cache.takeTurn 0 fetch turn := by
  unfold perform
  dsimp only
  rw [h.fetches]
  rfl

theorem Lone.modifyFetch (h : cache.Lone fetch) (change : Fetch → Fetch) :
    (cache.modifyFetch 0 change).Lone (change fetch) :=
  ⟨by unfold BranchCache.modifyFetch; rw [h.fetches]; rfl, h.ready⟩

theorem Lone.withServer (h : cache.Lone fetch) {server : Remote BranchCall}
    (hready : server.ready = []) : Lone { cache with server := server } fetch :=
  ⟨h.fetches, hready⟩

theorem Lone.readyEnd (h : cache.Lone fetch) (repo : String) : cache.readyEnd repo = none := by
  unfold BranchCache.readyEnd Remote.readyFor
  rw [h.ready]
  rfl

theorem Lone.start (h : cache.Lone fetch) : cache.Comes (.start 0) fetch [.turn 0 .make] := ⟨h, rfl⟩

/-- The call is made and held. -/
theorem Lone.make (h : cache.Lone ⟨repo, forced, .start false, waiting, result⟩) :
    cache.Comes (.turn 0 .make)
      ⟨repo, forced, ⟨.held, .result, some cache.server.calls.length⟩, waiting, result⟩ [] := by
  have hperform := h.perform_turn .make
  unfold takeTurn at hperform
  dsimp only at hperform
  rw [h.readyEnd] at hperform
  refine ⟨?_, by rw [hperform]; rfl⟩
  rw [hperform]
  have hready : (cache.server.record (repo, forced) .pending).ready = [] := h.ready
  exact (h.withServer hready).modifyFetch fun f =>
    { f with call := ⟨.held, .result, some cache.server.calls.length⟩ }

/-- A call that was called off before is not made. -/
theorem Lone.make_doomed (h : cache.Lone ⟨repo, forced, .start true, waiting, result⟩) :
    cache.Comes (.turn 0 .make)
      ⟨repo, forced, ⟨.over none, .stop .timeLimit, none⟩, waiting, result⟩ [.turn 0 .notify] := by
  have hperform := h.perform_turn .make
  unfold takeTurn at hperform
  dsimp only at hperform
  refine ⟨?_, by rw [hperform]; rfl⟩
  rw [hperform]
  exact h.modifyFetch fun f => { f with call := ⟨.over none, .stop .timeLimit, none⟩ }

/-- The answer reaches the call. -/
theorem Lone.takeUp {answer : CallEnd (List Branch)} {number : Nat}
    (h : cache.Lone ⟨repo, forced, ⟨.answered answer, .result, some number⟩, waiting, result⟩) :
    cache.Comes (.turn 0 .takeUp)
      ⟨repo, forced, ⟨.over (some answer), .result, some number⟩, waiting, result⟩
      [.turn 0 .notify] := by
  have hperform := h.perform_turn .takeUp
  unfold takeTurn at hperform
  dsimp only [BoundedCall.takeUp] at hperform
  refine ⟨?_, by rw [hperform]; rfl⟩
  rw [hperform]
  have hready : (cache.server.mark number answer.status).ready = [] := h.ready
  exact (h.withServer hready).modifyFetch fun f =>
    { f with call := ⟨.over (some answer), .result, some number⟩ }

/-- The one who waits is told, and has its turn in line. -/
theorem Lone.notify {phase : CallPhase (List Branch)}
    (h : cache.Lone ⟨repo, forced, ⟨phase, .result, number⟩, waiting, result⟩) :
    cache.Comes (.turn 0 .notify)
      ⟨repo, forced, ⟨phase, .woken, number⟩, waiting, result⟩ [.turn 0 .wake] := by
  have hperform := h.perform_turn .notify
  exact ⟨by rw [hperform]; exact h.modifyFetch _, by rw [hperform]; rfl⟩

theorem Lone.notify_stopped {phase : CallPhase (List Branch)}
    (h : cache.Lone ⟨repo, forced, ⟨phase, .stop why, number⟩, waiting, result⟩) :
    cache.Comes (.turn 0 .notify)
      ⟨repo, forced, ⟨phase, .stop why, number⟩, waiting, result⟩ [.turn 0 .wake] := by
  have hperform := h.perform_turn .notify
  exact ⟨by rw [hperform]; exact h.modifyFetch _, by rw [hperform]; rfl⟩

/-- The fetch ends as its call has ended, and the one who waits is to be told. -/
theorem Lone.wake {caller : CallerId} {ended : WaitEnd (List Branch)}
    (h : cache.Lone ⟨repo, forced, call, [caller], none⟩)
    (hwake : call.wake = (call, [], some ended)) :
    cache.Comes (.turn 0 .wake)
      ⟨repo, forced, call, [caller], some (cache.loadEnd repo ended)⟩
      [.forget 0, .deliver 0 caller] := by
  have hperform := h.perform_turn .wake
  unfold takeTurn at hperform
  dsimp only at hperform
  rw [hwake] at hperform
  refine ⟨?_, by rw [hperform]; rfl⟩
  rw [hperform]
  have hcall := h.modifyFetch fun f => { f with call := call }
  have hended := hcall.modifyFetch fun f => { f with result := some (cache.loadEnd repo ended) }
  exact ⟨hended.fetches, hended.ready⟩

/-- The record of the fetch is removed. -/
theorem Lone.forget (h : cache.Lone fetch) : cache.Comes (.forget 0) fetch [] := by
  have hperform : cache.perform (.forget 0) = (cache.forget fetch.repo 0, []) := by
    unfold perform
    dsimp only
    rw [h.fetches]
    rfl
  refine ⟨?_, by rw [hperform]⟩
  rw [hperform]
  unfold BranchCache.forget
  split
  · split
    · exact ⟨h.fetches, h.ready⟩
    · exact h
  · exact h

/-- The only caller is told of the end. -/
theorem Lone.deliver {caller : CallerId} (h : cache.Lone ⟨repo, forced, call, [caller], result⟩) :
    cache.Comes (.deliver 0 caller) ⟨repo, forced, call, [], result⟩ [.caller caller] := by
  have hperform : cache.perform (.deliver 0 caller) =
      (cache.modifyFetch 0 fun f => { f with waiting := f.waiting.erase caller },
        [.caller caller]) := by
    unfold perform
    dsimp only
    rw [h.fetches]
    simp
  have hleft := h.modifyFetch fun f => { f with waiting := f.waiting.erase caller }
  have hnone : [caller].erase caller = [] := List.erase_cons_head ..
  dsimp only at hleft
  rw [hnone] at hleft
  exact ⟨by rw [hperform]; exact hleft, by rw [hperform]⟩

/-- How a load ends whose call ends so.  A call that was called off has run out of time. -/
inductive EndsAs : CallEnd (List Branch) → LoadEnd → Prop where
  | listed (branches : List Branch) : EndsAs (.answer branches) (.ok branches)
  | unavailable (failure : FetchFailure) :
      EndsAs (.unavailable failure) (.error (.unavailable failure))
  | outOfTime (failure : FetchFailure) : EndsAs .outOfTime (.error (.unavailable failure))
  | crashed (crash : Crash) : EndsAs (.crashed crash) (.error (.crashed crash))

/-- The load ends as its call was answered. -/
theorem endsAs_loadEnd (cache : BranchCache) (repo : String) (answer : CallEnd (List Branch)) :
    EndsAs answer (cache.loadEnd repo (.ended answer)) := by
  cases answer with
  | answer branches => exact .listed branches
  | unavailable failure => exact .unavailable failure
  | outOfTime => exact .outOfTime _
  | crashed crash => exact .crashed crash

theorem EndsAs.not_crashed {answer : CallEnd (List Branch)} {result : LoadEnd}
    (h : EndsAs answer result) (hanswer : ∀ crash, answer ≠ .crashed crash) (crash : Crash) :
    result ≠ .error (.crashed crash) := by
  cases h with
  | listed | unavailable | outOfTime => exact nofun
  | crashed crash => exact absurd rfl (hanswer crash)

end BranchCache

namespace Session

open BranchCompare.BranchCache (Comes EndsAs Lone)

/-- What a session shows and remembers. -/
structure Front where
  table : PresetTable
  store : SelectionStore
  document : Document
  page : Page
  flow : Flow

def front (session : Session) : Front :=
  ⟨session.table, session.store, session.document, session.page, session.flow⟩

/-- The session does nothing but wait for its only fetch. -/
structure Alone (front : Front) (tasks : List TaskState) (fetch : Fetch) (line : List CacheSignal)
    (session : Session) : Prop where
  front : session.front = front
  lone : session.cache.Lone fetch
  line : session.line = line.map .cache
  tasks : session.tasks = tasks

variable {session : Session} {front : Front} {tasks : List TaskState} {fetch next : Fetch}
  {repo : String} {forced : Bool} {caller : CallerId} {signal : CacheSignal}
  {line signals : List CacheSignal}

theorem settleWithin_turn (h : session.line ≠ []) (fuel : Nat) :
    session.settleWithin (fuel + 1) = (session.turn 0).settleWithin fuel := by
  rw [settleWithin, if_neg (by simpa using h)]

theorem settleWithin_idle (h : session.line = []) (fuel : Nat) :
    session.settleWithin fuel = session := by
  cases fuel with
  | zero => rfl
  | succ fuel => rw [settleWithin, if_pos (by simpa using h)]

/-- What is put in line stands behind the signals that are in line already. -/
theorem Alone.withCache (h : session.Alone front tasks fetch line)
    (hcomes : session.cache.Comes signal next signals) :
    (session.withCache (session.cache.perform signal)).Alone front tasks next
      (line ++ signals) where
  front := h.front
  lone := hcomes.lone
  line := by
    show session.line ++ (session.cache.perform signal).2.map .cache = _
    rw [h.line, hcomes.signals, List.map_append]
  tasks := h.tasks

/-- A session that is alone with a fetch stays so by a turn of the cache. -/
theorem Alone.turn (h : session.Alone front tasks fetch (signal :: line))
    (hcomes : session.cache.Comes signal next signals)
    (hother : ∀ caller, signal ≠ .caller caller) :
    (session.turn 0).Alone front tasks next (line ++ signals) := by
  have hfirst : session.line[0]? = some (.cache signal) := by
    rw [h.line]
    rfl
  have hrest : session.line.eraseIdx 0 = line.map .cache := by
    rw [h.line]
    rfl
  have hout : { session with line := line.map .cache }.Alone front tasks fetch line :=
    ⟨h.front, h.lone, rfl, h.tasks⟩
  have hdone := hout.withCache hcomes
  unfold Session.turn
  rw [hfirst, hrest]
  cases signal with
  | caller caller => exact absurd rfl (hother caller)
  | start fetch =>
    unfold perform
    dsimp only
    split
    · exact hdone
    · exact ⟨hdone.front, hdone.lone, hdone.line, hdone.tasks⟩
  | turn | forget | deliver => exact hdone

/-- The session settles by this turn and all that come after it. -/
theorem Alone.advances (h : session.Alone front tasks fetch (signal :: line))
    (hcomes : session.cache.Comes signal next signals)
    (hother : ∀ caller, signal ≠ .caller caller) :
    ∃ after, Alone front tasks next (line ++ signals) after ∧
      ∀ fuel, session.settleWithin (fuel + 1) = after.settleWithin fuel := by
  have hline : session.line ≠ [] := by
    rw [h.line]
    exact List.cons_ne_nil _ _
  exact ⟨_, h.turn hcomes hother, settleWithin_turn hline⟩

/-! ## The fetch begins and ends -/

variable {call : BoundedCall (List Branch)}

/-- The call of the fetch is made and held. -/
theorem Alone.held
    (h : session.Alone front tasks ⟨repo, forced, .start false, [caller], none⟩ [.start 0]) :
    ∃ after number,
      Alone front tasks ⟨repo, forced, ⟨.held, .result, some number⟩, [caller], none⟩ [] after ∧
      ∀ fuel, session.settleWithin (fuel + 2) = after := by
  obtain ⟨s1, h1, hfirst⟩ := h.advances h.lone.start nofun
  obtain ⟨s2, h2, hsecond⟩ := h1.advances h1.lone.make nofun
  refine ⟨s2, _, h2, fun fuel => ?_⟩
  rw [hfirst, hsecond, settleWithin_idle h2.line]

/-- Whoever waits for the fetch is about to be told of its end. -/
theorem Alone.wakes {ended : WaitEnd (List Branch)}
    (h : session.Alone front tasks ⟨repo, forced, call, [caller], none⟩ [.turn 0 .wake])
    (hwake : call.wake = (call, [], some ended)) :
    ∃ after,
      Alone front tasks ⟨repo, forced, call, [], some (session.cache.loadEnd repo ended)⟩
        [.caller caller] after ∧
      ∀ fuel, session.settleWithin (fuel + 3) = after.settleWithin fuel := by
  obtain ⟨s1, h1, hfirst⟩ := h.advances (h.lone.wake hwake) nofun
  obtain ⟨s2, h2, hsecond⟩ := h1.advances h1.lone.forget nofun
  obtain ⟨s3, h3, hthird⟩ := h2.advances h2.lone.deliver nofun
  refine ⟨s3, h3, fun fuel => ?_⟩
  rw [hfirst, hsecond, hthird]

/-- A call is called off before it is made, as its time limit is over from the start. -/
theorem Alone.doomed
    (h : session.Alone front tasks ⟨repo, forced, .start true, [caller], none⟩ [.start 0]) :
    ∃ after result,
      Alone front tasks ⟨repo, forced, ⟨.over none, .stop .timeLimit, none⟩, [], some result⟩
        [.caller caller] after ∧
      EndsAs .outOfTime result ∧
      ∀ fuel, session.settleWithin (fuel + 6) = after.settleWithin fuel := by
  obtain ⟨s1, h1, hfirst⟩ := h.advances h.lone.start nofun
  obtain ⟨s2, h2, hsecond⟩ := h1.advances h1.lone.make_doomed nofun
  obtain ⟨s3, h3, hthird⟩ := h2.advances h2.lone.notify_stopped nofun
  obtain ⟨s4, h4, hrest⟩ := h3.wakes rfl
  refine ⟨s4, _, h4, .outOfTime _, fun fuel => ?_⟩
  rw [hfirst, hsecond, hthird, hrest]

/-- The answer comes in to a call that is held. -/
theorem Alone.answered {number : Nat}
    (h : session.Alone front tasks
      ⟨repo, forced, ⟨.held, .result, some number⟩, [caller], none⟩ [])
    (answer : CallEnd (List Branch)) :
    ∃ after call result,
      Alone front tasks ⟨repo, forced, call, [], some result⟩ [.caller caller] after ∧
      EndsAs answer result ∧
      ∀ fuel, (session.answerFetch 0 answer).settleWithin (fuel + 5) = after.settleWithin fuel := by
  have hstate : session.cache.answer 0 answer =
      (session.cache.modifyFetch 0 fun f =>
        { f with call := ⟨.answered answer, .result, some number⟩ }, [.turn 0 .takeUp]) := by
    unfold BranchCache.answer
    rw [h.lone.fetches]
    rfl
  have h0 : (session.answerFetch 0 answer).Alone front tasks
      ⟨repo, forced, ⟨.answered answer, .result, some number⟩, [caller], none⟩
      [.turn 0 .takeUp] := by
    have hcall := h.lone.modifyFetch fun f =>
      { f with call := ⟨.answered answer, .result, some number⟩ }
    unfold answerFetch
    rw [hstate]
    refine ⟨h.front, hcall, ?_, h.tasks⟩
    show session.line ++ _ = _
    rw [h.line]
    rfl
  obtain ⟨s1, h1, hfirst⟩ := h0.advances h0.lone.takeUp nofun
  obtain ⟨s2, h2, hsecond⟩ := h1.advances h1.lone.notify nofun
  obtain ⟨s3, h3, hrest⟩ := h2.wakes rfl
  refine ⟨s3, _, _, h3, BranchCache.endsAs_loadEnd _ repo answer, fun fuel => ?_⟩
  rw [hfirst, hsecond, hrest]

end Session

end BranchCompare
