import BranchCompare.Proofs.BranchCache.Wakeups
import BranchCompare.Proofs.Workflow.Fixtures
import Mathlib.Logic.Relation

/-!
# The loads of a session

The traffic of a session is what its loads are made of: the cache, what is in line for it, and where
the operations stand.  `Traffic.Step` lists all that can become of it.  Each step keeps the traffic
`Sound` and leads to a later cache (`Sound.step`, `Sound.steps`): the cache fits what is in line, and
every operation is attended to.  One that is to begin has its turn in line, and one that waits for
branches has a turn in line or is to be told of the end of its fetch.
-/

namespace BranchCompare

/-- The operation neither waits for branches nor is it still to begin. -/
def TaskState.isAside : TaskState → Bool
  | .listing .. | .ended _ => true
  | .begins _ | .loading .. => false

/-- A load that has come so far leaves its operation there. -/
def LoadTurn.Brings (purpose : Purpose) : LoadTurn → TaskState → Prop
  | .waits waiting, state => state = .loading waiting purpose false
  | .ended _, state => state.isAside = true

namespace BranchCache

/-- What is in line and in the cache for an operation fits where it stands.  A listing may put turns
in line that the operation passes over. -/
def AttendsTo (cache : BranchCache) (line : List CacheSignal) (task : TaskId) :
    Option TaskState → Prop
  | none => cache.Stands line task 0 none
  | some (.begins _) => cache.Stands line task 1 none
  | some (.loading waiting _ cancelled) => cache.Attends line task (some (.waits waiting cancelled))
  | some (.listing ..) | some (.ended _) => ∃ turns, cache.Stands line task turns none

section AttendsTo

variable {cache after : BranchCache} {line line' signals : List CacheSignal} {task : TaskId}
  {state : Option TaskState} {turns : Nat} {awaited : Option FetchId}

/-- An operation aside is attended to without any wait. -/
theorem attendsTo_of_isAside {old : TaskState} (haside : old.isAside = true)
    (h : cache.Stands line task turns none) : cache.AttendsTo line task (some old) := by
  cases old with
  | listing | ended => exact ⟨turns, h⟩
  | begins | loading => cases haside

theorem AttendsTo.stands {old : TaskState} (h : cache.AttendsTo line task (some old))
    (haside : old.isAside = true) : ∃ turns, cache.Stands line task turns none := by
  cases old with
  | listing | ended => exact h
  | begins | loading => cases haside

/-- An operation is attended to as before when something is done for others. -/
theorem AttendsTo.spares (h : cache.AttendsTo line task state)
    (hs : cache.Spares after signals task) (hl : Later cache after) :
    after.AttendsTo (line ++ signals) task state := by
  match state with
  | none | some (.begins _) => exact Stands.spares h hs
  | some (.loading _ _ _) => exact Attends.spares h hs hl
  | some (.listing ..) | some (.ended _) =>
    obtain ⟨turns, hstands⟩ := h
    exact ⟨turns, hstands.spares hs⟩

/-- Only the turns of the operation and the telling of it matter of a line. -/
theorem AttendsTo.congr (h : cache.AttendsTo line task state)
    (hline : line'.count (.caller task) = line.count (.caller task))
    (hdeliver : ∀ fetch, task ∈ cache.waitingFor fetch → .deliver fetch task ∈ line →
      .deliver fetch task ∈ line') : cache.AttendsTo line' task state := by
  match state with
  | none | some (.begins _) => exact Stands.congr h hline
  | some (.loading _ _ _) => exact Attends.congr h hline hdeliver
  | some (.listing ..) | some (.ended _) =>
    obtain ⟨turns, hstands⟩ := h
    exact ⟨turns, hstands.congr hline⟩

theorem AttendsTo.perm (h : cache.AttendsTo line task state) (hp : line'.Perm line) :
    cache.AttendsTo line' task state :=
  h.congr (hp.count_eq _) fun _ _ hm => hp.mem_iff.mpr hm

/-- A signal that is not for the operation can be taken out of the line. -/
theorem AttendsTo.tail {signal : CacheSignal} (h : cache.AttendsTo (signal :: line) task state)
    (hturn : signal ≠ .caller task)
    (hdeliver : ∀ fetch, signal = .deliver fetch task → task ∉ cache.waitingFor fetch) :
    cache.AttendsTo line task state := by
  refine h.congr (List.count_cons_of_ne hturn).symm fun fetch hw hm => ?_
  rcases List.mem_cons.mp hm with heq | hm
  · exact absurd hw (hdeliver fetch heq.symm)
  · exact hm

/-- An operation that is told of the end has its turn in line. -/
theorem AttendsTo.deliver {fetch : FetchId}
    (h : cache.AttendsTo (.deliver fetch task :: line) task state)
    (hw : task ∈ cache.waitingFor fetch) (hended : (cache.resultOf fetch).isSome = true) :
    (cache.perform (.deliver fetch task)).1.AttendsTo
      (line ++ (cache.perform (.deliver fetch task)).2) task state := by
  match state with
  | none | some (.begins _) => exact absurd (Stands.mem_waitingFor h |>.mp hw) (by simp)
  | some (.loading _ _ _) => exact Attends.deliver h hw hended
  | some (.listing ..) | some (.ended _) =>
    obtain ⟨turns, hstands⟩ := h
    exact absurd (hstands.mem_waitingFor.mp hw) (by simp)

/-- The turn that an operation has is one less in line. -/
theorem Stands.pop (h : cache.Stands (.caller task :: line) task turns awaited) :
    turns = line.count (.caller task) + 1 ∧
      cache.Stands line task (line.count (.caller task)) awaited := by
  refine ⟨?_, rfl, h.waits⟩
  rw [← h.turns, List.count_cons_self]

/-- An operation in line that is to begin, or waits for branches, has no other turn and waits for
nothing that has not ended. -/
theorem AttendsTo.turn {old : TaskState}
    (h : cache.AttendsTo (.caller task :: line) task (some old)) (hopen : old.isAside = false) :
    cache.Stands line task 0 none ∧ ∀ waiting purpose, old = .loading waiting purpose false →
      (cache.resultOf waiting.fetch).isSome = true := by
  cases old with
  | begins operation =>
    have hstands : cache.Stands (.caller task :: line) task 1 none := h
    obtain ⟨hone, hrest⟩ := hstands.pop
    rw [← Nat.succ.inj hone] at hrest
    exact ⟨hrest, fun _ _ heq => by cases heq⟩
  | loading waiting purpose cancelled =>
    obtain ⟨hstands, hended⟩ := Attends.turn h
    refine ⟨hstands, fun other otherPurpose heq => ?_⟩
    cases heq
    exact hended waiting rfl
  | listing | ended => cases hopen

end AttendsTo

end BranchCache

/-- The cache, what is in line for it, and where operations stand. -/
structure Traffic where
  cache : BranchCache
  line : List CacheSignal
  tasks : List TaskState

namespace Traffic

variable {traffic middle after : Traffic} {task : TaskId} {state : TaskState}
  {rest : List CacheSignal}

/-- Takes over what the cache did. -/
def take (traffic : Traffic) (outcome : BranchCache × List CacheSignal) : Traffic :=
  { traffic with cache := outcome.1, line := traffic.line ++ outcome.2 }

/-- Takes over what the cache did for a load. -/
def takeLoad (traffic : Traffic) (outcome : BranchCache × LoadTurn × List CacheSignal) : Traffic :=
  traffic.take (outcome.1, outcome.2.2)

def setTask (traffic : Traffic) (task : TaskId) (state : TaskState) : Traffic :=
  { traffic with tasks := traffic.tasks.set task state }

/-- What becomes of the traffic by a turn of an operation, after the turn was taken out of the
line. -/
inductive Turned (traffic : Traffic) (task : TaskId) : Traffic → Prop where
  /-- The operation begins and loads branches. -/
  | loads {operation : Operation} {repo : String} {forced : Bool} {purpose : Purpose}
      {state : TaskState} (hs : traffic.tasks[task]? = some (.begins operation))
      (hstate : (traffic.cache.load repo forced task).2.1.Brings purpose state) :
      Turned traffic task
        ((traffic.takeLoad (traffic.cache.load repo forced task)).setTask task state)
  /-- The operation begins and loads nothing. -/
  | parts {operation : Operation} {state : TaskState}
      (hs : traffic.tasks[task]? = some (.begins operation)) (hstate : state.isAside = true) :
      Turned traffic task (traffic.setTask task state)
  | resumes {waiting : Waiting} {purpose : Purpose} {state : TaskState}
      (hs : traffic.tasks[task]? = some (.loading waiting purpose false))
      (hstate : (traffic.cache.resume waiting task).2.1.Brings purpose state) :
      Turned traffic task
        ((traffic.takeLoad (traffic.cache.resume waiting task)).setTask task state)
  /-- The operation ends that was cancelled while it waited. -/
  | leaves {waiting : Waiting} {purpose : Purpose}
      (hs : traffic.tasks[task]? = some (.loading waiting purpose true)) :
      Turned traffic task (traffic.setTask task (.ended .cancelled))
  /-- The turn was of an operation that waits for no branches. -/
  | rests (hs : ∀ state, traffic.tasks[task]? = some state → state.isAside = true) :
      Turned traffic task traffic

/-- What can become of the traffic.  In which order signals stand in line does not matter. -/
inductive Step (traffic : Traffic) : Traffic → Prop where
  /-- An operation is put in line to begin. -/
  | begins (operation : Operation) :
      Step traffic { traffic with
        tasks := traffic.tasks ++ [.begins operation]
        line := traffic.line ++ [.caller traffic.tasks.length] }
  /-- The cache does what a signal says. -/
  | performs {signal : CacheSignal} {rest : List CacheSignal}
      (hs : traffic.line.Perm (signal :: rest)) (hsignal : ∀ task, signal ≠ .caller task) :
      Step traffic ({ traffic with line := rest }.take (traffic.cache.perform signal))
  /-- An operation has its turn. -/
  | turns {task : TaskId} {rest : List CacheSignal} {after : Traffic}
      (hs : traffic.line.Perm (.caller task :: rest))
      (hturned : { traffic with line := rest }.Turned task after) : Step traffic after
  | answers (fetch : FetchId) (result : CallEnd (List Branch)) :
      Step traffic (traffic.take (traffic.cache.answer fetch result))
  | expires (fetch : FetchId) : Step traffic (traffic.take (traffic.cache.expire fetch))
  /-- The server of the cache changes. -/
  | serves (server : Remote BranchCall) :
      Step traffic { traffic with cache := { traffic.cache with server := server } }
  /-- An operation is cancelled that waits for branches. -/
  | abandons {task : TaskId} {waiting : Waiting} {purpose : Purpose} {cancelled : Bool}
      (hs : traffic.tasks[task]? = some (.loading waiting purpose cancelled)) :
      Step traffic ((traffic.setTask task (.loading waiting purpose true)).take
        (traffic.cache.abandon waiting task))
  /-- A listing comes further or ends, and its operation may get turns. -/
  | listens {task : TaskId} {old state : TaskState} (turns : Nat)
      (hs : traffic.tasks[task]? = some old) (hold : old.isAside = true)
      (hstate : state.isAside = true) :
      Step traffic ((traffic.take (traffic.cache, List.replicate turns (.caller task))).setTask
        task state)

/-- The traffic has come there by steps. -/
abbrev Steps : Traffic → Traffic → Prop := Relation.ReflTransGen Step

/-! ## Sound traffic -/

/-- Operations wait for fetches of what they want. -/
def Fits (traffic : Traffic) : Prop :=
  ∀ {task : TaskId} {waiting : Waiting} {purpose : Purpose} {cancelled : Bool},
    traffic.tasks[task]? = some (.loading waiting purpose cancelled) → traffic.cache.Fits waiting

/-- The cache fits what is in line, and all operations are attended to. -/
structure Sound (traffic : Traffic) : Prop where
  cache : traffic.cache.Sound traffic.line
  fits : traffic.Fits
  attended : ∀ task, traffic.cache.AttendsTo traffic.line task traffic.tasks[task]?

/-- The traffic is sound, except that the one operation may not be attended to. -/
structure SoundBut (traffic : Traffic) (task : TaskId) : Prop where
  cache : traffic.cache.Sound traffic.line
  fits : traffic.Fits
  attended : ∀ other, other ≠ task →
    traffic.cache.AttendsTo traffic.line other traffic.tasks[other]?

/-- Sound traffic has become sound. -/
structure Moves (before after : Traffic) : Prop where
  sound : after.Sound
  later : before.cache.Later after.cache

theorem Sound.but (h : traffic.Sound) (task : TaskId) : traffic.SoundBut task :=
  ⟨h.cache, h.fits, fun other _ => h.attended other⟩

/-- Traffic is sound when the one operation is attended to as well. -/
theorem SoundBut.sound (h : traffic.SoundBut task)
    (hown : traffic.cache.AttendsTo traffic.line task traffic.tasks[task]?) : traffic.Sound := by
  refine ⟨h.cache, h.fits, fun other => ?_⟩
  by_cases heq : other = task
  · rwa [heq]
  · exact h.attended other heq

/-- The cache does something that is for no other operation. -/
theorem SoundBut.take (h : traffic.SoundBut task) {outcome : BranchCache × List CacheSignal}
    (hcache : outcome.1.Sound (traffic.line ++ outcome.2)) (hl : traffic.cache.Later outcome.1)
    (hspares : ∀ other, other ≠ task → traffic.cache.Spares outcome.1 outcome.2 other) :
    (traffic.take outcome).SoundBut task :=
  ⟨hcache, fun hs => (h.fits hs).later hl,
    fun other hne => (h.attended other hne).spares (hspares other hne) hl⟩

/-- The operation moves to where it is attended to. -/
theorem SoundBut.setTask (h : traffic.SoundBut task) (hthere : task < traffic.tasks.length)
    (hfits : ∀ waiting purpose cancelled, state = .loading waiting purpose cancelled →
      traffic.cache.Fits waiting)
    (hown : traffic.cache.AttendsTo traffic.line task (some state)) :
    (traffic.setTask task state).Sound := by
  have hself : (traffic.setTask task state).tasks[task]? = some state :=
    List.getElem?_set_self hthere
  have hother : ∀ other, other ≠ task →
      (traffic.setTask task state).tasks[other]? = traffic.tasks[other]? :=
    fun other hne => List.getElem?_set_ne (Ne.symm hne)
  have hbut : (traffic.setTask task state).SoundBut task := by
    refine ⟨h.cache, fun {other waiting purpose cancelled} hs => ?_, fun other hne => ?_⟩
    · by_cases heq : other = task
      · subst heq
        exact hfits _ _ _ (Option.some.inj (hself.symm.trans hs))
      · exact h.fits ((hother other heq).symm.trans hs)
    · rw [hother other hne]
      exact h.attended other hne
  refine hbut.sound ?_
  rw [hself]
  exact hown

/-- The operation moves to where it waits for no branches. -/
theorem SoundBut.setAside (h : traffic.SoundBut task) (hthere : task < traffic.tasks.length)
    (hstate : state.isAside = true) {turns : Nat}
    (hstands : traffic.cache.Stands traffic.line task turns none) :
    (traffic.setTask task state).Sound := by
  refine h.setTask hthere (fun waiting purpose cancelled heq => ?_)
    (BranchCache.attendsTo_of_isAside hstate hstands)
  rw [heq] at hstate
  cases hstate

/-- The load of the operation comes further. -/
theorem SoundBut.takeLoad (h : traffic.SoundBut task) (hthere : task < traffic.tasks.length)
    {outcome : BranchCache × LoadTurn × List CacheSignal} {repo : String} {forced : Bool}
    {purpose : Purpose}
    (hload : outcome.1.Sound (traffic.line ++ outcome.2.2) ∧ traffic.cache.Later outcome.1 ∧
      outcome.1.Allows repo forced outcome.2.1)
    (hspares : ∀ other, other ≠ task → traffic.cache.Spares outcome.1 outcome.2.2 other)
    (hown : outcome.1.Attends (traffic.line ++ outcome.2.2) task (some outcome.2.1.state))
    (hstate : outcome.2.1.Brings purpose state) :
    traffic.Moves ((traffic.takeLoad outcome).setTask task state) := by
  obtain ⟨cache, turn, signals⟩ := outcome
  obtain ⟨hcache, hlater, hallows⟩ := hload
  have htaken : (traffic.take (cache, signals)).SoundBut task := h.take hcache hlater hspares
  refine ⟨?_, hlater⟩
  cases turn with
  | waits waiting =>
    obtain rfl : state = .loading waiting purpose false := hstate
    refine htaken.setTask hthere (fun other _ _ heq => ?_) hown
    cases heq
    exact hallows.2.2
  | ended result => exact htaken.setAside hthere hstate hown

/-! ## Steps -/

/-- A turn is taken out of the line. -/
theorem Sound.pop (h : traffic.Sound) (hs : traffic.line.Perm (.caller task :: rest)) :
    { traffic with line := rest }.SoundBut task ∧
      traffic.cache.AttendsTo (.caller task :: rest) task traffic.tasks[task]? := by
  refine ⟨⟨?_, h.fits, fun other hne => ?_⟩, (h.attended task).perm hs.symm⟩
  · exact (h.cache.perm hs.symm).tail fun fetch => CacheSignal.callTurn?_caller fetch task
  · exact ((h.attended other).perm hs.symm).tail (by simpa using hne.symm) (by simp)

theorem Sound.begins (h : traffic.Sound) (operation : Operation) :
    traffic.Moves { traffic with
      tasks := traffic.tasks ++ [.begins operation]
      line := traffic.line ++ [.caller traffic.tasks.length] } := by
  have hown : traffic.cache.Stands traffic.line traffic.tasks.length 0 none := by
    have := h.attended traffic.tasks.length
    rwa [List.getElem?_eq_none (Nat.le_refl _)] at this
  have hold : ∀ other, other ≠ traffic.tasks.length →
      (traffic.tasks ++ [.begins operation])[other]? = traffic.tasks[other]? := by
    intro other hne
    rcases Nat.lt_or_gt_of_ne hne with hlt | hgt
    · rw [List.getElem?_append_left hlt]
    · rw [List.getElem?_eq_none (by simp; omega), List.getElem?_eq_none (by omega)]
  have htaken : (traffic.take (traffic.cache, [.caller traffic.tasks.length])).SoundBut
      traffic.tasks.length :=
    (h.but _).take (h.cache.append (by simp)) (.refl _) fun other hne =>
      BranchCache.spares_of_fetches rfl (by simpa using hne)
  refine ⟨⟨htaken.cache, fun {other waiting purpose cancelled} hs => ?_, fun other => ?_⟩, .refl _⟩
  all_goals by_cases heq : other = traffic.tasks.length
  · subst heq
    cases List.getElem?_concat_length.symm.trans hs
  · exact h.fits ((hold other heq).symm.trans hs)
  · subst heq
    dsimp only
    rw [List.getElem?_concat_length]
    refine ⟨?_, hown.waits⟩
    rw [List.count_append, hown.turns]
    simp
  · dsimp only
    rw [hold other heq]
    exact htaken.attended other heq

/-- Whatever a signal for the cache says keeps traffic sound. -/
theorem Sound.performs (h : traffic.Sound) {signal : CacheSignal}
    (hs : traffic.line.Perm (signal :: rest)) (hsignal : ∀ task, signal ≠ .caller task) :
    traffic.Moves ({ traffic with line := rest }.take (traffic.cache.perform signal)) := by
  obtain ⟨hcache, hlater⟩ := (h.cache.perm hs.symm).perform
  refine ⟨⟨hcache, fun hw => (h.fits hw).later hlater, fun task => ?_⟩, hlater⟩
  have hin := (h.attended task).perm hs.symm
  by_cases htold : ∃ fetch, signal = .deliver fetch task ∧ task ∈ traffic.cache.waitingFor fetch
  · obtain ⟨fetch, rfl, hw⟩ := htold
    exact hin.deliver hw (h.cache.announced (hs.mem_iff.mpr List.mem_cons_self) rfl)
  · have hdeliver : ∀ fetch, signal = .deliver fetch task →
        task ∉ traffic.cache.waitingFor fetch := fun fetch hsig hw => htold ⟨fetch, hsig, hw⟩
    exact (hin.tail (hsignal task) hdeliver).spares (BranchCache.spares_perform _ _ hdeliver) hlater

/-- The cache does something from outside, which is for no operation. -/
theorem Sound.take (h : traffic.Sound) {outcome : BranchCache × List CacheSignal}
    (hcache : outcome.1.Sound (traffic.line ++ outcome.2) ∧ traffic.cache.Later outcome.1)
    (hspares : ∀ task, traffic.cache.Spares outcome.1 outcome.2 task) :
    traffic.Moves (traffic.take outcome) :=
  ⟨⟨hcache.1, fun hs => (h.fits hs).later hcache.2,
    fun task => (h.attended task).spares (hspares task) hcache.2⟩, hcache.2⟩

theorem Sound.abandons (h : traffic.Sound) {waiting : Waiting} {purpose : Purpose}
    {cancelled : Bool} (hs : traffic.tasks[task]? = some (.loading waiting purpose cancelled)) :
    traffic.Moves ((traffic.setTask task (.loading waiting purpose true)).take
      (traffic.cache.abandon waiting task)) := by
  obtain ⟨hcache, hlater⟩ := h.cache.abandon waiting task
  have hown : traffic.cache.Attends traffic.line task (some (.waits waiting cancelled)) := by
    have := h.attended task
    rwa [hs] at this
  have htaken : (traffic.take (traffic.cache.abandon waiting task)).SoundBut task :=
    (h.but task).take hcache hlater fun other hne => BranchCache.spares_abandon _ other hne waiting
  refine ⟨htaken.setTask (List.getElem?_eq_some_iff.mp hs).1 (fun other _ _ heq => ?_)
    hown.abandon, hlater⟩
  cases heq
  exact (h.fits hs).later hlater

/-- Operations aside may move as they like. -/
theorem Sound.listens (h : traffic.Sound) {old : TaskState} (turns : Nat)
    (hs : traffic.tasks[task]? = some old) (hold : old.isAside = true)
    (hstate : state.isAside = true) :
    traffic.Moves ((traffic.take (traffic.cache, List.replicate turns (.caller task))).setTask
      task state) := by
  have hown : traffic.cache.AttendsTo traffic.line task (some old) := hs ▸ h.attended task
  obtain ⟨before, hstands⟩ := hown.stands hold
  have hcache : traffic.cache.Sound (traffic.line ++ List.replicate turns (.caller task)) := by
    refine h.cache.append fun signal hm => ?_
    obtain rfl := List.eq_of_mem_replicate hm
    exact ⟨fun _ => rfl, rfl⟩
  have htaken : (traffic.take (traffic.cache, List.replicate turns (.caller task))).SoundBut
      task := by
    refine (h.but task).take hcache (.refl _) fun other hne => ?_
    refine BranchCache.spares_of_fetches rfl fun hm => hne ?_
    exact CacheSignal.caller.inj (List.eq_of_mem_replicate hm)
  have hmore : traffic.cache.Stands (traffic.line ++ List.replicate turns (.caller task)) task
      (before + turns) none := by
    refine ⟨?_, hstands.waits⟩
    rw [List.count_append, hstands.turns, List.count_replicate_self]
  exact ⟨htaken.setAside (List.getElem?_eq_some_iff.mp hs).1 hstate hmore, .refl _⟩

/-- What a turn of an operation preserves. -/
theorem Turned.moves (h : traffic.Turned task after) (hbut : traffic.SoundBut task)
    (hown : traffic.cache.AttendsTo (.caller task :: traffic.line) task traffic.tasks[task]?) :
    traffic.Moves after := by
  have hpopped : ∀ {old : TaskState}, traffic.tasks[task]? = some old → old.isAside = false →
      task < traffic.tasks.length ∧ traffic.cache.Stands traffic.line task 0 none ∧
        ∀ waiting purpose, old = .loading waiting purpose false →
          (traffic.cache.resultOf waiting.fetch).isSome = true := by
    intro old hs hopen
    rw [hs] at hown
    exact ⟨(List.getElem?_eq_some_iff.mp hs).1, hown.turn hopen⟩
  cases h with
  | @loads operation repo forced purpose state hs hstate =>
    obtain ⟨hthere, hstands, -⟩ := hpopped hs rfl
    exact hbut.takeLoad hthere (hbut.cache.load repo forced task)
      (fun other hne => BranchCache.spares_load _ other hne repo forced)
      (BranchCache.attends_load hstands hbut.cache repo forced) hstate
  | parts hs hstate =>
    obtain ⟨hthere, hstands, -⟩ := hpopped hs rfl
    exact ⟨hbut.setAside hthere hstate hstands, .refl _⟩
  | @resumes waiting purpose state hs hstate =>
    obtain ⟨hthere, hstands, hended⟩ := hpopped hs rfl
    exact hbut.takeLoad hthere (hbut.cache.resume (hbut.fits hs) task)
      (fun other hne => BranchCache.spares_resume _ other hne waiting)
      (BranchCache.attends_resume hstands hbut.cache (hended waiting purpose rfl)) hstate
  | leaves hs =>
    obtain ⟨hthere, hstands, -⟩ := hpopped hs rfl
    exact ⟨hbut.setAside hthere rfl hstands, .refl _⟩
  | rests hs =>
    refine ⟨hbut.sound ?_, .refl _⟩
    cases hold : traffic.tasks[task]? with
    | none =>
      rw [hold] at hown
      exact absurd (BranchCache.Stands.pop hown).1 (by simp)
    | some old =>
      rw [hold] at hown
      obtain ⟨turns, hstands⟩ := hown.stands (hs old hold)
      exact BranchCache.attendsTo_of_isAside (hs old hold) hstands.pop.2

/-- The traffic of a fresh cache is sound. -/
theorem sound_fresh (limit : Seconds) (ready : List (String × Reply)) :
    Sound ⟨.fresh limit ready, [], []⟩ := by
  refine ⟨BranchCache.sound_fresh limit ready, nofun, fun task => ⟨rfl, fun fetch => ?_⟩⟩
  simp [BranchCache.fresh, BranchCache.waitingFor]

/-- What one step preserves. -/
theorem Sound.step (h : traffic.Sound) (hstep : traffic.Step after) : traffic.Moves after := by
  cases hstep with
  | begins operation => exact h.begins operation
  | performs hs hsignal => exact h.performs hs hsignal
  | turns hs hturned =>
    obtain ⟨hbut, hown⟩ := h.pop hs
    have hmoves := hturned.moves hbut hown
    exact ⟨hmoves.sound, hmoves.later⟩
  | answers fetch result =>
    exact h.take (h.cache.answer fetch result) fun task =>
      BranchCache.spares_answer _ task fetch result
  | expires fetch =>
    exact h.take (h.cache.expire fetch) fun task => BranchCache.spares_expire _ task fetch
  | serves server =>
    have hserved := h.cache.server server
    have hlater : traffic.cache.Later { traffic.cache with server := server } :=
      ⟨fun hf => ⟨_, hf, .refl _⟩, .inl⟩
    refine ⟨⟨hserved, fun hs => (h.fits hs).later hlater, fun task => ?_⟩, hlater⟩
    have hspares : traffic.cache.Spares { traffic.cache with server := server } [] task :=
      BranchCache.spares_of_fetches rfl (by simp)
    have hspared := (h.attended task).spares hspares hlater
    rwa [List.append_nil] at hspared
  | abandons hs => exact h.abandons hs
  | listens turns hs hold hstate => exact h.listens turns hs hold hstate

/-- What steps preserve. -/
theorem Sound.steps (h : traffic.Sound) (hsteps : traffic.Steps after) : traffic.Moves after := by
  induction hsteps with
  | refl => exact ⟨h, .refl _⟩
  | tail _ hstep ih =>
    have hlast := ih.sound.step hstep
    exact ⟨hlast.sound, ih.later.trans hlast.later⟩

end Traffic

end BranchCompare
