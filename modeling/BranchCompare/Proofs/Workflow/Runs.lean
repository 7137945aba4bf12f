import BranchCompare.Proofs.Workflow.Picks

/-!
# All runs of the workflow

`FlowEvent` lists what may happen in a session: an operation begins or is cancelled, a branch is
picked, a launch, a change by the user, the turn of any signal of the line, an answer, the passing of
time.  `Session.after` is the session after a list of events, and `Session.returnedBy` lists the URLs
that launches and operations have given back by then.  `Sound.step` is what one event preserves and
`Sound.after` what a whole run does.
-/

namespace BranchCompare

/-- What may happen in a session. -/
inductive FlowEvent where
  /-- An operation is put in line to begin. -/
  | begin (operation : Operation)
  /-- The signal at a place of the line gets its turn. -/
  | turn (place : Nat)
  | pick (side : Action.Side) (name : Option String)
  | launch
  /-- The user changes a control. -/
  | change (name : ControlName) (value : Json)
  /-- The answer to the call of a fetch comes in. -/
  | answerFetch (fetch : FetchId) (result : CallEnd (List Branch))
  /-- The answer to the call for a listing comes in. -/
  | answerListing (task : TaskId) (result : CallEnd (List ChangeRequest))
  /-- The time of a fetch or of a listing is up. -/
  | expire (owner : DeadlineOwner)
  /-- The clock moves on. -/
  | advance (span : Seconds)
  /-- An operation is cancelled. -/
  | cancel (task : TaskId)
  /-- A reply is made ready, or taken away. -/
  | setReadyBranches (key : String) (reply : Option Reply)
  | setReadyPulls (key : String) (reply : Option Reply)

/-! ## What is given back -/

namespace TaskState

def isOver : TaskState → Bool
  | .ended _ => true
  | _ => false

theorem url?_of_not_isOver {state : TaskState} (h : state.isOver = false) : state.url? = none := by
  cases state with
  | begins | loading | listing => rfl
  | ended result => cases h

/-- The URLs that those operations have given back which have ended in between. -/
def urlsBetween (before after : List TaskState) : List String :=
  (before.zip after).filterMap fun states => if states.1.isOver then none else states.2.url?

/-- Operations are compared one by one. -/
theorem urlsBetween_cons (old new : TaskState) (before after : List TaskState) :
    urlsBetween (old :: before) (new :: after) =
      (if old.isOver then none else new.url?).toList ++ urlsBetween before after := by
  unfold urlsBetween
  rw [List.zip_cons_cons, List.filterMap_cons]
  cases (if old.isOver then none else new.url?) <;> rfl

/-- Nothing is given back while the same operations are over. -/
theorem urlsBetween_of_isOver {before after more : List TaskState}
    (h : after.map isOver = before.map isOver) : urlsBetween before (after ++ more) = [] := by
  induction before generalizing after with
  | nil => rfl
  | cons old before ih =>
    cases after with
    | nil => cases h
    | cons new after =>
      obtain ⟨hhead, htail⟩ := List.cons.inj h
      rw [List.cons_append, urlsBetween_cons, ih htail]
      -- an operation that was over counts no more, and one that is not has given nothing back
      by_cases hover : old.isOver = true
      · simp [hover]
      · rw [Bool.not_eq_true] at hover
        rw [url?_of_not_isOver (hhead.trans hover)]
        simp

/-- An operation moves and others are begun. -/
theorem urlsBetween_set {tasks more : List TaskState} {task : TaskId} {old : TaskState}
    (h : tasks[task]? = some old) (hopen : old.isOver = false) (new : TaskState) :
    urlsBetween tasks (tasks.set task new ++ more) = new.url?.toList := by
  induction tasks generalizing task with
  | nil => cases h
  | cons state tasks ih =>
    cases task with
    | zero =>
      obtain rfl := Option.some.inj h
      rw [List.set_cons_zero, List.cons_append, urlsBetween_cons, urlsBetween_of_isOver rfl]
      simp [hopen]
    | succ task =>
      rw [List.set_cons_succ, List.cons_append, urlsBetween_cons, ih h]
      by_cases hover : state.isOver = true
      · simp [hover]
      · rw [Bool.not_eq_true] at hover
        simp [url?_of_not_isOver hover]

end TaskState

namespace Session

/-- The session after an event. -/
def step (session : Session) : FlowEvent → Session
  | .begin operation => session.begin operation
  | .turn place => session.turn place
  | .pick side name => (session.run (Action.pick side name)).1
  | .launch => (session.run Action.launch).1
  | .change name value => (session.run (Action.change name value)).1
  | .answerFetch fetch result => session.answerFetch fetch result
  | .answerListing task result => session.answerListing task result
  | .expire owner => session.expire owner
  | .advance span => session.advance span
  | .cancel task => (session.cancel task).getD session
  | .setReadyBranches key reply => session.setReadyBranches key reply
  | .setReadyPulls key reply => session.setReadyPulls key reply

/-- The URL that a launch gives back. -/
def launched? (session : Session) : Option String :=
  match (session.run Action.launch).2 with
  | .ok given => given
  | .error _ => none

/-- The URLs that are given back by an event: that of the launch, or that of an operation that
ends. -/
def returned (session : Session) (event : FlowEvent) : List String :=
  match event with
  | .launch => session.launched?.toList
  | event => TaskState.urlsBetween session.tasks (session.step event).tasks

def after (session : Session) (events : List FlowEvent) : Session := events.foldl step session

/-- The URLs that are given back by a list of events, in their order. -/
def returnedBy (session : Session) : List FlowEvent → List String
  | [] => []
  | event :: events => session.returned event ++ (session.step event).returnedBy events

/-- A sound session has become a sound one, and the page was led to the URLs. -/
structure Moves (before after : Session) (urls : List String) : Prop where
  sound : after.Sound
  later : before.cache.Later after.cache
  table : after.table = before.table
  history : after.page.history = before.page.history ++ urls

/-- The page was led to the URLs that were given back. -/
def Passes (before after : Session) : Prop :=
  before.Moves after (TaskState.urlsBetween before.tasks after.tasks)

/-- No operation has ended, and the page was led nowhere. -/
structure Rests (before after : Session) : Prop where
  moves : before.Moves after []
  isOver : after.tasks.map TaskState.isOver = before.tasks.map TaskState.isOver

section Moves

variable {before middle after session : Session} {urls more : List String}

theorem Moves.trans (h : before.Moves middle urls) (h' : middle.Moves after more) :
    before.Moves after (urls ++ more) :=
  ⟨h'.sound, h.later.trans h'.later, h'.table.trans h.table, by
    rw [h'.history, h.history, List.append_assoc]⟩

theorem Goes.moves (h : before.Goes after urls) : before.Moves after urls :=
  ⟨h.sound, h.later, h.table, h.history⟩

/-- Who leads the page nowhere passes. -/
theorem Goes.passes (h : before.Goes after []) : before.Passes after := by
  obtain ⟨operations, htasks⟩ := h.tasks
  unfold Passes
  rw [htasks, TaskState.urlsBetween_of_isOver rfl]
  exact h.moves

/-- A session may rest. -/
theorem Sound.rests (h : session.Sound) : session.Rests session := ⟨h.goes.moves, rfl⟩

theorem Rests.passes (h : before.Rests after) : before.Passes after := by
  unfold Passes
  rw [← List.append_nil after.tasks, TaskState.urlsBetween_of_isOver h.isOver]
  exact h.moves

theorem Rests.trans (h : before.Rests middle) (h' : middle.Rests after) : before.Rests after :=
  ⟨h.moves.trans h'.moves, h'.isOver.trans h.isOver⟩

/-- No operation begins. -/
theorem Goes.rests (h : before.Goes after []) (htasks : after.tasks = before.tasks) :
    before.Rests after := ⟨h.moves, congrArg _ htasks⟩

theorem Rests.setTimeline (h : before.Rests after) (timeline : Timeline DeadlineOwner) :
    before.Rests { after with timeline := timeline } := by
  have halike : after.Alike { after with timeline := timeline } :=
    ⟨rfl, rfl, rfl, rfl, rfl, rfl, rfl⟩
  exact h.trans ((h.moves.sound.goes.alike halike).rests rfl)

end Moves

section Turns

variable {session : Session} {task : TaskId} {old state : TaskState}

/-! ## One operation moves -/

theorem Sound.setTask (h : session.Sound) (task : TaskId) (hstate : state.Fits session.cache) :
    (session.setTask task state).Sound := by
  refine ⟨h.cache, fun {other found} hs => ?_, h.ready, h.quiet⟩
  rcases List.mem_or_eq_of_mem_set (List.mem_of_getElem? hs) with hold | rfl
  · obtain ⟨place, hold⟩ := List.getElem?_of_mem hold
    exact h.fits hold
  · exact hstate

/-- An operation that has not ended goes on waiting. -/
theorem Sound.wait (h : session.Sound) (hs : session.tasks[task]? = some old)
    (hopen : old.isOver = false) (state : TaskState) (hstate : state.Fits session.cache)
    (hwait : state.isOver = false) :
    session.Rests (session.setTask task state) := by
  refine ⟨⟨h.setTask task hstate, .refl _, rfl, (List.append_nil _).symm⟩, ?_⟩
  obtain ⟨hlt, rfl⟩ := List.getElem?_eq_some_iff.mp hs
  unfold Session.setTask
  rw [List.map_set, hwait, ← hopen, ← List.map_set, List.set_getElem_self]

/-- An operation that has not ended moves after the session has come to another one. -/
theorem Goes.setTask {after : Session} {urls : List String} (h : session.Goes after urls)
    (hs : session.tasks[task]? = some old) (hopen : old.isOver = false)
    (hstate : state.Fits after.cache) (hurls : state.url?.toList = urls) :
    session.Passes (after.setTask task state) := by
  -- the operations that were begun meanwhile stand behind the one that moves
  obtain ⟨operations, htasks⟩ := h.tasks
  have hlt : task < session.tasks.length := (List.getElem?_eq_some_iff.mp hs).1
  have hgiven : TaskState.urlsBetween session.tasks (after.setTask task state).tasks = urls := by
    unfold Session.setTask
    rw [htasks, List.set_append_left _ _ hlt, TaskState.urlsBetween_set hs hopen, hurls]
  unfold Passes
  rw [hgiven]
  exact ⟨h.sound.setTask task hstate, h.later, h.table, h.history⟩

/-- After the session has come to another one an operation stands where it is put. -/
theorem Goes.tasks_setTask {after : Session} {urls : List String} (h : session.Goes after urls)
    (hthere : task < session.tasks.length) (state : TaskState) :
    (after.setTask task state).tasks[task]? = some state := by
  obtain ⟨operations, htasks⟩ := h.tasks
  refine List.getElem?_set_self ?_
  rw [htasks, List.length_append]
  exact Nat.lt_add_right _ hthere

/-- What a stretch of an operation came to is taken over. -/
theorem follow_cases (session : Session) (task : TaskId) (action : Action Turn) :
    (∃ given after, action session = .ok given after ∧
      session.follow task action = after.setTask task given.state) ∨
    ∃ crash after, action session = .error crash after ∧
      session.follow task action = after.setTask task (.ended (.crashed crash)) := by
  unfold follow
  cases hresult : action session with
  | ok given after => cases given <;> exact .inl ⟨_, _, rfl, rfl⟩
  | error crash after => exact .inr ⟨_, _, rfl, rfl⟩

/-- What holds of whatever a stretch of an operation leads to holds when this is taken over. -/
theorem follow_of_leads {motive : Session → Prop} {action : Action Turn}
    (h : Action.Leads action session (fun turn after => motive (after.setTask task turn.state))
      fun crash after => motive (after.setTask task (.ended (.crashed crash)))) :
    motive (session.follow task action) := by
  rcases follow_cases session task action with
    ⟨turn, after, heq, hfollow⟩ | ⟨crash, after, heq, hfollow⟩ <;> rw [hfollow]
  · exact h.ok heq
  · exact h.error heq

/-- The session takes over what a stretch of an operation came to. -/
theorem passes_follow (hs : session.tasks[task]? = some old) (hopen : old.isOver = false)
    {action : Action Turn} (hk : Action.Keeps session action) :
    session.Passes (session.follow task action) :=
  follow_of_leads (motive := session.Passes) <| hk.mono
    (fun _ _ ⟨hgoes, hfits⟩ => hgoes.setTask hs hopen hfits rfl)
    fun _ _ hgoes => hgoes.setTask hs hopen trivial rfl

/-- A cancelled operation ends without a URL. -/
theorem Sound.endCancelled (h : session.Sound) (hs : session.tasks[task]? = some old)
    (hopen : old.isOver = false) : session.Passes (session.endCancelled task) := by
  have halike : session.Alike { session with indicator := session.indicator.exit } :=
    ⟨rfl, rfl, rfl, rfl, rfl, rfl, rfl⟩
  exact (h.goes.alike halike).setTask hs hopen trivial rfl

/-! ## Listings -/

/-- The turns of a call for a listing tell the cache nothing. -/
theorem Sound.enqueueTurns (h : session.Sound) (task : TaskId) (turns : List CallTurn) :
    session.Rests (session.enqueueTurns task turns) := by
  refine (h.enqueue _ fun signal hmem => ?_).rests rfl
  obtain ⟨queued, hqueued, hsignal⟩ := List.mem_filterMap.mp hmem
  obtain ⟨turn, -, rfl⟩ := List.mem_map.mp hqueued
  cases turn with
  | wake =>
    obtain rfl := Option.some.inj hsignal
    exact ⟨fun _ => rfl, rfl⟩
  | make | takeUp | notify => cases hsignal

variable {call : BoundedCall (List ChangeRequest)} {owner repo : String}

/-- A listing that moves on ends nothing. -/
theorem Sound.moveListing (h : session.Sound)
    (hs : session.tasks[task]? = some (.listing call owner repo))
    (moved : BoundedCall (List ChangeRequest)) (turns : List CallTurn) :
    session.Rests ((session.setTask task (.listing moved owner repo)).enqueueTurns task turns) := by
  have hwait := h.wait hs rfl (.listing moved owner repo) trivial rfl
  exact hwait.trans (hwait.moves.sound.enqueueTurns task turns)

theorem Sound.withPulls (h : session.Sound) (pulls : Remote PullsCall) :
    session.Rests { session with pulls := pulls } :=
  have halike : session.Alike { session with pulls := pulls } :=
    ⟨rfl, rfl, rfl, rfl, rfl, rfl, rfl⟩
  (h.goes.alike halike).rests rfl

theorem Sound.recordListing (h : session.Sound)
    (hs : session.tasks[task]? = some (.listing call owner repo)) (pulls : Remote PullsCall)
    (moved : BoundedCall (List ChangeRequest)) (turns : List CallTurn) :
    session.Rests (({ session with pulls := pulls }.setTask task
      (.listing moved owner repo)).enqueueTurns task turns) := by
  have hpulls := h.withPulls pulls
  exact hpulls.trans (hpulls.moves.sound.moveListing hs moved turns)

/-- A listing that is woken leads the page to what it returns. -/
theorem Sound.wakeListing (h : session.Sound)
    (hs : session.tasks[task]? = some (.listing call owner repo)) :
    session.Passes (session.wakeListing task call owner repo) := by
  unfold Session.wakeListing
  rcases call.wake with ⟨moved, turns, ended⟩
  dsimp only
  split
  · exact (h.moveListing hs moved turns).passes
  · exact passes_follow hs rfl (Action.keeps_endListing h owner repo _)
  · exact passes_follow hs rfl (Action.keeps_endListing h owner repo _)
  · exact h.endCancelled hs rfl

theorem Sound.listingTurn (h : session.Sound) (task : TaskId) (turn : CallTurn) :
    session.Passes (session.listingTurn task turn) := by
  unfold Session.listingTurn
  split
  · next call owner repo hs =>
    cases turn with
    | make | takeUp => exact (h.recordListing hs _ _ _).passes
    | notify => exact (h.moveListing hs _ _).passes
    | wake => exact h.wakeListing hs
  · exact h.rests.passes

/-! ## Turns -/

/-- By the turn of an operation the page is led to the URL that it returns. -/
theorem Sound.taskTurn (h : session.Sound) (task : TaskId) :
    session.Passes (session.taskTurn task) := by
  unfold Session.taskTurn
  split
  · next operation hs => exact passes_follow hs rfl (Action.keeps_first h task operation)
  · next waiting purpose hs =>
    obtain ⟨hfits, hpurpose⟩ := h.fits hs
    obtain ⟨hcache, hlater, hallows⟩ := h.cache.resume hfits task
    exact passes_follow hs rfl (Action.keeps_followLoad h hpurpose hcache hlater hallows)
  · next waiting purpose hs => exact h.endCancelled hs rfl
  · next call owner repo hs => exact h.wakeListing hs
  · exact h.rests.passes

/-- The rest of the line after a signal was taken out of it. -/
theorem Sound.takeOut (h : session.Sound) {place : Nat} {signal : Signal}
    (hs : session.line[place]? = some signal) :
    session.cache.Sound
      (signal.cache?.toList ++ (session.line.eraseIdx place).filterMap Signal.cache?) :=
  h.cache.perm (cacheLine_perm hs).symm

/-- The cache does what a signal says that was taken out of the line. -/
theorem Sound.performCache (h : session.Sound) {line : List Signal} {signal : CacheSignal}
    (hline : session.cache.Sound (signal :: line.filterMap Signal.cache?)) :
    session.Rests ({ session with line := line }.withCache (session.cache.perform signal)) := by
  obtain ⟨hcache, hlater⟩ := hline.perform
  refine (h.setCache ?_ hlater).rests rfl
  rw [cacheLine_append_cache]
  exact hcache

theorem Passes.ofLine {after : Session} {line : List Signal}
    (h : { session with line := line }.Passes after) : session.Passes after :=
  ⟨h.sound, h.later, h.table, h.history⟩

/-- By any turn the page is led to the URLs that are returned by it. -/
theorem Sound.turn (h : session.Sound) (place : Nat) : session.Passes (session.turn place) := by
  unfold Session.turn
  cases hs : session.line[place]? with
  | none => exact h.rests.passes
  | some signal =>
    have hline := h.takeOut hs
    cases signal with
    | listing task turn =>
      have hgoes := h.setCache hline (.refl _)
      exact (hgoes.sound.listingTurn task turn).ofLine
    | cache signal =>
      cases signal with
      | caller task =>
        have htail := hline.tail fun fetch => CacheSignal.callTurn?_caller fetch task
        have hgoes := h.setCache htail (.refl _)
        exact (hgoes.sound.taskTurn task).ofLine
      | start fetch =>
        have hrests := h.performCache hline
        unfold Session.perform
        dsimp only
        split
        · exact hrests.passes
        · exact (hrests.setTimeline _).passes
      | turn fetch turn | forget fetch | deliver fetch caller =>
        exact (h.performCache hline).passes

/-! ## Events -/

/-- What the cache does ends no operation. -/
theorem Sound.cacheMoves (h : session.Sound) {outcome : BranchCache × List CacheSignal}
    (hcache : outcome.1.Sound (session.cacheLine ++ outcome.2) ∧
      session.cache.Later outcome.1) : session.Rests (session.withCache outcome) :=
  (h.withCache hcache.1 hcache.2).rests rfl

theorem Sound.expire (h : session.Sound) (owner : DeadlineOwner) :
    session.Rests (session.expire owner) := by
  unfold Session.expire
  cases owner with
  | fetch fetch => exact h.cacheMoves (h.cache.expire fetch)
  | task task =>
    dsimp only
    split
    · next call owner repo hs => exact h.moveListing hs _ _
    · exact h.rests

theorem Sound.expireAll (h : session.Sound) (owners : List DeadlineOwner) :
    session.Rests (owners.foldl Session.expire session) := by
  induction owners generalizing session with
  | nil => exact h.rests
  | cons owner owners ih =>
    have hfirst := h.expire owner
    exact hfirst.trans (ih hfirst.moves.sound)

theorem Sound.advance (h : session.Sound) (span : Seconds) :
    session.Rests (session.advance span) := by
  have htimed := h.rests.setTimeline (session.timeline.advance span).1
  exact htimed.trans (htimed.moves.sound.expireAll _)

theorem Sound.answerListing (h : session.Sound) (task : TaskId)
    (result : CallEnd (List ChangeRequest)) :
    session.Rests (session.answerListing task result) := by
  unfold Session.answerListing
  split
  · next call owner repo hs => exact h.moveListing hs _ _
  · exact h.rests

theorem Sound.cancel (h : session.Sound) (task : TaskId) :
    session.Rests ((session.cancel task).getD session) := by
  unfold Session.cancel
  split
  · next waiting purpose cancelled hs =>
    have hfits : TaskState.Fits session.cache (.loading waiting purpose cancelled) := h.fits hs
    have hwait := h.wait hs rfl (.loading waiting purpose true) hfits rfl
    exact hwait.trans (hwait.moves.sound.cacheMoves (hwait.moves.sound.cache.abandon waiting task))
  · next call owner repo hs => exact h.moveListing hs _ _
  · exact h.rests

theorem Sound.setReadyBranches (h : session.Sound) (key : String) (reply : Option Reply) :
    session.Rests (session.setReadyBranches key reply) := by
  have hcache := h.cache.server (session.cache.server.setReady key reply)
  exact (h.setCache hcache ⟨fun hf => ⟨_, hf, .refl _⟩, .inl⟩).rests rfl

/-- What the user does leads the page nowhere. -/
theorem passes_run {α : Type} {action : Action α} (h : Action.Stays session action) :
    session.Passes (session.run action).1 := by
  unfold Action.Stays Action.Leads at h
  unfold Session.run
  cases hresult : action session <;> rw [hresult] at h <;> exact h.passes

/-- A launch leads the page to the URL that it gives back, and this URL compares two branches of the
selected repository. -/
theorem Sound.launch (h : session.Sound) :
    session.Moves (session.run Action.launch).1 session.launched?.toList ∧
      ∀ url, session.launched? = some url → session.Compares url := by
  have hlaunch := Action.leads_launch h
  unfold Action.Leads at hlaunch
  unfold Session.launched? Session.run
  cases hresult : Action.launch session with
  | ok given after =>
    rw [hresult] at hlaunch
    exact ⟨hlaunch.1.moves, hlaunch.2⟩
  | error crash after =>
    rw [hresult] at hlaunch
    exact ⟨hlaunch.moves, nofun⟩

/-- What one event preserves. -/
theorem Sound.step (h : session.Sound) (event : FlowEvent) :
    session.Moves (session.step event) (session.returned event) := by
  cases event with
  | begin operation => exact (h.begin operation).passes
  | turn place => exact h.turn place
  | pick side name => exact passes_run (Action.stays_pick h side name)
  | launch => exact h.launch.1
  | change name value => exact passes_run (Action.stays_change h name value)
  | answerFetch fetch result => exact (h.cacheMoves (h.cache.answer fetch result)).passes
  | answerListing task result => exact (h.answerListing task result).passes
  | expire owner => exact (h.expire owner).passes
  | advance span => exact (h.advance span).passes
  | cancel task => exact (h.cancel task).passes
  | setReadyBranches key reply => exact (h.setReadyBranches key reply).passes
  | setReadyPulls key reply => exact (h.withPulls _).passes

theorem after_append (session : Session) (events more : List FlowEvent) :
    session.after (events ++ more) = (session.after events).after more := List.foldl_append

/-- What a run preserves. -/
theorem Sound.after (h : session.Sound) (events : List FlowEvent) :
    session.Moves (session.after events) (session.returnedBy events) := by
  induction events generalizing session with
  | nil => exact h.goes.moves
  | cons event events ih =>
    have hfirst := h.step event
    exact hfirst.trans (ih hfirst.sound)

end Turns

/-- A session of a fresh cache begins soundly, on its page. -/
theorem sound_of_make {parts : Parts} {session : Session} (hmake : make parts = .ok session)
    {limit : Seconds} {ready : List (String × Reply)} (hcache : parts.cache = .fresh limit ready) :
    session.Sound ∧ session.page = parts.page := by
  unfold make at hmake
  dsimp only at hmake
  split at hmake
  · obtain rfl := Except.ok.inj hmake
    refine ⟨⟨?_, nofun, nofun, ?_⟩, rfl⟩
    · rw [hcache]
      exact BranchCache.sound_fresh limit ready
    · intro entry hentry name
      obtain ⟨control, hcontrol, rfl⟩ := List.mem_map.mp hentry
      obtain ⟨part, -, rfl⟩ := List.mem_map.mp hcontrol
      exact List.not_mem_nil
  · cases hmake

/-- What a session with the standard presets is made of, for which nothing is remembered. -/
def standardParts : Parts where
  defaultOwner := "paritytech"
  defaultRepo := "polkadot"
  limit := .whole 30
  table := .standard
  cache := .fresh (.whole 30) []
  hasPulls := false
  pulls := .fresh []
  store := ⟨[]⟩
  document := .absent
  page := .ofUrl "/"
  controls := [(.repo, true), (.old, true), (.new, true)]

def turns (count : Nat) : List FlowEvent := List.replicate count (.turn 0)

/-- A session that can be made and passes a check. -/
theorem exists_make_of_any {parts : Parts} {check : Session → Bool}
    (h : (make parts).toOption.any check = true) :
    ∃ session, make parts = .ok session ∧ check session = true := by
  cases hmake : make parts with
  | error missing =>
    rw [hmake] at h
    cases h
  | ok session =>
    rw [hmake] at h
    exact ⟨session, rfl, h⟩

end Session

end BranchCompare
