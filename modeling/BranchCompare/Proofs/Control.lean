import BranchCompare.Control

/-!
# Listeners that register listeners

A listener of a control may register more listeners with it each time it is told of a change, so
that the list of listeners grows while it is gone through.  A change goes through the list as it was
when the change began.  It tells everyone who was registered before, once and in order, and whoever
is registered meanwhile is told of the next change first.

What listeners do is left open: a `Reaction` may look at the new value and at a world that it
changes.  A control is `Watched` for what is registered and told.  `tells_change` says what one
change does, `told_run` whom a run of steps tells of what, and `Recording.change_ofWatched` that the
notes of recorders are what is told.
-/

namespace BranchCompare

namespace Control

/-- What is noted of a control. -/
inductive Note (L : Type) where
  | registers (listener : L)
  | tells (listener : L) (value : Json)

/-- A control in the world of its listeners, and all that was noted of it. -/
structure Watched (L W : Type) where
  control : Control L
  world : W
  notes : List (Note L)

/-- What a listener does that is told of a value: it registers listeners, and changes the world. -/
abbrev Reaction (L W : Type) := L → Json → W → List L × W

/-- What is done with a control. -/
inductive Step (L : Type) where
  | set (value : Json)
  | setOptions (options : List Json)
  | listen (listener : L)
  /-- The user changes the value. -/
  | change (value : Json)

namespace Step

variable {L : Type}

def isQuiet : Step L → Bool
  | change _ => false
  | _ => true

/-- The changes of a run, each with the steps before it. -/
def changes : List (Step L) → List (List (Step L) × Json)
  | [] => []
  | step :: rest =>
    let later := (changes rest).map fun (before, value) => (step :: before, value)
    match step with
    | change value => ([], value) :: later
    | _ => later

end Step

namespace Watched

variable {L W : Type}

def fresh (value : Json) (options : List Json) (world : W) : Watched L W :=
  ⟨⟨value, options, []⟩, world, []⟩

/-- All who were registered, in order. -/
def registered (state : Watched L W) : List L :=
  state.notes.filterMap fun
    | .registers listener => some listener
    | .tells .. => none

/-- All who were told, in order, and what they were told. -/
def told (state : Watched L W) : List (L × Json) :=
  state.notes.filterMap fun
    | .registers _ => none
    | .tells listener value => some (listener, value)

/-- Registers a listener. -/
def listen (state : Watched L W) (listener : L) : Watched L W :=
  { state with
    control := state.control.listen listener
    notes := state.notes ++ [.registers listener] }

/-- Tells a listener, which reacts. -/
def act (react : Reaction L W) (listener : L) (value : Json) (state : Watched L W) : Watched L W :=
  let (more, world) := react listener value state.world
  more.foldl listen
    { state with world := world, notes := state.notes ++ [.tells listener value] }

def change (react : Reaction L W) (state : Watched L W) (value : Json) : Watched L W :=
  Control.tell (act react) value state.control.listeners
    { state with control := state.control.set value }

/-- Takes a step. -/
def step (react : Reaction L W) (state : Watched L W) : Step L → Watched L W
  | .set value => { state with control := state.control.set value }
  | .setOptions options => { state with control := state.control.setOptions options }
  | .listen listener => state.listen listener
  | .change value => state.change react value

def run (react : Reaction L W) (state : Watched L W) (steps : List (Step L)) : Watched L W :=
  steps.foldl (step react) state

/-- The listeners of the control are those that were registered. -/
def Keeps (state : Watched L W) : Prop := state.control.listeners = state.registered

/-- From one state to the other the listeners are told of the value, in order, and more are
registered. -/
structure Tells (listeners : List L) (value : Json) (before after : Watched L W) : Prop where
  told : after.told = before.told ++ listeners.map fun listener => (listener, value)
  registers : ∃ more, after.registered = before.registered ++ more ∧
    after.control.listeners = before.control.listeners ++ more
  value : after.control.value = before.control.value

variable {react : Reaction L W} {state before after last : Watched L W} {listeners others : List L}
  {value : Json}

/-! ## One change -/

theorem Tells.refl (state : Watched L W) (value : Json) : Tells [] value state state :=
  ⟨(List.append_nil _).symm, ⟨[], (List.append_nil _).symm, (List.append_nil _).symm⟩, rfl⟩

theorem Tells.trans (h : Tells listeners value before after)
    (hlater : Tells others value after last) :
    Tells (listeners ++ others) value before last := by
  obtain ⟨more, hregistered, hlisteners⟩ := h.registers
  obtain ⟨rest, hregisteredLast, hlistenersLast⟩ := hlater.registers
  refine ⟨?_, ⟨more ++ rest, ?_, ?_⟩, hlater.value.trans h.value⟩
  · rw [hlater.told, h.told, List.map_append, List.append_assoc]
  · rw [hregisteredLast, hregistered, List.append_assoc]
  · rw [hlistenersLast, hlisteners, List.append_assoc]

/-- Registering tells nobody. -/
theorem tells_listen (state : Watched L W) (listener : L) (value : Json) :
    Tells [] value state (state.listen listener) := by
  refine ⟨?_, ⟨[listener], List.filterMap_append, rfl⟩, rfl⟩
  exact List.filterMap_append

theorem tells_foldl_listen (state : Watched L W) (more : List L) (value : Json) :
    Tells [] value state (more.foldl listen state) := by
  induction more generalizing state with
  | nil => exact .refl state value
  | cons listener more ih => exact (tells_listen state listener value).trans (ih _)

/-- A listener is told once, whatever it does. -/
theorem tells_act (react : Reaction L W) (listener : L) (value : Json) (state : Watched L W) :
    Tells [listener] value state (act react listener value state) := by
  let called : Watched L W :=
    { state with
      world := (react listener value state.world).2
      notes := state.notes ++ [.tells listener value] }
  have hcalled : Tells [listener] value state called := by
    refine ⟨List.filterMap_append, ⟨[], ?_, (List.append_nil _).symm⟩, rfl⟩
    exact List.filterMap_append
  exact hcalled.trans (tells_foldl_listen called (react listener value state.world).1 value)

/-- All of the listeners are told, whoever is registered meanwhile. -/
theorem tells_tell (react : Reaction L W) (value : Json) (listeners : List L)
    (state : Watched L W) :
    Tells listeners value state (Control.tell (act react) value listeners state) := by
  induction listeners generalizing state with
  | nil => exact .refl state value
  | cons listener listeners ih => exact (tells_act react listener value state).trans (ih _)

/-- A change gives the control its value and tells all who were registered before. -/
theorem Keeps.tells_change (h : state.Keeps) (react : Reaction L W) (value : Json) :
    Tells state.registered value { state with control := state.control.set value }
      (state.change react value) := by
  rw [← h]
  exact tells_tell react value _ _

theorem Tells.keeps (h : Tells listeners value before after) (hbefore : before.Keeps) :
    after.Keeps := by
  obtain ⟨more, hregistered, hlisteners⟩ := h.registers
  unfold Keeps
  rw [hregistered, hlisteners, hbefore]

/-! ## Runs of steps -/

theorem Keeps.step (h : state.Keeps) (react : Reaction L W) (step : Step L) :
    (state.step react step).Keeps := by
  cases step with
  | set value => exact h
  | setOptions options => exact h
  | listen listener => exact (tells_listen state listener .null).keeps h
  | change value => exact (h.tells_change react value).keeps h

theorem Keeps.run (h : state.Keeps) (react : Reaction L W) (steps : List (Step L)) :
    (state.run react steps).Keeps := by
  induction steps generalizing state with
  | nil => exact h
  | cons step steps ih => exact ih (h.step react step)

/-- A step that is no change tells nobody. -/
theorem tells_of_quiet {step : Step L} (hquiet : step.isQuiet = true) (react : Reaction L W)
    (state : Watched L W) :
    (state.step react step).told = state.told ∧
      ∃ own, (state.step react step).registered = state.registered ++ own := by
  cases step with
  | set value => exact ⟨rfl, [], (List.append_nil _).symm⟩
  | setOptions options => exact ⟨rfl, [], (List.append_nil _).symm⟩
  | listen listener =>
    have hlisten := tells_listen state listener .null
    obtain ⟨own, hregistered, -⟩ := hlisten.registers
    exact ⟨hlisten.told.trans (List.append_nil _), own, hregistered⟩
  | change value => cases hquiet

/-- Steps that change nothing tell nobody. -/
theorem told_of_quiet {steps : List (Step L)} (hquiet : ∀ step ∈ steps, step.isQuiet = true)
    (react : Reaction L W) (state : Watched L W) :
    (state.run react steps).told = state.told ∧
      ∃ own, (state.run react steps).registered = state.registered ++ own := by
  induction steps generalizing state with
  | nil => exact ⟨rfl, [], (List.append_nil _).symm⟩
  | cons step steps ih =>
    obtain ⟨hfirst, hrest⟩ := List.forall_mem_cons.mp hquiet
    obtain ⟨htold, own, hregistered⟩ := tells_of_quiet hfirst react state
    obtain ⟨htoldRest, more, hregisteredRest⟩ := ih hrest (state.step react step)
    refine ⟨htoldRest.trans htold, own ++ more, ?_⟩
    rw [← List.append_assoc, ← hregistered]
    exact hregisteredRest

/-- A run tells, change by change, all who were registered before the change. -/
theorem Keeps.told_run (h : state.Keeps) (react : Reaction L W) (steps : List (Step L)) :
    (state.run react steps).told = state.told ++ (Step.changes steps).flatMap fun change =>
      (state.run react change.1).registered.map fun listener => (listener, change.2) := by
  induction steps generalizing state with
  | nil => exact (List.append_nil _).symm
  | cons step steps ih =>
    have hrest := ih (h.step react step)
    have hlater : ∀ change : List (Step L) × Json,
        (state.step react step).run react change.1 = state.run react (step :: change.1) :=
      fun _ => rfl
    simp only [hlater] at hrest
    refine hrest.trans ?_
    cases hstep : step.isQuiet with
    | true =>
      have hchanges : Step.changes (step :: steps) =
          (Step.changes steps).map fun change => (step :: change.1, change.2) := by
        cases step with
        | change value => cases hstep
        | _ => rfl
      rw [(tells_of_quiet hstep react state).1, hchanges, List.flatMap_map]
    | false =>
      cases step with
      | change value =>
        have htold := (h.tells_change react value).told
        have hchanges : Step.changes (.change value :: steps) =
            ([], value) :: (Step.changes steps).map fun change =>
              (.change value :: change.1, change.2) := rfl
        rw [hchanges, List.flatMap_cons, List.flatMap_map, ← List.append_assoc]
        exact congrArg (· ++ _) htold
      | _ => cases hstep

/-! ## Options -/

/-- Of the options that replace the old ones, the value is one or is dropped. -/
theorem value_setOptions (control : Control L) (options : List Json) :
    ((control.setOptions options).value = .null ∨
      ∃ option ∈ options, Json.same (control.setOptions options).value option = true) ∧
    ((∃ option ∈ options, Json.same control.value option = true) →
      (control.setOptions options).value = control.value) := by
  have hvalue : (control.setOptions options).value =
      if isOption control.value options then control.value else .null := rfl
  have hoption : isOption control.value options = true ↔
      ∃ option ∈ options, Json.same control.value option = true := List.any_eq_true
  rw [hvalue]
  by_cases hmem : isOption control.value options = true
  · rw [if_pos hmem]
    exact ⟨.inr (hoption.mp hmem), fun _ => rfl⟩
  · rw [if_neg hmem]
    exact ⟨.inl rfl, fun hfound => absurd (hoption.mpr hfound) hmem⟩

/-- Whatever listeners register when they are told, a run of steps tells, change by change, all who
were registered before the change, once each, in order and of the new value.  Those who are
registered by a change are told by the next one first.  Other steps tell nobody, and of new options
the value is one, the same as before if it can be, or is dropped. -/
theorem told_of_run (react : Reaction L W) (value : Json) (options : List Json) (world : W)
    (steps : List (Step L)) :
    let start : Watched L W := .fresh value options world
    let state := start.run react steps
    (state.told = (Step.changes steps).flatMap fun change =>
      (start.run react change.1).registered.map fun listener => (listener, change.2)) ∧
    (∀ new, (state.step react (.change new)).control.value = new ∧
      (state.step react (.change new)).told =
        state.told ++ state.registered.map fun listener => (listener, new)) ∧
    (∀ new later between, (∀ step ∈ between, Step.isQuiet step = true) →
      let changed := state.step react (.change new)
      let reached := changed.run react between
      ∃ added own, changed.registered = state.registered ++ added ∧
        reached.registered = changed.registered ++ own ∧ reached.told = changed.told ∧
        (reached.step react (.change later)).told = reached.told ++
          (state.registered ++ added ++ own).map fun listener => (listener, later)) ∧
    (∀ new, (state.step react (.set new)).told = state.told) ∧
    ∀ offered, let next := state.step react (.setOptions offered)
      next.told = state.told ∧
      (next.control.value = .null ∨
        ∃ option ∈ offered, Json.same next.control.value option = true) ∧
      ((∃ option ∈ offered, Json.same state.control.value option = true) →
        next.control.value = state.control.value) := by
  intro start state
  have hstart : start.Keeps := rfl
  have hstate : state.Keeps := hstart.run react steps
  refine ⟨hstart.told_run react steps, fun new => ?_, fun new later between hquiet => ?_,
    fun new => rfl, fun offered => ⟨rfl, value_setOptions state.control offered⟩⟩
  · have hchange := hstate.tells_change react new
    exact ⟨hchange.value, hchange.told⟩
  · intro changed reached
    have hchanged : changed.Keeps := hstate.step react (.change new)
    have hreached : reached.Keeps := hchanged.run react between
    obtain ⟨added, hadded, -⟩ := (hstate.tells_change react new).registers
    obtain ⟨htold, own, hown⟩ := told_of_quiet hquiet react changed
    refine ⟨added, own, hadded, hown, htold, ?_⟩
    have hnext := (hreached.tells_change react later).told
    have hall : reached.registered = state.registered ++ added ++ own :=
      hown.trans (congrArg (· ++ own) hadded)
    rw [hall] at hnext
    exact hnext

/-- A listener that registers itself each time doubles the listeners. -/
theorem told_of_run_doubling :
    ((fresh .null [] () : Watched String Unit).run (fun listener _ world => ([listener], world))
      [.listen "a", .change (.int 1), .change (.int 2), .change (.int 3)]).told =
    [("a", .int 1), ("a", .int 2), ("a", .int 2), ("a", .int 3), ("a", .int 3), ("a", .int 3),
      ("a", .int 3)] :=
  (told_of_run (fun listener _ world => ([listener], world)) .null [] () _).1

end Watched

end Control

/-! ## Recorders -/

namespace Recording

open BranchCompare.Control (Reaction Watched)

/-- What a recorder does that is told of a change: it may register a recorder of another tag. -/
def react : Reaction Recorder Unit := fun listener _ world =>
  ((listener.adds.map fun tag => ⟨tag, none⟩).toList, world)

/-- The recording of a control that was watched. -/
def ofWatched (state : Watched Recorder Unit) : Recording :=
  ⟨state.control, state.told.map fun (listener, value) => (listener.tag, value)⟩

theorem act_ofWatched (listener : Recorder) (value : Json) (state : Watched Recorder Unit) :
    act listener value (ofWatched state) = ofWatched (Watched.act react listener value state) := by
  have hnotes := (Control.Watched.tells_act react listener value state).told
  unfold ofWatched
  rw [hnotes, List.map_append]
  unfold act Watched.act react
  cases listener.adds <;> rfl

/-- Recorders note what they are told. -/
theorem change_ofWatched (value : Json) (state : Watched Recorder Unit) :
    (ofWatched state).change value = ofWatched (state.change react value) := by
  have htell : ∀ (listeners : List Recorder) (reached : Watched Recorder Unit),
      Control.tell act value listeners (ofWatched reached) =
        ofWatched (Control.tell (Watched.act react) value listeners reached) := by
    intro listeners
    induction listeners with
    | nil => exact fun _ => rfl
    | cons listener listeners ih =>
      intro reached
      exact (congrArg _ (act_ofWatched listener value reached)).trans (ih _)
  exact htell state.control.listeners { state with control := state.control.set value }

end Recording

end BranchCompare
