import BranchCompare.Proofs.SelectionStore
import Mathlib.Data.List.Induction
import Mathlib.Logic.Function.Basic

/-!
# Stores that share a file

Several processes open a store on one path and set keys, in any order.  A store loads its values when
it is opened, and every change writes all of them.  The file therefore holds what the store that was
changed last holds: its own changes, and for the other keys the texts that it found when it was opened.
A change outlasts the changes of other keys by its own store and by stores opened after it
(`reopened_of_run`); by a store that was opened before it, it is lost (`reopened_overlapping`).

The invariant is that the file can be read and that the stores in use are orderly, so that a file that
a store wrote is read as that store (`Sound.step`).
-/

namespace BranchCompare

/-- What is done with stores on a path. -/
inductive ShareEvent (Holder : Type) where
  /-- A store is opened, in place of the one that its holder had. -/
  | opens (holder : Holder)
  /-- A key of the store of a holder is set. -/
  | sets (holder : Holder) (key : SelectionKey) (value : Option String)
  deriving DecidableEq

/-- What stands under a path, and the stores that were opened on it. -/
structure Sharing (Holder : Type) where
  document : Document
  held : Holder → Option SelectionStore

variable {Holder : Type}

namespace ShareEvent

def change? : ShareEvent Holder → Option (Holder × SelectionKey × Option String)
  | .opens _ => none
  | .sets holder key value => some (holder, key, value)

def changes (events : List (ShareEvent Holder)) : List (SelectionKey × Option String) :=
  (events.filterMap change?).map (·.2)

/-- Either nothing is changed, or there is a last change. -/
theorem changes_cases (events : List (ShareEvent Holder)) :
    changes events = [] ∨ ∃ earlier holder key value later,
      events = earlier ++ .sets holder key value :: later ∧ changes later = [] := by
  induction events with
  | nil => exact .inl rfl
  | cons event rest ih =>
    rcases ih with hnone | ⟨earlier, holder, key, value, later, rfl, hlater⟩
    · cases event with
      | opens holder => exact .inl hnone
      | sets holder key value => exact .inr ⟨[], holder, key, value, rest, rfl, hnone⟩
    · exact .inr ⟨event :: earlier, holder, key, value, later, rfl, hlater⟩

variable [DecidableEq Holder]

def changesBy (holder : Holder) (events : List (ShareEvent Holder)) :
    List (SelectionKey × Option String) :=
  ((events.filterMap change?).filter (·.1 = holder)).map (·.2)

theorem changesBy_sets_self (holder : Holder) (key : SelectionKey) (value : Option String)
    (rest : List (ShareEvent Holder)) :
    changesBy holder (.sets holder key value :: rest) = (key, value) :: changesBy holder rest := by
  have hhead : change? (.sets holder key value) = some (holder, key, value) := rfl
  unfold changesBy
  rw [List.filterMap_cons_some hhead, List.filter_cons_of_pos (by simp), List.map_cons]

/-- Changes by others do not count. -/
theorem changesBy_sets_of_ne {holder other : Holder} (h : other ≠ holder) (key : SelectionKey)
    (value : Option String) (rest : List (ShareEvent Holder)) :
    changesBy holder (.sets other key value :: rest) = changesBy holder rest := by
  have hhead : change? (.sets other key value) = some (other, key, value) := rfl
  unfold changesBy
  rw [List.filterMap_cons_some hhead, List.filter_cons_of_neg (by simpa using h)]

/-- Keys are set through the holders only and through stores that the events open before. -/
def attended (holders : List Holder) : List (ShareEvent Holder) → Bool
  | [] => true
  | .opens holder :: rest => attended (holder :: holders) rest
  | .sets holder _ _ :: rest => decide (holder ∈ holders) && attended holders rest

end ShareEvent

namespace Sharing

open SelectionStore ShareEvent

variable {shared next final : Sharing Holder} {holder : Holder} {key : SelectionKey}
  {value : Option String} {store : SelectionStore} {document : Document} {holders : List Holder}
  {events later : List (ShareEvent Holder)}

def unopened (document : Document) : Sharing Holder := ⟨document, fun _ => none⟩

/-- What stands under the path can be read, and the stores in use are orderly. -/
structure Sound (shared : Sharing Holder) : Prop where
  readable : ∃ store, ofDocument shared.document = .ok store
  orderly : ∀ holder store, shared.held holder = some store → store.Orderly

/-- A file that nobody has opened is sound. -/
theorem sound_unopened (h : ofDocument document = .ok store) :
    (unopened document : Sharing Holder).Sound := ⟨⟨store, h⟩, nofun⟩

/-- A store that was changed is found under its path. -/
theorem Sound.readable_changed (h : shared.Sound) (hheld : shared.held holder = some store)
    (key : SelectionKey) (value : Option String) :
    ofDocument (.ofText (store.assign key value).fileText) = .ok (store.assign key value) :=
  ofDocument_fileText ((h.orderly holder store hheld).assign key value)

variable [DecidableEq Holder]

def hold (shared : Sharing Holder) (holder : Holder) (store : SelectionStore) : Sharing Holder :=
  { shared with held := Function.update shared.held holder (some store) }

def save (shared : Sharing Holder) (holder : Holder) (store : SelectionStore) : Sharing Holder :=
  { shared with document := .ofText store.fileText }.hold holder store

/-- The path and its stores after an event, if it succeeds. -/
def step (shared : Sharing Holder) : ShareEvent Holder → Option (Sharing Holder)
  | .opens holder => (ofDocument shared.document).toOption.map (shared.hold holder)
  | .sets holder key value => do
    let store ← shared.held holder
    let (changed, outcome) := store.set key value shared.document
    let document ← outcome.toOption
    return { shared with document }.hold holder changed

def run (shared : Sharing Holder) (events : List (ShareEvent Holder)) : Option (Sharing Holder) :=
  events.foldlM step shared

/-! ## Single events -/

theorem held_hold_self : (shared.hold holder store).held holder = some store :=
  Function.update_self ..

theorem held_hold_of_ne {other : Holder} (h : other ≠ holder) :
    (shared.hold holder store).held other = shared.held other := Function.update_of_ne h ..

theorem held_save_of_ne {other : Holder} (h : other ≠ holder) :
    (shared.save holder store).held other = shared.held other := held_hold_of_ne h

/-- By opening the file its holder comes to hold what it says. -/
theorem step_opens (h : shared.step (.opens holder) = some next) :
    ∃ store, ofDocument shared.document = .ok store ∧ next = shared.hold holder store := by
  unfold step at h
  cases hopen : ofDocument shared.document with
  | error error => rw [hopen] at h; cases h
  | ok store =>
    rw [hopen] at h
    exact ⟨store, rfl, (Option.some.inj h).symm⟩

/-- By a change the holder writes all that it holds. -/
theorem step_sets (h : shared.step (.sets holder key value) = some next) :
    ∃ store, shared.held holder = some store ∧
      next = shared.save holder (store.assign key value) := by
  simp only [step] at h
  cases hheld : shared.held holder with
  | none => rw [hheld] at h; cases h
  | some store =>
    rw [hheld] at h
    refine ⟨store, rfl, ?_⟩
    cases hdocument : shared.document with
    | directory => rw [hdocument] at h; cases h
    | absent | file octets =>
      rw [hdocument] at h
      exact (Option.some.inj h).symm

theorem step_opens_of (h : ofDocument shared.document = .ok store) :
    shared.step (.opens holder) = some (shared.hold holder store) := by
  simp [step, h, Except.toOption]

theorem step_sets_of (hheld : shared.held holder = some store)
    (hfile : shared.document ≠ .directory) :
    shared.step (.sets holder key value) = some (shared.save holder (store.assign key value)) := by
  simp only [step, hheld]
  cases hdocument : shared.document with
  | directory => exact absurd hdocument hfile
  | absent | file octets => rfl

theorem Sound.hold (h : shared.Sound) (hstore : store.Orderly) :
    (shared.hold holder store).Sound := by
  refine ⟨h.readable, fun other found hfound => ?_⟩
  by_cases hother : other = holder
  · subst hother
    rw [held_hold_self] at hfound
    exact Option.some.inj hfound ▸ hstore
  · rw [held_hold_of_ne hother] at hfound
    exact h.orderly other found hfound

/-- Each event keeps the file and the stores sound. -/
theorem Sound.step (h : shared.Sound) {event : ShareEvent Holder}
    (hstep : shared.step event = some next) : next.Sound := by
  cases event with
  | opens holder =>
    obtain ⟨store, hopen, rfl⟩ := step_opens hstep
    exact h.hold (ofDocument_spec hopen).1
  | sets holder key value =>
    obtain ⟨store, hheld, rfl⟩ := step_sets hstep
    have hchanged := (h.orderly holder store hheld).assign key value
    have hwritten : Sound { shared with document := .ofText (store.assign key value).fileText } :=
      ⟨⟨_, h.readable_changed hheld key value⟩, h.orderly⟩
    exact hwritten.hold hchanged

/-! ## Runs -/

theorem run_cons {event : ShareEvent Holder} (h : shared.run (event :: events) = some final) :
    ∃ next, shared.step event = some next ∧ next.run events = some final :=
  Option.bind_eq_some_iff.mp h

theorem run_append (h : shared.run (events ++ later) = some final) :
    ∃ next, shared.run events = some next ∧ next.run later = some final := by
  unfold run at h
  rw [List.foldlM_append] at h
  exact Option.bind_eq_some_iff.mp h

/-- A run ends with its last event. -/
theorem run_concat {event : ShareEvent Holder} (h : shared.run (events ++ [event]) = some final) :
    ∃ next, shared.run events = some next ∧ next.step event = some final := by
  obtain ⟨next, hrun, hlast⟩ := run_append h
  obtain ⟨after, hstep, hend⟩ := run_cons hlast
  exact ⟨next, hrun, hstep.trans hend⟩

theorem run_concat_of {event : ShareEvent Holder} (hrun : shared.run events = some next)
    (hstep : next.step event = some final) : shared.run (events ++ [event]) = some final := by
  unfold run at hrun ⊢
  rw [List.foldlM_append, hrun]
  exact Option.bind_eq_some_iff.mpr ⟨next, rfl, Option.bind_eq_some_iff.mpr ⟨final, hstep, rfl⟩⟩

theorem Sound.run (h : shared.Sound) (hrun : shared.run events = some final) : final.Sound := by
  induction events generalizing shared with
  | nil => exact Option.some.inj hrun ▸ h
  | cons event rest ih =>
    obtain ⟨next, hstep, hrest⟩ := run_cons hrun
    exact ih (h.step hstep) hrest

/-- Where a file can be written, all events succeed in which keys are set through open stores. -/
theorem exists_run (hsound : shared.Sound) (hfile : shared.document ≠ .directory)
    (hheld : ∀ holder ∈ holders, ∃ store, shared.held holder = some store)
    (hby : attended holders events = true) : ∃ final, shared.run events = some final := by
  induction events generalizing shared holders with
  | nil => exact ⟨shared, rfl⟩
  | cons event rest ih =>
    suffices ∃ next, shared.step event = some next ∧ ∃ final, next.run rest = some final by
      obtain ⟨next, hstep, final, hrest⟩ := this
      exact ⟨final, Option.bind_eq_some_iff.mpr ⟨next, hstep, hrest⟩⟩
    cases event with
    | opens holder =>
      obtain ⟨store, hopen⟩ := hsound.readable
      have hstep : shared.step (.opens holder) = some _ := step_opens_of hopen
      refine ⟨_, hstep, ih (hsound.step hstep) hfile (fun other hother => ?_) hby⟩
      by_cases heq : other = holder
      · rw [heq]
        exact ⟨store, held_hold_self⟩
      · rw [held_hold_of_ne heq]
        exact hheld other ((List.mem_cons.mp hother).resolve_left heq)
    | sets holder key value =>
      obtain ⟨hholder, hlater⟩ := Bool.and_eq_true_iff.mp hby
      obtain ⟨store, hstore⟩ := hheld holder (of_decide_eq_true hholder)
      have hstep : shared.step (.sets holder key value) = some _ := step_sets_of hstore hfile
      refine ⟨_, hstep, ih (hsound.step hstep) nofun (fun other hother => ?_) hlater⟩
      by_cases heq : other = holder
      · rw [heq]
        exact ⟨_, held_hold_self⟩
      · rw [held_save_of_ne heq]
        exact hheld other hother

/-- Without changes the file stays as it is. -/
theorem document_run (hnone : changes events = []) (hrun : shared.run events = some final) :
    final.document = shared.document := by
  induction events generalizing shared with
  | nil => exact Option.some.inj hrun ▸ rfl
  | cons event rest ih =>
    obtain ⟨next, hstep, hrest⟩ := run_cons hrun
    cases event with
    | opens holder =>
      obtain ⟨store, -, rfl⟩ := step_opens hstep
      exact (ih hnone hrest).trans rfl
    | sets holder key value => cases hnone

/-- A store that stays in use has what its holder set last, and otherwise what it had. -/
theorem held_run (hheld : shared.held holder = some store) (hkept : .opens holder ∉ events)
    (hrun : shared.run events = some final) :
    ∃ live, final.held holder = some live ∧
      ∀ key, live.get? key = (lastSet? key (changesBy holder events)).getD (store.get? key) := by
  induction events generalizing shared store with
  | nil => exact ⟨store, Option.some.inj hrun ▸ hheld, fun _ => rfl⟩
  | cons event rest ih =>
    obtain ⟨next, hstep, hrest⟩ := run_cons hrun
    rw [List.mem_cons, not_or] at hkept
    obtain ⟨hevent, hlater⟩ := hkept
    cases event with
    | opens other =>
      obtain ⟨found, -, rfl⟩ := step_opens hstep
      have hother : holder ≠ other := fun heq => hevent (congrArg _ heq)
      exact ih ((held_hold_of_ne hother).trans hheld) hlater hrest
    | sets other key value =>
      obtain ⟨found, hfound, rfl⟩ := step_sets hstep
      by_cases hother : holder = other
      · subst hother
        cases hheld.symm.trans hfound
        obtain ⟨live, hlive, hvalues⟩ := ih held_hold_self hlater hrest
        refine ⟨live, hlive, fun asked => ?_⟩
        rw [hvalues, changesBy_sets_self, lastSet?, get?_assign]
        cases lastSet? asked (changesBy holder rest) with
        | some last => rfl
        | none =>
          by_cases heq : asked = key
          · simp [heq]
          · simp [heq, Ne.symm heq]
      · rw [changesBy_sets_of_ne (Ne.symm hother)]
        exact ih ((held_save_of_ne hother).trans hheld) hlater hrest

/-- Who has a store opened it, and has kept it since. -/
theorem exists_opens (hrun : (unopened document).run events = some final)
    (hheld : final.held holder = some store) :
    ∃ earlier between, events = earlier ++ .opens holder :: between ∧ .opens holder ∉ between := by
  induction events using List.reverseRec generalizing final store with
  | nil => cases Option.some.inj hrun; cases hheld
  | append_singleton events event ih =>
    obtain ⟨before, hbefore, hstep⟩ := run_concat hrun
    by_cases hopens : event = .opens holder
    · exact ⟨events, [], hopens ▸ rfl, List.not_mem_nil⟩
    have hhad : ∃ store, before.held holder = some store := by
      cases event with
      | opens other =>
        obtain ⟨found, -, rfl⟩ := step_opens hstep
        have hother : holder ≠ other := fun heq => hopens (congrArg _ heq.symm)
        exact ⟨store, (held_hold_of_ne hother).symm.trans hheld⟩
      | sets other key value =>
        obtain ⟨found, hfound, rfl⟩ := step_sets hstep
        by_cases hother : holder = other
        · exact ⟨found, hother ▸ hfound⟩
        · exact ⟨store, (held_save_of_ne hother).symm.trans hheld⟩
    obtain ⟨had, hhad⟩ := hhad
    obtain ⟨earlier, between, rfl, hkept⟩ := ih hbefore hhad
    refine ⟨earlier, between ++ [event], by simp, fun hmem => ?_⟩
    rcases List.mem_append.mp hmem with hmem | hmem
    · exact hkept hmem
    · exact hopens (List.mem_singleton.mp hmem).symm

/-- What stands under the path and the stores of the holders have a value for a key. -/
structure Gives (shared : Sharing Holder) (holders : List Holder) (key : SelectionKey)
    (value : Option String) : Prop where
  written : ∃ store, ofDocument shared.document = .ok store ∧ store.get? key = value
  held : ∀ holder ∈ holders, ∀ store, shared.held holder = some store → store.get? key = value

/-- Whoever comes to hold the value gives it as well. -/
theorem Gives.hold (h : shared.Gives holders key value) (hstore : store.get? key = value) :
    (shared.hold holder store).Gives (holder :: holders) key value := by
  refine ⟨h.written, fun other hother found hfound => ?_⟩
  by_cases heq : other = holder
  · subst heq
    rw [held_hold_self] at hfound
    exact Option.some.inj hfound ▸ hstore
  · rw [held_hold_of_ne heq] at hfound
    exact h.held other ((List.mem_cons.mp hother).resolve_left heq) found hfound

/-- What is written gives the value to all who hold it. -/
theorem Gives.save (h : shared.Gives holders key value)
    (hwritten : ofDocument (.ofText store.fileText) = .ok store) (hstore : store.get? key = value) :
    (shared.save holder store).Gives holders key value := by
  have hgives : Gives { shared with document := .ofText store.fileText } holders key value :=
    ⟨⟨store, hwritten, hstore⟩, h.held⟩
  exact ⟨(hgives.hold hstore).written, fun other hother =>
    (hgives.hold hstore).held other (List.mem_cons_of_mem holder hother)⟩

/-- Where only the holders and those who open a store later set keys, and never this one, it is
found as it was. -/
theorem Gives.run (h : shared.Gives holders key value) (hsound : shared.Sound)
    (hby : attended holders events = true) (hspared : lastSet? key (changes events) = none)
    (hrun : shared.run events = some final) :
    ∃ store, ofDocument final.document = .ok store ∧ store.get? key = value := by
  induction events generalizing shared holders with
  | nil => exact Option.some.inj hrun ▸ h.written
  | cons event rest ih =>
    obtain ⟨next, hstep, hrest⟩ := run_cons hrun
    have hnext := hsound.step hstep
    cases event with
    | opens holder =>
      obtain ⟨store, hopen, rfl⟩ := step_opens hstep
      obtain ⟨written, hwritten, hvalue⟩ := h.written
      cases hopen.symm.trans hwritten
      exact ih (h.hold hvalue) hnext hby hspared hrest
    | sets holder other text =>
      obtain ⟨hholder, hlater⟩ := Bool.and_eq_true_iff.mp hby
      obtain ⟨hrestSpared, hother⟩ := Option.or_eq_none_iff.mp hspared
      have hkey : key ≠ other := by
        rintro rfl
        rw [if_pos rfl] at hother
        cases hother
      obtain ⟨store, hstore, rfl⟩ := step_sets hstep
      have hvalue : (store.assign other text).get? key = value := by
        rw [get?_assign, if_neg hkey]
        exact h.held holder (of_decide_eq_true hholder) store hstore
      exact ih (h.save (hsound.readable_changed hstore other text) hvalue) hnext hlater hrestSpared
        hrest

/-- After the last change, a store that is opened has what the changed store has: what its holder set
since it was opened, or else the text that was held then. -/
theorem Sound.reopened_of_last {between : List (ShareEvent Holder)} (hsound : shared.Sound)
    (hkept : .opens holder ∉ between) (hlater : changes later = [])
    (hrun : shared.run (.opens holder :: between ++ .sets holder key value :: later) = some final) :
    ∃ reopened, ofDocument final.document = .ok reopened ∧ ∀ asked, reopened.get? asked =
      (lastSet? asked (changesBy holder (between ++ [.sets holder key value]))).getD
        (shared.document.heldText? asked) := by
  obtain ⟨next, hopens, hrest⟩ := run_cons hrun
  have hnext := hsound.step hopens
  obtain ⟨found, hfound, rfl⟩ := step_opens hopens
  obtain ⟨ready, hbetween, hsince⟩ := run_append hrest
  obtain ⟨changed, hset, hlast⟩ := run_cons hsince
  have hown := run_concat_of hbetween hset
  obtain ⟨store, hheld, rfl⟩ := step_sets hset
  have hwritten := (hnext.run hbetween).readable_changed hheld key value
  have hkept' : .opens holder ∉ between ++ [.sets holder key value] := by simpa using hkept
  obtain ⟨live, hlive, hvalues⟩ := held_run held_hold_self hkept' hown
  cases held_hold_self.symm.trans hlive
  have hdocument : final.document = .ofText (store.assign key value).fileText :=
    document_run hlater hlast
  refine ⟨_, hdocument ▸ hwritten, fun asked => ?_⟩
  rw [hvalues, (ofDocument_spec hfound).2]

/-- Stores are opened on a path and changed, with success.  A store that is opened afterwards has, for
every key, what the store that was changed last has: what its holder set last since it was opened, or
else the text that was held for the key then.  What was set of a key is found as long as only other
keys are set since then, through the same store and through stores that were opened later. -/
theorem reopened_of_run {initial : SelectionStore} (hinitial : ofDocument document = .ok initial)
    (hrun : (unopened document).run events = some final) :
    ∃ reopened, ofDocument final.document = .ok reopened ∧
      (changes events = [] ∧ (∀ key, reopened.get? key = document.heldText? key) ∨
        ∃ earlier holder between key value later opened,
          events = earlier ++ (.opens holder :: between ++ .sets holder key value :: later) ∧
          .opens holder ∉ between ∧ changes later = [] ∧
          (unopened document).run earlier = some opened ∧
          ∀ asked, reopened.get? asked =
            (lastSet? asked (changesBy holder (between ++ [.sets holder key value]))).getD
              (opened.document.heldText? asked)) ∧
      ∀ earlier holder key value later, events = earlier ++ .sets holder key value :: later →
        attended [holder] later = true → lastSet? key (changes later) = none →
        reopened.get? key = value := by
  have hstart : (unopened document : Sharing Holder).Sound := sound_unopened hinitial
  obtain ⟨reopened, hreopened⟩ := (hstart.run hrun).readable
  refine ⟨reopened, hreopened, ?_, ?_⟩
  · rcases changes_cases events with hnone | ⟨before, holder, key, value, later, rfl, hlater⟩
    · rw [document_run hnone hrun] at hreopened
      exact .inl ⟨hnone, (ofDocument_spec hreopened).2⟩
    · obtain ⟨ready, hbefore, hset⟩ := run_append hrun
      obtain ⟨changed, hstep, -⟩ := run_cons hset
      obtain ⟨store, hheld, -⟩ := step_sets hstep
      obtain ⟨earlier, between, rfl, hkept⟩ := exists_opens hbefore hheld
      rw [List.append_assoc] at hrun
      obtain ⟨opened, hearlier, hsince⟩ := run_append hrun
      obtain ⟨last, hlast, hvalues⟩ := (hstart.run hearlier).reopened_of_last hkept hlater hsince
      cases hlast.symm.trans hreopened
      exact .inr ⟨earlier, holder, between, key, value, later, opened, List.append_assoc .., hkept,
        hlater, hearlier, hvalues⟩
  · rintro earlier holder key value later rfl hby hspared
    obtain ⟨ready, hbefore, hset⟩ := run_append hrun
    obtain ⟨changed, hstep, hlater⟩ := run_cons hset
    have hready := hstart.run hbefore
    have hchanged := hready.step hstep
    obtain ⟨store, hheld, rfl⟩ := step_sets hstep
    have hvalue : (store.assign key value).get? key = value := by rw [get?_assign, if_pos rfl]
    have hgives : (ready.save holder (store.assign key value)).Gives [holder] key value := by
      refine ⟨⟨_, hready.readable_changed hheld key value, hvalue⟩, fun other hother found hfound => ?_⟩
      cases List.mem_singleton.mp hother
      cases held_hold_self.symm.trans hfound
      exact hvalue
    obtain ⟨last, hlast, hget⟩ := hgives.run hchanged hby hspared hlater
    cases hlast.symm.trans hreopened
    exact hget

/-- A store is opened after another one was changed. -/
def inTurn : List (ShareEvent Bool) :=
  [.opens false, .sets false .first (some "dev"), .opens true, .sets true .second (some "main"),
    .sets true .repo none]

theorem reopened_inTurn : ∃ final reopened,
    (unopened .absent).run inTurn = some final ∧ ofDocument final.document = .ok reopened ∧
      reopened.get? .first = some "dev" ∧ reopened.get? .second = some "main" := by
  have hempty : ofDocument .absent = .ok ⟨[]⟩ := rfl
  have hattended : attended [] inTurn = true := by decide
  obtain ⟨final, hrun⟩ := exists_run (sound_unopened hempty) nofun (by simp) hattended
  obtain ⟨reopened, hreopened, -, hspared⟩ := reopened_of_run hempty hrun
  refine ⟨final, reopened, hrun, hreopened, ?_, ?_⟩
  · exact hspared [.opens false] false _ _ _ rfl (by decide) (by decide)
  · exact hspared (inTurn.take 3) true _ _ [.sets true .repo none] rfl (by decide) (by decide)

/-- A store is opened before another one is changed, and changed after it. -/
def overlapping : List (ShareEvent Bool) :=
  [.opens false, .opens true, .sets false .first (some "dev"), .sets true .second (some "main")]

def emptyFile : Document := .ofText (fileText ⟨[]⟩)

/-- What was set of one key is lost when the other store sets another key. -/
theorem reopened_overlapping : ∃ final reopened,
    (unopened emptyFile).run overlapping = some final ∧ ofDocument final.document = .ok reopened ∧
      lastSet? .first (changes overlapping) = some (some "dev") ∧ reopened.get? .first = none := by
  have hempty : ofDocument emptyFile = .ok ⟨[]⟩ := by decide +kernel
  have hstart : (unopened emptyFile : Sharing Bool).Sound := sound_unopened hempty
  have hattended : attended [] overlapping = true := by decide
  obtain ⟨final, hrun⟩ := exists_run hstart nofun (by simp) hattended
  obtain ⟨opened, hopens, hrest⟩ := run_cons hrun
  have hkept : (.opens true : ShareEvent Bool) ∉ [.sets false .first (some "dev")] := by decide
  obtain ⟨reopened, hreopened, hvalues⟩ := (hstart.step hopens).reopened_of_last hkept rfl hrest
  obtain ⟨store, -, rfl⟩ := step_opens hopens
  have hheld : emptyFile.heldText? .first = none := by decide +kernel
  exact ⟨final, reopened, hrun, hreopened, by decide, (hvalues .first).trans hheld⟩

end Sharing

end BranchCompare
