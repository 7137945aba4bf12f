import BranchCompare.Json.Value

/-!
# Controls

Inputs of a page.  A control has a value, a list of options, and listeners that are told when the
user changes it.  Setting the value tells nobody.
-/

namespace BranchCompare

/-- The names of the controls that go with the query of the page's URL. -/
inductive ControlName where
  | repo
  | threshold
  | pathPattern
  | old
  | new
  | measure
  | method
  | ignoreErrors
  deriving DecidableEq, Repr

namespace ControlName

/-- The name of the value in the query. -/
def label : ControlName → String
  | repo => "repo"
  | threshold => "threshold"
  | pathPattern => "path_pattern"
  | old => "old"
  | new => "new"
  | measure => "unit"
  | method => "method"
  | ignoreErrors => "ignore_errors"

def all : List ControlName :=
  [repo, threshold, pathPattern, old, new, measure, method, ignoreErrors]

structure Unknown where
  text : String
  deriving DecidableEq, Repr

def Unknown.message (error : Unknown) : String :=
  s!"{Text.quoted error.text} is not a valid ControlName"

/-- The name that a text stands for. -/
def ofLabel (text : String) : Except Unknown ControlName :=
  match all.find? fun name => name.label = text with
  | some name => .ok name
  | none => .error ⟨text⟩

end ControlName

/-- A control whose listeners are described by values of `L`, in the order of registration. -/
structure Control (L : Type) where
  value : Json
  options : List Json
  listeners : List L

namespace Control

variable {L : Type}

def empty : Control L := ⟨.null, [], []⟩

/-- Sets the value without telling anyone. -/
def set (control : Control L) (value : Json) : Control L := { control with value := value }

def isOption (value : Json) (options : List Json) : Bool := options.any (Json.same value)

/-- Replaces the options.  A value that is none of them is dropped. -/
def setOptions (control : Control L) (options : List Json) : Control L :=
  { control with
    options := options
    value := if isOption control.value options then control.value else .null }

def listen (control : Control L) (listener : L) : Control L :=
  { control with listeners := control.listeners ++ [listener] }

/-- Tells the given listeners of a new value, one after the other. -/
def tell {S : Type} (act : L → Json → S → S) (value : Json) (listeners : List L) (state : S) : S :=
  listeners.foldl (fun state listener => act listener value state) state

end Control

/-- A listener that notes each change under its tag.  It may also register a listener with another
tag each time it is told of a change. -/
structure Recorder where
  tag : Json
  adds : Option Json

/-- A control with listeners that note what they are told, and the notes. -/
structure Recording where
  control : Control Recorder
  notes : List (Json × Json)

namespace Recording

/-- Tells one listener of a new value. -/
def act (listener : Recorder) (value : Json) (state : Recording) : Recording :=
  { control := match listener.adds with
      | some tag => state.control.listen ⟨tag, none⟩
      | none => state.control
    notes := state.notes ++ [(listener.tag, value)] }

/-- A change by the user: every listener registered before is told. -/
def change (state : Recording) (value : Json) : Recording :=
  Control.tell act value state.control.listeners
    { state with control := state.control.set value }

end Recording

end BranchCompare
