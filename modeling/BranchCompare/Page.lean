import BranchCompare.Control
import BranchCompare.Query

/-!
# The page

The page has a URL and a history of navigations.  Controls take their first values from the query
of the URL, and a change by the user leads to the URL with the changed query.
-/

namespace BranchCompare

/-- The URL of a page, and the URLs that it was led to. -/
structure Page where
  url : String
  history : List String
  deriving DecidableEq, Repr

namespace Page

def ofUrl (url : String) : Page := ⟨url, []⟩

def navigate (page : Page) (url : String) : Page := ⟨url, page.history ++ [url]⟩

def replace (page : Page) (url : String) : Page := { page with url := url }

/-- The first value of a name among pairs, or the default if there is none or it is empty. -/
def paramOf (name : String) (default : Option String) (pairs : List Form.Pair) : Option String :=
  match pairs.find? fun pair => pair.1 = name with
  | some pair => if pair.2 = "" then default else some pair.2
  | none => default

/-- The first value of a name in the query, or the default. -/
def param (page : Page) (name : String) (default : Option String) :
    Except Url.Fault (Option String) :=
  (Query.pairs page.url).map (paramOf name default)

/-- The row that the fragment of the URL names. -/
def row (page : Page) : Except Url.Fault (Option String) := do
  let url ← Url.split page.url
  let row := String.ofList (Form.unescape url.fragment.toList)
  return if row = "" then none else some row

/-- Leads to the URL with a value in the query changed.  An empty value is ignored. -/
def redirect (page : Page) (name : String) (value : Json) : Except Url.Fault Page :=
  match Query.textOf value with
  | none => .ok page
  | some text =>
    if text = "" then .ok page else (Query.set name text page.url).map page.navigate

/-- Changes a value in the query of the URL in place; an empty value is removed. -/
def replaceParam (page : Page) (name : String) (value : Json) : Except Url.Fault Page :=
  let text := (Query.textOf value).getD ""
  let changed := if text = "" then Query.remove name page.url else Query.set name text page.url
  changed.map page.replace

/-- The value that a control takes from a value of the query.  A truth value that cannot be read
gives none. -/
def seed (name : ControlName) (text : String) : Option Json :=
  match name with
  | .ignoreErrors => (Query.flag text).toOption.map Json.bool
  | _ => some (.text text)

/-- A control with the first value that the query has for it. -/
def seeded {L : Type} (page : Page) (name : ControlName) (control : Control L) :
    Except Url.Fault (Control L) := do
  match ← page.param name.label none with
  | some text =>
    match seed name text with
    | some value => return control.set value
    | none => return control
  | none => return control

end Page

/-- A listener that leads the page to the URL with the named value changed. -/
structure Redirector where
  name : ControlName
  deriving DecidableEq, Repr

/-- A page and controls by name. -/
structure BoundPage where
  page : Page
  controls : List (String × Control Redirector)

namespace BoundPage

inductive Error where
  | url (fault : Url.Fault)
  | name (error : ControlName.Unknown)
  /-- There is no control of this name. -/
  | noControl (name : String)
  deriving DecidableEq, Repr

/-- Binds the control of a name. -/
def bindOne (state : BoundPage) (name : String) : Except Error BoundPage := do
  let key ← (ControlName.ofLabel name).mapError .name
  let control := (OrderedMap.get? name state.controls).getD .empty
  let control ← (state.page.seeded key control).mapError .url
  return { state with controls := OrderedMap.put name (control.listen ⟨key⟩) state.controls }

/-- Binds controls in order, up to the first that cannot be bound. -/
def bindAll (state : BoundPage) : List String → BoundPage × Option Error
  | [] => (state, none)
  | name :: rest =>
    match state.bindOne name with
    | .ok bound => bound.bindAll rest
    | .error error => (state, some error)

/-- Makes new controls of the given names and binds them. -/
def bind (state : BoundPage) (names : List String) : BoundPage × Option Error :=
  let fresh := names.foldl (fun controls name => OrderedMap.put name .empty controls) state.controls
  { state with controls := fresh }.bindAll (OrderedMap.keys (OrderedMap.ofPairs
    (names.map fun name => (name, ()))))

def act (listener : Redirector) (value : Json) (page : Except Url.Fault Page) :
    Except Url.Fault Page := do
  (← page).redirect listener.name.label value

/-- A change of a control by the user.  The control keeps the value also when its listeners
fail. -/
def change (state : BoundPage) (name : String) (value : Json) : BoundPage × Option Error :=
  match OrderedMap.get? name state.controls with
  | none => (state, some (.noControl name))
  | some control =>
    let changed := { state with controls := OrderedMap.put name (control.set value) state.controls }
    match Control.tell act value control.listeners (.ok state.page) with
    | .ok page => ({ changed with page := page }, none)
    | .error fault => (changed, some (.url fault))

end BoundPage

end BranchCompare
