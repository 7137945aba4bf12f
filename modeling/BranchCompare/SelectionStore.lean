import BranchCompare.Document
import BranchCompare.Json.Reader
import BranchCompare.Json.Writer

/-!
# The last selection

The repository and the branches that were chosen last, kept in a JSON file.  Every change writes
the whole file.  A file that cannot be used counts as an empty one, apart from one that is not
UTF-8.
-/

namespace BranchCompare

/-- What is remembered. -/
inductive SelectionKey where
  | repo
  | first
  | second
  deriving DecidableEq, Repr

namespace SelectionKey

/-- The name of a key in the file. -/
def label : SelectionKey → String
  | repo => "selected_repo"
  | first => "selected_first"
  | second => "selected_second"

def all : List SelectionKey := [repo, first, second]

structure Unknown where
  value : Json

def Unknown.message (error : Unknown) : String :=
  s!"Unknown selection key: {error.value.display}"

def ofLabel? (text : String) : Option SelectionKey := all.find? fun key => key.label = text

def ofJson (value : Json) : Except Unknown SelectionKey :=
  match value.text?.bind ofLabel? with
  | some key => .ok key
  | none => .error ⟨value⟩

end SelectionKey

/-- The values that are remembered, under the names of their keys in the order of writing. -/
structure SelectionStore where
  values : List (String × String)
  deriving DecidableEq, Repr

namespace SelectionStore

inductive OpenError where
  /-- The file is not UTF-8. -/
  | decode (fault : Text.DecodeFault)
  /-- The file holds a whole number with too many digits. -/
  | tooManyDigits (count : Nat)
  deriving DecidableEq, Repr

/-- The value of a field of the file, if it belongs to a key and is a text. -/
def keptField (field : String × Json) : Option (String × String) :=
  if (SelectionKey.ofLabel? field.1).isSome then
    field.2.text?.map fun value => (field.1, value)
  else none

def ofJson : Json → SelectionStore
  | .object fields => ⟨fields.filterMap keptField⟩
  | _ => ⟨[]⟩

/-- The store that a text stands for. -/
def ofText (text : List Char) : Except OpenError SelectionStore :=
  match Json.read text with
  | .ok value => .ok (ofJson value)
  | .error (.tooManyDigits count) => .error (.tooManyDigits count)
  | .error (.malformed ..) => .ok ⟨[]⟩

/-- Opens the store that a document holds. -/
def ofDocument : Document → Except OpenError SelectionStore
  | .file octets =>
    match Document.textOf octets with
    | .ok text => ofText text
    | .error fault => .error (.decode fault)
  | _ => .ok ⟨[]⟩

def get? (store : SelectionStore) (key : SelectionKey) : Option String :=
  OrderedMap.get? key.label store.values

/-- The store with the value of a key changed; no value removes it. -/
def assign (store : SelectionStore) (key : SelectionKey) (value : Option String) :
    SelectionStore :=
  match value with
  | some text => ⟨OrderedMap.put key.label text store.values⟩
  | none => ⟨OrderedMap.erase key.label store.values⟩

def fileText (store : SelectionStore) : List Char :=
  (Json.object (store.values.map fun entry => (entry.1, .text entry.2))).writeIndented 0

/-- Changes the value of a key and writes the file.  When the file cannot be written the change is
made all the same. -/
def set (store : SelectionStore) (key : SelectionKey) (value : Option String)
    (document : Document) : SelectionStore × Except AccessError Document :=
  let changed := store.assign key value
  (changed, document.write changed.fileText)

end SelectionStore

end BranchCompare
