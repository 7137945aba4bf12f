import BranchCompare.Url
import BranchCompare.Form
import BranchCompare.Text.Blank
import BranchCompare.Text.LowerCase

/-!
# The query of a URL

Reading and changing the names and values in the query of a URL.  Setting a name replaces its first
value in place and drops the others; a name that is missing is added at the end.  All other parts of
the URL stay as they are.
-/

namespace BranchCompare.Query

/-- The names and values of a URL in order. -/
def pairs (url : String) : Except Url.Fault (List Form.Pair) := do
  let url ← Url.split url
  return Form.decode url.query.toList

def dropName (name : String) (pairs : List Form.Pair) : List Form.Pair :=
  pairs.filter fun pair => pair.1 ≠ name

/-- The pairs with the first value of the name replaced and its others dropped, or with the new
pair at the end. -/
def setName (name value : String) : List Form.Pair → List Form.Pair
  | [] => [(name, value)]
  | pair :: rest =>
    if pair.1 = name then (name, value) :: dropName name rest else pair :: setName name value rest

/-- The URL with its query changed. -/
def edit (change : List Form.Pair → List Form.Pair) (url : String) : Except Url.Fault String := do
  let url ← Url.split url
  let query := Form.encode (change (Form.decode url.query.toList))
  return Url.join { url with query := String.ofList query }

def set (name value url : String) : Except Url.Fault String := edit (setName name value) url

def remove (name url : String) : Except Url.Fault String := edit (dropName name) url

def build (path : String) (pairs : List Form.Pair) : String :=
  String.ofList (path.toList ++ '?' :: Form.encode pairs)

def trueWords : List String := ["true", "1", "yes", "on"]

def falseWords : List String := ["false", "0", "no", "off"]

structure NotBoolean where
  text : String
  deriving DecidableEq, Repr

def NotBoolean.message (error : NotBoolean) : String := s!"Not a boolean: {Text.quoted error.text}"

/-- The truth value that a text names, in any case and with white space around it. -/
def flag (text : String) : Except NotBoolean Bool :=
  let word := Text.lower (Text.strip text)
  if trueWords.contains word then .ok true
  else if falseWords.contains word then .ok false
  else .error ⟨text⟩

/-- The text of a value in a query; nothing has none. -/
def textOf : Json → Option String
  | .null => none
  | .bool value => some (if value then "true" else "false")
  | value => some value.plainText

end BranchCompare.Query
