import BranchCompare.Schema.Field

/-!
# Change requests

An open request to merge one branch into another, read from the JSON of the service that lists
them.
-/

namespace BranchCompare

/-- An open change request. -/
structure ChangeRequest where
  number : Int
  title : String
  body : String
  author : String
  headRef : String
  baseRef : String
  /-- Nothing when the fork of the head branch is gone. -/
  headOwner : Option String
  baseOwner : String
  updatedAt : Timestamp
  url : Option String
  deriving DecidableEq, Repr

inductive MalformedRequest where
  /-- Something that should be an object is none. -/
  | notAnObject
  /-- An entry that has to be there is missing. -/
  | missingKey (key : String)
  /-- The entries have values of the wrong kind. -/
  | invalid (issues : List Schema.Issue)
  deriving DecidableEq, Repr

namespace ChangeRequest

open Schema

def fieldsOf : Json → Except MalformedRequest (List (String × Json))
  | .object fields => .ok fields
  | _ => .error .notAnObject

def entry (key : String) (fields : List (String × Json)) : Json :=
  (OrderedMap.get? key fields).getD .null

/-- The value of an entry that has to be there. -/
def neededEntry (key : String) (fields : List (String × Json)) : Except MalformedRequest Json :=
  match OrderedMap.get? key fields with
  | some value => .ok value
  | none => .error (.missingKey key)

/-- An entry that is an object; one that is empty in any way counts as an object without
entries. -/
def part (key : String) (fields : List (String × Json)) :
    Except MalformedRequest (List (String × Json)) :=
  let value := entry key fields
  if value.isEmpty then .ok [] else fieldsOf value

/-- A text; a value that is empty in any way counts as the empty text. -/
def textOrEmpty (value : Json) : Json := if value.isEmpty then .text "" else value

/-- The name of an account; the empty text where it has none. -/
def loginOrEmpty (account : List (String × Json)) : Json :=
  (OrderedMap.get? "login" account).getD (.text "")

/-- The change request that a value of the listing describes. -/
def ofListing (raw : Json) : Except MalformedRequest ChangeRequest := do
  let fields ← fieldsOf raw
  let head ← part "head" fields
  let base ← part "base" fields
  let number ← neededEntry "number" fields
  let author ← part "user" fields
  let headRef ← neededEntry "ref" head
  let baseRef ← neededEntry "ref" base
  let headOwner ← part "owner" (← part "repo" head)
  let baseOwner ← part "owner" (← part "repo" base)
  let updatedAt ← neededEntry "updated_at" fields
  let checked : Checked ChangeRequest := ChangeRequest.mk <$>
    named "number" whole number <*>
    named "title" text (textOrEmpty (entry "title" fields)) <*>
    named "body" text (textOrEmpty (entry "body" fields)) <*>
    named "author" text (loginOrEmpty author) <*>
    named "head_ref" text headRef <*>
    named "base_ref" text baseRef <*>
    named "head_owner" (orNothing text) (entry "login" headOwner) <*>
    named "base_owner" text (loginOrEmpty baseOwner) <*>
    named "updated_at" time updatedAt <*>
    named "url" (orNothing text) (entry "html_url" fields)
  checked.toExcept.mapError .invalid

end ChangeRequest

end BranchCompare
