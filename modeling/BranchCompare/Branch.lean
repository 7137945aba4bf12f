import BranchCompare.Json.Value

/-!
# Branches

A branch (or a tag) and the description of its last commit, and the choice of the branch that a
selector shows when a list of branches arrives.  Lists keep the order of the server.
-/

namespace BranchCompare

/-- A branch and the description of its last commit. -/
structure Branch where
  name : String
  lastCommit : String
  deriving DecidableEq, Repr

/-- A value that is no pair of a name and a commit. -/
structure NotAPair where
  value : Json

def NotAPair.message (error : NotAPair) : String :=
  s!"Expected a [name, commit] pair, got {error.value.display}"

namespace Branch

/-- The branch that a pair of values describes; what is no text is shown as one. -/
def ofPair : Json → Except NotAPair Branch
  | .array [name, commit] => .ok ⟨name.plainText, commit.plainText⟩
  | value => .error ⟨value⟩

/-- The branches of a list of pairs, up to the first value that is no pair. -/
def ofPairs : List Json → Except NotAPair (List Branch)
  | [] => .ok []
  | pair :: rest => do
    let branch ← ofPair pair
    let branches ← ofPairs rest
    return branch :: branches

/-- The branch that is chosen where no other one is. -/
def standard : String := "master"

def named (name : String) (branches : List Branch) : Bool :=
  branches.any fun branch => branch.name = name

/-- Whether the list can settle for the candidate. -/
def accepts (branches : List Branch) (candidate : String) : Bool :=
  candidate ≠ "" && named candidate branches

/-- The branch that a selector shows: the first of the value in the URL, the value chosen last, and
the standard branch that names a branch of the list. -/
def choose (branches : List Branch) (fromUrl chosenLast : Option String) : Option String :=
  let candidates := fromUrl.toList ++ chosenLast.toList ++ [standard]
  candidates.find? (accepts branches)

end Branch

end BranchCompare
