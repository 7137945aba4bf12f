import BranchCompare.Proofs.Workflow.ViewChanges

/-!
# The candidates for a selector

A selector looks for a branch under the name that is given for it, the name that was chosen last and
the standard one, in this order.  It shows the first of them that is not empty and names a branch of
the list (`choose_eq_firstNamed`).
-/

namespace BranchCompare

open BranchCompare.Action (nonEmpty)

namespace Branch

variable {branches : List Branch} {given chosenLast : Option String} {name : String}

/-- The names that a branch is looked for under, in order.  Empty ones are passed over. -/
def candidates (given chosenLast : Option String) : List String :=
  [given, chosenLast, some standard].filterMap nonEmpty

/-- The first candidate that names a branch of the list. -/
def firstNamed? (branches : List Branch) (given chosenLast : Option String) : Option String :=
  (candidates given chosenLast).find? fun name => named name branches

theorem candidates_nonEmpty (given chosenLast : Option String) :
    candidates (nonEmpty given) chosenLast = candidates given chosenLast := by
  unfold candidates
  simp only [List.filterMap_cons, Action.nonEmpty_nonEmpty]

/-- A selector shows the first candidate that names a branch. -/
theorem choose_eq_firstNamed (branches : List Branch) (given chosenLast : Option String) :
    choose branches given chosenLast = firstNamed? branches given chosenLast := by
  have hgiven : given.toList ++ chosenLast.toList ++ [standard] =
      [given, chosenLast, some standard].filterMap id := by
    cases given <;> cases chosenLast <;> rfl
  have hnonEmpty : candidates given chosenLast =
      ([given, chosenLast, some standard].filterMap id).filter (· ≠ "") :=
    (List.filter_filterMap ..).symm
  unfold firstNamed? choose
  rw [hgiven, hnonEmpty, List.find?_filter]
  dsimp only
  congr 1
  funext name
  simp [accepts]

theorem firstNamed?_ne (h : firstNamed? branches given chosenLast = some name) : name ≠ "" := by
  obtain ⟨text, -, htext⟩ := List.mem_filterMap.mp (List.mem_of_find?_eq_some h)
  exact (Action.mem_of_nonEmpty htext).2

end Branch

/-- What a page says of a name is the first value of the name, unless it is empty. -/
theorem Page.paramOf_eq_nonEmpty (name : String) (pairs : List Form.Pair) :
    Page.paramOf name none pairs = nonEmpty (pairs.lookup name) := by
  induction pairs with
  | nil => rfl
  | cons pair rest ih =>
    obtain ⟨key, value⟩ := pair
    by_cases hname : key = name
    · subst hname
      have hfirst : Page.paramOf key none ((key, value) :: rest) =
          if value = "" then none else some value := by
        unfold Page.paramOf
        rw [List.find?_cons_of_pos (by simp)]
      rw [hfirst, List.lookup_cons_self, nonEmpty, Option.filter_some]
      by_cases hempty : value = ""
      · simp [hempty]
      · simp [hempty]
    · have hskip : (name == key) = false := beq_eq_false_iff_ne.mpr (Ne.symm hname)
      rw [List.lookup_cons, hskip, ← ih]
      exact Page.paramOf_congr (List.find?_cons_of_neg (by simpa using hname))

/-- The first value of the name in the URL is the first candidate. -/
theorem Branch.choose_paramOf (branches : List Branch) (name : String) (pairs : List Form.Pair)
    (chosenLast : Option String) :
    choose branches (Page.paramOf name none pairs) chosenLast =
      firstNamed? branches (pairs.lookup name) chosenLast := by
  unfold firstNamed?
  rw [choose_eq_firstNamed, Page.paramOf_eq_nonEmpty, firstNamed?, candidates_nonEmpty]

end BranchCompare
