import BranchCompare.Json.Value

/-!
# Issues of a value

Checking a value against what it should be finds all of its issues, not just the first.  An issue
names the place in the value and the problem there.  `Checked` gathers the issues of the parts of a
value in their order.
-/

namespace BranchCompare.Schema

/-- A text that is of the right kind and is refused for what it says. -/
inductive Refusal where
  /-- A threshold that is no whole number. -/
  | threshold (text : String)
  /-- A text that should be one of the two truth values. -/
  | ignoreErrors (text : String)
  deriving DecidableEq, Repr

def Refusal.message : Refusal → String
  | .threshold text => s!"threshold must be a non-negative integer, got {Text.quoted text}"
  | .ignoreErrors text => s!"ignore_errors must be 'true' or 'false', got {Text.quoted text}"

/-- What is wrong with a value. -/
inductive Problem where
  | missing
  | notText
  | textTooShort
  | notAChoice
  | refused (refusal : Refusal)
  | notWhole
  | unreadableWhole
  | fractionalWhole
  | wholeTooLarge
  | notFinite
  | notFlag
  | unreadableFlag
  | notNumber
  | unreadableNumber
  | tooSmall
  | tooLarge
  | notModel
  | notObject
  | notTime
  | unreadableTime
  | timeOutOfRange
  deriving DecidableEq, Repr

/-- A problem and the path to it. -/
structure Issue where
  path : List String
  problem : Problem
  deriving DecidableEq, Repr

/-- A checked value, or the issues found. -/
inductive Checked (α : Type) where
  | ok (value : α)
  | issues (found : List Issue)
  deriving DecidableEq, Repr

namespace Checked

/-- Puts two checks together; all issues of both are kept. -/
def both {α β : Type} (f : Checked (α → β)) (x : Checked α) : Checked β :=
  match f, x with
  | .ok f, .ok x => .ok (f x)
  | .ok _, .issues found => .issues found
  | .issues found, .ok _ => .issues found
  | .issues first, .issues second => .issues (first ++ second)

instance : Applicative Checked where
  pure := .ok
  seq f x := both f (x ())

/-- Two checks both give a value, or there are issues. -/
theorem seq_eq_ok {α β : Type} {f : Checked (α → β)} {x : Checked α} {value : β}
    (h : f <*> x = .ok value) : ∃ g a, f = .ok g ∧ x = .ok a ∧ value = g a := by
  change both f x = .ok value at h
  cases f <;> cases x <;> cases h
  exact ⟨_, _, rfl, rfl, rfl⟩

theorem map_eq_ok {α β : Type} {f : α → β} {x : Checked α} {value : β}
    (h : f <$> x = .ok value) : ∃ a, x = .ok a ∧ value = f a := by
  obtain ⟨g, a, hg, ha, rfl⟩ := seq_eq_ok h
  obtain rfl := Checked.ok.inj hg
  exact ⟨a, ha, rfl⟩

/-- The issues moved below a field. -/
def under {α : Type} (field : String) : Checked α → Checked α
  | .ok value => .ok value
  | .issues found => .issues (found.map fun issue => { issue with path := field :: issue.path })

/-- The outcome with the issues as an error. -/
def toExcept {α : Type} : Checked α → Except (List Issue) α
  | .ok value => .ok value
  | .issues found => .error found

def list {α β : Type} (check : α → Checked β) : List α → Checked (List β)
  | [] => .ok []
  | x :: rest => List.cons <$> check x <*> list check rest

end Checked

end BranchCompare.Schema
