import BranchCompare.Schema.Field
import BranchCompare.Text.LowerCase

/-!
# Presets

The default parameters for comparing two branches of a repository.  A preset is valid by
construction: its repository has a name and its threshold is a number in digits.
-/

namespace BranchCompare

/-- How the server estimates the cost of a piece of code. -/
inductive Method where
  | base
  | guessWorst
  | exactWorst
  | asymptotic
  deriving DecidableEq, Repr

/-- What a comparison is measured in. -/
inductive Measure where
  | weight
  | time
  deriving DecidableEq, Repr

namespace Method

def word : Method → String
  | base => "base"
  | guessWorst => "guess-worst"
  | exactWorst => "exact-worst"
  | asymptotic => "asymptotic"

def all : List Method := [base, guessWorst, exactWorst, asymptotic]

def ofWord? (text : String) : Option Method := all.find? fun method => method.word = text

theorem ofWord?_word (method : Method) : ofWord? method.word = some method := by
  cases method <;> decide

end Method

namespace Measure

def word : Measure → String
  | weight => "weight"
  | time => "time"

def all : List Measure := [weight, time]

def ofWord? (text : String) : Option Measure := all.find? fun measure => measure.word = text

theorem ofWord?_word (measure : Measure) : ofWord? measure.word = some measure := by
  cases measure <;> decide

end Measure

def flagWord (value : Bool) : String := if value then "true" else "false"

/-- A number in digits, kept as its text. -/
structure Threshold where
  digits : String
  isDigits : Text.isDigits digits = true
  deriving DecidableEq

structure Preset where
  repo : String
  repo_ne : repo ≠ ""
  threshold : Threshold
  /-- Patterns of file names, set apart by commas. -/
  pathPattern : String
  method : Method
  ignoreErrors : Bool
  measure : Measure
  deriving DecidableEq

namespace Preset

open Schema

/-- The threshold in a text, with white space around it. -/
def thresholdOfText (value : String) : Except Problem Threshold :=
  let digits := Text.strip value
  if h : Text.isDigits digits = true then .ok ⟨digits, h⟩
  else .error (.refused (.threshold value))

/-- The truth value in a text, in any case and with white space around it. -/
def ignoreErrorsOfText (value : String) : Except Problem Bool :=
  let word := Text.lower (Text.strip value)
  if word = "true" then .ok true
  else if word = "false" then .ok false
  else .error (.refused (.ignoreErrors word))

def thresholdField : Reader Threshold := fun value => do thresholdOfText (← text value)

def ignoreErrorsField : Reader Bool := fun value => do ignoreErrorsOfText (← text value)

def standardThreshold : Threshold := ⟨"10", by decide⟩

/-- The preset of a repository whose name is known not to be empty. -/
def ofNamed (repo : { name : String // name ≠ "" }) (threshold : Threshold)
    (pathPattern : String) (method : Method) (ignoreErrors : Bool) (measure : Measure) : Preset :=
  ⟨repo.1, repo.2, threshold, pathPattern, method, ignoreErrors, measure⟩

/-- The preset that fields describe. -/
def check (fields : List (String × Json)) : Checked Preset :=
  ofNamed <$>
    required "repo" nonEmptyText fields <*>
    withDefault "threshold" thresholdField standardThreshold fields <*>
    required "path_pattern" text fields <*>
    withDefault "method" (choice Method.ofWord?) .guessWorst fields <*>
    withDefault "ignore_errors" ignoreErrorsField true fields <*>
    withDefault "unit" (choice Measure.ofWord?) .weight fields

/-- The patterns one by one, without white space around them and without empty ones. -/
def patterns (preset : Preset) : List String :=
  ((Text.pieces ',' preset.pathPattern.toList).map fun piece =>
    Text.strip (String.ofList piece)).filter fun piece => piece ≠ ""

/-- The names and texts of a preset, in the order of a comparison's URL. -/
def pairs (preset : Preset) : List (String × String) :=
  [("repo", preset.repo), ("threshold", preset.threshold.digits),
    ("path_pattern", preset.pathPattern), ("method", preset.method.word),
    ("ignore_errors", flagWord preset.ignoreErrors), ("unit", preset.measure.word)]

end Preset

end BranchCompare
