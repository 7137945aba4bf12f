import BranchCompare.Preset

/-!
# Tables of presets

The presets of several repositories under their keys, in order.  The standard table is used where
no other one is given.
-/

namespace BranchCompare

structure PresetTable where
  entries : List (String × Preset)
  deriving DecidableEq

structure UnknownRepository where
  repo : Option String
  deriving DecidableEq, Repr

def UnknownRepository.message (error : UnknownRepository) : String :=
  "Unknown repository: " ++ error.repo.getD "None"

namespace PresetTable

/-- The preset of the repository that keeps all its code in one place. -/
def polkadotSdk : Preset where
  repo := "polkadot-sdk"
  repo_ne := by decide
  threshold := Preset.standardThreshold
  pathPattern := ",".intercalate
    ["substrate/frame/**/src/weights.rs", "polkadot/runtime/*/src/weights/**/*.rs",
      "polkadot/bridges/modules/*/src/weights.rs", "cumulus/**/weights/*.rs",
      "cumulus/**/weights/xcm/*.rs", "cumulus/**/src/weights.rs"]
  method := .asymptotic
  ignoreErrors := true
  measure := .time

/-- The preset of the framework. -/
def substrate : Preset where
  repo := "substrate"
  repo_ne := by decide
  threshold := Preset.standardThreshold
  pathPattern := "frame/*/src/weights.rs"
  method := .guessWorst
  ignoreErrors := true
  measure := .weight

/-- The preset of the relay chain. -/
def polkadot : Preset where
  repo := "polkadot"
  repo_ne := by decide
  threshold := Preset.standardThreshold
  pathPattern := "runtime/**/src/weights/**/*.rs"
  method := .guessWorst
  ignoreErrors := true
  measure := .weight

/-- The preset of the parachains. -/
def cumulus : Preset where
  repo := "cumulus"
  repo_ne := by decide
  threshold := Preset.standardThreshold
  pathPattern := "parachains/runtimes/**/src/weights/*.rs"
  method := .guessWorst
  ignoreErrors := true
  measure := .weight

/-- The table that is used where no other one is given. -/
def standard : PresetTable where
  entries := [("polkadot-sdk", polkadotSdk), ("substrate", substrate), ("polkadot", polkadot),
    ("cumulus", cumulus)]

def repos (table : PresetTable) : List String := OrderedMap.keys table.entries

/-- The preset under a key.  The empty key has none. -/
def resolve (table : PresetTable) (repo : Option String) : Except UnknownRepository Preset :=
  match repo with
  | some name =>
    if name = "" then .error ⟨repo⟩
    else
      match OrderedMap.get? name table.entries with
      | some preset => .ok preset
      | none => .error ⟨repo⟩
  | none => .error ⟨repo⟩

end PresetTable

end BranchCompare
