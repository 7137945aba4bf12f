import BranchCompare.Preset.Table
import BranchCompare.Document
import BranchCompare.Json.Reader

/-!
# Files of presets

A table of presets in a JSON file.  The file has a version and the presets by repository.  Its
shape is checked as a whole; then its version; then the presets one by one, up to the first that is
not valid.
-/

namespace BranchCompare

namespace PresetTable

open Schema

/-- The version of the files that can be read. -/
def fileVersion : Int := 1

inductive FileError where
  /-- There is no file to open. -/
  | access (error : AccessError)
  /-- The file is not UTF-8. -/
  | decode (fault : Text.DecodeFault)
  /-- The file is not JSON. -/
  | malformed (error : Json.ReadError)
  /-- The file has not the shape of a table. -/
  | shape (issues : List Issue)
  /-- The file has another version. -/
  | version (found : Int)
  /-- The first preset that is not valid. -/
  | preset (issues : List Issue)
  deriving DecidableEq, Repr

/-- The error in words, where it is not a list of issues. -/
def FileError.message (path : String) : FileError → Option String
  | .access error => some s!"Cannot load presets from {path}: {error.message path}"
  | .decode fault => some fault.message
  | .malformed (.tooManyDigits count) => some (Json.ReadError.tooManyDigits count).message
  | .malformed error => some s!"Cannot load presets from {path}: {error.message}"
  | .version found => some s!"Preset table {path} has version {found}, expected {fileVersion}"
  | .shape _ => none
  | .preset _ => none

/-- A preset as a file holds it: its shape is known, its texts are not checked. -/
structure FileEntry where
  threshold : String
  pathPattern : String
  method : Method
  ignoreErrors : String
  measure : Measure
  deriving DecidableEq, Repr

/-- The shape of a preset in a file. -/
def checkEntry : Json → Checked FileEntry
  | .object fields =>
    FileEntry.mk <$> withDefault "threshold" text "10" fields <*>
      required "path_pattern" text fields <*>
      withDefault "method" (choice Method.ofWord?) .guessWorst fields <*>
      withDefault "ignore_errors" text "true" fields <*>
      withDefault "unit" (choice Measure.ofWord?) .weight fields
  | _ => .issues [⟨[], .notModel⟩]

/-- The shape of the presets of a file. -/
def checkEntries : Json → Checked (List (String × FileEntry))
  | .object fields =>
    Checked.list (fun field => (Prod.mk field.1 <$> checkEntry field.2).under field.1) fields
  | _ => .issues [⟨[], .notObject⟩]

/-- The shape of a file: its version and its presets. -/
def checkFile : Json → Checked (Int × List (String × FileEntry))
  | .object fields =>
    Prod.mk <$> required "version" whole fields <*>
      match OrderedMap.get? "presets" fields with
      | some presets => (checkEntries presets).under "presets"
      | none => .issues [⟨["presets"], .missing⟩]
  | _ => .issues [⟨[], .notModel⟩]

/-- The preset that an entry of a file stands for. -/
def presetOfEntry (repo : String) (entry : FileEntry) : Checked Preset :=
  (fun repo threshold ignoreErrors =>
    Preset.ofNamed repo threshold entry.pathPattern entry.method ignoreErrors entry.measure) <$>
    named "repo" nonEmptyText (.text repo) <*>
    named "threshold" Preset.thresholdField (.text entry.threshold) <*>
    named "ignore_errors" Preset.ignoreErrorsField (.text entry.ignoreErrors)

/-- The presets that the entries of a file stand for, up to the first that is not valid. -/
def presetsOfEntries : List (String × FileEntry) → Except (List Issue) (List (String × Preset))
  | [] => .ok []
  | (repo, entry) :: rest => do
    let preset ← (presetOfEntry repo entry).toExcept
    let presets ← presetsOfEntries rest
    return (repo, preset) :: presets

/-- The table that a JSON value stands for. -/
def ofJson (value : Json) : Except FileError PresetTable := do
  let (version, entries) ← (checkFile value).toExcept.mapError .shape
  if version ≠ fileVersion then throw (.version version)
  let presets ← (presetsOfEntries entries).mapError .preset
  return ⟨presets⟩

/-- The table in a file. -/
def ofDocument (document : Document) : Except FileError PresetTable := do
  let octets ← document.octets.mapError .access
  let text ← (Document.textOf octets).mapError .decode
  let value ← (Json.read text).mapError .malformed
  ofJson value

end PresetTable

end BranchCompare
