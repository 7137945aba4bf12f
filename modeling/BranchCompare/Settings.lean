import BranchCompare.Schema.Field
import BranchCompare.Seconds
import BranchCompare.Settings.VariableFile
import BranchCompare.Text.LowerCase

/-!
# Settings

What can be set from outside: by variables of the environment, and by a file of variables.  The
names of variables are taken in any case, and the environment goes before the file.
-/

namespace BranchCompare

structure Settings where
  /-- The address of the server that compares branches. -/
  baseUrl : String
  /-- The longest time that one listing may take. -/
  fetchTimeout : Seconds
  /-- The address of the service that lists change requests. -/
  apiUrl : String
  token : Option String
  owner : String
  repo : String
  /-- The greatest number of change requests in a listing. -/
  requestLimit : Int
  selectionFile : String
  presetsFile : Option String
  logLevel : String
  logFile : Option String

namespace Settings

open Schema

def optionalText (name : String) (default : Option String) (fields : List (String × Json)) :
    Checked (Option String) :=
  withDefault name (orNothing text) default fields

def seconds : Reader Seconds := fun value => (number value).map .real

/-- The settings that fields describe. -/
def check (fields : List (String × Json)) : Checked Settings :=
  Settings.mk <$> withDefault "base_url" text "http://localhost:8080" fields <*>
    withDefault "fetch_timeout_seconds" seconds .standard fields <*>
    withDefault "github_api_url" text "https://api.github.com" fields <*>
    optionalText "github_token" none fields <*>
    withDefault "default_owner" text "paritytech" fields <*>
    withDefault "default_repo" text "polkadot" fields <*>
    withDefault "change_request_limit" (wholeBetween 1 100) 30 fields <*>
    withDefault "selection_file" text "data/selection.json" fields <*>
    optionalText "presets_file" none fields <*>
    withDefault "log_level" text "INFO" fields <*>
    optionalText "log_file" (some "logs/weight-compare.log") fields

/-- The settings without anything from outside. -/
def standard : Settings where
  baseUrl := "http://localhost:8080"
  fetchTimeout := .standard
  apiUrl := "https://api.github.com"
  token := none
  owner := "paritytech"
  repo := "polkadot"
  requestLimit := 30
  selectionFile := "data/selection.json"
  presetsFile := none
  logLevel := "INFO"
  logFile := some "logs/weight-compare.log"

def byLowerCase {α : Type} (entries : List (String × α)) : List (String × α) :=
  OrderedMap.ofPairs (entries.map fun entry => (Text.lower entry.1, entry.2))

/-- The variables that have a value. -/
def assigned (entries : List (String × Option String)) : List (String × String) :=
  entries.filterMap fun (name, value) => value.map fun value => (name, value)

/-- The settings from the variables of the environment and the text of a file of variables.  A name
without a value takes the value away that the file has given to it before. -/
def ofSources (environment : List (String × String)) (file : List Char) : Checked Settings :=
  let filed := assigned (byLowerCase (VariableFile.values environment file))
  let merged := byLowerCase (filed ++ environment)
  check (merged.map fun entry => (entry.1, .text entry.2))

/-- The settings of the program, which takes the file of variables into its environment: what it
sets there replaces variables of the same name. -/
def ofProgram (environment : List (String × String)) (file : List Char) : Checked Settings :=
  ofSources (OrderedMap.ofPairs (environment ++ assigned (VariableFile.values environment file)))
    file

/-- The names of the settings as variables. -/
def variableNames : List String :=
  ["base_url", "fetch_timeout_seconds", "github_api_url", "github_token", "default_owner",
    "default_repo", "change_request_limit", "selection_file", "presets_file", "log_level",
    "log_file"]

end Settings

end BranchCompare
