import BranchCompare.Preset.File
import BranchCompare.Proofs.CompareRequest.Reading
import BranchCompare.Proofs.Document
import Mathlib.Data.List.Forall2

/-!
# Loading a table of presets

What becomes of a document that should hold a table of presets.  A table is loaded just if the
document is a JSON object of the right version in which every entry is a valid preset under its key; it
has the presets of these entries in order (`ofDocument_outcome`).

Most of the other documents are reported as a table that cannot be loaded.  Two kinds are not: files
that are given up before it is known whether they hold JSON, and files of the right shape and version
with an entry that is no valid preset, since the presets are made after the shape was checked
(`unreported_invalidPreset`).
-/

namespace BranchCompare.PresetTable

open Schema

/-- An error is reported as one of a table that cannot be loaded. -/
def FileError.reported : FileError → Bool
  | .access _ | .shape _ | .version _ | .malformed (.malformed ..) => true
  | .decode _ | .malformed (.tooManyDigits _) | .preset _ => false

/-! ## Entries and presets -/

namespace FileEntry

/-- The entry is a valid preset of the repository. -/
structure Valid (repo : String) (entry : FileEntry) : Prop where
  repo_ne : repo ≠ ""
  threshold : Text.isDigits (Text.strip entry.threshold) = true
  ignoreErrors : Text.lower (Text.strip entry.ignoreErrors) ∈ ["true", "false"]

/-- The preset is what the entry says for the repository. -/
structure Describes (repo : String) (entry : FileEntry) (preset : Preset) : Prop where
  repo : preset.repo = repo
  threshold : preset.threshold.digits = Text.strip entry.threshold
  pathPattern : preset.pathPattern = entry.pathPattern
  method : preset.method = entry.method
  ignoreErrors : flagWord preset.ignoreErrors = Text.lower (Text.strip entry.ignoreErrors)
  measure : preset.measure = entry.measure

/-- The issues of an entry as a preset of the repository. -/
def issues (repo : String) (entry : FileEntry) : List Issue :=
  let ignoreErrors := Text.lower (Text.strip entry.ignoreErrors)
  Preset.issueUnless (repo ≠ "") "repo" .textTooShort ++
    Preset.issueUnless (Text.isDigits (Text.strip entry.threshold)) "threshold"
      (.refused (.threshold entry.threshold)) ++
    Preset.issueUnless (["true", "false"].contains ignoreErrors) "ignore_errors"
      (.refused (.ignoreErrors ignoreErrors))

variable {repo : String} {entry : FileEntry}

/-- An entry without issues is a valid one. -/
theorem issues_eq_nil_iff : entry.issues repo = [] ↔ entry.Valid repo := by
  unfold issues
  simp only [List.append_eq_nil_iff, Preset.issueUnless_eq_nil_iff, decide_eq_true_eq,
    List.contains_iff_mem]
  exact ⟨fun ⟨⟨h1, h2⟩, h3⟩ => ⟨h1, h2, h3⟩, fun h => ⟨⟨h.repo_ne, h.threshold⟩, h.ignoreErrors⟩⟩

/-- An entry gives the preset that it describes, or its issues are found. -/
theorem gives_presetOfEntry (repo : String) (entry : FileEntry) :
    Checked.Gives (entry.Describes repo) (entry.issues repo) (presetOfEntry repo entry) := by
  have hname : Checked.Gives (fun name => name.1 = repo)
      (Preset.issueUnless (repo ≠ "") "repo" .textTooShort)
      (named "repo" nonEmptyText (.text repo)) := by
    unfold named nonEmptyText
    by_cases hrepo : repo = ""
    · simp only [hrepo, dite_true]
      exact .refused (List.cons_ne_nil _ _)
    · simp only [hrepo, dite_false]
      rw [Preset.issueUnless, if_pos (decide_eq_true hrepo)]
      exact .value rfl
  have hthreshold := Preset.gives_threshold entry.threshold
  have hignore := Preset.gives_ignoreErrors entry.ignoreErrors
  refine (((hname.map _).seq hthreshold).seq hignore).mono ?_
  rintro _ ⟨_, flag, ⟨_, threshold, ⟨name, hrepo, rfl⟩, hdigits, rfl⟩, hflag, rfl⟩
  exact ⟨hrepo, hdigits, rfl, rfl, hflag.symm, rfl⟩

/-- A valid entry describes a preset, and any other has issues. -/
theorem presetOfEntry_cases (repo : String) (entry : FileEntry) :
    (∃ preset, presetOfEntry repo entry = .ok preset ∧ entry.Valid repo ∧
      entry.Describes repo preset) ∨
    ∃ found, presetOfEntry repo entry = .issues found ∧ ¬ entry.Valid repo := by
  have hgives := gives_presetOfEntry repo entry
  have hvalid : entry.issues repo = [] ↔ entry.Valid repo := issues_eq_nil_iff
  generalize entry.issues repo = found at hgives hvalid
  cases hcheck : presetOfEntry repo entry with
  | ok preset =>
    rw [hcheck] at hgives
    cases hgives with
    | value hdescribes => exact .inl ⟨preset, rfl, hvalid.mp rfl, hdescribes⟩
  | issues found =>
    rw [hcheck] at hgives
    cases hgives with
    | refused hne => exact .inr ⟨_, rfl, fun h => hne (hvalid.mpr h)⟩

end FileEntry

/-- Entries give the presets that they describe if all of them are valid, and otherwise the issues of
one of them. -/
theorem presetsOfEntries_cases (entries : List (String × FileEntry)) :
    (∃ presets, presetsOfEntries entries = .ok presets ∧
      (∀ entry ∈ entries, entry.2.Valid entry.1) ∧
      List.Forall₂ (fun entry listed => listed.1 = entry.1 ∧ entry.2.Describes entry.1 listed.2)
        entries presets) ∨
    ∃ found, presetsOfEntries entries = .error found ∧
      ∃ entry ∈ entries, ¬ entry.2.Valid entry.1 := by
  induction entries with
  | nil => exact .inl ⟨[], rfl, nofun, .nil⟩
  | cons entry rest ih =>
    obtain ⟨repo, entry⟩ := entry
    unfold presetsOfEntries
    rcases entry.presetOfEntry_cases repo with
      ⟨preset, hpreset, hvalid, hdescribes⟩ | ⟨found, hfound, hinvalid⟩
    · rw [hpreset]
      rcases ih with ⟨presets, hrest, hall, hlisted⟩ | ⟨found, hrest, other, hother, hinvalid⟩
      · rw [hrest]
        exact .inl ⟨_, rfl, List.forall_mem_cons.mpr ⟨hvalid, hall⟩,
          .cons ⟨rfl, hdescribes⟩ hlisted⟩
      · rw [hrest]
        exact .inr ⟨found, rfl, other, List.mem_cons_of_mem _ hother, hinvalid⟩
    · rw [hfound]
      exact .inr ⟨found, rfl, (repo, entry), List.mem_cons_self, hinvalid⟩

/-! ## The shape of a file -/

/-- The value is an object with this version and an object of these entries. -/
def Lists (version : Int) (entries : List (String × FileEntry)) (value : Json) : Prop :=
  ∃ fields items number, value = .object fields ∧
    OrderedMap.get? "version" fields = some number ∧ whole number = .ok version ∧
    OrderedMap.get? "presets" fields = some (.object items) ∧
    List.Forall₂ (fun item entry => entry.1 = item.1 ∧ checkEntry item.2 = .ok entry.2) items entries

/-- A list is checked item by item. -/
theorem list_eq_ok_iff {α β : Type} {check : α → Checked β} {xs : List α} {ys : List β} :
    Checked.list check xs = .ok ys ↔ List.Forall₂ (fun x y => check x = .ok y) xs ys := by
  induction xs generalizing ys with
  | nil =>
    constructor
    · intro h
      cases h
      exact .nil
    · rintro ⟨⟩
      rfl
  | cons x xs ih =>
    constructor
    · intro h
      obtain ⟨_, rest, hfirst, hrest, rfl⟩ := Checked.seq_eq_ok h
      obtain ⟨y, hy, rfl⟩ := Checked.map_eq_ok hfirst
      exact .cons hy (ih.mp hrest)
    · rintro (_ | ⟨hy, hrest⟩)
      unfold Checked.list
      rw [hy, ih.mpr hrest]
      rfl

theorem under_eq_ok_iff {α : Type} {field : String} {check : Checked α} {value : α} :
    check.under field = .ok value ↔ check = .ok value := by
  cases check <;> simp [Checked.under]

/-- A field that is required is there and can be read. -/
theorem required_eq_ok_iff {α : Type} {name : String} {read : Reader α}
    {fields : List (String × Json)} {result : α} :
    required name read fields = .ok result ↔
      ∃ value, OrderedMap.get? name fields = some value ∧ read value = .ok result := by
  unfold required named
  cases OrderedMap.get? name fields with
  | none => simp
  | some value => cases hread : read value <;> simp [hread]

/-- Entries are the items of an object, each of which can be read. -/
theorem checkEntries_eq_ok_iff {value : Json} {entries : List (String × FileEntry)} :
    checkEntries value = .ok entries ↔ ∃ items, value = .object items ∧
      List.Forall₂ (fun item entry => entry.1 = item.1 ∧ checkEntry item.2 = .ok entry.2)
        items entries := by
  have hitem : ∀ (item : String × Json) (entry : String × FileEntry),
      (Prod.mk item.1 <$> checkEntry item.2).under item.1 = .ok entry ↔
        entry.1 = item.1 ∧ checkEntry item.2 = .ok entry.2 := by
    intro item entry
    rw [under_eq_ok_iff]
    constructor
    · intro h
      obtain ⟨found, hfound, rfl⟩ := Checked.map_eq_ok h
      exact ⟨rfl, hfound⟩
    · rintro ⟨hkey, hfound⟩
      rw [hfound, ← hkey]
      rfl
  cases value with
  | object items =>
    simp only [checkEntries, list_eq_ok_iff, hitem, Json.object.injEq, exists_eq_left']
  | _ => simp [checkEntries]

/-- A value is checked as a file if it lists entries and a version. -/
theorem checkFile_eq_ok_iff {value : Json} {version : Int} {entries : List (String × FileEntry)} :
    checkFile value = .ok (version, entries) ↔ Lists version entries value := by
  constructor
  · intro h
    cases value with
    | object fields =>
      obtain ⟨_, found, hfirst, hentries, heq⟩ := Checked.seq_eq_ok h
      obtain ⟨number, hnumber, rfl⟩ := Checked.map_eq_ok hfirst
      obtain ⟨rfl, rfl⟩ := Prod.mk.inj heq
      obtain ⟨value, hversion, hread⟩ := required_eq_ok_iff.mp hnumber
      split at hentries
      · next presets hpresets =>
        obtain ⟨items, rfl, hitems⟩ :=
          checkEntries_eq_ok_iff.mp (under_eq_ok_iff.mp hentries)
        exact ⟨fields, items, value, rfl, hversion, hread, hpresets, hitems⟩
      · cases hentries
    | _ => cases h
  · rintro ⟨fields, items, number, rfl, hversion, hread, hpresets, hitems⟩
    unfold checkFile
    simp only [hpresets]
    rw [required_eq_ok_iff.mpr ⟨number, hversion, hread⟩,
      checkEntries_eq_ok_iff.mpr ⟨items, rfl, hitems⟩]
    rfl

theorem Lists.unique {value : Json} {version : Int} {entries others : List (String × FileEntry)}
    (h : Lists version entries value) (hothers : Lists version others value) : others = entries := by
  have heq := checkFile_eq_ok_iff.mpr h
  rw [checkFile_eq_ok_iff.mpr hothers] at heq
  cases heq
  rfl

/-! ## Loading -/

/-- What becomes of a value: a table of its entries, an error that is reported, or one of an entry that
is no valid preset. -/
inductive Outcome (value : Json) : Except FileError PresetTable → Prop where
  | loaded {entries : List (String × FileEntry)} {table : PresetTable}
    (hlists : Lists fileVersion entries value) (hvalid : ∀ entry ∈ entries, entry.2.Valid entry.1)
    (htable : List.Forall₂
      (fun entry listed => listed.1 = entry.1 ∧ entry.2.Describes entry.1 listed.2)
      entries table.entries) : Outcome value (.ok table)
  | reported {error : FileError} (hreported : error.reported = true)
    (hnone : ∀ entries, ¬ Lists fileVersion entries value) : Outcome value (.error error)
  | invalid {entries : List (String × FileEntry)} {found : List Issue}
    (hlists : Lists fileVersion entries value)
    (hinvalid : ∃ entry ∈ entries, ¬ entry.2.Valid entry.1) :
    Outcome value (.error (.preset found))

/-- Each value has the outcome that its entries decide. -/
theorem outcome_ofJson (value : Json) : Outcome value (ofJson value) := by
  unfold ofJson
  cases hfile : checkFile value with
  | issues found =>
    refine .reported rfl fun entries hlists => ?_
    rw [checkFile_eq_ok_iff.mpr hlists] at hfile
    cases hfile
  | ok file =>
    obtain ⟨version, entries⟩ := file
    have hlists := checkFile_eq_ok_iff.mp hfile
    change Outcome value (if version ≠ fileVersion then _ else _)
    by_cases hversion : version = fileVersion
    · subst hversion
      rw [if_neg (not_not.mpr rfl)]
      rcases presetsOfEntries_cases entries with
        ⟨presets, hpresets, hvalid, htable⟩ | ⟨found, hfound, hinvalid⟩
      · rw [hpresets]
        exact .loaded hlists hvalid htable
      · rw [hfound]
        exact .invalid hlists hinvalid
    · rw [if_pos hversion]
      refine .reported rfl fun others hothers => ?_
      rw [checkFile_eq_ok_iff.mpr hothers] at hfile
      cases hfile
      exact hversion rfl

variable {document : Document} {value : Json}

theorem ofDocument_of_json? (h : document.json? = some value) :
    ofDocument document = ofJson value := by
  cases document with
  | absent | directory => cases h
  | file octets =>
    obtain ⟨text, htext, hread⟩ := Document.json?_file_eq_some_iff.mp h
    unfold ofDocument
    show ((Document.textOf octets).mapError _ >>= _) = _
    rw [htext]
    show ((Json.read text).mapError _ >>= _) = _
    rw [hread]
    rfl

/-- A document that holds no JSON value gives an error, which is reported unless the document is given
up. -/
theorem ofDocument_of_no_json (h : document.json? = none) : ∃ error,
    ofDocument document = .error error ∧ (error.reported = false ↔ document.Unreadable) := by
  cases document with
  | absent | directory => exact ⟨_, rfl, nofun, nofun⟩
  | file octets =>
    have hfile : ofDocument (.file octets) =
        (Document.textOf octets).mapError .decode >>= fun text =>
          (Json.read text).mapError .malformed >>= ofJson := rfl
    cases htext : Document.textOf octets with
    | error fault =>
      have hunreadable := Document.unreadable_of_textOf htext
      rw [htext] at hfile
      exact ⟨.decode fault, hfile, fun _ => hunreadable, fun _ => rfl⟩
    | ok text =>
      rw [htext] at hfile
      rw [Document.unreadable_file_iff htext]
      cases hread : Json.read text with
      | ok value =>
        rw [Document.json?_file_eq_some_iff.mpr ⟨text, htext, hread⟩] at h
        cases h
      | error error =>
        have hmalformed : ofDocument (.file octets) = .error (.malformed error) := by
          rw [hfile]
          show ((Json.read text).mapError _ >>= _) = _
          rw [hread]
          rfl
        refine ⟨.malformed error, hmalformed, ?_⟩
        cases error <;> simp [FileError.reported]

/-- A table is loaded from a document just if the document is a JSON object of the right version in
which every entry is a valid preset under its key, and the table has the presets that the entries
describe.  The documents whose error is not reported as one of a table that cannot be loaded are those
that are given up, and those of the right version with an entry that is no valid preset. -/
theorem ofDocument_outcome (document : Document) :
    ((∃ table, ofDocument document = .ok table) ↔
      ∃ value entries, document.json? = some value ∧ Lists fileVersion entries value ∧
        ∀ entry ∈ entries, entry.2.Valid entry.1) ∧
    (∀ table, ofDocument document = .ok table →
      ∃ value entries, document.json? = some value ∧ Lists fileVersion entries value ∧
        List.Forall₂ (fun entry listed => listed.1 = entry.1 ∧ entry.2.Describes entry.1 listed.2)
          entries table.entries) ∧
    ((∃ error, ofDocument document = .error error ∧ error.reported = false) ↔
      document.Unreadable ∨ ∃ value entries, document.json? = some value ∧
        Lists fileVersion entries value ∧ ∃ entry ∈ entries, ¬ entry.2.Valid entry.1) := by
  cases hjson : document.json? with
  | none =>
    obtain ⟨error, herror, hreported⟩ := ofDocument_of_no_json hjson
    simp [herror, hreported]
  | some value =>
    have hreadable := Document.not_unreadable_of_json? hjson
    have houtcome := outcome_ofJson value
    rw [← ofDocument_of_json? hjson] at houtcome
    generalize ofDocument document = result at houtcome
    simp only [Option.some.injEq, exists_and_left, exists_eq_left', hreadable, false_or]
    cases houtcome with
    | loaded hlists hvalid htable =>
      refine ⟨⟨fun _ => ⟨_, hlists, hvalid⟩, fun _ => ⟨_, rfl⟩⟩, ?_, ?_⟩
      · rintro _ ⟨⟩
        exact ⟨_, hlists, htable⟩
      · constructor
        · rintro ⟨_, ⟨⟩, _⟩
        · rintro ⟨others, hothers, entry, hentry, hinvalid⟩
          cases hlists.unique hothers
          exact absurd (hvalid entry hentry) hinvalid
    | reported hreported hnone =>
      refine ⟨⟨?_, ?_⟩, ?_, ?_⟩
      · rintro ⟨_, ⟨⟩⟩
      · rintro ⟨entries, hlists, -⟩
        exact absurd hlists (hnone entries)
      · rintro _ ⟨⟩
      · constructor
        · rintro ⟨error, heq, hunreported⟩
          cases heq
          rw [hreported] at hunreported
          cases hunreported
        · rintro ⟨entries, hlists, -⟩
          exact absurd hlists (hnone entries)
    | invalid hlists hinvalid =>
      refine ⟨⟨?_, ?_⟩, ?_, fun _ => ⟨_, hlists, hinvalid⟩, fun _ => ⟨_, rfl, rfl⟩⟩
      · rintro ⟨_, ⟨⟩⟩
      · rintro ⟨others, hothers, hvalid⟩
        cases hlists.unique hothers
        obtain ⟨entry, hentry, hbad⟩ := hinvalid
        exact absurd (hvalid entry hentry) hbad
      · rintro _ ⟨⟩

/-- A file of the right shape and version whose only preset has a threshold that is no number. -/
def invalidFile : Document := .ofText
  "\x7b\"version\": 1, \"presets\": \x7b\"x\": \x7b\"path_pattern\": \"a\", \"threshold\": \"abc\"\x7d\x7d\x7d".toList

/-- An error may come without being reported as one of a table that cannot be loaded. -/
theorem unreported_invalidPreset : ¬ ∀ document error,
    ofDocument document = .error error → error.reported = true := by
  intro hall
  have herror : ofDocument invalidFile =
      .error (.preset [⟨["threshold"], .refused (.threshold "abc")⟩]) := by decide +kernel
  cases hall _ _ herror

end BranchCompare.PresetTable
