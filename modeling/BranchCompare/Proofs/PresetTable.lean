import BranchCompare.Preset.File

/-!
# Presets under their own keys

A table that gives the preset of a repository gives one with this repository, if its presets stand
under their own keys.  The standard table is of this kind, and so is every table from a file
(`own_ofJson`).
-/

namespace BranchCompare.PresetTable

open Schema (Checked)

/-- Each preset stands under the repository that it is of. -/
def Own (table : PresetTable) : Prop := ∀ entry ∈ table.entries, entry.2.repo = entry.1

/-- The preset that is found is that of the repository. -/
theorem repo_of_resolve {table : PresetTable} (h : table.Own) {repo : String} {preset : Preset}
    (hresolve : table.resolve (some repo) = .ok preset) : preset.repo = repo := by
  simp only [resolve] at hresolve
  split at hresolve
  · cases hresolve
  · split at hresolve
    · next found hget =>
      obtain rfl := Except.ok.inj hresolve
      exact h _ (OrderedMap.mem_of_get? hget)
    · cases hresolve

theorem own_standard : PresetTable.standard.Own := by
  unfold Own
  decide

theorem repo_presetOfEntry {repo : String} {entry : FileEntry} {preset : Preset}
    (h : presetOfEntry repo entry = .ok preset) : preset.repo = repo := by
  obtain ⟨_, flag, hfirst, -, rfl⟩ := Checked.seq_eq_ok h
  obtain ⟨_, threshold, hrepo, -, rfl⟩ := Checked.seq_eq_ok hfirst
  obtain ⟨name, hname, rfl⟩ := Checked.map_eq_ok hrepo
  unfold Schema.named Schema.nonEmptyText at hname
  by_cases hempty : repo = ""
  · simp [hempty] at hname
  · simp only [hempty, dite_false] at hname
    obtain rfl := Checked.ok.inj hname
    rfl

/-- A file gives each preset the key of its entry as its repository. -/
theorem own_presetsOfEntries {entries : List (String × FileEntry)}
    {presets : List (String × Preset)} (h : presetsOfEntries entries = .ok presets) :
    ∀ entry ∈ presets, entry.2.repo = entry.1 := by
  induction entries generalizing presets with
  | nil =>
    obtain rfl := Except.ok.inj h
    exact nofun
  | cons entry rest ih =>
    obtain ⟨repo, fields⟩ := entry
    unfold presetsOfEntries at h
    cases hpreset : presetOfEntry repo fields with
    | issues found =>
      rw [hpreset] at h
      cases h
    | ok preset =>
      cases hrest : presetsOfEntries rest with
      | error issues =>
        rw [hpreset, hrest] at h
        cases h
      | ok others =>
        rw [hpreset, hrest] at h
        obtain rfl := Except.ok.inj h
        exact List.forall_mem_cons.mpr ⟨repo_presetOfEntry hpreset, ih hrest⟩

/-- A table from a file has its presets under their own keys. -/
theorem own_ofJson {value : Json} {table : PresetTable} (h : ofJson value = .ok table) :
    table.Own := by
  unfold ofJson at h
  cases hfile : (checkFile value).toExcept with
  | error issues =>
    rw [hfile] at h
    cases h
  | ok file =>
    obtain ⟨version, entries⟩ := file
    rw [hfile] at h
    change (if version ≠ fileVersion then _ else _) = _ at h
    split at h
    · cases h
    · cases hpresets : presetsOfEntries entries with
      | error issues =>
        rw [hpresets] at h
        cases h
      | ok presets =>
        rw [hpresets] at h
        obtain rfl := Except.ok.inj h
        exact own_presetsOfEntries hpresets

end BranchCompare.PresetTable
