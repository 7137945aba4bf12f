import BranchCompare.Proofs.CompareRequest.Readers
import BranchCompare.Proofs.PresetTable

/-!
# The URLs of the presets of a table

The URL of a comparison is read back, unless the preset has no pattern: a preset may be without one,
and a URL may not (`ofUrl_draft`).  A table from a file gives a preset for every repository that it
lists, with this repository in it.
-/

namespace BranchCompare

theorem OrderedMap.exists_get?_of_mem {α : Type} {key : String} {entries : List (String × α)}
    (h : key ∈ keys entries) : ∃ value, get? key entries = some value := by
  induction entries with
  | nil => cases h
  | cons entry rest ih =>
    unfold get?
    by_cases hkey : entry.1 = key
    · exact ⟨entry.2, if_pos hkey⟩
    · rw [if_neg hkey]
      rcases List.mem_cons.mp h with heq | hrest
      · exact absurd heq.symm hkey
      · exact ih hrest

namespace PresetTable

/-- The presets of a table that was read stand under their own repositories. -/
theorem own_ofDocument {document : Document} {table : PresetTable}
    (h : ofDocument document = .ok table) : table.Own := by
  unfold ofDocument at h
  simp only [bind, Except.bind] at h
  split at h
  · cases h
  · split at h
    · cases h
    · split at h
      · cases h
      · exact own_ofJson h

/-- A repository that is listed has a preset, which is its own. -/
theorem Own.exists_resolve {table : PresetTable} (h : table.Own) {repo : String}
    (hrepo : repo ∈ table.repos) :
    ∃ preset, table.resolve (some repo) = .ok preset ∧ preset.repo = repo := by
  obtain ⟨preset, hget⟩ := OrderedMap.exists_get?_of_mem hrepo
  have hown : preset.repo = repo := h _ (OrderedMap.mem_of_get? hget)
  have hresolve : table.resolve (some repo) = .ok preset := by
    unfold resolve
    dsimp only
    rw [if_neg (hown ▸ preset.repo_ne), hget]
  exact ⟨preset, hresolve, hown⟩

/-- Only a repository of the table has a preset. -/
theorem mem_repos_of_resolve {table : PresetTable} {repo : Option String} {preset : Preset}
    (h : table.resolve repo = .ok preset) : ∃ name, repo = some name ∧ name ∈ table.repos := by
  unfold resolve at h
  cases repo with
  | none => cases h
  | some name =>
    dsimp only at h
    split at h
    · cases h
    · split at h
      · next found hget => exact ⟨name, rfl, List.mem_map_of_mem (OrderedMap.mem_of_get? hget)⟩
      · cases h

end PresetTable

namespace CompareRequest

open Schema

variable {request : CompareRequest} {preset : Preset} {old new url : String}

/-- What the URL of a comparison of two branches is read as. -/
def readBack (preset : Preset) (old new : String) : Except ReadError CompareRequest :=
  if preset.pathPattern = "" then .error (.lacks ["path_pattern"])
  else .ok ⟨preset, old, new, none, none, none⟩

/-- What the pairs of a request give is what they hold. -/
theorem given?_pairs (request : CompareRequest) (name : String) :
    given? name request.pairs = nonEmpty? name request.pairs := by
  unfold given? nonEmpty?
  rw [OrderedMap.last?_of_nodup request.keys_nodup]

/-- A pattern that is empty is all that the URL of a request lacks. -/
theorem missing_pairs_of_noPattern (request : CompareRequest)
    (hpattern : request.preset.pathPattern = "") (hold : request.old ≠ "")
    (hnew : request.new ≠ "") : missing request.pairs = ["path_pattern"] := by
  obtain ⟨hpreset, hgetOld, hgetNew, -⟩ := request.get?_pairs
  have hgiven : ∀ {name value : String}, OrderedMap.get? name request.pairs = some value →
      value ≠ "" → (nonEmpty? name request.pairs).isNone = false := by
    intro name value hget hne
    rw [request.nonEmpty?_pairs hget hne]
    rfl
  simp only [Preset.pairs, List.forall_mem_cons] at hpreset
  obtain ⟨hrepo, hthreshold, hempty, hmethod, hignore, hunit, -⟩ := hpreset
  have hnone : (nonEmpty? "path_pattern" request.pairs).isNone = true := by
    unfold nonEmpty?
    rw [hempty, hpattern]
    rfl
  have hword : request.preset.method.word ≠ "" := by cases request.preset.method <;> decide
  have hflag : flagWord request.preset.ignoreErrors ≠ "" := by
    cases request.preset.ignoreErrors <;> decide
  have hmeasure : request.preset.measure.word ≠ "" := by
    cases request.preset.measure <;> decide
  have hdigits := Text.ne_empty_of_isDigits request.preset.threshold.isDigits
  unfold missing neededFields presetFields
  simp only [given?_pairs, List.cons_append, List.nil_append, List.filter_cons, List.filter_nil,
    hgiven hrepo request.preset.repo_ne, hgiven hthreshold hdigits, hgiven hmethod hword,
    hgiven hignore hflag, hgiven hunit hmeasure, hgiven hgetOld hold, hgiven hgetNew hnew, hnone,
    Bool.false_eq_true, if_false, if_true]

/-- A draft that has a URL is one of two branches that have names. -/
theorem Draft.request_of_url (h : (Draft.ofBranches preset old new).url = .ok url) :
    old ≠ "" ∧ new ≠ "" ∧ url = CompareRequest.url ⟨preset, old, new, none, none, none⟩ := by
  unfold Draft.url at h
  cases hcheck : (Draft.ofBranches preset old new).check with
  | issues found =>
    rw [hcheck] at h
    cases h
  | ok request =>
    have hne : old ≠ "" ∧ new ≠ "" := by
      obtain ⟨_, _, hextrinsic, -, -⟩ := Checked.seq_eq_ok hcheck
      obtain ⟨_, _, hpallet, -, -⟩ := Checked.seq_eq_ok hextrinsic
      obtain ⟨_, _, hnew, -, -⟩ := Checked.seq_eq_ok hpallet
      obtain ⟨_, _, hold, hnew, -⟩ := Checked.seq_eq_ok hnew
      obtain ⟨_, hold, -⟩ := Checked.map_eq_ok hold
      have hname : ∀ {name text : String} {value : { text : String // text ≠ "" }},
          named name nonEmptyText (.text text) = .ok value → text ≠ "" := by
        intro name text value hvalue hempty
        simp [named, nonEmptyText, hempty] at hvalue
      exact ⟨hname hold, hname hnew⟩
    have hdraft := Draft.check_ofTexts preset hne.1 hne.2 none none none
    obtain rfl := Checked.ok.inj (hcheck.symm.trans hdraft)
    rw [hcheck] at h
    exact ⟨hne.1, hne.2, (Except.ok.inj h).symm⟩

/-- Two branches that have names have a URL. -/
theorem Draft.url_ofBranches (preset : Preset) (hold : old ≠ "") (hnew : new ≠ "") :
    (Draft.ofBranches preset old new).url =
      .ok (CompareRequest.url ⟨preset, old, new, none, none, none⟩) := by
  have hcheck := Draft.check_ofTexts preset hold hnew none none none
  unfold Draft.url
  show (Draft.ofTexts preset old new none none none).check.toExcept.map _ = _
  rw [hcheck]
  rfl

/-- Two branches that have no URL are not both named. -/
theorem Draft.names_of_error {issues : List Schema.Issue}
    (h : (Draft.ofBranches preset old new).url = .error issues) : old = "" ∨ new = "" := by
  by_contra hnames
  rw [not_or] at hnames
  rw [Draft.url_ofBranches preset hnames.1 hnames.2] at h
  cases h

/-- The URL of a comparison of two branches is read back, if the preset has a pattern. -/
theorem ofUrl_draft (h : (Draft.ofBranches preset old new).url = .ok url) :
    ofUrl url = readBack preset old new := by
  obtain ⟨hold, hnew, rfl⟩ := Draft.request_of_url h
  unfold readBack
  split
  · next hpattern =>
    have hmissing := missing_pairs_of_noPattern ⟨preset, old, new, none, none, none⟩ hpattern
      hold hnew
    rw [ofUrl_eq (pairs_url _), hmissing]
    rfl
  · next hpattern => exact ofUrl_url ⟨preset, old, new, none, none, none⟩ hpattern hold hnew

end CompareRequest

end BranchCompare
