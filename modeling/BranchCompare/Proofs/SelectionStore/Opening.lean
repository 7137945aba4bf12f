import BranchCompare.Proofs.SelectionStore

/-!
# What a store is opened from

A store opens on whatever stands under its path, unless the file is given up before it is known whether
it holds JSON (`ofDocument_opens`).  Nothing, a directory, a file that is not JSON and a JSON value that
is no object all give an empty store; from an object the store has the texts under the names of its
keys, and nothing else.  A file that is not UTF-8 is not ignored in this way: the opening fails
(`not_opened_octets`).
-/

namespace BranchCompare.SelectionStore

variable {store : SelectionStore} {document : Document}

/-- A text can be opened unless a number of it has too many digits. -/
theorem exists_ofText_iff {text : List Char} :
    (∃ store, ofText text = .ok store) ↔
      ¬ ∃ count, Json.read text = .error (.tooManyDigits count) := by
  unfold ofText
  cases hread : Json.read text with
  | ok value => exact ⟨fun _ => nofun, fun _ => ⟨_, rfl⟩⟩
  | error error =>
    cases error with
    | malformed complaint line column index => exact ⟨fun _ => nofun, fun _ => ⟨_, rfl⟩⟩
    | tooManyDigits count =>
      constructor
      · rintro ⟨store, hopen⟩
        cases hopen
      · intro hnone
        exact absurd ⟨count, rfl⟩ hnone

/-- What a file is opened as is what its text is opened as. -/
theorem ofDocument_file {octets : List UInt8} {text : List Char}
    (h : Document.textOf octets = .ok text) : ofDocument (.file octets) = ofText text := by
  unfold ofDocument
  simp only [h]

theorem not_ofDocument_of_textOf {octets : List UInt8} {fault : Text.DecodeFault}
    (h : Document.textOf octets = .error fault) : ofDocument (.file octets) ≠ .ok store := by
  unfold ofDocument
  simp only [h]
  exact nofun

/-- A store opens just if the document is not given up. -/
theorem exists_ofDocument_iff :
    (∃ store, ofDocument document = .ok store) ↔ ¬ document.Unreadable := by
  cases document with
  | absent | directory => exact ⟨fun _ => nofun, fun _ => ⟨_, rfl⟩⟩
  | file octets =>
    cases htext : Document.textOf octets with
    | error fault =>
      constructor
      · rintro ⟨store, hopen⟩
        exact absurd hopen (not_ofDocument_of_textOf htext)
      · intro hreadable
        exact absurd (Document.unreadable_of_textOf htext) hreadable
    | ok text =>
      rw [Document.unreadable_file_iff htext, ofDocument_file htext]
      exact exists_ofText_iff

/-- The entries of an orderly store are the values of its keys. -/
theorem Orderly.mem_values_iff (h : store.Orderly) {name text : String} :
    (name, text) ∈ store.values ↔
      ∃ key : SelectionKey, key.label = name ∧ store.get? key = some text := by
  constructor
  · intro hmem
    obtain ⟨key, rfl⟩ := SelectionKey.exists_label (h.known name (List.mem_map_of_mem hmem))
    exact ⟨key, rfl, OrderedMap.get?_of_mem h.nodup hmem⟩
  · rintro ⟨key, rfl, hget⟩
    exact OrderedMap.mem_of_get? hget

/-- A file that is no object holds no texts. -/
theorem heldText?_of_not_object (h : ∀ fields, document.json? ≠ some (.object fields))
    (key : SelectionKey) : document.heldText? key = none := by
  unfold Document.heldText?
  cases hjson : document.json? with
  | none => rfl
  | some value =>
    cases value with
    | object fields => exact absurd hjson (h fields)
    | _ => rfl

/-- A store opens on every document that is not given up.  Its entries are the texts that the document
holds for the keys, one at most for each; there are none unless the document is a JSON object. -/
theorem ofDocument_opens (document : Document) :
    ((∃ store, ofDocument document = .ok store) ↔ ¬ document.Unreadable) ∧
    ∀ store, ofDocument document = .ok store →
      (OrderedMap.keys store.values).Nodup ∧
      (∀ name text, (name, text) ∈ store.values ↔
        ∃ key : SelectionKey, key.label = name ∧ document.heldText? key = some text) ∧
      ((∀ fields, document.json? ≠ some (.object fields)) → store = ⟨[]⟩) := by
  refine ⟨exists_ofDocument_iff, fun store hopen => ?_⟩
  obtain ⟨horderly, hheld⟩ := ofDocument_spec hopen
  have hentries : ∀ name text, (name, text) ∈ store.values ↔
      ∃ key : SelectionKey, key.label = name ∧ document.heldText? key = some text := by
    intro name text
    simp only [horderly.mem_values_iff, hheld]
  refine ⟨horderly.nodup, hentries, fun hnone => ?_⟩
  have hempty : store.values = [] := by
    refine List.eq_nil_iff_forall_not_mem.mpr fun entry hmem => ?_
    obtain ⟨key, -, htext⟩ := (hentries entry.1 entry.2).mp hmem
    rw [heldText?_of_not_object hnone] at htext
    cases htext
  exact congrArg SelectionStore.mk hempty

/-- A file of one octet that begins no character is not opened as an empty store, nor as any other. -/
theorem not_opened_octets : ¬ ∃ store, ofDocument (.file [0xFF]) = .ok store := by
  rintro ⟨store, hopen⟩
  cases hopen

end BranchCompare.SelectionStore
