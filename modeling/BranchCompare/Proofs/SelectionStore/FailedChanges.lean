import BranchCompare.Proofs.SelectionStore

/-!
# Changes that fail

A key is set in memory first and then the file is written.  A change therefore fails in one of two
ways.  A value that names no key is refused before anything happens.  If the file cannot be written, the
file and the other keys are as they were, but the key has its new value, which is in no file, and the
next change that succeeds writes it (`setNamed_failed`, `changed_failedSet`).
-/

namespace BranchCompare.SelectionStore

inductive SetError where
  /-- The value given as the key names none. -/
  | unknown (error : SelectionKey.Unknown)
  /-- The file cannot be written. -/
  | access (error : AccessError)

/-- Sets the key that a value names, in a store whose file stands under a path. -/
def setNamed (name : Json) (value : Option String) :
    SelectionStore × Document → (SelectionStore × Document) × Except SetError Unit
  | (store, document) =>
    match SelectionKey.ofJson name with
    | .error error => ((store, document), .error (.unknown error))
    | .ok key =>
      match store.set key value document with
      | (changed, .ok written) => ((changed, written), .ok ())
      | (changed, .error error) => ((changed, document), .error (.access error))

/-- The stores that can be in use, each with what stands under its path: a store was opened, keys were
set in it, with or without success, and anything was put under the path in between. -/
inductive InUse : SelectionStore × Document → Prop where
  | opened {store : SelectionStore} {document : Document} (h : ofDocument document = .ok store) :
    InUse (store, document)
  | set {state : SelectionStore × Document} (h : InUse state) (name : Json)
    (value : Option String) : InUse (setNamed name value state).1
  | replaced {store : SelectionStore} {document : Document} (h : InUse (store, document))
    (other : Document) : InUse (store, other)

variable {store changed : SelectionStore} {document : Document}
  {state after : SelectionStore × Document} {name : Json} {key : SelectionKey}
  {value : Option String} {error : SetError}

/-! ## Which values name keys -/

theorem ofJson_label (key : SelectionKey) : SelectionKey.ofJson (.text key.label) = .ok key := by
  unfold SelectionKey.ofJson
  simp [Json.text?, SelectionKey.ofLabel?_label]

theorem eq_text_of_ofJson (h : SelectionKey.ofJson name = .ok key) : name = .text key.label := by
  unfold SelectionKey.ofJson at h
  split at h
  · next found hfound =>
    obtain rfl := Except.ok.inj h
    obtain ⟨text, htext, hlabel⟩ := Option.bind_eq_some_iff.mp hfound
    have hname := List.find?_some hlabel
    have heq : found.label = text := of_decide_eq_true hname
    cases name with
    | text written =>
      cases htext
      rw [heq]
    | _ => cases htext
  · cases h

/-! ## Stores in use -/

/-- Under an unknown name nothing is changed. -/
theorem setNamed_unknown {unknown : SelectionKey.Unknown}
    (h : SelectionKey.ofJson name = .error unknown) :
    setNamed name value state = (state, .error (.unknown unknown)) := by
  unfold setNamed
  simp only [h]

/-- Under a known name the store changes, whatever becomes of the file. -/
theorem setNamed_known (h : SelectionKey.ofJson name = .ok key) (value : Option String) :
    ∃ result document', setNamed name value (store, document) =
      ((store.assign key value, document'), result) := by
  unfold setNamed
  simp only [h]
  cases document <;> exact ⟨_, _, rfl⟩

/-- The stores in use are orderly. -/
theorem InUse.orderly (h : InUse state) : state.1.Orderly := by
  induction h with
  | opened hopen => exact (ofDocument_spec hopen).1
  | @set state h name value ih =>
    obtain ⟨store, document⟩ := state
    cases hkey : SelectionKey.ofJson name with
    | error unknown =>
      rw [setNamed_unknown hkey]
      exact ih
    | ok key =>
      obtain ⟨result, document', hset⟩ := setNamed_known hkey value
      rw [hset]
      exact ih.assign key value
  | replaced h other ih => exact ih

/-! ## What a failed change leaves -/

/-- A change that fails for its file is that of a key, and the store is changed. -/
theorem setNamed_access {access : AccessError}
    (h : setNamed name value (store, document) = (after, .error (.access access))) :
    ∃ key, name = .text key.label ∧ document = .directory ∧ access = .directory ∧
      after = (store.assign key value, document) := by
  unfold setNamed at h
  simp only at h
  split at h
  · cases h
  · next key hkey =>
    cases document with
    | directory =>
      cases h
      exact ⟨key, eq_text_of_ofJson hkey, rfl, rfl, rfl⟩
    | _ => cases h

/-- A change that is refused for its key changes nothing. -/
theorem setNamed_refused {unknown : SelectionKey.Unknown}
    (h : setNamed name value (store, document) = (after, .error (.unknown unknown))) :
    (∀ key : SelectionKey, name ≠ .text key.label) ∧ after = (store, document) := by
  unfold setNamed at h
  simp only at h
  split at h
  · next hkey =>
    cases h
    refine ⟨?_, rfl⟩
    rintro key rfl
    rw [ofJson_label] at hkey
    cases hkey
  · split at h <;> cases h

/-- A value that no file holds is written by the next change of another key that succeeds. -/
theorem Orderly.heldText?_set {other : SelectionKey} (h : store.Orderly) (hother : other ≠ key)
    (text : Option String) {later : Document} (hlater : later ≠ .directory) :
    ∃ written, (store.set other text later).2 = .ok written ∧
      written.heldText? key = store.get? key := by
  have horderly := h.assign other text
  refine ⟨.ofText (store.assign other text).fileText, ?_, ?_⟩
  · cases later with
    | directory => exact absurd rfl hlater
    | _ => rfl
  · have hget := (ofDocument_spec (ofDocument_fileText horderly)).2 key
    rw [← hget, get?_assign, if_neg hother.symm]

/-- A change that fails leaves the file as it was.  If its key is unknown it leaves the store as it was,
too.  Otherwise the path is a directory, and the store has the new value for the key, where the other
keys have what they had; once a file can be written, this value is written with the next change of
another key. -/
theorem setNamed_failed (huse : InUse (store, document))
    (hset : setNamed name value (store, document) = (after, .error error)) :
    after.2 = document ∧
    ((∃ unknown, error = .unknown unknown ∧ (∀ key : SelectionKey, name ≠ .text key.label) ∧
        after.1 = store) ∨
      ∃ key : SelectionKey, name = .text key.label ∧ error = .access .directory ∧
        document = .directory ∧
        (∀ other, after.1.get? other = if other = key then value else store.get? other) ∧
        ∀ other text later, other ≠ key → later ≠ .directory →
          ∃ written, (after.1.set other text later).2 = .ok written ∧
            written.heldText? key = value) := by
  cases error with
  | unknown unknown =>
    obtain ⟨hnone, rfl⟩ := setNamed_refused hset
    exact ⟨rfl, .inl ⟨unknown, rfl, hnone, rfl⟩⟩
  | access access =>
    obtain ⟨key, hname, hdirectory, rfl, rfl⟩ := setNamed_access hset
    have hvalues : ∀ other, (store.assign key value).get? other =
        if other = key then value else store.get? other := fun other => get?_assign ..
    refine ⟨rfl, .inr ⟨key, hname, rfl, hdirectory, hvalues, ?_⟩⟩
    intro other text later hother hlater
    have horderly : (store.assign key value).Orderly := huse.orderly.assign key value
    obtain ⟨written, hwrite, hheld⟩ := horderly.heldText?_set hother text hlater
    exact ⟨written, hwrite, hheld.trans ((hvalues key).trans (if_pos rfl))⟩

/-- The branch that was set while the path was a directory is written with the repository. -/
theorem setNamed_failed_directory :
    InUse (⟨[]⟩, .directory) ∧
    setNamed (.text "selected_first") (some "dev") (⟨[]⟩, .directory) =
      ((⟨[("selected_first", "dev")]⟩, .directory), .error (.access .directory)) ∧
    ∃ written, ((⟨[("selected_first", "dev")]⟩ : SelectionStore).set .repo (some "polkadot")
      .absent).2 = .ok written ∧ written.heldText? .first = some "dev" := by
  have huse : InUse (⟨[]⟩, .directory) := .opened rfl
  have hset : setNamed (.text "selected_first") (some "dev") (⟨[]⟩, .directory) =
      ((⟨[("selected_first", "dev")]⟩, .directory), .error (.access .directory)) := rfl
  refine ⟨huse, hset, ?_⟩
  rcases (setNamed_failed huse hset).2 with ⟨unknown, herror, -⟩ | ⟨key, hname, -, -, -, hlater⟩
  · cases herror
  · have hkey : SelectionKey.first = key := SelectionKey.label_inj (Json.text.inj hname)
    subst hkey
    exact hlater .repo (some "polkadot") .absent nofun nofun

/-- A change that fails can show: where the path is a directory, a key that had no value has the one
that could not be written. -/
theorem changed_failedSet : ¬ ∀ state name value after error, InUse state →
    setNamed name value state = (after, .error error) →
    ∀ key, after.1.get? key = state.1.get? key := by
  intro hkept
  have hsame := hkept (⟨[]⟩, .directory) (.text "selected_repo") (some "polkadot") _ _ (.opened rfl)
    rfl .repo
  cases hsame

end BranchCompare.SelectionStore
