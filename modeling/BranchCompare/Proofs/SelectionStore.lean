import BranchCompare.SelectionStore
import BranchCompare.Proofs.Document

/-!
# Opening the selections again

Whatever a store was opened from, its names differ and are those of keys (`Orderly`), since the
reader keeps one field of each name and the store keeps the fields of its keys.  Changes keep this
up, so that the file that was written last holds the store (`ofDocument_fileText`).  A run of changes
is therefore one that could be broken off after any change: the store opened from the file is the
one in use, and each key has the value it was set to last (`setAll_spec`).
-/

namespace BranchCompare

/-- The text of the field with the name of a key, in an object. -/
def SelectionKey.textIn? (key : SelectionKey) : Json → Option String
  | .object fields => (OrderedMap.get? key.label fields).bind Json.text?
  | _ => none

namespace Document

/-- The text that a document holds for a key: that of the field with the name of the key, if the
document is a JSON object. -/
def heldText? (key : SelectionKey) (document : Document) : Option String :=
  document.json?.bind key.textIn?

end Document

/-! ## The names of an object -/

namespace Json

/-- Fields that are read have different names. -/
theorem nodup_of_readFields {fuel : Nat} {fields result : List (String × Json)}
    {text rest : List Char} (hnodup : (OrderedMap.keys fields).Nodup)
    (hread : readFields fuel fields text = .ok (result, rest)) :
    (OrderedMap.keys result).Nodup := by
  induction fuel generalizing fields text with
  | zero => cases hread
  | succ fuel ih =>
    unfold readFields at hread
    split at hread
    case h_2 => cases hread
    split at hread
    case h_1 => cases hread
    split at hread
    case h_2 => cases hread
    split at hread
    case h_1 => cases hread
    next name _ _ _ _ _ _ value _ _ =>
    have hput := OrderedMap.nodup_keys_put hnodup name value
    simp only at hread
    split at hread
    · simp only [Except.ok.injEq, Prod.mk.injEq] at hread
      rw [← hread.1]
      exact hput
    · exact ih hput hread
    · cases hread

theorem map_eq_ok {ε α β : Type} {f : α → β} {result : Except ε α} {b : β}
    (h : result.map f = .ok b) : ∃ a, result = .ok a ∧ f a = b := by
  cases result with
  | error error => cases h
  | ok a => exact ⟨a, rfl, Except.ok.inj h⟩

theorem readNumber_ne_object {negative : Bool} {whole text rest : List Char}
    {fields : List (String × Json)} :
    readNumber negative whole text ≠ .ok (.object fields, rest) := by
  unfold readNumber
  simp only
  split
  · split
    · exact nofun
    · exact nofun
  · exact nofun

theorem readAtom_ne_object {text rest : List Char} {fields : List (String × Json)} :
    readAtom text ≠ .ok (.object fields, rest) := by
  intro h
  unfold readAtom at h
  simp only at h
  split at h
  · next found hfound =>
    rw [Except.ok.inj h] at hfound
    simp [Option.or_eq_some_iff] at hfound
  · split at h
    · exact readNumber_ne_object h
    · cases h

/-- An object that was read has each name once. -/
theorem nodup_of_readValue {fuel : Nat} {text rest : List Char} {fields : List (String × Json)}
    (hread : readValue fuel text = .ok (.object fields, rest)) :
    (OrderedMap.keys fields).Nodup := by
  cases fuel with
  | zero => cases hread
  | succ fuel =>
    unfold readValue at hread
    split at hread
    · obtain ⟨_, -, heq⟩ := map_eq_ok hread
      cases heq
    · split at hread
      · cases hread
      · obtain ⟨_, -, heq⟩ := map_eq_ok hread
        cases heq
    · split at hread
      · cases hread
        exact List.nodup_nil
      · obtain ⟨_, hfields, heq⟩ := map_eq_ok hread
        cases heq
        have hempty : (OrderedMap.keys ([] : List (String × Json))).Nodup := List.nodup_nil
        exact nodup_of_readFields hempty hfields
    · exact absurd hread readAtom_ne_object

/-- The names of an object that was read differ. -/
theorem nodup_of_read {text : List Char} {fields : List (String × Json)}
    (hread : read text = .ok (.object fields)) : (OrderedMap.keys fields).Nodup := by
  have hwhole : readWhole text = .ok (.object fields) := by
    unfold read at hread
    split at hread
    · cases hread
    · cases hresult : readWhole text with
      | error stop => rw [hresult] at hread; cases hread
      | ok value => rw [hresult] at hread; exact congrArg _ (Except.ok.inj hread)
  unfold readWhole at hwhole
  split at hwhole
  · cases hwhole
  · next hvalue =>
    split at hwhole
    · cases hwhole
      exact nodup_of_readValue hvalue
    · cases hwhole

end Json

namespace SelectionKey

theorem ofLabel?_label (key : SelectionKey) : ofLabel? key.label = some key := by
  cases key <;> rfl

theorem label_inj {key other : SelectionKey} (h : key.label = other.label) : key = other := by
  have hsome := congrArg ofLabel? h
  rw [ofLabel?_label, ofLabel?_label] at hsome
  exact Option.some.inj hsome

theorem exists_label {name : String} (h : (ofLabel? name).isSome = true) :
    ∃ key : SelectionKey, name = key.label := by
  obtain ⟨key, hkey⟩ := Option.isSome_iff_exists.mp h
  unfold ofLabel? at hkey
  have hlabel := List.find?_some hkey
  exact ⟨key, (of_decide_eq_true hlabel).symm⟩

end SelectionKey

namespace SelectionStore

/-! ## Stores and files -/

/-- The names of a store differ and are those of keys. -/
structure Orderly (store : SelectionStore) : Prop where
  nodup : (OrderedMap.keys store.values).Nodup
  known : ∀ name ∈ OrderedMap.keys store.values, (SelectionKey.ofLabel? name).isSome = true

theorem orderly_empty : Orderly ⟨[]⟩ := ⟨List.nodup_nil, nofun⟩

/-- A field that is kept keeps its name, which is known. -/
theorem fst_of_keptField {field : String × Json} {entry : String × String}
    (h : keptField field = some entry) :
    field.1 = entry.1 ∧ (SelectionKey.ofLabel? entry.1).isSome = true := by
  unfold keptField at h
  split at h
  · next hknown =>
    obtain ⟨value, -, rfl⟩ := Option.map_eq_some_iff.mp h
    exact ⟨rfl, hknown⟩
  · cases h

/-- The names that are kept are in the same order. -/
theorem keys_filterMap_sublist (fields : List (String × Json)) :
    (OrderedMap.keys (fields.filterMap keptField)).Sublist (OrderedMap.keys fields) := by
  induction fields with
  | nil => exact List.Sublist.slnil
  | cons field rest ih =>
    rw [List.filterMap_cons]
    split
    · exact ih.cons _
    · next entry hkeep =>
      have hname := (fst_of_keptField hkeep).1
      simp only [OrderedMap.keys, List.map_cons, hname]
      exact ih.cons_cons _

/-- A store that was read is orderly. -/
theorem orderly_ofJson {fields : List (String × Json)} (h : (OrderedMap.keys fields).Nodup) :
    Orderly (ofJson (.object fields)) := by
  refine ⟨(keys_filterMap_sublist fields).nodup h, ?_⟩
  intro name hname
  obtain ⟨entry, hentry, rfl⟩ := List.mem_map.mp hname
  obtain ⟨field, -, hkeep⟩ := List.mem_filterMap.mp hentry
  exact (fst_of_keptField hkeep).2

/-- A store keeps the texts of its keys. -/
theorem get?_ofJson {fields : List (String × Json)} (h : (OrderedMap.keys fields).Nodup)
    (key : SelectionKey) :
    (ofJson (.object fields)).get? key = (OrderedMap.get? key.label fields).bind Json.text? := by
  show OrderedMap.get? key.label (fields.filterMap keptField) = _
  induction fields with
  | nil => rfl
  | cons field rest ih =>
    obtain ⟨hnew, hrest⟩ := List.nodup_cons.mp h
    have hsub := keys_filterMap_sublist rest
    by_cases hname : field.1 = key.label
    · rw [OrderedMap.get?, if_pos hname, Option.bind_some, List.filterMap_cons]
      have hknown : (SelectionKey.ofLabel? field.1).isSome = true := by
        rw [hname, SelectionKey.ofLabel?_label]
        rfl
      have habsent : key.label ∉ OrderedMap.keys (rest.filterMap keptField) := by
        intro hmem
        apply hnew
        show field.1 ∈ OrderedMap.keys rest
        rw [hname]
        exact hsub.mem hmem
      unfold keptField at habsent ⊢
      rw [if_pos hknown]
      cases field.2.text? with
      | none => exact OrderedMap.get?_of_not_mem habsent
      | some text => simp [OrderedMap.get?, hname]
    · rw [OrderedMap.get?, if_neg hname, ← ih hrest, List.filterMap_cons]
      split
      · rfl
      · next entry hkeep =>
        rw [OrderedMap.get?, if_neg fun heq => hname ((fst_of_keptField hkeep).1.trans heq)]

/-- A store holds the texts that its file holds for its keys. -/
theorem ofText_spec {text : List Char} {store : SelectionStore} (hopen : ofText text = .ok store) :
    Orderly store ∧ ∀ key, store.get? key = (Json.read text).toOption.bind key.textIn? := by
  unfold ofText at hopen
  cases hread : Json.read text with
  | error error =>
    rw [hread] at hopen
    cases error with
    | malformed complaint line column index =>
      cases hopen
      exact ⟨orderly_empty, fun _ => rfl⟩
    | tooManyDigits count => cases hopen
  | ok value =>
    rw [hread] at hopen
    cases hopen
    cases value with
    | object fields =>
      have hnodup := Json.nodup_of_read hread
      exact ⟨orderly_ofJson hnodup, get?_ofJson hnodup⟩
    | _ => exact ⟨orderly_empty, fun _ => rfl⟩

/-- A store that was opened is orderly and holds what the file says. -/
theorem ofDocument_spec {document : Document} {store : SelectionStore}
    (hopen : ofDocument document = .ok store) :
    Orderly store ∧ ∀ key, store.get? key = document.heldText? key := by
  cases document with
  | file octets =>
    unfold ofDocument at hopen
    cases htext : Document.textOf octets with
    | error fault => simp only [htext] at hopen; cases hopen
    | ok text =>
      simp only [htext] at hopen
      have hjson : (Document.file octets).json? = (Json.read text).toOption := by
        simp [Document.json?, htext, Except.toOption]
      unfold Document.heldText?
      rw [hjson]
      exact ofText_spec hopen
  | _ =>
    cases hopen
    exact ⟨orderly_empty, fun _ => rfl⟩

theorem keptField_text {name : String} (hknown : (SelectionKey.ofLabel? name).isSome = true)
    (text : String) : keptField (name, .text text) = some (name, text) := if_pos hknown

/-- The fields that are written for a store are read as the store. -/
theorem ofJson_textFields {store : SelectionStore} (h : Orderly store) :
    ofJson (.object (Json.textFields store.values)) = store := by
  have hkept : ∀ entries : List (String × String),
      (∀ name ∈ OrderedMap.keys entries, (SelectionKey.ofLabel? name).isSome = true) →
      (Json.textFields entries).filterMap keptField = entries := by
    intro entries hknown
    induction entries with
    | nil => rfl
    | cons entry rest ih =>
      have hrest := ih fun name hname => hknown name (List.mem_cons_of_mem _ hname)
      have hentry := keptField_text (hknown entry.1 List.mem_cons_self) entry.2
      show ((entry.1, Json.text entry.2) :: Json.textFields rest).filterMap keptField = _
      rw [List.filterMap_cons_some hentry, hrest]
  exact congrArg SelectionStore.mk (hkept store.values h.known)

theorem textOf_fileText (store : SelectionStore) :
    Document.textOf (Text.Utf8.encode store.fileText) = .ok store.fileText :=
  Document.textOf_encode (Json.isShown_writeIndented store.values)

/-- The text of the file is read as the fields of the store. -/
theorem read_fileText {store : SelectionStore} (h : Orderly store) :
    Json.read store.fileText = .ok (.object (Json.textFields store.values)) :=
  Json.read_writeIndented h.nodup

/-- The file that a store writes holds an object with the values of the store. -/
theorem json?_fileText {store : SelectionStore} (h : Orderly store) :
    (Document.ofText store.fileText).json? = some (.object (Json.textFields store.values)) := by
  show (Document.textOf (Text.Utf8.encode store.fileText)).toOption.bind _ = _
  rw [textOf_fileText]
  show (Json.read store.fileText).toOption = _
  rw [read_fileText h]
  rfl

/-- The store opened from the file that a store writes is this store. -/
theorem ofDocument_fileText {store : SelectionStore} (h : Orderly store) :
    ofDocument (.ofText store.fileText) = .ok store := by
  unfold ofDocument Document.ofText
  simp only [textOf_fileText]
  unfold ofText
  simp only [read_fileText h, ofJson_textFields h]

/-! ## Changes -/

/-- A change keeps a store orderly. -/
theorem Orderly.assign {store : SelectionStore} (h : Orderly store) (key : SelectionKey)
    (value : Option String) : Orderly (store.assign key value) := by
  cases value with
  | none =>
    have hless := OrderedMap.keys_erase_sublist key.label store.values
    exact ⟨hless.nodup h.nodup, fun name hname => h.known name (hless.mem hname)⟩
  | some text =>
    refine ⟨OrderedMap.nodup_keys_put h.nodup key.label text, fun name hname => ?_⟩
    rcases OrderedMap.mem_keys_put hname with rfl | hname
    · rw [SelectionKey.ofLabel?_label]
      rfl
    · exact h.known name hname

/-- A change sets one key and leaves the other ones alone. -/
theorem get?_assign (store : SelectionStore) (key other : SelectionKey) (value : Option String) :
    (store.assign key value).get? other = if other = key then value else store.get? other := by
  split
  · next heq =>
    subst heq
    cases value with
    | none => exact OrderedMap.get?_erase_self other.label store.values
    | some text => exact OrderedMap.get?_put_self other.label text store.values
  · next hne =>
    have hlabel : other.label ≠ key.label := fun heq => hne (SelectionKey.label_inj heq)
    cases value with
    | none => exact OrderedMap.get?_erase_of_ne hlabel store.values
    | some text => exact OrderedMap.get?_put_of_ne hlabel text store.values

/-- Sets keys one after the other; each change writes the file. -/
def setAll : List (SelectionKey × Option String) → SelectionStore × Document →
    Except AccessError (SelectionStore × Document)
  | [], state => .ok state
  | (key, value) :: rest, (store, document) =>
    match store.set key value document with
    | (changed, .ok written) => setAll rest (changed, written)
    | (_, .error error) => .error error

/-- What a key is set to last, if it is set at all. -/
def lastSet? (key : SelectionKey) : List (SelectionKey × Option String) → Option (Option String)
  | [] => none
  | (other, value) :: rest =>
    (lastSet? key rest).or (if other = key then some value else none)

theorem setAll_cons {key : SelectionKey} {value : Option String}
    {rest : List (SelectionKey × Option String)} {store : SelectionStore} {document : Document}
    {final : SelectionStore × Document}
    (h : setAll ((key, value) :: rest) (store, document) = .ok final) :
    setAll rest (store.assign key value, .ofText (store.assign key value).fileText) =
      .ok final := by
  cases document with
  | directory => cases h
  | _ => exact h

/-- Changes may be made in two parts. -/
theorem setAll_append (done later : List (SelectionKey × Option String))
    (state : SelectionStore × Document) :
    setAll (done ++ later) state = (setAll done state).bind (setAll later) := by
  induction done generalizing state with
  | nil => rfl
  | cons change rest ih =>
    simp only [List.cons_append, setAll]
    split
    · exact ih _
    · rfl

/-- Every change succeeds where a file can be written. -/
theorem setAll_ok {document : Document} (hfile : document ≠ .directory) (store : SelectionStore)
    (changes : List (SelectionKey × Option String)) :
    ∃ final, setAll changes (store, document) = .ok final := by
  induction changes generalizing store document with
  | nil => exact ⟨_, rfl⟩
  | cons change rest ih =>
    obtain ⟨key, value⟩ := change
    have hwritten : Document.ofText (store.assign key value).fileText ≠ .directory := nofun
    obtain ⟨final, hrest⟩ := ih hwritten (store.assign key value)
    cases document with
    | directory => exact absurd rfl hfile
    | _ => exact ⟨final, hrest⟩

/-- After changes the store has the values set last, and the file is the one it writes, unless
nothing was changed. -/
theorem setAll_spec {changes : List (SelectionKey × Option String)} {store live : SelectionStore}
    {document written : Document} (horderly : Orderly store)
    (hset : setAll changes (store, document) = .ok (live, written)) :
    Orderly live ∧ (∀ key, live.get? key = (lastSet? key changes).getD (store.get? key)) ∧
      (changes = [] ∧ live = store ∧ written = document ∨ written = .ofText live.fileText) := by
  induction changes generalizing store document with
  | nil =>
    cases hset
    exact ⟨horderly, fun _ => rfl, .inl ⟨rfl, rfl, rfl⟩⟩
  | cons change rest ih =>
    obtain ⟨key, value⟩ := change
    obtain ⟨hlive, hvalues, hfile⟩ := ih (horderly.assign key value) (setAll_cons hset)
    refine ⟨hlive, fun other => ?_, .inr ?_⟩
    · rw [hvalues other, get?_assign, lastSet?]
      cases lastSet? other rest with
      | some last => rfl
      | none =>
        by_cases heq : other = key
        · simp [heq]
        · simp [heq, Ne.symm heq]
    · rcases hfile with ⟨-, rfl, rfl⟩ | hfile
      · rfl
      · exact hfile

/-- A run of changes may be broken off at any point: the store opened from the file is the one in
use, each key has the value it was set to last, or else the text that the file held for it at
first, and once anything was changed the file is an object whose names are those of keys. -/
theorem ofDocument_setAll {document : Document} {store : SelectionStore}
    {done later : List (SelectionKey × Option String)} {final : SelectionStore × Document}
    (hopen : ofDocument document = .ok store)
    (hset : setAll (done ++ later) (store, document) = .ok final) :
    ∃ live written, setAll done (store, document) = .ok (live, written) ∧
      ofDocument written = .ok live ∧
      (∀ key, live.get? key = (lastSet? key done).getD (document.heldText? key)) ∧
      (done ≠ [] → ∃ fields, written.json? = some (.object fields) ∧
        ∀ name ∈ OrderedMap.keys fields, ∃ key : SelectionKey, name = key.label) := by
  obtain ⟨horderly, hheld⟩ := ofDocument_spec hopen
  rw [setAll_append] at hset
  cases hdone : setAll done (store, document) with
  | error error => rw [hdone] at hset; cases hset
  | ok state =>
    obtain ⟨live, written⟩ := state
    obtain ⟨hlive, hvalues, hfile⟩ := setAll_spec horderly hdone
    refine ⟨live, written, rfl, ?_, fun key => hheld key ▸ hvalues key, fun hne => ?_⟩
    · rcases hfile with ⟨-, rfl, rfl⟩ | rfl
      · exact hopen
      · exact ofDocument_fileText hlive
    · rcases hfile with ⟨hnil, -⟩ | rfl
      · exact absurd hnil hne
      · refine ⟨_, json?_fileText hlive, fun name hname => ?_⟩
        rw [Json.keys_textFields] at hname
        exact SelectionKey.exists_label (hlive.known name hname)

/-- A file with a foreign field and a value that is no text. -/
def foreignFile : Document :=
  .ofText "\x7b\"old\": \"a\", \"selected_first\": [], \"selected_second\": \"b\"\x7d".toList

theorem ofDocument_setAll_foreignFile :
    ∃ store live written, ofDocument foreignFile = .ok store ∧
      setAll [(.repo, some "é\n😀"), (.repo, none)] (store, foreignFile) = .ok (live, written) ∧
      ofDocument written = .ok live ∧ live.get? .repo = none ∧ live.get? .first = none ∧
      live.get? .second = some "b" := by
  have hopens : (ofDocument foreignFile).toOption.isSome = true := by decide +kernel
  have hfirst : Document.heldText? .first foreignFile = none := by decide +kernel
  have hsecond : Document.heldText? .second foreignFile = some "b" := by decide +kernel
  have hfile : foreignFile ≠ .directory := Document.noConfusion
  cases hopen : ofDocument foreignFile with
  | error error => rw [hopen] at hopens; cases hopens
  | ok store =>
    obtain ⟨final, hset⟩ := setAll_ok hfile store
      ([(.repo, some "é\n😀"), (.repo, none)] ++ [(.first, some "a")])
    obtain ⟨live, written, hdone, hreopen, hvalues, -⟩ := ofDocument_setAll hopen hset
    have hlast : lastSet? .repo [(.repo, some "é\n😀"), (.repo, none)] = some none ∧
        lastSet? .first [(.repo, some "é\n😀"), (.repo, none)] = none ∧
        lastSet? .second [(.repo, some "é\n😀"), (.repo, none)] = none := by decide
    refine ⟨store, live, written, rfl, hdone, hreopen, ?_, ?_, ?_⟩
    · rw [hvalues, hlast.1, Option.getD_some]
    · rw [hvalues, hlast.2.1, Option.getD_none, hfirst]
    · rw [hvalues, hlast.2.2, Option.getD_none, hsecond]

end SelectionStore

end BranchCompare
