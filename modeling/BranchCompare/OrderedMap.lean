/-!
# Maps that keep the order of insertion

A map from texts to values is the list of its entries.  Writing to a key that is present changes
the entry in place, a new key goes to the end, and a key that was removed and is written again goes
to the end too.
-/

namespace BranchCompare.OrderedMap

variable {α : Type}

/-- The value of the first entry with the key. -/
def get? (key : String) : List (String × α) → Option α
  | [] => none
  | entry :: rest => if entry.1 = key then some entry.2 else get? key rest

def has (key : String) (entries : List (String × α)) : Bool := (get? key entries).isSome

def put (key : String) (value : α) : List (String × α) → List (String × α)
  | [] => [(key, value)]
  | entry :: rest => if entry.1 = key then (key, value) :: rest else entry :: put key value rest

def erase (key : String) (entries : List (String × α)) : List (String × α) :=
  entries.filter fun entry => entry.1 ≠ key

/-- The entries of a list of pairs: of pairs with one key the last value counts, at the place of
the first. -/
def ofPairs (pairs : List (String × α)) : List (String × α) :=
  pairs.foldl (fun entries pair => put pair.1 pair.2 entries) []

def last? (key : String) (entries : List (String × α)) : Option α := get? key entries.reverse

def keys (entries : List (String × α)) : List String := entries.map (·.1)

theorem get?_put_self (key : String) (value : α) (entries : List (String × α)) :
    get? key (put key value entries) = some value := by
  induction entries with
  | nil => simp [put, get?]
  | cons entry rest ih => by_cases h : entry.1 = key <;> simp [put, get?, h, ih]

/-- Another key keeps its value. -/
theorem get?_put_of_ne {key other : String} (h : other ≠ key) (value : α)
    (entries : List (String × α)) : get? other (put key value entries) = get? other entries := by
  induction entries with
  | nil => simp [put, get?, Ne.symm h]
  | cons entry rest ih =>
    by_cases hk : entry.1 = key
    · simp [put, get?, hk, Ne.symm h]
    · by_cases ho : entry.1 = other <;> simp_all [put, get?]

theorem get?_erase_self (key : String) (entries : List (String × α)) :
    get? key (erase key entries) = none := by
  induction entries with
  | nil => rfl
  | cons entry rest ih => by_cases h : entry.1 = key <;> simp_all [erase, get?]

theorem get?_erase_of_ne {key other : String} (h : other ≠ key) (entries : List (String × α)) :
    get? other (erase key entries) = get? other entries := by
  induction entries with
  | nil => rfl
  | cons entry rest ih =>
    by_cases hk : entry.1 = key
    · have : ¬ entry.1 = other := fun ho => h (ho.symm.trans hk)
      simp_all [erase, get?]
    · by_cases ho : entry.1 = other <;> simp_all [erase, get?]

/-- In two maps one after the other the first one is asked first. -/
theorem get?_append (key : String) (entries more : List (String × α)) :
    get? key (entries ++ more) = (get? key entries).or (get? key more) := by
  induction entries with
  | nil => rfl
  | cons entry rest ih =>
    by_cases h : entry.1 = key
    · simp [get?, h]
    · simp [get?, h, ih]

theorem last?_cons (key : String) (entry : String × α) (rest : List (String × α)) :
    last? key (entry :: rest) =
      (last? key rest).or (if entry.1 = key then some entry.2 else none) := by
  unfold last?
  rw [List.reverse_cons, get?_append]
  rfl

/-- In the map of a list of pairs a key has the value of its last pair. -/
theorem get?_ofPairs (key : String) (pairs : List (String × α)) :
    get? key (ofPairs pairs) = last? key pairs := by
  have hfold : ∀ entries : List (String × α),
      get? key (pairs.foldl (fun entries pair => put pair.1 pair.2 entries) entries) =
        (last? key pairs).or (get? key entries) := by
    induction pairs with
    | nil => exact fun _ => rfl
    | cons pair rest ih =>
      intro entries
      rw [List.foldl_cons, ih, last?_cons, Option.or_assoc]
      congr 1
      by_cases h : pair.1 = key
      · rw [if_pos h, h, get?_put_self]
        rfl
      · rw [if_neg h, get?_put_of_ne (Ne.symm h)]
        rfl
  exact (hfold []).trans (Option.or_none)

theorem get?_map {β : Type} (f : α → β) (key : String) (entries : List (String × α)) :
    get? key (entries.map fun entry => (entry.1, f entry.2)) = (get? key entries).map f := by
  induction entries with
  | nil => rfl
  | cons entry rest ih =>
    by_cases h : entry.1 = key
    · simp [get?, h]
    · simp [get?, h, ih]

/-- A new key comes last. -/
theorem put_of_not_mem {key : String} {entries : List (String × α)} (h : key ∉ keys entries)
    (value : α) : put key value entries = entries ++ [(key, value)] := by
  induction entries with
  | nil => rfl
  | cons entry rest ih =>
    have hne : entry.1 ≠ key := fun heq => h (heq ▸ List.mem_cons_self)
    rw [put, if_neg hne, ih fun hm => h (List.mem_cons_of_mem _ hm)]
    rfl

theorem mem_keys_put {key name : String} {value : α} {entries : List (String × α)}
    (h : name ∈ keys (put key value entries)) : name = key ∨ name ∈ keys entries := by
  induction entries with
  | nil => exact .inl (List.mem_singleton.mp h)
  | cons entry rest ih =>
    unfold put at h
    split at h
    · exact (List.mem_cons.mp h).imp_right (List.mem_cons_of_mem _)
    · rcases List.mem_cons.mp h with rfl | h
      · exact .inr List.mem_cons_self
      · exact (ih h).imp_right (List.mem_cons_of_mem _)

/-- Each key stays there once. -/
theorem nodup_keys_put {entries : List (String × α)} (h : (keys entries).Nodup) (key : String)
    (value : α) : (keys (put key value entries)).Nodup := by
  induction entries with
  | nil => simp [put, keys]
  | cons entry rest ih =>
    obtain ⟨hnew, hrest⟩ := List.nodup_cons.mp h
    unfold put
    split
    · next heq => exact List.nodup_cons.mpr ⟨heq ▸ hnew, hrest⟩
    · next hne =>
      refine List.nodup_cons.mpr ⟨fun hmem => ?_, ih hrest⟩
      rcases mem_keys_put hmem with heq | hmem
      · exact hne heq
      · exact hnew hmem

/-- The keys that stay are in the same order. -/
theorem keys_erase_sublist (key : String) (entries : List (String × α)) :
    (keys (erase key entries)).Sublist (keys entries) := List.filter_sublist.map _

/-- What is found under a key is an entry of the map. -/
theorem mem_of_get? {key : String} {value : α} {entries : List (String × α)}
    (h : get? key entries = some value) : (key, value) ∈ entries := by
  induction entries with
  | nil => cases h
  | cons entry rest ih =>
    unfold get? at h
    split at h
    · next heq =>
      obtain rfl := Option.some.inj h
      exact heq ▸ List.mem_cons_self
    · exact List.mem_cons_of_mem entry (ih h)

/-- Where the keys differ, every entry is the value of its key. -/
theorem get?_of_mem {entries : List (String × α)} (h : (keys entries).Nodup) {key : String}
    {value : α} (hmem : (key, value) ∈ entries) : get? key entries = some value := by
  induction entries with
  | nil => cases hmem
  | cons entry rest ih =>
    obtain ⟨hnew, hrest⟩ := List.nodup_cons.mp h
    rcases List.mem_cons.mp hmem with rfl | hmem
    · exact if_pos rfl
    · have hkey : key ∈ keys rest := List.mem_map_of_mem hmem
      have hne : entry.1 ≠ key := by
        rintro rfl
        exact hnew hkey
      rw [get?, if_neg hne]
      exact ih hrest hmem

/-- A key that is not among the keys has no value. -/
theorem get?_of_not_mem {key : String} {entries : List (String × α)} (h : key ∉ keys entries) :
    get? key entries = none := by
  induction entries with
  | nil => rfl
  | cons entry rest ih =>
    have hne : entry.1 ≠ key := fun heq => h (heq ▸ List.mem_cons_self)
    rw [get?, if_neg hne]
    exact ih fun hmem => h (List.mem_cons_of_mem _ hmem)

theorem mem_keys_put_self (key : String) (value : α) (entries : List (String × α)) :
    key ∈ keys (put key value entries) := by
  induction entries with
  | nil => exact List.mem_cons_self
  | cons entry rest ih =>
    unfold put
    split
    · exact List.mem_cons_self
    · exact List.mem_cons_of_mem _ ih

theorem mem_keys_put_of_mem {name : String} {entries : List (String × α)} (h : name ∈ keys entries)
    (key : String) (value : α) : name ∈ keys (put key value entries) := by
  induction entries with
  | nil => cases h
  | cons entry rest ih =>
    unfold put
    split
    · next heq =>
      rcases List.mem_cons.mp h with rfl | h
      · exact heq ▸ List.mem_cons_self
      · exact List.mem_cons_of_mem _ h
    · rcases List.mem_cons.mp h with rfl | h
      · exact List.mem_cons_self
      · exact List.mem_cons_of_mem _ (ih h)

/-- The map of a list of pairs has the keys of the list, each of them once. -/
theorem keys_ofPairs (pairs : List (String × α)) :
    (keys (ofPairs pairs)).Nodup ∧ ∀ key, key ∈ keys (ofPairs pairs) ↔ key ∈ keys pairs := by
  have hfold : ∀ entries : List (String × α), (keys entries).Nodup →
      (keys (pairs.foldl (fun entries pair => put pair.1 pair.2 entries) entries)).Nodup ∧
      ∀ key, key ∈ keys (pairs.foldl (fun entries pair => put pair.1 pair.2 entries) entries) ↔
        key ∈ keys entries ∨ key ∈ keys pairs := by
    induction pairs with
    | nil =>
      intro entries hnodup
      exact ⟨hnodup, fun key => by simp [keys]⟩
    | cons pair rest ih =>
      intro entries hnodup
      obtain ⟨hrest, hmem⟩ := ih _ (nodup_keys_put hnodup pair.1 pair.2)
      refine ⟨hrest, fun key => (hmem key).trans ?_⟩
      constructor
      · rintro (hput | hlater)
        · rcases mem_keys_put hput with rfl | hold
          · exact .inr List.mem_cons_self
          · exact .inl hold
        · exact .inr (List.mem_cons_of_mem _ hlater)
      · rintro (hold | hlater)
        · exact .inl (mem_keys_put_of_mem hold ..)
        · rcases List.mem_cons.mp hlater with rfl | hlater
          · exact .inl (mem_keys_put_self ..)
          · exact .inr hlater
  obtain ⟨hnodup, hmem⟩ := hfold [] List.nodup_nil
  exact ⟨hnodup, fun key => (hmem key).trans (by simp [keys])⟩

/-- A list of pairs whose keys differ is a map. -/
theorem ofPairs_of_nodup {pairs : List (String × α)} (h : (keys pairs).Nodup) :
    ofPairs pairs = pairs := by
  have hfold : ∀ entries : List (String × α), (keys (entries ++ pairs)).Nodup →
      pairs.foldl (fun entries pair => put pair.1 pair.2 entries) entries = entries ++ pairs := by
    clear h
    induction pairs with
    | nil => intro entries _; exact (List.append_nil entries).symm
    | cons pair rest ih =>
      intro entries hnodup
      have hnew : pair.1 ∉ keys entries := by
        intro hmem
        rw [keys, List.map_append, List.nodup_append] at hnodup
        exact hnodup.2.2 _ hmem _ List.mem_cons_self rfl
      have happend : entries ++ pair :: rest = (entries ++ [pair]) ++ rest := by simp
      rw [List.foldl_cons, put_of_not_mem hnew, happend]
      exact ih _ (happend ▸ hnodup)
  exact hfold [] h

end BranchCompare.OrderedMap
