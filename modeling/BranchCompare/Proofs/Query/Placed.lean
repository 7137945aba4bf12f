import BranchCompare.Proofs.Page

/-!
# What a change of the query leaves

A URL is split, its query is read and written anew, and the parts are joined.  Where the host and the
path are read again at the place at which they are written (`Url.Placed`), splitting finds the same
parts with the new query (`Proper.split_join_placed`).  All names and values come back, so that a
change of one name is a change of its pairs only (`Query.pairs_set_remove`).

A path that begins with two slashes is no such place: without an authority in front of it, its
beginning is read as one.
-/

namespace BranchCompare

namespace Url

/-- The host and the path are read where they are written: there is an authority, or there is
neither a scheme nor an authority and the path does not look like one. -/
def Placed (url : Url) : Prop :=
  url.authority ≠ "" ∨ url.scheme = "" ∧ url.authority = "" ∧ ¬ ['/', '/'] <+: url.path.toList

instance (url : Url) : Decidable url.Placed := inferInstanceAs (Decidable (_ ∨ _))

variable {url : Url}

/-- An authority is written after two slashes. -/
theorem hasSlashes_of_authority (h : url.authority ≠ "") : url.hasSlashes = true := by
  have hne : url.authority.isEmpty = false := by
    rw [← Bool.not_eq_true, String.isEmpty_iff]
    exact h
  unfold hasSlashes
  rw [hne]
  rfl

theorem hasSlashes_of_bare (hscheme : url.scheme = "") (hauthority : url.authority = "") :
    url.hasSlashes = false := by
  have hplain : authoritySchemes.contains "" = false := by decide
  unfold hasSlashes
  rw [hauthority, hscheme, hplain]
  rfl

/-- The place of a URL is split into its authority and its path. -/
theorem Proper.splitAuthority_place (h : url.Proper) (hplaced : url.Placed) :
    splitAuthority url.place = (url.authority.toList, url.path.toList) := by
  unfold place
  rcases hplaced with hauthority | ⟨hscheme, hauthority, hpath⟩
  · rw [if_pos (hasSlashes_of_authority hauthority), splitAuthority_slashes h.authority,
      h.rooted hauthority]
  · have hslashes : ¬ url.hasSlashes = true := by simp [hasSlashes_of_bare hscheme hauthority]
    rw [if_neg hslashes, splitAuthority_of_not_slashes hpath, hauthority]
    rfl

/-- The parts that are joined are found again. -/
theorem Proper.split_join_placed (h : url.Proper) (hplaced : url.Placed)
    (hcheck : checkAuthority url.authority.toList = .ok ()) : split url.join = .ok url := by
  rw [h.split_join, h.splitAuthority_place hplaced, hcheck, String.ofList_toList,
    String.ofList_toList]
  rfl

end Url

namespace Query

variable {url name value : String} {parts : Url}

/-- Editing the pairs of a URL rewrites its query and nothing else. -/
theorem edit_of_split (change : List Form.Pair → List Form.Pair) (h : Url.split url = .ok parts) :
    edit change url = .ok (Url.join { parts with
      query := String.ofList (Form.encode (change parts.pairs)) }) := by
  unfold edit
  rw [h]
  rfl

/-- A change of the query changes the pairs that are read, and no other part of the URL. -/
theorem split_edit (change : List Form.Pair → List Form.Pair) (hsplit : Url.split url = .ok parts)
    (hplaced : parts.Placed) :
    ∃ found edited query, pairs url = .ok found ∧ edit change url = .ok edited ∧
      pairs edited = .ok (change found) ∧
      Url.split edited = .ok { parts with query := query } := by
  obtain ⟨hproper, hcheck⟩ := Url.proper_of_split hsplit
  let written := Form.encode (change parts.pairs)
  have hkept : ∀ c ∈ (String.ofList written).toList, Url.isDropped c = false ∧ c ≠ '#' := by
    intro c hc
    rw [String.toList_ofList] at hc
    exact encode_kept hc
  have hagain := (hproper.setQuery hkept).split_join_placed hplaced hcheck
  refine ⟨_, _, _, pairs_of_split hsplit, edit_of_split change hsplit, ?_, hagain⟩
  rw [pairs_of_split hagain, Url.pairs, String.toList_ofList, Form.decode_encode]

/-- Setting a name gives its first pair the value and drops its later ones, or adds a pair at the end
where there is none; removing a name drops its pairs.  All other pairs stay in order, and all other
parts of the URL are the same. -/
theorem pairs_set_remove (name value : String) (hsplit : Url.split url = .ok parts)
    (hplaced : parts.Placed) :
    ∃ found, pairs url = .ok found ∧
      (∃ edited changed query, set name value url = .ok edited ∧ pairs edited = .ok changed ∧
        SetsName name value found changed ∧
        Url.split edited = .ok { parts with query := query }) ∧
      ∃ edited query, remove name url = .ok edited ∧
        pairs edited = .ok (found.filter fun pair => pair.1 ≠ name) ∧
        Url.split edited = .ok { parts with query := query } := by
  obtain ⟨found, edited, query, hfound, hset, hpairs, hparts⟩ :=
    split_edit (setName name value) hsplit hplaced
  obtain ⟨same, less, rest, hsame, hremove, hleft, hrest⟩ :=
    split_edit (dropName name) hsplit hplaced
  obtain rfl := Except.ok.inj (hfound.symm.trans hsame)
  exact ⟨found, hfound, ⟨edited, setName name value found, query, hset, hpairs,
    setName_sets name value found, hparts⟩, less, rest, hremove, hleft, hrest⟩

theorem pairs_set_remove_absolute : ∃ found,
    pairs "https://Host/a b?old=x&%zz=%ff&new=&old=y#frag" = .ok found ∧
      (∃ edited changed query,
        set "old" "z&" "https://Host/a b?old=x&%zz=%ff&new=&old=y#frag" = .ok edited ∧
        pairs edited = .ok changed ∧ SetsName "old" "z&" found changed ∧
        Url.split edited = .ok ⟨"https", "Host", "/a b", query, "frag"⟩) ∧
      ∃ edited query,
        remove "old" "https://Host/a b?old=x&%zz=%ff&new=&old=y#frag" = .ok edited ∧
        pairs edited = .ok (found.filter fun pair => pair.1 ≠ "old") ∧
        Url.split edited = .ok ⟨"https", "Host", "/a b", query, "frag"⟩ := by
  have hsplit : Url.split "https://Host/a b?old=x&%zz=%ff&new=&old=y#frag" =
      .ok ⟨"https", "Host", "/a b", "old=x&%zz=%ff&new=&old=y", "frag"⟩ := by decide +kernel
  have hplaced : Url.Placed ⟨"https", "Host", "/a b", "old=x&%zz=%ff&new=&old=y", "frag"⟩ := by
    decide
  exact pairs_set_remove "old" "z&" hsplit hplaced

end Query

end BranchCompare
