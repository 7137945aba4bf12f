import BranchCompare.Query
import BranchCompare.Proofs.Form

/-!
# Reading back the query of a URL

A URL that is a path from the root and a query is split at the question mark, since neither part
holds a character that is dropped or begins another part.  `pairs_build` reads back the names and
values of such a URL.
-/

namespace BranchCompare.Url

open BranchCompare.Text

/-- A path without characters to drop is left as it is. -/
theorem clean_rooted {text : List Char} (h : ∀ c ∈ text, isDropped c = false) :
    clean ('/' :: text) = '/' :: text := by
  have hdrop : ('/' :: text).dropWhile isLeading = '/' :: text := rfl
  unfold clean
  rw [hdrop, List.filter_eq_self]
  intro c hc
  rcases List.mem_cons.mp hc with rfl | hc
  · rfl
  · simp [h c hc]

/-- A path has no scheme. -/
theorem splitScheme_rooted (text : List Char) : splitScheme ('/' :: text) = ([], '/' :: text) := by
  unfold splitScheme
  have hcut : cutAt (· == ':') ('/' :: text) =
      ('/' :: (cutAt (· == ':') text).1, (cutAt (· == ':') text).2) := rfl
  rw [hcut]
  cases (cutAt (· == ':') text).2 <;> rfl

theorem splitAuthority_rooted {text : List Char} (h : text.head? ≠ some '/') :
    splitAuthority ('/' :: text) = ([], '/' :: text) := by
  unfold splitAuthority
  split
  · next rest heq =>
    rw [(List.cons.inj heq).2] at h
    exact absurd rfl h
  · rfl

/-- A path from the root with a query is split into these two. -/
theorem split_rooted {path query : List Char} (hhead : path.head? ≠ some '/')
    (hpath : ∀ c ∈ path, isDropped c = false ∧ c ≠ '?' ∧ c ≠ '#')
    (hquery : ∀ c ∈ query, isDropped c = false ∧ c ≠ '#') :
    split (String.ofList ('/' :: path ++ '?' :: query)) =
      .ok ⟨"", "", String.ofList ('/' :: path), String.ofList query, ""⟩ := by
  have hdropped : ∀ c ∈ path ++ '?' :: query, isDropped c = false := by
    intro c hc
    rcases List.mem_append.mp hc with hc | hc
    · exact (hpath c hc).1
    · rcases List.mem_cons.mp hc with rfl | hc
      · rfl
      · exact (hquery c hc).1
  have hslash : (path ++ '?' :: query).head? ≠ some '/' := by
    cases path with
    | nil => exact nofun
    | cons c path => exact hhead
  have hfragment : ∀ c ∈ '/' :: (path ++ '?' :: query), (c == '#') = false := by
    intro c hc
    simp only [List.mem_cons, List.mem_append] at hc
    rcases hc with rfl | hc | rfl | hc
    · rfl
    · simpa using (hpath c hc).2.2
    · rfl
    · simpa using (hquery c hc).2
  have hmark : ∀ c ∈ '/' :: path, (c == '?') = false := by
    intro c hc
    rcases List.mem_cons.mp hc with rfl | hc
    · rfl
    · simpa using (hpath c hc).2.1
  unfold split
  rw [String.toList_ofList, List.cons_append, clean_rooted hdropped, splitScheme_rooted]
  simp only [splitAuthority_rooted hslash]
  rw [cutAt_of_all hfragment]
  simp only
  rw [← List.cons_append, cutAt_append query hmark rfl]
  rfl

def pairs (parts : Url) : List Form.Pair := Form.decode parts.query.toList

end BranchCompare.Url

namespace BranchCompare.Query

/-- The pairs of a URL are those of its query. -/
theorem pairs_of_split {url : String} {parts : Url} (h : Url.split url = .ok parts) :
    pairs url = .ok parts.pairs := by
  unfold pairs
  rw [h]
  rfl

/-- Nothing of an encoded query is left out or begins a fragment. -/
theorem encode_kept {items : List Form.Pair} {c : Char} (hc : c ∈ Form.encode items) :
    Url.isDropped c = false ∧ c ≠ '#' := by
  unfold Url.isDropped
  rcases Form.encode_chars hc with h | rfl | rfl
  · simp [Form.not_isEncoded (d := '\t') rfl h, Form.not_isEncoded (d := '\n') rfl h,
      Form.not_isEncoded (d := '\r') rfl h, Form.not_isEncoded (d := '#') rfl h]
  · decide
  · decide

/-- The names and values of a path from the root with a query are read back. -/
theorem pairs_build (path : List Char) (hhead : path.head? ≠ some '/')
    (hpath : ∀ c ∈ path, Url.isDropped c = false ∧ c ≠ '?' ∧ c ≠ '#') (items : List Form.Pair) :
    pairs (build (String.ofList ('/' :: path)) items) = .ok items := by
  unfold pairs build
  rw [String.toList_ofList, Url.split_rooted hhead hpath fun c hc => encode_kept hc]
  show Except.ok (Form.decode (String.ofList (Form.encode items)).toList) = .ok items
  rw [String.toList_ofList, Form.decode_encode]

/-- The names and values of a path from the root with a query are read back, in their order.  They
may be any texts, and there may be none. -/
theorem pairs_build_of_path {path : String} (hroot : ['/'] <+: path.toList)
    (hsingle : ¬ ['/', '/'] <+: path.toList)
    (hplain : ∀ c ∈ path.toList, c ≠ '?' ∧ c ≠ '#' ∧ c ≠ '\t' ∧ c ≠ '\r' ∧ c ≠ '\n')
    (params : List Form.Pair) : pairs (build path params) = .ok params := by
  obtain ⟨rest, hpath⟩ := hroot
  have hrest : path = String.ofList ('/' :: rest) := by
    rw [← String.ofList_toList (s := path), ← hpath]
    rfl
  have hhead : rest.head? ≠ some '/' := by
    intro hslash
    obtain ⟨tail, rfl⟩ := List.head?_eq_some_iff.mp hslash
    exact hsingle ⟨tail, hpath⟩
  have hkept : ∀ c ∈ rest, Url.isDropped c = false ∧ c ≠ '?' ∧ c ≠ '#' := by
    intro c hc
    have hmem : c ∈ path.toList := hpath ▸ List.mem_cons_of_mem '/' hc
    obtain ⟨hquery, hfragment, htab, hreturn, hline⟩ := hplain c hmem
    refine ⟨?_, hquery, hfragment⟩
    simp [Url.isDropped, htab, hreturn, hline]
  rw [hrest]
  exact pairs_build rest hhead hkept params

/-- Separators, escapes, empty texts and characters of every length are read back. -/
theorem pairs_build_of_path_marks :
    pairs (build "/compare:a//b%41" [("", ""), ("a&b=", "+ %2F;"), ("é", "€😀"), ("#?", "\n")]) =
      .ok [("", ""), ("a&b=", "+ %2F;"), ("é", "€😀"), ("#?", "\n")] :=
  pairs_build_of_path (by decide) (by decide) (by simp) _

end BranchCompare.Query
