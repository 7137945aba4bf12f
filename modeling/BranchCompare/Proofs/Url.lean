import BranchCompare.Proofs.Query
import Mathlib

/-!
# Taking URLs apart and putting them together

`Proper` lists what holds of the parts that splitting finds (`proper_of_split`), and a change of the
query keeps it.  The text that joining writes of such parts is split at the same places
(`split_join`): only the place of the host and the path is read anew, since an empty authority is not
always written.
-/

namespace BranchCompare.Text

/-- A text is cut at its first character of the class, or it holds none. -/
theorem cutAt_cases (p : Char → Bool) (cs : List Char) :
    ((∀ c ∈ cs, p c = false) ∧ cutAt p cs = (cs, none)) ∨
    ∃ before c rest, cs = before ++ c :: rest ∧ (∀ d ∈ before, p d = false) ∧ p c = true ∧
      cutAt p cs = (before, some rest) := by
  induction cs with
  | nil => exact .inl ⟨nofun, rfl⟩
  | cons c cs ih =>
    by_cases hc : p c = true
    · exact .inr ⟨[], c, cs, rfl, nofun, hc, by simp [cutAt, hc]⟩
    rw [Bool.not_eq_true] at hc
    rcases ih with ⟨hall, heq⟩ | ⟨before, d, rest, rfl, hbefore, hd, heq⟩
    · have hcons : ∀ d ∈ c :: cs, p d = false := List.forall_mem_cons.mpr ⟨hc, hall⟩
      exact .inl ⟨hcons, cutAt_of_all hcons⟩
    · have hcons : ∀ e ∈ c :: before, p e = false := List.forall_mem_cons.mpr ⟨hc, hbefore⟩
      exact .inr ⟨c :: before, d, rest, rfl, hcons, hd, cutAt_append rest hcons hd⟩

/-- What stands before the cut, and behind it. -/
theorem cutAt_split (p : Char → Bool) (cs : List Char) :
    ∃ more, cs = (cutAt p cs).1 ++ more ∧ (∀ c ∈ more.head?, p c = true) ∧
      (∀ c ∈ (cutAt p cs).1, p c = false) ∧ ∀ c ∈ (cutAt p cs).2.getD [], c ∈ more := by
  rcases cutAt_cases p cs with ⟨hall, heq⟩ | ⟨before, c, rest, rfl, hbefore, hc, heq⟩
  · rw [heq]
    exact ⟨[], (List.append_nil _).symm, nofun, hall, nofun⟩
  · rw [heq]
    refine ⟨c :: rest, rfl, fun d hd => ?_, hbefore, fun d hd => List.mem_cons_of_mem _ hd⟩
    rwa [← Option.some.inj hd]

end BranchCompare.Text

namespace BranchCompare.Url

open BranchCompare.Text

/-! ## Schemes -/

/-- A scheme as splitting gives it. -/
def IsScheme (scheme : List Char) : Prop :=
  ∃ c rest, scheme = c :: rest ∧ c.isAlpha = true ∧ (∀ d ∈ rest, isSchemeChar d = true) ∧
    scheme.map Char.toLower = scheme

/-- The text is nothing, or begins with the mark of a query or of a fragment. -/
def IsTail (text : List Char) : Prop := ∀ c ∈ text.head?, c = '?' ∨ c = '#'

theorem isSchemeChar_toLower {c : Char} (h : isSchemeChar c = true) :
    isSchemeChar c.toLower = true := by
  by_cases hupper : c.isUpper = true
  · unfold isSchemeChar Char.isAlphanum
    simp [Char.isAlpha, hupper]
  · rwa [Char.toLower_eq_of_not_isUpper hupper]

theorem isDropped_of_isSchemeChar {c : Char} (h : isSchemeChar c = true) : isDropped c = false := by
  rw [← Bool.not_eq_true]
  intro hdropped
  unfold isDropped at hdropped
  simp only [Bool.or_eq_true, beq_iff_eq] at hdropped
  rcases hdropped with (rfl | rfl) | rfl <;> cases h

theorem isSchemeChar_of_isAlpha {c : Char} (h : c.isAlpha = true) : isSchemeChar c = true := by
  simp [isSchemeChar, Char.isAlphanum, h]

theorem isLeading_of_isAlpha {c : Char} (h : c.isAlpha = true) : isLeading c = false := by
  unfold Char.isAlpha Char.isUpper Char.isLower at h
  simp only [Bool.or_eq_true, Bool.and_eq_true, decide_eq_true_eq, ge_iff_le,
    UInt32.le_iff_toNat_le] at h
  have hcode : 0x41 ≤ c.toNat := by
    rcases h with ⟨h, -⟩ | ⟨h, -⟩
    · exact h
    · exact Nat.le_trans (by decide) h
  unfold isLeading
  rw [decide_eq_false_iff_not]
  omega

/-- A scheme holds characters of schemes only. -/
theorem IsScheme.chars {scheme : List Char} (h : IsScheme scheme) :
    ∀ c ∈ scheme, isSchemeChar c = true := by
  obtain ⟨c, rest, rfl, halpha, hrest, -⟩ := h
  exact List.forall_mem_cons.mpr ⟨isSchemeChar_of_isAlpha halpha, hrest⟩

/-- A scheme in lower case is a scheme. -/
theorem isScheme_map_toLower {c : Char} {rest : List Char} (hc : c.isAlpha = true)
    (hrest : ∀ d ∈ rest, isSchemeChar d = true) : IsScheme ((c :: rest).map Char.toLower) := by
  refine ⟨c.toLower, rest.map Char.toLower, rfl, ?_, ?_, ?_⟩
  · rwa [Char.isAlpha_toLower_eq_isAlpha]
  · intro d hd
    obtain ⟨e, he, rfl⟩ := List.mem_map.mp hd
    exact isSchemeChar_toLower (hrest e he)
  · rw [List.map_map]
    refine List.map_congr_left fun d _ => ?_
    exact Char.toLower_toLower_eq_toLower d

/-- A text begins with a scheme and a colon, or it has no scheme. -/
theorem splitScheme_cases (text : List Char) :
    splitScheme text = ([], text) ∨
    IsScheme (splitScheme text).1 ∧ (splitScheme text).2 <:+ text := by
  unfold splitScheme
  rcases cutAt_cases (· == ':') text with
    ⟨-, heq⟩ | ⟨before, c, rest, rfl, -, -, heq⟩
  · rw [heq]
    cases text with
    | nil => exact .inl rfl
    | cons c cs => exact .inl rfl
  · rw [heq]
    cases before with
    | nil => exact .inl rfl
    | cons d ds =>
      dsimp only
      split
      · next h =>
        rw [Bool.and_eq_true, List.all_eq_true] at h
        refine .inr ⟨isScheme_map_toLower h.1 h.2, ?_⟩
        exact ⟨d :: ds ++ [c], by simp⟩
      · exact .inl rfl

/-- A scheme and a colon are split off. -/
theorem splitScheme_colon {scheme : List Char} (h : IsScheme scheme) (rest : List Char) :
    splitScheme (scheme ++ ':' :: rest) = (scheme, rest) := by
  have hcolon : ∀ c ∈ scheme, (c == ':') = false := by
    intro c hc
    rw [beq_eq_false_iff_ne]
    rintro rfl
    cases h.chars ':' hc
  obtain ⟨c, cs, rfl, halpha, hrest, hlower⟩ := h
  unfold splitScheme
  rw [cutAt_append rest hcolon rfl]
  dsimp only
  rw [if_pos (by simpa [halpha] using hrest), hlower]

/-- The marks of a query and of a fragment are no part of a scheme. -/
theorem splitScheme_append {place tail : List Char} (htail : IsTail tail) :
    splitScheme (place ++ tail) = ((splitScheme place).1, (splitScheme place).2 ++ tail) := by
  rcases cutAt_cases (· == ':') place with
    ⟨hplace, heq⟩ | ⟨before, c, rest, rfl, hbefore, hc, heq⟩
  · have hnone : splitScheme place = ([], place) := by
      unfold splitScheme
      rw [heq]
      cases place <;> rfl
    rw [hnone]
    rcases cutAt_cases (· == ':') tail with
      ⟨hall, -⟩ | ⟨before, c, rest, rfl, hbefore, hc, -⟩
    · have happend : ∀ c ∈ place ++ tail, (c == ':') = false :=
        List.forall_mem_append.mpr ⟨hplace, hall⟩
      unfold splitScheme
      rw [cutAt_of_all happend]
      cases place ++ tail <;> rfl
    · -- the colon comes after the mark, which is no character of a scheme
      cases before with
      | nil =>
        obtain rfl : c = ':' := beq_iff_eq.mp hc
        rcases htail ':' rfl with h | h <;> cases h
      | cons mark before =>
        have hmark : isSchemeChar mark = false := by
          rcases htail mark rfl with rfl | rfl <;> rfl
        have happend : ∀ d ∈ place ++ mark :: before, (d == ':') = false :=
          List.forall_mem_append.mpr ⟨hplace, hbefore⟩
        have hcut := cutAt_append (c := c) rest happend hc
        rw [List.append_assoc] at hcut
        unfold splitScheme
        rw [hcut]
        cases place with
        | nil =>
          have halpha : mark.isAlpha = false := by
            rw [← Bool.not_eq_true]
            intro h
            rw [isSchemeChar_of_isAlpha h] at hmark
            cases hmark
          simp [halpha]
        | cons d ds => simp [hmark]
  · unfold splitScheme
    rw [heq, List.append_assoc, List.cons_append, cutAt_append _ hbefore hc]
    cases before with
    | nil => simp
    | cons d ds =>
      dsimp only
      split
      · rfl
      · simp

/-! ## Authorities -/

/-- The authority ends where the tail begins. -/
theorem takeWhile_append_tail (place : List Char) {tail : List Char} (htail : IsTail tail) :
    (place ++ tail).takeWhile (fun c => !endsAuthority c) =
        place.takeWhile (fun c => !endsAuthority c) ∧
      (place ++ tail).dropWhile (fun c => !endsAuthority c) =
        place.dropWhile (fun c => !endsAuthority c) ++ tail := by
  induction place with
  | nil =>
    cases tail with
    | nil => exact ⟨rfl, rfl⟩
    | cons mark tail => rcases htail mark rfl with rfl | rfl <;> exact ⟨rfl, rfl⟩
  | cons c place ih =>
    by_cases hc : endsAuthority c = true
    · simp [hc]
    · simp [hc, ih.1, ih.2]

/-- The marks of a query and of a fragment are no part of an authority. -/
theorem splitAuthority_append {place tail : List Char} (htail : IsTail tail) :
    splitAuthority (place ++ tail) =
      ((splitAuthority place).1, (splitAuthority place).2 ++ tail) := by
  have hmark : ∀ rest, tail ≠ '/' :: rest := by
    rintro rest rfl
    rcases htail '/' rfl with h | h <;> cases h
  match place with
  | [] =>
    have hnone : splitAuthority tail = ([], tail) := by
      unfold splitAuthority
      split
      · exact absurd rfl (hmark _)
      · rfl
    exact hnone
  | [c] =>
    by_cases hc : c = '/'
    · subst hc
      have hhead : tail.head? ≠ some '/' := by
        intro h
        rcases htail '/' h with h | h <;> cases h
      exact splitAuthority_rooted hhead
    · have hnone : ∀ rest, splitAuthority (c :: rest) = ([], c :: rest) := by
        intro rest
        unfold splitAuthority
        split
        · next heq => exact absurd (List.cons.inj heq).1 hc
        · rfl
      rw [hnone, List.cons_append, hnone]
  | c :: d :: rest =>
    by_cases hslashes : c = '/' ∧ d = '/'
    · obtain ⟨rfl, rfl⟩ := hslashes
      obtain ⟨htake, hdrop⟩ := takeWhile_append_tail rest htail
      show ((rest ++ tail).takeWhile _, (rest ++ tail).dropWhile _) = _
      rw [htake, hdrop]
      rfl
    · have hnone : ∀ rest, splitAuthority (c :: d :: rest) = ([], c :: d :: rest) := by
        intro rest
        unfold splitAuthority
        split
        · next heq =>
          obtain ⟨rfl, htl⟩ := List.cons.inj heq
          exact absurd ⟨rfl, (List.cons.inj htl).1⟩ hslashes
        · rfl
      rw [hnone, List.cons_append, List.cons_append, hnone]

/-- The parts of a text hold its characters only. -/
theorem mem_of_mem_splitAuthority (text : List Char) :
    (∀ c ∈ (splitAuthority text).1, c ∈ text) ∧ ∀ c ∈ (splitAuthority text).2, c ∈ text := by
  unfold splitAuthority
  split
  · next rest =>
    have hrest : ∀ c ∈ rest, c ∈ '/' :: '/' :: rest := fun c hc =>
      List.mem_cons_of_mem _ (List.mem_cons_of_mem _ hc)
    exact ⟨fun c hc => hrest c ((List.takeWhile_sublist _).mem hc),
      fun c hc => hrest c ((List.dropWhile_sublist _).mem hc)⟩
  · exact ⟨nofun, fun _ hc => hc⟩

/-- What stands after two slashes is the authority. -/
theorem splitAuthority_slashes {authority path : List Char}
    (hauthority : ∀ c ∈ authority, endsAuthority c = false) :
    splitAuthority ('/' :: '/' :: authority ++ rootedPath path) =
      (authority, rootedPath path) := by
  have hkept : ∀ c ∈ authority, (!endsAuthority c) = true := fun c hc => by
    rw [hauthority c hc]
    rfl
  show ((authority ++ rootedPath path).takeWhile _, (authority ++ rootedPath path).dropWhile _) = _
  rw [List.takeWhile_append_of_pos hkept, List.dropWhile_append_of_pos hkept]
  unfold rootedPath
  split
  · simp
  · simp [endsAuthority]
  · simp [endsAuthority]

/-! ## The parts of a URL -/

/-- What holds of the parts that splitting finds. -/
structure Proper (url : Url) : Prop where
  scheme : url.scheme = "" ∨ IsScheme url.scheme.toList
  authority : ∀ c ∈ url.authority.toList, endsAuthority c = false
  rooted : url.authority ≠ "" → rootedPath url.path.toList = url.path.toList
  path : ∀ c ∈ url.path.toList, c ≠ '?' ∧ c ≠ '#'
  query : ∀ c ∈ url.query.toList, c ≠ '#'
  kept : ∀ part ∈ [url.authority, url.path, url.query, url.fragment],
    ∀ c ∈ part.toList, isDropped c = false
  /-- A path that begins a URL is not read as a scheme, nor does it lose a character. -/
  start : url.scheme = "" → url.authority = "" →
    splitScheme url.path.toList = ([], url.path.toList) ∧
      ∀ c ∈ url.path.toList.head?, isLeading c = false

/-- The host and the path as they are written. -/
def place (url : Url) : List Char :=
  if url.hasSlashes then '/' :: '/' :: url.authority.toList ++ rootedPath url.path.toList
  else url.path.toList

/-- The query and the fragment as they are written. -/
def tail (url : Url) : List Char := marked '?' url.query ++ marked '#' url.fragment

theorem join_eq (url : Url) :
    url.join = String.ofList ((if url.scheme.isEmpty then [] else url.scheme.toList ++ [':']) ++
      (url.place ++ url.tail)) := by
  unfold join place tail
  dsimp only
  rw [List.append_assoc, List.append_assoc]

theorem isTail_tail (url : Url) : IsTail url.tail := by
  unfold tail marked
  intro c hc
  split at hc
  · split at hc
    · cases hc
    · exact .inr (Option.some.inj hc).symm
  · exact .inl (Option.some.inj hc).symm

/-- The parts of a URL of which what follows the authority has not been cut. -/
def ofRest (scheme authority rest : List Char) : Url :=
  let (rest, fragment) := cutAt (· == '#') rest
  let (path, query) := cutAt (· == '?') rest
  ⟨String.ofList scheme, String.ofList authority, String.ofList path,
    String.ofList (query.getD []), String.ofList (fragment.getD [])⟩

/-- A URL is split from left to right. -/
theorem split_eq (text : String) :
    split text =
      let found := splitScheme (clean text.toList)
      let placed := splitAuthority found.2
      (checkAuthority placed.1).map fun _ => ofRest found.1 placed.1 placed.2 := by
  unfold split ofRest
  dsimp only
  cases checkAuthority (splitAuthority (splitScheme (clean text.toList)).2).1 <;> rfl

/-- A part behind its mark is cut off there, and nothing is cut off for an empty part. -/
theorem cutAt_marked {text : List Char} {mark : Char} (part : String)
    (h : ∀ c ∈ text, (c == mark) = false) :
    ∃ found, cutAt (· == mark) (text ++ marked mark part) = (text, found) ∧
      String.ofList (found.getD []) = part := by
  unfold marked
  split
  · next hempty =>
    refine ⟨none, ?_, (String.isEmpty_iff.mp hempty).symm⟩
    rw [List.append_nil]
    exact cutAt_of_all h
  · refine ⟨some part.toList, cutAt_append _ h (beq_self_eq_true mark), ?_⟩
    exact String.ofList_toList

/-- The tail of a URL is split into its query and its fragment. -/
theorem ofRest_tail (scheme authority : List Char) {path : List Char} {url : Url}
    (hpath : ∀ c ∈ path, c ≠ '?' ∧ c ≠ '#') (hquery : ∀ c ∈ url.query.toList, c ≠ '#') :
    ofRest scheme authority (path ++ url.tail) =
      ⟨String.ofList scheme, String.ofList authority, String.ofList path, url.query,
        url.fragment⟩ := by
  have hfront : ∀ c ∈ path ++ marked '?' url.query, (c == '#') = false := by
    intro c hc
    rw [beq_eq_false_iff_ne]
    rcases List.mem_append.mp hc with hc | hc
    · exact (hpath c hc).2
    · unfold marked at hc
      split at hc
      · cases hc
      · rcases List.mem_cons.mp hc with rfl | hc
        · decide
        · exact hquery c hc
  have hmark : ∀ c ∈ path, (c == '?') = false := fun c hc =>
    beq_eq_false_iff_ne.mpr (hpath c hc).1
  obtain ⟨fragment, hcut, hfragment⟩ := cutAt_marked url.fragment hfront
  obtain ⟨query, hcut', hquery'⟩ := cutAt_marked url.query hmark
  unfold ofRest tail
  rw [← List.append_assoc, hcut]
  dsimp only
  rw [hcut', hfragment, hquery']

/-- The path is the beginning of what is cut, and the other parts stand behind it. -/
theorem ofRest_split (scheme authority rest : List Char) :
    let url := ofRest scheme authority rest
    ∃ more, rest = url.path.toList ++ more ∧ IsTail more ∧
      (∀ c ∈ url.path.toList, c ≠ '?' ∧ c ≠ '#') ∧ (∀ c ∈ url.query.toList, c ≠ '#') ∧
      (∀ c ∈ url.query.toList, c ∈ rest) ∧ ∀ c ∈ url.fragment.toList, c ∈ rest := by
  obtain ⟨behind, hrest, hbehind, hfront, hfragment⟩ := cutAt_split (· == '#') rest
  obtain ⟨more, hpath, hmore, hmark, hquery⟩ :=
    cutAt_split (· == '?') (cutAt (· == '#') rest).1
  unfold ofRest
  simp only [String.toList_ofList]
  have hmem : ∀ c ∈ (cutAt (· == '#') rest).1, c ∈ rest := by
    intro c hc
    rw [hrest]
    exact List.mem_append_left _ hc
  have hinPath : ∀ c ∈ (cutAt (· == '?') (cutAt (· == '#') rest).1).1,
      c ∈ (cutAt (· == '#') rest).1 := by
    intro c hc
    rw [hpath]
    exact List.mem_append_left _ hc
  have hinQuery : ∀ c ∈ (cutAt (· == '?') (cutAt (· == '#') rest).1).2.getD [],
      c ∈ (cutAt (· == '#') rest).1 := by
    intro c hc
    rw [hpath]
    exact List.mem_append_right _ (hquery c hc)
  refine ⟨more ++ behind, ?_, fun c hc => ?_, fun c hc => ⟨?_, ?_⟩, fun c hc => ?_,
    fun c hc => hmem c (hinQuery c hc), fun c hc => ?_⟩
  · rw [← List.append_assoc, ← hpath]
    exact hrest
  · rw [List.head?_append, Option.mem_def, Option.or_eq_some_iff] at hc
    rcases hc with hc | ⟨-, hc⟩
    · exact .inl (beq_iff_eq.mp (hmore c hc))
    · exact .inr (beq_iff_eq.mp (hbehind c hc))
  · exact beq_eq_false_iff_ne.mp (hmark c hc)
  · exact beq_eq_false_iff_ne.mp (hfront c (hinPath c hc))
  · exact beq_eq_false_iff_ne.mp (hfront c (hinQuery c hc))
  · rw [hrest]
    exact List.mem_append_right _ (hfragment c hc)

theorem head?_dropWhile_endsAuthority {text : List Char} {c : Char}
    (h : c ∈ (text.dropWhile fun d => !endsAuthority d).head?) : endsAuthority c = true := by
  have := List.head?_dropWhile_not (fun d => !endsAuthority d) text
  rw [Option.mem_def.mp h] at this
  simpa using this

/-- After an authority the text goes on with one of the characters that end it. -/
theorem splitAuthority_rest (text : List Char) :
    splitAuthority text = ([], text) ∨
      ∀ c ∈ (splitAuthority text).2.head?, endsAuthority c = true := by
  unfold splitAuthority
  split
  · exact .inr fun c hc => head?_dropWhile_endsAuthority hc
  · exact .inl rfl

/-- A clean text holds no characters that are dropped. -/
theorem clean_kept (text : List Char) : ∀ c ∈ clean text, isDropped c = false := by
  intro c hc
  have := (List.mem_filter.mp hc).2
  simpa using this

theorem isLeading_of_isDropped {c : Char} (h : isDropped c = true) : isLeading c = true := by
  unfold isDropped at h
  simp only [Bool.or_eq_true, beq_iff_eq] at h
  rcases h with (rfl | rfl) | rfl <;> rfl

/-- A clean text has no blanks in front. -/
theorem clean_head (text : List Char) : ∀ c ∈ (clean text).head?, isLeading c = false := by
  have hnot := List.head?_dropWhile_not isLeading text
  unfold clean
  cases hdrop : text.dropWhile isLeading with
  | nil => exact nofun
  | cons d rest =>
    rw [hdrop] at hnot
    have hd : isLeading d = false := by simpa using hnot
    have hkept : isDropped d = false := by
      rw [← Bool.not_eq_true]
      intro hdropped
      rw [isLeading_of_isDropped hdropped] at hd
      cases hd
    rw [List.filter_cons_of_pos (by simpa using hkept)]
    intro c hc
    rwa [← Option.some.inj hc]

/-- A text without a scheme does not get one by losing its query. -/
theorem splitScheme_of_append {place tail : List Char} (htail : IsTail tail)
    (h : splitScheme (place ++ tail) = ([], place ++ tail)) : splitScheme place = ([], place) := by
  rw [splitScheme_append htail] at h
  obtain ⟨hscheme, hrest⟩ := Prod.mk.inj h
  exact Prod.ext hscheme (List.append_cancel_right hrest)

theorem authority_chars {text : List Char} :
    ∀ c ∈ (splitAuthority text).1, endsAuthority c = false := by
  unfold splitAuthority
  split
  · intro c hc
    have := List.mem_takeWhile_imp hc
    simpa using this
  · exact nofun

/-- A path behind an authority is empty or begins with a slash. -/
theorem rootedPath_of_head {path more : List Char} (hpath : ∀ c ∈ path, c ≠ '?' ∧ c ≠ '#')
    (h : ∀ c ∈ (path ++ more).head?, endsAuthority c = true) : rootedPath path = path := by
  cases path with
  | nil => rfl
  | cons c path =>
    have hc : endsAuthority c = true := h c rfl
    obtain ⟨hquery, hfragment⟩ := hpath c List.mem_cons_self
    have hslash : c = '/' := by simpa [endsAuthority, hquery, hfragment] using hc
    rw [hslash]
    rfl

/-- A path that is empty or begins with a slash is not read as a scheme. -/
theorem start_rooted {path : List Char} (hrooted : rootedPath path = path) :
    splitScheme path = ([], path) ∧ ∀ c ∈ path.head?, isLeading c = false := by
  cases path with
  | nil =>
    refine ⟨rfl, fun c hc => ?_⟩
    cases hc
  | cons c path =>
    have hslash : c = '/' := by
      unfold rootedPath at hrooted
      split at hrooted
      · cases hrooted
      · next heq => exact (List.cons.inj heq).1
      · next heq => exact absurd (List.cons.inj hrooted).2 (by simp)
    subst hslash
    refine ⟨splitScheme_rooted path, fun d hd => ?_⟩
    rw [← Option.some.inj hd]
    rfl

/-- In a text without a scheme the path is not read as one: it begins the text, or stands behind an
authority. -/
theorem start_path {text path more : List Char} (hpath : ∀ c ∈ path, c ≠ '?' ∧ c ≠ '#')
    (hmore : IsTail more) (hwhole : splitScheme text = ([], text))
    (hhead : ∀ c ∈ text.head?, isLeading c = false)
    (hrest : (splitAuthority text).2 = path ++ more) :
    splitScheme path = ([], path) ∧ ∀ c ∈ path.head?, isLeading c = false := by
  rcases splitAuthority_rest text with heq | hends
  · have htext : text = path ++ more := by
      rw [← hrest, heq]
    refine ⟨splitScheme_of_append hmore (htext ▸ hwhole), fun c hc => hhead c ?_⟩
    rw [htext, List.head?_append, Option.mem_def.mp hc]
    rfl
  · exact start_rooted (rootedPath_of_head hpath (hrest ▸ hends))

/-- The parts of a text from which nothing has to be left out. -/
theorem proper_ofRest {text : List Char} (hkept : ∀ c ∈ text, isDropped c = false)
    (hhead : ∀ c ∈ text.head?, isLeading c = false) :
    let found := splitScheme text
    let placed := splitAuthority found.2
    (ofRest found.1 placed.1 placed.2).Proper := by
  intro found placed
  have hinText : ∀ c ∈ found.2, c ∈ text := by
    rcases splitScheme_cases text with heq | ⟨-, hsuffix⟩
    · intro c hc
      have hfound : found.2 = text := congrArg Prod.snd heq
      rwa [hfound] at hc
    · exact fun c hc => hsuffix.mem hc
  obtain ⟨hinAuthority, hinRest⟩ := mem_of_mem_splitAuthority found.2
  obtain ⟨more, hrest, hmore, hpath, hquery, hinQuery, hinFragment⟩ :=
    ofRest_split found.1 placed.1 placed.2
  have hscheme : (ofRest found.1 placed.1 placed.2).scheme = String.ofList found.1 := rfl
  have hauthority : (ofRest found.1 placed.1 placed.2).authority = String.ofList placed.1 := rfl
  generalize ofRest found.1 placed.1 placed.2 = url at *
  have hinPath : ∀ c ∈ url.path.toList, c ∈ placed.2 := by
    intro c hc
    rw [hrest]
    exact List.mem_append_left _ hc
  have hempty : ∀ {part : List Char}, String.ofList part = "" → part = [] := fun h => by
    simpa using congrArg String.toList h
  constructor
  case scheme =>
    rw [hscheme, String.toList_ofList]
    rcases splitScheme_cases text with heq | ⟨hfound, -⟩
    · exact .inl (congrArg (fun found => String.ofList found.1) heq)
    · exact .inr hfound
  case authority =>
    rw [hauthority, String.toList_ofList]
    exact authority_chars
  case rooted =>
    intro hne
    rcases splitAuthority_rest found.2 with heq | hends
    · exact absurd (hauthority.trans (congrArg (fun placed => String.ofList placed.1) heq)) hne
    · exact rootedPath_of_head hpath (hrest ▸ hends)
  case path =>
    exact hpath
  case query =>
    exact hquery
  case kept =>
    intro part hpart c hc
    refine hkept c (hinText c ?_)
    simp only [List.mem_cons, List.not_mem_nil, or_false] at hpart
    rcases hpart with rfl | rfl | rfl | rfl
    · rw [hauthority, String.toList_ofList] at hc
      exact hinAuthority c hc
    · exact hinRest c (hinPath c hc)
    · exact hinRest c (hinQuery c hc)
    · exact hinRest c (hinFragment c hc)
  case start =>
    intro hnoScheme hnoAuthority
    rw [hscheme] at hnoScheme
    rw [hauthority] at hnoAuthority
    have hwhole : splitScheme text = ([], text) := by
      rcases splitScheme_cases text with heq | ⟨⟨c, cs, hfound, -⟩, -⟩
      · exact heq
      · cases hfound.symm.trans (hempty hnoScheme)
    refine start_path hpath hmore hwhole hhead ?_
    rw [← hrest, ← show found.2 = text from congrArg Prod.snd hwhole]

/-- The parts that splitting finds, with the check that the authority has passed. -/
theorem proper_of_split {text : String} {url : Url} (h : split text = .ok url) :
    url.Proper ∧ checkAuthority url.authority.toList = .ok () := by
  have hproper := proper_ofRest (clean_kept text.toList) (clean_head text.toList)
  rw [split_eq] at h
  dsimp only at h hproper
  cases hcheck : checkAuthority (splitAuthority (splitScheme (clean text.toList)).2).1 with
  | error fault =>
    rw [hcheck] at h
    cases h
  | ok _ =>
    rw [hcheck] at h
    obtain rfl := Except.ok.inj h
    refine ⟨hproper, ?_⟩
    show checkAuthority (String.ofList _).toList = _
    rw [String.toList_ofList]
    exact hcheck

/-! ## Joining and splitting -/

/-- A text without such characters is clean. -/
theorem clean_of_kept {text : List Char} (hkept : ∀ c ∈ text, isDropped c = false)
    (hhead : ∀ c ∈ text.head?, isLeading c = false) : clean text = text := by
  have hdrop : text.dropWhile isLeading = text := by
    cases text with
    | nil => rfl
    | cons c text => exact List.dropWhile_cons_of_neg (by simp [hhead c rfl])
  unfold clean
  rw [hdrop, List.filter_eq_self]
  intro c hc
  simp [hkept c hc]

theorem mem_rootedPath {path : List Char} {c : Char} (h : c ∈ rootedPath path) :
    c = '/' ∨ c ∈ path := by
  unfold rootedPath at h
  split at h
  · cases h
  · exact .inr h
  · exact List.mem_cons.mp h

/-- The place of a URL holds slashes and what its authority and its path hold. -/
theorem mem_place {url : Url} {c : Char} (h : c ∈ url.place) :
    c = '/' ∨ c ∈ url.authority.toList ∨ c ∈ url.path.toList := by
  unfold place at h
  split at h
  · simp only [List.cons_append, List.mem_cons, List.mem_append] at h
    rcases h with rfl | rfl | h | h
    · exact .inl rfl
    · exact .inl rfl
    · exact .inr (.inl h)
    · exact (mem_rootedPath h).imp_right .inr
  · exact .inr (.inr h)

theorem mem_tail {url : Url} {c : Char} (h : c ∈ url.tail) :
    c = '?' ∨ c = '#' ∨ c ∈ url.query.toList ∨ c ∈ url.fragment.toList := by
  unfold tail marked at h
  rcases List.mem_append.mp h with h | h
  · split at h
    · cases h
    · exact (List.mem_cons.mp h).imp_right fun h => .inr (.inl h)
  · split at h
    · cases h
    · exact .inr ((List.mem_cons.mp h).imp_right .inr)

section Proper

variable {url : Url}

theorem authority_of_not_hasSlashes (h : url.hasSlashes = false) : url.authority = "" := by
  unfold hasSlashes at h
  rw [Bool.or_eq_false_iff, Bool.not_eq_false'] at h
  exact String.isEmpty_iff.mp h.1

theorem Proper.place_chars (h : url.Proper) : ∀ c ∈ url.place, c ≠ '?' ∧ c ≠ '#' := by
  intro c hc
  rcases mem_place hc with rfl | hc | hc
  · decide
  · have hends := h.authority c hc
    constructor <;> rintro rfl <;> cases hends
  · exact h.path c hc

theorem Proper.kept_place (h : url.Proper) : ∀ c ∈ url.place ++ url.tail, isDropped c = false := by
  intro c hc
  rcases List.mem_append.mp hc with hc | hc
  · rcases mem_place hc with rfl | hc | hc
    · rfl
    · exact h.kept url.authority (by simp) c hc
    · exact h.kept url.path (by simp) c hc
  · rcases mem_tail hc with rfl | rfl | hc | hc
    · rfl
    · rfl
    · exact h.kept url.query (by simp) c hc
    · exact h.kept url.fragment (by simp) c hc

/-- Without a scheme the place is not read as one, and begins with a character that counts. -/
theorem Proper.start_place (h : url.Proper) (hscheme : url.scheme = "") :
    splitScheme url.place = ([], url.place) ∧ ∀ c ∈ url.place.head?, isLeading c = false := by
  unfold place
  cases hslashes : url.hasSlashes with
  | true =>
    refine ⟨splitScheme_rooted _, fun c hc => ?_⟩
    rw [← Option.some.inj hc]
    rfl
  | false => exact h.start hscheme (authority_of_not_hasSlashes hslashes)

/-- Cleaning leaves what joining writes, and the scheme is found again. -/
theorem Proper.splitScheme_join (h : url.Proper) : clean url.join.toList = url.join.toList ∧
    splitScheme url.join.toList = (url.scheme.toList, url.place ++ url.tail) := by
  have htail := isTail_tail url
  rw [join_eq, String.toList_ofList]
  rcases h.scheme with hnone | hscheme
  · obtain ⟨hplace, hhead⟩ := h.start_place hnone
    rw [if_pos (String.isEmpty_iff.mpr hnone), List.nil_append, hnone, splitScheme_append htail,
      hplace]
    refine ⟨clean_of_kept h.kept_place fun c hc => ?_, rfl⟩
    rw [List.head?_append, Option.mem_def, Option.or_eq_some_iff] at hc
    rcases hc with hc | ⟨-, hc⟩
    · exact hhead c hc
    · rcases htail c hc with rfl | rfl <;> rfl
  · have hne : ¬ url.scheme.isEmpty = true := by
      intro hempty
      obtain ⟨c, rest, heq, -⟩ := hscheme
      rw [String.isEmpty_iff.mp hempty] at heq
      cases heq
    rw [if_neg hne, List.append_assoc, List.singleton_append, splitScheme_colon hscheme]
    refine ⟨clean_of_kept ?_ ?_, rfl⟩
    · intro c hc
      rcases List.mem_append.mp hc with hc | hc
      · exact isDropped_of_isSchemeChar (hscheme.chars c hc)
      · rcases List.mem_cons.mp hc with rfl | hc
        · rfl
        · exact h.kept_place c hc
    · obtain ⟨first, rest, heq, halpha, -⟩ := hscheme
      rw [heq]
      intro c hc
      obtain rfl : first = c := Option.some.inj hc
      exact isLeading_of_isAlpha halpha

/-- What joining writes is split at the same places. -/
theorem Proper.split_join (h : url.Proper) :
    split url.join = (checkAuthority (splitAuthority url.place).1).map fun _ =>
      ⟨url.scheme, String.ofList (splitAuthority url.place).1,
        String.ofList (splitAuthority url.place).2, url.query, url.fragment⟩ := by
  obtain ⟨hclean, hscheme⟩ := h.splitScheme_join
  have hpath : ∀ c ∈ (splitAuthority url.place).2, c ≠ '?' ∧ c ≠ '#' := fun c hc =>
    h.place_chars c ((mem_of_mem_splitAuthority _).2 c hc)
  rw [split_eq, hclean, hscheme]
  dsimp only
  rw [splitAuthority_append (isTail_tail url)]
  dsimp only
  rw [ofRest_tail _ _ hpath h.query, String.ofList_toList]

/-- A proper URL that is split again has the same query. -/
theorem Proper.query_of_split (h : url.Proper) {read : Url} (hread : split url.join = .ok read) :
    read.query = url.query := by
  rw [h.split_join] at hread
  cases hcheck : checkAuthority (splitAuthority url.place).1 with
  | error fault =>
    rw [hcheck] at hread
    cases hread
  | ok authority =>
    rw [hcheck] at hread
    rw [← Except.ok.inj hread]

end Proper

/-! ## Well-formed URLs -/

/-- The character may stand in any authority. -/
def IsPlain (c : Char) : Prop := c ≠ '[' ∧ c ≠ ']' ∧ hiddenDelimiters.contains c = false

theorem checkAuthority_plain {authority : List Char} (h : ∀ c ∈ authority, IsPlain c) :
    checkAuthority authority = .ok () := by
  have hopen : authority.contains '[' = false := by
    simpa using fun hmem => (h '[' hmem).1 rfl
  have hclosed : authority.contains ']' = false := by
    simpa using fun hmem => (h ']' hmem).2.1 rfl
  have hhidden : authority.any hiddenDelimiters.contains = false := by
    rw [List.any_eq_false]
    intro c hc
    rw [(h c hc).2.2]
    exact Bool.false_ne_true
  unfold checkAuthority
  rw [hopen, hclosed, hhidden]
  rfl

/-- A URL that can be split.  Brackets, and characters that stand for delimiters, do not belong in a
path: where two slashes begin a path, what follows them could come to be read as an authority. -/
def WellFormed (text : String) : Prop :=
  ∃ url, split text = .ok url ∧
    (url.authority = "" → ['/', '/'] <+: url.path.toList → ∀ c ∈ url.path.toList, IsPlain c)

theorem splitAuthority_of_not_slashes {text : List Char} (h : ¬ ['/', '/'] <+: text) :
    splitAuthority text = ([], text) := by
  unfold splitAuthority
  split
  · next rest => exact absurd ⟨rest, rfl⟩ h
  · rfl

/-- Two slashes are written for an empty authority only where the path does not begin with two. -/
theorem not_slashes_rootedPath {url : Url} (hslashes : url.hasSlashes = true)
    (hnone : url.authority = "") : ¬ ['/', '/'] <+: rootedPath url.path.toList := by
  have htwo : url.path.toList.take 2 ≠ ['/', '/'] := by
    unfold hasSlashes at hslashes
    simp only [String.isEmpty_iff.mpr hnone, Bool.not_true, Bool.false_or, Bool.and_eq_true,
      bne_iff_ne] at hslashes
    exact hslashes.2
  unfold rootedPath
  rintro ⟨rest, heq⟩
  split at heq
  · cases heq
  · next hpath =>
    rw [← heq] at htwo
    exact htwo rfl
  · next hne =>
    obtain ⟨-, hrest⟩ := List.cons.inj heq
    exact hne _ hrest.symm

/-- A proper URL stays so with any query of kept characters. -/
theorem Proper.setQuery {url : Url} (h : url.Proper) {query : String}
    (hquery : ∀ c ∈ query.toList, isDropped c = false ∧ c ≠ '#') :
    Proper { url with query := query } where
  scheme := h.scheme
  authority := h.authority
  rooted := h.rooted
  path := h.path
  query c hc := (hquery c hc).2
  kept part hpart c hc := by
    simp only [List.mem_cons, List.not_mem_nil, or_false] at hpart
    rcases hpart with rfl | rfl | rfl | rfl
    · exact h.kept url.authority (by simp) c hc
    · exact h.kept url.path (by simp) c hc
    · exact (hquery c hc).1
    · exact h.kept url.fragment (by simp) c hc
  start := h.start

/-- The text that is written of the parts of a well-formed URL is well-formed. -/
theorem Proper.wellFormed_join {url : Url} (h : url.Proper)
    (hcheck : checkAuthority url.authority.toList = .ok ())
    (hpath : url.authority = "" → ['/', '/'] <+: url.path.toList →
      ∀ c ∈ url.path.toList, IsPlain c) : WellFormed url.join := by
  have hsplit := h.split_join
  unfold place at hsplit
  cases hslashes : url.hasSlashes with
  | true =>
    rw [hslashes, if_pos rfl, splitAuthority_slashes h.authority, hcheck] at hsplit
    refine ⟨_, hsplit, fun hnone hprefix => ?_⟩
    simp only [String.toList_ofList, String.ofList_toList] at hnone hprefix
    exact absurd hprefix (not_slashes_rootedPath hslashes hnone)
  | false =>
    have hnone := authority_of_not_hasSlashes hslashes
    rw [hslashes, if_neg Bool.false_ne_true] at hsplit
    by_cases hprefix : ['/', '/'] <+: url.path.toList
    · -- the beginning of the path is read as the authority now
      have hplain := hpath hnone hprefix
      obtain ⟨hauthority, hrest⟩ := mem_of_mem_splitAuthority url.path.toList
      rw [checkAuthority_plain fun c hc => hplain c (hauthority c hc)] at hsplit
      refine ⟨_, hsplit, fun _ _ c hc => ?_⟩
      rw [String.toList_ofList] at hc
      exact hplain c (hrest c hc)
    · rw [splitAuthority_of_not_slashes hprefix, checkAuthority_plain fun _ h => absurd h List.not_mem_nil] at hsplit
      refine ⟨_, hsplit, fun _ hslashes => ?_⟩
      rw [String.toList_ofList] at hslashes
      exact absurd hslashes hprefix

end BranchCompare.Url

namespace BranchCompare.Query

open BranchCompare.Url (WellFormed)

/-- A change of the query of a well-formed URL succeeds, and the changed URL is well-formed. -/
theorem wellFormed_edit (change : List Form.Pair → List Form.Pair) {url : String}
    (h : WellFormed url) : ∃ edited, edit change url = .ok edited ∧ WellFormed edited := by
  obtain ⟨parts, hsplit, hpath⟩ := h
  obtain ⟨hproper, hcheck⟩ := Url.proper_of_split hsplit
  unfold edit
  rw [hsplit]
  refine ⟨_, rfl, ?_⟩
  refine (hproper.setQuery fun c hc => ?_).wellFormed_join hcheck hpath
  rw [String.toList_ofList] at hc
  exact encode_kept hc

/-- The changed names and values are read back from the changed URL. -/
theorem pairs_edit (change : List Form.Pair → List Form.Pair) {url : String} (h : WellFormed url) :
    ∃ found edited, pairs url = .ok found ∧ edit change url = .ok edited ∧ WellFormed edited ∧
      pairs edited = .ok (change found) := by
  obtain ⟨edited, hedit, hwell⟩ := wellFormed_edit change h
  obtain ⟨parts, hsplit, -⟩ := h
  let written := Form.encode (change (Form.decode parts.query.toList))
  have hkept : ∀ c ∈ (String.ofList written).toList, Url.isDropped c = false ∧ c ≠ '#' := by
    intro c hc
    rw [String.toList_ofList] at hc
    exact encode_kept hc
  have hproper := (Url.proper_of_split hsplit).1.setQuery hkept
  refine ⟨_, edited, congrArg (Except.map fun url : Url => Form.decode url.query.toList) hsplit,
    hedit, hwell, ?_⟩
  -- joining may move the end of the authority, but not the query
  obtain ⟨read, hread, -⟩ := hwell
  unfold edit at hedit
  rw [hsplit] at hedit
  obtain rfl := Except.ok.inj hedit
  unfold pairs
  rw [hread]
  show Except.ok (Form.decode read.query.toList) = _
  rw [hproper.query_of_split hread, String.toList_ofList, Form.decode_encode]

end BranchCompare.Query
