import BranchCompare.Proofs.CompareRequest.Reading
import BranchCompare.Proofs.Page

/-!
# What a page says of the request at its URL

A page says the first value of a name, and the request that its URL stands for has the last one.
They agree on a field exactly if the two values come to the same text (`normal`), as they do where no
name is repeated.
-/

namespace BranchCompare

/-- Where each key is there once the last entry is the first one. -/
theorem OrderedMap.last?_of_nodup {α : Type} {entries : List (String × α)}
    (h : (keys entries).Nodup) (key : String) : last? key entries = get? key entries := by
  rw [← get?_ofPairs, ofPairs_of_nodup h]

/-- A page gives a name its first value, unless this is empty. -/
theorem Page.paramOf_none (name : String) (pairs : List Form.Pair) :
    paramOf name none pairs = (OrderedMap.get? name pairs).filter (· ≠ "") := by
  unfold paramOf
  induction pairs with
  | nil => rfl
  | cons pair rest ih =>
    by_cases hname : pair.1 = name
    · by_cases hvalue : pair.2 = "" <;> simp [OrderedMap.get?, Option.filter, hname, hvalue]
    · simpa [OrderedMap.get?, hname] using ih

namespace CompareRequest

variable {pairs : List Form.Pair} {name text : String} {request : CompareRequest} {page : Page}

/-- The text of a value as a request has it: a number without the white space around it, and a truth
value also in lower case. -/
def normal (name text : String) : String :=
  if name = "threshold" then Text.strip text
  else if name = "ignore_errors" then Text.lower (Text.strip text)
  else text

theorem normal_empty (name : String) : normal name "" = "" := by
  have hstrip : Text.strip "" = "" := by decide
  have hlower : Text.lower "" = "" := by decide
  unfold normal
  split
  · exact hstrip
  · split
    · rw [hstrip, hlower]
    · rfl

/-- Whether an empty value counts makes no difference where a text that is not empty is looked for. -/
theorem map_filter_eq_some_iff {value : Option String} (hne : text ≠ "") :
    (value.filter (· ≠ "")).map (normal name) = some text ↔ value.map (normal name) = some text := by
  cases value with
  | none => rfl
  | some found =>
    by_cases hfound : found = ""
    · have hdiff : ¬ "" = text := fun h => hne h.symm
      simp [Option.filter, hfound, normal_empty, hdiff]
    · simp [Option.filter, hfound]

/-- A request has the normal texts of the last values. -/
theorem Carries.map_last? (h : Carries pairs request) (hname : name ∈ neededFields) :
    (OrderedMap.last? name pairs).map (normal name) = OrderedMap.get? name request.pairs := by
  obtain ⟨hpreset, hold, hnew, -⟩ := request.get?_pairs
  simp only [Preset.pairs, List.forall_mem_cons] at hpreset
  obtain ⟨hrepo, hthreshold, hpattern, hmethod, hignore, hunit, -⟩ := hpreset
  have hplain : ∀ {value : Option String}, value.map (fun text => text) = value := by
    intro value
    cases value <;> rfl
  simp only [neededFields, presetFields, List.cons_append, List.nil_append, List.mem_cons,
    List.not_mem_nil, or_false] at hname
  rcases hname with rfl | rfl | rfl | rfl | rfl | rfl | rfl | rfl
  · exact hplain.trans (h.repo.trans hrepo.symm)
  · exact h.threshold.trans hthreshold.symm
  · exact hplain.trans (h.pathPattern.trans hpattern.symm)
  · exact hplain.trans (h.method.trans hmethod.symm)
  · exact h.ignoreErrors.trans hignore.symm
  · exact hplain.trans (h.measure.trans hunit.symm)
  · exact hplain.trans (h.old.trans hold.symm)
  · exact hplain.trans (h.new.trans hnew.symm)

/-- The fields of a request that was read from a URL are not empty. -/
theorem Carries.get?_pairs_ne_empty (h : Carries pairs request) (hreadable : Readable pairs)
    (hname : name ∈ neededFields) :
    ∃ text, OrderedMap.get? name request.pairs = some text ∧ text ≠ "" := by
  have hthere : ∀ {name text}, name ∈ neededFields → OrderedMap.last? name pairs = some text →
      text ≠ "" := by
    intro name text hneeded hlast
    obtain ⟨found, hfound, hne⟩ := hreadable.there name hneeded
    rwa [← Option.some.inj (hlast.symm.trans hfound)] at hne
  have hmissing := request.missing_pairs (hthere (by decide) h.pathPattern)
    (hthere (by decide) h.old) (hthere (by decide) h.new)
  have hsome : nonEmpty? name request.pairs ≠ none := by
    simpa using List.filter_eq_nil_iff.mp hmissing name hname
  obtain ⟨text, htext⟩ := Option.ne_none_iff_exists'.mp hsome
  obtain ⟨hget, hne⟩ := Option.filter_eq_some_iff.mp htext
  exact ⟨text, hget, of_decide_eq_true hne⟩

/-- Whether what the page says of a field is the text that the request has for it. -/
def Agrees (page : Page) (request : CompareRequest) (name : String) : Prop :=
  (page.param name none).map (Option.map (normal name)) = .ok (OrderedMap.get? name request.pairs)

/-- A page agrees with the request at its URL on a field exactly if the first and the last value of
the field's name come to the same text.  It agrees on all fields if no name is repeated. -/
theorem agrees_iff (h : ofUrl page.url = .ok request) :
    ∃ pairs, Query.pairs page.url = .ok pairs ∧
      (∀ name ∈ neededFields, Agrees page request name ↔
        (OrderedMap.get? name pairs).map (normal name) =
          (OrderedMap.last? name pairs).map (normal name)) ∧
      ((OrderedMap.keys pairs).Nodup → ∀ name ∈ neededFields, Agrees page request name) := by
  rcases ofUrl_cases page.url with ⟨error, herror, -⟩ |
    ⟨parts, found, hsplit, hreadable, hcarries, hok⟩
  · rw [h] at herror
    cases herror
  obtain rfl := Except.ok.inj (h.symm.trans hok)
  have hpairs := Query.pairs_of_split hsplit
  have hagrees : ∀ name ∈ neededFields, Agrees page request name ↔
      (OrderedMap.get? name parts.pairs).map (normal name) =
        (OrderedMap.last? name parts.pairs).map (normal name) := by
    intro name hname
    obtain ⟨text, htext, hne⟩ := hcarries.get?_pairs_ne_empty hreadable hname
    have hparam := page.param_of_pairs hpairs name none
    unfold Agrees
    rw [hparam, Page.paramOf_none, hcarries.map_last? hname, htext, ← map_filter_eq_some_iff hne]
    exact ⟨Except.ok.inj, congrArg _⟩
  refine ⟨parts.pairs, hpairs, hagrees, fun hnodup name hname => (hagrees name hname).mpr ?_⟩
  rw [OrderedMap.last?_of_nodup hnodup]

/-- Threshold and old branch are given twice. -/
def repeatedFields : List Form.Pair :=
  [("repo", "rococo"), ("threshold", " 10"), ("path_pattern", "a"), ("method", "base"),
    ("ignore_errors", " TRUE"), ("unit", "weight"), ("old", "a"), ("new", "n"), ("old", "b"),
    ("threshold", "10")]

/-- A page at a URL with these fields, in which the second name of the old branch is escaped. -/
def repeatingPage : Page :=
  .ofUrl ("/compare?repo=rococo&threshold=+10&path_pattern=a&method=base&ignore_errors=+TRUE" ++
    "&unit=weight&old=a&new=n&%6Fld=b&threshold=10")

/-- What its URL stands for. -/
def repeatedRequest : CompareRequest :=
  ⟨⟨"rococo", by decide, Preset.standardThreshold, "a", .base, true, .weight⟩, "b", "n", none, none,
    none⟩

theorem pairs_repeatingPage : Query.pairs repeatingPage.url = .ok repeatedFields := by
  decide +kernel

theorem ofUrl_repeatingPage : ofUrl repeatingPage.url = .ok repeatedRequest := by
  rw [ofUrl_eq pairs_repeatingPage]
  decide +kernel

theorem agrees_iff_repeatingPage :
    ofUrl repeatingPage.url = .ok repeatedRequest ∧
    ∃ pairs, Query.pairs repeatingPage.url = .ok pairs ∧
      (∀ name ∈ neededFields, Agrees repeatingPage repeatedRequest name ↔
        (OrderedMap.get? name pairs).map (normal name) =
          (OrderedMap.last? name pairs).map (normal name)) ∧
      ((OrderedMap.keys pairs).Nodup →
        ∀ name ∈ neededFields, Agrees repeatingPage repeatedRequest name) :=
  ⟨ofUrl_repeatingPage, agrees_iff ofUrl_repeatingPage⟩

/-- The request has the second of two old branches, and the page says the first. -/
theorem disagrees_repeatingPage :
    ofUrl repeatingPage.url = .ok repeatedRequest ∧ repeatedRequest.old = "b" ∧
    repeatingPage.param "old" none = .ok (some "a") := by
  refine ⟨ofUrl_repeatingPage, rfl, ?_⟩
  rw [Page.param_of_pairs repeatingPage pairs_repeatingPage]
  decide

end CompareRequest

end BranchCompare
