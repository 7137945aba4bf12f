import BranchCompare.CompareRequest
import BranchCompare.Proofs.Query

/-!
# Reading back the URL of a comparison

A preset whose texts are the fields of a value passes the checks of these fields (`check_texts`):
a threshold has no white space to lose, and each word stands for what it was written for.  Names in
the URL of a request differ, so that each value is found again, and `ofUrl_url` says that the URL
stands for the request, up to empty options, which are not written.
-/

namespace BranchCompare

/-! ## White space around numbers and words -/

namespace Text

theorem isBlank_of_isDigit {c : Char} (h : isDigit c = true) : isBlank c = false := by
  have hapart : ∀ range ∈ digitRanges, ∀ blank ∈ blankRanges,
      range.2 < blank.1 ∨ blank.2 < range.1 := by decide +kernel
  obtain ⟨range, hrange, hin⟩ := inRanges_iff.mp h
  rw [← Bool.not_eq_true]
  intro hblank
  obtain ⟨blank, hmem, hin'⟩ := inRanges_iff.mp hblank
  have := hapart range hrange blank hmem
  omega

/-- Nothing is trimmed from a text without blanks. -/
theorem trimBoth_of_all {p : Char → Bool} {cs : List Char} (h : ∀ c ∈ cs, p c = false) :
    trimBoth p cs = cs := by
  have hdrop : ∀ ds : List Char, (∀ c ∈ ds, p c = false) → ds.dropWhile p = ds := by
    intro ds hds
    cases ds with
    | nil => rfl
    | cons d ds => exact List.dropWhile_cons_of_neg (by simp [hds d List.mem_cons_self])
  unfold trimBoth
  rw [hdrop cs h, hdrop cs.reverse fun c hc => h c (List.mem_reverse.mp hc), List.reverse_reverse]

/-- Digits hold no blanks. -/
theorem strip_of_isDigits {text : String} (h : isDigits text = true) : strip text = text := by
  unfold isDigits at h
  rw [Bool.and_eq_true] at h
  have hall : ∀ c ∈ text.toList, isBlank c = false :=
    fun c hc => isBlank_of_isDigit (List.all_eq_true.mp h.2 c hc)
  unfold strip
  rw [trimBoth_of_all hall, String.ofList_toList]

theorem ne_empty_of_isDigits {text : String} (h : isDigits text = true) : text ≠ "" := by
  rintro rfl
  cases h

end Text

/-! ## Presets -/

namespace Preset

open Schema

/-- The digits of a threshold are read as the threshold. -/
theorem thresholdOfText_digits (threshold : Threshold) :
    thresholdOfText threshold.digits = .ok threshold := by
  unfold thresholdOfText
  simp only [Text.strip_of_isDigits threshold.isDigits, dif_pos threshold.isDigits]

theorem thresholdField_digits (threshold : Threshold) :
    thresholdField (.text threshold.digits) = .ok threshold := by
  simp only [thresholdField, text, bind, Except.bind]
  exact thresholdOfText_digits threshold

theorem lower_strip_flagWord (value : Bool) :
    Text.lower (Text.strip (flagWord value)) = flagWord value := by
  cases value <;> decide +kernel

/-- The word of a flag is read as the flag. -/
theorem ignoreErrorsOfText_flagWord (value : Bool) :
    ignoreErrorsOfText (flagWord value) = .ok value := by
  unfold ignoreErrorsOfText
  rw [lower_strip_flagWord]
  cases value <;> rfl

theorem ignoreErrorsField_text (value : String) :
    ignoreErrorsField (.text value) = ignoreErrorsOfText value := by
  simp only [ignoreErrorsField, text, bind, Except.bind]

/-- A preset is what its texts describe. -/
theorem check_texts (preset : Preset) {fields : List (String × Json)}
    (h : ∀ pair ∈ preset.pairs, OrderedMap.get? pair.1 fields = some (.text pair.2)) :
    check fields = .ok preset := by
  have hrepo := h ("repo", preset.repo) (by simp [pairs])
  have hthreshold := h ("threshold", preset.threshold.digits) (by simp [pairs])
  have hpattern := h ("path_pattern", preset.pathPattern) (by simp [pairs])
  have hmethod := h ("method", preset.method.word) (by simp [pairs])
  have hignore := h ("ignore_errors", flagWord preset.ignoreErrors) (by simp [pairs])
  have hunit := h ("unit", preset.measure.word) (by simp [pairs])
  have hname : nonEmptyText (.text preset.repo) = .ok ⟨preset.repo, preset.repo_ne⟩ :=
    dif_neg preset.repo_ne
  have hnumber := thresholdField_digits preset.threshold
  have hflag : ignoreErrorsField (.text (flagWord preset.ignoreErrors)) =
      .ok preset.ignoreErrors :=
    (ignoreErrorsField_text _).trans (ignoreErrorsOfText_flagWord preset.ignoreErrors)
  unfold check required withDefault named
  simp only at hrepo hthreshold hpattern hmethod hignore hunit
  simp only [hrepo, hthreshold, hpattern, hmethod, hignore, hunit, hname, hnumber, hflag, text,
    choice, Method.ofWord?_word, Measure.ofWord?_word]
  rfl

/-- The texts of a preset are not empty if its pattern is not. -/
theorem pairs_ne_empty (preset : Preset) (hpattern : preset.pathPattern ≠ "") :
    ∀ pair ∈ preset.pairs, pair.2 ≠ "" := by
  intro pair hpair
  simp only [pairs, List.mem_cons, List.not_mem_nil, or_false] at hpair
  rcases hpair with rfl | rfl | rfl | rfl | rfl | rfl
  · exact preset.repo_ne
  · exact Text.ne_empty_of_isDigits preset.threshold.isDigits
  · exact hpattern
  · cases preset.method <;> decide
  · cases preset.ignoreErrors <;> decide
  · cases preset.measure <;> decide

end Preset

/-! ## Requests -/

namespace CompareRequest

open Schema

/-- A pair that may be left out is there if it has a value. -/
theorem get?_optionalPair (key name : String) (value : Option String) :
    OrderedMap.get? key (optionalPair name value) =
      if name = key then value.filter (· ≠ "") else none := by
  unfold optionalPair
  cases value with
  | none => simp [OrderedMap.get?]
  | some text => by_cases htext : text = "" <;> simp [OrderedMap.get?, Option.filter, htext]

theorem keys_optionalPair (name : String) (value : Option String) :
    (OrderedMap.keys (optionalPair name value)).Sublist [name] := by
  unfold optionalPair
  cases value with
  | none => simp [OrderedMap.keys]
  | some text => by_cases htext : text = "" <;> simp [OrderedMap.keys, htext]

/-- The names of a request's URL differ. -/
theorem keys_nodup (request : CompareRequest) : (OrderedMap.keys request.pairs).Nodup := by
  have hsub : (OrderedMap.keys request.pairs).Sublist
      (["repo", "threshold", "path_pattern", "method", "ignore_errors", "unit", "old", "new"] ++
        ["pallet"] ++ ["extrinsic"] ++ ["git_pull"]) := by
    unfold pairs OrderedMap.keys
    simp only [List.map_append]
    refine ((List.Sublist.append (.refl _) ?_).append ?_).append ?_
    · exact keys_optionalPair "pallet" request.pallet
    · exact keys_optionalPair "extrinsic" request.extrinsic
    · cases request.gitPull <;> simp
  exact hsub.nodup (by decide)

/-- The value of each name in the URL of a request. -/
theorem get?_pairs (request : CompareRequest) :
    (∀ pair ∈ request.preset.pairs, OrderedMap.get? pair.1 request.pairs = some pair.2) ∧
      OrderedMap.get? "old" request.pairs = some request.old ∧
      OrderedMap.get? "new" request.pairs = some request.new ∧
      OrderedMap.get? "pallet" request.pairs = request.pallet.filter (· ≠ "") ∧
      OrderedMap.get? "extrinsic" request.pairs = request.extrinsic.filter (· ≠ "") ∧
      OrderedMap.get? "git_pull" request.pairs = request.gitPull.map flagWord := by
  unfold pairs
  simp only [OrderedMap.get?_append, get?_optionalPair]
  refine ⟨?_, ?_, ?_, ?_, ?_, ?_⟩
  · intro pair hpair
    simp only [Preset.pairs, List.mem_cons, List.not_mem_nil, or_false] at hpair
    rcases hpair with rfl | rfl | rfl | rfl | rfl | rfl <;> simp [Preset.pairs, OrderedMap.get?]
  · simp [Preset.pairs, OrderedMap.get?]
  · simp [Preset.pairs, OrderedMap.get?]
  · cases request.gitPull <;> simp [Preset.pairs, OrderedMap.get?]
  · cases request.gitPull <;> simp [Preset.pairs, OrderedMap.get?]
  · cases request.gitPull <;> simp [Preset.pairs, OrderedMap.get?]

/-- What the pairs of a request hold is read again. -/
theorem nonEmpty?_pairs (request : CompareRequest) {name value : String}
    (h : OrderedMap.get? name request.pairs = some value) (hne : value ≠ "") :
    nonEmpty? name request.pairs = some value := by
  unfold nonEmpty?
  rw [h]
  simp [Option.filter, hne]

/-- None of the fields that have to be in a URL is missing. -/
theorem missing_pairs (request : CompareRequest) (hpattern : request.preset.pathPattern ≠ "")
    (hold : request.old ≠ "") (hnew : request.new ≠ "") :
    ((presetFields ++ ["old", "new"]).filter fun name =>
      (nonEmpty? name request.pairs).isNone) = [] := by
  obtain ⟨hpreset, hgetOld, hgetNew, -⟩ := request.get?_pairs
  have hfields : presetFields = request.preset.pairs.map (·.1) := rfl
  rw [List.filter_eq_nil_iff]
  intro name hname
  have hsome : ∃ value, nonEmpty? name request.pairs = some value := by
    rcases List.mem_append.mp hname with hname | hname
    · rw [hfields] at hname
      obtain ⟨pair, hpair, rfl⟩ := List.mem_map.mp hname
      exact ⟨_, request.nonEmpty?_pairs (hpreset pair hpair)
        (request.preset.pairs_ne_empty hpattern pair hpair)⟩
    · simp only [List.mem_cons, List.not_mem_nil, or_false] at hname
      rcases hname with rfl | rfl
      · exact ⟨_, request.nonEmpty?_pairs hgetOld hold⟩
      · exact ⟨_, request.nonEmpty?_pairs hgetNew hnew⟩
  obtain ⟨value, hvalue⟩ := hsome
  simp [hvalue]

/-- A draft of two branches with options. -/
def Draft.ofTexts (preset : Preset) (old new : String) (pallet extrinsic : Option String)
    (gitPull : Option Bool) : Draft :=
  ⟨preset, .text old, .text new, jsonOf pallet, jsonOf extrinsic,
    (gitPull.map Json.bool).getD .null⟩

theorem flag_flagWord (value : Bool) : Query.flag (flagWord value) = .ok value := by
  unfold Query.flag
  rw [Preset.lower_strip_flagWord]
  cases value <;> rfl

/-- A draft passes its checks if both branches have names. -/
theorem Draft.check_ofTexts (preset : Preset) {old new : String} (hold : old ≠ "")
    (hnew : new ≠ "") (pallet extrinsic : Option String) (gitPull : Option Bool) :
    (Draft.ofTexts preset old new pallet extrinsic gitPull).check =
      .ok ⟨preset, old, new, pallet, extrinsic, gitPull⟩ := by
  have hname : ∀ {name : String} (hne : name ≠ ""),
      nonEmptyText (.text name) = .ok ⟨name, hne⟩ := fun hne => dif_neg hne
  have htext : ∀ value : Option String, orNothing text (jsonOf value) = .ok value := by
    intro value
    cases value <;> rfl
  have hflag : orNothing flag ((gitPull.map Json.bool).getD .null) = .ok gitPull := by
    cases gitPull <;> rfl
  unfold check named ofTexts
  simp only [hname hold, hname hnew, htext, hflag]
  rfl

/-- A request has the preset of its draft. -/
theorem Draft.preset_of_check {draft : Draft} {request : CompareRequest}
    (h : draft.check = .ok request) : request.preset = draft.preset := by
  obtain ⟨_, gitPull, hextrinsic, -, rfl⟩ := Checked.seq_eq_ok h
  obtain ⟨_, extrinsic, hpallet, -, rfl⟩ := Checked.seq_eq_ok hextrinsic
  obtain ⟨_, pallet, hnew, -, rfl⟩ := Checked.seq_eq_ok hpallet
  obtain ⟨_, new, hold, -, rfl⟩ := Checked.seq_eq_ok hnew
  obtain ⟨old, -, rfl⟩ := Checked.map_eq_ok hold
  rfl

/-- The pairs of a request are those of its URL. -/
theorem pairs_url (request : CompareRequest) : Query.pairs request.url = .ok request.pairs :=
  Query.pairs_build "compare".toList (by decide) (by simp [Url.isDropped]) request.pairs

theorem mapError_ok {ε ε' α : Type} (change : ε → ε') (value : α) :
    (Except.ok value).mapError change = .ok value := rfl

/-- The URL of a request whose texts are not empty stands for the request without its empty
options. -/
theorem ofUrl_url (request : CompareRequest) (hpattern : request.preset.pathPattern ≠ "")
    (hold : request.old ≠ "") (hnew : request.new ≠ "") :
    ofUrl request.url = .ok { request with
      pallet := request.pallet.filter (· ≠ "")
      extrinsic := request.extrinsic.filter (· ≠ "") } := by
  obtain ⟨hpreset, hgetOld, hgetNew, hgetPallet, hgetExtrinsic, hgetPull⟩ := request.get?_pairs
  have hread := request.pairs_url
  have hfields : Preset.check (request.pairs.map fun pair => (pair.1, Json.text pair.2)) =
      .ok request.preset := by
    refine request.preset.check_texts fun pair hpair => ?_
    rw [OrderedMap.get?_map, hpreset pair hpair]
    rfl
  have htwice : ∀ value : Option String,
      (value.filter (· ≠ "")).filter (· ≠ "") = value.filter (· ≠ "") := by
    intro value
    rw [Option.filter_filter]
    simp
  have hpallet : nonEmpty? "pallet" request.pairs = request.pallet.filter (· ≠ "") := by
    rw [nonEmpty?, hgetPallet, htwice]
  have hextrinsic : nonEmpty? "extrinsic" request.pairs = request.extrinsic.filter (· ≠ "") := by
    rw [nonEmpty?, hgetExtrinsic, htwice]
  have hpull : nonEmpty? "git_pull" request.pairs = request.gitPull.map flagWord := by
    rw [nonEmpty?, hgetPull]
    cases request.gitPull with
    | none => rfl
    | some value => cases value <;> rfl
  have hdraft := Draft.check_ofTexts request.preset hold hnew (request.pallet.filter (· ≠ ""))
    (request.extrinsic.filter (· ≠ "")) request.gitPull
  have hbranch : ∀ name : String, jsonOf (some name) = .text name := fun _ => rfl
  unfold Draft.ofTexts at hdraft
  unfold ofUrl
  simp only [hread, mapError_ok, bind, Except.bind,
    OrderedMap.ofPairs_of_nodup request.keys_nodup, request.missing_pairs hpattern hold hnew,
    hfields, hgetOld, hgetNew, hpallet, hextrinsic, hpull, hbranch, List.isEmpty_nil,
    Bool.not_true, Bool.false_eq_true, if_false, Checked.toExcept]
  cases hvalue : request.gitPull with
  | none =>
    rw [hvalue] at hdraft
    simp only [Option.map_none] at hdraft ⊢
    rw [hdraft, mapError_ok]
  | some value =>
    rw [hvalue] at hdraft
    simp only [Option.map_some, flag_flagWord, Except.map, mapError_ok] at hdraft ⊢
    rw [hdraft, mapError_ok]

/-- The URL that a comparison is serialized into stands for this comparison: it has the same preset,
branches and pull option, and the same filters, of which an empty one is as good as none. -/
theorem ofUrl_of_draft_url (preset : Preset) (old new : String) (pallet extrinsic : Option String)
    (gitPull : Option Bool) (hpattern : preset.pathPattern ≠ "") (hold : old ≠ "")
    (hnew : new ≠ "") :
    ∃ url, (Draft.ofTexts preset old new pallet extrinsic gitPull).url = .ok url ∧
      ofUrl url = .ok ⟨preset, old, new, pallet.filter (· ≠ ""), extrinsic.filter (· ≠ ""),
        gitPull⟩ := by
  have hcheck := Draft.check_ofTexts preset hold hnew pallet extrinsic gitPull
  refine ⟨CompareRequest.url ⟨preset, old, new, pallet, extrinsic, gitPull⟩, ?_,
    ofUrl_url ⟨preset, old, new, pallet, extrinsic, gitPull⟩ hpattern hold hnew⟩
  unfold Draft.url
  rw [hcheck]
  rfl

theorem ofUrl_of_draft_url_marks :
    ∃ url, (Draft.ofTexts ⟨"a b", by decide, Preset.standardThreshold, "*.rs,?", .base, true, .time⟩
        "50%+&=#" "\t\n é≠😀" (some "") (some "::") (some false)).url = .ok url ∧
      ofUrl url = .ok ⟨⟨"a b", by decide, Preset.standardThreshold, "*.rs,?", .base, true, .time⟩,
        "50%+&=#", "\t\n é≠😀", none, some "::", some false⟩ :=
  ofUrl_of_draft_url _ _ _ (some "") (some "::") (some false) (by decide) (by decide) (by decide)

end CompareRequest

end BranchCompare
