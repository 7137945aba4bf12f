import BranchCompare.Proofs.CompareRequest

/-!
# Which URLs are requests

Of the values of one name in a query the last counts, and an empty one is as good as none
(`given?`).  A URL that can be split stands for a request exactly if the values of its query can be
read as the fields of one (`Readable`).  The request then has these values (`Carries`), and the error
of any other URL says what is wrong with it (`Refuses`).
-/

namespace BranchCompare

/-! ## Words -/

theorem Method.word_injective {method other : Method} (h : method.word = other.word) :
    method = other := by
  have heq := ofWord?_word method
  rw [h, ofWord?_word] at heq
  exact (Option.some.inj heq).symm

theorem Measure.word_injective {measure other : Measure} (h : measure.word = other.word) :
    measure = other := by
  have heq := ofWord?_word measure
  rw [h, ofWord?_word] at heq
  exact (Option.some.inj heq).symm

theorem flagWord_injective {value other : Bool} (h : flagWord value = flagWord other) :
    value = other := by
  cases value <;> cases other <;> first | rfl | exact absurd h (by decide)

/-! ## Checks and the issues they find -/

namespace Schema.Checked

variable {α β : Type} {good : α → Prop} {found : List Issue}

/-- The check gives a good value, or it finds these issues. -/
inductive Gives (good : α → Prop) : List Issue → Checked α → Prop where
  | value {value : α} (h : good value) : Gives good [] (.ok value)
  | refused {found : List Issue} (h : found ≠ []) : Gives good found (.issues found)

theorem Gives.mono {other : α → Prop} {check : Checked α} (h : Gives good found check)
    (himp : ∀ value, good value → other value) : Gives other found check := by
  cases h with
  | value h => exact .value (himp _ h)
  | refused h => exact .refused h

/-- Two checks, one after another, tell the issues of both. -/
theorem Gives.seq {goodFun : (α → β) → Prop} {first second : List Issue} {f : Checked (α → β)}
    {x : Checked α} (hf : Gives goodFun first f) (hx : Gives good second x) :
    Gives (fun value => ∃ g a, goodFun g ∧ good a ∧ value = g a) (first ++ second) (f <*> x) := by
  cases hf with
  | value hg =>
    cases hx with
    | value ha => exact .value ⟨_, _, hg, ha, rfl⟩
    | refused hne => exact .refused hne
  | refused hne =>
    cases hx with
    | value ha =>
      rw [List.append_nil]
      exact .refused hne
    | refused _ => exact .refused fun h => hne (List.append_eq_nil_iff.mp h).1

/-- What a check gives may be passed on. -/
theorem Gives.map {x : Checked α} (h : Gives good found x) (f : α → β) :
    Gives (fun value => ∃ a, good a ∧ value = f a) found (f <$> x) := by
  cases h with
  | value ha => exact .value ⟨_, ha, rfl⟩
  | refused hne => exact .refused hne

end Schema.Checked

namespace Preset

open Schema

/-- The issue of a field that is not as it should be. -/
def issueUnless (good : Bool) (name : String) (problem : Problem) : List Issue :=
  if good then [] else [⟨[name], problem⟩]

theorem issueUnless_eq_nil_iff {good : Bool} {name : String} {problem : Problem} :
    issueUnless good name problem = [] ↔ good = true := by
  unfold issueUnless
  cases good <;> simp

/-- The issues of the texts of a preset, which are given by name. -/
def issuesOf (text : String → String) : List Issue :=
  let ignoreErrors := Text.lower (Text.strip (text "ignore_errors"))
  issueUnless (Text.isDigits (Text.strip (text "threshold"))) "threshold"
      (.refused (.threshold (text "threshold"))) ++
    issueUnless ((Method.all.map Method.word).contains (text "method")) "method" .notAChoice ++
    issueUnless (["true", "false"].contains ignoreErrors) "ignore_errors"
      (.refused (.ignoreErrors ignoreErrors)) ++
    issueUnless ((Measure.all.map Measure.word).contains (text "unit")) "unit" .notAChoice

/-- A text is among the words if it is one of them. -/
theorem exists_word_iff {α : Type} {all : List α} {word : α → String}
    (hall : ∀ value, value ∈ all) (text : String) :
    (all.map word).contains text = true ↔ ∃ value, word value = text := by
  rw [List.contains_iff_mem, List.mem_map]
  exact ⟨fun ⟨value, _, hword⟩ => ⟨value, hword⟩, fun ⟨value, hword⟩ => ⟨value, hall value, hword⟩⟩

/-- There are no issues exactly if each text is of its kind. -/
theorem issuesOf_eq_nil_iff (text : String → String) : issuesOf text = [] ↔
    Text.isDigits (Text.strip (text "threshold")) = true ∧
    (∃ method : Method, method.word = text "method") ∧
    (Text.lower (Text.strip (text "ignore_errors")) = "true" ∨
      Text.lower (Text.strip (text "ignore_errors")) = "false") ∧
    ∃ measure : Measure, measure.word = text "unit" := by
  have hmethods : ∀ method : Method, method ∈ Method.all := by
    intro method
    cases method <;> decide
  have hmeasures : ∀ measure : Measure, measure ∈ Measure.all := by
    intro measure
    cases measure <;> decide
  unfold issuesOf
  simp only [List.append_eq_nil_iff, issueUnless_eq_nil_iff, exists_word_iff hmethods,
    exists_word_iff hmeasures, List.contains_iff_mem, List.mem_cons, List.not_mem_nil, or_false,
    and_assoc]

/-- A threshold is given by its digits, with blanks around them or not. -/
theorem gives_threshold (text : String) :
    Checked.Gives (fun threshold => threshold.digits = Text.strip text)
      (issueUnless (Text.isDigits (Text.strip text)) "threshold" (.refused (.threshold text)))
      (named "threshold" thresholdField (.text text)) := by
  have hfield : thresholdField (.text text) = thresholdOfText text := by
    simp only [thresholdField, Schema.text, bind, Except.bind]
  unfold named
  rw [hfield]
  by_cases h : Text.isDigits (Text.strip text) = true
  · have hread : thresholdOfText text = .ok ⟨Text.strip text, h⟩ := dif_pos h
    rw [issueUnless, if_pos h, hread]
    exact .value rfl
  · have hrefused : thresholdOfText text = .error (.refused (.threshold text)) := dif_neg h
    rw [issueUnless, if_neg h, hrefused]
    exact .refused (List.cons_ne_nil _ _)

/-- A word is read as the choice that it stands for, if it stands for one. -/
theorem gives_choice {α : Type} (name text : String) (all : List α) (word : α → String) :
    Checked.Gives (fun value => word value = text)
      (issueUnless ((all.map word).contains text) name .notAChoice)
      (named name (choice fun text => all.find? fun value => word value = text) (.text text)) := by
  unfold named choice
  cases hfind : all.find? fun value => decide (word value = text) with
  | none =>
    have hnone : ¬ (all.map word).contains text = true := by
      intro hmem
      obtain ⟨value, hvalue, hword⟩ := List.mem_map.mp (List.contains_iff_mem.mp hmem)
      exact List.find?_eq_none.mp hfind value hvalue (by simp [hword])
    rw [issueUnless, if_neg hnone]
    simp only [hfind]
    exact .refused (List.cons_ne_nil _ _)
  | some value =>
    have hword : word value = text := by simpa using List.find?_some hfind
    have hmem : (all.map word).contains text = true :=
      List.contains_iff_mem.mpr (hword ▸ List.mem_map_of_mem (List.mem_of_find?_eq_some hfind))
    rw [issueUnless, if_pos hmem]
    simp only [hfind]
    exact .value hword

/-- The flag is given by one of two words, in any case. -/
theorem gives_ignoreErrors (text : String) :
    Checked.Gives (fun value => Text.lower (Text.strip text) = flagWord value)
      (issueUnless (["true", "false"].contains (Text.lower (Text.strip text))) "ignore_errors"
        (.refused (.ignoreErrors (Text.lower (Text.strip text)))))
      (named "ignore_errors" ignoreErrorsField (.text text)) := by
  unfold named
  rw [ignoreErrorsField_text]
  unfold ignoreErrorsOfText
  generalize Text.lower (Text.strip text) = word
  by_cases htrue : word = "true"
  · subst htrue
    exact .value rfl
  by_cases hfalse : word = "false"
  · subst hfalse
    exact .value rfl
  have hnone : ¬ ["true", "false"].contains word = true := by simp [htrue, hfalse]
  rw [issueUnless, if_neg hnone]
  simp only [if_neg htrue, if_neg hfalse]
  exact .refused (List.cons_ne_nil _ _)

/-- The preset has the texts that are given by name. -/
structure HasTexts (text : String → String) (preset : Preset) : Prop where
  repo : preset.repo = text "repo"
  threshold : preset.threshold.digits = Text.strip (text "threshold")
  pathPattern : preset.pathPattern = text "path_pattern"
  method : preset.method.word = text "method"
  ignoreErrors : flagWord preset.ignoreErrors = Text.lower (Text.strip (text "ignore_errors"))
  measure : preset.measure.word = text "unit"

/-- A preset is checked text by text if there is one under each of its names. -/
theorem check_eq {fields : List (String × Json)} {text : String → String}
    (h : ∀ name ∈ CompareRequest.presetFields,
      OrderedMap.get? name fields = some (.text (text name))) :
    check fields = ofNamed <$> named "repo" nonEmptyText (.text (text "repo")) <*>
      named "threshold" thresholdField (.text (text "threshold")) <*>
      named "path_pattern" Schema.text (.text (text "path_pattern")) <*>
      named "method" (choice Method.ofWord?) (.text (text "method")) <*>
      named "ignore_errors" ignoreErrorsField (.text (text "ignore_errors")) <*>
      named "unit" (choice Measure.ofWord?) (.text (text "unit")) := by
  unfold check required withDefault
  rw [h "repo" (by decide), h "threshold" (by decide), h "path_pattern" (by decide),
    h "method" (by decide), h "ignore_errors" (by decide), h "unit" (by decide)]

/-- Texts under all names of a preset are read as one, or their issues are found. -/
theorem gives_check {fields : List (String × Json)} {text : String → String}
    (h : ∀ name ∈ CompareRequest.presetFields,
      OrderedMap.get? name fields = some (.text (text name))) (hrepo : text "repo" ≠ "") :
    Checked.Gives (HasTexts text) (issuesOf text) (check fields) := by
  have hname : Checked.Gives (fun name => name.1 = text "repo") []
      (named "repo" nonEmptyText (.text (text "repo"))) := by
    unfold named
    simp only [nonEmptyText, dif_neg hrepo]
    exact .value rfl
  have hpattern : Checked.Gives (fun pattern => pattern = text "path_pattern") []
      (named "path_pattern" Schema.text (.text (text "path_pattern"))) := .value rfl
  have hthreshold := gives_threshold (text "threshold")
  have hmethod : Checked.Gives (fun method => method.word = text "method") _
      (named "method" (choice Method.ofWord?) (.text (text "method"))) := gives_choice ..
  have hignore := gives_ignoreErrors (text "ignore_errors")
  have hunit : Checked.Gives (fun measure => measure.word = text "unit") _
      (named "unit" (choice Measure.ofWord?) (.text (text "unit"))) := gives_choice ..
  have hchecks := (((((hname.map ofNamed).seq hthreshold).seq hpattern).seq hmethod).seq
    hignore).seq hunit
  rw [check_eq h]
  unfold issuesOf
  simp only [List.nil_append, List.append_nil] at hchecks ⊢
  refine hchecks.mono ?_
  rintro _ ⟨_, measure, ⟨_, flag, ⟨_, method, ⟨_, _, ⟨_, threshold, ⟨name, hrepo, rfl⟩,
    hthreshold, rfl⟩, rfl, rfl⟩, hmethod, rfl⟩, hflag, rfl⟩, hmeasure, rfl⟩
  exact ⟨hrepo, hthreshold, rfl, hmethod, hflag.symm, hmeasure⟩

end Preset

/-! ## The values of a query -/

namespace Query

def wordsOf (value : Bool) : List String := if value then trueWords else falseWords

/-- A text is one of the words of a flag, or it is refused. -/
theorem flag_cases (text : String) :
    (∃ value, flag text = .ok value ∧ Text.lower (Text.strip text) ∈ wordsOf value) ∨
    (flag text = .error ⟨text⟩ ∧ ∀ value, Text.lower (Text.strip text) ∉ wordsOf value) := by
  unfold flag
  generalize Text.lower (Text.strip text) = word
  dsimp only
  by_cases htrue : trueWords.contains word = true
  · rw [if_pos htrue]
    exact .inl ⟨true, rfl, List.contains_iff_mem.mp htrue⟩
  by_cases hfalse : falseWords.contains word = true
  · rw [if_neg htrue, if_pos hfalse]
    exact .inl ⟨false, rfl, List.contains_iff_mem.mp hfalse⟩
  rw [if_neg htrue, if_neg hfalse]
  refine .inr ⟨rfl, fun value => ?_⟩
  cases value with
  | true => exact mt List.contains_iff_mem.mpr htrue
  | false => exact mt List.contains_iff_mem.mpr hfalse

/-- No word stands for both truth values. -/
theorem eq_of_mem_wordsOf {word : String} {value other : Bool} (h : word ∈ wordsOf value)
    (h' : word ∈ wordsOf other) : value = other := by
  have hapart : ∀ word ∈ trueWords, word ∉ falseWords := by decide
  cases value <;> cases other
  · rfl
  · exact absurd h (hapart word h')
  · exact absurd h' (hapart word h)
  · rfl

end Query

namespace CompareRequest

open Schema

variable {pairs : List Form.Pair} {name text url : String} {gitPull : Option Bool}
  {request : CompareRequest}

/-- The last value of a name, if it is not empty. -/
def given? (name : String) (pairs : List Form.Pair) : Option String :=
  (OrderedMap.last? name pairs).filter (· ≠ "")

theorem given?_eq_some_iff :
    given? name pairs = some text ↔ OrderedMap.last? name pairs = some text ∧ text ≠ "" := by
  unfold given?
  rw [Option.filter_eq_some_iff, decide_eq_true_iff]

/-- The map of the pairs holds the last value of each name. -/
theorem nonEmpty?_ofPairs (name : String) (pairs : List Form.Pair) :
    nonEmpty? name (OrderedMap.ofPairs pairs) = given? name pairs := by
  unfold nonEmpty? given?
  rw [OrderedMap.get?_ofPairs]

def neededFields : List String := presetFields ++ ["old", "new"]

def missing (pairs : List Form.Pair) : List String :=
  neededFields.filter fun name => (given? name pairs).isNone

/-- Nothing is missing if each name has a value that is not empty. -/
theorem missing_eq_nil_iff :
    missing pairs = [] ↔ ∀ name ∈ neededFields, ∃ text, given? name pairs = some text := by
  unfold missing
  rw [List.filter_eq_nil_iff]
  refine forall₂_congr fun name _ => ?_
  cases given? name pairs <;> simp

def textOf (pairs : List Form.Pair) (name : String) : String := (given? name pairs).getD ""

/-- A name that is not missing has its text. -/
theorem last?_eq_textOf (hmissing : missing pairs = []) (hname : name ∈ neededFields) :
    OrderedMap.last? name pairs = some (textOf pairs name) ∧ textOf pairs name ≠ "" := by
  obtain ⟨text, htext⟩ := missing_eq_nil_iff.mp hmissing name hname
  have hlast := given?_eq_some_iff.mp htext
  unfold textOf
  rwa [htext]

def fieldsOf (pairs : List Form.Pair) : List (String × Json) :=
  (OrderedMap.ofPairs pairs).map fun pair => (pair.1, .text pair.2)

/-- The fields hold the texts of the names. -/
theorem get?_fieldsOf (hmissing : missing pairs = []) (hname : name ∈ neededFields) :
    OrderedMap.get? name (fieldsOf pairs) = some (.text (textOf pairs name)) := by
  unfold fieldsOf
  rw [OrderedMap.get?_map, OrderedMap.get?_ofPairs, (last?_eq_textOf hmissing hname).1]
  rfl

/-- The wish that the server pulls first, if there is one that can be read. -/
def pullOf (pairs : List Form.Pair) : Except Query.NotBoolean (Option Bool) :=
  match given? "git_pull" pairs with
  | some text => (Query.flag text).map some
  | none => .ok none

theorem mapError_error {ε ε' α : Type} (change : ε → ε') (error : ε) :
    (Except.error error : Except ε α).mapError change = .error (change error) := rfl

/-- What is made of the pairs of a URL once none of the needed fields is missing. -/
theorem ofUrl_eq (h : Query.pairs url = .ok pairs) :
    ofUrl url =
      if missing pairs = [] then
        match Preset.check (fieldsOf pairs), pullOf pairs with
        | .issues found, _ => .error (.invalid found)
        | .ok _, .error error => .error (.notBoolean error)
        | .ok preset, .ok gitPull => .ok ⟨preset, textOf pairs "old", textOf pairs "new",
            given? "pallet" pairs, given? "extrinsic" pairs, gitPull⟩
      else .error (.lacks (missing pairs)) := by
  have hmissing : ((presetFields ++ ["old", "new"]).filter fun name =>
      (given? name pairs).isNone) = missing pairs := rfl
  have hfields : ((OrderedMap.ofPairs pairs).map fun pair => (pair.1, Json.text pair.2)) =
    fieldsOf pairs := rfl
  unfold ofUrl
  simp only [h, mapError_ok, bind, Except.bind, nonEmpty?_ofPairs, hmissing, hfields,
    OrderedMap.get?_ofPairs]
  by_cases hthere : missing pairs = []
  · have hlast := fun name => @last?_eq_textOf pairs name hthere
    obtain ⟨hold, hold'⟩ := hlast "old" (by decide)
    obtain ⟨hnew, hnew'⟩ := hlast "new" (by decide)
    rw [if_neg (by simp [hthere]), if_pos hthere, hold, hnew]
    cases Preset.check (fieldsOf pairs) with
    | issues found => rfl
    | ok preset =>
      have hdraft := fun gitPull => Draft.check_ofTexts preset hold' hnew' (given? "pallet" pairs)
        (given? "extrinsic" pairs) gitPull
      unfold Draft.ofTexts at hdraft
      have hbranch : ∀ text : String, jsonOf (some text) = .text text := fun _ => rfl
      unfold pullOf
      cases given? "git_pull" pairs with
      | none => simp only [Checked.toExcept, mapError_ok, hbranch, hdraft]
      | some text =>
        cases hflag : Query.flag text with
        | error error =>
          simp only [Checked.toExcept, mapError_ok, hflag, Except.map, mapError_error]
        | ok value =>
          simp only [Checked.toExcept, mapError_ok, hflag, hbranch, Except.map, hdraft]
  · rw [if_pos (by simpa using hthere), if_neg hthere]
    rfl

/-! ## What a URL comes to -/

/-- The values can be read as the fields of a request: those that it needs are there, and each of them
is of its kind.  The wish that the server pulls first may be left out. -/
structure Readable (pairs : List Form.Pair) : Prop where
  there : ∀ name ∈ neededFields, ∃ text, OrderedMap.last? name pairs = some text ∧ text ≠ ""
  threshold : ∀ text, OrderedMap.last? "threshold" pairs = some text →
    Text.isDigits (Text.strip text) = true
  method : ∀ text, OrderedMap.last? "method" pairs = some text → ∃ method : Method,
    method.word = text
  ignoreErrors : ∀ text, OrderedMap.last? "ignore_errors" pairs = some text →
    Text.lower (Text.strip text) = "true" ∨ Text.lower (Text.strip text) = "false"
  measure : ∀ text, OrderedMap.last? "unit" pairs = some text → ∃ measure : Measure,
    measure.word = text
  gitPull : ∀ text, OrderedMap.last? "git_pull" pairs = some text →
    text = "" ∨ ∃ value, Text.lower (Text.strip text) ∈ Query.wordsOf value

/-- The wish that the server pulls first is read: it is a word for a truth value, and an empty one
counts as none. -/
def PullRead (pairs : List Form.Pair) (gitPull : Option Bool) : Prop :=
  gitPull = none ∧ given? "git_pull" pairs = none ∨
    ∃ text value, given? "git_pull" pairs = some text ∧ gitPull = some value ∧
      Text.lower (Text.strip text) ∈ Query.wordsOf value

/-- The request has the values: numbers and words without the white space around them, words also in
lower case, and an empty option counts as none. -/
structure Carries (pairs : List Form.Pair) (request : CompareRequest) : Prop where
  repo : OrderedMap.last? "repo" pairs = some request.preset.repo
  threshold : (OrderedMap.last? "threshold" pairs).map Text.strip =
    some request.preset.threshold.digits
  pathPattern : OrderedMap.last? "path_pattern" pairs = some request.preset.pathPattern
  method : OrderedMap.last? "method" pairs = some request.preset.method.word
  ignoreErrors : (OrderedMap.last? "ignore_errors" pairs).map
    (fun text => Text.lower (Text.strip text)) = some (flagWord request.preset.ignoreErrors)
  measure : OrderedMap.last? "unit" pairs = some request.preset.measure.word
  old : OrderedMap.last? "old" pairs = some request.old
  new : OrderedMap.last? "new" pairs = some request.new
  pallet : request.pallet = given? "pallet" pairs
  extrinsic : request.extrinsic = given? "extrinsic" pairs
  gitPull : PullRead pairs request.gitPull

/-- Why a URL is no request: it cannot be split; needed fields are missing; texts of the preset are
refused; or the wish that the server pulls first is no word for a truth value. -/
inductive Refuses (url : String) : ReadError → Prop where
  | url {fault : Url.Fault} (h : Url.split url = .error fault) : Refuses url (.url fault)
  | lacks {parts : Url} (h : Url.split url = .ok parts) (hmissing : missing parts.pairs ≠ []) :
      Refuses url (.lacks (missing parts.pairs))
  | invalid {parts : Url} (h : Url.split url = .ok parts) (hthere : missing parts.pairs = [])
      (hissues : Preset.issuesOf (textOf parts.pairs) ≠ []) :
      Refuses url (.invalid (Preset.issuesOf (textOf parts.pairs)))
  | notBoolean {parts : Url} {text : String} (h : Url.split url = .ok parts)
      (hthere : missing parts.pairs = []) (hissues : Preset.issuesOf (textOf parts.pairs) = [])
      (hgiven : given? "git_pull" parts.pairs = some text)
      (hword : ∀ value, Text.lower (Text.strip text) ∉ Query.wordsOf value) :
      Refuses url (.notBoolean ⟨text⟩)

/-- What holds of the last value of a name holds of its text. -/
theorem forall_last?_iff (hthere : missing pairs = []) (hname : name ∈ neededFields)
    {p : String → Prop} :
    (∀ text, OrderedMap.last? name pairs = some text → p text) ↔ p (textOf pairs name) := by
  rw [(last?_eq_textOf hthere hname).1]
  exact ⟨fun h => h _ rfl, fun h text htext => Option.some.inj htext ▸ h⟩

/-- The values can be read exactly if no fault is found in them. -/
theorem readable_iff : Readable pairs ↔ missing pairs = [] ∧
    Preset.issuesOf (textOf pairs) = [] ∧
    ∀ text, given? "git_pull" pairs = some text →
      ∃ value, Text.lower (Text.strip text) ∈ Query.wordsOf value := by
  have hmissing : missing pairs = [] ↔
      ∀ name ∈ neededFields, ∃ text, OrderedMap.last? name pairs = some text ∧ text ≠ "" := by
    simp only [missing_eq_nil_iff, given?_eq_some_iff]
  have hpull : (∀ text, given? "git_pull" pairs = some text →
      ∃ value, Text.lower (Text.strip text) ∈ Query.wordsOf value) ↔
      ∀ text, OrderedMap.last? "git_pull" pairs = some text →
        text = "" ∨ ∃ value, Text.lower (Text.strip text) ∈ Query.wordsOf value := by
    simp only [given?_eq_some_iff, and_imp]
    exact forall₂_congr fun text _ => Decidable.or_iff_not_imp_left.symm
  rw [Preset.issuesOf_eq_nil_iff, hpull]
  constructor
  · intro h
    have hthere := hmissing.mpr h.there
    refine ⟨hthere, ⟨?_, ?_, ?_, ?_⟩, h.gitPull⟩
    · exact (forall_last?_iff hthere (by decide)).mp h.threshold
    · exact (forall_last?_iff hthere (by decide)).mp h.method
    · exact (forall_last?_iff hthere (by decide)).mp h.ignoreErrors
    · exact (forall_last?_iff hthere (by decide)).mp h.measure
  · rintro ⟨hthere, ⟨hthreshold, hmethod, hignore, hmeasure⟩, hpull⟩
    refine ⟨hmissing.mp hthere, ?_, ?_, ?_, ?_, hpull⟩
    · exact (forall_last?_iff hthere (by decide)).mpr hthreshold
    · exact (forall_last?_iff hthere (by decide)).mpr hmethod
    · exact (forall_last?_iff hthere (by decide)).mpr hignore
    · exact (forall_last?_iff hthere (by decide)).mpr hmeasure

/-- The flag of the pull is absent, one of the words, or refused. -/
theorem pullOf_cases (pairs : List Form.Pair) :
    (∃ gitPull, pullOf pairs = .ok gitPull ∧ PullRead pairs gitPull) ∨
    ∃ text, pullOf pairs = .error ⟨text⟩ ∧ given? "git_pull" pairs = some text ∧
      ∀ value, Text.lower (Text.strip text) ∉ Query.wordsOf value := by
  unfold pullOf PullRead
  cases hgiven : given? "git_pull" pairs with
  | none => exact .inl ⟨none, rfl, .inl ⟨rfl, rfl⟩⟩
  | some text =>
    rcases Query.flag_cases text with ⟨value, hflag, hword⟩ | ⟨hflag, hword⟩
    · refine .inl ⟨some value, ?_, .inr ⟨text, value, rfl, rfl, hword⟩⟩
      simp only [hflag, Except.map]
    · refine .inr ⟨text, ?_, rfl, hword⟩
      simp only [hflag, Except.map]

theorem PullRead.word (h : PullRead pairs gitPull) (hgiven : given? "git_pull" pairs = some text) :
    ∃ value, Text.lower (Text.strip text) ∈ Query.wordsOf value := by
  rcases h with ⟨-, hnone⟩ | ⟨found, value, hfound, -, hword⟩
  · rw [hgiven] at hnone
    cases hnone
  · obtain rfl := Option.some.inj (hgiven.symm.trans hfound)
    exact ⟨value, hword⟩

/-- A URL is refused, or its values can be read and it stands for a request with them. -/
theorem ofUrl_cases (url : String) :
    (∃ error, ofUrl url = .error error ∧ Refuses url error) ∨
    ∃ parts request, Url.split url = .ok parts ∧ Readable parts.pairs ∧
      Carries parts.pairs request ∧ ofUrl url = .ok request := by
  cases hsplit : Url.split url with
  | error fault =>
    refine .inl ⟨_, ?_, .url hsplit⟩
    unfold ofUrl Query.pairs
    rw [hsplit]
    rfl
  | ok parts =>
    have hurl := ofUrl_eq (Query.pairs_of_split hsplit)
    by_cases hthere : missing parts.pairs = []
    · have hlast := fun name => @last?_eq_textOf parts.pairs name hthere
      have hcheck := Preset.gives_check
        (fun name hname => get?_fieldsOf hthere (List.mem_append_left _ hname))
        (hlast "repo" (by decide)).2
      rw [if_pos hthere] at hurl
      generalize Preset.check (fieldsOf parts.pairs) = checked at hcheck hurl
      generalize hissues : Preset.issuesOf (textOf parts.pairs) = issues at hcheck
      cases hcheck with
      | refused hne =>
        subst hissues
        exact .inl ⟨_, hurl, .invalid hsplit hthere hne⟩
      | @value preset htexts =>
        rcases pullOf_cases parts.pairs with ⟨gitPull, hpull, hread⟩ | ⟨text, hpull, hgiven, hword⟩
        · rw [hpull] at hurl
          refine .inr ⟨parts, _, rfl, readable_iff.mpr ⟨hthere, hissues, fun _ => hread.word⟩,
            ?_, hurl⟩
          constructor
          case repo => rw [htexts.repo]; exact (hlast _ (by decide)).1
          case threshold => rw [htexts.threshold, (hlast _ (by decide)).1]; rfl
          case pathPattern => rw [htexts.pathPattern]; exact (hlast _ (by decide)).1
          case method => rw [htexts.method]; exact (hlast _ (by decide)).1
          case ignoreErrors => rw [htexts.ignoreErrors, (hlast _ (by decide)).1]; rfl
          case measure => rw [htexts.measure]; exact (hlast _ (by decide)).1
          case old => exact (hlast _ (by decide)).1
          case new => exact (hlast _ (by decide)).1
          case pallet => rfl
          case extrinsic => rfl
          case gitPull => exact hread
        · rw [hpull] at hurl
          exact .inl ⟨_, hurl, .notBoolean hsplit hthere hissues hgiven hword⟩
    · rw [if_neg hthere] at hurl
      exact .inl ⟨_, hurl, .lacks hsplit hthere⟩

/-- The values of a URL that is refused cannot be read. -/
theorem Refuses.not_readable {error : ReadError} {parts : Url} (h : Refuses url error)
    (hsplit : Url.split url = .ok parts) : ¬ Readable parts.pairs := by
  intro hreadable
  obtain ⟨hthere, hissues, hpull⟩ := readable_iff.mp hreadable
  cases h with
  | url hfault =>
    rw [hsplit] at hfault
    cases hfault
  | lacks hfound hmissing =>
    obtain rfl := Except.ok.inj (hsplit.symm.trans hfound)
    exact hmissing hthere
  | invalid hfound _ hne =>
    obtain rfl := Except.ok.inj (hsplit.symm.trans hfound)
    exact hne hissues
  | notBoolean hfound _ _ hgiven hword =>
    obtain rfl := Except.ok.inj (hsplit.symm.trans hfound)
    obtain ⟨value, hvalue⟩ := hpull _ hgiven
    exact hword value hvalue

theorem PullRead.unique {other : Option Bool} (h : PullRead pairs gitPull)
    (h' : PullRead pairs other) : gitPull = other := by
  rcases h with ⟨rfl, hnone⟩ | ⟨text, value, hgiven, rfl, hword⟩ <;>
    rcases h' with ⟨rfl, hnone'⟩ | ⟨text', value', hgiven', rfl, hword'⟩
  · rfl
  · cases hnone.symm.trans hgiven'
  · cases hnone'.symm.trans hgiven
  · obtain rfl := Option.some.inj (hgiven.symm.trans hgiven')
    rw [Query.eq_of_mem_wordsOf hword hword']

/-- There is one request at most that has the values. -/
theorem Carries.unique {other : CompareRequest} (h : Carries pairs request)
    (h' : Carries pairs other) : request = other := by
  obtain ⟨⟨repo, hne, ⟨digits, hdigits⟩, pattern, method, flag, measure⟩, old, new, pallet, extrinsic,
    gitPull⟩ := request
  obtain ⟨⟨repo', hne', ⟨digits', hdigits'⟩, pattern', method', flag', measure'⟩, old', new', pallet',
    extrinsic', gitPull'⟩ := other
  obtain rfl : repo = repo' := Option.some.inj (h.repo.symm.trans h'.repo)
  obtain rfl : digits = digits' := Option.some.inj (h.threshold.symm.trans h'.threshold)
  obtain rfl : pattern = pattern' := Option.some.inj (h.pathPattern.symm.trans h'.pathPattern)
  obtain rfl : method = method' :=
    Method.word_injective (Option.some.inj (h.method.symm.trans h'.method))
  obtain rfl : flag = flag' :=
    flagWord_injective (Option.some.inj (h.ignoreErrors.symm.trans h'.ignoreErrors))
  obtain rfl : measure = measure' :=
    Measure.word_injective (Option.some.inj (h.measure.symm.trans h'.measure))
  obtain rfl : old = old' := Option.some.inj (h.old.symm.trans h'.old)
  obtain rfl : new = new' := Option.some.inj (h.new.symm.trans h'.new)
  obtain rfl : pallet = pallet' := h.pallet.trans h'.pallet.symm
  obtain rfl : extrinsic = extrinsic' := h.extrinsic.trans h'.extrinsic.symm
  obtain rfl : gitPull = gitPull' := h.gitPull.unique h'.gitPull
  rfl

/-- A URL stands for a request exactly if it can be split and the last values of the names in its
query can be read as the fields.  The request is the one that has these values.  Of any other URL the
error says why it is refused. -/
theorem ofUrl_reads (url : String) :
    ((∃ request, ofUrl url = .ok request) ↔
      ∃ parts, Url.split url = .ok parts ∧ Readable parts.pairs) ∧
    (∀ request, ofUrl url = .ok request ↔
      ∃ parts, Url.split url = .ok parts ∧ Readable parts.pairs ∧ Carries parts.pairs request) ∧
    ∀ error, ofUrl url = .error error → Refuses url error := by
  rcases ofUrl_cases url with ⟨error, herror, hrefuses⟩ |
    ⟨parts, request, hsplit, hreadable, hcarries, hok⟩
  · have hnot : ∀ parts, Url.split url = .ok parts → ¬ Readable parts.pairs :=
      fun parts => hrefuses.not_readable
    rw [herror]
    refine ⟨⟨nofun, ?_⟩, fun request => ⟨nofun, ?_⟩, fun other hother => ?_⟩
    · rintro ⟨parts, hsplit, hreadable⟩
      exact absurd hreadable (hnot parts hsplit)
    · rintro ⟨parts, hsplit, hreadable, -⟩
      exact absurd hreadable (hnot parts hsplit)
    · obtain rfl := Except.error.inj hother
      exact hrefuses
  · rw [hok]
    refine ⟨⟨fun _ => ⟨parts, hsplit, hreadable⟩, fun _ => ⟨request, rfl⟩⟩, fun other => ⟨?_, ?_⟩, nofun⟩
    · intro hother
      obtain rfl := Except.ok.inj hother
      exact ⟨parts, hsplit, hreadable, hcarries⟩
    · rintro ⟨found, hfound, -, hother⟩
      obtain rfl := Except.ok.inj (hsplit.symm.trans hfound)
      rw [hcarries.unique hother]

end CompareRequest

end BranchCompare
