import BranchCompare.Page
import BranchCompare.Proofs.Url

/-!
# The query of the page after a change

Setting a name replaces its first pair in place and drops the later ones, or puts a new pair at the
end (`Query.SetsName`).  What a page says of the other names stays as it was, whether the page is
led to the changed URL (`redirect_spec`) or keeps its history (`replaceParam_spec`).
-/

namespace BranchCompare

namespace ControlName

theorem ofLabel_label (name : ControlName) : ofLabel name.label = .ok name := by
  cases name <;> decide

theorem label_injective {name other : ControlName} (h : name.label = other.label) :
    name = other := by
  have heq := ofLabel_label name
  rw [h, ofLabel_label] at heq
  exact (Except.ok.inj heq).symm

end ControlName

namespace Query

/-- The name has got the value: in its first pair, without the later pairs of the name, or in a pair
at the end if there was none. -/
inductive SetsName (name value : String) : List Form.Pair → List Form.Pair → Prop where
  | replaces {front back : List Form.Pair} {old : String} (h : ∀ pair ∈ front, pair.1 ≠ name) :
      SetsName name value (front ++ (name, old) :: back)
        (front ++ (name, value) :: back.filter fun pair => pair.1 ≠ name)
  | adds {pairs : List Form.Pair} (h : ∀ pair ∈ pairs, pair.1 ≠ name) :
      SetsName name value pairs (pairs ++ [(name, value)])

theorem setName_sets (name value : String) (pairs : List Form.Pair) :
    SetsName name value pairs (setName name value pairs) := by
  induction pairs with
  | nil => exact .adds nofun
  | cons pair rest ih =>
    unfold setName
    split
    · next heq =>
      obtain ⟨found, old⟩ := pair
      subst heq
      exact @SetsName.replaces found value [] rest old nofun
    · next hne =>
      generalize setName name value rest = changed at ih
      cases ih with
      | @replaces front back old h =>
        exact @SetsName.replaces name value (pair :: front) back old
          (List.forall_mem_cons.mpr ⟨hne, h⟩)
      | adds h => exact .adds (List.forall_mem_cons.mpr ⟨hne, h⟩)

theorem setName_append {front : List Form.Pair} {name : String}
    (h : ∀ pair ∈ front, pair.1 ≠ name) (value : String) (back : List Form.Pair) :
    setName name value (front ++ back) = front ++ setName name value back := by
  induction front with
  | nil => rfl
  | cons pair front ih =>
    obtain ⟨hne, hfront⟩ := List.forall_mem_cons.mp h
    rw [List.cons_append, setName, if_neg hne, ih hfront, List.cons_append]

/-- There is one way to set a name. -/
theorem SetsName.eq {name value : String} {pairs changed : List Form.Pair}
    (h : SetsName name value pairs changed) : changed = setName name value pairs := by
  cases h with
  | replaces h => rw [setName_append h, setName, if_pos rfl, dropName]
  | adds h =>
    have hend := setName_append h value []
    rw [List.append_nil] at hend
    exact hend.symm

def entry? (value : Json) : Option String := (textOf value).filter fun text => text ≠ ""

/-- A value is entered as its text, unless this is empty. -/
theorem entry?_eq_some_iff {value : Json} {text : String} :
    entry? value = some text ↔ textOf value = some text ∧ text ≠ "" := by
  unfold entry?
  rw [Option.filter_eq_some_iff, decide_eq_true_iff]

theorem entry?_eq_none {value : Json} (h : (textOf value).getD "" = "") : entry? value = none := by
  unfold entry?
  cases htext : textOf value with
  | none => rfl
  | some text =>
    rw [htext] at h
    exact if_neg (by simpa using h)

end Query

namespace Page

open Query (dropName setName)

variable {name other value : String} {default : Option String} {pairs found : List Form.Pair}
  {page : Page}

/-- What is said of a name depends on its first pair only. -/
theorem paramOf_congr {more : List Form.Pair}
    (h : more.find? (fun pair => pair.1 = name) = pairs.find? fun pair => pair.1 = name) :
    paramOf name default more = paramOf name default pairs := by
  unfold paramOf
  rw [h]

/-- A name that was dropped has no value. -/
theorem paramOf_dropName_self : paramOf name default (dropName name pairs) = default := by
  have hnone : (dropName name pairs).find? (fun pair => pair.1 = name) = none := by
    simp [dropName]
  unfold paramOf
  rw [hnone]

theorem find?_dropName (h : other ≠ name) : (dropName name pairs).find? (fun pair => pair.1 = other) =
    pairs.find? fun pair => pair.1 = other := by
  unfold dropName
  rw [List.find?_filter]
  congr 1
  funext pair
  by_cases heq : pair.1 = other <;> simp [heq, h]

/-- Dropping a name leaves the others alone. -/
theorem paramOf_dropName_of_ne (h : other ≠ name) :
    paramOf other default (dropName name pairs) = paramOf other default pairs :=
  paramOf_congr (find?_dropName h)

/-- A name that was set has its value. -/
theorem paramOf_setName_self (hvalue : value ≠ "") :
    paramOf name default (setName name value pairs) = some value := by
  have hfirst : (setName name value pairs).find? (fun pair => pair.1 = name) =
      some (name, value) := by
    induction pairs with
    | nil => simp [setName]
    | cons pair rest ih => by_cases heq : pair.1 = name <;> simp [setName, heq, ih]
  unfold paramOf
  rw [hfirst]
  exact if_neg hvalue

/-- Setting a name leaves the others alone. -/
theorem paramOf_setName_of_ne (h : other ≠ name) :
    paramOf other default (setName name value pairs) = paramOf other default pairs := by
  refine paramOf_congr ?_
  induction pairs with
  | nil => simp [setName, Ne.symm h]
  | cons pair rest ih =>
    unfold setName
    split
    · next heq =>
      have hne : pair.1 ≠ other := fun hother => h (hother.symm.trans heq)
      simp [hne, Ne.symm h, find?_dropName h]
    · by_cases hother : pair.1 = other <;> simp [hother, ih]

theorem param_of_pairs (page : Page) (h : Query.pairs page.url = .ok found) (name : String)
    (default : Option String) : page.param name default = .ok (paramOf name default found) := by
  unfold param
  rw [h]
  rfl

/-- A page that follows a change is led to the URL with the text in the query, if there is one. -/
theorem redirect_spec (h : Url.WellFormed page.url) (name : String) (value : Json) :
    (Query.entry? value = none → page.redirect name value = .ok page) ∧
    ∀ text, Query.entry? value = some text → ∃ found url, Query.pairs page.url = .ok found ∧
      page.redirect name value = .ok (page.navigate url) ∧ Url.WellFormed url ∧
      Query.pairs url = .ok (setName name text found) := by
  unfold redirect
  constructor
  · intro hnone
    cases htext : Query.textOf value with
    | none => rfl
    | some text =>
      refine if_pos ?_
      by_contra hne
      rw [Query.entry?_eq_some_iff.mpr ⟨htext, hne⟩] at hnone
      cases hnone
  · intro text hsome
    obtain ⟨htext, hne⟩ := Query.entry?_eq_some_iff.mp hsome
    obtain ⟨found, url, hfound, hset, hwell, hpairs⟩ := Query.pairs_edit (setName name text) h
    refine ⟨found, url, hfound, ?_, hwell, hpairs⟩
    rw [htext]
    dsimp only
    rw [if_neg hne, Query.set, hset]
    rfl

/-- A page whose URL is changed in place says the new text of the name, and what it said of the
other ones. -/
theorem replaceParam_spec (h : Url.WellFormed page.url) (name : String) (value : Json) :
    ∃ edited, page.replaceParam name value = .ok edited ∧ Url.WellFormed edited.url ∧
      edited.history = page.history ∧
      edited.param name none = .ok (Query.entry? value) ∧
      ∀ other, other ≠ name → edited.param other none = page.param other none := by
  unfold replaceParam
  dsimp only
  by_cases hempty : (Query.textOf value).getD "" = ""
  · obtain ⟨found, url, hfound, hset, hwell, hpairs⟩ := Query.pairs_edit (dropName name) h
    rw [if_pos hempty, Query.remove, hset, Query.entry?_eq_none hempty]
    refine ⟨_, rfl, hwell, rfl, ?_, fun other hne => ?_⟩
    · rw [param_of_pairs (page.replace url) hpairs, paramOf_dropName_self]
    · rw [param_of_pairs (page.replace url) hpairs, param_of_pairs page hfound,
        paramOf_dropName_of_ne hne]
  · obtain ⟨text, htext⟩ : ∃ text, Query.textOf value = some text := by
      cases htext : Query.textOf value with
      | none =>
        rw [htext] at hempty
        exact absurd rfl hempty
      | some text => exact ⟨text, rfl⟩
    rw [htext, Option.getD_some] at hempty
    obtain ⟨found, url, hfound, hset, hwell, hpairs⟩ := Query.pairs_edit (setName name text) h
    rw [Query.entry?_eq_some_iff.mpr ⟨htext, hempty⟩, htext, Option.getD_some, if_neg hempty,
      Query.set, hset]
    refine ⟨_, rfl, hwell, rfl, ?_, fun other hne => ?_⟩
    · rw [param_of_pairs (page.replace url) hpairs, paramOf_setName_self hempty]
    · rw [param_of_pairs (page.replace url) hpairs, param_of_pairs page hfound,
        paramOf_setName_of_ne hne]

end Page

end BranchCompare
