import Mathlib.Data.List.Sort
import BranchCompare.StableSort

/-!
# What a sort comes to whose comparison may fail

Where all comparisons of elements of a list succeed, the list is sorted by insertion (`sort_eq_ok`).
Where the elements are of several kinds and only those of one kind can be compared, the sort of a
list with two kinds fails, wherever their elements stand (`sort_eq_error`): an element that is
inserted among elements of another kind is compared with one of them.
-/

namespace BranchCompare.StableSort

variable {α ε κ : Type} {before : α → α → Except ε Bool} (le : α → α → Prop) [DecidableRel le]
  {a b : α} {l : List α} {error : ε}

theorem insert_eq_ok (h : ∀ b ∈ l, before b a = .ok (decide ¬ le a b)) :
    insert before a l = .ok (l.orderedInsert le a) := by
  induction l with
  | nil => rfl
  | cons b rest ih =>
    obtain ⟨hb, hrest⟩ := List.forall_mem_cons.mp h
    rw [insert, hb, ih hrest, List.orderedInsert_cons]
    by_cases hle : le a b
    · simp only [hle, not_true_eq_false, decide_false]
      rfl
    · simp only [hle, not_false_eq_true, decide_true]
      rfl

/-- A list whose elements can be compared is sorted. -/
theorem sort_eq_ok (h : ∀ a ∈ l, ∀ b ∈ l, before b a = .ok (decide ¬ le a b)) :
    sort before l = .ok (l.insertionSort le) := by
  induction l with
  | nil => rfl
  | cons a rest ih =>
    have hrest : sort before rest = .ok (rest.insertionSort le) :=
      ih fun b hb c hc => h b (List.mem_cons_of_mem a hb) c (List.mem_cons_of_mem a hc)
    rw [sort, hrest, List.insertionSort_cons]
    refine insert_eq_ok le fun b hb => ?_
    exact h a List.mem_cons_self b (List.mem_cons_of_mem a ((List.mem_insertionSort le).mp hb))

/-- An element is compared with the first one of the list in which it is inserted. -/
theorem insert_eq_error (hne : l ≠ []) (h : ∀ b ∈ l, before b a = .error error) :
    insert before a l = .error error := by
  cases l with
  | nil => exact absurd rfl hne
  | cons b rest =>
    rw [insert, h b List.mem_cons_self]
    rfl

/-- A list of more than one kind is not sorted if elements of different kinds cannot be compared. -/
theorem sort_eq_error (kind : α → κ)
    (hsame : ∀ a b, kind a = kind b → before b a = .ok (decide ¬ le a b))
    (hother : ∀ a b, kind a ≠ kind b → before b a = .error error)
    (ha : a ∈ l) (hb : b ∈ l) (hkinds : kind a ≠ kind b) : sort before l = .error error := by
  induction l generalizing a b with
  | nil => cases ha
  | cons c rest ih =>
    rw [sort]
    by_cases hmixed : ∃ a ∈ rest, ∃ b ∈ rest, kind a ≠ kind b
    · obtain ⟨a, ha, b, hb, hkinds⟩ := hmixed
      rw [ih ha hb hkinds]
      rfl
    -- The rest is of one kind, and can be sorted; the element in front is of another one.
    · push Not at hmixed
      have hsorted : sort before rest = .ok (rest.insertionSort le) :=
        sort_eq_ok le fun a ha b hb => hsame a b (hmixed a ha b hb)
      obtain ⟨other, hmem, hne⟩ : ∃ other ∈ rest, kind c ≠ kind other := by
        rcases List.mem_cons.mp ha with rfl | hrest
        · rcases List.mem_cons.mp hb with rfl | hrest
          · exact absurd rfl hkinds
          · exact ⟨b, hrest, hkinds⟩
        · rcases List.mem_cons.mp hb with rfl | hrest'
          · exact ⟨a, hrest, hkinds.symm⟩
          · exact absurd (hmixed a hrest b hrest') hkinds
      have hfirst : rest.insertionSort le ≠ [] :=
        List.ne_nil_of_mem ((List.mem_insertionSort le).mpr hmem)
      rw [hsorted]
      refine insert_eq_error hfirst fun b hb => hother c b fun heq => hne ?_
      exact heq.trans (hmixed b ((List.mem_insertionSort le).mp hb) other hmem)

end BranchCompare.StableSort
