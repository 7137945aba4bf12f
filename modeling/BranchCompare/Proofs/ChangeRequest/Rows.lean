import Mathlib.Data.List.Infix
import Mathlib.Data.List.Perm.Basic
import BranchCompare.ChangeRequest.Row
import BranchCompare.Proofs.StableSort

/-!
# What the rows of a list of change requests say

The rows of a list of change requests hold each request of the list once, newest first, and requests
of one instant in the order of the list (`Row.Shows`).  The marks of a row follow from the owners
and the texts of its request (`Row.Marked`): a row is disabled if its head branch is in a fork, and
highlighted if it is not disabled and speaks of weights.

`Row.build_outcome` says that there are such rows for every list whose times can be compared, and
none for a list that mixes times with a known distance from UTC with times without one.
-/

namespace BranchCompare.ChangeRequest

/-! ## Marks -/

/-- The search for a word finds it wherever it stands. -/
theorem holds_iff (word cs : List Char) : holds word cs = true ↔ word <:+: cs := by
  induction cs with
  | nil => rw [holds, List.isEmpty_iff, List.infix_nil]
  | cons c cs ih => rw [holds, Bool.or_eq_true, List.isPrefixOf_iff_prefix, ih, List.infix_cons_iff]

/-- One of the texts of the request holds the word, in any case. -/
def Mentions (request : ChangeRequest) (word : String) : Prop :=
  ∃ text ∈ [request.title, request.body, request.headRef, request.baseRef],
    word.toList <:+: (Text.lower text).toList

/-- A request speaks of the keyword if its title or its text mentions it. -/
theorem speaksOfKeyword_iff (request : ChangeRequest) :
    request.speaksOfKeyword = true ↔ request.Mentions "weight" := by
  unfold speaksOfKeyword Mentions
  rw [List.any_eq_true]
  simp only [mentionsKeyword, holds_iff, keyword]

/-- A request is from a fork if its branches have not the same owner. -/
theorem isForked_iff (request : ChangeRequest) :
    request.isForked = true ↔
      request.headOwner = none ∨ request.headOwner ≠ some request.baseOwner := by
  unfold isForked
  rw [decide_eq_true_iff]
  refine ⟨.inr, ?_⟩
  rintro (hgone | hother)
  · rw [hgone]
    exact nofun
  · exact hother

namespace Row

/-- The row has the marks that its request gives it. -/
structure Marked (row : Row) : Prop where
  disabled : row.disabled = true ↔
    row.request.headOwner = none ∨ row.request.headOwner ≠ some row.request.baseOwner
  highlighted : row.highlighted = true ↔ row.disabled = false ∧ row.request.Mentions "weight"

/-- A row carries the marks of its request. -/
theorem marked_ofRequest (request : ChangeRequest) : (ofRequest request).Marked := by
  refine ⟨request.isForked_iff, ?_⟩
  show (!request.isForked && request.speaksOfKeyword) = true ↔ request.isForked = false ∧ _
  rw [Bool.and_eq_true, Bool.not_eq_true', speaksOfKeyword_iff]
  exact Iff.rfl

/-- A row is enabled if its head branch belongs to the owner of its base branch. -/
theorem Marked.enabled_iff {row : Row} (h : row.Marked) :
    row.disabled = false ↔ row.request.headOwner = some row.request.baseOwner := by
  rw [← Bool.not_eq_true, h.disabled]
  constructor
  · intro hnot
    exact not_not.mp fun hother => hnot (.inr hother)
  · rintro hsame (hgone | hother)
    · rw [hgone] at hsame
      cases hsame
    · exact hother hsame

/-- What cannot be compared is not recommended. -/
theorem Marked.not_both {row : Row} (h : row.Marked) :
    ¬ (row.highlighted = true ∧ row.disabled = true) := by
  rintro ⟨hhighlighted, hdisabled⟩
  have henabled := (h.highlighted.mp hhighlighted).1
  exact absurd hdisabled (henabled ▸ Bool.false_ne_true)

/-! ## Order -/

/-- The first request was updated when the second one was, or before. -/
def NotNewer (a b : ChangeRequest) : Prop := a.updatedAt.instant ≤ b.updatedAt.instant

instance : DecidableRel NotNewer := fun a b =>
  inferInstanceAs (Decidable (a.updatedAt.instant ≤ b.updatedAt.instant))

instance : IsTrans ChangeRequest NotNewer := ⟨fun _ _ _ => Int.le_trans⟩

instance : Std.Total NotNewer := ⟨fun _ _ => Int.le_total _ _⟩

def isOf (instant : Int) (request : ChangeRequest) : Bool := request.updatedAt.instant = instant

/-- Requests of one instant keep their order. -/
theorem filter_insertionSort (requests : List ChangeRequest) (instant : Int) :
    (requests.insertionSort NotNewer).filter (isOf instant) = requests.filter (isOf instant) := by
  have hsame : (requests.filter (isOf instant)).Pairwise NotNewer := by
    refine List.pairwise_iff_forall_sublist.mpr fun {a b} hsub => ?_
    have hof : ∀ request ∈ [a, b], request.updatedAt.instant = instant := fun request hmem =>
      of_decide_eq_true (List.mem_filter.mp (hsub.mem hmem)).2
    exact Int.le_of_eq ((hof a (by simp)).trans (hof b (by simp)).symm)
  -- the requests of the instant are found in their order among all that are sorted, and they are as
  -- many as there are in the whole
  have hsub := (List.sublist_insertionSort hsame List.filter_sublist).filter (isOf instant)
  simp only [List.filter_filter, Bool.and_self] at hsub
  have hperm := (List.perm_insertionSort NotNewer requests).filter (isOf instant)
  exact (hsub.eq_of_length hperm.length_eq.symm).symm

/-- The rows are those of the requests: each request once, newest first, requests of one instant in
their order, and every row with its marks. -/
structure Shows (rows : List Row) (requests : List ChangeRequest) : Prop where
  perm : (rows.map (·.request)).Perm requests
  newestFirst : rows.Pairwise fun a b =>
    b.request.updatedAt.instant ≤ a.request.updatedAt.instant
  stable : ∀ instant, (rows.map (·.request)).filter (·.updatedAt.instant = instant) =
    requests.filter (·.updatedAt.instant = instant)
  marked : ∀ row ∈ rows, row.Marked

/-- The requests in order, the newest first. -/
def inOrder (requests : List ChangeRequest) : List ChangeRequest :=
  (requests.reverse.insertionSort NotNewer).reverse

/-- Since the list is sorted from its end and turned round, requests of one instant keep their
order. -/
theorem filter_inOrder (requests : List ChangeRequest) (instant : Int) :
    (inOrder requests).filter (isOf instant) = requests.filter (isOf instant) := by
  unfold inOrder
  rw [List.filter_reverse, filter_insertionSort, List.filter_reverse, List.reverse_reverse]

theorem perm_inOrder (requests : List ChangeRequest) :
    (inOrder requests).Perm requests :=
  ((List.reverse_perm _).trans (List.perm_insertionSort NotNewer _)).trans (List.reverse_perm _)

/-- No request is newer than one before it. -/
theorem pairwise_inOrder (requests : List ChangeRequest) :
    (inOrder requests).Pairwise fun a b => NotNewer b a :=
  List.pairwise_reverse.mpr (List.pairwise_insertionSort NotNewer _)

/-- The rows of the requests in order show these requests. -/
theorem shows_inOrder (requests : List ChangeRequest) :
    Shows ((inOrder requests).map ofRequest) requests := by
  have hrequests : ((inOrder requests).map ofRequest).map (·.request) =
      inOrder requests := by
    rw [List.map_map]
    exact List.map_id _
  refine ⟨?_, ?_, fun instant => ?_, fun row hrow => ?_⟩
  · rw [hrequests]
    exact perm_inOrder requests
  · exact List.pairwise_map.mpr (pairwise_inOrder requests)
  · rw [hrequests]
    exact filter_inOrder requests instant
  · obtain ⟨request, -, rfl⟩ := List.mem_map.mp hrow
    exact marked_ofRequest request

/-! ## Times that cannot be compared -/

/-- Whether all times have a known distance from UTC, or none has. -/
def comparableTimes (requests : List ChangeRequest) : Bool :=
  requests.all (·.updatedAt.isAware) || requests.all (!·.updatedAt.isAware)

theorem comparableTimes_iff (requests : List ChangeRequest) :
    comparableTimes requests = true ↔
      (∀ request ∈ requests, request.updatedAt.isAware = true) ∨
        ∀ request ∈ requests, request.updatedAt.isAware = false := by
  unfold comparableTimes
  simp only [Bool.or_eq_true, List.all_eq_true, Bool.not_eq_true']

/-- The times are of one kind if they can all be compared with each other. -/
theorem comparableTimes_iff_same (requests : List ChangeRequest) :
    comparableTimes requests = true ↔ ∀ a ∈ requests, ∀ b ∈ requests,
      a.updatedAt.isAware = b.updatedAt.isAware := by
  rw [comparableTimes_iff]
  constructor
  · rintro (hall | hnone) a ha b hb
    · rw [hall a ha, hall b hb]
    · rw [hnone a ha, hnone b hb]
  · intro hsame
    by_cases haware : ∃ a ∈ requests, a.updatedAt.isAware = true
    · obtain ⟨a, ha, haware⟩ := haware
      exact .inl fun b hb => (hsame b hb a ha).trans haware
    · push Not at haware
      exact .inr fun b hb => Bool.eq_false_iff.mpr (haware b hb)

theorem olderThan_eq_ok {a b : ChangeRequest} (h : a.updatedAt.isAware = b.updatedAt.isAware) :
    olderThan b a = .ok (decide ¬ NotNewer a b) := by
  unfold olderThan NotNewer
  rw [if_pos h.symm]
  exact congrArg Except.ok (decide_eq_decide.mpr Int.not_le.symm)

/-- Times of two kinds cannot be compared. -/
theorem olderThan_eq_error {a b : ChangeRequest} (h : a.updatedAt.isAware ≠ b.updatedAt.isAware) :
    olderThan b a = .error .mixedTimes := if_neg h.symm

/-- The rows are those of the requests in order, unless times of both kinds are among them: then two
of these come to be compared. -/
theorem build_eq (requests : List ChangeRequest) :
    build requests =
      if comparableTimes requests then .ok ((inOrder requests).map ofRequest)
      else .error .mixedTimes := by
  unfold build
  split
  · next hcomparable =>
    have hsame := (comparableTimes_iff_same requests).mp hcomparable
    rw [StableSort.sort_eq_ok NotNewer fun a ha b hb =>
      olderThan_eq_ok (hsame a (List.mem_reverse.mp ha) b (List.mem_reverse.mp hb))]
    rfl
  · next hmixed =>
    rw [comparableTimes_iff_same] at hmixed
    push Not at hmixed
    obtain ⟨a, ha, b, hb, hkinds⟩ := hmixed
    rw [StableSort.sort_eq_error NotNewer (·.updatedAt.isAware) (fun _ _ => olderThan_eq_ok)
      (fun _ _ => olderThan_eq_error) (List.mem_reverse.mpr ha) (List.mem_reverse.mpr hb) hkinds]
    rfl

/-- The rows that are built show the requests. -/
theorem shows_of_build {requests : List ChangeRequest} {rows : List Row}
    (h : build requests = .ok rows) : Shows rows requests := by
  rw [build_eq] at h
  split at h
  · obtain rfl := Except.ok.inj h
    exact shows_inOrder requests
  · cases h

/-- Requests whose times can be compared have their rows. -/
theorem exists_build {requests : List ChangeRequest} (h : comparableTimes requests = true) :
    ∃ rows, build requests = .ok rows := ⟨_, (build_eq requests).trans (if_pos h)⟩

/-- Requests whose times all have a known distance from UTC, or all have none, have their rows, and
the highlighted ones are counted.  Times of both kinds cannot be put in order. -/
theorem build_outcome (requests : List ChangeRequest) :
    ((∀ request ∈ requests, request.updatedAt.isAware = true) ∨
        (∀ request ∈ requests, request.updatedAt.isAware = false) →
      ∃ rows, build requests = .ok rows ∧ Shows rows requests ∧
        countHighlighted rows = (rows.filter (·.highlighted)).length) ∧
    ((∃ request ∈ requests, request.updatedAt.isAware = true) ∧
        (∃ request ∈ requests, request.updatedAt.isAware = false) →
      build requests = .error .mixedTimes) := by
  constructor
  · intro hcomparable
    obtain ⟨rows, hbuild⟩ := exists_build ((comparableTimes_iff requests).mpr hcomparable)
    exact ⟨rows, hbuild, shows_of_build hbuild, List.countP_eq_length_filter⟩
  · rintro ⟨⟨aware, haware, hknown⟩, naive, hnaive, hunknown⟩
    refine (build_eq requests).trans (if_neg fun hcomparable => ?_)
    have hsame := (comparableTimes_iff_same requests).mp hcomparable aware haware naive hnaive
    rw [hknown, hunknown] at hsame
    cases hsame

def updatedInMay (hour : Nat) (offset : Option Int) : ChangeRequest :=
  ⟨7, "New weights", "", "gav", "gav-xcm", "master", some "paritytech", "paritytech",
    ⟨2024, 5, 1, hour, 0, 0, 0, offset⟩, none⟩

theorem build_outcome_inMay :
    (∃ rows, build [updatedInMay 10 (some 0), updatedInMay 12 (some 120)] = .ok rows ∧
      Shows rows [updatedInMay 10 (some 0), updatedInMay 12 (some 120)] ∧
      countHighlighted rows = (rows.filter (·.highlighted)).length) ∧
    build [updatedInMay 10 (some 0), updatedInMay 12 none] = .error .mixedTimes := by
  refine ⟨(build_outcome _).1 (.inl (by decide)), (build_outcome _).2 ⟨?_, ?_⟩⟩
  · exact ⟨updatedInMay 10 (some 0), by decide, rfl⟩
  · exact ⟨updatedInMay 12 none, by decide, rfl⟩

/-- Noon two hours ahead of UTC and ten o'clock in UTC are one instant. -/
example : (⟨2024, 5, 1, 12, 0, 0, 0, some 120⟩ : Timestamp).instant =
    (⟨2024, 5, 1, 10, 0, 0, 0, some 0⟩ : Timestamp).instant := by
  decide

end Row

end BranchCompare.ChangeRequest
