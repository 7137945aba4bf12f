import BranchCompare.Proofs.ChangeRequest.Rows

/-!
# The newest request of a number

A listing may have several requests of one number.  The newest one is the one that was updated last,
and of those of one instant the first in the listing (`IsNewest`).  There are no two such requests
(`IsNewest.unique`).  Of the rows of the listing that have the number, the first one is that of the
newest request (`Row.Shows.isNewest_of_find?`), and there is none only if no request has the number
(`Row.Shows.find?_eq_none`).
-/

namespace BranchCompare.ChangeRequest

variable {requests : List ChangeRequest} {number : Int} {request other : ChangeRequest}

/-- Of the requests of the number it was updated last, and it comes before others of its instant. -/
def IsNewest (requests : List ChangeRequest) (number : Int) (request : ChangeRequest) : Prop :=
  ∃ before after, requests = before ++ request :: after ∧ request.number = number ∧
    (∀ other ∈ before, other.number = number →
      other.updatedAt.instant < request.updatedAt.instant) ∧
    ∀ other ∈ after, other.number = number →
      other.updatedAt.instant ≤ request.updatedAt.instant

theorem IsNewest.mem (h : IsNewest requests number request) : request ∈ requests := by
  obtain ⟨before, after, rfl, -⟩ := h
  exact List.mem_append_right _ List.mem_cons_self

theorem IsNewest.number_eq (h : IsNewest requests number request) : request.number = number := by
  obtain ⟨-, -, -, hnumber, -⟩ := h
  exact hnumber

/-- Two places of a list are the same, or one comes before the other. -/
theorem places_cases {α : Type} {before after earlier later : List α} {a b : α}
    (h : before ++ a :: after = earlier ++ b :: later) :
    a = b ∨ (a ∈ earlier ∧ b ∈ after) ∨ (b ∈ before ∧ a ∈ later) := by
  rcases List.append_eq_append_iff.mp h with ⟨between, rfl, hrest⟩ | ⟨between, rfl, hrest⟩
  · cases between with
    | nil => exact .inl (List.cons.inj hrest).1
    | cons c between =>
      obtain ⟨rfl, rfl⟩ := List.cons.inj hrest
      exact .inr (.inl ⟨by simp, by simp⟩)
  · cases between with
    | nil => exact .inl (List.cons.inj hrest).1.symm
    | cons c between =>
      obtain ⟨rfl, rfl⟩ := List.cons.inj hrest
      exact .inr (.inr ⟨by simp, by simp⟩)

theorem IsNewest.unique (h : IsNewest requests number request)
    (h' : IsNewest requests number other) : request = other := by
  obtain ⟨before, after, hplace, hnumber, hbefore, hafter⟩ := h
  obtain ⟨earlier, later, hplace', hnumber', hearlier, hlater⟩ := h'
  rcases places_cases (hplace.symm.trans hplace') with heq | ⟨hfirst, hsecond⟩ | ⟨hfirst, hsecond⟩
  · exact heq
  · exact absurd (hearlier _ hfirst hnumber) (Int.not_lt.mpr (hafter _ hsecond hnumber'))
  · exact absurd (hbefore _ hfirst hnumber') (Int.not_lt.mpr (hlater _ hsecond hnumber))

/-- What a filter keeps before an element comes before it in what is kept. -/
theorem exists_place_of_filter {α : Type} {keeps : α → Bool} {items first rest : List α} {a : α}
    (h : items.filter keeps = first ++ a :: rest) :
    ∃ before after, items = before ++ a :: after ∧
      ∀ b ∈ before, keeps b = true → b ∈ first := by
  obtain ⟨front, back, rfl, rfl, hback⟩ := List.filter_eq_append_iff.mp h
  obtain ⟨between, after, rfl, hbetween, -, -⟩ := List.filter_eq_cons_iff.mp hback
  refine ⟨front ++ between, after, (List.append_assoc ..).symm, fun b hmem hkeeps => ?_⟩
  rcases List.mem_append.mp hmem with hmem | hmem
  · exact List.mem_filter.mpr ⟨hmem, hkeeps⟩
  · exact absurd hkeeps (hbetween b hmem)

namespace Row

variable {rows above below : List Row} {row : Row}

/-- A row is found if its number is in the listing. -/
theorem Shows.find?_eq_none (h : Shows rows requests)
    (hnone : rows.find? (fun row => row.request.number = number) = none) :
    ∀ request ∈ requests, request.number ≠ number := by
  intro request hmem hnumber
  obtain ⟨row, hrow, rfl⟩ := List.mem_map.mp (h.perm.mem_iff.mpr hmem)
  exact List.find?_eq_none.mp hnone row hrow (decide_eq_true hnumber)

/-- The first row of a number is that of a request which was updated last. -/
theorem Shows.not_newer (h : Shows (above ++ row :: below) requests)
    (habove : ∀ row ∈ above, row.request.number ≠ number) (hmem : request ∈ requests)
    (hnumber : request.number = number) :
    request.updatedAt.instant ≤ row.request.updatedAt.instant := by
  have hbelow := (List.pairwise_cons.mp (List.pairwise_append.mp h.newestFirst).2.1).1
  obtain ⟨shown, hshown, rfl⟩ := List.mem_map.mp (h.perm.mem_iff.mpr hmem)
  rcases List.mem_append.mp hshown with hshown | hshown
  · exact absurd hnumber (habove shown hshown)
  · rcases List.mem_cons.mp hshown with rfl | hshown
    · exact Int.le_refl _
    · exact hbelow shown hshown

/-- The first row of a number is that of the newest request. -/
theorem Shows.isNewest_of_find? (h : Shows rows requests)
    (hfound : rows.find? (fun row => row.request.number = number) = some row) :
    IsNewest requests number row.request := by
  obtain ⟨hnumber, above, below, rfl, hothers⟩ := List.find?_eq_some_iff_append.mp hfound
  have habove : ∀ row ∈ above, row.request.number ≠ number := fun row hrow heq => by
    simpa [heq] using hothers row hrow
  have hself : isOf row.request.updatedAt.instant row.request = true := decide_eq_true rfl
  -- the requests of its instant stand in the listing as they do in the rows
  have hstable : requests.filter (isOf row.request.updatedAt.instant) =
      ((above ++ row :: below).map (·.request)).filter (isOf row.request.updatedAt.instant) :=
    (h.stable _).symm
  rw [List.map_append, List.map_cons, List.filter_append, List.filter_cons_of_pos hself] at hstable
  obtain ⟨before, after, rfl, hbefore⟩ := exists_place_of_filter hstable
  refine ⟨before, after, rfl, of_decide_eq_true hnumber, fun other hmem heq => ?_,
    fun other hmem heq => h.not_newer habove (by simp [hmem]) heq⟩
  refine Int.lt_iff_le_and_ne.mpr ⟨h.not_newer habove (by simp [hmem]) heq, fun hsame => ?_⟩
  have hkept := hbefore other hmem (decide_eq_true hsame)
  obtain ⟨shown, hshown, rfl⟩ := List.mem_map.mp (List.mem_filter.mp hkept).1
  exact habove shown hshown heq

end Row

end BranchCompare.ChangeRequest
