/-!
# Cutting texts

A text is cut at its first separator, or at all of them.  `pieces_join` says that cutting at all
separators finds the pieces again that were joined.
-/

namespace BranchCompare.Text

/-- What stands before the first character of the class, and what follows it if there is one. -/
def cutAt (p : Char → Bool) : List Char → List Char × Option (List Char)
  | [] => ([], none)
  | c :: cs =>
    if p c then ([], some cs)
    else
      let (before, rest) := cutAt p cs
      (c :: before, rest)

/-- The stretches between the separators, of which there is one more than separators. -/
def pieces (separator : Char) : List Char → List (List Char)
  | [] => [[]]
  | c :: cs =>
    if c = separator then [] :: pieces separator cs
    else
      match pieces separator cs with
      | piece :: rest => (c :: piece) :: rest
      | [] => [[c]]

/-- Stretches with the separator between them. -/
def join (separator : Char) : List (List Char) → List Char
  | [] => []
  | [piece] => piece
  | piece :: rest => piece ++ separator :: join separator rest

/-- Joined pieces hold the separator and what the pieces hold. -/
theorem mem_join {separator c : Char} {parts : List (List Char)} (h : c ∈ join separator parts) :
    c = separator ∨ ∃ part ∈ parts, c ∈ part := by
  induction parts with
  | nil => cases h
  | cons part rest ih =>
    cases rest with
    | nil => exact .inr ⟨part, List.mem_cons_self, h⟩
    | cons next rest =>
      rw [join] at h
      rcases List.mem_append.mp h with h | h
      · exact .inr ⟨part, List.mem_cons_self, h⟩
      rcases List.mem_cons.mp h with rfl | h
      · exact .inl rfl
      · refine (ih h).imp_right ?_
        rintro ⟨p, hp, hc⟩
        exact ⟨p, List.mem_cons_of_mem part hp, hc⟩
      exact List.cons_ne_nil next rest

theorem pieces_of_not_mem {separator : Char} {cs : List Char} (h : separator ∉ cs) :
    pieces separator cs = [cs] := by
  induction cs with
  | nil => rfl
  | cons c cs ih =>
    have hc : c ≠ separator := fun heq => h (heq ▸ List.mem_cons_self)
    simp only [pieces, if_neg hc, ih fun hm => h (List.mem_cons_of_mem c hm)]

/-- The first piece is what stands before the first separator. -/
theorem pieces_append {separator : Char} {cs : List Char} (rest : List Char)
    (h : separator ∉ cs) :
    pieces separator (cs ++ separator :: rest) = cs :: pieces separator rest := by
  induction cs with
  | nil => simp only [List.nil_append, pieces, if_true]
  | cons c cs ih =>
    have hc : c ≠ separator := fun heq => h (heq ▸ List.mem_cons_self)
    simp only [List.cons_append, pieces, if_neg hc, ih fun hm => h (List.mem_cons_of_mem c hm)]

/-- Pieces that were joined are found again. -/
theorem pieces_join {separator : Char} {parts : List (List Char)} (hne : parts ≠ [])
    (h : ∀ part ∈ parts, separator ∉ part) : pieces separator (join separator parts) = parts := by
  induction parts with
  | nil => exact absurd rfl hne
  | cons part rest ih =>
    have hpart := h part List.mem_cons_self
    cases rest with
    | nil => exact pieces_of_not_mem hpart
    | cons next rest =>
      have hrest := ih (List.cons_ne_nil next rest) fun p hp => h p (List.mem_cons_of_mem part hp)
      rw [join, pieces_append _ hpart, hrest]
      exact List.cons_ne_nil next rest

theorem cutAt_of_all {p : Char → Bool} {cs : List Char} (h : ∀ c ∈ cs, p c = false) :
    cutAt p cs = (cs, none) := by
  induction cs with
  | nil => rfl
  | cons c cs ih => simp [cutAt, h c, ih fun d hd => h d (List.mem_cons_of_mem c hd)]

/-- A text is cut at the first character of the class. -/
theorem cutAt_append {p : Char → Bool} {cs : List Char} {c : Char} (rest : List Char)
    (h : ∀ c ∈ cs, p c = false) (hc : p c = true) :
    cutAt p (cs ++ c :: rest) = (cs, some rest) := by
  induction cs with
  | nil => simp [cutAt, hc]
  | cons d cs ih => simp [cutAt, h d, ih fun e he => h e (List.mem_cons_of_mem d he)]

end BranchCompare.Text
