import Mathlib.Data.List.Chain
import Mathlib.Logic.Relation
import BranchCompare.LoadingIndicator

/-!
# What the loading indicator counts

An indicator `Counts` those who have entered and not left: it was switched on and off in turn, and
last switched on just if someone is inside.  Someone who goes in and out by `Phases` keeps it
counting (`Counts.phases`).
-/

namespace BranchCompare.LoadingIndicator

/-- The values alternate, and the first one is true. -/
structure Alternates (values : List Bool) : Prop where
  first : values.head? ≠ some false
  turns : values.IsChain fun value next => value ≠ next

/-- So many have entered the indicator and not left it. -/
structure Counts (indicator : LoadingIndicator) (inside : Nat) : Prop where
  depth : indicator.depth = inside
  alternates : Alternates indicator.toggles
  last : indicator.toggles.getLast? = some true ↔ 0 < inside

/-- Someone enters or leaves.  The flag says whether they are inside. -/
inductive Phase : Bool × LoadingIndicator → Bool × LoadingIndicator → Prop where
  | enters (indicator : LoadingIndicator) : Phase (false, indicator) (true, indicator.enter)
  | exits (indicator : LoadingIndicator) : Phase (true, indicator) (false, indicator.exit)

def Phases : Bool × LoadingIndicator → Bool × LoadingIndicator → Prop :=
  Relation.ReflTransGen Phase

variable {indicator : LoadingIndicator} {inside others : Nat}

theorem Alternates.append {values : List Bool} {value : Bool} (h : Alternates values)
    (hfirst : values = [] → value = true) (hlast : values.getLast? ≠ some value) :
    Alternates (values ++ [value]) := by
  constructor
  · cases values with
    | nil =>
      rw [hfirst rfl]
      exact nofun
    | cons first rest => exact h.first
  · refine List.isChain_append.mpr ⟨h.turns, .singleton value, ?_⟩
    rintro last hmem next hnext rfl
    obtain rfl := Option.some.inj hnext
    exact hlast hmem

/-- Nobody is inside of an indicator that is off. -/
theorem counts_off : off.Counts 0 := ⟨rfl, ⟨nofun, .nil⟩, nofun, nofun⟩

/-- One more is inside after entering. -/
theorem Counts.enter (h : indicator.Counts inside) : indicator.enter.Counts (inside + 1) := by
  have hdepth : indicator.enter.depth = (inside + 1 : Nat) := by
    show indicator.depth + 1 = _
    rw [h.depth, Int.natCast_succ]
  by_cases hzero : inside = 0
  · -- the first one to enter switches the indicator on
    subst hzero
    have htoggles : indicator.enter.toggles = indicator.toggles ++ [true] :=
      if_pos (by rw [h.depth]; rfl)
    have hlast : indicator.toggles.getLast? ≠ some true := fun hon =>
      Nat.lt_irrefl 0 (h.last.mp hon)
    refine ⟨hdepth, ?_, ?_⟩
    · rw [htoggles]
      exact h.alternates.append (fun _ => rfl) hlast
    · rw [htoggles, List.getLast?_concat]
      exact ⟨fun _ => Nat.one_pos, fun _ => rfl⟩
  · have htoggles : indicator.enter.toggles = indicator.toggles :=
      if_neg (by rw [h.depth]; omega)
    have hsome := h.last.mpr (Nat.pos_of_ne_zero hzero)
    refine ⟨hdepth, htoggles ▸ h.alternates, ?_⟩
    rw [htoggles]
    exact ⟨fun _ => Nat.succ_pos _, fun _ => hsome⟩

/-- One less is inside after leaving. -/
theorem Counts.exit (h : indicator.Counts (inside + 1)) : indicator.exit.Counts inside := by
  have hdepth : indicator.exit.depth = inside := by
    show indicator.depth - 1 = _
    rw [h.depth, Int.natCast_succ, Int.add_sub_cancel]
  have hlast : indicator.toggles.getLast? = some true := h.last.mpr (Nat.succ_pos _)
  by_cases hzero : inside = 0
  · -- the last one to leave switches the indicator off
    subst hzero
    have htoggles : indicator.exit.toggles = indicator.toggles ++ [false] :=
      if_pos (by rw [h.depth]; rfl)
    refine ⟨hdepth, ?_, ?_⟩
    · rw [htoggles]
      refine h.alternates.append (fun hnil => ?_) (by rw [hlast]; exact nofun)
      rw [hnil] at hlast
      cases hlast
    · rw [htoggles, List.getLast?_concat]
      exact ⟨nofun, fun hpos => absurd hpos (Nat.lt_irrefl 0)⟩
  · have htoggles : indicator.exit.toggles = indicator.toggles :=
      if_neg (by rw [h.depth]; omega)
    refine ⟨hdepth, htoggles ▸ h.alternates, ?_⟩
    rw [htoggles]
    exact ⟨fun _ => Nat.pos_of_ne_zero hzero, fun _ => hlast⟩

/-- The indicator is on as long as someone is inside. -/
theorem Counts.isActive_iff (h : indicator.Counts inside) :
    indicator.isActive = true ↔ 0 < inside := by
  unfold isActive
  rw [decide_eq_true_iff, h.depth, Int.natCast_pos]

/-- Whatever one operation does, the indicator counts those inside. -/
theorem Counts.phase {before next : Bool × LoadingIndicator}
    (h : before.2.Counts (others + before.1.toNat)) (hphase : Phase before next) :
    next.2.Counts (others + next.1.toNat) := by
  cases hphase with
  | enters => exact h.enter
  | exits => exact h.exit

/-- The indicator goes on counting when one of those that it counts goes in and out. -/
theorem Counts.phases {before next : Bool × LoadingIndicator}
    (h : before.2.Counts (others + before.1.toNat)) (hphases : Phases before next) :
    next.2.Counts (others + next.1.toNat) := by
  induction hphases with
  | refl => exact h
  | tail _ hphase ih => exact ih.phase hphase

end BranchCompare.LoadingIndicator
