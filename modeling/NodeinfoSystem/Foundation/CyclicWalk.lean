import Mathlib.Data.List.Basic
import Mathlib.Data.Int.Basic
import Mathlib.Data.Nat.ModEq
import Mathlib.Tactic.Common

/-!
# Walks round a cycle

A walk visits the `size` numbers from `first` on over and over again, one after the
other. Pieces that are walked one after the other make up one walk, and between two
visits to the same number the walk has been everywhere else.
-/

namespace NodeinfoSystem.Foundation

/-- The number that a walk visits as its `step`-th, counted from zero. -/
def cyclePoint (first : ℤ) (size step : ℕ) : ℤ :=
  first + (step % size : ℕ)

/-- The numbers are those of the walk from the given step on. -/
def IsWalk (first : ℤ) (size start : ℕ) (points : List ℤ) : Prop :=
  ∀ index point, points[index]? = some point → point = cyclePoint first size (start + index)

variable {first : ℤ} {size start : ℕ} {points more : List ℤ}

theorem cyclePoint_congr {step other : ℕ} (same : step % size = other % size) :
    cyclePoint first size step = cyclePoint first size other := by
  rw [cyclePoint, cyclePoint, same]

theorem IsWalk.nil : IsWalk first size start [] := by
  intro index point visited
  simp at visited

/-- Only the number that a walk starts with matters. -/
theorem IsWalk.congr (walk : IsWalk first size start points) {again : ℕ}
    (same : start % size = again % size) : IsWalk first size again points := by
  intro index point visited
  rw [walk index point visited]
  exact cyclePoint_congr (Nat.ModEq.add_right index same)

theorem IsWalk.append (walk : IsWalk first size start points)
    (goesOn : IsWalk first size (start + points.length) more) :
    IsWalk first size start (points ++ more) := by
  intro index point visited
  rcases Nat.lt_or_ge index points.length with inside | behind
  · rw [List.getElem?_append_left inside] at visited
    exact walk index point visited
  · rw [List.getElem?_append_right behind] at visited
    rw [goesOn _ point visited, Nat.add_assoc, Nat.add_sub_cancel' behind]

theorem IsWalk.of_append (walk : IsWalk first size start (points ++ more)) :
    IsWalk first size start points := by
  intro index point visited
  refine walk index point ?_
  rw [List.getElem?_append_left (List.getElem?_eq_some_iff.mp visited).1, visited]

/-- A number is visited again only after a whole turn. -/
theorem IsWalk.size_le_of_again (walk : IsWalk first size start points) {earlier later : ℕ}
    {point : ℤ} (before : earlier < later) (visited : points[earlier]? = some point)
    (again : points[later]? = some point) : earlier + size ≤ later := by
  have same := (walk earlier point visited).symm.trans (walk later point again)
  have residues : (start + earlier) % size = (start + later) % size := by
    rw [cyclePoint, cyclePoint] at same
    omega
  have turns : size ∣ start + later - (start + earlier) :=
    (Nat.modEq_iff_dvd' (by omega)).mp residues
  have turn := Nat.le_of_dvd (by omega) turns
  omega

/-- Between two visits to a number the walk has been to every other number. -/
theorem IsWalk.visits_between (walk : IsWalk first size start points) {earlier later : ℕ}
    {point other : ℤ} (before : earlier < later) (visited : points[earlier]? = some point)
    (again : points[later]? = some point) (lower : first ≤ other) (upper : other < first + size) :
    ∃ between, earlier ≤ between ∧ between < later ∧ points[between]? = some other := by
  have turn := walk.size_le_of_again before visited again
  have inside := (List.getElem?_eq_some_iff.mp again).1
  -- the first step from `earlier` on that visits `other`
  obtain ⟨ahead, ahead_lt, residue⟩ : ∃ ahead, ahead < size ∧
      (start + earlier + ahead) % size = (other - first).toNat := by
    have size_pos : 0 < size := by omega
    have offset_lt : (other - first).toNat < size := by omega
    refine ⟨((other - first).toNat + (size - (start + earlier) % size)) % size,
      Nat.mod_lt _ size_pos, ?_⟩
    have residue_lt := Nat.mod_lt (start + earlier) size_pos
    rw [Nat.add_mod_mod, ← Nat.mod_add_mod]
    have whole : (start + earlier) % size +
        ((other - first).toNat + (size - (start + earlier) % size)) =
          (other - first).toNat + size := by omega
    rw [whole, Nat.add_mod_right, Nat.mod_eq_of_lt offset_lt]
  refine ⟨earlier + ahead, by omega, by omega, ?_⟩
  have visited_there := List.getElem?_eq_getElem (l := points) (i := earlier + ahead) (by omega)
  rw [visited_there, walk _ _ visited_there, cyclePoint, ← Nat.add_assoc, residue]
  congr 1
  omega

end NodeinfoSystem.Foundation
