import Mathlib.Data.List.Basic
import Mathlib.Tactic.Common

/-!
# Ordered removal from an array

The loop here removes the element at one position from an array whose order
matters: every later element is moved one position to the front. The slots behind
the last element in use are left as they are, the one that has become free among
them.
-/

namespace NodeinfoSystem.Foundation

universe u

variable {α : Type u}

/-- `for (i = index; i < size - 1; i++) xs[i] = xs[i + 1];`, with the rounds that are left. -/
def shiftLoop : ℕ → ℕ → List α → List α
  | 0, _, xs => xs
  | rounds + 1, i, xs =>
      match xs[i + 1]? with
      | none => xs
      | some x => shiftLoop rounds (i + 1) (xs.set i x)

/-- By induction on the rounds: the elements behind `i` that the loop reaches move up. -/
theorem shiftLoop_eq {rounds i : ℕ} {xs : List α} (inside : i + rounds < xs.length) :
    shiftLoop rounds i xs =
      xs.take i ++ (xs.drop (i + 1)).take rounds ++ xs.drop (i + rounds) := by
  induction rounds generalizing i xs with
  | zero => simp [shiftLoop]
  | succ rounds ih =>
      have next_inside : i + 1 < xs.length := by omega
      rw [shiftLoop, List.getElem?_eq_getElem next_inside]
      have shifted := @ih (i + 1) (xs.set i xs[i + 1]) (by rw [List.length_set]; omega)
      simp only [shifted]
      have front : (xs.set i xs[i + 1]).take (i + 1) = xs.take i ++ [xs[i + 1]] := by
        rw [List.take_succ_eq_append_getElem (by rw [List.length_set]; omega),
          List.take_set_of_le (Nat.le_refl _), List.getElem_set_self]
      have moved : (xs.drop (i + 1)).take (rounds + 1) =
          xs[i + 1] :: (xs.drop (i + 1 + 1)).take rounds := by
        rw [List.drop_eq_getElem_cons next_inside, List.take_succ_cons]
      have position : i + 1 + rounds = i + (rounds + 1) := by omega
      rw [front, moved, List.drop_set_of_lt (by omega), List.drop_set_of_lt (by omega), position]
      simp only [List.append_assoc, List.cons_append, List.nil_append]

theorem length_shiftLoop {rounds i : ℕ} {xs : List α} (inside : i + rounds < xs.length) :
    (shiftLoop rounds i xs).length = xs.length := by
  rw [shiftLoop_eq inside]
  simp only [List.length_append, List.length_take, List.length_drop]
  omega

/-- The elements in use after the loop are those before it, without the one at `i`. -/
theorem take_shiftLoop {rounds i : ℕ} {xs : List α} (inside : i + rounds < xs.length) :
    (shiftLoop rounds i xs).take (i + rounds) = (xs.take (i + rounds + 1)).eraseIdx i := by
  have used : (xs.take i ++ (xs.drop (i + 1)).take rounds).length = i + rounds := by
    simp only [List.length_append, List.length_take, List.length_drop]
    omega
  rw [shiftLoop_eq inside, List.take_left' used, List.eraseIdx_eq_take_drop_succ, List.take_take,
    List.drop_take]
  congr 2 <;> omega

/-- The slots the loop looks at, reading the second of each pair and writing the first. -/
def shiftAccesses : ℕ → ℕ → List ℕ
  | 0, _ => []
  | rounds + 1, i => (i + 1) :: i :: shiftAccesses rounds (i + 1)

theorem le_of_mem_shiftAccesses {rounds i slot : ℕ} (slot_mem : slot ∈ shiftAccesses rounds i) :
    slot ≤ i + rounds := by
  induction rounds generalizing i with
  | zero => simp [shiftAccesses] at slot_mem
  | succ rounds ih =>
      rw [shiftAccesses, List.mem_cons, List.mem_cons] at slot_mem
      rcases slot_mem with rfl | rfl | later
      · omega
      · omega
      · have bound := ih later
        omega

example : shiftLoop 2 1 [5, 6, 7, 8, 9] = [5, 7, 8, 8, 9] := by decide

end NodeinfoSystem.Foundation
