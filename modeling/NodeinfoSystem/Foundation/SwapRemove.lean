import Mathlib.Data.List.Perm.Basic
import Mathlib.Data.List.Perm.Subperm
import Mathlib.Data.List.Basic
import Mathlib.Tactic.Common

/-!
# Unordered removal from an array

The loop here removes every element satisfying a test from an array whose order
does not matter: a hit at position `index` is overwritten with the last element,
the array shrinks by one, and the same position is examined again. The result is
a permutation of the plain filter, so no survivor is skipped and none is lost.
-/

namespace NodeinfoSystem.Foundation

open scoped List

universe u

variable {α : Type u}

/-- Overwrite the element at `index` with the last one and drop the last slot. -/
def swapRemove (xs : List α) (index : ℕ) : List α :=
  match xs.getLast? with
  | none => xs
  | some last => (xs.set index last).dropLast

theorem swapRemove_concat (front : List α) (last : α) (index : ℕ) :
    swapRemove (front ++ [last]) index = ((front ++ [last]).set index last).dropLast := by
  simp [swapRemove]

theorem swapRemove_concat_of_lt {front : List α} {index : ℕ} (inside : index < front.length)
    (last : α) : swapRemove (front ++ [last]) index = front.set index last := by
  rw [swapRemove_concat, List.set_append_left _ _ inside, List.dropLast_concat]

theorem swapRemove_concat_length (front : List α) (last : α) :
    swapRemove (front ++ [last]) front.length = front := by
  simp [swapRemove_concat]

theorem perm_cons_swapRemove {xs : List α} {index : ℕ} (inside : index < xs.length) :
    xs.Perm (xs[index] :: swapRemove xs index) := by
  rcases List.eq_nil_or_concat' xs with rfl | ⟨front, last, rfl⟩
  · simp at inside
  · rcases Nat.lt_or_ge index front.length with before | notBefore
    · rw [swapRemove_concat_of_lt before, List.getElem_append_left before]
      calc front ++ [last]
        _ ~ last :: front := List.perm_append_singleton last front
        _ ~ last :: front[index] :: front.eraseIdx index :=
            (List.getElem_cons_eraseIdx_perm before).symm.cons last
        _ ~ front[index] :: last :: front.eraseIdx index := List.Perm.swap _ _ _
        _ ~ front[index] :: front.set index last :=
            (List.set_perm_cons_eraseIdx before last).symm.cons _
    · have atLast : index = front.length := by
        simp only [List.length_append, List.length_singleton] at inside
        omega
      subst atLast
      simp [swapRemove_concat_length]

theorem length_swapRemove {xs : List α} {index : ℕ} (inside : index < xs.length) :
    (swapRemove xs index).length + 1 = xs.length := by
  simpa using (perm_cons_swapRemove inside).length_eq.symm

theorem take_swapRemove {xs : List α} {index : ℕ} (inside : index < xs.length) :
    (swapRemove xs index).take index = xs.take index := by
  rcases List.eq_nil_or_concat' xs with rfl | ⟨front, last, rfl⟩
  · simp at inside
  · rcases Nat.lt_or_ge index front.length with before | notBefore
    · rw [swapRemove_concat_of_lt before, List.take_set_of_le (Nat.le_refl _),
        List.take_append_of_le_length (Nat.le_of_lt before)]
    · have atLast : index = front.length := by
        simp only [List.length_append, List.length_singleton] at inside
        omega
      subst atLast
      simp [swapRemove_concat_length]

/--
`for (i = index; i < size; )` with removal by swapping: a hit shrinks the array
and keeps `i`, a miss advances `i`. Every iteration brings `i` one closer to the
current size, so `size - index` iterations reach the end.
-/
def removeLoop (test : α → Bool) : ℕ → ℕ → List α → List α
  | 0, _, xs => xs
  | iterations + 1, index, xs =>
      match xs[index]? with
      | none => xs
      | some x =>
          if test x then removeLoop test iterations index (swapRemove xs index)
          else removeLoop test iterations (index + 1) xs

def removeWhere (test : α → Bool) (xs : List α) : List α :=
  removeLoop test xs.length 0 xs

/-- Everything before `index` has been examined and kept. -/
theorem removeLoop_perm_filter (test : α → Bool) {iterations index : ℕ} {xs : List α}
    (budget : index + iterations = xs.length)
    (examined : ∀ x ∈ xs.take index, test x = false) :
    (removeLoop test iterations index xs).Perm (xs.filter fun x => !test x) := by
  induction iterations generalizing index xs with
  | zero =>
      have all : xs.take index = xs := List.take_of_length_le (by omega)
      rw [all] at examined
      have kept : xs.filter (fun x => !test x) = xs := by
        rw [List.filter_eq_self]
        intro x x_mem
        simp [examined x x_mem]
      rw [removeLoop, kept]
  | succ iterations ih =>
      have inside : index < xs.length := by omega
      simp only [removeLoop, List.getElem?_eq_getElem inside]
      split
      · next hit =>
          have shorter := length_swapRemove inside
          refine (ih (by omega) (by rwa [take_swapRemove inside])).trans ?_
          have split := (perm_cons_swapRemove inside).filter fun x => !test x
          rw [List.filter_cons_of_neg (by simp [hit])] at split
          exact split.symm
      · next miss =>
          apply ih (by omega)
          intro x x_mem
          rw [List.take_succ_eq_append_getElem inside, List.mem_append] at x_mem
          rcases x_mem with before | here
          · exact examined x before
          · simp only [List.mem_singleton] at here
            simpa [here] using miss

/-- The loop computes the filter, up to the order of the survivors. -/
theorem removeWhere_perm_filter (test : α → Bool) (xs : List α) :
    (removeWhere test xs).Perm (xs.filter fun x => !test x) :=
  removeLoop_perm_filter test (by simp) (by simp)

theorem mem_removeWhere {test : α → Bool} {xs : List α} {x : α} :
    x ∈ removeWhere test xs ↔ x ∈ xs ∧ test x = false := by
  rw [(removeWhere_perm_filter test xs).mem_iff]
  simp

theorem removeWhere_subperm (test : α → Bool) (xs : List α) :
    (removeWhere test xs).Subperm xs :=
  (removeWhere_perm_filter test xs).subperm.trans List.filter_sublist.subperm

theorem length_removeWhere_le (test : α → Bool) (xs : List α) :
    (removeWhere test xs).length ≤ xs.length :=
  (removeWhere_subperm test xs).length_le

theorem removeWhere_eq_self {test : α → Bool} {xs : List α}
    (passes : ∀ x ∈ xs, test x = false) : removeWhere test xs = xs := by
  have unchanged : ∀ iterations index, removeLoop test iterations index xs = xs := by
    intro iterations
    induction iterations with
    | zero => intro index; rfl
    | succ iterations ih =>
        intro index
        rw [removeLoop]
        cases found : xs[index]? with
        | none => rfl
        | some x => simp [passes x (List.mem_of_getElem? found), ih]
  exact unchanged xs.length 0

/-- The slots the loop looks at: the one it examines and, for a hit, the last one in use. -/
def removeAccesses (test : α → Bool) : ℕ → ℕ → List α → List ℕ
  | 0, _, _ => []
  | iterations + 1, index, xs =>
      match xs[index]? with
      | none => []
      | some x =>
          if test x then
            index :: (xs.length - 1) :: removeAccesses test iterations index (swapRemove xs index)
          else index :: removeAccesses test iterations (index + 1) xs

theorem lt_of_mem_removeAccesses {test : α → Bool} {iterations index slot : ℕ} {xs : List α}
    (slot_mem : slot ∈ removeAccesses test iterations index xs) : slot < xs.length := by
  induction iterations generalizing index xs with
  | zero => simp [removeAccesses] at slot_mem
  | succ iterations ih =>
      rw [removeAccesses] at slot_mem
      split at slot_mem
      · simp at slot_mem
      · next x found =>
          rcases List.getElem?_eq_some_iff.mp found with ⟨inside, -⟩
          split at slot_mem
          · rw [List.mem_cons, List.mem_cons] at slot_mem
            rcases slot_mem with rfl | rfl | later
            · exact inside
            · omega
            · have shorter := length_swapRemove inside
              have slot_lt := ih later
              omega
          · rw [List.mem_cons] at slot_mem
            rcases slot_mem with rfl | later
            · exact inside
            · exact ih later

example : removeWhere (· % 2 == 0) [2, 1, 4, 3, 6] = [3, 1] := by decide

end NodeinfoSystem.Foundation
