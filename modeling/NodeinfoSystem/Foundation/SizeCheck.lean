import Mathlib.Data.Int.Notation
import Mathlib.Tactic.Common
import Mathlib.Tactic.Ring

/-!
# Size checks in wrapping arithmetic

A received record with a trailing array is checked by computing the size its
element count asks for in an unsigned type of `width` bits and comparing it with
the number of bytes received. A negative count is converted modulo
`2 ^ width`, and the multiplication and the addition wrap as well, so what the
comparison decides is whether the exact integer size lies between zero and the
received length, as long as that size is within one modulus of zero.
-/

namespace NodeinfoSystem.Foundation

/-- The conversion of a signed value to an unsigned type of `width` bits. -/
def toUnsigned (width : ℕ) (value : ℤ) : ℕ :=
  (value % 2 ^ width).toNat

/-- `header + element * (size_t)count`, computed in `width` bits. -/
def expectedSize (width header element : ℕ) (count : ℤ) : ℕ :=
  (header + element * toUnsigned width count) % 2 ^ width

theorem natCast_expectedSize (width header element : ℕ) (count : ℤ) :
    (expectedSize width header element count : ℤ) = (header + element * count) % 2 ^ width := by
  have modulus_pos : (0 : ℤ) < 2 ^ width := Int.pow_pos (by decide)
  have converted : (toUnsigned width count : ℤ) = count % 2 ^ width :=
    Int.toNat_of_nonneg (Int.emod_nonneg _ (Int.ne_of_gt modulus_pos))
  rw [expectedSize, Int.natCast_emod]
  push_cast
  rw [converted, Int.add_emod, Int.mul_emod, Int.emod_emod_of_dvd _ (Int.dvd_refl _),
    ← Int.mul_emod, ← Int.add_emod]

/-- The wrapped comparison is the exact one for sizes within one modulus of zero. -/
theorem expectedSize_le_iff {width header element received : ℕ} {count : ℤ}
    (lower : (received : ℤ) - 2 ^ width < header + element * count)
    (upper : (header : ℤ) + element * count < 2 ^ width) :
    expectedSize width header element count ≤ received ↔
      0 ≤ (header : ℤ) + element * count ∧ (header : ℤ) + element * count ≤ received := by
  rw [← Int.ofNat_le, natCast_expectedSize]
  rcases Int.lt_or_le ((header : ℤ) + element * count) 0 with negative | nonneg
  · have wrapped : ((header : ℤ) + element * count) % 2 ^ width =
        header + element * count + 2 ^ width := by
      rw [← Int.add_emod_right, Int.emod_eq_of_lt] <;> omega
    rw [wrapped]
    constructor <;> intro _ <;> omega
  · rw [Int.emod_eq_of_lt nonneg upper]
    simp [nonneg]

/-- The wrapped comparison accepts the sizes that lie just above a multiple of the modulus. -/
theorem expectedSize_le_iff_exists {width header element received : ℕ} {count : ℤ}
    (small : (received : ℤ) < 2 ^ width) :
    expectedSize width header element count ≤ received ↔
      ∃ wraps : ℤ, 2 ^ width * wraps ≤ header + element * count ∧
        header + element * count ≤ 2 ^ width * wraps + received := by
  rw [← Int.ofNat_le, natCast_expectedSize]
  have modulus_pos : (0 : ℤ) < 2 ^ width := Int.pow_pos (by decide)
  generalize (2 : ℤ) ^ width = modulus at small modulus_pos
  generalize (header : ℤ) + element * count = size
  have nonneg := Int.emod_nonneg size (Int.ne_of_gt modulus_pos)
  have split := Int.mul_ediv_add_emod size modulus
  constructor
  · intro accepted
    exact ⟨size / modulus, by omega, by omega⟩
  · rintro ⟨wraps, lower, upper⟩
    have reduced : size % modulus = size - modulus * wraps := by
      rw [← Int.sub_mul_emod_self_left size modulus wraps, Int.emod_eq_of_lt] <;> omega
    omega

end NodeinfoSystem.Foundation
