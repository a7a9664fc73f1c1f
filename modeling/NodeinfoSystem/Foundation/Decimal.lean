import Mathlib.Data.List.Induction
import Mathlib.Data.List.TakeWhile
import Mathlib.Tactic.Common

/-!
# Decimal numerals

Numerals as lists of characters: `Nat.toDigits 10` prints a number and
`Nat.ofDigitChars 10` computes the value of a string of digits, from the most
significant digit on and from a value accumulated so far. Printing is injective,
and a numeral without leading zeros is what printing its value gives.
-/

namespace NodeinfoSystem.Foundation

theorem toDigits_injective : Function.Injective (Nat.toDigits 10) := by
  intro first second equal
  have values := congrArg (fun digits => Nat.ofDigitChars 10 digits 0) equal
  simpa only [Nat.ofDigitChars_ten_toDigits] using values

theorem not_mem_toDigits {char : Char} (notDigit : char.isDigit = false) (value : ℕ) :
    char ∉ Nat.toDigits 10 value := by
  intro char_mem
  have digit := Nat.isDigit_of_mem_toDigits (by decide) (by decide) char_mem
  rw [notDigit] at digit
  contradiction

theorem takeWhile_isDigit_toDigits (value : ℕ) :
    (Nat.toDigits 10 value).takeWhile Char.isDigit = Nat.toDigits 10 value := by
  apply List.takeWhile_eq_self_iff.mpr
  intro char char_mem
  exact Nat.isDigit_of_mem_toDigits (by decide) (by decide) char_mem

/-- What has been accumulated never gets smaller. -/
theorem le_ofDigitChars (digits : List Char) (init : ℕ) :
    init ≤ Nat.ofDigitChars 10 digits init := by
  induction digits generalizing init with
  | nil => simp
  | cons digit digits ih =>
      rw [Nat.ofDigitChars_cons]
      have later := ih (10 * init + (digit.toNat - '0'.toNat))
      omega

/-! ## Numerals without leading zeros -/

/-- A decimal numeral; the only one that starts with a zero is that of zero. -/
structure IsNumeral (digits : List Char) : Prop where
  ne_nil : digits ≠ []
  isDigit : ∀ char ∈ digits, char.isDigit = true
  canonical : digits.head? = some '0' → digits = ['0']

theorem toNat_of_isDigit {char : Char} (digit : char.isDigit = true) :
    '0'.toNat ≤ char.toNat ∧ char.toNat - '0'.toNat < 10 := by
  simp only [Char.isDigit, Bool.and_eq_true, decide_eq_true_eq] at digit
  rcases digit with ⟨lower, upper⟩
  have upper_nat : char.toNat ≤ 57 := upper
  refine ⟨lower, ?_⟩
  change char.toNat - 48 < 10
  omega

theorem digitChar_toNat_sub {char : Char} (digit : char.isDigit = true) :
    (char.toNat - '0'.toNat).digitChar = char := by
  rcases toNat_of_isDigit digit with ⟨lower, small⟩
  apply Char.toNat_inj.mp
  rw [Nat.toNat_digitChar_of_lt_ten small]
  change 48 ≤ char.toNat at lower
  change 48 + (char.toNat - 48) = char.toNat
  omega

theorem toDigits_ofDigitChars {digits : List Char} (numeral : IsNumeral digits) :
    Nat.toDigits 10 (Nat.ofDigitChars 10 digits 0) = digits := by
  induction digits using List.reverseRecOn with
  | nil => exact absurd rfl numeral.ne_nil
  | append_singleton front digit ih =>
      have digit_isDigit := numeral.isDigit digit (by simp)
      rcases toNat_of_isDigit digit_isDigit with ⟨-, small⟩
      have digit_eq := digitChar_toNat_sub digit_isDigit
      rw [Nat.ofDigitChars_append, Nat.ofDigitChars_cons, Nat.ofDigitChars_nil]
      by_cases single : front = []
      · subst single
        rw [Nat.ofDigitChars_nil, Nat.mul_zero, Nat.zero_add, Nat.toDigits_of_lt_base small,
          digit_eq, List.nil_append]
      · have numeral_front : IsNumeral front := by
          refine ⟨single, ?_, ?_⟩
          · intro char char_mem
            exact numeral.isDigit char (by simp [char_mem])
          · intro zero_head
            have whole := numeral.canonical (by rw [List.head?_append, zero_head]; rfl)
            have lengths := congrArg List.length whole
            have positive := List.length_pos_iff.mpr single
            simp only [List.length_append, List.length_cons, List.length_nil] at lengths
            omega
        have printed := ih numeral_front
        have positive : 0 < Nat.ofDigitChars 10 front 0 := by
          rw [Nat.pos_iff_ne_zero]
          intro zero
          rw [zero, Nat.toDigits_zero] at printed
          have whole := numeral.canonical (by rw [← printed]; rfl)
          rw [← printed] at whole
          simp at whole
        rw [← Nat.toDigits_append_toDigits (by decide) positive small, printed,
          Nat.toDigits_of_lt_base small, digit_eq]

end NodeinfoSystem.Foundation
