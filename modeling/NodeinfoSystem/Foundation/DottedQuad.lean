import NodeinfoSystem.Foundation.Decimal
import Mathlib.Data.Nat.Notation

/-!
# Dotted quads

Four numbers below 256 as a text: each in decimal, with dots between them. The reader
goes over a text once, with the number it is in and the numbers before it. The two
readers in use differ in whether they take leading zeros; the one that does not takes
exactly what is printed.
-/

namespace NodeinfoSystem.Foundation.DottedQuad

/-- The numbers read so far, and the one that the reader is in. -/
structure Scan where
  fields : List ℕ
  value : ℕ
  sawDigit : Bool

namespace Scan

def start : Scan := ⟨[], 0, false⟩

/-- How many numbers have begun. -/
def octets (scan : Scan) : ℕ :=
  scan.fields.length + if scan.sawDigit then 1 else 0

def digit (leadingZeros : Bool) (scan : Scan) (char : Char) : Option Scan :=
  let value := 10 * scan.value + (char.toNat - '0'.toNat)
  if !leadingZeros && scan.sawDigit && scan.value == 0 then none
  else if 255 < value then none
  else if !scan.sawDigit && scan.octets == 4 then none
  else some ⟨scan.fields, value, true⟩

def dot (scan : Scan) : Option Scan :=
  if scan.sawDigit && scan.octets != 4 then some ⟨scan.fields ++ [scan.value], 0, false⟩ else none

def next (leadingZeros : Bool) (scan : Scan) (char : Char) : Option Scan :=
  if char.isDigit then scan.digit leadingZeros char
  else if char = '.' then scan.dot
  else none

end Scan

def read (leadingZeros : Bool) (text : List Char) : Option (List ℕ) :=
  match text.foldlM (Scan.next leadingZeros) Scan.start with
  | none => none
  | some scan => if scan.octets < 4 then none else some (scan.fields ++ [scan.value])

/-- Numbers that are followed by a dot each. -/
def closed (fields : List ℕ) : List Char :=
  fields.flatMap fun field => Nat.toDigits 10 field ++ ['.']

/-- The text of some numbers and of the one after them. -/
def print (fields : List ℕ) (last : ℕ) : List Char :=
  closed fields ++ Nat.toDigits 10 last

theorem closed_concat (fields : List ℕ) (field : ℕ) :
    closed (fields ++ [field]) = print fields field ++ ['.'] := by
  simp [closed, print]

/-! ## What the reader takes -/

/-- Where the reader is after a text. -/
structure Reads (text : List Char) (scan : Scan) : Prop where
  text_eq : text = if scan.sawDigit then print scan.fields scan.value else closed scan.fields
  value_eq : scan.sawDigit = false → scan.value = 0
  small : ∀ field ∈ scan.fields, field ≤ 255
  value_le : scan.value ≤ 255
  octets_le : scan.octets ≤ 4
  fields_lt : scan.fields.length < 4

theorem reads_start : Reads [] Scan.start :=
  ⟨rfl, fun _ => rfl, by simp [Scan.start], by simp [Scan.start],
    by simp [Scan.start, Scan.octets], by simp [Scan.start]⟩

namespace Reads

variable {text : List Char} {scan next : Scan} {char : Char}

theorem digit (reads : Reads text scan) (isDigit : char.isDigit = true)
    (stepped : scan.digit false char = some next) : Reads (text ++ [char]) next := by
  rcases toNat_of_isDigit isDigit with ⟨-, below⟩
  have char_eq := digitChar_toNat_sub isDigit
  have fields_lt := reads.fields_lt
  simp only [Scan.digit, Bool.not_false, Bool.true_and] at stepped
  split at stepped
  · contradiction
  · next notZero =>
      split at stepped
      · contradiction
      · next small =>
          split at stepped
          · contradiction
          · simp only [Option.some.injEq] at stepped
            subst next
            refine ⟨?_, by simp, reads.small, Nat.not_lt.mp small, ?_, fields_lt⟩
            · have text_eq := reads.text_eq
              cases saw : scan.sawDigit with
              | true =>
                  simp only [saw, Bool.true_and, beq_iff_eq] at notZero
                  have grown := Nat.toDigits_append_toDigits (by decide : 1 < 10)
                    (Nat.pos_of_ne_zero notZero) below
                  rw [Nat.toDigits_of_lt_base below, char_eq] at grown
                  simp only [saw, if_true] at text_eq
                  simp only [text_eq, print, if_true, List.append_assoc, grown]
              | false =>
                  simp only [saw, Bool.false_eq_true, if_false] at text_eq
                  simp only [text_eq, print, if_true, reads.value_eq saw, Nat.mul_zero,
                    Nat.zero_add, Nat.toDigits_of_lt_base below, char_eq]
            · simp only [Scan.octets, if_true]
              omega

theorem dot (reads : Reads text scan) (stepped : scan.dot = some next) :
    Reads (text ++ ['.']) next := by
  have octets_le := reads.octets_le
  simp only [Scan.dot] at stepped
  split at stepped
  · next more =>
      simp only [Bool.and_eq_true, bne_iff_ne, ne_eq] at more
      rcases more with ⟨saw, notFour⟩
      simp only [Option.some.injEq] at stepped
      subst next
      have text_eq := reads.text_eq
      simp only [saw, if_true] at text_eq
      simp only [Scan.octets, saw, if_true] at octets_le notFour
      refine ⟨?_, fun _ => rfl, ?_, by simp, ?_, ?_⟩
      · simp only [Bool.false_eq_true, if_false, closed_concat, text_eq]
      · intro field field_mem
        rcases List.mem_append.mp field_mem with before | last
        · exact reads.small field before
        · exact List.mem_singleton.mp last ▸ reads.value_le
      · simp only [Scan.octets, List.length_append, List.length_singleton, Bool.false_eq_true,
          if_false]
        omega
      · simp only [List.length_append, List.length_singleton]
        omega
  · contradiction

end Reads

theorem reads_of_foldlM {text : List Char} {scan : Scan}
    (scanned : text.foldlM (Scan.next false) Scan.start = some scan) : Reads text scan := by
  induction text using List.reverseRecOn generalizing scan with
  | nil =>
      simp only [List.foldlM_nil, Option.pure_def, Option.some.injEq] at scanned
      exact scanned ▸ reads_start
  | append_singleton text char ih =>
      simp only [List.foldlM_append, List.foldlM_cons, List.foldlM_nil, Option.bind_eq_bind,
        Option.pure_def, Option.bind_fun_some, Option.bind_eq_some_iff] at scanned
      rcases scanned with ⟨before, scanned, stepped⟩
      simp only [Scan.next] at stepped
      split at stepped
      · next isDigit => exact (ih scanned).digit isDigit stepped
      · split at stepped
        · next isDot =>
            subst char
            exact (ih scanned).dot stepped
        · contradiction

theorem isDigit_or_dot_of_foldlM {leadingZeros : Bool} {text : List Char} {scan final : Scan}
    (scanned : text.foldlM (Scan.next leadingZeros) scan = some final) :
    ∀ char ∈ text, char.isDigit = true ∨ char = '.' := by
  induction text generalizing scan with
  | nil => simp
  | cons char text ih =>
      rw [List.foldlM_cons] at scanned
      rcases Option.bind_eq_some_iff.mp scanned with ⟨next, stepped, rest⟩
      intro other other_mem
      rcases List.mem_cons.mp other_mem with rfl | later
      · simp only [Scan.next] at stepped
        split at stepped
        · next isDigit => exact Or.inl isDigit
        · split at stepped
          · next isDot => exact Or.inr isDot
          · contradiction
      · exact ih rest other later

/-- A text that is read has no other characters than digits and dots. -/
theorem isDigit_or_dot_of_read {leadingZeros : Bool} {text : List Char} {fields : List ℕ}
    (accepted : read leadingZeros text = some fields) :
    ∀ char ∈ text, char.isDigit = true ∨ char = '.' := by
  simp only [read] at accepted
  split at accepted
  · contradiction
  · next scan scanned => exact isDigit_or_dot_of_foldlM scanned

/-! ## What is printed -/

theorem digit_of_isDigit {leadingZeros : Bool} {fields : List ℕ} {value : ℕ} {char : Char}
    {sawDigit : Bool} (nonzero : sawDigit = true → value ≠ 0)
    (small : 10 * value + (char.toNat - '0'.toNat) ≤ 255)
    (room : fields.length < 4) :
    Scan.digit leadingZeros ⟨fields, value, sawDigit⟩ char =
      some ⟨fields, 10 * value + (char.toNat - '0'.toNat), true⟩ := by
  cases sawDigit with
  | true => simpa [Scan.digit, nonzero rfl] using small
  | false => simpa [Scan.digit, Scan.octets, room.ne] using small

theorem digitChar_digit {value : ℕ} (small : value < 10) :
    value.digitChar.isDigit = true ∧ value.digitChar.toNat - '0'.toNat = value := by
  have numeral : value.digitChar ∈ Nat.toDigits 10 value := by
    simp [Nat.toDigits_of_lt_base small]
  refine ⟨Nat.isDigit_of_mem_toDigits (by decide) (by decide) numeral, ?_⟩
  rw [Nat.toNat_digitChar_of_lt_ten small]
  change 48 + value - 48 = value
  omega

/-- Reading a number that has just begun. -/
theorem foldlM_toDigits (leadingZeros : Bool) {fields : List ℕ} (room : fields.length < 4)
    (value : ℕ) (small : value ≤ 255) :
    (Nat.toDigits 10 value).foldlM (Scan.next leadingZeros) ⟨fields, 0, false⟩ =
      some ⟨fields, value, true⟩ := by
  induction value using Nat.strongRecOn with
  | ind value ih =>
      by_cases single : value < 10
      · rcases digitChar_digit single with ⟨isDigit, digit_eq⟩
        rw [Nat.toDigits_of_lt_base single, List.foldlM_cons, Scan.next, if_pos isDigit,
          digit_of_isDigit (by simp) (by omega) room, digit_eq]
        simp
      · have front : value / 10 < value := by omega
        have last : value % 10 < 10 := by omega
        rcases digitChar_digit last with ⟨isDigit, digit_eq⟩
        rw [Nat.toDigits_of_base_le (by decide) (by omega), List.foldlM_append,
          ih _ front (by omega)]
        simp only [Option.bind_eq_bind, Option.bind_some, List.foldlM_cons, Scan.next,
          if_pos isDigit]
        rw [digit_of_isDigit (by omega) (by omega) room, digit_eq]
        simp only [Option.bind_some, List.foldlM_nil, Option.pure_def, Option.some.injEq,
          Scan.mk.injEq, true_and, and_true]
        omega

theorem foldlM_closed (leadingZeros : Bool) {fields : List ℕ} (few : fields.length < 4)
    (small : ∀ field ∈ fields, field ≤ 255) :
    (closed fields).foldlM (Scan.next leadingZeros) Scan.start = some ⟨fields, 0, false⟩ := by
  induction fields using List.reverseRecOn with
  | nil => rfl
  | append_singleton fields field ih =>
      simp only [List.length_append, List.length_singleton] at few
      have before := ih (by omega) fun other other_mem => small other (by simp [other_mem])
      have inside := foldlM_toDigits leadingZeros (by omega : fields.length < 4) field
        (small field (by simp))
      have notDigit : ('.' : Char).isDigit = false := by decide
      have notLast : fields.length + 1 ≠ 4 := by omega
      rw [closed_concat, print, List.foldlM_append, List.foldlM_append, before]
      simp [inside, Scan.next, Scan.dot, Scan.octets, notDigit, notLast]

/-- The reader without leading zeros takes four small numbers as they are printed. -/
theorem read_false_eq_some {text : List Char} {fields : List ℕ} {last : ℕ} :
    read false text = some (fields ++ [last]) ↔
      fields.length = 3 ∧ (∀ field ∈ fields ++ [last], field ≤ 255) ∧ text = print fields last := by
  constructor
  · intro accepted
    simp only [read] at accepted
    split at accepted
    · contradiction
    · next scan scanned =>
        split at accepted
        · contradiction
        · next four =>
            have reads := reads_of_foldlM scanned
            have fields_lt := reads.fields_lt
            have octets_le := reads.octets_le
            rcases List.append_inj' (Option.some.inj accepted) rfl with ⟨rfl, last_eq⟩
            obtain rfl : scan.value = last := by simpa using last_eq
            have text_eq := reads.text_eq
            cases saw : scan.sawDigit with
            | false =>
                simp only [Scan.octets, saw, Bool.false_eq_true, if_false] at four
                omega
            | true =>
                simp only [Scan.octets, saw, if_true] at four octets_le
                simp only [saw, if_true] at text_eq
                refine ⟨by omega, ?_, text_eq⟩
                intro field field_mem
                rcases List.mem_append.mp field_mem with before | last
                · exact reads.small field before
                · exact List.mem_singleton.mp last ▸ reads.value_le
  · rintro ⟨three, small, rfl⟩
    have before := foldlM_closed false (by omega : fields.length < 4)
      fun field field_mem => small field (by simp [field_mem])
    have inside := foldlM_toDigits false (by omega : fields.length < 4) last (small last (by simp))
    simp [read, print, List.foldlM_append, before, inside, Scan.octets, three]

end NodeinfoSystem.Foundation.DottedQuad
