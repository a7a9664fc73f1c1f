import NodeinfoSystem.Files.Determined

/-!
# User ids and user names

On Android the user with the id 123 has the name `u0_a123`. A node reads its id
from its user's name with `extract_numeric_userid`, and the lists that are printed
show the names that `format_username_from_userid` makes of the ids again.

A string is the list of its characters, up to the zero byte that ends it. The
value of the digits is accumulated in a `long` whose width depends on the build,
and narrowed to `int` at the end. An overflow of the `long` is undefined in C, so
that the call has no result there.
-/

namespace NodeinfoSystem.Collector

open Files Foundation

/-- The type `long` of a build. -/
structure LongType where
  bits : ℕ
  wide : 32 ≤ bits

namespace LongType

/-- A value computed in `long`; `none` when it overflows. -/
def checked (long : LongType) (value : ℤ) : Option ℤ :=
  if -2 ^ (long.bits - 1) ≤ value ∧ value < 2 ^ (long.bits - 1) then some value else none

theorem checked_natCast (long : LongType) (value : ℕ) :
    long.checked value = if value < 2 ^ (long.bits - 1) then some (value : ℤ) else none := by
  have lower : -2 ^ (long.bits - 1) ≤ (value : ℤ) := by
    have power : (0 : ℤ) ≤ 2 ^ (long.bits - 1) := Int.pow_nonneg (by decide)
    omega
  have upper : (value : ℤ) < 2 ^ (long.bits - 1) ↔ value < 2 ^ (long.bits - 1) := by
    exact_mod_cast Iff.rfl
  simp only [checked, lower, upper, true_and]

theorem le_max (long : LongType) : 2 ^ 31 ≤ 2 ^ (long.bits - 1) := by
  have wide := long.wide
  exact Nat.pow_le_pow_right (by decide) (by omega)

end LongType

/-- The `long` of the 64-bit builds. -/
def long64 : LongType where
  bits := 64
  wide := by decide

/-! ## The functions -/

/-- What `snprintf` leaves in a buffer: the text, cut off before the last byte. -/
def snprintf (buflen : ℕ) (text : Text) : Text :=
  text.take (buflen - 1)

/-- The prefix of the user names on Android. -/
def userPrefix : Text := "u0_a".toList

/-- `format_username_from_userid` for a buffer that is not null. -/
def formatUsernameFromUserid (userid : Int32) (buflen : ℕ) : Text :=
  if buflen = 0 then []
  else if userid.toInt < 0 then snprintf buflen "NotAndroid".toList
  else snprintf buflen (userPrefix ++ formatInt userid)

/-- The loop over the digits, with the local variables `v` and `have`. -/
def accumulateDigits (long : LongType) : Text → ℤ → Bool → Option (ℤ × Bool)
  | [], v, have_ => some (v, have_)
  | char :: rest, v, have_ =>
      if char.isDigit then
        match long.checked (v * 10) with
        | none => none
        | some tenfold =>
            match long.checked (tenfold + ((char.toNat : ℤ) - '0'.toNat)) with
            | none => none
            | some next => accumulateDigits long rest next true
      else some (v, have_)

/-- Where `p` points when the digits are read. -/
def digitsStart (name : Text) : Text :=
  if userPrefix.isPrefixOf name then name.drop userPrefix.length
  else name.dropWhile fun char => !char.isDigit

/-- `extract_numeric_userid`. -/
def extractNumericUserid (long : LongType) (name : Option Text) : Option Int32 :=
  match name with
  | none => some (-1)
  | some name =>
      match accumulateDigits long (digitsStart name) 0 false with
      | none => none
      | some (v, have_) => if have_ then some (Int32.ofInt v) else some (-1)

/-- The copy of the function in `member_node_procedure.c`. -/
def Member.extractNumericUserid : LongType → Option Text → Option Int32 :=
  Collector.extractNumericUserid

/-! ## What the parser computes -/

/-- The digits that the parser reads. -/
def digitRun (name : Text) : Text :=
  (digitsStart name).takeWhile Char.isDigit

/-- The number that the digits of a name stand for. -/
def numberIn (name : Text) : ℕ :=
  Nat.ofDigitChars 10 (digitRun name) 0

theorem accumulateDigits_cons (long : LongType) {char : Char} (digit : char.isDigit = true)
    (rest : Text) (v : ℕ) (have_ : Bool) :
    accumulateDigits long (char :: rest) v have_ =
      if 10 * v + (char.toNat - '0'.toNat) < 2 ^ (long.bits - 1) then
        accumulateDigits long rest (10 * v + (char.toNat - '0'.toNat) : ℕ) true
      else none := by
  have lower := (toNat_of_isDigit digit).1
  have tenfold_eq : (v : ℤ) * 10 = (10 * v : ℕ) := by omega
  have next_eq : ((10 * v : ℕ) : ℤ) + ((char.toNat : ℤ) - '0'.toNat) =
      (10 * v + (char.toNat - '0'.toNat) : ℕ) := by
    omega
  rw [accumulateDigits, if_pos digit, tenfold_eq, long.checked_natCast]
  by_cases fits : 10 * v + (char.toNat - '0'.toNat) < 2 ^ (long.bits - 1)
  · have tenfold_fits : 10 * v < 2 ^ (long.bits - 1) := by omega
    simp only [if_pos tenfold_fits, next_eq, long.checked_natCast, if_pos fits]
  · rw [if_neg fits]
    split
    · rfl
    · next tenfold computed =>
        split at computed
        · rw [Option.some.injEq] at computed
          simp only [← computed, next_eq, long.checked_natCast, if_neg fits]
        · contradiction

/-- By induction on the text: the digits at its front are accumulated, unless that overflows. -/
theorem accumulateDigits_eq (long : LongType) (text : Text) (v : ℕ) (have_ : Bool)
    (fits : v < 2 ^ (long.bits - 1)) :
    accumulateDigits long text v have_ =
      if Nat.ofDigitChars 10 (text.takeWhile Char.isDigit) v < 2 ^ (long.bits - 1) then
        some (((Nat.ofDigitChars 10 (text.takeWhile Char.isDigit) v : ℕ) : ℤ),
          have_ || !(text.takeWhile Char.isDigit).isEmpty)
      else none := by
  induction text generalizing v have_ with
  | nil => simp [accumulateDigits, fits]
  | cons char rest ih =>
      by_cases digit : char.isDigit = true
      · rw [accumulateDigits_cons long digit, List.takeWhile_cons_of_pos digit,
          Nat.ofDigitChars_cons]
        split
        · next next_fits =>
            rw [ih _ true next_fits]
            simp
        · next overflows =>
            have grows := le_ofDigitChars (rest.takeWhile Char.isDigit)
              (10 * v + (char.toNat - '0'.toNat))
            rw [if_neg (by omega)]
      · rw [accumulateDigits, if_neg digit, List.takeWhile_cons_of_neg digit]
        simp [fits]

theorem extractNumericUserid_eq (long : LongType) (name : Text) :
    extractNumericUserid long (some name) =
      if digitRun name = [] then some (-1)
      else if numberIn name < 2 ^ (long.bits - 1) then some (Int32.ofInt (numberIn name))
      else none := by
  have positive : 0 < 2 ^ (long.bits - 1) := Nat.pow_pos (by decide)
  have accumulated : accumulateDigits long (digitsStart name) 0 false =
      if numberIn name < 2 ^ (long.bits - 1) then
        some ((numberIn name : ℤ), !(digitRun name).isEmpty)
      else none :=
    accumulateDigits_eq long (digitsStart name) 0 false positive
  rw [extractNumericUserid, accumulated]
  by_cases noDigits : digitRun name = []
  · have zero : numberIn name = 0 := by rw [numberIn, noDigits, Nat.ofDigitChars_nil]
    simp [noDigits, zero, positive]
  · have some_ : (digitRun name).isEmpty = false := by simpa using noDigits
    rw [if_neg noDigits, some_]
    by_cases fits : numberIn name < 2 ^ (long.bits - 1)
    · simp [fits]
    · simp [fits]

/-! ## Names and ids -/

theorem digitRun_userPrefix_append (rest : Text) :
    digitRun (userPrefix ++ rest) = rest.takeWhile Char.isDigit := by
  have starts : userPrefix.isPrefixOf (userPrefix ++ rest) = true := by simp
  rw [digitRun, digitsStart, if_pos starts, List.drop_left]

theorem numberIn_userPrefix_toDigits (value : ℕ) :
    numberIn (userPrefix ++ Nat.toDigits 10 value) = value := by
  rw [numberIn, digitRun_userPrefix_append, takeWhile_isDigit_toDigits,
    Nat.ofDigitChars_ten_toDigits]

/-- The name that an id stands for, without a limit on its length. -/
def username (userid : Int32) : Text :=
  if userid.toInt < 0 then "NotAndroid".toList
  else userPrefix ++ Nat.toDigits 10 userid.toInt.toNat

theorem length_username_lt (userid : Int32) : (username userid).length < 32 := by
  rw [username]
  split
  · decide
  · have upper := Int32.toInt_lt userid
    have few : (Nat.toDigits 10 userid.toInt.toNat).length ≤ 10 := by
      rw [Nat.length_toDigits_le_iff (by decide) (by decide)]
      omega
    have prefix_length : userPrefix.length = 4 := rfl
    rw [List.length_append]
    omega

/-- `char uname[32]` is long enough for every name. -/
theorem formatUsernameFromUserid_eq (userid : Int32) :
    formatUsernameFromUserid userid 32 = username userid := by
  have short := length_username_lt userid
  rw [formatUsernameFromUserid, if_neg (by decide)]
  rw [username] at short ⊢
  split
  · rfl
  · next nonneg =>
      rw [if_neg nonneg] at short
      rw [snprintf, formatInt_of_nonneg nonneg, List.take_of_length_le (by omega)]

theorem extractNumericUserid_username (long : LongType) (userid : Int32) :
    extractNumericUserid long (some (username userid)) =
      some (if userid.toInt < 0 then -1 else userid) := by
  have upper := Int32.toInt_lt userid
  have max := long.le_max
  rw [extractNumericUserid_eq, username]
  split
  · rfl
  · next nonneg =>
      rw [digitRun_userPrefix_append, numberIn_userPrefix_toDigits, takeWhile_isDigit_toDigits,
        if_neg Nat.toDigits_ne_nil, if_pos (by omega), Int.toNat_of_nonneg (by omega),
        Int32.ofInt_toInt]

/-- A numeral that fits a non-negative `int` is a valid user id. -/
theorem username_of_numeral {numeral : Text} (isNumeral : IsNumeral numeral)
    (fits : Nat.ofDigitChars 10 numeral 0 < 2 ^ 31) :
    username (Int32.ofInt (Nat.ofDigitChars 10 numeral 0)) = userPrefix ++ numeral := by
  have value_eq : (Int32.ofInt (Nat.ofDigitChars 10 numeral 0)).toInt =
      Nat.ofDigitChars 10 numeral 0 :=
    toInt_ofInt_of_fitsInt ⟨by omega, by omega⟩
  rw [username, value_eq, if_neg (by omega), Int.toNat_natCast, toDigits_ofDigitChars isNumeral]

/--
Names and ids are turned into each other without loss, on every build: an id by its name,
which always fits the buffer, and a name with a canonical number by its id.
-/
theorem usernames_roundTrip (long : LongType) :
    (∀ userid, formatUsernameFromUserid userid 32 = username userid ∧
      extractNumericUserid long (some (formatUsernameFromUserid userid 32)) =
        some (if userid.toInt < 0 then -1 else userid)) ∧
    ∀ numeral, IsNumeral numeral → Nat.ofDigitChars 10 numeral 0 < 2 ^ 31 →
      ∃ userid, extractNumericUserid long (some (userPrefix ++ numeral)) = some userid ∧
        formatUsernameFromUserid userid 32 = userPrefix ++ numeral := by
  refine ⟨?_, ?_⟩
  · intro userid
    refine ⟨formatUsernameFromUserid_eq userid, ?_⟩
    rw [formatUsernameFromUserid_eq]
    exact extractNumericUserid_username long userid
  · intro numeral isNumeral fits
    have named := username_of_numeral isNumeral fits
    have extracted := extractNumericUserid_username long
      (Int32.ofInt (Nat.ofDigitChars 10 numeral 0))
    rw [named] at extracted
    refine ⟨_, extracted, ?_⟩
    have nonneg : ¬(Int32.ofInt (Nat.ofDigitChars 10 numeral 0)).toInt < 0 := by
      rw [toInt_ofInt_of_fitsInt ⟨by omega, by omega⟩]
      omega
    rw [if_neg nonneg, formatUsernameFromUserid_eq, named]

/-! ## Numbers that do not fit -/

/-- A call may return this id: nothing is known about it if the `long` overflows. -/
def MayReturn (extract : Option Text → Option Int32) (name : Text) (userid : Int32) : Prop :=
  ∀ defined, extract (some name) = some defined → defined = userid

/-- No call for the name returns the id of another user. -/
def NeverWrong (extract : Option Text → Option Int32) (name : Text) : Prop :=
  ∀ userid, MayReturn extract name userid →
    (digitRun name = [] → userid.toInt < 0) ∧
      (0 ≤ userid.toInt → userid.toInt = numberIn name)

/-- The numbers that survive the narrowing to `int`, or end up below zero in it. -/
def NarrowsWell (number : ℕ) : Prop :=
  number < 2 ^ 31 ∨ number < 2 ^ 63 ∧ 2 ^ 31 ≤ number % 2 ^ 32

instance (number : ℕ) : Decidable (NarrowsWell number) :=
  inferInstanceAs (Decidable (_ ∨ _))

theorem toInt_ofInt_natCast (number : ℕ) :
    (Int32.ofInt number).toInt =
      if number % 2 ^ 32 < 2 ^ 31 then ((number % 2 ^ 32 : ℕ) : ℤ)
      else ((number % 2 ^ 32 : ℕ) : ℤ) - 2 ^ 32 := by
  rw [Int32.toInt_ofInt, Int.bmod]
  simp only [Int32.size]
  split <;> split <;> omega

theorem narrowsWell_iff {number : ℕ} (fits : number < 2 ^ 63) :
    NarrowsWell number ↔
      (0 ≤ (Int32.ofInt number).toInt → (Int32.ofInt number).toInt = number) := by
  rw [toInt_ofInt_natCast]
  constructor
  · rintro (small | ⟨-, high⟩) nonneg
    · rw [if_pos (by omega)]
      omega
    · rw [if_neg (by omega)] at nonneg
      omega
  · intro right
    by_contra bad
    rw [NarrowsWell, not_or, not_and] at bad
    have low := bad.2 fits
    rw [if_pos (by omega)] at right
    have equal := right (by omega)
    omega

theorem neverWrong_of_returned {extract : Option Text → Option Int32} {name : Text}
    {userid : Int32} (returned : extract (some name) = some userid) :
    NeverWrong extract name ↔
      (digitRun name = [] → userid.toInt < 0) ∧
        (0 ≤ userid.toInt → userid.toInt = numberIn name) := by
  constructor
  · intro never
    apply never
    intro defined defined_eq
    exact Option.some.inj (defined_eq.symm.trans returned)
  · intro right other may
    rw [← may userid returned]
    exact right

/-- An overflow leaves the result open: it may be 0, which the number is not. -/
theorem not_neverWrong_of_undefined {extract : Option Text → Option Int32} {name : Text}
    (undefined_ : extract (some name) = none) (large : 0 < numberIn name) :
    ¬NeverWrong extract name := by
  intro never
  have any : MayReturn extract name 0 := by
    intro defined defined_eq
    rw [undefined_] at defined_eq
    contradiction
  have equal := (never 0 any).2 (by decide)
  have zero : (0 : Int32).toInt = 0 := by decide
  omega

theorem neverWrong_iff (name : Text) :
    NeverWrong (extractNumericUserid long64) name ↔ NarrowsWell (numberIn name) := by
  have parsed := extractNumericUserid_eq long64 name
  have bits : long64.bits - 1 = 63 := rfl
  rw [bits] at parsed
  by_cases noDigits : digitRun name = []
  · have zero : numberIn name = 0 := by rw [numberIn, noDigits, Nat.ofDigitChars_nil]
    rw [if_pos noDigits] at parsed
    rw [neverWrong_of_returned parsed, zero]
    refine iff_of_true ⟨?_, ?_⟩ (Or.inl (by decide))
    · intro _
      decide
    · intro nonneg
      exact absurd nonneg (by decide)
  · rw [if_neg noDigits] at parsed
    by_cases fits : numberIn name < 2 ^ 63
    · rw [if_pos fits] at parsed
      rw [neverWrong_of_returned parsed, narrowsWell_iff fits]
      simp [noDigits]
    · rw [if_neg fits] at parsed
      constructor
      · intro never
        exact absurd never (not_neverWrong_of_undefined parsed (by omega))
      · rintro (small | ⟨below, -⟩) <;> omega

/--
On a build with a 64-bit `long` the parser returns no wrong number exactly when the number
in the name fits an `int`, or is narrowed to a negative one.
-/
theorem extractNumericUserid_neverWrong_iff (name : Text) :
    (NeverWrong (extractNumericUserid long64) name ↔ NarrowsWell (numberIn name)) ∧
      (NeverWrong (Member.extractNumericUserid long64) name ↔ NarrowsWell (numberIn name)) :=
  ⟨neverWrong_iff name, neverWrong_iff name⟩

/-- The user `student4294967297` gets the id 1. -/
theorem not_forall_neverWrong :
    ¬∀ name : Text, NeverWrong (extractNumericUserid long64) name := by
  intro never
  have narrows := (neverWrong_iff _).mp (never "student4294967297".toList)
  exact absurd narrows (by decide)

end NodeinfoSystem.Collector
