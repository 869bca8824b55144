import WidgetMarkup.Number.Decimal
import WidgetMarkup.Number.Shortest
import Mathlib.Data.List.TakeWhile

namespace WidgetMarkup.Number

/-!
# Reading digits with a point

What is written with a point and no exponent is read as the same digits at the same place, and
digits without a point as a whole number.
-/

-- Powers of natural numbers are those of core, also where a library has powers of its own.
attribute [local instance (high)] instPowNat

/-- The code of a digit. -/
theorem isDigit_iff_toNat
    (character : Char) :
    character.isDigit = true ↔ 48 ≤ character.toNat ∧ character.toNat ≤ 57 := by
  simp only [Char.isDigit, Bool.and_eq_true, decide_eq_true_eq, ge_iff_le, UInt32.le_iff_toNat_le]
  rfl

/-- What is no capital is as small as it can be. -/
theorem toLower_eq_self
    {character : Char}
    (noCapital : character.toNat < 65 ∨ 90 < character.toNat) :
    character.toLower = character := by
  refine dif_neg ?_
  rintro ⟨fromFirst, toLast⟩
  have atLeast : 65 ≤ character.toNat := UInt32.le_iff_toNat_le.mp fromFirst
  have atMost : character.toNat ≤ 90 := UInt32.le_iff_toNat_le.mp toLast
  omega

theorem toLower_of_isDigit
    {character : Char}
    (isDigit : character.isDigit = true) :
    character.toLower = character := by
  rw [isDigit_iff_toNat] at isDigit
  exact toLower_eq_self (by omega)

theorem digitValue?_of_isDigit
    {character : Char}
    (isDigit : character.isDigit = true) :
    Text.digitValue? character = some (character.toNat - 48) := by
  rw [isDigit_iff_toNat] at isDigit
  unfold Text.digitValue?
  rw [if_pos]
  · rfl
  · exact ⟨isDigit.1, isDigit.2⟩

/-- The number that digits spell is that of the library. -/
theorem digitsValue?_eq
    {characters : List Char}
    (areDigits : ∀ character ∈ characters, character.isDigit = true)
    (value : Nat) :
    digitsValue? 10 characters value = some (Nat.ofDigitChars 10 characters value) := by
  induction characters generalizing value with
  | nil =>
      rw [digitsValue?, Nat.ofDigitChars_nil]
  | cons character rest inductionHypothesis =>
      rw [List.forall_mem_cons] at areDigits
      have small : character.toNat - 48 < 10 := by
        have range := (isDigit_iff_toNat character).mp areDigits.1
        omega
      rw [digitsValue?, digitValue?_of_isDigit areDigits.1]
      simp only
      rw [if_pos small, inductionHypothesis areDigits.2, Nat.ofDigitChars_cons, Nat.mul_comm]
      rfl

/-- The characters of a number with its sign. -/
def signed (negative : Bool) (magnitude : List Char) : List Char :=
  if negative then '-' :: magnitude else magnitude

namespace Decimal

/-- Digits without a point are a whole number. -/
theorem readDigits?_whole
    (negative : Bool)
    {digits : List Char}
    (notEmpty : digits ≠ [])
    (areDigits : ∀ character ∈ digits, character.isDigit = true) :
    readDigits? negative digits =
      some (.finite negative (Nat.ofDigitChars 10 digits 0) 0) := by
  have whole : digits.takeWhile Char.isDigit = digits :=
    List.takeWhile_eq_self_iff.mpr areDigits
  have behind : digits.dropWhile Char.isDigit = [] :=
    List.dropWhile_eq_nil_iff.mpr areDigits
  simp [readDigits?, whole, behind, notEmpty, digitsValue?_eq areDigits, readExponent?]

/-- Digits with a point are the digits without it, at the place of the last one. -/
theorem readDigits?_fraction
    (negative : Bool)
    {whole fraction : List Char}
    (notEmpty : whole ≠ [])
    (areWhole : ∀ character ∈ whole, character.isDigit = true)
    (areFraction : ∀ character ∈ fraction, character.isDigit = true) :
    readDigits? negative (whole ++ '.' :: fraction) =
      some (.finite negative (Nat.ofDigitChars 10 (whole ++ fraction) 0) (-fraction.length)) := by
  have before : (whole ++ '.' :: fraction).takeWhile Char.isDigit = whole := by
    rw [List.takeWhile_append_of_pos areWhole]
    simp
  have behind : (whole ++ '.' :: fraction).dropWhile Char.isDigit = '.' :: fraction := by
    rw [List.dropWhile_append_of_pos areWhole]
    simp
  have all : fraction.takeWhile Char.isDigit = fraction :=
    List.takeWhile_eq_self_iff.mpr areFraction
  have areDigits : ∀ character ∈ whole ++ fraction, character.isDigit = true :=
    List.forall_mem_append.mpr ⟨areWhole, areFraction⟩
  simp [readDigits?, before, behind, all, notEmpty, digitsValue?_eq areDigits, readExponent?]

/-- A sign before digits is read as such. -/
theorem read?_signed
    (negative : Bool)
    {first : Char}
    (isDigit : first.isDigit = true)
    (rest : List Char) :
    read? (signed negative (first :: rest)) = readDigits? negative (first :: rest) := by
  have range := (isDigit_iff_toNat first).mp isDigit
  have split : splitSign (signed negative (first :: rest)) = (negative, first :: rest) := by
    cases negative with
    | true => rfl
    | false =>
        unfold signed splitSign
        split
        · rename_i shape
          cases shape
          exact absurd range (by decide)
        · rename_i shape
          cases shape
          exact absurd range (by decide)
        · rfl
  have noWord {word : String} (letter : Char) (begins : word.toList.head? = some letter)
      (isLetter : letter.isDigit = false) :
      String.ofList ((first :: rest).map Char.toLower) ≠ word := by
    rintro rfl
    rw [String.toList_ofList, List.map_cons, toLower_of_isDigit isDigit] at begins
    cases begins
    rw [isDigit] at isLetter
    cases isLetter
  unfold read?
  rw [split]
  simp only
  split
  · rename_i isWord
    exact absurd isWord (noWord 'i' rfl rfl)
  · rename_i isWord
    exact absurd isWord (noWord 'i' rfl rfl)
  · rename_i isWord
    exact absurd isWord (noWord 'n' rfl rfl)
  · rfl

end Decimal

section Positional

variable {digits : Nat} {place : Int}

theorem isDigit_of_mem_toDigits_or_zeros
    {count : Nat}
    {character : Char}
    (isThere : character ∈ Nat.toDigits 10 digits ∨ character ∈ List.replicate count '0') :
    character.isDigit = true := by
  rcases isThere with isSpelled | isZero
  · exact Nat.isDigit_of_mem_toDigits (by decide) (by decide) isSpelled
  · rw [List.eq_of_mem_replicate isZero]
    rfl

/-- From place zero on, a number is its digits with as many zeros behind them. -/
theorem positional_of_nonneg
    (notBelow : 0 ≤ place) :
    positional digits place ≠ [] ∧
      (∀ character ∈ positional digits place, character.isDigit = true) ∧
      Nat.ofDigitChars 10 (positional digits place) 0 = digits * 10 ^ place.toNat := by
  have shape :
      positional digits place =
        Nat.toDigits 10 digits ++ List.replicate place.toNat '0' := if_pos notBelow
  rw [shape]
  refine ⟨by simp, fun character isThere => ?_, ?_⟩
  · exact isDigit_of_mem_toDigits_or_zeros (List.mem_append.mp isThere)
  · rw [Nat.ofDigitChars_append, Nat.ofDigitChars_ten_toDigits,
      Nat.ofDigitChars_replicate_zero, Nat.mul_comm]

/-- Below place zero, the digits stand on both sides of the point, with enough zeros before them
that one stands in front of it. -/
theorem exists_positional_of_neg
    (below : place < 0) :
    ∃ whole fraction,
      positional digits place = whole ++ '.' :: fraction ∧
        whole ≠ [] ∧
        (∀ character ∈ whole, character.isDigit = true) ∧
        (∀ character ∈ fraction, character.isDigit = true) ∧
        (fraction.length : Int) = -place ∧
        Nat.ofDigitChars 10 (whole ++ fraction) 0 = digits := by
  generalize isPadded :
    List.replicate ((-place).toNat + 1 - (Nat.toDigits 10 digits).length) '0' ++
      Nat.toDigits 10 digits = padded
  have shape :
      positional digits place =
        padded.take (padded.length - (-place).toNat) ++
          '.' :: padded.drop (padded.length - (-place).toNat) := by
    rw [← isPadded]
    exact if_neg (Int.not_le.mpr below)
  have arePadded : ∀ character ∈ padded, character.isDigit = true := by
    rw [← isPadded]
    exact fun _ isThere => isDigit_of_mem_toDigits_or_zeros (List.mem_append.mp isThere).symm
  have enough : (-place).toNat + 1 ≤ padded.length := by
    rw [← isPadded, List.length_append, List.length_replicate]
    omega
  refine ⟨_, _, shape, ?_, fun _ isThere => arePadded _ (List.mem_of_mem_take isThere),
    fun _ isThere => arePadded _ (List.mem_of_mem_drop isThere), ?_, ?_⟩
  · rw [← List.length_pos_iff, List.length_take]
    omega
  · rw [List.length_drop]
    omega
  · rw [List.take_append_drop, ← isPadded, Nat.ofDigitChars_append,
      Nat.ofDigitChars_replicate_zero, Nat.mul_zero, Nat.ofDigitChars_ten_toDigits]

/-- Digits at a place begin with a digit, and none of their characters is anything but a digit or
the point. -/
theorem exists_positional
    (digits : Nat)
    (place : Int) :
    ∃ first rest,
      positional digits place = first :: rest ∧
        first.isDigit = true ∧
        ∀ character ∈ rest, character.isDigit = true ∨ character = '.' := by
  rcases Int.lt_or_le place 0 with below | notBelow
  · obtain ⟨whole, fraction, shape, notEmpty, areWhole, areFraction, -⟩ :=
      exists_positional_of_neg below
    obtain ⟨first, others, rfl⟩ := List.exists_cons_of_ne_nil notEmpty
    refine ⟨first, _, shape, areWhole first List.mem_cons_self, fun character isThere => ?_⟩
    rcases List.mem_append.mp isThere with isInWhole | isBehind
    · exact .inl (areWhole character (List.mem_cons_of_mem _ isInWhole))
    · rcases List.mem_cons.mp isBehind with isPoint | isInFraction
      · exact .inr isPoint
      · exact .inl (areFraction character isInFraction)
  · obtain ⟨notEmpty, areDigits, -⟩ := positional_of_nonneg notBelow
    obtain ⟨first, rest, shape⟩ := List.exists_cons_of_ne_nil notEmpty
    rw [shape] at areDigits
    exact ⟨first, rest, shape, areDigits first List.mem_cons_self,
      fun character isThere => .inl (areDigits character (List.mem_cons_of_mem _ isThere))⟩

/-- What is written at a place is read at that place, or as a whole number. -/
theorem read?_positional
    (negative : Bool)
    (digits : Nat)
    (place : Int) :
    Decimal.read? (signed negative (positional digits place)) =
      some (if 0 ≤ place then
        .finite negative (digits * 10 ^ place.toNat) 0
      else
        .finite negative digits place) := by
  obtain ⟨first, rest, shape, isDigit, -⟩ := exists_positional digits place
  rw [shape, Decimal.read?_signed negative isDigit, ← shape]
  split
  · rename_i notBelow
    obtain ⟨notEmpty, areDigits, value⟩ := positional_of_nonneg notBelow
    rw [Decimal.readDigits?_whole negative notEmpty areDigits, value]
  · rename_i below
    obtain ⟨whole, fraction, parts, notEmpty, areWhole, areFraction, length, value⟩ :=
      exists_positional_of_neg (Int.not_le.mp below)
    rw [parts, Decimal.readDigits?_fraction negative notEmpty areWhole areFraction, value, length,
      Int.neg_neg]

end Positional

end WidgetMarkup.Number
