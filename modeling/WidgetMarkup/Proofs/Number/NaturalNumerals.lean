import Mathlib.Data.List.Induction
import Mathlib.Tactic.IntervalCases
import WidgetMarkup.Number.Natural

namespace WidgetMarkup.Number

/-!
# Numerals of natural numbers

A numeral is one digit or more, the most significant first. What is read as a natural number below
a limit is a numeral, or a plus sign and a numeral, of a number below that limit.
-/

/-- Whether a character is the digit of a value in a base, letters in either case. -/
def IsDigit (base : Nat) (character : Char) (value : Nat) : Prop :=
  value < base ∧
    ("0123456789abcdef".toList[value]? = some character ∨
      "0123456789ABCDEF".toList[value]? = some character)

/-- Whether characters are the numeral of a number in a base. -/
inductive IsNumeral (base : Nat) : List Char → Nat → Prop where
  | digit
      {character : Char}
      {value : Nat} :
      IsDigit base character value →
      IsNumeral base [character] value
  | more
      {digits : List Char}
      {number : Nat}
      {character : Char}
      {value : Nat} :
      IsNumeral base digits number →
      IsDigit base character value →
      IsNumeral base (digits ++ [character]) (number * base + value)

/-- No digit comes behind the small letter for fifteen. -/
theorem toNat_lt_of_digitValue?
    {character : Char}
    {value : Nat}
    (isValue : Text.digitValue? character = some value) :
    character.toNat < 103 := by
  unfold Text.digitValue? at isValue
  split at isValue
  · rename_i range
    exact Nat.lt_of_le_of_lt (show character.toNat ≤ 57 from range.2) (by decide)
  · split at isValue
    · rename_i range
      exact Nat.lt_of_le_of_lt (show character.toNat ≤ 102 from range.2) (by decide)
    · split at isValue
      · rename_i range
        exact Nat.lt_of_le_of_lt (show character.toNat ≤ 70 from range.2) (by decide)
      · cases isValue

/-- The value of a digit is its place among the digits. -/
theorem digitValue?_eq_some_iff
    {character : Char}
    {value : Nat} :
    Text.digitValue? character = some value ↔
      "0123456789abcdef".toList[value]? = some character ∨
        "0123456789ABCDEF".toList[value]? = some character := by
  constructor
  · intro isValue
    -- The characters up to the last digit are few enough to go through them.
    have listed :
        ∀ code < 103, ∀ value ∈ Text.digitValue? (Char.ofNat code),
          "0123456789abcdef".toList[value]? = some (Char.ofNat code) ∨
            "0123456789ABCDEF".toList[value]? = some (Char.ofNat code) := by
      decide
    have isListed := listed character.toNat (toNat_lt_of_digitValue? isValue)
    rw [Char.ofNat_toNat] at isListed
    exact isListed value isValue
  · rintro (isDigit | isDigit)
    all_goals
      obtain ⟨small, -⟩ := List.getElem?_eq_some_iff.mp isDigit
      replace small : value < 16 := small
      interval_cases value <;> cases isDigit <;> rfl

theorem isDigit_iff
    {base value : Nat}
    {character : Char} :
    IsDigit base character value ↔ Text.digitValue? character = some value ∧ value < base := by
  rw [IsDigit, digitValue?_eq_some_iff, and_comm]

theorem isDigit_digitChar
    {base value : Nat}
    (small : value < base)
    (atMost : base ≤ 16) :
    IsDigit base value.digitChar value := by
  have listed : ∀ value < 16, "0123456789abcdef".toList[value]? = some value.digitChar := by decide
  exact ⟨small, .inl (listed value (by omega))⟩

/-- Digits are read one after another. -/
theorem digitsValue?_append
    (base : Nat)
    (first second : List Char)
    (value : Nat) :
    digitsValue? base (first ++ second) value =
      (digitsValue? base first value).bind (digitsValue? base second) := by
  induction first generalizing value with
  | nil =>
      rfl
  | cons character rest inductionHypothesis =>
      rw [List.cons_append, digitsValue?, digitsValue?]
      split
      · split
        · exact inductionHypothesis _
        · rfl
      · rfl

theorem digitsValue?_singleton_eq_some_iff
    {base value number : Nat}
    {character : Char} :
    digitsValue? base [character] value = some number ↔
      ∃ digit, IsDigit base character digit ∧ number = value * base + digit := by
  simp only [isDigit_iff]
  rw [digitsValue?]
  cases Text.digitValue? character with
  | none =>
      simp
  | some digit =>
      by_cases small : digit < base <;> simp [digitsValue?, small, eq_comm]

/-- Digits that have a value are a numeral of it, if there are any. -/
theorem digitsValue?_eq_some_iff
    {base number : Nat}
    {digits : List Char} :
    digits ≠ [] ∧ digitsValue? base digits 0 = some number ↔ IsNumeral base digits number := by
  constructor
  · rintro ⟨nonempty, isValue⟩
    induction digits using List.reverseRecOn generalizing number with
    | nil =>
        exact absurd rfl nonempty
    | append_singleton front last inductionHypothesis =>
        rw [digitsValue?_append, Option.bind_eq_some_iff] at isValue
        obtain ⟨value, isFront, isLast⟩ := isValue
        obtain ⟨digit, isDigit, rfl⟩ := digitsValue?_singleton_eq_some_iff.mp isLast
        by_cases noneBefore : front = []
        · subst noneBefore
          cases isFront
          rw [Nat.zero_mul, Nat.zero_add]
          exact .digit isDigit
        · exact .more (inductionHypothesis noneBefore isFront) isDigit
  · intro isNumeral
    induction isNumeral with
    | digit isDigit =>
        refine ⟨List.cons_ne_nil _ _, ?_⟩
        exact digitsValue?_singleton_eq_some_iff.mpr ⟨_, isDigit, by omega⟩
    | more _ isDigit inductionHypothesis =>
        refine ⟨List.append_ne_nil_of_right_ne_nil _ (List.cons_ne_nil _ _), ?_⟩
        rw [digitsValue?_append, inductionHypothesis.2, Option.bind_some]
        exact digitsValue?_singleton_eq_some_iff.mpr ⟨_, isDigit, rfl⟩

namespace IsNumeral

variable {base number : Nat} {digits : List Char}

/-- A numeral is made of digits. -/
theorem isDigit_of_mem
    (isNumeral : IsNumeral base digits number) :
    ∀ character ∈ digits, ∃ value, IsDigit base character value := by
  induction isNumeral with
  | digit isDigit =>
      exact List.forall_mem_singleton.mpr ⟨_, isDigit⟩
  | more _ isDigit inductionHypothesis =>
      exact List.forall_mem_append.mpr
        ⟨inductionHypothesis, List.forall_mem_singleton.mpr ⟨_, isDigit⟩⟩

/-- What has no value as a digit stands in no numeral. -/
theorem not_mem
    {character : Char}
    (isNumeral : IsNumeral base digits number)
    (noDigit : Text.digitValue? character = none) :
    character ∉ digits := by
  intro isThere
  obtain ⟨value, isDigit⟩ := isNumeral.isDigit_of_mem character isThere
  rw [isDigit_iff, noDigit] at isDigit
  cases isDigit.1

theorem dropPlus_eq
    (isNumeral : IsNumeral base digits number) :
    dropPlus digits = digits := by
  unfold dropPlus
  split
  · exact absurd List.mem_cons_self (isNumeral.not_mem (by decide))
  · rfl

/-- The digits of a number are a numeral of it. -/
theorem toDigits
    (atLeast : 1 < base)
    (atMost : base ≤ 16)
    (number : Nat) :
    IsNumeral base (Nat.toDigits base number) number := by
  induction number using Nat.strong_induction_on with
  | _ number inductionHypothesis =>
      rw [Nat.toDigits_eq_if atLeast]
      split
      · rename_i small
        exact .digit (isDigit_digitChar small atMost)
      · have smaller : number / base < number := Nat.div_lt_self (by omega) atLeast
        have isLast : IsDigit base (number % base).digitChar (number % base) :=
          isDigit_digitChar (Nat.mod_lt _ (by omega)) atMost
        have isNumeral := (inductionHypothesis _ smaller).more isLast
        rwa [Nat.div_add_mod'] at isNumeral

/-- A zero in front of a numeral does not change its number. -/
theorem zero
    (isNumeral : IsNumeral base digits number)
    (positive : 0 < base) :
    IsNumeral base ('0' :: digits) number := by
  have isZero : IsDigit base '0' 0 := ⟨positive, .inl rfl⟩
  induction isNumeral with
  | digit isDigit =>
      have isNumeral := IsNumeral.more (.digit isZero) isDigit
      rwa [Nat.zero_mul, Nat.zero_add] at isNumeral
  | more _ isDigit inductionHypothesis =>
      exact inductionHypothesis.more isDigit

theorem zeros
    (isNumeral : IsNumeral base digits number)
    (positive : 0 < base)
    (count : Nat) :
    IsNumeral base (List.replicate count '0' ++ digits) number := by
  induction count with
  | zero =>
      exact isNumeral
  | succ count inductionHypothesis =>
      exact inductionHypothesis.zero positive

end IsNumeral

/-- What is read as a natural number: a numeral, with or without a plus sign in front. -/
theorem readNatural?_eq_some_iff
    {base limit number : Nat}
    {characters : List Char} :
    readNatural? base limit characters = some number ↔
      (∃ sign ∈ ["", "+"], ∃ digits,
        characters = sign.toList ++ digits ∧ IsNumeral base digits number) ∧
          number < limit := by
  have read :
      readNatural? base limit characters = some number ↔
        IsNumeral base (dropPlus characters) number ∧ number < limit := by
    rw [← digitsValue?_eq_some_iff]
    unfold readNatural?
    split
    · rename_i empty
      simp [empty]
    · rename_i nonempty
      cases digitsValue? base (dropPlus characters) 0 with
      | none =>
          simp
      | some value =>
          by_cases small : value < limit
          · simp only [small, ↓reduceIte, Option.some.injEq]
            exact ⟨fun same => ⟨⟨nonempty, same⟩, same ▸ small⟩, fun both => both.1.2⟩
          · simp only [small, ↓reduceIte, Option.some.injEq, false_iff, reduceCtorEq]
            rintro ⟨⟨-, rfl⟩, below⟩
            exact small below
  rw [read]
  refine and_congr_left fun _ => ⟨fun isNumeral => ?_, ?_⟩
  · unfold dropPlus at isNumeral
    split at isNumeral
    · exact ⟨"+", by simp, _, rfl, isNumeral⟩
    · exact ⟨"", by simp, _, rfl, isNumeral⟩
  · rintro ⟨sign, isSign, digits, rfl, isNumeral⟩
    simp only [List.mem_cons, List.not_mem_nil, or_false] at isSign
    obtain rfl | rfl := isSign
    · exact isNumeral.dropPlus_eq.symm ▸ isNumeral
    · exact isNumeral

end WidgetMarkup.Number
