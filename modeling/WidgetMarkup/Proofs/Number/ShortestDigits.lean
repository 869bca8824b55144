import WidgetMarkup.Number.Shortest
import Mathlib.Algebra.Order.Field.Power
import Mathlib.Algebra.Order.Field.Rat
import Mathlib.Tactic.FieldSimp
import Mathlib.Tactic.Linarith
import Mathlib.Tactic.NormNum
import Mathlib.Tactic.Positivity
import Mathlib.Tactic.Ring

namespace WidgetMarkup.Number

/-!
# How small the shortest digits are

The shortest digits of a positive number stand for something that rounds to it, or else for the
number itself cut off after seventeen digits. Either is above half of the smallest number.
-/

-- Powers of natural numbers are those of core, also where a library has powers of its own.
attribute [local instance (high)] instPowNat

namespace Ratio

/-- The rational number that a ratio stands for. -/
def toRat (ratio : Ratio) : ℚ :=
  ratio.numerator / ratio.denominator

/-- A factor times a power of a base. -/
theorem toRat_scaled
    {base : Nat}
    (factor : Nat)
    (exponent : Int) :
    (scaled base factor exponent).toRat = factor * (base : ℚ) ^ exponent := by
  unfold scaled toRat
  split
  · rename_i notBelow
    lift exponent to ℕ using notBelow
    simp
  · rename_i below
    obtain ⟨places, rfl⟩ : ∃ places : ℕ, exponent = -places := ⟨exponent.natAbs, by omega⟩
    simp [zpow_neg, div_eq_mul_inv]

/-- The denominator of a scaled factor is positive. -/
theorem denominator_scaled_pos
    {base : Nat}
    (positive : 0 < base)
    (factor : Nat)
    (exponent : Int) :
    0 < (scaled base factor exponent).denominator := by
  unfold scaled
  split
  · exact Nat.one_pos
  · exact Nat.pow_pos positive

theorem numerator_scaled_pos
    {base factor : Nat}
    (basePos : 0 < base)
    (factorPos : 0 < factor)
    (exponent : Int) :
    0 < (scaled base factor exponent).numerator := by
  unfold scaled
  split
  · exact Nat.mul_pos factorPos (Nat.pow_pos basePos)
  · exact factorPos

theorem below_iff
    {left right : Ratio}
    (leftPos : 0 < left.denominator)
    (rightPos : 0 < right.denominator) :
    left.below right = true ↔ left.toRat < right.toRat := by
  have leftPos' : (0 : ℚ) < left.denominator := by exact_mod_cast leftPos
  have rightPos' : (0 : ℚ) < right.denominator := by exact_mod_cast rightPos
  rw [below, decide_eq_true_iff, toRat, toRat, div_lt_div_iff₀ leftPos' rightPos']
  exact_mod_cast Iff.rfl

/-- A quotient is cut off by less than one. -/
theorem toRat_lt_quotient
    {left right : Ratio}
    (leftPos : 0 < left.denominator)
    (rightPos : 0 < right.denominator)
    (positive : 0 < right.numerator) :
    left.toRat < (left.quotient right + 1) * right.toRat := by
  have leftPos' : (0 : ℚ) < left.denominator := by exact_mod_cast leftPos
  have rightPos' : (0 : ℚ) < right.denominator := by exact_mod_cast rightPos
  have cutOff :
      left.numerator * right.denominator <
        left.denominator * right.numerator * (left.quotient right + 1) :=
    Nat.lt_mul_div_succ _ (Nat.mul_pos leftPos positive)
  rw [toRat, toRat, ← mul_div_assoc, div_lt_div_iff₀ leftPos' rightPos']
  calc
    (left.numerator * right.denominator : ℚ)
      < left.denominator * right.numerator * (left.quotient right + 1) := by
        exact_mod_cast cutOff
    _ = (left.quotient right + 1) * right.numerator * left.denominator := by ring

theorem lt_pow_countDigits
    (number : Nat) :
    number < 10 ^ countDigits number := by
  unfold countDigits
  split
  · rename_i isZero
    rw [isZero]
    decide
  · exact (Nat.length_toDigits_le_iff (by decide) Nat.length_toDigits_pos).mp (Nat.le_refl _)

theorem pow_countDigits_le
    {number : Nat}
    (positive : 0 < number) :
    10 ^ (countDigits number - 1) ≤ number := by
  rw [countDigits, if_neg positive.ne']
  rcases Nat.eq_zero_or_pos ((Nat.toDigits 10 number).length - 1) with one | more
  · rwa [one]
  · rw [← Nat.not_lt, ← Nat.length_toDigits_le_iff (by decide) more]
    omega

/-- No ratio is below the power of ten of its leading digit. -/
theorem zpow_leadingPlace_le
    {ratio : Ratio}
    (positive : 0 < ratio.numerator)
    (denominatorPos : 0 < ratio.denominator) :
    (10 : ℚ) ^ ratio.leadingPlace ≤ ratio.toRat := by
  have positive' : (0 : ℚ) < ratio.numerator := by exact_mod_cast positive
  have denominatorPos' : (0 : ℚ) < ratio.denominator := by exact_mod_cast denominatorPos
  unfold leadingPlace
  split
  · rename_i notBelowOne
    have quotientPos := Nat.div_pos notBelowOne denominatorPos
    have digits := pow_countDigits_le quotientPos
    have places : 0 < countDigits (ratio.numerator / ratio.denominator) := by
      rw [countDigits, if_neg quotientPos.ne']
      exact Nat.length_toDigits_pos
    rw [← Nat.cast_one, ← Nat.cast_sub places, zpow_natCast, toRat, le_div_iff₀ denominatorPos']
    have bound := Nat.le_trans (Nat.mul_le_mul_right ratio.denominator digits)
      (Nat.div_mul_le_self ratio.numerator ratio.denominator)
    exact_mod_cast bound
  · rename_i belowOne
    have digits := lt_pow_countDigits ((ratio.denominator - 1) / ratio.numerator)
    rw [Nat.div_lt_iff_lt_mul positive] at digits
    rw [zpow_neg, zpow_natCast, toRat, inv_eq_one_div,
      div_le_div_iff₀ (by positivity) denominatorPos', one_mul]
    have bound :
        ratio.denominator ≤
          10 ^ countDigits ((ratio.denominator - 1) / ratio.numerator) * ratio.numerator := by
      omega
    rw [mul_comm]
    exact_mod_cast bound

end Ratio

namespace RoundingInterval

open Ratio

variable {significand : Nat} {exponent : Int}

/-- The least factor of the lower end of an interval, which is counted in quarters. -/
def leastFactor (significand : Nat) (exponent : Int) : Nat :=
  4 * significand -
    if significand = 2 ^ (BinaryFormat.double.precision - 1) ∧
        BinaryFormat.double.leastExponent < exponent then 1 else 2

theorem lowest_ofNumber
    (significand : Nat)
    (exponent : Int) :
    (ofNumber .double significand exponent).lowest.toRat =
      leastFactor significand exponent * (2 : ℚ) ^ (exponent - 2) :=
  toRat_scaled _ _

/-- Two quarters of the smallest number and anything above them are no less than half of it. -/
theorem half_le
    {factor : Nat}
    (enough : 2 ≤ factor)
    (notBelow : -1074 ≤ exponent) :
    (2 : ℚ) ^ (-1075 : ℤ) ≤ factor * (2 : ℚ) ^ (exponent - 2) := by
  have grows : (2 : ℚ) ^ (-1076 : ℤ) ≤ (2 : ℚ) ^ (exponent - 2) :=
    zpow_le_zpow_right₀ (by norm_num) (by omega)
  have half : (2 : ℚ) ^ (-1075 : ℤ) = 2 * (2 : ℚ) ^ (-1076 : ℤ) := by
    rw [← zpow_one_add₀ (by norm_num)]
    norm_num
  have enough' : (2 : ℚ) ≤ factor := by exact_mod_cast enough
  rw [half]
  exact mul_le_mul enough' grows (by positivity) (by positivity)

theorem half_lt
    {factor : Nat}
    (enough : 3 ≤ factor)
    (notBelow : -1074 ≤ exponent) :
    (2 : ℚ) ^ (-1075 : ℤ) < factor * (2 : ℚ) ^ (exponent - 2) := by
  have unit : (0 : ℚ) < (2 : ℚ) ^ (exponent - 2) := by positivity
  have more : ((2 : ℕ) : ℚ) < factor := by exact_mod_cast enough
  exact lt_of_le_of_lt (half_le (le_refl 2) notBelow) (mul_lt_mul_of_pos_right more unit)

/-- What rounds to a positive number is above half of the smallest one. -/
theorem half_lt_of_contains
    (positive : 0 < significand)
    (notBelow : -1074 ≤ exponent)
    {ratio : Ratio}
    (denominatorPos : 0 < ratio.denominator)
    (contained : (ofNumber .double significand exponent).contains ratio = true) :
    (2 : ℚ) ^ (-1075 : ℤ) < ratio.toRat := by
  have lowestPos : 0 < (ofNumber .double significand exponent).lowest.denominator :=
    denominator_scaled_pos (by decide) _ _
  have enough : 2 ≤ leastFactor significand exponent := by
    unfold leastFactor
    split <;> omega
  unfold contains at contained
  split at contained
  · rename_i closed
    have even : significand % 2 = 0 := by simpa [ofNumber] using closed
    have more : 3 ≤ leastFactor significand exponent := by
      unfold leastFactor
      split <;> omega
    rw [Bool.and_eq_true, Bool.not_eq_true', ← Bool.not_eq_true,
      below_iff denominatorPos lowestPos, not_lt, lowest_ofNumber] at contained
    exact lt_of_lt_of_le (half_lt more notBelow) contained.1
  · rw [Bool.and_eq_true, below_iff lowestPos denominatorPos, lowest_ofNumber] at contained
    exact lt_of_le_of_lt (half_le enough notBelow) contained.1

/-- A multiple of the grid's unit that is found rounds to the number. -/
theorem contains_of_nearestOnGrid?
    {interval : RoundingInterval}
    {place : Int}
    {digits : Nat}
    (found : interval.nearestOnGrid? place = some digits) :
    interval.contains (scaled 10 digits place) = true := by
  unfold nearestOnGrid? at found
  simp only at found
  split at found
  · rename_i lower upper
    split at found
    · cases found
      exact upper
    · split at found
      · cases found
        exact lower
      · cases found
        exact upper
  · rename_i lower _
    cases found
    exact lower
  · rename_i _ upper
    cases found
    exact upper
  · cases found

/-- The first grid has a multiple in the interval, or else the value is cut off on the last one. -/
theorem coarsest_cases
    (interval : RoundingInterval)
    (attempts : Nat)
    (place : Int) :
    let found := interval.coarsest attempts place
    interval.contains (scaled 10 found.1 found.2) = true ∨
      found = (interval.value.quotient (scaled 10 1 (place - attempts)), place - attempts) := by
  induction attempts generalizing place with
  | zero =>
      right
      simp [coarsest]
  | succ attempts inductionHypothesis =>
      unfold coarsest
      split
      · rename_i digits found
        exact .inl (contains_of_nearestOnGrid? found)
      · have next : place - 1 - attempts = place - (attempts + 1 : Nat) := by omega
        rw [← next]
        exact inductionHypothesis (place - 1)

/-- A value cut off after so many digits is more than half of it. -/
theorem half_lt_quotient
    (positive : 0 < significand)
    (notBelow : -1074 ≤ exponent) :
    let value := (ofNumber .double significand exponent).value
    let place := value.leadingPlace - (17 : Nat)
    (2 : ℚ) ^ (-1075 : ℤ) < value.quotient (scaled 10 1 place) * (10 : ℚ) ^ place := by
  intro value place
  have valuePos : 0 < value.denominator := denominator_scaled_pos (by decide) _ _
  have unitPos : 0 < (scaled 10 1 place).denominator := denominator_scaled_pos (by decide) _ _
  have numeratorPos : 0 < value.numerator := numerator_scaled_pos (by decide) (by omega) _
  have isValue : value.toRat = (4 * significand : ℕ) * (2 : ℚ) ^ (exponent - 2) :=
    toRat_scaled _ _
  have isUnit : (scaled 10 1 place).toRat = (10 : ℚ) ^ place := by
    rw [toRat_scaled, Nat.cast_one, one_mul]
    rfl
  have cutOff :=
    toRat_lt_quotient valuePos unitPos (numerator_scaled_pos (by decide) Nat.one_pos place)
  have leads := zpow_leadingPlace_le numeratorPos valuePos
  have large : 2 * (2 : ℚ) ^ (-1075 : ℤ) ≤ value.toRat := by
    have half := half_le (show 2 ≤ 2 * significand by omega) notBelow
    calc
      2 * (2 : ℚ) ^ (-1075 : ℤ) ≤ 2 * ((2 * significand : ℕ) * (2 : ℚ) ^ (exponent - 2)) :=
        mul_le_mul_of_nonneg_left half (by norm_num)
      _ = value.toRat := by
        rw [isValue]
        push_cast
        ring
  have split : (10 : ℚ) ^ value.leadingPlace = 10 ^ 17 * (10 : ℚ) ^ place := by
    rw [← zpow_natCast, ← zpow_add₀ (by norm_num)]
    congr 1
    omega
  rw [isUnit] at cutOff
  rw [split] at leads
  have unit : (0 : ℚ) < (10 : ℚ) ^ place := by positivity
  have half : (0 : ℚ) < (2 : ℚ) ^ (-1075 : ℤ) := by positivity
  linarith

/-- The shortest digits of a positive number are above half of the smallest one. -/
theorem half_lt_shortest
    (positive : 0 < significand)
    (notBelow : -1074 ≤ exponent) :
    let found := (ofNumber .double significand exponent).shortest
    (2 : ℚ) ^ (-1075 : ℤ) < found.1 * (10 : ℚ) ^ found.2 := by
  intro found
  let interval := ofNumber .double significand exponent
  let grid := interval.coarsest 17 interval.value.leadingPlace
  have large : (2 : ℚ) ^ (-1075 : ℤ) < grid.1 * (10 : ℚ) ^ grid.2 := by
    obtain contained | isCutOff := coarsest_cases interval 17 interval.value.leadingPlace
    · have above := half_lt_of_contains positive notBelow
        (denominator_scaled_pos (by decide) _ _) contained
      rwa [toRat_scaled] at above
    · have isGrid : grid = _ := isCutOff
      rw [isGrid]
      exact half_lt_quotient positive notBelow
  have isFound :
      found = if grid.1 % 10 = 0 then (grid.1 / 10, grid.2 + 1) else (grid.1, grid.2) :=
    rfl
  rw [isFound]
  split
  · rename_i endsInZero
    have tens : ((grid.1 / 10 : ℕ) : ℚ) * 10 = grid.1 := by
      exact_mod_cast Nat.div_mul_cancel (Nat.dvd_of_mod_eq_zero endsInZero)
    calc
      (2 : ℚ) ^ (-1075 : ℤ) < grid.1 * (10 : ℚ) ^ grid.2 := large
      _ = (grid.1 / 10 : ℕ) * (10 : ℚ) ^ (grid.2 + 1) := by
        rw [← tens, zpow_add_one₀ (by norm_num)]
        ring
  · exact large

/-- The shortest digits of a positive number, without fractions. -/
theorem shortest_large
    (positive : 0 < significand)
    (notBelow : -1074 ≤ exponent) :
    let found := (ofNumber .double significand exponent).shortest
    0 < found.1 ∧ (found.2 < 0 → 10 ^ found.2.natAbs < found.1 * 2 ^ (1075 : Nat)) := by
  intro found
  have above : (2 : ℚ) ^ (-1075 : ℤ) < found.1 * (10 : ℚ) ^ found.2 :=
    half_lt_shortest positive notBelow
  have half : (0 : ℚ) < (2 : ℚ) ^ (-1075 : ℤ) := by positivity
  constructor
  · refine Nat.pos_of_ne_zero fun isZero => ?_
    rw [isZero, Nat.cast_zero, zero_mul] at above
    exact absurd above (not_lt.mpr half.le)
  · intro below
    obtain ⟨places, isPlace⟩ : ∃ places : ℕ, found.2 = -places := ⟨found.2.natAbs, by omega⟩
    have asNatural : found.2.natAbs = places := by omega
    rw [isPlace, zpow_neg, zpow_neg, zpow_natCast, ← div_eq_mul_inv,
      lt_div_iff₀ (by positivity), inv_mul_lt_iff₀ (by positivity), mul_comm] at above
    rw [asNatural]
    exact_mod_cast above

end RoundingInterval

end WidgetMarkup.Number
