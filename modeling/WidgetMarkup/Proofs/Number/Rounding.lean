import WidgetMarkup.Number.Double
import Mathlib.Order.Nat

namespace WidgetMarkup.Number.Double

/-!
# Rounding to zero

Half of the smallest positive number is the largest one that is rounded to zero. Anything above it
is rounded to a number that is not zero, however it was brought to the place where it is rounded,
and it is packed and unpacked as one.
-/

-- Powers of natural numbers are those of core, also where a library has powers of its own.
attribute [local instance (high)] instPowNat

open Float.Model UnpackedFloat

/-- The numbers of the format that are no zeros. -/
inductive IsNonzero : UnpackedFloat → Prop where
  | notANumber :
      IsNonzero .notANumber
  | infinity
      (sign : Sign) :
      IsNonzero (.infinity sign)
  | finite
      {sign : Sign}
      {mantissa : Nat}
      {exponent : Int}
      {positive : 0 < mantissa} :
      mantissa < 2 ^ (53 : Nat) →
      -1074 ≤ exponent →
      IsNonzero (.finite sign mantissa exponent positive)

/-- The exponent of the smallest numbers. -/
theorem minExponent_binary64 :
    Format.binary64.minExponent = -1074 := by
  decide

theorem targetExponent_binary64
    (total : Int) :
    Format.binary64.targetExponent total = max (total - 53) (-1074) := by
  rw [Format.targetExponent, minExponent_binary64]
  rfl

section Shifting

/-- Whether what a mantissa stands for is above half of what it is to be counted in. -/
def ExceedsHalf (extended : ExtendedMantissa) (count : Nat) : Prop :=
  2 ^ count < 2 * extended.mantissa + extended.roundBit.toNat ∨
    2 ^ count = 2 * extended.mantissa + extended.roundBit.toNat ∧ extended.stickyBit = true

theorem exceedsHalf_shiftRightOne
    (extended : ExtendedMantissa)
    (count : Nat) :
    ExceedsHalf extended.shiftRightOne count ↔ ExceedsHalf extended (count + 1) := by
  rcases extended with ⟨mantissa, roundBit, stickyBit⟩
  simp only [ExceedsHalf, ExtendedMantissa.shiftRightOne, Nat.pow_succ]
  have parity : (mantissa % 2 != 0).toNat = mantissa % 2 := by
    rcases Nat.mod_two_eq_zero_or_one mantissa with even | odd
    · simp [even]
    · simp [odd]
  rw [parity]
  cases roundBit <;> cases stickyBit <;> simp <;> omega

theorem exceedsHalf_shiftRight
    (extended : ExtendedMantissa)
    (shift count : Nat) :
    ExceedsHalf (extended >>> shift) count ↔ ExceedsHalf extended (count + shift) := by
  induction shift generalizing count with
  | zero =>
      rfl
  | succ shift inductionHypothesis =>
      have step : extended >>> (shift + 1) = (extended >>> shift).shiftRightOne := rfl
      rw [step, exceedsHalf_shiftRightOne, inductionHypothesis, Nat.add_right_comm,
        Nat.add_assoc]

theorem mantissa_shiftRight
    (extended : ExtendedMantissa)
    (shift : Nat) :
    (extended >>> shift).mantissa = extended.mantissa / 2 ^ shift := by
  induction shift with
  | zero =>
      exact (Nat.div_one _).symm
  | succ shift inductionHypothesis =>
      have step : extended >>> (shift + 1) = (extended >>> shift).shiftRightOne := rfl
      rw [step, ExtendedMantissa.shiftRightOne, inductionHypothesis, Nat.div_div_eq_div_mul,
        ← Nat.pow_succ]

/-- A mantissa is not rounded to zero if it is above half of one. -/
theorem roundedMantissa_pos
    {extended : ExtendedMantissa}
    (large : ExceedsHalf extended 0) :
    0 < extended.roundedMantissa := by
  rcases extended with ⟨mantissa, roundBit, stickyBit⟩
  cases roundBit <;> cases stickyBit <;>
    simp [ExceedsHalf, ExtendedMantissa.roundedMantissa, ExtendedMantissa.accuracy,
      Accuracy.roundToNearestEven] at large ⊢ <;>
    omega

@[simp]
theorem mantissa_ofMantissaAndAccuracy
    (mantissa : Nat)
    (accuracy : Accuracy) :
    (ExtendedMantissa.ofMantissaAndAccuracy mantissa accuracy).mantissa = mantissa := by
  rcases accuracy with _ | _ | _ | _ <;> rfl

/-- The smallest number that a mantissa is above half of, if it is not zero, has as many bits. -/
theorem exceedsHalf_of_pos
    {mantissa shift : Nat}
    (positive : 0 < mantissa)
    (few : shift ≤ mantissa.log2)
    (accuracy : Accuracy) :
    ExceedsHalf (.ofMantissaAndAccuracy mantissa accuracy) shift := by
  left
  rw [mantissa_ofMantissaAndAccuracy]
  have least : 2 ^ mantissa.log2 ≤ mantissa := Nat.log2_self_le positive.ne'
  have fewer : 2 ^ shift ≤ 2 ^ mantissa.log2 := Nat.pow_le_pow_right (by decide) few
  omega

end Shifting

/-- How far a mantissa is shifted: until it fits, and is not counted in less than the smallest. -/
def roundingShift (mantissa : Nat) (exponent : Int) : Nat :=
  max (mantissa.log2 - 52) (-1074 - exponent).toNat

theorem shiftToTargetExponent_binary64
    (mantissa : Nat)
    (exponent : Int)
    (accuracy : Accuracy) :
    shiftToTargetExponent .binary64 mantissa exponent accuracy =
      (ExtendedMantissa.ofMantissaAndAccuracy mantissa accuracy >>>
          roundingShift mantissa exponent,
        exponent + roundingShift mantissa exponent) := by
  have same :
      (max ((mantissa.log2 : Int) + 1 + exponent - 53) (-1074) - exponent).toNat =
        roundingShift mantissa exponent := by
    rw [roundingShift]
    omega
  simp only [shiftToTargetExponent, targetExponent_binary64, totalExponent, shiftToExponent, same]

/-- A mantissa is shifted until it fits and rounded, and then shifted again if it does not fit any
more. -/
theorem roundWithAccuracy_binary64
    (sign : Sign)
    {mantissa rounded fitted : Nat}
    {exponent between final : Int}
    {accuracy : Accuracy}
    (isRounded :
      (ExtendedMantissa.ofMantissaAndAccuracy mantissa accuracy >>>
        roundingShift mantissa exponent).roundedMantissa = rounded)
    (isBetween : exponent + roundingShift mantissa exponent = between)
    (isFitted :
      (ExtendedMantissa.ofMantissaAndAccuracy rounded .exact >>>
        roundingShift rounded between).mantissa = fitted)
    (isFinal : between + roundingShift rounded between = final)
    (positive : 0 < fitted) :
    roundWithAccuracy .binary64 sign mantissa exponent accuracy =
      .finite sign fitted final positive := by
  have spelledOut {first second : ExtendedMantissa × Int}
      (isFirst : shiftToTargetExponent .binary64 mantissa exponent accuracy = first)
      (isSecond :
        shiftToTargetExponent .binary64 first.1.roundedMantissa first.2 .exact = second)
      (positive : 0 < second.1.mantissa) :
      roundWithAccuracy .binary64 sign mantissa exponent accuracy =
        .finite sign second.1.mantissa second.2 positive := by
    subst isFirst isSecond
    exact dif_neg positive.ne'
  subst isRounded isBetween isFitted isFinal
  exact spelledOut (shiftToTargetExponent_binary64 _ _ _) (shiftToTargetExponent_binary64 _ _ _)
    positive

/-- A mantissa that is above half of the smallest number is so when it fits, too. -/
theorem exceedsHalf_roundingShift
    {mantissa : Nat}
    {exponent : Int}
    {accuracy : Accuracy}
    (large :
      ExceedsHalf (.ofMantissaAndAccuracy mantissa accuracy) (-1074 - exponent).toNat) :
    ExceedsHalf (.ofMantissaAndAccuracy mantissa accuracy) (roundingShift mantissa exponent) := by
  rcases Nat.eq_zero_or_pos mantissa with rfl | positive
  · rwa [roundingShift, Nat.log2_zero, Nat.zero_sub, Nat.zero_max]
  · rcases Nat.le_total (mantissa.log2 - 52) (-1074 - exponent).toNat with less | more
    · rwa [roundingShift, Nat.max_eq_right less]
    · rw [roundingShift, Nat.max_eq_left more]
      exact exceedsHalf_of_pos positive (Nat.sub_le _ _) accuracy

/-- A mantissa that is counted in no less than the smallest number is shifted until it fits. -/
theorem mantissa_roundingShift
    {mantissa : Nat}
    {exponent : Int}
    (positive : 0 < mantissa)
    (notBelow : -1074 ≤ exponent) :
    let fitted :=
      (ExtendedMantissa.ofMantissaAndAccuracy mantissa .exact >>>
        roundingShift mantissa exponent).mantissa
    0 < fitted ∧ fitted < 2 ^ (53 : Nat) := by
  intro fitted
  have isFitted : fitted = mantissa / 2 ^ (mantissa.log2 - 52) := by
    have shifted : roundingShift mantissa exponent = mantissa.log2 - 52 := by
      rw [roundingShift]
      omega
    rw [← shifted]
    exact mantissa_shiftRight _ _
  rw [isFitted]
  constructor
  · refine Nat.div_pos (Nat.le_trans ?_ (Nat.log2_self_le positive.ne')) (Nat.two_pow_pos _)
    exact Nat.pow_le_pow_right (by decide) (Nat.sub_le _ _)
  · rw [Nat.div_lt_iff_lt_mul (Nat.two_pow_pos _), ← Nat.pow_add]
    exact Nat.lt_of_lt_of_le Nat.lt_log2_self (Nat.pow_le_pow_right (by decide) (by omega))

/-- What is above half of the smallest number is not rounded to zero. -/
theorem isNonzero_roundWithAccuracy
    (sign : Sign)
    {mantissa : Nat}
    {exponent : Int}
    {accuracy : Accuracy}
    (large :
      ExceedsHalf (.ofMantissaAndAccuracy mantissa accuracy) (-1074 - exponent).toNat) :
    IsNonzero (roundWithAccuracy .binary64 sign mantissa exponent accuracy) := by
  have fits := exceedsHalf_roundingShift large
  rw [← Nat.zero_add (roundingShift _ _), ← exceedsHalf_shiftRight] at fits
  have notBelow : -1074 ≤ exponent + roundingShift mantissa exponent := by
    rw [roundingShift]
    omega
  have fitted := mantissa_roundingShift (roundedMantissa_pos fits) notBelow
  rw [roundWithAccuracy_binary64 sign rfl rfl rfl rfl fitted.1]
  exact .finite fitted.2 (by omega)

/-- A product of whole numbers, counted in no less than the smallest number, is not rounded to
zero. -/
theorem isNonzero_mul
    {mantissa mantissa' : Nat}
    {exponent exponent' : Int}
    {positive : 0 < mantissa}
    {positive' : 0 < mantissa'}
    (sign sign' : Sign)
    (notBelow : -1074 ≤ exponent + exponent') :
    IsNonzero
      (.mul .binary64 (.finite sign mantissa exponent positive)
        (.finite sign' mantissa' exponent' positive')) := by
  have none : (-1074 - (exponent + exponent')).toNat = 0 := by omega
  refine isNonzero_roundWithAccuracy _ ?_
  rw [none]
  exact exceedsHalf_of_pos (Nat.mul_pos positive positive') (Nat.zero_le _) .exact

/-- A quotient above one half is above half of one with what is left of it. -/
theorem exceedsHalf_quotient
    {dividend divisor : Nat}
    (large : divisor < 2 * dividend)
    (positive : 0 < divisor) :
    ExceedsHalf
      (.ofMantissaAndAccuracy (dividend / divisor)
        (accuracyOfFraction (dividend % divisor) divisor)) 0 := by
  rcases Nat.lt_or_ge dividend divisor with less | more
  · have notZero : dividend ≠ 0 := by omega
    rw [Nat.div_eq_of_lt less, Nat.mod_eq_of_lt less, accuracyOfFraction, if_neg notZero,
      Nat.compare_eq_gt.mpr large]
    exact .inr ⟨rfl, rfl⟩
  · exact exceedsHalf_of_pos (Nat.div_pos more positive) (Nat.zero_le _) _

/-- What is above half of the smallest number as a quotient is not rounded to zero. -/
theorem isNonzero_div
    {mantissa mantissa' : Nat}
    {exponent exponent' : Int}
    {positive : 0 < mantissa}
    {positive' : 0 < mantissa'}
    (sign sign' : Sign)
    (notBelow : -1074 ≤ exponent - exponent')
    (large : mantissa' < mantissa * 2 ^ (exponent - exponent' + 1075).toNat) :
    IsNonzero
      (.div .binary64 (.finite sign mantissa exponent positive)
        (.finite sign' mantissa' exponent' positive')) := by
  unfold UnpackedFloat.div divCore
  simp only [targetExponent_binary64, totalExponent]
  generalize isTarget :
    min (exponent - exponent')
      (max ((mantissa.log2 : Int) + 1 + exponent - (mantissa'.log2 + 1 + exponent') - 53)
        (-1074)) = target
  have none : (-1074 - target).toNat = 0 := by omega
  refine isNonzero_roundWithAccuracy _ ?_
  rw [none]
  refine exceedsHalf_quotient ?_ positive'
  rw [Nat.shiftLeft_eq]
  rcases Int.lt_or_le (-1074) target with above | least
  · -- The quotient has more bits than are kept.
    have enough : mantissa'.log2 + 1 ≤ mantissa.log2 + (exponent - exponent' - target).toNat := by
      omega
    calc
      mantissa' < 2 ^ (mantissa'.log2 + 1) := Nat.lt_log2_self
      _ ≤ 2 ^ (mantissa.log2 + (exponent - exponent' - target).toNat) :=
        Nat.pow_le_pow_right (by decide) enough
      _ = 2 ^ mantissa.log2 * 2 ^ (exponent - exponent' - target).toNat := Nat.pow_add _ _ _
      _ ≤ mantissa * 2 ^ (exponent - exponent' - target).toNat :=
        Nat.mul_le_mul_right _ (Nat.log2_self_le positive.ne')
      _ ≤ 2 * (mantissa * 2 ^ (exponent - exponent' - target).toNat) := by omega
  · have shift :
        (exponent - exponent' + 1075).toNat = (exponent - exponent' - target).toNat + 1 := by
      omega
    rw [shift, Nat.pow_succ] at large
    calc
      mantissa' < mantissa * (2 ^ (exponent - exponent' - target).toNat * 2) := large
      _ = 2 * (mantissa * 2 ^ (exponent - exponent' - target).toNat) := by
        rw [← Nat.mul_assoc, Nat.mul_comm]

end WidgetMarkup.Number.Double
