import WidgetMarkup.Proofs.Number.Zero

namespace WidgetMarkup.Number.Double

/-!
# Numerals that are not zero

A numeral for something above half of the smallest number is read as a number that is not zero,
whether digits and power of ten are machine numbers, with a division or a product between them, or
are multiplied out.
-/

-- Powers of natural numbers are those of core, also where a library has powers of its own.
attribute [local instance (high)] instPowNat

open Float.Model UnpackedFloat

/-- A mantissa that fits and is counted in no less than the smallest number is not rounded. -/
theorem roundWithAccuracy_exact
    (sign : Sign)
    {mantissa : Nat}
    {exponent : Int}
    (positive : 0 < mantissa)
    (fits : mantissa.log2 ≤ 52)
    (notBelow : -1074 ≤ exponent) :
    roundWithAccuracy .binary64 sign mantissa exponent .exact =
      .finite sign mantissa exponent positive := by
  have unshifted : roundingShift mantissa exponent = 0 := by
    rw [roundingShift]
    omega
  have stays : exponent + roundingShift mantissa exponent = exponent := by omega
  have isRounded :
      (ExtendedMantissa.ofMantissaAndAccuracy mantissa .exact >>>
        roundingShift mantissa exponent).roundedMantissa = mantissa := by
    rw [unshifted]
    rfl
  have isFitted :
      (ExtendedMantissa.ofMantissaAndAccuracy mantissa .exact >>>
        roundingShift mantissa exponent).mantissa = mantissa := by
    rw [unshifted]
    rfl
  exact roundWithAccuracy_binary64 sign isRounded stays isFitted stays positive

theorem log2_shiftLeft
    {number : Nat}
    (positive : 0 < number)
    (count : Nat) :
    (number <<< count).log2 = number.log2 + count := by
  rw [Nat.shiftLeft_eq, Nat.log2_eq_iff (Nat.mul_pos positive (Nat.two_pow_pos _)).ne',
    Nat.pow_add, Nat.add_right_comm, Nat.pow_add]
  exact ⟨Nat.mul_le_mul_right _ (Nat.log2_self_le positive.ne'),
    Nat.mul_lt_mul_of_pos_right Nat.lt_log2_self (Nat.two_pow_pos _)⟩

/-- A normal number is unpacked with the exponent with which it was packed. -/
theorem exists_unpack_pack_of_normal
    (sign : Sign)
    {mantissa : Nat}
    {exponent : Int}
    (positive : 0 < mantissa)
    (normal : mantissa.log2 = 52)
    (notBelow : -1074 ≤ exponent)
    (notAbove : exponent ≤ 971) :
    ∃ sign' mantissa' positive',
      UnpackedFloat.unpack .binary64
          (UnpackedFloat.pack .binary64 (.finite sign mantissa exponent positive)) =
        .finite sign' mantissa' exponent positive' := by
  have bias : Format.binary64.exponentBias = 1023 := rfl
  have bits : Format.binary64.mantissaBits = 53 := rfl
  have isField :
      (unpackExponent
        (UnpackedFloat.pack .binary64 (.finite sign mantissa exponent positive))).toNat =
          (exponent + 1075).toNat := by
    unfold UnpackedFloat.pack
    dsimp only
    rw [bias, bits, normal, if_neg (by omega), if_pos rfl, unpackExponent_packComponents,
      BitVec.toNat_ofNat]
    omega
  have unpacks := unpacks (UnpackedFloat.pack .binary64 (.finite sign mantissa exponent positive))
  generalize UnpackedFloat.pack .binary64 (.finite sign mantissa exponent positive) = packed
    at isField unpacks ⊢
  generalize UnpackedFloat.unpack .binary64 packed = unpacked at unpacks ⊢
  cases unpacks with
  | infinity _ allOnes | notANumber allOnes =>
      rw [allOnes] at isField
      have isGreatest : (-1#11).toNat = 2047 := rfl
      omega
  | zero _ noExponent | subnormal _ _ noExponent =>
      rw [noExponent, BitVec.toNat_ofNat, Nat.zero_mod] at isField
      omega
  | normal sign' positive' _ _ isCounted =>
      obtain rfl : _ = exponent := isCounted.trans (by omega)
      exact ⟨sign', _, positive', rfl⟩

/-- A whole number with few enough bits becomes a number with exactly as many as are kept. -/
theorem ofUInt64_of_lt
    {number : Nat}
    (fits : number < 2 ^ (53 : Nat))
    (shiftedPos : 0 < number <<< (52 - number.log2))
    (normal : (number <<< (52 - number.log2)).log2 = 52) :
    UnpackedFloat.ofUInt64 .binary64 number.toUInt64 =
      .finite .positive (number <<< (52 - number.log2)) ((number.log2 : Int) - 52)
        shiftedPos := by
  have positive : 0 < number := Nat.shiftLeft_pos_iff.mp shiftedPos
  have fewBits : number.log2 < 53 := (Nat.log2_lt positive.ne').mpr fits
  have same : number.toUInt64.toNat = number := by
    rw [Nat.toUInt64, UInt64.toNat_ofNat']
    omega
  have isTarget :
      max ((number.log2 : Int) + 1 + 0 - 53) (-1074) = (number.log2 : Int) - 52 := by
    omega
  have isShift : (0 - ((number.log2 : Int) - 52)).toNat = 52 - number.log2 := by
    omega
  have isExponent : (0 : Int) - ((52 - number.log2 : Nat) : Int) = (number.log2 : Int) - 52 := by
    omega
  have isShifted :
      UnpackedFloat.round .binary64 .positive number 0 =
        roundWithAccuracy .binary64 .positive (number <<< (52 - number.log2))
          ((number.log2 : Int) - 52) .exact := by
    unfold UnpackedFloat.round decreaseExponent
    simp only [targetExponent_binary64, totalExponent, isTarget, isShift, isExponent]
  rw [UnpackedFloat.ofUInt64, UnpackedFloat.ofNat, UnpackedFloat.ofInt, UnpackedFloat.normalize,
    same, Int.compare_eq_gt.mpr (by omega)]
  exact isShifted.trans (roundWithAccuracy_exact .positive shiftedPos normal.le (by omega))

/-- A whole number with few enough bits is a machine number that is not below one. -/
theorem exists_unpack_ofUInt64
    {number : Nat}
    (positive : 0 < number)
    (fits : number < 2 ^ (53 : Nat)) :
    ∃ sign mantissa exponent positive',
      number.toUInt64.toFloat.toModel.unpack = .finite sign mantissa exponent positive' ∧
        -52 ≤ exponent ∧ exponent ≤ 0 := by
  have fewBits : number.log2 < 53 := (Nat.log2_lt positive.ne').mpr fits
  have normal : (number <<< (52 - number.log2)).log2 = 52 := by
    rw [log2_shiftLeft positive]
    omega
  have shiftedPos : 0 < number <<< (52 - number.log2) := Nat.shiftLeft_pos_iff.mpr positive
  have unpacked :
      number.toUInt64.toFloat.toModel.unpack =
        UnpackedFloat.unpack .binary64
          (UnpackedFloat.pack .binary64 (UnpackedFloat.ofUInt64 .binary64 number.toUInt64)) :=
    rfl
  rw [unpacked, ofUInt64_of_lt fits shiftedPos normal]
  obtain ⟨sign, mantissa, positive', same⟩ :=
    exists_unpack_pack_of_normal .positive shiftedPos normal
      (show -1074 ≤ (number.log2 : Int) - 52 by omega) (by omega)
  exact ⟨sign, mantissa, _, positive', same, by omega, by omega⟩

/-- Whether a number is finite and far from the largest and the smallest ones. -/
def IsModerate (unpacked : UnpackedFloat) : Bool :=
  match unpacked with
  | .finite _ mantissa exponent _ =>
      decide (mantissa < 2 ^ (53 : Nat) ∧ -104 ≤ exponent ∧ exponent ≤ 104)
  | _ => false

/-- The powers of ten in the table are machine numbers of moderate size. -/
theorem isModerate_powersOfTen :
    ∀ index : Fin Float.exactlyRepresentablePowersOfTen.size,
      IsModerate Float.exactlyRepresentablePowersOfTen[index].toModel.unpack = true := by
  decide +kernel

theorem exists_unpack_powerOfTen
    {exponent : Nat}
    (inTable : exponent < Float.exactlyRepresentablePowersOfTen.size) :
    ∃ sign mantissa binaryExponent positive,
      Float.exactlyRepresentablePowersOfTen[exponent].toModel.unpack =
          .finite sign mantissa binaryExponent positive ∧
        mantissa < 2 ^ (53 : Nat) ∧ -104 ≤ binaryExponent ∧ binaryExponent ≤ 104 := by
  have isModerate :
      IsModerate Float.exactlyRepresentablePowersOfTen[exponent].toModel.unpack = true :=
    isModerate_powersOfTen ⟨exponent, inTable⟩
  generalize Float.exactlyRepresentablePowersOfTen[exponent].toModel.unpack = unpacked
    at isModerate ⊢
  cases unpacked with
  | notANumber | infinity _ | zero _ =>
      cases isModerate
  | finite sign mantissa binaryExponent positive =>
      exact ⟨sign, mantissa, binaryExponent, positive, rfl, of_decide_eq_true isModerate⟩

/-- What is above half of the smallest number as digits over a power of ten. -/
theorem isNonzero_unpackedOfScientific
    {digits : Nat}
    {exponent : Int}
    (positive : 0 < digits)
    (large : exponent < 0 → 10 ^ exponent.natAbs < digits * 2 ^ (1075 : Nat)) :
    IsNonzero (UnpackedFloat.ofScientific .binary64 digits exponent) := by
  have bits : Format.binary64.mantissaBits = 53 := rfl
  have isLimit : (2 : Int) ^ Format.binary64.exponentBits = 2048 := rfl
  unfold UnpackedFloat.ofScientific
  rw [dif_neg positive.ne', isLimit]
  by_cases huge : exponent > 2048
  · rw [if_pos huge]
    exact .infinity .positive
  rw [if_neg huge]
  by_cases tiny : exponent < -(2048 + (digits.log2 : Int))
  · have tiny' : 2048 + digits.log2 < exponent.natAbs := by omega
    refine absurd (large (by omega)) (Nat.not_lt_of_ge ?_)
    calc
      digits * 2 ^ (1075 : Nat) ≤ 2 ^ (digits.log2 + 1) * 2 ^ (1075 : Nat) :=
        Nat.mul_le_mul_right _ Nat.lt_log2_self.le
      _ = 2 ^ (digits.log2 + 1 + 1075) := by rw [Nat.pow_add 2 (digits.log2 + 1)]
      _ ≤ 2 ^ exponent.natAbs := Nat.pow_le_pow_right (by decide) (by omega)
      _ ≤ 10 ^ exponent.natAbs := Nat.pow_le_pow_left (by decide) _
  rw [if_neg tiny]
  by_cases whole : 0 ≤ exponent
  · rw [if_pos whole]
    refine isNonzero_mul _ _ ?_
    rw [bits]
    decide
  · rw [if_neg whole]
    refine isNonzero_div _ _ (by decide) ?_
    have same : (-exponent).toNat = exponent.natAbs := by omega
    have places : ((0 : Int) - 0 + 1075).toNat = 1075 := rfl
    rw [same, places]
    exact large (by omega)

theorem isNonzero_ofScientific
    {digits exponent : Nat}
    {below : Bool}
    (positive : 0 < digits)
    (large : below = true → 10 ^ exponent < digits * 2 ^ (1075 : Nat)) :
    IsNonzero (Float.ofScientific digits below exponent).toModel.unpack := by
  unfold Float.ofScientific
  split
  · rename_i fast
    have inTable : exponent < Float.exactlyRepresentablePowersOfTen.size :=
      Nat.lt_of_le_of_lt fast.2 (by decide)
    obtain ⟨sign, mantissa, binaryExponent, mantissaPos, unpacked, notBelow, notAbove⟩ :=
      exists_unpack_ofUInt64 positive fast.1
    obtain ⟨sign', mantissa', binaryExponent', mantissaPos', unpacked', fits, moderate⟩ :=
      exists_unpack_powerOfTen inTable
    cases below with
    | false =>
        refine isNonzero_unpack_pack ?_
        rw [unpacked, unpacked']
        exact isNonzero_mul _ _ (by omega)
    | true =>
        refine isNonzero_unpack_pack ?_
        rw [unpacked, unpacked']
        refine isNonzero_div _ _ (by omega) ?_
        calc
          mantissa' < 2 ^ (53 : Nat) := fits
          _ ≤ 2 ^ (binaryExponent - binaryExponent' + 1075).toNat :=
            Nat.pow_le_pow_right (by decide) (by omega)
          _ ≤ mantissa * 2 ^ (binaryExponent - binaryExponent' + 1075).toNat :=
            Nat.le_mul_of_pos_left _ mantissaPos
  · refine isNonzero_unpack_pack (isNonzero_unpackedOfScientific positive ?_)
    cases below with
    | false =>
        intro isNegative
        exact absurd isNegative (Int.not_lt.mpr (Int.natCast_nonneg exponent))
    | true =>
        intro _
        rw [if_pos rfl, Int.natAbs_negOfNat]
        exact large rfl

theorem IsNonzero.neg
    {unpacked : UnpackedFloat}
    (nonzero : IsNonzero unpacked) :
    IsNonzero unpacked.neg := by
  cases nonzero with
  | notANumber => exact .notANumber
  | infinity sign => exact .infinity _
  | finite fits notBelow => exact .finite fits notBelow

/-- A numeral for something above half of the smallest number is not read as zero. -/
theorem ofDecimal_beq_zero
    {digits : Nat}
    {exponent : Int}
    (negative : Bool)
    (positive : 0 < digits)
    (large : exponent < 0 → 10 ^ exponent.natAbs < digits * 2 ^ (1075 : Nat)) :
    (ofDecimal (.finite negative digits exponent) == 0.0) = false := by
  have magnitude :
      IsNonzero (Float.ofScientific digits (exponent < 0) exponent.natAbs).toModel.unpack :=
    isNonzero_ofScientific positive fun isNegative => large (of_decide_eq_true isNegative)
  apply beq_zero_eq_false
  cases negative with
  | false => exact magnitude
  | true => exact isNonzero_unpack_pack magnitude.neg

end WidgetMarkup.Number.Double
