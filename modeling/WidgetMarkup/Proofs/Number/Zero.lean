import WidgetMarkup.Proofs.Number.Rounding

namespace WidgetMarkup.Number.Double

/-!
# Which numbers are zero

What is packed without being zero is unpacked as something that is not zero, and a number is equal
to zero exactly if its bits say so, whatever its sign is.
-/

-- Powers of natural numbers are those of core, also where a library has powers of its own.
attribute [local instance (high)] instPowNat

open Float.Model UnpackedFloat

section Packing

/-- What the fields of a number stand for. -/
inductive Unpacks (bits : BitVec Format.binary64.numBits) : UnpackedFloat → Prop where
  | infinity
      (sign : Sign) :
      unpackExponent bits = -1#11 →
      Unpacks bits (.infinity sign)
  | notANumber :
      unpackExponent bits = -1#11 →
      Unpacks bits .notANumber
  | zero
      (sign : Sign) :
      unpackExponent bits = 0#11 →
      unpackMantissa bits = 0#52 →
      Unpacks bits (.zero sign)
  | subnormal
      (sign : Sign)
      {exponent : Int}
      (positive : 0 < (unpackMantissa bits).toNat) :
      unpackExponent bits = 0#11 →
      unpackMantissa bits ≠ 0#52 →
      exponent = -1074 →
      Unpacks bits (.finite sign (unpackMantissa bits).toNat exponent positive)
  | normal
      (sign : Sign)
      (positive : 0 < (1#1 ++ unpackMantissa bits).toNat)
      {exponent : Int} :
      unpackExponent bits ≠ -1#11 →
      unpackExponent bits ≠ 0#11 →
      exponent = (unpackExponent bits).toNat - 1075 →
      Unpacks bits (.finite sign (1#1 ++ unpackMantissa bits).toNat exponent positive)

theorem unpacks
    (bits : BitVec Format.binary64.numBits) :
    Unpacks bits (UnpackedFloat.unpack .binary64 bits) := by
  unfold UnpackedFloat.unpack
  dsimp only
  by_cases allOnes : unpackExponent bits = -1#11
  · rw [if_pos allOnes]
    by_cases noMantissa : unpackMantissa bits = 0#52
    · rw [if_pos noMantissa]
      exact .infinity _ allOnes
    · rw [if_neg noMantissa]
      exact .notANumber allOnes
  · rw [if_neg allOnes]
    by_cases noExponent : unpackExponent bits = 0#11
    · rw [if_pos noExponent]
      by_cases noMantissa : unpackMantissa bits = 0#52
      · rw [dif_pos noMantissa]
        exact .zero _ noExponent noMantissa
      · rw [dif_neg noMantissa]
        refine .subnormal _ _ noExponent noMantissa ?_
        rw [noExponent]
        decide
    · rw [if_neg noExponent]
      exact .normal _ _ allOnes noExponent rfl

/-- The bits of zeros are zeros, but for the sign. -/
theorem unpack_eq_zero_iff
    (bits : BitVec Format.binary64.numBits) :
    (∃ sign, UnpackedFloat.unpack .binary64 bits = .zero sign) ↔
      unpackExponent bits = 0#11 ∧ unpackMantissa bits = 0#52 := by
  have unpacks := unpacks bits
  generalize UnpackedFloat.unpack .binary64 bits = unpacked at unpacks
  cases unpacks with
  | infinity _ allOnes | notANumber allOnes =>
      refine iff_of_false nofun fun isZero => ?_
      rw [isZero.1] at allOnes
      revert allOnes
      decide
  | zero sign noExponent noMantissa =>
      exact iff_of_true ⟨sign, rfl⟩ ⟨noExponent, noMantissa⟩
  | subnormal _ _ _ isMantissa =>
      exact iff_of_false nofun fun isZero => isMantissa isZero.2
  | normal _ _ _ isExponent =>
      exact iff_of_false nofun fun isZero => isExponent isZero.1

/-- Every number is a zero or not. -/
theorem zero_or_isNonzero
    (bits : BitVec Format.binary64.numBits) :
    (∃ sign, UnpackedFloat.unpack .binary64 bits = .zero sign) ∨
      IsNonzero (UnpackedFloat.unpack .binary64 bits) := by
  have unpacks := unpacks bits
  generalize UnpackedFloat.unpack .binary64 bits = unpacked at unpacks ⊢
  cases unpacks with
  | infinity sign => exact .inr (.infinity sign)
  | notANumber => exact .inr .notANumber
  | zero sign => exact .inl ⟨sign, rfl⟩
  | subnormal _ _ _ _ isLeast =>
      have bound : (unpackMantissa bits).toNat < 2 ^ (52 : Nat) := (unpackMantissa bits).isLt
      exact .inr (.finite (by omega) (by omega))
  | normal _ _ _ isExponent isCounted =>
      have bound := (1#1 ++ unpackMantissa bits).isLt
      have positive : (unpackExponent bits).toNat ≠ 0 := by
        rwa [ne_eq, ← BitVec.toNat_inj, BitVec.toNat_ofNat] at isExponent
      exact .inr (.finite bound (by omega))

/-- What is not zero is not zero when it is unpacked again. -/
theorem isNonzero_unpack_pack
    {unpacked : UnpackedFloat}
    (nonzero : IsNonzero unpacked) :
    IsNonzero (UnpackedFloat.unpack .binary64 (UnpackedFloat.pack .binary64 unpacked)) := by
  refine (zero_or_isNonzero _).resolve_left ?_
  rw [unpack_eq_zero_iff]
  rintro ⟨noExponent, noMantissa⟩
  cases nonzero with
  | notANumber =>
      exact absurd noExponent (by decide)
  | infinity sign =>
      revert noExponent
      cases sign <;> decide
  | @finite sign mantissa exponent positive fits notBelow =>
      have bias : Format.binary64.exponentBias = 1023 := rfl
      have bits : Format.binary64.mantissaBits = 53 := rfl
      unfold UnpackedFloat.pack at noExponent noMantissa
      simp only [bias, bits] at noExponent noMantissa
      split at noExponent
      · revert noExponent
        cases sign <;> decide
      · rename_i small
        rw [if_neg small] at noMantissa
        split at noExponent
        · rename_i normal
          rw [unpackExponent_packComponents, ← BitVec.toNat_inj, BitVec.toNat_ofNat,
            BitVec.toNat_ofNat] at noExponent
          omega
        · rename_i subnormal
          rw [if_neg subnormal, unpackMantissa_packComponents, ← BitVec.toNat_inj,
            BitVec.toNat_ofNat, BitVec.toNat_ofNat] at noMantissa
          have fewBits : mantissa.log2 < 53 := (Nat.log2_lt positive.ne').mpr fits
          have less : mantissa < 2 ^ (52 : Nat) := (Nat.log2_lt positive.ne').mp (by omega)
          rw [Nat.mod_eq_of_lt less] at noMantissa
          exact positive.ne' noMantissa

end Packing

section Bits

theorem toNat_unpackMantissa
    (bits : BitVec Format.binary64.numBits) :
    (unpackMantissa bits).toNat = bits.toNat % 2 ^ (52 : Nat) := by
  simp [unpackMantissa]

theorem toNat_unpackExponent
    (bits : BitVec Format.binary64.numBits) :
    (unpackExponent bits).toNat = bits.toNat / 2 ^ (52 : Nat) % 2 ^ (11 : Nat) := by
  simp [unpackExponent, Nat.shiftRight_eq_div_pow]

/-- Zeros are equal to zero, whatever their sign is, and no other number is. -/
theorem beq_zero_iff
    (number : Float) :
    (number == 0.0) = true ↔ ∃ sign, number.toModel.unpack = .zero sign := by
  have zero : (0.0 : Float).toModel.unpack = .zero .positive := rfl
  have same :
      (number == 0.0) = (number.toModel.unpack.compare (0.0 : Float).toModel.unpack == some .eq) :=
    rfl
  rw [same, zero]
  cases number.toModel.unpack with
  | zero sign =>
      exact iff_of_true rfl ⟨sign, rfl⟩
  | notANumber =>
      exact iff_of_false Bool.false_ne_true nofun
  | infinity sign | finite sign =>
      cases sign <;> exact iff_of_false Bool.false_ne_true nofun

/-- A number is not zero if it is none when it is unpacked. -/
theorem beq_zero_eq_false
    {number : Float}
    (nonzero : IsNonzero number.toModel.unpack) :
    (number == 0.0) = false := by
  rw [← Bool.not_eq_true, beq_zero_iff]
  rintro ⟨sign, isZero⟩
  rw [isZero] at nonzero
  cases nonzero

/-- What the bits of a number say, by the fields of its exponent and of its fraction. -/
theorem decode_eq
    (number : Float) :
    let field := number.toBits.toNat / 2 ^ (52 : Nat) % 2 ^ (11 : Nat)
    let fraction := number.toBits.toNat % 2 ^ (52 : Nat)
    let negative := number.toBits.toNat / 2 ^ (63 : Nat) % 2 == 1
    decode number =
      if field = 2047 then
        if fraction = 0 then .infinite negative else .invalid
      else if field = 0 then
        .finite negative fraction (-1074)
      else
        .finite negative (2 ^ (52 : Nat) + fraction) (-1074 + (field - 1 : Nat)) :=
  rfl

theorem beq_zero_iff_bits
    (number : Float) :
    (number == 0.0) = true ↔
      number.toBits.toNat / 2 ^ (52 : Nat) % 2 ^ (11 : Nat) = 0 ∧
        number.toBits.toNat % 2 ^ (52 : Nat) = 0 := by
  rw [beq_zero_iff, Float.Model.unpack, unpack_eq_zero_iff, ← BitVec.toNat_inj,
    ← BitVec.toNat_inj, toNat_unpackExponent, toNat_unpackMantissa]
  rfl

/-- The bits of a finite number say whether it is zero. -/
theorem beq_zero_iff_of_decode
    {number : Float}
    {negative : Bool}
    {significand : Nat}
    {exponent : Int}
    (decoded : decode number = .finite negative significand exponent) :
    -1074 ≤ exponent ∧ ((number == 0.0) = true ↔ significand = 0) := by
  rw [beq_zero_iff_bits]
  rw [decode_eq] at decoded
  split at decoded
  · split at decoded <;> cases decoded
  · split at decoded
    · rename_i noExponent
      cases decoded
      exact ⟨Int.le_refl _, by simp [noExponent]⟩
    · rename_i isExponent
      cases decoded
      refine ⟨by omega, ?_⟩
      simp [isExponent]

/-- A number that is zero is finite. -/
theorem exists_decode_of_beq_zero
    {number : Float}
    (isZero : (number == 0.0) = true) :
    ∃ negative, decode number = .finite negative 0 (-1074) := by
  obtain ⟨noExponent, noFraction⟩ := (beq_zero_iff_bits number).mp isZero
  rw [decode_eq]
  simp [noExponent, noFraction]

end Bits

end WidgetMarkup.Number.Double
