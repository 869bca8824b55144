namespace WidgetMarkup.Number

/-!
# Binary floating point formats

What the bits of a binary floating point number say: a sign, and either a whole number times a
power of two, an infinity or no number at all. Both widths that the language uses are instances
of one description.
-/

/-- A binary interchange format. -/
structure BinaryFormat where
  /-- The bits of the significand, its leading one included. -/
  precision : Nat
  /-- The bits of the exponent field. -/
  exponentBits : Nat
deriving Repr, DecidableEq

/-- What the bits of a number say. -/
inductive BinaryValue where
  /-- The number `significand * 2 ^ exponent`, below zero if `negative`. -/
  | finite (negative : Bool) (significand : Nat) (exponent : Int)
  /-- An infinity. -/
  | infinite (negative : Bool)
  /-- No number at all. -/
  | invalid
deriving Repr, DecidableEq

namespace BinaryFormat

-- Powers of natural numbers are those of core, also where a library has powers of its own.
attribute [local instance (high)] instPowNat

/-- The format of single precision. -/
def single : BinaryFormat := ⟨24, 8⟩

/-- The format of double precision. -/
def double : BinaryFormat := ⟨53, 11⟩

/-- The exponent of the smallest numbers, whose significand counts units of that power of two. -/
def leastExponent (format : BinaryFormat) : Int :=
  3 - (2 ^ (format.exponentBits - 1) : Int) - format.precision

/-- The value that the bits stand for. -/
def decode (format : BinaryFormat) (bits : Nat) : BinaryValue :=
  let fractionBits := format.precision - 1
  let fraction := bits % 2 ^ fractionBits
  let field := bits / 2 ^ fractionBits % 2 ^ format.exponentBits
  let negative := bits / 2 ^ (fractionBits + format.exponentBits) % 2 == 1
  if field = 2 ^ format.exponentBits - 1 then
    if fraction = 0 then .infinite negative else .invalid
  else if field = 0 then
    .finite negative fraction format.leastExponent
  else
    .finite negative (2 ^ fractionBits + fraction) (format.leastExponent + (field - 1 : Nat))

/--
The bits of `significand * 2 ^ exponent`, which must be a number of the format with an exponent
not below the least.
-/
def encode
    (format : BinaryFormat)
    (negative : Bool)
    (significand : Nat)
    (exponent : Int) :
    Nat :=
  let room := format.precision - 1 - significand.log2
  let shift := min room (exponent - format.leastExponent).toNat
  let field := (exponent - shift - format.leastExponent).toNat
  let magnitude :=
    if significand = 0 then 0 else field * 2 ^ (format.precision - 1) + significand * 2 ^ shift
  if negative then
    2 ^ (format.precision - 1 + format.exponentBits) + magnitude
  else
    magnitude

end BinaryFormat

end WidgetMarkup.Number
