import WidgetMarkup.Number.Decimal
import WidgetMarkup.Number.Shortest

namespace WidgetMarkup.Number.Double

/-!
# Double precision numbers

Reading, writing and the remainder of the numbers that expressions compute with.
-/

-- Powers of natural numbers are those of core, also where a library has powers of its own.
attribute [local instance (high)] instPowNat

/-- The value that the bits of a number stand for. -/
def decode (number : Float) : BinaryValue :=
  BinaryFormat.double.decode number.toBits.toNat

/-- The number nearest to an exact decimal. -/
def ofDecimal : Decimal → Float
  | .finite negative digits exponent =>
      let magnitude := Float.ofScientific digits (exponent < 0) exponent.natAbs
      if negative then -magnitude else magnitude
  | .infinite negative => if negative then -(1.0 / 0.0) else 1.0 / 0.0
  | .invalid => 0.0 / 0.0

/-- The number that a numeral spells. -/
def read? (characters : List Char) : Option Float :=
  (Decimal.read? characters).map ofDecimal

/-- The number that a numeral spells, if it is finite. -/
def readFinite? (characters : List Char) : Option Float :=
  (read? characters).filter Float.isFinite

/-- The text with the fewest digits that read back, without an exponent. -/
def render (number : Float) : String :=
  renderShortest .double (decode number)

/-- The whole number that a number is, if it is one and below ten to the fifteenth in size. -/
def smallWhole? (number : Float) : Option Int :=
  match decode number with
  | .finite negative significand exponent =>
      let ratio := Ratio.scaled 2 significand exponent
      if ratio.numerator % ratio.denominator = 0 ∧
          ratio.numerator / ratio.denominator < 10 ^ (15 : Nat) then
        let magnitude : Int := (ratio.numerator / ratio.denominator : Nat)
        some (if negative then -magnitude else magnitude)
      else
        none
  | _ => none

/--
What is left of the dividend after taking away the divisor a whole number of times towards zero,
exactly. It has the sign of the dividend.
-/
def remainder (dividend divisor : Float) : Float :=
  match decode dividend, decode divisor with
  | .finite negative significand exponent, .finite _ divisorSignificand divisorExponent =>
      if divisorSignificand = 0 then
        0.0 / 0.0
      else
        let common := min exponent divisorExponent
        let left :=
          significand * 2 ^ (exponent - common).toNat %
            (divisorSignificand * 2 ^ (divisorExponent - common).toNat)
        .ofBits (.ofNat (BinaryFormat.double.encode negative left common))
  | .finite .., .infinite _ => dividend
  | _, _ => 0.0 / 0.0

end WidgetMarkup.Number.Double
