import WidgetMarkup.Number.Decimal
import WidgetMarkup.Number.Shortest

namespace WidgetMarkup.Number.Single

/-!
# Single precision numbers

Reading and writing the numbers that widgets hold: sizes, colors and ranges.
-/

/-- The value that the bits of a number stand for. -/
def decode (number : Float32) : BinaryValue :=
  BinaryFormat.single.decode number.toBits.toNat

/-- The number nearest to an exact decimal. -/
def ofDecimal : Decimal → Float32
  | .finite negative digits exponent =>
      let magnitude := Float32.ofScientific digits (exponent < 0) exponent.natAbs
      if negative then -magnitude else magnitude
  | .infinite negative => if negative then -(1.0 / 0.0) else 1.0 / 0.0
  | .invalid => 0.0 / 0.0

/-- The number that a numeral spells. -/
def read? (characters : List Char) : Option Float32 :=
  (Decimal.read? characters).map ofDecimal

/-- The number that a numeral spells, if it is finite. -/
def readFinite? (characters : List Char) : Option Float32 :=
  (read? characters).filter Float32.isFinite

/-- The text with the fewest digits that read back, without an exponent. -/
def render (number : Float32) : String :=
  renderShortest .single (decode number)

end WidgetMarkup.Number.Single
