import WidgetMarkup.Number.BinaryFormat

namespace WidgetMarkup.Number

/-!
# The shortest decimal that reads back

A binary number is written with the fewest decimal digits that round to it again, and with those
digits nearest to its value. For each count of digits the two neighbours of the value on that
decimal grid are tested against the interval of reals that round to the number; the first grid
with a neighbour in the interval wins, then the nearer neighbour, then the upper one.
-/

-- Powers of natural numbers are those of core, also where a library has powers of its own.
attribute [local instance (high)] instPowNat

/-- The ratio of two natural numbers. -/
structure Ratio where
  numerator : Nat
  denominator : Nat
deriving Repr, DecidableEq

namespace Ratio

/-- A natural number times a power of a base, as a ratio. -/
def scaled (base factor : Nat) (exponent : Int) : Ratio :=
  if 0 ≤ exponent then
    ⟨factor * base ^ exponent.toNat, 1⟩
  else
    ⟨factor, base ^ (-exponent).toNat⟩

/-- Whether one ratio is below another. -/
def below (left right : Ratio) : Bool :=
  left.numerator * right.denominator < right.numerator * left.denominator

/-- The quotient of two ratios, rounded down. -/
def quotient (left right : Ratio) : Nat :=
  (left.numerator * right.denominator) / (left.denominator * right.numerator)

/-- The sum of two ratios. -/
def add (left right : Ratio) : Ratio :=
  ⟨left.numerator * right.denominator + right.numerator * left.denominator,
    left.denominator * right.denominator⟩

/-- The number of decimal digits of a natural number; zero has none. -/
def countDigits (number : Nat) : Nat :=
  if number = 0 then 0 else (Nat.toDigits 10 number).length

/-- The power of ten of the first decimal digit of a positive ratio. -/
def leadingPlace (ratio : Ratio) : Int :=
  if ratio.denominator ≤ ratio.numerator then
    (countDigits (ratio.numerator / ratio.denominator) : Int) - 1
  else
    -(countDigits ((ratio.denominator - 1) / ratio.numerator) : Int)

end Ratio

/-- The reals that round to one number: from `lowest` to `highest`, with the ends if `closed`. -/
structure RoundingInterval where
  lowest : Ratio
  value : Ratio
  highest : Ratio
  closed : Bool
deriving Repr

namespace RoundingInterval

/--
The reals that round to a positive number of the format. The neighbour below a power of two is
half as far away as the one above, except among the smallest numbers.
-/
def ofNumber (format : BinaryFormat) (significand : Nat) (exponent : Int) : RoundingInterval :=
  let atPower := significand = 2 ^ (format.precision - 1) ∧ format.leastExponent < exponent
  { lowest := .scaled 2 (4 * significand - if atPower then 1 else 2) (exponent - 2)
    value := .scaled 2 (4 * significand) (exponent - 2)
    highest := .scaled 2 (4 * significand + 2) (exponent - 2)
    closed := significand % 2 == 0 }

/-- Whether a ratio lies in the interval. -/
def contains (interval : RoundingInterval) (ratio : Ratio) : Bool :=
  if interval.closed then
    !ratio.below interval.lowest && !interval.highest.below ratio
  else
    interval.lowest.below ratio && ratio.below interval.highest

/-- The multiple of the grid's unit in the interval that is nearest to the value, if there is one. -/
def nearestOnGrid? (interval : RoundingInterval) (place : Int) : Option Nat :=
  let unit := Ratio.scaled 10 1 place
  let under := interval.value.quotient unit
  let lower := Ratio.scaled 10 under place
  let upper := Ratio.scaled 10 (under + 1) place
  match interval.contains lower, interval.contains upper with
  | true, true =>
      if (lower.add upper).below (interval.value.add interval.value) then
        some (under + 1)
      else if (interval.value.add interval.value).below (lower.add upper) then
        some under
      else
        some (under + 1)
  | true, false => some under
  | false, true => some (under + 1)
  | false, false => none

/-- The first grid with a multiple in the interval, from the given place downwards. -/
def coarsest (interval : RoundingInterval) : Nat → Int → Nat × Int
  | 0, place => (interval.value.quotient (.scaled 10 1 place), place)
  | attempts + 1, place =>
      match interval.nearestOnGrid? place with
      | some digits => (digits, place)
      | none => coarsest interval attempts (place - 1)

/--
The shortest digits that round to the number, and the place of the last of them. Only a power of
ten right above the value can end in a zero, and it loses that zero.
-/
def shortest (interval : RoundingInterval) : Nat × Int :=
  let (digits, place) := interval.coarsest 17 interval.value.leadingPlace
  if digits % 10 = 0 then (digits / 10, place + 1) else (digits, place)

end RoundingInterval

/-- The digits of a number whose last digit stands at the given place, with a point and no exponent. -/
def positional (digits : Nat) (place : Int) : List Char :=
  let spelled := Nat.toDigits 10 digits
  if 0 ≤ place then
    spelled ++ List.replicate place.toNat '0'
  else
    let decimals := (-place).toNat
    let padded := List.replicate (decimals + 1 - spelled.length) '0' ++ spelled
    let whole := padded.take (padded.length - decimals)
    let fraction := padded.drop (padded.length - decimals)
    whole ++ '.' :: fraction

/-- The text of a number with the fewest digits that read back, never with an exponent. -/
def renderShortest (format : BinaryFormat) : BinaryValue → String
  | .invalid => "NaN"
  | .infinite negative => if negative then "-inf" else "inf"
  | .finite negative significand exponent =>
      let magnitude :=
        if significand = 0 then
          ['0']
        else
          let (digits, place) := (RoundingInterval.ofNumber format significand exponent).shortest
          positional digits place
      String.ofList (if negative then '-' :: magnitude else magnitude)

end WidgetMarkup.Number
