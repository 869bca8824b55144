import WidgetMarkup.Number.Natural
import WidgetMarkup.Text.Case

namespace WidgetMarkup.Number

/-!
# Decimal numerals

The grammar of numbers in attribute values: an optional sign, then digits with at most one point
and an optional power of ten, or one of the words for infinity and for no number at all. Reading
gives the exact value; rounding it to a machine format comes after.
-/

/-- What a numeral says, exactly. -/
inductive Decimal where
  /-- The number `digits * 10 ^ exponent`, below zero if `negative`. -/
  | finite (negative : Bool) (digits : Nat) (exponent : Int)
  /-- An infinity. -/
  | infinite (negative : Bool)
  /-- No number at all. -/
  | invalid
deriving Repr, DecidableEq

namespace Decimal

/-- The sign in front of a numeral and the characters after it. -/
def splitSign : List Char → Bool × List Char
  | '-' :: rest => (true, rest)
  | '+' :: rest => (false, rest)
  | characters => (false, characters)

/-- The power of ten at the end of a numeral: nothing, or `e`, an optional sign and digits. -/
def readExponent? : List Char → Option Int
  | [] => some 0
  | mark :: rest =>
      if mark = 'e' ∨ mark = 'E' then
        let (negative, digits) := splitSign rest
        if digits.isEmpty then
          none
        else
          (digitsValue? 10 digits 0).map fun value => if negative then -(value : Int) else value
      else
        none

/-- The part of a numeral after its sign, if it is written in digits. -/
def readDigits? (negative : Bool) (characters : List Char) : Option Decimal :=
  let whole := characters.takeWhile Char.isDigit
  let afterWhole := characters.dropWhile Char.isDigit
  let afterPoint := if afterWhole.head? = some '.' then afterWhole.tail else afterWhole
  let fraction := if afterWhole.head? = some '.' then afterPoint.takeWhile Char.isDigit else []
  let afterFraction := afterPoint.drop fraction.length
  if whole.isEmpty && fraction.isEmpty then
    none
  else
    match digitsValue? 10 (whole ++ fraction) 0, readExponent? afterFraction with
    | some digits, some exponent => some (finite negative digits (exponent - fraction.length))
    | _, _ => none

/-- The exact meaning of a numeral, or `none` if the characters are no numeral. -/
def read? (characters : List Char) : Option Decimal :=
  let (negative, rest) := splitSign characters
  match String.ofList (rest.map Char.toLower) with
  | "inf" => some (infinite negative)
  | "infinity" => some (infinite negative)
  | "nan" => some invalid
  | _ => readDigits? negative rest

end Decimal

end WidgetMarkup.Number
