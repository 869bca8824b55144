import WidgetMarkup.Text.Character

namespace WidgetMarkup.Number

/-!
# Natural numbers in digits

Reading a natural number below a limit from its digits. One plus sign may stand in front.
-/

/-- The number that digits of a base spell, most significant first. -/
def digitsValue? (base : Nat) : List Char → Nat → Option Nat
  | [], value => some value
  | character :: rest, value =>
      match Text.digitValue? character with
      | some digit => if digit < base then digitsValue? base rest (value * base + digit) else none
      | none => none

/-- The characters after one plus sign in front of them. -/
def dropPlus : List Char → List Char
  | '+' :: rest => rest
  | characters => characters

/-- The number below the limit that the characters spell: one digit or more after an optional plus. -/
def readNatural? (base limit : Nat) (characters : List Char) : Option Nat :=
  match dropPlus characters with
  | [] => none
  | digits =>
      match digitsValue? base digits 0 with
      | some value => if value < limit then some value else none
      | none => none

end WidgetMarkup.Number
