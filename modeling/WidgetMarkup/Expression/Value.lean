import WidgetMarkup.Number.Double
import WidgetMarkup.Text.Blank
import WidgetMarkup.Text.Case

namespace WidgetMarkup.Expression

/-!
# Values

What expressions compute with. Variables hold text; a text that spells a number, a truth value or
nothing is read as such, and every value has a text to be bound to again.
-/

/-- The value of an expression. -/
inductive Value where
  | null
  | boolean (value : Bool)
  | number (value : Float)
  | text (value : String)
deriving Repr

namespace Value

/-- The finite number that a text spells between blanks. -/
def numberInText? (text : String) : Option Float :=
  Number.Double.readFinite? (Text.trimCharacters text.toList)

/-- The value that a bound text stands for. Text that is nothing else keeps its blanks. -/
def ofBinding (raw : String) : Value :=
  match Text.trim raw with
  | "true" => .boolean true
  | "false" => .boolean false
  | "null" => .null
  | _ =>
      match numberInText? raw with
      | some value => .number value
      | none => .text raw

/-- Whether a value counts as true in a condition. -/
def isTruthy : Value → Bool
  | null => false
  | boolean value => value
  | number value => value != 0.0
  | text value => !(value.isEmpty || Text.sameName value "false" || value == "null")

/-- The number that a value is or spells. -/
def number? : Value → Option Float
  | null => none
  | boolean _ => none
  | number value => some value
  | text value => numberInText? value

/-- The text of a number: whole numbers below ten to the fifteenth have no point. -/
def renderNumber (value : Float) : String :=
  match Number.Double.smallWhole? value with
  | some whole => toString whole
  | none => Number.Double.render value

/-- The text of a value. -/
def render : Value → String
  | null => "null"
  | boolean true => "true"
  | boolean false => "false"
  | number value => renderNumber value
  | text value => value

end Value

end WidgetMarkup.Expression
