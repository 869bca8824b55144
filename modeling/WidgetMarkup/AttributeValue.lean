import WidgetMarkup.Number.Natural
import WidgetMarkup.Number.Single
import WidgetMarkup.Text.Blank
import WidgetMarkup.Text.Case

namespace WidgetMarkup

/-!
# Values of attributes

Reading numbers, truth values, names and lists from the raw text of an attribute. Blanks around a
value do not matter; an error keeps the text as it was written.
-/

/-- Why a raw text is no value of the kind that was asked for. -/
inductive ValueError where
  | notANumber (raw : String)
  | notACount (raw : String)
  | notATruthValue (raw : String)
  | notAColor (raw : String)
  | notAnAlignment (raw : String)
  | empty
deriving Repr, DecidableEq

namespace ValueError

/-- The message of an error. -/
def message : ValueError → String
  | notANumber raw => "`" ++ raw ++ "` is not a number"
  | notACount raw => "`" ++ raw ++ "` is not a non-negative integer"
  | notATruthValue raw => "`" ++ raw ++ "` is not a boolean (expected true or false)"
  | notAColor raw =>
      "`" ++ raw ++ "` is not a color (expected #rrggbb, #rrggbbaa or a color name)"
  | notAnAlignment raw => "`" ++ raw ++ "` is not an alignment"
  | empty => "value must not be empty"

end ValueError

namespace AttributeValue

/-- Reads a finite number. -/
def readNumber (raw : String) : Except ValueError Float32 :=
  match Number.Single.readFinite? (Text.trimCharacters raw.toList) with
  | some value => .ok value
  | none => .error (.notANumber raw)

/-- The counts are the numbers that fit into sixty four bits. -/
def countLimit : Nat := UInt64.size

/-- Reads a count. -/
def readCount (raw : String) : Except ValueError Nat :=
  match Number.readNatural? 10 countLimit (Text.trimCharacters raw.toList) with
  | some value => .ok value
  | none => .error (.notACount raw)

/-- Reads a count of at least one. -/
def readPositive (raw : String) : Except ValueError Nat :=
  match readCount raw with
  | .ok 0 => .error (.notACount raw)
  | .ok value => .ok value
  | .error error => .error error

/-- Reads a truth value, in any case of its letters. -/
def readTruth (raw : String) : Except ValueError Bool :=
  let trimmed := Text.trim raw
  if Text.sameName trimmed "true" then
    .ok true
  else if Text.sameName trimmed "false" then
    .ok false
  else
    .error (.notATruthValue raw)

/-- Reads a name: any text that is not blank, without the blanks around it. -/
def readName (raw : String) : Except ValueError String :=
  let trimmed := Text.trim raw
  if trimmed.isEmpty then .error .empty else .ok trimmed

/-- The trimmed items of a list; a blank text is the empty list. -/
def items (separator : Char) (raw : String) : List String :=
  if Text.isBlankText raw then [] else (Text.split separator raw).map Text.trim

end AttributeValue

end WidgetMarkup
