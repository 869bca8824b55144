import WidgetMarkup.Problem
import WidgetMarkup.Widget.Tree

namespace WidgetMarkup

/-!
# Blueprints

What has to be known of a widget before it can be made: some attributes of a tag are written into
a blueprint first. Tags take these attributes in groups, called features.
-/

/-- A group of attributes that go into a blueprint. -/
inductive Feature where
  | base
  | text
  | range
  | aligned
deriving Repr, DecidableEq, Inhabited

namespace Feature

/-- Every feature. -/
def all : List Feature :=
  [base, text, range, aligned]

/-- The name of a feature. -/
def name : Feature → String
  | base => "Base"
  | text => "Text"
  | range => "Range"
  | aligned => "Aligned"

end Feature

/-- The parts of a range that were asked for. -/
structure RangeRequest where
  least : Option Float32 := none
  greatest : Option Float32 := none
  step : Option Float32 := none
  value : Option Float32 := none
deriving Repr, Inhabited

/-- What is known of a widget before it is made. -/
structure Blueprint where
  style : String := "default"
  text : Option String := none
  vertical : Option Bool := none
  range : RangeRequest := {}
deriving Repr, Inhabited

namespace RangeRequest

/--
The range that was asked for: from zero to a hundred in steps of one, with its least number as
value, unless something else was said.
-/
def resolve (request : RangeRequest) : Except Obstacle ValueRange :=
  let least := request.least.getD 0.0
  let greatest := request.greatest.getD 100.0
  let step := request.step.getD 1.0
  let value := request.value.getD least
  if least > greatest then
    .error (.rangeInverted least greatest)
  else if step ≤ 0.0 then
    .error (.stepNotPositive step)
  else if least ≤ value ∧ value ≤ greatest then
    .ok ⟨least, greatest, step, value⟩
  else
    .error (.valueOutsideRange value least greatest)

end RangeRequest

end WidgetMarkup
