import WidgetMarkup.Expression.Postfix
import WidgetMarkup.Expression.Reading
import WidgetMarkup.Expression.Value

namespace WidgetMarkup.Expression

/-!
# Evaluating expressions

Steps work on a list of values, the newest first. Identifiers and placeholders are looked up by
the caller in the order of the source, and every operand is looked up: no operator skips one.
-/

/-- The values of two operands that have to be numbers. -/
def numbers (operator : Operator) (left right : Value) : Except ExpressionError (Float × Float) :=
  match left.number?, right.number? with
  | some first, some second => .ok (first, second)
  | _, _ => .error (.notNumeric operator left.render right.render)

/-- Whether two values are equal: as numbers if both are numbers, else as texts. -/
def areEqual (left right : Value) : Bool :=
  match left.number?, right.number? with
  | some first, some second => first == second
  | _, _ => left.render == right.render

/-- Refuses a divisor of zero. -/
def dividing
    (divide : Float → Float → Float)
    (operands : Float × Float) :
    Except ExpressionError Value :=
  if operands.2 == 0.0 then
    .error .divisionByZero
  else
    .ok (.number (divide operands.1 operands.2))

/-- The value of an operator between two operands. -/
def applyBinary (operator : Operator) (left right : Value) : Except ExpressionError Value :=
  match operator with
  | .or => .ok (.boolean (left.isTruthy || right.isTruthy))
  | .and => .ok (.boolean (left.isTruthy && right.isTruthy))
  | .equal => .ok (.boolean (areEqual left right))
  | .notEqual => .ok (.boolean (!areEqual left right))
  | .below => (numbers operator left right).map fun pair => .boolean (pair.1 < pair.2)
  | .atMost => (numbers operator left right).map fun pair => .boolean (pair.1 ≤ pair.2)
  | .above => (numbers operator left right).map fun pair => .boolean (pair.1 > pair.2)
  | .atLeast => (numbers operator left right).map fun pair => .boolean (pair.1 ≥ pair.2)
  | .plus =>
      match left.number?, right.number? with
      | some first, some second => .ok (.number (first + second))
      | _, _ => .ok (.text (left.render ++ right.render))
  | .minus => (numbers operator left right).map fun pair => .number (pair.1 - pair.2)
  | .times => (numbers operator left right).map fun pair => .number (pair.1 * pair.2)
  | .divide => (numbers operator left right).bind (dividing fun first second => first / second)
  | .modulo => (numbers operator left right).bind (dividing Number.Double.remainder)
  | .not => .error (.unexpectedToken (.operator .not))

/-- The value of an operator before a single operand. -/
def applyUnary (operator : Operator) (operand : Value) : Except ExpressionError Value :=
  match operator with
  | .not => .ok (.boolean (!operand.isTruthy))
  | _ =>
      match operand.number? with
      | some value => .ok (.number (-value))
      | none => .error (.notNumeric .minus "" operand.render)

/-- The value of an identifier, given what it is bound to: an unbound one is its own name. -/
def identifierValue (name : String) (bound : Option String) : Value :=
  match bound with
  | some raw => .ofBinding raw
  | none => .text name

/-- The values after a step, the newest first. -/
def Step.run
    [Monad m]
    (resolve : String → m (Option String))
    (values : List Value) :
    Step → ExceptT ExpressionError m (List Value)
  | .number value => return .number value :: values
  | .text value => return .text value :: values
  | .identifier name =>
      match name with
      | "true" => return .boolean true :: values
      | "false" => return .boolean false :: values
      | "null" => return .null :: values
      | _ => do
          let bound ← ExceptT.lift (resolve name)
          return identifierValue name bound :: values
  | .placeholder source => do
      match ← ExceptT.lift (resolve source) with
      | some raw => return .ofBinding raw :: values
      | none => throw (.unresolved source)
  | .unary operator =>
      match values with
      | operand :: rest => do
          let value ← ExceptT.mk (pure (applyUnary operator operand))
          return value :: rest
      | [] => throw .unexpectedEnd
  | .binary operator =>
      match values with
      | right :: left :: rest => do
          let value ← ExceptT.mk (pure (applyBinary operator left right))
          return value :: rest
      | _ => throw .unexpectedEnd

/-- The values after some steps, the newest first. -/
def runSteps
    [Monad m]
    (resolve : String → m (Option String)) :
    List Step → List Value → ExceptT ExpressionError m (List Value)
  | [], values => return values
  | step :: rest, values => do
      let next ← step.run resolve values
      runSteps resolve rest next

/-- The value of an evaluation. -/
def Evaluation.run
    [Monad m]
    (resolve : String → m (Option String))
    (evaluation : Evaluation) :
    ExceptT ExpressionError m Value := do
  let values ← runSteps resolve evaluation.steps []
  match evaluation.fault, values with
  | some fault, _ => throw fault
  | none, value :: _ => return value
  | none, [] => throw .unexpectedEnd

/--
The value of an expression. Identifiers are resolved by name and placeholders by their source
with its braces.
-/
def evaluate
    [Monad m]
    (resolve : String → m (Option String))
    (source : String) :
    ExceptT ExpressionError m Value := do
  let tokens ← ExceptT.mk (pure (readTokens source.toList))
  (evaluationOfTokens tokens).run resolve

end WidgetMarkup.Expression
