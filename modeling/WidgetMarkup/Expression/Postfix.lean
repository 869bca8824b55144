import WidgetMarkup.Expression.Token

namespace WidgetMarkup.Expression

/-!
# Expressions in evaluation order

The tokens of an expression are put into the order in which they take effect: operands from left
to right, each operator right after its operands. Operators wait in a list until an operator that
binds no tighter, a closing parenthesis or the end settles them; all operators between two
operands group to the left. If the tokens are no expression, the steps up to the fault still take
effect before the fault is noticed.
-/

/-- What takes effect at one point of an evaluation. -/
inductive Step where
  | number (value : Float)
  | text (value : String)
  | identifier (name : String)
  | placeholder (source : String)
  /-- An operator before a single operand. -/
  | unary (operator : Operator)
  /-- An operator between two operands. -/
  | binary (operator : Operator)
deriving Repr

/-- What waits for the operand that is being read. -/
inductive Waiting where
  | unary (operator : Operator)
  | binary (operator : Operator) (level : Nat)
  | parenthesis
deriving Repr, DecidableEq

/-- The steps that take effect, and the fault after them, if there is one. -/
structure Evaluation where
  steps : List Step
  fault : Option ExpressionError
deriving Repr

namespace Evaluation

/-- Some steps before all others. -/
def after (first : List Step) (evaluation : Evaluation) : Evaluation :=
  { evaluation with steps := first ++ evaluation.steps }

end Evaluation

/--
Settles what binds at least as tightly as the given level, up to the innermost open parenthesis:
the steps that take effect, and what goes on waiting.
-/
def settle (level : Nat) : List Waiting → List Step × List Waiting
  | .unary operator :: rest =>
      let (steps, waiting) := settle level rest
      (.unary operator :: steps, waiting)
  | .binary operator own :: rest =>
      if level ≤ own then
        let (steps, waiting) := settle level rest
        (.binary operator :: steps, waiting)
      else
        ([], .binary operator own :: rest)
  | waiting => ([], waiting)

mutual

/-- The evaluation of tokens that begin with an operand. -/
def operandFirst (waiting : List Waiting) : List Token → Evaluation
  | [] => ⟨[], some .unexpectedEnd⟩
  | .number value :: rest => (operatorFirst waiting rest).after [.number value]
  | .text value :: rest => (operatorFirst waiting rest).after [.text value]
  | .identifier name :: rest => (operatorFirst waiting rest).after [.identifier name]
  | .placeholder source :: rest => (operatorFirst waiting rest).after [.placeholder source]
  | .openParenthesis :: rest => operandFirst (.parenthesis :: waiting) rest
  | .closeParenthesis :: _ => ⟨[], some (.unexpectedToken .closeParenthesis)⟩
  | .operator operator :: rest =>
      if operator.isPrefixed then
        operandFirst (.unary operator :: waiting) rest
      else
        ⟨[], some (.unexpectedToken (.operator operator))⟩

/-- The evaluation of tokens that go on after an operand. -/
def operatorFirst (waiting : List Waiting) : List Token → Evaluation
  | [] =>
      match settle 0 waiting with
      | (steps, []) => ⟨steps, none⟩
      | (steps, _) => ⟨steps, some .unexpectedEnd⟩
  | .closeParenthesis :: rest =>
      match settle 0 waiting with
      | (steps, .parenthesis :: outer) => (operatorFirst outer rest).after steps
      | (steps, _) => ⟨steps, some (.unexpectedToken .closeParenthesis)⟩
  | .operator operator :: rest =>
      match operator.level? with
      | some level =>
          let (steps, outer) := settle level waiting
          (operandFirst (.binary operator level :: outer) rest).after steps
      | none => ⟨(settle 0 waiting).1, some (.unexpectedToken (.operator operator))⟩
  | token :: _ => ⟨(settle 0 waiting).1, some (.unexpectedToken token)⟩

end

/-- The evaluation that the tokens of a whole expression spell. -/
def evaluationOfTokens (tokens : List Token) : Evaluation :=
  operandFirst [] tokens

end WidgetMarkup.Expression
