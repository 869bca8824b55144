import WidgetMarkup.Number.Double
import WidgetMarkup.Text.Quoted

namespace WidgetMarkup.Expression

/-!
# Operators, tokens and errors of expressions

The words of the expression language with their texts, and every way in which an expression can
fail.
-/

/-- The operators. -/
inductive Operator where
  | and
  | or
  | equal
  | notEqual
  | atMost
  | atLeast
  | below
  | above
  | plus
  | minus
  | times
  | divide
  | modulo
  | not
deriving Repr, DecidableEq

namespace Operator

/-- The operators in the order in which they are tried: a longer one before its beginning. -/
def all : List Operator :=
  [and, or, equal, notEqual, atMost, atLeast, below, above, plus, minus, times, divide, modulo, not]

/-- How an operator is written. -/
def spelling : Operator → List Char
  | and => ['&', '&']
  | or => ['|', '|']
  | equal => ['=', '=']
  | notEqual => ['!', '=']
  | atMost => ['<', '=']
  | atLeast => ['>', '=']
  | below => ['<']
  | above => ['>']
  | plus => ['+']
  | minus => ['-']
  | times => ['*']
  | divide => ['/']
  | modulo => ['%']
  | not => ['!']

/-- The text of an operator. -/
def text (operator : Operator) : String :=
  String.ofList operator.spelling

/-- How tightly an operator binds two operands; `none` if it cannot stand between two. -/
def level? : Operator → Option Nat
  | or => some 0
  | and => some 1
  | equal => some 2
  | notEqual => some 2
  | atMost => some 3
  | atLeast => some 3
  | below => some 3
  | above => some 3
  | plus => some 4
  | minus => some 4
  | times => some 5
  | divide => some 5
  | modulo => some 5
  | not => none

/-- Whether an operator can stand before a single operand. -/
def isPrefixed : Operator → Bool
  | minus => true
  | not => true
  | _ => false

end Operator

/-- The words of an expression. -/
inductive Token where
  | number (value : Float)
  | text (value : String)
  | identifier (name : String)
  /-- A placeholder with its braces. -/
  | placeholder (source : String)
  | operator (operator : Operator)
  | openParenthesis
  | closeParenthesis
deriving Repr

namespace Token

/-- A token as messages name it. -/
def describe : Token → String
  | number value => "number " ++ Number.Double.render value
  | text value => "string " ++ Text.quote value
  | identifier name => "identifier `" ++ name ++ "`"
  | placeholder source => "placeholder `" ++ source ++ "`"
  | operator op => "operator `" ++ op.text ++ "`"
  | openParenthesis => "`(`"
  | closeParenthesis => "`)`"

end Token

/-- Why an expression has no value. -/
inductive ExpressionError where
  | unexpectedCharacter (character : Char)
  | unexpectedEnd
  | unexpectedToken (token : Token)
  /-- Digits and points that spell no number. -/
  | malformedNumber (source : String)
  | unterminatedText
  | unterminatedPlaceholder
  /-- A placeholder that cannot be resolved. -/
  | unresolved (source : String)
  | divisionByZero
  /-- An operand that has to be a number is none; `left` is empty before a single operand. -/
  | notNumeric (operator : Operator) (left right : String)
deriving Repr

namespace ExpressionError

/-- The message of an error. -/
def message : ExpressionError → String
  | unexpectedCharacter character => "unexpected character " ++ Text.quoteCharacter character
  | unexpectedEnd => "unexpected end of expression"
  | unexpectedToken token => "unexpected " ++ token.describe
  | malformedNumber source => "unexpected number `" ++ source ++ "`"
  | unterminatedText => "unterminated string literal"
  | unterminatedPlaceholder => "unterminated placeholder"
  | unresolved source => "cannot resolve `" ++ source ++ "`"
  | divisionByZero => "division by zero"
  | notNumeric operator left right =>
      "operator `" ++ operator.text ++ "` needs numbers, got `" ++ left ++ "` and `" ++ right ++ "`"

end ExpressionError

end WidgetMarkup.Expression
