import WidgetMarkup.Expansion.Placeholder
import WidgetMarkup.Expansion.Progress
import WidgetMarkup.Expression.Evaluate

namespace WidgetMarkup

/-!
# Filling in values

Placeholders are replaced by what they name, and expressions are evaluated with placeholders as
operands. The source of an expression inside a placeholder ends at the first closing brace, so it
holds no placeholder that is complete, and the two do not go around in circles.
-/

namespace Interpreter

/-- The value of a variable or argument. -/
def lookup? (interpreter : Interpreter) (scope : Scope) (name : String) : Option String :=
  interpreter.sources.lookup? scope name

/-- Whether a name in an expression is the source of a placeholder. -/
def isPlaceholder (name : String) : Bool :=
  name.toList.head? = some Text.openBrace

/-- Evaluates an expression, with a way to resolve its placeholders. -/
def evaluateWith
    (interpreter : Interpreter)
    (scope : Scope)
    (placeholder : String → Expansion (Option String))
    (source : String) :
    Expansion Expression.Value := do
  let resolve (name : String) : Expansion (Option String) :=
    if isPlaceholder name then placeholder name else pure (interpreter.lookup? scope name)
  match ← (Expression.evaluate resolve source).run with
  | .ok value => return value
  | .error error => Expansion.fail (.interpolation source (.expression error))

/-- The source of a placeholder with a mark and a name inside. -/
def placeholderSource (mark name : String) : String :=
  "\x7b" ++ mark ++ name ++ "\x7d"

/-- What a missing action makes of a placeholder for it. -/
def actionFailure (reference : String) : Problem → Problem
  | .unknownAction name =>
      .interpolation (placeholderSource "$" reference) (.unknownAction name)
  | problem => problem

/-- The text that a piece of a value stands for. -/
def fillIn (interpreter : Interpreter) (scope : Scope) : Segment → Expansion String
  | .literal text => return text
  | .variable name =>
      match interpreter.lookup? scope name with
      | some value => return value
      | none =>
          Expansion.fail (.interpolation (placeholderSource "" name) .unknownVariable)
  | .translation key =>
      match interpreter.translations key with
      | some value => return value
      | none =>
          Expansion.fail (.interpolation (placeholderSource "@" key) .missingTranslation)
  | .action reference => do
      let answer ←
        Expansion.logged (actionFailure reference) (interpreter.actions.invoke reference)
      return answer.getD ""
  | .expression source => do
      let value ← interpreter.evaluateWith scope (fun _ => pure none) source
      return value.render

/-- The texts of pieces, one after another. -/
def fillInAll (interpreter : Interpreter) (scope : Scope) : List Segment → Expansion String
  | [] => return ""
  | segment :: rest => do
      let first ← interpreter.fillIn scope segment
      let others ← interpreter.fillInAll scope rest
      return first ++ others

/-- A value with its placeholders filled in. One without any brace stays as it is. -/
def interpolate (interpreter : Interpreter) (scope : Scope) (raw : String) : Expansion String :=
  if Segment.isNeeded raw.toList then
    match Segment.ofValue raw with
    | .ok segments => interpreter.fillInAll scope segments
    | .error problem => Expansion.fail problem
  else
    return raw

/-- The value of an expression; a placeholder that cannot be filled in is unresolved. -/
def evaluate
    (interpreter : Interpreter)
    (scope : Scope)
    (source : String) :
    Expansion Expression.Value :=
  interpreter.evaluateWith scope
    (fun placeholder => Expansion.attempt (interpreter.interpolate scope placeholder))
    source

/-- The attributes with their values filled in. -/
def interpolateAttributes
    (interpreter : Interpreter)
    (scope : Scope) :
    List Markup.Attribute → Expansion (List Markup.Attribute)
  | [] => return []
  | entry :: rest => do
      let value ← Expansion.onAttribute entry.name (interpreter.interpolate scope entry.value)
      let others ← interpreter.interpolateAttributes scope rest
      return ⟨entry.name, value⟩ :: others

end Interpreter

end WidgetMarkup
