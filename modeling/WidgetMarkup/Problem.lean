import WidgetMarkup.AttributeValue
import WidgetMarkup.Expression.Token
import WidgetMarkup.Markup.Fault
import WidgetMarkup.TagPath
import WidgetMarkup.Widget.Kind

namespace WidgetMarkup

/-!
# Problems

Everything that can be wrong with a document, apart from where, and the place added to it: the
path of a tag and the attribute that was being applied.
-/

/-- Why a tag cannot be made or cannot take something in. -/
inductive Obstacle where
  | rangeInverted (least greatest : Float32)
  | stepNotPositive (step : Float32)
  | valueOutsideRange (value least greatest : Float32)
  | holdsWidgetAlready (kind : WidgetKind)
  | holdsSingleWidget (kind : WidgetKind)
  | cannotHoldText (kind : WidgetKind)
  | cannotHoldWidgets (kind child : WidgetKind)
  | listenerHoldsNoWidgets (child : WidgetKind)
  | listenersNotNested
  | listenerWithoutAction
  | listenerForUnknownId (id : String)
  | nothingToListenTo
  | duplicateId (id : String)
  | needsWidget (name : String)
  | needsListener (name : String) (kind : WidgetKind)
  | cellDefaultsWithoutTable
  | usedBeforeInstantiation
  | closedBeforeInstantiation
  | missingCondition (name : String)
  | missingAttribute (macroName name : String)
  | missingLists (macroName : String)
  | missingTimes
  | unevenLists (name : String) (found expected : Nat)
  | blankAlias
  /-- Any other reason, in words. -/
  | other (reason : String)
deriving Repr

namespace Obstacle

/-- The message of an obstacle. -/
def message : Obstacle → String
  | rangeInverted least greatest =>
      "range min " ++ Number.Single.render least ++ " is greater than max " ++
        Number.Single.render greatest
  | stepNotPositive step => "range step must be positive, got " ++ Number.Single.render step
  | valueOutsideRange value least greatest =>
      "value " ++ Number.Single.render value ++ " is outside " ++ Number.Single.render least ++
        ".." ++ Number.Single.render greatest
  | holdsWidgetAlready kind => kind.name ++ " already holds a widget"
  | holdsSingleWidget kind => kind.name ++ " holds a single widget"
  | cannotHoldText kind => kind.name ++ " cannot hold text"
  | cannotHoldWidgets kind child =>
      kind.name ++ " cannot hold widgets (got " ++ child.name ++ ")"
  | listenerHoldsNoWidgets child => "listeners cannot hold widgets (got " ++ child.name ++ ")"
  | listenersNotNested => "listeners cannot be nested"
  | listenerWithoutAction => "listener has no action"
  | listenerForUnknownId id => "listener refers to unknown id `" ++ id ++ "`"
  | nothingToListenTo => "root listener has no preceding widget"
  | duplicateId id => "duplicate id `" ++ id ++ "`"
  | needsWidget name => "`" ++ name ++ "` needs a widget target"
  | needsListener name kind =>
      "`" ++ name ++ "` needs a listener target, got " ++ kind.name
  | cellDefaultsWithoutTable => "cell defaults need table content"
  | usedBeforeInstantiation => "tag used before instantiation"
  | closedBeforeInstantiation => "tag closed before instantiation"
  | missingCondition name => "<:" ++ name ++ "> needs a condition"
  | missingAttribute macroName name =>
      "<:" ++ macroName ++ "> needs a `" ++ name ++ "` attribute"
  | missingLists macroName => "<:" ++ macroName ++ "> needs at least one list"
  | missingTimes => "<:loop> needs `times`"
  | unevenLists name found expected =>
      "`" ++ name ++ "` has " ++ toString found ++ " items, expected " ++ toString expected
  | blankAlias => "<:macro> alias must not be empty"
  | other reason => reason

end Obstacle

/-- Why a placeholder or an expression in a value cannot be filled in. -/
inductive InterpolationFailure where
  | unterminated
  | emptyPlaceholder
  | unknownVariable
  | missingTranslation
  | unknownAction (name : String)
  | expression (error : Expression.ExpressionError)
deriving Repr

/-- What is wrong with a document, apart from where. -/
inductive Problem where
  | markupFault (fault : Markup.Fault)
  | unknownTag (name : String)
  | unknownMacro (name : String)
  | unknownAttribute (name : String)
  /-- The name is known, but not for anything that the target is. -/
  | unsupportedAttribute (name target : String)
  | badValue (error : ValueError)
  | construction (obstacle : Obstacle)
  | interpolation (source : String) (failure : InterpolationFailure)
  | tooDeep (limit : Nat)
  | tooLarge (limit : Nat)
  | importCycle (chain : List String)
  | templateNotFound (path : String)
  | unknownAction (name : String)
  /-- Raised on purpose by a document. -/
  | thrown (message : String)
deriving Repr

namespace Problem

/-- The message for an action that is not registered. -/
def unknownActionMessage (name : String) : String :=
  "unknown action `" ++ name ++ "`"

end Problem

namespace InterpolationFailure

/-- The reason that a failure gives. -/
def message : InterpolationFailure → String
  | unterminated => "unterminated `\x7b`"
  | emptyPlaceholder => "empty placeholder"
  | unknownVariable => "unknown variable"
  | missingTranslation => "missing translation"
  | unknownAction name => Problem.unknownActionMessage name
  | expression error => error.message

end InterpolationFailure

namespace Problem

/-- The message of a problem. -/
def message : Problem → String
  | markupFault fault => fault.message
  | unknownTag name => "unknown tag <" ++ name ++ ">"
  | unknownMacro name => "unknown macro <:" ++ name ++ ">"
  | unknownAttribute name => "unknown attribute `" ++ name ++ "`"
  | unsupportedAttribute name target =>
      "attribute `" ++ name ++ "` is not supported by " ++ target
  | badValue error => error.message
  | construction obstacle => "cannot construct target: " ++ obstacle.message
  | interpolation source failure =>
      "cannot interpolate `" ++ source ++ "`: " ++ failure.message
  | tooDeep limit => "macro expansion nested deeper than " ++ toString limit ++ " levels"
  | tooLarge limit => "macro expansion produced more than " ++ toString limit ++ " nodes"
  | importCycle chain => "import cycle: " ++ Text.join " -> " chain
  | templateNotFound path => "template `" ++ path ++ "` not found"
  | unknownAction name => unknownActionMessage name
  | thrown message => message

end Problem

/-- A problem with its place. -/
structure LocatedProblem where
  problem : Problem
  path : TagPath
  /-- The attribute that was being applied. -/
  attributeName : Option String := none
deriving Repr

namespace LocatedProblem

/-- The message of a problem with its place in front. -/
def message (located : LocatedProblem) : String :=
  located.path.render ++
    (match located.attributeName with
      | some name => " [" ++ name ++ "]"
      | none => "") ++
    ": " ++ located.problem.message

/-- The problem, noted as one with an attribute. -/
def withAttribute (located : LocatedProblem) (name : String) : LocatedProblem :=
  { located with attributeName := some name }

end LocatedProblem

namespace Problem

/-- A problem at a path. -/
def located (problem : Problem) (path : TagPath) : LocatedProblem :=
  { problem, path }

end Problem

end WidgetMarkup
