import WidgetMarkup.Expansion.Scope
import WidgetMarkup.Expression.Value
import WidgetMarkup.Journal
import WidgetMarkup.Markup.Node
import WidgetMarkup.Problem

namespace WidgetMarkup

open Markup

/-!
# Scripts of macros

What a macro does is data: a script of steps, each of which the engine carries out and answers. A
script cannot see how deep it is nested, how much work is left or what is being imported, so no
macro can depend on a limit.
-/

/-- A macro tag as its script sees it. -/
structure MacroCall where
  name : String
  /-- The attributes, filled in unless the macro wants them as written. -/
  attributes : List Attribute
  /-- The nodes inside, not yet expanded. -/
  children : List Node
  /-- The text inside, as written. -/
  text : String
  path : TagPath
deriving Inhabited

/-- What a document is given from outside by name, and how lists are written. -/
structure Sources where
  argument : String → Option String
  translation : String → Option String
  separator : Char

namespace Sources

/-- The items of a list. -/
def items (sources : Sources) (raw : String) : List String :=
  AttributeValue.items sources.separator raw

/-- The value of a variable, or else of an argument of that name. -/
def lookup? (sources : Sources) (scope : Scope) (name : String) : Option String :=
  match scope.get? name with
  | some value => some value
  | none => sources.argument name

end Sources

/-- The steps of a macro, up to the nodes it stands for and the scope it leaves. -/
inductive Script where
  | finish (nodes : List Node) (scope : Scope)
  | fail (problem : Problem)
  /-- Pays for one unit of work. -/
  | charge (next : Script)
  /-- Expands nodes in a scope, giving the nodes they become and the scope they leave. -/
  | expand (nodes : List Node) (scope : Scope) (next : List Node → Scope → Script)
  /-- Expands a template in a fresh scope inside, its markers replaced by content. -/
  | insertTemplate
      (template marker : String)
      (content : List Node)
      (scope : Scope)
      (next : List Node → Script)
  /-- Fills in the placeholders of a text. -/
  | interpolate (raw : String) (scope : Scope) (next : String → Script)
  /-- Evaluates an expression. -/
  | evaluate (source : String) (scope : Scope) (next : Expression.Value → Script)
  /-- Runs an action without a widget. -/
  | invoke (reference : String) (next : Option String → Script)
  /-- Gives a macro a name for the rest of the document. -/
  | define
      (name : String)
      (interpolates : Bool)
      (body : Sources → MacroCall → Scope → Script)
      (next : Script)
  /-- Gives later tags of a name an attribute unless they have it. -/
  | addDefault (tag : String) (entry : Attribute) (next : Script)
  /-- Writes a line of the log. -/
  | record (level : LogLevel) (text : String) (next : Script)

/-- A macro: whether its attributes are filled in before it runs, and what it does. -/
structure MacroRule where
  interpolates : Bool := true
  script : Sources → MacroCall → Scope → Script

namespace MacroCall

/-- The value of an attribute of the call. -/
def attribute? (call : MacroCall) (name : String) : Option String :=
  Attribute.lookup? name call.attributes

/-- Goes on with the value of an attribute that the call must have. -/
def require (call : MacroCall) (name : String) (next : String → Script) : Script :=
  match call.attribute? name with
  | some value => next value
  | none => .fail (.construction (.missingAttribute call.name name))

end MacroCall

namespace Script

/-- Gives several names to one macro, one after another. -/
def defineAll (aliases : List String) (rule : MacroRule) (next : Script) : Script :=
  aliases.foldr (fun name rest => .define name rule.interpolates rule.script rest) next

/-- Expands nodes a number of times, each time in a fresh scope with bindings of its own. -/
def repeatFrom
    (nodes : List Node)
    (scope : Scope)
    (bindings : Nat → List (String × String))
    (index : Nat)
    (expanded : List (List Node)) :
    Nat → Script
  | 0 => .finish expanded.reverse.flatten scope
  | remaining + 1 =>
      .charge
        (.expand nodes (scope.child.bindAll (bindings index)) fun nodes' _ =>
          repeatFrom nodes scope bindings (index + 1) (nodes' :: expanded) remaining)

/-- Expands nodes `count` times; the bindings of each time depend on its index. -/
def repeatTimes
    (nodes : List Node)
    (scope : Scope)
    (count : Nat)
    (bindings : Nat → List (String × String)) :
    Script :=
  repeatFrom nodes scope bindings 0 [] count

end Script

end WidgetMarkup
