import WidgetMarkup.Expansion.Script
import WidgetMarkup.Vocabulary.Registry

namespace WidgetMarkup

open Markup

/-!
# The macros of the language

Conditions, loops, bindings, templates, messages and the definition of macros by documents, each
as a script.
-/

namespace StandardMacro

/-- The marked tag that separates the two branches of a condition. -/
def elseName : String := "else"

/-- The name of the marker that content replaces unless another one is given. -/
def defaultMarker : String := "content"

/-- The value of an attribute of the call, or else of its first attribute. -/
def attributeOrFirst? (call : MacroCall) (name : String) : Option String :=
  match call.attribute? name with
  | some value => some value
  | none => call.attributes.head?.map Attribute.value

/-- The nodes before the first marked `else` and those after it. -/
def splitAtElse : List Node → List Node × List Node
  | [] => ([], [])
  | node :: rest =>
      if node.isMarkerNamed elseName then
        ([], rest)
      else
        let (before, after) := splitAtElse rest
        (node :: before, after)

/-- The children up to `else` if the condition holds, and those after it otherwise. -/
def condition : MacroRule where
  interpolates := false
  script _ call scope :=
    match attributeOrFirst? call "test" with
    | none => .fail (.construction (.missingCondition call.name))
    | some source =>
        let (holding, otherwise) := splitAtElse call.children
        .evaluate source scope fun value =>
          .expand (if value.isTruthy then holding else otherwise) scope .finish

/-- The children if all the listed names are bound, or, with `all` unset, if any is. -/
def whenBound (all : Bool) : MacroRule where
  script sources call scope :=
    let names := call.attributes.flatMap fun entry => sources.items entry.value
    let isBound (name : String) : Bool := (sources.lookup? scope name).isSome
    if if all then names.all isBound else names.any isBound then
      .expand call.children scope .finish
    else
      .finish [] scope

/-- A list of the call: its name and its items. -/
structure NamedItems where
  name : String
  items : Array String
deriving Repr, DecidableEq, Inhabited

/-- The lists of a call, one for each attribute. -/
def listsOf (sources : Sources) (call : MacroCall) : List NamedItems :=
  call.attributes.map fun entry => ⟨entry.name, (sources.items entry.value).toArray⟩

/-- What an item of a list binds: the name of the list, and its index under a name of its own. -/
def itemBindings (list : NamedItems) (index : Nat) : List (String × String) :=
  [(list.name, list.items.getD index ""), (list.name ++ ":index", toString index)]

/-- The children once for each index of lists that have the same length. -/
def forEach : MacroRule where
  script sources call scope :=
    match listsOf sources call with
    | [] => .fail (.construction (.missingLists "forEach"))
    | first :: others =>
        let count := first.items.size
        match others.find? fun list => list.items.size != count with
        | some uneven =>
            .fail (.construction (.unevenLists uneven.name uneven.items.size count))
        | none =>
            .repeatTimes call.children scope count fun index =>
              (first :: others).flatMap fun list => itemBindings list index

/-- The number of ways to choose an item from every list. -/
def combinations : List NamedItems → Nat
  | [] => 1
  | list :: rest => list.items.size * combinations rest

/-- What the combination of an index binds: the first list turns slowest. -/
def combinationBindings : List NamedItems → Nat → List (String × String)
  | [], _ => []
  | list :: rest, index =>
      let slower := combinations rest
      itemBindings list (index / slower) ++ combinationBindings rest (index % slower)

/-- The children once for each way to choose an item from every list. -/
def forEachNested : MacroRule where
  script sources call scope :=
    match listsOf sources call with
    | [] => .fail (.construction (.missingLists call.name))
    | lists =>
        .repeatTimes call.children scope (combinations lists) (combinationBindings lists)

/-- The children a number of times. -/
def loop : MacroRule where
  script _ call scope :=
    match attributeOrFirst? call "times" with
    | none => .fail (.construction .missingTimes)
    | some raw =>
        match AttributeValue.readCount raw with
        | .error error => .fail (.badValue error)
        | .ok count =>
            let name := (call.attribute? "var").getD "index"
            .repeatTimes call.children scope count fun index => [(name, toString index)]

/-- Binds each attribute's name to its value. -/
def assign : MacroRule where
  script _ call scope :=
    .finish [] (scope.bindAll (call.attributes.map fun entry => (entry.name, entry.value)))

/-- Binds names to the values of expressions, one after another. -/
def calculateAll : List Attribute → Scope → Script
  | [], scope => .finish [] scope
  | entry :: rest, scope =>
      .evaluate entry.value scope fun value =>
        calculateAll rest (scope.bind entry.name value.render)

/-- Binds each attribute's name to the value of its expression. -/
def calculate : MacroRule where
  interpolates := false
  script _ call scope := calculateAll call.attributes scope

/-- Binds names to the answers of actions, one after another; no answer binds nothing. -/
def invokeAll : List Attribute → Scope → Script
  | [], scope => .finish [] scope
  | entry :: rest, scope =>
      .invoke entry.value fun answer =>
        match answer with
        | some value => invokeAll rest (scope.bind entry.name value)
        | none => invokeAll rest scope

/-- Binds each attribute's name to the answer of its action. -/
def invoke : MacroRule where
  script _ call scope := invokeAll call.attributes scope

/-- Binds names to what a source gives for their values, one after another. -/
def bindFrom
    (source : Scope → String → Option String)
    (path : TagPath) :
    List Attribute → Scope → Script
  | [], scope => .finish [] scope
  | entry :: rest, scope =>
      let key := Text.trim entry.value
      match source scope key with
      | some value => bindFrom source path rest (scope.bind entry.name value)
      | none =>
          .record .debug
            (path.render ++ ": `" ++ key ++ "` not found, `" ++ entry.name ++ "` left unbound")
            (bindFrom source path rest scope)

/-- Binds each attribute's name to the variable or argument that its value names. -/
def argument : MacroRule where
  script sources call scope := bindFrom sources.lookup? call.path call.attributes scope

/-- Binds each attribute's name to the translation that its value names. -/
def translation : MacroRule where
  script sources call scope :=
    bindFrom (fun _ key => sources.translation key) call.path call.attributes scope

/-- A template, the children being its content. -/
def template : MacroRule where
  script _ call scope :=
    call.require "path" fun path =>
      let marker := (call.attribute? "replace").getD defaultMarker
      .insertTemplate path marker call.children scope fun nodes => .finish nodes scope

/-- Nothing at all. -/
def comment : MacroRule where
  interpolates := false
  script _ _ scope := .finish [] scope

/-- The children. -/
def children : MacroRule where
  script _ call scope := .expand call.children scope .finish

/-- Goes on with the message of a call: its text, or its `message`, or all its values. -/
def withMessage (call : MacroCall) (scope : Scope) (next : String → Script) : Script :=
  if Text.isBlankText call.text then
    match call.attribute? "message" with
    | some message => next message
    | none => next (Text.join " " (call.attributes.map Attribute.value))
  else
    .interpolate call.text scope next

/-- Writes a message to the log. -/
def log (level : LogLevel) : MacroRule where
  script _ call scope :=
    withMessage call scope fun message =>
      .record level (call.path.render ++ ": " ++ message) (.finish [] scope)

/-- Fails with a message. -/
def throw : MacroRule where
  script _ call scope := withMessage call scope fun message => .fail (.thrown message)

/-- Gives later tags of the listed names an attribute unless they have it. -/
def style : MacroRule where
  script sources call scope :=
    call.require "tag" fun tags =>
      call.require "name" fun name =>
        call.require "value" fun value =>
          (sources.items tags).foldr (fun tag rest => .addDefault tag ⟨name, value⟩ rest)
            (.finish [] scope)

end StandardMacro

/-- A macro that a document defines: parameters with defaults, and nodes with a marker. -/
structure UserMacro where
  marker : String
  parameters : List Attribute
  body : List Node
deriving Inhabited

namespace UserMacro

/-- Binds parameters to their defaults, each of which may use those before it. -/
def bindDefaults : List Attribute → Scope → (Scope → Script) → Script
  | [], scope, next => next scope
  | parameter :: rest, scope, next =>
      .interpolate parameter.value scope fun value =>
        bindDefaults rest (scope.bind parameter.name value) next

/--
The macro as a rule: in a fresh scope inside, the parameters are bound to their defaults and then
the attributes of the call to their values, and the body is expanded with the children of the
call in place of its markers.
-/
def toRule (definition : UserMacro) : MacroRule where
  script _ call scope :=
    bindDefaults definition.parameters scope.child fun inner =>
      let bound := inner.bindAll (call.attributes.map fun entry => (entry.name, entry.value))
      .expand (Node.replaceMarkers definition.marker call.children definition.body) bound
        fun nodes _ => .finish nodes scope

end UserMacro

namespace StandardMacro

/-- Whether an attribute of a definition is a parameter. -/
def isParameter (entry : Attribute) : Bool :=
  !entry.isNamed "alias" && !entry.isNamed "replace"

/-- Defines a macro under the listed names. -/
def define : MacroRule where
  interpolates := false
  script sources call scope :=
    call.require "alias" fun raw =>
      match sources.items raw with
      | [] => .fail (.construction .blankAlias)
      | names =>
          let definition : UserMacro :=
            { marker := (call.attribute? "replace").getD defaultMarker
              parameters := call.attributes.filter isParameter
              body := call.children }
          .defineAll names definition.toRule (.finish [] scope)

/-- Every macro of the language with its names. -/
def all : List (List String × MacroRule) :=
  [ (["if", "test", "check"], condition),
    (["forEach", "for", "each"], forEach),
    (["forEachNested", "nested", "eachNested"], forEachNested),
    (["loop", "times"], loop),
    (["assign", "var", "val"], assign),
    (["calculate", "calculation"], calculate),
    (["eval", "evaluate", "invoke"], invoke),
    (["argument", "preference"], argument),
    (["nls"], translation),
    (["import", "include"], template),
    (["comment", "FIXME", "TODO"], comment),
    (["replace", "replaceArguments", "noOp", "root"], children),
    (["log", "logInfo", "info"], log .info),
    (["debug", "logDebug", "trace", "logTrace"], log .debug),
    (["logError"], log .error),
    (["exception", "throw", "error"], throw),
    (["style"], style),
    (["macro"], define),
    (["exists", "notNull", "ifNotNull"], whenBound true),
    (["anyNotNull", "any"], whenBound false) ]

end StandardMacro

end WidgetMarkup
