import WidgetMarkup.Expansion.Interpolation
import WidgetMarkup.Markup.Forest

namespace WidgetMarkup

open Markup

/-!
# The expansion of macros

Expansion goes through a forest from left to right. Tags keep their place, with their values
filled in and their children expanded in a scope of their own; a macro call is replaced by what
its script makes of it. The engine is built level by level: macro calls on a level expand nodes
on the level below, and on the last level no macro call is let in. So the nesting of macro calls,
which no document bounds, is bounded by the number of levels.
-/

/-- Expands nodes in a scope, giving the nodes they become and the scope they leave. -/
abbrev Expander := List Node → Scope → Expansion (List Node × Scope)

namespace Interpreter

/-- The macro of a name: one that the document has defined, or else one of the vocabulary. -/
def findMacro? (interpreter : Interpreter) (progress : Progress) (name : String) :
    Option MacroRule :=
  match progress.macros.find? name with
  | some rule => some rule
  | none => interpreter.vocabulary.macroRule? name

/-- Whether a node is a macro call: it is marked, or its name is no tag but a macro. -/
def isMacroCall (interpreter : Interpreter) (progress : Progress) (node : Node) : Bool :=
  node.isMacro ||
    ((interpreter.vocabulary.tag? node.name).isNone &&
      (interpreter.findMacro? progress node.name).isSome)

/-- Charges one unit of work. -/
def charge (interpreter : Interpreter) : Expansion Unit :=
  Expansion.charge interpreter.settings.maxExpansions

/-- Expands a template in a fresh scope inside, its markers replaced by content. -/
def insertTemplate
    (interpreter : Interpreter)
    (expand : Expander)
    (template marker : String)
    (content : List Node)
    (scope : Scope) :
    Expansion (List Node) := do
  let progress ← get
  if progress.imports.contains template then
    Expansion.fail (.importCycle (progress.imports ++ [template]))
  else
    match interpreter.templates template with
    | none => Expansion.fail (.templateNotFound template)
    | some source =>
        match forestOfSource interpreter.settings.marker source with
        | .error fault => Expansion.fail (.markupFault fault)
        | .ok nodes => do
            Expansion.record .debug ("importing `" ++ template ++ "`")
            let (expanded, _) ←
              Expansion.importing template
                (expand (Node.replaceMarkers marker content nodes) scope.child)
            return expanded

/-- Carries out a script, given how nodes are expanded on its behalf. -/
def runScript
    (interpreter : Interpreter)
    (expand : Expander) :
    Script → Expansion (List Node × Scope)
  | .finish nodes scope => return (nodes, scope)
  | .fail problem => Expansion.fail problem
  | .charge next => do
      interpreter.charge
      interpreter.runScript expand next
  | .expand nodes scope next => do
      let (expanded, left) ← expand nodes scope
      interpreter.runScript expand (next expanded left)
  | .insertTemplate template marker content scope next => do
      let expanded ← interpreter.insertTemplate expand template marker content scope
      interpreter.runScript expand (next expanded)
  | .interpolate raw scope next => do
      let text ← interpreter.interpolate scope raw
      interpreter.runScript expand (next text)
  | .evaluate source scope next => do
      let value ← interpreter.evaluate scope source
      interpreter.runScript expand (next value)
  | .invoke reference next => do
      let answer ← Expansion.logged id (interpreter.actions.invoke reference)
      interpreter.runScript expand (next answer)
  | .define name interpolates body next => do
      Expansion.record .debug ("defining macro `" ++ name ++ "`")
      modify fun progress =>
        { progress with macros := progress.macros.insert name ⟨interpolates, body⟩ }
      interpreter.runScript expand next
  | .addDefault tag entry next => do
      modify fun progress => { progress with styles := progress.styles.add tag entry }
      interpreter.runScript expand next
  | .record level text next => do
      Expansion.record level text
      interpreter.runScript expand next

/-- The path of a macro call inside a path. -/
def macroPath (interpreter : Interpreter) (path : TagPath) (name : String) : TagPath :=
  path.child (String.singleton interpreter.settings.marker ++ name) none

/--
Carries out a macro call, given how nodes are expanded on its behalf; without that, no macro call
is let in any more.
-/
def callMacro
    (interpreter : Interpreter)
    (expand : Option Expander)
    (node : Node)
    (scope : Scope) :
    Expansion (List Node × Scope) := do
  let progress ← get
  let path := interpreter.macroPath progress.path node.name
  Expansion.within path do
    match interpreter.findMacro? progress node.name, expand with
    | none, _ => Expansion.fail (.unknownMacro node.name)
    | some _, none => Expansion.fail (.tooDeep interpreter.settings.maxDepth)
    | some rule, some expand => do
        let attributes ←
          if rule.interpolates then
            interpreter.interpolateAttributes scope node.attributes
          else
            pure node.attributes
        let call : MacroCall :=
          { name := node.name, attributes, children := node.children, text := node.text, path }
        Expansion.record .debug ("expanding macro at " ++ path.render)
        Expansion.calling
          (interpreter.runScript expand (rule.script interpreter.sources call scope))

mutual

/-- Expands a forest, given how macro calls are carried out. -/
def expandForest
    (interpreter : Interpreter)
    (call : Node → Scope → Expansion (List Node × Scope)) :
    List Node → Scope → Expansion (List Node × Scope)
  | [], scope => return ([], scope)
  | node :: rest, scope => do
      interpreter.charge
      let progress ← get
      if interpreter.isMacroCall progress node then
        let (expanded, left) ← call node scope
        let (others, final) ← interpreter.expandForest call rest left
        return (expanded ++ others, final)
      else
        let expanded ← interpreter.expandTag call node scope
        let (others, final) ← interpreter.expandForest call rest scope
        return (expanded :: others, final)

/-- Expands a tag that is no macro call. -/
def expandTag
    (interpreter : Interpreter)
    (call : Node → Scope → Expansion (List Node × Scope)) :
    Node → Scope → Expansion Node
  | ⟨name, isMacro, attributes, children, text, position⟩, scope => do
      let node : Node := ⟨name, isMacro, attributes, children, text, position⟩
      let progress ← get
      Expansion.within (progress.path.child name (node.attribute? "id")) do
        let filled ← interpreter.interpolateAttributes scope attributes
        let current ← get
        let complete := current.styles.complete name filled
        let text ← if node.hasText then interpreter.interpolate scope text else pure ""
        let (expanded, _) ← interpreter.expandForest call children scope.child
        return { name, attributes := complete, children := expanded, text, position }

end

/-- Expands nodes on a level: macro calls may be nested as deep as there are levels. -/
def expandOnLevel (interpreter : Interpreter) : Nat → Expander
  | 0 => interpreter.expandForest (interpreter.callMacro none)
  | levels + 1 =>
      interpreter.expandForest (interpreter.callMacro (some (interpreter.expandOnLevel levels)))

/-- Expands nodes, with as many levels as the macro calls that are going on leave. -/
def expandNodes (interpreter : Interpreter) (nodes : List Node) (scope : Scope) :
    Expansion (List Node × Scope) := do
  let progress ← get
  interpreter.expandOnLevel (interpreter.settings.maxDepth - progress.depth) nodes scope

/-- The state in which the expansion of a document begins. -/
def beginning (interpreter : Interpreter) (imports : List String) : Progress :=
  { styles := interpreter.styles, imports }

/-- Expands the roots of a document. -/
def expandDocument (interpreter : Interpreter) (nodes : List Node) :
    Expansion (List Node × Scope) := do
  let (expanded, scope) ← interpreter.expandNodes nodes .empty
  Expansion.record .debug
    ("expanded " ++ toString nodes.length ++ " root tags into " ++ toString expanded.length)
  return (expanded, scope)

end Interpreter

end WidgetMarkup
