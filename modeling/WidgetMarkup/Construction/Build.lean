import WidgetMarkup.Construction.Assembly
import WidgetMarkup.Document

namespace WidgetMarkup

open Markup

/-!
# From expanded tags to widgets

Each tag is worked on from opening to closing, its children in between. A listener among the
roots belongs to the widget before it.
-/

namespace Interpreter

/-- Opens a tag and works on it up to its children. -/
def beginTag
    (interpreter : Interpreter)
    (path : TagPath)
    (rule : TagRule)
    (cells : Option CellProperties)
    (node : Node) :
    Registration Assembly := do
  let opened ← Assembly.start rule path
  let split :=
    SplitAttributes.ofAttributes interpreter.vocabulary rule.features cells.isSome node.attributes
  Registration.work opened do
    Assembly.fillBlueprint split.building
    Assembly.instantiate
    Assembly.applyAttributes interpreter split.target
    match cells with
    | some defaults => Assembly.configureCell defaults split.cell
    | none => pure ()
    if node.hasText then
      Assembly.takeText node.text

/-- The rule of a tag, or nothing if the tag is left out. -/
def admitTag (interpreter : Interpreter) (path : TagPath) (node : Node) :
    Registration (Option TagRule) := do
  if node.isMacro then
    Registration.fail path (.unknownMacro node.name)
  else
    match interpreter.vocabulary.tag? node.name with
    | some rule => return some rule
    | none =>
        match interpreter.settings.unknownTags with
        | .fail => Registration.fail path (.unknownTag node.name)
        | .warn => do
            Registration.record .warning
              (path.render ++ ": unknown tag <" ++ node.name ++ "> skipped with its children")
            return none

mutual

/-- Builds a tag and everything inside it, unless it is left out. -/
def buildTag
    (interpreter : Interpreter)
    (parent : TagPath)
    (openIds : List String)
    (cells : Option CellProperties) :
    Node → Registration (Option ClosedTag)
  | ⟨name, isMacro, attributes, children, text, position⟩ => do
      let node : Node := ⟨name, isMacro, attributes, children, text, position⟩
      let path := parent.child name (node.attribute? "id")
      match ← interpreter.admitTag path node with
      | none => return none
      | some rule => do
          let begun ← interpreter.beginTag path rule cells node
          let inside := openIds ++ begun.id?.toList
          let filled ←
            interpreter.buildChildren path inside begun.childCells? begun children
          let finished ← Registration.work filled Assembly.finishChildren
          let closed ← finished.close openIds interpreter.actions
          return some closed

/-- Builds tags and takes them into the tag around them, one after another. -/
def buildChildren
    (interpreter : Interpreter)
    (path : TagPath)
    (openIds : List String)
    (cells : Option CellProperties)
    (assembly : Assembly) :
    List Node → Registration Assembly
  | [] => return assembly
  | node :: rest => do
      match ← interpreter.buildTag path openIds cells node with
      | none => interpreter.buildChildren path openIds cells assembly rest
      | some closed => do
          let next ← Registration.work assembly (Assembly.attach closed)
          interpreter.buildChildren path openIds cells next rest

end

/-- The roots with one more, the newest first; a listener is taken in by the root before it. -/
def placeRoot (node : Node) (closed : ClosedTag) (roots : List Widget) :
    Except LocatedProblem (List Widget) :=
  match closed.target, roots with
  | .widget widget, _ => .ok (widget :: roots)
  | .listener listener, previous :: others =>
      .ok ({ previous with listeners := previous.listeners ++ [listener] } :: others)
  | .listener _, [] =>
      .error ((Problem.construction .nothingToListenTo).located (.child .root node.name none))

/-- Builds the roots of a document, those before them given with the newest first. -/
def buildRoots (interpreter : Interpreter) (roots : List Widget) :
    List Node → Registration (List Widget)
  | [] => return roots.reverse
  | node :: rest => do
      match ← interpreter.buildTag .root [] none node with
      | none => interpreter.buildRoots roots rest
      | some closed =>
          match placeRoot node closed roots with
          | .ok next => interpreter.buildRoots next rest
          | .error problem => throw problem

/-- Builds a document from expanded nodes. -/
def build (interpreter : Interpreter) (nodes : List Node) : Registration Document := do
  let roots ← interpreter.buildRoots [] nodes
  let register ← get
  return { roots, ids := register.ids }

end Interpreter

end WidgetMarkup
