import WidgetMarkup.Interpreter

namespace WidgetMarkup

open Markup

/-!
# Tags under construction

A tag is worked on in stages: its blueprint is filled in, its target is made, attributes, text and
children are applied to the target, and at last it is closed. What has been done stays done when a
later step fails.
-/

/-- How far the work on a tag has come. -/
inductive Stage where
  | opened
  | blueprintFilled
  | instantiated
  | childrenAttached
deriving Repr, DecidableEq, Inhabited

/-- A finished tag, with the cell that it takes in a table around it. -/
structure ClosedTag where
  target : Target
  cell : CellProperties
deriving Inhabited

/-- A tag under construction. -/
structure Assembly where
  path : TagPath
  rule : TagRule
  stage : Stage := .opened
  blueprint : Blueprint := {}
  target : Option Target := none
  cell : CellProperties := {}
  onClose : List String := []

/-- A tag under construction and the journal of the run. -/
structure Bench where
  assembly : Assembly
  journal : Journal

/-- A step of the work on a tag. -/
abbrev Work := EStateM LocatedProblem Bench

namespace Work

/-- Fails with a problem at the tag. -/
def fail (problem : Problem) : Work α :=
  fun bench => .error (problem.located bench.assembly.path) bench

/-- Writes a line of the log. -/
def record (level : LogLevel) (text : String) : Work Unit :=
  modify fun bench => { bench with journal := bench.journal.record level text }

/-- Changes the tag. -/
def change (change : Assembly → Assembly) : Work Unit :=
  modify fun bench => { bench with assembly := change bench.assembly }

/-- Does something with the journal, a problem being placed at the tag. -/
def logged (inner : Logged α) : Work α :=
  fun bench =>
    match inner bench.journal with
    | .ok value journal => .ok value { bench with journal }
    | .error problem journal =>
        .error (problem.located bench.assembly.path) { bench with journal }

/-- Notes on a failure that it concerns an attribute. -/
def onAttribute (name : String) (inner : Work α) : Work α :=
  fun bench =>
    match inner bench with
    | .ok value after => .ok value after
    | .error problem after => .error (problem.withAttribute name) after

/-- The target, which must have been made. -/
def requireTarget : Work Target := do
  let bench ← get
  match bench.assembly.target with
  | some target => return target
  | none => fail (.construction .usedBeforeInstantiation)

end Work

namespace Assembly

/-- The id of the widget that has been made. -/
def id? (assembly : Assembly) : Option String :=
  (assembly.target.bind Target.widget?).bind Widget.id

/-- What the cells of children start from, if the widget that has been made holds a table. -/
def childCells? (assembly : Assembly) : Option CellProperties :=
  ((assembly.target.bind Target.widget?).bind Widget.table?).map Table.defaults

/-- Writes attributes into the blueprint, one after another. -/
def fillBlueprint : List (BuildingRule × Attribute) → Work Unit
  | [] => Work.change fun assembly => { assembly with stage := .blueprintFilled }
  | (rule, entry) :: rest => do
      let bench ← get
      Work.record .trace
        (bench.assembly.path.render ++ ": building " ++ entry.name ++ "=" ++
          Text.quote entry.value)
      let blueprint ←
        Work.onAttribute entry.name
          (Work.logged (Logged.ofExcept (rule.apply entry.value bench.assembly.blueprint)))
      Work.change fun assembly => { assembly with blueprint }
      fillBlueprint rest

/-- Makes the target from the blueprint. -/
def instantiate : Work Unit := do
  let bench ← get
  let target ←
    Work.logged (Logged.ofExcept (bench.assembly.rule.create bench.assembly.blueprint))
  Work.change fun assembly => { assembly with target := some target, stage := .instantiated }

/-- Applies one attribute to a target that has been made. -/
def applyAttribute (interpreter : Interpreter) (entry : Attribute) : Work Unit := do
  let target ← Work.requireTarget
  let bench ← get
  let context : AttributeContext :=
    { name := entry.name
      actions := interpreter.actions
      separator := interpreter.settings.separator }
  match interpreter.vocabulary.resolve target.ancestry entry.name with
  | .found rule => do
      Work.record .trace
        (entry.name ++ "=" ++ Text.quote entry.value ++ " on " ++ target.describe)
      let workpiece ←
        Work.onAttribute entry.name
          (Work.logged (rule.apply context entry.value ⟨target, bench.assembly.onClose⟩))
      Work.change fun assembly =>
        { assembly with target := some workpiece.target, onClose := workpiece.onClose }
  | .unsupported =>
      Work.onAttribute entry.name
        (Work.fail (.unsupportedAttribute entry.name target.describe))
  | .unknown =>
      match interpreter.settings.unknownAttributes with
      | .fail => Work.onAttribute entry.name (Work.fail (.unknownAttribute entry.name))
      | .warn =>
          Work.record .warning
            (bench.assembly.path.render ++ ": unknown attribute `" ++ entry.name ++ "` skipped")

/-- Applies attributes to the target, one after another. -/
def applyAttributes (interpreter : Interpreter) : List Attribute → Work Unit
  | [] => return
  | entry :: rest => do
      applyAttribute interpreter entry
      applyAttributes interpreter rest

/-- A cell with attributes written into it, one after another. -/
def writeCell (cell : CellProperties) : List (CellRule × Attribute) → Work CellProperties
  | [] => return cell
  | (rule, entry) :: rest => do
      let next ←
        Work.onAttribute entry.name (Work.logged (Logged.ofExcept (rule.apply entry.value cell)))
      writeCell next rest

/-- Sets up the cell that the tag takes in a table around it. -/
def configureCell (defaults : CellProperties) (entries : List (CellRule × Attribute)) :
    Work Unit := do
  let cell ← writeCell defaults entries
  Work.change fun assembly => { assembly with cell }

/-- Takes in the text inside the tag. -/
def takeText (text : String) : Work Unit := do
  let target ← Work.requireTarget
  let bench ← get
  let changed ←
    Work.logged (bench.assembly.rule.takeText text bench.assembly.blueprint.text.isSome target)
  Work.change fun assembly => { assembly with target := some changed }

/-- A target with a listener that belongs to it. -/
def takeListener (listener : Listener) (target : Target) : Except Problem Target :=
  match target with
  | .widget widget =>
      .ok (.widget { widget with listeners := widget.listeners ++ [listener] })
  | .listener _ => .error (.construction .listenersNotNested)

/-- Takes in a finished tag inside the tag. -/
def attach (child : ClosedTag) : Work Unit := do
  let target ← Work.requireTarget
  let bench ← get
  let changed ← Work.logged (Logged.ofExcept
    (match child.target with
      | .widget widget => bench.assembly.rule.takeWidget widget child.cell target
      | .listener listener => takeListener listener target))
  Work.change fun assembly => { assembly with target := some changed }

/-- Notes that all children have been taken in. -/
def finishChildren : Work Unit :=
  Work.change fun assembly => { assembly with stage := .childrenAttached }

end Assembly

/-- The ids of a document in the order in which their tags closed, and the journal of the run. -/
structure Register where
  ids : List String := []
  journal : Journal := {}
deriving Inhabited

/-- Work that registers ids. -/
abbrev Registration := EStateM LocatedProblem Register

namespace Registration

/-- Fails with a problem at a path. -/
def fail (path : TagPath) (problem : Problem) : Registration α :=
  throw (problem.located path)

/-- Writes a line of the log. -/
def record (level : LogLevel) (text : String) : Registration Unit :=
  modify fun register => { register with journal := register.journal.record level text }

/-- Does something with the journal, a problem being placed at a path. -/
def logged (path : TagPath) (inner : Logged α) : Registration α :=
  fun register =>
    match inner register.journal with
    | .ok value journal => .ok value { register with journal }
    | .error problem journal => .error (problem.located path) { register with journal }

/-- Does a step of the work on a tag. -/
def work (assembly : Assembly) (step : Work Unit) : Registration Assembly :=
  fun register =>
    match step ⟨assembly, register.journal⟩ with
    | .ok _ bench => .ok bench.assembly { register with journal := bench.journal }
    | .error problem bench => .error problem { register with journal := bench.journal }

end Registration

namespace Assembly

/-- Opens a tag. -/
def start (rule : TagRule) (path : TagPath) : Registration Assembly := do
  Registration.record .debug ("open " ++ path.render)
  return { path, rule }

/-- Runs actions on a widget, one after another. -/
def runOnClose (path : TagPath) (actions : Actions) (widget : Widget) :
    List String → Registration Widget
  | [] => return widget
  | action :: rest => do
      let (changed, _) ← Registration.logged path (actions.invokeOn action widget)
      runOnClose path actions changed rest

/-- Registers the id of a widget, which must be new. -/
def registerId (path : TagPath) (widget : Widget) : Registration Unit := do
  match widget.id with
  | none => return
  | some id => do
      let register ← get
      if register.ids.contains id then
        Registration.fail path (.construction (.duplicateId id))
      else
        set { register with ids := register.ids ++ [id] }

/--
Checks a listener: it needs an action that is registered, and the ids it waits for must be
registered or belong to tags that are still open.
-/
def checkListener
    (path : TagPath)
    (openIds : List String)
    (actions : Actions)
    (listener : Listener) :
    Registration Listener := do
  match listener.action with
  | none => Registration.fail path (.construction .listenerWithoutAction)
  | some reference => do
      let action ← Registration.logged path (Logged.ofExcept (actions.resolve reference))
      let register ← get
      match listener.ids.find? fun id => !register.ids.contains id && !openIds.contains id with
      | some id => Registration.fail path (.construction (.listenerForUnknownId id))
      | none => return { listener with action := some action }

/-- Closes a tag: ids are registered, listeners checked and closing actions run. -/
def close (assembly : Assembly) (openIds : List String) (actions : Actions) :
    Registration ClosedTag := do
  let target ←
    match assembly.target with
    | none => Registration.fail assembly.path (.construction .closedBeforeInstantiation)
    | some (.widget widget) => do
        registerId assembly.path widget
        let changed ← runOnClose assembly.path actions widget assembly.onClose
        pure (Target.widget changed)
    | some (.listener listener) => do
        let checked ← checkListener assembly.path openIds actions listener
        pure (Target.listener checked)
  Registration.record .debug ("close " ++ assembly.path.render)
  return { target, cell := assembly.cell }

end Assembly

end WidgetMarkup
