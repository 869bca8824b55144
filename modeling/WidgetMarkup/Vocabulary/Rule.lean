import WidgetMarkup.Action
import WidgetMarkup.Construction.Blueprint

namespace WidgetMarkup

/-!
# Rules for tags and attributes

What a name of the language means: a tag rule makes a target and says how it takes in text and
widgets, and each of the three kinds of attributes has rules that change what it is given to.
-/

/-- A target that attributes are applied to, and the actions to run when its tag closes. -/
structure Workpiece where
  target : Target
  onClose : List String := []
deriving Inhabited

/-- What a rule for an attribute may look at. -/
structure AttributeContext where
  /-- The name of the attribute as written. -/
  name : String
  actions : Actions
  /-- The separator of lists. -/
  separator : Char

/-- What an attribute does to a target that has been made. -/
structure AttributeRule where
  key : TargetKey
  apply : AttributeContext → String → Workpiece → Logged Workpiece

/-- What an attribute writes into a blueprint. -/
structure BuildingRule where
  feature : Feature
  apply : String → Blueprint → Except Problem Blueprint

/-- What an attribute writes into a cell of a table. -/
structure CellRule where
  apply : String → CellProperties → Except Problem CellProperties

/-- Reads a value and passes on why it could not be read. -/
def readValueWith
    (read : String → Except ValueError α)
    (raw : String) :
    Except Problem α :=
  (read raw).mapError .badValue

namespace BuildingRule

/-- A rule that reads a value and writes it into the blueprint. -/
def setting
    (feature : Feature)
    (read : String → Except ValueError α)
    (write : α → Blueprint → Blueprint) :
    BuildingRule where
  feature := feature
  apply raw blueprint := do
    let value ← readValueWith read raw
    return write value blueprint

end BuildingRule

namespace CellRule

/-- A rule that reads a value and writes it into the cell. -/
def setting
    (read : String → Except ValueError α)
    (write : α → CellProperties → CellProperties) :
    CellRule where
  apply raw cell := do
    let value ← readValueWith read raw
    return write value cell

end CellRule

namespace AttributeContext

/-- The widget that a workpiece is. -/
def requireWidget
    (context : AttributeContext)
    (workpiece : Workpiece) :
    Except Problem Widget :=
  match workpiece.target with
  | .widget widget => .ok widget
  | .listener _ => .error (.construction (.needsWidget context.name))

/-- The listener that a workpiece is. -/
def requireListener
    (context : AttributeContext)
    (workpiece : Workpiece) :
    Except Problem Listener :=
  match workpiece.target with
  | .listener listener => .ok listener
  | .widget widget => .error (.construction (.needsListener context.name widget.kind))

end AttributeContext

/-- Work without a journal as part of work with one. -/
def Logged.ofExcept (outcome : Except Problem α) : Logged α :=
  match outcome with
  | .ok value => pure value
  | .error problem => throw problem

namespace AttributeRule

/-- A rule that reads something from the raw text and changes the widget by it. -/
def onWidget
    (key : TargetKey)
    (read : AttributeContext → String → Except Problem α)
    (write : α → Widget → Widget) :
    AttributeRule where
  key := key
  apply context raw workpiece := do
    let value ← Logged.ofExcept (read context raw)
    let widget ← Logged.ofExcept (context.requireWidget workpiece)
    return { workpiece with target := .widget (write value widget) }

/-- A rule that reads something from the raw text and changes the listener by it. -/
def onListener
    (read : AttributeContext → String → Except Problem α)
    (write : α → Listener → Listener) :
    AttributeRule where
  key := .listener
  apply context raw workpiece := do
    let value ← Logged.ofExcept (read context raw)
    let listener ← Logged.ofExcept (context.requireListener workpiece)
    return { workpiece with target := .listener (write value listener) }

/-- A rule that reads a value and writes it into the widget. -/
def setting
    (key : TargetKey)
    (read : String → Except ValueError α)
    (write : α → Widget → Widget) :
    AttributeRule :=
  onWidget key (fun _ => readValueWith read) write

/-- A rule that applies a cell rule to what new cells of a table start from. -/
def cellDefaults (rule : CellRule) : AttributeRule where
  key := .kind .table
  apply context raw workpiece := do
    let widget ← Logged.ofExcept (context.requireWidget workpiece)
    match widget.content with
    | .table table => do
        let defaults ← Logged.ofExcept (rule.apply raw table.defaults)
        let changed := { widget with content := .table { table with defaults } }
        return { workpiece with target := .widget changed }
    | _ => throw (.construction .cellDefaultsWithoutTable)

end AttributeRule

/-- How text and children are taken in when a rule says nothing else. -/
structure TagRule where
  /-- The groups of attributes for the blueprint, in the order in which they are looked up. -/
  features : List Feature
  create : Blueprint → Except Problem Target
  /-- Takes in the text inside the tag; the flag tells whether an attribute gave a text. -/
  takeText : String → Bool → Target → Logged Target
  /-- Takes in a widget made by a tag inside, with its cell. -/
  takeWidget : Widget → CellProperties → Target → Except Problem Target

namespace TagRule

/-- A label for each line of a text, each in a row of its own. -/
def addLabelRows (lines : List String) (table : Table Widget) : Table Widget :=
  lines.foldl
    (fun table line => table.add (Widget.label line) { table.defaults with endRow := true })
    table

/-- The widget with the labels that a text makes in its content. -/
def addTextLabels (text : String) (widget : Widget) : Except Problem Widget :=
  match widget.content with
  | .table table =>
      .ok { widget with content := .table (addLabelRows (Text.lines text) table) }
  | .children children =>
      let labels := (Text.lines text).map Widget.label
      .ok { widget with content := .children (children ++ labels) }
  | .single none => .ok { widget with content := .single (some (Widget.label text)) }
  | .single (some _) => .error (.construction (.holdsWidgetAlready widget.kind))
  | .leaf => .error (.construction (.cannotHoldText widget.kind))

/--
How text is taken in by default: a listener without an action takes it as its action's name, a
widget that bears text takes it as its text unless an attribute gave one, and any other widget
takes labels into its content.
-/
def takeTextByDefault (text : String) (explicit : Bool) (target : Target) : Logged Target := do
  match target with
  | .listener listener =>
      if listener.action.isNone then
        return .listener { listener with action := some (Text.trim text) }
      else
        return target
  | .widget widget =>
      if widget.kind.has .textBearing then
        if explicit then do
          Logged.record .warning
            (widget.kind.name ++ ": inner text ignored, a text attribute was given")
          return target
        else
          return .widget { widget with text := some text }
      else do
        let changed ← Logged.ofExcept (addTextLabels text widget)
        return .widget changed

/-- How widgets are taken in by default: as the content allows. -/
def takeWidgetByDefault
    (child : Widget)
    (cell : CellProperties)
    (target : Target) :
    Except Problem Target :=
  match target with
  | .listener _ => .error (.construction (.listenerHoldsNoWidgets child.kind))
  | .widget widget =>
      match widget.content with
      | .table table =>
          .ok (.widget { widget with content := .table (table.add child cell) })
      | .children children =>
          .ok (.widget { widget with content := .children (children ++ [child]) })
      | .single none => .ok (.widget { widget with content := .single (some child) })
      | .single (some _) => .error (.construction (.holdsSingleWidget widget.kind))
      | .leaf => .error (.construction (.cannotHoldWidgets widget.kind child.kind))

/-- A rule with the default ways of taking in text and widgets. -/
def plain (create : Blueprint → Except Problem Target) : TagRule where
  features := [.base]
  create := create
  takeText := takeTextByDefault
  takeWidget := takeWidgetByDefault

/-- The features of the tags of a kind. -/
def featuresOfKind (kind : WidgetKind) : List Feature :=
  if kind.has .rangeValued then
    [.base, .range, .aligned]
  else if kind.has .textBearing then
    [.base, .text]
  else
    [.base]

/-- Makes a widget of a kind from a blueprint. -/
def createOfKind (kind : WidgetKind) (blueprint : Blueprint) : Except Problem Target := do
  let fresh := { Widget.ofKind kind with style := blueprint.style }
  let lettered :=
    if kind.has .textBearing then { fresh with text := blueprint.text } else fresh
  if kind.has .rangeValued then
    let range ← blueprint.range.resolve.mapError .construction
    let vertical := blueprint.vertical.getD false
    return .widget { lettered with range := some range, vertical }
  else
    return .widget lettered

/-- The rule of the tags that make widgets of a kind. -/
def ofKind (kind : WidgetKind) : TagRule :=
  { plain (createOfKind kind) with features := featuresOfKind kind }

/-- The rule of the tags that make listeners for an event. -/
def ofEvent (event : ListenerEvent) : TagRule :=
  plain fun _ => .ok (.listener { event })

end TagRule

end WidgetMarkup
