import WidgetMarkup.Vocabulary.Registry

namespace WidgetMarkup

/-!
# The attributes of the language

Attributes of blueprints, of widgets by kind and capability, of listeners, and of the cells of
tables.
-/

namespace StandardAttribute

/-- Reads nothing: the raw text is the value. -/
def readText (raw : String) : Except ValueError String :=
  .ok raw

/-- The name of an action that the raw text refers to. -/
def readAction (context : AttributeContext) (raw : String) : Except Problem String :=
  context.actions.resolve raw

/-- Changes the range of a blueprint. -/
def writeRange
    (write : α → RangeRequest → RangeRequest)
    (value : α)
    (blueprint : Blueprint) :
    Blueprint :=
  { blueprint with range := write value blueprint.range }

/-- The attributes of blueprints. -/
def building : List (List String × BuildingRule) :=
  [ (["style", "class"],
      .setting .base AttributeValue.readName fun name blueprint =>
        { blueprint with style := name }),
    (["text", "value"],
      .setting .text readText fun text blueprint => { blueprint with text := some text }),
    (["vertical"],
      .setting .aligned AttributeValue.readTruth fun truth blueprint =>
        { blueprint with vertical := some truth }),
    (["horizontal"],
      .setting .aligned AttributeValue.readTruth fun truth blueprint =>
        { blueprint with vertical := some !truth }),
    (["min"],
      .setting .range AttributeValue.readNumber
        (writeRange fun number range => { range with least := some number })),
    (["max"],
      .setting .range AttributeValue.readNumber
        (writeRange fun number range => { range with greatest := some number })),
    (["step", "stepSize"],
      .setting .range AttributeValue.readNumber
        (writeRange fun number range => { range with step := some number })),
    (["value"],
      .setting .range AttributeValue.readNumber
        (writeRange fun number range => { range with value := some number })) ]

/-- A rule that adds a listener for an event to a widget. -/
def listening (event : ListenerEvent) : AttributeRule :=
  .onWidget (.kind .actor) readAction fun action widget =>
    { widget with listeners := widget.listeners ++ [{ event, action := some action }] }

/-- A rule that runs an action on the widget at once. -/
def running : AttributeRule where
  key := .kind .actor
  apply context raw workpiece := do
    let (target, _) ← context.actions.invokeOnTarget raw workpiece.target
    return { workpiece with target }

/-- A rule that has an action run when the tag closes. -/
def closing : AttributeRule where
  key := .kind .actor
  apply context raw workpiece := do
    let action ← Logged.ofExcept (context.actions.resolve raw)
    return { workpiece with onClose := workpiece.onClose ++ [action] }

/-- The attributes of every widget. -/
def actor : List (List String × AttributeRule) :=
  [ (["id"],
      .setting (.kind .actor) AttributeValue.readName fun id widget =>
        { widget with id := some id }),
    (["visible"],
      .setting (.kind .actor) AttributeValue.readTruth fun visible widget =>
        { widget with visible }),
    (["color"],
      .setting (.kind .actor) Color.read fun color widget => { widget with color := some color }),
    (["onClick", "click"], listening .click),
    (["onChange", "change"], listening .change),
    (["action", "onShow"], listening .shown),
    (["onCreate", "create", "init"], running),
    (["onClose", "close"], closing) ]

/-- A rule that writes one side of a widget's padding. -/
def paddingSide (write : Float32 → Edges → Edges) : AttributeRule :=
  .setting (.capability .padded) AttributeValue.readNumber fun distance widget =>
    { widget with padding := write distance widget.padding }

/-- The sides of a box by the endings of their attributes' names. -/
def sides : List (String × (Float32 → Edges → Edges)) :=
  [ ("padTop", fun distance edges => { edges with top := distance }),
    ("padLeft", fun distance edges => { edges with left := distance }),
    ("padBottom", fun distance edges => { edges with bottom := distance }),
    ("padRight", fun distance edges => { edges with right := distance }) ]

/-- The attributes of widgets that have a capability. -/
def capability : List (List String × AttributeRule) :=
  [ (["fillParent"],
      .setting (.capability .layout) AttributeValue.readTruth fun fillParent widget =>
        { widget with fillParent }),
    (["disabled", "disable"],
      .setting (.capability .disableable) AttributeValue.readTruth fun disabled widget =>
        { widget with disabled }),
    (["checked"],
      .setting (.capability .toggleable) AttributeValue.readTruth fun checked widget =>
        { widget with checked }),
    (["align"],
      .setting (.capability .alignable) Alignment.read fun align widget =>
        { widget with align := some align }),
    (["title"],
      .setting (.capability .titled) readText fun title widget =>
        { widget with title := some title }),
    (["pad", "padding"],
      .setting (.capability .padded) AttributeValue.readNumber fun distance widget =>
        { widget with padding := .all distance }) ] ++
    sides.map fun side => ([side.1], paddingSide side.2)

/-- A rule that writes the space between the children of a group. -/
def spacing (kind : WidgetKind) : AttributeRule :=
  .setting (.kind kind) AttributeValue.readNumber fun spacing widget => { widget with spacing }

/-- The attributes of single kinds. -/
def kind : List (List String × AttributeRule) :=
  [ (["wrap"],
      .setting (.kind .label) AttributeValue.readTruth fun wrap widget => { widget with wrap }),
    (["modal"],
      .setting (.kind .window) AttributeValue.readTruth fun modal widget =>
        { widget with modal }),
    (["movable"],
      .setting (.kind .window) AttributeValue.readTruth fun movable widget =>
        { widget with movable }),
    (["spacing", "space"], spacing .horizontalGroup),
    (["spacing", "space"], spacing .verticalGroup),
    (["disabled", "disable"],
      .setting (.kind .scrollPane) AttributeValue.readTruth fun scrollingDisabled widget =>
        { widget with scrollingDisabled }) ]

/-- The attributes of listeners. -/
def listener : List (List String × AttributeRule) :=
  [ (["action"],
      .onListener readAction fun action listener => { listener with action := some action }),
    (["ids"],
      .onListener (fun context raw => .ok (AttributeValue.items context.separator raw))
        fun ids listener => { listener with ids }),
    (["keep"],
      .onListener (fun _ => readValueWith AttributeValue.readTruth)
        fun keep listener => { listener with keep }) ]

/-- The flags of cells and what they set. -/
def cellFlags : List (String × (Bool → CellProperties → CellProperties)) :=
  [ ("expand", fun flag cell => { cell with expandX := flag, expandY := flag }),
    ("expandX", fun flag cell => { cell with expandX := flag }),
    ("expandY", fun flag cell => { cell with expandY := flag }),
    ("fill", fun flag cell => { cell with fillX := flag, fillY := flag }),
    ("fillX", fun flag cell => { cell with fillX := flag }),
    ("fillY", fun flag cell => { cell with fillY := flag }),
    ("grow", fun flag cell =>
      { cell with expandX := flag, expandY := flag, fillX := flag, fillY := flag }) ]

/-- The attributes of cells; all but the end of a row can be set for a whole table. -/
def cell : List (CellAlias × CellRule) :=
  [ (.derived "pad",
      .setting AttributeValue.readNumber fun distance cell => { cell with pad := .all distance }) ] ++
    sides.map (fun side =>
      (.derived side.1,
        .setting AttributeValue.readNumber fun distance cell =>
          { cell with pad := side.2 distance cell.pad })) ++
    [ (.derived "colspan",
        .setting AttributeValue.readPositive fun colspan cell => { cell with colspan }) ] ++
    cellFlags.map (fun flag => (.derived flag.1, .setting AttributeValue.readTruth flag.2)) ++
    [ (.derived "align",
        .setting Alignment.read fun align cell => { cell with align := some align }),
      (.derived "width",
        .setting AttributeValue.readNumber fun width cell => { cell with width := some width }),
      (.derived "height",
        .setting AttributeValue.readNumber fun height cell => { cell with height := some height }),
      (.cellOnly "row",
        .setting AttributeValue.readTruth fun endRow cell => { cell with endRow }) ]

/-- The attributes of finished targets, in the order in which they are registered. -/
def target : List (List String × AttributeRule) :=
  actor ++ capability ++ kind ++ listener

end StandardAttribute

end WidgetMarkup
