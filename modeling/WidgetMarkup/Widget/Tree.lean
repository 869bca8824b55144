import WidgetMarkup.Appearance.Color
import WidgetMarkup.Widget.Kind
import WidgetMarkup.Widget.Table

namespace WidgetMarkup

/-!
# Widgets

A widget has a kind, properties of its own, listeners, and content: nothing, at most one widget,
a list of widgets or a table. Whatever the content is, its widgets come in one order, and every
walk over the tree is a fold along that order.
-/

/-- What a listener waits for. -/
inductive ListenerEvent where
  | click
  | change
  | shown
deriving Repr, DecidableEq, Inhabited

namespace ListenerEvent

/-- Every event. -/
def all : List ListenerEvent :=
  [click, change, shown]

/-- The name of an event. -/
def name : ListenerEvent → String
  | click => "Click"
  | change => "Change"
  | shown => "Show"

end ListenerEvent

/-- An action to run when something happens. -/
structure Listener where
  event : ListenerEvent
  action : Option String := none
  /-- The ids of other widgets that the listener waits for too. -/
  ids : List String := []
  /-- Whether the listener stays after it has run. -/
  keep : Bool := true
deriving Repr, DecidableEq, Inhabited

/-- The numbers that a widget may take, and the one it has. -/
structure ValueRange where
  least : Float32
  greatest : Float32
  step : Float32
  value : Float32
deriving Repr, BEq, Inhabited

/-- What a widget holds. -/
inductive Content (α : Type) where
  | leaf
  | single (child : Option α)
  | children (children : List α)
  | table (table : Table α)
deriving Repr

namespace Content

/-- The widgets that a widget holds, in their order. -/
def widgets : Content α → List α
  | .leaf => []
  | .single child => child.toList
  | .children inside => inside
  | .table cells => cells.cells.map Cell.widget

/-- What a widget holds is smaller than its content. -/
theorem sizeOf_lt_of_mem
    [SizeOf α]
    {content : Content α}
    {member : α}
    (held : member ∈ content.widgets) :
    sizeOf member < sizeOf content := by
  cases content with
  | leaf =>
      simp [widgets] at held
  | single child =>
      simp only [widgets, Option.mem_toList] at held
      cases held
      simp
      omega
  | children inside =>
      simp only [widgets] at held
      have := List.sizeOf_lt_of_mem held
      simp
      omega
  | table cells =>
      simp only [widgets, List.mem_map, Table.cells, List.mem_flatten] at held
      obtain ⟨cell, ⟨row, rowMember, cellMember⟩, equal⟩ := held
      subst equal
      have inRows := List.sizeOf_lt_of_mem rowMember
      have inRow := List.sizeOf_lt_of_mem cellMember
      cases cells
      cases cell
      simp at inRows inRow ⊢
      omega

end Content

/-- A widget with everything it holds. -/
structure Widget where
  kind : WidgetKind
  id : Option String := none
  style : String := "default"
  text : Option String := none
  title : Option String := none
  color : Option Color := none
  visible : Bool := true
  disabled : Bool := false
  checked : Bool := false
  fillParent : Bool := false
  padding : Edges := {}
  align : Option Alignment := none
  vertical : Bool := false
  range : Option ValueRange := none
  wrap : Bool := false
  spacing : Float32 := 0.0
  modal : Bool := false
  movable : Bool := true
  scrollingDisabled : Bool := false
  listeners : List Listener := []
  content : Content Widget := .leaf
deriving Inhabited

namespace WidgetKind

/-- What a fresh widget of a kind holds. -/
def freshContent : WidgetKind → Content α
  | group => .children []
  | stack => .children []
  | horizontalGroup => .children []
  | verticalGroup => .children []
  | container => .single none
  | scrollPane => .single none
  | table => .table {}
  | button => .table {}
  | textButton => .table {}
  | checkBox => .table {}
  | window => .table {}
  | _ => .leaf

end WidgetKind

namespace Widget

/-- A fresh widget of a kind. -/
def ofKind (kind : WidgetKind) : Widget :=
  { kind, content := kind.freshContent }

/-- A label with a text. -/
def label (text : String) : Widget :=
  { ofKind .label with text := some text }

/-- The widgets right inside a widget, in their order. -/
def children (widget : Widget) : List Widget :=
  widget.content.widgets

/-- The table that a widget holds. -/
def table? (widget : Widget) : Option (Table Widget) :=
  match widget.content with
  | .table table => some table
  | _ => none

/-- A widget inside another is smaller. -/
theorem sizeOf_lt_of_mem_children
    {widget child : Widget}
    (member : child ∈ widget.children) :
    sizeOf child < sizeOf widget := by
  have := Content.sizeOf_lt_of_mem member
  cases widget
  simp at this ⊢
  omega

/-- Combines a widget with the results for the widgets right inside it. -/
def fold (combine : Widget → List β → β) (widget : Widget) : β :=
  combine widget (widget.children.attach.map fun child => fold combine child.1)
termination_by sizeOf widget
decreasing_by
  exact sizeOf_lt_of_mem_children child.2

/-- Folding a widget folds the widgets inside it first. -/
theorem fold_eq
    (combine : Widget → List β → β)
    (widget : Widget) :
    widget.fold combine = combine widget (widget.children.map (fold combine)) := by
  rw [fold]
  congr 1
  exact List.attach_map_val

-- The zero of a sum is that of core, also where a library has a zero of its own.
attribute [local instance (high)] Zero.ofOfNat0

/-- The number of widgets in a tree. -/
def count : Widget → Nat :=
  fold fun _ inside => 1 + inside.sum

/-- The first widget with an id, a widget coming before those inside it. -/
def find? (id : String) : Widget → Option Widget :=
  fold fun widget inside =>
    if widget.id = some id then some widget else inside.findSome? fun found => found

/-- The listeners for an event. -/
def listenersFor (widget : Widget) (event : ListenerEvent) : List Listener :=
  widget.listeners.filter fun listener => listener.event == event

end Widget

/-- What a tag makes: a widget, or a listener for the widget around it. -/
inductive Target where
  | widget (widget : Widget)
  | listener (listener : Listener)
deriving Inhabited

namespace Target

/-- The keys under which attributes of a target are looked up, the most specific first. -/
def ancestry : Target → List TargetKey
  | .widget made => made.kind.ancestry
  | .listener _ => [.listener]

/-- A target as messages name it. -/
def describe : Target → String
  | .widget made => made.kind.name
  | .listener made => made.event.name ++ " listener"

/-- The widget that a target is. -/
def widget? : Target → Option Widget
  | .widget made => some made
  | .listener _ => none

end Target

end WidgetMarkup
