import WidgetMarkup.Text.Quoted
import WidgetMarkup.Widget.Tree

namespace WidgetMarkup

/-!
# Outlines

A tree of widgets as text: one line for each widget, in the order of the tree, indented by two
blanks for each level. A line shows the kind and what sets the widget apart.
-/

namespace Listener

/-- A listener as outlines show it. -/
def outline (listener : Listener) : String :=
  " on" ++ listener.event.name ++
    match listener.action with
    | some action => "=" ++ action
    | none => ""

end Listener

namespace ValueRange

/-- A range as outlines show it. -/
def outline (range : ValueRange) : String :=
  " [" ++ Number.Single.render range.least ++ ".." ++ Number.Single.render range.greatest ++
    " step " ++ Number.Single.render range.step ++ " = " ++ Number.Single.render range.value ++ "]"

end ValueRange

namespace Widget

/-- An optional part of a line. -/
def optionalPart (write : α → String) : Option α → String
  | some value => write value
  | none => ""

/-- The line of a widget, without its indentation. -/
def outlineLine (widget : Widget) : String :=
  widget.kind.name ++
    optionalPart (fun id => "#" ++ id) widget.id ++
    optionalPart (fun text => " " ++ Text.quote text) widget.text ++
    optionalPart (fun title => " title=" ++ Text.quote title) widget.title ++
    optionalPart ValueRange.outline widget.range ++
    String.join (widget.listeners.map Listener.outline)

/-- The indentation of a level. -/
def indentation (depth : Nat) : String :=
  String.ofList (List.replicate (2 * depth) ' ')

/-- The lines of a tree whose root stands at a level. -/
def outlineLines : Widget → Nat → List String :=
  fold fun widget inside depth =>
    (indentation depth ++ outlineLine widget) :: inside.flatMap fun lines => lines (depth + 1)

/-- The outline of a tree. -/
def outline (widget : Widget) : String :=
  String.join ((widget.outlineLines 0).map fun line => line ++ "\n")

end Widget

end WidgetMarkup
