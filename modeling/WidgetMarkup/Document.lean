import WidgetMarkup.Widget.Outline

namespace WidgetMarkup

/-!
# Documents

The widgets that a source describes, and the ids among them.
-/

/-- The widgets of a document, and its ids in the order in which their tags closed. -/
structure Document where
  roots : List Widget
  ids : List String
deriving Inhabited

namespace Document

/-- The first widget with an id. -/
def named? (document : Document) (id : String) : Option Widget :=
  document.roots.findSome? fun root => root.find? id

/-- Whether a document has no widgets. -/
def isEmpty (document : Document) : Bool :=
  document.roots.isEmpty

-- The zero of a sum is that of core, also where a library has a zero of its own.
attribute [local instance (high)] Zero.ofOfNat0

/-- The number of widgets in a document. -/
def count (document : Document) : Nat :=
  (document.roots.map Widget.count).sum

/-- The outline of a document. -/
def outline (document : Document) : String :=
  String.join (document.roots.map Widget.outline)

end Document

end WidgetMarkup
