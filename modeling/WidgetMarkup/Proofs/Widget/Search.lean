import Mathlib.Data.List.Nodup
import WidgetMarkup.Document

namespace WidgetMarkup

/-!
# Searching trees of widgets

The widgets of a tree in post-order, each behind all that are inside it, and the ids among them. A
search by id finds a widget if there is one with the id, and the only one if there is but one.
-/

namespace Widget

/-- What holds of a widget if it holds of all that are right inside it holds of every widget. -/
theorem induct
    {holds : Widget → Prop}
    (step : ∀ widget, (∀ child ∈ widget.children, holds child) → holds widget)
    (widget : Widget) :
    holds widget :=
  step widget fun child _ => induct step child
termination_by sizeOf widget
decreasing_by
  exact sizeOf_lt_of_mem_children ‹_›

/-- The widgets of a tree, each behind all that are inside it. -/
def postorder : Widget → List Widget :=
  fold fun widget inside => inside.flatten ++ [widget]

theorem postorder_eq
    (widget : Widget) :
    widget.postorder = widget.children.flatMap postorder ++ [widget] :=
  fold_eq _ widget

/-- What holds of every widget of a tree holds of those in the trees inside it and of its root. -/
theorem forall_mem_postorder
    {holds : Widget → Prop}
    {widget : Widget} :
    (∀ member ∈ widget.postorder, holds member) ↔
      (∀ child ∈ widget.children, ∀ member ∈ child.postorder, holds member) ∧ holds widget := by
  rw [postorder_eq]
  simp only [List.forall_mem_append, List.forall_mem_flatMap, List.forall_mem_singleton]

/-- The post-order of a tree has each of its widgets once. -/
theorem length_postorder
    (widget : Widget) :
    widget.postorder.length = widget.count := by
  induction widget using induct with
  | step widget inductionHypothesis =>
      have inside : widget.children.map (List.length ∘ postorder) = widget.children.map count :=
        List.map_congr_left inductionHypothesis
      unfold count at inside ⊢
      rw [postorder_eq, fold_eq, List.length_append, List.length_flatMap, List.length_singleton,
        Nat.add_comm]
      exact congrArg (1 + List.sum ·) inside

/-- The ids of a tree in post-order. -/
def ids (widget : Widget) : List String :=
  widget.postorder.filterMap Widget.id

/-- The ids of the widgets inside a widget, in post-order. -/
def idsInside (widget : Widget) : List String :=
  widget.children.flatMap ids

/-- The ids of a tree are those inside its root and then that of the root. -/
theorem ids_eq
    (widget : Widget) :
    widget.ids = widget.idsInside ++ widget.id.toList := by
  have own : [widget].filterMap Widget.id = widget.id.toList := by
    cases identified : widget.id <;> simp [identified]
  unfold ids idsInside
  rw [postorder_eq, List.filterMap_append, List.filterMap_flatMap, own]
  rfl

/-- A search looks at a widget first and then at those inside it. -/
theorem find?_eq
    (id : String)
    (widget : Widget) :
    widget.find? id =
      if widget.id = some id then some widget else widget.children.findSome? (find? id) := by
  unfold find?
  rw [fold_eq]
  simp only [List.findSome?_map, Function.comp_def]

/-- What a search finds is a widget of the tree that has the id. -/
theorem mem_postorder_of_find?
    {id : String}
    {widget found : Widget}
    (isFound : widget.find? id = some found) :
    found ∈ widget.postorder ∧ found.id = some id := by
  induction widget using induct with
  | step widget inductionHypothesis =>
      rw [find?_eq] at isFound
      rw [postorder_eq, List.mem_append, List.mem_flatMap, List.mem_singleton]
      split at isFound
      · rename_i identified
        cases isFound
        exact ⟨.inr rfl, identified⟩
      · obtain ⟨child, member, isFound⟩ := List.exists_of_findSome?_eq_some isFound
        obtain ⟨inTree, identified⟩ := inductionHypothesis child member isFound
        exact ⟨.inl ⟨child, member, inTree⟩, identified⟩

/-- A search finds something if a widget of the tree has the id. -/
theorem find?_isSome
    {id : String}
    {widget named : Widget}
    (inTree : named ∈ widget.postorder)
    (identified : named.id = some id) :
    (widget.find? id).isSome := by
  induction widget using induct with
  | step widget inductionHypothesis =>
      rw [find?_eq]
      rw [postorder_eq, List.mem_append, List.mem_flatMap, List.mem_singleton] at inTree
      split
      · rfl
      · rename_i other
        rcases inTree with ⟨child, member, inTree⟩ | rfl
        · rw [List.findSome?_isSome_iff]
          exact ⟨child, member, inductionHypothesis child member inTree⟩
        · exact absurd identified other

end Widget

namespace Document

/-- The widgets of a document in post-order, the roots in their order. -/
def widgets (document : Document) : List Widget :=
  document.roots.flatMap Widget.postorder

/-- The widgets of a document are as many as it counts. -/
theorem length_widgets
    (document : Document) :
    document.widgets.length = document.count := by
  unfold widgets count
  rw [List.length_flatMap]
  exact congrArg List.sum (List.map_congr_left fun root _ => root.length_postorder)

/-- The ids of the widgets are those of the trees, one after another. -/
theorem filterMap_id_widgets
    (document : Document) :
    document.widgets.filterMap Widget.id = document.roots.flatMap Widget.ids :=
  List.filterMap_flatMap

theorem mem_widgets_of_named?
    {document : Document}
    {id : String}
    {found : Widget}
    (isFound : document.named? id = some found) :
    found ∈ document.widgets ∧ found.id = some id := by
  obtain ⟨root, member, isFound⟩ := List.exists_of_findSome?_eq_some isFound
  obtain ⟨inTree, identified⟩ := Widget.mem_postorder_of_find? isFound
  exact ⟨List.mem_flatMap.2 ⟨root, member, inTree⟩, identified⟩

theorem named?_isSome
    {document : Document}
    {id : String}
    {named : Widget}
    (inDocument : named ∈ document.widgets)
    (identified : named.id = some id) :
    (document.named? id).isSome := by
  obtain ⟨root, member, inTree⟩ := List.mem_flatMap.1 inDocument
  unfold named?
  rw [List.findSome?_isSome_iff]
  exact ⟨root, member, Widget.find?_isSome inTree identified⟩

/-- A document finds nothing under an id that no widget has. -/
theorem named?_eq_none
    {document : Document}
    {id : String}
    (free : id ∉ document.widgets.filterMap Widget.id) :
    document.named? id = none := by
  cases isFound : document.named? id with
  | none =>
      rfl
  | some found =>
      obtain ⟨inDocument, identified⟩ := mem_widgets_of_named? isFound
      exact absurd (List.mem_filterMap.2 ⟨found, inDocument, identified⟩) free

/-- If no two widgets have the same id, a document finds the one widget that has an id. -/
theorem named?_eq_some
    {document : Document}
    {id : String}
    (distinct : (document.widgets.filterMap Widget.id).Nodup)
    (taken : id ∈ document.widgets.filterMap Widget.id) :
    ∃ widget,
      (document.widgets.filter fun other => other.id == some id) = [widget] ∧
        document.named? id = some widget := by
  have single : (document.widgets.filter fun other => other.id == some id).length = 1 := by
    rw [← List.countP_eq_length_filter, ← List.count_filterMap]
    exact List.count_eq_one_of_mem distinct taken
  obtain ⟨widget, only⟩ := List.length_eq_one_iff.1 single
  obtain ⟨named, inDocument, identified⟩ := List.mem_filterMap.1 taken
  obtain ⟨found, isFound⟩ := Option.isSome_iff_exists.1 (named?_isSome inDocument identified)
  obtain ⟨foundInDocument, foundIdentified⟩ := mem_widgets_of_named? isFound
  have isOnly : found ∈ document.widgets.filter fun other => other.id == some id :=
    List.mem_filter.2 ⟨foundInDocument, by simp [foundIdentified]⟩
  rw [only, List.mem_singleton] at isOnly
  exact ⟨widget, only, isOnly ▸ isFound⟩

end Document

end WidgetMarkup
