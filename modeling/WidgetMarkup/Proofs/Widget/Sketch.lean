import WidgetMarkup.Proofs.Widget.Fitness

namespace WidgetMarkup

/-!
# Sketches of widgets

A sketch keeps the structure of a tree of widgets: the kind of each of them, how it holds others,
its listeners, and what it holds. What is looked at of a text is left open, so that trees can be
compared that differ in their texts, too.
-/

/-- What is kept of a widget and of everything inside it. -/
structure Sketch (β : Type) where
  kind : WidgetKind
  shape : ContentShape
  /-- What is seen of the text of the widget. -/
  text : β
  listeners : List Listener
  children : List (Sketch β)
deriving Repr

variable {β : Type}

namespace Sketch

/-- The sketch with more listeners, and with more inside, behind what was there. -/
def extend (listeners : List Listener) (children : List (Sketch β)) (sketch : Sketch β) :
    Sketch β :=
  { sketch with
    listeners := sketch.listeners ++ listeners
    children := sketch.children ++ children }

@[simp] theorem extend_nil
    (sketch : Sketch β) :
    sketch.extend [] [] = sketch := by
  cases sketch
  simp [extend]

@[simp] theorem extend_extend
    (listeners others : List Listener)
    (children rest : List (Sketch β))
    (sketch : Sketch β) :
    (sketch.extend listeners children).extend others rest =
      sketch.extend (listeners ++ others) (children ++ rest) := by
  simp [extend]

/-- The sketch of a label that is made from a text. -/
def label (look : Option String → β) (text : String) : Sketch β where
  kind := .label
  shape := .leaf
  text := look (some text)
  listeners := []
  children := []

mutual

/-- The number of widgets in a sketch. -/
def count : Sketch β → Nat
  | ⟨_, _, _, _, children⟩ => 1 + countAll children

/-- The number of widgets in several sketches. -/
def countAll : List (Sketch β) → Nat
  | [] => 0
  | sketch :: rest => sketch.count + countAll rest

end

theorem count_eq
    (sketch : Sketch β) :
    sketch.count = 1 + countAll sketch.children := by
  cases sketch
  rw [count]

theorem countAll_append
    (sketches others : List (Sketch β)) :
    countAll (sketches ++ others) = countAll sketches + countAll others := by
  induction sketches with
  | nil =>
      rw [List.nil_append, countAll, Nat.zero_add]
  | cons first rest inductionHypothesis =>
      rw [List.cons_append, countAll, countAll, inductionHypothesis, Nat.add_assoc]

/-- Labels are counted one each. -/
theorem countAll_map_label
    (look : Option String → β)
    (texts : List String) :
    countAll (texts.map (label look)) = texts.length := by
  induction texts with
  | nil =>
      rw [List.map_nil, countAll, List.length_nil]
  | cons first rest inductionHypothesis =>
      rw [List.map_cons, countAll, inductionHypothesis, List.length_cons, Nat.add_comm]
      rfl

end Sketch

namespace Widget

/-- The sketch of a widget. -/
def sketch (look : Option String → β) : Widget → Sketch β :=
  fold fun widget children =>
    { kind := widget.kind
      shape := widget.content.shape
      text := look widget.text
      listeners := widget.listeners
      children }

theorem sketch_eq
    (look : Option String → β)
    (widget : Widget) :
    widget.sketch look =
      { kind := widget.kind
        shape := widget.content.shape
        text := look widget.text
        listeners := widget.listeners
        children := widget.children.map (sketch look) } :=
  fold_eq _ widget

theorem sketch_label
    (look : Option String → β)
    (text : String) :
    (label text).sketch look = .label look text := by
  rw [sketch_eq]
  rfl

/-- A widget with more listeners has a sketch with more. -/
theorem sketch_listening
    (look : Option String → β)
    (widget : Widget)
    (added : List Listener) :
    sketch look { widget with listeners := widget.listeners ++ added } =
      (widget.sketch look).extend added [] := by
  rw [sketch_eq, sketch_eq look widget, Sketch.extend, List.append_nil]
  rfl

/-- A widget that holds more, in the same way, has a sketch that does. -/
theorem sketch_holding
    (look : Option String → β)
    {widget : Widget}
    {content : Content Widget}
    {added : List Widget}
    (shape : content.shape = widget.content.shape)
    (children : Widget.children { widget with content } = widget.children ++ added) :
    sketch look { widget with content } =
      (widget.sketch look).extend [] (added.map (sketch look)) := by
  rw [sketch_eq, sketch_eq look widget, Sketch.extend, List.append_nil, children, shape,
    List.map_append]

/-- Sketches of widgets have as many widgets as their trees if each has. -/
theorem countAll_map_sketch
    {look : Option String → β}
    {widgets : List Widget}
    (each : ∀ widget ∈ widgets, (widget.sketch look).count = widget.count) :
    Sketch.countAll (widgets.map (sketch look)) = Document.count ⟨widgets, []⟩ := by
  induction widgets with
  | nil =>
      rfl
  | cons first rest inductionHypothesis =>
      rw [List.forall_mem_cons] at each
      rw [List.map_cons, Sketch.countAll, each.1, inductionHypothesis each.2]
      rfl

/-- A sketch has as many widgets as the tree. -/
theorem count_sketch
    (look : Option String → β)
    (widget : Widget) :
    (widget.sketch look).count = widget.count := by
  induction widget using induct with
  | step widget inductionHypothesis =>
      have counted : widget.count = 1 + Document.count ⟨widget.children, []⟩ :=
        fold_eq _ widget
      rw [sketch_eq, Sketch.count, countAll_map_sketch inductionHypothesis, counted]

end Widget

/-- A document has as many widgets as the sketches of its roots. -/
theorem Document.count_eq
    (look : Option String → β)
    (document : Document) :
    document.count = Sketch.countAll (document.roots.map (Widget.sketch look)) :=
  (Widget.countAll_map_sketch fun root _ => root.count_sketch look).symm

end WidgetMarkup
