import WidgetMarkup.Proofs.Widget.Search

namespace WidgetMarkup

/-!
# Widgets that fit their kinds

A widget fits its kind if it has no property that the kind cannot have and holds others as the kind
does. The keys under which the attributes of a widget are looked up say what its kind can have.
-/

/-- The ways in which widgets hold others. -/
inductive ContentShape where
  | leaf
  | single
  | children
  | table
deriving Repr, DecidableEq, Inhabited

/-- The texts of the labels that a text makes: one for each line where there may be many. -/
def ContentShape.labelTexts (text : String) : ContentShape → List String
  | leaf => []
  | single => [text]
  | children => Text.lines text
  | table => Text.lines text

/-- The way in which a content holds widgets. -/
def Content.shape {α : Type} : Content α → ContentShape
  | .leaf => .leaf
  | .single _ => .single
  | .children _ => .children
  | .table _ => .table

namespace WidgetKind

/-- The way in which a fresh widget of a kind holds others. -/
def shape (kind : WidgetKind) : ContentShape :=
  (kind.freshContent : Content Widget).shape

/-- The capabilities under which attributes are looked up for a kind are its own. -/
theorem has_of_mem_ancestry
    {kind : WidgetKind}
    {capability : Capability}
    (member : TargetKey.capability capability ∈ kind.ancestry) :
    kind.has capability = true := by
  simpa [ancestry, has] using member

/-- A kind is in the lineage of another one if it is the other or above one. -/
theorem eq_or_exists_parent_of_mem_lineage
    {kind other : WidgetKind}
    (member : other ∈ kind.lineage) :
    kind = other ∨ ∃ below : WidgetKind, below.parent? = some other := by
  fun_induction lineage kind with
  | case1 kind parent above inductionHypothesis =>
      rcases List.mem_cons.1 member with rfl | member
      · exact .inl rfl
      · rcases inductionHypothesis member with rfl | isParent
        · exact .inr ⟨kind, above⟩
        · exact .inr isParent
  | case2 kind isTop =>
      exact .inl (List.mem_singleton.1 member).symm

/-- Attributes of a kind with none below it are looked up for that kind only. -/
theorem eq_of_mem_ancestry
    {kind other : WidgetKind}
    (member : TargetKey.kind other ∈ kind.ancestry)
    (isLowest : ∀ below : WidgetKind, below.parent? ≠ some other) :
    kind = other := by
  have isOther : other ∈ kind.lineage := by
    simp only [ancestry, List.mem_append, List.mem_map, List.mem_filter, List.mem_singleton,
      TargetKey.kind.injEq, exists_eq_right, reduceCtorEq, and_false, exists_false, or_false]
      at member
    rcases member with member | rfl
    · exact member.1
    · exact absurd rfl (isLowest .group)
  exact (eq_or_exists_parent_of_mem_lineage isOther).resolve_right fun ⟨below, isParent⟩ =>
    isLowest below isParent

end WidgetKind

namespace Widget

/-- Whether a widget has only properties that its kind can have, and holds others as it does. -/
structure FitsKind (widget : Widget) : Prop where
  text : widget.text.isSome → widget.kind.has .textBearing
  title : widget.title.isSome → widget.kind.has .titled
  disabled : widget.disabled → widget.kind.has .disableable
  checked : widget.checked → widget.kind.has .toggleable
  align : widget.align.isSome → widget.kind.has .alignable
  padding : widget.padding ≠ {} → widget.kind.has .padded
  fillParent : widget.fillParent → widget.kind.has .layout
  range : widget.range.isSome ↔ widget.kind.has .rangeValued
  vertical : widget.vertical → widget.kind.has .rangeValued
  wrap : widget.wrap → widget.kind = .label
  modal : widget.modal → widget.kind = .window
  movable : widget.movable = false → widget.kind = .window
  scrollingDisabled : widget.scrollingDisabled → widget.kind = .scrollPane
  spacing :
    widget.spacing ≠ 0.0 → widget.kind = .horizontalGroup ∨ widget.kind = .verticalGroup
  content : widget.content.shape = widget.kind.shape

/-- A widget fits its kind if it is fresh but for what it may be made with. -/
theorem fitsKind_made
    {kind : WidgetKind}
    {style : String}
    {text : Option String}
    {range : Option ValueRange}
    {vertical : Bool}
    (bearsText : text.isSome → kind.has .textBearing)
    (ranged : range.isSome ↔ kind.has .rangeValued)
    (turned : vertical → kind.has .rangeValued) :
    { ofKind kind with style, text, range, vertical }.FitsKind where
  text := bearsText
  title := nofun
  disabled := nofun
  checked := nofun
  align := nofun
  padding changed := absurd rfl changed
  fillParent := nofun
  range := ranged
  vertical := turned
  wrap := nofun
  modal := nofun
  movable := nofun
  scrollingDisabled := nofun
  spacing changed := absurd rfl changed
  content := rfl

/-- A label fits its kind. -/
theorem fitsKind_label
    (text : String) :
    (label text).FitsKind := by
  have bearsText : WidgetKind.label.has .textBearing = true := by decide +kernel
  have noRange : WidgetKind.label.has .rangeValued = false := by decide +kernel
  refine fitsKind_made (fun _ => bearsText) ?_ nofun
  rw [noRange]
  exact ⟨nofun, nofun⟩

/-- Whether all widgets of a tree fit their kinds. -/
def AllFit (widget : Widget) : Prop :=
  ∀ member ∈ widget.postorder, member.FitsKind

theorem allFit_iff
    {widget : Widget} :
    widget.AllFit ↔ (∀ child ∈ widget.children, child.AllFit) ∧ widget.FitsKind := by
  unfold AllFit
  exact forall_mem_postorder

end Widget

end WidgetMarkup
