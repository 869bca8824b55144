import WidgetMarkup.Proofs.Construction.Outcomes

namespace WidgetMarkup

open Markup

/-!
# Ids under construction

What each rule of the language does to the ids inside a target: a fresh target holds none, its
attributes and text add none, and a finished tag that it takes in adds its own behind them, as
long as actions leave ids where they are.
-/

/-- Whether an action leaves the id of a widget and the ids inside it as they are. -/
def Action.KeepsIds (action : Action) : Prop :=
  ∀ widget : Widget,
    (action.onWidget widget).1.id = widget.id ∧
      (action.onWidget widget).1.idsInside = widget.idsInside

/-- Whether all registered actions leave ids as they are. -/
def Actions.KeepIds (actions : Actions) : Prop :=
  ∀ name action, actions.find? name = some action → action.KeepsIds

/-- An action that changes neither the id of a widget nor what it holds keeps ids. -/
theorem Action.keepsIds_of_content
    {action : Action}
    (keeps :
      ∀ widget : Widget,
        (action.onWidget widget).1.id = widget.id ∧
          (action.onWidget widget).1.content = widget.content) :
    action.KeepsIds := by
  intro widget
  obtain ⟨sameId, sameContent⟩ := keeps widget
  refine ⟨sameId, ?_⟩
  unfold Widget.idsInside Widget.children
  rw [sameContent]

namespace Target

/-- The ids inside the widget that a target is. -/
def idsInside : Target → List String
  | .widget made => made.idsInside
  | .listener _ => []

/-- The ids of the widgets that a target brings into a document. -/
def ids : Target → List String
  | .widget made => made.ids
  | .listener _ => []

end Target

section Rules

variable {target changed : Target}

/-- The attributes of the language leave the ids inside a target as they are. -/
theorem AttributeEffect.idsInside
    {context : AttributeContext}
    {raw : String}
    (keep : context.actions.KeepIds)
    (effect : AttributeEffect context raw target changed) :
    changed.idsInside = target.idsInside := by
  cases effect with
  | writes _ sameBody =>
      exact congrArg (List.flatMap Widget.ids) sameBody.children
  | runs widget _ found =>
      exact (keep _ _ found widget).2
  | listens | fills =>
      rfl

/-- A label has no id. -/
theorem ids_label
    (text : String) :
    (Widget.label text).ids = [] := by
  rw [Widget.ids_eq]
  rfl

theorem idsInside_of_content
    {widget changed : Widget}
    {added : List Widget}
    (holds : changed.children = widget.children ++ added) :
    changed.idsInside = widget.idsInside ++ added.flatMap Widget.ids := by
  unfold Widget.idsInside
  rw [holds, List.flatMap_append]

namespace TagRule

/-- The tags of the language take in text without ids. -/
theorem TextEffect.idsInside
    {text : String}
    {explicit : Bool}
    (effect : TextEffect text explicit target changed) :
    changed.idsInside = target.idsInside := by
  cases effect with
  | labels widget _ _ children =>
      have noIds (lines : List String) : (lines.map Widget.label).flatMap Widget.ids = [] :=
        List.flatMap_eq_nil_iff.2 (List.forall_mem_map.2 fun line _ => ids_label line)
      refine (idsInside_of_content children).trans ?_
      rw [noIds, List.append_nil]
      rfl
  | names | letters | ignored =>
      rfl

/-- The tags of the language make targets that hold nothing yet. -/
theorem IsStandard.idsInside_create
    {rule : TagRule}
    (isStandard : rule.IsStandard)
    {blueprint : Blueprint}
    {target : Target}
    (made : rule.create blueprint = .ok target) :
    target.idsInside = [] := by
  cases isStandard with
  | ofEvent event =>
      cases made
      rfl
  | ofKind kind =>
      obtain ⟨range, _, rfl⟩ := createOfKind_eq_ok made
      cases kind <;> rfl

/-- A finished tag that is taken in brings its ids behind those that are inside already. -/
theorem TakingEffect.idsInside
    {taken : Target}
    (effect : TakingEffect taken target changed) :
    changed.idsInside = target.idsInside ++ taken.ids := by
  cases effect with
  | widget child widget _ children =>
      exact (idsInside_of_content children).trans
        (congrArg (widget.idsInside ++ ·) (List.flatMap_singleton _ _))
  | listener listener widget =>
      exact (List.append_nil _).symm

end TagRule

end Rules

end WidgetMarkup
