import WidgetMarkup.Proofs.Construction.Successes
import WidgetMarkup.Proofs.Expansion.OutputSize

namespace WidgetMarkup

open Markup

/-!
# Documents of widgets that fit their kinds

Attributes are found along the ancestry of a kind, so none reaches a widget that cannot have what it
writes; text and children are taken in as the content of the kind allows. So all widgets of a
document fit their kinds, those that were made from text included.
-/

/-- Whether all registered actions leave widgets as they are. -/
def Actions.LeaveWidgets (actions : Actions) : Prop :=
  ∀ name action, actions.find? name = some action →
    ∀ widget : Widget, (action.onWidget widget).1 = widget

namespace Target

/-- Whether all widgets that a target brings into a document fit their kinds. -/
def AllFit : Target → Prop
  | .widget made => made.AllFit
  | .listener _ => True

end Target

namespace Widget

/-- A widget that holds what another one does and fits its kind is as fit as the other. -/
theorem AllFit.of_children
    {widget changed : Widget}
    {added : List Widget}
    (holds : widget.AllFit)
    (children : changed.children = widget.children ++ added)
    (fit : ∀ child ∈ added, child.AllFit)
    (fits : changed.FitsKind) :
    changed.AllFit := by
  rw [allFit_iff, children, List.forall_mem_append]
  exact ⟨⟨(allFit_iff.1 holds).1, fit⟩, fits⟩

/-- What a change of properties keeps fit stays fit with all that is inside. -/
theorem AllFit.of_fits
    {widget changed : Widget}
    (holds : widget.AllFit)
    (children : changed.children = widget.children)
    (fits : widget.FitsKind → changed.FitsKind) :
    changed.AllFit :=
  holds.of_children (children.trans (List.append_nil _).symm) (List.forall_mem_nil _)
    (fits (allFit_iff.1 holds).2)

theorem allFit_label
    (text : String) :
    (label text).AllFit :=
  allFit_iff.2 ⟨List.forall_mem_nil _, fitsKind_label text⟩

end Widget

section Effects

variable {target changed : Target}

theorem AttributeEffect.allFit
    {context : AttributeContext}
    {raw : String}
    (leave : context.actions.LeaveWidgets)
    (effect : AttributeEffect context raw target changed)
    (holds : target.AllFit) :
    changed.AllFit := by
  cases effect with
  | writes _ sameBody fits =>
      exact Widget.AllFit.of_fits holds sameBody.children fits
  | listens widget =>
      exact Widget.AllFit.of_fits holds rfl fun fits => { fits with }
  | runs widget _ found =>
      exact (congrArg Widget.AllFit (leave _ _ found widget)).mpr holds
  | fills =>
      trivial

namespace TagRule

theorem TextEffect.allFit
    {text : String}
    {explicit : Bool}
    (effect : TextEffect text explicit target changed)
    (holds : target.AllFit) :
    changed.AllFit := by
  cases effect with
  | letters widget bearsText =>
      exact Widget.AllFit.of_fits holds rfl fun fits => { fits with text := fun _ => bearsText }
  | labels widget _ shape children =>
      refine Widget.AllFit.of_children holds children
        (List.forall_mem_map.2 fun line _ => Widget.allFit_label line) ?_
      have fits := (Widget.allFit_iff.1 holds).2
      exact { fits with content := shape.trans fits.content }
  | ignored =>
      exact holds
  | names =>
      trivial

theorem TakingEffect.allFit
    {taken : Target}
    (effect : TakingEffect taken target changed)
    (isFit : taken.AllFit)
    (holds : target.AllFit) :
    changed.AllFit := by
  cases effect with
  | widget child widget shape children =>
      refine Widget.AllFit.of_children holds children (List.forall_mem_singleton.2 isFit) ?_
      have fits := (Widget.allFit_iff.1 holds).2
      exact { fits with content := shape.trans fits.content }
  | listener listener widget =>
      exact Widget.AllFit.of_fits holds rfl fun fits => { fits with }

/-- A widget is made with those of its blueprint's properties that its kind can have. -/
theorem IsStandard.allFit_create
    {rule : TagRule}
    (isStandard : rule.IsStandard)
    {blueprint : Blueprint}
    (made : rule.create blueprint = .ok target) :
    target.AllFit := by
  cases isStandard with
  | ofEvent event =>
      cases made
      trivial
  | ofKind kind =>
      obtain ⟨range, ranged, rfl⟩ := createOfKind_eq_ok made
      refine Widget.allFit_iff.2 ⟨?children, Widget.fitsKind_made ?text ranged ?vertical⟩
      case children =>
        cases kind <;> exact List.forall_mem_nil _
      case text =>
        intro given
        split at given
        · assumption
        · cases given
      case vertical =>
        intro turned
        exact (Bool.and_eq_true_iff.1 turned).1

end TagRule

end Effects

theorem Assembly.ClosingEffect.allFit
    {actions : Actions}
    (leave : actions.LeaveWidgets)
    {openIds ids ids' : List String}
    {target closed : Target}
    (effect : ClosingEffect actions openIds ids ids' target closed)
    (holds : target.AllFit) :
    closed.AllFit := by
  cases effect with
  | widget _ _ runs =>
      refine runs.keeps Widget.AllFit (fun name action widget found isFit => ?_) holds
      exact (leave name action found widget).symm ▸ isFit
  | listener =>
      trivial

namespace Interpreter

variable {interpreter : Interpreter}

theorem keepsTargets_allFit
    (leave : interpreter.actions.LeaveWidgets) :
    interpreter.KeepsTargets Target.AllFit where
  create isStandard made := isStandard.allFit_create made
  apply effect holds := effect.allFit leave holds
  takeText effect holds := effect.allFit holds

/-- All that is built fits its kinds, a tag with all that is inside it. -/
theorem buildSteps_allFit
    (leave : interpreter.actions.LeaveWidgets) :
    interpreter.BuildSteps
      (fun _ _ _ built _ => ∀ target, built = some target → target.AllFit)
      (fun _ target _ _ filled _ => target.AllFit → filled.AllFit) where
  leftOut _ := nofun
  closes _ isStandard begins children closing := by
    rintro _ ⟨⟩
    exact closing.allFit leave
      (children (begins.keeps (keepsTargets_allFit leave) isStandard))
  nil _ _ _ := id
  skips _ rest := rest
  takes first taking rest holds := rest (taking.allFit (first _ rfl) holds)

theorem RootEffect.allFit
    {target : Target}
    {roots placed : List Widget}
    (effect : RootEffect target roots placed)
    (isFit : target.AllFit)
    (holds : ∀ root ∈ roots, root.AllFit) :
    ∀ root ∈ placed, root.AllFit := by
  cases effect with
  | widget widget roots =>
      exact List.forall_mem_cons.2 ⟨isFit, holds⟩
  | listener listener previous others =>
      obtain ⟨isPrevious, isOthers⟩ := List.forall_mem_cons.1 holds
      refine List.forall_mem_cons.2 ⟨?_, isOthers⟩
      exact isPrevious.of_fits rfl fun fits => { fits with }

/--
Conformance to kinds: with the vocabulary of the language and actions that leave widgets as they
are, every widget of a document has only properties that its kind can have, and holds others as a
fresh widget of its kind does.
-/
theorem fitsKind_of_runWithin
    (interpreter : Interpreter)
    (standard : interpreter.vocabulary = .standard)
    (leave : interpreter.actions.LeaveWidgets)
    (imports : List String)
    (source : String)
    (document : Document)
    (ran : (interpreter.runWithin imports source).result = .ok document) :
    ∀ widget ∈ document.widgets, widget.FitsKind := by
  obtain ⟨nodes, expanded, scope, journal, _, _, construction⟩ :=
    exists_construction_of_runWithin ran
  rw [construction] at ran
  have fit : ∀ root ∈ document.roots.reverse, root.AllFit := by
    refine runConstruction_eq_ok standard (buildSteps_allFit leave)
      (fun _ roots _ => ∀ root ∈ roots, root.AllFit)
      (fun holds _ => holds) (fun holds first placed => ?_) (List.forall_mem_nil _) ran
    exact placed.allFit (first _ rfl) holds
  intro widget member
  obtain ⟨root, isRoot, inTree⟩ := List.mem_flatMap.1 member
  exact fit root (List.mem_reverse.2 isRoot) widget inTree

/-- A window has a title and may be modal; labels that are made from a text fit their kind too. -/
theorem fitsKind_of_runWithin_window :
    let interpreter : Interpreter :=
      { vocabulary := .standard, actions := ({} : Actions).insert "wait" {} }
    let source :=
      "<window title=\"Top\" modal=\"true\" onCreate=\"wait\"><group>one\ntwo</group></window>"
    interpreter.actions.LeaveWidgets ∧
      ∃ document,
        (interpreter.runWithin [] source).result = .ok document ∧
          document.widgets.map Widget.kind = [.label, .label, .group, .window] ∧
          document.roots.map Widget.modal = [true] ∧
          ∀ widget ∈ document.widgets, widget.FitsKind := by
  intro interpreter source
  have leave : interpreter.actions.LeaveWidgets := by
    intro name action found widget
    rw [Actions.eq_of_find?_insert found]
  have built :
      (interpreter.runWithin [] source).result.toOption.map (fun document =>
        (document.widgets.map Widget.kind, document.roots.map Widget.modal)) =
          some ([.label, .label, .group, .window], [true]) := by
    decide +kernel
  obtain ⟨document, ran, seen⟩ := Run.exists_ok_of_seen built
  obtain ⟨kinds, modals⟩ := Prod.mk.inj seen
  exact ⟨leave, document, ran, kinds, modals,
    fitsKind_of_runWithin interpreter rfl leave [] source document ran⟩

end Interpreter

end WidgetMarkup
