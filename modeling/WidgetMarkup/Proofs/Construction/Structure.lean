import WidgetMarkup.Proofs.Construction.SketchEffects

namespace WidgetMarkup

open Markup

/-!
# Building keeps the structure of forests

What is built of a node is what the node plans: no widget and no listener is lost, doubled or moved,
whatever the way in which a widget holds others. The steps of building are followed on sketches, and
each of them adds to a sketch what the plan has next.
-/

variable {β : Type} {look : Option String → β}

namespace TargetSketch

/-- The sketch of a target with what others bring that it takes in; a listener takes in nothing. -/
def taking? (made : List (TargetSketch β)) : TargetSketch β → Option (TargetSketch β)
  | .widget sketch =>
      some (.widget (sketch.extend (made.filterMap listener?) (made.filterMap widget?)))
  | .listener own => if made.isEmpty then some (.listener own) else none

theorem taking?_nil
    (sketch : TargetSketch β) :
    sketch.taking? [] = some sketch := by
  cases sketch with
  | widget sketch =>
      exact congrArg (some ∘ widget) sketch.extend_nil
  | listener own =>
      rfl

end TargetSketch

/-- A widget that takes something in has it behind all else, each sort in its place. -/
theorem TagRule.TakingEffect.sketch
    {taken target changed : Target}
    (effect : TakingEffect taken target changed)
    (rest : List (TargetSketch β)) :
    (target.sketch look).taking? (taken.sketch look :: rest) =
      (changed.sketch look).taking? rest := by
  cases effect with
  | widget child widget shape children =>
      dsimp only [Target.sketch, TargetSketch.taking?]
      rw [Widget.sketch_holding look shape children, Sketch.extend_extend]
      rfl
  | listener listener widget =>
      dsimp only [Target.sketch, TargetSketch.taking?]
      rw [Widget.sketch_listening, Sketch.extend_extend]
      rfl

/-- The sketch of a target that is closed: the action of a listener is looked up by its name. -/
def TargetSketch.closed : TargetSketch β → TargetSketch β
  | .widget sketch => .widget sketch
  | .listener own => .listener { own with action := own.action.map Actions.bareName }

theorem Assembly.ClosingEffect.sketch
    {actions : Actions}
    (keep : actions.KeepSketches look)
    {openIds ids ids' : List String}
    {target closed : Target}
    (effect : ClosingEffect actions openIds ids ids' target closed) :
    closed.sketch look = (target.sketch look).closed := by
  cases effect with
  | @widget widget changed _ _ runs =>
      refine congrArg TargetSketch.widget ?_
      exact runs.keeps (fun other => other.sketch look = widget.sketch look)
        (fun name action other found same => (keep name action found other).trans same) rfl
  | listener listener _ named =>
      dsimp only [Target.sketch, TargetSketch.closed]
      rw [named, Option.map_some]

namespace Interpreter

variable {interpreter : Interpreter}

/-- What is built of a node is what it plans. -/
theorem buildSteps_plan
    (standard : interpreter.vocabulary = .standard)
    (strictTags : interpreter.settings.unknownTags = .fail)
    (strictAttributes : interpreter.settings.unknownAttributes = .fail)
    (keep : interpreter.actions.KeepSketches look) :
    interpreter.BuildSteps
      (fun _ node _ built _ =>
        ∃ target, built = some target ∧
          node.plan? look interpreter.settings.separator = some (target.sketch look))
      (fun _ target nodes _ filled _ =>
        ∃ made, Node.planAll? look interpreter.settings.separator nodes = some made ∧
          (target.sketch look).taking? made = some (filled.sketch look)) where
  leftOut lenient := by
    rw [strictTags] at lenient
    cases lenient
  closes found _ begins children closing := by
    obtain ⟨made, planned, taken⟩ := children
    refine ⟨_, rfl, ?_⟩
    rw [Node.plan?_eq, planned, Option.bind_some, closing.sketch keep]
    rw [standard] at found
    obtain ⟨kind, isKind, rfl⟩ | ⟨event, noKind, isEvent, rfl⟩ :=
      Vocabulary.ofTag?_of_tag?_standard found
    · rw [begins.sketch_ofKind standard strictAttributes keep] at taken
      rw [isKind, ← Option.some.inj taken]
      rfl
    · rw [begins.sketch_ofEvent standard strictAttributes keep, TargetSketch.taking?] at taken
      rw [noKind, isEvent]
      split at taken
      · rename_i isEmpty
        rw [← Option.some.inj taken]
        dsimp only
        rw [if_pos isEmpty]
        rfl
      · cases taken
  nil _ target _ := ⟨[], rfl, TargetSketch.taking?_nil _⟩
  skips first _ := by
    obtain ⟨_, ⟨⟩, _⟩ := first
  takes first taking rest := by
    obtain ⟨_, ⟨⟩, isFirst⟩ := first
    obtain ⟨made, planned, taken⟩ := rest
    refine ⟨_ :: made, ?_, (taking.sketch made).trans taken⟩
    rw [Node.planAll?, isFirst, planned]
    rfl

/-- A root adds to the roots before it what its node plans. -/
theorem RootEffect.sketches
    {target : Target}
    {roots placed : List Widget}
    (effect : RootEffect target roots placed)
    {made : List (TargetSketch β)}
    (gathered : TargetSketch.gatherRoots made = roots.reverse.map (Widget.sketch look)) :
    TargetSketch.gatherRoots (made ++ [target.sketch look]) =
      placed.reverse.map (Widget.sketch look) := by
  cases effect with
  | widget widget roots =>
      rw [List.reverse_cons, List.map_append, ← gathered]
      exact TargetSketch.gatherRoots_append_widget made _
  | listener listener previous others =>
      rw [List.reverse_cons, List.map_append] at gathered ⊢
      refine (TargetSketch.gatherRoots_append_listener gathered listener).trans ?_
      rw [← Widget.sketch_listening]
      rfl

/-- Whether roots, the newest first, are what the nodes of a forest before some others plan. -/
def RootsPlanned
    (look : Option String → β)
    (separator : Char)
    (nodes rest : List Node)
    (roots : List Widget) :
    Prop :=
  ∃ done made,
    nodes = done ++ rest ∧
      Node.planAll? look separator done = some made ∧
      TargetSketch.gatherRoots made = roots.reverse.map (Widget.sketch look)

theorem RootsPlanned.place
    {separator : Char}
    {nodes rest : List Node}
    {node : Node}
    {target : Target}
    {roots placed : List Widget}
    (isPlanned : RootsPlanned look separator nodes (node :: rest) roots)
    (isNext : node.plan? look separator = some (target.sketch look))
    (effect : RootEffect target roots placed) :
    RootsPlanned look separator nodes rest placed := by
  obtain ⟨done, made, isAll, planned, gathered⟩ := isPlanned
  refine ⟨_, _, ?_, Node.planAll?_append planned isNext, effect.sketches gathered⟩
  rw [isAll, List.append_assoc]
  rfl

/--
The structure of documents: in strict mode, with the vocabulary of the language and actions that
keep the structure of widgets as far as it is seen, the roots of a document are what its forest
plans, and it has one widget for each node that makes no listener and one for each label that is
made from a text.
-/
theorem sketches_of_runConstruction
    {β : Type}
    (look : Option String → β)
    (interpreter : Interpreter)
    (standard : interpreter.vocabulary = .standard)
    (strictTags : interpreter.settings.unknownTags = .fail)
    (strictAttributes : interpreter.settings.unknownAttributes = .fail)
    (keep : interpreter.actions.KeepSketches look)
    (journal : Journal)
    (nodes : List Node)
    (document : Document)
    (ran : (interpreter.runConstruction journal nodes).result = .ok document) :
    (Node.planAll? look interpreter.settings.separator nodes).map TargetSketch.gatherRoots =
        some (document.roots.map (Widget.sketch look)) ∧
      document.count =
        (Node.makersAll nodes).length +
          ((Node.makersAll nodes).flatMap Node.allLabelTexts).length := by
  let separator := interpreter.settings.separator
  obtain ⟨done, made, isAll, planned, gathered⟩ :
      RootsPlanned look separator nodes [] document.roots.reverse := by
    refine runConstruction_eq_ok standard
      (buildSteps_plan standard strictTags strictAttributes keep)
      (fun rest roots _ => RootsPlanned look separator nodes rest roots)
      (fun _ first => ?_) (fun isPlanned first placed => ?_) ⟨[], [], rfl, rfl, rfl⟩ ran
    · obtain ⟨_, ⟨⟩, _⟩ := first
    · obtain ⟨_, ⟨⟩, isNext⟩ := first
      exact isPlanned.place isNext placed
  rw [List.append_nil] at isAll
  rw [List.reverse_reverse] at gathered
  subst isAll
  refine ⟨?roots, ?count⟩
  case roots =>
    rw [planned, Option.map_some, gathered]
  case count =>
    rw [document.count_eq look, ← gathered, TargetSketch.countAll_gatherRoots]
    exact Node.countAll_of_planAll? _ _ planned

/-- A table takes its lines as labels before its children; a listener between the roots belongs to
the one before it. -/
theorem sketches_of_runConstruction_table :
    let hide : Action := { onWidget := fun widget => ({ widget with visible := false }, none) }
    let interpreter : Interpreter :=
      { vocabulary := .standard, actions := ({} : Actions).insert "hide" hide }
    let nodes : List Node :=
      [ { name := "table"
          attributes := [⟨"change", "hide"⟩, ⟨"onClose", "hide"⟩]
          children :=
            [{ name := "onChange", text := "$hide" }, { name := "label", text := "three" }]
          text := "one\ntwo" },
        { name := "onClick", attributes := [⟨"action", "hide"⟩] },
        { name := "stack" } ]
    interpreter.actions.KeepSketches id ∧
      ∃ document,
        (interpreter.runConstruction {} nodes).result = .ok document ∧
          (document.roots.map fun root =>
              (root.kind, root.children.map Widget.text, root.listeners.map Listener.event)) =
            [(.table, [some "one", some "two", some "three"], [.change, .change, .click]),
              (.stack, [], [])] ∧
          (Node.planAll? id ';' nodes).map TargetSketch.gatherRoots =
            some (document.roots.map (Widget.sketch id)) ∧
          document.count = 5 := by
  intro hide interpreter nodes
  have keep : interpreter.actions.KeepSketches id := by
    intro name action found widget
    rw [Actions.eq_of_find?_insert found, Widget.sketch_eq, Widget.sketch_eq id widget]
    rfl
  have built :
      (interpreter.runConstruction {} nodes).result.toOption.map (fun document =>
        document.roots.map fun root =>
          (root.kind, root.children.map Widget.text, root.listeners.map Listener.event)) =
        some
          [(.table, [some "one", some "two", some "three"], [.change, .change, .click]),
            (.stack, [], [])] := by
    decide +kernel
  have planned :
      (Node.makersAll nodes).length +
        ((Node.makersAll nodes).flatMap Node.allLabelTexts).length = 5 := by
    decide +kernel
  obtain ⟨document, ran, seen⟩ := Run.exists_ok_of_seen built
  obtain ⟨sketches, count⟩ :=
    sketches_of_runConstruction id interpreter rfl rfl rfl keep {} nodes document ran
  exact ⟨keep, document, ran, seen, sketches, count.trans planned⟩

end Interpreter

end WidgetMarkup
