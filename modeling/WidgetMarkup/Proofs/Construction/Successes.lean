import WidgetMarkup.Proofs.Construction.Beginnings
import WidgetMarkup.Run

namespace WidgetMarkup

open Markup

/-!
# Successful building

What holds of every tag that is built is shown from its steps: the tag is begun, takes in what was
built inside it, and is closed. The induction over forests is done here once. What is shown is about
targets and ids alone, since nothing else that building keeps track of outlasts it.
-/

/-- A run of which something is seen has given a result. -/
theorem Run.exists_ok_of_seen
    {α γ : Type}
    {run : Run α}
    {view : α → γ}
    {seen : γ}
    (isSeen : run.result.toOption.map view = some seen) :
    ∃ value, run.result = .ok value ∧ view value = seen := by
  cases ran : run.result with
  | error problem =>
      rw [ran] at isSeen
      cases isSeen
  | ok value =>
      rw [ran] at isSeen
      exact ⟨value, rfl, Option.some.inj isSeen⟩

/-- The id of the widget that a target is. -/
def Target.id? (target : Target) : Option String :=
  target.widget?.bind Widget.id

section Steps

variable {register register' : Register}

/-- A finished tag is taken in as the rule of the tag around it says. -/
theorem Assembly.attach_eq_ok
    {assembly next : Assembly}
    {target : Target}
    {child : ClosedTag}
    (made : assembly.Made (· = target))
    (ran : Registration.work assembly (attach child) register = .ok next register') :
    register'.ids = register.ids ∧
      ∃ changed, TagRule.TakingEffect child.target target changed ∧ next.Made (· = changed) := by
  obtain ⟨isStandard, _, isMade, rfl⟩ := made
  obtain ⟨sameIds, _, target, changed, rfl, made, taken, rfl⟩ :=
    Registration.work_eq_ok _ (leads_attach (· = assembly) child) ran rfl
  cases made.symm.trans isMade
  exact ⟨sameIds, changed, .of_taking isStandard taken, isStandard, changed, rfl, rfl⟩

end Steps

namespace Interpreter

variable {interpreter : Interpreter} {register register' : Register}

theorem admitTag_eq_ok
    {path : TagPath}
    {node : Node}
    {admitted : Option TagRule}
    (ran : interpreter.admitTag path node register = .ok admitted register') :
    register'.ids = register.ids ∧
      interpreter.vocabulary.tag? node.name = admitted ∧
      (admitted = none → interpreter.settings.unknownTags = .warn) := by
  unfold admitTag at ran
  split at ran
  · cases ran
  · cases found : interpreter.vocabulary.tag? node.name with
    | some rule =>
        rw [found] at ran
        cases ran
        exact ⟨rfl, rfl, nofun⟩
    | none =>
        rw [found] at ran
        cases strictness : interpreter.settings.unknownTags with
        | fail =>
            rw [strictness] at ran
            cases ran
        | warn =>
            rw [strictness] at ran
            cases ran
            exact ⟨rfl, rfl, fun _ => rfl⟩

/--
The steps of building: what is shown of a tag that is built with some ids open and some registered,
and of the tags that are built inside another one, follows from the steps that were taken.
-/
structure BuildSteps
    (interpreter : Interpreter)
    (tag : List String → Node → List String → Option Target → List String → Prop)
    (inside : List String → Target → List Node → List String → Target → List String → Prop) :
    Prop where
  leftOut :
    ∀ {openIds node ids},
      interpreter.settings.unknownTags = .warn → tag openIds node ids none ids
  closes :
    ∀ {openIds node rule inTable ids target filled ids' closed ids''},
      interpreter.vocabulary.tag? node.name = some rule →
        rule.IsStandard →
        interpreter.Begins rule inTable node target →
        inside (openIds ++ target.id?.toList) target node.children ids filled ids' →
        Assembly.ClosingEffect interpreter.actions openIds ids' ids'' filled closed →
        tag openIds node ids (some closed) ids''
  nil :
    ∀ openIds target ids, inside openIds target [] ids target ids
  skips :
    ∀ {openIds target node rest ids ids' filled ids''},
      tag openIds node ids none ids' →
        inside openIds target rest ids' filled ids'' →
        inside openIds target (node :: rest) ids filled ids''
  takes :
    ∀ {openIds target node rest ids closed ids' changed filled ids''},
      tag openIds node ids (some closed) ids' →
        TagRule.TakingEffect closed target changed →
        inside openIds changed rest ids' filled ids'' →
        inside openIds target (node :: rest) ids filled ids''

namespace BuildSteps

variable
  {tag : List String → Node → List String → Option Target → List String → Prop}
  {inside : List String → Target → List Node → List String → Target → List String → Prop}

/-- A tag is as its steps make it if its children are. -/
theorem tag_of_inside
    (standard : interpreter.vocabulary = .standard)
    (steps : interpreter.BuildSteps tag inside)
    {node : Node}
    (children :
      ∀ path openIds cells assembly target filled register register',
        assembly.Made (· = target) →
          interpreter.buildChildren path openIds cells assembly node.children register =
            .ok filled register' →
          ∃ changed, filled.Made (· = changed) ∧
            inside openIds target node.children register.ids changed register'.ids)
    {parent : TagPath}
    {openIds : List String}
    {cells : Option CellProperties}
    {built : Option ClosedTag}
    (ran : interpreter.buildTag parent openIds cells node register = .ok built register') :
    tag openIds node register.ids (built.map ClosedTag.target) register'.ids := by
  rw [buildTag_eq] at ran
  obtain ⟨admitted, between, admitting, ran⟩ := bind_eq_ok ran
  obtain ⟨sameIds, found, lenient⟩ := admitTag_eq_ok admitting
  rw [← sameIds]
  cases admitted with
  | none =>
      cases ran
      exact steps.leftOut (lenient rfl)
  | some rule =>
      obtain ⟨closed, _, building, ran⟩ := bind_eq_ok ran
      cases ran
      obtain ⟨begun, _, began, building⟩ := bind_eq_ok building
      obtain ⟨filled, _, filling, building⟩ := bind_eq_ok building
      obtain ⟨finished, _, finishing, closing⟩ := bind_eq_ok building
      cases finishing
      have isStandard : rule.IsStandard :=
        Vocabulary.hasStandardRules_standard.tags _ rule (standard ▸ found)
      obtain ⟨beginIds, stillStandard, target, made, begins⟩ :=
        beginTag_eq_ok standard isStandard began
      obtain ⟨changed, ⟨_, _, isChanged, rfl⟩, isFilled⟩ :=
        children _ _ _ _ _ _ _ _ ⟨stillStandard, target, made, rfl⟩ filling
      obtain ⟨_, isLast, closes⟩ := Assembly.close_eq_ok closing
      cases isLast.symm.trans isChanged
      have sameId : begun.id? = target.id? := by
        unfold Assembly.id? Target.id?
        rw [made, Option.bind_some]
      rw [beginIds, sameId] at isFilled
      exact steps.closes found isStandard begins isFilled closes

mutual

/-- What follows from the steps of building holds of every tag that is built. -/
theorem tag_of_buildTag
    (standard : interpreter.vocabulary = .standard)
    (steps : interpreter.BuildSteps tag inside) :
    ∀ node parent openIds cells built register register',
      interpreter.buildTag parent openIds cells node register = .ok built register' →
        tag openIds node register.ids (built.map ClosedTag.target) register'.ids
  | ⟨_, _, _, children, _, _⟩, _, _, _, _, _, _, ran =>
      steps.tag_of_inside standard (inside_of_buildChildren standard steps children) ran

/-- What follows from the steps of building holds of all that is built inside a tag. -/
theorem inside_of_buildChildren
    (standard : interpreter.vocabulary = .standard)
    (steps : interpreter.BuildSteps tag inside) :
    ∀ nodes path openIds cells assembly target filled register register',
      assembly.Made (· = target) →
        interpreter.buildChildren path openIds cells assembly nodes register =
          .ok filled register' →
        ∃ changed, filled.Made (· = changed) ∧
          inside openIds target nodes register.ids changed register'.ids
  | [], _, openIds, _, assembly, target, _, register, _, made, ran => by
      cases ran
      exact ⟨target, made, steps.nil openIds target register.ids⟩
  | node :: rest, path, openIds, cells, assembly, target, filled, register, register', made,
      ran => by
      rw [buildChildren] at ran
      obtain ⟨built, between, first, ran⟩ := bind_eq_ok ran
      have isTag := tag_of_buildTag standard steps node _ _ _ _ _ _ first
      cases built with
      | none =>
          obtain ⟨changed, isFilled, others⟩ :=
            inside_of_buildChildren standard steps rest _ _ _ _ _ _ _ _ made ran
          exact ⟨changed, isFilled, steps.skips isTag others⟩
      | some closed =>
          obtain ⟨next, attached, attaching, ran⟩ := bind_eq_ok ran
          obtain ⟨sameIds, between, takes, made⟩ := Assembly.attach_eq_ok made attaching
          obtain ⟨changed, isFilled, others⟩ :=
            inside_of_buildChildren standard steps rest _ _ _ _ _ _ _ _ made ran
          exact ⟨changed, isFilled, steps.takes isTag takes (sameIds ▸ others)⟩

end

end BuildSteps

/-- What the roots so far, the newest first, become by one more target. -/
inductive RootEffect : Target → List Widget → List Widget → Prop where
  | widget
      (widget : Widget)
      (roots : List Widget) :
      RootEffect (.widget widget) roots (widget :: roots)
  | listener
      (listener : Listener)
      (previous : Widget)
      (others : List Widget) :
      RootEffect (.listener listener) (previous :: others)
        ({ previous with listeners := previous.listeners ++ [listener] } :: others)

theorem RootEffect.of_placeRoot
    {node : Node}
    {closed : ClosedTag}
    {roots placed : List Widget}
    (isPlaced : placeRoot node closed roots = .ok placed) :
    RootEffect closed.target roots placed := by
  unfold placeRoot at isPlaced
  cases made : closed.target with
  | widget widget =>
      rw [made] at isPlaced
      cases isPlaced
      exact .widget widget roots
  | listener listener =>
      rw [made] at isPlaced
      cases roots with
      | nil =>
          cases isPlaced
      | cons previous others =>
          cases isPlaced
          exact .listener listener previous others

section Roots

variable
  {tag : List String → Node → List String → Option Target → List String → Prop}
  {inside : List String → Target → List Node → List String → Target → List String → Prop}

/-- What holds of the roots so far and the nodes that are left, and is kept by every root, holds of
all roots in the end. -/
theorem buildRoots_eq_ok
    (standard : interpreter.vocabulary = .standard)
    (steps : interpreter.BuildSteps tag inside)
    (holds : List Node → List Widget → List String → Prop)
    (skips :
      ∀ {node rest roots ids ids'},
        holds (node :: rest) roots ids → tag [] node ids none ids' → holds rest roots ids')
    (places :
      ∀ {node rest roots ids target ids' next},
        holds (node :: rest) roots ids → tag [] node ids (some target) ids' →
          RootEffect target roots next → holds rest next ids')
    {nodes : List Node}
    {roots widgets : List Widget}
    (before : holds nodes roots register.ids)
    (ran : interpreter.buildRoots roots nodes register = .ok widgets register') :
    holds [] widgets.reverse register'.ids := by
  induction nodes generalizing roots register with
  | nil =>
      cases ran
      exact (List.reverse_reverse roots).symm ▸ before
  | cons node rest inductionHypothesis =>
      rw [buildRoots] at ran
      obtain ⟨built, between, first, ran⟩ := bind_eq_ok ran
      have isTag := steps.tag_of_buildTag standard _ _ _ _ _ _ _ first
      cases built with
      | none =>
          exact inductionHypothesis (skips before isTag) ran
      | some closed =>
          dsimp only at ran
          cases placed : placeRoot node closed roots with
          | error problem =>
              rw [placed] at ran
              cases ran
          | ok next =>
              rw [placed] at ran
              exact inductionHypothesis (places before isTag (.of_placeRoot placed)) ran

/-- What holds of no roots and is kept by every root holds of a document that is built. -/
theorem runConstruction_eq_ok
    (standard : interpreter.vocabulary = .standard)
    (steps : interpreter.BuildSteps tag inside)
    (holds : List Node → List Widget → List String → Prop)
    (skips :
      ∀ {node rest roots ids ids'},
        holds (node :: rest) roots ids → tag [] node ids none ids' → holds rest roots ids')
    (places :
      ∀ {node rest roots ids target ids' next},
        holds (node :: rest) roots ids → tag [] node ids (some target) ids' →
          RootEffect target roots next → holds rest next ids')
    {journal : Journal}
    {nodes : List Node}
    {document : Document}
    (before : holds nodes [] [])
    (ran : (interpreter.runConstruction journal nodes).result = .ok document) :
    holds [] document.roots.reverse document.ids := by
  unfold runConstruction build at ran
  cases built : interpreter.buildRoots [] nodes { journal } with
  | error problem register =>
      simp only [bind, EStateM.bind, built] at ran
      cases ran
  | ok widgets register =>
      simp only [bind, EStateM.bind, built] at ran
      cases ran
      exact buildRoots_eq_ok standard steps holds skips places before built

end Roots

end Interpreter

end WidgetMarkup
